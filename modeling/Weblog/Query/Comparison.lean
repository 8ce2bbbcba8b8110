import Weblog.Query.Clause
import Weblog.Query.Value
import Weblog.Calendar.Instant
import Weblog.Text.LowerCase
/-!
# Comparisons

A value and a literal are compared as numbers if both are numbers, as instants if both are instants,
and otherwise as texts. Two texts are equal if they differ in letter case only, but their order
depends on the case.

* `Domain`: how two operands are compared.
* `Operands.of`: the operands of a comparison.
* `compare`: **whether a value and a literal satisfy an operator**. An absent value never does.
-/

namespace Weblog.Query

open Number Calendar

/-- How two operands are compared. -/
inductive Domain
  | numeric
  | temporal
  | textual
  deriving DecidableEq

/-- Two operands that can be compared. -/
inductive Operands
  | numbers (a b : Binary64)
  | instants (a b : Int)
  | texts (a b : String)

namespace Operands

/-- The number of a value: a finite number itself, otherwise the number that its text denotes. -/
def numberOf (value : Value) : Option Binary64 :=
  match value with
  | .number x => if x.isFinite then some x else readNumber value.text
  | _ => readNumber value.text

/-- The operands of a comparison in the first domain that fits both. -/
def of (value : Value) (literal : String) : Operands :=
  match numberOf value, readNumber literal with
  | some a, some b => numbers a b
  | _, _ =>
    match readInstant value.text, readInstant literal with
    | some a, some b => instants a b
    | _, _ => texts value.text literal

def domain : Operands → Domain
  | numbers .. => .numeric
  | instants .. => .temporal
  | texts .. => .textual

/-- The order of the operands, if they have one. -/
def order : Operands → Option Ordering
  | numbers a b => a.order b
  | instants a b => some (Ord.compare a b)
  | texts a b => some (Ord.compare a b)

def areEqual : Operands → Bool
  | texts a b => Text.lower a == Text.lower b
  | operands => operands.order == some .eq

/-- Whether the operands stand in the relation of an operator. -/
def satisfy (operands : Operands) : Operator → Bool
  | .equal => operands.areEqual
  | .greater => operands.order.any (·.isGT)
  | .atLeast => operands.order.any (·.isGE)
  | .less => operands.order.any (·.isLT)
  | .atMost => operands.order.any (·.isLE)

end Operands

/-- Whether a value and a literal satisfy an operator. -/
def compare (value : Value) (literal : String) (operator : Operator) : Bool :=
  !value.isAbsent && (Operands.of value literal).satisfy operator

/-- The domain in which a value and a literal are compared; an absent value has none. -/
def domain (value : Value) (literal : String) : Option Domain :=
  if value.isAbsent then none else some (Operands.of value literal).domain

end Weblog.Query
