/-!
# Entries

Values with names, each name once, in the order in which they have come.

* `setEntry`: the entries with another value of a name.
* `eraseEntry`: the entries without a name.
-/

namespace Weblog

variable {α : Type}

/-- The entries with another value of a name; a new name comes last. -/
def setEntry (name : String) (value : α) : List (String × α) → List (String × α)
  | [] => [(name, value)]
  | (n, v) :: rest => if n = name then (name, value) :: rest else (n, v) :: setEntry name value rest

def eraseEntry (name : String) (entries : List (String × α)) : List (String × α) :=
  entries.filter (·.1 != name)

end Weblog
