import Mathlib.Tactic.Common
import Weblog.Json.Document
/-!
# JSON strings read back

A text between quotes is read back, whatever characters it has. Control characters without a letter
of their own come back as code units, all others as characters.

* `quotedPiece`: the piece that a quoted character is read as.
* `scanQuoted_quotedChar`, `scanQuoted_quote`: one character and a whole text.
* `joinPieces_quotedPiece`: the pieces join to the text.
* **`scanString_quote`**: a quoted text is read back, and what follows it is left.
-/

namespace Weblog.Json

/-! ## Characters -/

/-- Whether a character is written as a code unit. -/
def isUnit (c : Char) : Bool :=
  c.toNat < 0x20 && !(['\n', '\r', '\t', '\x08', '\x0c'].contains c)

/-- The piece that a quoted character is read as. -/
def quotedPiece (c : Char) : Piece :=
  if isUnit c then .unit c.toNat else .char c

theorem hexValue_hexDigit : ∀ n < 16, hexValue (hexDigit n) = some n := by decide

theorem codeUnit_hexDigits {n : Nat} (h : n < 0x20) :
    codeUnit '0' '0' (hexDigit (n / 16)) (hexDigit (n % 16)) = some n := by
  have hzero : hexValue '0' = some 0 := by decide
  rw [codeUnit, hzero, hexValue_hexDigit _ (by omega), hexValue_hexDigit _ (by omega)]
  simp only [Option.bind_eq_bind, Option.bind_some, Option.pure_def, Option.some.injEq]
  omega

theorem scanQuoted_escape {letter c : Char} (hletter : letter ≠ 'u')
    (hc : escapedChar letter = some c) (rest : List Char) :
    scanQuoted ('\\' :: letter :: rest) =
      (scanQuoted rest).map fun p => (.char c :: p.1, p.2) := by
  rw [scanQuoted, hc]
  · cases scanQuoted rest <;> rfl
  · intro _ _ _ _ _ h _
    exact hletter h

theorem scanQuoted_unit {n : Nat} (h : n < 0x20) (rest : List Char) :
    scanQuoted ('\\' :: 'u' :: '0' :: '0' :: hexDigit (n / 16) :: hexDigit (n % 16) :: rest) =
      (scanQuoted rest).map fun p => (.unit n :: p.1, p.2) := by
  rw [scanQuoted, codeUnit_hexDigits h]
  cases scanQuoted rest <;> rfl

theorem scanQuoted_char {c : Char} (hq : c ≠ '"') (hb : c ≠ '\\') (hc : ¬ c.toNat < 0x20)
    (rest : List Char) :
    scanQuoted (c :: rest) = (scanQuoted rest).map fun p => (.char c :: p.1, p.2) := by
  rw [scanQuoted, if_neg hc, if_neg hb]
  · cases scanQuoted rest <;> rfl
  · exact hq
  · intros; exact hb ‹_›
  · intros; exact hb ‹_›

/-- **One character is read back.** -/
theorem scanQuoted_quotedChar (c : Char) (rest : List Char) :
    scanQuoted (quotedChar c ++ rest) =
      (scanQuoted rest).map fun p => (quotedPiece c :: p.1, p.2) := by
  unfold quotedChar
  split_ifs with hquote hslash hn hr ht hb hf hcontrol
  · subst hquote; exact scanQuoted_escape (by decide) rfl rest
  · subst hslash; exact scanQuoted_escape (by decide) rfl rest
  · subst hn; exact scanQuoted_escape (by decide) rfl rest
  · subst hr; exact scanQuoted_escape (by decide) rfl rest
  · subst ht; exact scanQuoted_escape (by decide) rfl rest
  · subst hb; exact scanQuoted_escape (by decide) rfl rest
  · subst hf; exact scanQuoted_escape (by decide) rfl rest
  · have hunit : isUnit c = true := by simp [isUnit, hcontrol, hn, hr, ht, hb, hf]
    rw [quotedPiece, if_pos hunit]
    exact scanQuoted_unit hcontrol rest
  · have hunit : isUnit c = false := by simp [isUnit, hcontrol]
    rw [quotedPiece, hunit, if_neg (by decide)]
    exact scanQuoted_char hquote hslash hcontrol rest

/-! ## Texts -/

theorem scanQuoted_quote (text rest : List Char) :
    scanQuoted (text.flatMap quotedChar ++ '"' :: rest) = some (text.map quotedPiece, rest) := by
  induction text with
  | nil => rfl
  | cons c cs ih =>
    rw [List.flatMap_cons, List.append_assoc, scanQuoted_quotedChar, ih]
    rfl

theorem joinPieces_unit {n : Nat} (h : n < 0x20) (rest : List Piece) :
    joinPieces (.unit n :: rest) = (joinPieces rest).map (Char.ofNat n :: ·) := by
  have hleading : isLeading n = false := by simp [isLeading]; omega
  have htrailing : isTrailing n = false := by simp [isTrailing]; omega
  match rest with
  | [] | .char _ :: _ => simp [joinPieces, hleading, htrailing]
  | .unit m :: _ => rw [joinPieces]; simp [hleading, htrailing]

theorem joinPieces_quotedPiece (text : List Char) :
    joinPieces (text.map quotedPiece) = some text := by
  induction text with
  | nil => rfl
  | cons c cs ih =>
    rw [List.map_cons, quotedPiece]
    split_ifs with h
    · have hc : c.toNat < 0x20 := by simp [isUnit] at h; exact h.1
      rw [joinPieces_unit hc, ih, Option.map_some, Char.ofNat_toNat]
    · rw [joinPieces, ih, Option.map_some]

/-- **A quoted text is read back.** -/
theorem scanString_quote (text rest : List Char) :
    scanString (text.flatMap quotedChar ++ '"' :: rest) =
      some (some (String.ofList text), rest) := by
  rw [scanString, scanQuoted_quote, Option.map_some, joinPieces_quotedPiece, Option.map_some]

end Weblog.Json
