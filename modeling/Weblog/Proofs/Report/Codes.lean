import Mathlib.Data.List.Forall2
import Mathlib.Tactic.Common
import Weblog.Report.Style
/-!
# Color codes

A color code is an escape character, an opening bracket and all up to the next `m`. A terminal shows
what is left of a text when its codes are deleted.

* `withoutCodes`: a text without its codes.
* `IsPlain`: a text without the character that begins codes.
* `ShowsAs`: a text with codes shows as another one, whatever follows; `showsAs_self`: a plain text
  shows as itself.
* **`ShowsAs.paint`, `ShowsAs.row`, `ShowsAs.block`**: what is put together from parts shows as what
  is put together from that which the parts show as.
-/

namespace Weblog.Report

def escapeChar : Char := '\x1b'

/-! ## Deleting codes -/

/-- Whether a code stands at the beginning of a text. An escape character that no `m` follows begins
no code. -/
def beginsCode : List Char → Bool
  | c :: '[' :: s => c == escapeChar && s.contains 'm'
  | _ => false

/-- The characters of a text that belong to no code. `inside` tells whether the text begins within
a code. -/
def dropCodes (inside : Bool) : List Char → List Char
  | [] => []
  | c :: s =>
    if inside then dropCodes (c != 'm') s
    else if beginsCode (c :: s) then dropCodes true s
    else c :: dropCodes false s

/-- A text without its color codes. -/
def withoutCodes (s : String) : String :=
  String.ofList (dropCodes false s.toList)

variable {s rest : List Char}

theorem beginsCode_cons_of_ne {c : Char} (h : c ≠ escapeChar) (s : List Char) :
    beginsCode (c :: s) = false := by
  cases s with
  | nil => rfl
  | cons d s =>
    unfold beginsCode
    split
    · rename_i heq
      cases heq
      simp [h]
    · rfl

theorem dropCodes_append (h : escapeChar ∉ s) (rest : List Char) :
    dropCodes false (s ++ rest) = s ++ dropCodes false rest := by
  induction s with
  | nil => rfl
  | cons c s ih =>
    obtain ⟨hc, hs⟩ := not_or.mp (mt List.mem_cons.mpr h)
    rw [List.cons_append, dropCodes, if_neg Bool.false_ne_true,
      beginsCode_cons_of_ne (Ne.symm hc), if_neg Bool.false_ne_true, ih hs, List.cons_append]

theorem dropCodes_inside (h : 'm' ∉ s) (rest : List Char) :
    dropCodes true (s ++ 'm' :: rest) = dropCodes false rest := by
  induction s with
  | nil => rfl
  | cons c s ih =>
    obtain ⟨hc, hs⟩ := not_or.mp (mt List.mem_cons.mpr h)
    have hne : (c != 'm') = true := by simpa using Ne.symm hc
    rw [List.cons_append, dropCodes, if_pos rfl, hne, ih hs]

/-- **A code is deleted**, and what follows it is not touched. -/
theorem dropCodes_code (h : 'm' ∉ s) (rest : List Char) :
    dropCodes false (escapeChar :: '[' :: (s ++ 'm' :: rest)) = dropCodes false rest := by
  have hbegins : beginsCode (escapeChar :: '[' :: (s ++ 'm' :: rest)) = true := by
    simp [beginsCode]
  have hbracket : 'm' ∉ '[' :: s := List.not_mem_cons_of_ne_of_not_mem (by decide) h
  rw [dropCodes, if_neg Bool.false_ne_true, hbegins, if_pos rfl]
  exact dropCodes_inside hbracket rest

/-! ## What a text shows as -/

/-- Whether a text is free of the character that begins codes. -/
def IsPlain (s : String) : Prop := escapeChar ∉ s.toList

instance (s : String) : Decidable (IsPlain s) := inferInstanceAs (Decidable (_ ∉ _))

/-- Whether a text shows as another one, whatever follows them. -/
def ShowsAs (s t : String) : Prop :=
  ∀ rest, dropCodes false (s.toList ++ rest) = t.toList ++ dropCodes false rest

variable {s s' t t' : String}

theorem showsAs_self (h : IsPlain s) : ShowsAs s s :=
  dropCodes_append h

theorem ShowsAs.withoutCodes_eq (h : ShowsAs s t) : withoutCodes s = t := by
  have hs := h []
  rw [List.append_nil, dropCodes, List.append_nil] at hs
  rw [withoutCodes, hs, String.ofList_toList]

theorem ShowsAs.append (h : ShowsAs s t) (h' : ShowsAs s' t') : ShowsAs (s ++ s') (t ++ t') := by
  intro rest
  rw [String.toList_append, String.toList_append, List.append_assoc, h, h', List.append_assoc]

theorem showsAs_escape (code : Nat) : ShowsAs (escape code) "" := by
  have hdigits : 'm' ∉ Nat.toDigits 10 code := fun hm =>
    absurd (Nat.isDigit_of_mem_toDigits (by decide) (by decide) hm) (by decide)
  intro rest
  have htext : (escape code).toList ++ rest =
      escapeChar :: '[' :: (Nat.toDigits 10 code ++ 'm' :: rest) := by
    simp [escape, escapeChar]
  rw [htext, dropCodes_code hdigits]
  rfl

/-- **A text in a style shows as the text.** -/
theorem ShowsAs.paint (h : ShowsAs s t) (style : Style) :
    ShowsAs (paint true style s) (paint false style t) := by
  have hpaint := ((showsAs_escape style.beginCode).append h).append (showsAs_escape style.endCode)
  rwa [String.empty_append, String.append_empty] at hpaint

theorem showsAs_painted (h : IsPlain s) (style : Style) :
    ShowsAs (paint true style s) (paint false style s) :=
  (showsAs_self h).paint style

/-! ## Rows and lines -/

theorem showsAs_lines {ls : List String} (h : ∀ l ∈ ls, IsPlain l) : List.Forall₂ ShowsAs ls ls :=
  List.forall₂_same.mpr fun l hl => showsAs_self (h l hl)

theorem showsAs_join {ls ls' : List String} (h : List.Forall₂ ShowsAs ls ls') :
    ShowsAs (String.join ls) (String.join ls') := by
  induction h with
  | nil => exact showsAs_self List.not_mem_nil
  | cons hl _ ih =>
    rw [String.join_cons, String.join_cons]
    exact hl.append ih

theorem ShowsAs.row {cells cells' : List String} (h : List.Forall₂ ShowsAs cells cells') :
    ShowsAs (row cells) (row cells') := by
  have hblank : ShowsAs " " " " := showsAs_self (by decide)
  unfold Report.row
  induction h with
  | nil => exact showsAs_self List.not_mem_nil
  | cons hcell hrest ih =>
    cases hrest with
    | nil => simpa using hcell
    | cons hnext hrest =>
      rw [String.intercalate_cons_cons, String.intercalate_cons_cons]
      exact (hcell.append hblank).append ih

theorem ShowsAs.block {ls ls' : List String} (h : List.Forall₂ ShowsAs ls ls') :
    ShowsAs (block ls) (block ls') := by
  refine showsAs_join (List.forall₂_map_left_iff.mpr (List.forall₂_map_right_iff.mpr ?_))
  exact h.imp fun _ _ hl => hl.append (showsAs_self (by decide))

end Weblog.Report
