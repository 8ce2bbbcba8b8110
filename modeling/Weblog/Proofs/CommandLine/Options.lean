import Mathlib.Tactic.Common
import Weblog.CommandLine.Parse
import Weblog.Proofs.Outcomes
/-!
# Options that no word introduces

An option is given only where a word introduces it. Behind a word of two dashes there are operands
only.

* `Introduces`, `NotIntroduced`: the words that introduce an option by its long name.
* `Draft.Without`: a draft in which an option is not given and is not going to be.
* `Draft.Without.step`: one more word does not give an option that it does not introduce.
* `dataFile_of_readLevel`: a command line names a data file only with the option for it.
* **`dataFile_of_parse`**: without an option for the data file the one of the environment counts.
-/

namespace Weblog.CommandLine

/-- Whether a word introduces an option by its long name, perhaps with a value. -/
def Introduces (o : Argument) (word : String) : Prop :=
  ∃ name ∈ o.longNames, word.toList.takeWhile (· != '=') = '-' :: '-' :: name.toList

/-- Whether no word introduces an option. Those behind two dashes are operands. -/
def NotIntroduced (o : Argument) (words : List String) : Prop :=
  ∀ word ∈ words.takeWhile (· != "--"), ¬Introduces o word

variable {o : Argument} {level : Level} {d after : Draft}

/-- Whether a draft does not have an option and does not expect it either. -/
structure Draft.Without (o : Argument) (d : Draft) : Prop where
  given : ∀ g ∈ d.given, g.1 ≠ o
  pending : ∀ a text, d.pending = some (a, text) → a ≠ o
  operands : o ∉ d.operands

namespace Draft.Without

theorem add (h : d.Without o) {a : Argument} {text : String} (ha : a ≠ o)
    (hadd : d.add level a text = .ok after) : after.Without o := by
  unfold Draft.add at hadd
  split_ifs at hadd
  obtain ⟨value, -, hvalue⟩ := bind_eq_ok.mp hadd
  obtain rfl := Except.ok.inj hvalue
  refine ⟨fun g hg => ?_, h.pending, h.operands⟩
  rcases List.mem_append.mp hg with hg | hg
  · exact h.given g hg
  · rw [List.mem_singleton.mp hg]
    exact ha

theorem expect (h : d.Without o) {a : Argument} (ha : a ≠ o) (text : Option String) :
    Without o { d with pending := some (a, text) } := by
  refine ⟨h.given, fun b _ hpending => ?_, h.operands⟩
  cases hpending
  exact ha

theorem settle (h : d.Without o) (hsettle : d.settle level = .ok after) : after.Without o := by
  unfold Draft.settle at hsettle
  cases hpending : d.pending with
  | none =>
    rw [hpending] at hsettle
    obtain rfl := Except.ok.inj hsettle
    exact h
  | some expected =>
    obtain ⟨a, text⟩ := expected
    rw [hpending] at hsettle
    cases text with
    | none => cases hsettle
    | some text =>
      have hcleared : Without o { d with pending := none } :=
        ⟨h.given, fun _ _ hnone => (by cases hnone), h.operands⟩
      exact hcleared.add (h.pending a _ hpending) hsettle

theorem attach (h : d.Without o) {a : Argument} {text : String} (ha : a ≠ o)
    (hattach : d.attach level a text = .ok after) : after.Without o := by
  obtain ⟨settled, hsettle, hadd⟩ := bind_eq_ok.mp hattach
  exact (h.settle hsettle).add ha hadd

theorem await (h : d.Without o) {a : Argument} (ha : a ≠ o)
    (hawait : d.await level a = .ok after) : after.Without o := by
  obtain ⟨settled, hsettle, hafter⟩ := bind_eq_ok.mp hawait
  obtain rfl := Except.ok.inj hafter
  exact (h.settle hsettle).expect ha none

theorem readLong (h : d.Without o) {word : List Char}
    (hword : ∀ name ∈ o.longNames, word.takeWhile (· != '=') ≠ name.toList)
    (hread : d.readLong level word = .ok after) : after.Without o := by
  unfold Draft.readLong splitEquals at hread
  dsimp only at hread
  cases hfind : level.options.find? fun a =>
      a.longNames.contains (String.ofList (word.takeWhile (· != '='))) with
  | none => rw [hfind] at hread; cases hread
  | some a =>
    have ha : a ≠ o := by
      rintro rfl
      have hname := List.find?_some hfind
      exact hword _ (by simpa using hname) String.toList_ofList.symm
    rw [hfind] at hread
    dsimp only at hread
    split at hread
    · cases hread
    · exact h.attach ha hread
    · exact h.attach ha hread
    · exact h.await ha hread

theorem readLetters (hletter : o.letter? = none) (letters : List Char) :
    ∀ {d after : Draft}, d.Without o → d.readLetters level letters = .ok after →
      after.Without o := by
  induction letters with
  | nil =>
    intro d after h hread
    obtain rfl := Except.ok.inj hread
    exact h
  | cons c rest ih =>
    intro d after h hread
    rw [Draft.readLetters] at hread
    cases hfind : level.options.find? fun a => a.letter? == some c with
    | none => rw [hfind] at hread; cases hread
    | some a =>
      have ha : a ≠ o := by
        rintro rfl
        have hc := List.find?_some hfind
        rw [hletter] at hc
        cases hc
      rw [hfind] at hread
      dsimp only at hread
      split_ifs at hread
      · obtain ⟨between, hattach, hrest⟩ := bind_eq_ok.mp hread
        exact ih (h.attach ha hattach) hrest
      · split at hread
        · exact h.await ha hread
        · exact h.attach ha hread
        · exact h.attach ha hread

theorem readOperand (h : d.Without o) {word : String}
    (hread : d.readOperand level word = .ok after) : after.Without o := by
  unfold Draft.readOperand at hread
  cases hoperands : d.operands with
  | nil => rw [hoperands] at hread; cases hread
  | cons a operands =>
    rw [hoperands] at hread
    obtain ⟨settled, hsettle, hafter⟩ := bind_eq_ok.mp hread
    obtain rfl := Except.ok.inj hafter
    obtain ⟨ha, hrest⟩ : o ≠ a ∧ o ∉ operands := by simpa [hoperands] using h.operands
    have hexpected := (h.settle hsettle).expect (Ne.symm ha) (some word)
    exact ⟨hexpected.given, hexpected.pending, hrest⟩

/-- **One more word** does not give an option that it does not introduce. -/
theorem step (h : d.Without o) (hletter : o.letter? = none) {word : String}
    (hword : d.onlyOperands = false → ¬Introduces o word)
    (hstep : d.step level word = .ok after) : after.Without o := by
  unfold Draft.step at hstep
  split_ifs at hstep with honly
  · exact h.readOperand hstep
  · split at hstep
    · obtain rfl := Except.ok.inj hstep
      exact ⟨h.given, h.pending, h.operands⟩
    · next rest _ hchars =>
      refine h.readLong (fun name hname hrest => ?_) hstep
      refine hword (by simpa using honly) ⟨name, hname, ?_⟩
      rw [hchars]
      simp [hrest]
    · exact readLetters hletter _ h hstep
    · unfold Draft.readPlain at hstep
      split at hstep
      · next a hpending =>
        obtain rfl := Except.ok.inj hstep
        exact h.expect (h.pending a none hpending) (some word)
      · exact h.readOperand hstep

end Draft.Without

/-! ## Behind two dashes -/

theorem Draft.settle_onlyOperands (hsettle : d.settle level = .ok after) :
    after.onlyOperands = d.onlyOperands := by
  unfold Draft.settle at hsettle
  split at hsettle
  · obtain rfl := Except.ok.inj hsettle
    rfl
  · cases hsettle
  · unfold Draft.add at hsettle
    split_ifs at hsettle
    obtain ⟨value, -, hvalue⟩ := bind_eq_ok.mp hsettle
    obtain rfl := Except.ok.inj hvalue
    rfl

theorem Draft.readOperand_onlyOperands {word : String}
    (hread : d.readOperand level word = .ok after) :
    after.onlyOperands = d.onlyOperands := by
  unfold Draft.readOperand at hread
  split at hread
  · cases hread
  · obtain ⟨settled, hsettle, hafter⟩ := bind_eq_ok.mp hread
    obtain rfl := Except.ok.inj hafter
    exact (settle_onlyOperands hsettle : settled.onlyOperands = d.onlyOperands)

theorem NotIntroduced.tail {word : String} {rest : List String} (h : NotIntroduced o (word :: rest))
    (hword : word ≠ "--") : ¬Introduces o word ∧ NotIntroduced o rest := by
  unfold NotIntroduced at h
  rw [List.takeWhile_cons_of_pos (by simpa using hword)] at h
  exact ⟨h word List.mem_cons_self, fun w hw => h w (List.mem_cons_of_mem word hw)⟩

theorem notIntroduced_of_step {word : String} {rest : List String}
    (hwords : d.onlyOperands = false → NotIntroduced o (word :: rest))
    (hstep : d.step level word = .ok after) (hafter : after.onlyOperands = false) :
    NotIntroduced o rest := by
  unfold Draft.step at hstep
  split_ifs at hstep with honly
  · rw [Draft.readOperand_onlyOperands hstep, honly] at hafter
    cases hafter
  · by_cases hword : word = "--"
    · subst hword
      obtain rfl := Except.ok.inj hstep
      cases hafter
    · exact ((hwords (by simpa using honly)).tail hword).2

/-! ## Command lines -/

theorem isCommand_dashes (level : Level) : level.isCommand "--" = false := by
  cases level <;> decide

theorem data_notMem_operands (level : Level) : .data ∉ level.operands := by
  cases level <;> decide

theorem valuesOf_eq_nil {given : List Given} (h : ∀ g ∈ given, g.1 ≠ o) :
    valuesOf o given = [] := by
  induction given with
  | nil => rfl
  | cons g rest ih =>
    rw [valuesOf, dif_neg (h g List.mem_cons_self)]
    exact ih fun g hg => h g (List.mem_cons_of_mem _ hg)

variable {e : Environment} {i : Invocation}

theorem dataFile_of_finish (h : d.Without .data) {below : Option Invocation}
    (hbelow : ∀ i, below = some i → i.dataFile = none)
    (hfinish : finish e level below d = .ok i) : i.dataFile = none := by
  obtain ⟨settled, hsettle, hrest⟩ := bind_eq_ok.mp hfinish
  have hnone : value? .data settled.given = none := by
    rw [value?, valuesOf_eq_nil (h.settle hsettle).given]
    rfl
  obtain ⟨_, -, hrest⟩ := bind_eq_ok.mp hrest
  split_ifs at hrest
  · cases hrest
  · cases below with
    | some i =>
      obtain rfl := Except.ok.inj hrest
      simp [Invocation.below, hbelow i rfl, hnone]
    | none =>
      obtain ⟨command, -, hi⟩ := bind_eq_ok.mp hrest
      obtain rfl := Except.ok.inj hi
      simp [Invocation.below, hnone]

theorem dataFile_of_readLevel (words : List String) :
    ∀ {level : Level} {d : Draft} {i : Invocation}, d.Without .data →
      (d.onlyOperands = false → NotIntroduced .data words) →
        readLevel e level d words = .ok i → i.dataFile = none := by
  -- the draft of a level stays without the option, and the drafts of the levels below start so
  induction words with
  | nil =>
    intro level d i h _ hread
    exact dataFile_of_finish h (fun _ hnone => by cases hnone) hread
  | cons word rest ih =>
    intro level d i h hwords hread
    rw [readLevel] at hread
    split_ifs at hread with hcommand
    · cases hbelow : level.command? word with
      | none => rw [hbelow] at hread; cases hread
      | some below =>
        rw [hbelow] at hread
        obtain ⟨j, hj, hfinish⟩ := bind_eq_ok.mp hread
        have hword : word ≠ "--" := by
          rintro rfl
          simp [isCommand_dashes] at hcommand
        have hrest := ((hwords (by simp_all)).tail hword).2
        have hstart : Draft.Without .data { operands := below.operands } :=
          ⟨fun _ hg => (by cases hg), fun _ _ hpending => (by cases hpending),
            data_notMem_operands below⟩
        refine dataFile_of_finish h (fun k hk => ?_) hfinish
        obtain rfl := Option.some.inj hk
        exact ih hstart (fun _ => hrest) hj
    · obtain ⟨after, hstep, hread⟩ := bind_eq_ok.mp hread
      refine ih (h.step rfl (fun honly hintro => ?_) hstep)
        (notIntroduced_of_step hwords hstep) hread
      have hword : word ≠ "--" := by
        rintro rfl
        obtain ⟨name, hname, hchars⟩ := hintro
        rw [List.mem_singleton.mp hname] at hchars
        cases hchars
      exact ((hwords honly).tail hword).1 hintro

/-- **Without an option for the data file the one of the environment counts.** -/
theorem dataFile_of_parse {arguments : List String} (hnone : NotIntroduced .data arguments)
    (hparse : parse e arguments = .ok i) : i.dataFile = e.dataFile := by
  obtain ⟨read, hread, hi⟩ := bind_eq_ok.mp hparse
  obtain rfl := Except.ok.inj hi
  have hempty : Draft.Without .data { operands := Level.program.operands } :=
    ⟨fun _ hg => (by cases hg), fun _ _ hpending => (by cases hpending), by decide⟩
  rw [dataFile_of_readLevel arguments hempty (fun _ => hnone) hread]
  rfl

end Weblog.CommandLine
