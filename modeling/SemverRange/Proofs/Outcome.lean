/-
SemverRange/Proofs/Outcome.lean

What can come of compiling a requirement.

A well-formed literal has numbers, so its bounds fail for one of two reasons only: it
combines its fields in a way that is not allowed, or its pre-release is unsound.  The
literal in writing is to blame, or its three fields (`Literal.IsBlamedBy`); neither is
empty, and both stand in the text of the requirement.  A comparison with a known sign
fails with its literal, and a dash range with one of its two.  So a requirement
compiles, or does not parse, or is rejected for a piece of its text
(`Requirement.ofText_outcome`).
-/
import SemverRange.Proofs.Alternatives
import SemverRange.Proofs.Composition

namespace SemverRange

theorem bind_eq_error_iff {ε α β : Type} {x : Except ε α} {f : α → Except ε β} {e : ε} :
    x >>= f = .error e ↔ x = .error e ∨ ∃ a, x = .ok a ∧ f a = .error e := by
  rcases x with e' | a <;> simp [bind, Except.bind]

theorem versionOrBlame_eq_error {major minor patch : Int} {pre build : List Identifier}
    {fragment : Text} (hne : fragment ≠ []) {e : MeaningError}
    (h : versionOrBlame major minor patch pre build fragment = .error e) :
    e = .rejected fragment := by
  rw [versionOrBlame] at h
  split at h
  · cases h
  · rw [if_neg (by simpa using hne)] at h
    cases h
    rfl

/-! ### Literals -/

namespace Literal

/-- Whether an error puts the blame on a literal, as it is written or by its fields. -/
def IsBlamedBy (l : Literal) (e : MeaningError) : Prop :=
  e = .rejected l.toText ∨ e = .rejected l.fieldsText

variable {l : Literal} {e : MeaningError}

theorem fault?_eq_some (hl : l.IsWellFormed) {fragment : Text} (h : l.fault? = some fragment) :
    fragment = l.toText ∨ fragment = l.fieldsText := by
  rw [fault?] at h
  split at h
  · split at h
    · exact .inl (Option.some.inj h).symm
    · cases h
  · split at h
    · exact .inl (Option.some.inj h).symm
    · split at h
      · -- a patch number behind an open minor number: all fields are there
        rename_i hopen
        simp only [Bool.and_eq_true, Bool.not_eq_true'] at hopen
        obtain ⟨a, b, c, hmajor, hminor, hpatch⟩ := hl.exists_fields_of_patch fun hp => by
          rw [hp] at hopen
          cases hopen.2
        refine .inr ?_
        rw [← Option.some.inj h, fieldsText, hmajor, hminor, hpatch]
        rfl
      · split at h
        · exact .inl (Option.some.inj h).symm
        · cases h

theorem isBlamedBy_of_check (hl : l.IsWellFormed) (h : l.check = .error e) : l.IsBlamedBy e := by
  rw [check] at h
  split at h
  · rename_i c s hfault
    cases h
    rcases fault?_eq_some hl hfault with heq | heq
    · exact .inl (congrArg _ heq)
    · exact .inr (congrArg _ heq)
  · cases h

theorem isBlamedBy_of_versionOrBlame (hl : l.IsWellFormed) {major minor patch : Int}
    {pre build : List Identifier}
    (h : versionOrBlame major minor patch pre build l.toText = .error e) : l.IsBlamedBy e :=
  .inl (versionOrBlame_eq_error (toText_ne_nil hl) h)

theorem isBlamedBy_of_release (hl : l.IsWellFormed) {major minor patch : Int}
    (h : l.release major minor patch = .error e) : l.IsBlamedBy e :=
  isBlamedBy_of_versionOrBlame hl h

theorem isBlamedBy_of_boundBy (hl : l.IsWellFormed) {ofAny : Version}
    {ofNumbers : Int × Int × Int → Except MeaningError Version}
    (hof : ∀ n, ofNumbers n = .error e → l.IsBlamedBy e)
    (h : l.boundBy ofAny ofNumbers = .error e) : l.IsBlamedBy e := by
  rcases hcheck : l.check with e' | ⟨⟩
  · rw [boundBy_of_check_eq_error hcheck] at h
    cases h
    exact isBlamedBy_of_check hl hcheck
  · rcases hany : l.isAny with - | -
    · -- the numbers are there, so it is the version that cannot be put together
      rw [boundBy_of_given hcheck hany, numbers_eq_ok hl] at h
      exact hof _ h
    · rw [boundBy_of_isAny hcheck hany] at h
      cases h

theorem isBlamedBy_of_lowest (hl : l.IsWellFormed) (h : l.lowest = .error e) :
    l.IsBlamedBy e := by
  rw [lowest_eq_boundBy] at h
  refine isBlamedBy_of_boundBy hl (fun n hn => ?_) h
  split at hn
  · exact isBlamedBy_of_release hl hn
  · exact isBlamedBy_of_versionOrBlame hl hn

theorem isBlamedBy_of_highest (hl : l.IsWellFormed) (h : l.highest = .error e) :
    l.IsBlamedBy e := by
  rw [highest_eq_boundBy] at h
  refine isBlamedBy_of_boundBy hl (fun n hn => ?_) h
  split at hn
  · exact isBlamedBy_of_release hl hn
  · split at hn
    · exact isBlamedBy_of_release hl hn
    · exact isBlamedBy_of_versionOrBlame hl hn

/-- Of the bounds of the operators, only that of equality ever fails. -/
theorem isBlamedBy_of_intervalFrom (hl : l.IsWellFormed) {o : Operator} {low : Version}
    (h : o.intervalFrom l low = .error e) : l.IsBlamedBy e := by
  cases o with
  | greater | less | greaterOrEqual | lessOrEqual => cases h
  | tilde =>
    rw [Operator.intervalFrom, tildeBound_eq_ok hl] at h
    cases h
  | caret =>
    rw [Operator.intervalFrom, caretBound_eq_ok hl] at h
    cases h
  | equal => exact isBlamedBy_of_highest hl (map_eq_error_iff.mp h)

theorem isBlamedBy_of_clauseFor (hl : l.IsWellFormed) {o : Operator}
    (h : Comparison.clauseFor o l = .error e) : l.IsBlamedBy e := by
  rw [Comparison.clauseFor] at h
  rcases bind_eq_error_iff.mp h with h | ⟨-, -, h⟩
  · exact isBlamedBy_of_check hl h
  · split at h
    · cases h
    · rcases bind_eq_error_iff.mp h with h | ⟨low, -, h⟩
      · exact isBlamedBy_of_lowest hl h
      · rcases bind_eq_error_iff.mp h with h | ⟨i, -, h⟩
        · exact isBlamedBy_of_intervalFrom hl h
        · cases h

end Literal

/-! ### Conditions -/

/-- Whether an error rejects a piece of a text, and one that is not empty. -/
def MeaningError.RejectsPieceOf (e : MeaningError) (s : Text) : Prop :=
  ∃ fragment, e = .rejected fragment ∧ fragment ≠ [] ∧ fragment <:+: s

theorem Literal.StandsIn.rejectsPieceOf {l : Literal} {s : Text} (hl : l.StandsIn s)
    {e : MeaningError} (h : l.IsBlamedBy e) : e.RejectsPieceOf s := by
  have hne := toText_ne_nil hl.isWellFormed
  rcases h with rfl | rfl
  · refine ⟨l.toText, rfl, hne, ?_⟩
    rw [toText]
    split
    · exact hl.fieldsText
    · exact hl.text
  · refine ⟨l.fieldsText, rfl, ?_, hl.fieldsText⟩
    obtain ⟨a, hmajor, hfield⟩ := hl.isWellFormed.major
    simp [Literal.fieldsText, hmajor, Text.dotted_cons, hfield.ne_nil]

theorem Comparison.rejectsPieceOf {c : Comparison} {s : Text}
    (hc : Condition.StandsIn (.comparison c) s) {e : MeaningError} (h : c.clause = .error e) :
    e.RejectsPieceOf s := by
  obtain ⟨o, ho⟩ := Option.isSome_iff_exists.mp hc.2
  rw [clause, ho] at h
  exact hc.1.rejectsPieceOf (Literal.isBlamedBy_of_clauseFor hc.1.isWellFormed h)

theorem DashRange.rejectsPieceOf {d : DashRange} {s : Text} (hlower : d.lower.StandsIn s)
    (hupper : d.upper.StandsIn s) {e : MeaningError} (h : d.clause = .error e) :
    e.RejectsPieceOf s := by
  rw [clause] at h
  rcases bind_eq_error_iff.mp h with h | ⟨low, -, h⟩
  · exact hlower.rejectsPieceOf (Literal.isBlamedBy_of_lowest hlower.isWellFormed h)
  · rcases bind_eq_error_iff.mp h with h | ⟨high, -, h⟩
    · exact hupper.rejectsPieceOf (Literal.isBlamedBy_of_highest hupper.isWellFormed h)
    · cases h

/-! ### Requirements -/

namespace Traced

variable {ε α β : Type} {f : α → Traced ε β} {as : List α} {e : ε}

theorem events_forEach_cons {a : α} {b : β} (h : (f a).outcome = .ok b) :
    (forEach f (a :: as)).events = (f a).events ++ (forEach f as).events := by
  rw [forEach, h]

/-- What fails in turn fails at one of the members, and at none before it.  The events are
those up to that one, its own included. -/
theorem forEach_eq_error (h : (forEach f as).outcome = .error e) :
    ∃ front a back, as = front ++ a :: back ∧ (∀ b ∈ front, ∃ k, (f b).outcome = .ok k) ∧
      (f a).outcome = .error e ∧
      (forEach f as).events = (front ++ [a]).flatMap fun b => (f b).events := by
  induction as with
  | nil => cases h
  | cons a as ih =>
    rw [outcome_forEach_cons] at h
    rcases bind_eq_error_iff.mp h with h | ⟨b, hb, h⟩
    · refine ⟨[], a, as, rfl, by simp, h, ?_⟩
      rw [forEach, h]
      simp
    · obtain ⟨front, a', back, rfl, hfront, ha', hevents⟩ := ih (map_eq_error_iff.mp h)
      refine ⟨a :: front, a', back, rfl, ?_, ha', ?_⟩
      · simpa [hb] using hfront
      · rw [events_forEach_cons hb, hevents]
        rfl

theorem exists_of_forEach_eq_error (h : (forEach f as).outcome = .error e) :
    ∃ a ∈ as, (f a).outcome = .error e := by
  obtain ⟨front, a, back, rfl, -, ha, -⟩ := forEach_eq_error h
  exact ⟨a, by simp, ha⟩

end Traced

namespace Requirement

theorem rejectsPieceOf_of_compileCondition {raw : Text} {c : Condition} (hc : c.StandsIn raw)
    {e : MeaningError} (h : (compileCondition raw c).outcome = .error e) :
    e.RejectsPieceOf raw := by
  cases c with
  | dashRange d => exact DashRange.rejectsPieceOf hc.1 hc.2 h
  | comparison c =>
    rw [outcome_compileCondition_comparison] at h
    rcases hdash : c.dashRange? raw with - | d
    · rw [hdash] at h
      exact Comparison.rejectsPieceOf hc h
    · -- both ends come from the literal of the comparison
      rw [hdash] at h
      obtain ⟨-, -, hlower, hupper⟩ := Comparison.dashRange?_eq_some hdash
      refine DashRange.rejectsPieceOf ?_ ?_ h
      · rw [hlower]
        exact hc.1.withoutPreRelease
      · exact .of_ofText? hupper hc.1.preRelease

theorem mem_of_mem_dashesLast {g : Group} {c : Condition} (hc : c ∈ Group.dashesLast g) :
    c ∈ g := by
  rw [Group.dashesLast, List.mem_append, List.mem_map, List.mem_map] at hc
  rcases hc with ⟨c', hc', rfl⟩ | ⟨d, hd, rfl⟩
  · exact comparison_mem_comparisons.mp hc'
  · obtain ⟨c', hc', heq⟩ := List.mem_filterMap.mp hd
    cases c' with
    | comparison c' => cases heq
    | dashRange d' =>
      cases heq
      exact hc'

theorem rejectsPieceOf_of_forEach {raw : Text} {gs : List Group} (hparse : parse raw = .ok gs)
    {e : MeaningError} (h : (Traced.forEach (compileGroup raw) gs).outcome = .error e) :
    e.RejectsPieceOf raw := by
  obtain ⟨g, hg, h⟩ := Traced.exists_of_forEach_eq_error h
  obtain ⟨c, hc, h⟩ := Traced.exists_of_forEach_eq_error h
  exact rejectsPieceOf_of_compileCondition
    (standsIn_of_parse hparse g hg c (mem_of_mem_dashesLast hc)) h

/-- **A requirement compiles, does not parse, or is rejected for a piece of its text.**
Blanks around the text apart: if it does not parse, the error is about the position at
which parsing stops, inside the text or at its end, and shows the text from there on.
If it parses it either compiles, or there is a piece of it to blame that is not empty. -/
theorem ofText_outcome (s : Text) :
    match parse (Text.strip s), ofText s with
    | .error p, .error e =>
      e = { requirement := Text.strip s, cause := .unreadable p } ∧
        p ≤ (Text.strip s).length ∧ e.fragment? = some ((Text.strip s).drop p)
    | .error _, .ok _ => False
    | .ok _, .ok r => r.text = Text.strip s
    | .ok _, .error e =>
      ∃ fragment, e = { requirement := Text.strip s, cause := .rejected fragment } ∧
        fragment ≠ [] ∧ fragment <:+: Text.strip s ∧ e.fragment? = some fragment := by
  rcases hparse : parse (Text.strip s) with p | gs
  · have hofText : ofText s
        = .error { requirement := Text.strip s, cause := .unreadable p } := by
      rw [ofText, compile, compileStripped, hparse]
    rw [hofText]
    exact ⟨rfl, le_length_of_parse_eq_error hparse, rfl⟩
  · rcases hgroups : (Traced.forEach (compileGroup (Text.strip s)) gs).outcome with e | ks
    · obtain ⟨fragment, rfl, hne, hpiece⟩ := rejectsPieceOf_of_forEach hparse hgroups
      have hofText : ofText s
          = .error { requirement := Text.strip s, cause := .rejected fragment } := by
        simp only [ofText, compile, compileStripped, hparse, hgroups,
          RequirementError.ofMeaningError]
      rw [hofText]
      exact ⟨fragment, rfl, hne, hpiece, rfl⟩
    · have hofText : ofText s = .ok { text := Text.strip s, alternatives := ks } := by
        simp only [ofText, compile, compileStripped, hparse, hgroups]
      rw [hofText]

/-- The upper end of a range that was read as a pre-release is to blame. -/
example : ofText ">= 1.2.3 - 1.x.5".toList =
    .error { requirement := ">= 1.2.3 - 1.x.5".toList, cause := .rejected "1.x.5".toList } := by
  cbv

end Requirement

end SemverRange
