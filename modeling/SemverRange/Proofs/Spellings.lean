/-
SemverRange/Proofs/Spellings.lean

Spellings of a literal.

There are several ways to leave a number open (a field that is missing, or any of the
wildcards) and several to write one (zeros in front, the digits of any script).  Two
literals whose fields differ in no other way (`SameField`) and that carry the same tags are
spellings of one another (`Literal.IsRespelling`).

What is asked of a field is whether it is open, whether it has digits only and what
number it writes; the text of a literal just shows in errors.  So, errors left out, the
checks and the bounds of two spellings are the same (`IsRespelling.toOption_lowest_eq`, ...),
and so is every clause that they have a part in (`toOption_clause_of_isRespelling`).
-/
import SemverRange.Proofs.Meaning

namespace SemverRange

/-! ### Outcomes, errors left out -/

theorem toOption_bind {ε α β : Type} (x : Except ε α) (f : α → Except ε β) :
    (x >>= f).toOption = x.toOption.bind fun a => (f a).toOption := by
  cases x <;> rfl

theorem toOption_map {ε α β : Type} (x : Except ε α) (f : α → β) :
    (x.map f).toOption = x.toOption.map f := by
  cases x <;> rfl

theorem toOption_versionOrBlame (major minor patch : Int) (pre build : List Identifier)
    (fragment : Text) :
    (versionOrBlame major minor patch pre build fragment).toOption =
      Version.ofParts? major minor patch pre build := by
  rw [versionOrBlame]
  cases Version.ofParts? major minor patch pre build <;> rfl

theorem Literal.toOption_check {l : Literal} (hl : l.IsWellFormed) :
    l.check.toOption = if l.fault?.isSome then none else some () := by
  have hcheck := check_eq_ok_iff hl
  rcases h : l.check with e | ⟨⟩
  · have hfault : l.fault? ≠ none := by
      intro hnone
      rw [hcheck.mpr hnone] at h
      cases h
    rw [if_pos (Option.isSome_iff_ne_none.mpr hfault)]
    rfl
  · rw [hcheck.mp h]
    rfl

/-! ### Spellings of a field -/

/-- Two spellings of one field: both leave the number open, or both write one number in
decimal digits. -/
inductive SameField : Option Text → Option Text → Prop
  | opens {f g : Option Text} (hf : IsOpenField f) (hg : IsOpenField g) : SameField f g
  | numbers {s t : Text} (hs : s ≠ [] ∧ ∀ c ∈ s, Text.isDigit c = true)
      (ht : t ≠ [] ∧ ∀ c ∈ t, Text.isDigit c = true)
      (hvalue : Text.decimalValue s = Text.decimalValue t) : SameField (some s) (some t)

theorem IsOpenField.isWildcard {field : Option Text} (h : IsOpenField field) :
    isWildcard field = true := by
  rcases h with rfl | ⟨c, hc, rfl⟩
  · rfl
  · exact isWildcard_of_mem_wildcardMarks hc

namespace SameField

variable {f g : Option Text}

/-- A field that follows the grammar is a spelling of itself. -/
theorem refl (hf : ∀ s ∈ f, IsField s) : SameField f f := by
  cases f with
  | none => exact .opens (.inl rfl) (.inl rfl)
  | some s =>
    rcases hf s rfl with hdigits | ⟨c, hc, rfl⟩
    · exact .numbers hdigits hdigits rfl
    · exact .opens (.inr ⟨c, hc, rfl⟩) (.inr ⟨c, hc, rfl⟩)

theorem isWildcard_eq (h : SameField f g) : isWildcard f = isWildcard g := by
  cases h with
  | opens hf hg => rw [hf.isWildcard, hg.isWildcard]
  | numbers hs ht _ => rw [isWildcard_of_digits hs.1 hs.2, isWildcard_of_digits ht.1 ht.2]

theorem fieldValue_eq (h : SameField f g) : fieldValue f = fieldValue g := by
  rw [fieldValue, fieldValue, h.isWildcard_eq]
  cases h with
  | opens _ hg => rw [if_pos hg.isWildcard, if_pos hg.isWildcard]
  | numbers _ _ hvalue => rw [Option.getD_some, Option.getD_some, hvalue]

end SameField

/-! ### Spellings of a literal -/

namespace Literal

/-- Two spellings of one literal: the fields are spellings of one another, and the tags
are the same. -/
structure IsRespelling (l l' : Literal) : Prop where
  major : SameField l.major l'.major
  minor : SameField l.minor l'.minor
  patch : SameField l.patch l'.patch
  preRelease : l.preRelease = l'.preRelease
  build : l.build = l'.build

namespace IsRespelling

variable {l l' : Literal}

theorem isAny_eq (h : l.IsRespelling l') : l.isAny = l'.isAny :=
  h.major.isWildcard_eq

theorem isTagged_eq (h : l.IsRespelling l') : l.isTagged = l'.isTagged := by
  rw [isTagged, h.preRelease, h.build, isTagged]

theorem base_eq (h : l.IsRespelling l') : l.base = l'.base := by
  rw [base, h.major.fieldValue_eq, h.minor.fieldValue_eq, h.patch.fieldValue_eq, base]

theorem tildeLimit_eq (h : l.IsRespelling l') : l.tildeLimit = l'.tildeLimit := by
  rw [tildeLimit, h.base_eq, h.minor.isWildcard_eq, tildeLimit]

theorem caretLimit_eq (h : l.IsRespelling l') : l.caretLimit = l'.caretLimit := by
  rw [caretLimit, h.base_eq, h.minor.isWildcard_eq, h.patch.isWildcard_eq, caretLimit]

variable (hl : l.IsWellFormed) (hl' : l'.IsWellFormed) (h : l.IsRespelling l')
include hl hl' h

theorem isSome_fault?_eq : l.fault?.isSome = l'.fault?.isSome := by
  rw [Bool.eq_iff_iff, isSome_fault?_iff hl, isSome_fault?_iff hl', h.isAny_eq, h.isTagged_eq,
    h.minor.isWildcard_eq, h.patch.isWildcard_eq]

theorem toOption_check_eq : l.check.toOption = l'.check.toOption := by
  rw [toOption_check hl, toOption_check hl', h.isSome_fault?_eq hl hl']

theorem numbers_eq : l.numbers = l'.numbers := by
  rw [numbers_eq_ok hl, numbers_eq_ok hl', h.base_eq]

theorem toOption_lowest_eq : l.lowest.toOption = l'.lowest.toOption := by
  simp only [lowest, toOption_bind, apply_ite Except.toOption, release, toOption_versionOrBlame,
    h.toOption_check_eq hl hl', h.numbers_eq hl hl', h.isAny_eq, h.minor.isWildcard_eq,
    h.patch.isWildcard_eq, h.preRelease, h.build]

theorem toOption_highest_eq : l.highest.toOption = l'.highest.toOption := by
  simp only [highest, toOption_bind, apply_ite Except.toOption, release, toOption_versionOrBlame,
    h.toOption_check_eq hl hl', h.numbers_eq hl hl', h.isAny_eq, h.minor.isWildcard_eq,
    h.patch.isWildcard_eq, h.preRelease, h.build]

theorem toOption_intervalFrom_eq (o : Operator) (low : Version) :
    (o.intervalFrom l low).toOption = (o.intervalFrom l' low).toOption := by
  cases o with
  | greater | less | greaterOrEqual | lessOrEqual => rfl
  | tilde =>
    rw [Operator.intervalFrom, Operator.intervalFrom, tildeBound_eq_ok hl, tildeBound_eq_ok hl',
      h.tildeLimit_eq]
  | caret =>
    rw [Operator.intervalFrom, Operator.intervalFrom, caretBound_eq_ok hl, caretBound_eq_ok hl',
      h.caretLimit_eq]
  | equal =>
    rw [Operator.intervalFrom, Operator.intervalFrom, toOption_map, toOption_map,
      h.toOption_highest_eq hl hl']

theorem toOption_clauseFor_eq (o : Operator) :
    (Comparison.clauseFor o l).toOption = (Comparison.clauseFor o l').toOption := by
  simp only [Comparison.clauseFor, toOption_bind, apply_ite Except.toOption, h.isAny_eq,
    h.toOption_check_eq hl hl', h.toOption_lowest_eq hl hl', h.toOption_intervalFrom_eq hl hl']

theorem toOption_comparison_eq (sign : Option Text) :
    (Comparison.clause { sign, version := l }).toOption =
      (Comparison.clause { sign, version := l' }).toOption := by
  rw [Comparison.clause, Comparison.clause]
  rcases Operator.ofSign? sign with - | o
  · rfl
  · exact h.toOption_clauseFor_eq hl hl' o

end IsRespelling

end Literal

/-! ### Clauses -/

/-- A dash range asks for one bound of each of its literals. -/
theorem DashRange.toOption_clause (d : DashRange) :
    d.clause.toOption = d.lower.lowest.toOption.bind fun lower =>
      d.upper.highest.toOption.map fun upper =>
        { kind := .dash, interval := { lower, upper }, releasesOnly := true } := by
  rw [clause]
  rcases d.lower.lowest with e | low
  · rfl
  · rcases d.upper.highest with e | high <;> rfl

/-- **Spellings are interchangeable.**  Let two literals be spellings of one another.  Under
every sign, and without one, the two have the same clause, or neither has any; and the same
is true of the dash ranges that they begin, and of those that they end. -/
theorem toOption_clause_of_isRespelling {l l' : Literal} (hl : l.IsRead) (hl' : l'.IsRead)
    (h : l.IsRespelling l') :
    (∀ sign : Option Text,
      (Comparison.clause { sign, version := l }).toOption =
        (Comparison.clause { sign, version := l' }).toOption) ∧
    ∀ other : Literal,
      (DashRange.clause { lower := l, upper := other }).toOption =
          (DashRange.clause { lower := l', upper := other }).toOption ∧
        (DashRange.clause { lower := other, upper := l }).toOption =
          (DashRange.clause { lower := other, upper := l' }).toOption := by
  refine ⟨h.toOption_comparison_eq hl.isWellFormed hl'.isWellFormed, fun other => ⟨?_, ?_⟩⟩
  · simp only [DashRange.toOption_clause, h.toOption_lowest_eq hl.isWellFormed hl'.isWellFormed]
  · simp only [DashRange.toOption_clause, h.toOption_highest_eq hl.isWellFormed hl'.isWellFormed]

/-- A zero in front, digits of another script and other wildcards make no difference: two
literals that have not one field in common make the same range. -/
theorem spellings_make_one_range :
    ∃ (l l' : Literal) (caret dash : Clause),
      Literal.read? "v\u0660\u0661.x".toList = some (l, []) ∧
      Literal.read? "1.*.X".toList = some (l', []) ∧ l.IsRespelling l' ∧
      Comparison.clause { sign := some ['^'], version := l } = .ok caret ∧
      (Comparison.clause { sign := some ['^'], version := l' }).toOption = some caret ∧
      DashRange.clause { lower := l, upper := l } = .ok dash ∧
      (DashRange.clause { lower := l', upper := l }).toOption = some dash := by
  let l : Literal :=
    { major := some ['\u0660', '\u0661'], minor := some ['x'], text := "v\u0660\u0661.x".toList }
  let l' : Literal :=
    { major := some ['1'], minor := some ['*'], patch := some ['X'], text := "1.*.X".toList }
  let caret : Clause :=
    { kind := .comparison .caret, guardsPreReleases := true,
      interval := { lower := .ofTriple (1, 0, 0), upper := .ofTriple (2, 0, 0), hasUpper := false } }
  let dash : Clause :=
    { kind := .dash, releasesOnly := true,
      interval := { lower := .ofTriple (1, 0, 0), upper := .ofTriple (2, 0, 0) } }
  have hl : Literal.read? "v\u0660\u0661.x".toList = some (l, []) := by decide
  have hl' : Literal.read? "1.*.X".toList = some (l', []) := by decide
  have hcaret : Comparison.clause { sign := some ['^'], version := l } = .ok caret := by decide
  have hdash : DashRange.clause { lower := l, upper := l } = .ok dash := by decide
  have h : l.IsRespelling l' :=
    { major := .numbers ⟨by decide, List.all_eq_true.mp (by decide)⟩
        ⟨by decide, List.all_eq_true.mp (by decide)⟩ (by decide)
      minor := .opens (by decide) (by decide)
      patch := .opens (by decide) (by decide)
      preRelease := rfl
      build := rfl }
  obtain ⟨hcomparison, hrange⟩ := toOption_clause_of_isRespelling ⟨_, _, hl⟩ ⟨_, _, hl'⟩ h
  refine ⟨l, l', caret, dash, hl, hl', h, hcaret, ?_, hdash, ?_⟩
  · rw [← hcomparison, hcaret]
    rfl
  · rw [← (hrange l).1, hdash]
    rfl

end SemverRange
