/-
SemverRange/Proofs/Meaning.lean

Which literals have a meaning.

There are four reasons for which a literal has none (`Literal.IsMeaningless`): it is for
all versions but gives more, it gives a patch number behind an open minor number, it has
tags although a field is open, or a number in its pre-release has a zero in front.  The
first three are what the check of its fields finds (`Literal.isSome_fault?_iff`), and the
last is all that can keep its identifiers from a version.  A literal without either has
all its bounds (`Literal.IsSound`), and each of these needs both checks; so every operator
asks the same of its literal, and a dash range asks it of both of its own
(`clause_eq_error_iff_isMeaningless`).
-/
import SemverRange.Proofs.AnyVersion
import SemverRange.Proofs.OpenFields
import SemverRange.Proofs.Outcome

namespace SemverRange

/-! ### Open fields -/

/-- Whether a field leaves its number open: it is missing, or a wildcard. -/
def IsOpenField (field : Option Text) : Prop :=
  field = none ∨ ∃ c ∈ wildcardMarks, field = some [c]

instance (field : Option Text) : Decidable (IsOpenField field) :=
  decidable_of_iff (field = none ∨ field ∈ wildcardMarks.map fun c => some [c]) <| by
    simp [IsOpenField, eq_comm]

theorem isWildcard_iff_isOpenField {field : Option Text} (hfield : ∀ s ∈ field, IsField s) :
    isWildcard field = true ↔ IsOpenField field := by
  rcases field with - | s
  · simp [IsOpenField, isWildcard]
  · rcases hfield s rfl with ⟨hne, hdigits⟩ | ⟨c, hc, rfl⟩
    · have hgiven : isWildcard (some s) = false := isWildcard_of_digits hne hdigits
      refine iff_of_false (by simp [hgiven]) ?_
      rintro (hnone | ⟨c, hc, hs⟩)
      · cases hnone
      · rw [hs, isWildcard_of_mem_wildcardMarks hc] at hgiven
        cases hgiven
    · exact iff_of_true (isWildcard_of_mem_wildcardMarks hc) (.inr ⟨c, hc, rfl⟩)

/-! ### Zeros in front -/

theorem Identifier.hasLeadingZero_iff {i : Identifier} :
    i.hasLeadingZero = true ↔
      (∀ c ∈ i, Text.isDigit c = true) ∧ 1 < i.length ∧ i.head? = some '0' := by
  rcases i with - | ⟨c, - | ⟨d, i⟩⟩
  · simp [hasLeadingZero, isNumeric]
  · simp [hasLeadingZero, isNumeric]
  · simp [hasLeadingZero, isNumeric]

theorem preReleaseFault?_eq_none_iff {ids : List Identifier} (hids : ∀ i ∈ ids, i ≠ []) :
    preReleaseFault? ids = none ↔ ∀ i ∈ ids, i.hasLeadingZero = false := by
  constructor
  · intro h i hi
    exact (sound_of_preReleaseFault?_eq_none h i hi).2
  · intro h
    rw [preReleaseFault?, List.findSome?_eq_none_iff]
    intro i hi
    simp [hids i hi, h i hi]

namespace Literal

/-! ### Reasons -/

/-- Why a literal has no meaning. -/
inductive IsMeaningless (l : Literal) : Prop
  /-- It stands for all versions, and gives something more. -/
  | anyAndMore (hmajor : IsOpenField l.major)
      (hmore : ¬ IsOpenField l.minor ∨ ¬ IsOpenField l.patch ∨ l.preRelease ≠ [] ∨ l.build ≠ [])
  /-- A patch number is given, and the minor number is open. -/
  | patchBehindOpen (hminor : IsOpenField l.minor) (hpatch : ¬ IsOpenField l.patch)
  /-- There are tags, and the minor or the patch number is open. -/
  | tagsBehindOpen (hopen : IsOpenField l.minor ∨ IsOpenField l.patch)
      (htags : l.preRelease ≠ [] ∨ l.build ≠ [])
  /-- A number in the pre-release has a zero in front that could be left out. -/
  | zeroInFront {i : Identifier} (hi : i ∈ l.preRelease)
      (hdigits : ∀ c ∈ i, Text.isDigit c = true) (hlength : 1 < i.length)
      (hzero : i.head? = some '0')

instance (l : Literal) : Decidable l.IsMeaningless :=
  decidable_of_iff
    ((IsOpenField l.major ∧
        (¬ IsOpenField l.minor ∨ ¬ IsOpenField l.patch ∨ l.preRelease ≠ [] ∨ l.build ≠ [])) ∨
      (IsOpenField l.minor ∧ ¬ IsOpenField l.patch) ∨
      ((IsOpenField l.minor ∨ IsOpenField l.patch) ∧ (l.preRelease ≠ [] ∨ l.build ≠ [])) ∨
      ∃ i ∈ l.preRelease, i.all Text.isDigit = true ∧ 1 < i.length ∧ i.head? = some '0')
    ⟨fun
      | .inl ⟨hmajor, hmore⟩ => .anyAndMore hmajor hmore
      | .inr (.inl ⟨hminor, hpatch⟩) => .patchBehindOpen hminor hpatch
      | .inr (.inr (.inl ⟨hopen, htags⟩)) => .tagsBehindOpen hopen htags
      | .inr (.inr (.inr ⟨_, hi, hdigits, hlength, hzero⟩)) =>
        .zeroInFront hi (List.all_eq_true.mp hdigits) hlength hzero,
    fun
      | .anyAndMore hmajor hmore => .inl ⟨hmajor, hmore⟩
      | .patchBehindOpen hminor hpatch => .inr (.inl ⟨hminor, hpatch⟩)
      | .tagsBehindOpen hopen htags => .inr (.inr (.inl ⟨hopen, htags⟩))
      | .zeroInFront hi hdigits hlength hzero =>
        .inr (.inr (.inr ⟨_, hi, List.all_eq_true.mpr hdigits, hlength, hzero⟩))⟩

/-- Whether nothing stands against the bounds of a literal. -/
structure IsSound (l : Literal) : Prop where
  fault : l.fault? = none
  preRelease : preReleaseFault? l.preRelease = none

variable {l : Literal}

theorem isTagged_iff : l.isTagged = true ↔ l.preRelease ≠ [] ∨ l.build ≠ [] := by
  simp [isTagged]

/-- A major number that is given has digits only. -/
theorem IsWellFormed.isDigitLike_major (hl : l.IsWellFormed) (hany : l.isAny = false) :
    (Text.strip (l.major.getD [])).all Text.isDigitLike = true := by
  obtain ⟨s, hs, ⟨-, hdigits⟩ | ⟨c, hc, rfl⟩⟩ := hl.major
  · have hstrip : Text.strip s = s :=
      Text.trim_eq_self fun c hc => Text.isBlank_eq_false_of_isDigit (hdigits c hc)
    rw [hs, Option.getD_some, hstrip, List.all_eq_true]
    intro c hc
    simp [Text.isDigitLike, hdigits c hc]
  · rw [isAny, hs, isWildcard_of_mem_wildcardMarks hc] at hany
    cases hany

/-- What the check of the fields finds. -/
theorem isSome_fault?_iff (hl : l.IsWellFormed) :
    l.fault?.isSome = true ↔
      l.isAny = true ∧
          (isWildcard l.minor = false ∨ isWildcard l.patch = false ∨ l.isTagged = true) ∨
        isWildcard l.minor = true ∧ isWildcard l.patch = false ∨
          (isWildcard l.minor = true ∨ isWildcard l.patch = true) ∧ l.isTagged = true := by
  rw [fault?]
  rcases hany : l.isAny with - | -
  · rw [if_neg (by decide), hl.isDigitLike_major hany, if_neg (by decide)]
    cases isWildcard l.minor <;> cases isWildcard l.patch <;> cases l.isTagged <;> simp
  · rw [if_pos rfl]
    cases isWildcard l.minor <;> cases isWildcard l.patch <;> cases l.isTagged <;> simp

/-- **The reasons are what the checks find.** -/
theorem isMeaningless_iff (hl : l.IsWellFormed) : l.IsMeaningless ↔ ¬ l.IsSound := by
  have hmajor : l.isAny = true ↔ IsOpenField l.major := isWildcard_iff_isOpenField hl.isField_major
  have hminor := isWildcard_iff_isOpenField hl.minor
  have hpatch := isWildcard_iff_isOpenField hl.patch
  have hfault := isSome_fault?_iff hl
  rw [← Bool.not_eq_true, ← Bool.not_eq_true, isTagged_iff, hmajor, hminor, hpatch] at hfault
  have hzeros := preReleaseFault?_eq_none_iff fun i hi => (hl.preRelease i hi).1
  constructor
  · rintro h ⟨hnone, hpre⟩
    rw [hnone] at hfault
    cases h with
    | anyAndMore hmajor hmore => exact absurd (hfault.mpr (.inl ⟨hmajor, hmore⟩)) (by decide)
    | patchBehindOpen hminor hpatch =>
      exact absurd (hfault.mpr (.inr (.inl ⟨hminor, hpatch⟩))) (by decide)
    | tagsBehindOpen hopen htags =>
      exact absurd (hfault.mpr (.inr (.inr ⟨hopen, htags⟩))) (by decide)
    | zeroInFront hi hdigits hlength hzero =>
      have hleading := Identifier.hasLeadingZero_iff.mpr ⟨hdigits, hlength, hzero⟩
      rw [hzeros.mp hpre _ hi] at hleading
      cases hleading
  · intro hnot
    by_cases hnone : l.fault? = none
    · -- the fields are in order, so a number of the pre-release is not
      have hpre : ¬ ∀ i ∈ l.preRelease, i.hasLeadingZero = false := fun h =>
        hnot ⟨hnone, hzeros.mpr h⟩
      simp only [not_forall, exists_prop, Bool.not_eq_false] at hpre
      obtain ⟨i, hi, hleading⟩ := hpre
      obtain ⟨hdigits, hlength, hzero⟩ := Identifier.hasLeadingZero_iff.mp hleading
      exact .zeroInFront hi hdigits hlength hzero
    · rcases hfault.mp (Option.isSome_iff_ne_none.mpr hnone) with
        ⟨hany, hmore⟩ | ⟨hopen, hgiven⟩ | ⟨hopen, htags⟩
      · exact .anyAndMore hany hmore
      · exact .patchBehindOpen hopen hgiven
      · exact .tagsBehindOpen hopen htags

/-! ### Bounds -/

/-- The literal for all versions has no pre-release that could be unsound. -/
theorem isSound_of_isAny (hany : l.isAny = true) (hfault : l.fault? = none) : l.IsSound where
  fault := hfault
  preRelease := by
    rw [(untagged_of_isAny hany hfault).1]
    rfl

theorem isSound_of_boundBy (hl : l.IsWellFormed) (hany : l.isAny = true) {ofAny v : Version}
    {ofNumbers : Int × Int × Int → Except MeaningError Version}
    (h : l.boundBy ofAny ofNumbers = .ok v) : l.IsSound :=
  isSound_of_isAny hany ((check_eq_ok_iff hl).mp (check_of_boundBy h))

/-- A literal has a lowest version just in case it is sound. -/
theorem exists_lowest_iff (hl : l.IsWellFormed) : (∃ low, l.lowest = .ok low) ↔ l.IsSound := by
  rcases hany : l.isAny with - | -
  · constructor
    · rintro ⟨low, hlow⟩
      obtain ⟨hfault, hpre, -⟩ := (lowest_eq_ok_iff hl hany).mp hlow
      exact ⟨hfault, hpre⟩
    · rintro ⟨hfault, hpre⟩
      exact ⟨l.version, (lowest_eq_ok_iff hl hany).mpr ⟨hfault, hpre, rfl⟩⟩
  · constructor
    · rintro ⟨low, hlow⟩
      exact isSound_of_boundBy hl hany hlow
    · rintro ⟨hfault, -⟩
      exact ⟨.least, boundBy_of_isAny ((check_eq_ok_iff hl).mpr hfault) hany⟩

/-- And it has an upper bound in the same case. -/
theorem exists_highest_iff (hl : l.IsWellFormed) : (∃ high, l.highest = .ok high) ↔ l.IsSound := by
  rcases hany : l.isAny with - | -
  · constructor
    · rintro ⟨high, h⟩
      have hfault : l.fault? = none := (check_eq_ok_iff hl).mp (check_of_boundBy h)
      rcases highest_cases hl hany hfault with ⟨-, hmeet⟩ | ⟨hopen, -⟩
      · exact (exists_lowest_iff hl).mp ⟨high, hmeet ▸ h⟩
      · refine ⟨hfault, ?_⟩
        rw [(untagged_of_fault?_eq_none hany hfault (.inr hopen)).1]
        rfl
    · intro h
      rcases highest_cases hl hany h.fault with ⟨-, hmeet⟩ | ⟨-, hnext⟩
      · rw [hmeet]
        exact (exists_lowest_iff hl).mpr h
      · exact ⟨_, hnext⟩
  · constructor
    · rintro ⟨high, h⟩
      exact isSound_of_boundBy hl hany h
    · rintro ⟨hfault, -⟩
      exact ⟨.greatest, boundBy_of_isAny ((check_eq_ok_iff hl).mpr hfault) hany⟩

/-- No operator asks for more than that. -/
theorem IsSound.exists_intervalFrom (h : l.IsSound) (hl : l.IsWellFormed) (o : Operator)
    (low : Version) : ∃ i, o.intervalFrom l low = .ok i := by
  cases o with
  | greater | less | greaterOrEqual | lessOrEqual => exact ⟨_, rfl⟩
  | tilde =>
    rw [Operator.intervalFrom, tildeBound_eq_ok hl]
    exact ⟨_, rfl⟩
  | caret =>
    rw [Operator.intervalFrom, caretBound_eq_ok hl]
    exact ⟨_, rfl⟩
  | equal =>
    obtain ⟨high, hhigh⟩ := (exists_highest_iff hl).mpr h
    rw [Operator.intervalFrom, hhigh]
    exact ⟨_, rfl⟩

end Literal

/-! ### Clauses -/

/-- Under every operator a literal has a clause just in case it is sound. -/
theorem Comparison.exists_clauseFor_iff {l : Literal} (hl : l.IsWellFormed) (o : Operator) :
    (∃ c, clauseFor o l = .ok c) ↔ l.IsSound := by
  rcases hany : l.isAny with - | -
  · simp only [clauseFor_eq_ok_iff hany]
    constructor
    · rintro ⟨-, low, -, hlow, -, -⟩
      exact (Literal.exists_lowest_iff hl).mp ⟨low, hlow⟩
    · intro h
      obtain ⟨low, hlow⟩ := (Literal.exists_lowest_iff hl).mpr h
      obtain ⟨i, hi⟩ := h.exists_intervalFrom hl o low
      exact ⟨_, low, i, hlow, hi, rfl⟩
  · rw [clauseFor, hany]
    constructor
    · rintro ⟨c, h⟩
      obtain ⟨⟨⟩, hcheck, -⟩ := bind_eq_ok_iff.mp h
      exact Literal.isSound_of_isAny hany ((Literal.check_eq_ok_iff hl).mp hcheck)
    · rintro ⟨hfault, -⟩
      rw [(Literal.check_eq_ok_iff hl).mpr hfault]
      exact ⟨o.clauseOfAny, rfl⟩

/-- A dash range has a clause just in case both of its literals are sound. -/
theorem DashRange.exists_clause_iff {d : DashRange} (hlower : d.lower.IsWellFormed)
    (hupper : d.upper.IsWellFormed) :
    (∃ c, d.clause = .ok c) ↔ d.lower.IsSound ∧ d.upper.IsSound := by
  simp only [clause_eq_ok_iff]
  rw [← Literal.exists_lowest_iff hlower, ← Literal.exists_highest_iff hupper]
  constructor
  · rintro ⟨-, low, high, hlow, hhigh, -⟩
    exact ⟨⟨low, hlow⟩, ⟨high, hhigh⟩⟩
  · rintro ⟨⟨low, hlow⟩, ⟨high, hhigh⟩⟩
    exact ⟨_, low, high, hlow, hhigh, rfl⟩

/-- **A literal has a meaning or not, whatever stands in front of it.**  Without a sign, and
behind each of the signs, a comparison is rejected just in case its literal is meaningless,
and has a clause otherwise; and a dash range has a clause just in case neither of its
literals is. -/
theorem clause_eq_error_iff_isMeaningless :
    (∀ l : Literal, l.IsRead → ∀ sign : Option Text,
      (∀ s ∈ sign, s ∈ Operator.signs.map Prod.fst) →
        ((∃ fragment, Comparison.clause { sign, version := l } = .error (.rejected fragment)) ↔
          l.IsMeaningless) ∧
        ((∃ c, Comparison.clause { sign, version := l } = .ok c) ↔ ¬ l.IsMeaningless)) ∧
    ∀ a b : Literal, a.IsRead → b.IsRead →
      ((∃ c, DashRange.clause { lower := a, upper := b } = .ok c) ↔
        ¬ a.IsMeaningless ∧ ¬ b.IsMeaningless) := by
  refine ⟨?_, ?_⟩
  · intro l hl sign hsign
    obtain ⟨o, ho⟩ : ∃ o, Operator.ofSign? sign = some o := by
      rcases sign with - | s
      · exact ⟨.equal, rfl⟩
      · exact Option.isSome_iff_exists.mp (isSome_ofSign?_of_mem (hsign s rfl))
    simp only [Comparison.clause, ho]
    have hok : (∃ c, Comparison.clauseFor o l = .ok c) ↔ ¬ l.IsMeaningless := by
      rw [Literal.isMeaningless_iff hl.isWellFormed, not_not]
      exact Comparison.exists_clauseFor_iff hl.isWellFormed o
    refine ⟨⟨?_, ?_⟩, hok⟩
    · rintro ⟨fragment, herror⟩
      by_contra hmeaning
      obtain ⟨c, hc⟩ := hok.mpr hmeaning
      rw [herror] at hc
      cases hc
    · intro hmeaningless
      rcases hclause : Comparison.clauseFor o l with e | c
      · -- the numbers of a literal that was read are numbers
        rcases Literal.isBlamedBy_of_clauseFor hl.isWellFormed hclause with rfl | rfl
        · exact ⟨_, rfl⟩
        · exact ⟨_, rfl⟩
      · exact absurd hmeaningless (hok.mp ⟨c, hclause⟩)
  · intro a b ha hb
    rw [Literal.isMeaningless_iff ha.isWellFormed, Literal.isMeaningless_iff hb.isWellFormed,
      not_not, not_not]
    exact DashRange.exists_clause_iff ha.isWellFormed hb.isWellFormed

/-- A zero in front of a number matters in the pre-release, and not in the build metadata;
and a range is refused for either of its ends. -/
theorem zero_in_front_is_meaningless :
    ∃ bad good : Literal,
      Literal.read? "1.2.3-rc.01".toList = some (bad, []) ∧
      Literal.read? "v1.2.3-0+01".toList = some (good, []) ∧
      (∃ fragment, Comparison.clause { sign := some ['<', '='], version := bad }
        = .error (.rejected fragment)) ∧
      (∃ c, Comparison.clause { sign := none, version := good } = .ok c) ∧
      (∃ c, DashRange.clause { lower := good, upper := good } = .ok c) ∧
      ¬ ∃ c, DashRange.clause { lower := good, upper := bad } = .ok c := by
  let bad : Literal :=
    { major := some ['1'], minor := some ['2'], patch := some ['3'],
      preRelease := [['r', 'c'], ['0', '1']], text := "1.2.3-rc.01".toList }
  let good : Literal :=
    { major := some ['1'], minor := some ['2'], patch := some ['3'], preRelease := [['0']],
      build := [['0', '1']], text := "v1.2.3-0+01".toList }
  have hbad : Literal.read? "1.2.3-rc.01".toList = some (bad, []) := by decide
  have hgood : Literal.read? "v1.2.3-0+01".toList = some (good, []) := by decide
  have hmeaningless : bad.IsMeaningless := by decide
  have hmeaning : ¬ good.IsMeaningless := by decide
  obtain ⟨hcomparison, hrange⟩ := clause_eq_error_iff_isMeaningless
  refine ⟨bad, good, hbad, hgood, ?_, ?_, ?_, ?_⟩
  · exact (hcomparison bad ⟨_, _, hbad⟩ _ (by decide)).1.mpr hmeaningless
  · exact (hcomparison good ⟨_, _, hgood⟩ _ (by simp)).2.mpr hmeaning
  · exact (hrange good good ⟨_, _, hgood⟩ ⟨_, _, hgood⟩).mpr ⟨hmeaning, hmeaning⟩
  · exact fun h => ((hrange good bad ⟨_, _, hgood⟩ ⟨_, _, hbad⟩).mp h).2 hmeaningless

end SemverRange
