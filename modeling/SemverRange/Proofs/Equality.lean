/-
SemverRange/Proofs/Equality.lean

Equality beside the other operators.

An end that belongs to an interval brings along what is equivalent to it, and nothing more
(`Interval.contains_hasUpper_iff`, `Interval.contains_hasLower_iff`).  An equality on a
literal with all fields given has the interval from a version to itself, so it takes just
the versions that an end brings along: a comparator with an equals sign takes what the bare
comparator takes and what equality takes (`isMetBy_orEqual_iff`).  That holds wherever the
version stands, also where the interval of a comparator is in the wrong order.

An equality on a literal with open fields has the interval of a tilde.  Of releases either
takes those that agree with the fields that are given (`isMetBy_equal_release_iff`).
-/
import SemverRange.Proofs.Meaning

namespace SemverRange

/-! ### Ends that belong to an interval -/

namespace Interval

/-- The upper end, if it belongs to an interval, brings along what is equivalent to it. -/
theorem contains_hasUpper_iff {low high v : Version} {b : Bool} :
    Interval.contains { lower := low, upper := high, hasLower := b } v = true ↔
      Interval.contains { lower := low, upper := high, hasLower := b, hasUpper := false } v
          = true ∨
        v.isEquivalentTo high = true := by
  simp only [contains, Bool.true_and, Bool.false_and, Bool.or_false, Bool.or_eq_true]
  exact or_right_comm

/-- And so does the lower end. -/
theorem contains_hasLower_iff {low high v : Version} {b : Bool} :
    Interval.contains { lower := low, upper := high, hasUpper := b } v = true ↔
      Interval.contains { lower := low, upper := high, hasLower := false, hasUpper := b } v
          = true ∨
        v.isEquivalentTo low = true := by
  simp only [contains, Bool.true_and, Bool.false_and, Bool.false_or, Bool.or_eq_true]
  rw [or_assoc, or_comm]

end Interval

/-! ### Literals with a clause -/

/-- A literal that has a clause under some sign is sound. -/
theorem Comparison.isSound_of_clause_eq_ok {l : Literal} (hl : l.IsWellFormed)
    {sign : Option Text} {c : Clause} (hc : Comparison.clause { sign, version := l } = .ok c) :
    l.IsSound := by
  rw [clause] at hc
  split at hc
  · cases hc
  · exact (exists_clauseFor_iff hl _).mp ⟨c, hc⟩

/-- A sound literal has the version that it writes for its lowest. -/
theorem Literal.IsSound.lowest_eq_ok {l : Literal} (h : l.IsSound) (hl : l.IsWellFormed)
    (hany : l.isAny = false) : l.lowest = .ok l.version :=
  (lowest_eq_ok_iff hl hany).mpr ⟨h.fault, h.preRelease, rfl⟩

/-- With all fields given, equality takes what is equivalent to the version of the literal. -/
theorem clause_equal_of_given {l : Literal} (hl : l.IsWellFormed) (h : l.IsSound)
    (hany : l.isAny = false) (hminor : isWildcard l.minor = false)
    (hpatch : isWildcard l.patch = false) {sign : Option Text}
    (hsign : Operator.ofSign? sign = some .equal) :
    ∃ c, Comparison.clause { sign, version := l } = .ok c ∧
      ∀ v, c.isMetBy v = v.isEquivalentTo l.version := by
  have hlow : l.lowest = .ok l.version := h.lowest_eq_ok hl hany
  have hi : Operator.equal.intervalFrom l l.version
      = .ok { lower := l.version, upper := l.version, hasUpper := false } := by
    rw [Operator.intervalFrom, Literal.highest_eq_lowest hany hminor hpatch, hlow]
    rfl
  obtain ⟨c, hc, hmeets⟩ := clause_comparator hany hlow hsign (by decide) (by decide) hi
  refine ⟨c, hc, fun v => ?_⟩
  rw [hmeets, Interval.contains_to_itself]

/-! ### Comparators with an equals sign -/

/-- **An equals sign adds what equality takes.**  Let a literal with all fields given, with
or without tags, have a clause under some sign.  Then it has one under each of the
comparators and as an equality; and `<=` takes a version just in case `<` or equality does,
`>=` just in case `>` or equality does.  No place is left out: versions below the least and
beyond the greatest count as any other. -/
theorem isMetBy_orEqual_iff {l : Literal} (hl : l.IsRead) (hany : l.isAny = false)
    (hminor : isWildcard l.minor = false) (hpatch : isWildcard l.patch = false)
    {sign : Option Text} {c : Clause} (hc : Comparison.clause { sign, version := l } = .ok c)
    {equals : Option Text} (hequals : Operator.ofSign? equals = some .equal) :
    ∃ equal less lessOrEqual greater greaterOrEqual : Clause,
      Comparison.clause { sign := equals, version := l } = .ok equal ∧
      Comparison.clause { sign := some ['<'], version := l } = .ok less ∧
      Comparison.clause { sign := some ['<', '='], version := l } = .ok lessOrEqual ∧
      Comparison.clause { sign := some ['>'], version := l } = .ok greater ∧
      Comparison.clause { sign := some ['>', '='], version := l } = .ok greaterOrEqual ∧
      ∀ v : Version,
        (lessOrEqual.isMetBy v = true ↔ less.isMetBy v = true ∨ equal.isMetBy v = true) ∧
        (greaterOrEqual.isMetBy v = true ↔ greater.isMetBy v = true ∨ equal.isMetBy v = true) := by
  have hsound : l.IsSound := Comparison.isSound_of_clause_eq_ok hl.isWellFormed hc
  have hlow : l.lowest = .ok l.version := hsound.lowest_eq_ok hl.isWellFormed hany
  obtain ⟨equal, hequal, hmeets⟩ :=
    clause_equal_of_given hl.isWellFormed hsound hany hminor hpatch hequals
  obtain ⟨⟨greater, hgreater, hmeets₁⟩, ⟨greaterOrEqual, hgreaterOrEqual, hmeets₂⟩,
    ⟨less, hless, hmeets₃⟩, ⟨lessOrEqual, hlessOrEqual, hmeets₄⟩⟩ := clause_comparators hany hlow
  refine ⟨equal, less, lessOrEqual, greater, greaterOrEqual, hequal, hless, hlessOrEqual,
    hgreater, hgreaterOrEqual, fun v => ⟨?_, ?_⟩⟩
  · rw [hmeets, hmeets₃, hmeets₄]
    exact Interval.contains_hasUpper_iff
  · rw [hmeets, hmeets₁, hmeets₂]
    exact Interval.contains_hasLower_iff

/-- Beyond the greatest version the interval of `>=` is in the wrong order, and so is that
of `<=` for a pre-release of the least.  There only equality is left to either of them. -/
theorem orEqual_meets_beyond_the_ends :
    ∃ (l : Literal) (greater greaterOrEqual : Clause) (v : Version),
      Literal.read? "9223372036854775808.0.0 -rc.1+b".toList = some (l, []) ∧
      Version.ofText "9223372036854775808.0.0-rc.1".toList = .ok v ∧
      Comparison.clause { sign := some ['>'], version := l } = .ok greater ∧
      greater.isMetBy v = false ∧
      Comparison.clause { sign := some ['>', '='], version := l } = .ok greaterOrEqual ∧
      greaterOrEqual.isMetBy v = true := by
  let l : Literal :=
    { major := some "9223372036854775808".toList, minor := some ['0'], patch := some ['0'],
      preRelease := [['r', 'c'], ['1']], build := [['b']],
      text := "9223372036854775808.0.0 -rc.1+b".toList }
  let v : Version :=
    { major := 9223372036854775808, minor := 0, patch := 0, preRelease := [['r', 'c'], ['1']] }
  let bare : Clause :=
    { kind := .comparison .greater,
      interval := { lower := l.version, upper := .greatest, hasLower := false } }
  let same : Clause :=
    { kind := .comparison .equal,
      interval := { lower := l.version, upper := l.version, hasUpper := false } }
  have hl : Literal.read? "9223372036854775808.0.0 -rc.1+b".toList = some (l, []) := by decide
  have hv : Version.ofText "9223372036854775808.0.0-rc.1".toList = .ok v := by decide
  have hbare : Comparison.clause { sign := some ['>'], version := l } = .ok bare := by decide
  have hsame : Comparison.clause { sign := none, version := l } = .ok same := by decide
  obtain ⟨equal, _, _, _, greaterOrEqual, hequal, -, -, -, hc, hall⟩ :=
    isMetBy_orEqual_iff ⟨_, _, hl⟩ (by decide) (by decide) (by decide) hbare
      (rfl : Operator.ofSign? none = some .equal)
  have hmet : equal.isMetBy v = true := by
    rw [Except.ok.inj (hequal.symm.trans hsame)]
    decide
  exact ⟨l, bare, greaterOrEqual, v, hl, hv, hbare, by decide, hc, (hall v).2.mpr (.inr hmet)⟩

/-! ### Equality on releases -/

/-- To releases the guard of a tilde does not matter. -/
theorem isMetBy_tilde_of_release {l : Literal} (hl : l.IsWellFormed) (hany : l.isAny = false)
    {c : Clause} (hc : Comparison.clauseFor .tilde l = .ok c) {v : Version}
    (hrelease : v.preRelease = []) : c.isMetBy v = l.openInterval.contains v := by
  obtain ⟨-, rfl⟩ := clauseFor_tilde_or_caret hl hany (.inl ⟨rfl, rfl⟩) hc
  simp [Clause.isMetBy, Version.isPreRelease, hrelease, Literal.openInterval]

/-- **Of releases, equality takes those that agree with the literal.**  Let a literal with a
given major number and no pre-release have a clause under some sign.  Then it has one as an
equality and one under a tilde.  Where the minor or the patch number is open, the two take
the same releases, whatever their numbers.  And of the releases without negative numbers,
with build metadata or without and however large, equality takes those that agree with all
the fields that are given.  A release is canonical whatever its numbers; one from text has no
negative ones (`Version.nonneg_of_ofText`), so all of this holds of it. -/
theorem isMetBy_equal_release_iff {l : Literal} (hl : l.IsRead) (hany : l.isAny = false)
    (hpre : l.preRelease = []) {sign : Option Text} {c : Clause}
    (hc : Comparison.clause { sign, version := l } = .ok c)
    {equals : Option Text} (hequals : Operator.ofSign? equals = some .equal) :
    ∃ equal tilde : Clause,
      Comparison.clause { sign := equals, version := l } = .ok equal ∧
      Comparison.clause { sign := some ['~'], version := l } = .ok tilde ∧
      ∀ v : Version, v.preRelease = [] →
        (isWildcard l.minor = true ∨ isWildcard l.patch = true →
          (tilde.isMetBy v = true ↔ equal.isMetBy v = true)) ∧
        (0 ≤ v.minor → 0 ≤ v.patch → (equal.isMetBy v = true ↔ l.Covers v)) ∧
        ∀ s, Version.ofText s = .ok v → (equal.isMetBy v = true ↔ l.Covers v) := by
  have hl' : l.IsWellFormed := hl.isWellFormed
  have hsound : l.IsSound := Comparison.isSound_of_clause_eq_ok hl' hc
  obtain ⟨equal, hequal⟩ := (Comparison.exists_clauseFor_iff hl' .equal).mpr hsound
  obtain ⟨tilde, htilde⟩ := (Comparison.exists_clauseFor_iff hl' .tilde).mpr hsound
  have hclause : Comparison.clause { sign := equals, version := l } = .ok equal := by
    simp only [Comparison.clause, hequals, hequal]
  obtain ⟨high, hfault, hlow, hhigh, hmeets⟩ := clause_equal hl' hany hequals hclause
  refine ⟨equal, tilde, hclause, htilde, fun v hrelease => ?_⟩
  have hcovers : 0 ≤ v.minor → 0 ≤ v.patch → (equal.isMetBy v = true ↔ l.Covers v) := by
    rw [hmeets]
    exact Literal.contains_release_iff_covers_of_highest hl' hany hlow hpre hhigh hrelease
  refine ⟨fun hopen => ?_, hcovers, fun s hv => ?_⟩
  · -- with an open field both have the interval up to the release that follows
    have hpatch : isWildcard l.patch = true :=
      hopen.elim (Literal.isWildcard_patch_of_minor hany hfault) id
    obtain rfl : .ofTriple l.tildeLimit = high :=
      Except.ok.inj ((Literal.highest_of_open hl' hany hfault hpatch).symm.trans hhigh)
    rw [isMetBy_tilde_of_release hl' hany htilde hrelease, hmeets, Literal.openInterval]
  · obtain ⟨-, hvminor, hvpatch⟩ := Version.nonneg_of_ofText hv
    exact hcovers hvminor hvpatch

/-- With the minor number open, equality and tilde take a release that has build metadata
and a minor number beyond the numbers of the greatest version. -/
theorem open_minor_takes_large_numbers :
    ∃ (l : Literal) (equal tilde : Clause) (v : Version),
      Literal.read? "v1.X".toList = some (l, []) ∧
      Comparison.clause { sign := some ['='], version := l } = .ok equal ∧
      Comparison.clause { sign := some ['~'], version := l } = .ok tilde ∧
      Version.ofText "1.9223372036854775808.3+b".toList = .ok v ∧
      equal.isMetBy v = true ∧ tilde.isMetBy v = true := by
  let l : Literal := { major := some ['1'], minor := some ['X'], text := "v1.X".toList }
  let v : Version := { major := 1, minor := 9223372036854775808, patch := 3, build := [['b']] }
  let atMost : Clause :=
    { kind := .comparison .lessOrEqual, interval := { lower := .least, upper := l.version } }
  have hl : Literal.read? "v1.X".toList = some (l, []) := by decide
  have hv : Version.ofText "1.9223372036854775808.3+b".toList = .ok v := by decide
  have hc : Comparison.clause { sign := some ['<', '='], version := l } = .ok atMost := by decide
  obtain ⟨equal, tilde, hequal, htilde, hall⟩ :=
    isMetBy_equal_release_iff ⟨_, _, hl⟩ (by decide) rfl hc
      (by decide : Operator.ofSign? (some ['=']) = some .equal)
  obtain ⟨hsame, -, hcovers⟩ := hall v rfl
  have hmet : equal.isMetBy v = true := (hcovers _ hv).mpr (by decide)
  exact ⟨l, equal, tilde, v, hl, hequal, htilde, hv, hmet, (hsame (.inl (by decide))).mpr hmet⟩

end SemverRange
