/-
SemverRange/Proofs/OpenFields.lean

What a literal with open fields takes as an equality.

The fields that a literal gives are those that a version has to agree with
(`Literal.Covers`).  Equality takes the half-open interval from the lowest version of the
literal to its upper bound, and no rule on pre-releases goes with it.  With the last field
open the upper bound is the release that follows all the versions the literal covers, so
its pre-releases are in the interval too: the literal spills over to them
(`Literal.SpillsTo`), and to nothing else (`isMetBy_equal`).  Of releases it takes
precisely those it covers.
-/
import SemverRange.Proofs.Comparators
import SemverRange.Proofs.ExactVersion

namespace SemverRange

namespace Literal

/-- Whether a version agrees with the fields that a literal gives. -/
structure Covers (l : Literal) (v : Version) : Prop where
  major : isWildcard l.major = false → v.major = fieldValue l.major
  minor : isWildcard l.minor = false → v.minor = fieldValue l.minor
  patch : isWildcard l.patch = false → v.patch = fieldValue l.patch

/-- Whether a literal with an open field spills over to a version: it is older than
`next`, the release that follows, though it agrees with it as far as the literal goes. -/
structure SpillsTo (l : Literal) (next v : Version) : Prop where
  isOpen : isWildcard l.patch = true
  isOlder : v.isOlderThan next = true
  major : v.major = next.major
  minor : isWildcard l.minor = false → v.minor = next.minor

instance (l : Literal) (v : Version) : Decidable (l.Covers v) :=
  decidable_of_iff
    ((isWildcard l.major = false → v.major = fieldValue l.major) ∧
      (isWildcard l.minor = false → v.minor = fieldValue l.minor) ∧
      (isWildcard l.patch = false → v.patch = fieldValue l.patch))
    ⟨fun ⟨hmajor, hminor, hpatch⟩ => ⟨hmajor, hminor, hpatch⟩,
      fun ⟨hmajor, hminor, hpatch⟩ => ⟨hmajor, hminor, hpatch⟩⟩

variable {l : Literal} {v : Version}

/-! ### Open fields -/

theorem fieldValue_of_isWildcard {field : Option Text} (h : isWildcard field = true) :
    fieldValue field = 0 := by
  rw [fieldValue, if_pos h]

/-- Fields are left open from the right. -/
theorem isWildcard_patch_of_minor (hany : l.isAny = false) (hfault : l.fault? = none)
    (hminor : isWildcard l.minor = true) : isWildcard l.patch = true := by
  rw [fault?, hany, if_neg (by decide)] at hfault
  split at hfault
  · cases hfault
  · split at hfault
    · cases hfault
    · rename_i hmixed
      simpa [hminor] using hmixed

/-- With an open field the upper bound is where a tilde would stop, too. -/
theorem highest_of_open (hl : l.IsWellFormed) (hany : l.isAny = false)
    (hfault : l.fault? = none) (hpatch : isWildcard l.patch = true) :
    l.highest = .ok (.ofTriple l.tildeLimit) := by
  rw [highest_eq_boundBy, boundBy_of_given ((check_eq_ok_iff hl).mpr hfault) hany,
    numbers_eq_ok hl, hpatch, tildeLimit]
  show (if isWildcard l.minor then l.release (l.base.1 + 1) 0 0
    else l.release l.base.1 (l.base.2.1 + 1) 0) = _
  split <;> rfl

/-- A patch number is given only where the minor number is. -/
theorem isWildcard_minor_of_patch (hany : l.isAny = false) (hfault : l.fault? = none)
    (hpatch : isWildcard l.patch = false) : isWildcard l.minor = false := by
  rw [Bool.eq_false_iff]
  intro hminor
  rw [isWildcard_patch_of_minor hany hfault hminor] at hpatch
  cases hpatch

/-- The bounds of a literal meet, or it has an open field. -/
theorem highest_cases (hl : l.IsWellFormed) (hany : l.isAny = false) (hfault : l.fault? = none) :
    isWildcard l.patch = false ∧ l.highest = l.lowest ∨
      isWildcard l.patch = true ∧ l.highest = .ok (.ofTriple l.tildeLimit) := by
  rcases hpatch : isWildcard l.patch with - | -
  · have hminor := isWildcard_minor_of_patch hany hfault hpatch
    exact .inl ⟨rfl, highest_eq_lowest hany hminor hpatch⟩
  · exact .inr ⟨rfl, highest_of_open hl hany hfault hpatch⟩

theorem tildeLimit_of_open (h : isWildcard l.minor = true) :
    l.tildeLimit = (l.base.1 + 1, 0, 0) := by
  rw [tildeLimit, if_pos h]

theorem tildeLimit_of_given (h : isWildcard l.minor = false) :
    l.tildeLimit = (l.base.1, l.base.2.1 + 1, 0) := by
  rw [tildeLimit, h]
  rfl

/-- From its own numbers up to the release that follows, a literal with an open field
covers a version or spills over to it. -/
theorem covers_or_spillsTo (hpatch : isWildcard l.patch = true)
    (hlow : l.base = v.triple ∨ Version.TripleBefore l.base v.triple)
    (hhigh : v.isOlderThan (.ofTriple l.tildeLimit) = true) :
    l.Covers v ∨ l.SpillsTo (.ofTriple l.tildeLimit) v := by
  have hplace := Version.isOlderThan_ofTriple_iff.mp hhigh
  rcases hminor : isWildcard l.minor with - | -
  · -- the patch alone is open: the minor number can be one too high
    rw [tildeLimit_of_given hminor] at hhigh hplace ⊢
    simp only [Version.TripleBefore, Version.triple, base, Prod.mk.injEq] at hlow hplace
    have hmajor : v.major = fieldValue l.major := by omega
    by_cases hcovered : v.minor = fieldValue l.minor
    · exact .inl ⟨fun _ => hmajor, fun _ => hcovered, by simp [hpatch]⟩
    · have hnext : v.minor = fieldValue l.minor + 1 := by omega
      exact .inr ⟨hpatch, hhigh, hmajor, fun _ => hnext⟩
  · -- the minor number is open as well: the major number can be one too high
    rw [tildeLimit_of_open hminor] at hhigh hplace ⊢
    simp only [Version.TripleBefore, Version.triple, base, Prod.mk.injEq] at hlow hplace
    by_cases hcovered : v.major = fieldValue l.major
    · exact .inl ⟨fun _ => hcovered, by simp [hminor], by simp [hpatch]⟩
    · have hnext : v.major = fieldValue l.major + 1 := by omega
      exact .inr ⟨hpatch, hhigh, hnext, by simp [hminor]⟩

/-- A version that a literal spills over to has higher numbers than the literal. -/
theorem SpillsTo.base_before (h : l.SpillsTo (.ofTriple l.tildeLimit) v) :
    Version.TripleBefore l.base v.triple := by
  have hmajor := h.major
  rcases hminor : isWildcard l.minor with - | -
  · have hnext := h.minor hminor
    rw [tildeLimit_of_given hminor] at hmajor hnext
    refine .inr ⟨hmajor.symm, .inl ?_⟩
    show l.base.2.1 < v.minor
    rw [hnext]
    exact Int.lt_succ _
  · rw [tildeLimit_of_open hminor] at hmajor
    left
    show l.base.1 < v.major
    rw [hmajor]
    exact Int.lt_succ _

/-- Without negative numbers, spilling over goes to pre-releases only. -/
theorem spillsTo_iff (hpatch : isWildcard l.patch = true) (hvminor : 0 ≤ v.minor)
    (hvpatch : 0 ≤ v.patch) :
    l.SpillsTo (.ofTriple l.tildeLimit) v ↔ v.triple = l.tildeLimit ∧ v.preRelease ≠ [] := by
  constructor
  · intro h
    rcases Version.isOlderThan_ofTriple_iff.mp h.isOlder with hbefore | hpre
    · exfalso
      have hmajor := h.major
      rcases hminor : isWildcard l.minor with - | -
      · have hnext := h.minor hminor
        rw [tildeLimit_of_given hminor] at hmajor hnext hbefore
        simp only [Version.TripleBefore, Version.triple, Version.major_ofTriple,
          Version.minor_ofTriple] at hmajor hnext hbefore
        omega
      · rw [tildeLimit_of_open hminor] at hmajor hbefore
        simp only [Version.TripleBefore, Version.triple, Version.major_ofTriple] at hmajor hbefore
        omega
    · exact hpre
  · rintro ⟨htriple, hpre⟩
    refine ⟨hpatch, Version.isOlderThan_ofTriple_iff.mpr (.inr ⟨htriple, hpre⟩), ?_, fun _ => ?_⟩
    · rw [← htriple]; rfl
    · rw [← htriple]; rfl

/-- Without negative numbers, what a literal with an open field covers is between its own
numbers and those of the release that follows. -/
theorem Covers.between (h : l.Covers v) (hany : l.isAny = false)
    (hpatch : isWildcard l.patch = true) (hvminor : 0 ≤ v.minor) (hvpatch : 0 ≤ v.patch) :
    (l.base = v.triple ∨ Version.TripleBefore l.base v.triple) ∧
      Version.TripleBefore v.triple l.tildeLimit := by
  have hmajor : v.major = fieldValue l.major := h.major hany
  have hzero : fieldValue l.patch = 0 := fieldValue_of_isWildcard hpatch
  rcases hminor : isWildcard l.minor with - | -
  · have hsame := h.minor hminor
    rw [tildeLimit_of_given hminor]
    simp only [Version.TripleBefore, Version.triple, base, Prod.mk.injEq]
    omega
  · have hzero' : fieldValue l.minor = 0 := fieldValue_of_isWildcard hminor
    rw [tildeLimit_of_open hminor]
    simp only [Version.TripleBefore, Version.triple, base, Prod.mk.injEq]
    omega

/-- A literal without open fields covers the versions with its numbers. -/
theorem covers_iff_of_given (hany : l.isAny = false) (hminor : isWildcard l.minor = false)
    (hpatch : isWildcard l.patch = false) : l.Covers v ↔ v.triple = l.base := by
  simp only [Version.triple, base, Prod.mk.injEq]
  constructor
  · intro h
    exact ⟨h.major hany, h.minor hminor, h.patch hpatch⟩
  · rintro ⟨hmajor', hminor', hpatch'⟩
    exact ⟨fun _ => hmajor', fun _ => hminor', fun _ => hpatch'⟩

/-! ### The interval of an open field -/

/-- What lies between a version and a release above it has the numbers for it. -/
theorem sides_of_contains {low : Version} {upper : Int × Int × Int}
    (hbefore : Version.TripleBefore low.triple upper)
    (h : Interval.contains { lower := low, upper := .ofTriple upper, hasUpper := false } v = true) :
    (low.triple = v.triple ∨ Version.TripleBefore low.triple v.triple) ∧
      v.isOlderThan (.ofTriple upper) = true := by
  rcases Interval.contains_halfOpen_iff.mp h with hequiv | ⟨hnewer, holder⟩
  · have htriple : v.triple = low.triple := (Version.isEquivalentTo_iff.mp hequiv).1
    exact ⟨.inl htriple.symm, Version.isOlderThan_ofTriple_iff.mpr (.inl (htriple ▸ hbefore))⟩
  · rcases Version.isOlderThan_iff.mp hnewer with hlow | ⟨htriple, -⟩
    · exact ⟨.inr hlow, holder⟩
    · exact ⟨.inl htriple, holder⟩

/-- The versions from the one that a literal writes to the release that follows. -/
def openInterval (l : Literal) : Interval :=
  { lower := l.version, upper := .ofTriple l.tildeLimit, hasUpper := false }

theorem covers_or_spillsTo_of_contains (hpatch : isWildcard l.patch = true)
    (h : l.openInterval.contains v = true) :
    l.Covers v ∨ l.SpillsTo (.ofTriple l.tildeLimit) v := by
  have hbefore : Version.TripleBefore l.version.triple l.tildeLimit := l.base_before_tildeLimit
  obtain ⟨hlow, hhigh⟩ := sides_of_contains hbefore h
  exact covers_or_spillsTo hpatch hlow hhigh

theorem SpillsTo.contains (h : l.SpillsTo (.ofTriple l.tildeLimit) v) :
    l.openInterval.contains v = true := by
  have hnewer : v.isNewerThan l.version = true :=
    Version.isOlderThan_iff.mpr (.inl h.base_before)
  exact Interval.contains_halfOpen_iff.mpr (.inr ⟨hnewer, h.isOlder⟩)

/-- Of releases the interval holds those that are covered. -/
theorem contains_release_iff_covers (hany : l.isAny = false) (hpatch : isWildcard l.patch = true)
    (hvminor : 0 ≤ v.minor) (hvpatch : 0 ≤ v.patch) (hrelease : v.preRelease = []) :
    l.openInterval.contains v = true ↔ l.Covers v := by
  constructor
  · intro h
    rcases covers_or_spillsTo_of_contains hpatch h with hcovers | hspills
    · exact hcovers
    · exact absurd hrelease ((spillsTo_iff hpatch hvminor hvpatch).mp hspills).2
  · intro h
    have hbetween := h.between hany hpatch hvminor hvpatch
    exact (contains_release_iff l.version hrelease l.base_before_tildeLimit).mpr hbetween

/-- Of releases, the versions up to the upper bound of a literal are those it covers. -/
theorem contains_release_iff_covers_of_highest (hl : l.IsWellFormed) (hany : l.isAny = false)
    (hlow : l.lowest = .ok l.version) (hpre : l.preRelease = []) {high : Version}
    (hhigh : l.highest = .ok high) (hrelease : v.preRelease = []) (hvminor : 0 ≤ v.minor)
    (hvpatch : 0 ≤ v.patch) :
    Interval.contains { lower := l.version, upper := high, hasUpper := false } v = true ↔
      l.Covers v := by
  have hfault : l.fault? = none := ((lowest_eq_ok_iff hl hany).mp hlow).1
  rcases highest_cases hl hany hfault with ⟨hpatch, hmeet⟩ | ⟨hpatch, hnext⟩
  · -- nothing is open: the literal is a version, and the interval holds just that
    have hminor : isWildcard l.minor = false := isWildcard_minor_of_patch hany hfault hpatch
    obtain rfl : high = l.version := Except.ok.inj (hhigh.symm.trans (hmeet.trans hlow))
    rw [Interval.contains_to_itself, Version.isEquivalentTo_iff, preRelease_version, hpre,
      triple_version, covers_iff_of_given hany hminor hpatch, and_iff_left hrelease]
  · obtain rfl : high = .ofTriple l.tildeLimit := Except.ok.inj (hhigh.symm.trans hnext)
    exact contains_release_iff_covers hany hpatch hvminor hvpatch hrelease

end Literal

/-! ### Equality -/

/-- The clause of an equality reaches from the version of the literal to its upper
bound. -/
theorem clause_equal {l : Literal} (hl : l.IsWellFormed) (hany : l.isAny = false)
    {sign : Option Text} (hsign : Operator.ofSign? sign = some .equal) {c : Clause}
    (hc : Comparison.clause { sign, version := l } = .ok c) :
    ∃ high, l.fault? = none ∧ l.lowest = .ok l.version ∧ l.highest = .ok high ∧
      ∀ v, c.isMetBy v
        = Interval.contains { lower := l.version, upper := high, hasUpper := false } v := by
  simp only [Comparison.clause, hsign] at hc
  obtain ⟨low, i, hlow, hi, rfl⟩ := (Comparison.clauseFor_eq_ok_iff hany).mp hc
  obtain ⟨hfault, -, rfl⟩ := (Literal.lowest_eq_ok_iff hl hany).mp hlow
  rw [Operator.intervalFrom] at hi
  rcases hhigh : l.highest with e | high
  · rw [hhigh] at hi
    cases hi
  · rw [hhigh] at hi
    obtain rfl := Except.ok.inj hi
    exact ⟨high, hfault, hlow, rfl, fun v => by simp [Clause.isMetBy]⟩

/-- **Equality takes what the literal covers, and what it spills over to.**  Let a literal
with a given major number have a clause as an equality.  A version that meets it agrees
with all fields that are given, unless there is an open field and the version is older
than the release that follows but already has its leading numbers.  All of these do meet
the clause.  Where no number is negative they are the pre-releases of the release that
follows; and of releases the literal, if it is none of a pre-release, takes precisely
those that it covers. -/
theorem isMetBy_equal {l : Literal} (hl : l.IsRead) (hany : l.isAny = false)
    {sign : Option Text} (hsign : Operator.ofSign? sign = some .equal) {c : Clause}
    (hc : Comparison.clause { sign, version := l } = .ok c) (v : Version) :
    ∃ high, l.highest = .ok high ∧
      (c.isMetBy v = true → l.Covers v ∨ l.SpillsTo high v) ∧
      (l.SpillsTo high v → c.isMetBy v = true) ∧
      (0 ≤ v.minor → 0 ≤ v.patch →
        (l.SpillsTo high v ↔
          isWildcard l.patch = true ∧ v.triple = high.triple ∧ v.preRelease ≠ []) ∧
        (l.preRelease = [] → v.preRelease = [] → (c.isMetBy v = true ↔ l.Covers v))) := by
  obtain ⟨high, hfault, hlow, hhigh, hmeets⟩ := clause_equal hl.isWellFormed hany hsign hc
  refine ⟨high, hhigh, ?_⟩
  rw [hmeets v]
  have hexact : 0 ≤ v.minor → 0 ≤ v.patch → l.preRelease = [] → v.preRelease = [] →
      (Interval.contains { lower := l.version, upper := high, hasUpper := false } v = true ↔
        l.Covers v) := fun hvminor hvpatch hpre hrelease =>
    Literal.contains_release_iff_covers_of_highest hl.isWellFormed hany hlow hpre hhigh hrelease
      hvminor hvpatch
  rcases Literal.highest_cases hl.isWellFormed hany hfault with ⟨hpatch, hmeet⟩ | ⟨hpatch, hnext⟩
  · -- nothing is open: the literal is a version, and the interval holds just that
    have hminor := Literal.isWildcard_minor_of_patch hany hfault hpatch
    obtain rfl : high = l.version := Except.ok.inj (hhigh.symm.trans (hmeet.trans hlow))
    have hnone : ¬ l.SpillsTo l.version v := by
      intro h
      rw [h.isOpen] at hpatch
      cases hpatch
    refine ⟨fun h => .inl ?_, fun h => absurd h hnone, fun hvminor hvpatch =>
      ⟨iff_of_false hnone (by simp [hpatch]), hexact hvminor hvpatch⟩⟩
    rw [Interval.contains_to_itself, Version.isEquivalentTo_iff, Literal.triple_version] at h
    exact (Literal.covers_iff_of_given hany hminor hpatch).mpr h.1
  · obtain rfl : high = .ofTriple l.tildeLimit := Except.ok.inj (hhigh.symm.trans hnext)
    refine ⟨Literal.covers_or_spillsTo_of_contains hpatch, Literal.SpillsTo.contains,
      fun hvminor hvpatch => ⟨?_, hexact hvminor hvpatch⟩⟩
    rw [and_iff_right hpatch]
    exact Literal.spillsTo_iff hpatch hvminor hvpatch

/-- An open patch takes any number, with build metadata or without. -/
theorem equal_takes_any_patch :
    ∃ (l : Literal) (c : Clause) (v : Version),
      Literal.read? "v1.2.x".toList = some (l, []) ∧
      Comparison.clause { sign := none, version := l } = .ok c ∧
      Version.ofText "1.2.70+b".toList = .ok v ∧ l.Covers v ∧ c.isMetBy v = true := by
  let l : Literal :=
    { major := some ['1'], minor := some ['2'], patch := some ['x'], text := "v1.2.x".toList }
  let c : Clause :=
    { kind := .comparison .equal,
      interval := { lower := .ofTriple (1, 2, 0), upper := .ofTriple (1, 3, 0), hasUpper := false } }
  let v : Version := { major := 1, minor := 2, patch := 70, build := [['b']] }
  have hl : Literal.read? "v1.2.x".toList = some (l, []) := by decide
  have hc : Comparison.clause { sign := none, version := l } = .ok c := by decide
  have hcovers : l.Covers v := by decide
  obtain ⟨high, -, -, -, hexact⟩ := isMetBy_equal ⟨_, _, hl⟩ (by decide) (by decide) hc v
  obtain ⟨-, hrelease⟩ := hexact (by decide) (by decide)
  exact ⟨l, c, v, hl, hc, by decide, hcovers, (hrelease rfl rfl).mpr hcovers⟩

/-- A given number is not safe from what an open field spills over to: `1.x` takes a
version of major number 2, and `1.2.x` one of minor number 3. -/
theorem equal_takes_preReleases_of_next :
    (∃ (l : Literal) (c : Clause) (v : Version),
      Literal.read? "1.x".toList = some (l, []) ∧ l.isAny = false ∧
      Comparison.clause { sign := none, version := l } = .ok c ∧
      Version.ofText "2.0.0-alpha".toList = .ok v ∧ c.isMetBy v = true ∧
      v.major ≠ fieldValue l.major) ∧
    ∃ (l : Literal) (c : Clause) (v : Version),
      Literal.read? "1.2.x".toList = some (l, []) ∧ l.isAny = false ∧
      Comparison.clause { sign := some ['='], version := l } = .ok c ∧
      Version.ofText "1.3.0-rc.1".toList = .ok v ∧ c.isMetBy v = true ∧
      isWildcard l.minor = false ∧ v.minor ≠ fieldValue l.minor := by
  refine ⟨⟨{ major := some ['1'], minor := some ['x'], text := "1.x".toList },
      { kind := .comparison .equal,
        interval := {
          lower := .ofTriple (1, 0, 0), upper := .ofTriple (2, 0, 0), hasUpper := false } },
      { major := 2, minor := 0, patch := 0, preRelease := ["alpha".toList] }, ?_⟩,
    { major := some ['1'], minor := some ['2'], patch := some ['x'], text := "1.2.x".toList },
    { kind := .comparison .equal,
      interval := { lower := .ofTriple (1, 2, 0), upper := .ofTriple (1, 3, 0), hasUpper := false } },
    { major := 1, minor := 3, patch := 0, preRelease := [['r', 'c'], ['1']] }, ?_⟩
  · decide
  · decide

end SemverRange
