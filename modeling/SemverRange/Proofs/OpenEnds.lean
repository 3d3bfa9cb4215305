/-
SemverRange/Proofs/OpenEnds.lean

Where a dash range with an open upper literal ends.

The upper bound of a literal with an open field is the release that follows all the
versions it stands for.  Equality stops short of that release, so what is older than the
literal or equal to it is what comes before (`isOlderThan_or_equal_iff`).  A dash range
does not stop short of it: both of its ends belong to it, and it takes one version more,
the release that follows.  Where its ends are in the wrong order the lower one is another
such version, and there are no further ones (`DashRange.isOlderThan_or_equal_iff_of_isMetBy`).
-/
import SemverRange.Proofs.DashRanges
import SemverRange.Proofs.Meaning

namespace SemverRange

/-! ### Upper ends -/

/-- In a total order, not to be newer is to be older or at the same place. -/
theorem Version.isNewerThan_eq_false_iff {v w : Version} (hv : v.IsCanonical)
    (hw : w.IsCanonical) :
    v.isNewerThan w = false ↔ v.isOlderThan w = true ∨ v.isEquivalentTo w = true := by
  rw [isOlderThan_iff_precedence, isEquivalentTo_iff_precedence hv hw, ← Bool.not_eq_true,
    isNewerThan_iff_precedence]
  cases v.precedence w <;> simp

namespace Interval

variable {low high v : Version}

/-- What is older than a half-open interval or in it is older than its upper end, if the
ends are in order. -/
theorem isOlderThan_or_contains_iff (hv : v.IsCanonical) (hlow : low.IsCanonical)
    (hordered : low.isOlderThan high = true) :
    v.isOlderThan low = true ∨
        Interval.contains { lower := low, upper := high, hasUpper := false } v = true ↔
      v.isOlderThan high = true := by
  rw [contains_halfOpen_iff]
  constructor
  · rintro (holder | hsame | ⟨-, holder⟩)
    · exact Version.isOlderThan_trans holder hordered
    · rwa [Version.isOlderThan_congr hsame (Version.isEquivalentTo_refl high)]
    · exact holder
  · intro holder
    rcases Version.isOlderThan_trichotomy hv hlow with hbelow | hsame | hnewer
    · exact .inl hbelow
    · exact .inr (.inl hsame)
    · exact .inr (.inr ⟨hnewer, holder⟩)

/-- Nothing at the ends or between them is newer than the upper one, but for the lower one
if the ends are in the wrong order. -/
theorem isNewerThan_upper_iff
    (hv : v.isEquivalentTo low = true ∨ v.isEquivalentTo high = true ∨
      v.isNewerThan low = true ∧ v.isOlderThan high = true) :
    v.isNewerThan high = true ↔ low.isNewerThan high = true ∧ v.isEquivalentTo low = true := by
  have hsame : v.isEquivalentTo low = true → v.isNewerThan high = low.isNewerThan high :=
    fun h => Version.isOlderThan_congr (Version.isEquivalentTo_refl high) h
  constructor
  · intro hnewer
    rcases hv with hlow | hhigh | ⟨-, holder⟩
    · exact ⟨hsame hlow ▸ hnewer, hlow⟩
    · rw [Version.isNewerThan, Version.isOlderThan_congr (Version.isEquivalentTo_refl high) hhigh,
        Version.isOlderThan_irrefl] at hnewer
      cases hnewer
    · rw [Version.isNewerThan, Version.isOlderThan_asymm holder] at hnewer
      cases hnewer
  · rintro ⟨hreversed, hlow⟩
    rw [hsame hlow, hreversed]

end Interval

/-! ### Equality -/

section Equality

variable {l : Literal} {sign : Option Text} {c : Clause} {next v : Version}

/-- What is older than a literal or equal to it is what comes before its upper bound; and
that bound itself if no field is open. -/
theorem isOlderThan_or_equal_iff (hl : l.IsWellFormed) (hany : l.isAny = false)
    (hsign : Operator.ofSign? sign = some .equal)
    (hc : Comparison.clause { sign, version := l } = .ok c) (hnext : l.highest = .ok next)
    (hv : v.IsCanonical) :
    v.isOlderThan l.version = true ∨ c.isMetBy v = true ↔
      v.isOlderThan next = true ∨ isWildcard l.patch = false ∧ v.isEquivalentTo next = true := by
  obtain ⟨high, hfault, hlow, hhigh, hmeets⟩ := clause_equal hl hany hsign hc
  obtain rfl : high = next := Except.ok.inj (hhigh.symm.trans hnext)
  obtain ⟨-, hpre, -⟩ := (Literal.lowest_eq_ok_iff hl hany).mp hlow
  rw [hmeets v]
  rcases Literal.highest_cases hl hany hfault with ⟨hclosed, hmeet⟩ | ⟨hopen, hlimit⟩
  · -- the interval is all that is equivalent to both bounds
    rw [hmeet, hlow] at hhigh
    obtain rfl := Except.ok.inj hhigh
    rw [Interval.contains_to_itself, and_iff_right hclosed]
  · rw [hlimit] at hhigh
    obtain rfl := Except.ok.inj hhigh
    have hordered : l.version.isOlderThan (.ofTriple l.tildeLimit) = true :=
      Version.isOlderThan_iff.mpr (.inl l.base_before_tildeLimit)
    rw [Interval.isOlderThan_or_contains_iff hv (Literal.isCanonical_version hl hpre) hordered]
    simp [hopen]

end Equality

/-! ### Dash ranges -/

namespace DashRange

variable {d : DashRange} {c : Clause} {v : Version}

/-- **A dash range takes little more than what its upper literal stands for and what is
older.**  Let the upper literal give a major number.  Then it has a clause as an equality,
and what meets the range is older than the lowest version of that literal or meets this
clause, but for two versions, up to equivalence: the upper bound of the literal if there is
an open field, and the lower end of the range if it is newer than that bound.  As releases
without build metadata the two ends do meet the range. -/
theorem isOlderThan_or_equal_iff_of_isMetBy (hupper : d.upper.IsRead)
    (hany : d.upper.isAny = false) {sign : Option Text}
    (hsign : Operator.ofSign? sign = some .equal) (hc : d.clause = .ok c) :
    ∃ low first next equal, d.lower.lowest = .ok low ∧ d.upper.lowest = .ok first ∧
      d.upper.highest = .ok next ∧
      Comparison.clause { sign, version := d.upper } = .ok equal ∧
      (∀ v, c.isMetBy v = true →
        (v.isOlderThan first = true ∨ equal.isMetBy v = true ↔
          ¬ (isWildcard d.upper.patch = true ∧ v.isEquivalentTo next = true) ∧
            ¬ (low.isNewerThan next = true ∧ v.isEquivalentTo low = true))) ∧
      ∀ v, v.preRelease = [] → v.build = [] →
        v.isEquivalentTo next = true ∨ v.isEquivalentTo low = true → c.isMetBy v = true := by
  have hl := hupper.isWellFormed
  obtain ⟨low, next, hlow, hnext, rfl⟩ := clause_eq_ok_iff.mp hc
  have hsound : d.upper.IsSound := (Literal.exists_highest_iff hl).mp ⟨next, hnext⟩
  have hfirst : d.upper.lowest = .ok d.upper.version :=
    (Literal.lowest_eq_ok_iff hl hany).mpr ⟨hsound.fault, hsound.preRelease, rfl⟩
  obtain ⟨equal, hequal⟩ : ∃ equal, Comparison.clause { sign, version := d.upper } = .ok equal := by
    simp only [Comparison.clause, hsign]
    exact (Comparison.exists_clauseFor_iff hl .equal).mpr hsound
  refine ⟨low, _, next, equal, hlow, hfirst, hnext, hequal, ?_, ?_⟩
  · intro v hmet
    obtain ⟨hpre, -, hplace⟩ := isMetBy_clause_iff.mp hmet
    have hv : v.IsCanonical := Version.isCanonical_of_preRelease_eq_nil hpre
    rw [isOlderThan_or_equal_iff hl hany hsign hequal hnext hv,
      ← Interval.isNewerThan_upper_iff hplace]
    rw [Bool.not_eq_true, Version.isNewerThan_eq_false_iff hv
      (Literal.isCanonical_of_highest hl hnext)]
    constructor
    · rintro (holder | ⟨hclosed, hsame⟩)
      · refine ⟨fun hbound => ?_, .inl holder⟩
        rw [Version.isOlderThan_eq_false_of_isEquivalentTo hbound.2] at holder
        cases holder
      · refine ⟨fun hbound => ?_, .inr hsame⟩
        rw [hbound.1] at hclosed
        cases hclosed
    · rintro ⟨hnot, holder | hsame⟩
      · exact .inl holder
      · exact .inr ⟨Bool.eq_false_iff.mpr fun hopen => hnot ⟨hopen, hsame⟩, hsame⟩
  · intro v hpre hbuild hend
    refine isMetBy_clause_iff.mpr ⟨hpre, hbuild, ?_⟩
    rcases hend with h | h
    · exact .inr (.inl h)
    · exact .inl h

/-- On both sides of an open upper end: the literal stands for 2.3.9, and not for the release
that follows. -/
theorem open_upper_meets_inside_and_next :
    ∃ (a b : Literal) (c equal : Clause) (first next v : Version),
      Literal.read? "1.2.3".toList = some (a, []) ∧ Literal.read? "2.3".toList = some (b, []) ∧
      b.isAny = false ∧ clause { lower := a, upper := b } = .ok c ∧ b.lowest = .ok first ∧
      b.highest = .ok next ∧ Comparison.clause { sign := some ['='], version := b } = .ok equal ∧
      Version.ofText "2.3.9".toList = .ok v ∧ c.isMetBy v = true ∧
      (v.isOlderThan first = true ∨ equal.isMetBy v = true) ∧ c.isMetBy next = true ∧
      ¬ (next.isOlderThan first = true ∨ equal.isMetBy next = true) := by
  let a : Literal :=
    { major := some ['1'], minor := some ['2'], patch := some ['3'], text := "1.2.3".toList }
  let b : Literal := { major := some ['2'], minor := some ['3'], text := "2.3".toList }
  let c : Clause :=
    { kind := .dash, releasesOnly := true,
      interval := { lower := .ofTriple (1, 2, 3), upper := .ofTriple (2, 4, 0) } }
  let v : Version := .ofTriple (2, 3, 9)
  have hb : Literal.read? "2.3".toList = some (b, []) := by decide
  have hany : b.isAny = false := by decide
  have hc : clause { lower := a, upper := b } = .ok c := by decide
  have hv : c.isMetBy v = true := by decide
  obtain ⟨low, first, next, equal, hlow, hfirst, hnext, hequal, hupper, hends⟩ :=
    isOlderThan_or_equal_iff_of_isMetBy ⟨_, _, hb⟩ hany
      (by decide : Operator.ofSign? (some ['=']) = some .equal) hc
  obtain rfl : Version.ofTriple (1, 2, 3) = low := Except.ok.inj hlow
  obtain rfl : Version.ofTriple (2, 4, 0) = next := Except.ok.inj hnext
  have hbound : c.isMetBy (.ofTriple (2, 4, 0)) = true := hends _ rfl rfl (.inl (by decide))
  refine ⟨a, b, c, equal, first, _, v, by decide, hb, hany, hc, hfirst, hnext, hequal,
    by decide, hv, (hupper v hv).mpr (by decide), hbound, ?_⟩
  intro h
  exact ((hupper _ hbound).mp h).1 (by decide)

/-- A dash range from 1.0.0 to `2.x` takes 3.0.0, which is not older than 2.0.0 and does not
meet an equality with `2.x`. -/
theorem open_upper_takes_next :
    ∃ (a b : Literal) (c equal : Clause) (first v : Version) (r : Requirement),
      Literal.read? "1.0.0".toList = some (a, []) ∧ Literal.read? "2.x".toList = some (b, []) ∧
      b.isAny = false ∧ clause { lower := a, upper := b } = .ok c ∧ b.lowest = .ok first ∧
      Comparison.clause { sign := none, version := b } = .ok equal ∧
      Version.ofText "3.0.0".toList = .ok v ∧ c.isMetBy v = true ∧
      v.isOlderThan first = false ∧ equal.isMetBy v = false ∧
      Requirement.ofText "1.0.0 - 2.x".toList = .ok r ∧ r.isMetBy v = true := by
  let a : Literal :=
    { major := some ['1'], minor := some ['0'], patch := some ['0'], text := "1.0.0".toList }
  let b : Literal := { major := some ['2'], minor := some ['x'], text := "2.x".toList }
  let c : Clause :=
    { kind := .dash, releasesOnly := true,
      interval := { lower := .ofTriple (1, 0, 0), upper := .ofTriple (3, 0, 0) } }
  let equal : Clause :=
    { kind := .comparison .equal,
      interval := { lower := .ofTriple (2, 0, 0), upper := .ofTriple (3, 0, 0), hasUpper := false } }
  refine ⟨a, b, c, equal, .ofTriple (2, 0, 0), .ofTriple (3, 0, 0),
    ⟨"1.0.0 - 2.x".toList, [[c]]⟩, ?_⟩
  have hrequirement :
      Requirement.ofText "1.0.0 - 2.x".toList = .ok ⟨"1.0.0 - 2.x".toList, [[c]]⟩ := by cbv
  rw [hrequirement]
  decide

end DashRange

end SemverRange
