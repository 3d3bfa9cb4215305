/-
SemverRange/Proofs/DashRanges.lean

What a dash range takes.

The clause of a dash range reaches from the lowest version of its lower literal to the
highest of its upper one (`DashRange.clause_eq_ok_iff`).  Both ends belong to it, each
with no regard to the other, and of what is strictly between them all releases without
build metadata.  Where the ends are in order nothing outside of them is taken; where they
are not, nothing is strictly between them, and at most the ends are left
(`DashRange.between_of_isMetBy`).
-/
import Mathlib
import SemverRange.Proofs.LiteralBounds
import SemverRange.Requirement.Basic

namespace SemverRange

/-! ### Intervals whose ends belong to them -/

namespace Interval

variable {low high v : Version}

/-- A closed interval holds what is at its ends and what is strictly between them. -/
theorem contains_closed_iff :
    Interval.contains { lower := low, upper := high } v = true ↔
      v.isEquivalentTo low = true ∨ v.isEquivalentTo high = true ∨
        v.isNewerThan low = true ∧ v.isOlderThan high = true := by
  simp [contains, or_assoc]

/-- With the ends in order, what is at or between them is on the right side of both. -/
theorem sides_of_ordered (hordered : low.isNewerThan high = false)
    (hv : v.isEquivalentTo low = true ∨ v.isEquivalentTo high = true ∨
      v.isNewerThan low = true ∧ v.isOlderThan high = true) :
    v.isOlderThan low = false ∧ v.isNewerThan high = false := by
  rw [Version.isNewerThan] at hordered ⊢
  rcases hv with hlow | hhigh | ⟨hlow, hhigh⟩
  · refine ⟨Version.isOlderThan_eq_false_of_isEquivalentTo hlow, ?_⟩
    rw [Version.isOlderThan_congr (Version.isEquivalentTo_refl high) hlow]
    exact hordered
  · refine ⟨?_, ?_⟩
    · rw [Version.isOlderThan_congr hhigh (Version.isEquivalentTo_refl low)]
      exact hordered
    · rw [Version.isOlderThan_congr (Version.isEquivalentTo_refl high) hhigh]
      exact Version.isOlderThan_irrefl high
  · exact ⟨Version.isOlderThan_asymm hlow, Version.isOlderThan_asymm hhigh⟩

/-- With the ends in the wrong order nothing is strictly between them. -/
theorem not_between_of_reversed (hreversed : low.isNewerThan high = true) :
    ¬ (v.isNewerThan low = true ∧ v.isOlderThan high = true) := by
  rintro ⟨hlow, hhigh⟩
  have hacross : low.isOlderThan high = true := Version.isOlderThan_trans hlow hhigh
  rw [Version.isOlderThan_asymm hreversed] at hacross
  cases hacross

end Interval

/-! ### The clause of a dash range -/

namespace DashRange

variable {d : DashRange} {c : Clause} {v : Version}

theorem clause_eq_ok_iff :
    d.clause = .ok c ↔
      ∃ low high, d.lower.lowest = .ok low ∧ d.upper.highest = .ok high ∧
        c = { kind := .dash, interval := { lower := low, upper := high }, releasesOnly := true } := by
  rw [clause]
  constructor
  · intro h
    obtain ⟨low, hlow, h⟩ := bind_eq_ok_iff.mp h
    obtain ⟨high, hhigh, h⟩ := bind_eq_ok_iff.mp h
    exact ⟨low, high, hlow, hhigh, (Except.ok.inj h).symm⟩
  · rintro ⟨low, high, hlow, hhigh, rfl⟩
    rw [hlow, hhigh]
    rfl

theorem isMetBy_clause_iff {low high : Version} :
    Clause.isMetBy
        { kind := .dash, interval := { lower := low, upper := high }, releasesOnly := true } v
          = true ↔
      v.preRelease = [] ∧ v.build = [] ∧
        (v.isEquivalentTo low = true ∨ v.isEquivalentTo high = true ∨
          v.isNewerThan low = true ∧ v.isOlderThan high = true) := by
  simp [Clause.isMetBy, Version.isTagged, Interval.contains_closed_iff, and_assoc]

/-- **What a dash range takes is at one of its ends or strictly between them**, and has
neither a pre-release nor build metadata.  So with the ends in order nothing older than
the lower or newer than the upper is taken; and with the ends in the wrong order nothing
but what is equivalent to one of them. -/
theorem between_of_isMetBy (hc : d.clause = .ok c) (hv : c.isMetBy v = true) :
    ∃ low high, d.lower.lowest = .ok low ∧ d.upper.highest = .ok high ∧
      v.preRelease = [] ∧ v.build = [] ∧
      (v.isEquivalentTo low = true ∨ v.isEquivalentTo high = true ∨
        v.isNewerThan low = true ∧ v.isOlderThan high = true) ∧
      (low.isNewerThan high = false → v.isOlderThan low = false ∧ v.isNewerThan high = false) ∧
      (low.isNewerThan high = true →
        v.isEquivalentTo low = true ∨ v.isEquivalentTo high = true) := by
  obtain ⟨low, high, hlow, hhigh, rfl⟩ := clause_eq_ok_iff.mp hc
  obtain ⟨hpre, hbuild, hplace⟩ := isMetBy_clause_iff.mp hv
  refine ⟨low, high, hlow, hhigh, hpre, hbuild, hplace, ?_, ?_⟩
  · intro hordered
    exact Interval.sides_of_ordered hordered hplace
  · intro hreversed
    rcases hplace with h | h | hbetween
    · exact .inl h
    · exact .inr h
    · exact absurd hbetween (Interval.not_between_of_reversed hreversed)

/-- The last release before an open upper end. -/
theorem between_open_upper :
    ∃ (a b : Literal) (c : Clause) (low high v : Version),
      Literal.read? "v1.2.3".toList = some (a, []) ∧ Literal.read? "2.3".toList = some (b, []) ∧
      clause { lower := a, upper := b } = .ok c ∧ Version.ofText "2.3.9".toList = .ok v ∧
      c.isMetBy v = true ∧ a.lowest = .ok low ∧ b.highest = .ok high ∧
      v.isOlderThan low = false ∧ v.isNewerThan high = false := by
  let a : Literal :=
    { major := some ['1'], minor := some ['2'], patch := some ['3'], text := "v1.2.3".toList }
  let b : Literal := { major := some ['2'], minor := some ['3'], text := "2.3".toList }
  let c : Clause :=
    { kind := .dash, releasesOnly := true,
      interval := { lower := .ofTriple (1, 2, 3), upper := .ofTriple (2, 4, 0) } }
  let v : Version := { major := 2, minor := 3, patch := 9 }
  have hc : clause { lower := a, upper := b } = .ok c := by decide
  have hv : c.isMetBy v = true := by decide
  obtain ⟨low, high, hlow, hhigh, -, -, -, hordered, -⟩ := between_of_isMetBy hc hv
  obtain rfl : Version.ofTriple (1, 2, 3) = low := Except.ok.inj hlow
  obtain rfl : Version.ofTriple (2, 4, 0) = high := Except.ok.inj hhigh
  obtain ⟨hbelow, habove⟩ := hordered (by decide)
  exact ⟨a, b, c, _, _, v, by decide, by decide, hc, by decide, hv, hlow, hhigh, hbelow, habove⟩

/-- A dash range from 2.0.0 to 1.0.0 takes its lower end, newer though it is than the
upper. -/
theorem reversed_meets_lower_end :
    ∃ (a b : Literal) (c : Clause) (high v : Version) (r : Requirement),
      Literal.read? "2.0.0".toList = some (a, []) ∧ Literal.read? "1.0.0".toList = some (b, []) ∧
      clause { lower := a, upper := b } = .ok c ∧ Version.ofText "2.0.0".toList = .ok v ∧
      c.isMetBy v = true ∧ b.highest = .ok high ∧ v.isNewerThan high = true ∧
      Requirement.ofText "2.0.0 - 1.0.0".toList = .ok r ∧ r.isMetBy v = true := by
  let a : Literal :=
    { major := some ['2'], minor := some ['0'], patch := some ['0'], text := "2.0.0".toList }
  let b : Literal :=
    { major := some ['1'], minor := some ['0'], patch := some ['0'], text := "1.0.0".toList }
  let c : Clause :=
    { kind := .dash, releasesOnly := true,
      interval := { lower := .ofTriple (2, 0, 0), upper := .ofTriple (1, 0, 0) } }
  refine ⟨a, b, c, .ofTriple (1, 0, 0), .ofTriple (2, 0, 0),
    ⟨"2.0.0 - 1.0.0".toList, [[c]]⟩, ?_⟩
  refine ⟨?_, ?_, ?_, ?_, ?_, ?_, ?_, ?_, ?_⟩
  · decide
  · decide
  · decide
  · decide
  · decide
  · decide
  · decide
  · cbv
  · decide

end DashRange

end SemverRange
