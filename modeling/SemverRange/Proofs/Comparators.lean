/-
SemverRange/Proofs/Comparators.lean

What the comparison operators mean.

An interval is decided by the places that precedence gives a version against its
two ends (`Interval.contains_iff`), and the clause of an operator by its
interval.

Tilde and caret: releases count by their numbers, from those of the literal up
to the limit of the operator; a pre-release counts only beside the literal's own
pre-release, on the same numbers (`isMetBy_tilde_or_caret_iff_of_isCanonical`).

The other four follow precedence between the least version and the greatest
(`isMetBy_greater_iff` and its like).  These two close the intervals of the
comparators, so pre-releases of 0.0.0 are out of the reach of `<` and `<=`, and
what lies beyond the greatest version is out of the reach of `>` and `>=`.

All of this is shown for canonical versions.  Versions from text are canonical
(`Version.isCanonical_of_ofText`), and the main statements are about these
(`isMetBy_tilde_or_caret_iff`, `isMetBy_comparator_iff`).
-/
import SemverRange.Proofs.VersionText

namespace SemverRange

open Std

/-! ### Intervals -/

theorem Version.isOlderThan_iff_precedence {v w : Version} :
    v.isOlderThan w = true ↔ v.precedence w = .lt := by
  rw [isOlderThan, Ordering.isLT_iff_eq_lt]

theorem Version.isNewerThan_iff_precedence {v w : Version} :
    v.isNewerThan w = true ↔ v.precedence w = .gt := by
  rw [isNewerThan, isOlderThan_iff_precedence, precedence_swap, Ordering.swap_eq_lt]

theorem Version.isEquivalentTo_iff_precedence {v w : Version} (hv : v.IsCanonical)
    (hw : w.IsCanonical) : v.isEquivalentTo w = true ↔ v.precedence w = .eq := by
  constructor
  · intro h
    rw [precedence_congr h (isEquivalentTo_refl w)]
    exact ReflCmp.compare_self
  · exact isEquivalentTo_of_precedence_eq hv hw

theorem Interval.contains_iff {i : Interval} {v : Version} (hv : v.IsCanonical)
    (hlower : i.lower.IsCanonical) (hupper : i.upper.IsCanonical) :
    i.contains v = true ↔
      i.hasLower = true ∧ v.precedence i.lower = .eq ∨
        i.hasUpper = true ∧ v.precedence i.upper = .eq ∨
          v.precedence i.lower = .gt ∧ v.precedence i.upper = .lt := by
  rw [contains, Bool.or_eq_true, Bool.or_eq_true, Bool.and_eq_true, Bool.and_eq_true,
    Bool.and_eq_true, or_assoc, Version.isNewerThan_iff_precedence,
    Version.isOlderThan_iff_precedence, Version.isEquivalentTo_iff_precedence hv hlower,
    Version.isEquivalentTo_iff_precedence hv hupper]

/-- A half-open interval holds what is at its lower end and what is strictly between. -/
theorem Interval.contains_halfOpen_iff {low high v : Version} :
    Interval.contains { lower := low, upper := high, hasUpper := false } v = true ↔
      v.isEquivalentTo low = true ∨ v.isNewerThan low = true ∧ v.isOlderThan high = true := by
  simp [contains]

/-! ### Tilde and caret -/

namespace Literal

theorem fieldValue_nonneg (field : Option Text) : 0 ≤ fieldValue field := by
  rw [fieldValue]
  split <;> omega

theorem base_before_tildeLimit (l : Literal) : Version.TripleBefore l.base l.tildeLimit := by
  rw [tildeLimit, Version.TripleBefore]
  split
  · left
    exact Int.lt_succ _
  · right
    exact ⟨rfl, .inl (Int.lt_succ _)⟩

theorem base_before_caretLimit (l : Literal) : Version.TripleBefore l.base l.caretLimit := by
  have hmajor : 0 ≤ l.base.1 := fieldValue_nonneg l.major
  have hminor : 0 ≤ l.base.2.1 := fieldValue_nonneg l.minor
  rw [caretLimit, Version.TripleBefore]
  -- numbers that are not positive are zero, so the leftmost positive one grows
  split
  · left
    exact Int.lt_succ _
  · split
    · left
      show l.base.1 < 1
      omega
    · split
      · right
        exact ⟨by omega, .inl (Int.lt_succ _)⟩
      · split
        · right
          refine ⟨by omega, .inl ?_⟩
          show l.base.2.1 < 1
          omega
        · right
          refine ⟨by omega, .inr ⟨?_, Int.lt_succ _⟩⟩
          show l.base.2.1 = 0
          omega

end Literal

theorem preReleasePrecedence_nil_eq_lt {as : List Identifier} :
    preReleasePrecedence as [] = .lt ↔ as ≠ [] := by
  cases as <;> simp [preReleasePrecedence]

/-- Older than a release is what has lower numbers, and the pre-releases of the release
itself. -/
theorem Version.isOlderThan_ofTriple_iff {v : Version} {t : Int × Int × Int} :
    v.isOlderThan (.ofTriple t) = true ↔
      TripleBefore v.triple t ∨ v.triple = t ∧ v.preRelease ≠ [] := by
  rw [isOlderThan_iff, triple_ofTriple, preRelease_ofTriple, preReleasePrecedence_nil_eq_lt]

section HalfOpen

variable {v : Version} {upper : Int × Int × Int}

/-- Between a version and a release above it, releases count by their numbers. -/
theorem contains_release_iff (low : Version) (hv : v.preRelease = [])
    (hbefore : Version.TripleBefore low.triple upper) :
    Interval.contains { lower := low, upper := .ofTriple upper, hasUpper := false } v = true ↔
      (low.triple = v.triple ∨ Version.TripleBefore low.triple v.triple) ∧
        Version.TripleBefore v.triple upper := by
  have hnewer : v.isNewerThan low = true ↔
      Version.TripleBefore low.triple v.triple ∨ low.triple = v.triple ∧ low.preRelease ≠ [] := by
    rw [Version.isNewerThan_iff, Version.isOlderThan_iff, hv, preReleasePrecedence_nil_eq_lt]
  have holder : v.isOlderThan (.ofTriple upper) = true ↔ Version.TripleBefore v.triple upper := by
    simp [Version.isOlderThan_ofTriple_iff, hv]
  have hequiv : v.isEquivalentTo low = true ↔ low.triple = v.triple ∧ low.preRelease = [] := by
    rw [Version.isEquivalentTo_iff, hv, eq_comm, eq_comm (a := [])]
  rw [Interval.contains_halfOpen_iff, hnewer, holder, hequiv]
  constructor
  · rintro (⟨htriple, -⟩ | ⟨hlow, hupper⟩)
    · exact ⟨.inl htriple, htriple ▸ hbefore⟩
    · exact ⟨hlow.elim .inr fun h => .inl h.1, hupper⟩
  · rintro ⟨htriple | hlow, hupper⟩
    · -- on the numbers of the lower end: the end itself, or it is a pre-release
      by_cases hpre : low.preRelease = []
      · exact .inl ⟨htriple, hpre⟩
      · exact .inr ⟨.inr ⟨htriple, hpre⟩, hupper⟩
    · exact .inr ⟨.inl hlow, hupper⟩

/-- On the numbers of the lower end, versions count by their pre-release. -/
theorem contains_sameBase_iff {low : Version} (hv : v.IsCanonical) (hlow : low.IsCanonical)
    (hbase : v.triple = low.triple) (hbefore : Version.TripleBefore low.triple upper) :
    Interval.contains { lower := low, upper := .ofTriple upper, hasUpper := false } v = true ↔
      preReleasePrecedence v.preRelease low.preRelease ≠ .lt := by
  have holder : v.isOlderThan (.ofTriple upper) = true := by
    rw [Version.isOlderThan_iff, hbase]
    exact .inl hbefore
  have hplace : v.precedence low = preReleasePrecedence v.preRelease low.preRelease := by
    simp only [Version.triple, Prod.mk.injEq] at hbase
    simp [Version.precedence, hbase]
  rw [Interval.contains_iff hv hlow (Version.isCanonical_of_preRelease_eq_nil rfl), ← hplace,
    Version.isOlderThan_iff_precedence.mp holder]
  cases v.precedence low <;> simp

end HalfOpen

/-- What an operator with a guard on pre-releases means, given the numbers that
its range stops short of. -/
theorem isMetBy_guarded_iff {l : Literal} (hl : l.IsWellFormed)
    (hpre : preReleaseFault? l.preRelease = none) {upper : Int × Int × Int}
    (hbefore : Version.TripleBefore l.base upper) (kind : Clause.Kind) {v : Version}
    (hv : v.IsCanonical) :
    Clause.isMetBy
        { kind, guardsPreReleases := true,
          interval := { lower := l.version, upper := .ofTriple upper, hasUpper := false } } v
          = true ↔
      v.preRelease = [] ∧ (l.base = v.triple ∨ Version.TripleBefore l.base v.triple) ∧
          Version.TripleBefore v.triple upper ∨
        v.preRelease ≠ [] ∧ v.triple = l.base ∧ l.preRelease ≠ [] ∧
          preReleasePrecedence v.preRelease l.preRelease ≠ .lt := by
  by_cases hrelease : v.preRelease = []
  · -- the guard lets releases pass
    have hcontains := contains_release_iff l.version hrelease hbefore
    simpa [Clause.isMetBy, Version.isPreRelease, hrelease] using hcontains
  · by_cases hbase : v.triple = l.base
    · have hcontains := contains_sameBase_iff hv (Literal.isCanonical_version hl hpre) hbase hbefore
      -- a pre-release is below the release, so the literal has to be one as well
      have hliteral : preReleasePrecedence v.preRelease l.preRelease ≠ .lt →
          l.preRelease ≠ [] := by
        intro hplace hnil
        rw [hnil] at hplace
        exact hplace (preReleasePrecedence_nil_eq_lt.mpr hrelease)
      have hmeets : Clause.isMetBy
          { kind, guardsPreReleases := true,
            interval := { lower := l.version, upper := .ofTriple upper, hasUpper := false } } v
            = true ↔ preReleasePrecedence v.preRelease l.preRelease ≠ .lt := by
        simpa [Clause.isMetBy, Version.hasSameBase, hbase] using hcontains
      rw [hmeets]
      constructor
      · intro hplace
        exact .inr ⟨hrelease, hbase, hliteral hplace, hplace⟩
      · rintro (⟨hnil, -⟩ | ⟨-, -, -, hplace⟩)
        · exact absurd hnil hrelease
        · exact hplace
    · simp [Clause.isMetBy, Version.isPreRelease, Version.hasSameBase, hrelease, hbase]

/-- The clauses of tilde and caret reach from the version of the literal to the
limit of the operator. -/
theorem clauseFor_tilde_or_caret {l : Literal} (hl : l.IsWellFormed) (hany : l.isAny = false)
    {o : Operator} {upper : Int × Int × Int}
    (hupper : o = .tilde ∧ upper = l.tildeLimit ∨ o = .caret ∧ upper = l.caretLimit) {c : Clause}
    (hc : Comparison.clauseFor o l = .ok c) :
    preReleaseFault? l.preRelease = none ∧
      c = { kind := .comparison o, guardsPreReleases := true,
            interval := { lower := l.version, upper := .ofTriple upper, hasUpper := false } } := by
  obtain ⟨low, i, hlow, hi, rfl⟩ := (Comparison.clauseFor_eq_ok_iff hany).mp hc
  obtain ⟨-, hpre, rfl⟩ := (Literal.lowest_eq_ok_iff hl hany).mp hlow
  refine ⟨hpre, ?_⟩
  rcases hupper with ⟨rfl, rfl⟩ | ⟨rfl, rfl⟩
  · rw [Operator.intervalFrom, Literal.tildeBound_eq_ok hl] at hi
    cases hi
    rfl
  · rw [Operator.intervalFrom, Literal.caretBound_eq_ok hl] at hi
    cases hi
    rfl

/-- What tilde and caret mean for canonical versions. -/
theorem isMetBy_tilde_or_caret_iff_of_isCanonical {l : Literal} (hl : l.IsWellFormed)
    (hany : l.isAny = false) {sign : Option Text} {o : Operator}
    (hsign : Operator.ofSign? sign = some o) {upper : Int × Int × Int}
    (hupper : o = .tilde ∧ upper = l.tildeLimit ∨ o = .caret ∧ upper = l.caretLimit) {c : Clause}
    (hc : Comparison.clause { sign, version := l } = .ok c) {v : Version} (hv : v.IsCanonical) :
    c.isMetBy v = true ↔
      v.preRelease = [] ∧ (l.base = v.triple ∨ Version.TripleBefore l.base v.triple) ∧
          Version.TripleBefore v.triple upper ∨
        v.preRelease ≠ [] ∧ v.triple = l.base ∧ l.preRelease ≠ [] ∧
          preReleasePrecedence v.preRelease l.preRelease ≠ .lt := by
  have hbefore : Version.TripleBefore l.base upper := by
    rcases hupper with ⟨-, rfl⟩ | ⟨-, rfl⟩
    · exact l.base_before_tildeLimit
    · exact l.base_before_caretLimit
  simp only [Comparison.clause, hsign] at hc
  obtain ⟨hpre, rfl⟩ := clauseFor_tilde_or_caret hl hany hupper hc
  exact isMetBy_guarded_iff hl hpre hbefore _ hv

/-- **The meaning of tilde and caret.**  Let a literal with a given major number
have a clause under one of the two operators.  Of the releases it takes those
from the numbers of the literal up to, but not including, the limit of the
operator; of the pre-releases those on the very numbers of the literal, if it
is a pre-release itself and not above them. -/
theorem isMetBy_tilde_or_caret_iff {l : Literal} (hl : l.IsRead) (hany : l.isAny = false)
    {sign : Option Text} {o : Operator} (hsign : Operator.ofSign? sign = some o)
    {upper : Int × Int × Int}
    (hupper : o = .tilde ∧ upper = l.tildeLimit ∨ o = .caret ∧ upper = l.caretLimit) {c : Clause}
    (hc : Comparison.clause { sign, version := l } = .ok c) {s : Text} {v : Version}
    (hv : Version.ofText s = .ok v) :
    c.isMetBy v = true ↔
      v.preRelease = [] ∧ (l.base = v.triple ∨ Version.TripleBefore l.base v.triple) ∧
          Version.TripleBefore v.triple upper ∨
        v.preRelease ≠ [] ∧ v.triple = l.base ∧ l.preRelease ≠ [] ∧
          preReleasePrecedence v.preRelease l.preRelease ≠ .lt :=
  isMetBy_tilde_or_caret_iff_of_isCanonical hl.isWellFormed hany hsign hupper hc
    (Version.isCanonical_of_ofText hv)

/-- A case where the limits are tight: under a caret on the last number the
pre-releases of that number count from the literal's own on. -/
theorem caret_meets_later_preRelease :
    ∃ (l : Literal) (c : Clause) (v : Version),
      Literal.read? "0.0.3-rc.2".toList = some (l, []) ∧
      Comparison.clause { sign := some ['^'], version := l } = .ok c ∧
      Version.ofText "0.0.3-rc.11".toList = .ok v ∧ c.isMetBy v = true := by
  let l : Literal :=
    { major := some ['0'], minor := some ['0'], patch := some ['3'],
      preRelease := [['r', 'c'], ['2']], text := "0.0.3-rc.2".toList }
  let v : Version :=
    { major := 0, minor := 0, patch := 3, preRelease := [['r', 'c'], ['1', '1']] }
  let c : Clause :=
    { kind := .comparison .caret, guardsPreReleases := true,
      interval := { lower := l.version, upper := .ofTriple (0, 0, 4), hasUpper := false } }
  have hl : Literal.read? "0.0.3-rc.2".toList = some (l, []) := by decide
  have hc : Comparison.clause { sign := some ['^'], version := l } = .ok c := by decide
  have hv : Version.ofText "0.0.3-rc.11".toList = .ok v := by decide
  refine ⟨l, c, v, hl, hc, hv, ?_⟩
  refine (isMetBy_tilde_or_caret_iff ⟨_, _, hl⟩ (by decide) (by decide)
    (.inr ⟨rfl, (by decide : (0, 0, 4) = l.caretLimit)⟩) hc hv).mpr (.inr ?_)
  exact ⟨by decide, by decide, by decide, by decide⟩

/-! ### Comparators -/

/-- A comparator on a literal with a lowest version has the interval that it
makes of that version, and nothing else. -/
theorem clause_comparator {l : Literal} (hany : l.isAny = false) {low : Version}
    (hlow : l.lowest = .ok low) {sign : Option Text} {o : Operator}
    (hsign : Operator.ofSign? sign = some o) (htilde : o ≠ .tilde) (hcaret : o ≠ .caret)
    {i : Interval} (hi : o.intervalFrom l low = .ok i) :
    ∃ c, Comparison.clause { sign, version := l } = .ok c ∧
      ∀ v, c.isMetBy v = i.contains v := by
  refine ⟨{ kind := .comparison o, interval := i }, ?_, ?_⟩
  · simp only [Comparison.clause, hsign]
    refine (Comparison.clauseFor_eq_ok_iff hany).mpr ⟨low, i, hlow, hi, ?_⟩
    simp [htilde, hcaret]
  · intro v
    simp [Clause.isMetBy]

/-- The intervals of the four comparators. -/
theorem clause_comparators {l : Literal} (hany : l.isAny = false) {low : Version}
    (hlow : l.lowest = .ok low) :
    (∃ c, Comparison.clause { sign := some ['>'], version := l } = .ok c ∧
      ∀ v, c.isMetBy v
        = Interval.contains { lower := low, upper := .greatest, hasLower := false } v) ∧
    (∃ c, Comparison.clause { sign := some ['>', '='], version := l } = .ok c ∧
      ∀ v, c.isMetBy v = Interval.contains { lower := low, upper := .greatest } v) ∧
    (∃ c, Comparison.clause { sign := some ['<'], version := l } = .ok c ∧
      ∀ v, c.isMetBy v
        = Interval.contains { lower := .least, upper := low, hasUpper := false } v) ∧
    (∃ c, Comparison.clause { sign := some ['<', '='], version := l } = .ok c ∧
      ∀ v, c.isMetBy v = Interval.contains { lower := .least, upper := low } v) := by
  have hsigns : Operator.ofSign? (some ['>']) = some .greater ∧
      Operator.ofSign? (some ['>', '=']) = some .greaterOrEqual ∧
      Operator.ofSign? (some ['<']) = some .less ∧
      Operator.ofSign? (some ['<', '=']) = some .lessOrEqual := by decide
  obtain ⟨hgreater, hgreaterOrEqual, hless, hlessOrEqual⟩ := hsigns
  refine ⟨?_, ?_, ?_, ?_⟩
  · exact clause_comparator hany hlow hgreater (by decide) (by decide) rfl
  · exact clause_comparator hany hlow hgreaterOrEqual (by decide) (by decide) rfl
  · exact clause_comparator hany hlow hless (by decide) (by decide) rfl
  · exact clause_comparator hany hlow hlessOrEqual (by decide) (by decide) rfl

section Places

variable {low w v : Version} (hv : v.IsCanonical) (hlow : low.IsCanonical) (hw : w.IsCanonical)
  {b : Bool}

include hv hlow hw

/-- An interval that is closed above by `w`: it goes on to `w` in the order, as
long as `w` itself is on the right side of the lower end. -/
theorem contains_closedAbove_iff
    (hroom : v.precedence w = .eq →
      v.precedence low = .gt ∨ b = true ∧ v.precedence low = .eq) :
    Interval.contains { lower := low, upper := w, hasLower := b } v = true ↔
      (v.precedence low = .gt ∨ b = true ∧ v.precedence low = .eq) ∧
        (v.precedence w ≠ .gt ∨ b = true ∧ v.precedence low = .eq) := by
  rw [Interval.contains_iff hv hlow hw]
  revert hroom
  cases v.precedence low <;> cases v.precedence w <;> simp

/-- An interval that is closed below by `w`. -/
theorem contains_closedBelow_iff
    (hroom : v.precedence w = .eq →
      v.precedence low = .lt ∨ b = true ∧ v.precedence low = .eq) :
    Interval.contains { lower := w, upper := low, hasUpper := b } v = true ↔
      (v.precedence low = .lt ∨ b = true ∧ v.precedence low = .eq) ∧
        (v.precedence w ≠ .lt ∨ b = true ∧ v.precedence low = .eq) := by
  rw [Interval.contains_iff hv hw hlow]
  revert hroom
  cases v.precedence low <;> cases v.precedence w <;> simp

end Places

/-- From where it stands, a version of the place of `w` sees others as `w` does. -/
theorem Version.precedence_eq_swap {v w low : Version} (hv : v.IsCanonical) (hw : w.IsCanonical)
    (h : v.precedence w = .eq) : v.precedence low = (low.precedence w).swap := by
  rw [precedence_congr ((isEquivalentTo_iff_precedence hv hw).mpr h) (isEquivalentTo_refl low),
    precedence_swap]

section Comparators

variable {l : Literal} (hany : l.isAny = false) {low : Version} (hlow : l.lowest = .ok low)
  (hlow' : low.IsCanonical)

include hany hlow hlow'

/-- What `>` means for canonical versions. -/
theorem isMetBy_greater_iff :
    ∃ c, Comparison.clause { sign := some ['>'], version := l } = .ok c ∧
      ∀ v : Version, v.IsCanonical →
        (v.isEquivalentTo .greatest = true → low.isOlderThan .greatest = true) →
          (c.isMetBy v = true ↔ v.isNewerThan low = true ∧ v.isNewerThan .greatest = false) := by
  obtain ⟨⟨c, hc, hmeets⟩, -⟩ := clause_comparators hany hlow
  refine ⟨c, hc, fun v hv hroom => ?_⟩
  -- everything is said by the places of `v` against the literal and the upper end
  simp only [← Bool.not_eq_true, Version.isOlderThan_iff_precedence,
    Version.isNewerThan_iff_precedence,
    Version.isEquivalentTo_iff_precedence hv Version.isCanonical_greatest] at hroom ⊢
  rw [hmeets, contains_closedAbove_iff hv hlow' Version.isCanonical_greatest]
  · simp
  · intro h
    rw [Version.precedence_eq_swap hv Version.isCanonical_greatest h, hroom h]
    exact .inl rfl

/-- What `>=` means for canonical versions. -/
theorem isMetBy_greaterOrEqual_iff :
    ∃ c, Comparison.clause { sign := some ['>', '='], version := l } = .ok c ∧
      ∀ v : Version, v.IsCanonical →
        (v.isEquivalentTo .greatest = true → low.isNewerThan .greatest = false) →
          (c.isMetBy v = true ↔
            v.isOlderThan low = false ∧
              (v.isNewerThan .greatest = false ∨ v.isEquivalentTo low = true)) := by
  obtain ⟨-, ⟨c, hc, hmeets⟩, -⟩ := clause_comparators hany hlow
  refine ⟨c, hc, fun v hv hroom => ?_⟩
  simp only [← Bool.not_eq_true, Version.isOlderThan_iff_precedence,
    Version.isNewerThan_iff_precedence, Version.isEquivalentTo_iff_precedence hv hlow',
    Version.isEquivalentTo_iff_precedence hv Version.isCanonical_greatest] at hroom ⊢
  rw [hmeets, contains_closedAbove_iff hv hlow' Version.isCanonical_greatest]
  · cases v.precedence low <;> simp
  · intro h
    have hplace := hroom h
    rw [Version.precedence_eq_swap hv Version.isCanonical_greatest h]
    revert hplace
    cases low.precedence .greatest <;> simp

/-- What `<` means for canonical versions. -/
theorem isMetBy_less_iff :
    ∃ c, Comparison.clause { sign := some ['<'], version := l } = .ok c ∧
      ∀ v : Version, v.IsCanonical →
        (v.isEquivalentTo .least = true → low.isNewerThan .least = true) →
          (c.isMetBy v = true ↔ v.isOlderThan low = true ∧ v.isOlderThan .least = false) := by
  obtain ⟨-, -, ⟨c, hc, hmeets⟩, -⟩ := clause_comparators hany hlow
  refine ⟨c, hc, fun v hv hroom => ?_⟩
  -- likewise against the literal and the lower end
  simp only [← Bool.not_eq_true, Version.isOlderThan_iff_precedence,
    Version.isNewerThan_iff_precedence,
    Version.isEquivalentTo_iff_precedence hv Version.isCanonical_least] at hroom ⊢
  rw [hmeets, contains_closedBelow_iff hv hlow' Version.isCanonical_least]
  · simp
  · intro h
    rw [Version.precedence_eq_swap hv Version.isCanonical_least h, hroom h]
    exact .inl rfl

/-- What `<=` means for canonical versions. -/
theorem isMetBy_lessOrEqual_iff :
    ∃ c, Comparison.clause { sign := some ['<', '='], version := l } = .ok c ∧
      ∀ v : Version, v.IsCanonical →
        (v.isEquivalentTo .least = true → low.isOlderThan .least = false) →
          (c.isMetBy v = true ↔
            v.isNewerThan low = false ∧
              (v.isOlderThan .least = false ∨ v.isEquivalentTo low = true)) := by
  obtain ⟨-, -, -, c, hc, hmeets⟩ := clause_comparators hany hlow
  refine ⟨c, hc, fun v hv hroom => ?_⟩
  simp only [← Bool.not_eq_true, Version.isOlderThan_iff_precedence,
    Version.isNewerThan_iff_precedence, Version.isEquivalentTo_iff_precedence hv hlow',
    Version.isEquivalentTo_iff_precedence hv Version.isCanonical_least] at hroom ⊢
  rw [hmeets, contains_closedBelow_iff hv hlow' Version.isCanonical_least]
  · cases v.precedence low <;> simp
  · intro h
    have hplace := hroom h
    rw [Version.precedence_eq_swap hv Version.isCanonical_least h]
    revert hplace
    cases low.precedence .least <;> simp

end Comparators

/-- **Comparators follow precedence between the least version and the
greatest.**  Beyond these a comparator takes no version, unless it is equivalent
to a lower or upper end that belongs to the interval.

Where the literal is at one of these two or past it, nothing is claimed of the
versions equivalent to it: to the greatest version under `>`, if the literal is at
it or past it, and under `>=`, if the literal is past it; to the least version
under `<` and `<=` likewise. -/
theorem isMetBy_comparator_iff {l : Literal} (hl : l.IsRead) (hany : l.isAny = false)
    {low : Version} (hlow : l.lowest = .ok low) {s : Text} {v : Version}
    (hv : Version.ofText s = .ok v) :
    (∃ c, Comparison.clause { sign := some ['>'], version := l } = .ok c ∧
      ((v.isEquivalentTo .greatest = true → low.isOlderThan .greatest = true) →
        (c.isMetBy v = true ↔
          v.isNewerThan low = true ∧ v.isNewerThan .greatest = false))) ∧
    (∃ c, Comparison.clause { sign := some ['>', '='], version := l } = .ok c ∧
      ((v.isEquivalentTo .greatest = true → low.isNewerThan .greatest = false) →
        (c.isMetBy v = true ↔
          v.isOlderThan low = false ∧
            (v.isNewerThan .greatest = false ∨ v.isEquivalentTo low = true)))) ∧
    (∃ c, Comparison.clause { sign := some ['<'], version := l } = .ok c ∧
      ((v.isEquivalentTo .least = true → low.isNewerThan .least = true) →
        (c.isMetBy v = true ↔
          v.isOlderThan low = true ∧ v.isOlderThan .least = false))) ∧
    (∃ c, Comparison.clause { sign := some ['<', '='], version := l } = .ok c ∧
      ((v.isEquivalentTo .least = true → low.isOlderThan .least = false) →
        (c.isMetBy v = true ↔
          v.isNewerThan low = false ∧
            (v.isOlderThan .least = false ∨ v.isEquivalentTo low = true)))) := by
  have hv' : v.IsCanonical := Version.isCanonical_of_ofText hv
  have hlow' : low.IsCanonical := Literal.isCanonical_of_lowest hl.isWellFormed hlow
  obtain ⟨greater, hgreater, hmeets₁⟩ := isMetBy_greater_iff hany hlow hlow'
  obtain ⟨greaterOrEqual, hgreaterOrEqual, hmeets₂⟩ := isMetBy_greaterOrEqual_iff hany hlow hlow'
  obtain ⟨less, hless, hmeets₃⟩ := isMetBy_less_iff hany hlow hlow'
  obtain ⟨lessOrEqual, hlessOrEqual, hmeets₄⟩ := isMetBy_lessOrEqual_iff hany hlow hlow'
  exact ⟨⟨greater, hgreater, hmeets₁ v hv'⟩, ⟨greaterOrEqual, hgreaterOrEqual, hmeets₂ v hv'⟩,
    ⟨less, hless, hmeets₃ v hv'⟩, ⟨lessOrEqual, hlessOrEqual, hmeets₄ v hv'⟩⟩

/-- Beyond the greatest version a literal still takes what is equivalent to it. -/
theorem greaterOrEqual_meets_beyond_greatest :
    ∃ (l : Literal) (low v : Version) (c : Clause),
      Literal.read? "9223372036854775808.0.0".toList = some (l, []) ∧ l.isAny = false ∧
      l.lowest = .ok low ∧ Version.ofText "9223372036854775808.0.0+b".toList = .ok v ∧
      Comparison.clause { sign := some ['>', '='], version := l } = .ok c ∧
      c.isMetBy v = true := by
  let l : Literal :=
    { major := some "9223372036854775808".toList, minor := some ['0'], patch := some ['0'],
      text := "9223372036854775808.0.0".toList }
  let v : Version := { major := 9223372036854775808, minor := 0, patch := 0, build := [['b']] }
  have hl : Literal.read? "9223372036854775808.0.0".toList = some (l, []) := by decide
  have hlow : l.lowest = .ok l.version := by decide
  have hv : Version.ofText "9223372036854775808.0.0+b".toList = .ok v := by decide
  obtain ⟨-, ⟨c, hc, hmeets⟩, -⟩ := isMetBy_comparator_iff ⟨_, _, hl⟩ (by decide) hlow hv
  refine ⟨l, l.version, v, c, hl, by decide, hlow, hv, hc, ?_⟩
  exact (hmeets (by decide)).mpr (by decide)

/-- Precedence is not all there is to a comparator.  A pre-release of 0.0.0 is
older than 1.0.0 and does not meet `<1.0.0`, and a version beyond the greatest is
newer than 1.0.0 and does not meet `>1.0.0`.  On the other hand 0.0.0 is not older
than itself and meets `<0.0.0`, for it is the lower end of that interval. -/
theorem comparators_end_at_least_and_greatest :
    (∃ (l : Literal) (low below beyond : Version) (less greater : Clause),
      Literal.read? "1.0.0".toList = some (l, []) ∧ l.isAny = false ∧ l.lowest = .ok low ∧
      Comparison.clause { sign := some ['<'], version := l } = .ok less ∧
      Version.ofText "0.0.0-alpha".toList = .ok below ∧
      below.isOlderThan low = true ∧ less.isMetBy below = false ∧
      Comparison.clause { sign := some ['>'], version := l } = .ok greater ∧
      Version.ofText "9223372036854775808.0.0".toList = .ok beyond ∧
      beyond.isNewerThan low = true ∧ greater.isMetBy beyond = false) ∧
    ∃ (l : Literal) (low v : Version) (less : Clause),
      Literal.read? "0.0.0".toList = some (l, []) ∧ l.isAny = false ∧ l.lowest = .ok low ∧
      Comparison.clause { sign := some ['<'], version := l } = .ok less ∧
      Version.ofText "0.0.0".toList = .ok v ∧
      v.isOlderThan low = false ∧ less.isMetBy v = true := by
  let l : Literal :=
    { major := some ['1'], minor := some ['0'], patch := some ['0'], text := "1.0.0".toList }
  refine ⟨⟨l, l.version, { major := 0, minor := 0, patch := 0, preRelease := ["alpha".toList] },
    { major := 9223372036854775808, minor := 0, patch := 0 },
    { kind := .comparison .less,
      interval := { lower := .least, upper := l.version, hasUpper := false } },
    { kind := .comparison .greater,
      interval := { lower := l.version, upper := .greatest, hasLower := false } }, ?_⟩,
    { major := some ['0'], minor := some ['0'], patch := some ['0'], text := "0.0.0".toList },
    .least, .least,
    { kind := .comparison .less,
      interval := { lower := .least, upper := .least, hasUpper := false } }, ?_⟩
  · decide
  · decide

end SemverRange
