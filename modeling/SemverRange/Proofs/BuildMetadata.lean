/-
SemverRange/Proofs/BuildMetadata.lean

Build metadata has no say in what a requirement takes, dash ranges apart.

Equivalent versions have the same numbers and the same pre-release, and that is all that
precedence and equivalence look at.  So an interval does not tell equivalent versions
apart, nor does it matter which of them stand at its ends (`Interval.contains_congr`).  A
clause asks beyond that whether there is build metadata, but only if it takes releases
only (`Clause.isMetBy_congr`); among the clauses of a requirement these are the dash
ranges (`Requirement.releasesOnly_eq_false_of_kind_ne`).  Hence a requirement without dash
ranges gives equivalent versions the same answer, and any requirement gives it to those
that both have build metadata or both have none (`Requirement.isMetBy_eq_of_isEquivalentTo`).
-/
import SemverRange.Proofs.Alternatives
import SemverRange.Proofs.DashRanges

namespace SemverRange

/-! ### Equivalence carries over -/

namespace Version

variable {v v' w w' : Version}

theorem isEquivalentTo_congr (hv : v.isEquivalentTo v' = true) (hw : w.isEquivalentTo w' = true) :
    v.isEquivalentTo w = v'.isEquivalentTo w' := by
  rw [isEquivalentTo_iff] at hv hw
  rw [Bool.eq_iff_iff, isEquivalentTo_iff, isEquivalentTo_iff, hv.1, hv.2, hw.1, hw.2]

theorem hasSameBase_congr (hv : v.isEquivalentTo v' = true) (hw : w.isEquivalentTo w' = true) :
    v.hasSameBase w = v'.hasSameBase w' := by
  rw [isEquivalentTo_iff] at hv hw
  rw [hasSameBase, hasSameBase, hv.1, hw.1]

theorem isPreRelease_congr (hv : v.isEquivalentTo v' = true) :
    v.isPreRelease = v'.isPreRelease := by
  rw [isPreRelease, isPreRelease, (isEquivalentTo_iff.mp hv).2]

/-- A version is equivalent to what other build metadata makes of it. -/
theorem isEquivalentTo_withBuild (v : Version) (build : List Identifier) :
    isEquivalentTo { v with build } v = true :=
  isEquivalentTo_iff.mpr ⟨rfl, rfl⟩

end Version

/-- Intervals with equivalent ends hold the same versions, up to equivalence. -/
theorem Interval.contains_congr {i j : Interval} (hlower : i.lower.isEquivalentTo j.lower = true)
    (hupper : i.upper.isEquivalentTo j.upper = true) (hhasLower : i.hasLower = j.hasLower)
    (hhasUpper : i.hasUpper = j.hasUpper) {v w : Version} (h : v.isEquivalentTo w = true) :
    i.contains v = j.contains w := by
  rw [contains, contains, hhasLower, hhasUpper, Version.isEquivalentTo_congr h hlower,
    Version.isEquivalentTo_congr h hupper, Version.isNewerThan, Version.isNewerThan,
    Version.isOlderThan_congr hlower h, Version.isOlderThan_congr h hupper]

namespace Clause

/-- A clause with other build metadata at the ends of its interval. -/
def withBuild (c : Clause) (lower upper : List Identifier) : Clause :=
  { c with interval := { c.interval with
      lower := { c.interval.lower with build := lower }
      upper := { c.interval.upper with build := upper } } }

/-- The build metadata at the ends of a clause makes no difference. -/
theorem isMetBy_withBuild (c : Clause) (lower upper : List Identifier) (v : Version) :
    (c.withBuild lower upper).isMetBy v = c.isMetBy v := by
  have hlower := c.interval.lower.isEquivalentTo_withBuild lower
  have hupper := c.interval.upper.isEquivalentTo_withBuild upper
  have hv := v.isEquivalentTo_refl
  have hcontains : (c.withBuild lower upper).interval.contains v = c.interval.contains v :=
    Interval.contains_congr hlower hupper rfl rfl hv
  have hbase : v.hasSameBase (c.withBuild lower upper).interval.lower
      = v.hasSameBase c.interval.lower := Version.hasSameBase_congr hv hlower
  rw [isMetBy, isMetBy, hcontains, hbase]
  rfl

/-- A clause tells equivalent versions apart only if it takes releases only and just one
of them has build metadata. -/
theorem isMetBy_congr {c : Clause} {v w : Version} (h : v.isEquivalentTo w = true)
    (hbuild : c.releasesOnly = false ∨ (v.build = [] ↔ w.build = [])) :
    c.isMetBy v = c.isMetBy w := by
  have htagged : (c.releasesOnly && v.isTagged) = (c.releasesOnly && w.isTagged) := by
    rcases hbuild with hall | hbuild
    · rw [hall]
      rfl
    · have hempty : v.build.isEmpty = w.build.isEmpty := by
        rw [Bool.eq_iff_iff, List.isEmpty_iff, List.isEmpty_iff]
        exact hbuild
      rw [Version.isTagged, Version.isTagged, (Version.isEquivalentTo_iff.mp h).2, hempty]
  have hlower := c.interval.lower.isEquivalentTo_refl
  have hcontains : c.interval.contains v = c.interval.contains w :=
    Interval.contains_congr hlower c.interval.upper.isEquivalentTo_refl rfl rfl h
  rw [isMetBy, isMetBy, htagged, Version.isPreRelease_congr h, Version.hasSameBase_congr h hlower,
    hcontains]

end Clause

/-! ### Requirements -/

theorem Comparison.releasesOnly_of_clause {c : Comparison} {k : Clause} (h : c.clause = .ok k) :
    k.releasesOnly = false := by
  rw [clause] at h
  split at h
  · cases h
  · rename_i o _
    rcases hany : c.version.isAny with - | -
    · obtain ⟨low, i, -, -, rfl⟩ := (clauseFor_eq_ok_iff hany).mp h
      rfl
    · rw [clauseFor, hany] at h
      obtain ⟨-, -, h⟩ := bind_eq_ok_iff.mp h
      cases h
      cases o <;> rfl

namespace Requirement

variable {s : Text} {r : Requirement}

/-- Of the clauses of a requirement only dash ranges take releases only. -/
theorem releasesOnly_eq_false_of_kind_ne (hr : ofText s = .ok r) {ks : List Clause}
    (hks : ks ∈ r.alternatives) {k : Clause} (hk : k ∈ ks) (hkind : k.kind ≠ .dash) :
    k.releasesOnly = false := by
  obtain ⟨-, -, -, -, c, -, hc⟩ := exists_condition_of_mem hr hks hk
  cases c with
  | comparison c =>
    rw [outcome_compileCondition_comparison] at hc
    split at hc
    · exact Comparison.releasesOnly_of_clause hc
    · exact absurd (DashRange.kind_of_clause hc) hkind
  | dashRange d => exact absurd (DashRange.kind_of_clause hc) hkind

theorem isMetBy_congr {v w : Version}
    (h : ∀ ks ∈ r.alternatives, ∀ k ∈ ks, k.isMetBy v = k.isMetBy w) :
    r.isMetBy v = r.isMetBy w := by
  rw [isMetBy, isMetBy, meetsAny, meetsAny, Bool.eq_iff_iff, List.any_eq_true, List.any_eq_true]
  apply exists_congr
  intro ks
  apply and_congr_right
  intro hks
  rw [meetsAll, meetsAll, List.all_eq_true, List.all_eq_true]
  apply forall₂_congr
  intro k hk
  rw [h ks hks k hk]

/-- **Build metadata is ignored except by dash ranges.**  A requirement gives equivalent
versions the same answer if none of its clauses is a dash range, or else if both versions
have build metadata or neither has.  In no clause does it matter what build metadata
there is at the ends of the interval. -/
theorem isMetBy_eq_of_isEquivalentTo (hr : ofText s = .ok r) :
    (∀ v w, v.isEquivalentTo w = true →
      (∀ ks ∈ r.alternatives, ∀ k ∈ ks, k.kind ≠ .dash) ∨ (v.build = [] ↔ w.build = []) →
        r.isMetBy v = r.isMetBy w) ∧
      ∀ (k : Clause) (lower upper : List Identifier) (v : Version),
        (k.withBuild lower upper).isMetBy v = k.isMetBy v := by
  refine ⟨fun v w h hbuild => ?_, Clause.isMetBy_withBuild⟩
  apply isMetBy_congr
  intro ks hks k hk
  apply Clause.isMetBy_congr h
  exact hbuild.imp (fun hkind => releasesOnly_eq_false_of_kind_ne hr hks hk (hkind ks hks k hk)) id

/-- Without a dash range build metadata can be dropped; beside one it can be exchanged,
but not dropped. -/
theorem isMetBy_of_exchanged_build :
    ∃ r r', ofText "~1.2.3-rc.1+a || 2.x".toList = .ok r ∧
      ofText "1.0.0 - 2.0.0 || ^3.1.0-rc.1+a".toList = .ok r' ∧
      r.isMetBy { major := 1, minor := 2, patch := 3, preRelease := [['r', 'c'], ['2']],
                  build := [['b']] }
        = r.isMetBy { major := 1, minor := 2, patch := 3, preRelease := [['r', 'c'], ['2']] } ∧
      r'.isMetBy { major := 1, minor := 5, patch := 0, build := [['b']] }
        = r'.isMetBy { major := 1, minor := 5, patch := 0, build := [['c'], ['d']] } ∧
      r'.isMetBy { major := 1, minor := 5, patch := 0, build := [['b']] } = false ∧
      r'.isMetBy { major := 1, minor := 5, patch := 0 } = true := by
  let tilde : Clause :=
    { kind := .comparison .tilde, guardsPreReleases := true,
      interval := {
        lower := { major := 1, minor := 2, patch := 3, preRelease := [['r', 'c'], ['1']],
                   build := [['a']] }
        upper := .ofTriple (1, 3, 0), hasUpper := false } }
  let equal : Clause :=
    { kind := .comparison .equal,
      interval := { lower := .ofTriple (2, 0, 0), upper := .ofTriple (3, 0, 0), hasUpper := false } }
  let range : Clause :=
    { kind := .dash, releasesOnly := true,
      interval := { lower := .ofTriple (1, 0, 0), upper := .ofTriple (2, 0, 0) } }
  let caret : Clause :=
    { kind := .comparison .caret, guardsPreReleases := true,
      interval := {
        lower := { major := 3, minor := 1, patch := 0, preRelease := [['r', 'c'], ['1']],
                   build := [['a']] }
        upper := .ofTriple (4, 0, 0), hasUpper := false } }
  have hr : ofText "~1.2.3-rc.1+a || 2.x".toList
      = .ok ⟨"~1.2.3-rc.1+a || 2.x".toList, [[tilde], [equal]]⟩ := by cbv
  have hr' : ofText "1.0.0 - 2.0.0 || ^3.1.0-rc.1+a".toList
      = .ok ⟨"1.0.0 - 2.0.0 || ^3.1.0-rc.1+a".toList, [[range], [caret]]⟩ := by cbv
  refine ⟨_, _, hr, hr', ?_, ?_, by decide, by decide⟩
  · exact (isMetBy_eq_of_isEquivalentTo hr).1 _ _ (by decide) (.inl (by decide))
  · exact (isMetBy_eq_of_isEquivalentTo hr').1 _ _ (by decide) (.inr (by decide))

end Requirement

end SemverRange
