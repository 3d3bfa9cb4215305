/-
SemverRange/Proofs/PreReleaseGuard.lean

Where pre-releases are guarded.

A clause with a guard takes a pre-release on the numbers of its lower end only
(`Clause.isMetBy_preRelease_iff`).  Which clauses have one is settled at two exits.  Behind
the check of the literal the one for all versions leaves at once, with a clause that has no
guard under any operator; the others carry one under tilde and caret and under nothing else
(`Comparison.guardsPreReleases_iff`).  So tilde and caret hold pre-releases back wherever a
major number is given, and let them through where it is open
(`Comparison.preRelease_of_tilde_or_caret`).
-/
import SemverRange.Proofs.AnyVersion

namespace SemverRange

variable {c : Clause} {v : Version}

/-! ### Guards -/

theorem Version.isPreRelease_iff : v.isPreRelease = true ↔ v.preRelease ≠ [] := by
  simp [isPreRelease]

/-- What it takes for a pre-release to meet a clause. -/
theorem Clause.isMetBy_preRelease_iff (hpre : v.preRelease ≠ []) :
    c.isMetBy v = true ↔
      c.releasesOnly = false ∧
        (c.guardsPreReleases = true → v.triple = c.interval.lower.triple) ∧
        c.interval.contains v = true := by
  have htagged : v.isTagged = true := by
    simp [Version.isTagged, hpre]
  rw [isMetBy, htagged, Version.isPreRelease_iff.mpr hpre, Version.hasSameBase]
  cases c.releasesOnly <;> cases c.guardsPreReleases <;> simp

namespace Comparison

variable {o : Operator} {l : Literal}

/-! ### The two exits -/

theorem clauseFor_of_isAny (hany : l.isAny = true) (hc : clauseFor o l = .ok c) :
    c = o.clauseOfAny := by
  rw [clauseFor, hany] at hc
  obtain ⟨⟨⟩, -, hc⟩ := bind_eq_ok_iff.mp hc
  cases hc
  rfl

/-- The clauses with a guard are those of tilde and caret before a major number. -/
theorem guardsPreReleases_iff (hc : clauseFor o l = .ok c) :
    c.guardsPreReleases = true ↔ (o = .tilde ∨ o = .caret) ∧ l.isAny = false := by
  rcases hany : l.isAny with - | -
  · obtain ⟨low, i, -, -, rfl⟩ := (clauseFor_eq_ok_iff hany).mp hc
    simp
  · rw [clauseFor_of_isAny hany hc]
    cases o <;> simp [Operator.clauseOfAny]

/-- **Tilde and caret hold pre-releases back where a major number is given.**  A pre-release
that meets such a clause has the numbers of its lower end.  Where the major number is open,
there is nothing to hold it to, and every pre-release between the least version and the
greatest meets the clause. -/
theorem preRelease_of_tilde_or_caret {sign : Option Text} (hsign : Operator.ofSign? sign = some o)
    (ho : o = .tilde ∨ o = .caret) (hc : clause { sign, version := l } = .ok c)
    (hpre : v.preRelease ≠ []) :
    (l.isAny = false → c.isMetBy v = true → v.triple = c.interval.lower.triple) ∧
      (l.isAny = true → v.isNewerThan .least = true → v.isOlderThan .greatest = true →
        c.isMetBy v = true) := by
  simp only [clause, hsign] at hc
  constructor
  · intro hgiven hmet
    obtain ⟨-, hguard, -⟩ := (Clause.isMetBy_preRelease_iff hpre).mp hmet
    exact hguard ((guardsPreReleases_iff hc).mpr ⟨ho, hgiven⟩)
  · intro hany hleast hgreatest
    have hclause : c = { kind := .comparison o, interval := .whole } := by
      rw [clauseFor_of_isAny hany hc]
      apply Operator.clauseOfAny_eq_whole
      · rintro rfl
        simp at ho
      · rintro rfl
        simp at ho
    subst hclause
    refine (Clause.isMetBy_preRelease_iff hpre).mpr ⟨rfl, by simp, ?_⟩
    exact Interval.contains_closed_iff.mpr (.inr (.inr ⟨hleast, hgreatest⟩))

/-- A later pre-release under a tilde, and under a caret before a wildcard any one. -/
theorem tilde_and_caret_meet_preReleases :
    ∃ (l any : Literal) (c whole : Clause) (v w : Version),
      Literal.read? "1.2.3-rc.1".toList = some (l, []) ∧ l.isAny = false ∧
      clause { sign := some ['~'], version := l } = .ok c ∧
      Version.ofText "1.2.3-rc.2+b".toList = .ok v ∧ c.isMetBy v = true ∧
      v.triple = c.interval.lower.triple ∧
      Literal.read? "x.X".toList = some (any, []) ∧ any.isAny = true ∧
      clause { sign := some ['^'], version := any } = .ok whole ∧
      Version.ofText "7.0.1-0".toList = .ok w ∧ whole.isMetBy w = true := by
  let l : Literal :=
    { major := some ['1'], minor := some ['2'], patch := some ['3'],
      preRelease := [['r', 'c'], ['1']], text := "1.2.3-rc.1".toList }
  let any : Literal := { major := some ['x'], minor := some ['X'], text := "x.X".toList }
  let c : Clause :=
    { kind := .comparison .tilde, guardsPreReleases := true,
      interval := { lower := l.version, upper := .ofTriple (1, 3, 0), hasUpper := false } }
  let v : Version :=
    { major := 1, minor := 2, patch := 3, preRelease := [['r', 'c'], ['2']], build := [['b']] }
  let w : Version := { major := 7, minor := 0, patch := 1, preRelease := [['0']] }
  have hc : clause { sign := some ['~'], version := l } = .ok c := by decide
  have hwhole : clause { sign := some ['^'], version := any } =
      .ok { kind := .comparison .caret, interval := .whole } := by decide
  have hmet : c.isMetBy v = true := by decide
  obtain ⟨hguarded, -⟩ := preRelease_of_tilde_or_caret (by decide) (.inl rfl) hc
    (by decide : v.preRelease ≠ [])
  obtain ⟨-, hfree⟩ := preRelease_of_tilde_or_caret (by decide) (.inr rfl) hwhole
    (by decide : w.preRelease ≠ [])
  exact ⟨l, any, c, _, v, w, by decide, by decide, hc, by decide, hmet,
    hguarded (by decide) hmet, by decide, by decide, hwhole, by decide,
    hfree (by decide) (by decide) (by decide)⟩

/-- Before a star a tilde lets a pre-release through that is not on the numbers of the lower
end, which are those of the least version. -/
theorem tilde_star_meets_preReleases :
    ∃ (l : Literal) (c : Clause) (v : Version) (r : Requirement),
      Literal.read? ['*'] = some (l, []) ∧
      clause { sign := some ['~'], version := l } = .ok c ∧
      Version.ofText "1.2.3-alpha".toList = .ok v ∧ v.preRelease ≠ [] ∧ c.isMetBy v = true ∧
      v.triple ≠ c.interval.lower.triple ∧
      Requirement.ofText ['~', '*'] = .ok r ∧ r.isMetBy v = true := by
  let c : Clause := { kind := .comparison .tilde, interval := .whole }
  refine ⟨{ major := some ['*'], text := ['*'] }, c,
    { major := 1, minor := 2, patch := 3, preRelease := ["alpha".toList] },
    { text := ['~', '*'], alternatives := [[c]] }, ?_⟩
  have hrequirement :
      Requirement.ofText ['~', '*'] = .ok { text := ['~', '*'], alternatives := [[c]] } := by cbv
  rw [hrequirement]
  decide

end Comparison

end SemverRange
