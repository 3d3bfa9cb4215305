/-
SemverRange/Proofs/TotalOrder.lean

Older, newer or equivalent.

Precedence goes by the values of numbers and equivalence by their spelling.  The two fit
together where every identifier has one spelling only: of two canonical versions exactly
one is older, or they are equivalent (`Version.count_comparisons_of_isCanonical`).

A version that arises from a text was read from it, or is a bound of a literal that was
(`Version.Arises`).  Both are canonical: the readers of tags keep to ASCII, and no way to a
version lets a zero in front of a number pass.  So these versions are totally ordered, up
to equivalence (`Version.Arises.isTotallyOrdered`).

An order has nothing above its greatest version and below its least at once.  Hence the
void interval is rightly named (`Interval.contains_void`), and no version meets `>` or `<`
before the literal for all versions (`Comparison.isMetBy_eq_false_of_isAny`).

Nothing else gets compared when a requirement is tested: the ends of all its intervals are
canonical, those of ranges that were resolved from a pre-release included
(`Requirement.isCanonical_of_mem`).  So precedence alone decides what is in them
(`Requirement.contains_iff_of_mem`).
-/
import SemverRange.Proofs.OpenEnds
import SemverRange.Proofs.PreReleaseGuard

namespace SemverRange

/-! ### Canonical versions -/

/-- Of two canonical versions exactly one is older, or they are equivalent: one of the
three comparisons holds, and no other. -/
theorem Version.count_comparisons_of_isCanonical {v w : Version} (hv : v.IsCanonical)
    (hw : w.IsCanonical) :
    [v.isOlderThan w, v.isNewerThan w, v.isEquivalentTo w].count true = 1 := by
  -- the three answers stand for the three values of precedence
  have holder : v.isOlderThan w = (v.precedence w == .lt) := by
    rw [Bool.eq_iff_iff, isOlderThan_iff_precedence, beq_iff_eq]
  have hnewer : v.isNewerThan w = (v.precedence w == .gt) := by
    rw [Bool.eq_iff_iff, isNewerThan_iff_precedence, beq_iff_eq]
  have hsame : v.isEquivalentTo w = (v.precedence w == .eq) := by
    rw [Bool.eq_iff_iff, isEquivalentTo_iff_precedence hv hw, beq_iff_eq]
  rw [holder, hnewer, hsame]
  cases v.precedence w <;> rfl

/-! ### The void interval -/

/-- No version is in the void interval: its ends are in the wrong order and neither of
them belongs to it. -/
theorem Interval.contains_void (v : Version) : void.contains v = false := by
  have hordered : Version.greatest.isOlderThan .least = false := by decide
  rw [Bool.eq_false_iff]
  intro h
  obtain ⟨hnewer, holder⟩ : v.isNewerThan .greatest = true ∧ v.isOlderThan .least = true := by
    simpa [contains, void] using h
  rw [Version.isOlderThan_trans hnewer holder] at hordered
  cases hordered

/-- Before the literal for all versions `>` and `<` leave nothing. -/
theorem Comparison.isMetBy_eq_false_of_isAny {l : Literal} (hany : l.isAny = true) {o : Operator}
    (ho : o = .greater ∨ o = .less) {c : Clause} (hc : clauseFor o l = .ok c) (v : Version) :
    c.isMetBy v = false := by
  have hclause : c = { kind := .comparison o, interval := .void } := by
    rw [clauseFor_of_isAny hany hc]
    rcases ho with rfl | rfl <;> rfl
  rw [hclause, Clause.isMetBy, Interval.contains_void, Bool.and_false]

/-! ### Versions that arise from texts -/

namespace Version

/-- A version arises from a text if it was read from it, or is a bound of a literal that
was. -/
inductive Arises : Version → Prop
  | ofText {s : Text} {v : Version} (h : Version.ofText s = .ok v) : Arises v
  | lowest {l : Literal} {v : Version} (hl : l.IsRead) (h : l.lowest = .ok v) : Arises v
  | highest {l : Literal} {v : Version} (hl : l.IsRead) (h : l.highest = .ok v) : Arises v
  | tildeBound {l : Literal} {v : Version} (hl : l.IsRead) (h : l.tildeBound = .ok v) : Arises v
  | caretBound {l : Literal} {v : Version} (hl : l.IsRead) (h : l.caretBound = .ok v) : Arises v

theorem Arises.isCanonical {v : Version} (hv : v.Arises) : v.IsCanonical := by
  cases hv with
  | ofText h => exact isCanonical_of_ofText h
  | lowest hl h => exact Literal.isCanonical_of_lowest hl.isWellFormed h
  | highest hl h => exact Literal.isCanonical_of_highest hl.isWellFormed h
  | tildeBound hl h => exact Literal.isCanonical_of_tildeBound hl.isWellFormed h
  | caretBound hl h => exact Literal.isCanonical_of_caretBound hl.isWellFormed h

/-- **Versions that arise from texts are totally ordered, up to equivalence.**  Exactly one
of the three comparisons holds between two of them; what is older than an older version is
older; and an equivalent version can stand in for either side.  So none of them is in the
void interval. -/
theorem Arises.isTotallyOrdered {u v : Version} (hu : u.Arises) (hv : v.Arises) :
    [u.isOlderThan v, u.isNewerThan v, u.isEquivalentTo v].count true = 1 ∧
      (∀ w, u.isOlderThan v = true → v.isOlderThan w = true → u.isOlderThan w = true) ∧
      (∀ u' v', u.isEquivalentTo u' = true → v.isEquivalentTo v' = true →
        u.isOlderThan v = u'.isOlderThan v') ∧
      Interval.void.contains u = false := by
  refine ⟨?_, ?_, ?_, ?_⟩
  · exact count_comparisons_of_isCanonical hu.isCanonical hv.isCanonical
  · intro w huv hvw
    exact isOlderThan_trans huv hvw
  · intro u' v' hu' hv'
    exact isOlderThan_congr hu' hv'
  · exact Interval.contains_void u

/-- Ten comes after two, with build metadata or without, and both before the limit of a
caret. -/
theorem two_before_ten_before_caretBound :
    ∃ (l : Literal) (u u' v w : Version),
      Version.ofText "v1.0.0-rc.2+a".toList = .ok u ∧
      Version.ofText "1.0.0-rc.2".toList = .ok u' ∧
      Literal.read? "1.0.0 - rc.10.x+b".toList = some (l, []) ∧ l.lowest = .ok v ∧
      l.caretBound = .ok w ∧
      [u.isOlderThan v, u.isNewerThan v, u.isEquivalentTo v].count true = 1 ∧
      u.isOlderThan v = true ∧ v.isOlderThan w = true ∧ u.isOlderThan w = true ∧
      u.isEquivalentTo u' = true ∧ u'.isOlderThan v = true ∧
      Interval.void.contains u = false := by
  let l : Literal :=
    { major := some ['1'], minor := some ['0'], patch := some ['0'],
      preRelease := [['r', 'c'], ['1', '0'], ['x']], build := [['b']],
      text := "1.0.0 - rc.10.x+b".toList }
  let u' : Version := { major := 1, minor := 0, patch := 0, preRelease := [['r', 'c'], ['2']] }
  let u : Version := { u' with build := [['a']] }
  have hread : Literal.read? "1.0.0 - rc.10.x+b".toList = some (l, []) := by decide
  have hu : Version.ofText "v1.0.0-rc.2+a".toList = .ok u := by decide
  have hv : l.lowest = .ok l.version := by decide
  have holder : u.isOlderThan l.version = true := by decide
  have hlimit : l.version.isOlderThan (.ofTriple (2, 0, 0)) = true := by decide
  have hsame : u.isEquivalentTo u' = true := by decide
  obtain ⟨hone, htrans, hcongr, hvoid⟩ :=
    Arises.isTotallyOrdered (.ofText hu) (.lowest ⟨_, _, hread⟩ hv)
  exact ⟨l, u, u', l.version, .ofTriple (2, 0, 0), hu, by decide, hread, hv, by decide, hone,
    holder, hlimit, htrans _ holder hlimit, hsame,
    (hcongr u' _ hsame (isEquivalentTo_refl _)).symm.trans holder, hvoid⟩

end Version

/-! ### The intervals of a requirement -/

/-- An interval whose ends have one spelling. -/
structure Interval.IsCanonical (i : Interval) : Prop where
  lower : i.lower.IsCanonical
  upper : i.upper.IsCanonical

theorem Operator.isCanonical_clauseOfAny (o : Operator) : o.clauseOfAny.interval.IsCanonical := by
  cases o
  case greater | less => exact ⟨Version.isCanonical_greatest, Version.isCanonical_least⟩
  all_goals exact ⟨Version.isCanonical_least, Version.isCanonical_greatest⟩

/-- An interval from a canonical version up to a bound, if there is one. -/
theorem Interval.isCanonical_of_map {low : Version} (hlow : low.IsCanonical)
    {bound : Except MeaningError Version} (hbound : ∀ high, bound = .ok high → high.IsCanonical)
    {i : Interval}
    (h : (bound.map fun upper => { lower := low, upper, hasUpper := false }) = .ok i) :
    i.IsCanonical := by
  rcases bound with e | high
  · cases h
  · obtain rfl := Except.ok.inj h
    exact ⟨hlow, hbound high rfl⟩

section

variable {l : Literal} (hl : l.IsWellFormed) {o : Operator}

include hl

theorem Operator.isCanonical_of_intervalFrom {low : Version} (hlow : low.IsCanonical)
    {i : Interval} (h : o.intervalFrom l low = .ok i) : i.IsCanonical := by
  cases o
  case greater | greaterOrEqual =>
    obtain rfl := Except.ok.inj h
    exact ⟨hlow, Version.isCanonical_greatest⟩
  case less | lessOrEqual =>
    obtain rfl := Except.ok.inj h
    exact ⟨Version.isCanonical_least, hlow⟩
  case tilde =>
    exact Interval.isCanonical_of_map hlow (fun _ => Literal.isCanonical_of_tildeBound hl) h
  case caret =>
    exact Interval.isCanonical_of_map hlow (fun _ => Literal.isCanonical_of_caretBound hl) h
  case equal =>
    exact Interval.isCanonical_of_map hlow (fun _ => Literal.isCanonical_of_highest hl) h

theorem Comparison.isCanonical_of_clauseFor {k : Clause} (h : clauseFor o l = .ok k) :
    k.interval.IsCanonical := by
  rcases hany : l.isAny with - | -
  · obtain ⟨low, i, hlow, hi, rfl⟩ := (clauseFor_eq_ok_iff hany).mp h
    exact o.isCanonical_of_intervalFrom hl (Literal.isCanonical_of_lowest hl hlow) hi
  · rw [clauseFor_of_isAny hany h]
    exact o.isCanonical_clauseOfAny

end

theorem Comparison.isCanonical_of_clause {c : Comparison} (hc : c.version.IsWellFormed)
    {k : Clause} (h : c.clause = .ok k) : k.interval.IsCanonical := by
  rw [clause] at h
  split at h
  · cases h
  · exact isCanonical_of_clauseFor hc h

theorem DashRange.isCanonical_of_clause {d : DashRange} (hlower : d.lower.IsWellFormed)
    (hupper : d.upper.IsWellFormed) {k : Clause} (h : d.clause = .ok k) :
    k.interval.IsCanonical := by
  obtain ⟨low, high, hlow, hhigh, rfl⟩ := clause_eq_ok_iff.mp h
  exact ⟨Literal.isCanonical_of_lowest hlower hlow, Literal.isCanonical_of_highest hupper hhigh⟩

/-- Both literals of a range that is resolved from a pre-release are well formed. -/
theorem Comparison.isWellFormed_of_dashRange? {c : Comparison} (hc : c.version.IsWellFormed)
    {raw : Text} {d : DashRange} (h : c.dashRange? raw = some d) :
    d.lower.IsWellFormed ∧ d.upper.IsWellFormed := by
  obtain ⟨-, -, hlower, hupper⟩ := dashRange?_eq_some h
  exact ⟨hlower ▸ hc.withoutPreRelease, (Literal.IsRead.of_ofText? hupper).isWellFormed⟩

namespace Requirement

theorem isCanonical_of_compileCondition {raw : Text} {c : Condition} (hc : c.IsRead) {k : Clause}
    (h : (compileCondition raw c).outcome = .ok k) : k.interval.IsCanonical := by
  cases c with
  | comparison c =>
    have hwell : c.version.IsWellFormed := Literal.IsRead.isWellFormed hc
    rw [outcome_compileCondition_comparison] at h
    split at h
    · exact Comparison.isCanonical_of_clause hwell h
    · rename_i d hd
      obtain ⟨hlower, hupper⟩ := Comparison.isWellFormed_of_dashRange? hwell hd
      exact DashRange.isCanonical_of_clause hlower hupper h
  | dashRange d =>
    exact DashRange.isCanonical_of_clause (Literal.IsRead.isWellFormed hc.1)
      (Literal.IsRead.isWellFormed hc.2) h

section

variable {s : Text} {r : Requirement} (hr : ofText s = .ok r) {ks : List Clause}
  (hks : ks ∈ r.alternatives) {k : Clause} (hk : k ∈ ks)

include hr hks hk

/-- The ends of all intervals of a requirement are canonical. -/
theorem isCanonical_of_mem : k.interval.IsCanonical := by
  obtain ⟨gs, hparse, g, hg, c, hc, hcompiled⟩ := exists_condition_of_mem hr hks hk
  have hread : c.IsRead := isRead_of_parse hparse g hg c (mem_of_mem_dashesLast hc)
  exact isCanonical_of_compileCondition hread hcompiled

/-- Whether a version is in an interval of a requirement only depends on the places that
precedence gives it against the two ends. -/
theorem contains_iff_of_mem {t : Text} {v : Version} (hv : Version.ofText t = .ok v) :
    k.interval.contains v = true ↔
      k.interval.hasLower = true ∧ v.precedence k.interval.lower = .eq ∨
        k.interval.hasUpper = true ∧ v.precedence k.interval.upper = .eq ∨
          v.precedence k.interval.lower = .gt ∧ v.precedence k.interval.upper = .lt := by
  obtain ⟨hlower, hupper⟩ := isCanonical_of_mem hr hks hk
  exact Interval.contains_iff (Version.isCanonical_of_ofText hv) hlower hupper

end

end Requirement

end SemverRange
