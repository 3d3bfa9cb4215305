/-
SemverRange/Proofs/AnyVersion.lean

How far the literal for all versions reaches.

There are two ways to ask for nothing: a group without conditions, and the literal that
stands for all versions.  The group has no clauses, so every version meets it
(`Requirement.ofText_of_allBlank`).  The literal has a clause, with the interval from the
least version to the greatest, both ends included (`Interval.contains_whole_iff`).  No
operator but `>` and `<` makes a difference to that, and so the two ways agree on the
versions between those ends and on no others (`Requirement.agrees_with_blank_iff`): the
pre-releases of 0.0.0 and what is beyond the greatest version meet a requirement that is
blank, and do not meet `*`.
-/
import SemverRange.Proofs.Alternatives
import SemverRange.Proofs.Comparators
import SemverRange.Proofs.DashRanges

namespace SemverRange

/-! ### The whole interval -/

/-- The whole interval holds what is on the right side of both of its ends. -/
theorem Interval.contains_whole_iff {v : Version} (hv : v.IsCanonical) :
    Interval.whole.contains v = true ↔
      v.isOlderThan .least = false ∧ v.isNewerThan .greatest = false := by
  have hordered : Version.least.isNewerThan .greatest = false := by decide
  rw [whole, contains_closed_iff]
  constructor
  · exact sides_of_ordered hordered
  · rintro ⟨hleast, hgreatest⟩
    rcases Version.isOlderThan_trichotomy hv Version.isCanonical_least with h | h | hnewer
    · rw [hleast] at h
      cases h
    · exact .inl h
    rcases Version.isOlderThan_trichotomy hv Version.isCanonical_greatest with holder | h | h
    · exact .inr (.inr ⟨hnewer, holder⟩)
    · exact .inr (.inl h)
    · rw [Version.isNewerThan, h] at hgreatest
      cases hgreatest

/-! ### The literal for all versions -/

/-- Without a fault the literal for all versions carries no tags. -/
theorem Literal.untagged_of_isAny {l : Literal} (hany : l.isAny = true)
    (hfault : l.fault? = none) : l.preRelease = [] ∧ l.build = [] := by
  rw [fault?, if_pos hany] at hfault
  split at hfault
  · cases hfault
  · rename_i hsound
    rw [Bool.or_eq_true, not_or] at hsound
    simpa [isTagged] using hsound.2

theorem Operator.clauseOfAny_eq_whole {o : Operator} (hgreater : o ≠ .greater)
    (hless : o ≠ .less) : o.clauseOfAny = { kind := .comparison o, interval := .whole } := by
  cases o <;> first | rfl | contradiction

theorem Comparison.clause_of_isAny {l : Literal} (hl : l.IsWellFormed) (hany : l.isAny = true)
    (hfault : l.fault? = none) {sign : Option Text} {o : Operator}
    (hsign : Operator.ofSign? sign = some o) :
    Comparison.clause { sign, version := l } = .ok o.clauseOfAny := by
  simp only [clause, hsign]
  rw [clauseFor, (Literal.check_eq_ok_iff hl).mpr hfault, hany]
  rfl

/-- The literal for all versions is never meant as the lower end of a range. -/
theorem Comparison.dashRange?_of_isAny {l : Literal} (hany : l.isAny = true)
    (hfault : l.fault? = none) (sign : Option Text) (raw : Text) :
    Comparison.dashRange? { sign, version := l } raw = none := by
  obtain ⟨hpre, hbuild⟩ := Literal.untagged_of_isAny hany hfault
  simp [dashRange?, Literal.preReleaseText?, hpre, hbuild]

namespace Requirement

/-- A requirement that is blank has one group, without conditions. -/
theorem ofText_of_allBlank {w : Text} (hw : Text.AllBlank w) :
    ofText w = .ok { text := [], alternatives := [[]] } := by
  have hstrip : Text.strip w = [] := by
    simpa [Text.strip, Text.trim] using Text.strip_append_left hw []
  rw [ofText_eq_ok_iff, hstrip]
  exact ⟨rfl, [[]], by cbv, rfl⟩

/-- **The literal for all versions reaches from the least version to the greatest.**  Let it
be without fault and stand behind no sign or one other than `>` and `<`.  Then it has a
clause, and this is met by the versions that are not older than the least version and not
newer than the greatest.  So a requirement of nothing else agrees with a blank one on
these versions and on no others. -/
theorem agrees_with_blank_iff {l : Literal} (hl : l.IsRead) (hany : l.isAny = true)
    (hfault : l.fault? = none) {sign : Option Text} {o : Operator}
    (hsign : Operator.ofSign? sign = some o) (hgreater : o ≠ .greater) (hless : o ≠ .less) :
    (∃ c, Comparison.clause { sign, version := l } = .ok c ∧
      ∀ t v, Version.ofText t = .ok v →
        (c.isMetBy v = true ↔ v.isOlderThan .least = false ∧ v.isNewerThan .greatest = false)) ∧
    ∀ s w, parse (Text.strip s) = .ok [[.comparison { sign, version := l }]] → Text.AllBlank w →
      ∃ r blank, ofText s = .ok r ∧ ofText w = .ok blank ∧ (∀ v, blank.isMetBy v = true) ∧
        ∀ t v, Version.ofText t = .ok v →
          (r.isMetBy v = blank.isMetBy v ↔
            v.isOlderThan .least = false ∧ v.isNewerThan .greatest = false) := by
  have hclause := Comparison.clause_of_isAny hl.isWellFormed hany hfault hsign
  rw [Operator.clauseOfAny_eq_whole hgreater hless] at hclause
  have hmeets : ∀ t v, Version.ofText t = .ok v →
      (Clause.isMetBy { kind := .comparison o, interval := .whole } v = true ↔
        v.isOlderThan .least = false ∧ v.isNewerThan .greatest = false) := by
    intro t v hv
    rw [← Interval.contains_whole_iff (Version.isCanonical_of_ofText hv)]
    simp [Clause.isMetBy]
  refine ⟨⟨_, hclause, hmeets⟩, ?_⟩
  intro s w hparse hw
  have hdash := Comparison.dashRange?_of_isAny hany hfault sign (Text.strip s)
  have hblank : ∀ v, isMetBy { text := [], alternatives := [[]] } v = true := fun v => rfl
  refine ⟨_, _, ofText_of_comparison hparse hdash hclause, ofText_of_allBlank hw, hblank, ?_⟩
  intro t v hv
  rw [hblank v, ← hmeets t v hv]
  simp [isMetBy, meetsAny, meetsAll]

/-- Build metadata does not carry the greatest version out of the interval. -/
theorem caret_star_meets_greatest :
    ∃ (l : Literal) (c : Clause) (v : Version) (r blank : Requirement),
      Literal.read? "vx.*".toList = some (l, []) ∧
      Comparison.clause { sign := some ['^'], version := l } = .ok c ∧
      Version.ofText "9223372036854775807.9223372036854775807.9223372036854775807+b".toList
        = .ok v ∧
      c.isMetBy v = true ∧ ofText " ^vx.*".toList = .ok r ∧ ofText " ".toList = .ok blank ∧
      r.isMetBy v = blank.isMetBy v := by
  let l : Literal := { major := some ['x'], minor := some ['*'], text := "vx.*".toList }
  let v : Version := { Version.greatest with build := [['b']] }
  have hl : Literal.read? "vx.*".toList = some (l, []) := by decide
  have hv : Version.ofText
      "9223372036854775807.9223372036854775807.9223372036854775807+b".toList = .ok v := by decide
  have hsign : Operator.ofSign? (some ['^']) = some .caret := by decide
  obtain ⟨⟨c, hc, hmeets⟩, hwhole⟩ :=
    agrees_with_blank_iff ⟨_, _, hl⟩ (by decide) (by decide) hsign (by decide) (by decide)
  obtain ⟨r, blank, hr, hblank, -, hagree⟩ :=
    hwhole " ^vx.*".toList " ".toList (by cbv) (by decide)
  exact ⟨l, c, v, r, blank, hl, hc, hv, (hmeets _ v hv).mpr (by decide), hr, hblank,
    (hagree _ v hv).mpr (by decide)⟩

/-- A star does not take all versions: a pre-release of 0.0.0 and a version beyond the
greatest do not meet it, and do meet a requirement that is empty. -/
theorem star_misses_versions :
    ∃ (l : Literal) (c : Clause) (below beyond : Version) (star empty : Requirement),
      Literal.read? ['*'] = some (l, []) ∧ l.isAny = true ∧ l.fault? = none ∧
      Comparison.clause { sign := none, version := l } = .ok c ∧
      Version.ofText "0.0.0-alpha".toList = .ok below ∧ c.isMetBy below = false ∧
      Version.ofText "9223372036854775808.0.0".toList = .ok beyond ∧ c.isMetBy beyond = false ∧
      ofText ['*'] = .ok star ∧ ofText [] = .ok empty ∧
      star.isMetBy below = false ∧ empty.isMetBy below = true ∧
      star.isMetBy beyond = false ∧ empty.isMetBy beyond = true := by
  let c : Clause := { kind := .comparison .equal, interval := .whole }
  refine ⟨{ major := some ['*'], text := ['*'] }, c,
    { major := 0, minor := 0, patch := 0, preRelease := ["alpha".toList] },
    { major := 9223372036854775808, minor := 0, patch := 0 },
    { text := ['*'], alternatives := [[c]] }, { text := [], alternatives := [[]] }, ?_⟩
  have hstar : ofText ['*'] = .ok { text := ['*'], alternatives := [[c]] } := by cbv
  rw [hstar, ofText_of_allBlank Text.allBlank_nil]
  decide

end Requirement

end SemverRange
