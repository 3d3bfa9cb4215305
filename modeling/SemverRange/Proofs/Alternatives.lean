/-
SemverRange/Proofs/Alternatives.lean

Requirements as alternatives of one another.

A requirement compiles just in case its text parses and every condition of every
group has a clause (`Requirement.ofText_eq_ok_iff`).  The clause of a condition
depends on its own text alone but for one thing: the whole requirement is searched
for a spaced dash.  So `s || t` has the alternatives of `s` and then those of `t`
just in case neither text makes a dash range of what is a comparison by the other
(`Requirement.ofText_orText_iff`).
-/
import Mathlib
import SemverRange.Proofs.LiteralBounds
import SemverRange.Proofs.Pieces
import SemverRange.Proofs.SpacedDash
import SemverRange.Requirement.Basic

namespace SemverRange

/-! ### Outcomes -/

namespace Traced

variable {ε α β : Type} {f : α → Traced ε β} {a : α} {as : List α} {bs : List β}

theorem outcome_forEach_cons :
    (forEach f (a :: as)).outcome =
      (f a).outcome.bind fun b => (forEach f as).outcome.map (b :: ·) := by
  rw [forEach]
  rcases (f a).outcome with e | b <;> rfl

theorem forEach_eq_ok_iff :
    (forEach f as).outcome = .ok bs ↔ as.map (fun a => (f a).outcome) = bs.map .ok := by
  induction as generalizing bs with
  | nil => cases bs <;> simp [forEach]
  | cons a as ih =>
    rw [outcome_forEach_cons, List.map_cons]
    rcases bs with - | ⟨b, bs⟩
    · rcases (f a).outcome with e | b'
      · simp [Except.bind]
      · rcases (forEach f as).outcome with e | bs' <;> simp [Except.bind, Except.map]
    · rw [List.map_cons, List.cons.injEq, ← ih]
      rcases (f a).outcome with e | b'
      · simp [Except.bind]
      · rcases (forEach f as).outcome with e | bs' <;> simp [Except.bind, Except.map]

end Traced

theorem exists_ok_of_map_eq {ε α β : Type} {f : α → Except ε β} {as : List α} {bs : List β}
    (h : as.map f = bs.map .ok) {a : α} (ha : a ∈ as) : ∃ b, f a = .ok b := by
  have hmem : f a ∈ bs.map .ok := by
    rw [← h]
    exact List.mem_map_of_mem ha
  obtain ⟨b, -, hb⟩ := List.mem_map.mp hmem
  exact ⟨b, hb.symm⟩

theorem exists_eq_ok_of_map_eq {ε α β : Type} {f : α → Except ε β} {as : List α} {bs : List β}
    (h : as.map f = bs.map .ok) {b : β} (hb : b ∈ bs) : ∃ a ∈ as, f a = .ok b := by
  have hmem : .ok b ∈ as.map f := by
    rw [h]
    exact List.mem_map_of_mem hb
  exact List.mem_map.mp hmem

theorem Comparison.kind_of_clause {c : Comparison} {k : Clause} (h : c.clause = .ok k) :
    ∃ o, k.kind = .comparison o := by
  rw [clause] at h
  split at h
  · cases h
  · rename_i o _
    refine ⟨o, ?_⟩
    rcases hany : c.version.isAny with - | -
    · obtain ⟨low, i, -, -, rfl⟩ := (clauseFor_eq_ok_iff hany).mp h
      rfl
    · rw [clauseFor, hany] at h
      obtain ⟨-, -, h⟩ := bind_eq_ok_iff.mp h
      cases h
      cases o <;> rfl

theorem DashRange.kind_of_clause {d : DashRange} {k : Clause} (h : d.clause = .ok k) :
    k.kind = .dash := by
  rw [clause] at h
  obtain ⟨low, -, h⟩ := bind_eq_ok_iff.mp h
  obtain ⟨high, -, h⟩ := bind_eq_ok_iff.mp h
  cases h
  rfl

namespace Requirement

/-! ### Compilation, group by group -/

theorem outcome_compileCondition_comparison (raw : Text) (c : Comparison) :
    (compileCondition raw (.comparison c)).outcome =
      match c.dashRange? raw with
      | none => c.clause
      | some d => d.clause := by
  rw [compileCondition]
  rcases c.dashRange? raw with - | d <;> rfl

/-- What the groups of the requirement `raw` compile to. -/
def outcomes (raw : Text) (gs : List Group) : List (Except MeaningError (List Clause)) :=
  gs.map fun g => (compileGroup raw g).outcome

theorem outcomes_append (raw : Text) (gs hs : List Group) :
    outcomes raw (gs ++ hs) = outcomes raw gs ++ outcomes raw hs :=
  List.map_append

/-- **A requirement compiles just in case its groups do.** -/
theorem ofText_eq_ok_iff {s : Text} {r : Requirement} :
    ofText s = .ok r ↔
      r.text = Text.strip s ∧
        ∃ gs, parse (Text.strip s) = .ok gs ∧
          outcomes (Text.strip s) gs = r.alternatives.map .ok := by
  rw [ofText, compile, compileStripped]
  rcases hparse : parse (Text.strip s) with position | gs
  · simp
  · simp only [Except.ok.injEq, exists_eq_left', outcomes, ← Traced.forEach_eq_ok_iff]
    rcases (Traced.forEach (compileGroup (Text.strip s)) gs).outcome with e | alternatives
    · simp
    · simp only [Except.ok.injEq]
      constructor
      · rintro rfl
        exact ⟨rfl, rfl⟩
      · rintro ⟨htext, rfl⟩
        rw [← htext]

/-- A requirement of one comparison, not meant as a range, has that one clause. -/
theorem ofText_of_comparison {s : Text} {c : Comparison} {k : Clause}
    (hparse : parse (Text.strip s) = .ok [[.comparison c]])
    (hdash : c.dashRange? (Text.strip s) = none) (hclause : c.clause = .ok k) :
    ofText s = .ok { text := Text.strip s, alternatives := [[k]] } := by
  rw [ofText_eq_ok_iff]
  refine ⟨rfl, _, hparse, ?_⟩
  have hgroup : (compileGroup (Text.strip s) [.comparison c]).outcome = .ok [k] := by
    rw [compileGroup, Traced.forEach_eq_ok_iff]
    show [(compileCondition _ (.comparison c)).outcome] = [.ok k]
    rw [outcome_compileCondition_comparison, hdash, hclause]
  rw [outcomes, List.map_singleton, hgroup]
  rfl

/-- Every clause of a requirement comes from a condition of one of its groups. -/
theorem exists_condition_of_mem {s : Text} {r : Requirement} (hr : ofText s = .ok r)
    {ks : List Clause} (hks : ks ∈ r.alternatives) {k : Clause} (hk : k ∈ ks) :
    ∃ gs, parse (Text.strip s) = .ok gs ∧ ∃ g ∈ gs, ∃ c ∈ Group.dashesLast g,
      (compileCondition (Text.strip s) c).outcome = .ok k := by
  obtain ⟨-, gs, hparse, hgs⟩ := ofText_eq_ok_iff.mp hr
  obtain ⟨g, hg, hgroup⟩ := exists_eq_ok_of_map_eq hgs hks
  rw [compileGroup, Traced.forEach_eq_ok_iff] at hgroup
  obtain ⟨c, hc, hk⟩ := exists_eq_ok_of_map_eq hgroup hk
  exact ⟨gs, hparse, g, hg, c, hc, hk⟩

theorem comparison_mem_comparisons {g : Group} {c : Comparison} :
    c ∈ Group.comparisons g ↔ .comparison c ∈ g := by
  rw [Group.comparisons, List.mem_filterMap]
  constructor
  · rintro ⟨d, hd, heq⟩
    cases d with
    | comparison c' =>
      obtain rfl : c' = c := Option.some.inj heq
      exact hd
    | dashRange d => cases heq
  · intro hc
    exact ⟨_, hc, rfl⟩

theorem comparison_mem_dashesLast {g : Group} {c : Comparison} :
    .comparison c ∈ Group.dashesLast g ↔ c ∈ Group.comparisons g := by
  simp [Group.dashesLast]

/-- Whether no comparison that the text `s` leaves one is a dash range by the text
`t`. -/
def KeepsReading (gs : List Group) (s t : Text) : Prop :=
  ∀ g ∈ gs, ∀ c ∈ Group.comparisons g, c.dashRange? s = none → c.dashRange? t = none

instance (gs : List Group) (s t : Text) : Decidable (KeepsReading gs s t) :=
  inferInstanceAs (Decidable (∀ g ∈ gs, ∀ c ∈ Group.comparisons g, _ → _))

/-- Groups that compile in a text compile to the same in a larger one just in case
the rest of it turns none of their comparisons into a dash range. -/
theorem outcomes_eq_iff {raw rest whole : Text} {gs : List Group}
    (hwhole : ∀ g ∈ gs, ∀ c ∈ Group.comparisons g,
      c.dashRange? whole = (c.dashRange? raw).or (c.dashRange? rest))
    {alternatives : List (List Clause)} (hraw : outcomes raw gs = alternatives.map .ok) :
    outcomes whole gs = alternatives.map .ok ↔ KeepsReading gs raw rest := by
  rw [← hraw, outcomes, outcomes, List.map_inj_left]
  constructor
  · intro hsame g hg c hc hnone
    have hmem := comparison_mem_dashesLast.mpr hc
    obtain ⟨ks, hks⟩ := exists_ok_of_map_eq hraw hg
    have hgroup := hsame g hg
    rw [hks, compileGroup, Traced.forEach_eq_ok_iff] at hgroup
    rw [compileGroup, Traced.forEach_eq_ok_iff, ← hgroup, List.map_inj_left] at hks
    obtain ⟨k, hk⟩ := exists_ok_of_map_eq hgroup hmem
    have hcomparison := hks _ hmem
    rw [hk, outcome_compileCondition_comparison, hnone] at hcomparison
    rw [outcome_compileCondition_comparison, hwhole g hg c hc, hnone, Option.none_or] at hk
    -- one clause cannot come both from the comparison and from a range
    rcases hrest : c.dashRange? rest with - | d
    · rfl
    · rw [hrest] at hk
      obtain ⟨o, ho⟩ := Comparison.kind_of_clause hcomparison
      rw [DashRange.kind_of_clause hk] at ho
      cases ho
  · intro hkeeps g hg
    obtain ⟨ks, hks⟩ := exists_ok_of_map_eq hraw hg
    rw [hks, compileGroup, Traced.forEach_eq_ok_iff]
    rw [compileGroup, Traced.forEach_eq_ok_iff] at hks
    rw [← hks, List.map_inj_left]
    intro c hc
    rcases c with c | d
    · have hmem := comparison_mem_dashesLast.mp hc
      rw [outcome_compileCondition_comparison, outcome_compileCondition_comparison,
        hwhole g hg c hmem]
      rcases hnone : c.dashRange? raw with - | d
      · rw [hkeeps g hg c hmem hnone]
        rfl
      · rfl
    · rfl

/-! ### Alternatives -/

theorem isMetBy_of_alternatives_eq_append {r rs rt : Requirement}
    (h : r.alternatives = rs.alternatives ++ rt.alternatives) (v : Version) :
    r.isMetBy v = (rs.isMetBy v || rt.isMetBy v) := by
  rw [isMetBy, meetsAny, h, List.any_append]
  rfl

/-- A comparison of one of two alternatives is a dash range if either text says so. -/
theorem dashRange?_strip_orText {c : Comparison} (hc : c.version.IsWellFormed) (s t : Text) :
    c.dashRange? (Text.strip (orText s t)) =
      (c.dashRange? (Text.strip s)).or (c.dashRange? (Text.strip t)) := by
  -- two bars are one bar twice, with nothing in between
  have hbars : orText s t = (s ++ [' ']) ++ '|' :: ([] ++ '|' :: ([' '] ++ t)) :=
    orText_eq_append_bars s t
  have hnil : c.dashRange? [] = none := Comparison.dashRange?_of_no_blank (by simp)
  rw [Comparison.dashRange?_strip hc, hbars, Comparison.dashRange?_append_bar hc,
    Comparison.dashRange?_append_bar hc, hnil, Option.none_or,
    ← Comparison.dashRange?_strip hc (s ++ [' ']), Text.strip_append_right Text.allBlank_space,
    ← Comparison.dashRange?_strip hc ([' '] ++ t), Text.strip_append_left Text.allBlank_space]

/-- **Alternatives are independent but for spaced dashes.**  If `s` and `t` compile,
then `s || t` parses as the groups of both, and a comparison among them is a dash
range if it is one by the text of `s` or by that of `t`.  It compiles to the
alternatives of both, and so is met where one of them is met, just in case neither
text makes a dash range of what is a comparison by the other. -/
theorem ofText_orText_iff {s t : Text} {rs rt : Requirement} (hs : ofText s = .ok rs)
    (ht : ofText t = .ok rt) :
    ∃ gs gt, parse (Text.strip s) = .ok gs ∧ parse (Text.strip t) = .ok gt ∧
      parse (Text.strip (orText s t)) = .ok (gs ++ gt) ∧
      (∀ g ∈ gs ++ gt, ∀ c ∈ Group.comparisons g,
        c.dashRange? (Text.strip (orText s t)) =
          (c.dashRange? (Text.strip s)).or (c.dashRange? (Text.strip t))) ∧
      (KeepsReading gs (Text.strip s) (Text.strip t) ∧
          KeepsReading gt (Text.strip t) (Text.strip s) ↔
        ∃ r, ofText (orText s t) = .ok r ∧
          r.alternatives = rs.alternatives ++ rt.alternatives ∧
          ∀ v, r.isMetBy v = (rs.isMetBy v || rt.isMetBy v)) := by
  obtain ⟨-, gs, hgs, hrs⟩ := ofText_eq_ok_iff.mp hs
  obtain ⟨-, gt, hgt, hrt⟩ := ofText_eq_ok_iff.mp ht
  have hparse : parse (Text.strip (orText s t)) = .ok (gs ++ gt) := by
    apply parse_strip_eq_ok_iff.mpr
    exact parse_orText_eq_ok (parse_strip_eq_ok_iff.mp hgs) (parse_strip_eq_ok_iff.mp hgt)
  have hdash : ∀ g ∈ gs ++ gt, ∀ c ∈ Group.comparisons g,
      c.dashRange? (Text.strip (orText s t)) =
        (c.dashRange? (Text.strip s)).or (c.dashRange? (Text.strip t)) := by
    intro g hg c hc
    have hread := isRead_of_parse hparse g hg _ (comparison_mem_comparisons.mp hc)
    exact dashRange?_strip_orText (Literal.IsRead.isWellFormed hread) s t
  have hleft := outcomes_eq_iff (fun g hg => hdash g (List.mem_append_left gt hg)) hrs
  have hright := outcomes_eq_iff
    (fun g hg c hc => (hdash g (List.mem_append_right gs hg) c hc).trans
      (Comparison.dashRange?_or_comm _ _)) hrt
  refine ⟨gs, gt, hgs, hgt, hparse, hdash, ?_⟩
  rw [← hleft, ← hright]
  constructor
  · rintro ⟨hl, hr⟩
    refine ⟨⟨Text.strip (orText s t), rs.alternatives ++ rt.alternatives⟩, ?_, rfl,
      isMetBy_of_alternatives_eq_append rfl⟩
    rw [ofText_eq_ok_iff]
    refine ⟨rfl, gs ++ gt, hparse, ?_⟩
    rw [outcomes_append, hl, hr, List.map_append]
  · rintro ⟨r, hr, halternatives, -⟩
    obtain ⟨-, gs', hgs', hr⟩ := ofText_eq_ok_iff.mp hr
    obtain rfl : gs ++ gt = gs' := by simpa [hparse] using hgs'
    rw [outcomes_append, halternatives, List.map_append] at hr
    -- the groups of `s` compile to as many alternatives as they do alone
    apply List.append_inj hr
    have hlength := congrArg List.length hrs
    simpa [outcomes] using hlength

/-- A pre-release that looks like a version keeps its meaning beside a caret range. -/
theorem preRelease_orText_caret :
    ∃ r, ofText (orText "1.1.1-2.2.2".toList "^2.0.0-rc.1".toList) = .ok r ∧
      r.isMetBy { major := 1, minor := 1, patch := 1, preRelease := [['2'], ['2'], ['2']] } = true ∧
      r.isMetBy { major := 2, minor := 0, patch := 1 } = true ∧
      r.isMetBy { major := 1, minor := 1, patch := 2 } = false := by
  let literal (major minor patch : Char) (preRelease : List Identifier) (s : String) : Literal :=
    { major := some [major], minor := some [minor], patch := some [patch], preRelease,
      text := s.toList }
  let l := literal '1' '1' '1' [['2'], ['2'], ['2']] "1.1.1-2.2.2"
  let m := literal '2' '0' '0' [['r', 'c'], ['1']] "2.0.0-rc.1"
  let exact : Clause :=
    { kind := .comparison .equal,
      interval := { lower := l.version, upper := l.version, hasUpper := false } }
  let caret : Clause :=
    { kind := .comparison .caret, guardsPreReleases := true,
      interval := { lower := m.version, upper := .ofTriple (3, 0, 0), hasUpper := false } }
  have hs : ofText "1.1.1-2.2.2".toList = .ok ⟨"1.1.1-2.2.2".toList, [[exact]]⟩ := by cbv
  have ht : ofText "^2.0.0-rc.1".toList = .ok ⟨"^2.0.0-rc.1".toList, [[caret]]⟩ := by cbv
  have hps : parse (Text.strip "1.1.1-2.2.2".toList) = .ok [[.comparison ⟨none, l⟩]] := by cbv
  have hpt : parse (Text.strip "^2.0.0-rc.1".toList) = .ok [[.comparison ⟨some ['^'], m⟩]] := by
    cbv
  obtain ⟨gs, gt, hgs, hgt, -, -, hiff⟩ := ofText_orText_iff hs ht
  obtain rfl := Except.ok.inj (hps.symm.trans hgs)
  obtain rfl := Except.ok.inj (hpt.symm.trans hgt)
  obtain ⟨r, hr, -, hmeets⟩ := hiff.mp (by decide)
  refine ⟨r, hr, ?_⟩
  simp only [hmeets]
  decide

/-- Beside a range the same pre-release is read as that range, and its own version
no longer meets the requirement; with a wildcard in it, the requirement does not
even compile. -/
theorem orText_reads_preRelease_as_range :
    (∃ rs rt r v, ofText "1.1.1-2.2.2".toList = .ok rs ∧
      ofText "1.1.1 - 2.2.2".toList = .ok rt ∧
      ofText (orText "1.1.1-2.2.2".toList "1.1.1 - 2.2.2".toList) = .ok r ∧
      Version.ofText "1.1.1-2.2.2".toList = .ok v ∧
      rs.isMetBy v = true ∧ r.isMetBy v = false) ∧
    (ofText "1.1.1-2.x.3".toList).toOption.isSome = true ∧
    (ofText "1.1.1 - 2.x.3.4".toList).toOption.isSome = true ∧
    (ofText (orText "1.1.1-2.x.3".toList "1.1.1 - 2.x.3.4".toList)).toOption = none := by
  let v : Version := { major := 1, minor := 1, patch := 1, preRelease := [['2'], ['2'], ['2']] }
  let exact : Clause :=
    { kind := .comparison .equal, interval := { lower := v, upper := v, hasUpper := false } }
  let range : Clause :=
    { kind := .dash, releasesOnly := true,
      interval := { lower := .ofTriple (1, 1, 1), upper := .ofTriple (2, 2, 2) } }
  refine ⟨⟨⟨"1.1.1-2.2.2".toList, [[exact]]⟩, ⟨"1.1.1 - 2.2.2".toList, [[range]]⟩,
    ⟨"1.1.1-2.2.2 || 1.1.1 - 2.2.2".toList, [[range], [range]]⟩, v, ?_, ?_, ?_, ?_, ?_⟩, ?_, ?_, ?_⟩
  · cbv
  · cbv
  · cbv
  · decide
  · decide
  · cbv
  · cbv
  · cbv

end Requirement

end SemverRange
