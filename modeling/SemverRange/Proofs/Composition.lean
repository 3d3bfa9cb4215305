/-
SemverRange/Proofs/Composition.lean

A requirement is parsed from its parts.

Texts without a bar, joined with bars, are parsed as each of them alone, and the first
that fails gives the position of the error, moved by what stands before it
(`parse_joinBars_eq_ok_iff`, `parse_joinBars_eq_error_iff`).  Inside a piece the like
holds of blanks: two groups with blanks between them are parsed as one
(`parse_append_blanks`).
-/
import Mathlib
import SemverRange.Proofs.Pieces

namespace SemverRange

open Text (AllBlank)

/-! ### Where parsing fails -/

/-- Pieces fail at the first that is no group.  What its reader is left with tells
the place inside of it; two bars are counted for each piece before it. -/
theorem readGroups_eq_error_iff {start p : Nat} {pieces : List Text} :
    readGroups start pieces = .error p ↔
      ∃ front s back rest, pieces = front ++ s :: back ∧
        (∀ t ∈ front, ∃ g, readGroup t = .ok g) ∧ readGroup s = .error rest ∧
        p = start + (front.map (·.length + 2)).sum + (s.length - rest.length) := by
  induction pieces generalizing start with
  | nil => simp [readGroups]
  | cons s pieces ih =>
    rw [readGroups]
    rcases hs : readGroup s with rest | g
    · -- the first piece fails, so no other does before it
      simp only [Except.error.injEq]
      constructor
      · rintro rfl
        exact ⟨[], s, pieces, rest, rfl, by simp, hs, by simp⟩
      · rintro ⟨- | ⟨t, front⟩, s', back, rest', heq, hfront, hs', rfl⟩
        · obtain ⟨rfl, -⟩ := List.cons.inj heq
          rw [hs, Except.error.injEq] at hs'
          simp [hs']
        · obtain ⟨rfl, -⟩ := List.cons.inj heq
          obtain ⟨g, hg⟩ := hfront s (by simp)
          rw [hs] at hg
          cases hg
    · simp only [map_eq_error_iff, ih]
      -- the first piece is a group, so it is one more before the piece that fails
      constructor
      · rintro ⟨front, t, back, rest, rfl, hfront, ht, rfl⟩
        refine ⟨s :: front, t, back, rest, rfl, ?_, ht, ?_⟩
        · simpa using ⟨⟨g, hs⟩, hfront⟩
        · simp only [List.map_cons, List.sum_cons]
          omega
      · rintro ⟨- | ⟨t, front⟩, s', back, rest, heq, hfront, hs', rfl⟩
        · obtain ⟨rfl, -⟩ := List.cons.inj heq
          rw [hs] at hs'
          cases hs'
        · obtain ⟨rfl, rfl⟩ := List.cons.inj heq
          refine ⟨front, s', back, rest, rfl, fun t ht => hfront t (by simp [ht]), hs', ?_⟩
          simp only [List.map_cons, List.sum_cons]
          omega

theorem length_flatMap_bars (front : List Text) :
    (front.flatMap (· ++ ['|', '|'])).length = (front.map (·.length + 2)).sum := by
  simp [List.length_flatMap]

theorem length_joinBars_append_cons (front : List Text) (s : Text) (back : List Text) :
    (front.map (·.length + 2)).sum + s.length ≤ (joinBars (front ++ s :: back)).length := by
  have hpiece := joinBars_append s [] back
  rw [List.append_nil] at hpiece
  rw [joinBars_append_cons, hpiece, List.length_append, List.length_append, length_flatMap_bars]
  omega

/-- A text fails inside or at its end. -/
theorem le_length_of_parse_eq_error {s : Text} {p : Nat} (h : parse s = .error p) :
    p ≤ s.length := by
  rw [parse, readGroups_eq_error_iff] at h
  obtain ⟨front, t, back, rest, hpieces, -, -, rfl⟩ := h
  have hlength := length_joinBars_append_cons front t back
  rw [← hpieces, joinBars_segments] at hlength
  omega

/-- A text of one piece is parsed as its group, or fails where that does. -/
theorem parse_of_segments_eq {s : Text} (hs : segments s = [s]) :
    parse s = match readGroup s with
      | .error rest => .error (s.length - rest.length)
      | .ok g => .ok [g] := by
  rw [parse, hs, readGroups]
  rcases readGroup s with rest | g
  · simp
  · rfl

theorem parse_eq_ok_singleton_iff {s : Text} {g : Group} :
    parse s = .ok [g] ↔ segments s = [s] ∧ readGroup s = .ok g := by
  constructor
  · intro h
    -- one group means one piece, and the pieces make the text
    have hlength : (segments s).length = 1 := by
      simpa using congrArg List.length (parse_eq_ok_iff.mp h)
    obtain ⟨p, hp⟩ := List.length_eq_one_iff.mp hlength
    have hjoin := joinBars_segments s
    rw [hp, joinBars_singleton] at hjoin
    subst hjoin
    refine ⟨hp, ?_⟩
    simpa [parse_eq_ok_iff, hp, toOption_eq_some_iff] using h
  · rintro ⟨hs, hg⟩
    rw [parse_of_segments_eq hs, hg]

/-- A text that is one condition is parsed as that condition. -/
theorem parse_of_read {s : Text} {c : Condition} (h : Condition.read s = .ok (c, [])) :
    parse s = .ok [[c]] := by
  obtain ⟨m, hs, hm⟩ := Condition.read_eq_ok h
  rw [List.append_nil] at hs
  subst hs
  rw [parse_eq_ok_singleton_iff, readGroup_eq_ok_iff]
  refine ⟨segments_of_bar_notMem hm.bar_notMem, ?_⟩
  exact .singleton Text.allBlank_nil h

theorem parse_of_read? {s : Text} {l : Literal} (h : Literal.read? s = some (l, [])) :
    parse s = .ok [[.comparison { sign := none, version := l }]] :=
  parse_of_read (Condition.read_of_read? h)

/-! ### Parts and whole -/

/-- Texts joined with bars are parsed as the groups of each, one after the other. -/
theorem parse_joinBars_eq_ok_iff {ts : List Text} (hne : ts ≠ []) (hbars : ∀ t ∈ ts, '|' ∉ t)
    {gs : List Group} :
    parse (joinBars ts) = .ok gs ↔
      ∃ gss : List (List Group), ts.map parse = gss.map .ok ∧ gs = gss.flatten := by
  rw [parse_eq_ok_iff, segments_joinBars hne hbars]
  clear hne
  induction ts generalizing gs with
  | nil =>
    constructor
    · intro h
      exact ⟨[], rfl, by simpa using h⟩
    · rintro ⟨gss, h, rfl⟩
      obtain rfl : gss = [] := by simpa using h
      rfl
  | cons t ts ih =>
    -- the first text is one piece, and so gives one group or none
    have hparse := parse_of_segments_eq (segments_of_bar_notMem (hbars t (by simp)))
    have hrest := @ih fun t' ht' => hbars t' (List.mem_cons_of_mem t ht')
    rw [List.map_cons, List.map_cons]
    constructor
    · intro h
      rcases gs with - | ⟨g, gs⟩
      · cases h
      · obtain ⟨hg, hgs⟩ := List.cons.inj h
        rw [toOption_eq_some_iff.mp hg] at hparse
        obtain ⟨gss, hgss, rfl⟩ := hrest.mp hgs
        exact ⟨[g] :: gss, by rw [hparse, hgss, List.map_cons], rfl⟩
    · rintro ⟨- | ⟨hs, gss⟩, h, rfl⟩
      · cases h
      · obtain ⟨hhs, hgss⟩ := List.cons.inj h
        rw [hparse] at hhs
        rcases hg : readGroup t with rest | g
        · rw [hg] at hhs
          cases hhs
        · rw [hg] at hhs
          cases hhs
          rw [hrest.mpr ⟨gss, hgss, rfl⟩]
          rfl

/-- Texts joined with bars fail where the first of them fails that does. -/
theorem parse_joinBars_eq_error_iff {ts : List Text} (hne : ts ≠ []) (hbars : ∀ t ∈ ts, '|' ∉ t)
    {p : Nat} :
    parse (joinBars ts) = .error p ↔
      ∃ front t back q, ts = front ++ t :: back ∧ (∀ s ∈ front, ∃ gs, parse s = .ok gs) ∧
        parse t = .error q ∧ p = (front.map List.length).sum + 2 * front.length + q := by
  have hparse : ∀ t ∈ ts, parse t = match readGroup t with
      | .error rest => .error (t.length - rest.length)
      | .ok g => .ok [g] := fun t ht =>
    parse_of_segments_eq (segments_of_bar_notMem (hbars t ht))
  have hok : ∀ t ∈ ts, (∃ gs, parse t = .ok gs) ↔ ∃ g, readGroup t = .ok g := by
    intro t ht
    rw [hparse t ht]
    cases readGroup t <;> simp
  have hsum : ∀ front : List Text, (front.map (·.length + 2)).sum
      = (front.map List.length).sum + 2 * front.length := by
    intro front
    induction front with
    | nil => rfl
    | cons s front ih =>
      simp only [List.map_cons, List.sum_cons, List.length_cons, ih]
      omega
  rw [parse, segments_joinBars hne hbars, readGroups_eq_error_iff]
  constructor
  · -- alone, the text that fails does so where its own reader stops
    rintro ⟨front, t, back, rest, rfl, hfront, ht, rfl⟩
    refine ⟨front, t, back, t.length - rest.length, rfl, fun s hs => ?_, ?_, ?_⟩
    · exact (hok s (by simp [hs])).mpr (hfront s hs)
    · rw [hparse t (by simp), ht]
    · rw [hsum, Nat.zero_add]
  · rintro ⟨front, t, back, q, rfl, hfront, ht, rfl⟩
    rw [hparse t (by simp)] at ht
    rcases hread : readGroup t with rest | g
    · rw [hread] at ht
      cases ht
      refine ⟨front, t, back, rest, rfl, fun s hs => ?_, hread, ?_⟩
      · exact (hok s (by simp [hs])).mp (hfront s hs)
      · rw [hsum, Nat.zero_add]
    · rw [hread] at ht
      cases ht

/-- Two groups with blanks between them are parsed as one, the conditions of the
second behind those of the first. -/
theorem parse_append_blanks {s w t : Text} {g h : Group} (hs : parse s = .ok [g])
    (ht : parse t = .ok [h]) (hw : AllBlank w) (hne : w ≠ []) :
    parse (s ++ w ++ t) = .ok [g ++ h] := by
  obtain ⟨hsegs, hg⟩ := parse_eq_ok_singleton_iff.mp hs
  obtain ⟨hsegt, hh⟩ := parse_eq_ok_singleton_iff.mp ht
  refine parse_eq_ok_singleton_iff.mpr ⟨?_, readGroup_append hg hh hw hne⟩
  obtain ⟨b, w, rfl⟩ := List.exists_cons_of_ne_nil hne
  obtain ⟨hb, hw⟩ := Text.allBlank_cons.mp hw
  obtain ⟨ps, p, q, qs, hps, hqs, hjoin⟩ :=
    segments_append_cons (ne_of_isBlank hb (by decide)) s (w ++ t)
  rw [segments_append_left hw, hsegt] at hqs
  rw [hsegs] at hps
  -- one piece on the left and one on the right
  obtain ⟨rfl, rfl⟩ := List.cons.inj hqs
  obtain ⟨rfl, rfl⟩ : ps = [] ∧ s = p := by
    rcases ps with - | ⟨r, ps⟩
    · exact ⟨rfl, (List.cons.inj hps).1⟩
    · simp at hps
  rw [List.append_assoc]
  exact hjoin

/-- **The parser is compositional.**  Texts without a bar, joined with `||`, parse
just in case each of them does, to the groups of each in order; otherwise the first
that fails gives the position, moved by the texts and the bars before it.  And two
texts of one group each, with blanks between them, parse as one group that has the
comparisons and the dash ranges of both in order. -/
theorem parse_compositional :
    (∀ ts : List Text, ts ≠ [] → (∀ t ∈ ts, '|' ∉ t) →
      (∀ gs, parse (joinBars ts) = .ok gs ↔
        ∃ gss : List (List Group), ts.map parse = gss.map .ok ∧ gs = gss.flatten) ∧
      (∀ p, parse (joinBars ts) = .error p ↔
        ∃ front t back q, ts = front ++ t :: back ∧ (∀ s ∈ front, ∃ gs, parse s = .ok gs) ∧
          parse t = .error q ∧ p = (front.map List.length).sum + 2 * front.length + q)) ∧
    (∀ (s t w : Text) (g h : Group), parse s = .ok [g] → parse t = .ok [h] → AllBlank w →
      w ≠ [] → ∃ k, parse (s ++ w ++ t) = .ok [k] ∧
        Group.comparisons k = Group.comparisons g ++ Group.comparisons h ∧
        Group.dashRanges k = Group.dashRanges g ++ Group.dashRanges h) := by
  refine ⟨fun ts hne hbars => ⟨?_, ?_⟩, fun s t w g h hs ht hw hne => ⟨g ++ h, ?_, ?_, ?_⟩⟩
  · exact fun gs => parse_joinBars_eq_ok_iff hne hbars
  · exact fun p => parse_joinBars_eq_error_iff hne hbars
  · exact parse_append_blanks hs ht hw hne
  · exact List.filterMap_append
  · exact List.filterMap_append

/-- A range that ends before a comparison, with a blank and a tilde between them; and
an exclamation mark in the second of three texts. -/
theorem parse_range_then_tilde :
    parse (joinBars ["1.x".toList, ">2 !".toList, "3".toList]) = .error 8 ∧
    ∃ k, parse ("1.x - 2".toList ++ "\t ".toList ++ "~3.4".toList) = .ok [k] ∧
      (Group.comparisons k).map (·.sign) = [some ['~']] ∧
      (Group.dashRanges k).map (·.upper.text) = ["2".toList] := by
  let range : DashRange :=
    { lower := { major := some ['1'], minor := some ['x'], text := "1.x".toList },
      upper := { major := some ['2'], text := "2".toList } }
  let tilde : Comparison :=
    { sign := some ['~'],
      version := { major := some ['3'], minor := some ['4'], text := "3.4".toList } }
  have hrange : parse "1.x - 2".toList = .ok [[.dashRange range]] := parse_of_read (by decide)
  have htilde : parse "~3.4".toList = .ok [[.comparison tilde]] := parse_of_read (by decide)
  refine ⟨?_, ?_⟩
  · refine ((parse_compositional.1 _ (by simp) (by decide)).2 8).mpr
      ⟨["1.x".toList], ">2 !".toList, ["3".toList], 3, rfl, ?_, by cbv, rfl⟩
    rintro s (- | ⟨-, ⟨⟩⟩)
    exact ⟨[[.comparison { sign := none, version := range.lower }]], parse_of_read (by decide)⟩
  · obtain ⟨k, hk, hcomparisons, hranges⟩ :=
      parse_compositional.2 _ _ _ _ _ hrange htilde (by decide : AllBlank "\t ".toList) (by simp)
    refine ⟨k, hk, ?_, ?_⟩
    · rw [hcomparisons]
      rfl
    · rw [hranges]
      rfl

end SemverRange
