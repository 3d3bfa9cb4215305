/-
SemverRange/Proofs/Pieces.lean

A requirement is read piece by piece.

Cutting a text at the bars and joining the pieces with bars undo each other
(`joinBars_segments`, `segments_joinBars`), and what a text is parsed as is what its
pieces are read as, one by one (`parse_eq_ok_iff`).  Blanks around a text end up in
its outer pieces, where they make no difference (`parse_strip_eq_ok_iff`); and a text
with bars in its middle has the pieces of both sides (`segments_append_bars`), so
alternatives are parsed independently of one another (`parse_orText_eq_ok`).  All of
this is about texts that parse; their conditions, and the literals in these, stand in
the text (`exists_read_of_parse`, `standsIn_of_parse`).
-/
import SemverRange.Proofs.Groups
import SemverRange.Proofs.Writings

namespace SemverRange

open Text (AllBlank)

/-! ### Cutting at bars -/

theorem segments_bars (s : Text) : segments ('|' :: '|' :: s) = [] :: segments s := by
  rw [segments, cutAtBars, segments]

theorem cutAtBars_cons {c : Char} {s : Text} (hs : ∀ t, c :: s ≠ '|' :: '|' :: t) :
    cutAtBars (c :: s) = (c :: (cutAtBars s).1, (cutAtBars s).2) := by
  rw [cutAtBars]
  rintro t rfl rfl
  exact hs t rfl

theorem segments_cons {c : Char} {s : Text} (hs : ∀ t, c :: s ≠ '|' :: '|' :: t) :
    segments (c :: s) = (segments s).modifyHead (c :: ·) := by
  rw [segments, cutAtBars_cons hs, segments, List.modifyHead_cons]

theorem bar_notMem_of_allBlank {w : Text} (hw : AllBlank w) : '|' ∉ w := fun hbar =>
  ne_of_isBlank (hw '|' hbar) (by decide) rfl

/-- Blanks in front of a text go to its first piece. -/
theorem segments_append_left {u : Text} (hu : AllBlank u) (s : Text) :
    segments (u ++ s) = (segments s).modifyHead (u ++ ·) := by
  induction u with
  | nil => simp [segments]
  | cons c u ih =>
    obtain ⟨hc, hu⟩ := Text.allBlank_cons.mp hu
    have hbar : c ≠ '|' := ne_of_isBlank hc (by decide)
    rw [List.cons_append, segments_cons (fun t h => hbar (List.cons.inj h).1), ih hu]
    rfl

/-- A character that is no bar joins the pieces on both sides of it. -/
theorem segments_append_cons {b : Char} (hb : b ≠ '|') (s t : Text) :
    ∃ ps p q qs, segments s = ps ++ [p] ∧ segments t = q :: qs ∧
      segments (s ++ b :: t) = ps ++ (p ++ b :: q) :: qs := by
  induction s using cutAtBars.induct with
  | case1 =>
    refine ⟨[], [], _, _, rfl, rfl, ?_⟩
    rw [List.nil_append, segments_cons (fun u h => hb (List.cons.inj h).1)]
    rfl
  | case2 s ih =>
    obtain ⟨ps, p, q, qs, hs, ht, hst⟩ := ih
    refine ⟨[] :: ps, p, q, qs, ?_, ht, ?_⟩
    · rw [segments_bars, hs, List.cons_append]
    · rw [List.cons_append, List.cons_append, segments_bars, hst, List.cons_append]
  | case3 c s hne ih =>
    obtain ⟨ps, p, q, qs, hs, ht, hst⟩ := ih
    -- `b` does not complete a pair of bars
    have hbars : ∀ u, c :: (s ++ b :: t) ≠ '|' :: '|' :: u := by
      intro u h
      obtain ⟨rfl, htail⟩ := List.cons.inj h
      cases s with
      | nil => exact hb (List.cons.inj htail).1
      | cons d s =>
        obtain ⟨rfl, -⟩ := List.cons.inj htail
        exact hne s rfl rfl
    have hbars' : ∀ u, c :: s ≠ '|' :: '|' :: u := by
      intro u h
      obtain ⟨rfl, rfl⟩ := List.cons.inj h
      exact hne u rfl rfl
    rw [List.cons_append, segments_cons hbars', segments_cons hbars, hs, hst]
    cases ps with
    | nil => exact ⟨[], c :: p, q, qs, rfl, ht, rfl⟩
    | cons r ps => exact ⟨(c :: r) :: ps, p, q, qs, rfl, ht, rfl⟩

/-- A text without a bar is one piece. -/
theorem segments_of_bar_notMem {s : Text} (hs : '|' ∉ s) : segments s = [s] := by
  induction s with
  | nil => rfl
  | cons c s ih =>
    have hc : c ≠ '|' := fun h => hs (by simp [h])
    have htail : '|' ∉ s := fun h => hs (by simp [h])
    rw [segments_cons (fun t h => hc (List.cons.inj h).1), ih htail]
    rfl

/-- Blanks behind a text go to its last piece. -/
theorem segments_append_right {w : Text} (hw : AllBlank w) (s : Text) :
    ∃ ps p, segments s = ps ++ [p] ∧ segments (s ++ w) = ps ++ [p ++ w] := by
  cases w with
  | nil =>
    obtain ⟨ps, p, hs⟩ := (List.eq_nil_or_concat' (segments s)).resolve_left (by simp [segments])
    exact ⟨ps, p, hs, by simpa using hs⟩
  | cons b w =>
    have hbars := bar_notMem_of_allBlank hw
    obtain ⟨ps, p, q, qs, hs, hqs, hsw⟩ :=
      segments_append_cons (b := b) (fun h => hbars (by simp [h])) s w
    rw [segments_of_bar_notMem fun h => hbars (by simp [h])] at hqs
    obtain ⟨rfl, rfl⟩ := List.cons.inj hqs
    exact ⟨ps, p, hs, hsw⟩

/-- Bars in the middle of a text divide its pieces, provided that no third bar
stands before them. -/
theorem segments_append_bars {s : Text} (hs : s.getLast? ≠ some '|') (t : Text) :
    segments (s ++ '|' :: '|' :: t) = segments s ++ segments t := by
  induction s using cutAtBars.induct with
  | case1 => exact segments_bars t
  | case2 s ih =>
    rw [List.cons_append, List.cons_append, segments_bars, segments_bars, List.cons_append, ih]
    intro h
    rw [List.getLast?_cons_cons] at hs
    cases s with
    | nil => cases h
    | cons d s => exact hs (by rw [List.getLast?_cons_cons, h])
  | case3 c s hne ih =>
    have hbars : ∀ u, c :: (s ++ '|' :: '|' :: t) ≠ '|' :: '|' :: u := by
      intro u h
      obtain ⟨rfl, htail⟩ := List.cons.inj h
      cases s with
      | nil => exact hs rfl
      | cons d s =>
        obtain ⟨rfl, -⟩ := List.cons.inj htail
        exact hne s rfl rfl
    have hlast : s.getLast? ≠ some '|' := by
      intro h
      cases s with
      | nil => cases h
      | cons d s => exact hs (by rw [List.getLast?_cons_cons, h])
    rw [List.cons_append, segments_cons hbars, segments_cons (fun u h => ?_), ih hlast]
    · rw [segments]
      rfl
    · obtain ⟨rfl, rfl⟩ := List.cons.inj h
      exact hne u rfl rfl

/-! ### Joining with bars -/

/-- Texts with two bars between each and the next. -/
def joinBars (pieces : List Text) : Text :=
  ['|', '|'].intercalate pieces

theorem joinBars_singleton (s : Text) : joinBars [s] = s :=
  List.intercalate_singleton

theorem joinBars_cons_cons (s t : Text) (pieces : List Text) :
    joinBars (s :: t :: pieces) = s ++ '|' :: '|' :: joinBars (t :: pieces) := by
  rw [joinBars, List.intercalate_cons_cons, List.append_assoc]
  rfl

theorem joinBars_append (s t : Text) (pieces : List Text) :
    joinBars ((s ++ t) :: pieces) = s ++ joinBars (t :: pieces) := by
  cases pieces with
  | nil => rw [joinBars_singleton, joinBars_singleton]
  | cons r pieces => rw [joinBars_cons_cons, joinBars_cons_cons, List.append_assoc]

theorem joinBars_cons_append (c : Char) (s : Text) (pieces : List Text) :
    joinBars ((c :: s) :: pieces) = c :: joinBars (s :: pieces) :=
  joinBars_append [c] s pieces

/-- Each piece in front of another has two bars behind it. -/
theorem joinBars_append_cons (front : List Text) (s : Text) (back : List Text) :
    joinBars (front ++ s :: back) = front.flatMap (· ++ ['|', '|']) ++ joinBars (s :: back) := by
  induction front with
  | nil => rfl
  | cons r front ih =>
    have hcons : joinBars (r :: (front ++ s :: back))
        = r ++ '|' :: '|' :: joinBars (front ++ s :: back) := by
      cases front with
      | nil => exact joinBars_cons_cons r s back
      | cons q front => exact joinBars_cons_cons r q (front ++ s :: back)
    rw [List.cons_append, hcons, ih]
    simp

/-- **The pieces of a text make the text again.** -/
theorem joinBars_segments (s : Text) : joinBars (segments s) = s := by
  induction s using cutAtBars.induct with
  | case1 => rfl
  | case2 s ih =>
    rw [segments_bars, segments, joinBars_cons_cons, ← segments, ih, List.nil_append]
  | case3 c s hne ih =>
    rw [segments_cons, segments, List.modifyHead_cons, joinBars_cons_append, ← segments, ih]
    intro t h
    obtain ⟨rfl, rfl⟩ := List.cons.inj h
    exact hne t rfl rfl

/-- Texts without a bar are the pieces of what they make. -/
theorem segments_joinBars {pieces : List Text} (hne : pieces ≠ [])
    (hbars : ∀ s ∈ pieces, '|' ∉ s) : segments (joinBars pieces) = pieces := by
  induction pieces with
  | nil => exact absurd rfl hne
  | cons s pieces ih =>
    have hs : '|' ∉ s := hbars s (by simp)
    cases pieces with
    | nil => rw [joinBars_singleton, segments_of_bar_notMem hs]
    | cons t pieces =>
      have hlast : s.getLast? ≠ some '|' := fun h => hs (List.mem_of_getLast? h)
      rw [joinBars_cons_cons, segments_append_bars hlast, segments_of_bar_notMem hs,
        ih (by simp) fun t ht => hbars t (List.mem_cons_of_mem s ht), List.singleton_append]

/-- A piece stands in what it is joined to. -/
theorem infix_joinBars {s : Text} {pieces : List Text} (hs : s ∈ pieces) :
    s <:+: joinBars pieces := by
  induction pieces with
  | nil => cases hs
  | cons t pieces ih =>
    cases pieces with
    | nil =>
      obtain rfl : s = t := by simpa using hs
      exact ⟨[], [], by simp [joinBars_singleton]⟩
    | cons t' pieces =>
      rw [joinBars_cons_cons]
      rcases List.mem_cons.mp hs with rfl | hs
      · exact (List.prefix_append s _).isInfix
      · exact (ih hs).trans (List.IsSuffix.isInfix ⟨t ++ ['|', '|'], by simp⟩)

/-! ### Pieces and groups -/

theorem readGroups_eq_ok_iff {start : Nat} {pieces : List Text} {gs : List Group} :
    readGroups start pieces = .ok gs ↔
      pieces.map (fun p => (readGroup p).toOption) = gs.map some := by
  induction pieces generalizing start gs with
  | nil => cases gs <;> simp [readGroups]
  | cons p pieces ih =>
    rw [readGroups, List.map_cons]
    rcases gs with - | ⟨g, gs⟩
    · rcases readGroup p with e | g'
      · simp
      · rcases readGroups (start + p.length + 2) pieces with e | gs' <;> simp [Except.map]
    · rw [List.map_cons, List.cons.injEq, toOption_eq_some_iff,
        ← @ih (start + p.length + 2) gs]
      rcases readGroup p with e | g'
      · simp
      · rcases readGroups (start + p.length + 2) pieces with e | gs' <;> simp [Except.map]

/-- **A requirement is read piece by piece.** -/
theorem parse_eq_ok_iff {s : Text} {gs : List Group} :
    parse s = .ok gs ↔ (segments s).map (fun p => (readGroup p).toOption) = gs.map some :=
  readGroups_eq_ok_iff

theorem parse_append_right_eq_ok_iff {w : Text} (hw : AllBlank w) {s : Text} {gs : List Group} :
    parse (s ++ w) = .ok gs ↔ parse s = .ok gs := by
  obtain ⟨ps, p, hs, hsw⟩ := segments_append_right hw s
  rw [parse_eq_ok_iff, hsw, parse_eq_ok_iff, hs, List.map_append, List.map_append,
    List.map_singleton, List.map_singleton, toOption_readGroup_append hw]

theorem parse_append_left_eq_ok_iff {u : Text} (hu : AllBlank u) {s : Text} {gs : List Group} :
    parse (u ++ s) = .ok gs ↔ parse s = .ok gs := by
  rw [parse_eq_ok_iff, segments_append_left hu, parse_eq_ok_iff, segments, List.modifyHead_cons,
    List.map_cons, List.map_cons, readGroup_append_left hu]

theorem parse_strip_eq_ok_iff {s : Text} {gs : List Group} :
    parse (Text.strip s) = .ok gs ↔ parse s = .ok gs := by
  obtain ⟨u, w, hs, hu, hw⟩ := Text.strip_decomposition s
  conv_rhs => rw [hs]
  rw [parse_append_right_eq_ok_iff hw, parse_append_left_eq_ok_iff hu]

/-- Two requirements as alternatives of one. -/
def orText (s t : Text) : Text :=
  s ++ " || ".toList ++ t

theorem orText_eq_append_bars (s t : Text) :
    orText s t = (s ++ [' ']) ++ '|' :: '|' :: ([' '] ++ t) := by
  simp [orText]

/-- **Alternatives are parsed independently of one another.** -/
theorem parse_orText_eq_ok {s t : Text} {gs hs : List Group} (h₁ : parse s = .ok gs)
    (h₂ : parse t = .ok hs) : parse (orText s t) = .ok (gs ++ hs) := by
  -- the space in front of the bars goes to `s`, the one behind them to `t`
  rw [← parse_append_right_eq_ok_iff Text.allBlank_space, parse_eq_ok_iff] at h₁
  rw [← parse_append_left_eq_ok_iff Text.allBlank_space, parse_eq_ok_iff] at h₂
  rw [orText_eq_append_bars, parse_eq_ok_iff, segments_append_bars (by simp), List.map_append,
    h₁, h₂, List.map_append]

/-! ### The conditions of a requirement -/

theorem ReadsAs.exists_read {s : Text} {g : Group} (h : ReadsAs s g) :
    ∀ c ∈ g, ∃ t rest, t <:+ s ∧ Condition.read t = .ok (c, rest) := by
  induction h with
  | blank hw => simp
  | @condition u s rest c g hu hc hrest hg ih =>
    have hs : s <:+ u ++ s := List.suffix_append u s
    obtain ⟨m, hm, -⟩ := Condition.read_eq_ok hc
    intro d hd
    rcases List.mem_cons.mp hd with rfl | hd
    · exact ⟨s, rest, hs, hc⟩
    · obtain ⟨t, rest', ht, hread⟩ := ih d hd
      exact ⟨t, rest', (ht.trans ⟨m, hm.symm⟩).trans hs, hread⟩

/-- **Every condition of a requirement was read from a piece of its text.** -/
theorem exists_read_of_parse {s : Text} {gs : List Group} (h : parse s = .ok gs) :
    ∀ g ∈ gs, ∀ c ∈ g, ∃ t rest, t <:+: s ∧ Condition.read t = .ok (c, rest) := by
  intro g hg c hc
  have hmem : some g ∈ (segments s).map fun p => (readGroup p).toOption := by
    rw [parse_eq_ok_iff.mp h]
    exact List.mem_map_of_mem hg
  obtain ⟨p, hp, hread⟩ := List.mem_map.mp hmem
  rw [toOption_eq_some_iff, readGroup_eq_ok_iff] at hread
  have hpiece : p <:+: s := by
    rw [← joinBars_segments s]
    exact infix_joinBars hp
  obtain ⟨t, rest, ht, hread⟩ := hread.exists_read c hc
  exact ⟨t, rest, ht.isInfix.trans hpiece, hread⟩

theorem isRead_of_parse {s : Text} {gs : List Group} (h : parse s = .ok gs) :
    ∀ g ∈ gs, ∀ c ∈ g, c.IsRead := by
  intro g hg c hc
  obtain ⟨t, rest, -, hread⟩ := exists_read_of_parse h g hg c hc
  exact Condition.isRead_of_read hread

theorem standsIn_of_parse {s : Text} {gs : List Group} (h : parse s = .ok gs) :
    ∀ g ∈ gs, ∀ c ∈ g, c.StandsIn s := by
  intro g hg c hc
  obtain ⟨t, rest, ht, hread⟩ := exists_read_of_parse h g hg c hc
  obtain ⟨m, rfl, hm⟩ := Condition.read_eq_ok hread
  exact hm.standsIn.mono ((List.prefix_append m rest).isInfix.trans ht)

end SemverRange
