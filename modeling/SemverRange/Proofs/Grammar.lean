/-
SemverRange/Proofs/Grammar.lean

The grammar of requirements, and what of it is parsed.

    requirement  :=  group ( "||" group )*
    group        :=  blanks ( condition ( blanks condition )* )? blanks
    condition    :=  sign? blanks literal  |  literal blanks "-" blanks literal

A text that parses is written by its groups, piece by piece and character by character
(`forall₂_isWriting_of_parse`).  In turn the texts that parse are those of the grammar in
which every hyphen between two literals is left by the first of them
(`exists_parse_eq_ok_iff`).  Without that proviso the grammar derives more: the reader
never gives back a hyphen that a literal could take, not even where what is left behind
makes no sense (`refused_starred_upper`).
-/
import Mathlib
import SemverRange.Proofs.Hyphens
import SemverRange.Proofs.Pieces

namespace SemverRange

open Text (AllBlank StartsBlank)

/-! ### Texts with blanks between them -/

/-- Whether a text consists of some texts in order, with blanks between each and the
next. -/
inductive IsSpacedOut : List Text → Text → Prop
  | nil : IsSpacedOut [] []
  | singleton (m : Text) : IsSpacedOut [m] m
  | cons {m w n t : Text} {ms : List Text} (hw : AllBlank w) (hne : w ≠ [])
      (ht : IsSpacedOut (n :: ms) t) : IsSpacedOut (m :: n :: ms) (m ++ w ++ t)

namespace IsSpacedOut

variable {ms : List Text} {m t : Text}

theorem exists_append (h : IsSpacedOut (m :: ms) t) : ∃ r, t = m ++ r := by
  cases h with
  | singleton => exact ⟨[], by simp⟩
  | @cons _ w n t _ _ _ _ => exact ⟨w ++ t, by simp⟩

/-- What is in none of the texts and is no blank is nowhere. -/
theorem notMem {c : Char} (hc : Text.isBlank c = false) (h : IsSpacedOut ms t)
    (hms : ∀ m ∈ ms, c ∉ m) : c ∉ t := by
  induction h with
  | nil => simp
  | singleton m => exact hms m (by simp)
  | @cons m w n t ms hw _ _ ih =>
    have hblank : c ∉ w := fun hmem => ne_of_isBlank (hw c hmem) hc rfl
    have hrest : c ∉ t := ih fun m' hm' => hms m' (List.mem_cons_of_mem m hm')
    simp [hms m (by simp), hblank, hrest]

end IsSpacedOut

/-! ### Groups as they are read -/

theorem exists_of_forall₂_of_mem {α β : Type} {R : α → β → Prop} {as : List α} {bs : List β}
    (h : List.Forall₂ R as bs) {b : β} (hb : b ∈ bs) : ∃ a ∈ as, R a b := by
  induction h with
  | nil => cases hb
  | cons hr _ ih =>
    rcases List.mem_cons.mp hb with rfl | hb
    · exact ⟨_, by simp, hr⟩
    · obtain ⟨a, ha, hr⟩ := ih hb
      exact ⟨a, by simp [ha], hr⟩

/-- **A group is the conditions it was read from**, with blanks between them and perhaps
around them. -/
theorem ReadsAs.exists_parts {p : Text} {g : Group} (h : ReadsAs p g) :
    ∃ u ms t w, AllBlank u ∧ AllBlank w ∧ List.Forall₂ Condition.IsClearWriting g ms ∧
      IsSpacedOut ms t ∧ p = u ++ t ++ w := by
  induction h with
  | @blank w hw => exact ⟨w, [], [], [], hw, Text.allBlank_nil, .nil, .nil, by simp⟩
  | @condition u s rest c g hu hc hrest hg ih =>
    obtain ⟨m, rfl, hm⟩ := Condition.exists_isClearWriting_of_read hc
    obtain ⟨v, ms, t, w, hv, hw, hms, ht, rfl⟩ := ih
    cases hms with
    | nil =>
      -- the last condition, and nothing but blanks behind it
      cases ht
      refine ⟨u, [m], m, v ++ w, hu, ?_, .cons hm .nil, .singleton m, by simp⟩
      intro c hc
      rcases List.mem_append.mp hc with hc | hc
      · exact hv c hc
      · exact hw c hc
    | @cons d n _ ms hn hms =>
      refine ⟨u, m :: n :: ms, m ++ v ++ t, w, hu, hw, .cons hm (.cons hn hms),
        .cons hv ?_ ht, by simp⟩
      -- the next condition begins with no blank, so there is one before it
      rintro rfl
      obtain ⟨r, rfl⟩ := ht.exists_append
      obtain ⟨b, n, rfl⟩ := List.exists_cons_of_ne_nil hn.isWriting.ne_nil
      have hb := (hn.isWriting.head_append [] b rfl).1
      rw [hrest b rfl] at hb
      cases hb

theorem ReadsAs.bar_notMem {p : Text} {g : Group} (h : ReadsAs p g) : '|' ∉ p := by
  obtain ⟨u, ms, t, w, hu, hw, hms, ht, rfl⟩ := h.exists_parts
  have hclear : ∀ m ∈ ms, '|' ∉ m := by
    intro m hm
    obtain ⟨c, -, hc⟩ := exists_of_forall₂_of_mem hms hm
    exact hc.isWriting.bar_notMem
  simp [bar_notMem_of_allBlank hu, bar_notMem_of_allBlank hw, ht.notMem (by decide) hclear]

/-- A requirement is read piece by piece, each as its group. -/
theorem parse_eq_ok_iff_forall₂ {s : Text} {gs : List Group} :
    parse s = .ok gs ↔ List.Forall₂ ReadsAs (segments s) gs := by
  rw [parse_eq_ok_iff, ← List.forall₂_eq_eq_eq, List.forall₂_map_left_iff,
    List.forall₂_map_right_iff]
  simp only [toOption_eq_some_iff, readGroup_eq_ok_iff]

/-! ### Soundness -/

/-- Whether some conditions are given comparisons and given dash ranges, both in their
order. -/
inductive IsInterleaving : List Comparison → List DashRange → List Condition → Prop
  | nil : IsInterleaving [] [] []
  | comparison {c : Comparison} {cs : List Comparison} {ds : List DashRange}
      {g : List Condition} (h : IsInterleaving cs ds g) :
      IsInterleaving (c :: cs) ds (.comparison c :: g)
  | dashRange {d : DashRange} {cs : List Comparison} {ds : List DashRange}
      {g : List Condition} (h : IsInterleaving cs ds g) :
      IsInterleaving cs (d :: ds) (.dashRange d :: g)

theorem isInterleaving_self (g : Group) :
    IsInterleaving (Group.comparisons g) (Group.dashRanges g) g := by
  induction g with
  | nil => exact .nil
  | cons c g ih =>
    cases c with
    | comparison c => exact .comparison ih
    | dashRange d => exact .dashRange ih

/-- A text that writes a group: its comparisons and its dash ranges in some order that
keeps that of both, each as it is written, with blanks between them and perhaps around
them. -/
def Group.IsWriting (g : Group) (p : Text) : Prop :=
  ∃ conditions, IsInterleaving (Group.comparisons g) (Group.dashRanges g) conditions ∧
    ∃ u ms t w, AllBlank u ∧ AllBlank w ∧ List.Forall₂ Condition.IsWriting conditions ms ∧
      IsSpacedOut ms t ∧ p = u ++ t ++ w

theorem ReadsAs.isWriting {p : Text} {g : Group} (h : ReadsAs p g) : Group.IsWriting g p := by
  obtain ⟨u, ms, t, w, hu, hw, hms, ht, hp⟩ := h.exists_parts
  refine ⟨g, isInterleaving_self g, u, ms, t, w, hu, hw, ?_, ht, hp⟩
  exact hms.imp fun _ _ hm => hm.isWriting

/-- **The parser invents and loses nothing.**  The pieces between the bars make the
text, and no bar is left in them.  There is one group for each piece, in order, and the
piece writes it: the comparisons, each as its sign, blanks and its literal, and the dash
ranges, each as its literals with blanks and a hyphen between them, stand in the piece
with blanks between them, in an order that keeps that of both; and each literal is the
piece of the text that its letter, its fields and its tags make, with no tag unless
there is a patch number. -/
theorem forall₂_isWriting_of_parse {s : Text} {gs : List Group} (h : parse s = .ok gs) :
    joinBars (segments s) = s ∧ (∀ p ∈ segments s, '|' ∉ p) ∧
      List.Forall₂ (fun p g => Group.IsWriting g p) (segments s) gs := by
  have hread := parse_eq_ok_iff_forall₂.mp h
  refine ⟨joinBars_segments s, ?_, hread.imp fun _ _ hp => hp.isWriting⟩
  intro p hp
  obtain ⟨g, -, hg⟩ := exists_of_forall₂_of_mem hread.flip hp
  exact hg.bar_notMem

/-- Conditions of both kinds, the later of them a comparison with blanks in plenty, and
a piece of one blank. -/
theorem forall₂_isWriting_of_mixed_groups :
    ∃ gs, parse " 1.x - v2.0.* >=\t1.2.3 -rc.1+b || ".toList = .ok gs ∧
      gs.map (fun g => ((Group.comparisons g).length, (Group.dashRanges g).length))
        = [(1, 1), (0, 0)] ∧
      List.Forall₂ (fun p g => Group.IsWriting g p)
        [" 1.x - v2.0.* >=\t1.2.3 -rc.1+b ".toList, [' ']] gs := by
  let range : DashRange :=
    { lower := { major := some ['1'], minor := some ['x'], text := "1.x".toList },
      upper := { major := some ['2'], minor := some ['0'], patch := some ['*'],
                 text := "v2.0.*".toList } }
  let comparison : Comparison :=
    { sign := some ['>', '='],
      version := { major := some ['1'], minor := some ['2'], patch := some ['3'],
                   preRelease := [['r', 'c'], ['1']], build := [['b']],
                   text := "1.2.3 -rc.1+b".toList } }
  have hparse : parse " 1.x - v2.0.* >=\t1.2.3 -rc.1+b || ".toList
      = .ok [[.dashRange range, .comparison comparison], []] := by cbv
  exact ⟨_, hparse, rfl, (forall₂_isWriting_of_parse hparse).2.2⟩

/-! ### Completeness -/

namespace Grammar

variable (Allowed : Literal → Text → Literal → Prop)

/-- A text that the grammar derives from `condition`.  `Allowed` says before which blanks
and which second literal the first literal of a range may stand. -/
inductive IsCondition : Text → Prop
  | comparison {sign w : Text} {l : Literal}
      (hsign : sign = [] ∨ sign ∈ Operator.signs.map Prod.fst) (hw : AllBlank w)
      (hl : l.IsWritten) : IsCondition (sign ++ w ++ l.text)
  | dashRange {w₁ w₂ : Text} {l u : Literal} (hl : l.IsWritten) (hw₁ : AllBlank w₁)
      (hw₂ : AllBlank w₂) (hu : u.IsWritten) (hallowed : Allowed l w₁ u) :
      IsCondition (l.text ++ (w₁ ++ '-' :: w₂) ++ u.text)

/-- A text that the grammar derives from `group`. -/
def IsGroup (p : Text) : Prop :=
  ∃ u ms t w, AllBlank u ∧ AllBlank w ∧ (∀ m ∈ ms, IsCondition Allowed m) ∧
    IsSpacedOut ms t ∧ p = u ++ t ++ w

/-- A text that the grammar derives from `requirement`. -/
def IsRequirement (s : Text) : Prop :=
  ∃ ps, ps ≠ [] ∧ (∀ p ∈ ps, IsGroup Allowed p) ∧ s = joinBars ps

end Grammar

theorem Condition.IsClearWriting.isCondition {c : Condition} {m : Text}
    (h : c.IsClearWriting m) : Grammar.IsCondition Literal.LeavesHyphen m := by
  cases c with
  | comparison c =>
    obtain ⟨hl, hknown, w, hw, -, rfl⟩ := h
    refine .comparison ?_ hw hl
    rcases hsign : c.sign with - | sign
    · exact .inl rfl
    · exact .inr (hknown sign hsign)
  | dashRange d =>
    obtain ⟨hl, hu, w₁, w₂, hw₁, hw₂, hleaves, rfl⟩ := h
    exact .dashRange hl hw₁ hw₂ hu hleaves

/-- What the grammar derives from `condition` is a clear writing, perhaps with blanks in
front. -/
theorem Grammar.IsCondition.exists_isClearWriting {m : Text}
    (h : Grammar.IsCondition Literal.LeavesHyphen m) :
    ∃ u m' c, AllBlank u ∧ m = u ++ m' ∧ Condition.IsClearWriting c m' := by
  cases h with
  | @comparison sign w l hsign hw hl =>
    rcases hsign with rfl | hsign
    · exact ⟨w, l.text, .comparison { sign := none, version := l }, hw, rfl, hl, by simp, [],
        Text.allBlank_nil, fun _ => rfl, rfl⟩
    · exact ⟨[], _, .comparison { sign := some sign, version := l }, Text.allBlank_nil, rfl, hl,
        by simpa using hsign, w, hw, by simp, rfl⟩
  | @dashRange w₁ w₂ l u hl hw₁ hw₂ hu hleaves =>
    exact ⟨[], _, .dashRange { lower := l, upper := u }, Text.allBlank_nil, rfl, hl, hu, w₁, w₂,
      hw₁, hw₂, hleaves, rfl⟩

/-- A condition and a group behind it, where that begins with a blank. -/
theorem Grammar.IsCondition.exists_readsAs {m rest : Text} {g : Group}
    (h : Grammar.IsCondition Literal.LeavesHyphen m) (hrest : StartsBlank rest)
    (hg : ReadsAs rest g) : ∃ c, ReadsAs (m ++ rest) (c :: g) := by
  obtain ⟨u, m', c, hu, rfl, hclear⟩ := h.exists_isClearWriting
  have hread := Condition.read_append_of_blank hclear.read (by decide) hrest hg.readDash?_eq_none
  rw [List.append_assoc]
  exact ⟨c, .condition hu hread hrest hg⟩

theorem IsSpacedOut.exists_readsAs {ms : List Text} {t w : Text} (h : IsSpacedOut ms t)
    (hms : ∀ m ∈ ms, Grammar.IsCondition Literal.LeavesHyphen m) (hw : AllBlank w) :
    ∃ g, ReadsAs (t ++ w) g := by
  induction h with
  | nil => exact ⟨[], .blank hw⟩
  | singleton m =>
    obtain ⟨c, hc⟩ := (hms m (by simp)).exists_readsAs hw.startsBlank (.blank hw)
    exact ⟨[c], hc⟩
  | @cons m v n t ms hv hne _ ih =>
    obtain ⟨g, hg⟩ := ih fun m' hm' => hms m' (List.mem_cons_of_mem m hm')
    have hblank : StartsBlank (v ++ (t ++ w)) := by
      obtain ⟨b, v, rfl⟩ := List.exists_cons_of_ne_nil hne
      simpa [StartsBlank] using hv b (by simp)
    obtain ⟨c, hc⟩ := (hms m (by simp)).exists_readsAs hblank (hg.append_blanks_left hv)
    exact ⟨c :: g, by simpa using hc⟩

theorem Grammar.isGroup_iff {p : Text} :
    Grammar.IsGroup Literal.LeavesHyphen p ↔ ∃ g, ReadsAs p g := by
  constructor
  · rintro ⟨u, ms, t, w, hu, hw, hms, ht, rfl⟩
    obtain ⟨g, hg⟩ := ht.exists_readsAs hms hw
    rw [List.append_assoc]
    exact ⟨g, hg.append_blanks_left hu⟩
  · rintro ⟨g, hg⟩
    obtain ⟨u, ms, t, w, hu, hw, hms, ht, rfl⟩ := hg.exists_parts
    refine ⟨u, ms, t, w, hu, hw, ?_, ht, rfl⟩
    intro m hm
    obtain ⟨c, -, hc⟩ := exists_of_forall₂_of_mem hms hm
    exact hc.isCondition

/-- **The texts that parse are those of the grammar, but for hyphens that are taken.**
A text parses just in case the grammar derives it with no range whose first literal could
take the hyphen: it has no patch number, or it has tags and a blank comes before the
hyphen, or it has none and the second literal begins with nothing that an identifier
could. -/
theorem exists_parse_eq_ok_iff {s : Text} :
    (∃ gs, parse s = .ok gs) ↔ Grammar.IsRequirement Literal.LeavesHyphen s := by
  simp only [parse_eq_ok_iff_forall₂]
  constructor
  · rintro ⟨gs, h⟩
    refine ⟨segments s, by simp [segments], ?_, (joinBars_segments s).symm⟩
    intro p hp
    obtain ⟨g, -, hg⟩ := exists_of_forall₂_of_mem h.flip hp
    exact Grammar.isGroup_iff.mpr ⟨g, hg⟩
  · rintro ⟨ps, hne, hps, rfl⟩
    have hread : ∀ p ∈ ps, ∃ g, ReadsAs p g := fun p hp => Grammar.isGroup_iff.mp (hps p hp)
    have hbars : ∀ p ∈ ps, '|' ∉ p := by
      intro p hp
      obtain ⟨g, hg⟩ := hread p hp
      exact hg.bar_notMem
    rw [segments_joinBars hne hbars]
    clear hne hps hbars
    induction ps with
    | nil => exact ⟨[], .nil⟩
    | cons p ps ih =>
      obtain ⟨g, hg⟩ := hread p (by simp)
      obtain ⟨gs, hgs⟩ := ih fun q hq => hread q (List.mem_cons_of_mem p hq)
      exact ⟨g :: gs, .cons hg hgs⟩

/-- A range from a full literal to one whose minor number is an asterisk: the grammar
derives it, but the first number behind the hyphen is taken for a pre-release, and what
is left of the second literal makes no sense. -/
theorem refused_starred_upper :
    Grammar.IsRequirement (fun _ _ _ => True) "1.2.3 - 2.*".toList ∧
      parse "1.2.3 - 2.*".toList = .error 9 := by
  let lower : Literal :=
    { major := some ['1'], minor := some ['2'], patch := some ['3'], text := "1.2.3".toList }
  let upper : Literal := { major := some ['2'], minor := some ['*'], text := "2.*".toList }
  have hlower : lower.IsWritten :=
    (Literal.read?_eq_some (by decide : Literal.read? "1.2.3".toList = some (lower, []))).2
  have hupper : upper.IsWritten :=
    (Literal.read?_eq_some (by decide : Literal.read? "2.*".toList = some (upper, []))).2
  refine ⟨⟨["1.2.3 - 2.*".toList], by simp, ?_, rfl⟩, by cbv⟩
  intro p hp
  obtain rfl := List.mem_singleton.mp hp
  refine ⟨[], ["1.2.3 - 2.*".toList], _, [], Text.allBlank_nil, Text.allBlank_nil, ?_,
    .singleton _, rfl⟩
  intro m hm
  obtain rfl := List.mem_singleton.mp hm
  have hrange : Grammar.IsCondition (fun _ _ _ => True)
      (lower.text ++ ([' '] ++ '-' :: [' ']) ++ upper.text) :=
    .dashRange hlower Text.allBlank_space Text.allBlank_space hupper trivial
  exact hrange

end SemverRange
