/-
SemverRange/Proofs/GroupSets.lean

Only the set of the groups matters.

A piece of a requirement is a group or none, and the group has clauses or none
(`Requirement.pieceClauses?`).  All pieces have to have clauses for the requirement to
compile, and a version meets it just in case it meets the clauses of one of them
(`Requirement.exists_ofText_eq_ok_iff`, `Requirement.isMetBy_iff_exists_piece`).  What the
clauses of a piece are depends on the other pieces only by way of the spaced dashes in
them, and a spaced dash stands in a text just in case it stands in one of the pieces
(`Literal.hasSpacedDash_joinBars_iff`).  So two texts of the same pieces, in any order and
any number, compile to requirements that the same versions meet
(`Requirement.ofText_joinBars_of_same_pieces`).
-/
import Mathlib
import SemverRange.Proofs.Alternatives

namespace SemverRange

/-! ### Clauses of a piece -/

theorem map_eq_map_ok_iff {ε α β : Type} {f : α → Except ε β} {as : List α} {bs : List β} :
    as.map f = bs.map .ok ↔ as.map (fun a => (f a).toOption) = bs.map some := by
  simp only [← List.forall₂_eq_eq_eq, List.forall₂_map_left_iff, List.forall₂_map_right_iff,
    toOption_eq_some_iff]

namespace Traced

variable {ε α β : Type} {f : α → Traced ε β} {as : List α}

theorem toOption_forEach_eq_some_iff {bs : List β} :
    (forEach f as).outcome.toOption = some bs ↔
      as.map (fun a => (f a).outcome.toOption) = bs.map some := by
  rw [toOption_eq_some_iff, forEach_eq_ok_iff, map_eq_map_ok_iff]

/-- What comes of members in turn, errors left out, is told by what comes of each. -/
theorem toOption_forEach_congr {α' : Type} {f' : α' → Traced ε β} {as' : List α'}
    (h : as.map (fun a => (f a).outcome.toOption) = as'.map fun a => (f' a).outcome.toOption) :
    (forEach f as).outcome.toOption = (forEach f' as').outcome.toOption := by
  ext bs
  rw [toOption_forEach_eq_some_iff, toOption_forEach_eq_some_iff, h]

end Traced

/-- A list goes through two partial functions in turn just in case it goes through the
second behind the first. -/
theorem map_bind_eq_map_some_iff {α β γ : Type} {f : α → Option β} {h : β → Option γ}
    {as : List α} {cs : List γ} :
    as.map (fun a => (f a).bind h) = cs.map some ↔
      ∃ bs : List β, as.map f = bs.map some ∧ bs.map h = cs.map some := by
  induction as generalizing cs with
  | nil => cases cs <;> simp
  | cons a as ih =>
    constructor
    · intro hcs
      obtain ⟨c, cs, rfl⟩ : ∃ c cs', cs = c :: cs' :=
        List.exists_cons_of_ne_nil (by rintro rfl; cases hcs)
      obtain ⟨hc, hcs⟩ := List.cons.inj hcs
      obtain ⟨b, hb, hc⟩ := Option.bind_eq_some_iff.mp hc
      obtain ⟨bs, hbs, hcs⟩ := ih.mp hcs
      exact ⟨b :: bs, by simp [hb, hbs], by simp [hc, hcs]⟩
    · rintro ⟨- | ⟨b, bs⟩, hbs, hcs⟩
      · cases hbs
      · obtain ⟨hb, hbs⟩ := List.cons.inj hbs
        obtain ⟨c, cs, rfl⟩ : ∃ c cs', cs = c :: cs' :=
          List.exists_cons_of_ne_nil (by rintro rfl; cases hcs)
        obtain ⟨hc, hcs⟩ := List.cons.inj hcs
        rw [List.map_cons, hb, Option.bind_some, hc, ih.mpr ⟨bs, hbs, hcs⟩, List.map_cons]

theorem exists_map_eq_map_some_iff {α β : Type} {f : α → Option β} {as : List α} :
    (∃ bs : List β, as.map f = bs.map some) ↔ ∀ a ∈ as, (f a).isSome = true := by
  constructor
  · rintro ⟨bs, hbs⟩ a ha
    have hmem : f a ∈ bs.map some := by
      rw [← hbs]
      exact List.mem_map_of_mem ha
    obtain ⟨b, -, hb⟩ := List.mem_map.mp hmem
    rw [← hb]
    rfl
  · intro h
    induction as with
    | nil => exact ⟨[], rfl⟩
    | cons a as ih =>
      obtain ⟨b, hb⟩ := Option.isSome_iff_exists.mp (h a (by simp))
      obtain ⟨bs, hbs⟩ := ih fun a' ha' => h a' (List.mem_cons_of_mem a ha')
      exact ⟨b :: bs, by rw [List.map_cons, hb, hbs, List.map_cons]⟩

theorem ReadsAs.isRead {p : Text} {g : Group} (h : ReadsAs p g) : ∀ c ∈ g, c.IsRead := by
  intro c hc
  obtain ⟨t, rest, -, hread⟩ := h.exists_read c hc
  exact Condition.isRead_of_read hread

namespace Requirement

/-- The clauses that a piece of the requirement `raw` has, if it is a group and all
conditions of that have clauses. -/
def pieceClauses? (raw piece : Text) : Option (List Clause) :=
  (readGroup piece).toOption.bind fun g => (compileGroup raw g).outcome.toOption

/-- Which text a piece stands in matters to its comparisons alone. -/
theorem pieceClauses?_congr {raw raw' : Text}
    (h : ∀ c : Comparison, c.version.IsWellFormed → c.dashRange? raw = c.dashRange? raw')
    (piece : Text) : pieceClauses? raw piece = pieceClauses? raw' piece := by
  rw [pieceClauses?, pieceClauses?]
  rcases hread : readGroup piece with rest | g
  · rfl
  · show (compileGroup raw g).outcome.toOption = (compileGroup raw' g).outcome.toOption
    apply Traced.toOption_forEach_congr
    rw [List.map_inj_left]
    intro c hc
    cases c with
    | dashRange d => rfl
    | comparison c =>
      have hmem := comparison_mem_comparisons.mp (comparison_mem_dashesLast.mp hc)
      have hwell := Literal.IsRead.isWellFormed
        ((readGroup_eq_ok_iff.mp hread).isRead _ hmem)
      rw [outcome_compileCondition_comparison, outcome_compileCondition_comparison, h c hwell]

/-- **A requirement compiles piece by piece**, blanks around its text apart. -/
theorem ofText_eq_ok_iff_pieces {s : Text} {r : Requirement} :
    ofText s = .ok r ↔
      r.text = Text.strip s ∧
        (segments s).map (pieceClauses? s) = r.alternatives.map some := by
  rw [ofText_eq_ok_iff]
  apply and_congr_right
  intro _
  have hstrip : pieceClauses? s = pieceClauses? (Text.strip s) :=
    funext fun p => pieceClauses?_congr (fun c hc => (Comparison.dashRange?_strip hc s).symm) p
  rw [hstrip]
  simp only [parse_strip_eq_ok_iff]
  simp only [parse_eq_ok_iff, outcomes, map_eq_map_ok_iff]
  exact map_bind_eq_map_some_iff.symm

theorem exists_ofText_eq_ok_iff {s : Text} :
    (∃ r, ofText s = .ok r) ↔ ∀ p ∈ segments s, (pieceClauses? s p).isSome = true := by
  rw [← exists_map_eq_map_some_iff]
  constructor
  · rintro ⟨r, hr⟩
    exact ⟨r.alternatives, (ofText_eq_ok_iff_pieces.mp hr).2⟩
  · rintro ⟨alternatives, h⟩
    exact ⟨⟨Text.strip s, alternatives⟩, ofText_eq_ok_iff_pieces.mpr ⟨rfl, h⟩⟩

theorem isMetBy_iff_exists_piece {s : Text} {r : Requirement} (hr : ofText s = .ok r)
    (v : Version) :
    r.isMetBy v = true ↔
      ∃ p ∈ segments s, (pieceClauses? s p).any (meetsAll · v) = true := by
  rw [isMetBy, meetsAny, List.any_eq_true]
  have halternatives := (ofText_eq_ok_iff_pieces.mp hr).2
  constructor
  · rintro ⟨ks, hks, hmeets⟩
    have hmem : some ks ∈ (segments s).map (pieceClauses? s) := by
      rw [halternatives]
      exact List.mem_map_of_mem hks
    obtain ⟨p, hp, heq⟩ := List.mem_map.mp hmem
    exact ⟨p, hp, by simpa [heq] using hmeets⟩
  · rintro ⟨p, hp, hmeets⟩
    have hmem : pieceClauses? s p ∈ r.alternatives.map some := by
      rw [← halternatives]
      exact List.mem_map_of_mem hp
    obtain ⟨ks, hks, heq⟩ := List.mem_map.mp hmem
    exact ⟨ks, hks, by simpa [← heq] using hmeets⟩

end Requirement

/-! ### Spaced dashes in joined pieces -/

/-- A spaced dash stands in joined pieces just in case it stands in one of them. -/
theorem Literal.hasSpacedDash_joinBars_iff {l : Literal} (hl : l.IsWellFormed)
    (hpre : l.preRelease ≠ []) {pieces : List Text} :
    l.hasSpacedDash (joinBars pieces) = true ↔ ∃ p ∈ pieces, l.hasSpacedDash p = true := by
  induction pieces with
  | nil => simp [joinBars, hasSpacedDash]
  | cons p pieces ih =>
    cases pieces with
    | nil => simp [joinBars_singleton]
    | cons q pieces =>
      -- two bars are one bar twice, with nothing in between
      have hbars : joinBars (p :: q :: pieces)
          = p ++ '|' :: ([] ++ '|' :: joinBars (q :: pieces)) := joinBars_cons_cons p q pieces
      rw [hbars, hasSpacedDash_append_bar_iff hl hpre, hasSpacedDash_append_bar_iff hl hpre, ih]
      simp [hasSpacedDash]

/-- A comparison is the same in two texts that the same pieces make. -/
theorem Comparison.dashRange?_joinBars_congr {c : Comparison} (hc : c.version.IsWellFormed)
    {ss ts : List Text} (hsame : ∀ s, s ∈ ss ↔ s ∈ ts) :
    c.dashRange? (joinBars ss) = c.dashRange? (joinBars ts) := by
  have hdash : (c.version.preRelease ≠ [] ∧ c.version.hasSpacedDash (joinBars ss) = true) ↔
      (c.version.preRelease ≠ [] ∧ c.version.hasSpacedDash (joinBars ts) = true) := by
    apply and_congr_right
    intro hpre
    simp only [Literal.hasSpacedDash_joinBars_iff hc hpre, hsame]
  simp only [dashRange?_eq_ite, hdash]

/-! ### Pieces in any order and any number -/

namespace Requirement

/-- **Only the set of the groups matters.**  Texts without a bar, joined with `||`,
compile just in case the same texts do in any other order and number, and the same
versions meet what they compile to. -/
theorem ofText_joinBars_of_same_pieces {ss ts : List Text} (hss : ∀ s ∈ ss, '|' ∉ s)
    (hts : ∀ t ∈ ts, '|' ∉ t) (hsame : ∀ s, s ∈ ss ↔ s ∈ ts) :
    ((∃ r, ofText (joinBars ss) = .ok r) ↔ ∃ r, ofText (joinBars ts) = .ok r) ∧
      ∀ r r', ofText (joinBars ss) = .ok r → ofText (joinBars ts) = .ok r' →
        ∀ v, r.isMetBy v = r'.isMetBy v := by
  have hclauses : pieceClauses? (joinBars ss) = pieceClauses? (joinBars ts) :=
    funext fun p =>
      pieceClauses?_congr (fun c hc => Comparison.dashRange?_joinBars_congr hc hsame) p
  have hpieces : ∀ p, p ∈ segments (joinBars ss) ↔ p ∈ segments (joinBars ts) := by
    by_cases hnil : ss = []
    · -- then there are no texts on the other side either
      obtain rfl : ts = [] := List.eq_nil_iff_forall_not_mem.mpr fun t ht => by
        simpa [hnil] using (hsame t).mpr ht
      simp [hnil]
    · have hnil' : ts ≠ [] := by
        obtain ⟨s, hs⟩ := List.exists_mem_of_ne_nil ss hnil
        exact List.ne_nil_of_mem ((hsame s).mp hs)
      rw [segments_joinBars hnil hss, segments_joinBars hnil' hts]
      exact hsame
  refine ⟨?_, fun r r' hr hr' v => ?_⟩
  · simp only [exists_ofText_eq_ok_iff, hclauses, hpieces]
  · rw [Bool.eq_iff_iff, isMetBy_iff_exists_piece hr, isMetBy_iff_exists_piece hr']
    simp only [hclauses, hpieces]

/-- A range turns a comparison of the same literal into a range from either side, and
however often it is there. -/
theorem ofText_joinBars_of_swapped_range :
    ∃ r r', ofText (joinBars ["1.1.1-2.2.2".toList, "1.1.1 - 2.2.2".toList]) = .ok r ∧
      ofText (joinBars ["1.1.1 - 2.2.2".toList, "1.1.1-2.2.2".toList,
        "1.1.1 - 2.2.2".toList]) = .ok r' ∧
      r.alternatives.length = 2 ∧ r'.alternatives.length = 3 ∧
      ∀ v, r.isMetBy v = r'.isMetBy v := by
  let range : Clause :=
    { kind := .dash, releasesOnly := true,
      interval := { lower := .ofTriple (1, 1, 1), upper := .ofTriple (2, 2, 2) } }
  have hr : ofText (joinBars ["1.1.1-2.2.2".toList, "1.1.1 - 2.2.2".toList])
      = .ok ⟨"1.1.1-2.2.2||1.1.1 - 2.2.2".toList, [[range], [range]]⟩ := by cbv
  have hr' : ofText (joinBars ["1.1.1 - 2.2.2".toList, "1.1.1-2.2.2".toList,
        "1.1.1 - 2.2.2".toList])
      = .ok ⟨"1.1.1 - 2.2.2||1.1.1-2.2.2||1.1.1 - 2.2.2".toList, [[range], [range], [range]]⟩ := by
    cbv
  refine ⟨_, _, hr, hr', rfl, rfl, ?_⟩
  have hsame : ∀ s, s ∈ ["1.1.1-2.2.2".toList, "1.1.1 - 2.2.2".toList] ↔
      s ∈ ["1.1.1 - 2.2.2".toList, "1.1.1-2.2.2".toList, "1.1.1 - 2.2.2".toList] := by
    intro s
    simp only [List.mem_cons, List.not_mem_nil, or_false]
    tauto
  exact (ofText_joinBars_of_same_pieces (by decide) (by decide) hsame).2 _ _ hr hr'

end Requirement

end SemverRange
