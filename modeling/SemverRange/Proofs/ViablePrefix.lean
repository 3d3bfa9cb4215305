/-
SemverRange/Proofs/ViablePrefix.lean

Nothing is wrong before the place where parsing fails.

The reader of groups gives up at one of two kinds of places (`StopsAt`).  At the one it
wants a literal: in front of a condition, behind a sign, or behind a hyphen that the
literal before it cannot take.  There a star is all that is missing, for it is a literal
and never an identifier, so it does not change what the hyphen belongs to
(`Condition.exists_read_star`).  At the other it wants a blank behind a condition, and
what comes before is a group already.  So the text up to such a place begins a group
(`StopsAt.exists_readsAs`); and since a position points at that place in the first piece
that fails, the text up to it begins a requirement
(`exists_parse_of_parse_eq_error`).
-/
import SemverRange.Proofs.Composition
import SemverRange.Proofs.Grammar

namespace SemverRange

open Text (AllBlank StartsBlank isBlank skipBlanks)

/-! ### Literals that are missing -/

/-- The literal that a star writes. -/
def Literal.star : Literal :=
  { major := some ['*'], text := ['*'] }

theorem Literal.read?_star : read? ['*'] = some (star, []) := by
  decide

/-- A star does not take part in the hyphen in front of it. -/
theorem Literal.leavesHyphen_star {s w₁ w₂ rest : Text} {l : Literal}
    (h : read? s = some (l, w₁ ++ '-' :: w₂ ++ rest)) : l.LeavesHyphen w₁ star := by
  obtain ⟨hident, -⟩ := tags_of_read? h
  by_cases hpatch : l.patch = none
  · exact .inl hpatch
  · rcases htagged : l.isTagged with - | -
    · exact .inr (.inr ⟨htagged, by simp [star, (by decide : isIdentChar '*' = false)]⟩)
    · -- without a blank the hyphen would have gone on with the last identifier
      refine .inr (.inl ⟨htagged, ?_⟩)
      rintro rfl
      exact absurd (hident htagged '-' rfl) (by decide)

/-- **Where the reader of a condition fails a star is missing**, and nothing else. -/
theorem Condition.exists_read_star {s rest : Text} (h : Condition.read s = .error rest) :
    ∃ u c, s = u ++ rest ∧ Condition.read (u ++ ['*']) = .ok (c, []) := by
  rw [Condition.read] at h
  split at h
  · rename_i sign r hsign
    split at h
    · -- behind a sign and some blanks
      cases h
      obtain ⟨rfl, hknown⟩ := readSign?_eq_some hsign
      obtain ⟨w, hw, hr⟩ := Text.skipBlanks_decomposition r
      refine ⟨sign ++ w, _, ?_, read_of_sign hknown hw Literal.read?_star⟩
      rw [List.append_assoc, ← hr]
    · cases h
  · split at h
    · -- at the front
      cases h
      exact ⟨[], _, rfl, read_of_read? Literal.read?_star⟩
    · rename_i l r hl
      split at h
      · cases h
      · rename_i r' hdash
        split at h
        · -- behind the hyphen of a range
          cases h
          obtain ⟨w₁, w₂, hw₁, hw₂, rfl⟩ := Literal.readDash?_eq_some hdash
          obtain ⟨rfl, hwritten⟩ := Literal.read?_eq_some hl
          have hclear : (Condition.dashRange { lower := l, upper := Literal.star }).IsClearWriting
              (l.text ++ (w₁ ++ '-' :: w₂) ++ ['*']) :=
            ⟨hwritten, (Literal.read?_eq_some Literal.read?_star).2, w₁, w₂, hw₁, hw₂,
              Literal.leavesHyphen_star hl, rfl⟩
          exact ⟨_, _, by simp, hclear.read⟩
        · cases h

/-! ### Where groups stop -/

/-- Whether a text stops being a group where `rest` begins: at the first condition that
fails, or behind one that goes on with something other than a blank. -/
inductive StopsAt (rest : Text) : Text → Prop
  | literal {u s : Text} {b : Char} (hu : AllBlank u) (hb : isBlank b = false)
      (hc : Condition.read (b :: s) = .error rest) : StopsAt rest (u ++ b :: s)
  | blank {u s : Text} {c : Condition} (hu : AllBlank u)
      (hc : Condition.read s = .ok (c, rest)) (hrest : ¬ StartsBlank rest) :
      StopsAt rest (u ++ s)
  | later {u s r : Text} {c : Condition} (hu : AllBlank u) (hc : Condition.read s = .ok (c, r))
      (hr : StartsBlank r) (hstop : StopsAt rest r) : StopsAt rest (u ++ s)

/-- How the reader of groups fails at a text that begins with no blank. -/
theorem readGroup_cons_eq_error_iff {b : Char} {s rest : Text} (hb : isBlank b = false) :
    readGroup (b :: s) = .error rest ↔
      Condition.read (b :: s) = .error rest ∨
        ∃ c r, Condition.read (b :: s) = .ok (c, r) ∧
          (¬ StartsBlank r ∧ r = rest ∨ StartsBlank r ∧ readGroup r = .error rest) := by
  rw [readGroup, Text.skipBlanks_eq_self (by simpa using hb), readConditions,
    if_neg (by simp)]
  split
  · rename_i e he
    simp [he]
  · rename_i c hc
    simp [hc, StartsBlank, readGroup_of_allBlank Text.allBlank_nil]
  · rename_i c d r hc
    split
    · rename_i hd
      rw [map_eq_error_iff, ← readGroup, ← readGroup_cons_blank hd]
      simp [hc, StartsBlank, hd]
    · rename_i hd
      simp [hc, StartsBlank, hd]

/-- Behind its first condition a group fails if no blank comes, or where the rest fails. -/
theorem readGroup_eq_error_iff_of_read {s r rest : Text} {c : Condition}
    (hc : Condition.read s = .ok (c, r)) :
    readGroup s = .error rest ↔
      ¬ StartsBlank r ∧ r = rest ∨ StartsBlank r ∧ readGroup r = .error rest := by
  obtain ⟨b, s, rfl⟩ := List.exists_cons_of_ne_nil (Condition.ne_nil_of_read hc)
  rw [readGroup_cons_eq_error_iff (Condition.head_of_read hc b rfl).1]
  simp [hc]

/-- **The reader of groups fails where a text stops being a group.** -/
theorem readGroup_eq_error_iff {s rest : Text} : readGroup s = .error rest ↔ StopsAt rest s := by
  constructor
  · intro h
    -- on the length of the text: the rest behind the first condition is shorter
    induction hlen : s.length using Nat.strongRecOn generalizing s with
    | ind n ih =>
      subst hlen
      have hle := Text.length_skipBlanks_le s
      obtain ⟨u, hu, hs⟩ := Text.skipBlanks_decomposition s
      rcases hskip : skipBlanks s with - | ⟨b, t⟩
      · rw [hs, hskip, List.append_nil, readGroup_of_allBlank hu] at h
        cases h
      · have hb : isBlank b = false := Text.isBlank_head?_skipBlanks s b (by rw [hskip]; rfl)
        rw [hskip] at hs hle
        rw [hs, readGroup_append_left hu, readGroup_cons_eq_error_iff hb] at h
        rw [hs]
        rcases h with hc | ⟨c, r, hc, ⟨hr, rfl⟩ | ⟨hr, hstop⟩⟩
        · exact .literal hu hb hc
        · exact .blank hu hc hr
        · have hlt := Condition.read_length_lt hc
          exact .later hu hc hr (ih r.length (by omega) hstop rfl)
  · intro h
    induction h with
    | literal hu hb hc =>
      rw [readGroup_append_left hu, readGroup_cons_eq_error_iff hb]
      exact .inl hc
    | blank hu hc hrest =>
      rw [readGroup_append_left hu, readGroup_eq_error_iff_of_read hc]
      exact .inl ⟨hrest, rfl⟩
    | later hu hc hr hstop ih =>
      rw [readGroup_append_left hu, readGroup_eq_error_iff_of_read hc]
      exact .inr ⟨hr, ih⟩

/-! ### Text up to the place -/

/-- What is missing where a text stops: a star, or nothing. -/
def continuations : List Text :=
  [[], ['*']]

/-- A condition begins with no blank, so one before it is a blank before anything. -/
theorem Condition.startsBlank_append {u s rest : Text} {c : Condition}
    (hc : Condition.read s = .ok (c, rest)) (h : StartsBlank (u ++ s)) (t : Text) :
    StartsBlank (u ++ t) :=
  h.of_append (ne_nil_of_read hc) (fun b hb => (head_of_read hc b hb).1) t

/-- **Up to where it stops a text begins a group.** -/
theorem StopsAt.exists_readsAs {s rest : Text} (h : StopsAt rest s) :
    ∃ u, s = u ++ rest ∧ ∃ t ∈ continuations, (∃ g, ReadsAs (u ++ t) g) ∧
      (StartsBlank s → StartsBlank (u ++ t)) := by
  induction h with
  | @literal u s b hu hb hc =>
    obtain ⟨m, c, hs, hread⟩ := Condition.exists_read_star hc
    refine ⟨u ++ m, by rw [hs, List.append_assoc], ['*'], by simp [continuations], ?_, ?_⟩
    · rw [List.append_assoc]
      exact ⟨[c], .singleton hu hread⟩
    · intro hblank
      rw [List.append_assoc]
      exact hblank.of_append (by simp) (by simpa using hb) _
  | @blank u s c hu hc hrest =>
    obtain ⟨m, rfl, hm⟩ := Condition.exists_isClearWriting_of_read hc
    refine ⟨u ++ m, (List.append_assoc u m rest).symm, [], by simp [continuations], ?_, ?_⟩
    · rw [List.append_nil]
      exact ⟨[c], .singleton hu hm.read⟩
    · intro hblank
      rw [List.append_assoc]
      exact Condition.startsBlank_append hc hblank _
  | @later u s r c hu hc hr hstop ih =>
    obtain ⟨m, rfl, hm⟩ := Condition.exists_isClearWriting_of_read hc
    obtain ⟨v, rfl, t, ht, ⟨g, hg⟩, hstart⟩ := ih
    -- the condition still ends where it did, since the blank behind it is still there
    have hread : Condition.read (m ++ (v ++ t)) = .ok (c, v ++ t) :=
      Condition.read_append_of_blank hm.read (by simp [Literal.readDash?, Text.skipBlanks])
        (hstart hr) hg.readDash?_eq_none
    refine ⟨u ++ m ++ v, by simp, t, ht, ⟨c :: g, ?_⟩, ?_⟩
    · rw [List.append_assoc, List.append_assoc]
      exact .condition hu hread (hstart hr) hg
    · intro hblank
      rw [List.append_assoc, List.append_assoc]
      exact Condition.startsBlank_append hc hblank _

/-! ### Pieces up to the place -/

/-- The position behind some pieces and the beginning of the next. -/
theorem take_joinBars (front : List Text) (s t : Text) (back : List Text) :
    (joinBars (front ++ (s ++ t) :: back)).take ((front.map (·.length + 2)).sum + s.length)
      = joinBars (front ++ [s]) := by
  rw [joinBars_append_cons, joinBars_append_cons, joinBars_append, joinBars_singleton,
    ← List.append_assoc]
  apply List.take_left'
  rw [List.length_append, length_flatMap_bars]

theorem exists_parse_joinBars {ts : List Text} (hne : ts ≠ [])
    (hts : ∀ t ∈ ts, ∃ g, ReadsAs t g) : ∃ gs, parse (joinBars ts) = .ok gs := by
  have hbars : ∀ t ∈ ts, '|' ∉ t := by
    intro t ht
    obtain ⟨g, hg⟩ := hts t ht
    exact hg.bar_notMem
  rcases h : parse (joinBars ts) with p | gs
  · obtain ⟨front, t, back, q, rfl, -, ht, -⟩ := (parse_joinBars_eq_error_iff hne hbars).mp h
    obtain ⟨g, hg⟩ := hts t (by simp)
    rw [parse_of_segments_eq (segments_of_bar_notMem hg.bar_notMem),
      readGroup_eq_ok_iff.mpr hg] at ht
    cases ht
  · exact ⟨gs, rfl⟩

/-- **Nothing is wrong before the place where parsing fails.**  The position is inside the
text or at its end, and up to there the text is a requirement, or becomes one with a star
behind it. -/
theorem exists_parse_of_parse_eq_error {s : Text} {p : Nat} (h : parse s = .error p) :
    p ≤ s.length ∧ ∃ t ∈ continuations, ∃ gs, parse (s.take p ++ t) = .ok gs := by
  refine ⟨le_length_of_parse_eq_error h, ?_⟩
  rw [parse, readGroups_eq_error_iff] at h
  obtain ⟨front, piece, back, rest, hpieces, hfront, hstop, rfl⟩ := h
  obtain ⟨u, rfl, t, ht, hread, -⟩ := (readGroup_eq_error_iff.mp hstop).exists_readsAs
  refine ⟨t, ht, ?_⟩
  have hplace : (u ++ rest).length - rest.length = u.length := by simp
  rw [Nat.zero_add, hplace, ← joinBars_segments s, hpieces, take_joinBars,
    joinBars_append_cons, joinBars_singleton, List.append_assoc, ← joinBars_singleton (u ++ t),
    ← joinBars_append_cons]
  apply exists_parse_joinBars (by simp)
  intro r hr
  rcases List.mem_append.mp hr with hr | hr
  · obtain ⟨g, hg⟩ := hfront r hr
    exact ⟨g, readGroup_eq_ok_iff.mp hg⟩
  · obtain rfl := List.mem_singleton.mp hr
    exact hread

/-- The upper end of a range is missing in the second piece of three; the hyphen stays with
the range although its lower end has a pre-release. -/
theorem parse_range_without_upper :
    parse "^1.2 || 1.2.3-a - $ || 3".toList = .error 18 ∧
      ∃ t ∈ continuations, ∃ gs, parse ("^1.2 || 1.2.3-a - ".toList ++ t) = .ok gs := by
  have herror : parse "^1.2 || 1.2.3-a - $ || 3".toList = .error 18 := by cbv
  exact ⟨herror, (exists_parse_of_parse_eq_error herror).2⟩

end SemverRange
