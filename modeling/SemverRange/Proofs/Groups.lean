/-
SemverRange/Proofs/Groups.lean

How a group is read: condition by condition.

A group is read from a text of conditions that stand apart: blanks in front, then
a condition, then nothing or a blank, and then the rest of the group.  The relation
`ReadsAs` says so, and the reader of groups decides it (`readGroup_eq_ok_iff`); what
is to be shown of all groups is shown by induction on it.

A condition begins with a sign, a letter or a field, so with no blank and with no
hyphen (`Condition.head_of_read`).  Hence no literal reaches across a blank into
the next condition, and two texts with blanks between them read as the conditions
of the first and then those of the second (`readGroup_append`).
-/
import SemverRange.Proofs.TrailingBlanks

namespace SemverRange

open Text (AllBlank StartsBlank isBlank skipBlanks)

/-! ### How conditions begin -/

/-- A condition begins with neither a blank nor a hyphen. -/
theorem Condition.head_of_read {s rest : Text} {c : Condition}
    (h : Condition.read s = .ok (c, rest)) : ∀ b ∈ s.head?, isBlank b = false ∧ b ≠ '-' := by
  rw [← toOption_eq_some_iff, toOption_read] at h
  split at h
  · rename_i sign r hsign
    intro b hb
    have hsigns : ['<', '>', '=', '~', '^'].all (fun b => !isBlank b && b != '-') = true := by
      decide
    have hmem : b ∈ ['<', '>', '=', '~', '^'] := by
      by_contra hnot
      have hnone : readSign? s = none := readSign?_eq_none fun c hc => by
        obtain rfl : b = c := Option.some.inj (hb.symm.trans hc)
        exact hnot
      rw [hnone] at hsign
      cases hsign
    simpa using List.all_eq_true.mp hsigns b hmem
  · obtain ⟨⟨l, r⟩, hl, -⟩ := Option.bind_eq_some_iff.mp h
    exact Literal.head_of_read? hl

theorem Condition.ne_nil_of_read {s rest : Text} {c : Condition}
    (h : Condition.read s = .ok (c, rest)) : s ≠ [] := by
  rintro rfl
  simpa using read_length_lt h

/-! ### The relation that the reader of groups decides -/

/-- Whether a text writes a group: conditions, each with blanks in front and with
its end at a blank or at the end of the text, and blanks behind them. -/
inductive ReadsAs : Text → Group → Prop
  | blank {w : Text} (hw : AllBlank w) : ReadsAs w []
  | condition {u s rest : Text} {c : Condition} {g : Group} (hu : AllBlank u)
      (hc : Condition.read s = .ok (c, rest)) (hrest : StartsBlank rest)
      (hg : ReadsAs rest g) : ReadsAs (u ++ s) (c :: g)

/-- A condition with nothing behind it is a group. -/
theorem ReadsAs.singleton {u s : Text} {c : Condition} (hu : AllBlank u)
    (hc : Condition.read s = .ok (c, [])) : ReadsAs (u ++ s) [c] :=
  .condition hu hc Text.allBlank_nil.startsBlank (.blank Text.allBlank_nil)

theorem readGroup_cons_blank {b : Char} (hb : isBlank b = true) (s : Text) :
    readGroup (b :: s) = readGroup s :=
  readGroup_append_left (Text.allBlank_cons.mpr ⟨hb, Text.allBlank_nil⟩) s

/-- A condition, and the rest of the group behind it. -/
theorem readGroup_of_read {s rest : Text} {c : Condition} {g : Group}
    (hc : Condition.read s = .ok (c, rest)) (hrest : StartsBlank rest)
    (hg : readGroup rest = .ok g) : readGroup s = .ok (c :: g) := by
  have hskip : skipBlanks s = s :=
    Text.skipBlanks_eq_self fun b hb => (Condition.head_of_read hc b hb).1
  rw [← toOption_eq_some_iff, readGroup, hskip,
    toOption_readConditions (Condition.ne_nil_of_read hc), toOption_eq_some_iff.mpr hc,
    Option.bind_some]
  cases rest with
  | nil =>
    rw [readGroup_of_allBlank Text.allBlank_nil] at hg
    cases hg
    rfl
  | cons b rest =>
    have hb : isBlank b = true := hrest b rfl
    rw [readGroup_cons_blank hb] at hg
    simp only [hb, hg]
    rfl

/-- **The reader of groups decides which group a text writes.** -/
theorem readGroup_eq_ok_iff {s : Text} {g : Group} : readGroup s = .ok g ↔ ReadsAs s g := by
  constructor
  · intro h
    -- on the length of the text: the rest behind the first condition is shorter
    induction hlen : s.length using Nat.strongRecOn generalizing s g with
    | ind n ih =>
      subst hlen
      have hle := Text.length_skipBlanks_le s
      obtain ⟨u, hu, hs⟩ := Text.skipBlanks_decomposition s
      rw [← toOption_eq_some_iff, readGroup] at h
      by_cases hnil : skipBlanks s = []
      · rw [hnil, readConditions_nil] at h
        cases h
        rw [hs, hnil, List.append_nil]
        exact .blank hu
      · rw [toOption_readConditions hnil] at h
        obtain ⟨⟨c, rest⟩, hc, h⟩ := Option.bind_eq_some_iff.mp h
        rw [toOption_eq_some_iff] at hc
        have hlt := Condition.read_length_lt hc
        rw [hs]
        cases rest with
        | nil =>
          cases h
          exact .singleton hu hc
        | cons b rest =>
          dsimp only at h
          split at h
          · rename_i hb
            obtain ⟨g', hg', rfl⟩ := Option.map_eq_some_iff.mp h
            rw [toOption_eq_some_iff, ← readGroup_cons_blank hb] at hg'
            have hblank : StartsBlank (b :: rest) := by
              simpa [StartsBlank] using hb
            exact .condition hu hc hblank (ih _ (by omega) hg' rfl)
          · cases h
  · intro h
    induction h with
    | blank hw => exact readGroup_of_allBlank hw
    | condition hu hc hrest _ ih =>
      rw [readGroup_append_left hu]
      exact readGroup_of_read hc hrest ih

/-- A group begins with neither a hyphen nor blanks and a hyphen. -/
theorem ReadsAs.readDash?_eq_none {s : Text} {g : Group} (h : ReadsAs s g) :
    Literal.readDash? s = none := by
  rw [Literal.readDash?]
  cases h with
  | blank hw => rw [Text.skipBlanks_eq_nil hw]
  | condition hu hc hrest hg =>
    have hhead := Condition.head_of_read hc
    rw [Text.skipBlanks_append_left hu, Text.skipBlanks_eq_self fun b hb => (hhead b hb).1]
    split
    · exact absurd rfl (hhead '-' rfl).2
    · rfl

/-! ### Conditions before a blank -/

section Append

variable {t : Text}

namespace Literal

theorem readDash?_append_eq_none {s : Text} (hs : readDash? s = none) (ht : readDash? t = none) :
    readDash? (s ++ t) = none := by
  rw [readDash?] at hs ht ⊢
  rw [Text.skipBlanks_append]
  split_ifs with hnil
  · exact ht
  · obtain ⟨c, s', hc⟩ := List.exists_cons_of_ne_nil hnil
    rw [hc] at hs ⊢
    rw [List.cons_append]
    split at hs
    · cases hs
    · rename_i hne
      split
      · rename_i h
        obtain ⟨rfl, -⟩ := List.cons.inj h
        exact absurd rfl (hne s')
      · rfl

theorem readDash?_append_eq_some {s r : Text} (hs : readDash? s = some r) (hr : r ≠ []) :
    readDash? (s ++ t) = some (r ++ t) := by
  rw [readDash?] at hs ⊢
  split at hs
  · rename_i s' hs'
    have hskip : skipBlanks s' = r := Option.some.inj hs
    rw [Text.skipBlanks_append, hs', if_neg (by simp), List.cons_append]
    show some (skipBlanks (s' ++ t)) = _
    rw [Text.skipBlanks_append, hskip, if_neg hr]
  · cases hs

theorem readPreRelease_append_of_blank {s rest : Text} {is : List Identifier}
    (h : readPreRelease s = (is, rest)) (hrest : readDash? rest ≠ some []) (ht : StartsBlank t)
    (hdash : readDash? t = none) : readPreRelease (s ++ t) = (is, rest ++ t) := by
  rw [readPreRelease] at h ⊢
  rcases hs : readDash? s with - | r
  · -- no hyphen here, and none behind the blank
    rw [hs] at h
    cases h
    rw [readDash?_append_eq_none hs hdash]
    rfl
  · rw [hs] at h
    by_cases hr : r = []
    · -- the hyphen would be the last of the text
      subst hr
      cases h
      exact absurd hs hrest
    · rw [readDash?_append_eq_some hs hr, Option.bind_some, readIdents?_append ht]
      rw [Option.bind_some] at h
      rcases hi : readIdents? r with - | ⟨is', rest'⟩
      · rw [hi] at h
        cases h
        rfl
      · rw [hi] at h
        cases h
        rfl

/-- Build metadata uses no hyphen up. -/
theorem readDash?_ne_of_readBuild {s rest : Text} {is : List Identifier}
    (h : readBuild s = (is, rest)) (hrest : readDash? rest ≠ some []) :
    readDash? s ≠ some [] := by
  intro hs
  unfold readBuild at h
  split at h
  · rw [readDash?, Text.skipBlanks_eq_self (by simp [(by decide : isBlank '+' = false)])] at hs
    cases hs
  · cases h
    exact hrest hs

/-- **A literal ends before a blank**, unless a hyphen stands there or is still to
come. -/
theorem read?_append_of_blank {s rest : Text} {l : Literal} (h : read? s = some (l, rest))
    (hrest : readDash? rest ≠ some []) (ht : StartsBlank t) (hdash : readDash? t = none) :
    read? (s ++ t) = some (l, rest ++ t) := by
  rw [read?] at h ⊢
  rw [dropLetter_append ht, readPart?_append ht]
  rcases hmajor : readPart? (Text.dropLetter s) with - | ⟨major, r₁⟩
  · simp only [hmajor] at h
    cases h
  · simp only [hmajor, Option.map_some, withRest, readDotPart?_append ht,
      before_append_append] at h ⊢
    rcases hminor : readDotPart? r₁ with - | ⟨minor, r₂⟩
    · simp only [hminor] at h
      cases h
      rfl
    · simp only [hminor, Option.map_some, withRest, readDotPart?_append ht,
        before_append_append] at h ⊢
      rcases hpatch : readDotPart? r₂ with - | ⟨patch, r₃⟩
      · simp only [hpatch] at h
        cases h
        rfl
      · simp only [hpatch, Option.some.injEq, Prod.mk.injEq] at h
        obtain ⟨rfl, hbuild⟩ := h
        have hpre : readPreRelease (r₃ ++ t)
            = ((readPreRelease r₃).1, (readPreRelease r₃).2 ++ t) :=
          readPreRelease_append_of_blank rfl
            (readDash?_ne_of_readBuild rfl (hbuild ▸ hrest)) ht hdash
        simp only [Option.map_some, withRest, hpre, readBuild_append ht, before_append_append,
          hbuild]

end Literal

/-- A condition ends before a blank, unless a hyphen stands there or is still to
come. -/
theorem Condition.read_append_of_blank {s rest : Text} {c : Condition}
    (h : Condition.read s = .ok (c, rest)) (hrest : Literal.readDash? rest ≠ some [])
    (ht : StartsBlank t) (hdash : Literal.readDash? t = none) :
    Condition.read (s ++ t) = .ok (c, rest ++ t) := by
  rw [← toOption_eq_some_iff, toOption_read] at h ⊢
  rw [readSign?_append ht]
  rcases hsign : readSign? s with - | ⟨sign, r⟩
  · simp only [hsign] at h
    obtain ⟨⟨l, r⟩, hl, h⟩ := Option.bind_eq_some_iff.mp h
    simp only [Option.map_none]
    rcases hr : Literal.readDash? r with - | r'
    · -- a comparison
      simp only [hr, Option.some.injEq, Prod.mk.injEq] at h
      obtain ⟨rfl, rfl⟩ := h
      rw [Literal.read?_append_of_blank hl (by simp [hr]) ht hdash, Option.bind_some,
        Literal.readDash?_append_eq_none hr hdash]
    · -- a range, and its upper end is not missing
      simp only [hr] at h
      obtain ⟨⟨u, rest'⟩, hu, heq⟩ := Option.map_eq_some_iff.mp h
      cases heq
      have hne : r' ≠ [] := by
        rintro rfl
        cases hu
      rw [Literal.read?_append_of_blank hl (by simp [hr, hne]) ht hdash, Option.bind_some,
        Literal.readDash?_append_eq_some hr hne]
      simp only [Literal.read?_append_of_blank hu hrest ht hdash, Option.map_some]
  · simp only [hsign] at h
    obtain ⟨⟨l, rest'⟩, hl, heq⟩ := Option.map_eq_some_iff.mp h
    cases heq
    have hne : skipBlanks r ≠ [] := by
      intro hnil
      rw [hnil] at hl
      cases hl
    simp only [Option.map_some, withRest, Text.skipBlanks_append, if_neg hne,
      Literal.read?_append_of_blank hl hrest ht hdash]

end Append

/-! ### Groups one after the other -/

theorem ReadsAs.append_blanks_left {u s : Text} {g : Group} (hu : AllBlank u)
    (h : ReadsAs s g) : ReadsAs (u ++ s) g := by
  rw [← readGroup_eq_ok_iff, readGroup_append_left hu, readGroup_eq_ok_iff]
  exact h

/-- Two texts, the second of which begins with a blank, read as the conditions of
both. -/
theorem ReadsAs.append {s t : Text} {g h : Group} (hs : ReadsAs s g) (ht : StartsBlank t)
    (hread : ReadsAs t h) : ReadsAs (s ++ t) (g ++ h) := by
  induction hs with
  | blank hw => exact hread.append_blanks_left hw
  | @condition u s rest c g hu hc hrest hg ih =>
    have hdash : Literal.readDash? rest ≠ some [] := by simp [hg.readDash?_eq_none]
    rw [List.append_assoc]
    refine .condition hu
      (Condition.read_append_of_blank hc hdash ht hread.readDash?_eq_none) ?_ ih
    cases rest with
    | nil => exact ht
    | cons b rest => exact hrest

/-- **Groups with blanks between them read as the conditions of the first and then
those of the second.** -/
theorem readGroup_append {s w t : Text} {g h : Group} (hs : readGroup s = .ok g)
    (ht : readGroup t = .ok h) (hw : AllBlank w) (hne : w ≠ []) :
    readGroup (s ++ w ++ t) = .ok (g ++ h) := by
  rw [readGroup_eq_ok_iff] at hs ht ⊢
  have hblank : StartsBlank (w ++ t) := by
    obtain ⟨b, w, rfl⟩ := List.exists_cons_of_ne_nil hne
    simpa [StartsBlank] using hw b (by simp)
  rw [List.append_assoc]
  exact hs.append hblank (ht.append_blanks_left hw)

end SemverRange
