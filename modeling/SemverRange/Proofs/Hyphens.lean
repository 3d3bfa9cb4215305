/-
SemverRange/Proofs/Hyphens.lean

Which literal a hyphen belongs to.

The reader gives a hyphen to the literal in front of it whenever that literal can take
it, for a pre-release or inside an identifier.  Only where it cannot
(`Literal.LeavesHyphen`) does the hyphen make a range: the literal has no patch number,
or it has tags already and a blank comes before the hyphen, or it has none and nothing
behind the hyphen can begin an identifier.  So of all the writings of a condition
(`Condition.IsWriting`) the reader accepts those in which the hyphen of a range is left
to it, and no others (`Condition.read_eq_ok_iff`).
-/
import SemverRange.Proofs.Groups
import SemverRange.Proofs.Writings

namespace SemverRange

open Text (AllBlank StartsBlank)

/-! ### What a literal takes -/

/-- The reader of identifiers stops at no character of an identifier. -/
theorem isIdentChar_head_readIdentTail (s : Text) :
    ∀ c ∈ (readIdentTail s).rest.head?, isIdentChar c = false := by
  induction s with
  | nil => simp [readIdentTail]
  | cons c s ih =>
    rw [readIdentTail]
    split
    · exact ih
    · split
      · exact ih
      · rename_i hident _
        simpa using hident

theorem isIdentChar_head_readIdents? {s rest : Text} {is : List Identifier}
    (h : readIdents? s = some (is, rest)) : ∀ c ∈ rest.head?, isIdentChar c = false := by
  rw [readIdents?] at h
  split at h
  · cases h
    exact isIdentChar_head_readIdentTail s
  · cases h

theorem readIdents?_eq_none_iff {s : Text} :
    readIdents? s = none ↔ ∀ c ∈ s.head?, isIdentChar c = false := by
  rw [readIdents?]
  cases s with
  | nil => simp
  | cons c s => by_cases hc : isIdentChar c = true <;> simp [hc]

namespace Literal

/-- Without a pre-release nothing is taken; otherwise the last identifier is taken to
its end. -/
theorem readPreRelease_cases (s : Text) :
    (readPreRelease s = ([], s) ∧ (readDash? s).bind readIdents? = none) ∨
      ((readPreRelease s).1 ≠ [] ∧
        ∀ c ∈ (readPreRelease s).2.head?, isIdentChar c = false) := by
  rw [readPreRelease]
  rcases h : (readDash? s).bind readIdents? with - | ⟨is, rest⟩
  · exact .inl ⟨rfl, rfl⟩
  · obtain ⟨t, -, ht⟩ := Option.bind_eq_some_iff.mp h
    exact .inr ⟨(readIdents?_eq_some ht).2.1, isIdentChar_head_readIdents? ht⟩

/-- The same of build metadata. -/
theorem readBuild_cases (s : Text) :
    readBuild s = ([], s) ∨
      ((readBuild s).1 ≠ [] ∧ ∀ c ∈ (readBuild s).2.head?, isIdentChar c = false) := by
  unfold readBuild
  split
  · rename_i t
    rcases h : readIdents? t with - | ⟨is, rest⟩
    · exact .inl rfl
    · exact .inr ⟨(readIdents?_eq_some h).2.1, isIdentChar_head_readIdents? h⟩
  · exact .inl rfl

/-- **A literal takes what it can.**  Behind its tags no identifier goes on, and where it
has a patch number and no tags, no pre-release follows. -/
theorem tags_of_read? {s rest : Text} {l : Literal} (h : read? s = some (l, rest)) :
    (l.isTagged = true → ∀ c ∈ rest.head?, isIdentChar c = false) ∧
      (l.patch ≠ none → l.isTagged = false → (readDash? rest).bind readIdents? = none) := by
  rw [read?] at h
  split at h
  · cases h
  · split at h
    · cases h
      simp [isTagged]
    · split at h
      · cases h
        simp [isTagged]
      · rename_i patch r hpatch
        simp only [Option.some.injEq, Prod.mk.injEq] at h
        obtain ⟨rfl, rfl⟩ := h
        rcases readBuild_cases (readPreRelease r).2 with hbuild | ⟨hbuild, hhead⟩
        · rcases readPreRelease_cases r with ⟨hpre, hnone⟩ | ⟨hpre, hhead⟩
          · -- no tags, and what is left begins behind the patch number
            rw [hbuild, hpre]
            simp [isTagged, hnone]
          · rw [hbuild]
            simpa [isTagged, hpre] using hhead
        · simpa [isTagged, hbuild] using hhead

/-! ### Hyphens that are left -/

/-- Whether a literal cannot take the hyphen that follows it and some blanks, where the
text goes on with the literal `upper`. -/
def LeavesHyphen (l : Literal) (blanks : Text) (upper : Literal) : Prop :=
  l.patch = none ∨ (l.isTagged = true ∧ blanks ≠ []) ∨
    (l.isTagged = false ∧ ∀ c ∈ upper.text.head?, isIdentChar c = false)

instance (l : Literal) (blanks : Text) (upper : Literal) :
    Decidable (l.LeavesHyphen blanks upper) :=
  inferInstanceAs (Decidable (_ ∨ _ ∨ _))

theorem IsWritten.read?_text {l : Literal} (hl : l.IsWritten) :
    read? l.text = some (l, []) :=
  read?_of_isWriting hl.isWellFormed hl.isWriting

theorem IsWritten.text_ne_nil {l : Literal} (hl : l.IsWritten) : l.text ≠ [] := by
  intro hnil
  have hread := hl.read?_text
  rw [hnil] at hread
  cases hread

/-- A written literal begins with neither a blank nor a hyphen, whatever follows it. -/
theorem IsWritten.head_append {l : Literal} (hl : l.IsWritten) (t : Text) :
    ∀ c ∈ (l.text ++ t).head?, Text.isBlank c = false ∧ c ≠ '-' := by
  intro c hc
  rw [List.head?_append_of_ne_nil _ hl.text_ne_nil] at hc
  exact head_of_read? hl.read?_text c hc

/-- What follows the first literal of a range reads as the hyphen and the second. -/
theorem IsWritten.readDash?_hyphen {w₁ w₂ : Text} {u : Literal} (hw₁ : AllBlank w₁)
    (hw₂ : AllBlank w₂) (hu : u.IsWritten) (t : Text) :
    readDash? ((w₁ ++ '-' :: w₂) ++ u.text ++ t) = some (u.text ++ t) := by
  rw [List.append_assoc, List.append_assoc, List.cons_append]
  exact readDash?_of_allBlank hw₁ hw₂ fun c hc => (hu.head_append t c hc).1

/-- A literal ends before a hyphen that it leaves. -/
theorem LeavesHyphen.endsBefore {l u : Literal} {w₁ w₂ : Text} (h : l.LeavesHyphen w₁ u)
    (hl : l.IsWellFormed) (hw₁ : AllBlank w₁) (hw₂ : AllBlank w₂) (hu : u.IsWritten) :
    l.EndsBefore ((w₁ ++ '-' :: w₂) ++ u.text) where
  head := by
    intro c hc
    cases w₁ with
    | nil =>
      obtain rfl : '-' = c := Option.some.inj hc
      decide
    | cons b w₁ =>
      obtain rfl : b = c := Option.some.inj hc
      have hb := hw₁ b (by simp)
      refine ⟨?_, ne_of_isBlank hb (by decide), ne_of_isBlank hb (by decide)⟩
      exact hw₁.startsBlank.head?_eq_false Text.isBlank_eq_false_of_isDigit b rfl
  ident := by
    intro htagged c hc
    rcases h with hpatch | ⟨-, hne⟩ | ⟨hnot, -⟩
    · simp [isTagged, hl.untagged hpatch] at htagged
    · obtain ⟨b, w, rfl⟩ := List.exists_cons_of_ne_nil hne
      exact hw₁.startsBlank.head?_eq_false isBlank_eq_false_of_isIdentChar c hc
    · rw [hnot] at htagged
      cases htagged
  preRelease := by
    intro hpatch hnot
    have hdash := IsWritten.readDash?_hyphen hw₁ hw₂ hu []
    rw [List.append_nil, List.append_nil] at hdash
    rw [hdash, Option.bind_some, readIdents?_eq_none_iff]
    rcases h with hnone | ⟨htagged, -⟩ | ⟨-, hhead⟩
    · exact absurd hnone hpatch
    · rw [hnot] at htagged
      cases htagged
    · exact hhead

/-- A hyphen at which the reader of a literal stopped was left by it. -/
theorem LeavesHyphen.of_read? {s r t : Text} {l u : Literal} {w₁ w₂ : Text}
    (h : read? s = some (l, r)) (hr : r = (w₁ ++ '-' :: w₂) ++ u.text ++ t)
    (hw₁ : AllBlank w₁) (hw₂ : AllBlank w₂) (hu : u.IsWritten) : l.LeavesHyphen w₁ u := by
  obtain ⟨hident, hpre⟩ := tags_of_read? h
  subst hr
  by_cases hpatch : l.patch = none
  · exact .inl hpatch
  · rcases htagged : l.isTagged with - | -
    · -- the identifiers behind the hyphen would have made a pre-release
      have hnone := hpre hpatch htagged
      rw [IsWritten.readDash?_hyphen hw₁ hw₂ hu t, Option.bind_some, readIdents?_eq_none_iff,
        List.head?_append_of_ne_nil _ hu.text_ne_nil] at hnone
      exact .inr (.inr ⟨htagged, hnone⟩)
    · -- the hyphen would have gone on with the last identifier
      refine .inr (.inl ⟨htagged, ?_⟩)
      rintro rfl
      exact absurd (hident htagged '-' rfl) (by decide)

end Literal

/-! ### Conditions -/

namespace Condition

/-- A text that writes a condition and leaves the hyphen of a range to it. -/
def IsClearWriting : Condition → Text → Prop
  | comparison c, m => (comparison c).IsWriting m
  | dashRange d, m =>
    d.lower.IsWritten ∧ d.upper.IsWritten ∧
      ∃ w₁ w₂, AllBlank w₁ ∧ AllBlank w₂ ∧ d.lower.LeavesHyphen w₁ d.upper ∧
        m = d.lower.text ++ (w₁ ++ '-' :: w₂) ++ d.upper.text

theorem IsClearWriting.isWriting {c : Condition} {m : Text} (h : c.IsClearWriting m) :
    c.IsWriting m := by
  cases c with
  | comparison c => exact h
  | dashRange d =>
    obtain ⟨hl, hu, w₁, w₂, hw₁, hw₂, -, hm⟩ := h
    exact ⟨hl, hu, w₁, w₂, hw₁, hw₂, hm⟩

/-- A clear writing is read to its end. -/
theorem IsClearWriting.read {c : Condition} {m : Text} (h : c.IsClearWriting m) :
    Condition.read m = .ok (c, []) := by
  cases c with
  | comparison c =>
    obtain ⟨hl, hknown, w, hw, hgap, rfl⟩ := h
    obtain ⟨sign, l⟩ := c
    rcases sign with - | sign
    · obtain rfl : w = [] := hgap rfl
      exact read_of_read? hl.read?_text
    · exact read_of_sign (hknown sign rfl) hw hl.read?_text
  | dashRange d =>
    obtain ⟨hl, hu, w₁, w₂, hw₁, hw₂, hleaves, rfl⟩ := h
    have hlower : Literal.read? (d.lower.text ++ ((w₁ ++ '-' :: w₂) ++ d.upper.text))
        = some (d.lower, (w₁ ++ '-' :: w₂) ++ d.upper.text) :=
      Literal.read?_of_isWriting_append hl.isWellFormed hl.isWriting
        (hleaves.endsBefore hl.isWellFormed hw₁ hw₂ hu)
    have hdash : Literal.readDash? ((w₁ ++ '-' :: w₂) ++ d.upper.text) = some d.upper.text := by
      have hhyphen := Literal.IsWritten.readDash?_hyphen hw₁ hw₂ hu []
      rwa [List.append_nil, List.append_nil] at hhyphen
    rw [← toOption_eq_some_iff, toOption_read, List.append_assoc,
      readSign?_eq_none_of_read? hlower]
    simp only [hlower, Option.bind_some, hdash, hu.read?_text, Option.map_some]

/-- What the reader takes for a condition is a clear writing of it. -/
theorem exists_isClearWriting_of_read {s rest : Text} {c : Condition}
    (h : Condition.read s = .ok (c, rest)) : ∃ m, s = m ++ rest ∧ c.IsClearWriting m := by
  obtain ⟨m, rfl, hm⟩ := read_eq_ok h
  refine ⟨m, rfl, ?_⟩
  cases c with
  | comparison c => exact hm
  | dashRange d =>
    obtain ⟨hl, hu, w₁, w₂, hw₁, hw₂, rfl⟩ := hm
    refine ⟨hl, hu, w₁, w₂, hw₁, hw₂, ?_, rfl⟩
    rw [← toOption_eq_some_iff, toOption_read] at h
    split at h
    · obtain ⟨p, -, heq⟩ := Option.map_eq_some_iff.mp h
      cases heq
    · obtain ⟨⟨l, r⟩, hread, h⟩ := Option.bind_eq_some_iff.mp h
      split at h
      · cases h
      · obtain ⟨⟨u, rest'⟩, -, heq⟩ := Option.map_eq_some_iff.mp h
        cases heq
        -- the rest behind the first literal is the rest of the writing
        have hr := (Literal.read?_eq_some hread).1
        rw [List.append_assoc, List.append_assoc, List.append_cancel_left_eq,
          ← List.append_assoc] at hr
        exact Literal.LeavesHyphen.of_read? hread hr.symm hw₁ hw₂ hu

/-- **The reader accepts the clear writings of a condition and no others.** -/
theorem read_eq_ok_iff {m : Text} {c : Condition} :
    Condition.read m = .ok (c, []) ↔ c.IsClearWriting m := by
  constructor
  · intro h
    obtain ⟨m', hm', hclear⟩ := exists_isClearWriting_of_read h
    rw [List.append_nil] at hm'
    rw [hm']
    exact hclear
  · exact IsClearWriting.read

/-- A writing begins with neither a blank nor a hyphen, whatever follows it. -/
theorem IsWriting.head_append {c : Condition} {m : Text} (h : c.IsWriting m) (t : Text) :
    ∀ b ∈ (m ++ t).head?, Text.isBlank b = false ∧ b ≠ '-' := by
  cases c with
  | comparison c =>
    obtain ⟨hl, hknown, w, -, hgap, rfl⟩ := h
    rcases hsign : c.sign with - | sign
    · rw [hgap hsign]
      exact hl.head_append t
    · have hsigns : (Operator.signs.map Prod.fst).all
          (fun s => s.head?.any fun b => !Text.isBlank b && b != '-') = true := by decide
      obtain ⟨d, hd, hclear⟩ :=
        (Option.any_eq_true _ _).mp (List.all_eq_true.mp hsigns sign (hknown sign hsign))
      obtain ⟨r, rfl⟩ := List.head?_eq_some_iff.mp hd
      intro b hb
      obtain rfl : d = b := by simpa using hb
      simpa using hclear
  | dashRange d =>
    obtain ⟨hl, -, w₁, w₂, -, -, rfl⟩ := h
    rw [List.append_assoc, List.append_assoc]
    exact hl.head_append _

theorem IsWriting.ne_nil {c : Condition} {m : Text} (h : c.IsWriting m) : m ≠ [] := by
  rintro rfl
  cases c with
  | comparison c =>
    obtain ⟨hl, -, w, -, -, hm⟩ := h
    simp [hl.text_ne_nil] at hm
  | dashRange d =>
    obtain ⟨-, -, w₁, w₂, -, -, hm⟩ := h
    simp at hm

end Condition

end SemverRange
