/-
SemverRange/Proofs/Blanks.lean

Blanks at the ends of a text.

`Text.trim` takes characters off both ends and nothing else: what is left stands
between two runs of them (`trim_decomposition`), and it is the same for every
text with the same middle (`trim_append_left`, `trim_append_right`).
`Text.skipBlanks` does so at the front only, where blanks appended at the other
end matter just in case nothing stands before them (`skipBlanks_append_right`).
-/
import Mathlib.Data.List.DropRight
import SemverRange.Text.Blank

namespace SemverRange.Text

/-! ### Trimming -/

section Trim

variable {p : Char → Bool}

theorem trim_eq_rdropWhile (s : Text) : trim p s = (s.dropWhile p).rdropWhile p := rfl

theorem dropWhile_eq_self {s : Text} (hs : ∀ c ∈ s.head?, p c = false) : s.dropWhile p = s := by
  cases s with
  | nil => rfl
  | cons c s => rw [List.dropWhile_cons_of_neg]; simp [hs c (by simp)]

theorem trim_eq_self {s : Text} (hs : ∀ c ∈ s, p c = false) : trim p s = s := by
  rw [trim_eq_rdropWhile, dropWhile_eq_self, List.rdropWhile_eq_self_iff]
  · intro hne
    simp [hs _ (List.getLast_mem hne)]
  · intro c hc
    exact hs c (List.mem_of_mem_head? hc)

theorem trim_append_left {u : Text} (hu : ∀ c ∈ u, p c = true) (s : Text) :
    trim p (u ++ s) = trim p s := by
  rw [trim_eq_rdropWhile, trim_eq_rdropWhile, List.dropWhile_append_of_pos hu]

theorem rdropWhile_append {w : Text} (hw : ∀ c ∈ w, p c = true) (s : Text) :
    (s ++ w).rdropWhile p = s.rdropWhile p := by
  rw [List.rdropWhile, List.reverse_append, List.dropWhile_append_of_pos (by simpa using hw)]
  rfl

theorem trim_append_right {w : Text} (hw : ∀ c ∈ w, p c = true) (s : Text) :
    trim p (s ++ w) = trim p s := by
  rw [trim_eq_rdropWhile, trim_eq_rdropWhile, List.dropWhile_append]
  split
  · -- all of `s` goes, and then all of `w`
    rename_i hs
    rw [List.isEmpty_iff.mp hs, List.dropWhile_eq_nil_iff.mpr hw]
  · rw [rdropWhile_append hw]

/-- A text is its middle between two runs of the characters that go. -/
theorem trim_decomposition (p : Char → Bool) (s : Text) :
    ∃ u w, s = u ++ trim p s ++ w ∧ (∀ c ∈ u, p c = true) ∧ (∀ c ∈ w, p c = true) := by
  refine ⟨s.takeWhile p, (s.dropWhile p).rtakeWhile p, ?_, ?_, ?_⟩
  · rw [trim_eq_rdropWhile, List.append_assoc, List.rdropWhile_append_rtakeWhile,
      List.takeWhile_append_dropWhile]
  · intro c hc
    exact List.mem_takeWhile_imp hc
  · intro c hc
    exact List.mem_rtakeWhile_imp hc

end Trim

/-! ### Blanks -/

/-- Whether a text holds nothing but blanks. -/
def AllBlank (s : Text) : Prop :=
  ∀ c ∈ s, isBlank c = true

instance (s : Text) : Decidable (AllBlank s) :=
  decidable_of_iff (s.all isBlank = true) List.all_eq_true

theorem allBlank_nil : AllBlank [] := by simp [AllBlank]

theorem allBlank_space : AllBlank [' '] := by
  simp [AllBlank, (by decide : isBlank ' ' = true)]

theorem allBlank_cons {c : Char} {s : Text} :
    AllBlank (c :: s) ↔ isBlank c = true ∧ AllBlank s := by
  simp [AllBlank]

/-- Whether a text begins with a blank, if with anything. -/
def StartsBlank (s : Text) : Prop :=
  ∀ c ∈ s.head?, isBlank c = true

theorem AllBlank.startsBlank {w : Text} (hw : AllBlank w) : StartsBlank w := fun c hc =>
  hw c (List.mem_of_mem_head? hc)

theorem StartsBlank.ne_cons {t : Text} (ht : StartsBlank t) {c : Char} (hc : isBlank c = false)
    (s : Text) : t ≠ c :: s := by
  rintro rfl
  simp [ht c rfl] at hc

/-- If a blank comes before what begins with none, it comes before anything. -/
theorem StartsBlank.of_append {u s : Text} (hs : s ≠ [])
    (hhead : ∀ b ∈ s.head?, isBlank b = false) (h : StartsBlank (u ++ s)) (t : Text) :
    StartsBlank (u ++ t) := by
  cases u with
  | nil =>
    obtain ⟨b, s, rfl⟩ := List.exists_cons_of_ne_nil hs
    have hb := hhead b rfl
    rw [h b rfl] at hb
    cases hb
  | cons c u => exact h

theorem strip_append_left {u : Text} (hu : AllBlank u) (s : Text) : strip (u ++ s) = strip s :=
  trim_append_left hu s

theorem strip_append_right {w : Text} (hw : AllBlank w) (s : Text) : strip (s ++ w) = strip s :=
  trim_append_right hw s

theorem strip_decomposition (s : Text) :
    ∃ u w, s = u ++ strip s ++ w ∧ AllBlank u ∧ AllBlank w :=
  trim_decomposition isBlank s

/-- A text with no blank at its ends is all that is left. -/
theorem strip_eq_self {s : Text} (hhead : ∀ c ∈ s.head?, isBlank c = false)
    (hlast : ∀ c ∈ s.getLast?, isBlank c = false) : strip s = s := by
  rw [strip, trim_eq_rdropWhile, dropWhile_eq_self hhead, List.rdropWhile_eq_self_iff]
  intro hne
  simp [hlast _ (List.getLast?_eq_some_getLast hne)]

theorem isInfix_strip (s : Text) : strip s <:+: s := by
  obtain ⟨u, w, hs, -, -⟩ := strip_decomposition s
  exact ⟨u, w, hs.symm⟩

theorem skipBlanks_eq_self {s : Text} (hs : ∀ c ∈ s.head?, isBlank c = false) :
    skipBlanks s = s :=
  dropWhile_eq_self hs

theorem skipBlanks_append_left {u : Text} (hu : AllBlank u) (s : Text) :
    skipBlanks (u ++ s) = skipBlanks s :=
  List.dropWhile_append_of_pos hu

theorem skipBlanks_eq_nil {w : Text} (hw : AllBlank w) : skipBlanks w = [] :=
  List.dropWhile_eq_nil_iff.mpr hw

/-- What a text ends with is reached only if all that stands before it goes. -/
theorem skipBlanks_append (s t : Text) :
    skipBlanks (s ++ t) = if skipBlanks s = [] then skipBlanks t else skipBlanks s ++ t := by
  unfold skipBlanks
  rw [List.dropWhile_append]
  simp only [List.isEmpty_iff]

/-- Blanks at the end stay, unless all that stands before them goes. -/
theorem skipBlanks_append_right {w : Text} (hw : AllBlank w) (s : Text) :
    skipBlanks (s ++ w) = if skipBlanks s = [] then [] else skipBlanks s ++ w := by
  rw [skipBlanks_append, skipBlanks_eq_nil hw]

/-- A text is some blanks and what is left when they are skipped. -/
theorem skipBlanks_decomposition (s : Text) : ∃ u, AllBlank u ∧ s = u ++ skipBlanks s :=
  ⟨s.takeWhile isBlank, fun _ hc => List.mem_takeWhile_imp hc,
    List.takeWhile_append_dropWhile.symm⟩

theorem isBlank_head?_skipBlanks (s : Text) : ∀ c ∈ (skipBlanks s).head?, isBlank c = false := by
  intro c hc
  have hstop := List.head?_dropWhile_not isBlank s
  rwa [show (s.dropWhile isBlank).head? = some c from hc] at hstop

/-! ### Pieces of a text that blanks do not reach -/

/-- A piece with no blank at its ends stands in the middle of a text if it stands
in the text at all. -/
theorem infix_strip_iff {m : Text} (hne : m ≠ [])
    (hhead : ∀ c ∈ m.head?, isBlank c = false) (hlast : ∀ c ∈ m.getLast?, isBlank c = false)
    {s : Text} : m <:+: strip s ↔ m <:+: s := by
  obtain ⟨u, w, hs, hu, hw⟩ := strip_decomposition s
  constructor
  · intro hm
    rw [hs]
    exact List.infix_append_of_infix_left (List.infix_append_of_infix_right hm)
  · intro hm
    -- neither end of `m` lies in one of the two runs of blanks
    have hfirst : ∀ l₁ l₂, m = l₁ ++ l₂ → l₁ ≠ [] → ∃ c ∈ l₁, isBlank c = false := by
      rintro l₁ l₂ rfl hl₁
      obtain ⟨c, l, rfl⟩ := List.exists_cons_of_ne_nil hl₁
      exact ⟨c, by simp, hhead c (by simp)⟩
    have hend : ∀ l₁ l₂, m = l₁ ++ l₂ → l₂ ≠ [] → ∃ c ∈ l₂, isBlank c = false := by
      rintro l₁ l₂ rfl hl₂
      refine ⟨l₂.getLast hl₂, List.getLast_mem hl₂, hlast _ ?_⟩
      rw [List.getLast?_append_of_ne_nil l₁ hl₂, List.getLast?_eq_getLast_of_ne_nil hl₂]
      rfl
    have hblank : ∀ {l v : Text}, AllBlank v → l ⊆ v → ¬ ∃ c ∈ l, isBlank c = false := by
      rintro l v hv hl ⟨c, hc, hfalse⟩
      simp [hv c (hl hc)] at hfalse
    rw [hs, List.infix_append_iff_ne_nil] at hm
    rcases hm with hm | hm | ⟨l₁, l₂, -, hl₂, hm, -, hsub⟩
    · rw [List.infix_append_iff_ne_nil] at hm
      rcases hm with hm | hm | ⟨l₁, l₂, hl₁, -, hm, hsub, -⟩
      · exact absurd (hfirst m [] (by simp) hne) (hblank hu hm.subset)
      · exact hm
      · exact absurd (hfirst l₁ l₂ hm hl₁) (hblank hu hsub.subset)
    · exact absurd (hfirst m [] (by simp) hne) (hblank hw hm.subset)
    · exact absurd (hend l₁ l₂ hm hl₂) (hblank hw hsub.subset)

end SemverRange.Text
