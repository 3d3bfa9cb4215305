/-
SemverRange/Proofs/SpacedDash.lean

Where a literal is found written with a spaced dash.

The search for a spaced dash finds what it looks for and nothing else: a literal
has one in a text just in case one of its spaced writings stands in the text
(`Literal.hasSpacedDash_iff`).  A spaced writing holds a blank, but none at its
ends, and no bar.  So a text without blanks turns no comparison into a dash range
(`Comparison.dashRange?_of_no_blank`), blanks around a text make no difference
(`Comparison.dashRange?_strip`), and two texts with a bar between them turn what
either of them turns (`Comparison.dashRange?_append_bar`).
-/
import SemverRange.Condition.SpacedDash
import SemverRange.Proofs.Writings

namespace SemverRange

/-! ### The search -/

theorem isPrefixOf?_eq_some_iff {p s t : Text} :
    p.isPrefixOf? s = some t ↔ s = p ++ t := by
  induction p generalizing s with
  | nil => simp [eq_comm]
  | cons c p ih =>
    cases s with
    | nil => simp [List.isPrefixOf?]
    | cons d s =>
      rw [List.isPrefixOf?]
      split
      · rename_i hcd
        rw [ih, eq_of_beq hcd]
        simp
      · rename_i hcd
        have hne : d ≠ c := fun h => hcd (by simp [h])
        simp [hne]

theorem beginsAfterBlanks_iff {piece s : Text} :
    beginsAfterBlanks piece s = true ↔
      ∃ w rest, Text.AllBlank w ∧ s = w ++ piece ++ rest := by
  induction s with
  | nil =>
    rw [beginsAfterBlanks, List.isEmpty_iff]
    constructor
    · rintro rfl
      exact ⟨[], [], Text.allBlank_nil, rfl⟩
    · rintro ⟨w, rest, -, h⟩
      simp_all
  | cons c s ih =>
    -- the piece begins here, or this is one more blank in front of it
    rw [beginsAfterBlanks, Bool.or_eq_true, Bool.and_eq_true, ih, List.isPrefixOf_iff_prefix]
    constructor
    · rintro (⟨rest, hrest⟩ | ⟨hc, w, rest, hw, rfl⟩)
      · exact ⟨[], rest, Text.allBlank_nil, hrest.symm⟩
      · exact ⟨c :: w, rest, Text.allBlank_cons.mpr ⟨hc, hw⟩, rfl⟩
    · rintro ⟨w, rest, hw, h⟩
      cases w with
      | nil => exact .inl ⟨rest, h.symm⟩
      | cons d w =>
        rw [List.cons_append, List.cons_append, List.cons.injEq] at h
        obtain ⟨rfl, rfl⟩ := h
        obtain ⟨hc, hw⟩ := Text.allBlank_cons.mp hw
        exact .inr ⟨hc, w, rest, hw, rfl⟩

theorem isBlank_hyphen : Text.isBlank '-' = false := by decide

/-- The blanks may stand on either side of the hyphen; there is at least one. -/
theorem beginsAfterSpacedDash_iff {piece s : Text} :
    beginsAfterSpacedDash piece s = true ↔
      ∃ w₁ w₂ rest, Text.AllBlank w₁ ∧ Text.AllBlank w₂ ∧ (w₁ ≠ [] ∨ w₂ ≠ []) ∧
        s = w₁ ++ '-' :: (w₂ ++ piece ++ rest) := by
  unfold beginsAfterSpacedDash
  split
  · -- the hyphen comes first, so the blanks have to come behind it
    rename_i t
    constructor
    · intro h
      cases t with
      | nil => cases h
      | cons b t =>
        simp only [List.head?_cons, Option.any_some, List.drop_one, List.tail_cons,
          Bool.and_eq_true] at h
        obtain ⟨w, rest, hw, rfl⟩ := beginsAfterBlanks_iff.mp h.2
        exact ⟨[], b :: w, rest, Text.allBlank_nil, Text.allBlank_cons.mpr ⟨h.1, hw⟩,
          .inr (by simp), rfl⟩
    · rintro ⟨w₁, w₂, rest, hw₁, hw₂, hne, h⟩
      cases w₁ with
      | nil =>
        obtain ⟨b, w, rfl⟩ := List.exists_cons_of_ne_nil (hne.resolve_left (by simp))
        obtain ⟨hb, hw⟩ := Text.allBlank_cons.mp hw₂
        obtain rfl : t = b :: (w ++ piece ++ rest) := by simpa using h
        simpa [hb] using beginsAfterBlanks_iff.mpr ⟨w, rest, hw, by simp⟩
      | cons b w =>
        obtain ⟨rfl, -⟩ := List.cons.inj h
        simpa [isBlank_hyphen] using (Text.allBlank_cons.mp hw₁).1
  · -- something else comes first, and that can only be a blank
    rename_i hfirst
    obtain ⟨u, hu, hs⟩ := Text.skipBlanks_decomposition s
    constructor
    · intro h
      split at h
      · rename_i t ht
        obtain ⟨w, rest, hw, rfl⟩ := beginsAfterBlanks_iff.mp h
        rw [ht] at hs
        refine ⟨u, w, rest, hu, hw, .inl ?_, hs⟩
        rintro rfl
        exact hfirst _ hs
      · cases h
    · rintro ⟨w₁, w₂, rest, hw₁, hw₂, -, rfl⟩
      rw [Text.skipBlanks_append_left hw₁, Text.skipBlanks_eq_self (by simp [isBlank_hyphen])]
      exact beginsAfterBlanks_iff.mpr ⟨w₂, rest, hw₂, rfl⟩

namespace Literal

/-- A text that writes the three fields, a hyphen with blanks on at least one
side, and the pre-release. -/
def IsSpacedWriting (l : Literal) (m : Text) : Prop :=
  ∃ w₁ w₂, Text.AllBlank w₁ ∧ Text.AllBlank w₂ ∧ (w₁ ≠ [] ∨ w₂ ≠ []) ∧
    m = l.tripleText ++ w₁ ++ '-' :: w₂ ++ Text.dotted l.preRelease

theorem beginsSpaced_iff {l : Literal} {s : Text} :
    l.beginsSpaced s = true ↔ ∃ m, l.IsSpacedWriting m ∧ m <+: s := by
  rw [beginsSpaced, Option.any_eq_true]
  constructor
  · rintro ⟨t, ht, h⟩
    obtain ⟨w₁, w₂, rest, hw₁, hw₂, hne, rfl⟩ := beginsAfterSpacedDash_iff.mp h
    refine ⟨_, ⟨w₁, w₂, hw₁, hw₂, hne, rfl⟩, rest, ?_⟩
    rw [isPrefixOf?_eq_some_iff.mp ht]
    simp
  · rintro ⟨m, ⟨w₁, w₂, hw₁, hw₂, hne, rfl⟩, rest, rfl⟩
    refine ⟨w₁ ++ '-' :: (w₂ ++ Text.dotted l.preRelease ++ rest), ?_, ?_⟩
    · rw [isPrefixOf?_eq_some_iff]
      simp
    · exact beginsAfterSpacedDash_iff.mpr ⟨w₁, w₂, rest, hw₁, hw₂, hne, rfl⟩

/-- **The search is complete and sound**: it succeeds just in case a spaced writing
of the literal stands somewhere in the text. -/
theorem hasSpacedDash_iff {l : Literal} {s : Text} :
    l.hasSpacedDash s = true ↔ ∃ m, l.IsSpacedWriting m ∧ m <:+: s := by
  induction s with
  | nil =>
    constructor
    · intro h
      cases h
    · rintro ⟨m, ⟨w₁, w₂, -, -, -, rfl⟩, hm⟩
      simp at hm
  | cons c s ih =>
    rw [hasSpacedDash, Bool.or_eq_true, beginsSpaced_iff, ih, ← exists_or]
    apply exists_congr
    intro m
    rw [List.infix_cons_iff, and_or_left]

end Literal

/-! ### Spaced writings -/

theorem infix_append_bar_iff {m : Text} {b : Char} (hb : b ∉ m) {x y : Text} :
    m <:+: x ++ b :: y ↔ m <:+: x ∨ m <:+: y := by
  constructor
  · intro hm
    have hstart : ∀ {l : Text}, b ∉ l → l <+: b :: y → l = [] := by
      intro l hl hpre
      cases l with
      | nil => rfl
      | cons c l =>
        obtain ⟨rest, hrest⟩ := hpre
        exact absurd (List.cons.inj hrest).1 (fun h => hl (by simp [h]))
    rw [List.infix_append_iff_ne_nil] at hm
    rcases hm with hm | hm | ⟨l₁, l₂, -, hl₂, rfl, -, hpre⟩
    · exact .inl hm
    · rcases List.infix_cons_iff.mp hm with hpre | hm
      · left
        rw [hstart hb hpre]
        exact List.nil_infix
      · exact .inr hm
    · exact absurd (hstart (fun hmem => hb (by simp [hmem])) hpre) hl₂
  · rintro (hm | hm)
    · exact List.infix_append_of_infix_left hm
    · exact List.infix_append_of_infix_right (List.infix_cons hm)

/-- What stands in front and shares no character with a piece does not reach it. -/
theorem infix_append_of_notMem {m x y : Text} (hne : m ≠ []) (hx : ∀ b ∈ x, b ∉ m) :
    m <:+: x ++ y ↔ m <:+: y := by
  induction x with
  | nil => rfl
  | cons b x ih =>
    have hb : m <:+: [] ++ b :: (x ++ y) ↔ m <:+: [] ∨ m <:+: x ++ y :=
      infix_append_bar_iff (hx b (by simp))
    rw [List.cons_append, ← ih fun b' hb' => hx b' (by simp [hb'])]
    simpa [hne] using hb

namespace Literal

variable {l : Literal} {m : Text}

theorem IsSpacedWriting.exists_blank (hm : l.IsSpacedWriting m) :
    ∃ c ∈ m, Text.isBlank c = true := by
  obtain ⟨w₁, w₂, hw₁, hw₂, hne, rfl⟩ := hm
  rcases hne with hne | hne
  · obtain ⟨c, w, rfl⟩ := List.exists_cons_of_ne_nil hne
    exact ⟨c, by simp, hw₁ c (by simp)⟩
  · obtain ⟨c, w, rfl⟩ := List.exists_cons_of_ne_nil hne
    exact ⟨c, by simp, hw₂ c (by simp)⟩

/-- With a pre-release no field is missing. -/
theorem IsWellFormed.tripleText_eq_fieldsText (hl : l.IsWellFormed) (hpre : l.preRelease ≠ []) :
    l.tripleText = l.fieldsText := by
  obtain ⟨a, b, c, hmajor, hminor, hpatch⟩ := hl.exists_fields hpre
  simp [tripleText, fieldsText, hmajor, hminor, hpatch]

/-- But for the build metadata, a spaced writing is one of the literal. -/
theorem IsSpacedWriting.isWriting (hm : l.IsSpacedWriting m) (hl : l.IsWellFormed)
    (hpre : l.preRelease ≠ []) : IsWriting { l with build := [] } m := by
  obtain ⟨w₁, w₂, hw₁, hw₂, -, rfl⟩ := hm
  refine ⟨[], by simp, w₁ ++ '-' :: w₂ ++ Text.dotted l.preRelease, [],
    .inr ⟨hpre, w₁, w₂, hw₁, hw₂, rfl⟩, .inl ⟨rfl, rfl⟩, ?_⟩
  rw [hl.tripleText_eq_fieldsText hpre]
  simp [fieldsText]

theorem IsSpacedWriting.notMem (hm : l.IsSpacedWriting m) (hl : l.IsWellFormed)
    (hpre : l.preRelease ≠ []) {c : Char} (hc : isForeign c = true) : c ∉ m :=
  (hm.isWriting hl hpre).notMem hc hl.withoutBuild

/-- A spaced writing has no blank at its ends. -/
theorem IsSpacedWriting.infix_strip_iff (hm : l.IsSpacedWriting m) (hl : l.IsWellFormed)
    (hpre : l.preRelease ≠ []) {s : Text} : m <:+: Text.strip s ↔ m <:+: s := by
  have hread := read?_of_isWriting hl.withoutBuild (hm.isWriting hl hpre)
  obtain ⟨w₁, w₂, -, -, -, rfl⟩ := hm
  apply Text.infix_strip_iff
  · simp
  · exact fun c hc => (head_of_read? hread c hc).1
  · intro c hc
    rw [List.getLast?_append_of_ne_nil _ (dotted_ne_nil hpre hl.preRelease)] at hc
    exact isBlank_eq_false_of_mem_dotted (fun i hi => (hl.preRelease i hi).isBlank_eq_false) c
      (List.mem_of_getLast? hc)

theorem hasSpacedDash_strip_iff (hl : l.IsWellFormed) (hpre : l.preRelease ≠ []) {s : Text} :
    l.hasSpacedDash (Text.strip s) = true ↔ l.hasSpacedDash s = true := by
  rw [hasSpacedDash_iff, hasSpacedDash_iff]
  apply exists_congr
  intro m
  apply and_congr_right
  intro hm
  exact hm.infix_strip_iff hl hpre

theorem hasSpacedDash_append_bar_iff (hl : l.IsWellFormed) (hpre : l.preRelease ≠ [])
    {s t : Text} :
    l.hasSpacedDash (s ++ '|' :: t) = true ↔
      l.hasSpacedDash s = true ∨ l.hasSpacedDash t = true := by
  rw [hasSpacedDash_iff, hasSpacedDash_iff, hasSpacedDash_iff, ← exists_or]
  apply exists_congr
  intro m
  rw [← and_or_left]
  apply and_congr_right
  intro hm
  exact infix_append_bar_iff (hm.notMem hl hpre (by decide))

end Literal

/-! ### Comparisons that are dash ranges -/

namespace Comparison

variable {c : Comparison}

/-- Whether a comparison is a dash range depends on the text only by way of the
spaced writings in it. -/
theorem dashRange?_eq_ite (s : Text) :
    c.dashRange? s =
      if c.version.preRelease ≠ [] ∧ c.version.hasSpacedDash s = true then
        (if c.version.build.isEmpty then
          (Literal.ofText? (Text.dotted c.version.preRelease)).map fun upper =>
            { lower := c.version.withoutPreRelease, upper }
        else none)
      else none := by
  rw [dashRange?, Literal.preReleaseText?]
  rcases hpre : c.version.preRelease with - | ⟨i, is⟩
  · simp
  · by_cases hs : c.version.hasSpacedDash s <;> by_cases hbuild : c.version.build.isEmpty <;>
      rcases hupper : Literal.ofText? (Text.dotted (i :: is)) with - | upper <;>
      simp [hs, hbuild, hupper]

theorem dashRange?_eq_some {s : Text} {d : DashRange} (h : c.dashRange? s = some d) :
    c.version.build = [] ∧ c.version.hasSpacedDash s = true ∧
      d.lower = c.version.withoutPreRelease ∧
      Literal.ofText? (Text.dotted c.version.preRelease) = some d.upper := by
  rw [dashRange?_eq_ite] at h
  split at h
  · rename_i hdash
    split at h
    · rename_i hbuild
      obtain ⟨upper, hupper, rfl⟩ := Option.map_eq_some_iff.mp h
      exact ⟨by simpa using hbuild, hdash.2, rfl, hupper⟩
    · cases h
  · cases h

theorem dashRange?_of_no_blank {s : Text} (hs : ∀ b ∈ s, Text.isBlank b = false) :
    c.dashRange? s = none := by
  rw [dashRange?_eq_ite, if_neg]
  rintro ⟨-, hdash⟩
  obtain ⟨m, hm, hstands⟩ := Literal.hasSpacedDash_iff.mp hdash
  obtain ⟨b, hb, hblank⟩ := hm.exists_blank
  rw [hs b (hstands.subset hb)] at hblank
  cases hblank

theorem dashRange?_strip (hc : c.version.IsWellFormed) (s : Text) :
    c.dashRange? (Text.strip s) = c.dashRange? s := by
  have h : (c.version.preRelease ≠ [] ∧ c.version.hasSpacedDash (Text.strip s) = true) ↔
      (c.version.preRelease ≠ [] ∧ c.version.hasSpacedDash s = true) := by
    apply and_congr_right
    intro hpre
    exact Literal.hasSpacedDash_strip_iff hc hpre
  simp only [dashRange?_eq_ite, h]

/-- With a bar between them, two texts make a dash range of what one of them does. -/
theorem dashRange?_append_bar (hc : c.version.IsWellFormed) (s t : Text) :
    c.dashRange? (s ++ '|' :: t) = (c.dashRange? s).or (c.dashRange? t) := by
  by_cases hpre : c.version.preRelease = []
  · simp [dashRange?_eq_ite, hpre]
  · simp only [dashRange?_eq_ite, Literal.hasSpacedDash_append_bar_iff hc hpre]
    by_cases hs : c.version.hasSpacedDash s = true <;>
      by_cases ht : c.version.hasSpacedDash t = true <;> simp [hpre, hs, ht]

/-- Two texts that make a dash range of a comparison make the same of it. -/
theorem dashRange?_or_comm (s t : Text) :
    (c.dashRange? s).or (c.dashRange? t) = (c.dashRange? t).or (c.dashRange? s) := by
  simp only [dashRange?_eq_ite]
  by_cases hs : c.version.preRelease ≠ [] ∧ c.version.hasSpacedDash s = true
  · by_cases ht : c.version.preRelease ≠ [] ∧ c.version.hasSpacedDash t = true
    · rw [if_pos hs, if_pos ht]
    · rw [if_pos hs, if_neg ht, Option.or_none, Option.none_or]
  · rw [if_neg hs, Option.none_or, Option.or_none]

end Comparison

end SemverRange
