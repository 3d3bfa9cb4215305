/-
SemverRange/Proofs/SpacedSearch.lean

What the search for a spaced dash decides.

The search knows nothing of conditions, so all there is to say about it is said of texts:
it succeeds just in case the text can be cut into something, the parts of the literal with
blanks on at least one side of the hyphen, and something else
(`Literal.hasSpacedDash_iff_exists_append`).

A literal that was read keeps the piece it was read from, and in such a piece no blanks
stand but those around the hyphen (`Literal.IsWriting.exists_isSpacedWriting`).  So where a
comparison has a blank in its literal, the search succeeds in the whole requirement,
whatever else stands there (`hasSpacedDash_decides`).
-/
import Mathlib
import SemverRange.Proofs.Pieces
import SemverRange.Proofs.SpacedDash

namespace SemverRange

open Text (AllBlank isBlank)

namespace Literal

variable {l : Literal} {m : Text}

/-! ### The search, in terms of texts -/

theorem tripleText_eq (l : Literal) :
    l.tripleText = l.major.getD [] ++ '.' :: l.minor.getD [] ++ '.' :: l.patch.getD [] := by
  simp [tripleText, Text.dotted_cons]

/-- The search looks for a way to cut the text at a spaced writing. -/
theorem hasSpacedDash_iff_exists_append {raw : Text} :
    l.hasSpacedDash raw = true ↔
      ∃ p w₁ w₂ s, AllBlank w₁ ∧ AllBlank w₂ ∧ (w₁ ≠ [] ∨ w₂ ≠ []) ∧
        raw = p ++ l.tripleText ++ w₁ ++ '-' :: w₂ ++ Text.dotted l.preRelease ++ s := by
  rw [hasSpacedDash_iff]
  constructor
  · rintro ⟨-, ⟨w₁, w₂, hw₁, hw₂, hne, rfl⟩, p, s, rfl⟩
    exact ⟨p, w₁, w₂, s, hw₁, hw₂, hne, by simp⟩
  · rintro ⟨p, w₁, w₂, s, hw₁, hw₂, hne, rfl⟩
    exact ⟨_, ⟨w₁, w₂, hw₁, hw₂, hne, rfl⟩, p, s, by simp⟩

/-! ### Blanks in a literal -/

theorem IsBuildTag.isBlank_eq_false {is : List Identifier} {t : Text} (ht : IsBuildTag is t)
    (his : ∀ i ∈ is, IsIdent i) : ∀ c ∈ t, isBlank c = false := by
  rcases ht with ⟨-, rfl⟩ | ⟨-, rfl⟩
  · simp
  · intro c hc
    rcases List.mem_cons.mp hc with rfl | hc
    · decide
    · exact isBlank_eq_false_of_mem_dotted (fun i hi => (his i hi).isBlank_eq_false) c hc

/-- **The blanks of a literal are those around its hyphen.**  So a writing with a blank is a
spaced writing, but for the letter in front and the build metadata behind. -/
theorem IsWriting.exists_isSpacedWriting (hm : l.IsWriting m) (hl : l.IsWellFormed) {b : Char}
    (hb : b ∈ m) (hblank : isBlank b = true) :
    ∃ letter n build, letter ∈ [[], ['v'], ['V']] ∧ l.IsSpacedWriting n ∧
      IsBuildTag l.build build ∧ m = letter ++ n ++ build := by
  obtain ⟨letter, hletter, pre, build, hpre, hbuild, rfl⟩ := hm
  have hnone : ∀ {t : Text}, (∀ c ∈ t, isBlank c = false) → b ∉ t := by
    intro t ht hmem
    rw [ht b hmem] at hblank
    cases hblank
  have hletter' : b ∉ letter := hnone (isBlank_eq_false_of_mem_letter hletter)
  have hfields : b ∉ l.fieldsText := hnone hl.isBlank_eq_false_of_mem_fieldsText
  have hbuild' : b ∉ build := hnone (hbuild.isBlank_eq_false hl.build)
  have hb' : b ∈ pre := by simpa [hletter', hfields, hbuild'] using hb
  rcases hpre with ⟨-, rfl⟩ | ⟨hne, w₁, w₂, hw₁, hw₂, rfl⟩
  · cases hb'
  · have hspaced : w₁ ≠ [] ∨ w₂ ≠ [] := by
      by_contra hnil
      obtain ⟨rfl, rfl⟩ : w₁ = [] ∧ w₂ = [] := by simpa [not_or] using hnil
      -- what is left is a hyphen and identifiers
      have hidents : b ∉ Text.dotted l.preRelease := hnone <|
        isBlank_eq_false_of_mem_dotted fun i hi => (hl.preRelease i hi).isBlank_eq_false
      obtain rfl : b = '-' := by simpa [hidents] using hb'
      rw [isBlank_hyphen] at hblank
      cases hblank
    refine ⟨letter, _, build, hletter, ⟨w₁, w₂, hw₁, hw₂, hspaced, rfl⟩, hbuild, ?_⟩
    rw [hl.tripleText_eq_fieldsText hne]
    simp

end Literal

/-! ### Literals of a requirement -/

/-- The literal of a comparison is a piece of the requirement, and keeps it. -/
theorem isWritten_of_parse {s : Text} {gs : List Group} (h : parse s = .ok gs) {g : Group}
    (hg : g ∈ gs) {c : Comparison} (hc : .comparison c ∈ g) :
    c.version.IsWritten ∧ c.version.text <:+: s := by
  obtain ⟨t, rest, ht, hread⟩ := exists_read_of_parse h g hg _ hc
  obtain ⟨m, rfl, hl, -, w, -, -, rfl⟩ := Condition.read_eq_ok hread
  refine ⟨hl, ?_⟩
  have hm : c.version.text <:+: (c.sign.getD [] ++ w ++ c.version.text) ++ rest :=
    (List.suffix_append _ _).isInfix.trans (List.prefix_append _ _).isInfix
  exact hm.trans ht

/-- **What the search for a spaced dash decides.**  For any literal, and be it one that no
text reads as, the search succeeds in a text just in case the text is something, then the
three fields with dots between them, a missing one as empty text, blanks, a hyphen, blanks,
the identifiers of the pre-release with dots between them, and something else, where there
are blanks on at least one side of the hyphen.

Nothing that was written so is missed.  If the text of a requirement parses and a blank
stands in the literal of one of its comparisons, then that blank is beside the hyphen of the
pre-release, and the search succeeds in the requirement without the blanks around it,
whatever stands before and behind the comparison. -/
theorem hasSpacedDash_decides :
    (∀ (l : Literal) (raw : Text),
      l.hasSpacedDash raw = true ↔
        ∃ p w₁ w₂ s, AllBlank w₁ ∧ AllBlank w₂ ∧ (w₁ ≠ [] ∨ w₂ ≠ []) ∧
          raw = p ++ (l.major.getD [] ++ '.' :: l.minor.getD [] ++ '.' :: l.patch.getD [])
            ++ w₁ ++ '-' :: w₂ ++ Text.dotted l.preRelease ++ s) ∧
    ∀ (requirement : Text) (gs : List Group), parse requirement = .ok gs →
      ∀ g ∈ gs, ∀ c : Comparison, .comparison c ∈ g →
        (∃ b ∈ c.version.text, isBlank b = true) →
          (∃ letter m build, letter ∈ [[], ['v'], ['V']] ∧ c.version.IsSpacedWriting m ∧
            Literal.IsBuildTag c.version.build build ∧
            c.version.text = letter ++ m ++ build) ∧
          c.version.hasSpacedDash (Text.strip requirement) = true := by
  refine ⟨fun l raw => ?_, fun requirement gs h g hg c hc ⟨b, hb, hblank⟩ => ?_⟩
  · rw [← l.tripleText_eq]
    exact Literal.hasSpacedDash_iff_exists_append
  · -- the blanks around the requirement are in none of its literals
    obtain ⟨hl, htext⟩ := isWritten_of_parse (parse_strip_eq_ok_iff.mpr h) hg hc
    obtain ⟨letter, m, build, hletter, hm, hbuild, heq⟩ :=
      hl.isWriting.exists_isSpacedWriting hl.isWellFormed hb hblank
    refine ⟨⟨letter, m, build, hletter, hm, hbuild, heq⟩, ?_⟩
    have hstands : m <:+: c.version.text := ⟨letter, build, heq.symm⟩
    exact Literal.hasSpacedDash_iff.mpr ⟨m, hm, hstands.trans htext⟩

/-- Between other comparisons, and with a letter in front and build metadata behind, a literal
is found by a tab at its hyphen. -/
theorem hasSpacedDash_amid_comparisons :
    ∃ (gs : List Group) (g : Group) (c : Comparison),
      parse "  <2 ^v1.2.3-\t1.2+b >=1.2 || 4 ".toList = .ok gs ∧ g ∈ gs ∧ .comparison c ∈ g ∧
      (∃ b ∈ c.version.text, isBlank b = true) ∧
      c.version.hasSpacedDash (Text.strip "  <2 ^v1.2.3-\t1.2+b >=1.2 || 4 ".toList) = true := by
  let c : Comparison :=
    { sign := some ['^'],
      version :=
        { major := some ['1'], minor := some ['2'], patch := some ['3'],
          preRelease := [['1'], ['2']], build := [['b']], text := "v1.2.3-\t1.2+b".toList } }
  let g : Group :=
    [.comparison { sign := some ['<'], version := { major := some ['2'], text := ['2'] } },
      .comparison c,
      .comparison
        { sign := some ['>', '='],
          version := { major := some ['1'], minor := some ['2'], text := "1.2".toList } }]
  let gs : List Group :=
    [g, [.comparison { sign := none, version := { major := some ['4'], text := ['4'] } }]]
  have h : parse "  <2 ^v1.2.3-\t1.2+b >=1.2 || 4 ".toList = .ok gs := by cbv
  have hblank : ∃ b ∈ c.version.text, isBlank b = true := ⟨'\t', by decide, by decide⟩
  obtain ⟨-, hfound⟩ :=
    hasSpacedDash_decides.2 _ gs h g (by simp [gs]) c (by simp [g]) hblank
  exact ⟨gs, g, c, h, by simp [gs], by simp [g], hblank, hfound⟩

end SemverRange
