/-
SemverRange/Proofs/VersionText.lean

What a text has to look like to be a version.

A version text is its parts put together (`Version.parts?_eq_some`): three runs
of digits with dots between them, and the tags, each behind its mark.  If no part
is at fault the tags are identifiers as literals have them
(`Version.Parts.IsWellFormed.isSound`), so versions from text are canonical
(`Version.isCanonical_of_ofText`) and precedence can tell them apart.
-/
import SemverRange.Proofs.LiteralBounds
import SemverRange.Version.Reader

namespace SemverRange.Version

/-! ### Pieces between dots -/

theorem mem_splitOn {s piece : Text} (hpiece : piece ∈ s.splitOn '.') :
    ∀ c ∈ piece, c ∈ s ∧ c ≠ '.' := by
  induction s generalizing piece with
  | nil =>
    rw [List.splitOn_nil, List.mem_singleton] at hpiece
    simp [hpiece]
  | cons d s ih =>
    rw [List.splitOn_cons_eq_if_modifyHead] at hpiece
    obtain ⟨q, qs, hq⟩ := List.exists_cons_of_ne_nil (List.splitOn_ne_nil '.' s)
    rw [hq] at hpiece ih
    intro c hc
    split at hpiece
    · -- a dot: the pieces are those of the rest, and an empty one
      rcases List.mem_cons.mp hpiece with rfl | hmem
      · cases hc
      · obtain ⟨hcs, hdot⟩ := ih hmem c hc
        exact ⟨List.mem_cons_of_mem d hcs, hdot⟩
    · rename_i hd
      rw [List.modifyHead_cons, List.mem_cons] at hpiece
      rcases hpiece with rfl | hmem
      · -- the first piece, which begins with this character
        rcases List.mem_cons.mp hc with rfl | hcq
        · exact ⟨by simp, by simpa using hd⟩
        · obtain ⟨hcs, hdot⟩ := ih (by simp) c hcq
          exact ⟨List.mem_cons_of_mem d hcs, hdot⟩
      · obtain ⟨hcs, hdot⟩ := ih (List.mem_cons_of_mem q hmem) c hc
        exact ⟨List.mem_cons_of_mem d hcs, hdot⟩

theorem isIdentChar_of_isTagChar {c : Char} (hc : isTagChar c = true) (hdot : c ≠ '.') :
    isIdentChar c = true := by
  simpa [isTagChar, isIdentChar, hdot] using hc

/-! ### Parts -/

/-- A tag behind its mark, or nothing. -/
def tagText (mark : Char) : Option Text → Text
  | none => []
  | some t => mark :: t

theorem readNumber?_eq_some {s ds rest : Text} (h : readNumber? s = some (ds, rest)) :
    s = ds ++ rest ∧ ds ≠ [] ∧ ∀ c ∈ ds, Text.isDigit c = true := by
  rw [readNumber?] at h
  split at h
  · cases h
  · rename_i hne
    simp only [Option.some.injEq, Prod.mk.injEq] at h
    obtain ⟨rfl, rfl⟩ := h
    refine ⟨List.takeWhile_append_dropWhile.symm, hne, ?_⟩
    exact fun c hc => List.mem_takeWhile_imp hc

theorem readDotNumber?_eq_some {s ds rest : Text} (h : readDotNumber? s = some (ds, rest)) :
    s = '.' :: ds ++ rest ∧ ds ≠ [] ∧ ∀ c ∈ ds, Text.isDigit c = true := by
  unfold readDotNumber? at h
  split at h
  · obtain ⟨rfl, hds⟩ := readNumber?_eq_some h
    exact ⟨rfl, hds⟩
  · cases h

theorem readTag_spec (mark : Char) (s : Text) :
    s = tagText mark (readTag mark s).1 ++ (readTag mark s).2
      ∧ ∀ t ∈ (readTag mark s).1, t ≠ [] ∧ ∀ c ∈ t, isTagChar c = true := by
  cases s with
  | nil => simp [readTag, tagText]
  | cons c s =>
    rw [readTag]
    split
    · rename_i t ts hmark htake
      have hc : c = mark := by simpa using hmark
      refine ⟨?_, ?_⟩
      · rw [tagText, hc, ← htake, List.cons_append, List.takeWhile_append_dropWhile]
      · intro t' ht'
        obtain rfl : t :: ts = t' := Option.some.inj ht'
        refine ⟨by simp, ?_⟩
        rw [← htake]
        exact fun c hc => List.mem_takeWhile_imp hc
    · simp [tagText]

/-- A version text, put together from its parts. -/
def Parts.text (p : Parts) : Text :=
  p.major ++ '.' :: (p.minor ++ '.' :: (p.patch
    ++ (tagText '-' p.preRelease ++ tagText '+' p.build)))

/-- Parts as a version text has them. -/
structure Parts.IsWellFormed (p : Parts) : Prop where
  major : p.major ≠ [] ∧ ∀ c ∈ p.major, Text.isDigit c = true
  minor : p.minor ≠ [] ∧ ∀ c ∈ p.minor, Text.isDigit c = true
  patch : p.patch ≠ [] ∧ ∀ c ∈ p.patch, Text.isDigit c = true
  preRelease : ∀ t ∈ p.preRelease, t ≠ [] ∧ ∀ c ∈ t, isTagChar c = true
  build : ∀ t ∈ p.build, t ≠ [] ∧ ∀ c ∈ t, isTagChar c = true

theorem parts?_eq_some {s : Text} {p : Parts} (h : parts? s = some p) :
    s = p.text ∧ p.IsWellFormed := by
  simp only [parts?, Option.bind_eq_bind, Option.bind_eq_some_iff] at h
  obtain ⟨⟨major, r₁⟩, hmajor, ⟨minor, r₂⟩, hminor, ⟨patch, r₃⟩, hpatch, h⟩ := h
  split at h
  · rename_i hend
    simp only [Option.some.injEq] at h
    obtain ⟨rfl, hmajor'⟩ := readNumber?_eq_some hmajor
    obtain ⟨rfl, hminor'⟩ := readDotNumber?_eq_some hminor
    obtain ⟨rfl, hpatch'⟩ := readDotNumber?_eq_some hpatch
    obtain ⟨hpre, hpre'⟩ := readTag_spec '-' r₃
    obtain ⟨hbuild, hbuild'⟩ := readTag_spec '+' (readTag '-' r₃).2
    rw [List.isEmpty_iff.mp hend, List.append_nil] at hbuild
    subst h
    refine ⟨?_, ⟨hmajor', hminor', hpatch', hpre', hbuild'⟩⟩
    rw [Parts.text, ← hbuild, ← hpre]
    simp
  · cases h

/-! ### Faults -/

theorem dotted_identifiers {t : Text} : Text.dotted (identifiers (some t)) = t :=
  List.intercalate_splitOn '.'

/-- Pieces of a tag that are not empty are identifiers. -/
theorem isIdent_of_mem_identifiers {tag : Option Text}
    (htag : ∀ t ∈ tag, ∀ c ∈ t, isTagChar c = true) {i : Identifier} (hi : i ∈ identifiers tag)
    (hne : i ≠ []) : IsIdent i := by
  cases tag with
  | none => cases hi
  | some t =>
    refine ⟨hne, fun c hc => ?_⟩
    obtain ⟨hct, hdot⟩ := mem_splitOn hi c hc
    exact isIdentChar_of_isTagChar (htag t rfl c hct) hdot

theorem ne_nil_of_buildFault?_eq_none {ids : List Identifier} (h : buildFault? ids = none) :
    ∀ i ∈ ids, i ≠ [] := by
  intro i hi
  have := List.findSome?_eq_none_iff.mp h i hi
  simpa using this

/-- What parts without a fault have beyond their shape. -/
structure Parts.IsSound (p : Parts) : Prop extends p.IsWellFormed where
  faultless : preReleaseFault? (identifiers p.preRelease) = none
  isIdent_preRelease : ∀ i ∈ identifiers p.preRelease, IsIdent i
  isIdent_build : ∀ i ∈ identifiers p.build, IsIdent i

theorem Parts.IsWellFormed.isSound {p : Parts} (hp : p.IsWellFormed) {s : Text}
    (h : p.fault? s = none) : p.IsSound := by
  rw [Parts.fault?] at h
  split at h
  · cases h
  · split at h
    · cases h
    · split at h
      · cases h
      · -- the numbers are sound, so only the identifiers are left
        rw [Option.map_eq_none_iff, Option.or_eq_none_iff] at h
        obtain ⟨hpre, hbuild⟩ := h
        refine { hp with faultless := hpre, isIdent_preRelease := ?_, isIdent_build := ?_ }
        · intro i hi
          exact isIdent_of_mem_identifiers (fun t ht => (hp.preRelease t ht).2) hi
            (sound_of_preReleaseFault?_eq_none hpre i hi).1
        · intro i hi
          exact isIdent_of_mem_identifiers (fun t ht => (hp.build t ht).2) hi
            (ne_nil_of_buildFault?_eq_none hbuild i hi)

/-! ### Versions from text -/

/-- A text that reads as a version is, without blanks and the letter in front,
put together from sound parts, and the version is what they write. -/
theorem ofText_eq_ok {s : Text} {v : Version} (h : ofText s = .ok v) :
    ∃ p : Parts, Text.dropLetter (Text.strip s) = p.text ∧ p.IsSound ∧ v = p.toVersion := by
  rw [ofText, ofBareText] at h
  split at h
  · cases h
  · split at h
    · cases h
    · rename_i p hparts
      split at h
      · cases h
      · rename_i hfault
        cases h
        obtain ⟨htext, hp⟩ := parts?_eq_some hparts
        exact ⟨p, htext, hp.isSound hfault, rfl⟩

/-- Texts only ever write natural numbers. -/
theorem nonneg_of_ofText {s : Text} {v : Version} (h : ofText s = .ok v) :
    0 ≤ v.major ∧ 0 ≤ v.minor ∧ 0 ≤ v.patch := by
  obtain ⟨p, -, -, rfl⟩ := ofText_eq_ok h
  exact ⟨Int.natCast_nonneg _, Int.natCast_nonneg _, Int.natCast_nonneg _⟩

theorem isCanonical_of_ofText {s : Text} {v : Version} (h : ofText s = .ok v) :
    v.IsCanonical := by
  obtain ⟨p, -, hp, rfl⟩ := ofText_eq_ok h
  intro i hi
  exact isCanonical_of_isIdent (hp.isIdent_preRelease i hi)
    (sound_of_preReleaseFault?_eq_none hp.faultless i hi).2

end SemverRange.Version
