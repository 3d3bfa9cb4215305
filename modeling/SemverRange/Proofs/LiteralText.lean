/-
SemverRange/Proofs/LiteralText.lean

What the readers of literals make, and what they make it of.

Soundness, reader by reader: the piece that was read and the rest put together
are the text (`Literal.readPart?_eq_some`, `readIdents?_eq_some`, ...), so every
literal that was read is well formed (`Literal.IsRead.isWellFormed`).

Completeness for the pieces that a literal is made of: a field, and identifiers with
dots between them, are read to their end (`Literal.readPart?_of_isField`,
`readIdents?_dotted`).
-/
import SemverRange.Literal.Reader
import SemverRange.Proofs.Decimal

namespace SemverRange

/-! ### Characters -/

theorem isIdentChar_iff {c : Char} :
    isIdentChar c = true ↔
      65 ≤ c.toNat ∧ c.toNat ≤ 90 ∨ 97 ≤ c.toNat ∧ c.toNat ≤ 122 ∨
        48 ≤ c.toNat ∧ c.toNat ≤ 57 ∨ c.toNat = 45 := by
  have hhyphen : c = '-' ↔ c.toNat = 45 := by
    rw [← Char.toNat_inj]
    rfl
  show (((decide (65 ≤ c.val ∧ c.val ≤ 90) || decide (97 ≤ c.val) && decide (c.val ≤ 122))
    || decide (48 ≤ c.val) && decide (c.val ≤ 57)) || decide (c = '-')) = true ↔ _
  simp only [Bool.or_eq_true, Bool.and_eq_true, decide_eq_true_eq, hhyphen,
    UInt32.le_iff_toNat_le, or_assoc]
  rfl

theorem lt_128_of_isIdentChar {c : Char} (hc : isIdentChar c = true) : c.toNat < 128 := by
  have := isIdentChar_iff.mp hc
  omega

theorem isBlank_eq_false_of_isIdentChar {c : Char} (hc : isIdentChar c = true) :
    Text.isBlank c = false := by
  have hranges : ∀ r ∈ Text.blankRanges, r.2 < 45 ∨ 122 < r.1 := by decide
  have hcode := isIdentChar_iff.mp hc
  rw [Bool.eq_false_iff, Ne, Text.isBlank, Text.inRanges_iff]
  rintro ⟨r, hr, h₁, h₂⟩
  have := hranges r hr
  omega

theorem isBlank_eq_false_of_mem_wildcardMarks {c : Char} (hc : c ∈ wildcardMarks) :
    Text.isBlank c = false := by
  have hall : wildcardMarks.all (!Text.isBlank ·) = true := by decide
  simpa using List.all_eq_true.mp hall c hc

/-! ### Fields and identifiers -/

/-- A text that fills a field: digits, or one wildcard. -/
def IsField (s : Text) : Prop :=
  (s ≠ [] ∧ ∀ c ∈ s, Text.isDigit c = true) ∨ ∃ c ∈ wildcardMarks, s = [c]

/-- A text that makes an identifier. -/
def IsIdent (s : Text) : Prop :=
  s ≠ [] ∧ ∀ c ∈ s, isIdentChar c = true

instance (s : Text) : Decidable (IsField s) :=
  decidable_of_iff
    ((s ≠ [] ∧ s.all Text.isDigit = true) ∨ wildcardMarks.any (fun c => s = [c]) = true)
    (by simp [IsField])

instance (s : Text) : Decidable (IsIdent s) :=
  decidable_of_iff (s ≠ [] ∧ s.all isIdentChar = true) (by simp [IsIdent])

theorem IsField.ne_nil {s : Text} (hs : IsField s) : s ≠ [] := by
  rcases hs with ⟨hne, -⟩ | ⟨c, -, rfl⟩
  · exact hne
  · simp

theorem IsField.isBlank_eq_false {s : Text} (hs : IsField s) :
    ∀ c ∈ s, Text.isBlank c = false := by
  rcases hs with ⟨-, hdigits⟩ | ⟨m, hm, rfl⟩
  · exact fun c hc => Text.isBlank_eq_false_of_isDigit (hdigits c hc)
  · simpa using isBlank_eq_false_of_mem_wildcardMarks hm

theorem IsIdent.isBlank_eq_false {s : Text} (hs : IsIdent s) :
    ∀ c ∈ s, Text.isBlank c = false := fun c hc => isBlank_eq_false_of_isIdentChar (hs.2 c hc)

/-- A character that is no digit and no wildcard stands in no field. -/
theorem IsField.notMem {s : Text} (hs : IsField s) {c : Char} (hdigit : Text.isDigit c = false)
    (hmark : c ∉ wildcardMarks) : c ∉ s := by
  intro hc
  rcases hs with ⟨-, hdigits⟩ | ⟨m, hm, rfl⟩
  · simp [hdigits c hc] at hdigit
  · obtain rfl : c = m := by simpa using hc
    exact hmark hm

theorem Text.dotted_cons (i : Text) (is : List Text) :
    Text.dotted (i :: is) = i ++ is.flatMap ('.' :: ·) := by
  induction is generalizing i with
  | nil => simp [Text.dotted]
  | cons j is ih =>
    have hstep : Text.dotted (i :: j :: is) = i ++ '.' :: Text.dotted (j :: is) := by
      simp [Text.dotted, List.intercalate]
    rw [hstep, ih]
    simp

theorem mem_dotted {c : Char} {pieces : List Text} (hc : c ∈ Text.dotted pieces) :
    c = '.' ∨ ∃ p ∈ pieces, c ∈ p := by
  cases pieces with
  | nil => cases hc
  | cons p ps =>
    rw [Text.dotted_cons, List.mem_append, List.mem_flatMap] at hc
    rcases hc with hc | ⟨q, hq, hc⟩
    · exact .inr ⟨p, by simp, hc⟩
    · rcases List.mem_cons.mp hc with hdot | hcq
      · exact .inl hdot
      · exact .inr ⟨q, by simp [hq], hcq⟩

/-- Joined pieces have no blank between them. -/
theorem isBlank_eq_false_of_mem_dotted {pieces : List Text}
    (h : ∀ p ∈ pieces, ∀ c ∈ p, Text.isBlank c = false) :
    ∀ c ∈ Text.dotted pieces, Text.isBlank c = false := by
  intro c hc
  rcases mem_dotted hc with rfl | ⟨p, hp, hc⟩
  · decide
  · exact h p hp c hc

theorem dotted_ne_nil {is : List Identifier} (hne : is ≠ []) (his : ∀ i ∈ is, IsIdent i) :
    Text.dotted is ≠ [] := by
  obtain ⟨i, is, rfl⟩ := List.exists_cons_of_ne_nil hne
  simp [Text.dotted_cons, (his i (by simp)).1]

/-! ### Identifiers in a row -/

theorem readIdentTail_append {i : Text} (hi : ∀ c ∈ i, isIdentChar c = true) (s : Text) :
    readIdentTail (i ++ s) = { readIdentTail s with ident := i ++ (readIdentTail s).ident } := by
  induction i with
  | nil => rfl
  | cons c i ih =>
    rw [List.cons_append, readIdentTail, if_pos (hi c (by simp)),
      ih fun c' hc' => hi c' (by simp [hc'])]
    rfl

/-- Where neither an identifier goes on nor a dot follows, nothing is read. -/
theorem readIdentTail_of_head {s : Text} (hs : ∀ c ∈ s.head?, isIdentChar c = false ∧ c ≠ '.') :
    readIdentTail s = { ident := [], others := [], rest := s } := by
  cases s with
  | nil => rfl
  | cons c s =>
    obtain ⟨hident, hdot⟩ := hs c rfl
    rw [readIdentTail, if_neg (by simp [hident]), if_neg (by simp [hdot])]

theorem readIdentTail_dot {s : Text} (hs : s.head?.any isIdentChar = true) :
    readIdentTail ('.' :: s) =
      { ident := [], others := (readIdentTail s).ident :: (readIdentTail s).others,
        rest := (readIdentTail s).rest } := by
  rw [readIdentTail, if_neg (by decide), if_pos (by simpa using hs)]

/-- Inside an identifier the reader goes on to its end, and over every dot that
an identifier follows. -/
theorem readIdentTail_spec (s : Text) :
    s = (readIdentTail s).ident ++ (readIdentTail s).others.flatMap ('.' :: ·)
        ++ (readIdentTail s).rest
      ∧ (∀ c ∈ (readIdentTail s).ident, isIdentChar c = true)
      ∧ ∀ i ∈ (readIdentTail s).others, IsIdent i := by
  induction s with
  | nil => simp [readIdentTail]
  | cons c s ih =>
    obtain ⟨hs, hident, hothers⟩ := ih
    rw [readIdentTail]
    split
    · -- a character of the identifier
      rename_i hc
      refine ⟨?_, ?_, hothers⟩
      · conv_lhs => rw [hs]
        simp
      · simpa [hc] using hident
    · split
      · -- a dot with an identifier behind it
        rename_i hdot
        simp only [Bool.and_eq_true, decide_eq_true_eq] at hdot
        obtain ⟨rfl, hhead⟩ := hdot
        have hne : (readIdentTail s).ident ≠ [] := by
          rcases s with - | ⟨d, s⟩
          · cases hhead
          · rw [readIdentTail, if_pos (by simpa using hhead)]
            simp
        refine ⟨?_, by simp, ?_⟩
        · conv_lhs => rw [hs]
          simp
        · simpa using ⟨⟨hne, hident⟩, hothers⟩
      · -- neither: the reader stops here
        simp

theorem readIdents?_eq_some {s rest : Text} {is : List Identifier}
    (h : readIdents? s = some (is, rest)) :
    s = Text.dotted is ++ rest ∧ is ≠ [] ∧ ∀ i ∈ is, IsIdent i := by
  rw [readIdents?] at h
  split at h
  · rename_i hhead
    simp only [Option.some.injEq, Prod.mk.injEq] at h
    obtain ⟨rfl, rfl⟩ := h
    obtain ⟨hs, hident, hothers⟩ := readIdentTail_spec s
    refine ⟨?_, by simp, ?_⟩
    · rw [Text.dotted_cons]
      exact hs
    · rcases s with - | ⟨c, s⟩
      · cases hhead
      · have hne : (readIdentTail (c :: s)).ident ≠ [] := by
          rw [readIdentTail, if_pos (by simpa using hhead)]
          simp
        simpa using ⟨⟨hne, hident⟩, hothers⟩
  · cases h

theorem readIdentTail_flatMap {is : List Identifier} (his : ∀ i ∈ is, IsIdent i) {rest : Text}
    (hrest : readIdentTail rest = { ident := [], others := [], rest }) :
    readIdentTail (is.flatMap ('.' :: ·) ++ rest) = { ident := [], others := is, rest } := by
  induction is with
  | nil => simpa using hrest
  | cons i is ih =>
    obtain ⟨hne, hi⟩ := his i (by simp)
    have hhead : (i ++ (is.flatMap ('.' :: ·) ++ rest)).head?.any isIdentChar = true := by
      obtain ⟨c, i, rfl⟩ := List.exists_cons_of_ne_nil hne
      simpa using hi c (by simp)
    rw [List.flatMap_cons, List.cons_append, List.cons_append, List.append_assoc,
      readIdentTail_dot hhead, readIdentTail_append hi, ih fun j hj => his j (by simp [hj])]
    simp

/-- Identifiers with dots between them are read to the end of the last, where
the text cannot go on as another. -/
theorem readIdents?_dotted {is : List Identifier} (hne : is ≠ []) (his : ∀ i ∈ is, IsIdent i)
    {rest : Text} (hrest : readIdentTail rest = { ident := [], others := [], rest }) :
    readIdents? (Text.dotted is ++ rest) = some (is, rest) := by
  obtain ⟨i, is, rfl⟩ := List.exists_cons_of_ne_nil hne
  obtain ⟨hine, hi⟩ := his i (by simp)
  have hhead : (Text.dotted (i :: is) ++ rest).head?.any isIdentChar = true := by
    obtain ⟨c, i, rfl⟩ := List.exists_cons_of_ne_nil hine
    simpa [Text.dotted_cons] using hi c (by simp)
  rw [readIdents?, if_pos hhead, Text.dotted_cons, List.append_assoc, readIdentTail_append hi,
    readIdentTail_flatMap (fun j hj => his j (by simp [hj])) hrest]
  simp

/-! ### Fields -/

namespace Literal

theorem readPart?_eq_some {s p rest : Text} (h : readPart? s = some (p, rest)) :
    s = p ++ rest ∧ IsField p := by
  cases s with
  | nil => cases h
  | cons c s =>
    rw [readPart?] at h
    split at h
    · rename_i hc
      simp only [Option.some.injEq, Prod.mk.injEq] at h
      obtain ⟨rfl, rfl⟩ := h
      refine ⟨by simp, .inl ⟨by simp, ?_⟩⟩
      intro c' hc'
      rcases List.mem_cons.mp hc' with rfl | hmem
      · exact hc
      · exact List.mem_takeWhile_imp hmem
    · split at h
      · rename_i hc
        simp only [Option.some.injEq, Prod.mk.injEq] at h
        obtain ⟨rfl, rfl⟩ := h
        exact ⟨rfl, .inr ⟨c, by simpa using hc, rfl⟩⟩
      · cases h

theorem readDotPart?_eq_some {s p rest : Text} (h : readDotPart? s = some (p, rest)) :
    s = '.' :: p ++ rest ∧ IsField p := by
  unfold readDotPart? at h
  split at h
  · obtain ⟨rfl, hp⟩ := readPart?_eq_some h
    exact ⟨rfl, hp⟩
  · cases h

/-- Digits are read to the last of them. -/
theorem readPart?_of_digits {s rest : Text} (hne : s ≠ [])
    (hs : ∀ c ∈ s, Text.isDigit c = true) (hrest : ∀ c ∈ rest.head?, Text.isDigit c = false) :
    readPart? (s ++ rest) = some (s, rest) := by
  obtain ⟨c, s, rfl⟩ := List.exists_cons_of_ne_nil hne
  have htail : ∀ c' ∈ s, Text.isDigit c' = true := fun c' hc' => hs c' (by simp [hc'])
  have hstop : rest.takeWhile Text.isDigit = [] := by
    cases rest with
    | nil => rfl
    | cons d rest => simp [hrest d (by simp)]
  rw [List.cons_append, readPart?, if_pos (hs c (by simp)), List.takeWhile_append_of_pos htail,
    List.dropWhile_append_of_pos htail, hstop, Text.dropWhile_eq_self hrest, List.append_nil]

/-- A field is read to its end, where no digit follows. -/
theorem readPart?_of_isField {s rest : Text} (hs : IsField s)
    (hrest : ∀ c ∈ rest.head?, Text.isDigit c = false) : readPart? (s ++ rest) = some (s, rest) := by
  rcases hs with ⟨hne, hdigits⟩ | ⟨m, hm, rfl⟩
  · exact readPart?_of_digits hne hdigits hrest
  · have hmarks : wildcardMarks.all (!Text.isDigit ·) = true := by decide
    have hdigit : Text.isDigit m = false := by simpa using List.all_eq_true.mp hmarks m hm
    rw [List.singleton_append, readPart?, hdigit, if_neg (by decide), if_pos (by simpa using hm)]

theorem readDotPart?_of_isField {s rest : Text} (hs : IsField s)
    (hrest : ∀ c ∈ rest.head?, Text.isDigit c = false) :
    readDotPart? ('.' :: (s ++ rest)) = some (s, rest) :=
  readPart?_of_isField hs hrest

/-! ### Tags -/

theorem readDash?_eq_some {s rest : Text} (h : readDash? s = some rest) :
    ∃ w₁ w₂, Text.AllBlank w₁ ∧ Text.AllBlank w₂ ∧ s = w₁ ++ '-' :: w₂ ++ rest := by
  unfold readDash? at h
  split at h
  · rename_i t ht
    cases h
    obtain ⟨w₁, hw₁, hs⟩ := Text.skipBlanks_decomposition s
    obtain ⟨w₂, hw₂, ht'⟩ := Text.skipBlanks_decomposition t
    refine ⟨w₁, w₂, hw₁, hw₂, ?_⟩
    rw [List.append_assoc, List.cons_append, ← ht', ← ht]
    exact hs
  · cases h

/-- Blanks around a hyphen are skipped, up to what comes behind them. -/
theorem readDash?_of_allBlank {w₁ w₂ t : Text} (hw₁ : Text.AllBlank w₁) (hw₂ : Text.AllBlank w₂)
    (ht : ∀ c ∈ t.head?, Text.isBlank c = false) :
    readDash? (w₁ ++ '-' :: (w₂ ++ t)) = some t := by
  have hhyphen : Text.isBlank '-' = false := by decide
  rw [readDash?, Text.skipBlanks_append_left hw₁, Text.skipBlanks_eq_self (by simp [hhyphen])]
  show some (Text.skipBlanks (w₂ ++ t)) = some t
  rw [Text.skipBlanks_append_left hw₂, Text.skipBlanks_eq_self ht]

theorem readPreRelease_isIdent (s : Text) : ∀ i ∈ (readPreRelease s).1, IsIdent i := by
  rw [readPreRelease]
  rcases h : (readDash? s).bind readIdents? with - | ⟨is, rest⟩
  · simp
  · obtain ⟨t, -, ht⟩ := Option.bind_eq_some_iff.mp h
    simpa using (readIdents?_eq_some ht).2.2

theorem readBuild_isIdent (s : Text) : ∀ i ∈ (readBuild s).1, IsIdent i := by
  unfold readBuild
  split
  · rename_i t
    rcases h : readIdents? t with - | ⟨is, rest⟩
    · simp
    · simpa using (readIdents?_eq_some h).2.2
  · simp

/-! ### Literals -/

/-- A literal that follows the grammar: fields are filled from the left, and tags
stand behind a patch number only. -/
structure IsWellFormed (l : Literal) : Prop where
  major : ∃ s, l.major = some s ∧ IsField s
  minor : ∀ s ∈ l.minor, IsField s
  patch : ∀ s ∈ l.patch, IsField s
  patch_of_minor : l.minor = none → l.patch = none
  untagged : l.patch = none → l.preRelease = [] ∧ l.build = []
  preRelease : ∀ i ∈ l.preRelease, IsIdent i
  build : ∀ i ∈ l.build, IsIdent i

theorem IsWellFormed.isField_major {l : Literal} (hl : l.IsWellFormed) :
    ∀ s ∈ l.major, IsField s := by
  obtain ⟨s, hs, hfield⟩ := hl.major
  simpa [hs] using hfield

/-- The fields that are there follow the grammar. -/
theorem IsWellFormed.isField_of_mem {l : Literal} (hl : l.IsWellFormed) {p : Text}
    (hp : p ∈ [l.major, l.minor, l.patch].filterMap id) : IsField p := by
  simp only [List.mem_filterMap, List.mem_cons, List.not_mem_nil, or_false, id] at hp
  obtain ⟨f, rfl | rfl | rfl, hf⟩ := hp
  · exact hl.isField_major p hf
  · exact hl.minor p hf
  · exact hl.patch p hf

theorem IsWellFormed.isBlank_eq_false_of_mem_fieldsText {l : Literal} (hl : l.IsWellFormed) :
    ∀ c ∈ l.fieldsText, Text.isBlank c = false :=
  isBlank_eq_false_of_mem_dotted fun _ hp => (hl.isField_of_mem hp).isBlank_eq_false

/-- A literal with a patch number has all three fields. -/
theorem IsWellFormed.exists_fields_of_patch {l : Literal} (hl : l.IsWellFormed)
    (hpatch : l.patch ≠ none) :
    ∃ a b c, l.major = some a ∧ l.minor = some b ∧ l.patch = some c := by
  obtain ⟨a, ha, -⟩ := hl.major
  obtain ⟨c, hc⟩ := Option.ne_none_iff_exists'.mp hpatch
  rcases hm : l.minor with - | b
  · exact absurd (hl.patch_of_minor hm) hpatch
  · exact ⟨a, b, c, ha, rfl, hc⟩

/-- A literal with a pre-release has all three fields. -/
theorem IsWellFormed.exists_fields {l : Literal} (hl : l.IsWellFormed)
    (hpre : l.preRelease ≠ []) :
    ∃ a b c, l.major = some a ∧ l.minor = some b ∧ l.patch = some c :=
  hl.exists_fields_of_patch fun hpatch => hpre (hl.untagged hpatch).1

theorem IsWellFormed.withoutBuild {l : Literal} (hl : l.IsWellFormed) :
    IsWellFormed { l with build := [] } where
  major := hl.major
  minor := hl.minor
  patch := hl.patch
  patch_of_minor := hl.patch_of_minor
  untagged := fun hpatch => ⟨(hl.untagged hpatch).1, rfl⟩
  preRelease := hl.preRelease
  build := by simp

theorem IsWellFormed.withoutPreRelease {l : Literal} (hl : l.IsWellFormed) :
    l.withoutPreRelease.IsWellFormed where
  major := hl.major
  minor := hl.minor
  patch := hl.patch
  patch_of_minor := hl.patch_of_minor
  untagged := fun hpatch => ⟨rfl, (hl.untagged hpatch).2⟩
  preRelease := by simp [Literal.withoutPreRelease]
  build := hl.build

/-- A literal that some text reads as. -/
def IsRead (l : Literal) : Prop :=
  ∃ s rest, read? s = some (l, rest)

theorem IsRead.isWellFormed {l : Literal} (hl : l.IsRead) : l.IsWellFormed := by
  obtain ⟨s, rest, h⟩ := hl
  rw [read?] at h
  split at h
  · cases h
  · rename_i major r₁ hmajor
    have hmajor' := (readPart?_eq_some hmajor).2
    split at h
    · -- the major number alone
      simp only [Option.some.injEq, Prod.mk.injEq] at h
      obtain ⟨rfl, -⟩ := h
      constructor <;> simp [hmajor']
    · rename_i minor r₂ hminor
      have hminor' := (readDotPart?_eq_some hminor).2
      split at h
      · -- two numbers
        simp only [Option.some.injEq, Prod.mk.injEq] at h
        obtain ⟨rfl, -⟩ := h
        constructor <;> simp [hmajor', hminor']
      · -- three numbers and what follows them
        rename_i patch r₃ hpatch
        have hpatch' := (readDotPart?_eq_some hpatch).2
        simp only [Option.some.injEq, Prod.mk.injEq] at h
        obtain ⟨rfl, -⟩ := h
        exact {
          major := ⟨major, rfl, hmajor'⟩
          minor := by simp [hminor']
          patch := by simp [hpatch']
          patch_of_minor := by simp
          untagged := by simp
          preRelease := readPreRelease_isIdent r₃
          build := readBuild_isIdent _ }

theorem IsRead.of_ofText? {s : Text} {l : Literal} (h : ofText? s = some l) : l.IsRead := by
  rw [ofText?] at h
  split at h
  · rename_i l' hread
    cases h
    exact ⟨_, _, hread⟩
  · cases h

/-- Whether a literal may begin with a character. -/
def isLiteralHead (c : Char) : Bool :=
  Text.isDigit c || ['v', 'V', 'x', 'X', '*'].contains c

theorem isLiteralHead_of_read? {s rest : Text} {l : Literal} (h : read? s = some (l, rest)) :
    ∀ c ∈ s.head?, isLiteralHead c = true := by
  have hmajor : ∃ p r, readPart? (Text.dropLetter s) = some (p, r) := by
    rw [read?] at h
    split at h
    · cases h
    · rename_i p r hp
      exact ⟨p, r, hp⟩
  obtain ⟨p, r, hp⟩ := hmajor
  obtain ⟨hs, hfield⟩ := readPart?_eq_some hp
  intro c hc
  unfold Text.dropLetter at hs
  split at hs
  · obtain rfl : 'v' = c := by simpa using hc
    decide
  · obtain rfl : 'V' = c := by simpa using hc
    decide
  · -- no letter, so the field comes first
    rcases hfield with ⟨hne, hdigits⟩ | ⟨m, hm, rfl⟩
    · obtain ⟨d, p, rfl⟩ := List.exists_cons_of_ne_nil hne
      obtain rfl : d = c := by simpa [hs] using hc
      simp [isLiteralHead, hdigits d (by simp)]
    · have hmarks : wildcardMarks.all isLiteralHead = true := by decide
      obtain rfl : m = c := by simpa [hs] using hc
      exact List.all_eq_true.mp hmarks m hm

theorem isBlank_eq_false_of_isLiteralHead {c : Char} (hc : isLiteralHead c = true) :
    Text.isBlank c = false := by
  have hletters : ['v', 'V', 'x', 'X', '*'].all (!Text.isBlank ·) = true := by decide
  rw [isLiteralHead, Bool.or_eq_true] at hc
  rcases hc with hdigit | hletter
  · exact Text.isBlank_eq_false_of_isDigit hdigit
  · simpa using List.all_eq_true.mp hletters c (by simpa using hletter)

/-- A literal begins with neither a blank nor a hyphen. -/
theorem head_of_read? {s rest : Text} {l : Literal} (h : read? s = some (l, rest)) :
    ∀ c ∈ s.head?, Text.isBlank c = false ∧ c ≠ '-' := by
  intro c hc
  have hhead := isLiteralHead_of_read? h c hc
  refine ⟨isBlank_eq_false_of_isLiteralHead hhead, ?_⟩
  rintro rfl
  exact absurd hhead (by decide)

end Literal

end SemverRange
