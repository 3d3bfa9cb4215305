/-
SemverRange/Proofs/Writings.lean

What is read stands in the text, piece by piece.

A literal keeps the piece of text that it was read from (`Literal.read?_eq_some`), and
that piece is made of the letter in front, the fields, and the tags behind their marks
(`Literal.IsWriting`); in turn every such piece reads as its literal, to the end or up to
what the literal ends before (`Literal.read?_of_isWriting_append`).  So a literal stands
in the text with its writing, its fields and its pre-release (`Literal.StandsIn`), and so
do the two that come about when a comparison turns out to be a dash range
(`Literal.StandsIn.withoutPreRelease`, `Literal.StandsIn.of_ofText?`).

A condition is its sign and its literals in turn (`Condition.read_eq_ok`).  There are
characters that no literal holds (`Literal.isForeign`), the bar and those of the signs
among them, so a condition ends before a bar (`Condition.IsWriting.bar_notMem`).
-/
import SemverRange.Operator
import SemverRange.Proofs.TrailingBlanks

namespace SemverRange

open Text (AllBlank StartsBlank)

/-! ### Literals -/

theorem Text.dropLetter_decomposition (s : Text) :
    ∃ letter ∈ [[], ['v'], ['V']], s = letter ++ Text.dropLetter s := by
  unfold Text.dropLetter
  split
  · exact ⟨['v'], by simp, rfl⟩
  · exact ⟨['V'], by simp, rfl⟩
  · exact ⟨[], by simp, rfl⟩

theorem isBlank_eq_false_of_mem_letter {letter : Text} (hletter : letter ∈ [[], ['v'], ['V']]) :
    ∀ c ∈ letter, Text.isBlank c = false := by
  have hletters : [[], ['v'], ['V']].all (List.all · (!Text.isBlank ·)) = true := by decide
  intro c hc
  simpa using List.all_eq_true.mp (List.all_eq_true.mp hletters letter hletter) c hc

namespace Literal

/-- A text that writes a pre-release: nothing, or a hyphen with any blanks around it
and identifiers. -/
def IsPreReleaseTag (is : List Identifier) (t : Text) : Prop :=
  is = [] ∧ t = [] ∨
    is ≠ [] ∧ ∃ w₁ w₂, AllBlank w₁ ∧ AllBlank w₂ ∧ t = w₁ ++ '-' :: w₂ ++ Text.dotted is

/-- A text that writes build metadata: nothing, or a plus sign and identifiers. -/
def IsBuildTag (is : List Identifier) (t : Text) : Prop :=
  is = [] ∧ t = [] ∨ is ≠ [] ∧ t = '+' :: Text.dotted is

/-- A text that writes a literal, part by part. -/
def IsWriting (l : Literal) (m : Text) : Prop :=
  ∃ letter ∈ [[], ['v'], ['V']], ∃ pre build,
    IsPreReleaseTag l.preRelease pre ∧ IsBuildTag l.build build ∧
      m = letter ++ l.fieldsText ++ pre ++ build

theorem IsPreReleaseTag.eq_nil {t : Text} (ht : IsPreReleaseTag [] t) : t = [] := by
  rcases ht with ⟨-, ht⟩ | ⟨hne, -⟩
  · exact ht
  · exact absurd rfl hne

theorem IsBuildTag.eq_nil {t : Text} (ht : IsBuildTag [] t) : t = [] := by
  rcases ht with ⟨-, ht⟩ | ⟨hne, -⟩
  · exact ht
  · exact absurd rfl hne

theorem readPreRelease_spec (s : Text) :
    ∃ t, IsPreReleaseTag (readPreRelease s).1 t ∧ s = t ++ (readPreRelease s).2 := by
  rw [readPreRelease]
  rcases h : (readDash? s).bind readIdents? with - | ⟨is, rest⟩
  · exact ⟨[], .inl ⟨rfl, rfl⟩, rfl⟩
  · obtain ⟨r, hdash, hidents⟩ := Option.bind_eq_some_iff.mp h
    obtain ⟨w₁, w₂, hw₁, hw₂, hs⟩ := readDash?_eq_some hdash
    obtain ⟨rfl, hne, -⟩ := readIdents?_eq_some hidents
    refine ⟨w₁ ++ '-' :: w₂ ++ Text.dotted is, .inr ⟨hne, w₁, w₂, hw₁, hw₂, rfl⟩, ?_⟩
    rw [hs, Option.getD_some, List.append_assoc (w₁ ++ '-' :: w₂)]

theorem readBuild_spec (s : Text) :
    ∃ t, IsBuildTag (readBuild s).1 t ∧ s = t ++ (readBuild s).2 := by
  unfold readBuild
  split
  · rename_i r
    rcases h : readIdents? r with - | ⟨is, rest⟩
    · exact ⟨[], .inl ⟨rfl, rfl⟩, rfl⟩
    · obtain ⟨rfl, hne, -⟩ := readIdents?_eq_some h
      exact ⟨'+' :: Text.dotted is, .inr ⟨hne, rfl⟩, rfl⟩
  · exact ⟨[], .inl ⟨rfl, rfl⟩, rfl⟩

/-- A well-formed literal that keeps a writing of itself. -/
structure IsWritten (l : Literal) : Prop where
  isWellFormed : l.IsWellFormed
  isWriting : l.IsWriting l.text

/-- **A literal is the piece it was read from**, and that piece is made of its parts. -/
theorem read?_eq_some {s rest : Text} {l : Literal} (h : read? s = some (l, rest)) :
    s = l.text ++ rest ∧ l.IsWritten := by
  have hl : l.IsWellFormed := IsRead.isWellFormed ⟨s, rest, h⟩
  obtain ⟨letter, hletter, hs⟩ := Text.dropLetter_decomposition s
  -- what stands before the rest is the text of the literal, and it is written by its parts
  suffices hparts : ∃ pre build, IsPreReleaseTag l.preRelease pre ∧ IsBuildTag l.build build ∧
      s = letter ++ l.fieldsText ++ pre ++ build ++ rest ∧ l.text = Text.before s rest by
    obtain ⟨pre, build, hpre, hbuild, heq, htext⟩ := hparts
    rw [heq, Text.before_append] at htext
    exact ⟨by rw [htext]; exact heq, hl, letter, hletter, pre, build, hpre, hbuild, htext⟩
  rw [read?] at h
  split at h
  · cases h
  · rename_i major r₁ hmajor
    have hs₁ := (readPart?_eq_some hmajor).1
    split at h
    · simp only [Option.some.injEq, Prod.mk.injEq] at h
      obtain ⟨rfl, rfl⟩ := h
      refine ⟨[], [], .inl ⟨rfl, rfl⟩, .inl ⟨rfl, rfl⟩, ?_, rfl⟩
      rw [hs₁] at hs
      simpa [fieldsText, Text.dotted_cons] using hs
    · rename_i minor r₂ hminor
      have hs₂ := (readDotPart?_eq_some hminor).1
      split at h
      · simp only [Option.some.injEq, Prod.mk.injEq] at h
        obtain ⟨rfl, rfl⟩ := h
        refine ⟨[], [], .inl ⟨rfl, rfl⟩, .inl ⟨rfl, rfl⟩, ?_, rfl⟩
        rw [hs₁, hs₂] at hs
        simpa [fieldsText, Text.dotted_cons] using hs
      · rename_i patch r₃ hpatch
        have hs₃ := (readDotPart?_eq_some hpatch).1
        obtain ⟨pre, hpre, hr₃⟩ := readPreRelease_spec r₃
        obtain ⟨build, hbuild, hr₄⟩ := readBuild_spec (readPreRelease r₃).2
        simp only [Option.some.injEq, Prod.mk.injEq] at h
        obtain ⟨rfl, rfl⟩ := h
        refine ⟨pre, build, hpre, hbuild, ?_, rfl⟩
        rw [hs₁, hs₂, hs₃, hr₃, hr₄] at hs
        simpa [fieldsText, Text.dotted_cons] using hs

theorem dropLetter_append_of_mem {letter t : Text} (hletter : letter ∈ [[], ['v'], ['V']])
    (ht : ∀ c ∈ t.head?, c ≠ 'v' ∧ c ≠ 'V') : Text.dropLetter (letter ++ t) = t := by
  simp only [List.mem_cons, List.not_mem_nil, or_false] at hletter
  rcases hletter with rfl | rfl | rfl
  · rw [List.nil_append]
    unfold Text.dropLetter
    split
    · exact absurd rfl (ht 'v' rfl).1
    · exact absurd rfl (ht 'V' rfl).2
    · rfl
  · rfl
  · rfl

/-- The letter goes, and nothing else: the major number begins with none. -/
theorem IsWellFormed.dropLetter_append {l : Literal} (hl : l.IsWellFormed) {letter : Text}
    (hletter : letter ∈ [[], ['v'], ['V']]) (t : Text) :
    Text.dropLetter (letter ++ (l.fieldsText ++ t)) = l.fieldsText ++ t := by
  obtain ⟨a, hmajor, ha⟩ := hl.major
  obtain ⟨d, a, rfl⟩ := List.exists_cons_of_ne_nil ha.ne_nil
  apply dropLetter_append_of_mem hletter
  intro c hc
  obtain rfl : d = c := by simpa [fieldsText, hmajor, Text.dotted_cons] using hc
  constructor
  · rintro rfl
    exact ha.notMem (by decide) (by decide) List.mem_cons_self
  · rintro rfl
    exact ha.notMem (by decide) (by decide) List.mem_cons_self

/-! ### What stands behind a literal -/

/-- Whether a literal ends before a text: what comes next goes on with no field and
with no tag. -/
structure EndsBefore (l : Literal) (t : Text) : Prop where
  head : ∀ c ∈ t.head?, Text.isDigit c = false ∧ c ≠ '.' ∧ c ≠ '+'
  ident : l.isTagged = true → ∀ c ∈ t.head?, isIdentChar c = false
  preRelease : l.patch ≠ none → l.isTagged = false → (readDash? t).bind readIdents? = none

theorem endsBefore_nil (l : Literal) : l.EndsBefore [] where
  head := by simp
  ident := by simp
  preRelease := fun _ _ => rfl

namespace EndsBefore

variable {l : Literal} {t pre build : Text}

theorem readIdentTail_eq (ht : l.EndsBefore t) (htagged : l.isTagged = true) :
    readIdentTail t = { ident := [], others := [], rest := t } :=
  readIdentTail_of_head fun c hc => ⟨ht.ident htagged c hc, (ht.head c hc).2.1⟩

theorem readBuild_eq (ht : l.EndsBefore t) (hl : l.IsWellFormed)
    (hbuild : IsBuildTag l.build build) : readBuild (build ++ t) = (l.build, t) := by
  rcases hbuild with ⟨hnil, rfl⟩ | ⟨hne, rfl⟩
  · rw [hnil, List.nil_append]
    unfold readBuild
    split
    · exact absurd rfl (ht.head '+' rfl).2.2
    · rfl
  · have htail := ht.readIdentTail_eq (by simp [isTagged, hne])
    rw [List.cons_append, readBuild, readIdents?_dotted hne hl.build htail]
    rfl

theorem readPreRelease_eq (ht : l.EndsBefore t) (hl : l.IsWellFormed) (hpatch : l.patch ≠ none)
    (hpre : IsPreReleaseTag l.preRelease pre) (hbuild : IsBuildTag l.build build) :
    readPreRelease (pre ++ (build ++ t)) = (l.preRelease, build ++ t) := by
  rcases hpre with ⟨hnil, rfl⟩ | ⟨hne, w₁, w₂, hw₁, hw₂, rfl⟩
  · rw [hnil, List.nil_append, readPreRelease]
    rcases hbuild with ⟨hnil', rfl⟩ | ⟨-, rfl⟩
    · -- nothing of the literal is left to read
      rw [List.nil_append, ht.preRelease hpatch (by simp [isTagged, hnil, hnil'])]
      rfl
    · rfl
  · have htail : readIdentTail (build ++ t) = { ident := [], others := [], rest := build ++ t } := by
      rcases hbuild with ⟨-, rfl⟩ | ⟨-, rfl⟩
      · exact ht.readIdentTail_eq (by simp [isTagged, hne])
      · rfl
    -- an identifier comes first, and it has no blank in it
    have hhead : ∀ c ∈ (Text.dotted l.preRelease ++ (build ++ t)).head?, Text.isBlank c = false := by
      obtain ⟨i, is, his⟩ := List.exists_cons_of_ne_nil hne
      obtain ⟨hine, hi⟩ := hl.preRelease i (by simp [his])
      obtain ⟨c, i, rfl⟩ := List.exists_cons_of_ne_nil hine
      simpa [his, Text.dotted_cons] using isBlank_eq_false_of_isIdentChar (hi c (by simp))
    have hdash := readDash?_of_allBlank hw₁ hw₂ hhead
    rw [readPreRelease, List.append_assoc, List.append_assoc, List.cons_append, hdash,
      Option.bind_some, readIdents?_dotted hne hl.preRelease htail]
    rfl

/-- No digit comes next behind the last field, be there tags or not. -/
theorem isDigit_head_eq_false (ht : l.EndsBefore t) (hpre : IsPreReleaseTag l.preRelease pre)
    (hbuild : IsBuildTag l.build build) :
    ∀ c ∈ (pre ++ (build ++ t)).head?, Text.isDigit c = false := by
  intro c hc
  rcases hpre with ⟨-, rfl⟩ | ⟨-, w₁, w₂, hw₁, -, rfl⟩
  · rcases hbuild with ⟨-, rfl⟩ | ⟨-, rfl⟩
    · exact (ht.head c hc).1
    · obtain rfl : '+' = c := Option.some.inj hc
      decide
  · cases w₁ with
    | nil =>
      obtain rfl : '-' = c := Option.some.inj hc
      decide
    | cons b w₁ =>
      obtain rfl : b = c := Option.some.inj hc
      rw [Bool.eq_false_iff]
      intro hdigit
      have hblank := hw₁ b (by simp)
      rw [Text.isBlank_eq_false_of_isDigit hdigit] at hblank
      cases hblank

/-- And no dot comes next where there are no tags. -/
theorem readDotPart?_eq_none (ht : l.EndsBefore t) : readDotPart? t = none := by
  unfold readDotPart?
  split
  · exact absurd rfl (ht.head '.' rfl).2.1
  · rfl

end EndsBefore

/-- **Every writing of a well-formed literal reads as that literal**, up to what the
literal ends before. -/
theorem read?_of_isWriting_append {l : Literal} {m t : Text} (hl : l.IsWellFormed)
    (hm : l.IsWriting m) (ht : l.EndsBefore t) :
    read? (m ++ t) = some ({ l with text := m }, t) := by
  obtain ⟨letter, hletter, pre, build, hpre, hbuild, hm⟩ := hm
  have hdot : ∀ s : Text, ∀ c ∈ ('.' :: s).head?, Text.isDigit c = false := by
    intro s c hc
    obtain rfl : '.' = c := Option.some.inj hc
    decide
  have hend : ∀ c ∈ t.head?, Text.isDigit c = false := fun c hc => (ht.head c hc).1
  obtain ⟨a, hmajor, ha⟩ := hl.major
  have hdrop : Text.dropLetter (m ++ t) = l.fieldsText ++ (pre ++ (build ++ t)) := by
    rw [hm, List.append_assoc, List.append_assoc, List.append_assoc]
    exact hl.dropLetter_append hletter _
  have hbefore : Text.before (m ++ t) t = m := Text.before_append m t
  have hnone := ht.readDotPart?_eq_none
  have htags := fun hpatch => ht.readPreRelease_eq hl hpatch hpre hbuild
  have hbuild' := ht.readBuild_eq hl hbuild
  have hdigit := ht.isDigit_head_eq_false hpre hbuild
  clear hm
  obtain ⟨major, minor, patch, preRelease, bs, text⟩ := l
  obtain rfl : major = some a := hmajor
  rcases minor with - | b
  · -- the major number alone
    obtain rfl : patch = none := hl.patch_of_minor rfl
    obtain ⟨rfl, rfl⟩ : preRelease = [] ∧ bs = [] := hl.untagged rfl
    obtain rfl := hpre.eq_nil
    obtain rfl := hbuild.eq_nil
    have hm' : Text.dropLetter (m ++ t) = a ++ t := by
      simp [hdrop, fieldsText, Text.dotted_cons]
    simp only [read?, hm', readPart?_of_isField ha hend, hnone, hbefore]
  · have hb : IsField b := hl.minor b rfl
    rcases patch with - | c
    · -- two numbers
      obtain ⟨rfl, rfl⟩ : preRelease = [] ∧ bs = [] := hl.untagged rfl
      obtain rfl := hpre.eq_nil
      obtain rfl := hbuild.eq_nil
      have hm' : Text.dropLetter (m ++ t) = a ++ '.' :: (b ++ t) := by
        simp [hdrop, fieldsText, Text.dotted_cons]
      simp only [read?, hm', readPart?_of_isField ha (hdot _), readDotPart?_of_isField hb hend,
        hnone, hbefore]
    · -- three numbers and the tags
      have hc : IsField c := hl.patch c rfl
      have hm' : Text.dropLetter (m ++ t)
          = a ++ '.' :: (b ++ '.' :: (c ++ (pre ++ (build ++ t)))) := by
        simp [hdrop, fieldsText, Text.dotted_cons]
      simp only [read?, hm', readPart?_of_isField ha (hdot _), readDotPart?_of_isField hb (hdot _),
        readDotPart?_of_isField hc hdigit, htags (by simp), hbuild', hbefore]

/-- Alone, a writing is read to its end. -/
theorem read?_of_isWriting {l : Literal} {m : Text} (hl : l.IsWellFormed) (hm : l.IsWriting m) :
    read? m = some ({ l with text := m }, []) := by
  simpa using read?_of_isWriting_append hl hm (endsBefore_nil l)

/-! ### Characters that no literal holds -/

/-- Whether a character stands in no literal, however that is written. -/
def isForeign (c : Char) : Bool :=
  !(Text.isBlank c || Text.isDigit c || isIdentChar c || c = '.' || c = '+'
    || wildcardMarks.contains c)

section Foreign

variable {c : Char} (hc : isForeign c = true)

include hc

theorem ne_of_isForeign {b : Char} (hb : isForeign b = false) : c ≠ b := by
  rintro rfl
  rw [hc] at hb
  cases hb

theorem notMem_of_allBlank {w : Text} (hw : AllBlank w) : c ∉ w := by
  intro hmem
  simp [isForeign, hw c hmem] at hc

theorem notMem_of_isField {p : Text} (hp : IsField p) : c ∉ p := by
  simp only [isForeign, Bool.not_eq_true', Bool.or_eq_false_iff] at hc
  exact hp.notMem hc.1.1.1.1.2 (by simpa using hc.2)

theorem notMem_dotted {is : List Identifier} (his : ∀ i ∈ is, IsIdent i) :
    c ∉ Text.dotted is := by
  intro hmem
  rcases mem_dotted hmem with h | ⟨i, hi, hmem⟩
  · exact ne_of_isForeign hc (by decide) h
  · simp [isForeign, (his i hi).2 c hmem] at hc

theorem notMem_fieldsText {l : Literal} (hl : l.IsWellFormed) : c ∉ l.fieldsText := by
  intro hmem
  rcases mem_dotted hmem with h | ⟨p, hp, hmem⟩
  · exact ne_of_isForeign hc (by decide) h
  · exact notMem_of_isField hc (hl.isField_of_mem hp) hmem

theorem IsPreReleaseTag.notMem {is : List Identifier} {t : Text} (ht : IsPreReleaseTag is t)
    (his : ∀ i ∈ is, IsIdent i) : c ∉ t := by
  rcases ht with ⟨-, rfl⟩ | ⟨-, w₁, w₂, hw₁, hw₂, rfl⟩
  · simp
  · have hhyphen : c ≠ '-' := ne_of_isForeign hc (by decide)
    simp [hhyphen, notMem_of_allBlank hc hw₁, notMem_of_allBlank hc hw₂, notMem_dotted hc his]

theorem IsBuildTag.notMem {is : List Identifier} {t : Text} (ht : IsBuildTag is t)
    (his : ∀ i ∈ is, IsIdent i) : c ∉ t := by
  rcases ht with ⟨-, rfl⟩ | ⟨-, rfl⟩
  · simp
  · have hplus : c ≠ '+' := ne_of_isForeign hc (by decide)
    simp [hplus, notMem_dotted hc his]

theorem IsWriting.notMem {l : Literal} {m : Text} (hl : l.IsWellFormed) (hm : l.IsWriting m) :
    c ∉ m := by
  obtain ⟨letter, hletter, pre, build, hpre, hbuild, rfl⟩ := hm
  have hv : c ≠ 'v' := ne_of_isForeign hc (by decide)
  have hV : c ≠ 'V' := ne_of_isForeign hc (by decide)
  have hletter' : c ∉ letter := by
    simp only [List.mem_cons, List.not_mem_nil, or_false] at hletter
    rcases hletter with rfl | rfl | rfl <;> simp [hv, hV]
  simp [hletter', notMem_fieldsText hc hl, hpre.notMem hc hl.preRelease,
    hbuild.notMem hc hl.build]

end Foreign

/-! ### Literals in a text -/

/-- Whether a well-formed literal stands in a text, with its writing and with the
parts of it that may be written out on their own. -/
structure StandsIn (l : Literal) (s : Text) : Prop where
  isWellFormed : l.IsWellFormed
  text : l.text <:+: s
  fieldsText : l.fieldsText <:+: s
  preRelease : Text.dotted l.preRelease <:+: s

theorem StandsIn.mono {l : Literal} {s t : Text} (h : l.StandsIn s) (hst : s <:+: t) :
    l.StandsIn t where
  isWellFormed := h.isWellFormed
  text := h.text.trans hst
  fieldsText := h.fieldsText.trans hst
  preRelease := h.preRelease.trans hst

theorem IsWritten.standsIn {l : Literal} (hl : l.IsWritten) : l.StandsIn l.text := by
  obtain ⟨letter, -, pre, build, hpre, -, htext⟩ := hl.isWriting
  refine ⟨hl.isWellFormed, List.infix_rfl, ⟨letter, pre ++ build, by simp [htext]⟩, ?_⟩
  rcases hpre with ⟨hnil, -⟩ | ⟨-, w₁, w₂, -, -, rfl⟩
  · rw [hnil]
    exact List.nil_infix
  · exact ⟨letter ++ l.fieldsText ++ w₁ ++ '-' :: w₂, build, by simp [htext]⟩

theorem StandsIn.of_read? {s rest : Text} {l : Literal} (h : read? s = some (l, rest)) :
    l.StandsIn s := by
  obtain ⟨hs, hl⟩ := read?_eq_some h
  refine hl.standsIn.mono ?_
  rw [hs]
  exact (List.prefix_append l.text rest).isInfix

/-- The lower end of a dash range in disguise stands where the comparison does. -/
theorem StandsIn.withoutPreRelease {l : Literal} {s : Text} (h : l.StandsIn s) :
    l.withoutPreRelease.StandsIn s where
  isWellFormed := h.isWellFormed.withoutPreRelease
  text := h.fieldsText
  fieldsText := h.fieldsText
  preRelease := List.nil_infix

/-- A literal read from a piece of a text stands in that text; the upper end of a dash
range in disguise is read from the pre-release. -/
theorem StandsIn.of_ofText? {m s : Text} {l : Literal} (h : ofText? m = some l)
    (hm : m <:+: s) : l.StandsIn s := by
  rw [ofText?] at h
  split at h
  · rename_i l' hread
    cases h
    exact (StandsIn.of_read? hread).mono ((Text.isInfix_strip m).trans hm)
  · cases h

end Literal

/-! ### Conditions -/

theorem readSign?_eq_some {s sign rest : Text} (h : readSign? s = some (sign, rest)) :
    s = sign ++ rest ∧ sign ∈ Operator.signs.map Prod.fst := by
  unfold readSign? at h
  split at h
  case h_8 => cases h
  -- the seven signs
  all_goals
    cases h
    exact ⟨rfl, by decide⟩

/-- A sign is read, unless an equality sign behind it makes another of it. -/
theorem readSign?_of_mem {sign t : Text} (hsign : sign ∈ Operator.signs.map Prod.fst)
    (ht : ∀ c ∈ t.head?, c ≠ '=') : readSign? (sign ++ t) = some (sign, t) := by
  have hhead : t.head? ≠ some '=' := fun h => ht '=' h rfl
  simp only [Operator.signs, List.map_cons, List.map_nil, List.mem_cons, List.not_mem_nil,
    or_false] at hsign
  rcases hsign with rfl | rfl | rfl | rfl | rfl | rfl | rfl
  case inr.inr.inr.inl => rfl
  case inr.inr.inr.inr.inl => rfl
  all_goals
    rw [List.singleton_append, readSign?_cons]
    simp [hhead]

theorem isSome_ofSign?_of_mem {sign : Text} (h : sign ∈ Operator.signs.map Prod.fst) :
    (Operator.ofSign? (some sign)).isSome = true := by
  have hall : ∀ t ∈ Operator.signs.map Prod.fst, (Operator.ofSign? (some t)).isSome = true := by
    decide
  exact hall sign h

namespace Condition

/-- A condition all of whose literals some text reads as. -/
def IsRead : Condition → Prop
  | comparison c => c.version.IsRead
  | dashRange d => d.lower.IsRead ∧ d.upper.IsRead

theorem isRead_of_read {s rest : Text} {c : Condition} (h : Condition.read s = .ok (c, rest)) :
    c.IsRead := by
  rw [← toOption_eq_some_iff, toOption_read] at h
  split at h
  · obtain ⟨⟨l, rest'⟩, hl, heq⟩ := Option.map_eq_some_iff.mp h
    cases heq
    exact ⟨_, _, hl⟩
  · obtain ⟨⟨l, r⟩, hl, h⟩ := Option.bind_eq_some_iff.mp h
    split at h
    · cases h
      exact ⟨_, _, hl⟩
    · obtain ⟨⟨u, rest'⟩, hu, heq⟩ := Option.map_eq_some_iff.mp h
      cases heq
      exact ⟨⟨_, _, hl⟩, ⟨_, _, hu⟩⟩

/-- A text that writes a condition: a sign, blanks and a literal; a literal alone; or
a literal, a hyphen with any blanks around it, and another literal. -/
def IsWriting : Condition → Text → Prop
  | comparison c, m =>
    c.version.IsWritten ∧ (∀ s ∈ c.sign, s ∈ Operator.signs.map Prod.fst) ∧
      ∃ w, AllBlank w ∧ (c.sign = none → w = []) ∧ m = c.sign.getD [] ++ w ++ c.version.text
  | dashRange d, m =>
    d.lower.IsWritten ∧ d.upper.IsWritten ∧
      ∃ w₁ w₂, AllBlank w₁ ∧ AllBlank w₂ ∧ m = d.lower.text ++ (w₁ ++ '-' :: w₂) ++ d.upper.text

/-- **A condition is the piece it was read from.** -/
theorem read_eq_ok {s rest : Text} {c : Condition} (h : Condition.read s = .ok (c, rest)) :
    ∃ m, s = m ++ rest ∧ c.IsWriting m := by
  rw [← toOption_eq_some_iff, toOption_read] at h
  split at h
  · rename_i sign r hsign
    obtain ⟨⟨l, rest'⟩, hl, heq⟩ := Option.map_eq_some_iff.mp h
    cases heq
    obtain ⟨hs, hknown⟩ := readSign?_eq_some hsign
    obtain ⟨w, hw, hr⟩ := Text.skipBlanks_decomposition r
    obtain ⟨hskip, hl⟩ := Literal.read?_eq_some hl
    refine ⟨sign ++ w ++ l.text, ?_, hl, by simpa using hknown, w, hw, by simp, rfl⟩
    rw [hs, hr, hskip]
    simp
  · obtain ⟨⟨l, r⟩, hl, h⟩ := Option.bind_eq_some_iff.mp h
    obtain ⟨hs, hl⟩ := Literal.read?_eq_some hl
    split at h
    · cases h
      exact ⟨l.text, hs, hl, by simp, [], Text.allBlank_nil, fun _ => rfl, rfl⟩
    · rename_i r' hdash
      obtain ⟨⟨u, rest'⟩, hu, heq⟩ := Option.map_eq_some_iff.mp h
      cases heq
      obtain ⟨w₁, w₂, hw₁, hw₂, hr⟩ : ∃ w₁ w₂, AllBlank w₁ ∧ AllBlank w₂ ∧
          r = w₁ ++ '-' :: w₂ ++ r' := Literal.readDash?_eq_some hdash
      obtain ⟨hr', hu⟩ := Literal.read?_eq_some hu
      refine ⟨l.text ++ (w₁ ++ '-' :: w₂) ++ u.text, ?_, hl, hu, w₁, w₂, hw₁, hw₂, rfl⟩
      rw [hs, hr, hr']
      simp

/-- Whether the literals of a condition stand in a text and its sign is known. -/
def StandsIn : Condition → Text → Prop
  | comparison c, s => c.version.StandsIn s ∧ (Operator.ofSign? c.sign).isSome = true
  | dashRange d, s => d.lower.StandsIn s ∧ d.upper.StandsIn s

theorem StandsIn.mono {c : Condition} {s t : Text} (h : c.StandsIn s) (hst : s <:+: t) :
    c.StandsIn t := by
  cases c with
  | comparison c => exact ⟨h.1.mono hst, h.2⟩
  | dashRange d => exact ⟨h.1.mono hst, h.2.mono hst⟩

theorem IsWriting.standsIn {c : Condition} {m : Text} (h : c.IsWriting m) : c.StandsIn m := by
  cases c with
  | comparison c =>
    obtain ⟨hl, hknown, w, -, -, rfl⟩ := h
    refine ⟨hl.standsIn.mono (List.suffix_append _ _).isInfix, ?_⟩
    rcases hsign : c.sign with - | sign
    · rfl
    · exact isSome_ofSign?_of_mem (hknown sign hsign)
  | dashRange d =>
    obtain ⟨hl, hu, w₁, w₂, -, -, rfl⟩ := h
    refine ⟨hl.standsIn.mono ⟨[], (w₁ ++ '-' :: w₂) ++ d.upper.text, by simp⟩, ?_⟩
    exact hu.standsIn.mono (List.suffix_append _ _).isInfix

/-- No condition reaches across a bar. -/
theorem IsWriting.bar_notMem {c : Condition} {m : Text} (h : c.IsWriting m) : '|' ∉ m := by
  have hliteral : ∀ {l : Literal}, l.IsWritten → '|' ∉ l.text := fun hl =>
    hl.isWriting.notMem (by decide) hl.isWellFormed
  have hblank : ∀ {w : Text}, AllBlank w → '|' ∉ w := fun hw =>
    Literal.notMem_of_allBlank (by decide) hw
  cases c with
  | comparison c =>
    obtain ⟨hl, hknown, w, hw, -, rfl⟩ := h
    have hsigns : ∀ s ∈ Operator.signs.map Prod.fst, '|' ∉ s := by decide
    have hsign : '|' ∉ c.sign.getD [] := by
      rcases hsign : c.sign with - | sign
      · simp
      · exact hsigns sign (hknown sign hsign)
    simp [hsign, hblank hw, hliteral hl]
  | dashRange d =>
    obtain ⟨hl, hu, w₁, w₂, hw₁, hw₂, rfl⟩ := h
    simp [hliteral hl, hliteral hu, hblank hw₁, hblank hw₂]

theorem readSign?_eq_none_of_read? {s rest : Text} {l : Literal}
    (h : Literal.read? s = some (l, rest)) : readSign? s = none :=
  readSign?_eq_none fun c hc hmem => by
    have hsigns : ['<', '>', '=', '~', '^'].all (!Literal.isLiteralHead ·) = true := by decide
    have hhead := List.all_eq_true.mp hsigns c hmem
    simp [Literal.isLiteralHead_of_read? h c hc] at hhead

/-- A literal to the end of a text is a condition there. -/
theorem read_of_read? {s : Text} {l : Literal} (h : Literal.read? s = some (l, [])) :
    Condition.read s = .ok (.comparison { sign := none, version := l }, []) := by
  rw [← toOption_eq_some_iff, toOption_read, readSign?_eq_none_of_read? h]
  simp only [h, Option.bind_some]
  rfl

/-- And so it is behind a sign. -/
theorem read_of_sign {sign w s : Text} {l : Literal} (hsign : sign ∈ Operator.signs.map Prod.fst)
    (hw : AllBlank w) (h : Literal.read? s = some (l, [])) :
    Condition.read (sign ++ w ++ s) = .ok (.comparison { sign := some sign, version := l }, []) := by
  have hhead : ∀ c ∈ (w ++ s).head?, c ≠ '=' := by
    rintro c hc rfl
    cases w with
    | nil => exact absurd (Literal.isLiteralHead_of_read? h '=' hc) (by decide)
    | cons b w =>
      obtain rfl : b = '=' := Option.some.inj hc
      exact absurd (hw '=' (by simp)) (by decide)
  have hskip : Text.skipBlanks (w ++ s) = s := by
    rw [Text.skipBlanks_append_left hw]
    exact Text.skipBlanks_eq_self fun c hc => (Literal.head_of_read? h c hc).1
  rw [← toOption_eq_some_iff, toOption_read, List.append_assoc, readSign?_of_mem hsign hhead]
  simp only [hskip, h, Option.map_some]

end Condition

end SemverRange
