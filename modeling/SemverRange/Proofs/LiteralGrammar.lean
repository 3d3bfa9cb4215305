/-
SemverRange/Proofs/LiteralGrammar.lean

The grammar of literals, and the one way in which a text follows it.

    literal  :=  [vV]? part ( "." part ( "." part pre? build? )? )?
    part     :=  digits | "x" | "X" | "*"
    pre      :=  blanks "-" blanks ident ( "." ident )*
    build    :=  "+" ident ( "." ident )*

A derivation from `literal` is a form (`Literal.Form`): the letter in front, the fields, and
the tags with the blanks around the hyphen.  It says what the text is (`Form.text`) and what
literal is meant (`Form.literal`).

The reader takes the longest piece that fits and never goes back, but it loses nothing by
that: every form is read as its literal (`Form.ofText?_eq_some`), and what is read has a
form (`IsWritten.exists_form`).  Nor is there a choice between forms, for the literal
settles everything but the letter and the blanks, and the text settles those
(`Form.eq_of_text_eq`).
-/
import Mathlib.Data.List.Basic
import SemverRange.Proofs.Writings

namespace SemverRange

open Text (AllBlank)

namespace Literal

/-! ### Forms of the tags -/

/-- What the grammar derives from `pre`. -/
structure PreReleaseForm where
  /-- The blanks before the hyphen. -/
  before : Text
  /-- The blanks behind the hyphen. -/
  after : Text
  identifiers : List Identifier
  before_blank : AllBlank before
  after_blank : AllBlank after
  identifiers_ne_nil : identifiers ≠ []
  isIdent : ∀ i ∈ identifiers, IsIdent i

/-- What the grammar derives from `build`. -/
structure BuildForm where
  identifiers : List Identifier
  identifiers_ne_nil : identifiers ≠ []
  isIdent : ∀ i ∈ identifiers, IsIdent i

/-- The text of a pre-release. -/
def PreReleaseForm.text (p : PreReleaseForm) : Text :=
  p.before ++ '-' :: p.after ++ Text.dotted p.identifiers

/-- The text of build metadata. -/
def BuildForm.text (b : BuildForm) : Text :=
  '+' :: Text.dotted b.identifiers

/-- The identifiers of a pre-release, none if there is no pre-release. -/
def preReleaseOf (p : Option PreReleaseForm) : List Identifier :=
  p.elim [] PreReleaseForm.identifiers

/-- The identifiers of build metadata, none if there is no build metadata. -/
def buildOf (b : Option BuildForm) : List Identifier :=
  b.elim [] BuildForm.identifiers

/-- The text of a pre-release, empty if there is no pre-release. -/
def preReleaseTag (p : Option PreReleaseForm) : Text :=
  p.elim [] PreReleaseForm.text

/-- The text of build metadata, empty if there is no build metadata. -/
def buildTag (b : Option BuildForm) : Text :=
  b.elim [] BuildForm.text

theorem isIdent_of_mem_preReleaseOf {p : Option PreReleaseForm} :
    ∀ i ∈ preReleaseOf p, IsIdent i := by
  cases p with
  | none => simp [preReleaseOf]
  | some p => exact p.isIdent

theorem isIdent_of_mem_buildOf {b : Option BuildForm} : ∀ i ∈ buildOf b, IsIdent i := by
  cases b with
  | none => simp [buildOf]
  | some b => exact b.isIdent

theorem isPreReleaseTag_preReleaseTag (p : Option PreReleaseForm) :
    IsPreReleaseTag (preReleaseOf p) (preReleaseTag p) := by
  cases p with
  | none => exact .inl ⟨rfl, rfl⟩
  | some p =>
    exact .inr ⟨p.identifiers_ne_nil, p.before, p.after, p.before_blank, p.after_blank, rfl⟩

theorem isBuildTag_buildTag (b : Option BuildForm) : IsBuildTag (buildOf b) (buildTag b) := by
  cases b with
  | none => exact .inl ⟨rfl, rfl⟩
  | some b => exact .inr ⟨b.identifiers_ne_nil, rfl⟩

theorem IsPreReleaseTag.exists_form {is : List Identifier} {t : Text} (ht : IsPreReleaseTag is t)
    (his : ∀ i ∈ is, IsIdent i) : ∃ p, preReleaseOf p = is ∧ preReleaseTag p = t := by
  rcases ht with ⟨rfl, rfl⟩ | ⟨hne, w₁, w₂, hw₁, hw₂, rfl⟩
  · exact ⟨none, rfl, rfl⟩
  · exact ⟨some ⟨w₁, w₂, is, hw₁, hw₂, hne, his⟩, rfl, rfl⟩

theorem IsBuildTag.exists_form {is : List Identifier} {t : Text} (ht : IsBuildTag is t)
    (his : ∀ i ∈ is, IsIdent i) : ∃ b, buildOf b = is ∧ buildTag b = t := by
  rcases ht with ⟨rfl, rfl⟩ | ⟨hne, rfl⟩
  · exact ⟨none, rfl, rfl⟩
  · exact ⟨some ⟨is, hne, his⟩, rfl, rfl⟩

/-- Between the same identifiers and the same text in front, the blanks are the same: no
blank is a hyphen. -/
theorem preRelease_eq_of_text_eq {p q : Option PreReleaseForm}
    (hidents : preReleaseOf p = preReleaseOf q) (htext : preReleaseTag p = preReleaseTag q) :
    p = q := by
  have hyphen : ∀ {w : Text}, AllBlank w → '-' ∉ w := fun hw hmem =>
    ne_of_isBlank (hw _ hmem) (by decide) rfl
  cases p with
  | none =>
    cases q with
    | none => rfl
    | some q => exact absurd hidents.symm q.identifiers_ne_nil
  | some p =>
    cases q with
    | none => exact absurd hidents p.identifiers_ne_nil
    | some q =>
      obtain ⟨v₁, v₂, is, hv₁, hv₂, _, _⟩ := p
      obtain ⟨w₁, w₂, js, _, _, _, _⟩ := q
      obtain rfl : is = js := hidents
      -- the hyphen is the first character that is no blank
      have hblanks : v₁ ++ '-' :: v₂ = w₁ ++ '-' :: w₂ := List.append_cancel_right htext
      obtain ⟨rfl, -, rfl⟩ :=
        (List.append_cons_inj_of_notMem (hyphen hv₁) (hyphen hv₂)).mp hblanks
      rfl

theorem build_eq_of_identifiers_eq {b c : Option BuildForm} (h : buildOf b = buildOf c) :
    b = c := by
  cases b with
  | none =>
    cases c with
    | none => rfl
    | some c => exact absurd h.symm c.identifiers_ne_nil
  | some b =>
    cases c with
    | none => exact absurd h b.identifiers_ne_nil
    | some c =>
      obtain ⟨is, _, _⟩ := b
      obtain ⟨js, _, _⟩ := c
      obtain rfl : is = js := h
      rfl

/-! ### Forms of literals -/

/-- What the grammar derives from `literal`: fields are filled from the left, and tags stand
behind a patch number only. -/
@[ext]
structure Form where
  /-- The letter in front of the numbers, or nothing. -/
  letter : Text
  major : Text
  minor : Option Text
  patch : Option Text
  preRelease : Option PreReleaseForm
  build : Option BuildForm
  letter_known : letter ∈ [[], ['v'], ['V']]
  isField_major : IsField major
  isField_minor : ∀ s ∈ minor, IsField s
  isField_patch : ∀ s ∈ patch, IsField s
  patch_of_minor : minor = none → patch = none
  untagged : patch = none → preRelease = none ∧ build = none

namespace Form

variable {f g : Form} {t : Text}

/-- The text of a form. -/
def text (f : Form) : Text :=
  f.letter ++ Text.dotted ([some f.major, f.minor, f.patch].filterMap id)
    ++ preReleaseTag f.preRelease ++ buildTag f.build

/-- The literal that is meant by a form. -/
def literal (f : Form) : Literal where
  major := some f.major
  minor := f.minor
  patch := f.patch
  preRelease := preReleaseOf f.preRelease
  build := buildOf f.build
  text := f.text

theorem isWellFormed_literal (f : Form) : f.literal.IsWellFormed where
  major := ⟨f.major, rfl, f.isField_major⟩
  minor := f.isField_minor
  patch := f.isField_patch
  patch_of_minor := f.patch_of_minor
  untagged := fun hpatch => by
    obtain ⟨hpre, hbuild⟩ := f.untagged hpatch
    simp [literal, hpre, hbuild, preReleaseOf, buildOf]
  preRelease := isIdent_of_mem_preReleaseOf
  build := isIdent_of_mem_buildOf

theorem isWriting_literal (f : Form) : f.literal.IsWriting f.text :=
  ⟨f.letter, f.letter_known, _, _, isPreReleaseTag_preReleaseTag f.preRelease,
    isBuildTag_buildTag f.build, rfl⟩

theorem read?_text (f : Form) : read? f.text = some (f.literal, []) :=
  read?_of_isWriting f.isWellFormed_literal f.isWriting_literal

/-- **Every form is read as its literal.** -/
theorem ofText?_eq_some (h : f.text = Text.strip t) : ofText? t = some f.literal := by
  rw [ofText?, ← h, f.read?_text]

/-- **A text has one form at most.** -/
theorem eq_of_text_eq (h : f.text = g.text) : f = g := by
  have hliteral : f.literal = g.literal := by
    have hread := f.read?_text
    rw [h, g.read?_text] at hread
    simpa using hread.symm
  have hmajor : f.major = g.major := Option.some.inj (congrArg Literal.major hliteral)
  have hminor : f.minor = g.minor := congrArg Literal.minor hliteral
  have hpatch : f.patch = g.patch := congrArg Literal.patch hliteral
  have hidents : preReleaseOf f.preRelease = preReleaseOf g.preRelease :=
    congrArg Literal.preRelease hliteral
  have hbuild : f.build = g.build :=
    build_eq_of_identifiers_eq (congrArg Literal.build hliteral)
  -- without the letter the texts are the same as well, so the letters are
  have hdrop : ∀ e : Form, Text.dropLetter e.text = e.literal.fieldsText
      ++ (preReleaseTag e.preRelease ++ buildTag e.build) := by
    intro e
    rw [text, List.append_assoc, List.append_assoc]
    exact e.isWellFormed_literal.dropLetter_append e.letter_known _
  have hrest : preReleaseTag f.preRelease ++ buildTag f.build
      = preReleaseTag g.preRelease ++ buildTag g.build := by
    have hdropped := hdrop f
    rw [h, hdrop g, hliteral] at hdropped
    exact (List.append_cancel_left hdropped).symm
  have hpre : f.preRelease = g.preRelease := by
    rw [hbuild] at hrest
    exact preRelease_eq_of_text_eq hidents (List.append_cancel_right hrest)
  have hletter : f.letter = g.letter := by
    rw [text, text, hmajor, hminor, hpatch, hpre, hbuild] at h
    exact List.append_cancel_right (List.append_cancel_right (List.append_cancel_right h))
  exact Form.ext hletter hmajor hminor hpatch hpre hbuild

end Form

/-- **What is read has a form.** -/
theorem IsWritten.exists_form {l : Literal} (hl : l.IsWritten) :
    ∃ f : Form, f.text = l.text := by
  obtain ⟨letter, hletter, pre, build, hpre, hbuild, htext⟩ := hl.isWriting
  obtain ⟨major, hmajor, hfield⟩ := hl.isWellFormed.major
  obtain ⟨p, hidents, rfl⟩ := hpre.exists_form hl.isWellFormed.preRelease
  obtain ⟨b, hbuilds, rfl⟩ := hbuild.exists_form hl.isWellFormed.build
  -- no identifiers, no tag: the forms of tags have one identifier at least
  have huntagged : l.patch = none → p = none ∧ b = none := by
    intro hpatch
    obtain ⟨hp, hb⟩ := hl.isWellFormed.untagged hpatch
    rw [hp] at hidents
    rw [hb] at hbuilds
    constructor
    · rcases p with - | p
      · rfl
      · exact absurd hidents p.identifiers_ne_nil
    · exact build_eq_of_identifiers_eq hbuilds
  refine ⟨{
    letter, major
    minor := l.minor
    patch := l.patch
    preRelease := p
    build := b
    letter_known := hletter
    isField_major := hfield
    isField_minor := hl.isWellFormed.minor
    isField_patch := hl.isWellFormed.patch
    patch_of_minor := hl.isWellFormed.patch_of_minor
    untagged := huntagged }, ?_⟩
  rw [htext, fieldsText, hmajor]
  rfl

/-! ### Texts that are literals -/

theorem ofText?_eq_some_iff {t : Text} {l : Literal} :
    ofText? t = some l ↔ read? (Text.strip t) = some (l, []) := by
  rw [ofText?]
  rcases read? (Text.strip t) with - | ⟨l', - | ⟨c, rest⟩⟩ <;> simp

/-- **A text is a literal just in case the grammar derives it**, blanks around it apart.
There is then one derivation only, and it gives the literal that is read: the fields and
the identifiers of that are the ones of the derivation, and it keeps the text. -/
theorem exists_ofText?_iff_exists_form (t : Text) :
    ((∃ l, ofText? t = some l) ↔ ∃ f : Form, f.text = Text.strip t) ∧
      (∀ f : Form, f.text = Text.strip t →
        ofText? t = some {
          major := some f.major
          minor := f.minor
          patch := f.patch
          preRelease := f.preRelease.elim [] (·.identifiers)
          build := f.build.elim [] (·.identifiers)
          text := Text.strip t } ∧
        ∀ g : Form, g.text = Text.strip t → g = f) ∧
      (isLiteral (some t) = true ↔ ∃ f : Form, f.text = Text.strip t) := by
  have hforms : (∃ l, ofText? t = some l) ↔ ∃ f : Form, f.text = Text.strip t := by
    constructor
    · rintro ⟨l, hl⟩
      obtain ⟨hs, hwritten⟩ := read?_eq_some (ofText?_eq_some_iff.mp hl)
      obtain ⟨f, hf⟩ := hwritten.exists_form
      exact ⟨f, by rw [hf, hs, List.append_nil]⟩
    · rintro ⟨f, hf⟩
      exact ⟨f.literal, Form.ofText?_eq_some hf⟩
  refine ⟨hforms, ?_, ?_⟩
  · intro f hf
    refine ⟨?_, fun g hg => Form.eq_of_text_eq (hg.trans hf.symm)⟩
    rw [Form.ofText?_eq_some hf, ← hf]
    rfl
  · rw [← hforms, ← Option.isSome_iff_exists]
    rfl

/-- A letter, a wildcard for the patch number, blanks beside the hyphen and a second hyphen
inside an identifier. -/
theorem form_of_spaced_preRelease :
    ∃ f : Form, f.text = Text.strip "\tv1.2.x -  2.0-rc.1+b.- ".toList ∧
      f.letter = ['v'] ∧
      f.preRelease.map (fun p => (p.before, p.after)) = some ([' '], [' ', ' ']) ∧
      ofText? "\tv1.2.x -  2.0-rc.1+b.- ".toList = some {
        major := some ['1']
        minor := some ['2']
        patch := some ['x']
        preRelease := [['2'], "0-rc".toList, ['1']]
        build := [['b'], ['-']]
        text := "v1.2.x -  2.0-rc.1+b.-".toList } ∧
      ∀ g : Form, g.text = Text.strip "\tv1.2.x -  2.0-rc.1+b.- ".toList → g = f := by
  let f : Form := {
    letter := ['v']
    major := ['1']
    minor := some ['2']
    patch := some ['x']
    preRelease := some ⟨[' '], [' ', ' '], [['2'], "0-rc".toList, ['1']], by decide, by decide,
      by decide, by decide⟩
    build := some ⟨[['b'], ['-']], by decide, by decide⟩
    letter_known := by decide
    isField_major := by decide
    isField_minor := by decide
    isField_patch := by decide
    patch_of_minor := by decide
    untagged := by decide }
  have htext : f.text = Text.strip "\tv1.2.x -  2.0-rc.1+b.- ".toList := by decide
  obtain ⟨-, hform, -⟩ := exists_ofText?_iff_exists_form "\tv1.2.x -  2.0-rc.1+b.- ".toList
  obtain ⟨hread, hunique⟩ := hform f htext
  exact ⟨f, htext, rfl, rfl, by rw [hread, ← htext]; rfl, hunique⟩

end Literal

end SemverRange
