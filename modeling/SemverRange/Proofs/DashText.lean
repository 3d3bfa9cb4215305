/-
SemverRange/Proofs/DashText.lean

A hyphen between two literals: pre-release or range.

The texts in question consist of a sign with blanks behind it or no sign, a literal of
three fields, a hyphen with any blanks around it, and identifiers with dots between
them (`DashText`).  All of them parse as one comparison, whose literal has the
identifiers for its pre-release (`DashText.parse_text`).  The search for a spaced dash
finds one just in case there are blanks beside the hyphen (`DashText.hasSpacedDash_iff`):
no other blanks are in the text but those behind the sign, and no spaced writing begins
there.  So the text is a range if there are such blanks and the identifiers are a
literal themselves, whatever the sign; and in all other cases it is the comparison that
it parses as (`Requirement.ofText_dashText`).
-/
import SemverRange.Proofs.Outcome

namespace SemverRange

open Text (AllBlank)

/-- The parts of a text that can be meant as a pre-release or as a range. -/
structure DashText where
  /-- The sign of an operator, if there is one. -/
  sign : Option Text
  /-- The blanks behind the sign. -/
  gap : Text
  /-- The letter in front of the numbers, or nothing. -/
  letter : Text
  major : Text
  minor : Text
  patch : Text
  /-- The blanks before the hyphen. -/
  before : Text
  /-- The blanks behind the hyphen. -/
  after : Text
  identifiers : List Identifier
  sign_known : ∀ s ∈ sign, s ∈ Operator.signs.map Prod.fst
  gap_blank : AllBlank gap
  gap_of_sign : sign = none → gap = []
  letter_known : letter ∈ [[], ['v'], ['V']]
  isField_major : IsField major
  isField_minor : IsField minor
  isField_patch : IsField patch
  before_blank : AllBlank before
  after_blank : AllBlank after
  identifiers_ne_nil : identifiers ≠ []
  isIdent : ∀ i ∈ identifiers, IsIdent i

namespace DashText

variable (d : DashText)

/-- The three fields with dots between them. -/
def triple : Text :=
  Text.dotted [d.major, d.minor, d.patch]

/-- The text behind the sign. -/
def writing : Text :=
  d.letter ++ d.triple ++ (d.before ++ '-' :: d.after ++ Text.dotted d.identifiers)

/-- The parts put together. -/
def text : Text :=
  d.sign.getD [] ++ d.gap ++ d.writing

/-- The literal that has the identifiers for its pre-release. -/
def literal : Literal where
  major := some d.major
  minor := some d.minor
  patch := some d.patch
  preRelease := d.identifiers
  text := d.writing

/-- The literal of the three fields alone. -/
def lower : Literal where
  major := some d.major
  minor := some d.minor
  patch := some d.patch
  text := d.triple

/-- Whether there are blanks beside the hyphen. -/
def IsSpaced : Prop :=
  d.before ≠ [] ∨ d.after ≠ []

instance : Decidable d.IsSpaced :=
  inferInstanceAs (Decidable (d.before ≠ [] ∨ d.after ≠ []))

/-! ### What the text reads as -/

theorem isWellFormed_literal : d.literal.IsWellFormed where
  major := ⟨d.major, rfl, d.isField_major⟩
  minor := by simpa [literal] using d.isField_minor
  patch := by simpa [literal] using d.isField_patch
  patch_of_minor := by simp [literal]
  untagged := by simp [literal]
  preRelease := d.isIdent
  build := by simp [literal]

theorem isWriting_literal : d.literal.IsWriting d.writing := by
  refine ⟨d.letter, d.letter_known, d.before ++ '-' :: d.after ++ Text.dotted d.identifiers, [],
    .inr ⟨d.identifiers_ne_nil, d.before, d.after, d.before_blank, d.after_blank, rfl⟩,
    .inl ⟨rfl, rfl⟩, ?_⟩
  rw [List.append_nil]
  rfl

theorem read?_writing : Literal.read? d.writing = some (d.literal, []) :=
  Literal.read?_of_isWriting d.isWellFormed_literal d.isWriting_literal

theorem read_text :
    Condition.read d.text = .ok (.comparison { sign := d.sign, version := d.literal }, []) := by
  rw [text]
  rcases hsign : d.sign with - | sign
  · rw [d.gap_of_sign hsign]
    exact Condition.read_of_read? d.read?_writing
  · exact Condition.read_of_sign (d.sign_known sign hsign) d.gap_blank d.read?_writing

theorem parse_text :
    parse d.text = .ok [[.comparison { sign := d.sign, version := d.literal }]] :=
  parse_of_read d.read_text

theorem getLast?_text : ∀ c ∈ d.text.getLast?, Text.isBlank c = false := by
  intro c hc
  rw [text, writing, ← List.append_assoc, ← List.append_assoc,
    List.getLast?_append_of_ne_nil _ (dotted_ne_nil d.identifiers_ne_nil d.isIdent)] at hc
  exact isBlank_eq_false_of_mem_dotted (fun i hi => (d.isIdent i hi).isBlank_eq_false) c
    (List.mem_of_getLast? hc)

theorem strip_text : Text.strip d.text = d.text :=
  Text.strip_eq_self (fun c hc => (Condition.head_of_read d.read_text c hc).1) d.getLast?_text

theorem isBlank_eq_false_of_mem_triple : ∀ c ∈ d.triple, Text.isBlank c = false := by
  apply isBlank_eq_false_of_mem_dotted
  intro f hf
  have hfield : IsField f := by
    simp only [List.mem_cons, List.not_mem_nil, or_false] at hf
    rcases hf with rfl | rfl | rfl
    exacts [d.isField_major, d.isField_minor, d.isField_patch]
  exact hfield.isBlank_eq_false

theorem ofText?_triple : Literal.ofText? d.triple = some d.lower := by
  have hstrip : Text.strip d.triple = d.triple :=
    Text.trim_eq_self d.isBlank_eq_false_of_mem_triple
  have hwriting : d.lower.IsWriting d.triple :=
    ⟨[], by simp, [], [], .inl ⟨rfl, rfl⟩, .inl ⟨rfl, rfl⟩, by simp; rfl⟩
  rw [Literal.ofText?, hstrip,
    Literal.read?_of_isWriting d.isWellFormed_literal.withoutPreRelease hwriting]
  rfl

/-! ### Where there is a spaced dash -/

theorem isBlank_eq_false_of_mem_writing (hspaced : ¬ d.IsSpaced) :
    ∀ c ∈ d.writing, Text.isBlank c = false := by
  obtain ⟨hbefore, hafter⟩ : d.before = [] ∧ d.after = [] := by
    simpa [IsSpaced, not_or] using hspaced
  intro c hc
  rw [writing, hbefore, hafter, List.nil_append, List.mem_append, List.mem_append,
    List.mem_append, List.mem_singleton] at hc
  rcases hc with (hc | hc) | rfl | hc
  · exact isBlank_eq_false_of_mem_letter d.letter_known c hc
  · exact d.isBlank_eq_false_of_mem_triple c hc
  · decide
  · exact isBlank_eq_false_of_mem_dotted (fun i hi => (d.isIdent i hi).isBlank_eq_false) c hc

/-- **There is a spaced dash just in case blanks stand beside the hyphen.** -/
theorem hasSpacedDash_iff : d.literal.hasSpacedDash d.text = true ↔ d.IsSpaced := by
  rw [Literal.hasSpacedDash_iff]
  constructor
  · rintro ⟨m, hm, hstands⟩
    by_contra hspaced
    obtain ⟨b, hb, hblank⟩ := hm.exists_blank
    have hsigns : (Operator.signs.map Prod.fst).all (List.all · Literal.isForeign) = true := by
      decide
    have hsign : ∀ c ∈ d.sign.getD [], c ∉ m := by
      rcases hs : d.sign with - | sign
      · simp
      · intro c hc
        have hforeign := List.all_eq_true.mp hsigns sign (d.sign_known sign hs)
        exact hm.notMem d.isWellFormed_literal d.identifiers_ne_nil
          (List.all_eq_true.mp hforeign c hc)
    -- the writing reaches neither into the sign nor into the blanks behind it
    rw [text, List.append_assoc, infix_append_of_notMem (List.ne_nil_of_mem hb) hsign,
      ← hm.infix_strip_iff d.isWellFormed_literal d.identifiers_ne_nil,
      Text.strip_append_left d.gap_blank, Text.strip,
      Text.trim_eq_self (d.isBlank_eq_false_of_mem_writing hspaced)] at hstands
    -- and what is left has no blank in it
    rw [d.isBlank_eq_false_of_mem_writing hspaced b (hstands.subset hb)] at hblank
    cases hblank
  · intro hspaced
    refine ⟨_, ⟨d.before, d.after, d.before_blank, d.after_blank, hspaced, rfl⟩, ?_⟩
    refine List.IsSuffix.isInfix ⟨d.sign.getD [] ++ d.gap ++ d.letter, ?_⟩
    simp [text, writing, literal, Literal.tripleText, triple]

/-- With blanks beside the hyphen, and a literal behind it, the comparison is a range. -/
theorem dashRange?_eq_some (hspaced : d.IsSpaced) {upper : Literal}
    (hupper : Literal.ofText? (Text.dotted d.identifiers) = some upper) :
    Comparison.dashRange? { sign := d.sign, version := d.literal } d.text =
      some { lower := d.lower, upper } := by
  rw [Comparison.dashRange?_eq_ite,
    if_pos ⟨d.identifiers_ne_nil, d.hasSpacedDash_iff.mpr hspaced⟩]
  show (Literal.ofText? (Text.dotted d.identifiers)).map _ = _
  rw [hupper]
  rfl

theorem dashRange?_eq_none
    (hnot : ¬ (d.IsSpaced ∧ (Literal.ofText? (Text.dotted d.identifiers)).isSome = true)) :
    Comparison.dashRange? { sign := d.sign, version := d.literal } d.text = none := by
  rw [Comparison.dashRange?_eq_ite]
  split
  · rename_i hdash
    have hspaced : d.IsSpaced := d.hasSpacedDash_iff.mp hdash.2
    show (Literal.ofText? (Text.dotted d.identifiers)).map _ = none
    rw [Option.map_eq_none_iff, ← Option.not_isSome_iff_eq_none]
    exact fun hupper => hnot ⟨hspaced, hupper⟩
  · rfl

end DashText

/-! ### Pre-release or range -/

namespace Requirement

/-- Whether a text compiles to nothing but the clause that is worked out, or is rejected
as that is. -/
def HasOutcome (s : Text) (clause : Except MeaningError Clause) : Prop :=
  match clause with
  | .ok k => ofText s = .ok { text := s, alternatives := [[k]] }
  | .error e => ∃ fragment, e = .rejected fragment ∧
      ofText s = .error { requirement := s, cause := .rejected fragment }

/-- A text of one condition has the outcome of that condition. -/
theorem hasOutcome_of_parse {s : Text} (hs : Text.strip s = s) {c : Condition}
    (hparse : parse s = .ok [[c]]) : HasOutcome s (compileCondition s c).outcome := by
  have hstands : c.StandsIn s := standsIn_of_parse hparse [c] (by simp) c (by simp)
  have hgroups : (Traced.forEach (compileGroup s) [[c]]).outcome
      = (compileCondition s c).outcome.map fun k => [[k]] := by
    have hlast : Group.dashesLast [c] = [c] := by cases c <;> rfl
    rw [Traced.outcome_forEach_cons, compileGroup, hlast, Traced.outcome_forEach_cons]
    rcases (compileCondition s c).outcome with e | k <;> rfl
  rcases h : (compileCondition s c).outcome with e | k
  · -- what fails is rejected for a piece of the text
    obtain ⟨fragment, rfl, -, -⟩ := rejectsPieceOf_of_compileCondition hstands h
    refine ⟨fragment, rfl, ?_⟩
    rw [h] at hgroups
    simp only [ofText, compile, hs, compileStripped, hparse, hgroups]
    rfl
  · rw [h] at hgroups
    show ofText s = _
    simp only [ofText, compile, hs, compileStripped, hparse, hgroups]
    rfl

/-- A text with the outcome of a comparison has no clause of a dash range. -/
theorem HasOutcome.kind_ne_dash {s : Text} {c : Comparison} (h : HasOutcome s c.clause)
    {r : Requirement} (hr : ofText s = .ok r) :
    ∀ ks ∈ r.alternatives, ∀ k ∈ ks, k.kind ≠ .dash := by
  rcases hclause : c.clause with e | k'
  · rw [hclause] at h
    obtain ⟨fragment, -, herror⟩ := h
    rw [herror] at hr
    cases hr
  · obtain ⟨o, ho⟩ := Comparison.kind_of_clause hclause
    rw [hclause] at h
    obtain rfl := Except.ok.inj (h.symm.trans hr)
    simp [ho]

/-- **Pre-release or range.**  The three fields of such a text are a literal.  If there
are blanks beside the hyphen and the identifiers are a literal as well, the text has the
outcome of the range from the one to the other, whatever the sign.  In every other case
it has that of the comparison whose literal has the identifiers for its pre-release, and
no clause of a dash range. -/
theorem ofText_dashText (d : DashText) :
    Literal.ofText? d.triple = some d.lower ∧
    (∀ upper, d.IsSpaced → Literal.ofText? (Text.dotted d.identifiers) = some upper →
      HasOutcome d.text (DashRange.clause { lower := d.lower, upper })) ∧
    (¬ (d.IsSpaced ∧ (Literal.ofText? (Text.dotted d.identifiers)).isSome = true) →
      HasOutcome d.text (Comparison.clause { sign := d.sign, version := d.literal }) ∧
      ∀ r, ofText d.text = .ok r → ∀ ks ∈ r.alternatives, ∀ k ∈ ks, k.kind ≠ .dash) := by
  have houtcome := hasOutcome_of_parse d.strip_text d.parse_text
  rw [outcome_compileCondition_comparison] at houtcome
  refine ⟨d.ofText?_triple, ?_, ?_⟩
  · intro upper hspaced hupper
    rw [d.dashRange?_eq_some hspaced hupper] at houtcome
    exact houtcome
  · intro hnot
    rw [d.dashRange?_eq_none hnot] at houtcome
    exact ⟨houtcome, fun r hr => houtcome.kind_ne_dash hr⟩

/-- Behind a sign a blank beside the hyphen makes a range of the text, and the sign is
dropped; without the blank the sign is kept, and so is the pre-release. -/
theorem ofText_greaterOrEqual_spaced_dash :
    ofText ">= v1.2.3 -2.x".toList =
      .ok { text := ">= v1.2.3 -2.x".toList
            alternatives :=
              [[{ kind := .dash, releasesOnly := true,
                  interval := { lower := .ofTriple (1, 2, 3), upper := .ofTriple (3, 0, 0) } }]] } ∧
    ∃ r, ofText ">= v1.2.3-2.x".toList = .ok r ∧
      r.isMetBy { major := 1, minor := 2, patch := 3, preRelease := [['2'], ['w']] } = false ∧
      r.isMetBy { major := 9, minor := 0, patch := 0 } = true := by
  let dash (before : Text) (hbefore : AllBlank before) : DashText :=
    { sign := some ['>', '='], gap := [' '], letter := ['v'], major := ['1'], minor := ['2'],
      patch := ['3'], before, after := [], identifiers := [['2'], ['x']],
      sign_known := by simp [Operator.signs], gap_blank := by decide, gap_of_sign := by simp,
      letter_known := by simp, isField_major := by decide, isField_minor := by decide,
      isField_patch := by decide, before_blank := hbefore, after_blank := by decide,
      identifiers_ne_nil := by simp, isIdent := by decide }
  refine ⟨?_, ?_⟩
  · have houtcome := (ofText_dashText (dash [' '] (by decide))).2.1
      { major := some ['2'], minor := some ['x'], text := "2.x".toList } (.inl (by simp [dash]))
      (by decide)
    exact houtcome
  · obtain ⟨houtcome, -⟩ := (ofText_dashText (dash [] (by decide))).2.2
      (by simp [dash, DashText.IsSpaced])
    refine ⟨_, houtcome, ?_, ?_⟩
    · decide
    · decide

end Requirement

end SemverRange
