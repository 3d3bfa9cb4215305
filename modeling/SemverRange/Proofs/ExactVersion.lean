/-
SemverRange/Proofs/ExactVersion.lean

A version, used as a requirement, asks for itself.

Texts are read as versions by one grammar and as literals by another.  Where the
first accepts a text, the second reads it to its end and finds the same parts
(`Version.Parts.IsSound.read?_eq_some`), so the requirement is a single
comparison.  There is no blank in it and hence no dash range, and its clause is
the half-open interval from the version to itself.  What lies in there is what is
equivalent to the version (`Requirement.ofText_of_version`).
-/
import SemverRange.Proofs.Alternatives
import SemverRange.Proofs.Composition
import SemverRange.Proofs.VersionText

namespace SemverRange

/-! ### The characters of a version -/

namespace Version

/-- Whether a character may stand in a version text. -/
def isVersionChar (c : Char) : Bool :=
  Text.isDigit c || isIdentChar c || c = '.' || c = '+'

theorem isBlank_eq_false_of_isVersionChar {c : Char} (hc : isVersionChar c = true) :
    Text.isBlank c = false := by
  simp only [isVersionChar, Bool.or_eq_true, decide_eq_true_eq] at hc
  rcases hc with ((hc | hc) | rfl) | rfl
  · exact Text.isBlank_eq_false_of_isDigit hc
  · exact isBlank_eq_false_of_isIdentChar hc
  · decide
  · decide

theorem isVersionChar_of_isTagChar {c : Char} (hc : isTagChar c = true) :
    isVersionChar c = true := by
  by_cases hdot : c = '.'
  · simp [isVersionChar, hdot]
  · simp [isVersionChar, isIdentChar_of_isTagChar hc hdot]

theorem isVersionChar_of_mem_tagText {mark c : Char} {tag : Option Text}
    (hmark : isVersionChar mark = true) (htag : ∀ t ∈ tag, t ≠ [] ∧ ∀ c ∈ t, isTagChar c = true)
    (hc : c ∈ tagText mark tag) : isVersionChar c = true := by
  cases tag with
  | none => cases hc
  | some t =>
    rcases List.mem_cons.mp hc with rfl | hct
    · exact hmark
    · exact isVersionChar_of_isTagChar ((htag t rfl).2 c hct)

theorem Parts.IsWellFormed.isVersionChar {p : Parts} (hp : p.IsWellFormed) :
    ∀ c ∈ p.text, isVersionChar c = true := by
  have hdigits : ∀ {ds : Text}, (∀ c ∈ ds, Text.isDigit c = true) →
      ∀ c ∈ ds, Version.isVersionChar c = true := by
    intro ds hds c hc
    simp [Version.isVersionChar, hds c hc]
  intro c hc
  simp only [Parts.text, List.mem_append, List.mem_cons] at hc
  rcases hc with hc | rfl | hc | rfl | hc | hc | hc
  · exact hdigits hp.major.2 c hc
  · decide
  · exact hdigits hp.minor.2 c hc
  · decide
  · exact hdigits hp.patch.2 c hc
  · exact isVersionChar_of_mem_tagText (by decide) hp.preRelease hc
  · exact isVersionChar_of_mem_tagText (by decide) hp.build hc

theorem isVersionChar_of_dropLetter {s : Text}
    (hs : ∀ c ∈ Text.dropLetter s, isVersionChar c = true) : ∀ c ∈ s, isVersionChar c = true := by
  unfold Text.dropLetter at hs
  split at hs
  · -- the letter itself may stand in an identifier
    simpa using ⟨by decide, hs⟩
  · simpa using ⟨by decide, hs⟩
  · exact hs

/-! ### The literal of a version -/

/-- The literal that a version text reads as. -/
def Parts.literal (p : Parts) (text : Text) : Literal where
  major := some p.major
  minor := some p.minor
  patch := some p.patch
  preRelease := identifiers p.preRelease
  build := identifiers p.build
  text := text

theorem isPreReleaseTag_tagText {tag : Option Text} :
    Literal.IsPreReleaseTag (identifiers tag) (tagText '-' tag) := by
  cases tag with
  | none => exact .inl ⟨rfl, rfl⟩
  | some t =>
    refine .inr ⟨List.splitOn_ne_nil '.' t, [], [], Text.allBlank_nil, Text.allBlank_nil, ?_⟩
    rw [dotted_identifiers]
    rfl

theorem isBuildTag_tagText {tag : Option Text} :
    Literal.IsBuildTag (identifiers tag) (tagText '+' tag) := by
  cases tag with
  | none => exact .inl ⟨rfl, rfl⟩
  | some t =>
    refine .inr ⟨List.splitOn_ne_nil '.' t, ?_⟩
    rw [dotted_identifiers]
    rfl

theorem Parts.IsSound.isWellFormed {p : Parts} (hp : p.IsSound) (s : Text) :
    (p.literal s).IsWellFormed where
  major := ⟨p.major, rfl, .inl hp.major⟩
  minor := by
    rintro s ⟨⟩
    exact .inl hp.minor
  patch := by
    rintro s ⟨⟩
    exact .inl hp.patch
  patch_of_minor := by simp [Parts.literal]
  untagged := by simp [Parts.literal]
  preRelease := hp.isIdent_preRelease
  build := hp.isIdent_build

/-- **Both grammars find the same parts.** -/
theorem Parts.IsSound.read?_eq_some {p : Parts} (hp : p.IsSound) {s : Text}
    (hs : Text.dropLetter s = p.text) : Literal.read? s = some (p.literal s, []) := by
  obtain ⟨letter, hletter, hletters⟩ := Text.dropLetter_decomposition s
  refine Literal.read?_of_isWriting (hp.isWellFormed s) ⟨letter, hletter, _, _,
    isPreReleaseTag_tagText, isBuildTag_tagText, ?_⟩
  rw [hletters, hs]
  simp [Parts.text, Parts.literal, Literal.fieldsText, Text.dotted_cons]

/-- The literal of a version stands for that version alone. -/
theorem Parts.IsSound.clauseFor_equal {p : Parts} (hp : p.IsSound) (s : Text) :
    Comparison.clauseFor .equal (p.literal s) =
      .ok { kind := .comparison .equal,
            interval := { lower := p.toVersion, upper := p.toVersion, hasUpper := false } } := by
  have hl : (p.literal s).IsWellFormed := hp.isWellFormed s
  have hmajor : isWildcard (some p.major) = false := isWildcard_of_digits hp.major.1 hp.major.2
  have hminor : isWildcard (some p.minor) = false := isWildcard_of_digits hp.minor.1 hp.minor.2
  have hpatch : isWildcard (some p.patch) = false := isWildcard_of_digits hp.patch.1 hp.patch.2
  have hany : (p.literal s).isAny = false := hmajor
  have hfault : (p.literal s).fault? = none := by
    have hstrip : Text.strip p.major = p.major :=
      Text.trim_eq_self fun c hc => Text.isBlank_eq_false_of_isDigit (hp.major.2 c hc)
    have hshown : p.major.all Text.isDigitLike = true := by
      rw [List.all_eq_true]
      intro c hc
      simp [Text.isDigitLike, hp.major.2 c hc]
    simp [Literal.fault?, Literal.isAny, Parts.literal, hmajor, hminor, hpatch, hstrip, hshown]
  have hversion : (p.literal s).version = p.toVersion := by
    simp [Literal.version, Parts.literal, fieldValue, hmajor, hminor, hpatch, Parts.toVersion]
  have hlowest : (p.literal s).lowest = .ok p.toVersion :=
    (Literal.lowest_eq_ok_iff hl hany).mpr ⟨hfault, hp.faultless, hversion.symm⟩
  rw [Comparison.clauseFor_eq_ok_iff hany]
  refine ⟨p.toVersion, _, hlowest, ?_, rfl⟩
  rw [Operator.intervalFrom, Literal.highest_eq_lowest hany hminor hpatch, hlowest]
  rfl

end Version

/-! ### The requirement of a version -/

/-- The half-open interval from a version to itself holds what is equivalent to it. -/
theorem Interval.contains_to_itself (v w : Version) :
    Interval.contains { lower := v, upper := v, hasUpper := false } w = w.isEquivalentTo v := by
  have hbetween : (w.isNewerThan v && w.isOlderThan v) = false := by
    rcases h : w.isOlderThan v with - | -
    · simp
    · simp [Version.isNewerThan, Version.isOlderThan_asymm h]
  simp [Interval.contains, hbetween]

namespace Requirement

/-- **A version asks for itself.**  Any text that is a version compiles as a
requirement, to the one comparison with that version; and the requirement is met
by the versions with its numbers and its pre-release, whatever their build
metadata. -/
theorem ofText_of_version {t : Text} {v : Version} (hv : Version.ofText t = .ok v) :
    ∃ r, ofText t = .ok r ∧
      r.alternatives = [[{ kind := .comparison .equal,
                           interval := { lower := v, upper := v, hasUpper := false } }]] ∧
      ∀ w, (r.isMetBy w = true ↔ w.isEquivalentTo v = true) ∧
        (r.isMetBy w = true ↔ w.triple = v.triple ∧ w.preRelease = v.preRelease) := by
  obtain ⟨p, htext, hp, rfl⟩ := Version.ofText_eq_ok hv
  have hchars : ∀ c ∈ Text.strip t, Version.isVersionChar c = true :=
    Version.isVersionChar_of_dropLetter (htext ▸ hp.isVersionChar)
  have hparse := parse_of_read? (hp.read?_eq_some htext)
  have hdash : Comparison.dashRange? { sign := none, version := p.literal (Text.strip t) }
      (Text.strip t) = none :=
    Comparison.dashRange?_of_no_blank fun c hc =>
      Version.isBlank_eq_false_of_isVersionChar (hchars c hc)
  let k : Clause :=
    { kind := .comparison .equal,
      interval := { lower := p.toVersion, upper := p.toVersion, hasUpper := false } }
  have hmeets : ∀ w, isMetBy ⟨Text.strip t, [[k]]⟩ w = w.isEquivalentTo p.toVersion := by
    intro w
    simp [isMetBy, meetsAny, meetsAll, Clause.isMetBy, k, Interval.contains_to_itself]
  refine ⟨⟨Text.strip t, [[k]]⟩, ?_, rfl, fun w => ?_⟩
  · rw [ofText_eq_ok_iff]
    refine ⟨rfl, _, hparse, ?_⟩
    have hgroup : (compileGroup (Text.strip t)
        [.comparison { sign := none, version := p.literal (Text.strip t) }]).outcome
          = .ok [k] := by
      rw [compileGroup, Traced.forEach_eq_ok_iff]
      show [(compileCondition _ (.comparison _)).outcome] = [.ok k]
      rw [outcome_compileCondition_comparison, hdash]
      exact congrArg (fun x => [x]) (hp.clauseFor_equal _)
    rw [outcomes, List.map_singleton, hgroup]
    rfl
  · rw [hmeets w, ← Version.isEquivalentTo_iff]
    exact ⟨Iff.rfl, Iff.rfl⟩

/-- A pre-release that looks like a version is no end of a range. -/
theorem ofText_of_preRelease_like_version :
    ∃ r, ofText " v1.1.1-2.2.2+b ".toList = .ok r ∧
      r.isMetBy { major := 1, minor := 1, patch := 1, preRelease := [['2'], ['2'], ['2']] } = true ∧
      r.isMetBy { major := 1, minor := 1, patch := 1 } = false ∧
      r.isMetBy { major := 2, minor := 0, patch := 0 } = false := by
  let v : Version :=
    { major := 1, minor := 1, patch := 1, preRelease := [['2'], ['2'], ['2']], build := [['b']] }
  have hv : Version.ofText " v1.1.1-2.2.2+b ".toList = .ok v := by decide
  obtain ⟨r, hr, -, hmeets⟩ := ofText_of_version hv
  refine ⟨r, hr, ?_, ?_, ?_⟩
  · exact (hmeets _).1.mpr (by decide)
  · rw [Bool.eq_false_iff, Ne, (hmeets _).1]
    decide
  · rw [Bool.eq_false_iff, Ne, (hmeets _).1]
    decide

end Requirement

end SemverRange
