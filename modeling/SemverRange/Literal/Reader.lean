/-
SemverRange/Literal/Reader.lean

Reading version literals.

    literal  :=  [vV]? part ( "." part ( "." part pre? build? )? )?
    part     :=  digits | "x" | "X" | "*"
    pre      :=  blanks "-" blanks ident ( "." ident )*
    build    :=  "+" ident ( "." ident )*
    ident    :=  one or more of 0-9, A-Z, a-z, "-"

Each reader takes the longest piece that fits at the front of a text and hands
back the rest.  Whether the hyphen of `pre` has blanks around it makes no
difference here, so `1.1.1 - 2.2.2` reads as one literal with the pre-release
`2.2.2`; which of the two was meant is settled in `SemverRange.Condition.SpacedDash`.
-/
import SemverRange.Literal.Basic

namespace SemverRange

/-- Whether a character may stand in an identifier. -/
def isIdentChar (c : Char) : Bool :=
  c.isAlphanum || c = '-'

/-- What reading on inside an identifier gives. -/
structure IdentTail where
  /-- The rest of that identifier. -/
  ident : Identifier
  /-- The identifiers that follow it after dots. -/
  others : List Identifier
  /-- The text behind them all. -/
  rest : Text
  deriving DecidableEq, Repr

/-- Goes on reading inside an identifier. -/
def readIdentTail : Text → IdentTail
  | [] => { ident := [], others := [], rest := [] }
  | c :: s =>
    if isIdentChar c then
      let t := readIdentTail s
      { t with ident := c :: t.ident }
    else if c = '.' && s.head?.any isIdentChar then
      let t := readIdentTail s
      { t with ident := [], others := t.ident :: t.others }
    else
      { ident := [], others := [], rest := c :: s }

/-- Reads one or more identifiers with dots between them. -/
def readIdents? (s : Text) : Option (List Identifier × Text) :=
  if s.head?.any isIdentChar then
    let t := readIdentTail s
    some (t.ident :: t.others, t.rest)
  else
    none

namespace Literal

/-- Reads a field: a run of digits or one wildcard. -/
def readPart? : Text → Option (Text × Text)
  | [] => none
  | c :: s =>
    if Text.isDigit c then some (c :: s.takeWhile Text.isDigit, s.dropWhile Text.isDigit)
    else if wildcardMarks.contains c then some ([c], s)
    else none

/-- Reads a dot and a field. -/
def readDotPart? : Text → Option (Text × Text)
  | '.' :: s => readPart? s
  | _ => none

/-- Reads a hyphen with any blanks around it. -/
def readDash? (s : Text) : Option Text :=
  match Text.skipBlanks s with
  | '-' :: t => some (Text.skipBlanks t)
  | _ => none

/-- Reads a pre-release, if there is one. -/
def readPreRelease (s : Text) : List Identifier × Text :=
  ((readDash? s).bind readIdents?).getD ([], s)

/-- Reads build metadata, if there is any. -/
def readBuild : Text → List Identifier × Text
  | '+' :: s => (readIdents? s).getD ([], '+' :: s)
  | s => ([], s)

/-- Reads a literal at the front of a text. -/
def read? (s : Text) : Option (Literal × Text) :=
  match readPart? (Text.dropLetter s) with
  | none => none
  | some (major, r₁) =>
    match readDotPart? r₁ with
    | none => some ({ major, text := Text.before s r₁ }, r₁)
    | some (minor, r₂) =>
      match readDotPart? r₂ with
      | none => some ({ major, minor, text := Text.before s r₂ }, r₂)
      | some (patch, r₃) =>
        let pre := readPreRelease r₃
        let build := readBuild pre.2
        some ({ major, minor, patch, preRelease := pre.1, build := build.1,
                text := Text.before s build.2 }, build.2)

/-- Reads a text that is one literal and nothing else, blanks around it apart. -/
def ofText? (s : Text) : Option Literal :=
  match read? (Text.strip s) with
  | some (l, []) => some l
  | _ => none

/-- Whether there is a text and it is one literal, blanks around it apart. -/
def isLiteral (s : Option Text) : Bool :=
  (s.bind ofText?).isSome

end Literal

/-! ### Each reader drops characters from the front -/

theorem readIdentTail_length_le (s : Text) : (readIdentTail s).rest.length ≤ s.length := by
  induction s with
  | nil => simp [readIdentTail]
  | cons c s ih =>
    simp only [readIdentTail]
    split
    · exact Nat.le_succ_of_le ih
    · split
      · exact Nat.le_succ_of_le ih
      · exact Nat.le_refl _

theorem readIdents?_length_le {s rest : Text} {is : List Identifier}
    (h : readIdents? s = some (is, rest)) : rest.length ≤ s.length := by
  unfold readIdents? at h
  split at h
  · simp only [Option.some.injEq, Prod.mk.injEq] at h
    rw [← h.2]
    exact readIdentTail_length_le s
  · cases h

namespace Literal

theorem readPart?_length_lt {s p rest : Text} (h : readPart? s = some (p, rest)) :
    rest.length < s.length := by
  cases s with
  | nil => cases h
  | cons c s =>
    have hle : (s.dropWhile Text.isDigit).length ≤ s.length :=
      (List.dropWhile_sublist Text.isDigit).length_le
    simp only [readPart?] at h
    split at h
    · simp only [Option.some.injEq, Prod.mk.injEq] at h
      rw [← h.2, List.length_cons]
      omega
    · split at h
      · simp only [Option.some.injEq, Prod.mk.injEq] at h
        simp [← h.2]
      · cases h

theorem readDotPart?_length_lt {s p rest : Text} (h : readDotPart? s = some (p, rest)) :
    rest.length < s.length := by
  unfold readDotPart? at h
  split at h
  · have := readPart?_length_lt h
    simp only [List.length_cons]
    omega
  · cases h

theorem readDash?_length_lt {s rest : Text} (h : readDash? s = some rest) :
    rest.length < s.length := by
  unfold readDash? at h
  split at h
  · rename_i t ht
    have h₁ := Text.length_skipBlanks_le s
    have h₂ := Text.length_skipBlanks_le t
    rw [ht, List.length_cons] at h₁
    cases h
    omega
  · cases h

theorem readPreRelease_length_le (s : Text) : (readPreRelease s).2.length ≤ s.length := by
  unfold readPreRelease
  rcases h : (readDash? s).bind readIdents? with - | ⟨is, rest⟩
  · simp
  · obtain ⟨t, ht, hi⟩ := Option.bind_eq_some_iff.mp h
    have h₁ := readDash?_length_lt ht
    have h₂ := readIdents?_length_le hi
    simp only [Option.getD_some]
    omega

theorem readBuild_length_le (s : Text) : (readBuild s).2.length ≤ s.length := by
  unfold readBuild
  split
  · rename_i t
    rcases h : readIdents? t with - | ⟨is, rest⟩
    · simp
    · have := readIdents?_length_le h
      simp only [Option.getD_some, List.length_cons]
      omega
  · simp

theorem length_dropLetter_le (s : Text) : (Text.dropLetter s).length ≤ s.length := by
  unfold Text.dropLetter
  split <;> simp

/-- A literal takes at least one character. -/
theorem read?_length_lt {s rest : Text} {l : Literal} (h : read? s = some (l, rest)) :
    rest.length < s.length := by
  have h₀ := length_dropLetter_le s
  unfold read? at h
  split at h
  · cases h
  · rename_i major r₁ hmajor
    have h₁ := readPart?_length_lt hmajor
    split at h
    · simp only [Option.some.injEq, Prod.mk.injEq] at h
      rw [← h.2]
      omega
    · rename_i minor r₂ hminor
      have h₂ := readDotPart?_length_lt hminor
      split at h
      · simp only [Option.some.injEq, Prod.mk.injEq] at h
        rw [← h.2]
        omega
      · rename_i patch r₃ hpatch
        have h₃ := readDotPart?_length_lt hpatch
        have h₄ := readPreRelease_length_le r₃
        have h₅ := readBuild_length_le (readPreRelease r₃).2
        simp only [Option.some.injEq, Prod.mk.injEq] at h
        rw [← h.2]
        omega

end Literal

end SemverRange
