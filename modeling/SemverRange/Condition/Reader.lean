/-
SemverRange/Condition/Reader.lean

Reading requirements.

    requirement  :=  group ( "||" group )*
    group        :=  ( condition ( blanks condition )* )?
    condition    :=  sign? blanks literal  |  literal blanks "-" blanks literal

The text is first cut at every `||`, so no condition ever reaches across one.
Inside a piece the readers answer with the rest of the piece; on failure that
rest begins where a literal or a blank was expected, and its length gives the
position of the error (`parse`).
-/
import SemverRange.Condition.Basic
import SemverRange.Literal.Reader

namespace SemverRange

/-- Cuts a text at every `||`.  There is always a first piece. -/
def cutAtBars : Text → Text × List Text
  | [] => ([], [])
  | '|' :: '|' :: s =>
    let cut := cutAtBars s
    ([], cut.1 :: cut.2)
  | c :: s =>
    let cut := cutAtBars s
    (c :: cut.1, cut.2)

/-- The pieces of a text between the `||`. -/
def segments (s : Text) : List Text :=
  (cutAtBars s).1 :: (cutAtBars s).2

/-- Reads the sign of an operator, the longest that fits. -/
def readSign? : Text → Option (Text × Text)
  | '<' :: '=' :: s => some (['<', '='], s)
  | '>' :: '=' :: s => some (['>', '='], s)
  | '<' :: s => some (['<'], s)
  | '>' :: s => some (['>'], s)
  | '=' :: s => some (['='], s)
  | '~' :: s => some (['~'], s)
  | '^' :: s => some (['^'], s)
  | _ => none

/-- Reads one condition.  Only a literal without a sign can open a dash range. -/
def Condition.read (s : Text) : Except Text (Condition × Text) :=
  match readSign? s with
  | some (sign, r) =>
    match Literal.read? (Text.skipBlanks r) with
    | none => .error (Text.skipBlanks r)
    | some (l, rest) => .ok (.comparison { sign := some sign, version := l }, rest)
  | none =>
    match Literal.read? s with
    | none => .error s
    | some (l, r) =>
      match Literal.readDash? r with
      | none => .ok (.comparison { sign := none, version := l }, r)
      | some r' =>
        match Literal.read? r' with
        | none => .error r'
        | some (u, rest) => .ok (.dashRange { lower := l, upper := u }, rest)

/-! ### Each reader drops characters from the front -/

theorem readSign?_length_lt {s sign rest : Text} (h : readSign? s = some (sign, rest)) :
    rest.length < s.length := by
  unfold readSign? at h
  split at h
  -- the seven signs, and a text without one
  case h_8 => cases h
  all_goals
    simp only [Option.some.injEq, Prod.mk.injEq] at h
    rw [← h.2]
    simp only [List.length_cons]
    omega

/-- A condition takes at least one character. -/
theorem Condition.read_length_lt {s rest : Text} {c : Condition}
    (h : Condition.read s = .ok (c, rest)) : rest.length < s.length := by
  unfold Condition.read at h
  split at h
  · rename_i sign r hsign
    have h₁ := readSign?_length_lt hsign
    have h₂ := Text.length_skipBlanks_le r
    split at h
    · cases h
    · rename_i l rest' hl
      have h₃ := Literal.read?_length_lt hl
      simp only [Except.ok.injEq, Prod.mk.injEq] at h
      rw [← h.2]
      omega
  · split at h
    · cases h
    · rename_i l r hl
      have h₁ := Literal.read?_length_lt hl
      split at h
      · simp only [Except.ok.injEq, Prod.mk.injEq] at h
        rw [← h.2]
        exact h₁
      · rename_i r' hdash
        have h₂ := Literal.readDash?_length_lt hdash
        split at h
        · cases h
        · rename_i u rest' hu
          have h₃ := Literal.read?_length_lt hu
          simp only [Except.ok.injEq, Prod.mk.injEq] at h
          rw [← h.2]
          omega

/-! ### Groups and requirements -/

/-- Reads the conditions of a piece that does not begin with a blank. -/
def readConditions (s : Text) : Except Text Group :=
  if s.isEmpty then .ok []
  else
    match _h : Condition.read s with
    | .error rest => .error rest
    | .ok (c, []) => .ok [c]
    | .ok (c, b :: rest) =>
      if Text.isBlank b then (readConditions (Text.skipBlanks rest)).map (c :: ·)
      else .error (b :: rest)
termination_by s.length
decreasing_by
  have h₁ := Condition.read_length_lt ‹Condition.read s = _›
  have h₂ := Text.length_skipBlanks_le rest
  simp only [List.length_cons] at h₁
  omega

/-- Reads the group that a piece of a requirement writes. -/
def readGroup (s : Text) : Except Text Group :=
  readConditions (Text.skipBlanks s)

/-- Reads the groups of consecutive pieces, the first of which begins at
position `start`. -/
def readGroups (start : Nat) : List Text → Except Nat (List Group)
  | [] => .ok []
  | s :: pieces =>
    match readGroup s with
    | .error rest => .error (start + (s.length - rest.length))
    | .ok g => (readGroups (start + s.length + 2) pieces).map (g :: ·)

/-- Reads a requirement, or answers with the position at which it stops making
sense. -/
def parse (s : Text) : Except Nat (List Group) :=
  readGroups 0 (segments s)

end SemverRange
