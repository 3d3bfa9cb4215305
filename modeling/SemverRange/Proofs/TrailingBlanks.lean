/-
SemverRange/Proofs/TrailingBlanks.lean

Readers do not mind blanks at the end of a text.

Each reader makes the same of a text and of the text with blanks behind it, and
leaves the blanks in the rest (`Literal.read?_append`).  A group ends in any rest
that is blank, so it reads the same with them and without (`toOption_readGroup_append`).
What a failing reader hands back does change, since it is the rest of a longer
text; so from conditions on, outcomes are compared without their errors.
-/
import SemverRange.Condition.Reader
import SemverRange.Proofs.LiteralText

namespace SemverRange

open Text (AllBlank StartsBlank isBlank skipBlanks)

variable {w : Text}

/-! ### Blanks as the end of a run -/

theorem Text.StartsBlank.head?_eq_false (hw : StartsBlank w) {p : Char → Bool}
    (hp : ∀ {c}, p c = true → isBlank c = false) : ∀ c ∈ w.head?, p c = false := by
  intro c hc
  rw [Bool.eq_false_iff]
  intro hpc
  have hblank := hw c hc
  rw [hp hpc] at hblank
  cases hblank

theorem head?_any_append (hw : StartsBlank w) {p : Char → Bool}
    (hp : ∀ {c}, p c = true → isBlank c = false) (s : Text) :
    (s ++ w).head?.any p = s.head?.any p := by
  cases s with
  | cons c s => rfl
  | nil =>
    cases w with
    | nil => rfl
    | cons b w => exact hw.head?_eq_false hp b rfl

theorem takeWhile_append_of_head {p : Char → Bool} (hp : ∀ c ∈ w.head?, p c = false) (s : Text) :
    (s ++ w).takeWhile p = s.takeWhile p := by
  induction s with
  | nil =>
    cases w with
    | nil => rfl
    | cons b w => simp [hp b rfl]
  | cons c s ih => rw [List.cons_append, List.takeWhile_cons, ih, List.takeWhile_cons]

theorem dropWhile_append_of_head {p : Char → Bool} (hp : ∀ c ∈ w.head?, p c = false) (s : Text) :
    (s ++ w).dropWhile p = s.dropWhile p ++ w := by
  induction s with
  | nil => exact Text.dropWhile_eq_self hp
  | cons c s ih =>
    rw [List.cons_append, List.dropWhile_cons, ih, List.dropWhile_cons]
    split <;> rfl

theorem ne_of_isBlank {b c : Char} (hb : isBlank b = true) (hc : isBlank c = false) : b ≠ c := by
  rintro rfl
  rw [hb] at hc
  cases hc

/-! ### Literals -/

theorem dropLetter_append (hw : StartsBlank w) (s : Text) :
    Text.dropLetter (s ++ w) = Text.dropLetter s ++ w := by
  cases s with
  | cons c s =>
    unfold Text.dropLetter
    split <;> simp_all
  | nil =>
    show Text.dropLetter w = w
    unfold Text.dropLetter
    split
    · exact absurd rfl (hw.ne_cons (by decide) _)
    · exact absurd rfl (hw.ne_cons (by decide) _)
    · rfl

theorem before_append_append (s rest w : Text) :
    Text.before (s ++ w) (rest ++ w) = Text.before s rest := by
  rw [Text.before, Text.before, List.length_append, List.length_append, Nat.add_sub_add_right,
    List.take_append_of_le_length (Nat.sub_le _ _)]

/-- Appends a text to the rest that a reader hands back. -/
def withRest {α : Type} (w : Text) (read : α × Text) : α × Text :=
  (read.1, read.2 ++ w)

theorem readIdentTail_blank (hw : StartsBlank w) :
    readIdentTail w = { ident := [], others := [], rest := w } :=
  readIdentTail_of_head fun c hc =>
    ⟨hw.head?_eq_false isBlank_eq_false_of_isIdentChar c hc, ne_of_isBlank (hw c hc) (by decide)⟩

theorem readIdentTail_append_blank (hw : StartsBlank w) (s : Text) :
    readIdentTail (s ++ w) =
      { readIdentTail s with rest := (readIdentTail s).rest ++ w } := by
  induction s with
  | nil => exact readIdentTail_blank hw
  | cons c s ih =>
    -- whether an identifier follows a dot does not depend on the blank either
    rw [List.cons_append, readIdentTail, ih, readIdentTail,
      head?_any_append hw isBlank_eq_false_of_isIdentChar]
    split
    · rfl
    · split <;> rfl

theorem readIdents?_append (hw : StartsBlank w) (s : Text) :
    readIdents? (s ++ w) = (readIdents? s).map (withRest w) := by
  rw [readIdents?, head?_any_append hw isBlank_eq_false_of_isIdentChar,
    readIdentTail_append_blank hw, readIdents?]
  split <;> rfl

namespace Literal

theorem readPart?_append (hw : StartsBlank w) (s : Text) :
    readPart? (s ++ w) = (readPart? s).map (withRest w) := by
  cases s with
  | nil =>
    show readPart? w = none
    cases w with
    | nil => rfl
    | cons b w =>
      have hmark : wildcardMarks.contains b = false :=
        hw.head?_eq_false
          (fun hc => isBlank_eq_false_of_mem_wildcardMarks (by simpa using hc)) b rfl
      rw [readPart?, hw.head?_eq_false Text.isBlank_eq_false_of_isDigit b rfl, hmark]
      rfl
  | cons c s =>
    have hdigit := hw.head?_eq_false Text.isBlank_eq_false_of_isDigit
    rw [List.cons_append, readPart?, takeWhile_append_of_head hdigit,
      dropWhile_append_of_head hdigit, readPart?]
    split
    · rfl
    · split <;> rfl

theorem readDotPart?_append (hw : StartsBlank w) (s : Text) :
    readDotPart? (s ++ w) = (readDotPart? s).map (withRest w) := by
  cases s with
  | cons c s =>
    by_cases hc : c = '.'
    · subst hc
      exact readPart?_append hw s
    · rw [List.cons_append]
      unfold readDotPart?
      split <;> simp_all
  | nil =>
    show readDotPart? w = none
    unfold readDotPart?
    split
    · exact absurd rfl (hw.ne_cons (by decide) _)
    · rfl

theorem readDash?_append (hw : AllBlank w) (s : Text) :
    readDash? (s ++ w) = (readDash? s).map fun t => if t = [] then [] else t ++ w := by
  rw [readDash?, Text.skipBlanks_append_right hw, readDash?]
  rcases hs : skipBlanks s with - | ⟨c, t⟩
  · rfl
  · by_cases hc : c = '-'
    · -- the blanks behind the hyphen are skipped as well, unless an end is left
      subst hc
      exact congrArg some (Text.skipBlanks_append_right hw t)
    · have hne : (if c :: t = [] then [] else c :: t ++ w) = c :: (t ++ w) := rfl
      rw [hne]
      split <;> simp_all

/-- A reader that makes nothing of blanks alone reads on behind skipped ones. -/
theorem read_skipped_append {α : Type} {read : Text → Option (α × Text)} (hnil : read [] = none)
    (happend : ∀ t, read (t ++ w) = (read t).map (withRest w)) (t : Text) :
    read (if t = [] then [] else t ++ w) = (read t).map (withRest w) := by
  split
  · rename_i ht
    rw [ht, hnil]
    rfl
  · exact happend t

theorem readPreRelease_append (hw : AllBlank w) (s : Text) :
    readPreRelease (s ++ w) = withRest w (readPreRelease s) := by
  have hidents := read_skipped_append (by rfl) (readIdents?_append hw.startsBlank)
  rw [readPreRelease, readDash?_append hw, readPreRelease]
  rcases readDash? s with - | t
  · -- no hyphen, so `s` is handed back with the blanks behind it
    rfl
  · show (readIdents? (if t = [] then [] else t ++ w)).getD ([], s ++ w)
      = withRest w ((readIdents? t).getD ([], s))
    rw [hidents]
    cases readIdents? t <;> rfl

theorem readBuild_append (hw : StartsBlank w) (s : Text) :
    readBuild (s ++ w) = withRest w (readBuild s) := by
  cases s with
  | cons c s =>
    by_cases hc : c = '+'
    · subst hc
      show (readIdents? (s ++ w)).getD ([], '+' :: (s ++ w))
        = withRest w ((readIdents? s).getD ([], '+' :: s))
      rw [readIdents?_append hw]
      cases readIdents? s <;> rfl
    · rw [List.cons_append]
      unfold readBuild
      split <;> simp_all [withRest]
  | nil =>
    show readBuild w = ([], w)
    unfold readBuild
    split
    · exact absurd rfl (hw.ne_cons (by decide) _)
    · rfl

/-- **Blanks behind a literal stay in the rest.** -/
theorem read?_append (hw : AllBlank w) (s : Text) :
    read? (s ++ w) = (read? s).map (withRest w) := by
  have hhead := hw.startsBlank
  rw [read?, dropLetter_append hhead, readPart?_append hhead, read?]
  rcases readPart? (Text.dropLetter s) with - | ⟨major, r₁⟩
  · rfl
  · simp only [Option.map_some, withRest, readDotPart?_append hhead, before_append_append]
    rcases readDotPart? r₁ with - | ⟨minor, r₂⟩
    · rfl
    · simp only [Option.map_some, withRest, readDotPart?_append hhead, before_append_append]
      rcases readDotPart? r₂ with - | ⟨patch, r₃⟩
      · rfl
      · simp only [Option.map_some, withRest, readPreRelease_append hw, readBuild_append hhead,
          before_append_append]

end Literal

/-! ### Conditions -/

theorem toOption_eq_some_iff {ε α : Type} {e : Except ε α} {a : α} :
    e.toOption = some a ↔ e = .ok a := by
  cases e <;> simp [Except.toOption]

theorem map_eq_error_iff {ε α β : Type} {x : Except ε α} {f : α → β} {e : ε} :
    x.map f = .error e ↔ x = .error e := by
  cases x <;> simp [Except.map]

/-- A sign is one character, and the equality sign behind it if that makes another. -/
theorem readSign?_cons (c : Char) (s : Text) :
    readSign? (c :: s) =
      if (c = '<' ∨ c = '>') ∧ s.head? = some '=' then some ([c, '='], s.tail)
      else if c ∈ ['<', '>', '=', '~', '^'] then some ([c], s)
      else none := by
  have hhead : ∀ {t : Text}, (∀ u, t ≠ '=' :: u) → t.head? ≠ some '=' := by
    intro t ht h
    obtain ⟨u, rfl⟩ := List.head?_eq_some_iff.mp h
    exact ht u rfl
  unfold readSign?
  split
  case h_3 hne h => obtain ⟨rfl, rfl⟩ := List.cons.inj h; simp [hhead hne]
  case h_4 hne h => obtain ⟨rfl, rfl⟩ := List.cons.inj h; simp [hhead hne]
  all_goals simp_all

theorem readSign?_eq_none {s : Text} (hs : ∀ c ∈ s.head?, c ∉ ['<', '>', '=', '~', '^']) :
    readSign? s = none := by
  cases s with
  | nil => rfl
  | cons c s =>
    have hc := hs c rfl
    rw [readSign?_cons, if_neg, if_neg hc]
    rintro ⟨rfl | rfl, -⟩
    · exact hc (by simp)
    · exact hc (by simp)

theorem readSign?_append (hw : StartsBlank w) (s : Text) :
    readSign? (s ++ w) = (readSign? s).map (withRest w) := by
  have hequals : w.head? ≠ some '=' := fun h => absurd (hw '=' h) (by decide)
  rcases s with - | ⟨c, s⟩
  · show readSign? w = none
    unfold readSign?
    split
    case h_8 => rfl
    -- each of the signs begins with a character that is not blank
    all_goals exact absurd rfl (hw.ne_cons (by decide) _)
  · rw [List.cons_append, readSign?_cons, readSign?_cons]
    -- the end of `s` is no place for an equality sign, with a blank behind it or without
    have hhead : (s ++ w).head? = some '=' ↔ s.head? = some '=' := by
      cases s with
      | nil => simp [hequals]
      | cons d s => rfl
    by_cases h : (c = '<' ∨ c = '>') ∧ s.head? = some '='
    · obtain ⟨t, rfl⟩ := List.head?_eq_some_iff.mp h.2
      rw [if_pos ⟨h.1, rfl⟩, if_pos h]
      rfl
    · rw [if_neg (fun h' => h ⟨h'.1, hhead.mp h'.2⟩), if_neg h]
      split <;> rfl

/-- What a condition is read as, errors left out. -/
theorem Condition.toOption_read (s : Text) :
    (Condition.read s).toOption =
      match readSign? s with
      | some (sign, r) =>
        (Literal.read? (skipBlanks r)).map fun p =>
          (.comparison { sign := some sign, version := p.1 }, p.2)
      | none =>
        (Literal.read? s).bind fun p =>
          match Literal.readDash? p.2 with
          | none => some (.comparison { sign := none, version := p.1 }, p.2)
          | some r =>
            (Literal.read? r).map fun q => (.dashRange { lower := p.1, upper := q.1 }, q.2) := by
  rw [Condition.read]
  rcases readSign? s with - | ⟨sign, r⟩
  · rcases Literal.read? s with - | ⟨l, r⟩
    · rfl
    · simp only [Option.bind_some]
      rcases Literal.readDash? r with - | r'
      · rfl
      · simp only
        rcases Literal.read? r' with - | ⟨u, rest⟩ <;> rfl
  · simp only
    rcases Literal.read? (skipBlanks r) with - | ⟨l, rest⟩ <;> rfl

theorem Condition.toOption_read_append (hw : AllBlank w) (s : Text) :
    (Condition.read (s ++ w)).toOption = (Condition.read s).toOption.map (withRest w) := by
  have hskipped := Literal.read_skipped_append (by rfl) (Literal.read?_append hw)
  rw [toOption_read, readSign?_append hw.startsBlank, toOption_read]
  rcases readSign? s with - | ⟨sign, r⟩
  · simp only [Option.map_none, Literal.read?_append hw]
    rcases Literal.read? s with - | ⟨l, r⟩
    · rfl
    · simp only [Option.map_some, Option.bind_some, withRest, Literal.readDash?_append hw]
      rcases Literal.readDash? r with - | r'
      · rfl
      · simp only [Option.map_some, hskipped]
        rcases Literal.read? r' with - | ⟨u, rest⟩ <;> rfl
  · simp only [Option.map_some, withRest, Text.skipBlanks_append_right hw, hskipped]
    rcases Literal.read? (skipBlanks r) with - | ⟨l, rest⟩ <;> rfl

/-! ### Groups -/

theorem readConditions_nil : readConditions [] = .ok [] := by
  rw [readConditions]
  rfl

/-- A group is a condition and, if a blank comes next, the group behind it. -/
theorem toOption_readConditions {s : Text} (hs : s ≠ []) :
    (readConditions s).toOption =
      (Condition.read s).toOption.bind fun p =>
        match p.2 with
        | [] => some [p.1]
        | b :: rest => if isBlank b then (readGroup rest).toOption.map (p.1 :: ·) else none := by
  rw [readConditions, if_neg (by simpa using hs)]
  split
  · rename_i h
    rw [h]
    rfl
  · rename_i h
    rw [h]
    rfl
  · rename_i b rest h
    rw [h]
    show Except.toOption _ = if isBlank b then _ else none
    split
    · rw [readGroup]
      cases readConditions (skipBlanks rest) <;> rfl
    · rfl

theorem readGroup_of_allBlank (hw : AllBlank w) : readGroup w = .ok [] := by
  rw [readGroup, Text.skipBlanks_eq_nil hw, readConditions_nil]

/-- **A group reads the same with blanks behind it.** -/
theorem toOption_readGroup_append (hw : AllBlank w) (s : Text) :
    (readGroup (s ++ w)).toOption = (readGroup s).toOption := by
  -- on the length of the text: the rest behind the first condition is shorter
  induction h : s.length using Nat.strongRecOn generalizing s with
  | ind n ih =>
    subst h
    rw [readGroup, readGroup, Text.skipBlanks_append_right hw]
    split
    · rename_i hs
      rw [hs]
    · rename_i hs
      rw [toOption_readConditions (by simp [hs]), toOption_readConditions hs,
        Condition.toOption_read_append hw]
      rcases hread : Condition.read (skipBlanks s) with e | ⟨c, rest⟩
      · rfl
      · show (match rest ++ w with | [] => _ | b :: rest' => _) = _
        cases rest with
        | cons b rest =>
          have hlt := Condition.read_length_lt hread
          have hle := Text.length_skipBlanks_le s
          rw [List.length_cons] at hlt
          simp only [List.cons_append, ih rest.length (by omega) rest rfl]
          rfl
        | nil =>
          cases w with
          | nil => rfl
          | cons b w =>
            obtain ⟨hb, hw⟩ := Text.allBlank_cons.mp hw
            simp only [List.nil_append, hb, readGroup_of_allBlank hw]
            rfl

theorem readGroup_append_left {u : Text} (hu : AllBlank u) (s : Text) :
    readGroup (u ++ s) = readGroup s := by
  rw [readGroup, Text.skipBlanks_append_left hu, readGroup]

end SemverRange
