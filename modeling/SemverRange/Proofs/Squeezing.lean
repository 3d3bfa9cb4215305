/-
SemverRange/Proofs/Squeezing.lean

Texts with their runs of blanks squeezed.

`Text.squeeze` makes a single space of every run of blanks; two texts are squeezed to
the same just in case they differ in their runs of blanks alone
(`Text.respaced_iff`).  Each reader makes of a squeezed text what it makes of the
text itself, and leaves the rest squeezed (`Literal.read?_squeeze`,
`Condition.toOption_read_squeeze`): where it meets blanks it either skips them all or
stops before them.  So the pieces of a squeezed requirement are its pieces, squeezed, and
each of them is the same group (`segments_squeeze`, `toOption_readGroup_squeeze`); only
the texts that its literals keep are squeezed as well.
-/
import SemverRange.Proofs.Hyphens
import SemverRange.Proofs.Pieces

namespace SemverRange

open Text (AllBlank StartsBlank isBlank skipBlanks)

/-! ### Squeezed texts -/

namespace Text

/-- A text with a single space in place of every run of blanks. -/
def squeeze : Text → Text
  | [] => []
  | c :: s =>
    if isBlank c then (if s.head?.any isBlank then squeeze s else ' ' :: squeeze s)
    else c :: squeeze s

/-- Whether two texts differ in their runs of blanks alone: where one has a run, as long
as it goes, the other has one as well. -/
inductive Respaced : Text → Text → Prop
  | nil : Respaced [] []
  | char {c : Char} {s t : Text} (hc : isBlank c = false) (h : Respaced s t) :
      Respaced (c :: s) (c :: t)
  | run {v w s t : Text} (hv : AllBlank v) (hvne : v ≠ []) (hw : AllBlank w) (hwne : w ≠ [])
      (hs : ∀ c ∈ s.head?, isBlank c = false) (h : Respaced s t) : Respaced (v ++ s) (w ++ t)

theorem squeeze_cons {c : Char} (hc : isBlank c = false) (s : Text) :
    squeeze (c :: s) = c :: squeeze s := by
  rw [squeeze, if_neg (by simp [hc])]

theorem squeeze_blank_cons {b : Char} (hb : isBlank b = true) (s : Text) :
    squeeze (b :: s) = if s.head?.any isBlank then squeeze s else ' ' :: squeeze s := by
  rw [squeeze, if_pos hb]

theorem squeeze_run {w s : Text} (hw : AllBlank w) (hne : w ≠ [])
    (hs : ∀ c ∈ s.head?, isBlank c = false) : squeeze (w ++ s) = ' ' :: squeeze s := by
  induction w with
  | nil => exact absurd rfl hne
  | cons b w ih =>
    obtain ⟨hb, hw⟩ := allBlank_cons.mp hw
    rw [List.cons_append, squeeze_blank_cons hb]
    cases w with
    | nil =>
      rw [List.nil_append, if_neg]
      rw [Option.any_eq_true]
      rintro ⟨c, hc, hblank⟩
      rw [hs c hc] at hblank
      cases hblank
    | cons b' w => rw [if_pos (by simpa using hw b' (by simp)), ih hw (by simp)]

/-- A text and the same text squeezed begin with a blank, if with anything, or both begin
with one and the same character. -/
theorem squeeze_cases (s : Text) :
    (StartsBlank s ∧ StartsBlank (squeeze s)) ∨
      ∃ c t, isBlank c = false ∧ s = c :: t ∧ squeeze s = c :: squeeze t := by
  induction s with
  | nil => exact .inl ⟨allBlank_nil.startsBlank, allBlank_nil.startsBlank⟩
  | cons c s ih =>
    rcases hc : isBlank c with - | -
    · exact .inr ⟨c, s, hc, rfl, squeeze_cons hc s⟩
    · refine .inl ⟨by simpa [StartsBlank] using hc, ?_⟩
      rw [squeeze_blank_cons hc]
      split
      · rename_i hhead
        rcases ih with ⟨-, hs⟩ | ⟨d, t, hd, rfl, -⟩
        · exact hs
        · simp [hd] at hhead
      · intro b hb
        obtain rfl : ' ' = b := Option.some.inj hb
        decide

/-- No character but a blank comes to stand at the front. -/
theorem head?_of_squeeze {s : Text} {c : Char} (hc : isBlank c = false)
    (h : (squeeze s).head? = some c) : s.head? = some c := by
  rcases squeeze_cases s with ⟨-, hs⟩ | ⟨d, t, -, rfl, hst⟩
  · rw [hs c h] at hc
    cases hc
  · rw [hst] at h
    exact h

theorem squeeze_eq_cons_iff {s r : Text} {c : Char} (hc : isBlank c = false) :
    squeeze s = c :: r ↔ ∃ t, s = c :: t ∧ r = squeeze t := by
  constructor
  · intro hs
    obtain ⟨t, rfl⟩ := List.head?_eq_some_iff.mp (head?_of_squeeze hc (by rw [hs]; rfl))
    rw [squeeze_cons hc] at hs
    exact ⟨t, rfl, (List.cons.inj hs).2.symm⟩
  · rintro ⟨t, rfl, rfl⟩
    exact squeeze_cons hc t

theorem head?_any_squeeze {p : Char → Bool} (hp : ∀ {c}, p c = true → isBlank c = false)
    (s : Text) : (squeeze s).head?.any p = s.head?.any p := by
  have hfalse : ∀ {t : Text}, StartsBlank t → t.head?.any p = false := by
    intro t ht
    rw [Option.any_eq_false]
    intro c hc
    simp [ht.head?_eq_false hp c hc]
  rcases squeeze_cases s with ⟨hs, hs'⟩ | ⟨c, t, -, rfl, hst⟩
  · rw [hfalse hs, hfalse hs']
  · rw [hst]
    rfl

theorem takeWhile_squeeze {p : Char → Bool} (hp : ∀ {c}, p c = true → isBlank c = false)
    (s : Text) : (squeeze s).takeWhile p = s.takeWhile p := by
  induction s with
  | nil => rfl
  | cons c s ih =>
    rcases squeeze_cases (c :: s) with ⟨hs, hs'⟩ | ⟨d, t, -, heq, hst⟩
    · have hnone : ∀ {u : Text}, StartsBlank u → u.takeWhile p = [] := fun hu =>
        takeWhile_append_of_head (hu.head?_eq_false hp) []
      rw [hnone hs, hnone hs']
    · obtain ⟨rfl, rfl⟩ := List.cons.inj heq
      rw [hst, List.takeWhile_cons, ih, List.takeWhile_cons]

theorem dropWhile_squeeze {p : Char → Bool} (hp : ∀ {c}, p c = true → isBlank c = false)
    (s : Text) : (squeeze s).dropWhile p = squeeze (s.dropWhile p) := by
  induction s with
  | nil => rfl
  | cons c s ih =>
    rcases squeeze_cases (c :: s) with ⟨hs, hs'⟩ | ⟨d, t, -, heq, hst⟩
    · rw [dropWhile_eq_self (hs'.head?_eq_false hp), dropWhile_eq_self (hs.head?_eq_false hp)]
    · obtain ⟨rfl, rfl⟩ := List.cons.inj heq
      rw [hst, List.dropWhile_cons, ih, List.dropWhile_cons]
      split
      · rfl
      · exact hst.symm

theorem skipBlanks_squeeze (s : Text) : skipBlanks (squeeze s) = squeeze (skipBlanks s) := by
  induction s with
  | nil => rfl
  | cons c s ih =>
    rcases hc : isBlank c with - | -
    · rw [squeeze_cons hc, skipBlanks_eq_self (by simpa using hc),
        skipBlanks_eq_self (by simpa using hc), squeeze_cons hc]
    · have hskip : skipBlanks (c :: s) = skipBlanks s :=
        skipBlanks_append_left (allBlank_cons.mpr ⟨hc, allBlank_nil⟩) s
      rw [hskip, ← ih, squeeze_blank_cons hc]
      split
      · rfl
      · exact skipBlanks_append_left allBlank_space _

/-- Where a text ends in no blank, no run of it goes on in the text behind it. -/
theorem squeeze_append {s : Text} (hs : ∀ c ∈ s.getLast?, isBlank c = false) (t : Text) :
    squeeze (s ++ t) = squeeze s ++ squeeze t := by
  induction s with
  | nil => rfl
  | cons c s ih =>
    cases s with
    | nil =>
      have hc : isBlank c = false := hs c rfl
      rw [List.singleton_append, squeeze_cons hc, squeeze_cons hc]
      rfl
    | cons d s =>
      rw [List.getLast?_cons_cons] at hs
      rcases hc : isBlank c with - | -
      · rw [List.cons_append, squeeze_cons hc, ih hs, squeeze_cons hc]
        rfl
      · rw [List.cons_append, squeeze_blank_cons hc, ih hs, squeeze_blank_cons hc]
        rcases hd : isBlank d with - | - <;> simp [hd]

/-- The blanks at the front of a text are one run. -/
theorem squeeze_skipBlanks {b : Char} (hb : isBlank b = true) (s : Text) :
    squeeze (b :: s) = ' ' :: squeeze (skipBlanks s) := by
  obtain ⟨u, hu, hs⟩ := skipBlanks_decomposition s
  conv_lhs => rw [hs]
  exact squeeze_run (allBlank_cons.mpr ⟨hb, hu⟩) (by simp) (isBlank_head?_skipBlanks s)

theorem squeeze_ne_nil {s : Text} (hs : s ≠ []) : squeeze s ≠ [] := by
  obtain ⟨c, s, rfl⟩ := List.exists_cons_of_ne_nil hs
  rcases hc : isBlank c with - | -
  · rw [squeeze_cons hc]
    simp
  · rw [squeeze_skipBlanks hc]
    simp

theorem isBlank_head?_squeeze (s : Text) :
    (squeeze s).head?.any isBlank = s.head?.any isBlank := by
  cases s with
  | nil => rfl
  | cons c s =>
    rcases hc : isBlank c with - | -
    · rw [squeeze_cons hc]
      rfl
    · rw [squeeze_skipBlanks hc]
      simpa [hc] using (by decide : isBlank ' ' = true)

theorem Respaced.head?_eq {s t : Text} (h : Respaced s t)
    (hs : ∀ c ∈ s.head?, isBlank c = false) : t.head? = s.head? := by
  cases h with
  | nil => rfl
  | char hc h => rfl
  | @run v w s t hv hvne hw hwne _ _ =>
    obtain ⟨b, v, rfl⟩ := List.exists_cons_of_ne_nil hvne
    have hb := hs b rfl
    rw [hv b (by simp)] at hb
    cases hb

theorem Respaced.squeeze_eq {s t : Text} (h : Respaced s t) : squeeze s = squeeze t := by
  induction h with
  | nil => rfl
  | char hc _ ih => rw [squeeze_cons hc, squeeze_cons hc, ih]
  | @run v w s t hv hvne hw hwne hs h ih =>
    -- the other run ends where this one does, for the rests begin alike
    rw [squeeze_run hv hvne hs, squeeze_run hw hwne (by rwa [h.head?_eq hs]), ih]

/-- **Two texts differ in their runs of blanks alone just in case they are squeezed to
the same.** -/
theorem respaced_iff {s t : Text} : Respaced s t ↔ squeeze s = squeeze t := by
  refine ⟨Respaced.squeeze_eq, fun h => ?_⟩
  -- on the length of the text: a character or a whole run goes at each step
  induction hn : s.length using Nat.strongRecOn generalizing s t with
  | ind n ih =>
    subst hn
    cases s with
    | nil =>
      by_cases ht : t = []
      · rw [ht]
        exact .nil
      · exact absurd h.symm (squeeze_ne_nil ht)
    | cons c s =>
      rcases hc : isBlank c with - | -
      · rw [squeeze_cons hc] at h
        obtain ⟨t, rfl, htail⟩ := (squeeze_eq_cons_iff hc).mp h.symm
        exact .char hc (ih s.length (by simp) htail rfl)
      · have hhead := isBlank_head?_squeeze t
        rw [← h, isBlank_head?_squeeze] at hhead
        obtain ⟨b, t, rfl, hb⟩ : ∃ b t', t = b :: t' ∧ isBlank b = true := by
          cases t with
          | nil => simp [hc] at hhead
          | cons b t => exact ⟨b, t, rfl, by simpa [hc] using hhead⟩
        rw [squeeze_skipBlanks hc, squeeze_skipBlanks hb] at h
        have hle := length_skipBlanks_le s
        have hrest := ih (skipBlanks s).length (by rw [List.length_cons]; omega)
          (List.cons.inj h).2 rfl
        obtain ⟨u, hu, hs⟩ := skipBlanks_decomposition s
        obtain ⟨v, hv, ht⟩ := skipBlanks_decomposition t
        rw [hs, ht]
        exact .run (allBlank_cons.mpr ⟨hc, hu⟩) (by simp) (allBlank_cons.mpr ⟨hb, hv⟩) (by simp)
          (isBlank_head?_skipBlanks s) hrest

instance (s t : Text) : Decidable (Respaced s t) :=
  decidable_of_iff _ respaced_iff.symm

end Text

open Text (squeeze)

/-! ### Readers of squeezed texts -/

/-- A reader that makes nothing of blanks has only to be followed where a character
comes first. -/
theorem read_squeeze_of_cons {α : Type} {read : Text → Option (α × Text)}
    (hblank : ∀ {w : Text}, StartsBlank w → read w = none)
    (hcons : ∀ c t, isBlank c = false →
      read (c :: squeeze t) = (read (c :: t)).map (Prod.map id squeeze)) (s : Text) :
    read (squeeze s) = (read s).map (Prod.map id squeeze) := by
  rcases Text.squeeze_cases s with ⟨hs, hs'⟩ | ⟨c, t, hc, rfl, hst⟩
  · rw [hblank hs, hblank hs']
    rfl
  · rw [hst]
    exact hcons c t hc

theorem dropLetter_squeeze (s : Text) :
    Text.dropLetter (squeeze s) = squeeze (Text.dropLetter s) := by
  rcases Text.squeeze_cases s with ⟨hs, hs'⟩ | ⟨c, t, hc, rfl, hst⟩
  · have hnone : ∀ {u : Text}, StartsBlank u → Text.dropLetter u = u := fun hu =>
      dropLetter_append hu []
    rw [hnone hs, hnone hs']
  · rw [hst]
    unfold Text.dropLetter
    split <;> simp_all

theorem readIdentTail_squeeze (s : Text) :
    readIdentTail (squeeze s) =
      { readIdentTail s with rest := squeeze (readIdentTail s).rest } := by
  induction s with
  | nil => rfl
  | cons c s ih =>
    rcases Text.squeeze_cases (c :: s) with ⟨hs, hs'⟩ | ⟨d, t, -, heq, hst⟩
    · rw [readIdentTail_blank hs, readIdentTail_blank hs']
    · obtain ⟨rfl, rfl⟩ := List.cons.inj heq
      rw [hst, readIdentTail, ih, readIdentTail,
        Text.head?_any_squeeze isBlank_eq_false_of_isIdentChar]
      split
      · rfl
      · split
        · rfl
        · rw [hst]

theorem readIdents?_squeeze (s : Text) :
    readIdents? (squeeze s) = (readIdents? s).map (Prod.map id squeeze) := by
  rw [readIdents?, Text.head?_any_squeeze isBlank_eq_false_of_isIdentChar, readIdentTail_squeeze,
    readIdents?]
  split <;> rfl

namespace Literal

theorem readPart?_squeeze (s : Text) :
    readPart? (squeeze s) = (readPart? s).map (Prod.map id squeeze) := by
  have hblank : ∀ {w : Text}, StartsBlank w → readPart? w = none := fun hw => readPart?_append hw []
  refine read_squeeze_of_cons hblank (fun c t _ => ?_) s
  rw [readPart?, Text.takeWhile_squeeze Text.isBlank_eq_false_of_isDigit,
    Text.dropWhile_squeeze Text.isBlank_eq_false_of_isDigit, readPart?]
  split
  · rfl
  · split <;> rfl

theorem readDotPart?_squeeze (s : Text) :
    readDotPart? (squeeze s) = (readDotPart? s).map (Prod.map id squeeze) := by
  have hblank : ∀ {w : Text}, StartsBlank w → readDotPart? w = none := fun hw =>
    readDotPart?_append hw []
  refine read_squeeze_of_cons hblank (fun c t _ => ?_) s
  by_cases hc : c = '.'
  · subst hc
    exact readPart?_squeeze t
  · unfold readDotPart?
    split <;> simp_all

theorem readDash?_squeeze (s : Text) : readDash? (squeeze s) = (readDash? s).map squeeze := by
  rw [readDash?, Text.skipBlanks_squeeze, readDash?]
  rcases Text.squeeze_cases (skipBlanks s) with ⟨hs, hs'⟩ | ⟨c, t, -, heq, hst⟩
  · split
    · rename_i ht
      exact absurd ht (hs'.ne_cons (by decide) _)
    · split
      · rename_i ht
        exact absurd ht (hs.ne_cons (by decide) _)
      · rfl
  · rw [hst, heq]
    by_cases hc : c = '-'
    · subst hc
      exact congrArg some (Text.skipBlanks_squeeze t)
    · split <;> simp_all

theorem readPreRelease_squeeze (s : Text) :
    readPreRelease (squeeze s) = Prod.map id squeeze (readPreRelease s) := by
  rw [readPreRelease, readDash?_squeeze, readPreRelease]
  rcases readDash? s with - | t
  · rfl
  · simp only [Option.map_some, Option.bind_some, readIdents?_squeeze]
    cases readIdents? t <;> rfl

theorem readBuild_squeeze (s : Text) :
    readBuild (squeeze s) = Prod.map id squeeze (readBuild s) := by
  rcases Text.squeeze_cases s with ⟨hs, hs'⟩ | ⟨c, t, hc, rfl, hst⟩
  · have hnone : ∀ {u : Text}, StartsBlank u → readBuild u = ([], u) := fun hu =>
      readBuild_append hu []
    rw [hnone hs, hnone hs']
    rfl
  · rw [hst]
    by_cases hplus : c = '+'
    · subst hplus
      show (readIdents? (squeeze t)).getD ([], '+' :: squeeze t)
        = Prod.map id squeeze ((readIdents? t).getD ([], '+' :: t))
      rw [readIdents?_squeeze]
      cases readIdents? t
      · simp [Text.squeeze_cons hc]
      · rfl
    · unfold readBuild
      split <;> simp_all

/-! ### Literals -/

/-- The literal with the blanks in its text squeezed. -/
def squeezed (l : Literal) : Literal :=
  { l with text := squeeze l.text }

/-- The literal with no text to it. -/
def untexted (l : Literal) : Literal :=
  { l with text := [] }

theorem untexted_read?_squeeze (s : Text) :
    (read? (squeeze s)).map (Prod.map untexted id) =
      (read? s).map (Prod.map untexted squeeze) := by
  rw [read?, dropLetter_squeeze, readPart?_squeeze, read?]
  rcases readPart? (Text.dropLetter s) with - | ⟨major, r₁⟩
  · rfl
  · simp only [Option.map_some, Prod.map, readDotPart?_squeeze]
    rcases readDotPart? r₁ with - | ⟨minor, r₂⟩
    · rfl
    · simp only [Option.map_some, Prod.map, readDotPart?_squeeze]
      rcases readDotPart? r₂ with - | ⟨patch, r₃⟩
      · rfl
      · simp only [Option.map_some, Prod.map, readPreRelease_squeeze, readBuild_squeeze]
        rfl

/-- A written literal ends in no blank. -/
theorem IsWritten.isBlank_getLast?_text {l : Literal} (hl : l.IsWritten) :
    ∀ c ∈ l.text.getLast?, isBlank c = false := by
  intro c hc
  rw [Bool.eq_false_iff]
  intro hblank
  -- the blank would have stayed in the rest
  obtain ⟨m, hm⟩ := List.getLast?_eq_some_iff.mp hc
  have hread := hl.read?_text
  rw [hm, read?_append (Text.allBlank_cons.mpr ⟨hblank, Text.allBlank_nil⟩)] at hread
  obtain ⟨p, -, hp⟩ := Option.map_eq_some_iff.mp hread
  simp [withRest] at hp

/-- **A squeezed text reads as the same literal**, but for the text that it keeps. -/
theorem read?_squeeze (s : Text) :
    read? (squeeze s) = (read? s).map (Prod.map squeezed squeeze) := by
  have huntexted := untexted_read?_squeeze s
  rcases h : read? s with - | ⟨l, rest⟩
  · rw [h] at huntexted
    simpa using huntexted
  · rcases h' : read? (squeeze s) with - | ⟨l', rest'⟩
    · simp [h, h'] at huntexted
    · rw [h, h'] at huntexted
      simp only [Option.map_some, Prod.map, Option.some.injEq, Prod.mk.injEq, id_eq] at huntexted
      obtain ⟨hparts, rfl⟩ := huntexted
      -- the two texts stand before the same rest
      obtain ⟨hs, hl⟩ := read?_eq_some h
      obtain ⟨hs', -⟩ := read?_eq_some h'
      rw [hs, Text.squeeze_append hl.isBlank_getLast?_text] at hs'
      have htext : l'.text = squeeze l.text := (List.append_cancel_right hs').symm
      have hl' : l' = l.squeezed := by
        obtain ⟨major, minor, patch, pre, build, text⟩ := l
        obtain ⟨major', minor', patch', pre', build', text'⟩ := l'
        simp only [untexted, mk.injEq] at hparts
        simp only at htext
        simp [squeezed, hparts, htext]
      simp [hl']

end Literal

/-! ### Conditions -/

/-- The comparison with the blanks in the text of its literal squeezed. -/
def Comparison.squeezed (c : Comparison) : Comparison :=
  { c with version := c.version.squeezed }

/-- The range with the blanks in the texts of its literals squeezed. -/
def DashRange.squeezed (d : DashRange) : DashRange :=
  { lower := d.lower.squeezed, upper := d.upper.squeezed }

/-- The condition with the blanks in the texts of its literals squeezed. -/
def Condition.squeezed : Condition → Condition
  | comparison c => comparison c.squeezed
  | dashRange d => dashRange d.squeezed

theorem readSign?_squeeze (s : Text) :
    readSign? (squeeze s) = (readSign? s).map (Prod.map id squeeze) := by
  have hblank : ∀ {w : Text}, StartsBlank w → readSign? w = none := fun hw => readSign?_append hw []
  refine read_squeeze_of_cons hblank (fun c t _ => ?_) s
  rw [readSign?_cons, readSign?_cons]
  by_cases h : (c = '<' ∨ c = '>') ∧ t.head? = some '='
  · obtain ⟨u, rfl⟩ := List.head?_eq_some_iff.mp h.2
    have hequals : squeeze ('=' :: u) = '=' :: squeeze u := Text.squeeze_cons (by decide) u
    rw [hequals, if_pos ⟨h.1, rfl⟩, if_pos h]
    rfl
  · rw [if_neg (fun h' => h ⟨h'.1, Text.head?_of_squeeze (by decide) h'.2⟩), if_neg h]
    split <;> rfl

theorem Condition.toOption_read_squeeze (s : Text) :
    (Condition.read (squeeze s)).toOption =
      (Condition.read s).toOption.map (Prod.map squeezed squeeze) := by
  rw [toOption_read, readSign?_squeeze, toOption_read]
  rcases readSign? s with - | ⟨sign, r⟩
  · simp only [Option.map_none, Literal.read?_squeeze]
    rcases Literal.read? s with - | ⟨l, r⟩
    · rfl
    · simp only [Option.map_some, Option.bind_some, Prod.map, Literal.readDash?_squeeze]
      rcases Literal.readDash? r with - | r'
      · rfl
      · simp only [Option.map_some, Literal.read?_squeeze]
        rcases Literal.read? r' with - | ⟨u, rest⟩ <;> rfl
  · simp only [Option.map_some, Prod.map, Text.skipBlanks_squeeze, Literal.read?_squeeze]
    rcases Literal.read? (skipBlanks r) with - | ⟨l, rest⟩ <;> rfl

/-! ### Groups -/

theorem readGroup_skipBlanks (s : Text) : readGroup (skipBlanks s) = readGroup s := by
  obtain ⟨u, hu, hs⟩ := Text.skipBlanks_decomposition s
  conv_rhs => rw [hs, readGroup_append_left hu]

/-- **A squeezed text reads as the same group**, but for the texts that its literals
keep. -/
theorem toOption_readGroup_squeeze (s : Text) :
    (readGroup (squeeze s)).toOption =
      (readGroup s).toOption.map (List.map Condition.squeezed) := by
  -- on the length of the text: the rest behind the first condition is shorter
  induction h : s.length using Nat.strongRecOn generalizing s with
  | ind n ih =>
    subst h
    rw [readGroup, Text.skipBlanks_squeeze, readGroup]
    by_cases hs : skipBlanks s = []
    · rw [hs]
      show (readConditions []).toOption = (readConditions []).toOption.map _
      rw [readConditions_nil]
      rfl
    · rw [toOption_readConditions (Text.squeeze_ne_nil hs), toOption_readConditions hs,
        Condition.toOption_read_squeeze]
      rcases hread : Condition.read (skipBlanks s) with e | ⟨c, rest⟩
      · rfl
      · show (match squeeze rest with | [] => _ | b :: rest' => _) = _
        cases rest with
        | nil => rfl
        | cons b rest =>
          have hlt := Condition.read_length_lt hread
          have hle := Text.length_skipBlanks_le s
          rw [List.length_cons] at hlt
          rcases hb : isBlank b with - | -
          · rw [Text.squeeze_cons hb]
            simp [hb, Except.toOption]
          · -- of the blanks behind the condition one is left, and the group skips it
            have hle' := Text.length_skipBlanks_le rest
            have hspace : isBlank ' ' = true := by decide
            rw [Text.squeeze_skipBlanks hb]
            simp only [hspace, if_true, ih (skipBlanks rest).length (by omega) _ rfl,
              readGroup_skipBlanks]
            show _ = Option.map _ (if isBlank b then (readGroup rest).toOption.map (c :: ·) else none)
            rw [if_pos hb]
            cases readGroup rest <;> rfl

/-! ### Pieces -/

theorem head?_any_cutAtBars {p : Char → Bool} (hp : p '|' = false) (s : Text) :
    (cutAtBars s).1.head?.any p = s.head?.any p := by
  cases s with
  | nil => rfl
  | cons c s =>
    by_cases hbars : ∃ t, c :: s = '|' :: '|' :: t
    · obtain ⟨t, ht⟩ := hbars
      rw [ht, cutAtBars]
      simp [hp]
    · rw [cutAtBars_cons fun t ht => hbars ⟨t, ht⟩]
      rfl

/-- The pieces of a squeezed text are the pieces of the text, squeezed. -/
theorem segments_squeeze (s : Text) : segments (squeeze s) = (segments s).map squeeze := by
  induction s using cutAtBars.induct with
  | case1 => rfl
  | case2 s ih =>
    have hbar : isBlank '|' = false := by decide
    rw [Text.squeeze_cons hbar, Text.squeeze_cons hbar, segments_bars, segments_bars, ih]
    rfl
  | case3 c s hne ih =>
    have hbars : ∀ t, c :: s ≠ '|' :: '|' :: t := by
      intro t ht
      obtain ⟨rfl, rfl⟩ := List.cons.inj ht
      exact hne t rfl rfl
    obtain ⟨p, ps, hs, hp⟩ : ∃ p ps, segments s = p :: ps ∧
        p.head?.any isBlank = s.head?.any isBlank :=
      ⟨_, _, rfl, head?_any_cutAtBars (by decide) s⟩
    rw [hs, List.map_cons] at ih
    rw [segments_cons hbars, hs, List.modifyHead_cons, List.map_cons]
    rcases hc : isBlank c with - | -
    · have hbars' : ∀ t, c :: squeeze s ≠ '|' :: '|' :: t := by
        intro t ht
        obtain ⟨rfl, htail⟩ := List.cons.inj ht
        have hhead : s.head? = some '|' :=
          Text.head?_of_squeeze (by decide) (by rw [htail]; rfl)
        obtain ⟨u, rfl⟩ := List.head?_eq_some_iff.mp hhead
        exact hne u rfl rfl
      rw [Text.squeeze_cons hc, Text.squeeze_cons hc, segments_cons hbars', ih,
        List.modifyHead_cons]
    · have hbars' : ∀ t, ' ' :: squeeze s ≠ '|' :: '|' :: t := by
        intro t ht
        cases ht
      rw [Text.squeeze_blank_cons hc, Text.squeeze_blank_cons hc, hp]
      split
      · exact ih
      · rw [segments_cons hbars', ih, List.modifyHead_cons]

end SemverRange
