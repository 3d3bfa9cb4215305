/-
SemverRange/Proofs/LiteralBounds.lean

The bounds of a well-formed literal.

A field that the grammar admits has a number (`fieldNumber_eq_ok`), so all that
can stand against a bound is the fault of the literal or of its pre-release.
Where there is a lowest version it is the one that the literal writes, open
fields counting as zero (`Literal.lowest_eq_ok_iff`): with an open field there are no
tags to lose.  The clause of an operator then follows from its interval alone
(`Comparison.clauseFor_eq_ok_iff`).  Bounds are canonical, all four of them
(`Literal.isCanonical_of_lowest` and its like).
-/
import SemverRange.Clause
import SemverRange.Proofs.LiteralText
import SemverRange.Proofs.Precedence

namespace SemverRange

theorem bind_eq_ok_iff {ε α β : Type} {x : Except ε α} {f : α → Except ε β} {b : β} :
    x >>= f = .ok b ↔ ∃ a, x = .ok a ∧ f a = .ok b := by
  rcases x with e | a <;> simp [bind, Except.bind]

/-! ### Numbers of fields -/

/-- The number that a field writes, an open field counting as zero. -/
def fieldValue (field : Option Text) : Int :=
  if isWildcard field then 0 else Text.decimalValue (field.getD [])

theorem isWildcard_of_mem_wildcardMarks {c : Char} (hc : c ∈ wildcardMarks) :
    isWildcard (some [c]) = true := by
  have hstrip : Text.strip [c] = [c] :=
    Text.trim_eq_self (by simpa using isBlank_eq_false_of_mem_wildcardMarks hc)
  simp only [isWildcard, hstrip]
  simpa using hc

theorem isWildcard_of_digits {s : Text} (hne : s ≠ []) (hs : ∀ c ∈ s, Text.isDigit c = true) :
    isWildcard (some s) = false := by
  have hstrip : Text.strip s = s :=
    Text.trim_eq_self fun c hc => Text.isBlank_eq_false_of_isDigit (hs c hc)
  have hmarks : wildcardMarks.all (!Text.isDigit ·) = true := by decide
  rw [isWildcard, hstrip]
  split
  · exact absurd rfl hne
  · rename_i c
    rw [Bool.eq_false_iff]
    intro hmark
    have hdigit := List.all_eq_true.mp hmarks c (by simpa using hmark)
    simp [hs c (by simp)] at hdigit
  · rfl

theorem fieldNumber_eq_ok {field : Option Text} (hfield : ∀ s ∈ field, IsField s) :
    fieldNumber field = .ok (fieldValue field) := by
  cases field with
  | none => rfl
  | some s =>
    rw [fieldNumber, fieldValue]
    rcases hfield s rfl with ⟨hne, hdigits⟩ | ⟨c, hc, rfl⟩
    · rw [isWildcard_of_digits hne hdigits, Text.Numeral.read?_of_digits hne hdigits]
      rfl
    · rw [isWildcard_of_mem_wildcardMarks hc]
      rfl

/-! ### Versions from parts -/

theorem sound_of_preReleaseFault?_eq_none {ids : List Identifier}
    (h : preReleaseFault? ids = none) : ∀ i ∈ ids, i ≠ [] ∧ i.hasLeadingZero = false := by
  intro i hi
  have := List.findSome?_eq_none_iff.mp h i hi
  split at this
  · cases this
  · split at this
    · cases this
    · rename_i hne hzero
      exact ⟨by simpa using hne, by simpa using hzero⟩

theorem isCanonical_of_isIdent {i : Identifier} (hi : IsIdent i)
    (hzero : i.hasLeadingZero = false) : i.IsCanonical where
  ascii := fun c hc => lt_128_of_isIdentChar (hi.2 c hc)
  noLeadingZero := hzero

theorem isOrdered_of_isIdent {i : Identifier} (hi : IsIdent i) : i.isOrdered = true := by
  rw [Identifier.isOrdered, Bool.or_eq_true]
  right
  simpa using fun c hc => lt_128_of_isIdentChar (hi.2 c hc)

theorem buildFault?_eq_none {ids : List Identifier} (hids : ∀ i ∈ ids, i ≠ []) :
    buildFault? ids = none := by
  rw [buildFault?, List.findSome?_eq_none_iff]
  intro i hi
  simp [hids i hi]

namespace Version

/-- The release with the given numbers. -/
def ofTriple (t : Int × Int × Int) : Version :=
  { major := t.1, minor := t.2.1, patch := t.2.2 }

@[simp] theorem major_ofTriple (t : Int × Int × Int) : (ofTriple t).major = t.1 := rfl

@[simp] theorem minor_ofTriple (t : Int × Int × Int) : (ofTriple t).minor = t.2.1 := rfl

@[simp] theorem triple_ofTriple (t : Int × Int × Int) : (ofTriple t).triple = t := rfl

@[simp] theorem preRelease_ofTriple (t : Int × Int × Int) : (ofTriple t).preRelease = [] := rfl

theorem ofParts?_eq_some {major minor patch : Int} {pre build : List Identifier} {v : Version}
    (h : ofParts? major minor patch pre build = some v) :
    v = { major, minor, patch, preRelease := pre, build } ∧ preReleaseFault? pre = none := by
  rw [ofParts?] at h
  split at h
  · rename_i hsound
    simp only [Bool.and_eq_true, Option.isNone_iff_eq_none] at hsound
    cases h
    exact ⟨rfl, hsound.1.1⟩
  · cases h

/-- Identifiers of a literal only ever fail by a zero in front. -/
theorem ofParts?_of_isIdent {pre build : List Identifier} (hpre : ∀ i ∈ pre, IsIdent i)
    (hbuild : ∀ i ∈ build, IsIdent i) (hfault : preReleaseFault? pre = none)
    (major minor patch : Int) :
    ofParts? major minor patch pre build
      = some { major, minor, patch, preRelease := pre, build } := by
  have hbuildFault : buildFault? build = none := buildFault?_eq_none fun i hi => (hbuild i hi).1
  have hordered : (pre ++ build).all Identifier.isOrdered = true := by
    rw [List.all_eq_true]
    intro i hi
    rcases List.mem_append.mp hi with hi | hi
    · exact isOrdered_of_isIdent (hpre i hi)
    · exact isOrdered_of_isIdent (hbuild i hi)
  rw [ofParts?, hfault, hbuildFault, hordered]
  rfl

end Version

theorem versionOrBlame_eq_ok_iff {major minor patch : Int} {pre build : List Identifier}
    {fragment : Text} {v : Version} :
    versionOrBlame major minor patch pre build fragment = .ok v ↔
      Version.ofParts? major minor patch pre build = some v := by
  rw [versionOrBlame]
  cases Version.ofParts? major minor patch pre build <;> simp

namespace Literal

/-! ### The way to a bound -/

/-- A bound by way of the check of a literal and of its numbers. -/
def boundBy (l : Literal) (ofAny : Version)
    (ofNumbers : Int × Int × Int → Except MeaningError Version) : Except MeaningError Version := do
  l.check
  if l.isAny then return ofAny
  ofNumbers (← l.numbers)

theorem lowest_eq_boundBy (l : Literal) :
    l.lowest = l.boundBy .least fun n =>
      if isWildcard l.minor || isWildcard l.patch then l.release n.1 n.2.1 n.2.2
      else versionOrBlame n.1 n.2.1 n.2.2 l.preRelease l.build l.toText := rfl

theorem highest_eq_boundBy (l : Literal) :
    l.highest = l.boundBy .greatest fun n =>
      if isWildcard l.minor then l.release (n.1 + 1) 0 0
      else if isWildcard l.patch then l.release n.1 (n.2.1 + 1) 0
      else versionOrBlame n.1 n.2.1 n.2.2 l.preRelease l.build l.toText := rfl

section

variable {l : Literal} {ofAny : Version}
  {ofNumbers : Int × Int × Int → Except MeaningError Version}

theorem boundBy_of_check_eq_error {e : MeaningError} (h : l.check = .error e) :
    l.boundBy ofAny ofNumbers = .error e := by
  rw [boundBy, h]
  rfl

theorem boundBy_of_isAny (h : l.check = .ok ()) (hany : l.isAny = true) :
    l.boundBy ofAny ofNumbers = .ok ofAny := by
  rw [boundBy, h, hany]
  rfl

theorem boundBy_of_given (h : l.check = .ok ()) (hany : l.isAny = false) :
    l.boundBy ofAny ofNumbers = l.numbers >>= ofNumbers := by
  rw [boundBy, h, hany]
  rfl

theorem check_of_boundBy {v : Version} (h : l.boundBy ofAny ofNumbers = .ok v) :
    l.check = .ok () := by
  obtain ⟨⟨⟩, hcheck, -⟩ := bind_eq_ok_iff.mp h
  exact hcheck

/-- A bound is the one set aside for all versions, or is made of the numbers. -/
theorem boundBy_cases {v : Version} (h : l.boundBy ofAny ofNumbers = .ok v) :
    v = ofAny ∨ ∃ n, l.numbers = .ok n ∧ ofNumbers n = .ok v := by
  have hcheck := check_of_boundBy h
  rcases hany : l.isAny with - | -
  · rw [boundBy_of_given hcheck hany] at h
    exact .inr (bind_eq_ok_iff.mp h)
  · rw [boundBy_of_isAny hcheck hany] at h
    exact .inl (Except.ok.inj h).symm

end

/-- The literal in writing is to blame, or three fields with dots between them. -/
theorem toText_or_dotted_of_fault? {l : Literal} {fragment : Text}
    (h : l.fault? = some fragment) :
    fragment = l.toText ∨ ∃ a b c, fragment = Text.dotted [a, b, c] := by
  rw [fault?] at h
  repeat' split at h
  all_goals first
    | exact .inl (Option.some.inj h).symm
    | exact .inr ⟨_, _, _, (Option.some.inj h).symm⟩
    | cases h

/-! ### Well-formed literals -/

/-- The numbers of a literal, open fields counting as zero. -/
def base (l : Literal) : Int × Int × Int :=
  (fieldValue l.major, fieldValue l.minor, fieldValue l.patch)

/-- The version that a literal writes, open fields counting as zero. -/
def version (l : Literal) : Version where
  major := fieldValue l.major
  minor := fieldValue l.minor
  patch := fieldValue l.patch
  preRelease := l.preRelease
  build := l.build

@[simp] theorem triple_version (l : Literal) : l.version.triple = l.base := rfl

@[simp] theorem preRelease_version (l : Literal) : l.version.preRelease = l.preRelease := rfl

theorem numbers_eq_ok {l : Literal} (hl : l.IsWellFormed) : l.numbers = .ok l.base := by
  obtain ⟨s, hs, hfield⟩ := hl.major
  have hmajor : fieldNumber l.major = .ok (fieldValue l.major) :=
    fieldNumber_eq_ok (by simpa [hs] using hfield)
  rw [numbers, hmajor, fieldNumber_eq_ok hl.minor, fieldNumber_eq_ok hl.patch]
  rfl

theorem toText_ne_nil {l : Literal} (hl : l.IsWellFormed) : l.toText ≠ [] := by
  obtain ⟨s, hs, hfield⟩ := hl.major
  rw [toText]
  split
  · simp [fieldsText, hs, Text.dotted_cons, hfield.ne_nil]
  · rename_i htext
    simpa using htext

/-- Every fault of a well-formed literal is seen. -/
theorem check_eq_ok_iff {l : Literal} (hl : l.IsWellFormed) :
    l.check = .ok () ↔ l.fault? = none := by
  have hblamed : l.fault? ≠ some [] := by
    intro h
    rcases toText_or_dotted_of_fault? h with htext | ⟨a, b, c, hdotted⟩
    · exact toText_ne_nil hl htext.symm
    · simp [Text.dotted_cons] at hdotted
  rw [check]
  rcases h : l.fault? with - | ⟨- | ⟨c, s⟩⟩
  · simp
  · exact absurd h hblamed
  · simp

/-- Where a field is open there are no tags. -/
theorem untagged_of_fault?_eq_none {l : Literal} (hany : l.isAny = false)
    (hfault : l.fault? = none) (hopen : isWildcard l.minor = true ∨ isWildcard l.patch = true) :
    l.preRelease = [] ∧ l.build = [] := by
  have hopen' : (isWildcard l.minor || isWildcard l.patch) = true := by simpa using hopen
  rw [fault?, hany, if_neg (by decide)] at hfault
  split at hfault
  · cases hfault
  · split at hfault
    · cases hfault
    · split at hfault
      · cases hfault
      · rename_i htagged
        simpa [hopen', isTagged] using htagged

/-- Open fields take no tags away, so the lowest version is put together from
all parts of the literal. -/
theorem lowest_eq_versionOrBlame {l : Literal} (hl : l.IsWellFormed) (hany : l.isAny = false)
    (hfault : l.fault? = none) :
    l.lowest = versionOrBlame (fieldValue l.major) (fieldValue l.minor) (fieldValue l.patch)
      l.preRelease l.build l.toText := by
  rw [lowest_eq_boundBy, boundBy_of_given ((check_eq_ok_iff hl).mpr hfault) hany,
    numbers_eq_ok hl]
  show (if isWildcard l.minor || isWildcard l.patch then
      l.release (fieldValue l.major) (fieldValue l.minor) (fieldValue l.patch)
    else _) = _
  split
  · -- the tags are left out, but there are none
    rename_i hopen
    obtain ⟨hpre, hbuild⟩ := untagged_of_fault?_eq_none hany hfault (by simpa using hopen)
    rw [hpre, hbuild, release]
  · rfl

theorem lowest_eq_ok_iff {l : Literal} (hl : l.IsWellFormed) (hany : l.isAny = false)
    {low : Version} :
    l.lowest = .ok low ↔
      l.fault? = none ∧ preReleaseFault? l.preRelease = none ∧ low = l.version := by
  constructor
  · intro h
    have hfault : l.fault? = none := (check_eq_ok_iff hl).mp (check_of_boundBy h)
    rw [lowest_eq_versionOrBlame hl hany hfault, versionOrBlame_eq_ok_iff] at h
    obtain ⟨rfl, hpre⟩ := Version.ofParts?_eq_some h
    exact ⟨hfault, hpre, rfl⟩
  · rintro ⟨hfault, hpre, rfl⟩
    rw [lowest_eq_versionOrBlame hl hany hfault, versionOrBlame_eq_ok_iff]
    exact Version.ofParts?_of_isIdent hl.preRelease hl.build hpre _ _ _

/-- With all fields given the bounds meet. -/
theorem highest_eq_lowest {l : Literal} (hany : l.isAny = false)
    (hminor : isWildcard l.minor = false) (hpatch : isWildcard l.patch = false) :
    l.highest = l.lowest := by
  rw [highest, lowest, hany, hminor, hpatch]
  rfl

theorem isCanonical_version {l : Literal} (hl : l.IsWellFormed)
    (hpre : preReleaseFault? l.preRelease = none) : l.version.IsCanonical := fun i hi =>
  isCanonical_of_isIdent (hl.preRelease i hi) (sound_of_preReleaseFault?_eq_none hpre i hi).2

/-! ### Bounds are canonical

Whatever is made of the numbers of a literal goes through `versionOrBlame`, where a zero in
front of a number is refused. -/

theorem isCanonical_of_versionOrBlame {major minor patch : Int} {pre build : List Identifier}
    {fragment : Text} {v : Version} (hpre : ∀ i ∈ pre, IsIdent i)
    (h : versionOrBlame major minor patch pre build fragment = .ok v) : v.IsCanonical := by
  obtain ⟨rfl, hsound⟩ := Version.ofParts?_eq_some (versionOrBlame_eq_ok_iff.mp h)
  intro i hi
  exact isCanonical_of_isIdent (hpre i hi) (sound_of_preReleaseFault?_eq_none hsound i hi).2

theorem isCanonical_of_release {l : Literal} {major minor patch : Int} {v : Version}
    (h : l.release major minor patch = .ok v) : v.IsCanonical :=
  isCanonical_of_versionOrBlame (by simp) h

section

variable {l : Literal} (hl : l.IsWellFormed) {v : Version}

include hl

theorem isCanonical_of_lowest (h : l.lowest = .ok v) : v.IsCanonical := by
  rw [lowest_eq_boundBy] at h
  rcases boundBy_cases h with rfl | ⟨n, -, h⟩
  · exact Version.isCanonical_least
  · split at h
    · exact isCanonical_of_release h
    · exact isCanonical_of_versionOrBlame hl.preRelease h

theorem isCanonical_of_highest (h : l.highest = .ok v) : v.IsCanonical := by
  rw [highest_eq_boundBy] at h
  rcases boundBy_cases h with rfl | ⟨n, -, h⟩
  · exact Version.isCanonical_greatest
  · split at h
    · exact isCanonical_of_release h
    · split at h
      · exact isCanonical_of_release h
      · exact isCanonical_of_versionOrBlame hl.preRelease h

end

/-! ### Limits of tilde and caret -/

/-- The numbers that a tilde range stops short of. -/
def tildeLimit (l : Literal) : Int × Int × Int :=
  if isWildcard l.minor then (l.base.1 + 1, 0, 0) else (l.base.1, l.base.2.1 + 1, 0)

/-- The numbers that a caret range stops short of. -/
def caretLimit (l : Literal) : Int × Int × Int :=
  if 0 < l.base.1 then (l.base.1 + 1, 0, 0)
  else if isWildcard l.minor then (1, 0, 0)
  else if 0 < l.base.2.1 then (0, l.base.2.1 + 1, 0)
  else if isWildcard l.patch then (0, 1, 0)
  else (0, 0, l.base.2.2 + 1)

theorem tildeBound_eq_ok {l : Literal} (hl : l.IsWellFormed) :
    l.tildeBound = .ok (.ofTriple l.tildeLimit) := by
  rw [tildeBound, numbers_eq_ok hl, tildeLimit]
  show (if isWildcard l.minor then l.release (l.base.1 + 1) 0 0
    else l.release l.base.1 (l.base.2.1 + 1) 0) = _
  split <;> rfl

theorem isCanonical_of_tildeBound {l : Literal} (hl : l.IsWellFormed) {v : Version}
    (h : l.tildeBound = .ok v) : v.IsCanonical := by
  rw [tildeBound_eq_ok hl] at h
  obtain rfl := Except.ok.inj h
  exact Version.isCanonical_of_preRelease_eq_nil rfl

theorem caretBound_eq_ok {l : Literal} (hl : l.IsWellFormed) :
    l.caretBound = .ok (.ofTriple l.caretLimit) := by
  rw [caretBound, numbers_eq_ok hl, caretLimit]
  show (if 0 < l.base.1 then l.release (l.base.1 + 1) 0 0
    else if isWildcard l.minor then l.release 1 0 0
    else if 0 < l.base.2.1 then l.release 0 (l.base.2.1 + 1) 0
    else if isWildcard l.patch then l.release 0 1 0
    else l.release 0 0 (l.base.2.2 + 1)) = _
  repeat' split
  all_goals rfl

theorem isCanonical_of_caretBound {l : Literal} (hl : l.IsWellFormed) {v : Version}
    (h : l.caretBound = .ok v) : v.IsCanonical := by
  rw [caretBound_eq_ok hl] at h
  obtain rfl := Except.ok.inj h
  exact Version.isCanonical_of_preRelease_eq_nil rfl

end Literal

/-! ### Clauses -/

namespace Comparison

/-- Only what stands against the lowest version or against the interval stands
against the clause. -/
theorem clauseFor_eq_bind {o : Operator} {l : Literal} (hany : l.isAny = false) :
    clauseFor o l = l.lowest.bind fun low => (o.intervalFrom l low).map fun interval =>
      { kind := .comparison o, interval, guardsPreReleases := o = .tilde || o = .caret } := by
  rw [clauseFor, hany]
  rcases hcheck : l.check with e | ⟨⟩
  · rw [Literal.lowest_eq_boundBy, Literal.boundBy_of_check_eq_error hcheck]
    rfl
  · rcases l.lowest with e | low
    · rfl
    · rcases h : o.intervalFrom l low with e | i <;>
        simp [bind, Except.bind, Except.map, pure, Except.pure, h]

theorem clauseFor_eq_ok_iff {o : Operator} {l : Literal} (hany : l.isAny = false) {c : Clause} :
    clauseFor o l = .ok c ↔
      ∃ low i, l.lowest = .ok low ∧ o.intervalFrom l low = .ok i ∧
        c = { kind := .comparison o, interval := i,
              guardsPreReleases := o = .tilde || o = .caret } := by
  rw [clauseFor_eq_bind hany]
  rcases hlow : l.lowest with e | low
  · simp [Except.bind]
  · rcases hi : o.intervalFrom l low with e | i
    · simp [Except.bind, Except.map, hi]
    · simp only [Except.bind, Except.map, hi, Except.ok.injEq]
      constructor
      · rintro rfl
        exact ⟨low, i, rfl, hi, rfl⟩
      · rintro ⟨low', i', rfl, hi', rfl⟩
        rw [hi, Except.ok.injEq] at hi'
        rw [hi']

end Comparison

end SemverRange
