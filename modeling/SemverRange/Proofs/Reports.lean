/-
SemverRange/Proofs/Reports.lean

How the bounds and the clauses report that they fail.

A failure is reported if a fragment is blamed for it, and one that is not empty.  There is
one way to fail without a report: to be stuck at a field that is no number.  The check of a
literal looks at the major field alone, and is content with characters that only look like
digits, so a literal can pass it and be stuck nonetheless (`Literal.stuckAt?`).  That this
is the only way is carried through the computation step by step (`ReportsUnlessStuck`): the
bounds of a literal, its clause under an operator, and a dash range, whose lower literal
goes first.
-/
import SemverRange.Proofs.Faults

namespace SemverRange

/-! ### Reports -/

/-- What comes of a computation that is stuck at the given field, if at any: then the error
names the field, and otherwise there is a value, or a fragment to blame that is not empty. -/
inductive ReportsUnlessStuck {α : Type} : Except MeaningError α → Option Text → Prop
  | value (a : α) : ReportsUnlessStuck (.ok a) none
  | blame {fragment : Text} (hne : fragment ≠ []) :
      ReportsUnlessStuck (.error (.rejected fragment)) none
  | stuck (field : Text) : ReportsUnlessStuck (.error (.notANumber field)) (some field)

namespace ReportsUnlessStuck

variable {α β : Type} {x : Except MeaningError α} {field? : Option Text}

theorem of_error {e : MeaningError}
    (he : ReportsUnlessStuck (.error e : Except MeaningError α) field?) :
    ReportsUnlessStuck (.error e : Except MeaningError β) field? := by
  cases he with
  | blame hne => exact .blame hne
  | stuck field => exact .stuck field

theorem map (hx : ReportsUnlessStuck x field?) (f : α → β) :
    ReportsUnlessStuck (x.map f) field? := by
  cases hx with
  | value a => exact .value (f a)
  | blame hne => exact .blame hne
  | stuck field => exact .stuck field

/-- The first of two steps is the one to be stuck, if any is. -/
theorem bind (hx : ReportsUnlessStuck x field?) {f : α → Except MeaningError β}
    (hf : ∀ a, field? = none → ReportsUnlessStuck (f a) none) :
    ReportsUnlessStuck (x.bind f) field? := by
  cases hx with
  | value a => exact hf a rfl
  | blame hne => exact .blame hne
  | stuck field => exact .stuck field

end ReportsUnlessStuck

/-! ### Numbers of fields -/

/-- The text of a field that is given and writes no number. -/
def unreadableField? (field : Option Text) : Option Text :=
  field.filter fun s => !isWildcard (some s) && (Text.Numeral.read? s).isNone

theorem fieldNumber_cases (field : Option Text) :
    (∃ n, fieldNumber field = .ok n ∧ unreadableField? field = none) ∨
      ∃ s, fieldNumber field = .error (.notANumber s) ∧ unreadableField? field = some s := by
  rcases field with - | s
  · exact .inl ⟨0, rfl, rfl⟩
  rcases hopen : isWildcard (some s) with - | -
  · rcases hread : Text.Numeral.read? s with - | n
    · refine .inr ⟨s, ?_, by simp [unreadableField?, hopen, hread]⟩
      simp [fieldNumber, hopen, hread]
    · refine .inl ⟨n, ?_, by simp [unreadableField?, hopen, hread]⟩
      simp [fieldNumber, hopen, hread]
  · exact .inl ⟨0, by simp [fieldNumber, hopen], by simp [unreadableField?, hopen]⟩

namespace Literal

/-- The first field of a literal that is given and writes no number. -/
def unreadable? (l : Literal) : Option Text :=
  [l.major, l.minor, l.patch].findSome? unreadableField?

/-- The field at which the bounds of a literal are stuck: the first that writes no number,
if the literal passes its check and gives a major number. -/
def stuckAt? (l : Literal) : Option Text :=
  if l.fault? = none ∧ l.isAny = false then l.unreadable? else none

variable {l : Literal}

theorem numbers_cases (l : Literal) :
    (∃ n, l.numbers = .ok n ∧ l.unreadable? = none) ∨
      ∃ s, l.numbers = .error (.notANumber s) ∧ l.unreadable? = some s := by
  -- the first field without a number ends it, and those behind it do not matter
  rcases fieldNumber_cases l.major with ⟨a, hmajor, hmajor'⟩ | ⟨s, hmajor, hmajor'⟩
  · rcases fieldNumber_cases l.minor with ⟨b, hminor, hminor'⟩ | ⟨s, hminor, hminor'⟩
    · rcases fieldNumber_cases l.patch with ⟨c, hpatch, hpatch'⟩ | ⟨s, hpatch, hpatch'⟩
      · refine .inl ⟨(a, b, c), ?_, by simp [unreadable?, hmajor', hminor', hpatch']⟩
        rw [numbers, hmajor, hminor, hpatch]
        rfl
      · refine .inr ⟨s, ?_, by simp [unreadable?, hmajor', hminor', hpatch']⟩
        rw [numbers, hmajor, hminor, hpatch]
        rfl
    · refine .inr ⟨s, ?_, by simp [unreadable?, hmajor', hminor']⟩
      rw [numbers, hmajor, hminor]
      rfl
  · refine .inr ⟨s, ?_, by simp [unreadable?, hmajor']⟩
    rw [numbers, hmajor]
    rfl

/-! ### Bounds -/

theorem reports_versionOrBlame (major minor patch : Int) (pre build : List Identifier)
    (fragment : Text) :
    ReportsUnlessStuck (versionOrBlame major minor patch pre build fragment) none := by
  rw [versionOrBlame]
  split
  · exact .value _
  · refine .blame ?_
    split
    · -- three numbers have two dots between them
      simp [Version.tripleText, Text.dotted_cons]
    · rename_i hne
      simpa using hne

theorem reports_release (l : Literal) (major minor patch : Int) :
    ReportsUnlessStuck (l.release major minor patch) none :=
  reports_versionOrBlame ..

/-- The bounds of tilde and caret go by the numbers alone, without a check. -/
theorem reports_numbers_bind {f : Int × Int × Int → Except MeaningError Version}
    (hf : ∀ n, ReportsUnlessStuck (f n) none) :
    ReportsUnlessStuck (l.numbers >>= f) l.unreadable? := by
  rcases numbers_cases l with ⟨n, hn, hread⟩ | ⟨s, hs, hread⟩
  · rw [hn, hread]
    exact hf n
  · rw [hs, hread]
    exact .stuck s

theorem reports_tildeBound (l : Literal) : ReportsUnlessStuck l.tildeBound l.unreadable? := by
  refine reports_numbers_bind fun n => ?_
  show ReportsUnlessStuck (if _ then _ else _) none
  split
  · exact reports_release ..
  · exact reports_release ..

theorem reports_caretBound (l : Literal) : ReportsUnlessStuck l.caretBound l.unreadable? := by
  refine reports_numbers_bind fun n => ?_
  show ReportsUnlessStuck (if _ then _ else _) none
  repeat' split
  all_goals exact reports_release ..

/-- A literal fails its check, or is for all versions, or goes on to its numbers. -/
theorem stuckAt?_cases (l : Literal) :
    (l.stuckAt? = none ∧ ∃ fragment ≠ [], l.check = .error (.rejected fragment)) ∨
      (l.stuckAt? = none ∧ l.check = .ok () ∧ l.isAny = true) ∨
      (l.stuckAt? = l.unreadable? ∧ l.check = .ok () ∧ l.isAny = false) := by
  rcases hfault : l.fault? with - | fragment
  · have hcheck : l.check = .ok () := by rw [check, hfault]
    rcases hany : l.isAny with - | -
    · exact .inr (.inr ⟨by simp [stuckAt?, hfault, hany], hcheck, rfl⟩)
    · exact .inr (.inl ⟨by simp [stuckAt?, hany], hcheck, rfl⟩)
  · have hstuck : l.stuckAt? = none := by simp [stuckAt?, hfault]
    by_cases hempty : fragment = []
    · -- the fault is not seen, and the literal is taken for all versions
      subst hempty
      have htext := (fault?_eq_some_nil_iff.mp hfault).1
      exact .inr (.inl ⟨hstuck, by rw [check, hfault], (isWildcard_of_toText_eq_nil htext).1⟩)
    · exact .inl ⟨hstuck, fragment, hempty, check_eq_error hfault hempty⟩

theorem reports_boundBy {ofAny : Version}
    {ofNumbers : Int × Int × Int → Except MeaningError Version}
    (hof : ∀ n, ReportsUnlessStuck (ofNumbers n) none) :
    ReportsUnlessStuck (l.boundBy ofAny ofNumbers) l.stuckAt? := by
  rcases stuckAt?_cases l with ⟨hstuck, fragment, hne, hcheck⟩ | ⟨hstuck, hcheck, hany⟩ |
    ⟨hstuck, hcheck, hany⟩
  · rw [hstuck, boundBy_of_check_eq_error hcheck]
    exact .blame hne
  · rw [hstuck, boundBy_of_isAny hcheck hany]
    exact .value ofAny
  · rw [hstuck, boundBy_of_given hcheck hany]
    exact reports_numbers_bind hof

theorem reports_lowest (l : Literal) : ReportsUnlessStuck l.lowest l.stuckAt? := by
  rw [lowest_eq_boundBy]
  refine reports_boundBy fun n => ?_
  split
  · exact reports_release ..
  · exact reports_versionOrBlame ..

theorem reports_highest (l : Literal) : ReportsUnlessStuck l.highest l.stuckAt? := by
  rw [highest_eq_boundBy]
  refine reports_boundBy fun n => ?_
  split
  · exact reports_release ..
  · split
    · exact reports_release ..
    · exact reports_versionOrBlame ..

/-- What the grammar makes is never stuck. -/
theorem IsWellFormed.stuckAt?_eq_none (hl : l.IsWellFormed) : l.stuckAt? = none := by
  rcases numbers_cases l with ⟨-, -, hread⟩ | ⟨s, hs, -⟩
  · simp [stuckAt?, hread]
  · rw [numbers_eq_ok hl] at hs
    cases hs

end Literal

/-! ### Clauses -/

/-- The field at which the clause of a comparison is stuck. -/
def Comparison.stuckAt? (c : Comparison) : Option Text :=
  (Operator.ofSign? c.sign).bind fun _ => c.version.stuckAt?

/-- The field at which the clause of a dash range is stuck; the upper literal only comes to
its turn if the lower one has a lowest version. -/
def DashRange.stuckAt? (d : DashRange) : Option Text :=
  match d.lower.lowest with
  | .ok _ => d.upper.stuckAt?
  | .error _ => d.lower.stuckAt?

theorem Operator.reports_intervalFrom {l : Literal} (hread : l.unreadable? = none)
    (hstuck : l.stuckAt? = none) (o : Operator) (low : Version) :
    ReportsUnlessStuck (o.intervalFrom l low) none := by
  cases o with
  | greater | less | greaterOrEqual | lessOrEqual => exact .value _
  | tilde => exact .map (hread ▸ l.reports_tildeBound) _
  | caret => exact .map (hread ▸ l.reports_caretBound) _
  | equal => exact .map (hstuck ▸ l.reports_highest) _

namespace Comparison

theorem reports_clauseFor (o : Operator) (l : Literal) :
    ReportsUnlessStuck (clauseFor o l) l.stuckAt? := by
  rcases l.stuckAt?_cases with ⟨hstuck, fragment, hne, hcheck⟩ | ⟨hstuck, hcheck, hany⟩ |
    ⟨hunreadable, -, hany⟩
  · rw [hstuck, clauseFor, hcheck]
    exact .blame hne
  · rw [hstuck, clauseFor, hcheck, hany]
    exact .value o.clauseOfAny
  · -- the lowest version comes first, and is stuck if anything is
    rw [clauseFor_eq_bind hany]
    refine l.reports_lowest.bind fun low hstuck => ?_
    have hread : l.unreadable? = none := hunreadable.symm.trans hstuck
    exact (o.reports_intervalFrom hread hstuck low).map _

theorem reports_clause (c : Comparison) : ReportsUnlessStuck c.clause c.stuckAt? := by
  obtain ⟨sign, l⟩ := c
  simp only [clause, stuckAt?]
  rcases hsign : Operator.ofSign? sign with - | o
  · -- no sign at all means equality, so the sign to blame is not empty
    refine .blame ?_
    rcases sign with - | s
    · cases hsign
    · rintro rfl
      cases hsign
  · exact reports_clauseFor o l

end Comparison

theorem DashRange.reports_clause (d : DashRange) : ReportsUnlessStuck d.clause d.stuckAt? := by
  have hlower := d.lower.reports_lowest
  rw [clause, stuckAt?]
  rcases hlow : d.lower.lowest with e | low
  · rw [hlow] at hlower
    exact hlower.of_error
  · exact d.upper.reports_highest.bind fun high _ => .value _

/-- **Failures are reported, unless a field is stuck.**  For any texts in the fields, any
identifiers and any sign, both bounds, the clause of a comparison and the clause of a dash
range are there, or a fragment is to blame that is not empty, except where a literal passes
its check and a field of it writes no number; then it is this field that the error names. -/
theorem reportsUnlessStuck (l u : Literal) (sign : Option Text) :
    ReportsUnlessStuck l.lowest l.stuckAt? ∧ ReportsUnlessStuck l.highest l.stuckAt? ∧
      ReportsUnlessStuck (Comparison.clause { sign, version := l })
        (Comparison.stuckAt? { sign, version := l }) ∧
      ReportsUnlessStuck (DashRange.clause { lower := l, upper := u })
        (DashRange.stuckAt? { lower := l, upper := u }) :=
  ⟨l.reports_lowest, l.reports_highest, Comparison.reports_clause _, DashRange.reports_clause _⟩

/-- A word for the minor number passes the check, and so does a major number in superscript. -/
theorem word_and_superscript_are_stuck :
    ∃ word superscript : Literal,
      word = { major := some ['1'], minor := some "abc".toList } ∧
      superscript = { major := some ['²'] } ∧
      word.lowest = .error (.notANumber "abc".toList) ∧
      word.highest = .error (.notANumber "abc".toList) ∧
      (∀ s ∈ Operator.signs.map Prod.fst,
        Comparison.clause { sign := some s, version := word }
          = .error (.notANumber "abc".toList)) ∧
      DashRange.clause { lower := { major := some ['1'] }, upper := superscript }
        = .error (.notANumber ['²']) := by
  refine ⟨_, _, rfl, rfl, ?_⟩
  decide

end SemverRange
