/-
SemverRange/Proofs/Transcripts.lean

What a run of the program leaves behind.

The requirement is judged first, then the versions are read, all of them, and only then
is there a verdict on each.  So there are three ways for a check to go: the requirement is
refused, a version is malformed, or there are verdicts (`CommandLine.check_of_error`,
`check_of_malformed`, `check_of_readable`).  The exit code and the output follow from the
requirement, the versions and the wish for quiet (`Transcript.Answers`); log levels, from
whatever side they come, have no part in it (`CommandLine.run_answers`).
-/
import SemverRange.CommandLine.Report
import SemverRange.Proofs.Outcome

namespace SemverRange

/-! ### Lists of outcomes -/

section

variable {ε α β : Type} {f : α → Except ε β} {as : List α}

theorem mapM_eq_ok_iff {bs : List β} : as.mapM f = .ok bs ↔ as.map f = bs.map .ok := by
  induction as generalizing bs with
  | nil => cases bs <;> simp [pure, Except.pure]
  | cons a as ih =>
    rw [List.mapM_cons, bind_eq_ok_iff, List.map_cons]
    constructor
    · rintro ⟨b, hb, h⟩
      obtain ⟨bs', hbs', h⟩ := bind_eq_ok_iff.mp h
      obtain rfl : b :: bs' = bs := Except.ok.inj h
      rw [List.map_cons, hb, ih.mp hbs']
    · intro h
      obtain ⟨b, bs', rfl⟩ : ∃ b bs', bs = b :: bs' :=
        List.exists_cons_of_ne_nil (by rintro rfl; cases h)
      obtain ⟨hb, hbs'⟩ := List.cons.inj h
      refine ⟨b, hb, ?_⟩
      rw [ih.mpr hbs']
      rfl

theorem exists_eq_error_of_mapM {e : ε} (h : as.mapM f = .error e) :
    ∃ a ∈ as, ∃ e, f a = .error e := by
  induction as with
  | nil => cases h
  | cons a as ih =>
    rw [List.mapM_cons] at h
    rcases bind_eq_error_iff.mp h with h | ⟨b, -, h⟩
    · exact ⟨a, by simp, e, h⟩
    · rcases bind_eq_error_iff.mp h with h | ⟨bs, -, h⟩
      · obtain ⟨a', ha', h⟩ := ih h
        exact ⟨a', List.mem_cons_of_mem a ha', h⟩
      · cases h

end

/-! ### Refused requirements and malformed versions -/

namespace Requirement

/-- Whether a text is refused as a requirement.  A field that is no number would be an
error of another sort. -/
def IsRefused (s : Text) : Prop :=
  ∃ e, ofText s = .error e ∧ ∀ field, e.cause ≠ .notANumber field

/-- Whatever stands against a requirement, it is not that a field is no number. -/
theorem cause_ne_notANumber {s : Text} {e : RequirementError} (h : ofText s = .error e)
    (field : Text) : e.cause ≠ .notANumber field := by
  rw [ofText, compile, compileStripped] at h
  rcases hparse : parse (Text.strip s) with p | gs
  · rw [hparse] at h
    obtain rfl := Except.error.inj h
    simp
  · rw [hparse] at h
    rcases hgroups : (Traced.forEach (compileGroup (Text.strip s)) gs).outcome with e' | ks
    · obtain ⟨fragment, rfl, -, -⟩ := rejectsPieceOf_of_forEach hparse hgroups
      simp only [hgroups] at h
      obtain rfl := Except.error.inj h
      simp [RequirementError.ofMeaningError]
    · simp only [hgroups] at h
      cases h

theorem isRefused_of_error {s : Text} {e : RequirementError} (h : ofText s = .error e) :
    IsRefused s :=
  ⟨e, h, cause_ne_notANumber h⟩

theorem not_isRefused_of_ok {s : Text} {r : Requirement} (h : ofText s = .ok r) :
    ¬ IsRefused s := by
  rintro ⟨e, he, -⟩
  rw [h] at he
  cases he

theorem satisfies_eq_ok {version requirement : Text} {r : Requirement} {v : Version}
    (hr : ofText requirement = .ok r) (hv : Version.ofText version = .ok v) :
    satisfies version requirement = .ok (r.isMetBy v) := by
  simp only [satisfies, hr, hv]

end Requirement

/-- Whether a text is no version. -/
def Version.IsMalformed (s : Text) : Prop :=
  ∃ e, ofText s = .error e

theorem not_isMalformed_of_mapM {versions : List Text} {vs : List Version}
    (h : versions.mapM Version.ofText = .ok vs) {version : Text} (hmem : version ∈ versions) :
    ¬ Version.IsMalformed version := by
  have hread : Version.ofText version ∈ vs.map .ok := by
    rw [← mapM_eq_ok_iff.mp h]
    exact List.mem_map_of_mem hmem
  obtain ⟨v, -, hv⟩ := List.mem_map.mp hread
  rintro ⟨e, he⟩
  rw [he] at hv
  cases hv

/-! ### The three ways for a check to go -/

namespace CommandLine

open Requirement (IsRefused satisfies)

theorem check_of_error {s : Settings} {e : RequirementError}
    (h : Requirement.ofText s.requirement = .error e) :
    (check s).status = .invalidRequirement ∧ (check s).output = [] := by
  rw [Requirement.ofText] at h
  rw [check, h]
  exact ⟨rfl, rfl⟩

theorem check_of_malformed {s : Settings} {r : Requirement}
    (hr : Requirement.ofText s.requirement = .ok r) {e : VersionError}
    (h : s.versions.mapM Version.ofText = .error e) :
    (check s).status = .invalidVersion ∧ (check s).output = [] := by
  rw [Requirement.ofText] at hr
  rw [check, hr, h]
  exact ⟨rfl, rfl⟩

/-- The verdict on a version in writing. -/
def isSatisfied (requirement version : Text) : Bool :=
  satisfies version requirement = .ok true

theorem map_isMetBy_eq {requirement : Text} {r : Requirement}
    (hr : Requirement.ofText requirement = .ok r) {versions : List Text} {vs : List Version}
    (h : versions.map Version.ofText = vs.map .ok) :
    vs.map r.isMetBy = versions.map (isSatisfied requirement) := by
  induction versions generalizing vs with
  | nil =>
    obtain rfl : vs = [] := by simpa using h.symm
    rfl
  | cons version versions ih =>
    obtain ⟨v, vs', rfl⟩ : ∃ v vs', vs = v :: vs' :=
      List.exists_cons_of_ne_nil (by rintro rfl; cases h)
    obtain ⟨hv, hvs⟩ := List.cons.inj h
    rw [List.map_cons, List.map_cons, ih hvs, isSatisfied, Requirement.satisfies_eq_ok hr hv]
    simp

theorem check_of_readable {s : Settings} {r : Requirement}
    (hr : Requirement.ofText s.requirement = .ok r) {vs : List Version}
    (h : s.versions.mapM Version.ofText = .ok vs) :
    (check s).status = (if s.versions.all (isSatisfied s.requirement) then .allMet else .someUnmet) ∧
      (check s).output = if s.quiet then []
        else (s.versions.map fun v => verdictLine v (isSatisfied s.requirement v)).flatten := by
  have hverdicts := map_isMetBy_eq hr (mapM_eq_ok_iff.mp h)
  rw [Requirement.ofText] at hr
  rw [check, hr, h]
  show (if (vs.map r.isMetBy).all id then _ else _) = _ ∧
    (if s.quiet then _ else (s.versions.zipWith verdictLine (vs.map r.isMetBy)).flatten) = _
  rw [hverdicts, List.all_map, List.zipWith_map_right, List.zipWith_self]
  exact ⟨rfl, rfl⟩

/-! ### The answer of a run -/

/-- Whether there can be verdicts: the requirement is not refused and no version is
malformed. -/
def IsReadable (requirement : Text) (versions : List Text) : Prop :=
  ¬ IsRefused requirement ∧ ∀ v ∈ versions, ¬ Version.IsMalformed v

/-- What a run has to leave behind, apart from the log, when it is asked about some
versions of a requirement. -/
structure Transcript.Answers (t : Transcript) (requirement : Text) (versions : List Text)
    (quiet : Bool) : Prop where
  exitCode_eq_two_iff : t.exitCode = 2 ↔ IsRefused requirement
  exitCode_eq_one_iff :
    t.exitCode = 1 ↔ ¬ IsRefused requirement ∧ ∃ v ∈ versions, Version.IsMalformed v
  output_of_not_isReadable : ¬ IsReadable requirement versions → t.output = []
  exitCode_eq_zero_iff : t.exitCode = 0 ↔
    IsReadable requirement versions ∧ ∀ v ∈ versions, satisfies v requirement = .ok true
  exitCode_eq_three_iff : t.exitCode = 3 ↔
    IsReadable requirement versions ∧ ¬ ∀ v ∈ versions, satisfies v requirement = .ok true
  output_of_isReadable : IsReadable requirement versions → t.output =
    if quiet then []
    else (versions.map fun v => v ++ '\t' ::
      (if satisfies v requirement = .ok true then "satisfied" else "not satisfied").toList
        ++ ['\n']).flatten

namespace Transcript

variable {t : Transcript} {requirement : Text} {versions : List Text} {quiet : Bool}

theorem answers_of_isRefused (h : IsRefused requirement) (hcode : t.exitCode = 2)
    (houtput : t.output = []) : t.Answers requirement versions quiet where
  exitCode_eq_two_iff := iff_of_true hcode h
  exitCode_eq_one_iff := by simp [hcode, h]
  output_of_not_isReadable _ := houtput
  exitCode_eq_zero_iff := by simp [hcode, IsReadable, h]
  exitCode_eq_three_iff := by simp [hcode, IsReadable, h]
  output_of_isReadable hreadable := absurd h hreadable.1

theorem answers_of_isMalformed (h : ¬ IsRefused requirement)
    (hversions : ∃ v ∈ versions, Version.IsMalformed v) (hcode : t.exitCode = 1)
    (houtput : t.output = []) : t.Answers requirement versions quiet := by
  have hreadable : ¬ IsReadable requirement versions := by
    obtain ⟨v, hv, hmalformed⟩ := hversions
    exact fun hreadable => hreadable.2 v hv hmalformed
  exact {
    exitCode_eq_two_iff := by simp [hcode, h]
    exitCode_eq_one_iff := iff_of_true hcode ⟨h, hversions⟩
    output_of_not_isReadable := fun _ => houtput
    exitCode_eq_zero_iff := by simp [hcode, hreadable]
    exitCode_eq_three_iff := by simp [hcode, hreadable]
    output_of_isReadable := fun h => absurd h hreadable }

theorem answers_of_isReadable (h : IsReadable requirement versions)
    (hcode : t.exitCode = if versions.all (isSatisfied requirement) then 0 else 3)
    (houtput : t.output = if quiet then []
      else (versions.map fun v => verdictLine v (isSatisfied requirement v)).flatten) :
    t.Answers requirement versions quiet := by
  have hall : versions.all (isSatisfied requirement) = true ↔
      ∀ v ∈ versions, satisfies v requirement = .ok true := by
    simp [isSatisfied]
  have hmalformed : ¬ ∃ v ∈ versions, Version.IsMalformed v := by
    rintro ⟨v, hv, hmalformed⟩
    exact h.2 v hv hmalformed
  refine {
    exitCode_eq_two_iff := iff_of_false ?_ h.1
    exitCode_eq_one_iff := iff_of_false ?_ fun h => hmalformed h.2
    output_of_not_isReadable := fun h' => absurd h h'
    exitCode_eq_zero_iff := ?_
    exitCode_eq_three_iff := ?_
    output_of_isReadable := fun _ => ?_ }
  · rw [hcode]; split <;> simp
  · rw [hcode]; split <;> simp
  · rw [hcode, ← hall]; split <;> simp [*]
  · rw [hcode, ← hall]; split <;> simp [*]
  · simpa only [verdictLine, isSatisfied, decide_eq_true_eq] using houtput

end Transcript

theorem run_eq_ok {args : List Text} {s : Settings} (h : readArguments args = .ok s)
    (environment : Option Text) :
    run args environment = .ok
      { exitCode := (check s).status.exitCode
        output := (check s).output
        log := (check s).shownLog s environment } := by
  rw [run, h]
  rfl

/-- The transcript of a check, whatever its log. -/
theorem check_answers (s : Settings) (log : String) :
    Transcript.Answers { exitCode := (check s).status.exitCode, output := (check s).output, log }
      s.requirement s.versions s.quiet := by
  rcases hr : Requirement.ofText s.requirement with e | r
  · obtain ⟨hstatus, houtput⟩ := check_of_error hr
    exact Transcript.answers_of_isRefused (Requirement.isRefused_of_error hr)
      (congrArg Status.exitCode hstatus) houtput
  have hrefused := Requirement.not_isRefused_of_ok hr
  rcases hv : s.versions.mapM Version.ofText with e | vs
  · obtain ⟨hstatus, houtput⟩ := check_of_malformed hr hv
    exact Transcript.answers_of_isMalformed hrefused (exists_eq_error_of_mapM hv)
      (congrArg Status.exitCode hstatus) houtput
  · obtain ⟨hstatus, houtput⟩ := check_of_readable hr hv
    refine Transcript.answers_of_isReadable ⟨hrefused, ?_⟩ ?_ houtput
    · exact fun v => not_isMalformed_of_mapM hv
    · show (check s).status.exitCode = _
      rw [hstatus]
      split <;> rfl

/-- **The contract of a run.**  Arguments that make sense get the exit code and the output
that their requirement, their versions and the wish for quiet call for.  Other arguments
that differ in nothing but the log level get the same, in any environment. -/
theorem run_answers {args : List Text} {s : Settings} (h : readArguments args = .ok s)
    (environment : Option Text) :
    ∃ t, run args environment = .ok t ∧ t.Answers s.requirement s.versions s.quiet ∧
      ∀ (args' : List Text) (level environment' : Option Text),
        readArguments args' = .ok { s with level } →
        ∃ t', run args' environment' = .ok t' ∧
          t'.exitCode = t.exitCode ∧ t'.output = t.output := by
  refine ⟨_, run_eq_ok h environment, check_answers s _, ?_⟩
  intro args' level environment' h'
  -- a check never looks at the level
  exact ⟨_, run_eq_ok h' environment', rfl, rfl⟩

/-- With and without a level in the arguments and in the environment, a check that one of
two versions fails answers the same. -/
theorem run_answers_at_any_level :
    ∃ t t', run ["^1.2.3".toList, "1.2.4".toList, "2.0.0".toList] none = .ok t ∧
      run ["--loglevel=debug".toList, "^1.2.3".toList, "1.2.4".toList, "2.0.0".toList]
        (some "ERROR".toList) = .ok t' ∧
      t.Answers "^1.2.3".toList ["1.2.4".toList, "2.0.0".toList] false ∧
      t.exitCode = 3 ∧ t.output = "1.2.4\tsatisfied\n2.0.0\tnot satisfied\n".toList ∧
      t'.exitCode = 3 ∧ t'.output = t.output := by
  have hs : readArguments ["^1.2.3".toList, "1.2.4".toList, "2.0.0".toList] = .ok
      { requirement := "^1.2.3".toList, versions := ["1.2.4".toList, "2.0.0".toList]
        quiet := false, level := none } := by decide +kernel
  obtain ⟨t, ht, hanswers, hother⟩ := run_answers hs none
  obtain ⟨t', ht', hcode', houtput'⟩ := hother
    ["--loglevel=debug".toList, "^1.2.3".toList, "1.2.4".toList, "2.0.0".toList]
    (some "DEBUG".toList) (some "ERROR".toList) (by decide +kernel)
  have hrun : (run ["^1.2.3".toList, "1.2.4".toList, "2.0.0".toList] none).map
      (fun t => (t.exitCode, t.output)) =
        .ok (3, "1.2.4\tsatisfied\n2.0.0\tnot satisfied\n".toList) := by cbv
  rw [ht] at hrun
  obtain ⟨hcode, houtput⟩ := Prod.mk.inj (Except.ok.inj hrun)
  exact ⟨t, t', ht, ht', hanswers, hcode, houtput, hcode'.trans hcode, houtput'⟩

end CommandLine

end SemverRange
