/-
SemverRange/Proofs/Sessions.lean

What a session remembers.

There is little to remember: a log level, and for each name a requirement.  A step that
asks leaves the session as it is (`Session.step_of_isQuestion`), one that configures sets the
level, and one that compiles sets what its name stands for, to nothing if the text is no
requirement (`Session.level_next`, `Session.find?_next`).

Each of these is set outright, with no regard to what was there before.  So after many steps
it is as the last step that set it left it (`Session.after_eq_last`), and nothing else of
what went before can be told from further answers (`Session.run_after_eq_of_last`).  A check
answers as if the requirement last compiled under its name had been compiled on the spot
(`Session.run_check`).  All that a session logs is of level `debug`, so a run in which the
level stays above that logs nothing (`Session.log_eq_empty_of_mem_run`).
-/
import SemverRange.Session

namespace SemverRange

namespace Session

/-! ### One step -/

namespace Step

/-- Whether a step does nothing but ask. -/
def isQuestion : Step → Bool
  | .configure .. | .compile .. => false
  | .check .. | .compare .. | .recall _ => true

/-- The log level that a step sets. -/
def setsLevel? : Step → Option Level
  | .configure name environment => some (Level.choose name environment)
  | _ => none

/-- The text that a step compiles under a given name. -/
def compiledUnder? (name : Text) : Step → Option Text
  | .compile other requirement => if other = name then some requirement else none
  | _ => none

end Step

/-- The session behind a step. -/
def next (s : Session) (t : Step) : Session :=
  (s.step t).1

section

variable {s : Session} {t : Step}

/-- A question leaves the session as it is and logs nothing. -/
theorem step_of_isQuestion (ht : t.isQuestion = true) : ∃ answer, s.step t = (s, answer, "") := by
  cases t with
  | configure => cases ht
  | compile => cases ht
  | _ =>
    rw [step]
    split <;> exact ⟨_, rfl⟩

theorem next_of_isQuestion (ht : t.isQuestion = true) : s.next t = s := by
  obtain ⟨answer, h⟩ := step_of_isQuestion (s := s) ht
  rw [next, h]

/-- Compiling keeps the requirement under its name, or frees the name. -/
theorem next_compile (name requirement : Text) :
    s.next (.compile name requirement) =
      match Requirement.ofText requirement with
      | .error _ => s.erase name
      | .ok r => s.insert name r := by
  simp only [next, step, Requirement.ofText]
  rcases (Requirement.compile requirement).outcome with e | r <;> rfl

theorem level_next : (s.next t).level = t.setsLevel?.getD s.level := by
  cases t with
  | configure name environment => rfl
  | compile name requirement =>
    rw [next_compile]
    split <;> rfl
  | _ =>
    rw [next_of_isQuestion rfl]
    rfl

/-- What a name stands for behind a step: what the step has compiled under it, or else
what it stood for. -/
theorem find?_next {name : Text} :
    (s.next t).find? name =
      ((t.compiledUnder? name).map fun requirement =>
        (Requirement.ofText requirement).toOption).getD (s.find? name) := by
  cases t with
  | configure => rfl
  | compile other requirement =>
    rw [next_compile, Step.compiledUnder?]
    by_cases hname : other = name
    · subst hname
      rw [if_pos rfl, Option.map_some, Option.getD_some]
      rcases Requirement.ofText requirement with e | r
      · exact find?_erase_self s other
      · exact find?_insert_self s other r
    · rw [if_neg hname]
      rcases Requirement.ofText requirement with e | r
      · exact find?_erase_of_ne s (Ne.symm hname)
      · exact find?_insert_of_ne s r (Ne.symm hname)
  | _ =>
    rw [next_of_isQuestion rfl]
    rfl

end

/-! ### Many steps -/

/-- The session behind many steps. -/
def after (s : Session) (ts : List Step) : Session :=
  ts.foldl next s

theorem after_cons (s : Session) (t : Step) (ts : List Step) :
    s.after (t :: ts) = (s.next t).after ts := rfl

theorem run_cons (s : Session) (t : Step) (ts : List Step) :
    s.run (t :: ts) = (s.step t).2 :: (s.next t).run ts := rfl

/-- Steps are answered from where the ones before them have led. -/
theorem run_append (s : Session) (ts us : List Step) :
    s.run (ts ++ us) = s.run ts ++ (s.after ts).run us := by
  induction ts generalizing s with
  | nil => rfl
  | cons t ts ih => rw [List.cons_append, run_cons, run_cons, ih, after_cons, List.cons_append]

/-- Questions leave no trace: the session is the one that the other steps lead to. -/
theorem after_filter_isQuestion (s : Session) (ts : List Step) :
    s.after (ts.filter fun t => !t.isQuestion) = s.after ts := by
  induction ts generalizing s with
  | nil => rfl
  | cons t ts ih =>
    rcases ht : t.isQuestion with - | -
    · rw [List.filter_cons_of_pos (by simp [ht]), after_cons, after_cons, ih]
    · rw [List.filter_cons_of_neg (by simp [ht]), after_cons, next_of_isQuestion ht, ih]

/-- What some steps set, and set outright, is as the last of them has left it. -/
theorem after_eq_last {β : Type} (view : Session → β) (set? : Step → Option β)
    (hstep : ∀ s t, view (s.next t) = (set? t).getD (view s)) (s : Session) (ts : List Step) :
    view (s.after ts) = (ts.filterMap set?).getLast?.getD (view s) := by
  induction ts generalizing s with
  | nil => rfl
  | cons t ts ih =>
    rw [after_cons, ih, hstep]
    rcases ht : set? t with - | b
    · rw [List.filterMap_cons_none ht, Option.getD_none]
    · rw [List.filterMap_cons_some ht, List.getLast?_cons, Option.getD_some, Option.getD_some]

/-- The log level that was last set. -/
def lastLevel? (ts : List Step) : Option Level :=
  (ts.filterMap Step.setsLevel?).getLast?

theorem level_after (s : Session) (ts : List Step) :
    (s.after ts).level = (lastLevel? ts).getD s.level :=
  after_eq_last level Step.setsLevel? (fun _ _ => level_next) s ts

/-- What was last compiled under a name. -/
def lastCompiled? (name : Text) (ts : List Step) : Option Text :=
  (ts.filterMap (Step.compiledUnder? name)).getLast?

/-- A name stands for what was last compiled under it. -/
theorem find?_after (s : Session) (name : Text) (ts : List Step) :
    (s.after ts).find? name =
      ((lastCompiled? name ts).map fun requirement =>
        (Requirement.ofText requirement).toOption).getD (s.find? name) := by
  rw [after_eq_last (find? · name)
    (fun t => (t.compiledUnder? name).map fun r => (Requirement.ofText r).toOption)
    (fun _ _ => find?_next) s ts, lastCompiled?, ← List.getLast?_map, List.map_filterMap]

/-! ### Sessions alike -/

/-- Two sessions are alike if they have the same level and a name stands for the same in
both.  How they keep their requirements is of no account. -/
structure IsLike (s s' : Session) : Prop where
  level : s.level = s'.level
  find : ∀ name, s.find? name = s'.find? name

namespace IsLike

variable {s s' : Session}

theorem step_eq (h : s.IsLike s') (t : Step) : (s.step t).2 = (s'.step t).2 := by
  cases t with
  | configure => rfl
  | compile =>
    simp only [step, h.level]
    split <;> rfl
  | _ =>
    simp only [step, h.find]
    split <;> rfl

theorem next (h : s.IsLike s') (t : Step) : (s.next t).IsLike (s'.next t) where
  level := by rw [level_next, level_next, h.level]
  find name := by rw [find?_next, find?_next, h.find]

/-- Whatever steps are taken, sessions that are alike cannot be told apart. -/
theorem run_eq (h : s.IsLike s') (ts : List Step) : s.run ts = s'.run ts := by
  induction ts generalizing s s' with
  | nil => rfl
  | cons t ts ih => rw [run_cons, run_cons, h.step_eq, ih (h.next t)]

end IsLike

/-- **What went before counts by what it set last.**  After two rows of steps that have
last set the same level and compiled the same text under each name, all further steps are
answered and logged alike. -/
theorem run_after_eq_of_last {ts us : List Step} (hlevel : lastLevel? ts = lastLevel? us)
    (hnames : ∀ name, lastCompiled? name ts = lastCompiled? name us) (s : Session)
    (further : List Step) : (s.after ts).run further = (s.after us).run further := by
  have halike : (s.after ts).IsLike (s.after us) :=
    { level := by rw [level_after, level_after, hlevel]
      find := fun name => by rw [find?_after, find?_after, hnames] }
  exact halike.run_eq further

/-! ### Checks -/

/-- The answer to a check by what `satisfies` says about the two texts.  A name under
which a text was compiled that is no requirement stands for nothing. -/
def Answer.ofSatisfies : Except (RequirementError ⊕ VersionError) Bool → Answer
  | .ok holds => .verdict holds
  | .error (.inl _) => .absent
  | .error (.inr e) => .malformed e

theorem step_check {s : Session} {name : Text} {found : Option Requirement}
    (h : s.find? name = found) (version : Text) :
    s.step (.check name version) = (s, found.elim .absent (verdict · version), "") := by
  subst h
  rw [step]
  split <;> rename_i hfound <;> rw [hfound] <;> rfl

theorem elim_verdict_eq_ofSatisfies (version requirement : Text) :
    (Requirement.ofText requirement).toOption.elim .absent (verdict · version)
      = Answer.ofSatisfies (Requirement.satisfies version requirement) := by
  rw [Requirement.satisfies]
  rcases Requirement.ofText requirement with e | r
  · rfl
  · show verdict r version = _
    rw [verdict]
    rcases Version.ofText version with e | v <;> rfl

/-- **A check answers for what was last compiled under its name.**  Wherever it stands in a
run, it answers as `satisfies` does for that text and the version, and it finds nothing if
there is no such text or if it is no requirement; and the run goes on as if there had been
no check. -/
theorem run_check (name version : Text) (ts us : List Step) :
    ({} : Session).run (ts ++ .check name version :: us) =
      ({} : Session).run ts ++
        ((lastCompiled? name ts).elim .absent fun requirement =>
          Answer.ofSatisfies (Requirement.satisfies version requirement), "") ::
            (({} : Session).after ts).run us := by
  have hstep := step_check (find?_after {} name ts) version
  rw [run_append, run_cons, next, hstep]
  rcases lastCompiled? name ts with - | requirement
  · rfl
  · rw [Option.elim_some, ← elim_verdict_eq_ofSatisfies]
    rfl

/-- A second text under the same name that is no requirement takes the first one away. -/
example :
    ((({} : Session).run [.compile ['a'] ['*'], .check ['a'] "1.0.0".toList,
      .compile ['a'] ['|'], .check ['a'] "1.0.0".toList]).drop 3) = [(.absent, "")] := by
  cbv

/-! ### Logs -/

/-- Events are of no account above the level `debug`. -/
theorem shown_ofEvent_eq_empty {level : Level} (h : Level.debug.weight < level.weight)
    (events : List Event) : LogLine.shown level (events.map LogLine.ofEvent) = "" := by
  have hnone : (events.map LogLine.ofEvent).filter (level.weight ≤ ·.level.weight) = [] := by
    rw [List.filter_eq_nil_iff]
    intro line hline
    obtain ⟨e, -, rfl⟩ := List.mem_map.mp hline
    rw [decide_eq_true_eq]
    exact Nat.not_le_of_lt h
  rw [LogLine.shown, hnone]
  rfl

theorem log_step_eq_empty {s : Session} (h : Level.debug.weight < s.level.weight) (t : Step) :
    (s.step t).2.2 = "" := by
  rcases ht : t.isQuestion with - | -
  · cases t with
    | configure => rfl
    | compile name requirement =>
      simp only [step]
      split <;> exact shown_ofEvent_eq_empty h _
    | _ => cases ht
  · obtain ⟨answer, hstep⟩ := step_of_isQuestion (s := s) ht
    rw [hstep]

/-- **A run above the level `debug` logs nothing**, whatever it compiles. -/
theorem log_eq_empty_of_mem_run {s : Session} {ts : List Step}
    (hs : Level.debug.weight < s.level.weight)
    (hts : ∀ t ∈ ts, ∀ level ∈ t.setsLevel?, Level.debug.weight < level.weight) :
    ∀ p ∈ s.run ts, p.2 = "" := by
  induction ts generalizing s with
  | nil => simp [run]
  | cons t ts ih =>
    have hnext : Level.debug.weight < (s.next t).level.weight := by
      rw [level_next]
      rcases ht : t.setsLevel? with - | level
      · exact hs
      · exact hts t List.mem_cons_self level ht
    intro p hp
    rcases List.mem_cons.mp hp with rfl | hp
    · exact log_step_eq_empty hs t
    · exact ih hnext (fun u hu => hts u (List.mem_cons_of_mem t hu)) p hp

end Session

end SemverRange
