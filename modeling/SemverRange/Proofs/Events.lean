/-
SemverRange/Proofs/Events.lean

What is noted while a requirement is compiled.

A requirement is compiled group by group, and each group condition by condition.  That is
one pass over all its conditions (`Traced.forEach_flatMap`): the comparisons of the first
group, its dash ranges, the comparisons of the second, and so on.  A comparison leaves an
event if it turns out to be a dash range, and leaves it before its clause is worked out; a
dash range that was written as one leaves none (`Requirement.events_compileCondition`).

So the events of a requirement are those of its conditions up to the first without a clause,
or those of all of them and then one about the whole (`Requirement.events_of_compile`).
-/
import Mathlib
import SemverRange.Proofs.Outcome

namespace SemverRange

/-! ### One pass over a list -/

namespace Traced

variable {ε α β γ : Type} {f : α → Traced ε β} {as : List α}

/-- As long as nothing fails the events of all members are kept. -/
theorem events_forEach_of_ok {bs : List β} (h : (forEach f as).outcome = .ok bs) :
    (forEach f as).events = as.flatMap fun a => (f a).events := by
  induction as generalizing bs with
  | nil => rfl
  | cons a as ih =>
    rw [outcome_forEach_cons] at h
    obtain ⟨b, hb, h⟩ := bind_eq_ok_iff.mp h
    rcases has : (forEach f as).outcome with e | bs'
    · rw [has] at h
      cases h
    · rw [events_forEach_cons hb, List.flatMap_cons, ih has]

theorem forEach_append (f : α → Traced ε β) (as bs : List α) :
    forEach f (as ++ bs) =
      match (forEach f as).outcome with
      | .error e => { events := (forEach f as).events, outcome := .error e }
      | .ok ks =>
        { events := (forEach f as).events ++ (forEach f bs).events
          outcome := (forEach f bs).outcome.map (ks ++ ·) } := by
  induction as with
  | nil =>
    rw [List.nil_append, forEach]
    rcases forEach f bs with ⟨events, e | ks⟩ <;> rfl
  | cons a as ih =>
    rw [List.cons_append, forEach, forEach, ih]
    -- it ends at `a`, or in the rest of `as`, or goes on to `bs`
    rcases (f a).outcome with e | k
    · rfl
    · rcases forEach f as with ⟨events, e | ks⟩
      · rfl
      · rcases forEach f bs with ⟨events', e | ks'⟩ <;> simp [Except.map]

/-- To treat lists of members one list after the other is to treat all the members. -/
theorem forEach_flatMap (f : α → Traced ε β) (h : γ → List α) (cs : List γ) :
    forEach f (cs.flatMap h) =
      { events := (forEach (fun c => forEach f (h c)) cs).events
        outcome := (forEach (fun c => forEach f (h c)) cs).outcome.map List.flatten } := by
  induction cs with
  | nil => rfl
  | cons c cs ih =>
    rw [List.flatMap_cons, forEach_append, ih, forEach]
    rcases (forEach f (h c)).outcome with e | ks
    · rfl
    · rcases forEach (fun c => forEach f (h c)) cs with ⟨events, e | kss⟩ <;> simp [Except.map]

end Traced

theorem length_filterMap_cons {α β : Type} (f : α → Option β) (a : α) (as : List α) :
    ((a :: as).filterMap f).length = (f a).toList.length + (as.filterMap f).length := by
  rw [List.filterMap_cons]
  rcases f a with - | b <;> simp [Nat.add_comm]

/-! ### Conditions -/

namespace Group

theorem length_dashesLast (g : Group) :
    (dashesLast g).length = (comparisons g).length + (dashRanges g).length := by
  simp [dashesLast]

theorem dashRanges_dashesLast (g : Group) : dashRanges (dashesLast g) = dashRanges g := by
  have hcomparisons : Condition.dashRange? ∘ Condition.comparison = fun _ => none := rfl
  have hdashes : Condition.dashRange? ∘ Condition.dashRange = some := rfl
  rw [dashRanges, dashesLast, List.filterMap_append, List.filterMap_map, List.filterMap_map,
    hcomparisons, hdashes, List.filterMap_some]
  simp

end Group

namespace Requirement

/-- The conditions of some groups, in the order in which they are worked out. -/
def conditions (gs : List Group) : List Condition :=
  gs.flatMap Group.dashesLast

/-- What is noted about a condition of the requirement `raw`: that it is a comparison, and
really a dash range. -/
def rereading? (raw : Text) : Condition → Option Event
  | .comparison c =>
    (c.dashRange? raw).map fun d => .dashResolved d.lower.toText d.upper.toText raw
  | .dashRange _ => none

/-- What is noted about some conditions in turn. -/
def rereadings (raw : Text) (cs : List Condition) : List Event :=
  cs.filterMap (rereading? raw)

variable {raw : Text} {c : Condition} {cs : List Condition} {k : Clause} {ks : List Clause}

theorem events_compileCondition (raw : Text) (c : Condition) :
    (compileCondition raw c).events = (rereading? raw c).toList := by
  cases c with
  | dashRange d => rfl
  | comparison c =>
    rw [compileCondition, rereading?]
    rcases c.dashRange? raw with - | d <;> rfl

theorem flatMap_events_compileCondition (raw : Text) (cs : List Condition) :
    (cs.flatMap fun c => (compileCondition raw c).events) = rereadings raw cs := by
  simp only [events_compileCondition, rereadings, List.filterMap_eq_flatMap_toList]

theorem name_of_mem_rereadings {e : Event} (he : e ∈ rereadings raw cs) :
    e.name = "dash_resolved" := by
  obtain ⟨c, -, hc⟩ := List.mem_filterMap.mp he
  cases c with
  | dashRange d => cases hc
  | comparison c =>
    obtain ⟨d, -, rfl⟩ := Option.map_eq_some_iff.mp hc
    rfl

/-- A clause is that of a dash range just in case the condition was written as one or turned
out to be one, and never both. -/
theorem ite_kind_eq_dash (h : (compileCondition raw c).outcome = .ok k) :
    (if k.kind = .dash then 1 else 0)
      = (rereading? raw c).toList.length + c.dashRange?.toList.length := by
  cases c with
  | dashRange d =>
    rw [DashRange.kind_of_clause h]
    rfl
  | comparison c =>
    -- the kind of the clause goes by what the comparison turned out to be
    rw [outcome_compileCondition_comparison] at h
    rw [rereading?]
    rcases hdash : c.dashRange? raw with - | d
    · rw [hdash] at h
      obtain ⟨o, ho⟩ := Comparison.kind_of_clause h
      rw [ho]
      rfl
    · rw [hdash] at h
      rw [DashRange.kind_of_clause h]
      rfl

theorem countP_dash (h : cs.map (fun c => (compileCondition raw c).outcome) = ks.map .ok) :
    ks.countP (·.kind = .dash) = (rereadings raw cs).length + (Group.dashRanges cs).length := by
  induction cs generalizing ks with
  | nil =>
    obtain rfl : ks = [] := by simpa using h.symm
    rfl
  | cons c cs ih =>
    obtain ⟨k, ks, rfl⟩ : ∃ k ks', ks = k :: ks' :=
      List.exists_cons_of_ne_nil (by rintro rfl; cases h)
    obtain ⟨hk, hks⟩ := List.cons.inj h
    have hfirst := ite_kind_eq_dash hk
    have hrest := ih hks
    rw [List.countP_cons, rereadings, Group.dashRanges, length_filterMap_cons,
      length_filterMap_cons]
    rw [rereadings, Group.dashRanges] at hrest
    simp only [decide_eq_true_eq]
    omega

/-! ### Requirements -/

theorem length_conditions (gs : List Group) :
    (conditions gs).length
      = (gs.map fun g => (Group.comparisons g).length + (Group.dashRanges g).length).sum := by
  simp only [conditions, List.length_flatMap, Group.length_dashesLast]

theorem dashRanges_conditions (gs : List Group) :
    Group.dashRanges (conditions gs) = gs.flatMap Group.dashRanges := by
  rw [conditions, Group.dashRanges, List.filterMap_flatMap]
  exact congrArg gs.flatMap (funext Group.dashRanges_dashesLast)

section

variable {s : Text} {gs : List Group}

theorem compile_of_parse_eq_error {p : Nat} (hparse : parse (Text.strip s) = .error p) :
    compile s = {
      events := []
      outcome := .error { requirement := Text.strip s, cause := .unreadable p } } := by
  rw [compile, compileStripped, hparse]

/-- A requirement is compiled in one pass over its conditions, and if that succeeds the
requirement as a whole is noted. -/
theorem compile_of_parse_eq_ok (hparse : parse (Text.strip s) = .ok gs) :
    let pass := Traced.forEach (compileCondition (Text.strip s)) (conditions gs)
    match (Traced.forEach (compileGroup (Text.strip s)) gs).outcome with
    | .error e =>
      pass.outcome = .error e ∧
        compile s = {
          events := pass.events
          outcome := .error (RequirementError.ofMeaningError (Text.strip s) e) }
    | .ok kss =>
      pass.outcome = .ok kss.flatten ∧
        compile s = {
          events := pass.events
            ++ [.requirementCompiled (Text.strip s) kss.length kss.flatten.length]
          outcome := .ok { text := Text.strip s, alternatives := kss } } := by
  have hpass : Traced.forEach (compileCondition (Text.strip s)) (conditions gs) =
      { events := (Traced.forEach (compileGroup (Text.strip s)) gs).events
        outcome := (Traced.forEach (compileGroup (Text.strip s)) gs).outcome.map List.flatten } :=
    Traced.forEach_flatMap _ Group.dashesLast gs
  simp only [compile, compileStripped, hparse, hpass]
  rcases (Traced.forEach (compileGroup (Text.strip s)) gs).outcome with e | kss
  · exact ⟨rfl, rfl⟩
  · exact ⟨rfl, rfl⟩

theorem events_of_rejected (hparse : parse (Text.strip s) = .ok gs) {e : RequirementError}
    (h : ofText s = .error e) :
    ∃ front c back, conditions gs = front ++ c :: back ∧
      (∀ d ∈ front, ∃ k, (compileCondition (Text.strip s) d).outcome = .ok k) ∧
      (∃ e, (compileCondition (Text.strip s) c).outcome = .error e) ∧
      (compile s).events = rereadings (Text.strip s) (front ++ [c]) := by
  have hcompile := compile_of_parse_eq_ok hparse
  rcases hgroups : (Traced.forEach (compileGroup (Text.strip s)) gs).outcome with e' | kss
  · rw [hgroups] at hcompile
    obtain ⟨hpass, hcompile⟩ := hcompile
    obtain ⟨front, c, back, hsplit, hfront, hc, hevents⟩ := Traced.forEach_eq_error hpass
    refine ⟨front, c, back, hsplit, hfront, ⟨e', hc⟩, ?_⟩
    rw [hcompile, hevents, flatMap_events_compileCondition]
  · rw [hgroups] at hcompile
    rw [ofText, hcompile.2] at h
    cases h

theorem events_of_compiled (hparse : parse (Text.strip s) = .ok gs) {r : Requirement}
    (h : ofText s = .ok r) :
    (compile s).events = rereadings (Text.strip s) (conditions gs) ++
        [.requirementCompiled (Text.strip s) (segments (Text.strip s)).length
          (conditions gs).length] ∧
      r.alternatives.flatten.countP (·.kind = .dash)
        = (rereadings (Text.strip s) (conditions gs)).length
          + (Group.dashRanges (conditions gs)).length := by
  have hcompile := compile_of_parse_eq_ok hparse
  rcases hgroups : (Traced.forEach (compileGroup (Text.strip s)) gs).outcome with e | kss
  · rw [hgroups] at hcompile
    rw [ofText, hcompile.2] at h
    cases h
  · rw [hgroups] at hcompile
    obtain ⟨hpass, hcompile⟩ := hcompile
    obtain rfl : { text := Text.strip s, alternatives := kss } = r := by
      rw [ofText, hcompile] at h
      exact Except.ok.inj h
    -- one clause for each condition, and one list of them for each piece between the bars
    have hkss := congrArg List.length (Traced.forEach_eq_ok_iff.mp hgroups)
    have hks := Traced.forEach_eq_ok_iff.mp hpass
    have hgs := congrArg List.length (parse_eq_ok_iff.mp hparse)
    have hcs := congrArg List.length hks
    simp only [List.length_map] at hkss hgs hcs
    refine ⟨?_, countP_dash hks⟩
    rw [hcompile, Traced.events_forEach_of_ok hpass, flatMap_events_compileCondition, hcs, hgs,
      hkss]

end

/-- **What is noted about a requirement.**  If it does not parse, nothing is.  If it
compiles, there is one event for each comparison that turned out to be a dash range, group
by group, and then one about the whole, with the number of the pieces between the bars and
that of the conditions; and the clauses of dash ranges are as many as those comparisons and
the dash ranges that were written as such.  If it parses and does not compile, the events
are those of its conditions up to the first without a clause, that one included.  The event
about the whole is there just in case the requirement compiles. -/
theorem events_of_compile (s : Text) :
    (match parse (Text.strip s), ofText s with
    | .error _, _ => (compile s).events = []
    | .ok gs, .ok r =>
      (compile s).events = rereadings (Text.strip s) (conditions gs) ++
        [.requirementCompiled (Text.strip s) (segments (Text.strip s)).length
          (gs.map fun g => (Group.comparisons g).length + (Group.dashRanges g).length).sum] ∧
      r.alternatives.flatten.countP (·.kind = .dash)
        = (compile s).events.countP (·.name = "dash_resolved")
          + (gs.flatMap Group.dashRanges).length
    | .ok gs, .error _ =>
      ∃ front c back, conditions gs = front ++ c :: back ∧
        (∀ d ∈ front, ∃ k, (compileCondition (Text.strip s) d).outcome = .ok k) ∧
        (∃ e, (compileCondition (Text.strip s) c).outcome = .error e) ∧
        (compile s).events = rereadings (Text.strip s) (front ++ [c])) ∧
    ((∃ e ∈ (compile s).events, e.name = "requirement_compiled") ↔ ∃ r, ofText s = .ok r) := by
  rcases hparse : parse (Text.strip s) with p | gs
  · rw [ofText, compile_of_parse_eq_error hparse]
    simp
  · rcases hrequirement : ofText s with e | r
    · obtain ⟨front, c, back, hsplit, hfront, hc, hevents⟩ :=
        events_of_rejected hparse hrequirement
      refine ⟨⟨front, c, back, hsplit, hfront, hc, hevents⟩, iff_of_false ?_ (by simp)⟩
      -- all that was noted is about dash ranges
      rintro ⟨e, he, hname⟩
      rw [hevents] at he
      rw [name_of_mem_rereadings he] at hname
      exact absurd hname (by decide)
    · obtain ⟨hevents, hcount⟩ := events_of_compiled hparse hrequirement
      have hresolved : (rereadings (Text.strip s) (conditions gs)).countP
          (·.name = "dash_resolved") = (rereadings (Text.strip s) (conditions gs)).length :=
        List.countP_eq_length.mpr fun e he => by simp [name_of_mem_rereadings he]
      rw [hevents, length_conditions]
      refine ⟨⟨rfl, ?_⟩, iff_of_true ⟨_, List.mem_append_right _ (List.mem_singleton.mpr rfl), rfl⟩
        ⟨r, rfl⟩⟩
      rw [List.countP_append, hresolved, hcount, dashRanges_conditions]
      rfl

/-- A range that is read as one leaves its event even where its upper end is refused, and
nothing behind it is noted. -/
example : (compile "1.0.0 - 2.0.0 || 1.2.3 - 1.x.5 || 1.0.0 - 2.0.0".toList).events =
    [.dashResolved "1.0.0".toList "2.0.0".toList
        "1.0.0 - 2.0.0 || 1.2.3 - 1.x.5 || 1.0.0 - 2.0.0".toList,
      .dashResolved "1.2.3".toList "1.x.5".toList
        "1.0.0 - 2.0.0 || 1.2.3 - 1.x.5 || 1.0.0 - 2.0.0".toList] := by
  cbv

end Requirement

end SemverRange
