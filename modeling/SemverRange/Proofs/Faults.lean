/-
SemverRange/Proofs/Faults.lean

What becomes of a literal that combines its fields in a way that is not allowed.

Any text may stand in a field here, also what no reader makes.  There is one fragment to
blame (`Literal.fault?`), and a literal is refused with it at both bounds, under every
operator and on either side of a dash (`Literal.IsRefusedWith`), unless the fragment is
empty.  That is so for the literals that write nothing and carry tags, and for no others
(`Literal.fault?_eq_some_nil_iff`): such a literal gets by as the one for all versions
(`Literal.IsTakenForAny`), and its tags are lost.
-/
import SemverRange.Proofs.LiteralBounds

namespace SemverRange

namespace Literal

variable {l : Literal} {fragment : Text}

/-! ### Literals that write nothing -/

/-- One field at most is there, and it is empty. -/
theorem toText_eq_nil_iff :
    l.toText = [] ↔
      l.text = [] ∧ ([l.major, l.minor, l.patch].filterMap id = [] ∨
        [l.major, l.minor, l.patch].filterMap id = [[]]) := by
  have hdotted : ∀ fields : List Text, Text.dotted fields = [] ↔ fields = [] ∨ fields = [[]] := by
    rintro (- | ⟨a, - | ⟨b, fields⟩⟩)
    · simp [Text.dotted]
    · simp [Text.dotted_cons]
    · simp [Text.dotted_cons]
  rw [toText, ← hdotted]
  rcases htext : l.text with - | ⟨c, s⟩
  · simp [fieldsText]
  · simp

/-- So it leaves all of its numbers open. -/
theorem isWildcard_of_toText_eq_nil (h : l.toText = []) :
    isWildcard l.major = true ∧ isWildcard l.minor = true ∧ isWildcard l.patch = true := by
  have hwild : ∀ field ∈ [l.major, l.minor, l.patch], isWildcard field = true := by
    rintro (- | s) hfield
    · rfl
    · -- a field that is there is among those that are written
      have hmem : s ∈ [l.major, l.minor, l.patch].filterMap id :=
        List.mem_filterMap.mpr ⟨_, hfield, rfl⟩
      obtain ⟨-, hnone | hempty⟩ := toText_eq_nil_iff.mp h
      · rw [hnone] at hmem
        cases hmem
      · rw [hempty, List.mem_singleton] at hmem
        rw [hmem]
        rfl
  exact ⟨hwild _ (by simp), hwild _ (by simp), hwild _ (by simp)⟩

theorem fault?_of_toText_eq_nil (h : l.toText = []) :
    l.fault? = if l.isTagged then some [] else none := by
  obtain ⟨hmajor, hminor, hpatch⟩ := isWildcard_of_toText_eq_nil h
  simp [fault?, isAny, hmajor, hminor, hpatch, h]

/-- A fault of a literal that writes nothing is its tags, and no other literal has an empty
fragment to blame. -/
theorem fault?_eq_some_nil_iff :
    l.fault? = some [] ↔ l.toText = [] ∧ l.isTagged = true := by
  constructor
  · intro h
    have htext : l.toText = [] := by
      rcases toText_or_dotted_of_fault? h with htext | ⟨a, b, c, hdotted⟩
      · exact htext.symm
      · simp [Text.dotted_cons] at hdotted
    rw [fault?_of_toText_eq_nil htext] at h
    exact ⟨htext, by simpa using h⟩
  · rintro ⟨htext, htagged⟩
    rw [fault?_of_toText_eq_nil htext, if_pos htagged]

theorem eq_nil_iff_of_fault? (h : l.fault? = some fragment) :
    fragment = [] ↔ l.toText = [] := by
  constructor
  · rintro rfl
    exact (fault?_eq_some_nil_iff.mp h).1
  · intro htext
    rw [fault?_of_toText_eq_nil htext] at h
    split at h
    · exact (Option.some.inj h).symm
    · cases h

theorem check_eq_error (h : l.fault? = some fragment) (hne : fragment ≠ []) :
    l.check = .error (.rejected fragment) := by
  obtain ⟨c, s, rfl⟩ := List.exists_cons_of_ne_nil hne
  rw [check, h]

/-! ### Refused, or taken for any -/

/-- Whether a literal is refused with a fragment wherever it is put to use. -/
structure IsRefusedWith (l : Literal) (fragment : Text) : Prop where
  lowest : l.lowest = .error (.rejected fragment)
  highest : l.highest = .error (.rejected fragment)
  comparison {sign : Option Text} {o : Operator} (hsign : Operator.ofSign? sign = some o) :
    Comparison.clause { sign, version := l } = .error (.rejected fragment)
  dashFrom (upper : Literal) :
    DashRange.clause { lower := l, upper } = .error (.rejected fragment)
  /-- The other literal goes first, and may fail itself. -/
  dashTo (lower : Literal) :
    ∃ e, DashRange.clause { lower, upper := l } = .error e ∧
      ∀ low, lower.lowest = .ok low → e = .rejected fragment

/-- Whether a literal is taken for the one that stands for all versions wherever it is put
to use. -/
structure IsTakenForAny (l : Literal) : Prop where
  lowest : l.lowest = .ok .least
  highest : l.highest = .ok .greatest
  comparison {sign : Option Text} {o : Operator} (hsign : Operator.ofSign? sign = some o) :
    Comparison.clause { sign, version := l } = .ok o.clauseOfAny
  dashFrom {upper : Literal} {high : Version} (hhigh : upper.highest = .ok high) :
    DashRange.clause { lower := l, upper }
      = .ok { kind := .dash, interval := { lower := .least, upper := high },
              releasesOnly := true }
  dashTo {lower : Literal} {low : Version} (hlow : lower.lowest = .ok low) :
    DashRange.clause { lower, upper := l }
      = .ok { kind := .dash, interval := { lower := low, upper := .greatest },
              releasesOnly := true }

theorem isRefusedWith_of_check (h : l.check = .error (.rejected fragment)) :
    l.IsRefusedWith fragment := by
  have hlowest : l.lowest = .error (.rejected fragment) := by
    rw [lowest_eq_boundBy, boundBy_of_check_eq_error h]
  have hhighest : l.highest = .error (.rejected fragment) := by
    rw [highest_eq_boundBy, boundBy_of_check_eq_error h]
  refine ⟨hlowest, hhighest, ?_, ?_, ?_⟩
  · intro sign o hsign
    simp only [Comparison.clause, hsign]
    rw [Comparison.clauseFor, h]
    rfl
  · intro upper
    rw [DashRange.clause, hlowest]
    rfl
  · intro lower
    rw [DashRange.clause, hhighest]
    -- if the lower literal fails as well, its error is the one that shows
    rcases lower.lowest with e | low
    · exact ⟨e, rfl, by rintro low ⟨⟩⟩
    · exact ⟨_, rfl, fun _ _ => rfl⟩

theorem isTakenForAny_of_check (h : l.check = .ok ()) (hany : l.isAny = true) :
    l.IsTakenForAny := by
  have hlowest : l.lowest = .ok .least := by
    rw [lowest_eq_boundBy, boundBy_of_isAny h hany]
  have hhighest : l.highest = .ok .greatest := by
    rw [highest_eq_boundBy, boundBy_of_isAny h hany]
  refine ⟨hlowest, hhighest, ?_, ?_, ?_⟩
  · intro sign o hsign
    simp only [Comparison.clause, hsign]
    rw [Comparison.clauseFor, h, hany]
    rfl
  · intro upper high hhigh
    rw [DashRange.clause, hlowest, hhigh]
    rfl
  · intro lower low hlow
    rw [DashRange.clause, hlow, hhighest]
    rfl

/-- **A literal at fault is refused with its fragment, unless it writes nothing.**  Then the
fragment is empty, the fault goes unseen, and the literal is taken for the one that stands
for all versions although it carries tags. -/
theorem isRefusedWith_iff_of_fault? (h : l.fault? = some fragment) :
    (l.IsRefusedWith fragment ↔ l.toText ≠ []) ∧
      (l.toText = [] → fragment = [] ∧ l.isTagged = true ∧ l.IsTakenForAny) := by
  have hempty := eq_nil_iff_of_fault? h
  have htaken : l.toText = [] → fragment = [] ∧ l.isTagged = true ∧ l.IsTakenForAny := by
    intro htext
    obtain rfl := hempty.mpr htext
    have hcheck : l.check = .ok () := by rw [check, h]
    exact ⟨rfl, (fault?_eq_some_nil_iff.mp h).2,
      isTakenForAny_of_check hcheck (isWildcard_of_toText_eq_nil htext).1⟩
  refine ⟨⟨?_, ?_⟩, htaken⟩
  · intro hrefused htext
    have hlowest := hrefused.lowest
    rw [(htaken htext).2.2.lowest] at hlowest
    cases hlowest
  · intro htext
    exact isRefusedWith_of_check (check_eq_error h (mt hempty.mp htext))

/-- A missing field shows in the fragment, and an empty one can be all that is written. -/
theorem patch_behind_missing_is_refused :
    ∃ behind bare : Literal,
      behind.fault? = some "1.None.3".toList ∧ behind.IsRefusedWith "1.None.3".toList ∧
      bare.fault? = some [] ∧ bare.IsTakenForAny := by
  let behind : Literal := { major := some ['1'], patch := some ['3'] }
  let bare : Literal := { major := some [], build := [['b']] }
  have hbehind : behind.fault? = some "1.None.3".toList := by decide
  have hbare : bare.fault? = some [] := by decide
  refine ⟨behind, bare, hbehind, ?_, hbare, ?_⟩
  · exact (isRefusedWith_iff_of_fault? hbehind).1.mpr (by decide)
  · exact ((isRefusedWith_iff_of_fault? hbare).2 (by decide)).2.2

/-- Tags without a version are at fault, and yet have all bounds and clauses. -/
theorem bare_tags_pass :
    ∃ bare one : Literal,
      bare = { major := some [], preRelease := ["alpha".toList] } ∧ bare.fault? = some [] ∧
      bare.lowest = .ok .least ∧ bare.highest = .ok .greatest ∧
      (∀ p ∈ Operator.signs,
        Comparison.clause { sign := some p.1, version := bare } = .ok p.2.clauseOfAny) ∧
      one.lowest = .ok { major := 1, minor := 0, patch := 0 } ∧
      DashRange.clause { lower := one, upper := bare }
        = .ok { kind := .dash, releasesOnly := true,
                interval := { lower := { major := 1, minor := 0, patch := 0 },
                              upper := .greatest } } ∧
      DashRange.clause { lower := bare, upper := one }
        = .ok { kind := .dash, releasesOnly := true,
                interval := { lower := .least,
                              upper := { major := 2, minor := 0, patch := 0 } } } := by
  refine ⟨_, { major := some ['1'] }, rfl, ?_⟩
  decide

end Literal

end SemverRange
