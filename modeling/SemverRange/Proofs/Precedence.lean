/-
SemverRange/Proofs/Precedence.lean

Precedence is an order.

Identifiers, pre-releases and versions are compared step by step, and each step
is a comparison that swaps and composes as it should; so the instances of
`Std.TransCmp` below build on one another.

Precedence sees the value of a number and not its spelling, hence versions of
the same place need not be equivalent.  They are if their identifiers keep to
ASCII and have no zeros in front (`Version.IsCanonical`), as those do that come
from text: then of two versions one is older, or they are equivalent
(`Version.isOlderThan_trichotomy`).
-/
import SemverRange.Proofs.Decimal
import SemverRange.Version.Precedence

namespace SemverRange

open Std

/-! ### Identifiers -/

namespace Identifier

section

variable {a b : Identifier}

theorem precedence_of_numbers (ha : a.isNumeric = true) (hb : b.isNumeric = true) :
    precedence a b = compare (Text.decimalValue a) (Text.decimalValue b) := by
  rw [precedence, if_pos ha, if_pos hb]

theorem precedence_of_names (ha : a.isNumeric = false) (hb : b.isNumeric = false) :
    precedence a b = List.compareLex compare a b := by
  rw [precedence, if_neg (by simp [ha]), if_neg (by simp [hb])]

theorem precedence_number_name (ha : a.isNumeric = true) (hb : b.isNumeric = false) :
    precedence a b = .lt := by
  rw [precedence, if_pos ha, if_neg (by simp [hb])]

theorem precedence_name_number (ha : a.isNumeric = false) (hb : b.isNumeric = true) :
    precedence a b = .gt := by
  rw [precedence, if_neg (by simp [ha]), if_pos hb]

end

theorem precedence_swap (a b : Identifier) : precedence a b = (precedence b a).swap := by
  cases ha : isNumeric a <;> cases hb : isNumeric b
  · rw [precedence_of_names ha hb, precedence_of_names hb ha]
    exact OrientedCmp.eq_swap
  · rw [precedence_name_number ha hb, precedence_number_name hb ha]
    rfl
  · rw [precedence_number_name ha hb, precedence_name_number hb ha]
    rfl
  · rw [precedence_of_numbers ha hb, precedence_of_numbers hb ha]
    exact OrientedCmp.eq_swap

theorem isLE_precedence_trans {a b c : Identifier} (hab : (precedence a b).isLE = true)
    (hbc : (precedence b c).isLE = true) : (precedence a c).isLE = true := by
  -- a name is never below a number, so a middle one of another kind cannot be
  cases ha : isNumeric a <;> cases hb : isNumeric b <;> cases hc : isNumeric c
  · rw [precedence_of_names ha hb] at hab
    rw [precedence_of_names hb hc] at hbc
    rw [precedence_of_names ha hc]
    exact TransCmp.isLE_trans hab hbc
  · rw [precedence_name_number hb hc] at hbc
    cases hbc
  · rw [precedence_name_number ha hb] at hab
    cases hab
  · rw [precedence_name_number ha hb] at hab
    cases hab
  · rw [precedence_number_name ha hc]
    rfl
  · rw [precedence_name_number hb hc] at hbc
    cases hbc
  · rw [precedence_number_name ha hc]
    rfl
  · rw [precedence_of_numbers ha hb] at hab
    rw [precedence_of_numbers hb hc] at hbc
    rw [precedence_of_numbers ha hc]
    exact TransCmp.isLE_trans hab hbc

instance : TransCmp precedence where
  eq_swap := precedence_swap _ _
  isLE_trans := isLE_precedence_trans

/-- An identifier with one spelling: it keeps to ASCII and has no zero in front
that could be left out. -/
structure IsCanonical (i : Identifier) : Prop where
  ascii : ∀ c ∈ i, c.toNat < 128
  noLeadingZero : i.hasLeadingZero = false

/-- The digits of a canonical number are those of ASCII, and a zero in front is
all there is. -/
theorem IsCanonical.digits {i : Identifier} (hi : i.IsCanonical) (hnum : i.isNumeric = true) :
    i ≠ [] ∧ (∀ c ∈ i, 48 ≤ c.toNat ∧ c.toNat ≤ 57) ∧ (i.head? = some '0' → i = ['0']) := by
  have hzero := hi.noLeadingZero
  rw [hasLeadingZero, hnum] at hzero
  simp only [isNumeric, Bool.and_eq_true, Bool.not_eq_true', List.isEmpty_eq_false_iff,
    List.all_eq_true] at hnum
  refine ⟨hnum.1, fun c hc => (Text.isDigit_ascii_iff (hi.ascii c hc)).mp (hnum.2 c hc), ?_⟩
  intro hhead
  simpa [hhead] using hzero

theorem eq_of_precedence_eq {a b : Identifier} (ha : a.IsCanonical) (hb : b.IsCanonical)
    (h : precedence a b = .eq) : a = b := by
  cases hna : isNumeric a <;> cases hnb : isNumeric b
  · rw [precedence_of_names hna hnb] at h
    exact LawfulEqCmp.eq_of_compare h
  · rw [precedence_name_number hna hnb] at h
    cases h
  · rw [precedence_number_name hna hnb] at h
    cases h
  · rw [precedence_of_numbers hna hnb] at h
    obtain ⟨hane, hadigits, hazero⟩ := ha.digits hna
    obtain ⟨hbne, hbdigits, hbzero⟩ := hb.digits hnb
    exact Text.decimalValue_inj hane hbne hadigits hbdigits hazero hbzero
      (LawfulEqCmp.eq_of_compare h)

end Identifier

/-! ### Pre-releases -/

theorem preReleasePrecedence_cons (a b : Identifier) (as bs : List Identifier) :
    preReleasePrecedence (a :: as) (b :: bs)
      = List.compareLex Identifier.precedence (a :: as) (b :: bs) := rfl

theorem preReleasePrecedence_swap (as bs : List Identifier) :
    preReleasePrecedence as bs = (preReleasePrecedence bs as).swap := by
  rcases as with - | ⟨a, as⟩ <;> rcases bs with - | ⟨b, bs⟩
  · rfl
  · rfl
  · rfl
  · rw [preReleasePrecedence_cons, preReleasePrecedence_cons]
    exact OrientedCmp.eq_swap

theorem isLE_preReleasePrecedence_trans {as bs cs : List Identifier}
    (hab : (preReleasePrecedence as bs).isLE = true)
    (hbc : (preReleasePrecedence bs cs).isLE = true) :
    (preReleasePrecedence as cs).isLE = true := by
  -- nothing is above a release, and a release above nothing else
  rcases as with - | ⟨a, as⟩ <;> rcases bs with - | ⟨b, bs⟩ <;> rcases cs with - | ⟨c, cs⟩
  · rfl
  · cases hbc
  · rfl
  · cases hab
  · rfl
  · cases hbc
  · rfl
  · rw [preReleasePrecedence_cons] at hab hbc ⊢
    exact TransCmp.isLE_trans hab hbc

instance : TransCmp preReleasePrecedence where
  eq_swap := preReleasePrecedence_swap _ _
  isLE_trans := isLE_preReleasePrecedence_trans

theorem eq_of_compareLex_precedence_eq {as bs : List Identifier}
    (has : ∀ i ∈ as, i.IsCanonical) (hbs : ∀ i ∈ bs, i.IsCanonical)
    (h : List.compareLex Identifier.precedence as bs = .eq) : as = bs := by
  induction as generalizing bs with
  | nil =>
    cases bs with
    | nil => rfl
    | cons b bs => simp [List.compareLex_nil_cons] at h
  | cons a as ih =>
    cases bs with
    | nil => simp [List.compareLex_cons_nil] at h
    | cons b bs =>
      rw [List.compareLex_cons_cons, Ordering.then_eq_eq] at h
      have hhead : a = b :=
        Identifier.eq_of_precedence_eq (has a (by simp)) (hbs b (by simp)) h.1
      have htail : as = bs :=
        ih (fun i hi => has i (by simp [hi])) (fun i hi => hbs i (by simp [hi])) h.2
      rw [hhead, htail]

theorem eq_of_preReleasePrecedence_eq {as bs : List Identifier}
    (has : ∀ i ∈ as, i.IsCanonical) (hbs : ∀ i ∈ bs, i.IsCanonical)
    (h : preReleasePrecedence as bs = .eq) : as = bs := by
  rcases as with - | ⟨a, as⟩ <;> rcases bs with - | ⟨b, bs⟩
  · rfl
  · cases h
  · cases h
  · exact eq_of_compareLex_precedence_eq has hbs h

/-! ### Versions -/

namespace Version

instance : TransCmp fun v w : Version => preReleasePrecedence v.preRelease w.preRelease where
  eq_swap := preReleasePrecedence_swap _ _
  isLE_trans := isLE_preReleasePrecedence_trans

instance : TransCmp precedence :=
  inferInstanceAs <| TransCmp <|
    compareLex (compareOn major) <| compareLex (compareOn minor) <|
      compareLex (compareOn patch) fun v w => preReleasePrecedence v.preRelease w.preRelease

theorem precedence_swap (v w : Version) : v.precedence w = (w.precedence v).swap :=
  OrientedCmp.eq_swap

/-- Whether three numbers come before three others: the first difference
decides. -/
def TripleBefore (a b : Int × Int × Int) : Prop :=
  a.1 < b.1 ∨ a.1 = b.1 ∧ (a.2.1 < b.2.1 ∨ a.2.1 = b.2.1 ∧ a.2.2 < b.2.2)

instance (a b : Int × Int × Int) : Decidable (TripleBefore a b) := by
  unfold TripleBefore; infer_instance

theorem isOlderThan_iff {v w : Version} :
    v.isOlderThan w = true ↔
      TripleBefore v.triple w.triple ∨
        v.triple = w.triple ∧ preReleasePrecedence v.preRelease w.preRelease = .lt := by
  simp only [isOlderThan, precedence, Ordering.isLT_iff_eq_lt, Ordering.then_eq_lt,
    Std.compare_eq_lt, Std.LawfulEqCmp.compare_eq_iff_eq, TripleBefore, triple, Prod.mk.injEq]
  tauto

theorem isNewerThan_iff {v w : Version} :
    v.isNewerThan w = true ↔ w.isOlderThan v = true := Iff.rfl

theorem isEquivalentTo_iff {v w : Version} :
    v.isEquivalentTo w = true ↔ v.triple = w.triple ∧ v.preRelease = w.preRelease := by
  simp [isEquivalentTo, hasSameBase]

theorem isOlderThan_irrefl (v : Version) : v.isOlderThan v = false := by
  have hself : v.precedence v = .eq := ReflCmp.compare_self
  simp [isOlderThan, hself]

theorem isOlderThan_asymm {v w : Version} (h : v.isOlderThan w = true) :
    w.isOlderThan v = false := by
  rw [isOlderThan, Ordering.isLT_iff_eq_lt] at h
  rw [isOlderThan, precedence_swap, h]
  rfl

theorem isOlderThan_trans {u v w : Version} (huv : u.isOlderThan v = true)
    (hvw : v.isOlderThan w = true) : u.isOlderThan w = true := by
  rw [isOlderThan, Ordering.isLT_iff_eq_lt] at huv hvw ⊢
  exact TransCmp.lt_trans huv hvw

theorem isEquivalentTo_refl (v : Version) : v.isEquivalentTo v = true := by
  simp [isEquivalentTo_iff]

/-- Precedence only sees a version up to equivalence. -/
theorem precedence_congr {v v' w w' : Version} (hv : v.isEquivalentTo v' = true)
    (hw : w.isEquivalentTo w' = true) : v.precedence w = v'.precedence w' := by
  simp only [isEquivalentTo_iff, triple, Prod.mk.injEq] at hv hw
  simp only [precedence, hv, hw]

theorem isOlderThan_congr {v v' w w' : Version} (hv : v.isEquivalentTo v' = true)
    (hw : w.isEquivalentTo w' = true) : v.isOlderThan w = v'.isOlderThan w' := by
  rw [isOlderThan, precedence_congr hv hw, isOlderThan]

/-- A version whose pre-release has one spelling. -/
def IsCanonical (v : Version) : Prop :=
  ∀ i ∈ v.preRelease, i.IsCanonical

theorem isCanonical_of_preRelease_eq_nil {v : Version} (h : v.preRelease = []) :
    v.IsCanonical := by
  simp [IsCanonical, h]

theorem isCanonical_least : least.IsCanonical :=
  isCanonical_of_preRelease_eq_nil rfl

theorem isCanonical_greatest : greatest.IsCanonical :=
  isCanonical_of_preRelease_eq_nil rfl

theorem isEquivalentTo_of_precedence_eq {v w : Version} (hv : v.IsCanonical)
    (hw : w.IsCanonical) (h : v.precedence w = .eq) : v.isEquivalentTo w = true := by
  simp only [precedence, Ordering.then_eq_eq, Std.LawfulEqCmp.compare_eq_iff_eq] at h
  obtain ⟨hmajor, hminor, hpatch, hpre⟩ := h
  rw [isEquivalentTo_iff]
  exact ⟨by simp [triple, hmajor, hminor, hpatch], eq_of_preReleasePrecedence_eq hv hw hpre⟩

theorem isOlderThan_trichotomy {v w : Version} (hv : v.IsCanonical) (hw : w.IsCanonical) :
    v.isOlderThan w = true ∨ v.isEquivalentTo w = true ∨ w.isOlderThan v = true := by
  rcases h : v.precedence w with - | - | -
  · left
    simp [isOlderThan, h]
  · right; left
    exact isEquivalentTo_of_precedence_eq hv hw h
  · right; right
    simp [isOlderThan, precedence_swap w v, h]

theorem isOlderThan_eq_false_of_isEquivalentTo {v w : Version}
    (h : v.isEquivalentTo w = true) : v.isOlderThan w = false := by
  rw [isOlderThan_congr h (isEquivalentTo_refl w), isOlderThan_irrefl]

end Version

end SemverRange
