/-
SemverRange/Proofs/Decimal.lean

Runs of decimal digits.

Every script keeps its digits apart from blanks, signs and letters, because the
table of zeros (`Text.digitZeros`) and the tables of the other classes share no
code point; one check over both tables settles all characters at once
(`Text.inRanges_eq_false_of_isDigit`).

A run of digits is an integer in writing (`Text.Numeral.read?_of_digits`), and
among the digits of ASCII a number has one spelling without a zero in front
(`Text.decimalValue_inj`).
-/
import Mathlib.Data.List.Induction
import SemverRange.Proofs.Blanks
import SemverRange.Text.Numeral

namespace SemverRange.Text

/-! ### Digits against other characters -/

theorem isDigit_iff {c : Char} :
    isDigit c = true ↔ ∃ z ∈ digitZeros, z ≤ c.toNat ∧ c.toNat < z + 10 := by
  simp [isDigit, digit?, List.find?_isSome]

theorem inRanges_iff {ranges : List (Nat × Nat)} {c : Char} :
    inRanges ranges c = true ↔ ∃ r ∈ ranges, r.1 ≤ c.toNat ∧ c.toNat ≤ r.2 := by
  simp [inRanges]

/-- A table of ranges that meets no run of ten digits holds no digit. -/
theorem inRanges_eq_false_of_isDigit {ranges : List (Nat × Nat)}
    (hapart : ∀ z ∈ digitZeros, ∀ r ∈ ranges, z + 9 < r.1 ∨ r.2 < z) {c : Char}
    (hc : isDigit c = true) : inRanges ranges c = false := by
  obtain ⟨z, hz, hle, hlt⟩ := isDigit_iff.mp hc
  rw [Bool.eq_false_iff, Ne, inRanges_iff]
  rintro ⟨r, hr, h₁, h₂⟩
  have := hapart z hz r hr
  omega

theorem isBlank_eq_false_of_isDigit {c : Char} (hc : isDigit c = true) : isBlank c = false :=
  inRanges_eq_false_of_isDigit (by decide) hc

theorem isMargin_eq_false_of_isDigit {c : Char} (hc : isDigit c = true) :
    Numeral.isMargin c = false := by
  simp [Numeral.isMargin, isBlank_eq_false_of_isDigit hc]

/-- The digits of ASCII are the characters from `0` to `9`. -/
theorem isDigit_ascii_iff {c : Char} (hc : c.toNat < 128) :
    isDigit c = true ↔ 48 ≤ c.toNat ∧ c.toNat ≤ 57 := by
  have hzeros : ∀ z ∈ digitZeros, z = 48 ∨ 128 ≤ z := by decide
  rw [isDigit_iff]
  constructor
  · rintro ⟨z, hz, hle, hlt⟩
    rcases hzeros z hz with rfl | hfar
    · omega
    · omega
  · intro h
    exact ⟨48, by decide, by omega, by omega⟩

theorem digit?_ascii {c : Char} (hlo : 48 ≤ c.toNat) (hhi : c.toNat ≤ 57) :
    digit? c = some (c.toNat - 48) := by
  have hfirst : digitZeros.find? (fun z => z ≤ c.toNat && c.toNat < z + 10) = some 48 := by
    rw [digitZeros, List.find?_cons_of_pos]
    simp only [Bool.and_eq_true, decide_eq_true_eq]
    omega
  rw [digit?, hfirst, Option.map_some]

/-! ### A run of digits is an integer -/

namespace Numeral

theorem readDigits_of_digits {s : Text} (hs : ∀ c ∈ s, isDigit c = true) (n : Nat) :
    readDigits n s = some (s.foldl (fun n c => 10 * n + (digit? c).getD 0) n) := by
  induction s generalizing n with
  | nil => rfl
  | cons c s ih =>
    have hc : isDigit c = true := hs c (by simp)
    obtain ⟨d, hd⟩ := Option.isSome_iff_exists.mp hc
    -- no digit is an underscore, so the digit is read as such
    have hstep : readDigits n (c :: s) = readDigits (10 * n + d) s := by
      rw [readDigits, hd]
      rintro c' s' rfl -
      exact absurd hc (by decide)
    rw [hstep, ih fun c' hc' => hs c' (by simp [hc'])]
    simp [hd]

theorem readUnsigned_of_digits {s : Text} (hne : s ≠ []) (hs : ∀ c ∈ s, isDigit c = true) :
    readUnsigned s = some (decimalValue s) := by
  obtain ⟨c, t, rfl⟩ := List.exists_cons_of_ne_nil hne
  obtain ⟨d, hd⟩ := Option.isSome_iff_exists.mp (hs c (by simp))
  rw [readUnsigned, hd]
  simp only
  rw [readDigits_of_digits fun c' hc' => hs c' (by simp [hc'])]
  simp [decimalValue, hd]

/-- A run of digits reads as the number it writes. -/
theorem read?_of_digits {s : Text} (hne : s ≠ []) (hs : ∀ c ∈ s, isDigit c = true) :
    read? s = some (decimalValue s : Int) := by
  have htrim : trim isMargin s = s :=
    trim_eq_self fun c hc => isMargin_eq_false_of_isDigit (hs c hc)
  have hnat := readUnsigned_of_digits hne hs
  rw [read?, htrim]
  split
  · exact absurd (hs '-' (by simp)) (by decide)
  · exact absurd (hs '+' (by simp)) (by decide)
  · rw [hnat]
    rfl

end Numeral

/-! ### The spelling of a number -/

theorem decimalValue_concat (s : Text) (c : Char) :
    decimalValue (s ++ [c]) = 10 * decimalValue s + (digit? c).getD 0 := by
  simp [decimalValue]

/-- Without a zero in front that could be left out, ASCII digits are the digits
of the number they write. -/
theorem toDigits_decimalValue {s : Text} (hne : s ≠ [])
    (hs : ∀ c ∈ s, 48 ≤ c.toNat ∧ c.toNat ≤ 57) (hzero : s.head? = some '0' → s = ['0']) :
    Nat.toDigits 10 (decimalValue s) = s := by
  induction s using List.reverseRecOn with
  | nil => exact absurd rfl hne
  | append_singleton s c ih =>
    obtain ⟨hlo, hhi⟩ := hs c (by simp)
    have hdigit : digit? c = some (c.toNat - 48) := digit?_ascii hlo hhi
    have hlast : Nat.toDigits 10 (c.toNat - 48) = [c] := by
      rw [Nat.toDigits_of_lt_base (by omega)]
      congr 1
      apply Char.toNat_inj.mp
      rw [Nat.toNat_digitChar_of_lt_ten (by omega)]
      omega
    rw [decimalValue_concat, hdigit, Option.getD_some]
    rcases s with - | ⟨d, s⟩
    · simpa [decimalValue] using hlast
    · -- the digits before the last begin with the same digit, which is no zero
      have hd : d ≠ '0' := by
        rintro rfl
        simpa using hzero (by simp)
      have hfront := ih (by simp) (fun c' hc' => hs c' (List.mem_append_left _ hc')) (by simp [hd])
      have hpos : 0 < decimalValue (d :: s) := by
        rw [Nat.pos_iff_ne_zero]
        intro h
        rw [h] at hfront
        exact hd (List.cons.inj hfront).1.symm
      rw [← Nat.toDigits_append_toDigits (by decide) hpos (by omega), hfront, hlast]

theorem decimalValue_inj {s t : Text} (hsne : s ≠ []) (htne : t ≠ [])
    (hs : ∀ c ∈ s, 48 ≤ c.toNat ∧ c.toNat ≤ 57) (ht : ∀ c ∈ t, 48 ≤ c.toNat ∧ c.toNat ≤ 57)
    (hszero : s.head? = some '0' → s = ['0']) (htzero : t.head? = some '0' → t = ['0'])
    (h : decimalValue s = decimalValue t) : s = t := by
  rw [← toDigits_decimalValue hsne hs hszero, h, toDigits_decimalValue htne ht htzero]

end SemverRange.Text
