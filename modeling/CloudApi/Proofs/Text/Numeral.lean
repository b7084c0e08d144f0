import CloudApi.Text.Numeral
import Mathlib.Tactic.IntervalCases

/-! Numerals are read back as they were written.

A numeral is written digit by digit, the last one by division (`digitsFrom`), and read with an
accumulator (`valueFrom?`), so that reading on at the last digit undoes the division
(`value?_decimal`). No numeral begins with a sign, and a 64-bit count is read back whole
(`uint64?_decimal`). Zeros in front change nothing: a number that is padded to a width has that
many digits (`length_padded`) and is read back as well (`valueFrom?_padded`). -/
namespace CloudApi.Text.Numeral

theorem isDigit_iff {c : Char} : isDigit c ↔ 48 ≤ c.toNat ∧ c.toNat ≤ 57 := by
  unfold isDigit digitValue?
  split
  · next h => exact iff_of_true rfl h
  · next h => exact iff_of_false Bool.false_ne_true h

theorem digitValue?_lt {c : Char} {d : Nat} (h : digitValue? c = some d) : d < 10 := by
  have hdigit := isDigit_iff.mp (Option.isSome_of_eq_some h)
  unfold digitValue? at h
  split at h
  · have hvalue := Option.some.inj h
    omega
  · cases h

theorem digitValue?_digit {d : Nat} (h : d < 10) : digitValue? (digit d) = some d := by
  interval_cases d <;> rfl

theorem valueFrom?_append (acc : Nat) (cs ds : List Char) :
    valueFrom? acc (cs ++ ds) = (valueFrom? acc cs).bind fun n => valueFrom? n ds := by
  induction cs generalizing acc with
  | nil => rfl
  | cons c cs ih =>
    rw [List.cons_append, valueFrom?, valueFrom?]
    cases digitValue? c with
    | none => rfl
    | some d => exact ih _

theorem valueFrom?_digitsFrom {fuel n : Nat} (h : n ≤ fuel) :
    valueFrom? 0 (digitsFrom 10 digit fuel n) = some n := by
  have hsingle {m : Nat} (hm : m < 10) (acc : Nat) :
      valueFrom? acc [digit m] = some (acc * 10 + m) := by
    rw [valueFrom?, digitValue?_digit hm]
    rfl
  induction fuel generalizing n with
  | zero =>
    obtain rfl : n = 0 := by omega
    rfl
  | succ fuel ih =>
    rw [digitsFrom]
    split
    · next hsmall => rw [hsingle hsmall, Nat.zero_mul, Nat.zero_add]
    · next hlarge =>
      have hback : n / 10 * 10 + n % 10 = n := by omega
      rw [valueFrom?_append, ih (by omega), Option.bind_some, hsingle (by omega), hback]

theorem mem_digitsFrom {glyph : Nat → Char} {base fuel n : Nat} (hbase : 2 ≤ base) (h : n ≤ fuel)
    {c : Char} (hc : c ∈ digitsFrom base glyph fuel n) : ∃ d < base, c = glyph d := by
  induction fuel generalizing n with
  | zero => exact ⟨n, by omega, List.mem_singleton.mp hc⟩
  | succ fuel ih =>
    rw [digitsFrom] at hc
    split at hc
    · next hsmall => exact ⟨n, hsmall, List.mem_singleton.mp hc⟩
    · next hlarge =>
      rcases List.mem_append.mp hc with hc | hc
      · have hless : n / base < n := Nat.div_lt_self (by omega) (by omega)
        exact ih (by omega) hc
      · exact ⟨n % base, Nat.mod_lt n (by omega), List.mem_singleton.mp hc⟩

theorem isDigit_of_mem_decimal {n : Nat} {c : Char} (hc : c ∈ decimal n) : isDigit c := by
  obtain ⟨d, hd, rfl⟩ := mem_digitsFrom (by omega) le_rfl hc
  rw [isDigit, digitValue?_digit hd]
  rfl

theorem digitsFrom_ne_nil (base : Nat) (glyph : Nat → Char) (fuel n : Nat) :
    digitsFrom base glyph fuel n ≠ [] := by
  cases fuel with
  | zero => exact List.cons_ne_nil _ _
  | succ fuel =>
    rw [digitsFrom]
    split
    · exact List.cons_ne_nil _ _
    · exact List.append_ne_nil_of_right_ne_nil _ (List.cons_ne_nil _ _)

theorem decimal_ne_nil (n : Nat) : decimal n ≠ [] :=
  digitsFrom_ne_nil 10 digit n n

/-- **A number is read back from its digits.** -/
theorem value?_decimal (n : Nat) : value? (decimal n) = some n := by
  have hvalue : valueFrom? 0 (decimal n) = some n := valueFrom?_digitsFrom le_rfl
  rw [← hvalue]
  cases hdigits : decimal n with
  | nil => exact absurd hdigits (decimal_ne_nil n)
  | cons c cs => rfl

/-- Digits without a sign are read as they are. -/
theorem uint64?_of_isDigit {cs : List Char} (h : ∀ c ∈ cs, isDigit c) :
    uint64? cs = (value? cs).bind fun n =>
      if n < 0x10000000000000000 then some n.toUInt64 else none := by
  unfold uint64?
  dsimp only
  split
  · exact absurd (h '+' List.mem_cons_self) (by decide)
  · rfl

theorem uint64?_decimal {n : Nat} (h : n < 2 ^ 64) : uint64? (decimal n) = some n.toUInt64 := by
  rw [uint64?_of_isDigit fun _ => isDigit_of_mem_decimal, value?_decimal]
  exact if_pos h

/-! ### Numerals of a fixed width -/

theorem length_digitsFrom_le {base : Nat} {glyph : Nat → Char} {fuel n width : Nat}
    (hbase : 2 ≤ base) (hfuel : n ≤ fuel) (hwidth : 0 < width) (hn : n < base ^ width) :
    (digitsFrom base glyph fuel n).length ≤ width := by
  induction fuel generalizing n width with
  | zero => exact hwidth
  | succ fuel ih =>
    rw [digitsFrom]
    split
    · exact hwidth
    · next hlarge =>
      obtain ⟨width, rfl⟩ : ∃ k, width = k + 1 := ⟨width - 1, by omega⟩
      have hpositive : 0 < width := by
        by_contra hzero
        obtain rfl : width = 0 := by omega
        exact hlarge (Nat.pow_one base ▸ hn)
      have hquotient : n / base < base ^ width := by
        rw [Nat.div_lt_iff_lt_mul (by omega), ← Nat.pow_succ]
        exact hn
      have hless : n / base < n := Nat.div_lt_self (by omega) (by omega)
      rw [List.length_append]
      exact Nat.succ_le_succ (ih (by omega) hpositive hquotient)

theorem length_padded {width n : Nat} (hwidth : 0 < width) (hn : n < 10 ^ width) :
    (padded width n).length = width := by
  have hle : (decimal n).length ≤ width := length_digitsFrom_le (by decide) le_rfl hwidth hn
  unfold padded
  rw [List.length_append, List.length_replicate]
  omega

theorem isDigit_of_mem_padded {width n : Nat} {c : Char} (hc : c ∈ padded width n) : isDigit c := by
  rcases List.mem_append.mp hc with hc | hc
  · rw [List.eq_of_mem_replicate hc]
    rfl
  · exact isDigit_of_mem_decimal hc

/-- Zeros in front count for nothing. -/
theorem valueFrom?_padded (width n : Nat) : valueFrom? 0 (padded width n) = some n := by
  have hzeros (k : Nat) : valueFrom? 0 (List.replicate k '0') = some 0 := by
    induction k with
    | zero => rfl
    | succ k ih => exact ih
  unfold padded
  rw [valueFrom?_append, hzeros, Option.bind_some]
  exact valueFrom?_digitsFrom le_rfl

/-- A decimal numeral is the usual text of a number. -/
theorem decimalText_eq (n : Nat) : decimalText n = toString n := by
  have hdigit {d : Nat} (h : d < 10) : digit d = d.digitChar := by
    interval_cases d <;> rfl
  have hdigits (fuel m : Nat) (h : m ≤ fuel) : digitsFrom 10 digit fuel m = Nat.toDigits 10 m := by
    induction fuel generalizing m with
    | zero =>
      obtain rfl : m = 0 := by omega
      rfl
    | succ fuel ih =>
      rw [digitsFrom, Nat.toDigits_eq_if (by decide)]
      split
      · next hsmall => rw [hdigit hsmall]
      · rw [ih _ (by omega), hdigit (by omega)]
  rw [Nat.toString_eq_repr, Nat.repr_eq_ofList_toDigits, decimalText, decimal, hdigits n n le_rfl]

end CloudApi.Text.Numeral
