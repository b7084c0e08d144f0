import CloudApi.Text.Utf8
import Mathlib.Tactic.IntervalCases

/-! UTF-8 is read back as it was written.

The bytes of a character are a lead and the continuations it owes. From between characters the
reader takes them one by one and stands between characters again (`scan_encodeChar`), so that it
reads every text back, whatever follows (`scan_encode`). What is decided of characters is decided of
those in a text, or of those of ASCII (`of_ascii`), and never of all there are. -/
namespace CloudApi.Text

section Decidable
variable (P : Char → Prop) [DecidablePred P]

-- There is a decision over all characters as well, which would be found first.
instance decidableForallMemList (cs : List Char) : Decidable (∀ c ∈ cs, P c) :=
  List.decidableBAll P cs

instance decidableForallMemOption (c? : Option Char) : Decidable (∀ c ∈ c?, P c) :=
  Option.decidableForallMem c?

end Decidable

/-- A code point is that of the character it stands for. -/
theorem toNat_charOfNat {n : Nat} (h : n.isValidChar) : (Char.ofNat n).toNat = n := by
  rw [Char.ofNat, dif_pos h]
  rfl

namespace Utf8

/-- What holds of the characters of ASCII one by one. -/
@[elab_as_elim]
theorem of_ascii {P : Char → Prop} {c : Char} (hc : c.toNat < 0x80)
    (h : ∀ n < 0x80, P (Char.ofNat n)) : P c := by
  have hchar := h c.toNat hc
  rwa [Char.ofNat_toNat] at hchar

theorem toNat_toUInt8 {n : Nat} (h : n < 0x100) : n.toUInt8.toNat = n := by
  rw [Nat.toUInt8_eq, UInt8.toNat_ofNat']
  exact Nat.mod_eq_of_lt h

/-! ### Leads -/

theorem lead_one {n : Nat} (h : n < 0x80) : lead n.toUInt8 = .char (Char.ofNat n) := by
  have hvalue : n.toUInt8.toNat = n := toNat_toUInt8 (by omega)
  have hsmall : n.toUInt8 < 0x80 := by
    rw [UInt8.lt_iff_toNat_lt, hvalue]
    exact h
  rw [lead, if_pos hsmall, hvalue]

theorem lead_two {m : Nat} (hle : 2 ≤ m) (hlt : m < 0x20) :
    lead (0xC0 + m).toUInt8 = .pending ⟨m, 1, 0x80, 0xBF⟩ := by
  interval_cases m <;> rfl

theorem lead_three {m : Nat} (hlt : m < 0x10) :
    lead (0xE0 + m).toUInt8 =
      .pending ⟨m, 2, if m = 0 then 0xA0 else 0x80, if m = 0xD then 0x9F else 0xBF⟩ := by
  interval_cases m <;> rfl

theorem lead_four {m : Nat} (hlt : m < 5) :
    lead (0xF0 + m).toUInt8 =
      .pending ⟨m, 3, if m = 0 then 0x90 else 0x80, if m = 4 then 0x8F else 0xBF⟩ := by
  interval_cases m <;> rfl

/-! ### Continuations -/

theorem scan_lead {b : UInt8} {p : Pending} (h : lead b = .pending p) (rest : List UInt8) :
    scan none (b :: rest) = scan (some p) rest := by
  simp only [scan, step, start, h, List.nil_append]

/-- A continuation within the bounds gives six bits more. -/
theorem step_continuation {bits owed d : Nat} {least greatest : UInt8} (hd : d < 0x40)
    (hleast : least.toNat ≤ 0x80 + d) (hgreatest : 0x80 + d ≤ greatest.toNat) :
    step (some ⟨bits, owed, least, greatest⟩) (0x80 + d).toUInt8 =
      if owed = 1 then ⟨[some (Char.ofNat (bits * 0x40 + d))], none⟩
      else ⟨[], some ⟨bits * 0x40 + d, owed - 1, 0x80, 0xBF⟩⟩ := by
  have hvalue : (0x80 + d).toUInt8.toNat = 0x80 + d := toNat_toUInt8 (by omega)
  have hbounds : least ≤ (0x80 + d).toUInt8 ∧ (0x80 + d).toUInt8 ≤ greatest := by
    rw [UInt8.le_iff_toNat_le, UInt8.le_iff_toNat_le, hvalue]
    exact ⟨hleast, hgreatest⟩
  have hbits : 0x80 + d - 0x80 = d := by omega
  simp only [step, if_pos hbounds, hvalue, hbits]

theorem scan_last {bits d : Nat} (hd : d < 0x40) (rest : List UInt8) :
    scan (some ⟨bits, 1, 0x80, 0xBF⟩) ((0x80 + d).toUInt8 :: rest) =
      some (Char.ofNat (bits * 0x40 + d)) :: scan none rest := by
  have hbounds : (0x80 : UInt8).toNat ≤ 0x80 + d ∧ 0x80 + d ≤ (0xBF : UInt8).toNat := by
    simp only [UInt8.reduceToNat]
    omega
  rw [scan, step_continuation hd hbounds.1 hbounds.2, if_pos rfl]
  rfl

theorem scan_more {bits owed d : Nat} {least greatest : UInt8} (hd : d < 0x40)
    (hleast : least.toNat ≤ 0x80 + d) (hgreatest : 0x80 + d ≤ greatest.toNat)
    (rest : List UInt8) :
    scan (some ⟨bits, owed + 2, least, greatest⟩) ((0x80 + d).toUInt8 :: rest) =
      scan (some ⟨bits * 0x40 + d, owed + 1, 0x80, 0xBF⟩) rest := by
  rw [scan, step_continuation hd hleast hgreatest, if_neg (by omega)]
  rfl

/-! ### Characters -/

theorem scan_encodeChar (c : Char) (rest : List UInt8) :
    scan none (encodeChar c ++ rest) = some c :: scan none rest := by
  have hvalid : c.toNat < 0xD800 ∨ 0xDFFF < c.toNat ∧ c.toNat < 0x110000 := c.valid
  have hback : Char.ofNat c.toNat = c := Char.ofNat_toNat c
  unfold encodeChar
  generalize c.toNat = n at hvalid hback
  simp only
  split
  · next h =>
    simp only [List.singleton_append, scan, step, start, lead_one h, hback]
  split
  · next hone htwo =>
    have hbits : n / 0x40 * 0x40 + n % 0x40 = n := by omega
    rw [List.cons_append, scan_lead (lead_two (by omega) (by omega)), List.singleton_append,
      scan_last (by omega), hbits, hback]
  split
  · next hone htwo hthree =>
    have hbits : (n / 0x1000 * 0x40 + n / 0x40 % 0x40) * 0x40 + n % 0x40 = n := by omega
    have hleast : (if n / 0x1000 = 0 then 0xA0 else 0x80 : UInt8).toNat ≤
        0x80 + n / 0x40 % 0x40 := by
      split
      all_goals simp only [UInt8.reduceToNat]
      all_goals omega
    have hgreatest : 0x80 + n / 0x40 % 0x40 ≤
        (if n / 0x1000 = 0xD then 0x9F else 0xBF : UInt8).toNat := by
      split
      all_goals simp only [UInt8.reduceToNat]
      all_goals omega
    rw [List.cons_append, scan_lead (lead_three (by omega)), List.cons_append,
      scan_more (by omega) hleast hgreatest,
      List.singleton_append, scan_last (by omega), hbits, hback]
  · next hone htwo hthree =>
    have hbits : ((n / 0x40000 * 0x40 + n / 0x1000 % 0x40) * 0x40 + n / 0x40 % 0x40) * 0x40 +
        n % 0x40 = n := by omega
    have hleast : (if n / 0x40000 = 0 then 0x90 else 0x80 : UInt8).toNat ≤
        0x80 + n / 0x1000 % 0x40 := by
      split
      all_goals simp only [UInt8.reduceToNat]
      all_goals omega
    have hgreatest : 0x80 + n / 0x1000 % 0x40 ≤
        (if n / 0x40000 = 4 then 0x8F else 0xBF : UInt8).toNat := by
      split
      all_goals simp only [UInt8.reduceToNat]
      all_goals omega
    rw [List.cons_append, scan_lead (lead_four (by omega)), List.cons_append,
      scan_more (by omega) hleast hgreatest,
      List.cons_append, scan_more (by omega) (by simp) (by simp; omega),
      List.singleton_append, scan_last (by omega), hbits, hback]

theorem scan_encode (cs : List Char) (rest : List UInt8) :
    scan none (encode cs ++ rest) = cs.map some ++ scan none rest := by
  induction cs with
  | nil => rfl
  | cons c cs ih =>
    rw [encode, List.flatMap_cons, List.append_assoc, scan_encodeChar, ← encode, ih]
    rfl

theorem scan_encode_nil (cs : List Char) : scan none (encode cs) = cs.map some := by
  rw [← List.append_nil (encode cs), scan_encode]
  exact List.append_nil _

/-- **What was written as UTF-8 is read back.** -/
theorem decode_encode (cs : List Char) : decode (encode cs) = cs := by
  rw [decode, scan_encode_nil, List.map_map]
  exact List.map_id cs

/-- The strict reader takes it as well. -/
theorem decode?_encode (cs : List Char) : decode? (encode cs) = some cs := by
  rw [decode?, scan_encode_nil, List.mapM_map]
  exact List.mapM_pure.trans (congrArg some (List.map_id cs))

end Utf8

end CloudApi.Text
