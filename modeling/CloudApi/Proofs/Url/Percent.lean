import CloudApi.Proofs.Text.Numeral
import CloudApi.Proofs.Text.Utf8
import CloudApi.Url.Percent
import Mathlib.Tactic.IntervalCases

/-! Percent encoding is read back.

A text without percent signs of its own is read back as its bytes (`decode_encode`), so that two such
texts are never written alike (`encode_injective`). Nothing is left to be encoded in what is written
(`isEncoded_encode`), if the set spares percent signs and digits. -/
namespace CloudApi.Url

open Text

/-! ### What is written -/

section Written
variable {c : Char}

/-- A character that is written as it is, or behind a percent sign. -/
theorem encodeChar_cases (reserved : Char → Bool) (c : Char) :
    Percent.encodeChar reserved c = [c] ∨ ∃ rest, Percent.encodeChar reserved c = '%' :: rest := by
  unfold Percent.encodeChar
  split
  · have hbytes : ∃ b bytes, Utf8.encodeChar c = b :: bytes := by
      unfold Utf8.encodeChar
      dsimp only
      split_ifs <;> exact ⟨_, _, rfl⟩
    obtain ⟨b, bytes, hbytes⟩ := hbytes
    exact .inr ⟨_, by rw [hbytes, List.flatMap_cons, Percent.triple, List.cons_append]⟩
  · exact .inl rfl

/-- What is written for a character is itself, a percent sign or a hexadecimal digit. -/
theorem mem_encodeChar {reserved : Char → Bool} {d : Char} (h : d ∈ Percent.encodeChar reserved c) :
    (d = c ∧ 0x20 ≤ c.toNat ∧ c.toNat < 0x7F ∧ reserved c = false) ∨ d = '%' ∨
      ∃ n < 0x10, d = Numeral.upperHex n := by
  unfold Percent.encodeChar at h
  split at h
  · obtain ⟨b, -, h⟩ := List.mem_flatMap.mp h
    simp only [Percent.triple, List.mem_cons, List.not_mem_nil, or_false] at h
    have hbyte := b.toNat_lt
    rcases h with rfl | rfl | rfl
    · exact .inr (.inl rfl)
    · exact .inr (.inr ⟨_, by omega, rfl⟩)
    · exact .inr (.inr ⟨_, Nat.mod_lt _ (by decide), rfl⟩)
  · next hplain =>
    simp only [not_or, Bool.not_eq_true] at hplain
    exact .inl ⟨List.mem_singleton.mp h, by omega, by omega, hplain.2.2⟩

/-- Only percent signs change a text. -/
theorem encode_of_not_mem {reserved : Char → Bool} {cs : List Char}
    (h : '%' ∉ Percent.encode reserved cs) : Percent.encode reserved cs = cs := by
  induction cs with
  | nil => rfl
  | cons c cs ih =>
    rw [Percent.encode, List.flatMap_cons] at h ⊢
    rcases encodeChar_cases reserved c with hc | ⟨rest, hc⟩
    · rw [hc] at h ⊢
      exact congrArg (c :: ·) (ih fun hmem => h (List.mem_cons_of_mem c hmem))
    · rw [hc] at h
      exact absurd List.mem_cons_self h

theorem encode_ne_nil {reserved : Char → Bool} {cs : List Char} (h : cs ≠ []) :
    Percent.encode reserved cs ≠ [] := by
  obtain ⟨c, cs, rfl⟩ := List.exists_cons_of_ne_nil h
  rw [Percent.encode, List.flatMap_cons]
  rcases encodeChar_cases reserved c with hc | ⟨rest, hc⟩ <;> rw [hc] <;> exact List.cons_ne_nil _ _

end Written

namespace Percent

/-! ### Reading it -/

theorem hexValue?_upperHex {d : Nat} (h : d < 0x10) :
    Numeral.hexValue? (Numeral.upperHex d) = some d := by
  interval_cases d <;> rfl

theorem decode_of_ne {c : Char} (h : c ≠ '%') (rest : List Char) :
    decode (c :: rest) = Utf8.encodeChar c ++ decode rest := by
  match rest with
  | [] | [_] | _ :: _ :: _ => simp [decode, h]

/-- A triple is read as the byte it was written for. -/
theorem decode_triple (b : UInt8) (rest : List Char) :
    decode (triple b ++ rest) = b :: decode rest := by
  have hbyte : b.toNat < 0x100 := b.toNat_lt
  have hback : b.toNat / 16 * 16 + b.toNat % 16 = b.toNat := by omega
  show decode ('%' :: _ :: _ :: rest) = _
  rw [decode, hexValue?_upperHex (by omega), hexValue?_upperHex (by omega)]
  simp only [hback, Nat.toUInt8_eq, UInt8.ofNat_toNat]

theorem decode_triples (bs : List UInt8) (rest : List Char) :
    decode (bs.flatMap triple ++ rest) = bs ++ decode rest := by
  induction bs with
  | nil => rfl
  | cons b bs ih =>
    rw [List.flatMap_cons, List.append_assoc, decode_triple, ih, List.cons_append]

section Encode
variable {reserved : Char → Bool}

theorem encode_cons (c : Char) (cs : List Char) :
    encode reserved (c :: cs) = encodeChar reserved c ++ encode reserved cs :=
  List.flatMap_cons

/-- **What was written of a text is read as the bytes of the text**, unless it has percent signs of its
own. -/
theorem decode_encode {cs : List Char} (h : '%' ∉ cs) :
    decode (encode reserved cs) = Utf8.encode cs := by
  induction cs with
  | nil => rfl
  | cons c cs ih =>
    have hc : c ≠ '%' := (List.ne_of_not_mem_cons h).symm
    have ih := ih (List.not_mem_of_not_mem_cons h)
    rw [encode_cons, Utf8.encode, List.flatMap_cons, ← Utf8.encode, ← ih, encodeChar]
    split
    · exact decode_triples _ _
    · exact decode_of_ne hc _

theorem decode_of_not_mem {cs : List Char} (h : '%' ∉ cs) : decode cs = Utf8.encode cs := by
  induction cs with
  | nil => rfl
  | cons c cs ih =>
    rw [decode_of_ne (List.ne_of_not_mem_cons h).symm, ih (List.not_mem_of_not_mem_cons h)]
    rfl

/-- Different texts without percent signs are written in different ways. -/
theorem encode_injective {cs ds : List Char} (hcs : '%' ∉ cs) (hds : '%' ∉ ds)
    (h : encode reserved cs = encode reserved ds) : cs = ds := by
  have hbytes : Utf8.encode cs = Utf8.encode ds := by
    rw [← decode_encode hcs, ← decode_encode hds, h]
  rw [← Utf8.decode_encode cs, hbytes, Utf8.decode_encode]

/-! ### Encoded texts -/

/-- Nothing in a text is left to be encoded. -/
def IsEncoded (reserved : Char → Bool) (cs : List Char) : Prop :=
  ∀ c ∈ cs, 0x20 ≤ c.toNat ∧ c.toNat < 0x7F ∧ reserved c = false

/-- What is written of a text is read again as it is. -/
theorem encode_of_isEncoded {cs : List Char} (h : IsEncoded reserved cs) :
    encode reserved cs = cs := by
  induction cs with
  | nil => rfl
  | cons c cs ih =>
    obtain ⟨⟨hlow, hhigh, hspared⟩, hrest⟩ := List.forall_mem_cons.mp h
    have hplain : ¬ (c.toNat < 0x20 ∨ 0x7F ≤ c.toNat ∨ reserved c = true) := by
      rw [hspared]
      simp only [Bool.false_eq_true, or_false]
      omega
    rw [encode_cons, ih hrest, encodeChar, if_neg hplain, List.singleton_append]

/-- Nothing in what is written is left to be encoded, if the set spares what is written for a byte. -/
theorem isEncoded_encode (hpercent : reserved '%' = false)
    (hhex : ∀ n < 0x10, reserved (Numeral.upperHex n) = false) (cs : List Char) :
    IsEncoded reserved (encode reserved cs) := by
  have hdigit : ∀ n < 0x10, 0x20 ≤ (Numeral.upperHex n).toNat ∧ (Numeral.upperHex n).toNat < 0x7F := by
    decide
  intro c hc
  obtain ⟨d, -, hc⟩ := List.mem_flatMap.mp hc
  rcases mem_encodeChar hc with ⟨rfl, hplain⟩ | rfl | ⟨n, hn, rfl⟩
  · exact hplain
  · exact ⟨by decide, by decide, hpercent⟩
  · exact ⟨(hdigit n hn).1, (hdigit n hn).2, hhex n hn⟩

end Encode

end Percent

end CloudApi.Url
