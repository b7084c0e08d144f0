import CloudApi.Proofs.Text.Numeral
import CloudApi.Url.Address
import Mathlib.Data.List.Forall2
import Mathlib.Data.List.Induction
import Mathlib.Data.List.TakeWhile
import Mathlib.Tactic.IntervalCases

/-! Addresses are read back.

An address of 32 bits is read from its four decimal numbers (`ipv4?_ipv4Text`), one of 128 bits from
its hexadecimal pieces: the run that is left out is one of zeros (`longestRun_spec`), and the first two
colons in a row stand for it (`splitAtGap_joinWith`), so that the pieces on both sides and as many zeros
as are missing are the address (`ipv6?_ipv6Text`). -/
namespace CloudApi.Url

open Text

/-- Parts have the characters of the text that do not part it. -/
theorem mem_of_mem_splitOnP {p : Char → Bool} {cs part : List Char} (h : part ∈ cs.splitOnP p) :
    ∀ c ∈ part, c ∈ cs ∧ p c = false := by
  induction cs generalizing part with
  | nil =>
    rw [List.splitOnP_nil] at h
    obtain rfl := List.mem_singleton.mp h
    exact fun c hc => absurd hc List.not_mem_nil
  | cons c cs ih =>
    have hlater {part : List Char} (h : part ∈ cs.splitOnP p) (d : Char) (hd : d ∈ part) :
        d ∈ c :: cs ∧ p d = false :=
      ⟨List.mem_cons_of_mem c (ih h d hd).1, (ih h d hd).2⟩
    rw [List.splitOnP_cons_eq_if_modifyHead] at h
    split at h
    · rcases List.mem_cons.mp h with rfl | h
      · exact fun c hc => absurd hc List.not_mem_nil
      · exact hlater h
    · next hc =>
      obtain ⟨first, parts, hsplit⟩ := List.exists_cons_of_ne_nil (List.splitOnP_ne_nil p cs)
      rw [hsplit, List.modifyHead_cons] at h
      rw [hsplit] at hlater
      rcases List.mem_cons.mp h with rfl | h
      · exact List.forall_mem_cons.mpr
          ⟨⟨List.mem_cons_self, Bool.eq_false_iff.mpr hc⟩, hlater List.mem_cons_self⟩
      · exact hlater (List.mem_cons_of_mem first h)

theorem mapM_eq_some_iff {α β : Type} {f : α → Option β} {xs : List α} {ys : List β} :
    xs.mapM f = some ys ↔ List.Forall₂ (fun x y => f x = some y) xs ys := by
  induction xs generalizing ys with
  | nil =>
    rw [List.mapM_nil, List.forall₂_nil_left_iff]
    exact Option.some_inj.trans eq_comm
  | cons x xs ih =>
    rw [List.mapM_cons, List.forall₂_cons_left_iff]
    simp only [← ih, bind, Option.bind_eq_some_iff, pure, Option.some.injEq]
    exact ⟨fun ⟨y, hy, zs, hzs, heq⟩ => ⟨y, zs, hy, hzs, heq.symm⟩,
      fun ⟨y, zs, hy, hzs, heq⟩ => ⟨y, hy, zs, hzs, heq.symm⟩⟩

namespace Address

/-! ### Parts -/

section Parts
variable {separator : Char}

theorem splitOn_eq (separator : Char) (cs : List Char) : splitOn separator cs = cs.splitOn separator := by
  induction cs with
  | nil => rfl
  | cons c cs ih =>
    rw [splitOn, ih, List.splitOn_eq_splitOnP, List.splitOn_eq_splitOnP,
      List.splitOnP_cons_eq_if_modifyHead]
    obtain ⟨part, parts, hsplit⟩ :=
      List.exists_cons_of_ne_nil (List.splitOnP_ne_nil (· == separator) cs)
    rw [hsplit]
    simp only [beq_iff_eq, List.modifyHead_cons]

theorem joinWith_cons_cons (first second : List Char) (rest : List (List Char)) :
    joinWith separator (first :: second :: rest) =
      first ++ separator :: joinWith separator (second :: rest) := by
  rw [joinWith]
  exact nofun

theorem joinWith_append (first second : List Char) (parts : List (List Char)) :
    joinWith separator ((first ++ separator :: second) :: parts) =
      first ++ separator :: joinWith separator (second :: parts) := by
  cases parts with
  | nil => rfl
  | cons part parts => simp [joinWith]

theorem joinWith_eq (separator : Char) (parts : List (List Char)) :
    joinWith separator parts = [separator].intercalate parts := by
  induction parts with
  | nil => rfl
  | cons first parts ih =>
    cases parts with
    | nil => rw [joinWith, List.intercalate_singleton]
    | cons second parts =>
      rw [joinWith_cons_cons, ih, List.intercalate_cons_cons, List.append_assoc,
        List.singleton_append]

theorem splitOn_ne_nil (separator : Char) (cs : List Char) : splitOn separator cs ≠ [] := by
  rw [splitOn_eq]
  exact List.splitOn_ne_nil separator cs

theorem splitOn_of_not_mem {cs : List Char} (h : separator ∉ cs) : splitOn separator cs = [cs] := by
  rw [splitOn_eq, List.splitOn_eq_splitOnP]
  refine List.splitOnP_eq_singleton fun c hc => beq_eq_false_iff_ne.mpr ?_
  rintro rfl
  exact h hc

/-- A separator sets off the parts behind it. -/
theorem splitOn_append (cs ds : List Char) :
    splitOn separator (cs ++ separator :: ds) = splitOn separator cs ++ splitOn separator ds := by
  simp only [splitOn_eq, List.splitOn_eq_splitOnP]
  exact List.splitOnP_append_cons cs ds (beq_self_eq_true separator)

theorem mem_of_mem_splitOn {cs part : List Char} (h : part ∈ splitOn separator cs) :
    ∀ c ∈ part, c ∈ cs ∧ c ≠ separator := by
  rw [splitOn_eq, List.splitOn_eq_splitOnP] at h
  exact fun c hc => (mem_of_mem_splitOnP h c hc).imp_right beq_eq_false_iff_ne.mp

theorem splitOn_joinWith {parts : List (List Char)} (h : ∀ part ∈ parts, separator ∉ part)
    (hfull : parts ≠ []) : splitOn separator (joinWith separator parts) = parts := by
  rw [splitOn_eq, joinWith_eq]
  exact List.splitOn_intercalate separator h hfull

theorem mem_joinWith {parts : List (List Char)} {c : Char} (h : c ∈ joinWith separator parts) :
    c = separator ∨ ∃ part ∈ parts, c ∈ part := by
  induction parts with
  | nil => cases h
  | cons first parts ih =>
    cases parts with
    | nil => exact .inr ⟨first, List.mem_cons_self, h⟩
    | cons second parts =>
      rw [joinWith_cons_cons] at h
      rcases List.mem_append.mp h with h | h
      · exact .inr ⟨first, List.mem_cons_self, h⟩
      rcases List.mem_cons.mp h with rfl | h
      · exact .inl rfl
      · exact (ih h).imp_right fun ⟨part, hpart, hc⟩ => ⟨part, List.mem_cons_of_mem first hpart, hc⟩

end Parts

/-! ### Numbers -/

section Numbers
variable {base : Nat}

theorem digitBelow?_lt {c : Char} {d : Nat} (h : digitBelow? base c = some d) : d < base := by
  unfold digitBelow? at h
  cases hvalue : Numeral.hexValue? c with
  | none =>
    rw [hvalue] at h
    cases h
  | some n =>
    rw [hvalue, Option.bind_some] at h
    split at h
    · next hlt => exact Option.some.inj h ▸ hlt
    · cases h

theorem valueIn?_concat (cs : List Char) (c : Char) : valueIn? base (cs ++ [c]) =
    (valueIn? base cs).bind fun n => (digitBelow? base c).map fun d => n * base + d := by
  unfold valueIn?
  rw [List.foldl_append, List.foldl_cons, List.foldl_nil]
  dsimp only [bind]
  congr 1
  funext n
  cases digitBelow? base c <;> rfl

theorem valueIn?_digitsFrom {glyph : Nat → Char} (hbase : 2 ≤ base)
    (hglyph : ∀ d < base, digitBelow? base (glyph d) = some d) {fuel n : Nat} (h : n ≤ fuel) :
    valueIn? base (Numeral.digitsFrom base glyph fuel n) = some n := by
  have hsingle {m : Nat} (hm : m < base) : valueIn? base [glyph m] = some m := by
    have hvalue : valueIn? base ([] ++ [glyph m]) = _ := valueIn?_concat [] (glyph m)
    rw [List.nil_append, hglyph m hm] at hvalue
    rw [hvalue]
    show some (0 * base + m) = some m
    rw [Nat.zero_mul, Nat.zero_add]
  induction fuel generalizing n with
  | zero =>
    rw [Numeral.digitsFrom]
    exact hsingle (by omega)
  | succ fuel ih =>
    rw [Numeral.digitsFrom]
    split
    · next hsmall => exact hsingle hsmall
    · next hlarge =>
      have hless : n / base < n := Nat.div_lt_self (by omega) (by omega)
      rw [valueIn?_concat, ih (by omega), Option.bind_some, hglyph _ (Nat.mod_lt n (by omega)),
        Option.map_some, Nat.div_add_mod']

theorem valueIn?_lt {cs : List Char} {n : Nat} (h : valueIn? base cs = some n) :
    n < base ^ cs.length := by
  induction cs using List.reverseRecOn generalizing n with
  | nil => exact Option.some.inj h ▸ Nat.one_pos
  | append_singleton cs c ih =>
    rw [valueIn?_concat] at h
    obtain ⟨m, hm, h⟩ := Option.bind_eq_some_iff.mp h
    obtain ⟨d, hd, rfl⟩ := Option.map_eq_some_iff.mp h
    have hlt := ih hm
    have hdigit := digitBelow?_lt hd
    rw [List.length_append, List.length_singleton, Nat.pow_succ]
    calc m * base + d < m * base + base := by omega
      _ = (m + 1) * base := (Nat.succ_mul m base).symm
      _ ≤ base ^ cs.length * base := Nat.mul_le_mul_right base hlt

theorem valueIn?_cons_eq_none {c : Char} (h : digitBelow? base c = none) (cs : List Char) :
    valueIn? base (c :: cs) = none := by
  induction cs using List.reverseRecOn with
  | nil =>
    have hvalue : valueIn? base ([] ++ [c]) = _ := valueIn?_concat [] c
    rw [List.nil_append, h] at hvalue
    exact hvalue
  | append_singleton cs d ih => rw [← List.cons_append, valueIn?_concat, ih, Option.bind_none]

end Numbers

/-! ### Addresses of 32 bits -/

/-- A name of one part that does not begin with a digit is no number. -/
theorem not_endsInNumber {c : Char} {cs : List Char} (hdot : '.' ∉ c :: cs)
    (hc : Numeral.isDigit c = false) : endsInNumber (c :: cs) = false := by
  have hparts : parts (c :: cs) = [c :: cs] := by
    rw [parts, splitOn_of_not_mem hdot]
    rfl
  have hdigit : digitBelow? 10 c = none := by
    by_contra hsome
    obtain ⟨d, hd⟩ := Option.ne_none_iff_exists'.mp hsome
    obtain ⟨x, hx, hd⟩ := Option.bind_eq_some_iff.mp hd
    split at hd
    · next hlt =>
      unfold Numeral.hexValue? at hx
      split_ifs at hx with hdecimal hsmall hcapital
      · exact absurd (Numeral.isDigit_iff.mpr ⟨hdecimal.1, hdecimal.2⟩) (Bool.eq_false_iff.mp hc)
      · have hlow : 97 ≤ c.toNat := hsmall.1
        have := Option.some.inj hx
        omega
      · have hlow : 65 ≤ c.toNat := hcapital.1
        have := Option.some.inj hx
        omega
    · cases hd
  have hvalue := valueIn?_cons_eq_none hdigit cs
  have hpart : part? (c :: cs) = none := by
    have hzero : c ≠ '0' := by
      rintro rfl
      cases hc
    unfold part?
    split
    · next h => cases h
    · next h => exact absurd (List.cons.inj h).1 hzero
    · next h => exact absurd (List.cons.inj h).1 hzero
    · next h => exact absurd (List.cons.inj h).1 hzero
    · exact hvalue
  rw [endsInNumber, hparts, List.getLast?_singleton]
  simp [hc, hpart]

theorem part?_decimal {n : Nat} (h : n < 256) : part? (Numeral.decimal n) = some n := by
  have hall : ∀ n < 256, part? (Numeral.decimal n) = some n := by decide +kernel
  exact hall n h

section Ipv4
variable (a : BitVec 32)

/-- The four bytes of an address. -/
def bytes : List Nat :=
  [a.toNat / 0x1000000, a.toNat / 0x10000 % 256, a.toNat / 0x100 % 256, a.toNat % 256]

theorem bytes_lt : ∀ n ∈ bytes a, n < 256 := by
  have hlt := a.isLt
  intro n hn
  simp only [bytes, List.mem_cons, List.not_mem_nil, or_false] at hn
  rcases hn with rfl | rfl | rfl | rfl <;> omega

theorem ipv4Text_eq : ipv4Text a = joinWith '.' ((bytes a).map Numeral.decimal) :=
  rfl

theorem isDigit_of_mem_ipv4Text {c : Char} (hc : c ∈ ipv4Text a) : c = '.' ∨ Numeral.isDigit c := by
  rcases mem_joinWith (ipv4Text_eq a ▸ hc) with rfl | ⟨part, hpart, hc⟩
  · exact .inl rfl
  · obtain ⟨n, -, rfl⟩ := List.mem_map.mp hpart
    exact .inr (Numeral.isDigit_of_mem_decimal hc)

theorem ipv4Text_ne_nil : ipv4Text a ≠ [] := by
  obtain ⟨c, cs, hcons⟩ :=
    List.exists_cons_of_ne_nil (Numeral.decimal_ne_nil (a.toNat / 0x1000000))
  have htext : ipv4Text a = Numeral.decimal (a.toNat / 0x1000000) ++ '.' :: joinWith '.'
      ((bytes a).tail.map Numeral.decimal) := rfl
  rw [htext, hcons]
  exact List.cons_ne_nil _ _

theorem splitOn_ipv4Text : splitOn '.' (ipv4Text a) = (bytes a).map Numeral.decimal := by
  rw [ipv4Text_eq]
  refine splitOn_joinWith (fun part hpart hdot => ?_) (List.cons_ne_nil _ _)
  obtain ⟨n, -, rfl⟩ := List.mem_map.mp hpart
  exact absurd (Numeral.isDigit_of_mem_decimal hdot) (by decide)

theorem parts_ipv4Text : parts (ipv4Text a) = (bytes a).map Numeral.decimal := by
  have hlast : (bytes a).map Numeral.decimal = [Numeral.decimal (a.toNat / 0x1000000),
      Numeral.decimal (a.toNat / 0x10000 % 256), Numeral.decimal (a.toNat / 0x100 % 256),
      Numeral.decimal (a.toNat % 256)] := rfl
  obtain ⟨c, cs, hcons⟩ := List.exists_cons_of_ne_nil (Numeral.decimal_ne_nil (a.toNat % 256))
  rw [parts, splitOn_ipv4Text, hlast, hcons]
  rfl

/-- The text of an address is taken for one. -/
theorem endsInNumber_ipv4Text : endsInNumber (ipv4Text a) := by
  obtain ⟨c, cs, hcons⟩ := List.exists_cons_of_ne_nil (Numeral.decimal_ne_nil (a.toNat % 256))
  have hlast : ((bytes a).map Numeral.decimal).getLast? = some (c :: cs) := congrArg some hcons
  have hdigits : (c :: cs).all Numeral.isDigit := by
    rw [← hcons]
    exact List.all_eq_true.mpr fun d hd => Numeral.isDigit_of_mem_decimal hd
  rw [endsInNumber, parts_ipv4Text, hlast]
  simp only [hdigits, Bool.true_or]

/-- **An address of 32 bits is read back.** -/
theorem ipv4?_ipv4Text : ipv4? (ipv4Text a) = some a := by
  have hvalues : ((bytes a).map Numeral.decimal).mapM part? = some (bytes a) := by
    have hall := bytes_lt a
    generalize bytes a = ns at hall
    induction ns with
    | nil => rfl
    | cons n ns ih =>
      obtain ⟨hn, hall⟩ := List.forall_mem_cons.mp hall
      rw [List.map_cons, List.mapM_cons, part?_decimal hn, ih hall]
      rfl
  have hlt := a.isLt
  have hcombine : combine? 4 0 (bytes a) = some a.toNat := by
    have hwide : Nat.pow 256 (4 - 1 - 1 - 1) = 256 := rfl
    simp only [bytes, combine?, hwide]
    rw [if_pos (by omega), if_pos (by omega), if_pos (by omega), if_pos (by omega)]
    exact congrArg some (by omega)
  unfold ipv4?
  rw [parts_ipv4Text]
  dsimp only
  rw [if_neg (by simp [bytes]), hvalues]
  show (combine? 4 0 (bytes a)).bind _ = some a
  rw [hcombine]
  simp

end Ipv4

/-! ### Addresses of 128 bits -/

/-- Eight pieces of 16 bits each. -/
structure IsPieces (pieces : List Nat) : Prop where
  length : pieces.length = 8
  bound : ∀ n ∈ pieces, n < 0x10000

theorem piece?_lt {cs : List Char} {n : Nat} (h : piece? cs = some n) : n < 0x10000 := by
  unfold piece? at h
  split at h
  · cases h
  · next hlength =>
    have hlt := valueIn?_lt h
    have hle : 16 ^ cs.length ≤ 16 ^ 4 := Nat.pow_le_pow_right (by decide) (by omega)
    omega

theorem dotted?_lt {cs : List Char} {ns : List Nat} (h : dotted? cs = some ns) :
    ∀ n ∈ ns, n < 0x10000 := by
  have hbyte {part : List Char} {n : Nat} (h : byte? part = some n) : n < 256 := by
    unfold byte? at h
    split at h
    · cases h
    · obtain ⟨m, -, h⟩ := Option.bind_eq_some_iff.mp h
      split at h
      · next hlt => exact Option.some.inj h ▸ hlt
      · cases h
  unfold dotted? at h
  split at h
  · next a b c d hbytes =>
    obtain rfl := Option.some.inj h
    have hread := mapM_eq_some_iff.mp hbytes
    generalize splitOn '.' cs = parts at hread
    rcases hread with _ | ⟨ha, _ | ⟨hb, _ | ⟨hc, _ | ⟨hd, _⟩⟩⟩⟩
    have hbounds := And.intro (And.intro (hbyte ha) (hbyte hb)) (And.intro (hbyte hc) (hbyte hd))
    intro n hn
    simp only [List.mem_cons, List.not_mem_nil, or_false] at hn
    rcases hn with rfl | rfl <;> omega
  · cases h

theorem groups?_lt {tail : Bool} {groups : List (List Char)} {ns : List Nat}
    (h : groups? tail groups = some ns) : ∀ n ∈ ns, n < 0x10000 := by
  have hpiece {group : List Char} {ns : List Nat} (h : (piece? group).map ([·]) = some ns) :
      ∀ n ∈ ns, n < 0x10000 := by
    obtain ⟨n, hn, rfl⟩ := Option.map_eq_some_iff.mp h
    exact List.forall_mem_singleton.mpr (piece?_lt hn)
  induction groups generalizing ns with
  | nil =>
    obtain rfl := Option.some.inj h
    exact fun n hn => absurd hn List.not_mem_nil
  | cons group groups ih =>
    cases groups with
    | nil =>
      rw [groups?] at h
      split at h
      · exact dotted?_lt h
      · exact hpiece h
    | cons second groups =>
      rw [groups?] at h
      · obtain ⟨n, hn, h⟩ := Option.bind_eq_some_iff.mp h
        obtain ⟨ns, hns, h⟩ := Option.bind_eq_some_iff.mp h
        obtain rfl := Option.some.inj h
        exact List.forall_mem_cons.mpr ⟨piece?_lt hn, ih hns⟩
      · exact List.cons_ne_nil second groups

theorem side?_lt {tail : Bool} {cs : List Char} {ns : List Nat} (h : side? tail cs = some ns) :
    ∀ n ∈ ns, n < 0x10000 := by
  unfold side? at h
  split at h
  · obtain rfl := Option.some.inj h
    exact fun n hn => absurd hn List.not_mem_nil
  · exact groups?_lt h

/-- What is read is an address. -/
theorem isPieces_of_ipv6? {cs : List Char} {pieces : List Nat} (h : ipv6? cs = some pieces) :
    IsPieces pieces := by
  unfold ipv6? at h
  split at h
  · obtain ⟨ns, hns, h⟩ := Option.bind_eq_some_iff.mp h
    split at h
    · next hlength =>
      obtain rfl := Option.some.inj h
      exact ⟨hlength, side?_lt hns⟩
    · cases h
  · obtain ⟨front, hfront, h⟩ := Option.bind_eq_some_iff.mp h
    obtain ⟨back, hback, h⟩ := Option.bind_eq_some_iff.mp h
    dsimp only at h
    split at h
    · obtain rfl := Option.some.inj h
      refine ⟨by simp only [List.length_append, List.length_replicate]; omega, fun n hn => ?_⟩
      rcases List.mem_append.mp hn with hn | hn
      · rcases List.mem_append.mp hn with hn | hn
        · exact side?_lt hfront n hn
        · rw [List.eq_of_mem_replicate hn]
          decide
      · exact side?_lt hback n hn
    · cases h

/-! ### Pieces -/

theorem isHex_lowerHex {d : Nat} (h : d < 16) : digitBelow? 16 (Numeral.lowerHex d) = some d ∧
    Numeral.lowerHex d ≠ ':' ∧ Numeral.lowerHex d ≠ '.' := by
  interval_cases d <;> decide

theorem ne_of_mem_hex {n : Nat} {c : Char} (hc : c ∈ Numeral.hex n) : c ≠ ':' ∧ c ≠ '.' := by
  obtain ⟨d, hd, rfl⟩ := Numeral.mem_digitsFrom (by decide) le_rfl hc
  exact (isHex_lowerHex hd).2

theorem hex_ne_nil (n : Nat) : Numeral.hex n ≠ [] :=
  Numeral.digitsFrom_ne_nil 16 Numeral.lowerHex n n

theorem piece?_hex {n : Nat} (h : n < 0x10000) : piece? (Numeral.hex n) = some n := by
  have hlength : (Numeral.hex n).length ≤ 4 :=
    Numeral.length_digitsFrom_le (by decide) le_rfl (by decide) h
  have hshort : ¬ ((Numeral.hex n).isEmpty = true ∨ 4 < (Numeral.hex n).length) := by
    rw [List.isEmpty_iff]
    exact fun h => h.elim (hex_ne_nil n) (by omega)
  rw [piece?, if_neg hshort]
  exact valueIn?_digitsFrom (by decide) (fun d hd => (isHex_lowerHex hd).1) le_rfl

theorem groups?_hex {tail : Bool} {pieces : List Nat} (h : ∀ n ∈ pieces, n < 0x10000) :
    groups? tail (pieces.map Numeral.hex) = some pieces := by
  induction pieces with
  | nil => rfl
  | cons n pieces ih =>
    obtain ⟨hn, hrest⟩ := List.forall_mem_cons.mp h
    cases pieces with
    | nil =>
      have hdot : (Numeral.hex n).contains '.' = false := by
        rw [List.contains_eq_mem]
        exact decide_eq_false fun hmem => (ne_of_mem_hex hmem).2 rfl
      rw [List.map_singleton, groups?, hdot, Bool.and_false, if_neg Bool.false_ne_true, piece?_hex hn]
      rfl
    | cons m pieces =>
      rw [List.map_cons, groups?, piece?_hex hn, ih hrest]
      · rfl
      · exact List.cons_ne_nil _ _

theorem side?_hex {tail : Bool} {pieces : List Nat} (h : ∀ n ∈ pieces, n < 0x10000) :
    side? tail (joinWith ':' (pieces.map Numeral.hex)) = some pieces := by
  cases pieces with
  | nil => rfl
  | cons n pieces =>
    have hcolon : ∀ part ∈ (n :: pieces).map Numeral.hex, ':' ∉ part := by
      intro part hpart hmem
      obtain ⟨m, -, rfl⟩ := List.mem_map.mp hpart
      exact (ne_of_mem_hex hmem).1 rfl
    have hfull : joinWith ':' ((n :: pieces).map Numeral.hex) ≠ [] := by
      intro hnil
      have hsplit := splitOn_joinWith hcolon (List.cons_ne_nil _ _)
      rw [hnil] at hsplit
      exact hex_ne_nil n (List.cons.inj hsplit).1.symm
    rw [side?, List.isEmpty_eq_false_iff.mpr hfull, if_neg Bool.false_ne_true,
      splitOn_joinWith hcolon (List.cons_ne_nil _ _)]
    exact groups?_hex h

/-! ### The run that is left out -/

/-- The first longest run is one of zeros. -/
theorem longestRun_spec {start place size : Nat} {pieces : List Nat}
    (h : longestRun start pieces = (place, size)) (hsize : size ≠ 0) : start ≤ place ∧
      pieces = pieces.take (place - start) ++ List.replicate size 0 ++
        pieces.drop (place - start + size) := by
  induction pieces generalizing start place size with
  | nil => exact absurd (congrArg Prod.snd h).symm hsize
  | cons n pieces ih =>
    rw [longestRun] at h
    rcases hrest : longestRun (start + 1) pieces with ⟨later, wide⟩
    rw [hrest] at h
    dsimp only at h
    split at h
    · obtain ⟨rfl, rfl⟩ := Prod.mk.inj h
      have hzeros : (n :: pieces).takeWhile (· == 0) =
          List.replicate ((n :: pieces).takeWhile (· == 0)).length 0 :=
        List.eq_replicate_iff.mpr ⟨rfl, fun m hm => by simpa using List.mem_takeWhile_imp hm⟩
      refine ⟨le_rfl, ?_⟩
      rw [Nat.sub_self, List.take_zero, List.nil_append, Nat.zero_add, ← hzeros]
      exact (List.prefix_iff_eq_append.mp (List.takeWhile_prefix _)).symm
    · obtain ⟨rfl, rfl⟩ := Prod.mk.inj h
      obtain ⟨hle, heq⟩ := ih hrest hsize
      refine ⟨by omega, ?_⟩
      obtain ⟨k, hk⟩ : ∃ k, later - start = k + 1 := ⟨later - start - 1, by omega⟩
      have hk' : later - (start + 1) = k := by omega
      rw [hk'] at heq
      rw [hk, Nat.add_right_comm, List.take_succ_cons, List.drop_succ_cons, List.cons_append,
        List.cons_append, ← heq]

/-! ### The gap -/

theorem splitAtGap_cons {c : Char} {cs : List Char} (h : c ≠ ':' ∨ cs.head? ≠ some ':') :
    splitAtGap (c :: cs) = (splitAtGap cs).map fun (before, after) => (c :: before, after) := by
  rw [splitAtGap]
  rintro rest rfl rfl
  exact h.elim (fun h => h rfl) (fun h => h rfl)

theorem splitAtGap_append {cs : List Char} (h : ':' ∉ cs) (ds : List Char) :
    splitAtGap (cs ++ ds) = (splitAtGap ds).map fun (before, after) => (cs ++ before, after) := by
  induction cs with
  | nil => exact (Option.map_id' ..).symm
  | cons c cs ih =>
    rw [List.cons_append, splitAtGap_cons (.inl (List.ne_of_not_mem_cons h).symm),
      ih (List.not_mem_of_not_mem_cons h), Option.map_map]
    rfl

theorem head?_joinWith {separator : Char} {first : List Char} (hfull : first ≠ [])
    (rest : List (List Char)) : (joinWith separator (first :: rest)).head? = first.head? := by
  obtain ⟨c, cs, rfl⟩ := List.exists_cons_of_ne_nil hfull
  cases rest with
  | nil => rfl
  | cons second rest => rw [joinWith_cons_cons, List.cons_append, List.head?_cons, List.head?_cons]

/-- Between parts there is no gap, so that the first one is behind them. -/
theorem splitAtGap_joinWith {parts : List (List Char)} (h : ∀ part ∈ parts, part ≠ [] ∧ ':' ∉ part) :
    splitAtGap (joinWith ':' parts) = none ∧ ∀ back,
      splitAtGap (joinWith ':' parts ++ ':' :: ':' :: back) = some (joinWith ':' parts, back) := by
  induction parts with
  | nil => exact ⟨rfl, fun back => rfl⟩
  | cons first parts ih =>
    obtain ⟨hfirst, hrest⟩ := List.forall_mem_cons.mp h
    cases parts with
    | nil =>
      refine ⟨?_, fun back => ?_⟩
      · rw [joinWith, ← List.append_nil first, splitAtGap_append hfirst.2]
        rfl
      · rw [joinWith, splitAtGap_append hfirst.2]
        exact congrArg (fun cs => some (cs, back)) (List.append_nil first)
    | cons second parts =>
      obtain ⟨hnone, hgap⟩ := ih hrest
      obtain ⟨hfull, hcolon⟩ := hrest second List.mem_cons_self
      have hhead : (joinWith ':' (second :: parts)).head? ≠ some ':' := by
        rw [head?_joinWith hfull]
        exact fun h => hcolon (List.mem_of_mem_head? h)
      rw [joinWith_cons_cons]
      refine ⟨?_, fun back => ?_⟩
      · rw [splitAtGap_append hfirst.2, splitAtGap_cons (.inr hhead), hnone]
        rfl
      · have hbehind : (joinWith ':' (second :: parts) ++ ':' :: ':' :: back).head? ≠ some ':' := by
          obtain ⟨c, cs, rfl⟩ := List.exists_cons_of_ne_nil hfull
          rw [List.head?_append, head?_joinWith hfull] at *
          exact hhead
        rw [List.append_assoc, List.cons_append, splitAtGap_append hfirst.2,
          splitAtGap_cons (.inr hbehind), hgap]
        rfl

theorem mem_ipv6Text {pieces : List Nat} {c : Char} (hc : c ∈ ipv6Text pieces) :
    c = ':' ∨ ∃ d < 16, c = Numeral.lowerHex d := by
  have hhex {texts : List (List Char)} (htexts : ∀ text ∈ texts, text ∈ pieces.map Numeral.hex)
      (hc : c ∈ joinWith ':' texts) : c = ':' ∨ ∃ d < 16, c = Numeral.lowerHex d := by
    refine (mem_joinWith hc).imp_right fun ⟨text, htext, hc⟩ => ?_
    obtain ⟨n, -, rfl⟩ := List.mem_map.mp (htexts text htext)
    exact Numeral.mem_digitsFrom (by decide) le_rfl hc
  unfold ipv6Text at hc
  dsimp only at hc
  split at hc
  · exact hhex (fun text htext => htext) hc
  · rcases List.mem_append.mp hc with hc | hc
    · rcases List.mem_append.mp hc with hc | hc
      · exact hhex (fun text htext => List.mem_of_mem_take htext) hc
      · simp only [List.mem_cons, List.not_mem_nil, or_false, or_self] at hc
        exact .inl hc
    · exact hhex (fun text htext => List.mem_of_mem_drop htext) hc

/-- **An address of 128 bits is read back.** -/
theorem ipv6?_ipv6Text {pieces : List Nat} (h : IsPieces pieces) :
    ipv6? (ipv6Text pieces) = some pieces := by
  have hparts {ns : List Nat} : ∀ part ∈ ns.map Numeral.hex, part ≠ [] ∧ ':' ∉ part := by
    intro part hpart
    obtain ⟨n, -, rfl⟩ := List.mem_map.mp hpart
    exact ⟨hex_ne_nil n, fun hmem => (ne_of_mem_hex hmem).1 rfl⟩
  rcases hrun : longestRun 0 pieces with ⟨start, size⟩
  by_cases hsize : size < 2
  · have htext : ipv6Text pieces = joinWith ':' (pieces.map Numeral.hex) := by
      simp only [ipv6Text, hrun, if_pos hsize]
    rw [htext, ipv6?, (splitAtGap_joinWith hparts).1]
    dsimp only
    rw [side?_hex h.bound, Option.bind_some, if_pos h.length]
  · have htext : ipv6Text pieces = joinWith ':' ((pieces.take start).map Numeral.hex) ++
        ':' :: ':' :: joinWith ':' ((pieces.drop (start + size)).map Numeral.hex) := by
      simp only [ipv6Text, hrun, if_neg hsize, List.map_take, List.map_drop, List.append_assoc,
        List.cons_append, List.nil_append]
    obtain ⟨-, heq⟩ := longestRun_spec hrun (by omega)
    rw [Nat.sub_zero] at heq
    have hlength := congrArg List.length heq
    rw [h.length, List.length_append, List.length_append, List.length_replicate] at hlength
    have hfront : side? false (joinWith ':' ((pieces.take start).map Numeral.hex)) =
        some (pieces.take start) := side?_hex fun n hn => h.bound n (List.mem_of_mem_take hn)
    have hback : side? true (joinWith ':' ((pieces.drop (start + size)).map Numeral.hex)) =
        some (pieces.drop (start + size)) := side?_hex fun n hn => h.bound n (List.mem_of_mem_drop hn)
    have hzeros : 8 - ((pieces.take start).length + (pieces.drop (start + size)).length) = size := by
      omega
    rw [htext, ipv6?, (splitAtGap_joinWith hparts).2]
    dsimp only
    rw [hfront, hback]
    show (if _ then some _ else none) = _
    rw [if_pos (by omega), hzeros, ← heq]

end Address

end CloudApi.Url
