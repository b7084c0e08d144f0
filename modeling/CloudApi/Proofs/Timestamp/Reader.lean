import CloudApi.Proofs.Text.Numeral
import CloudApi.Timestamp.Reader
import Mathlib.Tactic.Ring

/-! Timestamps are read back as they were written.

A date and a time of day in digits of fixed width are read part by part (`exactly?_padded`,
`bounded_padded`), whatever follows them. A fraction may have any number of digits: each counts for
its place, and from the tenth on for nothing (`fraction_digits`). What is rendered of a year of four
digits is read back whole (`read_text`), a leap second and all nanoseconds included. -/
namespace CloudApi.Timestamp

open Text

/-! ### Runs of digits -/

/-- Nothing of a text continues a number in front of it. -/
def Undigited (rest : List Char) : Prop :=
  ∀ c, rest.head? = some c → Numeral.isDigit c = false

theorem undigited_cons {c : Char} (h : Numeral.isDigit c = false) (rest : List Char) :
    Undigited (c :: rest) := by
  rintro _ ⟨⟩
  exact h

theorem Undigited.takeWhile_eq {rest : List Char} (h : Undigited rest) :
    rest.takeWhile Numeral.isDigit = [] := by
  cases rest with
  | nil => rfl
  | cons c rest => exact List.takeWhile_cons_of_neg (by rw [h c rfl]; decide)

theorem Undigited.dropWhile_eq {rest : List Char} (h : Undigited rest) :
    rest.dropWhile Numeral.isDigit = rest := by
  cases rest with
  | nil => rfl
  | cons c rest => exact List.dropWhile_cons_of_neg (by rw [h c rfl]; decide)

theorem Undigited.take {rest : List Char} (h : Undigited rest) (n : Nat) :
    Undigited (rest.take n) := by
  intro c hc
  cases rest with
  | nil => simp at hc
  | cons d rest =>
    cases n with
    | zero => cases hc
    | succ n => exact h c hc

/-- A run ends with its limit or with the digits. -/
theorem digitRun_append {ds rest : List Char} (hds : ∀ c ∈ ds, Numeral.isDigit c) {limit : Nat}
    (hends : limit ≤ ds.length ∨ Undigited rest) :
    digitRun limit (ds ++ rest) = (ds.take limit, ds.drop limit ++ rest) := by
  have hafter : Undigited (rest.take (limit - ds.length)) := by
    rcases hends with hlimit | hrest
    · rw [Nat.sub_eq_zero_of_le hlimit]
      exact fun c hc => absurd hc nofun
    · exact hrest.take _
  have htaken : ((ds ++ rest).take limit).takeWhile Numeral.isDigit = ds.take limit := by
    rw [List.take_append, List.takeWhile_append_of_pos fun c hc => hds c (List.mem_of_mem_take hc),
      hafter.takeWhile_eq, List.append_nil]
  unfold digitRun
  rw [htaken]
  dsimp only
  rw [List.length_take]
  by_cases hlimit : limit ≤ ds.length
  · rw [Nat.min_eq_left hlimit, List.drop_append_of_le_length hlimit]
  · rw [Nat.min_eq_right (by omega), List.drop_left, List.drop_eq_nil_of_le (by omega),
      List.nil_append]

section Padded
variable {width n : Nat} (hwidth : 0 < width) (hn : n < 10 ^ width) (rest : List Char)

include hwidth hn

theorem digitRun_padded :
    digitRun width (Numeral.padded width n ++ rest) = (Numeral.padded width n, rest) := by
  have hlength := Numeral.length_padded hwidth hn
  rw [digitRun_append (fun c => Numeral.isDigit_of_mem_padded) (.inl hlength.ge),
    List.take_of_length_le hlength.le, List.drop_eq_nil_of_le hlength.le, List.nil_append]

omit hwidth hn in
theorem runValue_padded : runValue (Numeral.padded width n) = n := by
  rw [runValue, Numeral.valueFrom?_padded, Option.getD_some]

theorem exactly?_padded : exactly? width (Numeral.padded width n ++ rest) = some (n, rest) := by
  unfold exactly?
  rw [digitRun_padded hwidth hn]
  dsimp only
  rw [if_pos (Numeral.length_padded hwidth hn), runValue_padded]

/-- A number of a fixed width has a digit in front. -/
theorem exists_padded_eq_cons : ∃ d ds, Numeral.padded width n = d :: ds ∧ Numeral.isDigit d := by
  cases hpadded : Numeral.padded width n with
  | nil =>
    have hlength := Numeral.length_padded hwidth hn
    rw [hpadded] at hlength
    cases hlength
    exact absurd hwidth (Nat.lt_irrefl 0)
  | cons d ds =>
    exact ⟨d, ds, rfl, Numeral.isDigit_of_mem_padded (hpadded ▸ List.mem_cons_self)⟩

theorem skipBlanks_padded :
    skipBlanks (Numeral.padded width n ++ rest) = Numeral.padded width n ++ rest := by
  obtain ⟨d, ds, hpadded, hdigit⟩ := exists_padded_eq_cons hwidth hn
  have hblank : isBlank d = false := by
    have hrange := Numeral.isDigit_iff.mp hdigit
    simp only [isBlank, Bool.or_eq_false_iff, Bool.and_eq_false_iff, decide_eq_false_iff_not,
      beq_eq_false_iff_ne]
    omega
  rw [hpadded, List.cons_append]
  exact List.dropWhile_cons_of_neg (by rw [hblank]; decide)

theorem bounded_padded {least most : Nat} (hleast : least ≤ n) (hmost : n ≤ most) :
    bounded width least most (Numeral.padded width n ++ rest) = .ok (n, rest) := by
  obtain ⟨d, ds, hpadded, -⟩ := exists_padded_eq_cons hwidth hn
  unfold bounded
  rw [skipBlanks_padded hwidth hn, digitRun_padded hwidth hn, hpadded]
  dsimp only
  rw [← hpadded, runValue_padded, if_pos ⟨hleast, hmost⟩]

end Padded

theorem year_padded {n : Nat} (hn : n < 10 ^ 4) (rest : List Char) :
    year (Numeral.padded 4 n ++ rest) = .ok ((n : Int), rest) := by
  have hwidth : 0 < 4 := by decide
  have hbounded := bounded_padded hwidth hn rest (Nat.zero_le n) (Nat.le_of_lt_succ hn)
  obtain ⟨d, ds, hpadded, hdigit⟩ := exists_padded_eq_cons hwidth hn
  unfold year
  rw [skipBlanks_padded hwidth hn, hpadded, List.cons_append]
  split
  · next heq =>
    obtain ⟨rfl, -⟩ := List.cons.inj heq
    exact absurd hdigit (by decide)
  · next heq =>
    obtain ⟨rfl, -⟩ := List.cons.inj heq
    exact absurd hdigit (by decide)
  · rw [← List.cons_append, ← hpadded, hbounded]
    rfl

theorem digitsUpTo_padded {n most : Nat} (hn : n ≤ most) {rest : List Char}
    (hrest : Undigited rest) :
    year.digitsUpTo most (Numeral.padded 4 n ++ rest) = .ok (n, rest) := by
  obtain ⟨d, ds, hpadded⟩ : ∃ d ds, Numeral.padded 4 n = d :: ds :=
    List.exists_cons_of_ne_nil
      (List.append_ne_nil_of_right_ne_nil _ (Numeral.decimal_ne_nil n))
  have hlength : (Numeral.padded 4 n).length ≤ (Numeral.padded 4 n ++ rest).length := by
    rw [List.length_append]
    exact Nat.le_add_right _ _
  unfold year.digitsUpTo
  rw [digitRun_append (fun c => Numeral.isDigit_of_mem_padded) (.inr hrest),
    List.take_of_length_le hlength, List.drop_eq_nil_of_le hlength, List.nil_append, hpadded]
  dsimp only
  rw [← hpadded, runValue_padded, if_pos hn]

theorem inRange_of_year {y : Int} (h : 0 ≤ y ∧ y ≤ 9999) : inRange y := by
  unfold inRange
  rw [Bool.and_eq_true, decide_eq_true_eq, decide_eq_true_eq]
  omega

/-- A year is read back with its sign. -/
theorem year_renderYear {y : Int} (hy : inRange y) {rest : List Char} (hrest : Undigited rest) :
    year (renderYear y ++ rest) = .ok (y, rest) := by
  unfold inRange at hy
  rw [Bool.and_eq_true, decide_eq_true_eq, decide_eq_true_eq] at hy
  unfold renderYear
  by_cases hnegative : y < 0
  · have hread := digitsUpTo_padded (show y.natAbs ≤ 0x80000000 by omega) hrest
    have hback : -((y.natAbs : Nat) : Int) = y := by omega
    rw [if_pos hnegative]
    show (year.digitsUpTo 0x80000000 (Numeral.padded 4 y.natAbs ++ rest)).map _ = _
    rw [hread]
    dsimp only [Except.map]
    rw [hback]
  have hback : ((y.natAbs : Nat) : Int) = y := by omega
  by_cases hlarge : 9999 < y
  · have hread := digitsUpTo_padded (show y.natAbs ≤ 0x7FFFFFFF by omega) hrest
    rw [if_neg hnegative, if_pos hlarge]
    show (year.digitsUpTo 0x7FFFFFFF (Numeral.padded 4 y.natAbs ++ rest)).map _ = _
    rw [hread]
    dsimp only [Except.map]
    rw [hback]
  · rw [if_neg hnegative, if_neg hlarge, year_padded (by omega), hback]

/-! ### Fractions -/

/-- What digits behind a point come to in units of the last of some places; further digits count for
nothing. -/
def weigh : (places : Nat) → List Char → Nat
  | 0, _ => 0
  | _, [] => 0
  | places + 1, c :: cs => (Numeral.digitValue? c).getD 0 * 10 ^ places + weigh places cs

theorem weigh_lt (places : Nat) {ds : List Char} (hds : ∀ c ∈ ds, Numeral.isDigit c) :
    weigh places ds < 10 ^ places := by
  induction places generalizing ds with
  | zero => exact Nat.one_pos
  | succ places ih =>
    cases ds with
    | nil => exact Nat.pow_pos (by decide)
    | cons c ds =>
      obtain ⟨hc, hds⟩ := List.forall_mem_cons.mp hds
      obtain ⟨d, hd⟩ := Option.isSome_iff_exists.mp hc
      have hsmall : d ≤ 9 := Nat.le_of_lt_succ (Numeral.digitValue?_lt hd)
      calc weigh (places + 1) (c :: ds) = d * 10 ^ places + weigh places ds := by
            rw [weigh, hd, Option.getD_some]
        _ < d * 10 ^ places + 10 ^ places := Nat.add_lt_add_left (ih hds) _
        _ ≤ 9 * 10 ^ places + 10 ^ places :=
            Nat.add_le_add_right (Nat.mul_le_mul_right _ hsmall) _
        _ = 10 ^ (places + 1) := by ring

theorem valueFrom?_take (acc : Nat) (places : Nat) {ds : List Char}
    (hds : ∀ c ∈ ds, Numeral.isDigit c) :
    ∃ n, Numeral.valueFrom? acc (ds.take places) = some n ∧
      n * 10 ^ (places - (ds.take places).length) = acc * 10 ^ places + weigh places ds := by
  induction places generalizing acc ds with
  | zero => exact ⟨acc, rfl, by simp [weigh]⟩
  | succ places ih =>
    cases ds with
    | nil => exact ⟨acc, rfl, by simp [weigh]⟩
    | cons c ds =>
      obtain ⟨hc, hds⟩ := List.forall_mem_cons.mp hds
      obtain ⟨d, hd⟩ := Option.isSome_iff_exists.mp hc
      obtain ⟨n, hn, hvalue⟩ := ih (acc * 10 + d) hds
      refine ⟨n, ?_, ?_⟩
      · rw [List.take_succ_cons, Numeral.valueFrom?, hd, Option.bind_some, hn]
      · rw [List.take_succ_cons, List.length_cons, Nat.add_sub_add_right, hvalue, weigh, hd,
          Option.getD_some]
        ring

/-- **A fraction may have any number of digits**, of which nine count. -/
theorem fraction_digits {ds rest : List Char} (hds : ∀ c ∈ ds, Numeral.isDigit c) (hne : ds ≠ [])
    (hrest : Undigited rest) : fraction (ds ++ rest) = .ok (nanos (weigh 9 ds), rest) := by
  have hrun : digitRun 9 (ds ++ rest) = (ds.take 9, ds.drop 9 ++ rest) :=
    digitRun_append hds (.inr hrest)
  have hskip : (ds.drop 9 ++ rest).dropWhile Numeral.isDigit = rest := by
    rw [List.dropWhile_append_of_pos fun c hc => hds c (List.mem_of_mem_drop hc),
      hrest.dropWhile_eq]
  obtain ⟨n, hn, hvalue⟩ := valueFrom?_take 0 9 hds
  rw [Nat.zero_mul, Nat.zero_add] at hvalue
  obtain ⟨c, cs, hcs⟩ : ∃ c cs, ds.take 9 = c :: cs := by
    cases ds with
    | nil => exact absurd rfl hne
    | cons c ds => exact ⟨c, _, List.take_succ_cons⟩
  unfold fraction
  rw [hrun, hcs]
  dsimp only
  rw [← hcs, hskip, runValue, hn, Option.getD_some]
  rw [show n * Nat.pow 10 (9 - (ds.take 9).length) = weigh 9 ds from hvalue]

/-- What stands for the nanoseconds: nothing, or a fraction of any number of digits. -/
inductive Spells : List Char → Fin 1000000000 → Prop where
  | whole : Spells [] 0
  | digits {ds : List Char} {nano : Fin 1000000000} (digits : ∀ c ∈ ds, Numeral.isDigit c)
    (some : ds ≠ []) (weighs : nano.val = weigh 9 ds) : Spells ('.' :: ds) nano

theorem Spells.read {fraction rest : List Char} {nano : Fin 1000000000} (h : Spells fraction nano)
    (hrest : Undigited rest) (hpoint : rest.head? ≠ some '.') :
    optionalFraction (fraction ++ rest) = .ok (nano, rest) := by
  cases h with
  | whole =>
    rw [List.nil_append]
    unfold optionalFraction
    split
    · exact absurd rfl hpoint
    · rfl
  | @digits ds _ hds hne hweighs =>
    show Timestamp.fraction (ds ++ rest) = _
    rw [fraction_digits hds hne hrest]
    have hnano : nanos (weigh 9 ds) = nano := Fin.ext (by
      rw [hweighs]
      exact Nat.mod_eq_of_lt (weigh_lt 9 hds))
    rw [hnano]

/-! ### Whole timestamps -/

/-- A date and a time of day in digits of fixed width with a mark between, and what follows them. -/
def parted (mark : Char) (d : Date) (minute : Fin 1440) (second : Fin 61) (rest : List Char) :
    List Char :=
  renderDate d ++ mark :: (Numeral.padded 2 (minute.val / 60) ++
    ':' :: (Numeral.padded 2 (minute.val % 60) ++ ':' :: (Numeral.padded 2 second.val ++ rest)))

/-- A date and a time of day with a `T` between, and what follows them. -/
def stamp (d : Date) (minute : Fin 1440) (second : Fin 61) (rest : List Char) : List Char :=
  parted 'T' d minute second rest

section Stamp
variable {d : Date} (hyear : 0 ≤ d.year ∧ d.year ≤ 9999) (minute : Fin 1440) (second : Fin 61)

include hyear in
theorem renderYear_eq : renderYear d.year = Numeral.padded 4 d.year.natAbs := by
  unfold renderYear
  rw [if_neg (by omega), if_neg (by omega)]

theorem ofParts?_parts (d : Date) : Date.ofParts? d.year d.month d.day = some d := by
  unfold Date.ofParts?
  rw [dif_pos d.valid]

theorem clock?_parts :
    clock? (minute.val / 60) (minute.val % 60) second.val = some (minute, second) := by
  have hminute := minute.isLt
  unfold clock?
  rw [dif_pos ⟨by omega, by omega, second.isLt⟩]
  have hsame : minute.val / 60 * 60 + minute.val % 60 = minute.val := by omega
  simp only [hsame]

theorem earlierBy_zero (t : Timestamp) : t.earlierBy 0 = t := by
  have hminute := t.minute.isLt
  unfold earlierBy
  dsimp only
  rw [Int.sub_zero, if_neg (by omega), if_neg (by omega)]
  have hsame : Fin.ofNat 1440 (t.minute.val : Int).toNat = t.minute :=
    Fin.ext (Nat.mod_eq_of_lt hminute)
  rw [hsame]

theorem day_le (d : Date) : d.day ≤ 31 := by
  refine d.valid.2.2.2.trans ?_
  unfold Date.daysIn
  split_ifs <;> decide

include hyear in
/-- A date and a time are read part by part up to their offset, a `T` or a space between. -/
theorem withOffset?_parted {mark : Char} (hmark : mark = 'T' ∨ mark = ' ') {rest left : List Char}
    {nano : Fin 1000000000} (hfraction : optionalFraction rest = .ok (nano, left)) :
    withOffset? (parted mark d minute second rest) = (offset? left).bind fun (east, rest) =>
      if rest = [] then some (earlierBy ⟨d, minute, second, nano⟩ east) else none := by
  have hminute := minute.isLt
  have hsecond := second.isLt
  have hmonth := d.valid.2.1
  have hday := day_le d
  have hnat : ((d.year.natAbs : Nat) : Int) = d.year := by omega
  have hchar (c : Char) (rest : List Char) : char? c (c :: rest) = some rest := if_pos rfl
  have hparted (rest : List Char) : (char? 'T' (mark :: rest)).or
      ((char? 't' (mark :: rest)).or (char? ' ' (mark :: rest))) = some rest := by
    rcases hmark with rfl | rfl <;> rfl
  unfold withOffset? parted renderDate
  rw [renderYear_eq hyear]
  simp only [List.append_assoc, List.cons_append, bind, Option.bind, hchar, hparted,
    exactly?_padded (show 0 < 4 by decide) (show d.year.natAbs < 10 ^ 4 by omega),
    exactly?_padded (show 0 < 2 by decide) (show d.month < 10 ^ 2 by omega),
    exactly?_padded (show 0 < 2 by decide) (show d.day < 10 ^ 2 by omega),
    exactly?_padded (show 0 < 2 by decide) (show minute.val / 60 < 10 ^ 2 by omega),
    exactly?_padded (show 0 < 2 by decide) (show minute.val % 60 < 10 ^ 2 by omega),
    exactly?_padded (show 0 < 2 by decide) (show second.val < 10 ^ 2 by omega),
    hfraction, Except.toOption, hnat, ofParts?_parts, clock?_parts]

include hyear in
theorem withOffset?_stamp {rest left : List Char} {nano : Fin 1000000000}
    (hfraction : optionalFraction rest = .ok (nano, left)) :
    withOffset? (stamp d minute second rest) = (offset? left).bind fun (east, rest) =>
      if rest = [] then some (earlierBy ⟨d, minute, second, nano⟩ east) else none :=
  withOffset?_parted hyear minute second (.inl rfl) hfraction

/-- **Without an offset** a date and a time are read part by part, and nothing may follow them. -/
theorem naive_parted {separator : List Char → Except ReadError (List Char)} {mark : Char}
    (hmark : ∀ rest, separator (mark :: (Numeral.padded 2 (minute.val / 60) ++ rest)) =
      .ok (Numeral.padded 2 (minute.val / 60) ++ rest))
    (hrange : inRange d.year) {rest left : List Char} {nano : Fin 1000000000}
    (hfraction : optionalFraction rest = .ok (nano, left)) :
    naive separator (parted mark d minute second rest) =
      if left ≠ [] then .error .tooLong else .ok ⟨d, minute, second, nano⟩ := by
  have hminute := minute.isLt
  have hsecond := second.isLt
  obtain ⟨hmonth, hmonths, hday, -⟩ := d.valid
  have hdays := day_le d
  unfold naive parted renderDate
  simp only [List.append_assoc, List.cons_append, bind, Except.bind, hmark,
    year_renderYear hrange (undigited_cons (show Numeral.isDigit '-' = false by decide) _),
    bounded_padded (show 0 < 2 by decide) (show d.month < 10 ^ 2 by omega) _ hmonth hmonths,
    bounded_padded (show 0 < 2 by decide) (show d.day < 10 ^ 2 by omega) _ hday hdays,
    bounded_padded (show 0 < 2 by decide) (show minute.val / 60 < 10 ^ 2 by omega) _
      (Nat.zero_le _) (show minute.val / 60 ≤ 23 by omega),
    bounded_padded (show 0 < 2 by decide) (show minute.val % 60 < 10 ^ 2 by omega) _
      (Nat.zero_le _) (show minute.val % 60 ≤ 59 by omega),
    bounded_padded (show 0 < 2 by decide) (show second.val < 10 ^ 2 by omega) _
      (Nat.zero_le _) (show second.val ≤ 60 by omega),
    literal, if_true, hfraction, hrange, ofParts?_parts, clock?_parts]

theorem naive_stamp (hrange : inRange d.year) {rest left : List Char} {nano : Fin 1000000000}
    (hfraction : optionalFraction rest = .ok (nano, left)) :
    naive (literal 'T') (stamp d minute second rest) =
      if left ≠ [] then .error .tooLong else .ok ⟨d, minute, second, nano⟩ :=
  naive_parted minute second (fun _ => rfl) hrange hfraction

include hyear in
/-- **A stamp is read as the time it shows**, behind it `Z` or nothing, a fraction of any number of
digits or none between. -/
theorem read_stamp {fraction : List Char} {nano : Fin 1000000000} (h : Spells fraction nano) :
    readChars (stamp d minute second (fraction ++ ['Z'])) = .ok ⟨d, minute, second, nano⟩ ∧
      readChars (stamp d minute second fraction) = .ok ⟨d, minute, second, nano⟩ := by
  constructor
  · have hfraction : optionalFraction (fraction ++ ['Z']) = .ok (nano, ['Z']) :=
      h.read (by rintro _ ⟨⟩; decide) (by decide)
    have hread : withOffset? (stamp d minute second (fraction ++ ['Z'])) =
        some (earlierBy ⟨d, minute, second, nano⟩ 0) := withOffset?_stamp hyear minute second hfraction
    unfold readChars
    rw [hread, earlierBy_zero]
  · have hfraction : optionalFraction (fraction ++ []) = .ok (nano, []) :=
      h.read (by rintro _ ⟨⟩) (by decide)
    rw [List.append_nil] at hfraction
    unfold readChars
    rw [withOffset?_stamp hyear minute second hfraction,
      naive_stamp minute second (inRange_of_year hyear) hfraction]
    rfl

end Stamp

/-! ### What is rendered -/

theorem weigh_padded {places width n : Nat} (hwidth : 0 < width) (hn : n < 10 ^ width)
    (hle : width ≤ places) :
    weigh places (Numeral.padded width n) = n * 10 ^ (places - width) := by
  have hlength := Numeral.length_padded hwidth hn
  obtain ⟨m, hm, hvalue⟩ :=
    valueFrom?_take 0 places fun c (hc : c ∈ Numeral.padded width n) =>
      Numeral.isDigit_of_mem_padded hc
  rw [List.take_of_length_le (hlength.trans_le hle)] at hm hvalue
  obtain rfl := Option.some.inj (hm.symm.trans (Numeral.valueFrom?_padded width n))
  rw [hlength, Nat.zero_mul, Nat.zero_add] at hvalue
  exact hvalue.symm

/-- A fraction of a fixed number of digits that is exact stands for the nanoseconds. -/
theorem spells_padded {digits : Nat} (hsome : 0 < digits) (hdigits : digits ≤ 9)
    (nano : Fin 1000000000) (hexact : 10 ^ (9 - digits) ∣ nano.val) :
    Spells ('.' :: Numeral.padded digits (nano.val / 10 ^ (9 - digits))) nano := by
  have hlt : nano.val / 10 ^ (9 - digits) < 10 ^ digits := by
    rw [Nat.div_lt_iff_lt_mul (Nat.pow_pos (by decide)), ← Nat.pow_add, Nat.add_sub_cancel' hdigits]
    exact nano.isLt
  obtain ⟨d, ds, hpadded, -⟩ := exists_padded_eq_cons hsome hlt
  refine .digits (fun c hc => Numeral.isDigit_of_mem_padded hc) ?_ ?_
  · rw [hpadded]
    exact List.cons_ne_nil d ds
  · rw [weigh_padded hsome hlt hdigits, Nat.div_mul_cancel hexact]

/-- The fraction that is rendered stands for the nanoseconds it is rendered of. -/
theorem spells_renderFraction (nano : Fin 1000000000) : Spells (renderFraction nano.val) nano := by
  unfold renderFraction
  by_cases hzero : nano.val = 0
  · obtain rfl : nano = 0 := Fin.ext hzero
    exact .whole
  rw [if_neg hzero]
  by_cases hmilli : nano.val % 1000000 = 0
  · rw [if_pos hmilli]
    exact spells_padded (by decide : 0 < 3) (by decide) nano (Nat.dvd_of_mod_eq_zero hmilli)
  rw [if_neg hmilli]
  by_cases hmicro : nano.val % 1000 = 0
  · rw [if_pos hmicro]
    exact spells_padded (by decide : 0 < 6) (by decide) nano (Nat.dvd_of_mod_eq_zero hmicro)
  · have hnine := spells_padded (by decide : 0 < 9) (by decide) nano (Nat.one_dvd _)
    rw [if_neg hmicro]
    rwa [show nano.val / 10 ^ (9 - 9) = nano.val from Nat.div_one _] at hnine

/-- **A timestamp of a year of four digits is read back as it was written.** -/
theorem read_text {t : Timestamp} (hyear : 0 ≤ t.date.year ∧ t.date.year ≤ 9999) :
    read t.text = .ok t := by
  have hrender : t.render = stamp t.date t.minute t.second (renderFraction t.nano.val ++ ['Z']) := by
    simp only [render, stamp, parted, renderTime, List.append_assoc, List.cons_append]
  unfold read text
  rw [String.toList_ofList, hrender]
  exact (read_stamp hyear t.minute t.second (spells_renderFraction t.nano)).1

end CloudApi.Timestamp
