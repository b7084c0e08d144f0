import CloudApi.Proofs.Json.Record
import CloudApi.Proofs.Timestamp.Reader
import CloudApi.Timestamp.Field
import Mathlib.Data.List.TakeWhile

/-! Timestamps as fields of records are read back as they were written, in years of four digits.

Any year is read that a date may have, behind a sign if it does not fit four digits, but only in the
form without an offset (`year_renderYear`); what is written has the offset of universal time. So a
timestamp is read back just if its year has no sign (`read_text`, `read_text_of_sign`). A year with a
sign comes from a text with one, or from an offset that leads over the first or the last day of the
years of four digits (`year_of_read`). -/
namespace CloudApi.Timestamp

open Json Text

/-! ### Years behind a sign -/

/-- No form with an offset begins with a sign. -/
theorem withOffset?_renderYear {y : Int} (hsign : ¬ (0 ≤ y ∧ y ≤ 9999)) (rest : List Char) :
    withOffset? (renderYear y ++ rest) = none := by
  obtain ⟨c, cs, hcs, hc⟩ : ∃ c cs, renderYear y = c :: cs ∧ Numeral.isDigit c = false := by
    unfold renderYear
    split
    · exact ⟨_, _, rfl, by decide⟩
    · rw [if_pos (by omega)]
      exact ⟨_, _, rfl, by decide⟩
  have hyear : exactly? 4 (renderYear y ++ rest) = none := by
    rw [hcs]
    unfold exactly? digitRun
    simp [hc]
  unfold withOffset?
  rw [hyear]
  rfl

/-- No blank is a `T`. -/
theorem naive_blank_stamp {d : Date} (hrange : inRange d.year) (minute : Fin 1440)
    (second : Fin 61) (rest : List Char) :
    naive (fun rest => .ok (skipBlanks rest)) (stamp d minute second rest) =
      .error .invalid := by
  obtain ⟨hmonth, hmonths, hday, -⟩ := d.valid
  have hdays := day_le d
  have hblank (rest : List Char) : skipBlanks ('T' :: rest) = 'T' :: rest := rfl
  have hhour (rest : List Char) : bounded 2 0 23 ('T' :: rest) = .error .invalid := rfl
  unfold naive stamp parted renderDate
  simp only [List.append_assoc, List.cons_append, bind, Except.bind,
    year_renderYear hrange (undigited_cons (show Numeral.isDigit '-' = false by decide) _),
    bounded_padded (show 0 < 2 by decide) (show d.month < 10 ^ 2 by omega) _ hmonth hmonths,
    bounded_padded (show 0 < 2 by decide) (show d.day < 10 ^ 2 by omega) _ hday hdays,
    literal, if_true, hblank, hhour]

/-- **A time behind a year with a sign is in no form**: nothing with an offset begins with a sign,
and nothing without one goes on behind the time. -/
theorem read_text_of_sign {t : Timestamp} (hrange : inRange t.date.year)
    (hsign : ¬ (0 ≤ t.date.year ∧ t.date.year ≤ 9999)) : read t.text = .error .invalid := by
  have hrender : t.render = stamp t.date t.minute t.second (renderFraction t.nano.val ++ ['Z']) := by
    simp only [render, stamp, parted, renderTime, List.append_assoc, List.cons_append]
  have hoffset : withOffset? t.render = none := by
    unfold render renderDate
    rw [List.append_assoc]
    exact withOffset?_renderYear hsign _
  have hfraction : optionalFraction (renderFraction t.nano.val ++ ['Z']) = .ok (t.nano, ['Z']) :=
    (spells_renderFraction t.nano).read (by rintro _ ⟨⟩; decide) (by decide)
  have hshown := naive_stamp t.minute t.second hrange hfraction
  rw [if_pos (List.cons_ne_nil _ _)] at hshown
  unfold read readChars text
  rw [String.toList_ofList, hoffset, hrender]
  dsimp only
  rw [hshown]
  exact naive_blank_stamp hrange _ _ _

/-! ### Where years with a sign come from -/

theorem exists_of_bind_eq_ok {ε α β : Type} {x : Except ε α} {f : α → Except ε β} {b : β}
    (h : (x >>= f) = .ok b) : ∃ a, x = .ok a ∧ f a = .ok b := by
  cases x with
  | error e => cases h
  | ok a => exact ⟨a, rfl, h⟩

theorem runValue_lt {run : List Char} (h : ∀ c ∈ run, Numeral.isDigit c) :
    runValue run < 10 ^ run.length := by
  obtain ⟨n, hn, hvalue⟩ := valueFrom?_take 0 run.length h
  rw [List.take_length] at hn hvalue
  rw [Nat.sub_self, Nat.pow_zero, Nat.mul_one, Nat.zero_mul, Nat.zero_add] at hvalue
  rw [runValue, hn, Option.getD_some, hvalue]
  exact weigh_lt _ h

theorem exactly?_lt {width n : Nat} {cs rest : List Char}
    (h : exactly? width cs = some (n, rest)) : n < 10 ^ width := by
  unfold exactly? at h
  dsimp only at h
  split at h
  · next hlength =>
    obtain ⟨rfl, -⟩ := Prod.mk.inj (Option.some.inj h)
    have hlt : runValue (digitRun width cs).1 < 10 ^ (digitRun width cs).1.length :=
      runValue_lt fun c hc => List.mem_takeWhile_imp hc
    rwa [hlength] at hlt
  · cases h

theorem bounded_le {width least most n : Nat} {cs rest : List Char}
    (h : bounded width least most cs = .ok (n, rest)) : n ≤ most := by
  unfold bounded at h
  split at h
  · cases h
  · cases h
  · split at h
    · next hwithin =>
      obtain ⟨rfl, -⟩ := Prod.mk.inj (Except.ok.inj h)
      exact hwithin.2
    · cases h

/-- A text that begins with a sign, behind blanks. -/
def Signed (cs : List Char) : Prop :=
  ∃ c rest, skipBlanks cs = c :: rest ∧ (c = '-' ∨ c = '+')

theorem signed_of_year {cs rest : List Char} {y : Int} (h : year cs = .ok (y, rest))
    (hsign : ¬ (0 ≤ y ∧ y ≤ 9999)) : Signed cs := by
  unfold year at h
  split at h
  · next heq => exact ⟨_, _, heq, .inl rfl⟩
  · next heq => exact ⟨_, _, heq, .inr rfl⟩
  · cases hbounded : bounded 4 0 9999 (skipBlanks cs) with
    | error e =>
      rw [hbounded] at h
      cases h
    | ok read =>
      obtain ⟨n, left⟩ := read
      rw [hbounded] at h
      obtain ⟨rfl, -⟩ := Prod.mk.inj (Except.ok.inj h)
      have hle := bounded_le hbounded
      omega

theorem year_next (d : Date) : d.year ≤ d.next.year ∧ d.next.year ≤ d.year + 1 := by
  unfold Date.next
  split_ifs <;> dsimp only <;> omega

theorem year_previous (d : Date) : d.year - 1 ≤ d.previous.year ∧ d.previous.year ≤ d.year := by
  unfold Date.previous
  split_ifs <;> dsimp only <;> omega

/-- An offset leads into the year before or after at most. -/
theorem year_earlierBy (t : Timestamp) (minutes : Int) :
    t.date.year - 1 ≤ (t.earlierBy minutes).date.year ∧
      (t.earlierBy minutes).date.year ≤ t.date.year + 1 := by
  have hnext := year_next t.date
  have hprevious := year_previous t.date
  unfold earlierBy
  dsimp only
  split_ifs <;> dsimp only <;> omega

theorem year_ofParts? {y : Int} {month day : Nat} {d : Date}
    (h : Date.ofParts? y month day = some d) : d.year = y := by
  unfold Date.ofParts? at h
  split at h
  · exact congrArg Date.year (Option.some.inj h).symm
  · cases h

theorem year_of_withOffset? {cs : List Char} {t : Timestamp} (h : withOffset? cs = some t) :
    -1 ≤ t.date.year ∧ t.date.year ≤ 10000 := by
  unfold withOffset? at h
  obtain ⟨⟨y, _⟩, hyear, h⟩ := Option.bind_eq_some_iff.mp h
  obtain ⟨_, -, h⟩ := Option.bind_eq_some_iff.mp h
  obtain ⟨⟨month, _⟩, -, h⟩ := Option.bind_eq_some_iff.mp h
  obtain ⟨_, -, h⟩ := Option.bind_eq_some_iff.mp h
  obtain ⟨⟨day, _⟩, -, h⟩ := Option.bind_eq_some_iff.mp h
  obtain ⟨_, -, h⟩ := Option.bind_eq_some_iff.mp h
  obtain ⟨⟨hour, _⟩, -, h⟩ := Option.bind_eq_some_iff.mp h
  obtain ⟨_, -, h⟩ := Option.bind_eq_some_iff.mp h
  obtain ⟨⟨minute, _⟩, -, h⟩ := Option.bind_eq_some_iff.mp h
  obtain ⟨_, -, h⟩ := Option.bind_eq_some_iff.mp h
  obtain ⟨⟨second, _⟩, -, h⟩ := Option.bind_eq_some_iff.mp h
  obtain ⟨⟨nano, _⟩, -, h⟩ := Option.bind_eq_some_iff.mp h
  obtain ⟨⟨east, _⟩, -, h⟩ := Option.bind_eq_some_iff.mp h
  dsimp only at h
  split at h
  · obtain ⟨d, hdate, h⟩ := Option.bind_eq_some_iff.mp h
    obtain ⟨⟨m, s⟩, -, ht⟩ := Option.bind_eq_some_iff.mp h
    have hsmall : y < 10 ^ 4 := exactly?_lt hyear
    have hsame := year_ofParts? hdate
    have hshift := year_earlierBy ⟨d, m, s, nano⟩ east
    rw [Option.some.inj ht, hsame] at hshift
    omega
  · cases h

theorem year_of_naive {separator : List Char → Except ReadError (List Char)} {cs : List Char}
    {t : Timestamp} (h : naive separator cs = .ok t) :
    inRange t.date.year ∧ ((0 ≤ t.date.year ∧ t.date.year ≤ 9999) ∨ Signed cs) := by
  unfold naive at h
  obtain ⟨⟨y, _⟩, hyear, h⟩ := exists_of_bind_eq_ok h
  obtain ⟨_, -, h⟩ := exists_of_bind_eq_ok h
  obtain ⟨⟨month, _⟩, -, h⟩ := exists_of_bind_eq_ok h
  obtain ⟨_, -, h⟩ := exists_of_bind_eq_ok h
  obtain ⟨⟨day, _⟩, -, h⟩ := exists_of_bind_eq_ok h
  obtain ⟨_, -, h⟩ := exists_of_bind_eq_ok h
  obtain ⟨⟨hour, _⟩, -, h⟩ := exists_of_bind_eq_ok h
  obtain ⟨_, -, h⟩ := exists_of_bind_eq_ok h
  obtain ⟨⟨minute, _⟩, -, h⟩ := exists_of_bind_eq_ok h
  obtain ⟨_, -, h⟩ := exists_of_bind_eq_ok h
  obtain ⟨⟨second, _⟩, -, h⟩ := exists_of_bind_eq_ok h
  obtain ⟨⟨nano, _⟩, -, h⟩ := exists_of_bind_eq_ok h
  dsimp only at h
  split at h
  · cases h
  split at h
  · next hrange =>
    split at h
    · next d _ _ hdate _ =>
      obtain rfl := Except.ok.inj h
      have hsame : d.year = y := year_ofParts? hdate
      rw [hsame]
      exact ⟨hrange, or_iff_not_imp_left.mpr (signed_of_year hyear)⟩
    · cases h
  · cases h

/-- A year with a sign comes from a text with one, or from an offset. -/
theorem year_of_read {s : String} {t : Timestamp} (h : read s = .ok t) :
    inRange t.date.year ∧ ((0 ≤ t.date.year ∧ t.date.year ≤ 9999) ∨ Signed s.toList ∨
      withOffset? s.toList = some t ∧ (t.date.year = -1 ∨ t.date.year = 10000)) := by
  unfold read readChars at h
  split at h
  · next hoffset =>
    rw [Except.ok.inj h] at hoffset
    have hyear := year_of_withOffset? hoffset
    have hrange : inRange t.date.year := by
      unfold inRange
      rw [Bool.and_eq_true, decide_eq_true_eq, decide_eq_true_eq]
      omega
    refine ⟨hrange, ?_⟩
    by_cases hfour : 0 ≤ t.date.year ∧ t.date.year ≤ 9999
    · exact .inl hfour
    · exact .inr (.inr ⟨hoffset, by omega⟩)
  · have hnaive : ∃ separator, naive separator s.toList = .ok t := by
      split at h
      · next hnaive => exact ⟨_, hnaive.trans h⟩
      · exact ⟨_, h⟩
    obtain ⟨_, hnaive⟩ := hnaive
    exact (year_of_naive hnaive).imp id (.imp id .inl)

/-! ### Fields -/

theorem decoder_string (s : String) :
    decoder (.string s) = (match read s with
      | .ok t => .ok (some t)
      | .error e => .error (.refused ("invalid timestamp `" ++ s ++ "`: " ++ e.message))) := by
  unfold decoder Decoder.optional Decoder.spelled
  dsimp only
  cases read s <;> rfl

theorem readsBack_of_year {key : String} {t? : Option Timestamp}
    (hyear : ∀ t, t? = some t → 0 ≤ t.date.year ∧ t.date.year ≤ 9999) :
    (field key).ReadsBack t? := by
  cases t? with
  | none => rfl
  | some t =>
    refine Field.readsBack_of_encode (v := .string t.text) rfl ?_
    have hdecode : (field key).decode = decoder := rfl
    rw [hdecode, decoder_string, read_text (hyear t rfl)]

/-- **Which times are read back.** A time that was read from a text is read back from what a field
writes for it just if its year has no sign. A time whose year has one is refused; it came from a text
with a sign in front, or from an offset that leads out of the years of four digits. -/
theorem decoder_encode_of_decoder (key : String) {s : String} {t : Timestamp}
    (h : decoder (.string s) = .ok (some t)) :
    ∃ written, (field key).encode (some t) = some written ∧
      (decoder written = .ok (some t) ↔ 0 ≤ t.date.year ∧ t.date.year ≤ 9999) ∧
      (¬ (0 ≤ t.date.year ∧ t.date.year ≤ 9999) →
        decoder written = .error (.refused
          ("invalid timestamp `" ++ t.text ++ "`: input contains invalid characters")) ∧
        (Signed s.toList ∨
          withOffset? s.toList = some t ∧ (t.date.year = -1 ∨ t.date.year = 10000))) := by
  have hread : read s = .ok t := by
    rw [decoder_string] at h
    split at h
    · next hread => rw [hread, Option.some.inj (Except.ok.inj h)]
    · cases h
  obtain ⟨hrange, hsource⟩ := year_of_read hread
  have hrefused (hsign : ¬ (0 ≤ t.date.year ∧ t.date.year ≤ 9999)) :
      decoder (.string t.text) = .error (.refused
        ("invalid timestamp `" ++ t.text ++ "`: input contains invalid characters")) := by
    rw [decoder_string, read_text_of_sign hrange hsign]
    dsimp only [ReadError.message]
    rw [String.append_assoc, show "`: " ++ "input contains invalid characters" =
      "`: input contains invalid characters" from rfl]
  refine ⟨.string t.text, rfl, ⟨fun hback => ?_, fun hyear => ?_⟩, fun hsign =>
    ⟨hrefused hsign, hsource.resolve_left hsign⟩⟩
  · by_contra hsign
    rw [hrefused hsign] at hback
    cases hback
  · rw [decoder_string, read_text hyear]

/-- A leap second with a fraction on the last day of the years of four digits, taken back by its
offset. -/
theorem decoder_encode_of_leapSecond :
    ∃ t written, decoder (.string "9999-12-31t23:59:60.5+00:01") = .ok (some t) ∧
      (field "created_on").encode (some t) = some written ∧
      written = .string "9999-12-31T23:58:60.500Z" ∧ decoder written = .ok (some t) := by
  let t : Timestamp := ⟨⟨9999, 12, 31, by decide⟩, 1438, 60, 500000000⟩
  have hdecode : decoder (.string "9999-12-31t23:59:60.5+00:01") = .ok (some t) := by
    decide +kernel
  obtain ⟨written, hwritten, hback, -⟩ := decoder_encode_of_decoder "created_on" hdecode
  obtain rfl : .string t.text = written := Option.some.inj hwritten
  exact ⟨t, _, hdecode, rfl, by decide +kernel, hback.mpr (by decide)⟩

/-- A year of five digits is read, and is not read back. -/
theorem decoder_loses_year :
    ∃ t written, decoder (.string "+10000-01-01T00:00:00") = .ok (some t) ∧
      (field "created_on").encode (some t) = some written ∧
      written = .string "+10000-01-01T00:00:00Z" ∧ decoder written ≠ .ok (some t) := by
  refine ⟨⟨⟨10000, 1, 1, by decide⟩, 0, 0, 0⟩, _, by decide +kernel, rfl, ?_, ?_⟩ <;>
    decide +kernel

end CloudApi.Timestamp
