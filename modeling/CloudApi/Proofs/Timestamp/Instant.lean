import CloudApi.Proofs.Timestamp.Field

/-! One instant in many spellings.

Dates are counted by `Date.number`, minutes of time by `minutes`: the next date is one day later
(`number_next`), and no two dates are the same day (`number_injective`). So what is local time by some
offset is taken back to the instant it shows (`Shows.earlierBy_eq`), over the ends of days, months and
years. All the ways to write an instant that are read at all, with the local time and its offset or
with universal time, are read as that instant (`decoder_spellings`). -/
namespace CloudApi

namespace Date

/-- The days of all years before one, from the year 1 on. -/
def beforeYear (year : Int) : Int :=
  365 * (year - 1) + (year - 1) / 4 - (year - 1) / 100 + (year - 1) / 400

/-- The days of the first months of a year. -/
def inMonths (year : Int) : Nat → Nat
  | 0 => 0
  | month + 1 => inMonths year month + daysIn year (month + 1)

/-- The days up to a date, from the first day of the year 1 on. -/
def number (d : Date) : Int :=
  beforeYear d.year + inMonths d.year (d.month - 1) + d.day

theorem inMonths_month (year : Int) {month : Nat} (h : 1 ≤ month) :
    inMonths year month = inMonths year (month - 1) + daysIn year month := by
  obtain ⟨month, rfl⟩ : ∃ n, month = n + 1 := ⟨month - 1, (Nat.sub_add_cancel h).symm⟩
  rw [inMonths, Nat.add_sub_cancel]

theorem inMonths_twelve (year : Int) : inMonths year 12 = if isLeap year then 366 else 365 := by
  unfold inMonths inMonths inMonths inMonths inMonths inMonths inMonths inMonths inMonths inMonths
    inMonths inMonths inMonths daysIn
  simp only [Nat.reduceAdd, Nat.reduceEqDiff, or_self, or_true, true_or, if_true, if_false]
  split <;> rfl

/-- A year ends where the next one begins. -/
theorem beforeYear_succ (year : Int) :
    beforeYear (year + 1) = beforeYear year + inMonths year 12 := by
  have hleap : isLeap year ↔ year % 4 = 0 ∧ (year % 100 ≠ 0 ∨ year % 400 = 0) := by
    simp [isLeap]
  rw [inMonths_twelve, beforeYear, beforeYear]
  by_cases hyear : isLeap year
  · have := hleap.mp hyear
    rw [if_pos hyear]
    omega
  · have := mt hleap.mpr hyear
    rw [if_neg hyear]
    omega

theorem number_next (d : Date) : d.next.number = d.number + 1 := by
  have hmonth := inMonths_month d.year d.valid.1
  obtain ⟨hfirst, hlast, -, hday⟩ := d.valid
  unfold next
  split_ifs with hmore hyear
  · simp only [number]
    omega
  · simp only [number, Nat.add_sub_cancel]
    omega
  · have hstart := beforeYear_succ d.year
    have hdecember : d.month = 12 := by omega
    have hjanuary : inMonths (d.year + 1) (1 - 1) = 0 := rfl
    rw [hdecember] at hmonth hday hmore
    simp only [number, hdecember, hjanuary]
    omega

theorem number_previous (d : Date) : d.previous.number = d.number - 1 := by
  obtain ⟨hfirst, hlast, hday, -⟩ := d.valid
  unfold previous
  split_ifs with hmore hyear
  · simp only [number]
    omega
  · have hmonth := inMonths_month d.year (show 1 ≤ d.month - 1 by omega)
    simp only [number]
    omega
  · have hstart := beforeYear_succ (d.year - 1)
    have hdecember := inMonths_month (d.year - 1) (show 1 ≤ 12 by decide)
    have hjanuary : d.month = 1 := by omega
    have hnone : inMonths d.year (1 - 1) = 0 := rfl
    rw [Int.sub_add_cancel] at hstart
    simp only [number, hjanuary, hnone]
    omega

/-! ### Different dates are different days -/

theorem inMonths_mono (year : Int) {few many : Nat} (h : few ≤ many) :
    inMonths year few ≤ inMonths year many := by
  induction h with
  | refl => exact Nat.le_refl _
  | step _ ih => exact ih.trans (Nat.le_add_right _ _)

theorem beforeYear_mono {early late : Int} (h : early ≤ late) :
    beforeYear early ≤ beforeYear late := by
  unfold beforeYear
  omega

/-- The day of the year of a date. -/
def ofYear (d : Date) : Nat :=
  inMonths d.year (d.month - 1) + d.day

theorem ofYear_bounds (d : Date) :
    inMonths d.year (d.month - 1) < d.ofYear ∧ d.ofYear ≤ inMonths d.year d.month := by
  have hmonth := inMonths_month d.year d.valid.1
  obtain ⟨-, -, hday, hdays⟩ := d.valid
  unfold ofYear
  omega

theorem number_lt_of_year_lt {d e : Date} (h : d.year < e.year) : d.number < e.number := by
  have hend := beforeYear_mono (show d.year + 1 ≤ e.year from h)
  have hlast := inMonths_mono d.year d.valid.2.1
  obtain ⟨-, hd⟩ := d.ofYear_bounds
  obtain ⟨he, -⟩ := e.ofYear_bounds
  rw [beforeYear_succ] at hend
  simp only [number, ofYear] at *
  omega

theorem ofYear_lt_of_month_lt {d e : Date} (hyear : d.year = e.year) (h : d.month < e.month) :
    d.ofYear < e.ofYear := by
  have hmonths := inMonths_mono e.year (show d.month ≤ e.month - 1 by omega)
  obtain ⟨-, hd⟩ := d.ofYear_bounds
  obtain ⟨he, -⟩ := e.ofYear_bounds
  rw [hyear] at hd
  omega

/-- **No two dates are the same day.** -/
theorem number_injective {d e : Date} (h : d.number = e.number) : d = e := by
  have hyear : d.year = e.year := by
    rcases Int.lt_trichotomy d.year e.year with hlt | heq | hlt
    · exact absurd h (number_lt_of_year_lt hlt).ne
    · exact heq
    · exact absurd h (number_lt_of_year_lt hlt).ne'
  have hday : d.ofYear = e.ofYear := by
    simp only [number, hyear] at h
    simp only [ofYear, hyear]
    omega
  have hmonth : d.month = e.month := by
    rcases Nat.lt_trichotomy d.month e.month with hlt | heq | hlt
    · exact absurd hday (ofYear_lt_of_month_lt hyear hlt).ne
    · exact heq
    · exact absurd hday (ofYear_lt_of_month_lt hyear.symm hlt).ne'
  obtain ⟨year, month, day, hd⟩ := d
  obtain ⟨year', month', day', he⟩ := e
  obtain rfl : year = year' := hyear
  obtain rfl : month = month' := hmonth
  obtain rfl : day = day' := Nat.add_left_cancel hday
  rfl

end Date

namespace Timestamp

open Json Text

/-! ### Local time -/

/-- The whole minutes up to a time, from the first day of the year 1 on. -/
def minutes (t : Timestamp) : Int :=
  1440 * t.date.number + t.minute.val

theorem eq_of_minutes {t l : Timestamp} (hminutes : l.minutes = t.minutes)
    (hsecond : l.second = t.second) (hnano : l.nano = t.nano) : l = t := by
  have ht := t.minute.isLt
  have hl := l.minute.isLt
  have hdate : l.date = t.date := Date.number_injective (by unfold minutes at hminutes; omega)
  have hminute : l.minute = t.minute := Fin.ext (by
    unfold minutes at hminutes
    rw [hdate] at hminutes
    omega)
  obtain ⟨date, minute, second, nano⟩ := l
  obtain rfl : date = t.date := hdate
  obtain rfl : minute = t.minute := hminute
  obtain rfl : second = t.second := hsecond
  obtain rfl : nano = t.nano := hnano
  rfl

/-- A time of so many minutes earlier is that many minutes earlier, at the same second. -/
theorem minutes_earlierBy (t : Timestamp) {east : Int} (h : -1440 < east ∧ east < 1440) :
    (t.earlierBy east).minutes = t.minutes - east ∧ (t.earlierBy east).second = t.second ∧
      (t.earlierBy east).nano = t.nano := by
  have hminute := t.minute.isLt
  have hnext := t.date.number_next
  have hprevious := t.date.number_previous
  unfold earlierBy
  dsimp only
  split_ifs <;> refine ⟨?_, rfl, rfl⟩ <;> simp only [minutes, Fin.val_ofNat] <;> omega

/-- A time is what clocks so many minutes east of universal time show at an instant. -/
structure Shows (l t : Timestamp) (east : Int) : Prop where
  minutes : l.minutes = t.minutes + east
  second : l.second = t.second
  nano : l.nano = t.nano

/-- Clocks show a time at every instant. -/
theorem shows_earlierBy (t : Timestamp) {east : Int} (h : -1440 < east ∧ east < 1440) :
    Shows (t.earlierBy (-east)) t east := by
  have hback : -1440 < -east ∧ -east < 1440 := by omega
  obtain ⟨hminutes, hsecond, hnano⟩ := t.minutes_earlierBy hback
  exact ⟨by omega, hsecond, hnano⟩

/-- **What clocks show is taken back to the instant**, whichever day, month or year it is there. -/
theorem Shows.earlierBy_eq {l t : Timestamp} {east : Int} (h : Shows l t east)
    (heast : -1440 < east ∧ east < 1440) : l.earlierBy east = t := by
  obtain ⟨hminutes, hsecond, hnano⟩ := l.minutes_earlierBy heast
  exact eq_of_minutes (by rw [hminutes, h.minutes, Int.add_sub_cancel]) (hsecond.trans h.second)
    (hnano.trans h.nano)

/-! ### Spellings -/

/-- An offset of whole minutes behind its sign. -/
def renderOffset (east : Int) : List Char :=
  (if east < 0 then '-' else '+') ::
    (Numeral.padded 2 (east.natAbs / 60) ++ ':' :: Numeral.padded 2 (east.natAbs % 60))

/-- A fraction of a number of digits, or nothing for none. -/
def fractionIn (digits nano : Nat) : List Char :=
  if digits = 0 then [] else '.' :: Numeral.padded digits (nano / 10 ^ (9 - digits))

/-- Hours and minutes behind a sign are read as the minutes they come to. -/
theorem offset?_padded {sign : Char} (hsign : sign = '-' ∨ sign = '+') {hours minutes : Nat}
    (hhours : hours < 24) (hminutes : minutes < 60) :
    offset? (sign :: (Numeral.padded 2 hours ++ ':' :: Numeral.padded 2 minutes)) =
      some (if sign = '-' then -(hours * 60 + minutes : Int) else hours * 60 + minutes, []) := by
  have hfirst (rest : List Char) := exactly?_padded (show 0 < 2 by decide)
    (show hours < 10 ^ 2 by omega) rest
  have hsecond := exactly?_padded (show 0 < 2 by decide) (show minutes < 10 ^ 2 by omega) []
  rw [List.append_nil] at hsecond
  unfold offset?
  rcases hsign with rfl | rfl <;> simp [hfirst, hsecond, hhours, hminutes, char?]

theorem offset?_renderOffset {east : Int} (h : -1440 < east ∧ east < 1440) :
    offset? (renderOffset east) = some (east, []) := by
  have hhours : east.natAbs / 60 < 24 := by omega
  have hminutes : east.natAbs % 60 < 60 := Nat.mod_lt _ (by decide)
  unfold renderOffset
  by_cases hwest : east < 0
  · rw [if_pos hwest, offset?_padded (.inl rfl) hhours hminutes, if_pos rfl]
    exact congrArg (fun east => some (east, [])) (by omega)
  · rw [if_neg hwest, offset?_padded (.inr rfl) hhours hminutes, if_neg (by decide)]
    exact congrArg (fun east => some (east, [])) (by omega)

/-- A fraction of up to nine digits that is exact stands for the nanoseconds. -/
theorem spells_fractionIn {digits : Nat} (hdigits : digits ≤ 9) {nano : Fin 1000000000}
    (hexact : 10 ^ (9 - digits) ∣ nano.val) : Spells (fractionIn digits nano.val) nano := by
  unfold fractionIn
  split
  · next hzero =>
    subst hzero
    obtain rfl : nano = 0 := Fin.ext (Nat.eq_zero_of_dvd_of_lt hexact nano.isLt)
    exact .whole
  · next hsome =>
    exact spells_padded (Nat.pos_of_ne_zero hsome) hdigits _ hexact

/-- Without an offset, a blank between date and time is no `T`. -/
theorem naive_literal_blank {d : Date} (hrange : inRange d.year) (minute : Fin 1440)
    (second : Fin 61) (rest : List Char) :
    naive (literal 'T') (parted ' ' d minute second rest) = .error .invalid := by
  obtain ⟨hmonth, hmonths, hday, -⟩ := d.valid
  have hdays := day_le d
  have hmark : ¬ 'T' = ' ' := by decide
  unfold naive parted renderDate
  simp only [List.append_assoc, List.cons_append, bind, Except.bind,
    year_renderYear hrange (undigited_cons (show Numeral.isDigit '-' = false by decide) _),
    bounded_padded (show 0 < 2 by decide) (show d.month < 10 ^ 2 by omega) _ hmonth hmonths,
    bounded_padded (show 0 < 2 by decide) (show d.day < 10 ^ 2 by omega) _ hday hdays,
    literal, if_true, hmark, if_false]

section Spellings
variable {d : Date} (hyear : 0 ≤ d.year ∧ d.year ≤ 9999) (minute : Fin 1440) (second : Fin 61)
  {fraction : List Char} {nano : Fin 1000000000} (h : Spells fraction nano)

include hyear h

/-- A local time with its offset. -/
theorem readChars_offset {east : Int} (heast : -1440 < east ∧ east < 1440) :
    readChars (parted 'T' d minute second (fraction ++ renderOffset east)) =
      .ok (earlierBy ⟨d, minute, second, nano⟩ east) := by
  have hfraction : optionalFraction (fraction ++ renderOffset east) =
      .ok (nano, renderOffset east) := by
    obtain ⟨sign, rest, hoffset, hsign⟩ : ∃ sign rest, renderOffset east = sign :: rest ∧
        (sign = '-' ∨ sign = '+') := by
      refine ⟨_, _, rfl, ?_⟩
      split
      · exact .inl rfl
      · exact .inr rfl
    rw [hoffset]
    refine h.read (undigited_cons ?_ rest) fun hpoint => ?_
    · rcases hsign with rfl | rfl <;> decide
    · obtain rfl := Option.some.inj hpoint
      exact hsign.elim (by decide) (by decide)
  have hread := withOffset?_parted hyear minute second (.inl rfl) hfraction
  rw [offset?_renderOffset heast] at hread
  unfold readChars
  rw [hread]
  rfl

/-- A time without an offset, a blank in front of it. -/
theorem readChars_blank :
    readChars (parted ' ' d minute second fraction) = .ok ⟨d, minute, second, nano⟩ := by
  have hminute := minute.isLt
  have hrange := inRange_of_year hyear
  have hfraction : optionalFraction (fraction ++ []) = .ok (nano, []) :=
    h.read (by rintro _ ⟨⟩) (by decide)
  rw [List.append_nil] at hfraction
  have hblank (rest : List Char) :
      skipBlanks (' ' :: (Numeral.padded 2 (minute.val / 60) ++ rest)) =
        Numeral.padded 2 (minute.val / 60) ++ rest :=
    skipBlanks_padded (show 0 < 2 by decide) (show minute.val / 60 < 10 ^ 2 by omega) rest
  have hnaive : naive (fun rest => .ok (skipBlanks rest)) (parted ' ' d minute second fraction) =
      .ok ⟨d, minute, second, nano⟩ :=
    naive_parted minute second (fun rest => by rw [hblank rest]) hrange hfraction
  have hoffset := withOffset?_parted hyear minute second (.inr rfl) hfraction
  rw [show offset? [] = none from rfl, Option.bind_none] at hoffset
  unfold readChars
  rw [hoffset, naive_literal_blank hrange]
  exact hnaive

end Spellings

/-- **All spellings of an instant are read as it.** In the years of four digits these are the time of
any clock with the minutes it is ahead of universal time, universal time with a `Z`, and universal
time alone, behind a `T` or a blank; the fraction may have any number of digits that tells the
nanoseconds. -/
theorem decoder_spellings {t : Timestamp} (hyear : 0 ≤ t.date.year ∧ t.date.year ≤ 9999)
    {east : Int} (heast : -1440 < east ∧ east < 1440) {digits : Nat} (hdigits : digits ≤ 9)
    (hexact : 10 ^ (9 - digits) ∣ t.nano.val) :
    let fraction := fractionIn digits t.nano.val
    let reads (spelling : List Char) : Prop :=
      decoder (.string (String.ofList spelling)) = .ok (some t)
    (∃ l, Shows l t east) ∧
      (∀ l, Shows l t east → 0 ≤ l.date.year ∧ l.date.year ≤ 9999 →
        reads (parted 'T' l.date l.minute l.second (fraction ++ renderOffset east))) ∧
      reads (parted 'T' t.date t.minute t.second (fraction ++ ['Z'])) ∧
      reads (parted 'T' t.date t.minute t.second fraction) ∧
      reads (parted ' ' t.date t.minute t.second fraction) := by
  intro fraction reads
  have hspells : Spells fraction t.nano := spells_fractionIn hdigits hexact
  have hreads {spelling : List Char} (h : readChars spelling = .ok t) : reads spelling := by
    show decoder (.string (String.ofList spelling)) = _
    rw [decoder_string, read, String.toList_ofList, h]
  obtain ⟨hsuffix, hbare⟩ := read_stamp hyear t.minute t.second hspells
  refine ⟨⟨_, shows_earlierBy t heast⟩, fun l hl hlocal => hreads ?_, hreads hsuffix, hreads hbare,
    hreads (readChars_blank hyear t.minute t.second hspells)⟩
  have hread := readChars_offset hlocal l.minute l.second hspells heast
  have hback := hl.earlierBy_eq heast
  rw [hread, ← hl.nano, hback]

/-- The last minutes of a leap day, where clocks in the east show the month after it already. -/
theorem decoder_spellings_of_leapDay :
    let t : Timestamp := ⟨⟨2024, 2, 29, by decide⟩, 1410, 5, 120000000⟩
    let l : Timestamp := ⟨⟨2024, 3, 1, by decide⟩, 60, 5, 120000000⟩
    Shows l t 90 ∧ decoder (.string "2024-03-01T01:00:05.1200+01:30") = .ok (some t) ∧
      decoder (.string "2024-02-29T23:30:05.1200Z") = .ok (some t) ∧
      decoder (.string "2024-02-29T23:30:05.1200") = .ok (some t) ∧
      decoder (.string "2024-02-29 23:30:05.1200") = .ok (some t) := by
  intro t l
  have hshows : Shows l t 90 := ⟨by decide, rfl, rfl⟩
  obtain ⟨-, hoffset, hsuffix, hbare, hblank⟩ :=
    @decoder_spellings t (by decide) 90 (by decide) 4 (by decide) (by decide)
  have hlocal := hoffset l hshows (by decide)
  refine ⟨hshows, Eq.trans ?_ hlocal, Eq.trans ?_ hsuffix, Eq.trans ?_ hbare,
    Eq.trans ?_ hblank⟩ <;> exact congrArg (fun s => decoder (.string s)) (by decide +kernel)

end Timestamp

end CloudApi
