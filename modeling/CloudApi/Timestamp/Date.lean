/-! Dates of the proleptic Gregorian calendar, and the day before and after one. -/
namespace CloudApi

namespace Date

def isLeap (year : Int) : Bool :=
  year % 4 == 0 && (year % 100 != 0 || year % 400 == 0)

def daysIn (year : Int) (month : Nat) : Nat :=
  if month = 2 then (if isLeap year then 29 else 28)
  else if month = 4 ∨ month = 6 ∨ month = 9 ∨ month = 11 then 30
  else 31

theorem daysIn_pos (year : Int) (month : Nat) : 1 ≤ daysIn year month := by
  unfold daysIn
  repeat' split
  all_goals decide

/-- A month and a day that the year has. -/
def Valid (year : Int) (month day : Nat) : Prop :=
  1 ≤ month ∧ month ≤ 12 ∧ 1 ≤ day ∧ day ≤ daysIn year month

instance (year : Int) (month day : Nat) : Decidable (Valid year month day) :=
  inferInstanceAs (Decidable (_ ∧ _ ∧ _ ∧ _))

end Date

structure Date where
  year : Int
  month : Nat
  day : Nat
  valid : Date.Valid year month day
  deriving DecidableEq

namespace Date

def ofParts? (year : Int) (month day : Nat) : Option Date :=
  if h : Valid year month day then some ⟨year, month, day, h⟩ else none

/-- The day after. -/
def next (d : Date) : Date :=
  if h : d.day < daysIn d.year d.month then
    ⟨d.year, d.month, d.day + 1, d.valid.1, d.valid.2.1, Nat.le_add_left .., h⟩
  else if hm : d.month < 12 then
    ⟨d.year, d.month + 1, 1, Nat.le_add_left .., hm, Nat.le_refl _, daysIn_pos ..⟩
  else ⟨d.year + 1, 1, 1, Nat.le_refl _, by decide, Nat.le_refl _, daysIn_pos ..⟩

/-- The day before. -/
def previous (d : Date) : Date :=
  if h : 1 < d.day then
    ⟨d.year, d.month, d.day - 1, d.valid.1, d.valid.2.1, Nat.le_sub_one_of_lt h,
      Nat.le_trans (Nat.sub_le ..) d.valid.2.2.2⟩
  else if hm : 1 < d.month then
    ⟨d.year, d.month - 1, daysIn d.year (d.month - 1), Nat.le_sub_one_of_lt hm,
      Nat.le_trans (Nat.sub_le ..) d.valid.2.1, daysIn_pos .., Nat.le_refl _⟩
  else
    ⟨d.year - 1, 12, daysIn (d.year - 1) 12, by decide, Nat.le_refl _, daysIn_pos ..,
      Nat.le_refl _⟩

end Date

end CloudApi
