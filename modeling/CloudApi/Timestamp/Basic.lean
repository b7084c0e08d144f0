import CloudApi.Text.Numeral
import CloudApi.Timestamp.Date

/-! Instants of universal time, to the nanosecond.

A leap second is the second 60 of its minute. `render` writes the date and the time with a
suffix `Z`, a fraction of three, six or nine digits where one is needed, and a sign in front of
a year outside 0 to 9999. -/
namespace CloudApi

structure Timestamp where
  date : Date
  /-- The minute of the day. -/
  minute : Fin 1440
  second : Fin 61
  nano : Fin 1000000000
  deriving DecidableEq

namespace Timestamp

open Text

/-- The time `minutes` earlier, for at most a day either way. -/
def earlierBy (t : Timestamp) (minutes : Int) : Timestamp :=
  let m : Int := (t.minute.val : Int) - minutes
  if m < 0 then { t with date := t.date.previous, minute := Fin.ofNat 1440 (m + 1440).toNat }
  else if 1440 ≤ m then { t with date := t.date.next, minute := Fin.ofNat 1440 (m - 1440).toNat }
  else { t with minute := Fin.ofNat 1440 m.toNat }

def renderYear (year : Int) : List Char :=
  if year < 0 then '-' :: Numeral.padded 4 year.natAbs
  else if 9999 < year then '+' :: Numeral.padded 4 year.natAbs
  else Numeral.padded 4 year.natAbs

def renderFraction (nano : Nat) : List Char :=
  if nano = 0 then []
  else if nano % 1000000 = 0 then '.' :: Numeral.padded 3 (nano / 1000000)
  else if nano % 1000 = 0 then '.' :: Numeral.padded 6 (nano / 1000)
  else '.' :: Numeral.padded 9 nano

def renderDate (d : Date) : List Char :=
  renderYear d.year ++ '-' :: (Numeral.padded 2 d.month ++ '-' :: Numeral.padded 2 d.day)

def renderTime (t : Timestamp) : List Char :=
  Numeral.padded 2 (t.minute.val / 60) ++ ':' :: (Numeral.padded 2 (t.minute.val % 60) ++
    ':' :: (Numeral.padded 2 t.second.val ++ renderFraction t.nano.val))

def render (t : Timestamp) : List Char :=
  renderDate t.date ++ 'T' :: (renderTime t ++ ['Z'])

def text (t : Timestamp) : String :=
  String.ofList t.render

end Timestamp

end CloudApi
