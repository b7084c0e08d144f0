import CloudApi.Json.Decode
import CloudApi.Text.Blank
import CloudApi.Timestamp.Basic

/-! Reading timestamps.

Two forms are read. With an offset: four digits of the year and two of everything else, a `T`
in either case or a space, an optional fraction, and `Z` or a signed offset of whole minutes.
Without one, taken as universal time: numbers of at most four and two digits, blanks in front
of any of them, a signed year of any length, a `T` or blanks between date and time. A fraction
has any number of digits, of which nine count. A text in neither form is refused for what the
blank-separated form finds wrong with it. -/
namespace CloudApi.Timestamp

open Text

inductive ReadError where
  | tooShort | invalid | outOfRange | tooLong
  deriving DecidableEq

def ReadError.message : ReadError → String
  | tooShort => "premature end of input"
  | invalid => "input contains invalid characters"
  | outOfRange => "input is out of range"
  | tooLong => "trailing input"

/-- The longest start of digits up to a length, and what follows it. -/
def digitRun (limit : Nat) (cs : List Char) : List Char × List Char :=
  let run := (cs.take limit).takeWhile Numeral.isDigit
  (run, cs.drop run.length)

def runValue (run : List Char) : Nat :=
  (Numeral.valueFrom? 0 run).getD 0

/-- A number of nanoseconds, whole seconds left out. -/
def nanos (n : Nat) : Fin 1000000000 :=
  ⟨n % 1000000000, Nat.mod_lt n (by decide)⟩

/-- A fraction after its point, in nanoseconds: up to nine digits count, the rest are skipped. -/
def fraction (cs : List Char) : Except ReadError (Fin 1000000000 × List Char) :=
  match digitRun 9 cs with
  | ([], []) => .error .tooShort
  | ([], _) => .error .invalid
  | (run, rest) =>
    .ok (nanos (runValue run * Nat.pow 10 (9 - run.length)), rest.dropWhile Numeral.isDigit)

/-- A fraction if a point begins one. -/
def optionalFraction : List Char → Except ReadError (Fin 1000000000 × List Char)
  | '.' :: rest => fraction rest
  | cs => .ok (nanos 0, cs)

/-- The time of day of an hour, a minute and a second. -/
def clock? (hour minute second : Nat) : Option (Fin 1440 × Fin 61) :=
  if h : hour < 24 ∧ minute < 60 ∧ second < 61 then
    some (⟨hour * 60 + minute, by omega⟩, ⟨second, h.2.2⟩)
  else none

/-! ### With an offset -/

/-- Exactly `width` digits. -/
def exactly? (width : Nat) (cs : List Char) : Option (Nat × List Char) :=
  let (run, rest) := digitRun width cs
  if run.length = width then some (runValue run, rest) else none

def char? (c : Char) : List Char → Option (List Char)
  | d :: rest => if c = d then some rest else none
  | [] => none

/-- Minutes east of universal time: below a day, whole, with a colon. -/
def offset? : List Char → Option (Int × List Char)
  | [] => none
  | c :: rest =>
    if c = 'Z' ∨ c = 'z' then some (0, rest)
    else do
      let negative ← if c = '+' then some false
        else if c = '-' ∨ c = '\u2212' then some true
        else none
      let (hours, rest) ← exactly? 2 rest
      let rest ← char? ':' rest
      let (minutes, rest) ← exactly? 2 rest
      if hours < 24 ∧ minutes < 60 then
        let m : Int := hours * 60 + minutes
        some (if negative then -m else m, rest)
      else none

def withOffset? (cs : List Char) : Option Timestamp := do
  let (year, rest) ← exactly? 4 cs
  let rest ← char? '-' rest
  let (month, rest) ← exactly? 2 rest
  let rest ← char? '-' rest
  let (day, rest) ← exactly? 2 rest
  let rest ← (char? 'T' rest).or ((char? 't' rest).or (char? ' ' rest))
  let (hour, rest) ← exactly? 2 rest
  let rest ← char? ':' rest
  let (minute, rest) ← exactly? 2 rest
  let rest ← char? ':' rest
  let (second, rest) ← exactly? 2 rest
  let (nano, rest) ← (optionalFraction rest).toOption
  let (east, rest) ← offset? rest
  if rest = [] then
    let date ← Date.ofParts? year month day
    let (minute, second) ← clock? hour minute second
    some (earlierBy ⟨date, minute, second, nano⟩ east)
  else none

/-! ### Without an offset -/

/-- A number of at most `width` digits after blanks, up to `most` and from `least` on. -/
def bounded (width least most : Nat) (cs : List Char) : Except ReadError (Nat × List Char) :=
  match digitRun width (skipBlanks cs) with
  | ([], []) => .error .tooShort
  | ([], _) => .error .invalid
  | (run, rest) =>
    if least ≤ runValue run ∧ runValue run ≤ most then .ok (runValue run, rest)
    else .error .outOfRange

/-- A year: four digits at most, or any number of them behind a sign, within 32 bits. -/
def year (cs : List Char) : Except ReadError (Int × List Char) :=
  match skipBlanks cs with
  | '-' :: rest => (digitsUpTo 0x80000000 rest).map fun (n, rest) => (-(n : Int), rest)
  | '+' :: rest => (digitsUpTo 0x7FFFFFFF rest).map fun (n, rest) => ((n : Int), rest)
  | rest => (bounded 4 0 9999 rest).map fun (n, rest) => ((n : Int), rest)
where
  digitsUpTo (most : Nat) (cs : List Char) : Except ReadError (Nat × List Char) :=
    match digitRun cs.length cs with
    | ([], []) => .error .tooShort
    | ([], _) => .error .invalid
    | (run, rest) => if runValue run ≤ most then .ok (runValue run, rest) else .error .outOfRange

def literal (c : Char) : List Char → Except ReadError (List Char)
  | [] => .error .tooShort
  | d :: rest => if c = d then .ok rest else .error .invalid

/-- The years a date may have. -/
def inRange (year : Int) : Bool :=
  -262143 ≤ year && year ≤ 262142

/-- The form without an offset, with what separates date and time. -/
def naive (separator : List Char → Except ReadError (List Char)) (cs : List Char) :
    Except ReadError Timestamp := do
  let (y, rest) ← year cs
  let rest ← literal '-' rest
  let (month, rest) ← bounded 2 1 12 rest
  let rest ← literal '-' rest
  let (day, rest) ← bounded 2 1 31 rest
  let rest ← separator rest
  let (hour, rest) ← bounded 2 0 23 rest
  let rest ← literal ':' rest
  let (minute, rest) ← bounded 2 0 59 rest
  let rest ← literal ':' rest
  let (second, rest) ← bounded 2 0 60 rest
  let (nano, rest) ← optionalFraction rest
  if rest ≠ [] then .error .tooLong
  else if inRange y then
    match Date.ofParts? y month day, clock? hour minute second with
    | some date, some (minute, second) => .ok ⟨date, minute, second, nano⟩
    | _, _ => .error .outOfRange
  else .error .outOfRange

def readChars (cs : List Char) : Except ReadError Timestamp :=
  match withOffset? cs with
  | some t => .ok t
  | none =>
    match naive (literal 'T') cs with
    | .ok t => .ok t
    | .error _ => naive (fun rest => .ok (skipBlanks rest)) cs

def read (s : String) : Except ReadError Timestamp :=
  readChars s.toList

/-- A timestamp in a JSON string; `null` is none. -/
def decoder : Json.Decoder (Option Timestamp) :=
  Json.Decoder.optional
    (.spelled read (fun s e => "invalid timestamp `" ++ s ++ "`: " ++ e.message) "a string")

end CloudApi.Timestamp
