/-! UTF-8.

`encode` writes characters as bytes. `decode` reads bytes back and never fails: where the
bytes stop being UTF-8 it writes one replacement character for the longest start of a
sequence it had accepted, and goes on at the byte that broke it. `decode?` is the strict
reader. -/
namespace CloudApi.Text.Utf8

/-- The bytes of one character. -/
def encodeChar (c : Char) : List UInt8 :=
  let n := c.toNat
  if n < 0x80 then [n.toUInt8]
  else if n < 0x800 then [(0xC0 + n / 0x40).toUInt8, (0x80 + n % 0x40).toUInt8]
  else if n < 0x10000 then
    [(0xE0 + n / 0x1000).toUInt8, (0x80 + n / 0x40 % 0x40).toUInt8, (0x80 + n % 0x40).toUInt8]
  else
    [(0xF0 + n / 0x40000).toUInt8, (0x80 + n / 0x1000 % 0x40).toUInt8,
      (0x80 + n / 0x40 % 0x40).toUInt8, (0x80 + n % 0x40).toUInt8]

def encode (cs : List Char) : List UInt8 :=
  cs.flatMap encodeChar

/-- The bytes of a string. -/
def ofString (s : String) : List UInt8 :=
  encode s.toList

/-- A sequence begun: the bits read so far, the continuation bytes owed, and the least and
the greatest byte the next one may be. -/
structure Pending where
  bits : Nat
  owed : Nat
  least : UInt8
  greatest : UInt8

/-- What a byte starts between characters. -/
inductive Lead where
  | char (c : Char)
  | pending (p : Pending)
  | invalid

def lead (b : UInt8) : Lead :=
  if b < 0x80 then .char (Char.ofNat b.toNat)
  else if 0xC2 ≤ b ∧ b ≤ 0xDF then .pending ⟨b.toNat - 0xC0, 1, 0x80, 0xBF⟩
  else if b = 0xE0 then .pending ⟨0, 2, 0xA0, 0xBF⟩
  else if b = 0xED then .pending ⟨0xD, 2, 0x80, 0x9F⟩
  else if 0xE1 ≤ b ∧ b ≤ 0xEF then .pending ⟨b.toNat - 0xE0, 2, 0x80, 0xBF⟩
  else if b = 0xF0 then .pending ⟨0, 3, 0x90, 0xBF⟩
  else if 0xF1 ≤ b ∧ b ≤ 0xF3 then .pending ⟨b.toNat - 0xF0, 3, 0x80, 0xBF⟩
  else if b = 0xF4 then .pending ⟨4, 3, 0x80, 0x8F⟩
  else .invalid

/-- Where a reader stands after a byte: the characters it wrote, `none` for a byte sequence
that is no character, and the sequence it is in. -/
structure Step where
  written : List (Option Char)
  state : Option Pending

def start (b : UInt8) : Step :=
  match lead b with
  | .char c => ⟨[some c], none⟩
  | .pending p => ⟨[], some p⟩
  | .invalid => ⟨[none], none⟩

/-- One byte more. A byte outside the bounds ends the sequence as invalid and starts anew. -/
def step (state : Option Pending) (b : UInt8) : Step :=
  match state with
  | none => start b
  | some p =>
    if p.least ≤ b ∧ b ≤ p.greatest then
      let bits := p.bits * 0x40 + (b.toNat - 0x80)
      if p.owed = 1 then ⟨[some (Char.ofNat bits)], none⟩
      else ⟨[], some ⟨bits, p.owed - 1, 0x80, 0xBF⟩⟩
    else
      let again := start b
      ⟨none :: again.written, again.state⟩

/-- The characters of a byte sequence, `none` where it is not UTF-8. -/
def scan (state : Option Pending) : List UInt8 → List (Option Char)
  | [] => if state.isSome then [none] else []
  | b :: rest =>
    let s := step state b
    s.written ++ scan s.state rest

/-- The replacement character, U+FFFD. -/
def replacement : Char := Char.ofNat 0xFFFD

def decode (bytes : List UInt8) : List Char :=
  (scan none bytes).map fun c => c.getD replacement

/-- The characters of a byte sequence that is UTF-8 throughout. -/
def decode? (bytes : List UInt8) : Option (List Char) :=
  (scan none bytes).mapM id

end CloudApi.Text.Utf8
