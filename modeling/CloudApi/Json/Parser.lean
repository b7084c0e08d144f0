import CloudApi.Json.Basic
import CloudApi.Text.Utf8

/-! The reader of JSON text.

A text is its bytes; a fault is reported with the line and the column, in bytes, of the byte
last taken or of the one looked at. Arrays and objects nest 127 deep. An integer that fits 64
bits stays one; any other number is a float, its digits beyond the 64 bits dropped and their
place kept in the exponent. -/
namespace CloudApi.Json.Parser

open Text Decimal

inductive Fault where
  | endOfList | endOfObject | endOfString | endOfValue
  | expectedColon | expectedListEnd | expectedObjectEnd | expectedIdent | expectedValue
  | invalidEscape | invalidNumber | outOfRange | invalidCodePoint | controlCharacter
  | keyNotString | loneSurrogate | trailingComma | trailingCharacters | endOfEscape
  | tooDeep
  deriving DecidableEq

def Fault.message : Fault → String
  | endOfList => "EOF while parsing a list"
  | endOfObject => "EOF while parsing an object"
  | endOfString => "EOF while parsing a string"
  | endOfValue => "EOF while parsing a value"
  | expectedColon => "expected `:`"
  | expectedListEnd => "expected `,` or `]`"
  | expectedObjectEnd => "expected `,` or `\x7d`"
  | expectedIdent => "expected ident"
  | expectedValue => "expected value"
  | invalidEscape => "invalid escape"
  | invalidNumber => "invalid number"
  | outOfRange => "number out of range"
  | invalidCodePoint => "invalid unicode code point"
  | controlCharacter => "control character (\\u0000-\\u001F) found while parsing a string"
  | keyNotString => "key must be a string"
  | loneSurrogate => "lone leading surrogate in hex escape"
  | trailingComma => "trailing comma"
  | trailingCharacters => "trailing characters"
  | endOfEscape => "unexpected end of hex escape"
  | tooDeep => "recursion limit exceeded"

/-- A fault and the bytes not yet taken when it was found. -/
structure Stop where
  fault : Fault
  rest : List UInt8

/-- A value read and the bytes after it. -/
structure Read (α : Type) where
  value : α
  rest : List UInt8

/-- A fault after the bytes taken. -/
def taken {α : Type} (fault : Fault) (rest : List UInt8) : Except Stop (Read α) :=
  .error ⟨fault, rest⟩

/-- A fault at the next byte, which counts as taken if there is one. -/
def looking {α : Type} (fault : Fault) (rest : List UInt8) : Except Stop (Read α) :=
  .error ⟨fault, rest.drop 1⟩

def isBlank (b : UInt8) : Bool :=
  b == 0x20 || b == 0x0A || b == 0x09 || b == 0x0D

def skipBlanks (bytes : List UInt8) : List UInt8 :=
  bytes.dropWhile isBlank

def byteDigit? (b : UInt8) : Option Nat :=
  if 0x30 ≤ b ∧ b ≤ 0x39 then some (b.toNat - 0x30) else none

/-! ### Numbers -/

def signed (negative : Bool) (x : Binary64) : Json :=
  .number (.float (x.withSign negative))

/-- The float `digits * 10 ^ e`. -/
def float (negative : Bool) (digits : Nat) (e : Int) (rest : List UInt8) : Except Stop (Read Json) :=
  match Binary64.ofDecimal? digits e with
  | some x => .ok ⟨signed negative x, rest⟩
  | none => taken .outOfRange rest

def dropDigits (bytes : List UInt8) : List UInt8 :=
  bytes.dropWhile fun b => (byteDigit? b).isSome

/-- The digits of an exponent up to `2 ^ 31 - 1`; a larger one is `none`. -/
def exponentDigits (acc : Nat) : List UInt8 → Option Nat × List UInt8
  | [] => (some acc, [])
  | b :: rest =>
    match byteDigit? b with
    | none => (some acc, b :: rest)
    | some d =>
      if 0x80000000 ≤ acc * 10 + d then (none, rest)
      else exponentDigits (acc * 10 + d) rest

/-- After the `e`: a sign, and one digit at least. -/
def exponent (negative : Bool) (digits : Nat) (e : Int) (bytes : List UInt8) : Except Stop (Read Json) :=
  let (down, bytes) := match bytes with
    | 0x2B :: rest => (false, rest)
    | 0x2D :: rest => (true, rest)
    | _ => (false, bytes)
  match bytes with
  | [] => taken .endOfValue []
  | b :: rest =>
    match byteDigit? b with
    | none => taken .invalidNumber rest
    | some d =>
      match exponentDigits d rest with
      | (some x, rest) => float negative digits (if down then e - x else e + x) rest
      | (none, rest) =>
        if digits ≠ 0 ∧ !down then taken .outOfRange rest
        else .ok ⟨signed negative (.zero false), dropDigits rest⟩

/-- What may follow the digits: an exponent or nothing. -/
def afterDigits (negative : Bool) (digits : Nat) (e : Int) (bytes : List UInt8) : Except Stop (Read Json) :=
  match bytes with
  | 0x65 :: rest | 0x45 :: rest => exponent negative digits e rest
  | _ => float negative digits e bytes

/-- The digits after the point; those that no longer fit 64 bits are skipped. -/
def fractionDigits (digits : Nat) (places : Nat) : List UInt8 → Nat × Nat × List UInt8
  | [] => (digits, places, [])
  | b :: rest =>
    match byteDigit? b with
    | none => (digits, places, b :: rest)
    | some d =>
      if 0x10000000000000000 ≤ digits * 10 + d then (digits, places, dropDigits rest)
      else fractionDigits (digits * 10 + d) (places + 1) rest

/-- After the point: one digit at least, unless the digits before it overflowed. -/
def fraction (negative : Bool) (digits : Nat) (e : Int) (bytes : List UInt8) : Except Stop (Read Json) :=
  match bytes with
  | [] => taken .endOfValue []
  | b :: _ =>
    match byteDigit? b with
    | none => looking .invalidNumber bytes
    | some _ =>
      let (digits, places, rest) := fractionDigits digits 0 bytes
      afterDigits negative digits (e - places) rest

/-- An integer that ended: a float when it is `-0` or below `-2 ^ 63`. -/
def integer (negative : Bool) (n : Nat) : Json :=
  if negative then
    if h : 0 < n ∧ n ≤ 0x8000000000000000 then .number (.negative ⟨n - 1, by omega⟩)
    else signed true (.ofNat n)
  else nat n.toUInt64

/-- Digits beyond 64 bits count in the exponent only. -/
def longInteger (negative : Bool) (digits : Nat) (e : Int) : List UInt8 → Except Stop (Read Json)
  | [] => float negative digits e []
  | b :: rest =>
    if (byteDigit? b).isSome then longInteger negative digits (e + 1) rest
    else if b = 0x2E then fraction negative digits e rest
    else afterDigits negative digits e (b :: rest)

def integerDigits (negative : Bool) (acc : Nat) : List UInt8 → Except Stop (Read Json)
  | [] => .ok ⟨integer negative acc, []⟩
  | b :: rest =>
    match byteDigit? b with
    | some d =>
      if 0x10000000000000000 ≤ acc * 10 + d then longInteger negative acc 1 rest
      else integerDigits negative (acc * 10 + d) rest
    | none =>
      if b = 0x2E then fraction negative acc 0 rest
      else if b = 0x65 ∨ b = 0x45 then exponent negative acc 0 rest
      else .ok ⟨integer negative acc, b :: rest⟩

/-- A number after its sign. A leading zero stands alone before the point. -/
def number (negative : Bool) (bytes : List UInt8) : Except Stop (Read Json) :=
  match bytes with
  | [] => taken .endOfValue []
  | b :: rest =>
    match byteDigit? b with
    | none => taken .invalidNumber rest
    | some 0 =>
      match rest with
      | c :: _ =>
        if (byteDigit? c).isSome then looking .invalidNumber rest
        else integerDigits negative 0 rest
      | [] => integerDigits negative 0 []
    | some d => integerDigits negative d rest

/-! ### Strings -/

def hexByte? (b : UInt8) : Option Nat :=
  Numeral.hexValue? (Char.ofNat b.toNat)

/-- Four hexadecimal digits. -/
def hexEscape (bytes : List UInt8) : Except Stop (Read Nat) :=
  match bytes with
  | a :: b :: c :: d :: rest =>
    match hexByte? a, hexByte? b, hexByte? c, hexByte? d with
    | some a, some b, some c, some d => .ok ⟨a * 4096 + b * 256 + c * 16 + d, rest⟩
    | _, _, _, _ => taken .invalidEscape rest
  | _ => taken .endOfString []

/-- The byte that must come next inside an escaped pair. -/
def pairByte (want : UInt8) (bytes : List UInt8) : Except Stop (Read Unit) :=
  match bytes with
  | [] => taken .endOfString []
  | b :: rest => if b = want then .ok ⟨(), rest⟩ else taken .endOfEscape rest

/-- The character after a backslash and a `u`; those beyond U+FFFF are pairs. -/
def unicodeEscape (bytes : List UInt8) : Except Stop (Read Char) := do
  let ⟨n, rest⟩ ← hexEscape bytes
  if 0xDC00 ≤ n ∧ n ≤ 0xDFFF then taken .loneSurrogate rest
  else if n < 0xD800 ∨ 0xDBFF < n then .ok ⟨Char.ofNat n, rest⟩
  else
    let ⟨_, rest⟩ ← pairByte 0x5C rest
    let ⟨_, rest⟩ ← pairByte 0x75 rest
    let ⟨m, rest⟩ ← hexEscape rest
    if m < 0xDC00 ∨ 0xDFFF < m then taken .loneSurrogate rest
    else .ok ⟨Char.ofNat ((n - 0xD800) * 0x400 + (m - 0xDC00) + 0x10000), rest⟩

/-- What follows a backslash. -/
def escaped (bytes : List UInt8) : Except Stop (Read Char) :=
  match bytes with
  | [] => taken .endOfString []
  | b :: rest =>
    if b = 0x22 then .ok ⟨'"', rest⟩
    else if b = 0x5C then .ok ⟨'\\', rest⟩
    else if b = 0x2F then .ok ⟨'/', rest⟩
    else if b = 0x62 then .ok ⟨'\x08', rest⟩
    else if b = 0x66 then .ok ⟨'\x0c', rest⟩
    else if b = 0x6E then .ok ⟨'\n', rest⟩
    else if b = 0x72 then .ok ⟨'\r', rest⟩
    else if b = 0x74 then .ok ⟨'\t', rest⟩
    else if b = 0x75 then unicodeEscape rest
    else taken .invalidEscape rest

/-- The bytes of a string up to its closing quote, escapes resolved, last byte first. The fuel
is the number of bytes left, of which every step takes one at least. -/
def stringBytes (acc : List UInt8) : Nat → List UInt8 → Except Stop (Read (List UInt8))
  | 0, bytes => taken .endOfString bytes
  | _ + 1, [] => taken .endOfString []
  | fuel + 1, b :: rest =>
    if b = 0x22 then .ok ⟨acc, rest⟩
    else if b = 0x5C then do
      let ⟨c, rest⟩ ← escaped rest
      stringBytes ((Utf8.encodeChar c).reverse ++ acc) fuel rest
    else if b < 0x20 then taken .controlCharacter rest
    else stringBytes (b :: acc) fuel rest

/-- A string after its opening quote. -/
def text (bytes : List UInt8) : Except Stop (Read String) := do
  let ⟨reversed, rest⟩ ← stringBytes [] (bytes.length + 1) bytes
  match Utf8.decode? reversed.reverse with
  | some cs => .ok ⟨String.ofList cs, rest⟩
  | none => taken .invalidCodePoint rest

/-! ### Values -/

/-- The rest of a literal name. -/
def ident (name : List UInt8) (v : Json) (bytes : List UInt8) : Except Stop (Read Json) :=
  match name, bytes with
  | [], rest => .ok ⟨v, rest⟩
  | _ :: _, [] => taken .endOfValue []
  | n :: name, b :: rest => if n = b then ident name v rest else taken .expectedIdent rest

/-- The items after an opening bracket, last one first. -/
def items (value : List UInt8 → Except Stop (Read Json)) (acc : List Json) :
    Nat → List UInt8 → Except Stop (Read (List Json))
  | 0, bytes => looking .endOfList bytes
  | fuel + 1, bytes =>
    match skipBlanks bytes with
    | [] => looking .endOfList []
    | 0x5D :: rest => .ok ⟨acc, rest⟩
    | b :: rest =>
      if acc.isEmpty then do
        let ⟨v, rest⟩ ← value (b :: rest)
        items value (v :: acc) fuel rest
      else if b = 0x2C then
        match skipBlanks rest with
        | [] => looking .endOfValue []
        | 0x5D :: rest => looking .trailingComma (0x5D :: rest)
        | rest => do
          let ⟨v, rest⟩ ← value rest
          items value (v :: acc) fuel rest
      else looking .expectedListEnd (b :: rest)

/-- A field: its key after the opening quote, a colon and a value. -/
def field (value : List UInt8 → Except Stop (Read Json)) (bytes : List UInt8) : Except Stop (Read (String × Json)) := do
  let ⟨key, rest⟩ ← text bytes
  match skipBlanks rest with
  | [] => looking .endOfObject []
  | 0x3A :: rest =>
    let ⟨v, rest⟩ ← value rest
    .ok ⟨(key, v), rest⟩
  | rest => looking .expectedColon rest

/-- The fields after an opening brace, last one first. -/
def fields (value : List UInt8 → Except Stop (Read Json)) (acc : List (String × Json)) :
    Nat → List UInt8 → Except Stop (Read (List (String × Json)))
  | 0, bytes => looking .endOfObject bytes
  | fuel + 1, bytes =>
    match skipBlanks bytes with
    | [] => looking .endOfObject []
    | 0x7D :: rest => .ok ⟨acc, rest⟩
    | b :: rest =>
      if acc.isEmpty then
        if b = 0x22 then do
          let ⟨f, rest⟩ ← field value rest
          fields value (f :: acc) fuel rest
        else looking .keyNotString (b :: rest)
      else if b = 0x2C then
        match skipBlanks rest with
        | [] => looking .endOfValue []
        | 0x22 :: rest => do
          let ⟨f, rest⟩ ← field value rest
          fields value (f :: acc) fuel rest
        | 0x7D :: rest => looking .trailingComma (0x7D :: rest)
        | rest => looking .keyNotString rest
      else looking .expectedObjectEnd (b :: rest)

/-- A value that may hold arrays and objects to the given depth. -/
def value : Nat → List UInt8 → Except Stop (Read Json)
  | depth, bytes =>
    match skipBlanks bytes with
    | [] => looking .endOfValue []
    | b :: rest =>
      if b = 0x6E then ident [0x75, 0x6C, 0x6C] .null rest
      else if b = 0x74 then ident [0x72, 0x75, 0x65] (.bool true) rest
      else if b = 0x66 then ident [0x61, 0x6C, 0x73, 0x65] (.bool false) rest
      else if b = 0x2D then number true rest
      else if (byteDigit? b).isSome then number false (b :: rest)
      else if b = 0x22 then do
        let ⟨s, rest⟩ ← text rest
        .ok ⟨.string s, rest⟩
      else if b = 0x5B then
        match depth with
        | 0 => looking .tooDeep (b :: rest)
        | depth + 1 => do
          let ⟨vs, rest⟩ ← items (value depth) [] (rest.length + 1) rest
          .ok ⟨.array vs.reverse, rest⟩
      else if b = 0x7B then
        match depth with
        | 0 => looking .tooDeep (b :: rest)
        | depth + 1 => do
          let ⟨fs, rest⟩ ← fields (value depth) [] (rest.length + 1) rest
          .ok ⟨ofFields fs.reverse, rest⟩
      else looking .expectedValue (b :: rest)

/-- How deep arrays and objects nest. -/
def depthLimit : Nat := 127

/-- Why a text is not JSON, and where. -/
structure ParseError where
  fault : Fault
  line : Nat
  column : Nat
  deriving DecidableEq

def ParseError.message (e : ParseError) : String :=
  e.fault.message ++ " at line " ++ Numeral.decimalText e.line ++ " column " ++
    Numeral.decimalText e.column

/-- Lines and columns after the given bytes: lines count from one, a column the bytes since the
last line end. -/
def position (bytes : List UInt8) : Nat × Nat :=
  bytes.foldl
    (fun place (b : UInt8) => if b = 0x0A then (place.1 + 1, 0) else (place.1, place.2 + 1)) (1, 0)

def ParseError.ofStop (bytes : List UInt8) (stop : Stop) : ParseError :=
  let (line, column) := position (bytes.take (bytes.length - stop.rest.length))
  ⟨stop.fault, line, column⟩

/-- One value and nothing but blanks after it. -/
def parse (bytes : List UInt8) : Except ParseError Json :=
  match value depthLimit bytes with
  | .error stop => .error (.ofStop bytes stop)
  | .ok ⟨v, rest⟩ =>
    match skipBlanks rest with
    | [] => .ok v
    | _ :: rest => .error (.ofStop bytes ⟨.trailingCharacters, rest⟩)

def parseText (s : String) : Except ParseError Json :=
  parse (Utf8.ofString s)

end CloudApi.Json.Parser
