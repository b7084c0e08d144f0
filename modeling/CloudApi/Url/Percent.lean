import CloudApi.Text.Numeral
import CloudApi.Text.Utf8

/-! Percent encoding.

A character outside an encoding set is written as it is, one inside as the bytes of its UTF-8
form, each a percent sign and two hexadecimal digits. Controls and everything beyond ASCII are
in every set; the sets below name the printable characters each part of a URL adds. -/
namespace CloudApi.Url.Percent

open Text

def triple (b : UInt8) : List Char :=
  ['%', Numeral.upperHex (b.toNat / 16), Numeral.upperHex (b.toNat % 16)]

def encodeChar (reserved : Char → Bool) (c : Char) : List Char :=
  if c.toNat < 0x20 ∨ 0x7F ≤ c.toNat ∨ reserved c then (Utf8.encodeChar c).flatMap triple
  else [c]

def encode (reserved : Char → Bool) (cs : List Char) : List Char :=
  cs.flatMap (encodeChar reserved)

/-- The bytes of a text, triples resolved; a percent sign that begins none stands for itself. -/
def decode : List Char → List UInt8
  | [] => []
  | '%' :: a :: b :: rest =>
    match Numeral.hexValue? a, Numeral.hexValue? b with
    | some x, some y => (x * 16 + y).toUInt8 :: decode rest
    | _, _ => 0x25 :: decode (a :: b :: rest)
  | c :: rest => Utf8.encodeChar c ++ decode rest

/-- Nothing printable: the set of hosts without a special scheme and of flat paths. -/
def controls (_ : Char) : Bool :=
  false

def fragment (c : Char) : Bool :=
  c == ' ' || c == '"' || c == '<' || c == '>' || c.toNat == 0x60

def query (c : Char) : Bool :=
  c == ' ' || c == '"' || c == '#' || c == '<' || c == '>'

/-- The query set of special schemes. -/
def specialQuery (c : Char) : Bool :=
  query c || c == '\''

def path (c : Char) : Bool :=
  fragment c || c == '#' || c == '?' || c == '\x7b' || c == '\x7d'

def userinfo (c : Char) : Bool :=
  path c || c == '/' || c == ':' || c == ';' || c == '=' || c == '@' || c == '[' ||
    c == '\\' || c == ']' || c == '^' || c == '|'

end CloudApi.Url.Percent
