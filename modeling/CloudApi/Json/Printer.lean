import CloudApi.Json.Basic

/-! The compact text of a JSON value: no blanks, fields in the order of the object, and in
strings only the quote, the backslash and the controls escaped. -/
namespace CloudApi.Json

open Text

def escape (c : Char) : List Char :=
  if c = '"' then ['\\', '"']
  else if c = '\\' then ['\\', '\\']
  else if c = '\x08' then ['\\', 'b']
  else if c = '\x0c' then ['\\', 'f']
  else if c = '\n' then ['\\', 'n']
  else if c = '\r' then ['\\', 'r']
  else if c = '\t' then ['\\', 't']
  else if c.toNat < 0x20 then
    ['\\', 'u', '0', '0', Numeral.lowerHex (c.toNat / 16), Numeral.lowerHex (c.toNat % 16)]
  else [c]

def quoted (s : String) : List Char :=
  '"' :: (s.toList.flatMap escape ++ ['"'])

def Number.render : Number → List Char
  | .natural n => Numeral.decimal n.toNat
  | .negative m => '-' :: Numeral.decimal (m.val + 1)
  | .float x => x.text

mutual

def render : Json → List Char
  | .null => ['n', 'u', 'l', 'l']
  | .bool true => ['t', 'r', 'u', 'e']
  | .bool false => ['f', 'a', 'l', 's', 'e']
  | .number n => n.render
  | .string s => quoted s
  | .array items => '[' :: (renderItems items ++ [']'])
  | .object fields => '\x7b' :: (renderFields fields ++ ['\x7d'])

/-- Items with commas between them. -/
def renderItems : List Json → List Char
  | [] => []
  | [v] => render v
  | v :: rest => render v ++ ',' :: renderItems rest

/-- Fields with commas between them. -/
def renderFields : List (String × Json) → List Char
  | [] => []
  | [(k, v)] => quoted k ++ ':' :: render v
  | (k, v) :: rest => quoted k ++ ':' :: (render v ++ ',' :: renderFields rest)

end

def text (v : Json) : String :=
  String.ofList v.render

end CloudApi.Json
