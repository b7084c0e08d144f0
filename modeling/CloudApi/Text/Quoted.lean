import CloudApi.Text.Numeral
import CloudApi.Text.Printable

/-! Quoted text, as messages show a string they were given: between double quotes, with the
quote, the backslash and the named controls behind a backslash and every other character
that would not show written by its code point. -/
namespace CloudApi.Text.Quoted

def escape (c : Char) : List Char :=
  if c = '\x00' then ['\\', '0']
  else if c = '\t' then ['\\', 't']
  else if c = '\n' then ['\\', 'n']
  else if c = '\r' then ['\\', 'r']
  else if c = '"' then ['\\', '"']
  else if c = '\\' then ['\\', '\\']
  else if Printable.isPrintable c then [c]
  else ['\\', 'u', '\x7b'] ++ Numeral.hex c.toNat ++ ['\x7d']

def quote (s : String) : String :=
  String.ofList ('"' :: (s.toList.flatMap escape ++ ['"']))

end CloudApi.Text.Quoted
