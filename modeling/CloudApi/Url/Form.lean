import CloudApi.Text.Utf8
import CloudApi.Url.Basic

/-! Queries as lists of pairs.

A query holds pairs between ampersands, each with an equals sign after its key. Letters, digits
and `*-._` stand for themselves, a plus sign for a space, and everything else is written in
percent encoding. Reading never fails: a pair may lack the equals sign, an empty pair counts for
nothing, and bytes that are not UTF-8 read as replacement characters. -/
namespace CloudApi.Url

open Text

namespace Form

/-- The bytes that stand for themselves. -/
def isPlain (b : UInt8) : Bool :=
  (0x30 ≤ b && b ≤ 0x39) || (0x41 ≤ b && b ≤ 0x5A) || (0x61 ≤ b && b ≤ 0x7A) ||
    b == 0x2A || b == 0x2D || b == 0x2E || b == 0x5F

def encodeByte (b : UInt8) : List Char :=
  if isPlain b then [Char.ofNat b.toNat]
  else if b = 0x20 then ['+']
  else Percent.triple b

def encode (s : String) : List Char :=
  (Utf8.ofString s).flatMap encodeByte

def decode (cs : List Char) : String :=
  String.ofList (Utf8.decode (Percent.decode (cs.map fun c => if c = '+' then ' ' else c)))

def encodePair (pair : String × String) : List Char :=
  encode pair.1 ++ '=' :: encode pair.2

def decodePair (cs : List Char) : String × String :=
  let (key, rest) := cs.span (· != '=')
  (decode key, decode (rest.drop 1))

/-- The pairs of a query, in order. -/
def pairs (query : List Char) : List (String × String) :=
  ((Address.splitOn '&' query).filter (!·.isEmpty)).map decodePair

/-- A query with one pair more. -/
def append (query : List Char) (pair : String × String) : List Char :=
  if query.isEmpty then encodePair pair else query ++ '&' :: encodePair pair

end Form

/-- The pairs of the query; no query has none. -/
def queryPairs (u : Url) : List (String × String) :=
  Form.pairs (u.query.getD [])

/-- The URL with pairs behind those it has. -/
def appendPairs (u : Url) (pairs : List (String × String)) : Url :=
  if pairs.isEmpty then u
  else { u with query := some (pairs.foldl Form.append (u.query.getD [])) }

/-- The URL without its query. A flat path loses the spaces at its end with it, where nothing
else follows that would set them off. -/
def withoutQuery (u : Url) : Url :=
  match u.path, u.fragment with
  | .flat cs, none =>
    { u with path := .flat (cs.reverse.dropWhile (· == ' ')).reverse, query := none }
  | _, _ => { u with query := none }

/-- The URL with one value for a key, in place of all it had, and behind the other pairs. -/
def replaceParam (u : Url) (key value : String) : Url :=
  let kept := u.queryPairs.filter fun pair => pair.1 != key
  u.withoutQuery.appendPairs (kept ++ [(key, value)])

/-- The first value of a key, if it is a 64-bit count. -/
def numericParam (u : Url) (key : String) : Option UInt64 := do
  let pair ← u.queryPairs.find? fun pair => pair.1 == key
  Numeral.uint64? pair.2.toList

end CloudApi.Url
