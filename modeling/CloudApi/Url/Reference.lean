import CloudApi.Url.File

/-! Reading URLs and resolving references.

`parse` reads an absolute URL, `join` a reference against a base. Blanks and controls around a
text and line breaks and tabs inside it count for nothing. A reference without a scheme takes
from the base, in this order, the scheme, the authority, the path up to its last slash and the
query, as far as it begins too late to give them itself. -/
namespace CloudApi.Url

open Text

/-- A text without the blanks and controls around it. -/
def trimmed (cs : List Char) : List Char :=
  let outer (c : Char) : Bool := c.toNat ≤ 0x20
  ((cs.dropWhile outer).reverse.dropWhile outer).reverse

def isSchemeChar (c : Char) : Bool :=
  isLetter c || Numeral.isDigit c || c == '+' || c == '-' || c == '.'

/-- The scheme before a colon, and what follows. -/
def scheme? (cs : List Char) : Option (List Char × List Char) :=
  let (name, rest) := cs.span isSchemeChar
  match name, rest with
  | c :: _, ':' :: rest => if isLetter c then some (name.map Caseless.lower, rest) else none
  | _, _ => none

/-- A reference without a scheme against a base with segments. -/
def readRelative (base : Url) (cs : List Char) : Except ParseError Url :=
  match cs with
  | [] => .ok base.withoutFragment
  | c :: rest =>
    if c = '#' then .ok { base with fragment := readFragment cs }
    else if c = '?' then .ok (withTail base cs)
    else if c = '/' ∧ rest.head? = some '/' then afterSlashes base.scheme (rest.drop 1)
    else if isSlash true c then
      if rest.head?.any (isSlash true) then
        afterSlashes base.scheme (rest.dropWhile (isSlash true))
      else .ok (base.withPath [] rest)
    else match base.path with
      | .segments list => .ok (base.withPath list.dropLast cs)
      | .flat _ => .error .flatBase

/-- What follows a scheme that is not special. -/
def readOther (scheme : List Char) (cs : List Char) : Except ParseError Url :=
  let u : Url := ⟨scheme, none, .flat [], none, none⟩
  match cs with
  | '/' :: '/' :: rest => afterSlashes scheme rest
  | '/' :: rest => .ok (u.withPath [] rest)
  | cs =>
    let (text, rest) := cs.span fun c => !isTail c
    .ok (withTail { u with path := .flat (Percent.encode Percent.controls text) } rest)

/-- What follows a scheme that is not the one of files. -/
def readScheme (base : Option Url) (scheme : List Char) (cs : List Char) : Except ParseError Url :=
  if isSpecial scheme then
    let slashes := (cs.takeWhile (isSlash true)).length
    match base with
    | some b =>
      if slashes < 2 ∧ b.scheme = scheme then readRelative b cs
      else afterSlashes scheme (cs.drop slashes)
    | none => afterSlashes scheme (cs.drop slashes)
  else readOther scheme cs

def isFlat (u : Url) : Bool :=
  match u.path with
  | .flat _ => true
  | .segments _ => false

/-- A URL or a reference against a base, if there is one. -/
def read (base : Option Url) (cs : List Char) : Except ParseError Url :=
  let raw := trimmed cs
  let cs := unbroken raw
  match scheme? cs, base with
  | some (scheme, rest), _ =>
    if isFile scheme then
      readFile (base.filter fun b => isFile b.scheme) ((raw.dropWhile (· != ':')).drop 1)
    else readScheme base scheme rest
  | none, none => .error .noBase
  | none, some b =>
    if cs.head? = some '#' then .ok { b with fragment := readFragment cs }
    else if b.isFlat then .error .flatBase
    else if isFile b.scheme then readFile (some b) raw
    else readRelative b cs

def parse (s : String) : Except ParseError Url :=
  read none s.toList

/-- The URL that a reference names, seen from this one. -/
def join (base : Url) (reference : String) : Except ParseError Url :=
  read (some base) reference.toList

end CloudApi.Url
