import CloudApi.Url.Path

/-! Reading an authority: a host, with a user and a password before it and a port behind it. -/
namespace CloudApi.Url

open Text

/-- The text up to the last sign of a kind, and the text behind it. -/
def splitLast (mark : Char) (cs : List Char) : Option (List Char × List Char) :=
  if cs.contains mark then
    let behind := (cs.reverse.takeWhile (· != mark)).reverse
    some (cs.take (cs.length - behind.length - 1), behind)
  else none

/-- The host up to a colon that is not in brackets, and the rest. -/
def splitHost (bracketed : Bool) : List Char → List Char × List Char
  | [] => ([], [])
  | c :: rest =>
    if c = ':' ∧ !bracketed then ([], c :: rest)
    else
      let (host, rest) := splitHost (if c = '[' then true else if c = ']' then false else bracketed) rest
      (c :: host, rest)

def readIpv6 (cs : List Char) : Except ParseError Host :=
  if cs.getLast? = some ']' then
    match Address.ipv6? (cs.drop 1).dropLast with
    | some pieces => .ok (.ipv6 pieces)
    | none => .error .ipv6
  else .error .ipv6

/-- A host of a special scheme: an address or a domain name. -/
def readDomain (cs : List Char) : Except ParseError Host :=
  match Domain.ascii? (Percent.decode cs) with
  | none => .error .domain
  | some [] => .error .emptyHost
  | some name =>
    if Address.endsInNumber name then
      match Address.ipv4? name with
      | some a => .ok (.ipv4 a)
      | none => .error .ipv4
    else .ok (.name name)

/-- What a host of any other scheme may not hold. -/
def isHostForbidden (c : Char) : Bool :=
  c == '\x00' || " #/:<>?@[\\]^|".toList.contains c

def readHost (special : Bool) (cs : List Char) : Except ParseError Host :=
  if cs.head? = some '[' then readIpv6 cs
  else if special then readDomain cs
  else if cs.any isHostForbidden then .error .hostCharacter
  else .ok (.name (Percent.encode Percent.controls cs))

/-- A port behind its colon: none if it is empty or implied by the scheme. A backslash ends it. -/
def readPort (scheme : List Char) (cs : List Char) :
    Except ParseError (Option (Fin 65536) × List Char) :=
  let (run, rest) := cs.span Numeral.isDigit
  if !(rest.isEmpty || rest.head? == some '\\') then .error .port
  else if run.isEmpty then .ok (none, rest)
  else match Numeral.value? run with
    | some n =>
      if h : n < 65536 then
        .ok (if schemePort? scheme = some ⟨n, h⟩ then none else some ⟨n, h⟩, rest)
      else .error .port
    | none => .error .port

/-- A host with an optional port, and what is left after it. -/
def readHostAndPort (scheme : List Char) (cs : List Char) :
    Except ParseError (Host × Option (Fin 65536) × List Char) := do
  let special := isSpecial scheme
  let (hostText, rest) := splitHost false cs
  if special && hostText.isEmpty then .error .emptyHost
  else
    let host ← readHost special hostText
    match rest with
    | ':' :: rest =>
      if host = .name [] then .error .emptyHost
      else
        let (port, rest) ← readPort scheme rest
        .ok (host, port, rest)
    | rest => .ok (host, none, rest)

/-- User and password, encoded. -/
def readUserinfo (cs : List Char) : List Char × List Char :=
  let (user, rest) := cs.span (· != ':')
  (Percent.encode Percent.userinfo user, Percent.encode Percent.userinfo (rest.drop 1))

/-- The URL behind the two slashes that announce an authority. -/
def afterSlashes (scheme : List Char) (cs : List Char) : Except ParseError Url := do
  let special := isSpecial scheme
  let (text, rest) := cs.span fun c => !(isSlash special c || isTail c)
  let (credentials, hostText) := (splitLast '@' text).getD ([], text)
  if text = ['@'] ∧ rest ≠ [] then .error .emptyHost
  else
    let (host, port, left) ← readHostAndPort scheme hostText
    let (user, password) := readUserinfo credentials
    if host = .name [] ∧ !(user.isEmpty && password.isEmpty) then .error .emptyHost
    else
      let authority : Authority := ⟨user, password, host, port⟩
      .ok (withRootPath ⟨scheme, some authority, .segments [], none, none⟩ (left ++ rest))

end CloudApi.Url
