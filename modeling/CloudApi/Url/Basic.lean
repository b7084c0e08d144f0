import CloudApi.Url.Domain
import CloudApi.Url.Percent

/-! URLs.

A URL is kept in the form it is written in: scheme and host in lower case, everything else
percent-encoded where its part requires, the port only where it is not the one of the scheme.
`text` writes it. -/
namespace CloudApi

namespace Url

open Text

inductive ParseError where
  | emptyHost | domain | port | ipv4 | ipv6 | hostCharacter | noBase | flatBase
  deriving DecidableEq

def ParseError.message : ParseError → String
  | emptyHost => "empty host"
  | domain => "invalid international domain name"
  | port => "invalid port number"
  | ipv4 => "invalid IPv4 address"
  | ipv6 => "invalid IPv6 address"
  | hostCharacter => "invalid domain character"
  | noBase => "relative URL without a base"
  | flatBase => "relative URL with a cannot-be-a-base base"

inductive Host where
  | name (cs : List Char)
  | ipv4 (address : BitVec 32)
  | ipv6 (pieces : List Nat)
  deriving DecidableEq

def Host.chars : Host → List Char
  | name cs => cs
  | ipv4 a => Address.ipv4Text a
  | ipv6 pieces => '[' :: (Address.ipv6Text pieces ++ [']'])

structure Authority where
  user : List Char
  /-- Empty for none. -/
  password : List Char
  /-- An empty name for none. -/
  host : Host
  port : Option (Fin 65536)
  deriving DecidableEq

def Authority.userinfo (a : Authority) : List Char :=
  if a.user.isEmpty ∧ a.password.isEmpty then []
  else if a.password.isEmpty then a.user ++ ['@']
  else a.user ++ ':' :: (a.password ++ ['@'])

def Authority.chars (a : Authority) : List Char :=
  a.userinfo ++ a.host.chars ++
    match a.port with
    | some p => ':' :: Numeral.decimal p.val
    | none => []

/-- A flat path is one text and no base for relative references; any other is a list of
segments, each behind a slash. -/
inductive Path where
  | flat (cs : List Char)
  | segments (list : List (List Char))
  deriving DecidableEq

def Path.chars : Path → List Char
  | flat cs => cs
  | segments list => list.flatMap ('/' :: ·)

end Url

structure Url where
  scheme : List Char
  authority : Option Url.Authority
  path : Url.Path
  query : Option (List Char)
  fragment : Option (List Char)
  deriving DecidableEq

namespace Url

def isFile (scheme : List Char) : Bool :=
  scheme == "file".toList

/-- The schemes whose URLs have an authority always, with the ports they imply. -/
def schemePort? (scheme : List Char) : Option (Fin 65536) :=
  if scheme = "http".toList ∨ scheme = "ws".toList then some 80
  else if scheme = "https".toList ∨ scheme = "wss".toList then some 443
  else if scheme = "ftp".toList then some 21
  else none

def isSpecial (scheme : List Char) : Bool :=
  isFile scheme || (schemePort? scheme).isSome

/-- What stands between the scheme and the path. A dot keeps a path that begins with an empty
segment from being read as an authority. -/
def opening (u : Url) : List Char :=
  match u.authority, u.path with
  | some a, _ => '/' :: '/' :: a.chars
  | none, .segments ([] :: _ :: _) => ['/', '.']
  | none, _ => []

def tail (mark : Char) : Option (List Char) → List Char
  | some cs => mark :: cs
  | none => []

def chars (u : Url) : List Char :=
  u.scheme ++ ':' :: (u.opening ++ u.path.chars ++ tail '?' u.query ++ tail '#' u.fragment)

def text (u : Url) : String :=
  String.ofList u.chars

def withoutFragment (u : Url) : Url :=
  { u with fragment := none }

end Url

end CloudApi
