import CloudApi.Url.Basic
import CloudApi.Url.Drive

/-! Reading the path of a URL and what follows it.

A path is read part by part between slashes. A part that is a dot, written plainly or encoded, is
left out; two dots take the segment before with them, unless that begins with a drive. Only in a
file URL does a drive mean more: at the start of the path its bar becomes a colon. Texts here may
still hold line breaks and tabs. They count for nothing, except that one can part a drive from
the rest of its segment. -/
namespace CloudApi.Url

open Text

/-- Line breaks and tabs. -/
def isBreak (c : Char) : Bool :=
  c == '\t' || c == '\n' || c == '\r'

def unbroken (cs : List Char) : List Char :=
  cs.filter fun c => !isBreak c

/-- A slash; special schemes take a backslash for one. -/
def isSlash (special : Bool) (c : Char) : Bool :=
  c == '/' || (special && c == '\\')

/-! ### Query and fragment -/

/-- What a query and a fragment begin with. -/
def isTail (c : Char) : Bool :=
  c == '?' || c == '#'

def readFragment : List Char → Option (List Char)
  | '#' :: cs => some (Percent.encode Percent.fragment cs)
  | _ => none

/-- The URL with the query and the fragment that a text begins with. -/
def withTail (u : Url) : List Char → Url
  | '?' :: cs =>
    let (query, rest) := cs.span (· != '#')
    let reserved := if isSpecial u.scheme then Percent.specialQuery else Percent.query
    { u with query := some (Percent.encode reserved query), fragment := readFragment rest }
  | cs => { u with query := none, fragment := readFragment cs }

/-! ### Segments -/

/-- The parts between slashes, at least one. -/
def splitPath (special : Bool) : List Char → List (List Char)
  | [] => [[]]
  | c :: rest =>
    if isSlash special c then [] :: splitPath special rest
    else match splitPath special rest with
      | [] => [[c]]
      | part :: parts => (c :: part) :: parts

/-- A segment with encoded points resolved and letters in lower case, to be told from dots. -/
def unmasked : List Char → List Char
  | '%' :: '2' :: c :: rest =>
    if c = 'e' ∨ c = 'E' then '.' :: unmasked rest else '%' :: '2' :: c :: unmasked rest
  | c :: rest => c :: unmasked rest
  | [] => []

/-- The segments without the last; a drive stays. -/
def shorten (segments : List (List Char)) : List (List Char) :=
  if segments.getLast?.any Drive.begins then segments else segments.dropLast

/-- A drive that a break parts from the rest of its segment, and that rest. -/
def brokenDrive? (raw : List Char) : Option (List Char × List Char) :=
  match raw.dropWhile isBreak with
  | c :: raw => match raw.dropWhile isBreak with
    | d :: rest =>
      if Drive.isDrive [c, d] ∧ rest.head?.any isBreak ∧ unbroken rest ≠ [] then
        some ([c, d], unbroken rest)
      else none
    | [] => none
  | [] => none

def encodeSegment (raw : List Char) : List Char :=
  Percent.encode Percent.path (unbroken raw)

/-- The segments read so far. -/
structure Trail where
  segments : List (List Char)
  /-- Whether they begin with a drive, which leaves no room for a host. -/
  drive : Bool

/-- The trail of a file path after its first segment: a drive is named, and one that a break parts
from the rest of its segment becomes a segment of its own. -/
def Trail.start (raw : List Char) : Trail :=
  match brokenDrive? raw with
  | some (drive, rest) => ⟨[drive, encodeSegment rest], false⟩
  | none =>
    let segment := encodeSegment raw
    if Drive.isDrive segment then ⟨[Drive.named segment], true⟩ else ⟨[segment], false⟩

/-- Segments put behind those already there, dots resolved. -/
def resolve (file : Bool) (trail : Trail) : List (List Char) → Trail
  | [] => trail
  | raw :: rest =>
    let segment := encodeSegment raw
    let dots := unmasked segment
    if dots = ['.'] ∨ dots = ['.', '.'] then
      let kept := if dots = ['.'] then trail.segments else shorten trail.segments
      resolve file { trail with segments := if rest.isEmpty then kept ++ [[]] else kept } rest
    else if file ∧ trail.segments = [] then resolve file (Trail.start raw) rest
    else resolve file { trail with segments := trail.segments ++ [segment] } rest

/-- Segments of a file path put behind those already there, the first of them behind the text of
the last one. Dots in its place stand for themselves: there is no slash before them. -/
def extend (done : List (List Char)) (last : List Char) : List (List Char) → Trail
  | [] => ⟨done ++ [last], false⟩
  | raw :: rest =>
    let segment := encodeSegment raw
    let dots := unmasked segment
    if dots = ['.'] ∧ rest = [] then ⟨done ++ [last, []], false⟩
    else if dots = ['.'] ∨ dots = ['.', '.'] then resolve true ⟨done ++ [last], false⟩ rest
    else resolve true ⟨done ++ [last ++ segment], false⟩ rest

/-- The segments of a file path lose the empty ones in front. -/
def withoutLeading (file : Bool) (segments : List (List Char)) : List (List Char) :=
  if file then
    match segments.dropWhile (·.isEmpty) with
    | [] => [[]]
    | rest => rest
  else segments

/-! ### Paths in a URL -/

/-- The URL with the path, query and fragment in a text, and whether the path begins with a drive.
The path is read from its parts by `read`. -/
def readPath (u : Url) (read : List (List Char) → Trail) (cs : List Char) : Url × Bool :=
  let (text, rest) := cs.span fun c => !isTail c
  let trail := read (splitPath (isSpecial u.scheme) text)
  let segments := withoutLeading (isFile u.scheme) trail.segments
  (withTail { u with path := .segments segments } (unbroken rest), trail.drive)

/-- The URL with a path read behind the segments it has, and the rest of the text. -/
def withPath (u : Url) (done : List (List Char)) (cs : List Char) : Url :=
  (u.readPath (resolve (isFile u.scheme) ⟨done, false⟩) cs).1

/-- The same URL with a path that ends in a slash; the path with its slash is read again. A flat
path cannot begin with a slash: where it would, the slash is encoded. -/
def withFinalSlash (u : Url) : Url :=
  if u.path.chars.getLast? = some '/' then u
  else
    { u with path := match u.path with
      | .flat [] => .flat "%2F".toList
      | .flat cs => .flat (cs ++ ['/'])
      | .segments list =>
        let file := isFile u.scheme
        .segments (withoutLeading file (resolve file ⟨[], false⟩ (list ++ [[]])).segments) }

/-- The URL with the path that follows an authority. -/
def withRootPath (u : Url) (cs : List Char) : Url :=
  let special := isSpecial u.scheme
  match cs with
  | [] => if special then u.withPath [] [] else withTail { u with path := .segments [] } []
  | c :: rest =>
    if isSlash special c then u.withPath [] rest
    else if !special && isTail c then withTail { u with path := .segments [] } cs
    else u.withPath [] cs

end CloudApi.Url
