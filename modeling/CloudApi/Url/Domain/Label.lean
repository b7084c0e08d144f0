import CloudApi.Text.Composition
import CloudApi.Text.Direction
import CloudApi.Text.Joining
import CloudApi.Url.Domain.Folding
import CloudApi.Url.Punycode

/-! Labels of a domain name.

A label shows its own characters, or those that its Punycode stands for if it begins with `xn--`.
What it shows is folded and composed already, begins with no mark, and has a joiner only where one
changes how letters look. `ofText?` reads a label, `text` writes it in ASCII. In a name with a
letter that runs from right to left every label has to be `orderly`. -/
namespace CloudApi.Url.Domain

open Text

/-- The folded and composed form of a text; none if a character has no place in a name. -/
def normal? (cs : List Char) : Option (List Char) :=
  (cs.mapM fold?).map fun parts => composed parts.flatten

/-- The characters of ASCII that no name may hold: controls, the space, and those that delimit
the parts of a URL. -/
def isForbidden (c : Char) : Bool :=
  c.toNat ≤ 0x20 || c.toNat == 0x7F || "%#/:<>?@[\\]^|".toList.contains c

structure Label where
  /-- The label in characters of any script. -/
  shown : List Char
  /-- The label in ASCII. -/
  text : List Char
  deriving DecidableEq

namespace Label

/-- What a label in Punycode begins with. -/
def sign : List Char :=
  "xn--".toList

/-- The longest label that is written in Punycode, and the longest Punycode that is read. -/
def longestShown : Nat := 1000
def longestPunycode : Nat := 2000

/-- What a label shows. -/
def shown? (cs : List Char) : Option (List Char) :=
  if cs.take 4 = sign then
    let code := cs.drop 4
    if code.all Punycode.isBasic ∧ code.length ≤ longestPunycode then
      (Punycode.decode? code).filter fun shown => !shown.all Punycode.isBasic
    else none
  else some cs

/-! ### Joiners -/

def isJoiner (c : Char) : Bool :=
  c == '\u200c' || c == '\u200d'

/-- Whether a joiner may stand between what is before it, last character first, and what is behind
it: after a virama, and one that keeps letters apart also between letters that would join. -/
def joinerFits (joiner : Char) (before behind : List Char) : Bool :=
  match before with
  | [] => false
  | previous :: _ =>
    combiningClass previous == CombiningClass.virama ||
      joiner == '\u200c' &&
        (Joining.nearest? before).any (fun j => j = .left ∨ j = .both) &&
        (Joining.nearest? behind).any (fun j => j = .right ∨ j = .both)

/-- Whether all joiners in a text fit, behind what stands before it, last character first. -/
def joinersFit (before : List Char) : List Char → Bool
  | [] => true
  | c :: rest => (!isJoiner c || joinerFits c before rest) && joinersFit (c :: before) rest

/-! ### Reading -/

/-- What a label beyond ASCII may show. -/
def isSound (shown : List Char) : Bool :=
  normal? shown == some shown && !shown.any (fun c => isForbidden c || c == '.') &&
    !shown.head?.any isMark && joinersFit [] shown && shown.length ≤ longestShown

/-- A label from folded and composed text. -/
def ofText? (cs : List Char) : Option Label := do
  let shown ← shown? cs
  if shown.all Punycode.isBasic then some ⟨shown, cs⟩
  else if isSound shown then
    some ⟨shown, if cs.all Punycode.isBasic then cs else sign ++ Punycode.encode cs⟩
  else none

/-! ### Direction -/

/-- Whether a character runs from right to left, or the numbers that go with such characters.
There is none below the Hebrew letters. -/
def runsLeft (c : Char) : Bool :=
  0x590 ≤ c.toNat && (Direction.ofChar c = .right || Direction.ofChar c = .arabic)

/-- Whether the characters of a label stay together, whichever way the labels around it run: it
begins with a letter, holds letters of one direction, and ends in a letter or a digit. In a label
that runs from right to left digits are of one kind. -/
def isOrderly : List Direction → Bool
  | [] => true
  | first :: rest =>
    let body := (rest.reverse.dropWhile (· = .mark)).reverse
    match first with
    | .left =>
      body.all (fun d => d ≠ .right ∧ d ≠ .arabic) &&
        body.getLast?.all (fun d => d = .left ∨ d = .european)
    | .right =>
      body.all (· ≠ .left) && !(body.contains .european && body.contains .arabic) &&
        body.getLast?.all (fun d => d ≠ .neutral)
    | _ => false

def orderly (label : Label) : Bool :=
  isOrderly (label.shown.map Direction.ofChar)

end Label

end CloudApi.Url.Domain
