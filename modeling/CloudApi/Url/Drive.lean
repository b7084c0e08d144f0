/-! Drives: path segments that are a letter and a colon.

A bar may stand for the colon; a drive is `named` once it has its colon. -/
namespace CloudApi.Url

def isLetter (c : Char) : Bool :=
  ('a' ≤ c && c ≤ 'z') || ('A' ≤ c && c ≤ 'Z')

namespace Drive

def isDrive : List Char → Bool
  | [c, d] => isLetter c && (d == ':' || d == '|')
  | _ => false

def isNamed (segment : List Char) : Bool :=
  isDrive segment && segment.getLast? == some ':'

/-- A drive with its colon. -/
def named (segment : List Char) : List Char :=
  segment.take 1 ++ [':']

/-- Whether a segment begins with a drive that ends with it or at a backslash. -/
def begins (segment : List Char) : Bool :=
  isDrive (segment.take 2) && (segment.drop 2).head?.all (· == '\\')

end Drive

end CloudApi.Url
