import CloudApi.Url.Form

/-! Query parameters collected in order. -/
namespace CloudApi

structure Query where
  pairs : List (String × String)
  deriving DecidableEq

namespace Query

def empty : Query :=
  ⟨[]⟩

def isEmpty (q : Query) : Bool :=
  q.pairs.isEmpty

def push (q : Query) (key value : String) : Query :=
  ⟨q.pairs ++ [(key, value)]⟩

/-- A pair for a value that is there. -/
def pushOption (q : Query) (key : String) (value : Option String) : Query :=
  match value with
  | some value => q.push key value
  | none => q

/-- A pair for each value. -/
def pushAll (q : Query) (key : String) (values : List String) : Query :=
  ⟨q.pairs ++ values.map fun value => (key, value)⟩

/-- The URL with the parameters behind those it has. -/
def applyTo (q : Query) (u : Url) : Url :=
  u.appendPairs q.pairs

def boolText (b : Bool) : String :=
  if b then "true" else "false"

end Query

end CloudApi
