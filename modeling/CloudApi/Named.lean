import CloudApi.Error
import CloudApi.Json.Decode
import CloudApi.Text.Caseless

/-! Types whose values have fixed names: read as text in any case of the letters, in JSON by the
exact name. -/
namespace CloudApi

structure Named (α : Type) where
  /-- What messages call a value of the type. -/
  noun : String
  all : List α
  name : α → String

namespace Named
variable {α : Type} (n : Named α)

open Text

def parse (s : String) : Except Error α :=
  match Caseless.find? n.name n.all s with
  | some a => .ok a
  | none => .error (.invalidRequest ("Unknown " ++ n.noun ++ ": " ++ s))

def decoder : Json.Decoder α :=
  .name (n.all.map fun a => (n.name a, a))

def encode (a : α) : Json :=
  .string (n.name a)

end Named

end CloudApi
