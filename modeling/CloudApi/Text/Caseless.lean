import CloudApi.Text.Lowercase

/-! Names read without regard to the case of letters. -/
namespace CloudApi.Text.Caseless

/-- Capitals of ASCII become small letters. -/
def lower (c : Char) : Char :=
  if 'A' ≤ c ∧ c ≤ 'Z' then Char.ofNat (c.toNat + 32) else c

/-- Whether a text in small letters is a name. -/
def spells (name text : String) : Bool :=
  Lowercase.text text.toList == name.toList

/-- The first value whose name a text spells. -/
def find? {α : Type} (name : α → String) (values : List α) (text : String) : Option α :=
  values.find? fun a => spells (name a) text

/-- The capitals of ASCII in place of its small letters. -/
def capitals (text : String) : List Char :=
  text.toList.map fun c => if 'a' ≤ c ∧ c ≤ 'z' then Char.ofNat (c.toNat - 32) else c

end CloudApi.Text.Caseless
