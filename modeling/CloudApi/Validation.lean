import CloudApi.Text.Numeral
import CloudApi.Url.Reference

/-! Checks on values before they are used.

A check finds what is wrong field by field, in the order of the fields; a value is valid when
nothing is found. -/
namespace CloudApi.Validation

open Text

/-- What is wrong with a value. -/
inductive Fault where
  /-- The number of characters is not within the bounds. -/
  | length (least greatest : Nat) (value : String)
  | range (least : Nat) (greatest : Option Nat) (value : Nat)
  | url (value : String)
  /-- The fields of a request for a volume do not fit its source. -/
  | sourceMismatch
  deriving DecidableEq

/-- A fault and the fields that lead to the value. A fault of a whole record has no field. -/
structure Finding where
  path : List String
  fault : Fault
  deriving DecidableEq

def length (field : String) (least greatest : Nat) (value : String) : List Finding :=
  if least ≤ value.length ∧ value.length ≤ greatest then []
  else [⟨[field], .length least greatest value⟩]

def range (field : String) (least : Nat) (greatest : Option Nat) (value : Nat) : List Finding :=
  if least ≤ value ∧ greatest.all (value ≤ ·) then []
  else [⟨[field], .range least greatest value⟩]

def url (field : String) (value : String) : List Finding :=
  match Url.parse value with
  | .ok _ => []
  | .error _ => [⟨[field], .url value⟩]

/-- What is found in the record under a field. -/
def nested (field : String) (findings : List Finding) : List Finding :=
  findings.map fun f => { f with path := field :: f.path }

def Fault.name : Fault → String
  | length .. => "length"
  | range .. => "range"
  | url _ => "url"
  | sourceMismatch => "source_mismatch"

/-- A finding in a line, cut to the name of the fault: the parameters of the fault, which are shown
behind it in no fixed order, are left out. -/
def Finding.message (f : Finding) : String :=
  (if f.path.isEmpty then "__all__" else ".".intercalate f.path) ++ ": Validation error: " ++
    f.fault.name

/-- All findings, a line each. -/
def summary (findings : List Finding) : String :=
  "\n".intercalate (findings.map Finding.message)

end CloudApi.Validation
