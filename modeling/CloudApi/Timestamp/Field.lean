import CloudApi.Json.Record
import CloudApi.Timestamp.Reader

/-! Timestamps as fields of records. -/
namespace CloudApi.Timestamp

/-- A time that may be absent or `null`, and is left out then. -/
def field (key : String) : Json.Field (Option Timestamp) :=
  ⟨key, decoder, some none, fun t => t.map fun t => .string t.text⟩

end CloudApi.Timestamp
