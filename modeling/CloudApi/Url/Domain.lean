import CloudApi.Text.Utf8
import CloudApi.Url.Address
import CloudApi.Url.Domain.Label

/-! Domain names in their ASCII form.

A name is folded and composed as a whole and then read label by label; the dots of other scripts
part labels too. -/
namespace CloudApi.Url.Domain

open Text

/-- The labels of a name. Where one runs from right to left, all are orderly. -/
def labels? (cs : List Char) : Option (List Label) := do
  let name ← normal? cs
  if name.any isForbidden then none
  else
    let labels ← (Address.splitOn '.' name).mapM Label.ofText?
    if labels.any (·.shown.any Label.runsLeft) ∧ !labels.all Label.orderly then none
    else some labels

/-- The ASCII form of a name given as bytes. -/
def ascii? (bytes : List UInt8) : Option (List Char) := do
  let cs ← Utf8.decode? bytes
  let labels ← labels? cs
  some (Address.joinWith '.' (labels.map Label.text))

end CloudApi.Url.Domain
