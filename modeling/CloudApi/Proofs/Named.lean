import CloudApi.Family
import CloudApi.Network.Basic
import CloudApi.Proofs.Text.Lowercase
import CloudApi.Volume.Request

/-! Names are read in any case of their letters.

What is looked up among the names is the text in the small letters of every script. The names are of
small letters of ASCII (`Plain`), and of the letters beyond it only the Kelvin sign has a small letter
that could stand in one. So a type is read from its names in any case of the letters of ASCII, with
Kelvin signs for a k (`Plain.accepts`), and no Kelvin sign is read where no name has a k
(`Plain.accepts_same`). -/
namespace CloudApi

open Text Caseless

namespace Named
variable {α : Type} {n : Named α}

/-- The type is read from the texts that spell a name, and an error quotes every other text. -/
structure Accepts (n : Named α) (spells : String → String → Prop) : Prop where
  known (s : String) (a : α) : n.parse s = .ok a ↔ spells s (n.name a)
  other (s : String) : (∀ a, ¬ spells s (n.name a)) →
    n.parse s = .error (.invalidRequest ("Unknown " ++ n.noun ++ ": " ++ s))

/-- Every value is listed under a name of its own, in small letters of ASCII. -/
structure Plain (n : Named α) : Prop where
  complete (a : α) : a ∈ n.all
  distinct (a b : α) : n.name a = n.name b → a = b
  small (a : α) : IsSmall (n.name a)

theorem toOption_parse_eq_some_iff {s : String} {a : α} :
    (n.parse s).toOption = some a ↔ n.parse s = .ok a := by
  cases n.parse s with
  | ok b => simp [Except.toOption]
  | error e => simp [Except.toOption]

theorem text_of_find? {s : String} {a : α} (h : find? n.name n.all s = some a) :
    Lowercase.text s.toList = (n.name a).toList :=
  eq_of_beq (List.find?_some (p := fun b => spells (n.name b) s) h)

namespace Plain

/-- A value is found under the text in small letters. -/
theorem parse_eq_ok_iff (h : n.Plain) {s : String} {a : α} :
    n.parse s = .ok a ↔ Lowercase.text s.toList = (n.name a).toList := by
  unfold parse
  constructor
  · intro hparse
    split at hparse
    · next b hfound =>
      obtain rfl := Except.ok.inj hparse
      exact text_of_find? hfound
    · exact absurd hparse nofun
  · intro htext
    have hfound : (find? n.name n.all s).isSome :=
      List.find?_isSome.mpr ⟨a, h.complete a, beq_iff_eq.mpr htext⟩
    obtain ⟨b, hb⟩ := Option.isSome_iff_exists.mp hfound
    have hname : n.name b = n.name a :=
      String.toList_inj.mp ((text_of_find? hb).symm.trans htext)
    rw [hb, h.distinct b a hname]

theorem accepts (h : n.Plain) : n.Accepts fun s name => Same (letters s) name where
  known s a := h.parse_eq_ok_iff.trans (Lowercase.text_eq_iff (h.small a))
  other s hnone := by
    cases hparse : n.parse s with
    | ok a =>
      have htext := h.parse_eq_ok_iff.mp hparse
      exact absurd ((Lowercase.text_eq_iff (h.small a)).mp htext) (hnone a)
    | error e =>
      unfold parse at hparse
      split at hparse
      · cases hparse
      · exact hparse.symm

theorem accepts_same (h : n.Plain) (hk : ∀ a, 'k' ∉ (n.name a).toList) : n.Accepts Same where
  known s a := (h.accepts.known s a).trans (same_letters_iff (h.small a) (hk a))
  other s hnone :=
    h.accepts.other s fun a ha => hnone a ((same_letters_iff (h.small a) (hk a)).mp ha)

end Plain

end Named

/-! ### The types of the service -/

theorem Family.named_plain : Family.named.Plain where
  complete f := by cases f <;> decide
  distinct f g := by cases f <;> cases g <;> decide
  small f := by cases f <;> decide

theorem VolumeType.named_plain : VolumeType.named.Plain where
  complete t := by cases t <;> decide
  distinct t u := by cases t <;> cases u <;> decide
  small t := by cases t <;> decide

theorem VolumeSource.named_plain : VolumeSource.named.Plain where
  complete s := by cases s <;> decide
  distinct s t := by cases s <;> cases t <;> decide
  small s := by cases s <;> decide

theorem NetworkType.named_plain : NetworkType.named.Plain where
  complete t := by cases t <;> decide
  distinct t u := by cases t <;> cases u <;> decide
  small t := by cases t <;> decide

theorem VolumeType.named_accepts : VolumeType.named.Accepts Same :=
  named_plain.accepts_same fun t => by cases t <;> decide

theorem VolumeSource.named_accepts : VolumeSource.named.Accepts Same :=
  named_plain.accepts_same fun s => by cases s <;> decide

theorem NetworkType.named_accepts : NetworkType.named.Accepts Same :=
  named_plain.accepts_same fun t => by cases t <;> decide

theorem Volume.kind_eq_some_iff {v : Volume} {t : VolumeType} :
    v.kind = some t ↔ Same v.typeName t.name :=
  Named.toOption_parse_eq_some_iff.trans (VolumeType.named_accepts.known v.typeName t)

theorem Network.kind_eq_some_iff {n : Network} {t : NetworkType} :
    n.kind = some t ↔ ∃ name, n.typeName = some name ∧ Same name t.name := by
  rw [kind, Option.bind_eq_some_iff]
  refine exists_congr fun name => and_congr_right fun _ => ?_
  exact Named.toOption_parse_eq_some_iff.trans (NetworkType.named_accepts.known name t)

/-- **What names are read from.** Families are read from their names in any case of the letters of
ASCII, a Kelvin sign being read as a k; the types of volumes and networks and the sources of volumes
from their names in any case alone. The kind of a volume or network is known just for such texts. -/
theorem accepted_names :
    Family.named.Accepts (fun s name => Same (letters s) name) ∧
      VolumeType.named.Accepts Same ∧
      VolumeSource.named.Accepts Same ∧
      NetworkType.named.Accepts Same ∧
      (∀ (v : Volume) t, v.kind = some t ↔ Same v.typeName t.name) ∧
      ∀ (n : Network) t, n.kind = some t ↔
        ∃ name, n.typeName = some name ∧ Same name t.name :=
  ⟨Family.named_plain.accepts, VolumeType.named_accepts, VolumeSource.named_accepts,
    NetworkType.named_accepts, fun _ _ => Volume.kind_eq_some_iff,
    fun _ _ => Network.kind_eq_some_iff⟩

/-- A text beyond ASCII is read as the name of a family: the small letter of the Kelvin sign is k. -/
theorem parse_kelvin_sign :
    Family.named.parse "networ\u212as" = .ok .networks ∧
      ¬ Same "networ\u212as" (Family.named.name .networks) := by
  decide +kernel

end CloudApi
