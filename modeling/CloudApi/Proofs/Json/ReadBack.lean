import CloudApi.Named
import CloudApi.Proofs.Json.Record
import Mathlib.Data.String.Basic

/-! What single fields read back: maps, lists, numbers and names.

A map is its entries in increasing order of their keys, one entry a key (`Ordered`). Sorting brings
any entries into this form (`ordered_sortFields`) and changes nothing that has it
(`sortFields_eq_self`), so that a field of texts reads back the map that its entries come to
(`Field.readsBack_texts`). Which keys a record writes is told by its fields alone
(`Record.isSome_get?_encode`). -/
namespace CloudApi.Json

/-! ### Maps -/

/-- Entries in increasing order of their keys, one entry a key. -/
def Ordered {α : Type} (entries : List (String × α)) : Prop :=
  entries.Pairwise fun a b => a.1 < b.1

section Maps
variable {α β : Type} {entries : List (String × α)}

theorem Ordered.insertField (h : Ordered entries) (key : String) (value : α) :
    Ordered (insertField key value entries) := by
  induction entries with
  | nil => exact List.pairwise_singleton _ _
  | cons entry rest ih =>
    obtain ⟨k, v⟩ := entry
    obtain ⟨hfirst, hrest⟩ := List.pairwise_cons.mp h
    rw [Json.insertField]
    by_cases hlt : key < k
    · rw [if_pos hlt]
      refine List.pairwise_cons.mpr ⟨List.forall_mem_cons.mpr ⟨hlt, fun b hb => ?_⟩, h⟩
      exact hlt.trans (hfirst b hb)
    by_cases heq : key = k
    · subst heq
      rw [if_neg hlt, if_pos rfl]
      exact List.pairwise_cons.mpr ⟨hfirst, hrest⟩
    · rw [if_neg hlt, if_neg heq]
      refine List.pairwise_cons.mpr ⟨fun b hb => ?_, ih hrest⟩
      rcases mem_insertField hb with rfl | hb
      · exact lt_of_le_of_ne (not_lt.mp hlt) (Ne.symm heq)
      · exact hfirst b hb

/-- Sorted entries are a map. -/
theorem ordered_sortFields (entries : List (String × α)) : Ordered (sortFields entries) := by
  have hfold (front : List (String × α)) : ∀ back, Ordered back →
      Ordered (front.foldl (fun sorted entry => insertField entry.1 entry.2 sorted) back) := by
    induction front with
    | nil => exact fun back h => h
    | cons entry front ih => exact fun back h => ih _ (h.insertField entry.1 entry.2)
  exact hfold entries [] List.Pairwise.nil

/-- An entry behind all others goes to the end. -/
theorem insertField_eq_concat {key : String} (value : α) (h : ∀ a ∈ entries, a.1 < key) :
    insertField key value entries = entries ++ [(key, value)] := by
  induction entries with
  | nil => rfl
  | cons entry rest ih =>
    obtain ⟨k, v⟩ := entry
    obtain ⟨hfirst, hrest⟩ := List.forall_mem_cons.mp h
    rw [insertField, if_neg hfirst.asymm, if_neg hfirst.ne', ih hrest, List.cons_append]

/-- **Sorting leaves a map as it is.** -/
theorem sortFields_eq_self (h : Ordered entries) : sortFields entries = entries := by
  have hfold (front : List (String × α)) : ∀ back, Ordered (back ++ front) →
      front.foldl (fun sorted entry => insertField entry.1 entry.2 sorted) back =
        back ++ front := by
    induction front with
    | nil => exact fun back _ => (List.append_nil back).symm
    | cons entry front ih =>
      intro back h
      have hbehind : ∀ a ∈ back, a.1 < entry.1 := fun a ha =>
        (List.pairwise_append.mp h).2.2 a ha entry List.mem_cons_self
      show front.foldl _ (insertField entry.1 entry.2 back) = _
      rw [insertField_eq_concat entry.2 hbehind, ih _ (by rwa [List.append_assoc]),
        List.append_assoc]
      rfl
  exact hfold entries [] h

theorem map_insertField (f : α → β) (key : String) (value : α) :
    (insertField key value entries).map (fun (k, v) => (k, f v)) =
      insertField key (f value) (entries.map fun (k, v) => (k, f v)) := by
  induction entries with
  | nil => rfl
  | cons entry rest ih =>
    obtain ⟨k, v⟩ := entry
    rw [insertField, List.map_cons, insertField]
    split_ifs
    · rfl
    · rfl
    · rw [List.map_cons, ih]

/-- The values of a map do not count for its order. -/
theorem map_sortFields (f : α → β) (entries : List (String × α)) :
    (sortFields entries).map (fun (k, v) => (k, f v)) =
      sortFields (entries.map fun (k, v) => (k, f v)) := by
  have hfold (front : List (String × α)) : ∀ back,
      (front.foldl (fun sorted entry => insertField entry.1 entry.2 sorted) back).map
          (fun (k, v) => (k, f v)) =
        (front.map fun (k, v) => (k, f v)).foldl
          (fun sorted entry => insertField entry.1 entry.2 sorted)
          (back.map fun (k, v) => (k, f v)) := by
    induction front with
    | nil => exact fun back => rfl
    | cons entry front ih =>
      intro back
      rw [List.foldl_cons, ih, map_insertField]
      rfl
  exact hfold entries []

theorem isEmpty_sortFields (entries : List (String × α)) :
    (sortFields entries).isEmpty = entries.isEmpty := by
  rcases List.eq_nil_or_concat entries with rfl | ⟨front, entry, rfl⟩
  · rfl
  · have hlast : sortFields (front ++ [entry]) =
        insertField entry.1 entry.2 (sortFields front) := by
      unfold sortFields
      rw [List.foldl_append]
      rfl
    have hsome : (insertField entry.1 entry.2 (sortFields front)).isEmpty = false := by
      cases sortFields front with
      | nil => rfl
      | cons first rest =>
        rw [insertField]
        split_ifs <;> rfl
    rw [List.concat_eq_append, hlast, hsome]
    cases front <;> rfl

theorem entries_map_string (entries : List (String × String)) :
    Decoder.entries Decoder.string (entries.map fun (k, v) => (k, .string v)) = .ok entries := by
  induction entries with
  | nil => rfl
  | cons entry rest ih =>
    rw [List.map_cons, Decoder.entries, ih]
    rfl

/-- **A map of texts is read back**; what is read of entries in any order is the map they come
to. -/
theorem decode_texts (entries : List (String × String)) :
    Decoder.map Decoder.string (ofFields (entries.map fun (k, v) => (k, .string v))) =
      .ok (sortFields entries) := by
  rw [ofFields, ← map_sortFields]
  show (Decoder.entries Decoder.string _).map sortFields = _
  rw [entries_map_string]
  exact congrArg Except.ok (sortFields_eq_self (ordered_sortFields entries))

end Maps

namespace Field
variable {key : String} {skipEmpty : Bool} {entries : List (String × String)}

theorem readsBack_texts (h : Ordered entries) : (texts key skipEmpty).ReadsBack entries := by
  unfold ReadsBack
  have hencode : (texts key skipEmpty).encode entries =
      if skipEmpty && entries.isEmpty then none
      else some (ofFields (entries.map fun (k, v) => (k, .string v))) := rfl
  rw [hencode]
  split
  · next hempty =>
    rw [List.isEmpty_iff.mp (Bool.and_eq_true_iff.mp hempty).2]
    rfl
  · exact (decode_texts entries).trans (congrArg Except.ok (sortFields_eq_self h))

/-- What is written does not tell in which order the entries were. -/
theorem encode_texts_sortFields (key : String) (skipEmpty : Bool)
    (entries : List (String × String)) :
    (texts key skipEmpty).encode (sortFields entries) = (texts key skipEmpty).encode entries := by
  have hencode (entries : List (String × String)) : (texts key skipEmpty).encode entries =
    if skipEmpty && entries.isEmpty then none
    else some (ofFields (entries.map fun (k, v) => (k, .string v))) := rfl
  have hsorted : ofFields ((sortFields entries).map fun (k, v) => (k, Json.string v)) =
      ofFields (entries.map fun (k, v) => (k, .string v)) := by
    rw [ofFields, ofFields, map_sortFields, sortFields_eq_self (ordered_sortFields _)]
  rw [hencode, hencode, isEmpty_sortFields, hsorted]

/-- What is read as a map is one. -/
theorem ordered_of_reads_texts {part : Option Json} (h : (texts key skipEmpty).Reads part entries) :
    Ordered entries := by
  cases part with
  | none =>
    obtain rfl : [] = entries := Option.some.inj h
    exact List.Pairwise.nil
  | some v =>
    change Decoder.map Decoder.string v = .ok entries at h
    cases v with
    | object fields =>
      change (Decoder.entries Decoder.string fields).map sortFields = .ok entries at h
      cases hread : Decoder.entries Decoder.string fields with
      | error e =>
        rw [hread] at h
        cases h
      | ok read =>
        rw [hread] at h
        obtain rfl : sortFields read = entries := Except.ok.inj h
        exact ordered_sortFields read
    | _ => cases h

end Field

/-! ### Lists, numbers and names -/

/-- A decoder that reads whatever is written, which is never `null`. -/
def Decoder.Undoes {α : Type} (decode : Decoder α) (encode : α → Json) : Prop :=
  ∀ a, encode a ≠ .null ∧ decode (encode a) = .ok a

theorem Field.readsBack_of_undoes {α : Type} {decode : Decoder α} {encode : α → Json}
    (h : decode.Undoes encode) (key : String) (a? : Option α) :
    (Field.optional key decode encode).ReadsBack a? :=
  Field.readsBack_optional fun a _ => h a

namespace Decoder

theorem undoes_string : string.Undoes Json.string := fun _ => ⟨nofun, rfl⟩

theorem undoes_uint64 : uint64.Undoes nat := fun _ => ⟨nofun, rfl⟩

theorem undoes_uint32 : uint32.Undoes fun n => nat n.toUInt64 := by
  refine fun n => ⟨nofun, ?_⟩
  have hsmall : n.toUInt64.toNat < 0x100000000 := by
    rw [UInt32.toNat_toUInt64]
    exact n.toNat_lt
  unfold uint32 nat
  dsimp only
  rw [if_pos hsmall, UInt32.toUInt32_toUInt64]

/-- A value of a type with fixed names is read back, if no two values share a name. -/
theorem undoes_named {α : Type} {n : Named α} (hall : ∀ a, a ∈ n.all)
    (hname : ∀ a b, n.name a = n.name b → a = b) : n.decoder.Undoes n.encode := by
  refine fun a => ⟨nofun, ?_⟩
  have hfind : n.all.find? (fun b => n.name b == n.name a) = some a := by
    have hfound : (n.all.find? fun b => n.name b == n.name a).isSome :=
      List.find?_isSome.mpr ⟨a, hall a, beq_self_eq_true (n.name a)⟩
    obtain ⟨b, hb⟩ := Option.isSome_iff_exists.mp hfound
    have hsame : (n.name b == n.name a) = true :=
      List.find?_some (p := fun b => n.name b == n.name a) hb
    rw [hb, hname b a (eq_of_beq hsame)]
  have hknown : (n.all.map fun b => (n.name b, b)).find? (fun k => k.1 == n.name a) =
      some (n.name a, a) := by
    rw [List.find?_map]
    exact congrArg (Option.map fun b => (n.name b, b)) hfind
  show name.pick (n.all.map fun b => (n.name b, b)) (n.name a) = _
  unfold name.pick
  rw [hknown]

theorem list_map {α : Type} {decode : Decoder α} {encode : α → Json} {as : List α}
    (h : ∀ a ∈ as, decode (encode a) = .ok a) : list decode (.array (as.map encode)) = .ok as := by
  show items decode (as.map encode) = _
  induction as with
  | nil => rfl
  | cons a as ih =>
    obtain ⟨ha, has⟩ := List.forall_mem_cons.mp h
    rw [List.map_cons, items, ha, ih has]
    rfl

end Decoder

/-! ### What is left out -/

namespace Fields
variable {αs : List Type}

/-- The keys of fields, each with whether it is written for a row. -/
def given : {αs : List Type} → Fields αs → Row αs → List (String × Bool)
  | _, nil, _ => []
  | _, cons f rest, (a, row) => (f.key, (f.encode a).isSome) :: rest.given row

theorem mem_keys_encode_iff (fs : Fields αs) (row : Row αs) {key : String} :
    key ∈ (fs.encode row).map Prod.fst ↔ (key, true) ∈ fs.given row := by
  induction fs with
  | nil => exact iff_of_false List.not_mem_nil List.not_mem_nil
  | cons f rest ih =>
    obtain ⟨a, row⟩ := row
    rw [encode, given]
    cases f.encode a with
    | none => simpa using ih row
    | some v => simpa using or_congr Iff.rfl (ih row)

end Fields

/-- A value that is built of its own parts is read back if all of them are. -/
theorem Record.decode_encode_of_parts {α : Type} (r : Record α) (hkeys : r.fields.keys.Nodup) {a : α}
    (hbuild : r.build (r.parts a) = a) (hparts : r.fields.ReadsBack (r.parts a)) :
    r.decode (r.encode a) = .ok a := by
  have hback := r.decode_encode hkeys (congrArg r.parts hbuild) hparts
  rwa [hbuild] at hback

/-- **A record writes the keys that its fields give**, and no others. -/
theorem Record.isSome_get?_encode {α : Type} (r : Record α) (hkeys : r.fields.keys.Nodup) (a : α)
    (key : String) :
    ((r.encode a).get? key).isSome ↔ (key, true) ∈ r.fields.given (r.parts a) := by
  have hwritten := (r.fields.keys_encode_sublist (r.parts a)).nodup hkeys
  show (field? (sortFields (r.fields.encode (r.parts a))) key).isSome ↔ _
  rw [field?_sortFields hwritten, Option.isSome_iff_ne_none, ne_eq, field?_eq_none_iff, not_not,
    Fields.mem_keys_encode_iff]

end CloudApi.Json
