import CloudApi.Json.Record
import Mathlib.Data.List.Nodup

/-! Records are read back as they were written.

A record reads a value part by part: a field takes the part under its key, or in an array at its
place, and where there is none the value of an absent field (`Record.reads_of_decode`). A field
reads back a value if it reads what it writes for it (`Field.ReadsBack`); if all fields of a record
do, and no two of them share a key, the record decodes what it encodes (`Record.decode_encode`).
Where `null` decodes as the value of an absent field, it may as well be left out of an object
(`Record.decode_insertField_null`), and at the end of an array (`Record.decode_append_null`). -/
namespace CloudApi.Json

/-! ### Fields in order -/

section Sorted
variable {key k : String} {value : Json} {fields : List (String × Json)}

theorem field?_cons (entry : String × Json) :
    field? (entry :: fields) k = if entry.1 = k then some entry.2 else field? fields k := by
  unfold field?
  by_cases h : entry.1 = k
  · rw [List.find?_cons, beq_iff_eq.mpr h, if_pos h]
    rfl
  · rw [List.find?_cons, beq_eq_false_iff_ne.mpr h, if_neg h]

theorem field?_eq_none_iff : field? fields k = none ↔ k ∉ fields.map Prod.fst := by
  induction fields with
  | nil => exact iff_of_true rfl List.not_mem_nil
  | cons entry rest ih =>
    rw [field?_cons, List.map_cons, List.mem_cons, not_or, ← ih]
    by_cases h : entry.1 = k
    · simp [h]
    · rw [if_neg h]
      exact ⟨fun hnone => ⟨fun heq => h heq.symm, hnone⟩, And.right⟩

theorem field?_insertField :
    field? (insertField key value fields) k = if key = k then some value else field? fields k := by
  induction fields with
  | nil => exact field?_cons _
  | cons entry rest ih =>
    obtain ⟨l, v⟩ := entry
    rw [insertField]
    by_cases hlt : key < l
    · rw [if_pos hlt]
      exact field?_cons _
    by_cases heq : key = l
    · subst heq
      rw [if_neg hlt, if_pos rfl, field?_cons, field?_cons]
      split <;> rfl
    · rw [if_neg hlt, if_neg heq, field?_cons, field?_cons, ih]
      by_cases hl : l = k
      · rw [if_pos hl, if_pos hl, if_neg fun hkey => heq (hkey.trans hl.symm)]
      · rw [if_neg hl, if_neg hl]

theorem mem_insertField {α : Type} {value : α} {entries : List (String × α)} {entry : String × α}
    (h : entry ∈ insertField key value entries) : entry = (key, value) ∨ entry ∈ entries := by
  induction entries with
  | nil => exact .inl (List.mem_singleton.mp h)
  | cons first rest ih =>
    rw [insertField] at h
    split at h
    · exact List.mem_cons.mp h
    split at h
    · exact (List.mem_cons.mp h).imp_right (List.mem_cons_of_mem first)
    · rcases List.mem_cons.mp h with rfl | h
      · exact .inr List.mem_cons_self
      · exact (ih h).imp_right (List.mem_cons_of_mem first)

theorem mem_sortFields {entry : String × Json} (h : entry ∈ sortFields fields) : entry ∈ fields := by
  have hfold (front : List (String × Json)) : ∀ back, entry ∈ front.foldl
      (fun sorted (key, value) => insertField key value sorted) back →
      entry ∈ front ∨ entry ∈ back := by
    induction front with
    | nil => exact fun back h => .inr h
    | cons first front ih =>
      intro back h
      rcases ih _ h with h | h
      · exact .inl (List.mem_cons_of_mem first h)
      · rcases mem_insertField h with rfl | h
        · exact .inl List.mem_cons_self
        · exact .inr h
  exact (hfold fields [] h).resolve_right List.not_mem_nil

/-- Fields that no two of have the same key are found in order as they were before. -/
theorem field?_sortFields (h : (fields.map Prod.fst).Nodup) :
    field? (sortFields fields) k = field? fields k := by
  have hfold (front : List (String × Json)) (hnodup : (front.map Prod.fst).Nodup) : ∀ back,
      field? (front.foldl (fun sorted (key, value) => insertField key value sorted) back) k =
        (field? front k).or (field? back k) := by
    induction front with
    | nil => exact fun back => rfl
    | cons first front ih =>
      intro back
      obtain ⟨hfirst, hnodup⟩ := List.nodup_cons.mp hnodup
      rw [List.foldl_cons, ih hnodup, field?_insertField, field?_cons]
      split
      · next heq => rw [← heq, field?_eq_none_iff.mpr hfirst, Option.none_or, Option.some_or]
      · rfl
  exact (hfold fields h []).trans Option.or_none

end Sorted

/-- The part of a value for a field: that under its key, or in an array that at its place. -/
def part? (v : Json) (place : Nat) (key : String) : Option Json :=
  match v with
  | .object fields => field? fields key
  | .array items => items[place]?
  | _ => none

/-! ### One field -/

namespace Field
variable {α : Type} (f : Field α)

/-- What a field reads: the part for it, or the value of an absent field if there is none. -/
def Reads : Option Json → α → Prop
  | some v, a => f.decode v = .ok a
  | none, a => f.absent = some a

def ReadsBack (a : α) : Prop :=
  f.Reads (f.encode a) a

/-- Whether `null` stands for an absent field. -/
def Nullable : Prop :=
  ∃ a, f.decode .null = .ok a ∧ f.absent = some a

variable {key : String} {decode : Decoder α} {encode : α → Json}

variable {f} in
theorem readsBack_of_encode {v : Json} {a : α} (hencode : f.encode a = some v)
    (hread : f.decode v = .ok a) : f.ReadsBack a := by
  unfold ReadsBack
  rw [hencode]
  exact hread

/-- A field that may be left out reads back a value that is not written as `null`. -/
theorem readsBack_optional {a? : Option α}
    (h : ∀ a, a? = some a → encode a ≠ .null ∧ decode (encode a) = .ok a) :
    (optional key decode encode).ReadsBack a? := by
  cases a? with
  | none => rfl
  | some a =>
    obtain ⟨hnull, hread⟩ := h a rfl
    refine readsBack_of_encode (v := encode a) rfl ?_
    show decode.optional (encode a) = .ok (some a)
    unfold Decoder.optional
    split
    · next heq => exact absurd heq hnull
    · rw [hread]
      rfl

theorem nullable_optional : (optional key decode encode).Nullable :=
  ⟨none, rfl, rfl⟩

/-- What an optional field reads was not decoded from `null`. -/
theorem exists_of_reads_optional {part : Option Json} {a : α}
    (h : (optional key decode encode).Reads part (some a)) : ∃ v, v ≠ .null ∧ decode v = .ok a := by
  cases part with
  | none => cases h
  | some v =>
    change decode.optional v = .ok (some a) at h
    unfold Decoder.optional at h
    split at h
    · cases h
    · next hnull =>
      cases hread : decode v with
      | error e =>
        rw [hread] at h
        cases h
      | ok b =>
        rw [hread] at h
        cases h
        exact ⟨v, hnull, hread⟩

end Field

/-! ### All fields -/

namespace Fields

def keys : {αs : List Type} → Fields αs → List String
  | _, nil => []
  | _, cons f rest => f.key :: rest.keys

/-- What fields read from a place on, each the part for it. -/
def Reads (parts : Nat → String → Option Json) : {αs : List Type} → Nat → Fields αs → Row αs → Prop
  | _, _, nil, _ => True
  | _, place, cons f rest, (a, row) =>
    f.Reads (parts place f.key) a ∧ rest.Reads parts (place + 1) row

def ReadsBack : {αs : List Type} → Fields αs → Row αs → Prop
  | _, nil, _ => True
  | _, cons f rest, (a, row) => f.ReadsBack a ∧ rest.ReadsBack row

/-- Whether `null` stands for an absent field under a key; there may be none under it. -/
def NullableAt (key : String) : {αs : List Type} → Fields αs → Prop
  | _, nil => True
  | _, cons f rest => (f.key = key → f.Nullable) ∧ rest.NullableAt key

/-- Whether there is a field behind the first ones for which `null` stands when it is absent. -/
def NullableBehind : {αs : List Type} → Fields αs → Nat → Prop
  | _, nil, _ => False
  | _, cons f _, 0 => f.Nullable
  | _, cons _ rest, n + 1 => rest.NullableBehind n

variable {αs : List Type} {fs : Fields αs} {row : Row αs}

/-! ### What is read -/

theorem eq_of_bind_pair {ε α β : Type} {x : Except ε α} {y : Except ε β} {a : α} {b : β}
    (h : (x >>= fun a => y >>= fun b => Except.ok (a, b)) = .ok (a, b)) : x = .ok a ∧ y = .ok b := by
  rcases x with e | a'
  · cases h
  rcases y with e | b'
  · cases h
  · cases h
    exact ⟨rfl, rfl⟩

/-- The row of an object is what its fields read. -/
theorem pick_eq_ok_iff {object : List (String × Json)} (place : Nat) :
    fs.pick object = .ok row ↔ fs.Reads (fun _ => field? object) place row := by
  induction fs generalizing place with
  | nil => exact iff_of_true rfl trivial
  | cons f rest ih =>
    obtain ⟨a, row⟩ := row
    rw [Reads, ← ih, pick]
    constructor
    · intro h
      cases hpart : field? object f.key with
      | some v =>
        rw [hpart] at h
        exact eq_of_bind_pair h
      | none =>
        rw [hpart] at h
        cases habsent : f.absent with
        | some b =>
          rw [habsent] at h
          obtain ⟨ha, hrow⟩ := eq_of_bind_pair (x := .ok b) h
          exact ⟨habsent.trans (congrArg some (Except.ok.inj ha)), hrow⟩
        | none =>
          rw [habsent] at h
          cases h
    · rintro ⟨ha, hrow⟩
      cases hpart : field? object f.key with
      | some v =>
        rw [hpart] at ha
        simp only [show f.decode v = .ok a from ha, hrow]
        rfl
      | none =>
        rw [hpart] at ha
        simp only [show f.absent = some a from ha, hrow]
        rfl

/-- What is taken from an array is what the fields read at their places. -/
theorem reads_of_take {expected : String} {length done : Nat} {items : List Json}
    (h : fs.take expected length done (items.drop done) = .ok row) :
    fs.Reads (fun place _ => items[place]?) done row := by
  induction fs generalizing done with
  | nil => trivial
  | cons f rest ih =>
    obtain ⟨a, row⟩ := row
    have hnext : items.drop (done + 1) = (items.drop done).drop 1 := by rw [List.drop_drop]
    have hpart : items[done]? = (items.drop done).head? := List.head?_drop.symm
    rw [Reads, hpart]
    cases hdrop : items.drop done with
    | cons v later =>
      rw [hdrop] at h hnext
      obtain ⟨ha, hrow⟩ := eq_of_bind_pair h
      exact ⟨ha, ih (hnext ▸ hrow)⟩
    | nil =>
      rw [hdrop] at h hnext
      rw [take] at h
      split at h
      · next b habsent =>
        obtain ⟨ha, hrow⟩ := eq_of_bind_pair (x := .ok b) h
        exact ⟨habsent.trans (congrArg some (Except.ok.inj ha)), ih (hnext ▸ hrow)⟩
      · cases h

/-! ### What is written -/

theorem keys_encode_sublist (fs : Fields αs) (row : Row αs) :
    ((fs.encode row).map Prod.fst).Sublist fs.keys := by
  induction fs with
  | nil => exact List.Sublist.refl []
  | cons f rest ih =>
    obtain ⟨a, row⟩ := row
    rw [encode, keys]
    cases f.encode a with
    | none => exact (ih row).cons f.key
    | some v => exact (ih row).cons_cons f.key

/-- What is written for a row is accepted field by field. -/
theorem check_of_mem_encode (hkeys : fs.keys.Nodup) (hrow : fs.ReadsBack row)
    {entry : String × Json} (h : entry ∈ fs.encode row) : fs.check entry.1 entry.2 = .ok () := by
  induction fs with
  | nil => exact absurd h List.not_mem_nil
  | cons f rest ih =>
    obtain ⟨a, row⟩ := row
    obtain ⟨hfirst, hkeys⟩ := List.nodup_cons.mp hkeys
    obtain ⟨hf, hrow⟩ := hrow
    have hrest (hmem : entry ∈ rest.encode row) :
        (cons f rest).check entry.1 entry.2 = .ok () := by
      have hother : f.key ≠ entry.1 := fun heq => hfirst
        (heq ▸ (keys_encode_sublist rest row).subset (List.mem_map_of_mem hmem))
      rw [check, if_neg hother]
      exact ih hkeys hrow hmem
    unfold Field.ReadsBack at hf
    rw [encode] at h
    cases hencode : f.encode a with
    | none =>
      rw [hencode] at h
      exact hrest h
    | some v =>
      rw [hencode] at h hf
      rcases List.mem_cons.mp h with rfl | h
      · rw [check, if_pos rfl, show f.decode v = .ok a from hf]
        rfl
      · exact hrest h

/-- **Fields read back a row from an object that shows what is written for it.** -/
theorem reads_of_shows (hkeys : fs.keys.Nodup) (hrow : fs.ReadsBack row)
    {shown : List (String × Json)}
    (hshown : ∀ key ∈ fs.keys, field? shown key = field? (fs.encode row) key) (place : Nat) :
    fs.Reads (fun _ => field? shown) place row := by
  induction fs generalizing place with
  | nil => trivial
  | cons f rest ih =>
    obtain ⟨a, row⟩ := row
    obtain ⟨hfirst, hkeys⟩ := List.nodup_cons.mp hkeys
    obtain ⟨hf, hrow⟩ := hrow
    have hhere : field? shown f.key = f.encode a := by
      rw [hshown f.key List.mem_cons_self, encode]
      cases f.encode a with
      | none => exact field?_eq_none_iff.mpr fun hmem =>
          hfirst ((keys_encode_sublist rest row).subset hmem)
      | some v => exact (field?_cons _).trans (if_pos rfl)
    have hread : f.Reads (field? shown f.key) a := by
      rw [hhere]
      exact hf
    refine ⟨hread, ih hkeys hrow (fun key hkey => ?_) _⟩
    have hother : f.key ≠ key := fun heq => hfirst (heq ▸ hkey)
    rw [hshown key (List.mem_cons_of_mem _ hkey), encode]
    cases f.encode a with
    | none => rfl
    | some v => exact (field?_cons _).trans (if_neg hother)

theorem checkAll_eq_ok {object : List (String × Json)}
    (h : ∀ entry ∈ object, fs.check entry.1 entry.2 = .ok ()) : fs.checkAll object = .ok () := by
  induction object with
  | nil => rfl
  | cons entry rest ih =>
    obtain ⟨hentry, hrest⟩ := List.forall_mem_cons.mp h
    rw [checkAll, hentry]
    exact ih hrest

/-! ### Null for nothing -/

theorem check_null {key : String} (h : fs.NullableAt key) : fs.check key .null = .ok () := by
  induction fs with
  | nil => rfl
  | cons f rest ih =>
    obtain ⟨hf, hrest⟩ := h
    rw [check]
    by_cases hkey : f.key = key
    · obtain ⟨a, ha, -⟩ := hf hkey
      rw [if_pos hkey, ha]
      rfl
    · rw [if_neg hkey]
      exact ih hrest

theorem checkAll_insertField {key : String} {v : Json} (h : fs.check key v = .ok ())
    {object : List (String × Json)} (hnone : field? object key = none) :
    fs.checkAll (insertField key v object) = fs.checkAll object := by
  induction object with
  | nil =>
    show (fs.check key v >>= fun _ => _) = _
    rw [h]
    rfl
  | cons entry rest ih =>
    obtain ⟨k, w⟩ := entry
    rw [field?_cons] at hnone
    have hother : k ≠ key := fun heq => by
      rw [if_pos heq] at hnone
      cases hnone
    rw [if_neg hother] at hnone
    rw [insertField]
    by_cases hlt : key < k
    · rw [if_pos hlt]
      show (fs.check key v >>= fun _ => fs.checkAll ((k, w) :: rest)) = _
      rw [h]
      rfl
    · rw [if_neg hlt, if_neg hother.symm, checkAll, checkAll, ih hnone]

theorem pick_insertField_null {key : String} (h : fs.NullableAt key)
    {object : List (String × Json)} (hnone : field? object key = none) :
    fs.pick (insertField key .null object) = fs.pick object := by
  induction fs with
  | nil => rfl
  | cons f rest ih =>
    obtain ⟨hf, hrest⟩ := h
    rw [pick, pick, ih hrest, field?_insertField]
    by_cases hkey : key = f.key
    · obtain ⟨a, hread, habsent⟩ := hf hkey.symm
      rw [if_pos hkey, ← hkey, hnone]
      simp only [hread, habsent]
    · rw [if_neg hkey]

/-- What is taken once an array has ended does not tell how long that was. -/
theorem take_nil (fs : Fields αs) (expected : String) (length more done : Nat) :
    fs.take expected length done [] = fs.take expected more done [] := by
  induction fs generalizing done with
  | nil => rfl
  | cons f rest ih => rw [take, take, ih]

theorem take_append_null {items : List Json} (h : fs.NullableBehind items.length)
    (expected : String) (length more done : Nat) :
    fs.take expected length done (items ++ [.null]) = fs.take expected more done items := by
  induction fs generalizing done items with
  | nil => exact h.elim
  | cons f rest ih =>
    cases items with
    | nil =>
      obtain ⟨a, hread, habsent⟩ := h
      rw [List.nil_append, take, take, hread, habsent, rest.take_nil expected length more]
      rfl
    | cons v items => rw [List.cons_append, take, take, ih h]

end Fields

/-! ### Whole records -/

namespace Record
variable {α : Type} (r : Record α)

/-- **What a record encodes it decodes.** -/
theorem decode_encode {row : Row r.shape} (hkeys : r.fields.keys.Nodup)
    (hparts : r.parts (r.build row) = row) (hrow : r.fields.ReadsBack row) :
    r.decode (r.encode (r.build row)) = .ok (r.build row) := by
  have hwritten := (r.fields.keys_encode_sublist row).nodup hkeys
  have hcheck : r.fields.checkAll (sortFields (r.fields.encode row)) = .ok () :=
    Fields.checkAll_eq_ok fun entry hentry =>
      Fields.check_of_mem_encode hkeys hrow (mem_sortFields hentry)
  have hpick : r.fields.pick (sortFields (r.fields.encode row)) = .ok row :=
    (Fields.pick_eq_ok_iff 0).mpr
      (Fields.reads_of_shows hkeys hrow (fun key _ => field?_sortFields hwritten) 0)
  rw [encode, hparts, ofFields, decode, hcheck]
  show (r.fields.pick _ >>= fun row => _) = _
  rw [hpick]
  rfl

/-- **A decoded record is built of what its fields read.** -/
theorem reads_of_decode {v : Json} {a : α} (h : r.decode v = .ok a) :
    ∃ row, r.fields.Reads v.part? 0 row ∧ a = r.build row := by
  cases v with
  | object fields =>
    rw [decode] at h
    cases hcheck : r.fields.checkAll fields with
    | error e =>
      rw [hcheck] at h
      cases h
    | ok =>
      cases hpick : r.fields.pick fields with
      | error e =>
        rw [hcheck] at h
        simp only [bind, Except.bind, hpick] at h
        cases h
      | ok row =>
        rw [hcheck] at h
        simp only [bind, Except.bind, hpick] at h
        exact ⟨row, (Fields.pick_eq_ok_iff 0).mp hpick, (Except.ok.inj h).symm⟩
  | array items =>
    rw [decode] at h
    cases htake : r.fields.take r.arrayTitle items.length 0 items with
    | error e =>
      rw [htake] at h
      cases h
    | ok row =>
      rw [htake] at h
      have hreads : r.fields.Reads (fun place _ => items[place]?) 0 row := Fields.reads_of_take htake
      exact ⟨row, hreads, (Except.ok.inj h).symm⟩
  | _ => cases h

/-- A field that is `null` may as well be absent. -/
theorem decode_insertField_null {key : String} (h : r.fields.NullableAt key)
    {fields : List (String × Json)} (hnone : field? fields key = none) :
    r.decode (.object (insertField key .null fields)) = r.decode (.object fields) := by
  rw [decode, decode, Fields.checkAll_insertField (Fields.check_null h) hnone,
    Fields.pick_insertField_null h hnone]

/-- An array may as well end before `null`. -/
theorem decode_append_null {items : List Json} (h : r.fields.NullableBehind items.length) :
    r.decode (.array (items ++ [.null])) = r.decode (.array items) := by
  rw [decode, decode, Fields.take_append_null h]

end Record

end CloudApi.Json
