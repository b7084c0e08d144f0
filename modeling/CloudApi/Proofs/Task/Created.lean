import CloudApi.Proofs.Envelope
import CloudApi.Task.Basic

/-! What a task lists as created.

A key of a task lists identifiers if its value is an array of nothing but strings (`Task.Lists`).
The identifiers are read if there is one at least, and are missing in any other case
(`createdIds_cases`). A value of another type is read exactly if it is there and decodes; that it
is not there and that it does not decode are two different errors, and only the first one is left
for identifiers (`created_exact`). -/
namespace CloudApi

open Json

/-- An array of values decodes as strings exactly if it is one of strings. -/
theorem Json.Decoder.items_string_iff {vs : List Json} {ids : List String} :
    Decoder.items Decoder.string vs = .ok ids ↔ vs = ids.map .string := by
  have hstring (v : Json) (s : String) : Decoder.string v = .ok s ↔ v = .string s :=
    ⟨Envelope.string_eq_ok, fun h => h ▸ rfl⟩
  rw [Decoder.items_eq_ok_iff]
  simp only [hstring]
  rw [← List.forall₂_map_right_iff, List.forall₂_eq_eq_eq]

namespace Task

/-- The identifiers under a key of a task, if they are what the key holds. -/
def Lists (t : Task) (key : String) (ids : List String) : Prop :=
  t.created? key = some (.array (ids.map .string))

variable {t : Task} {key : String}

theorem createdResource_strings_iff {ids : List String} :
    t.createdResource (Decoder.list Decoder.string) key = .ok ids ↔ t.Lists key ids := by
  unfold createdResource Lists
  cases t.created? key with
  | none => exact iff_of_false (fun h => by cases h) (fun h => by cases h)
  | some v =>
    rw [Option.some.injEq, Envelope.explain_eq_ok]
    cases v with
    | array vs =>
      rw [Json.array.injEq]
      exact Decoder.items_string_iff
    | _ => exact iff_of_false (fun h => by cases h) (fun h => by cases h)

/-- The identifiers of a key are read if it lists one at least, and are missing otherwise. -/
theorem createdIds_cases (t : Task) (key : String) :
    (∃ raw later, t.Lists key (raw :: later) ∧ t.createdIds key = .ok (raw :: later)) ∨
      (∀ raw later, ¬ t.Lists key (raw :: later)) ∧ t.createdIds key = .error (t.missing key) := by
  unfold createdIds
  cases hread : t.createdResource (Decoder.list Decoder.string) key with
  | error e =>
    refine .inr ⟨fun raw later hlists => ?_, rfl⟩
    cases hread.symm.trans (createdResource_strings_iff.mpr hlists)
  | ok ids =>
    cases ids with
    | nil =>
      refine .inr ⟨fun raw later hlists => ?_, rfl⟩
      cases hread.symm.trans (createdResource_strings_iff.mpr hlists)
    | cons raw later => exact .inl ⟨raw, later, createdResource_strings_iff.mp hread, rfl⟩

/-- The first identifier of a key is the first of its identifiers. -/
theorem firstCreatedId_cases (t : Task) (key : String) :
    (∃ raw later, t.Lists key (raw :: later) ∧ t.firstCreatedId key = .ok raw) ∨
      (∀ raw later, ¬ t.Lists key (raw :: later)) ∧
        t.firstCreatedId key = .error (t.missing key) := by
  unfold firstCreatedId
  rcases t.createdIds_cases key with ⟨raw, later, hlists, hids⟩ | ⟨hnone, hids⟩
  · exact .inl ⟨raw, later, hlists, by rw [hids]⟩
  · exact .inr ⟨hnone, by rw [hids]⟩

theorem firstCreatedId_of_forall_not (h : ∀ raw later, ¬ t.Lists key (raw :: later)) :
    t.firstCreatedId key = .error (t.missing key) := by
  rcases t.firstCreatedId_cases key with ⟨raw, later, hlists, -⟩ | ⟨-, hfirst⟩
  · exact absurd hlists (h raw later)
  · exact hfirst

theorem firstCreatedId_of_lists {raw : String} {later : List String}
    (h : t.Lists key (raw :: later)) : t.firstCreatedId key = .ok raw := by
  rcases t.firstCreatedId_cases key with ⟨raw', later', hlists, hfirst⟩ | ⟨hnone, -⟩
  · have hsame := Json.array.inj (Option.some.inj (h.symm.trans hlists))
    rw [hfirst, Json.string.inj (List.cons.inj hsame).1]
  · exact absurd h (hnone raw later)

/-! ### The value of a key -/

/-- The value under a key, which may be `null`. -/
def entry? (t : Task) (key : String) : Option Json :=
  t.created.bind fun fields => field? fields key

theorem created?_eq_some_iff {v : Json} :
    t.created? key = some v ↔ t.entry? key = some v ∧ v ≠ .null := by
  unfold created? entry?
  rw [Option.filter_eq_some_iff, bne_iff_ne]

theorem created?_eq_none_iff :
    t.created? key = none ↔ t.entry? key = none ∨ t.entry? key = some .null := by
  unfold created? entry?
  rw [Option.filter_eq_none_iff]
  cases t.created.bind fun fields => field? fields key with
  | none => simp
  | some v => simp

theorem lists_iff {ids : List String} :
    t.Lists key ids ↔ t.entry? key = some (.array (ids.map .string)) := by
  unfold Lists
  rw [created?_eq_some_iff]
  exact and_iff_left nofun

/-- The value of a decoded task is the one in the object under `created_resources`. -/
theorem entry?_of_decode {body : Json} (h : Envelope.whole record.decode body = .ok t) :
    t.entry? key = (body.part? 3 "created_resources").bind fun v => v.get? key := by
  obtain ⟨row, hreads, rfl⟩ := record.reads_of_decode (Envelope.explain_eq_ok.mp h)
  obtain ⟨_, _, _, created, _⟩ := row
  obtain ⟨-, -, -, hcreated, -⟩ := hreads
  show (created.bind fun fields => field? fields key) = _
  change (Field.optional "created_resources" Decoder.object Json.object).Reads
    (body.part? 3 "created_resources") created at hcreated
  generalize body.part? 3 "created_resources" = part at hcreated
  cases part with
  | none =>
    obtain rfl : none = created := Option.some.inj hcreated
    rfl
  | some v =>
    change Decoder.object.optional v = .ok created at hcreated
    cases v with
    | null =>
      cases hcreated
      rfl
    | object fields =>
      cases hcreated
      rfl
    | _ => cases hcreated

theorem createdIds_eq_ok_iff {ids : List String} :
    t.createdIds key = .ok ids ↔ ids ≠ [] ∧ t.Lists key ids := by
  rcases t.createdIds_cases key with ⟨raw, later, hlists, hids⟩ | ⟨hnone, hids⟩
  · rw [hids]
    constructor
    · intro h
      cases h
      exact ⟨List.cons_ne_nil _ _, hlists⟩
    · rintro ⟨-, hlists'⟩
      have hsame := Json.array.inj (Option.some.inj (hlists.symm.trans hlists'))
      rw [List.map_injective_iff.mpr (fun _ _ => Json.string.inj) hsame]
  · rw [hids]
    refine iff_of_false nofun ?_
    rintro ⟨hne, hlists⟩
    obtain ⟨raw, later, rfl⟩ := List.exists_cons_of_ne_nil hne
    exact hnone raw later hlists

theorem createdIds_eq_error_iff {e : Error} :
    t.createdIds key = .error e ↔ e = t.missing key ∧ ∀ ids, ids ≠ [] → ¬ t.Lists key ids := by
  rcases t.createdIds_cases key with ⟨raw, later, hlists, hids⟩ | ⟨hnone, hids⟩
  · rw [hids]
    exact iff_of_false nofun fun h => h.2 _ (List.cons_ne_nil _ _) hlists
  · rw [hids, Except.error.injEq, eq_comm]
    refine iff_self_and.mpr fun _ ids hne hlists => ?_
    obtain ⟨raw, later, rfl⟩ := List.exists_cons_of_ne_nil hne
    exact hnone raw later hlists

/-- The first identifier is the first one of all, and fails as they do. -/
theorem firstCreatedId_eq (t : Task) (key : String) :
    (∀ id, t.firstCreatedId key = .ok id ↔ ∃ later, t.createdIds key = .ok (id :: later)) ∧
      ∀ e, t.firstCreatedId key = .error e ↔ t.createdIds key = .error e := by
  unfold firstCreatedId
  rcases t.createdIds_cases key with ⟨raw, later, -, hids⟩ | ⟨-, hids⟩
  · rw [hids]
    simp
  · rw [hids]
    simp

section Resource
variable {α : Type} (decode : Decoder α)

/-- What a value of an unexpected shape is reported as. -/
def misshapen (t : Task) (key : String) (reason : DecodeError) : Error :=
  .decode ("Task " ++ t.id ++ " created resource " ++ cited key ++ " has unexpected shape" ++ ": " ++
    reason.message)

theorem createdResource_eq_ok_iff {a : α} :
    t.createdResource decode key = .ok a ↔
      ∃ v, t.entry? key = some v ∧ v ≠ .null ∧ decode v = .ok a := by
  unfold createdResource
  simp only [← and_assoc, ← created?_eq_some_iff]
  cases t.created? key with
  | none => simp
  | some v => simp [Envelope.explain_eq_ok]

theorem createdResource_eq_error_iff {e : Error} :
    t.createdResource decode key = .error e ↔
      (t.entry? key = none ∨ t.entry? key = some .null) ∧ e = t.missing key ∨
        ∃ v reason, t.entry? key = some v ∧ v ≠ .null ∧ decode v = .error reason ∧
          e = t.misshapen key reason := by
  unfold createdResource
  simp only [← and_assoc, ← created?_eq_some_iff, ← created?_eq_none_iff]
  cases t.created? key with
  | none => simp [eq_comm]
  | some v =>
    cases hdecode : decode v with
    | ok a => simp [Envelope.explain, hdecode]
    | error reason => simp [Envelope.explain, hdecode, misshapen, eq_comm]

end Resource

/-- **What a task created is told exactly.** The value of a decoded task under a key is the one its
body has. The identifiers under the key are read if the value is an array of strings, one at least,
and are those strings; in any other case they are missing, and nothing else. The first one is read
with them and fails as they do. A resource of any type is missing if there is no value or `null`,
and otherwise decodes or is misshapen. -/
theorem created_exact (t : Task) (key : String) :
    (∀ body, Envelope.whole record.decode body = .ok t →
      t.entry? key = (body.part? 3 "created_resources").bind fun v => v.get? key) ∧
    (∀ ids, t.createdIds key = .ok ids ↔
      ids ≠ [] ∧ t.entry? key = some (.array (ids.map .string))) ∧
    (∀ e, t.createdIds key = .error e ↔ e = .missingCreatedResource t.id key ∧
      ∀ ids, ids ≠ [] → t.entry? key ≠ some (.array (ids.map .string))) ∧
    (∀ id, t.firstCreatedId key = .ok id ↔ ∃ later, t.createdIds key = .ok (id :: later)) ∧
    (∀ e, t.firstCreatedId key = .error e ↔ t.createdIds key = .error e) ∧
    ∀ (α : Type) (decode : Decoder α),
      (∀ a, t.createdResource decode key = .ok a ↔
        ∃ v, t.entry? key = some v ∧ v ≠ .null ∧ decode v = .ok a) ∧
      ∀ e, t.createdResource decode key = .error e ↔
        (t.entry? key = none ∨ t.entry? key = some .null) ∧
            e = .missingCreatedResource t.id key ∨
          ∃ v reason, t.entry? key = some v ∧ v ≠ .null ∧ decode v = .error reason ∧
            e = t.misshapen key reason := by
  obtain ⟨hfirst, hfails⟩ := t.firstCreatedId_eq key
  refine ⟨fun _ => entry?_of_decode, fun ids => ?ids, fun e => ?missing, hfirst, hfails,
    fun α decode => ⟨fun a => createdResource_eq_ok_iff decode,
      fun e => createdResource_eq_error_iff decode⟩⟩
  case ids => rw [createdIds_eq_ok_iff, lists_iff]
  case missing =>
    rw [createdIds_eq_error_iff]
    simp only [lists_iff]
    rfl

end Task

end CloudApi
