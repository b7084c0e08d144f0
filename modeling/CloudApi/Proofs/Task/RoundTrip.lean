import CloudApi.Proofs.Json.Record
import CloudApi.Proofs.Task.Created
import CloudApi.Proofs.Text.Utf8
import CloudApi.Proofs.Timestamp.Field
import Mathlib.Data.List.Forall2

/-! Tasks are decoded from what they are encoded as.

A state that came as a text is a known one if the text spells it in any case of its letters, and
keeps the text otherwise (`TaskState.cameAs_ofText`). All other fields of a task read back whatever
they read, a time if its year has four digits at most (`Task.readsBack_of_reads`), so that a decoded
task is decoded again from its own JSON (`Task.decode_encode_of_decode`). -/
namespace CloudApi

open Text

/-! ### States -/

namespace TaskState

/-- A name in capitals is spelled by a text that has each letter as it is or as its small letter. -/
def Spells (name raw : String) : Prop :=
  List.Forall₂ (fun c d => d = c ∨ d.toNat = c.toNat + 32) name.toList raw.toList

/-- The states that have a name of their own. -/
def named : List TaskState :=
  [new, running, finished, error]

/-- What a state is that came as a text. -/
structure CameAs (s : TaskState) (raw : String) : Prop where
  known : ∀ k ∈ named, Spells k.text raw → s = k
  other : (∀ k ∈ named, ¬ Spells k.text raw) →
    s = .unknown raw ∧ s.text = raw ∧ s.isTerminal = false

/-- A letter is a capital after the change just if it was that capital or its small letter. -/
theorem capital_eq_iff {c d : Char} (hc : 'A' ≤ c ∧ c ≤ 'Z') :
    (if 'a' ≤ d ∧ d ≤ 'z' then Char.ofNat (d.toNat - 32) else d) = c ↔
      d = c ∨ d.toNat = c.toNat + 32 := by
  have hcapital : 65 ≤ c.toNat ∧ c.toNat ≤ 90 := hc
  by_cases hsmall : 'a' ≤ d ∧ d ≤ 'z'
  · have hlower : 97 ≤ d.toNat ∧ d.toNat ≤ 122 := hsmall
    have hvalid : (d.toNat - 32).isValidChar := .inl (by omega)
    rw [if_pos hsmall]
    constructor
    · rintro rfl
      have hback := toNat_charOfNat hvalid
      right
      omega
    · rintro (rfl | hshift)
      · omega
      · rw [hshift, Nat.add_sub_cancel, Char.ofNat_toNat]
  · rw [if_neg hsmall]
    refine ⟨.inl, fun h => h.resolve_right fun hshift => hsmall ?_⟩
    show 97 ≤ d.toNat ∧ d.toNat ≤ 122
    omega

theorem capitals_eq_iff {name raw : String} (hname : ∀ c ∈ name.toList, 'A' ≤ c ∧ c ≤ 'Z') :
    Caseless.capitals raw = name.toList ↔ Spells name raw := by
  unfold Caseless.capitals Spells
  generalize name.toList = cs at hname ⊢
  generalize raw.toList = ds
  induction cs generalizing ds with
  | nil => cases ds <;> simp
  | cons c cs ih =>
    obtain ⟨hc, hcs⟩ := List.forall_mem_cons.mp hname
    cases ds with
    | nil => simp
    | cons d ds =>
      rw [List.map_cons, List.cons.injEq, List.forall₂_cons, capital_eq_iff hc, ih hcs]

theorem spells_text_iff {k : TaskState} (hk : k ∈ named) {raw : String} :
    Spells k.text raw ↔ Caseless.capitals raw = k.text.toList := by
  refine (capitals_eq_iff fun c hc => ?_).symm
  have hall : (k.text.toList.all fun c => decide ('A' ≤ c ∧ c ≤ 'Z')) = true := by
    simp only [named, List.mem_cons, List.not_mem_nil, or_false] at hk
    rcases hk with rfl | rfl | rfl | rfl <;> decide
  simpa using List.all_eq_true.mp hall c hc

/-- **A state is known if its text spells a known name**, in any case of its letters; any other text
is kept, and the state goes on. -/
theorem cameAs_ofText (raw : String) : (ofText raw).CameAs raw where
  known k hk hspells := by
    have hcapitals := (spells_text_iff hk).mp hspells
    unfold ofText
    rw [hcapitals]
    simp only [named, List.mem_cons, List.not_mem_nil, or_false] at hk
    rcases hk with rfl | rfl | rfl | rfl <;> rfl
  other hnone := by
    have hother {k : TaskState} (hk : k ∈ named) : Caseless.capitals raw ≠ k.text.toList :=
      fun heq => hnone k hk ((spells_text_iff hk).mpr heq)
    have hnew : Caseless.capitals raw ≠ "NEW".toList := hother (k := new) (by decide)
    have hrunning : Caseless.capitals raw ≠ "RUNNING".toList := hother (k := running) (by decide)
    have hfinished : Caseless.capitals raw ≠ "FINISHED".toList :=
      hother (k := finished) (by decide)
    have herror : Caseless.capitals raw ≠ "ERROR".toList := hother (k := error) (by decide)
    have hraw : ofText raw = .unknown raw := by
      unfold ofText
      dsimp only
      rw [if_neg hnew, if_neg hrunning, if_neg hfinished, if_neg herror]
    rw [hraw]
    exact ⟨rfl, rfl, rfl⟩

/-- A state is read back from its text. -/
theorem ofText_text (raw : String) : ofText (ofText raw).text = ofText raw := by
  by_cases hknown : ∃ k ∈ named, Spells k.text raw
  · obtain ⟨k, hk, hspells⟩ := hknown
    rw [(cameAs_ofText raw).known k hk hspells]
    simp only [named, List.mem_cons, List.not_mem_nil, or_false] at hk
    rcases hk with rfl | rfl | rfl | rfl <;> decide
  · have hnone : ∀ k ∈ named, ¬ Spells k.text raw := fun k hk hspells => hknown ⟨k, hk, hspells⟩
    rw [((cameAs_ofText raw).other hnone).2.1]

end TaskState

/-! ### Tasks -/

namespace Task

open Json

def times (t : Task) : List Timestamp :=
  t.createdOn.toList ++ t.updatedOn.toList ++ t.finishedOn.toList

theorem keys_nodup : record.fields.keys.Nodup := by decide

/-- A state is read from a text. -/
theorem exists_of_reads_state {key : String} {part : Option Json} {s : TaskState}
    (h : (Field.required key TaskState.decoder TaskState.encode).Reads part s) :
    ∃ raw, part = some (.string raw) ∧ s = TaskState.ofText raw := by
  cases part with
  | none => cases h
  | some v =>
    change TaskState.decoder v = .ok s at h
    cases v with
    | string raw => exact ⟨raw, rfl, (Except.ok.inj h).symm⟩
    | _ => cases h

/-- **Whatever the fields of a task read they read back**, if all times have a year of four digits
at most. -/
theorem readsBack_of_reads {parts : Nat → String → Option Json} {row : Row record.shape}
    (h : record.fields.Reads parts 0 row)
    (hyears : ∀ time ∈ (record.build row).times, 0 ≤ time.date.year ∧ time.date.year ≤ 9999) :
    record.fields.ReadsBack row := by
  obtain ⟨id, state, kind, created, error, request, user, client, project, region, acknowledgedBy,
    createdOn, updatedOn, finishedOn, data, ⟨⟩⟩ := row
  obtain ⟨-, hstate, -, -, -, -, -, -, -, -, -, -, -, -, hdata, -⟩ := h
  have htext (key : String) (s? : Option String) :
      (Field.optional key Decoder.string Json.string).ReadsBack s? :=
    Field.readsBack_optional fun s _ => ⟨nofun, rfl⟩
  have hnumber (key : String) (n? : Option UInt64) :
      (Field.optional key Decoder.uint64 nat).ReadsBack n? :=
    Field.readsBack_optional fun n _ => ⟨nofun, rfl⟩
  refine ⟨rfl, ?state, htext _ kind, ?created, htext _ error, htext _ request, hnumber _ user,
    hnumber _ client, hnumber _ project, hnumber _ region, hnumber _ acknowledgedBy, ?createdOn,
    ?updatedOn, ?finishedOn, ?data, trivial⟩
  case state =>
    obtain ⟨raw, -, rfl⟩ := exists_of_reads_state hstate
    exact congrArg Except.ok (TaskState.ofText_text raw)
  case created => exact Field.readsBack_optional fun fields _ => ⟨nofun, rfl⟩
  case createdOn =>
    exact Timestamp.readsBack_of_year fun time htime => hyears time (by simp [times, record, htime])
  case updatedOn =>
    exact Timestamp.readsBack_of_year fun time htime => hyears time (by simp [times, record, htime])
  case finishedOn =>
    exact Timestamp.readsBack_of_year fun time htime => hyears time (by simp [times, record, htime])
  case data =>
    refine Field.readsBack_optional fun v hv => ⟨?_, rfl⟩
    subst hv
    obtain ⟨w, hnull, hw⟩ := Field.exists_of_reads_optional hdata
    obtain rfl : w = v := Except.ok.inj hw
    exact hnull

/-- Under all keys but those of identifier and state `null` stands for nothing. -/
theorem nullableAt {key : String} (hid : key ≠ "id") (hstate : key ≠ "state") :
    record.fields.NullableAt key := by
  have hoptional {α : Type} {k : String} {decode : Decoder α} {encode : α → Json} :
      (Field.optional k decode encode).key = key → (Field.optional k decode encode).Nullable :=
    fun _ => Field.nullable_optional
  have htime {k : String} : (Timestamp.field k).key = key → (Timestamp.field k).Nullable :=
    fun _ => ⟨none, rfl, rfl⟩
  exact ⟨fun heq => absurd heq.symm hid, fun heq => absurd heq.symm hstate, hoptional, hoptional,
    hoptional, hoptional, hoptional, hoptional, hoptional, hoptional, hoptional, htime, htime, htime,
    hoptional, trivial⟩

/-- Behind identifier and state `null` stands for nothing. -/
theorem nullableBehind {n : Nat} (hle : 2 ≤ n) (hlt : n < 15) : record.fields.NullableBehind n := by
  interval_cases n <;> exact ⟨none, rfl, rfl⟩

/-- The text of the state is under its key. -/
theorem get?_encode_state (t : Task) :
    (record.encode t).get? "state" = some (.string t.state.text) := by
  have hwritten := (record.fields.keys_encode_sublist (record.parts t)).nodup keys_nodup
  show field? (sortFields (record.fields.encode (record.parts t))) "state" = _
  rw [field?_sortFields hwritten]
  rfl

/-- A time is read from the text of a stamp. -/
theorem time_of_reads {key text : String} {time : Option Timestamp} {d : Date} {minute : Fin 1440}
    {second : Fin 61} {fraction : List Char} {nano : Fin 1000000000}
    (h : (Timestamp.field key).Reads (some (.string text)) time)
    (hyear : 0 ≤ d.year ∧ d.year ≤ 9999) (hspells : Timestamp.Spells fraction nano)
    (htext : text.toList = Timestamp.stamp d minute second (fraction ++ ['Z']) ∨
      text.toList = Timestamp.stamp d minute second fraction) :
    time = some ⟨d, minute, second, nano⟩ := by
  have hread : Timestamp.read text = .ok ⟨d, minute, second, nano⟩ := by
    obtain ⟨hoffset, hnaive⟩ := Timestamp.read_stamp hyear minute second hspells
    unfold Timestamp.read
    rcases htext with htext | htext
    · rw [htext, hoffset]
    · rw [htext, hnaive]
  have hdecode : (Timestamp.field key).decode (.string text) = .ok time := h
  have hfield : (Timestamp.field key).decode = Timestamp.decoder := rfl
  rw [hfield, Timestamp.decoder_string, hread] at hdecode
  exact (Except.ok.inj hdecode).symm

/-- What is kept of the JSON of a task when it is decoded and encoded again. -/
structure Keeps (v : Json) (t : Task) : Prop where
  again : Envelope.whole record.decode (record.encode t) = .ok t
  same : ∀ u, Envelope.whole record.decode (record.encode t) = .ok u →
    record.encode u = record.encode t
  /-- The state is the one the text names, or keeps the text. -/
  state : ∃ raw, v.part? 1 "state" = some (.string raw) ∧ t.state.CameAs raw ∧
    (record.encode t).get? "state" = some (.string t.state.text)
  /-- Nothing tells `null` from an absent field. -/
  object : ∀ fields key, key ≠ "id" → key ≠ "state" → field? fields key = none →
    v = .object fields ∨ v = .object (insertField key .null fields) →
    Envelope.whole record.decode (.object fields) = .ok t ∧
      Envelope.whole record.decode (.object (insertField key .null fields)) = .ok t
  array : ∀ items, 2 ≤ items.length → items.length < 15 →
    v = .array items ∨ v = .array (items ++ [.null]) →
    Envelope.whole record.decode (.array items) = .ok t ∧
      Envelope.whole record.decode (.array (items ++ [.null])) = .ok t
  /-- Leap seconds and nanoseconds are those of the text, whatever digits it has behind them. -/
  time : ∀ place key time, (place, key, time) ∈ [(11, "created_on", t.createdOn),
      (12, "updated_on", t.updatedOn), (13, "finished_on", t.finishedOn)] →
    ∀ text d minute second fraction nano, v.part? place key = some (.string text) →
      0 ≤ d.year ∧ d.year ≤ 9999 → Timestamp.Spells fraction nano →
      text.toList = Timestamp.stamp d minute second (fraction ++ ['Z']) ∨
        text.toList = Timestamp.stamp d minute second fraction →
      time = some ⟨d, minute, second, nano⟩

/-- **Decoding undoes encoding.** A task that was decoded is decoded again from its own JSON, if all
its times have a year of four digits at most. -/
theorem decode_encode_of_decode {v : Json} {t : Task} (h : Envelope.whole record.decode v = .ok t)
    (hyears : ∀ time ∈ t.times, 0 ≤ time.date.year ∧ time.date.year ≤ 9999) : Keeps v t := by
  have hdecode := Envelope.explain_eq_ok.mp h
  obtain ⟨row, hreads, rfl⟩ := record.reads_of_decode hdecode
  have hparts : record.parts (record.build row) = row := by
    obtain ⟨_, _, _, _, _, _, _, _, _, _, _, _, _, _, _, ⟨⟩⟩ := row
    rfl
  have hagain : Envelope.whole record.decode (record.encode (record.build row)) =
      .ok (record.build row) := Envelope.explain_eq_ok.mpr
    (record.decode_encode keys_nodup hparts (readsBack_of_reads hreads hyears))
  refine ⟨hagain, fun u hu => ?same, ?state, fun fields key hid hstate hnone hv => ?object,
    fun items hle hlt hv => ?array, fun place key time hmem text d minute second fraction nano hpart
      hyear hspells htext => ?time⟩
  case same => rw [Except.ok.inj (hu.symm.trans hagain)]
  case state =>
    obtain ⟨-, hstate, -⟩ := hreads
    obtain ⟨raw, hpart, hraw⟩ := exists_of_reads_state hstate
    refine ⟨raw, hpart, ?_, get?_encode_state _⟩
    have hsame : (record.build row).state = TaskState.ofText raw := hraw
    rw [hsame]
    exact TaskState.cameAs_ofText raw
  case object =>
    have heq := record.decode_insertField_null (nullableAt hid hstate) hnone
    have hfields : record.decode (.object fields) = .ok (record.build row) := by
      rcases hv with rfl | rfl
      · exact hdecode
      · rw [← heq, hdecode]
    exact ⟨Envelope.explain_eq_ok.mpr hfields, Envelope.explain_eq_ok.mpr (heq.trans hfields)⟩
  case array =>
    have heq := record.decode_append_null (nullableBehind hle hlt)
    have hitems : record.decode (.array items) = .ok (record.build row) := by
      rcases hv with rfl | rfl
      · exact hdecode
      · rw [← heq, hdecode]
    exact ⟨Envelope.explain_eq_ok.mpr hitems, Envelope.explain_eq_ok.mpr (heq.trans hitems)⟩
  case time =>
    obtain ⟨-, -, -, -, -, -, -, -, -, -, -, hcreated, hupdated, hfinished, -⟩ := hreads
    simp only [List.mem_cons, Prod.mk.injEq, List.not_mem_nil, or_false] at hmem
    rcases hmem with ⟨rfl, rfl, rfl⟩ | ⟨rfl, rfl, rfl⟩ | ⟨rfl, rfl, rfl⟩
    · exact time_of_reads (hpart ▸ hcreated) hyear hspells htext
    · exact time_of_reads (hpart ▸ hupdated) hyear hspells htext
    · exact time_of_reads (hpart ▸ hfinished) hyear hspells htext

/-- A body with a state of no name in odd letters, a leap second with more digits than are kept, a
`null` and a field that no task has. -/
def oddBody : Json :=
  .object [("created_on", .string "2016-12-31T23:59:60.12345678912"), ("data", .null),
    ("extra", .bool true), ("id", .string "t"), ("state", .string "pAuSed"), ("user_id", nat 7)]

def oddTask : Task where
  id := "t"
  state := .unknown "pAuSed"
  kind := none
  created := none
  error := none
  request := none
  user := some 7
  client := none
  project := none
  region := none
  acknowledgedBy := none
  createdOn := some
    ⟨⟨2016, 12, 31, by decide⟩, ⟨1439, by decide⟩, ⟨60, by decide⟩, ⟨123456789, by decide⟩⟩
  updatedOn := none
  finishedOn := none
  data := none

theorem decode_encode_of_oddBody :
    Envelope.whole record.decode oddBody = .ok oddTask ∧
      Envelope.whole record.decode (record.encode oddTask) = .ok oddTask ∧
      (record.encode oddTask).get? "state" = some (.string "pAuSed") ∧
      (record.encode oddTask).get? "created_on" =
        some (.string "2016-12-31T23:59:60.123456789Z") ∧
      (record.encode oddTask).get? "data" = none := by
  have hdecode : Envelope.whole record.decode oddBody = .ok oddTask := by decide +kernel
  have hyears : ∀ time ∈ oddTask.times, 0 ≤ time.date.year ∧ time.date.year ≤ 9999 := by decide
  refine ⟨hdecode, (decode_encode_of_decode hdecode hyears).again, ?_, ?_, ?_⟩ <;> decide +kernel

end Task

end CloudApi
