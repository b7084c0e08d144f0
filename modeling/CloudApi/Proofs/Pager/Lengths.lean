import CloudApi.Proofs.Pager.Offset

/-! Counting a list and reading it agree.

A list is counted by its shape alone and read item by item. Both fail alike where there is no list
(`Envelope.eq_of_slice_eq_error`), and where there is one it is read exactly if each of its items is,
so that as many items come out as were counted (`Envelope.sliceLength_agrees`). A page is therefore
empty exactly if no items are read from it, and it leads to the offset behind those that are. -/
namespace CloudApi

namespace Json.Decoder
variable {α : Type} {decode : Decoder α}

/-- Nothing behind an item that fails is looked at. -/
theorem items_of_fault {before after : List Json} {v : Json} {e : DecodeError}
    (hbefore : ∀ u ∈ before, ∃ a, decode u = .ok a) (hv : decode v = .error e) :
    items decode (before ++ v :: after) = .error e := by
  induction before with
  | nil => simp only [List.nil_append, items, hv, bind, Except.bind]
  | cons u before ih =>
    obtain ⟨⟨a, hu⟩, hbefore⟩ := List.forall_mem_cons.mp hbefore
    simp only [List.cons_append, items, hu, ih hbefore, bind, Except.bind]

/-- A list that fails has a first item that does. -/
theorem exists_fault {vs : List Json} {e : DecodeError} (h : items decode vs = .error e) :
    ∃ before v after, vs = before ++ v :: after ∧ (∀ u ∈ before, ∃ a, decode u = .ok a) ∧
      decode v = .error e := by
  induction vs with
  | nil => cases h
  | cons w vs ih =>
    cases hw : decode w with
    | error why =>
      simp only [items, hw, bind, Except.bind] at h
      exact ⟨[], w, vs, rfl, List.forall_mem_nil _, hw.trans (congrArg _ (Except.error.inj h))⟩
    | ok a =>
      cases hrest : items decode vs with
      | ok as => simp only [items, hw, hrest, bind, Except.bind, reduceCtorEq] at h
      | error why =>
        simp only [items, hw, hrest, bind, Except.bind] at h
        obtain rfl := Except.error.inj h
        obtain ⟨before, v, after, rfl, hbefore, hv⟩ := ih hrest
        exact ⟨w :: before, v, after, rfl, List.forall_mem_cons.mpr ⟨⟨a, hw⟩, hbefore⟩, hv⟩

/-- **A list fails as the first of its items that fails.** -/
theorem items_eq_error_iff {vs : List Json} {e : DecodeError} :
    items decode vs = .error e ↔ ∃ before v after, vs = before ++ v :: after ∧
      (∀ u ∈ before, ∃ a, decode u = .ok a) ∧ decode v = .error e := by
  refine ⟨exists_fault, ?_⟩
  rintro ⟨before, v, after, rfl, hbefore, hv⟩
  exact items_of_fault hbefore hv

/-- A list decodes if each of its items does, and not otherwise. -/
theorem exists_items_iff {vs : List Json} :
    (∃ found, items decode vs = .ok found) ↔ ∀ v ∈ vs, ∃ a, decode v = .ok a := by
  constructor
  · rintro ⟨found, hfound⟩ v hv
    obtain ⟨i, hi, rfl⟩ := List.getElem_of_mem hv
    have hdecode := items_eq_ok_iff.mp hfound
    exact ⟨_, hdecode.get hi (hdecode.length_eq ▸ hi)⟩
  · intro hall
    cases hitems : items decode vs with
    | ok found => exact ⟨found, rfl⟩
    | error e =>
      obtain ⟨before, v, after, rfl, -, hv⟩ := exists_fault hitems
      obtain ⟨a, ha⟩ := hall v (List.mem_append_right before List.mem_cons_self)
      cases hv.symm.trans ha

end Json.Decoder

namespace Envelope

open Json

variable {α : Type} {decode : Decoder α} {body : Json} {label : String}

/-! ### Lists under a label -/

/-- What there is instead of a list decides how reading and counting fail. -/
theorem eq_of_slice_eq_error {e : Error} (h : slice body label = .error e) :
    (body.get? label = none ∧
        e = .decode ("Response body has no " ++ cited label ++ " field")) ∨
      ∃ v, body.get? label = some v ∧ (∀ vs, v ≠ .array vs) ∧
        e = .decode ("Field " ++ cited label ++ " is not an array") := by
  unfold slice at h
  split at h
  · next hnone => exact .inl ⟨hnone, (Except.error.inj h).symm⟩
  · cases h
  · next v hother hv =>
    exact .inr ⟨v, hv, fun vs hvs => hother vs hvs, (Except.error.inj h).symm⟩

theorem explain_eq_error_iff {what : String} {r : Except DecodeError α} {e : Error} :
    explain what r = .error e ↔
      ∃ why, r = .error why ∧ e = .decode (what ++ ": " ++ why.message) := by
  cases r with
  | ok a => simp [explain]
  | error why => simp [explain, eq_comm]

theorem sliceLength_eq_error {e : Error} :
    sliceLength body label = .error e ↔ slice body label = .error e := by
  unfold sliceLength
  cases slice body label <;> simp [Except.map]

theorem sliceLength_eq_ok {n : Nat} :
    sliceLength body label = .ok n ↔ ∃ vs, body.get? label = some (.array vs) ∧ vs.length = n := by
  simp only [← slice_eq_ok_iff]
  unfold sliceLength
  cases slice body label <;> simp [Except.map]

theorem items_of_slice_eq_error {e : Error} (h : slice body label = .error e) :
    items decode body label = .error e := by
  rw [items, h]
  rfl

theorem items_of_array {vs : List Json} (h : body.get? label = some (.array vs)) :
    items decode body label =
      explain ("Failed to decode " ++ cited label) (Decoder.items decode vs) := by
  rw [items, slice_eq_ok_iff.mpr h]
  rfl

end Envelope

namespace Page
variable {α : Type} {decode : Json.Decoder α} {p : Page} {found : List α}

/-! ### Pages -/

/-- A page is empty if no items are read from it, and not otherwise. -/
theorem isEmpty_of_items (h : p.items decode = .ok found) : p.isEmpty = .ok found.isEmpty := by
  obtain ⟨vs, hvs, hdecode⟩ := Envelope.items_eq_ok h
  rw [isEmpty_eq_ok_iff]
  refine ⟨vs, hvs, ?_⟩
  rw [hdecode.length_eq]
  cases found <;> rfl

/-- A page leads to the offset behind the items that are read from it. -/
theorem numericParam_of_items {u : Url} (h : p.items decode = .ok found)
    (hnext : p.next .offset = .ok (some u)) :
    u.numericParam "offset" = some (p.offset + found.length.toUInt64) := by
  obtain ⟨vs, hvs, hdecode⟩ := Envelope.items_eq_ok h
  obtain ⟨vs', hvs', rfl⟩ := eq_of_next_offset hnext
  obtain rfl := Json.array.inj (Option.some.inj (hvs.symm.trans hvs'))
  have hword := (p.offset + vs.length.toUInt64).toNat_lt
  rw [Url.numericParam_replaceParam, Text.Numeral.decimalText, String.toList_ofList,
    Text.Numeral.uint64?_decimal hword, Nat.toUInt64_eq, UInt64.ofNat_toNat, hdecode.length_eq]

/-- The offset moves on by as many items as are read. -/
theorem asked_of_items {u : Url} (h : p.items decode = .ok found)
    (hnext : p.next .offset = .ok (some u)) (hfit : p.url.asked + found.length < 2 ^ 64) :
    u.asked = p.url.asked + found.length := by
  have hlength : found.length.toUInt64.toNat = found.length :=
    UInt64.toNat_ofNat_of_lt' ((Nat.le_add_left _ _).trans_lt hfit)
  rw [Url.asked, numericParam_of_items h hnext, Option.getD_some, UInt64.toNat_add, hlength]
  exact Nat.mod_eq_of_lt hfit

end Page

/-- **Counting a list and reading it agree.** Where there is no list under a label, both fail, with
one error that tells a field that is missing from one that is no list. Where there is one, it is
counted whatever its items are; it is read as the values of its items, one for each, and if one of
them does not decode, then with the error of the first that does not. So no items are read from a
page exactly if it counts as empty, and the page that follows by offset begins behind as many items
as were read, in words of 64 bits. -/
theorem Envelope.sliceLength_agrees {α : Type} (decode : Json.Decoder α) :
    (∀ body label,
      match Envelope.sliceLength body label with
      | .error e => Envelope.items decode body label = .error e ∧
          ((body.get? label = none ∧
              e = .decode ("Response body has no " ++ Json.cited label ++ " field")) ∨
            ∃ v, body.get? label = some v ∧ (∀ vs, v ≠ .array vs) ∧
              e = .decode ("Field " ++ Json.cited label ++ " is not an array"))
      | .ok n => ∃ vs, body.get? label = some (.array vs) ∧ vs.length = n ∧
          (∀ found, Envelope.items decode body label = .ok found ↔
            List.Forall₂ (fun v a => decode v = .ok a) vs found) ∧
          ((∃ found, Envelope.items decode body label = .ok found) ↔
            ∀ v ∈ vs, ∃ a, decode v = .ok a) ∧
          ∀ e, Envelope.items decode body label = .error e ↔
            ∃ before v after why, vs = before ++ v :: after ∧
              (∀ u ∈ before, ∃ a, decode u = .ok a) ∧ decode v = .error why ∧
              e = .decode ("Failed to decode " ++ Json.cited label ++ ": " ++ why.message)) ∧
    ∀ (p : Page) found, p.items decode = .ok found →
      p.isEmpty = .ok found.isEmpty ∧
      ∀ u, p.next .offset = .ok (some u) →
        u.numericParam "offset" = some (p.offset + found.length.toUInt64) ∧
        (p.url.asked + found.length < 2 ^ 64 → u.asked = p.url.asked + found.length) := by
  refine ⟨fun body label => ?_, fun p found hfound => ⟨Page.isEmpty_of_items hfound,
    fun u hnext => ⟨Page.numericParam_of_items hfound hnext,
      Page.asked_of_items hfound hnext⟩⟩⟩
  cases hlength : Envelope.sliceLength body label with
  | error e =>
    have hslice := Envelope.sliceLength_eq_error.mp hlength
    exact ⟨Envelope.items_of_slice_eq_error hslice, Envelope.eq_of_slice_eq_error hslice⟩
  | ok n =>
    obtain ⟨vs, hvs, hn⟩ := Envelope.sliceLength_eq_ok.mp hlength
    have hitems : Envelope.items decode body label = _ := Envelope.items_of_array hvs
    refine ⟨vs, hvs, hn, fun found => ?_, ?_, fun e => ?_⟩
    · rw [hitems, Envelope.explain_eq_ok, Json.Decoder.items_eq_ok_iff]
    · simp only [hitems, Envelope.explain_eq_ok, Json.Decoder.exists_items_iff]
    · rw [hitems, Envelope.explain_eq_error_iff]
      simp only [Json.Decoder.items_eq_error_iff]
      constructor
      · rintro ⟨why, ⟨before, v, after, hsplit, hbefore, hv⟩, he⟩
        exact ⟨before, v, after, why, hsplit, hbefore, hv, he⟩
      · rintro ⟨before, v, after, why, hsplit, hbefore, hv, he⟩
        exact ⟨why, ⟨before, v, after, hsplit, hbefore, hv⟩, he⟩

/-- Two numbers from the second of five on, and the same two with a word between them: that list is
counted and leads on, and is not read. -/
theorem Envelope.sliceLength_agrees_of_numbers :
    let url : Url := { serviceUrl ["v1"] with query := some "offset=1&limit=2".toList }
    let body (vs : List Json) : Json := .object [("count", .nat 5), ("results", .array vs)]
    let page : Page := ⟨url, body [.nat 7, .nat 8]⟩
    let mixed : Json := body [.nat 7, .string "a", .nat 8]
    (∃ u, page.items Json.Decoder.uint64 = .ok [7, 8] ∧ page.next .offset = .ok (some u) ∧
      page.isEmpty = .ok false ∧ u.numericParam "offset" = some 3 ∧ u.asked = 3) ∧
    Envelope.sliceLength mixed "results" = .ok 3 ∧
    Envelope.items Json.Decoder.uint64 mixed "results" = .error (.decode
      "Failed to decode `results`: invalid type: string \"a\", expected u64") := by
  intro url body page mixed
  obtain ⟨hlists, hpages⟩ := Envelope.sliceLength_agrees Json.Decoder.uint64
  have hitems : page.items Json.Decoder.uint64 = .ok [7, 8] := rfl
  have hlength : Envelope.sliceLength mixed "results" = .ok 3 := rfl
  refine ⟨?_, hlength, ?_⟩
  · obtain ⟨hempty, hoffset⟩ := hpages page [7, 8] hitems
    have hnext : page.next .offset = .ok (some (url.replaceParam "offset" "3")) := by
      decide +kernel
    obtain ⟨hparam, hasked⟩ := hoffset _ hnext
    have hstart : page.offset = 1 ∧ url.asked = 1 := by decide +kernel
    refine ⟨_, hitems, hnext, hempty, ?_, ?_⟩
    · rw [hparam, hstart.1]
      rfl
    · have hsum := hasked (by rw [hstart.2]; decide)
      rw [hsum, hstart.2]
      rfl
  · obtain ⟨vs, hvs, -, -, -, herror⟩ := (hlength ▸ hlists mixed "results" :)
    obtain rfl := Json.array.inj (Option.some.inj hvs)
    rw [herror]
    exact ⟨[.nat 7], .string "a", [.nat 8], _, rfl,
      List.forall_mem_singleton.mpr ⟨7, rfl⟩, rfl, by decide +kernel⟩

end CloudApi
