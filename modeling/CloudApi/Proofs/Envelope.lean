import CloudApi.Page
import CloudApi.Proofs.Json.Record
import Mathlib.Data.List.Forall2

/-! What the envelopes of lists hold.

A list that is read was an array, and each of its items was read (`slice_eq_ok_iff`,
`items_eq_ok_iff`). A page has a continuation of its style, or none: links are what gives a link its
two texts (`IsLink`), a count is a natural number. A page that leads anywhere, or says that it is the
last one, has it in this form (`Page.continues_of_next`); what has another form does not decode, and
nothing else fails (`Page.isEmpty_eq_error`, `Page.next_eq_error`). -/
namespace CloudApi

namespace Json.Decoder
variable {α : Type}

/-- **A list decodes as what its items decode as.** -/
theorem items_eq_ok_iff {decode : Decoder α} {vs : List Json} {found : List α} :
    items decode vs = .ok found ↔ List.Forall₂ (fun v a => decode v = .ok a) vs found := by
  constructor
  · intro h
    induction vs generalizing found with
    | nil =>
      cases h
      exact .nil
    | cons v vs ih =>
      cases hv : decode v with
      | error e => simp [items, hv, bind, Except.bind] at h
      | ok a =>
        cases hrest : items decode vs with
        | error e => simp [items, hv, hrest, bind, Except.bind] at h
        | ok more =>
          simp only [items, hv, hrest, bind, Except.bind, Except.ok.injEq] at h
          exact h ▸ .cons hv (ih hrest)
  · intro h
    induction h with
    | nil => rfl
    | cons hv _ ih => simp only [items, hv, ih, bind, Except.bind]

end Json.Decoder

namespace Envelope

open Json

theorem explain_eq_ok {α : Type} {what : String} {r : Except DecodeError α} {a : α} :
    explain what r = .ok a ↔ r = .ok a := by
  cases r with
  | error e => exact iff_of_false (fun h => by cases h) (fun h => by cases h)
  | ok b => exact ⟨fun h => congrArg _ (Except.ok.inj h), fun h => congrArg _ (Except.ok.inj h)⟩

theorem explain_eq_error {α : Type} {what : String} {r : Except DecodeError α} {e : Error}
    (h : explain what r = .error e) : ∃ reason, e = .decode reason := by
  cases r with
  | error e' => exact ⟨_, (Except.error.inj h).symm⟩
  | ok a => cases h

section Slice
variable {body : Json} {label : String}

theorem slice_eq_ok_iff {vs : List Json} :
    slice body label = .ok vs ↔ body.get? label = some (.array vs) := by
  unfold slice
  split <;> simp_all

theorem slice_eq_error {e : Error} (h : slice body label = .error e) :
    ∃ reason, e = .decode reason := by
  unfold slice at h
  split at h
  · exact ⟨_, (Except.error.inj h).symm⟩
  · cases h
  · exact ⟨_, (Except.error.inj h).symm⟩

theorem items_eq_error {α : Type} {decode : Decoder α} {e : Error}
    (h : items decode body label = .error e) : ∃ reason, e = .decode reason := by
  unfold items at h
  cases hslice : slice body label with
  | error e' =>
    rw [hslice] at h
    obtain rfl := Except.error.inj h
    exact slice_eq_error hslice
  | ok vs =>
    rw [hslice] at h
    exact explain_eq_error h

theorem items_eq_ok {α : Type} {decode : Decoder α} {found : List α}
    (h : items decode body label = .ok found) : ∃ vs, body.get? label = some (.array vs) ∧
      List.Forall₂ (fun v a => decode v = .ok a) vs found := by
  unfold items at h
  cases hslice : slice body label with
  | error e =>
    rw [hslice] at h
    cases h
  | ok vs =>
    rw [hslice] at h
    exact ⟨vs, slice_eq_ok_iff.mp hslice, Decoder.items_eq_ok_iff.mp (explain_eq_ok.mp h)⟩

end Slice

/-! ### Continuations -/

/-- A value that gives a link its two texts, by their names or as a pair. -/
inductive IsLink : Json → Prop where
  | named {fields : List (String × Json)} {rel href : String}
    (hasRel : field? fields "rel" = some (.string rel))
    (hasHref : field? fields "href" = some (.string href)) : IsLink (.object fields)
  | paired (rel href : String) : IsLink (.array [.string rel, .string href])

/-- A continuation of a style: links to other pages, or a number of items; either may be left
out. -/
def Continues : PageStyle → Json → Prop
  | .linked, body => body.get? "links" = none ∨ body.get? "links" = some .null ∨
      ∃ vs, body.get? "links" = some (.array vs) ∧ ∀ v ∈ vs, IsLink v
  | .offset, body => body.get? "count" = none ∨ body.get? "count" = some .null ∨
      ∃ n, body.get? "count" = some (.number (.natural n))

theorem string_eq_ok {v : Json} {s : String} (h : Decoder.string v = .ok s) : v = .string s := by
  cases v with
  | string t => exact congrArg _ (Except.ok.inj h)
  | _ => cases h

theorem eq_of_reads_string {key : String} {part : Option Json} {s : String}
    (h : (Field.required key Decoder.string Json.string).Reads part s) :
    part = some (.string s) := by
  cases part with
  | none => cases h
  | some v => exact congrArg some (string_eq_ok h)

/-- What decodes as a link is one. -/
theorem isLink_of_decode {v : Json} {l : Link} (h : Link.record.decode v = .ok l) : IsLink v := by
  obtain ⟨⟨rel, href, ⟨⟩⟩, ⟨hrel, hhref, -⟩, -⟩ := Link.record.reads_of_decode h
  have hrel := eq_of_reads_string hrel
  have hhref := eq_of_reads_string hhref
  cases v with
  | object fields => exact .named hrel hhref
  | array items =>
    match items with
    | [] => cases hrel
    | [_] => cases hhref
    | [v, v'] =>
      obtain rfl := Option.some.inj hrel
      obtain rfl := Option.some.inj hhref
      exact .paired rel href
    | v :: v' :: _ :: _ =>
      obtain rfl := Option.some.inj hrel
      obtain rfl := Option.some.inj hhref
      cases h
  | _ => cases hrel

theorem continues_of_links {body : Json} {ls : List Link} (h : links body = .ok ls) :
    Continues .linked body := by
  unfold links at h
  split at h
  · next hnone => exact .inl hnone
  · next hnull => exact .inr (.inl hnull)
  · obtain ⟨vs, hvs, hdecode⟩ := items_eq_ok h
    have hlinks := hdecode.imp fun v l hl => And.intro (isLink_of_decode hl) hl
    exact .inr (.inr ⟨vs, hvs, ((List.forall₂_and_left vs ls).mp hlinks).1⟩)

theorem continues_of_count {body : Json} {total : Option UInt64} (h : count body = .ok total) :
    Continues .offset body := by
  unfold count at h
  split at h
  · next hnone => exact .inl hnone
  · next hnull => exact .inr (.inl hnull)
  · next n hn => exact .inr (.inr ⟨n, hn⟩)
  · cases h

theorem links_eq_error {body : Json} {e : Error} (h : links body = .error e) :
    ∃ reason, e = .decode reason := by
  unfold links at h
  split at h
  · cases h
  · cases h
  · exact items_eq_error h

theorem count_eq_error {body : Json} {e : Error} (h : count body = .error e) :
    ∃ reason, e = .decode reason := by
  unfold count at h
  split at h
  · cases h
  · cases h
  · cases h
  · exact ⟨_, (Except.error.inj h).symm⟩

end Envelope

/-! ### Pages -/

namespace Page
variable {p : Page} {style : PageStyle} {e : Error}

theorem isEmpty_eq_ok_iff {empty : Bool} : p.isEmpty = .ok empty ↔
    ∃ vs, p.body.get? "results" = some (.array vs) ∧ (vs.length == 0) = empty := by
  simp only [← Envelope.slice_eq_ok_iff]
  unfold isEmpty Envelope.resultsLength Envelope.sliceLength
  cases Envelope.slice p.body "results" <;> simp [Except.map]

theorem isEmpty_eq_error (h : p.isEmpty = .error e) : ∃ reason, e = .decode reason := by
  unfold isEmpty Envelope.resultsLength Envelope.sliceLength at h
  cases hslice : Envelope.slice p.body "results" with
  | error e' =>
    rw [hslice] at h
    obtain rfl := Except.error.inj h
    exact Envelope.slice_eq_error hslice
  | ok vs =>
    rw [hslice] at h
    cases h

/-- **A page that does not lead on in any form does not decode.** -/
theorem next_eq_error (h : p.next style = .error e) : ∃ reason, e = .decode reason := by
  cases style with
  | linked =>
    change p.nextLinked = _ at h
    unfold nextLinked at h
    cases hlinks : Envelope.links p.body with
    | error e' =>
      rw [hlinks] at h
      obtain rfl := Except.error.inj h
      exact Envelope.links_eq_error hlinks
    | ok ls =>
      simp only [hlinks, bind, Except.bind] at h
      split at h
      · cases h
      split at h
      · cases h
      · exact ⟨_, (Except.error.inj h).symm⟩
  | offset =>
    change p.nextOffset = _ at h
    unfold nextOffset at h
    cases hlength : Envelope.resultsLength p.body with
    | error e' =>
      rw [hlength] at h
      obtain rfl := Except.error.inj h
      exact isEmpty_eq_error (p := p) (by rw [isEmpty, hlength]; rfl)
    | ok length =>
      simp only [hlength, bind, Except.bind] at h
      split at h
      · cases h
      cases hcount : p.totalCount with
      | error e' =>
        rw [hcount] at h
        obtain rfl := Except.error.inj h
        exact Envelope.count_eq_error hcount
      | ok total =>
        simp only [hcount] at h
        split at h
        · cases h
        · cases h

/-- **A page that leads on, or says that it is the last one, has a continuation of its style.** The
length of its list is a word of 64 bits. -/
theorem continues_of_next {next : Option Url} {vs : List Json}
    (hresults : p.body.get? "results" = some (.array vs)) (hfull : vs ≠ [])
    (hfit : style = .offset → vs.length < UInt64.size) (h : p.next style = .ok next) :
    Envelope.Continues style p.body := by
  cases style with
  | linked =>
    change p.nextLinked = _ at h
    unfold nextLinked at h
    cases hlinks : Envelope.links p.body with
    | error e => simp only [hlinks, bind, Except.bind, reduceCtorEq] at h
    | ok ls => exact Envelope.continues_of_links hlinks
  | offset =>
    change p.nextOffset = _ at h
    have hlength : Envelope.resultsLength p.body = .ok vs.length := by
      rw [Envelope.resultsLength, Envelope.sliceLength, Envelope.slice_eq_ok_iff.mpr hresults]
      rfl
    have hnonzero : vs.length.toUInt64 ≠ 0 := by
      intro hzero
      have hvalue := congrArg UInt64.toNat hzero
      rw [Nat.toUInt64_eq, UInt64.toNat_ofNat', Nat.mod_eq_of_lt (hfit rfl)] at hvalue
      exact hfull (List.eq_nil_of_length_eq_zero hvalue)
    simp only [nextOffset, hlength, bind, Except.bind, if_neg hnonzero] at h
    cases hcount : p.totalCount with
    | error e => simp only [hcount, reduceCtorEq] at h
    | ok total => exact Envelope.continues_of_count hcount

end Page

end CloudApi
