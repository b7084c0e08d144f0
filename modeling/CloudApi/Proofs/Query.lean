import CloudApi.Proofs.Url.Form
import CloudApi.Query

/-! Collected parameters end up behind those of the URL, in order.

A query is collected by calls, each of which adds the pairs it stands for (`Call.pairs`) behind what
was collected before (`pairs_run`), so that a list of calls adds the pairs of all of them. Applied to
a URL they are written behind the query it has, one ampersand between two parts
(`foldl_append_eq`), and are read back as they were collected (`applyTo_appends`). -/
namespace CloudApi

namespace Query

open Text

/-! ### Calls -/

/-- A value of a parameter. -/
inductive Value where
  | word (s : String)
  | flag (b : Bool)
  | number (n : Int)

/-- How a value is handed over. -/
def Value.text : Value → String
  | word s => s
  | flag b => boolText b
  | number (.ofNat n) => Numeral.decimalText n
  | number (.negSucc n) => "-" ++ Numeral.decimalText (n + 1)

/-- How a value is usually shown. -/
def Value.shown : Value → String
  | word s => s
  | flag b => toString b
  | number n => toString n

theorem Value.text_eq_shown (v : Value) : v.text = v.shown := by
  cases v with
  | word s => rfl
  | flag b => cases b <;> rfl
  | number n =>
    cases n with
    | ofNat n => exact Numeral.decimalText_eq n
    | negSucc n => exact congrArg ("-" ++ ·) (Numeral.decimalText_eq (n + 1))

/-- A call that collects parameters: one, one that may be left out, or one key for many values. -/
inductive Call where
  | push (key : String) (value : Value)
  | pushOption (key : String) (value : Option Value)
  | pushAll (key : String) (values : List Value)

def Call.run (q : Query) : Call → Query
  | push key value => q.push key value.text
  | pushOption key value => q.pushOption key (value.map Value.text)
  | pushAll key values => q.pushAll key (values.map Value.text)

/-- The pairs that a call stands for. -/
def Call.pairs : Call → List (String × String)
  | push key value => [(key, value.shown)]
  | pushOption key value => value.toList.map fun value => (key, value.shown)
  | pushAll key values => values.map fun value => (key, value.shown)

/-- What a list of calls collects. -/
def collected (calls : List Call) : Query :=
  calls.foldl Call.run empty

theorem pairs_pushOption (q : Query) (key : String) (value : Option String) :
    (q.pushOption key value).pairs = q.pairs ++ value.toList.map fun value => (key, value) := by
  cases value with
  | none => exact (List.append_nil _).symm
  | some value => rfl

/-- A call adds its pairs behind those collected before. -/
theorem pairs_run (q : Query) (call : Call) : (call.run q).pairs = q.pairs ++ call.pairs := by
  cases call with
  | push key value =>
    rw [Call.pairs, ← value.text_eq_shown]
    rfl
  | pushOption key value =>
    rw [Call.run, pairs_pushOption, Call.pairs, Option.toList_map, List.map_map]
    simp only [Function.comp_def, Value.text_eq_shown]
  | pushAll key values =>
    show q.pairs ++ (values.map Value.text).map (fun value => (key, value)) = _
    rw [Call.pairs, List.map_map]
    simp only [Function.comp_def, Value.text_eq_shown]

theorem pairs_foldl_run (q : Query) (calls : List Call) :
    (calls.foldl Call.run q).pairs = q.pairs ++ calls.flatMap Call.pairs := by
  induction calls generalizing q with
  | nil => exact (List.append_nil _).symm
  | cons call calls ih =>
    rw [List.foldl_cons, ih, pairs_run, List.append_assoc, List.flatMap_cons]

theorem pairs_collected (calls : List Call) :
    (collected calls).pairs = calls.flatMap Call.pairs :=
  pairs_foldl_run empty calls

/-- **Collected parameters end up behind those of the URL, in order.** A URL is read with the pairs it
had and then those of the calls. Nothing is collected exactly if no call stands for a pair, and the
URL is then as it was. Otherwise nothing but its query has changed: it has the query it had, if that
was not empty, and the pairs, with ampersands between them. -/
theorem applyTo_appends (u : Url) (calls : List Call) :
    let added := calls.flatMap Call.pairs
    ((collected calls).applyTo u).queryPairs = u.queryPairs ++ added ∧
      ((collected calls).isEmpty ↔ added = []) ∧
      (collected calls).applyTo u =
        if added = [] then u
        else { u with
          query := some (Url.Address.joinWith '&'
            ([u.query.getD []].filter (· ≠ []) ++ added.map Url.Form.encodePair)) } := by
  intro added
  have hpairs : (collected calls).pairs = added := pairs_collected calls
  refine ⟨?_, ?_, ?_⟩
  · rw [applyTo, Url.queryPairs_appendPairs, hpairs]
  · rw [isEmpty, hpairs, List.isEmpty_iff]
  · rw [applyTo, hpairs, Url.appendPairs, Url.Form.foldl_append_eq]
    simp only [List.isEmpty_iff]

/-- A query that ends in an ampersand, a key twice, one that is left out and a fragment. -/
example :
    let u : Url := ⟨"https".toList, some ⟨[], [], .name "h".toList, none⟩, .segments ["x".toList],
      some "bare&".toList, some "f".toList⟩
    ((collected [.push "k" (.word "a&b=c"), .pushOption "left" none,
      .pushAll "k" [.flag true, .number (-5)]]).applyTo u).text =
        "https://h/x?bare&&k=a%26b%3Dc&k=true&k=-5#f" := by
  decide +kernel

end Query

end CloudApi
