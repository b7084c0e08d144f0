import CloudApi.Proofs.Url.Address
import CloudApi.Proofs.Url.Percent
import CloudApi.Url.Form
import Mathlib.Data.List.DropRight
import Mathlib.Data.List.TakeDrop

/-! Queries are read back as they were written.

Each byte of a component is written so that neither separator shows up in it and reading gives
the byte back, so that components, pairs and queries come back in turn (`decode_encode`,
`decodePair_encodePair`, `pairs_append`). What is known of a URL after a parameter was replaced
follows: its pairs (`queryPairs_replaceParam`), the number under the new key
(`numericParam_replaceParam`) and the numbers under the others
(`numericParam_replaceParam_of_ne`). -/
namespace CloudApi.Url

open Text

namespace Form

/-! ### Components -/

/-- A plus sign stands for a space. -/
def spaced (c : Char) : Char :=
  if c = '+' then ' ' else c

theorem toNat_ofNat_of_lt {n : Nat} (h : n < 0x80) : (Char.ofNat n).toNat = n :=
  toNat_charOfNat (.inl (by omega))

theorem lt_of_isPlain {b : UInt8} (h : isPlain b) : b.toNat < 0x80 := by
  simp only [isPlain, Bool.or_eq_true, Bool.and_eq_true, decide_eq_true_eq, beq_iff_eq,
    UInt8.le_iff_toNat_le, ← UInt8.toNat_inj, UInt8.reduceToNat] at h
  omega

/-- A byte that stands for itself is no special character. -/
theorem ofNat_ne_of_isPlain {b : UInt8} (h : isPlain b) {c : Char} (hc : c.toNat < 0x80)
    (hspecial : isPlain c.toNat.toUInt8 = false) : Char.ofNat b.toNat ≠ c := by
  rintro rfl
  rw [toNat_ofNat_of_lt (lt_of_isPlain h), Nat.toUInt8_eq, UInt8.ofNat_toNat, h] at hspecial
  cases hspecial

theorem encodeChar_of_isPlain {b : UInt8} (h : isPlain b) :
    Utf8.encodeChar (Char.ofNat b.toNat) = [b] := by
  have hsmall := lt_of_isPlain h
  rw [Utf8.encodeChar, toNat_ofNat_of_lt hsmall]
  simp only [if_pos hsmall, Nat.toUInt8_eq, UInt8.ofNat_toNat]

theorem upperHex_ne {d : Nat} (h : d < 0x10) :
    Numeral.upperHex d ≠ '+' ∧ Numeral.upperHex d ≠ '&' ∧ Numeral.upperHex d ≠ '=' := by
  interval_cases d <;> decide

theorem map_spaced_triple (b : UInt8) : (Percent.triple b).map spaced = Percent.triple b := by
  have hbyte : b.toNat < 0x100 := b.toNat_lt
  simp only [Percent.triple, List.map_cons, List.map_nil, spaced,
    if_neg (upperHex_ne (d := b.toNat / 16) (by omega)).1,
    if_neg (upperHex_ne (d := b.toNat % 16) (by omega)).1]
  rfl

/-- A byte is read back, whatever follows. -/
theorem decode_encodeByte (b : UInt8) (rest : List Char) :
    Percent.decode ((encodeByte b).map spaced ++ rest) = b :: Percent.decode rest := by
  unfold encodeByte
  split
  · next hplain =>
    have hspaced : spaced (Char.ofNat b.toNat) = Char.ofNat b.toNat :=
      if_neg (ofNat_ne_of_isPlain hplain (by decide) (by decide))
    rw [List.map_singleton, hspaced, List.singleton_append,
      Percent.decode_of_ne (ofNat_ne_of_isPlain hplain (by decide) (by decide)),
      encodeChar_of_isPlain hplain]
    rfl
  split
  · next hspace =>
    subst hspace
    exact Percent.decode_of_ne (by decide) rest
  · rw [map_spaced_triple, Percent.decode_triple]

theorem decode_flatMap_encodeByte (bs : List UInt8) :
    Percent.decode ((bs.flatMap encodeByte).map spaced) = bs := by
  induction bs with
  | nil => rfl
  | cons b bs ih => rw [List.flatMap_cons, List.map_append, decode_encodeByte, ih]

/-- **A component is read back as it was written.** -/
theorem decode_encode (s : String) : decode (encode s) = s := by
  have hbytes : Percent.decode ((encode s).map spaced) = Utf8.encode s.toList :=
    decode_flatMap_encodeByte _
  show String.ofList (Utf8.decode (Percent.decode ((encode s).map spaced))) = s
  rw [hbytes, Utf8.decode_encode, String.ofList_toList]

/-- No separator shows up in a component. -/
theorem ne_of_mem_encode {s : String} {c : Char} (h : c ∈ encode s) : c ≠ '&' ∧ c ≠ '=' := by
  obtain ⟨b, -, hc⟩ := List.mem_flatMap.mp h
  have hbyte : b.toNat < 0x100 := b.toNat_lt
  unfold encodeByte at hc
  split at hc
  · next hplain =>
    obtain rfl := List.mem_singleton.mp hc
    exact ⟨ofNat_ne_of_isPlain hplain (by decide) (by decide),
      ofNat_ne_of_isPlain hplain (by decide) (by decide)⟩
  split at hc
  · obtain rfl := List.mem_singleton.mp hc
    decide
  · simp only [Percent.triple, List.mem_cons, List.not_mem_nil, or_false] at hc
    rcases hc with rfl | rfl | rfl
    · decide
    · exact (upperHex_ne (by omega)).2
    · exact (upperHex_ne (by omega)).2

/-! ### Pairs -/

theorem decodePair_encodePair (pair : String × String) : decodePair (encodePair pair) = pair := by
  have hkey : ∀ c ∈ encode pair.1, (c != '=') = true := fun c hc =>
    bne_iff_ne.mpr (ne_of_mem_encode hc).2
  have hspan : (encodePair pair).span (· != '=') = (encode pair.1, '=' :: encode pair.2) := by
    rw [List.span_eq_takeWhile_dropWhile, encodePair, List.takeWhile_append_of_pos hkey,
      List.dropWhile_append_of_pos hkey]
    simp
  unfold decodePair
  rw [hspan]
  simp only [List.drop_one, List.tail_cons, decode_encode]

theorem encodePair_ne_nil (pair : String × String) : encodePair pair ≠ [] :=
  List.append_ne_nil_of_right_ne_nil _ (List.cons_ne_nil _ _)

theorem not_mem_encodePair (pair : String × String) : '&' ∉ encodePair pair := by
  intro h
  rcases List.mem_append.mp h with h | h
  · exact (ne_of_mem_encode h).1 rfl
  · rcases List.mem_cons.mp h with h | h
    · exact absurd h (by decide)
    · exact (ne_of_mem_encode h).1 rfl

/-- **A query with one pair more is read as its pairs and that one.** -/
theorem pairs_append (query : List Char) (pair : String × String) :
    pairs (append query pair) = pairs query ++ [pair] := by
  have hpair : (!(encodePair pair).isEmpty) = true := by
    cases hchars : encodePair pair with
    | nil => exact absurd hchars (encodePair_ne_nil pair)
    | cons c cs => rfl
  have hlast : ([encodePair pair].filter (!·.isEmpty)).map decodePair = [pair] := by
    simp only [List.filter_cons, hpair, if_true, List.filter_nil, List.map_singleton,
      decodePair_encodePair]
  have hparts : Address.splitOn '&' (append query pair) =
      (if query.isEmpty then [] else Address.splitOn '&' query) ++ [encodePair pair] := by
    unfold append
    split
    · exact Address.splitOn_of_not_mem (not_mem_encodePair pair)
    · rw [Address.splitOn_append, Address.splitOn_of_not_mem (not_mem_encodePair pair)]
  unfold pairs
  rw [hparts, List.filter_append, List.map_append, hlast]
  cases query <;> rfl

theorem pairs_foldl_append (query : List Char) (more : List (String × String)) :
    pairs (more.foldl append query) = pairs query ++ more := by
  induction more generalizing query with
  | nil => exact (List.append_nil _).symm
  | cons pair more ih =>
    rw [List.foldl_cons, ih, pairs_append, List.append_assoc]
    rfl

/-! ### Queries with pairs behind them -/

theorem foldl_append_of_ne_nil {query : List Char} (h : query ≠ [])
    (more : List (String × String)) :
    more.foldl append query = Address.joinWith '&' (query :: more.map encodePair) := by
  induction more generalizing query with
  | nil => rfl
  | cons pair more ih =>
    have happend : append query pair = query ++ '&' :: encodePair pair :=
      if_neg (by simpa using h)
    rw [List.foldl_cons, happend, ih (List.append_ne_nil_of_left_ne_nil h _),
      Address.joinWith_append, List.map_cons, Address.joinWith_cons_cons]

/-- A query with pairs behind it is its parts with ampersands between them; one that is empty is no
part. -/
theorem foldl_append_eq (query : List Char) (more : List (String × String)) :
    more.foldl append query =
      Address.joinWith '&' ([query].filter (· ≠ []) ++ more.map encodePair) := by
  cases query with
  | cons c query => exact foldl_append_of_ne_nil (List.cons_ne_nil c query) more
  | nil =>
    cases more with
    | nil => rfl
    | cons pair more => exact foldl_append_of_ne_nil (encodePair_ne_nil pair) more

end Form

/-! ### Parameters of a URL -/

theorem queryPairs_appendPairs (u : Url) (pairs : List (String × String)) :
    (u.appendPairs pairs).queryPairs = u.queryPairs ++ pairs := by
  unfold appendPairs
  split
  · next hempty => rw [List.isEmpty_iff.mp hempty, List.append_nil]
  · exact Form.pairs_foldl_append _ _

theorem queryPairs_withoutQuery (u : Url) : u.withoutQuery.queryPairs = [] := by
  unfold withoutQuery
  split <;> rfl

theorem queryPairs_replaceParam (u : Url) (key value : String) :
    (u.replaceParam key value).queryPairs =
      u.queryPairs.filter (fun pair => pair.1 != key) ++ [(key, value)] := by
  rw [replaceParam, queryPairs_appendPairs, queryPairs_withoutQuery]
  rfl

/-- Pairs change nothing but the query. -/
theorem exists_eq_appendPairs (u : Url) (pairs : List (String × String)) :
    ∃ query, u.appendPairs pairs = { u with query } := by
  unfold appendPairs
  split
  · exact ⟨u.query, rfl⟩
  · exact ⟨_, rfl⟩

theorem exists_eq_replaceParam {u : Url} {list : List (List Char)} (h : u.path = .segments list)
    (key value : String) : ∃ query, u.replaceParam key value = { u with query } := by
  have hwithout : u.withoutQuery = { u with query := none } := by
    unfold withoutQuery
    rw [h]
  unfold replaceParam
  rw [hwithout]
  exact exists_eq_appendPairs _ _

/-- The number under a key that was replaced is the one it was replaced by. -/
theorem numericParam_replaceParam (u : Url) (key value : String) :
    (u.replaceParam key value).numericParam key = Numeral.uint64? value.toList := by
  have hnone : (u.queryPairs.filter fun pair => pair.1 != key).find? (fun pair => pair.1 == key) =
      none := by
    rw [List.find?_eq_none]
    intro pair hpair
    simpa using (List.mem_filter.mp hpair).2
  unfold numericParam
  rw [queryPairs_replaceParam, List.find?_append, hnone]
  simp

/-- Under another key nothing changes. -/
theorem numericParam_replaceParam_of_ne (u : Url) {key other : String} (h : other ≠ key)
    (value : String) :
    (u.replaceParam key value).numericParam other = u.numericParam other := by
  unfold numericParam
  have hkept (pair : String × String) :
      decide (pair.1 != key ∧ pair.1 == other) = (pair.1 == other) := by
    by_cases hpair : pair.1 = other
    · simp [hpair, h]
    · simp [hpair]
  have hlast : [(key, value)].find? (fun pair => pair.1 == other) = none := by
    simp [Ne.symm h]
  rw [queryPairs_replaceParam, List.find?_append, List.find?_filter, hlast, Option.or_none]
  simp only [hkept]

/-- A URL without its query loses nothing more with another one: a flat path has no spaces left. -/
theorem withoutQuery_withoutQuery (u : Url) (query : Option (List Char)) :
    { u.withoutQuery with query }.withoutQuery = u.withoutQuery := by
  rcases u with ⟨scheme, authority, cs | list, old, fragment⟩
  · cases fragment with
    | some fragment => rfl
    | none =>
      simp only [withoutQuery, List.reverse_reverse, List.dropWhile_idempotent]
  · cases fragment <;> rfl

/-- A value that is replaced leaves nothing behind. -/
theorem replaceParam_replaceParam (u : Url) (key first value : String) :
    (u.replaceParam key first).replaceParam key value = u.replaceParam key value := by
  have hkept : ((u.replaceParam key first).queryPairs.filter fun pair => pair.1 != key) =
      u.queryPairs.filter fun pair => pair.1 != key := by
    rw [queryPairs_replaceParam, List.filter_append, List.filter_filter]
    simp
  have hwithout : (u.replaceParam key first).withoutQuery = u.withoutQuery := by
    obtain ⟨query, hquery⟩ := exists_eq_appendPairs u.withoutQuery
      ((u.queryPairs.filter fun pair => pair.1 != key) ++ [(key, first)])
    rw [replaceParam, hquery, withoutQuery_withoutQuery]
  unfold replaceParam at hkept hwithout ⊢
  rw [hkept, hwithout]

/-- **Replacing a parameter touches nothing else.** What the URL has but for its query stays, and of
its pairs those under other keys, in their order; behind them is one pair for the key. So the key has
the number that the value is, every other key the one it had, and what was put in its place before is
of no account. -/
theorem replaceParam_exact {u : Url} {list : List (List Char)} (hpath : u.path = .segments list)
    (key value : String) :
    (∃ query, u.replaceParam key value = { u with query := some query }) ∧
      (u.replaceParam key value).queryPairs =
        u.queryPairs.filter (fun pair => pair.1 != key) ++ [(key, value)] ∧
      (u.replaceParam key value).numericParam key = Numeral.uint64? value.toList ∧
      (∀ other, other ≠ key →
        (u.replaceParam key value).numericParam other = u.numericParam other) ∧
      (u.replaceParam key value).replaceParam key value = u.replaceParam key value ∧
      ∀ first, (u.replaceParam key first).replaceParam key value = u.replaceParam key value := by
  refine ⟨?_, queryPairs_replaceParam u key value, numericParam_replaceParam u key value,
    fun other hother => numericParam_replaceParam_of_ne u hother value,
    replaceParam_replaceParam u key value value, fun first =>
      replaceParam_replaceParam u key first value⟩
  obtain ⟨query, hquery⟩ := exists_eq_replaceParam hpath key value
  cases query with
  | some query => exact ⟨query, hquery⟩
  | none =>
    -- a URL without a query has no pairs
    have hpairs := queryPairs_replaceParam u key value
    rw [hquery] at hpairs
    exact absurd hpairs.symm (List.append_ne_nil_of_right_ne_nil _ (List.cons_ne_nil _ _))

/-- A query with a stray ampersand, a bare key, a key twice, a key that is no UTF-8 and an empty one,
between a path and a fragment. -/
theorem replaceParam_exact_of_odd :
    let u : Url := ⟨"https".toList, some ⟨"u".toList, "p".toList, .name "h".toList, some 8443⟩,
      .segments ["a".toList, []], some "&k=1&bare&%FF=%c3&k&=z&n=7".toList, some "f".toList⟩
    u.path = .segments ["a".toList, []] ∧
      (u.replaceParam "k" "+2").queryPairs = [("bare", ""), ("\uFFFD", "\uFFFD"), ("", "z"), ("n", "7"),
        ("k", "+2")] ∧
      (u.replaceParam "k" "+2").numericParam "k" = some 2 ∧
      (u.replaceParam "k" "+2").numericParam "n" = some 7 ∧
      ((u.replaceParam "k" "?#&=").replaceParam "k" "+2") = u.replaceParam "k" "+2" := by
  intro u
  obtain ⟨-, hpairs, hnumber, hothers, -, hagain⟩ :=
    replaceParam_exact (rfl : u.path = .segments ["a".toList, []]) "k" "+2"
  refine ⟨rfl, hpairs.trans ?_, hnumber.trans (by decide), (hothers "n" (by decide)).trans ?_,
    hagain "?#&="⟩ <;> decide +kernel

end CloudApi.Url
