import CloudApi.Proofs.Url.Extent

/-! Segments put below a URL.

A text that is one segment of a path (`IsSegment`) is read as that segment. Such segments with slashes
between are a reference to the URL that has them behind the last slash of the base and nothing else
changed (`join_segments`). -/
namespace CloudApi

namespace Url

open Text

/-- The URL with segments in place of what is behind the last slash of its path, and nothing behind
the path. -/
def below (u : Url) (segments : List (List Char)) : Url :=
  { u with
    path := match u.path with
      | .segments list => .segments (list.dropLast ++ segments)
      | .flat cs => .flat cs
    query := none
    fragment := none }

/-- A text that is one segment of a path: nothing parts it, ends it or is left out of it, and it is
no dots. -/
structure IsSegment (cs : List Char) : Prop where
  full : cs ≠ []
  plain : ∀ c ∈ cs, isBreak c = false ∧ isTail c = false ∧ isSlash true c = false
  ends : ∀ c ∈ cs.getLast?, 0x20 < c.toNat
  undotted : ¬ IsDots (encodeSegment cs)

instance : DecidablePred IsSegment := fun cs =>
  decidable_of_iff (cs ≠ [] ∧
      (∀ c ∈ cs, isBreak c = false ∧ isTail c = false ∧ isSlash true c = false) ∧
      (∀ c ∈ cs.getLast?, 0x20 < c.toNat) ∧ ¬ IsDots (encodeSegment cs))
    ⟨fun ⟨full, plain, ends, undotted⟩ => ⟨full, plain, ends, undotted⟩,
      fun ⟨full, plain, ends, undotted⟩ => ⟨full, plain, ends, undotted⟩⟩

/-! ### Texts of segments -/

/-- Texts with slashes between them. -/
def slashedText (first : List Char) (rest : List (List Char)) : List Char :=
  first ++ rest.flatMap ('/' :: ·)

theorem slashedText_cons (first second : List Char) (rest : List (List Char)) :
    slashedText first (second :: rest) = first ++ '/' :: slashedText second rest := by
  simp only [slashedText, List.flatMap_cons, List.cons_append]

/-- Texts without slashes are parted at those between them. -/
theorem splitPath_slashedText {special : Bool} {first : List Char} {rest : List (List Char)}
    (h : ∀ part ∈ first :: rest, ∀ c ∈ part, isSlash special c = false) :
    splitPath special (slashedText first rest) = first :: rest := by
  induction rest generalizing first with
  | nil =>
    rw [slashedText, List.flatMap_nil, List.append_nil]
    exact splitPath_of_not_mem (h first List.mem_cons_self)
  | cons second rest ih =>
    obtain ⟨hfirst, hrest⟩ := List.forall_mem_cons.mp h
    rw [slashedText_cons, splitPath_append, splitPath_of_not_mem hfirst, ih hrest]
    rfl

/-- A text that is one part has no slashes. -/
theorem not_isSlash_of_length_splitPath {special : Bool} {cs : List Char}
    (h : (splitPath special cs).length = 1) : ∀ c ∈ cs, isSlash special c = false := by
  intro c hc
  by_contra hslash
  obtain ⟨front, back, rfl⟩ := List.append_of_mem hc
  rw [splitPath_eq_splitOnP,
    List.splitOnP_append_cons front back (Bool.of_not_eq_false hslash), List.length_append] at h
  have hfront := List.length_pos_iff.mpr (List.splitOnP_ne_nil (isSlash special) front)
  have hback := List.length_pos_iff.mpr (List.splitOnP_ne_nil (isSlash special) back)
  omega

theorem encode_slashedText (first : List Char) (rest : List (List Char)) :
    Percent.encode Percent.path (slashedText first rest) =
      slashedText (Percent.encode Percent.path first) (rest.map (Percent.encode Percent.path)) := by
  have hslash : Percent.encodeChar Percent.path '/' = ['/'] := rfl
  simp only [slashedText, Percent.encode, List.flatMap_append, List.flatMap_assoc, List.flatMap_map,
    List.flatMap_cons, hslash, List.singleton_append]

theorem mem_slashedText {first : List Char} {rest : List (List Char)} {c : Char}
    (h : c ∈ slashedText first rest) : c = '/' ∨ ∃ part ∈ first :: rest, c ∈ part := by
  rcases List.mem_append.mp h with h | h
  · exact .inr ⟨first, List.mem_cons_self, h⟩
  · obtain ⟨part, hpart, hc⟩ := List.mem_flatMap.mp h
    rcases List.mem_cons.mp hc with rfl | hc
    · exact .inl rfl
    · exact .inr ⟨part, List.mem_cons_of_mem first hpart, hc⟩

theorem getLast?_slashedText {first : List Char} {rest : List (List Char)}
    (h : ∀ part ∈ first :: rest, part ≠ []) {c : Char}
    (hc : c ∈ (slashedText first rest).getLast?) : ∃ part ∈ first :: rest, c ∈ part.getLast? := by
  induction rest generalizing first with
  | nil =>
    rw [slashedText, List.flatMap_nil, List.append_nil] at hc
    exact ⟨first, List.mem_cons_self, hc⟩
  | cons second rest ih =>
    obtain ⟨-, hrest⟩ := List.forall_mem_cons.mp h
    have hfull : slashedText second rest ≠ [] :=
      List.append_ne_nil_of_left_ne_nil (hrest second List.mem_cons_self) _
    obtain ⟨d, ds, hds⟩ := List.exists_cons_of_ne_nil hfull
    rw [slashedText_cons, hds, List.getLast?_append, List.getLast?_cons_cons,
      ← hds, List.getLast?_eq_some_getLast hfull, Option.some_or,
      ← List.getLast?_eq_some_getLast hfull] at hc
    obtain ⟨part, hpart, hlast⟩ := ih hrest hc
    exact ⟨part, List.mem_cons_of_mem first hpart, hlast⟩

theorem scheme?_slashed {cs : List Char} (h : ':' ∉ cs) (ds : List Char) :
    scheme? (cs ++ '/' :: ds) = none := by
  refine scheme?_append ?_ ds
  by_contra hscheme
  obtain ⟨⟨scheme, rest⟩, hsome⟩ := Option.ne_none_iff_exists'.mp hscheme
  obtain ⟨name, heq, -⟩ := eq_of_scheme? hsome
  exact h (heq ▸ List.mem_append_right _ List.mem_cons_self)

/-- Blanks and controls are left out behind the last slash only. -/
theorem trimmed_slashed {cs : List Char} (hfull : cs ≠ []) (h : ∀ c ∈ cs.head?, 0x20 < c.toNat)
    (ds : List Char) : ∃ kept, trimmed (cs ++ '/' :: ds) = cs ++ '/' :: kept := by
  obtain ⟨c, rest, rfl⟩ := List.exists_cons_of_ne_nil hfull
  have hfront : (c :: rest ++ '/' :: ds).dropWhile (fun c => decide (c.toNat ≤ 0x20)) =
      c :: rest ++ '/' :: ds := by
    have hlow := h c rfl
    exact List.dropWhile_cons_of_neg (by rw [decide_eq_true_eq]; omega)
  refine ⟨(ds.reverse.dropWhile fun c => decide (c.toNat ≤ 0x20)).reverse, ?_⟩
  rw [trimmed, hfront, List.reverse_append, List.reverse_cons, List.append_assoc,
    List.dropWhile_append, List.singleton_append,
    List.dropWhile_cons_of_neg (p := fun c : Char => decide (c.toNat ≤ 0x20)) (by decide)]
  split
  · next hempty => simp [List.isEmpty_iff.mp hempty]
  · simp

/-! ### References of segments -/

theorem encodeSegment_eq {cs : List Char} (h : ∀ c ∈ cs, isBreak c = false) :
    encodeSegment cs = Percent.encode Percent.path cs := by
  rw [encodeSegment, unbroken_of_not_isBreak h]

section Segments
variable {scheme first : List Char} {rest : List (List Char)}

/-- Segments lead down, unless the first begins with a blank or a scheme. -/
theorem leadsDown_slashedText (hother : isFile scheme = false)
    (hsegments : ∀ part ∈ first :: rest, IsSegment part)
    (hbegins : ∀ c ∈ first.head?, 0x20 < c.toNat) (hcolon : ':' ∉ first) (hrest : rest ≠ []) :
    LeadsDown scheme (slashedText first rest) := by
  have hplain {part : List Char} (hpart : part ∈ first :: rest) {c : Char} (hc : c ∈ part) :=
    (hsegments part hpart).plain c hc
  have hspecial (special : Bool) {c : Char} (hc : isSlash true c = false) :
      isSlash special c = false := by
    simp only [isSlash, Bool.true_and, Bool.or_eq_false_iff] at hc ⊢
    exact ⟨hc.1, by rw [hc.2, Bool.and_false]⟩
  refine ⟨?_, fun c hc => ?_, fun _ hmem => ?_, ?_, fun part hpart => ?_, fun hfile => ?_⟩
  · obtain ⟨c, cs, hcs⟩ :=
      List.exists_cons_of_ne_nil (hsegments first List.mem_cons_self).full
    refine ⟨c, cs ++ rest.flatMap ('/' :: ·), by rw [slashedText, hcs, List.cons_append], ?_, ?_⟩
    · exact hbegins c (by rw [hcs]; rfl)
    · exact (hplain List.mem_cons_self (hcs ▸ List.mem_cons_self)).2.2
  · rcases mem_slashedText hc with rfl | ⟨part, hpart, hc⟩
    · exact ⟨rfl, rfl⟩
    · exact ⟨(hplain hpart hc).1, (hplain hpart hc).2.1⟩
  · rcases mem_slashedText hmem with hslash | ⟨part, hpart, hc⟩
    · exact absurd hslash (by decide)
    · exact absurd (hplain hpart hc).2.2 (by decide)
  · obtain ⟨second, more, rfl⟩ := List.exists_cons_of_ne_nil hrest
    rw [slashedText_cons]
    exact scheme?_slashed hcolon _
  · rw [splitPath_slashedText fun part hpart c hc => hspecial _ (hplain hpart hc).2.2] at hpart
    exact (hsegments part hpart).undotted
  · rw [hother] at hfile
    cases hfile

/-- A reference that begins with a segment and a slash leads somewhere, whatever follows. -/
theorem exists_join_slashed {base : Url} (hother : isFile base.scheme = false)
    (hopen : base.isFlat = false) (hfirst : IsSegment first)
    (hbegins : ∀ c ∈ first.head?, 0x20 < c.toNat) (hcolon : ':' ∉ first) {reference : String}
    {ds : List Char} (href : reference.toList = first ++ '/' :: ds) :
    ∃ u, base.join reference = .ok u := by
  obtain ⟨kept, htrimmed⟩ := trimmed_slashed hfirst.full hbegins ds
  have hbreak : ∀ c ∈ first, isBreak c = false := fun c hc => (hfirst.plain c hc).1
  have hunbroken : unbroken (trimmed reference.toList) = first ++ '/' :: unbroken kept := by
    have happend : unbroken (first ++ '/' :: kept) = unbroken first ++ unbroken ('/' :: kept) :=
      List.filter_append ..
    rw [href, htrimmed, happend, unbroken_of_not_isBreak hbreak]
    rfl
  obtain ⟨c, rest, rfl⟩ := List.exists_cons_of_ne_nil hfirst.full
  obtain ⟨-, htail, hslash⟩ := hfirst.plain c List.mem_cons_self
  simp only [isTail, Bool.or_eq_false_iff, beq_eq_false_iff_ne] at htail
  have hroot : c ≠ '/' := by
    rintro rfl
    cases hslash
  have hmark : some c ≠ some '#' := fun h => htail.2 (Option.some.inj h)
  cases hpath : base.path with
  | flat cs =>
    rw [isFlat, hpath] at hopen
    cases hopen
  | segments list =>
    refine ⟨base.withPath list.dropLast (c :: rest ++ '/' :: unbroken kept), ?_⟩
    have hread : base.join reference = readRelative base (c :: rest ++ '/' :: unbroken kept) := by
      have hscheme := scheme?_slashed hcolon (unbroken kept)
      unfold join read
      simp only [hunbroken, hscheme]
      simp only [List.cons_append, List.head?_cons, if_neg hmark, hopen, hother, Bool.false_eq_true,
        if_false]
    rw [hread]
    simp only [readRelative, List.cons_append, htail.1, htail.2, hroot, hslash, hpath, false_and,
      Bool.false_eq_true, if_false]

/-- **Segments with slashes between are put behind the last slash of a URL.** -/
theorem join_segments {base : Url} (hother : isFile base.scheme = false)
    {init : List (List Char)} (hbase : base.path = .segments (init ++ [[]]))
    (hsegments : ∀ part ∈ first :: rest, IsSegment part)
    (hbegins : ∀ c ∈ first.head?, 0x20 < c.toNat) (hcolon : ':' ∉ first) (hrest : rest ≠ [])
    {reference : String} (href : reference.toList = slashedText first rest) :
    base.join reference =
      .ok (base.below ((first :: rest).map (Percent.encode Percent.path))) := by
  have hdown : LeadsDown base.scheme reference.toList :=
    href ▸ leadsDown_slashedText hother hsegments hbegins hcolon hrest
  have hlast : ∀ c ∈ reference.toList.getLast?, 0x20 < c.toNat := by
    intro c hc
    obtain ⟨part, hpart, hc⟩ :=
      getLast?_slashedText (fun part hpart => (hsegments part hpart).full) (href ▸ hc)
    exact (hsegments part hpart).ends c hc
  have hsplit : splitPath (isSpecial base.scheme) reference.toList = first :: rest := by
    rw [href]
    refine splitPath_slashedText fun part hpart c hc => ?_
    have hslash := ((hsegments part hpart).plain c hc).2.2
    simp only [isSlash, Bool.true_and, Bool.or_eq_false_iff] at hslash ⊢
    exact ⟨hslash.1, by rw [hslash.2, Bool.and_false]⟩
  have hencode : (first :: rest).map encodeSegment =
      (first :: rest).map (Percent.encode Percent.path) :=
    List.map_congr_left fun part hpart =>
      encodeSegment_eq fun c hc => ((hsegments part hpart).plain c hc).1
  have hleading : withoutLeading (isFile base.scheme) (init ++ [[]]) = init ++ [[]] := by
    rw [hother]
    rfl
  rw [(join_eq_of_leadsDown hdown hlast).2 init hbase hleading, hsplit, hencode, below, hbase]
  simp only [List.dropLast_concat]

/-- The path of what is below a URL is its path with the segments behind it. -/
theorem chars_below {base : Url} {init : List (List Char)}
    (hbase : base.path = .segments (init ++ [[]])) (first : List Char) (rest : List (List Char)) :
    (base.below (first :: rest)).path.chars = base.path.chars ++ slashedText first rest := by
  simp only [below, hbase, List.dropLast_concat, Path.chars, List.flatMap_append,
    List.flatMap_cons, List.flatMap_nil, slashedText, List.append_nil, List.append_assoc,
    List.cons_append, List.nil_append]

/-- Different segments are different places. -/
theorem below_injective {base : Url} {init : List (List Char)}
    (hbase : base.path = .segments (init ++ [[]])) {segments others : List (List Char)}
    (h : base.below segments = base.below others) : segments = others := by
  have hpath := congrArg Url.path h
  simp only [below, hbase] at hpath
  exact List.append_cancel_left (Path.segments.inj hpath)

end Segments

/-! ### Words -/

theorem not_isSlash_of_word {w : List Char} (hw : ∀ c ∈ w, isWord c) :
    ∀ c ∈ w, isSlash true c = false := by
  intro c hc
  have hne {d : Char} (hd : isWord d = false) : c ≠ d := fun h => not_mem_word hw hd (h ▸ hc)
  simp [isSlash, hne (d := '/') rfl, hne (d := '\\') rfl]

/-- A word is a segment that is written as it is. -/
theorem isSegment_of_word {w : List Char} (hw : ∀ c ∈ w, isWord c) (hfull : w ≠ []) :
    IsSegment w := by
  have hwritten := written_of_word hw
  refine ⟨hfull, fun c hc => ⟨not_isBreak_of_isWritten (hwritten c hc),
    not_isTail_of_isWritten (hwritten c hc), not_isSlash_of_word hw c hc⟩, fun c hc => ?_, ?_⟩
  · exact (isWritten_iff.mp (hwritten c (List.mem_of_getLast? hc))).1
  · rw [encodeSegment_of_written hwritten]
    exact not_isDots_word hw

theorem lt_head_word {w : List Char} (hw : ∀ c ∈ w, isWord c) : ∀ c ∈ w.head?, 0x20 < c.toNat :=
  fun c hc => (isWritten_iff.mp (written_of_word hw c (List.mem_of_mem_head? hc))).1

end Url

end CloudApi
