import CloudApi.Proofs.Url.Authority
import CloudApi.Proofs.Url.Below

/-! URLs read back from their text.

What reading leaves of a URL of a special scheme is canonical (`canonical_parse`), and a canonical URL
is read back from its text as it is (`parse_text`). The only exception is a host with Punycode in it
that is longer than what reading takes: it is written for names that are shorter themselves, and is
refused when it is read. A slash at the end of the path makes no difference
(`Canonical.withFinalSlash`). -/
namespace CloudApi.Url

open Text

/-! ### Canonical URLs -/

/-- A segment as reading leaves it in a URL of a special scheme. -/
structure IsKept (s : List Char) : Prop where
  written : Written s
  undotted : ¬ IsDots s
  slashless : '\\' ∉ s

theorem isKept_nil : IsKept [] :=
  ⟨written_nil, not_isDots_nil, List.not_mem_nil⟩

theorem IsKept.not_isSlash {s : List Char} (h : IsKept s) : ∀ c ∈ s, isSlash true c = false := by
  intro c hc
  have hslash : c ≠ '/' := (isWritten_iff.mp (h.written c hc)).2.2.2
  have hback : c ≠ '\\' := fun hback => h.slashless (hback ▸ hc)
  simp [isSlash, hslash, hback]

/-- A URL of a special scheme, the one of files aside, as reading leaves it. -/
structure Canonical (u : Url) : Prop where
  special : isSpecial u.scheme
  other : isFile u.scheme = false
  authority : ∃ a, u.authority = some a ∧ a.Settled u.scheme
  path : ∃ first rest, u.path = .segments (first :: rest) ∧ ∀ s ∈ first :: rest, IsKept s
  query : ∀ cs ∈ u.query, Percent.IsEncoded Percent.specialQuery cs
  fragment : ∀ cs ∈ u.fragment, Percent.IsEncoded Percent.fragment cs

/-- Whether a URL has a host with Punycode that is too long to be read. -/
def isLong (u : Url) : Bool :=
  u.authority.any (·.host.isLong)

/-! ### Reading leaves canonical URLs -/

section Tail
variable {u : Url} {cs : List Char}

theorem authority_withTail (u : Url) (cs : List Char) : (withTail u cs).authority = u.authority := by
  unfold withTail
  split <;> rfl

theorem withTail_query (u : Url) (cs : List Char) : withTail u ('?' :: cs) =
    { u with
      query := some (Percent.encode (if isSpecial u.scheme then Percent.specialQuery else Percent.query)
        (cs.span (· != '#')).1)
      fragment := readFragment (cs.span (· != '#')).2 } :=
  rfl

theorem isEncoded_readFragment (h : ∃ ds, readFragment ds = some cs) :
    Percent.IsEncoded Percent.fragment cs := by
  obtain ⟨ds, hread⟩ := h
  unfold readFragment at hread
  split at hread
  · obtain rfl := Option.some.inj hread
    exact Percent.isEncoded_encode rfl (by decide) _
  · cases hread

theorem isEncoded_withTail (hspecial : isSpecial u.scheme) (ds : List Char) :
    (∀ cs ∈ (withTail u ds).query, Percent.IsEncoded Percent.specialQuery cs) ∧
      ∀ cs ∈ (withTail u ds).fragment, Percent.IsEncoded Percent.fragment cs := by
  unfold withTail
  split
  · next ds =>
    refine ⟨fun cs hcs => ?_, fun cs hcs => isEncoded_readFragment ⟨_, hcs⟩⟩
    obtain rfl := Option.some.inj hcs
    rw [hspecial, if_pos rfl]
    exact Percent.isEncoded_encode rfl (by decide) _
  · exact ⟨nofun, fun cs hcs => isEncoded_readFragment ⟨_, hcs⟩⟩

end Tail

/-- Reading parts leaves at least one segment. -/
theorem resolve_ne_nil {file : Bool} {trail : Trail} {parts : List (List Char)} (hfile : file = false)
    (h : parts ≠ []) : (resolve file trail parts).segments ≠ [] := by
  induction parts generalizing trail with
  | nil => exact absurd rfl h
  | cons raw rest ih =>
    by_cases hdots : IsDots (encodeSegment raw)
    · obtain ⟨kept, -, hresolve⟩ := resolve_of_isDots file trail rest hdots
      rw [hresolve]
      cases rest with
      | nil => exact List.concat_ne_nil _ _
      | cons second rest => exact ih (List.cons_ne_nil second rest)
    · rw [resolve_of_not_isDots hdots, if_neg fun h => absurd (hfile.symm.trans h.1) Bool.false_ne_true]
      cases rest with
      | nil => exact List.concat_ne_nil _ _
      | cons second rest => exact ih (List.cons_ne_nil second rest)

/-- A path that is read behind an authority makes a canonical URL. -/
theorem canonical_withPath {u : Url} (hspecial : isSpecial u.scheme)
    (hother : isFile u.scheme = false) {a : Authority} (ha : u.authority = some a)
    (hsettled : a.Settled u.scheme) (cs : List Char) : (u.withPath [] cs).Canonical := by
  rcases hspan : cs.span fun c => !isTail c with ⟨text, behind⟩
  obtain ⟨list, hlist⟩ : ∃ list, (resolve false ⟨[], false⟩ (splitPath true text)).segments = list :=
    ⟨_, rfl⟩
  have hwith : u.withPath [] cs = withTail { u with path := .segments list } (unbroken behind) := by
    unfold withPath readPath
    rw [hspan, hspecial, hother]
    dsimp only
    rw [hlist]
    rfl
  have hscheme : (u.withPath [] cs).scheme = u.scheme := by rw [hwith, scheme_withTail]
  have hencoded : (∀ ds ∈ (u.withPath [] cs).query, Percent.IsEncoded Percent.specialQuery ds) ∧
      ∀ ds ∈ (u.withPath [] cs).fragment, Percent.IsEncoded Percent.fragment ds := by
    rw [hwith]
    exact isEncoded_withTail (u := { u with path := .segments list }) hspecial (unbroken behind)
  refine ⟨hscheme ▸ hspecial, hscheme ▸ hother, ⟨a, ?_, hscheme ▸ hsettled⟩, ?_, hencoded.1, hencoded.2⟩
  · rw [hwith, authority_withTail, ha]
  obtain ⟨part, parts, hsplit⟩ := exists_splitPath_eq_cons true text
  have hfull : list ≠ [] :=
    hlist ▸ resolve_ne_nil rfl (hsplit ▸ List.cons_ne_nil part parts)
  obtain ⟨first, rest, rfl⟩ := List.exists_cons_of_ne_nil hfull
  refine ⟨first, rest, by rw [hwith, path_withTail], fun s hs => ?_⟩
  rw [← hlist] at hs
  obtain ⟨hwritten, hundotted⟩ :=
    settled_resolve (fun part hpart => slash_not_mem_of_mem_splitPath hpart) s hs
  refine ⟨hwritten, hundotted rfl, ?_⟩
  rcases mem_resolve hs with hs | rfl | ⟨part, hpart, ⟨rfl, -⟩ | ⟨hfile, -⟩⟩
  · cases hs
  · exact List.not_mem_nil
  · exact backslash_not_mem_encodeSegment fun hmem =>
      absurd (mem_of_mem_splitPath hpart _ hmem).2 (by decide)
  · cases hfile

/-- What follows an authority of a special scheme is read as a path. -/
theorem exists_withPath_of_withRootPath {u : Url} (hspecial : isSpecial u.scheme) (cs : List Char) :
    ∃ ds, u.withRootPath cs = u.withPath [] ds := by
  unfold withRootPath
  rw [hspecial]
  dsimp only
  split
  · exact ⟨[], rfl⟩
  · split
    · exact ⟨_, rfl⟩
    · exact ⟨_, rfl⟩

theorem canonical_afterSlashes {scheme cs : List Char} (hspecial : isSpecial scheme)
    (hother : isFile scheme = false) {u : Url} (h : afterSlashes scheme cs = .ok u) :
    u.Canonical := by
  obtain ⟨a, path, hsettled, rfl⟩ := exists_settled_of_afterSlashes hspecial h
  obtain ⟨ds, hroot⟩ := exists_withPath_of_withRootPath
    (u := ⟨scheme, some a, .segments [], none, none⟩) hspecial path
  rw [hroot]
  exact canonical_withPath hspecial hother rfl hsettled ds

theorem scheme_withPath (u : Url) (done : List (List Char)) (cs : List Char) :
    (u.withPath done cs).scheme = u.scheme :=
  scheme_withTail _ _

theorem scheme_withRootPath (u : Url) (cs : List Char) : (u.withRootPath cs).scheme = u.scheme := by
  unfold withRootPath
  dsimp only
  split
  · split
    · exact scheme_withPath u [] []
    · exact scheme_withTail _ _
  · split
    · exact scheme_withPath u [] _
    split
    · exact scheme_withTail _ _
    · exact scheme_withPath u [] _

/-- What follows a scheme that is not special makes no URL of a special one. -/
theorem scheme_of_readOther {scheme cs : List Char} {u : Url} (h : readOther scheme cs = .ok u) :
    u.scheme = scheme := by
  unfold readOther at h
  dsimp only at h
  split at h
  · obtain ⟨authority, path, -, rfl⟩ := exists_eq_of_afterSlashes h
    exact scheme_withRootPath _ path
  · cases h
    exact scheme_withPath _ [] _
  · cases h
    exact scheme_withTail _ _

/-- **A URL of a special scheme is canonical when it was read**, unless the scheme is that of files. -/
theorem canonical_parse {s : String} {u : Url} (h : parse s = .ok u) (hspecial : isSpecial u.scheme)
    (hother : isFile u.scheme = false) : u.Canonical := by
  unfold parse read at h
  dsimp only at h
  split at h
  · next scheme rest _ =>
    split at h
    · have hfile := isFile_of_readFile h
      rw [hother] at hfile
      cases hfile
    · next hfile =>
      unfold readScheme at h
      dsimp only at h
      split at h
      · next hscheme => exact canonical_afterSlashes hscheme (Bool.eq_false_iff.mpr hfile) h
      · next hscheme => exact absurd (scheme_of_readOther h ▸ hspecial) hscheme
  · cases h
  · next hnone => cases hnone

/-! ### Canonical URLs are read back -/

/-- A special scheme is written in lower case letters. -/
theorem of_isSpecial {scheme : List Char} (h : isSpecial scheme) :
    (∀ c ∈ scheme, isSchemeChar c ∧ Caseless.lower c = c ∧ 0x20 < c.toNat) ∧
      scheme.head?.any isLetter := by
  have hscheme : scheme = "file".toList ∨ scheme = "http".toList ∨ scheme = "ws".toList ∨
      scheme = "https".toList ∨ scheme = "wss".toList ∨ scheme = "ftp".toList := by
    unfold isSpecial isFile schemePort? at h
    grind
  rcases hscheme with rfl | rfl | rfl | rfl | rfl | rfl <;> decide

/-- A special scheme is found before its colon. -/
theorem scheme?_of_isSpecial {scheme : List Char} (h : isSpecial scheme) (rest : List Char) :
    scheme? (scheme ++ ':' :: rest) = some (scheme, rest) := by
  obtain ⟨hall, hhead⟩ := of_isSpecial h
  have hname : ∀ c ∈ scheme, isSchemeChar c := fun c hc => (hall c hc).1
  have hlower : scheme.map Caseless.lower = scheme := by
    rw [List.map_congr_left fun c hc => (hall c hc).2.1, List.map_id']
  unfold scheme?
  rw [List.span_eq_takeWhile_dropWhile, List.takeWhile_append_of_pos hname,
    List.dropWhile_append_of_pos hname, List.takeWhile_cons_of_neg (by decide), List.append_nil,
    List.dropWhile_cons_of_neg (by decide)]
  cases scheme with
  | nil => cases hhead
  | cons c name =>
    have hletter : isLetter c = true := hhead
    change (if isLetter c then some ((c :: name).map Caseless.lower, rest) else none) = _
    rw [if_pos hletter, hlower]

/-- What is written behind the path. -/
def tailText (u : Url) : List Char :=
  tail '?' u.query ++ tail '#' u.fragment

/-- A URL of a special scheme is read behind its two slashes, if nothing in it is left out. -/
theorem parse_of_isSpecial {scheme cs : List Char} (hspecial : isSpecial scheme)
    (hother : isFile scheme = false) (hfirst : ∀ c ∈ cs.head?, isSlash true c = false)
    (hcs : ∀ c ∈ cs, 0x20 < c.toNat) :
    parse (String.ofList (scheme ++ ':' :: '/' :: '/' :: cs)) = afterSlashes scheme cs := by
  have hplain : ∀ c ∈ scheme ++ ':' :: '/' :: '/' :: cs, 0x20 < c.toNat := by
    intro c hc
    simp only [List.mem_append, List.mem_cons] at hc
    rcases hc with hc | rfl | rfl | rfl | hc
    · exact ((of_isSpecial hspecial).1 c hc).2.2
    · decide
    · decide
    · decide
    · exact hcs c hc
  have hread : unbroken (trimmed (scheme ++ ':' :: '/' :: '/' :: cs)) =
      scheme ++ ':' :: '/' :: '/' :: cs := by
    rw [trimmed_eq_self (fun c hc => hplain c (List.mem_of_mem_head? hc))
      fun c hc => hplain c (List.mem_of_getLast? hc),
      unbroken_of_not_isBreak fun c hc => not_isBreak_of_lt (hplain c hc)]
  have hslashes : ('/' :: '/' :: cs).takeWhile (isSlash true) = ['/', '/'] := by
    rw [List.takeWhile_cons_of_pos rfl, List.takeWhile_cons_of_pos rfl]
    cases cs with
    | nil => rfl
    | cons c cs =>
      rw [List.takeWhile_cons_of_neg (by rw [hfirst c rfl]; exact Bool.false_ne_true)]
  have hscheme := scheme?_of_isSpecial hspecial ('/' :: '/' :: cs)
  unfold parse read
  simp only [String.toList_ofList, hread, hscheme]
  rw [if_neg (Bool.eq_false_iff.mp hother)]
  unfold readScheme
  rw [if_pos hspecial]
  dsimp only
  rw [hslashes]
  rfl

namespace Canonical
variable {u : Url} (h : u.Canonical)

include h in
/-- A query and a fragment are read back. -/
theorem withTail_tailText (path : Path) : withTail
    ⟨u.scheme, u.authority, path, none, none⟩ u.tailText = { u with path } := by
  obtain ⟨scheme, authority, old, query, fragment⟩ := u
  have hfragment : readFragment (tail '#' fragment) = fragment := by
    cases fragment with
    | none => rfl
    | some cs => exact congrArg some (Percent.encode_of_isEncoded (h.fragment cs rfl))
  have hspecial : isSpecial scheme = true := h.special
  cases query with
  | none =>
    have hmark : tailText ⟨scheme, authority, old, none, fragment⟩ = tail '#' fragment := rfl
    rw [hmark]
    unfold withTail
    split
    · next hcs => cases fragment <;> cases hcs
    · rw [hfragment]
  | some cs =>
    have hencoded := h.query cs rfl
    have hall : ∀ c ∈ cs, (c != '#') = true := by
      intro c hc
      refine bne_iff_ne.mpr ?_
      rintro rfl
      exact absurd (hencoded '#' hc).2.2 (by decide)
    have hspan : (cs ++ tail '#' fragment).span (· != '#') = (cs, tail '#' fragment) := by
      rw [List.span_eq_takeWhile_dropWhile, List.takeWhile_append_of_pos hall,
        List.dropWhile_append_of_pos hall]
      cases fragment with
      | none => exact Prod.ext (List.append_nil cs) rfl
      | some ds => exact Prod.ext (List.append_nil cs) rfl
    have hmark : tailText ⟨scheme, authority, old, some cs, fragment⟩ =
        '?' :: (cs ++ tail '#' fragment) := rfl
    rw [hmark, withTail_query]
    dsimp only
    rw [hspan, hspecial, if_pos rfl, Percent.encode_of_isEncoded hencoded, hfragment]

include h in
theorem lt_of_mem_tailText {c : Char} (hc : c ∈ u.tailText) : 0x20 < c.toNat := by
  have hblank {reserved : Char → Bool} (hreserved : reserved ' ' = true) {cs : List Char}
      (hencoded : Percent.IsEncoded reserved cs) (hc : c ∈ cs) : 0x20 < c.toNat := by
    obtain ⟨hlow, -, hspared⟩ := hencoded c hc
    refine Nat.lt_of_le_of_ne hlow fun heq => ?_
    have hspace : c = ' ' := Char.toNat_inj.mp heq.symm
    rw [hspace, hreserved] at hspared
    cases hspared
  have htail {reserved : Char → Bool} (hreserved : reserved ' ' = true) {mark : Char}
      (hmark : 0x20 < mark.toNat) {text : Option (List Char)}
      (hencoded : ∀ cs ∈ text, Percent.IsEncoded reserved cs) (hc : c ∈ tail mark text) :
      0x20 < c.toNat := by
    cases text with
    | none => cases hc
    | some cs =>
      rcases List.mem_cons.mp hc with rfl | hc
      · exact hmark
      · exact hblank hreserved (hencoded cs rfl) hc
  rcases List.mem_append.mp hc with hc | hc
  · exact htail rfl (by decide) h.query hc
  · exact htail rfl (by decide) h.fragment hc

/-- Nothing of a tail is part of the path before it. -/
theorem head?_tailText (u : Url) : ∀ c ∈ u.tailText.head?, isTail c := by
  intro c hc
  unfold tailText tail at hc
  split at hc
  · obtain rfl := Option.some.inj hc
    rfl
  · split at hc
    · obtain rfl := Option.some.inj hc
      rfl
    · cases hc

include h in
/-- **A path is read back**, with what stands behind it. -/
theorem withPath_chars {first : List Char} {rest : List (List Char)}
    (hpath : u.path = .segments (first :: rest)) (hkept : ∀ s ∈ first :: rest, IsKept s) :
    withPath ⟨u.scheme, u.authority, .segments [], none, none⟩ []
      (slashedText first rest ++ u.tailText) = u := by
  have htext : ∀ c ∈ slashedText first rest, (!isTail c) = true := by
    intro c hc
    rcases mem_slashedText hc with rfl | ⟨s, hs, hc⟩
    · rfl
    · rw [not_isTail_of_isWritten ((hkept s hs).written c hc)]
      rfl
  have hspan : (slashedText first rest ++ u.tailText).span (fun c => !isTail c) =
      (slashedText first rest, u.tailText) := by
    have hhead := head?_tailText u
    rw [List.span_eq_takeWhile_dropWhile, List.takeWhile_append_of_pos htext,
      List.dropWhile_append_of_pos htext]
    cases htail : u.tailText with
    | nil => exact Prod.ext (List.append_nil _) rfl
    | cons c cs =>
      have hc : isTail c = true := hhead c (by rw [htail]; rfl)
      have hstop : ¬ (!isTail c) = true := by simp [hc]
      rw [List.takeWhile_cons_of_neg (p := fun c => !isTail c) hstop,
        List.dropWhile_cons_of_neg (p := fun c => !isTail c) hstop, List.append_nil]
  have hsame : ∀ s ∈ first :: rest, encodeSegment s = s := fun s hs =>
    encodeSegment_of_written (hkept s hs).written
  have hsegments : (resolve false ⟨[], false⟩ (first :: rest)).segments = first :: rest := by
    rw [resolve_segments (fun s hs => by rw [hsame s hs]; exact (hkept s hs).undotted)
      fun hfile => absurd hfile Bool.false_ne_true, List.nil_append, List.map_congr_left hsame, List.map_id']
  have hbreak : ∀ c ∈ u.tailText, isBreak c = false := fun c hc =>
    not_isBreak_of_lt (h.lt_of_mem_tailText hc)
  unfold withPath readPath
  rw [hspan]
  dsimp only
  rw [h.special, h.other, splitPath_slashedText fun s hs => (hkept s hs).not_isSlash, hsegments,
    unbroken_of_not_isBreak hbreak]
  exact (h.withTail_tailText (.segments (first :: rest))).trans (by rw [← hpath])

include h in
/-- **A URL is read back from its text**, unless there is Punycode in its host that is too long. -/
theorem parse_text : parse u.text = if u.isLong then .error .domain else .ok u := by
  obtain ⟨a, ha, hsettled⟩ := h.authority
  obtain ⟨first, rest, hpath, hkept⟩ := h.path
  have hchars : u.chars = u.scheme ++ ':' :: '/' :: '/' ::
      (a.chars ++ '/' :: (slashedText first rest ++ u.tailText)) := by
    simp only [Url.chars, opening, ha, hpath, Path.chars, List.flatMap_cons, slashedText, tailText,
      List.cons_append, List.append_assoc]
  have hplain : ∀ c ∈ a.chars ++ '/' :: (slashedText first rest ++ u.tailText), 0x20 < c.toNat := by
    intro c hc
    simp only [List.mem_append, List.mem_cons] at hc
    rcases hc with hc | rfl | hc | hc
    · exact (isAuthorityChar_iff.mp (hsettled.isAuthorityChar_of_mem hc)).1
    · decide
    · rcases mem_slashedText hc with rfl | ⟨s, hs, hc⟩
      · decide
      · exact (isWritten_iff.mp ((hkept s hs).written c hc)).1
    · exact h.lt_of_mem_tailText hc
  have hfirst : ∀ c ∈ (a.chars ++ '/' :: (slashedText first rest ++ u.tailText)).head?,
      isSlash true c = false := by
    obtain ⟨c, cs, hcons⟩ := List.exists_cons_of_ne_nil hsettled.chars_ne_nil
    rw [hcons]
    intro d hd
    obtain rfl : c = d := Option.some.inj hd
    exact (isAuthorityChar_iff.mp
      (hsettled.isAuthorityChar_of_mem (hcons ▸ List.mem_cons_self))).2.1
  have hafter := hsettled.afterSlashes_chars h.special (slashedText first rest ++ u.tailText)
  have hroot : withRootPath ⟨u.scheme, some a, .segments [], none, none⟩
      ('/' :: (slashedText first rest ++ u.tailText)) = u := by
    rw [← ha]
    exact h.withPath_chars hpath hkept
  have hlong : u.isLong = a.host.isLong := by rw [isLong, ha, Option.any_some]
  rw [text, hchars, parse_of_isSpecial h.special h.other hfirst hplain, hafter, hroot, hlong]

/-! ### A slash at the end -/

include h in
theorem pathSettled : u.PathSettled := by
  obtain ⟨first, rest, hpath, hkept⟩ := h.path
  intro list hlist
  obtain rfl : first :: rest = list := Path.segments.inj (hpath.symm.trans hlist)
  exact ⟨fun s hs => (hkept s hs).written, fun _ s hs => (hkept s hs).undotted,
    by rw [h.other]; rfl⟩

include h in
/-- **With a slash at its end a URL is canonical still**; its last segment is empty. -/
theorem withFinalSlash : u.withFinalSlash.Canonical ∧
    (∃ init, u.withFinalSlash.path = .segments (init ++ [[]])) ∧
      u.withFinalSlash.path.chars = slashed u.path.chars := by
  obtain ⟨first, rest, hpath, hkept⟩ := h.path
  have hsteady : u.Steady := fun hfile => absurd (h.other.symm.trans hfile) Bool.false_ne_true
  obtain ⟨init, hinit, -, hchars, hsub⟩ := withFinalSlash_path h.pathSettled hsteady hpath
  have hall : ∀ s ∈ init ++ [[]], IsKept s := by
    intro s hs
    rcases List.mem_append.mp hs with hs | hs
    · exact hkept s (hsub s hs)
    · exact List.mem_singleton.mp hs ▸ isKept_nil
  refine ⟨?_, ⟨init, hinit⟩, hchars⟩
  obtain ⟨c, more, hcons⟩ := List.exists_cons_of_ne_nil (List.concat_ne_nil [] init)
  rw [withFinalSlash_eq, hinit, hcons]
  exact ⟨h.special, h.other, h.authority, ⟨c, more, rfl, hcons ▸ hall⟩, h.query, h.fragment⟩

end Canonical

theorem getLast?_slashed (path : List Char) : (slashed path).getLast? = some '/' := by
  unfold slashed
  split
  · assumption
  · rw [List.getLast?_concat]

/-- A slash is put at the end only once. -/
theorem withFinalSlash_of_slashed {u : Url} {path : List Char} (h : u.path.chars = slashed path) :
    u.withFinalSlash = u :=
  if_pos (h ▸ getLast?_slashed path)

/-- Segments without slashes are told from their text. -/
theorem segments_inj {list others : List (List Char)} (hlist : ∀ s ∈ list, '/' ∉ s)
    (hothers : ∀ s ∈ others, '/' ∉ s)
    (h : Path.chars (.segments list) = Path.chars (.segments others)) : list = others := by
  have hsplit {first : List Char} {rest : List (List Char)} (hfree : ∀ s ∈ first :: rest, '/' ∉ s) :
      splitPath false (slashedText first rest) = first :: rest := by
    refine splitPath_slashedText fun s hs c hc => ?_
    have hslash : c ≠ '/' := fun hslash => hfree s hs (hslash ▸ hc)
    simp [isSlash, hslash]
  cases list with
  | nil => cases others with
    | nil => rfl
    | cons first rest => cases h
  | cons first rest => cases others with
    | nil => cases h
    | cons other more =>
      have htext : slashedText first rest = slashedText other more := (List.cons.inj h).2
      rw [← hsplit hlist, ← hsplit hothers, htext]

/-- URLs that differ in a slash at the end of the path only are the same with a slash there. -/
theorem Canonical.withFinalSlash_congr {u v : Url} (h : u.Canonical) (h' : v.Canonical)
    (hsame : v = { u with path := v.path }) (hpath : slashed v.path.chars = slashed u.path.chars) :
    v.withFinalSlash = u.withFinalSlash := by
  obtain ⟨hcanonical, ⟨init, hinit⟩, hchars⟩ := h.withFinalSlash
  obtain ⟨hcanonical', ⟨init', hinit'⟩, hchars'⟩ := h'.withFinalSlash
  have hfree {w : Url} (hw : w.Canonical) {list : List (List Char)} (hlist : w.path = .segments list) :
      ∀ s ∈ list, '/' ∉ s := by
    intro s hs hmem
    have hwritten := (hw.pathSettled list hlist).written s hs '/' hmem
    exact absurd hwritten (by decide)
  have hlists : init' ++ [[]] = init ++ [[]] := by
    refine segments_inj (hfree hcanonical' hinit') (hfree hcanonical hinit) ?_
    rw [← hinit', ← hinit, hchars', hchars, hpath]
  rw [v.withFinalSlash_eq, u.withFinalSlash_eq, hinit', hinit, hlists, hsame]

end CloudApi.Url
