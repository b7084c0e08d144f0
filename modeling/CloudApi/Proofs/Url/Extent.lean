import CloudApi.Proofs.Url.Join

/-! How long a path becomes.

A text makes a path longer by what it is written as, at most: breaks, dots and whatever is not read
as a part of the path are missing from it. So the path of a reference is that of the base with the
whole reference behind it only if the reference leads down (`leadsDown_of_join`); a flat path never
gets anything behind its slash (`leadsDown_of_join_withFinalSlash`). Files are left out, where a drive
can change without becoming shorter. -/
namespace CloudApi

namespace Url

open Text

/-! ### Texts -/

/-- The length of what a text is written as in a path. -/
def extent (cs : List Char) : Nat :=
  (Percent.encode Percent.path cs).length

theorem length_encodeChar_pos (reserved : Char → Bool) (c : Char) :
    0 < (Percent.encodeChar reserved c).length := by
  rcases encodeChar_cases reserved c with h | ⟨rest, h⟩ <;> rw [h] <;> exact Nat.succ_pos _

theorem extent_cons (c : Char) (cs : List Char) :
    extent (c :: cs) = (Percent.encodeChar Percent.path c).length + extent cs := by
  rw [extent, Percent.encode, List.flatMap_cons, List.length_append]
  rfl

theorem extent_append (cs ds : List Char) : extent (cs ++ ds) = extent cs + extent ds := by
  rw [extent, Percent.encode, List.flatMap_append, List.length_append]
  rfl

/-- What is left out is missing. -/
theorem extent_lt_of_sublist {cs ds : List Char} (hsub : ds.Sublist cs) (hne : ds ≠ cs) :
    extent ds < extent cs := by
  induction hsub with
  | slnil => exact absurd rfl hne
  | @cons ds cs c hsub ih =>
    have hpos := length_encodeChar_pos Percent.path c
    rw [extent_cons]
    by_cases heq : ds = cs
    · rw [heq]
      omega
    · have hlt := ih heq
      omega
  | @cons_cons ds cs c hsub ih =>
    have hlt := ih fun heq => hne (heq ▸ rfl)
    rw [extent_cons, extent_cons]
    omega

theorem extent_le_of_sublist {cs ds : List Char} (hsub : ds.Sublist cs) :
    extent ds ≤ extent cs := by
  by_cases heq : ds = cs
  · rw [heq]
  · exact (extent_lt_of_sublist hsub heq).le

/-- In a flat path less is encoded. -/
theorem length_encode_controls_le (cs : List Char) :
    (Percent.encode Percent.controls cs).length ≤ extent cs := by
  induction cs with
  | nil => exact le_rfl
  | cons c cs ih =>
    have hchar : (Percent.encodeChar Percent.controls c).length ≤
        (Percent.encodeChar Percent.path c).length := by
      by_cases hcontrol : c.toNat < 0x20 ∨ 0x7F ≤ c.toNat
      · unfold Percent.encodeChar
        rw [if_pos (hcontrol.imp_right .inl), if_pos (hcontrol.imp_right .inl)]
      · have hplain : Percent.encodeChar Percent.controls c = [c] := by
          unfold Percent.encodeChar
          rw [if_neg]
          simpa [Percent.controls] using hcontrol
        rw [hplain]
        exact length_encodeChar_pos _ c
    rw [extent_cons, Percent.encode, List.flatMap_cons, List.length_append]
    exact Nat.add_le_add hchar ih

/-! ### Paths -/

/-- The length of segments with their slashes. -/
def width (list : List (List Char)) : Nat :=
  (list.flatMap ('/' :: ·)).length

theorem width_cons (s : List Char) (list : List (List Char)) :
    width (s :: list) = s.length + 1 + width list := by
  rw [width, List.flatMap_cons, List.length_append, List.length_cons]
  rfl

theorem width_append (list more : List (List Char)) :
    width (list ++ more) = width list + width more := by
  rw [width, List.flatMap_append, List.length_append]
  rfl

theorem width_singleton (s : List Char) : width [s] = s.length + 1 :=
  width_cons s []

theorem width_shorten_le (list : List (List Char)) : width (shorten list) ≤ width list := by
  unfold shorten
  split
  · exact le_rfl
  · obtain rfl | ⟨init, s, rfl⟩ := List.eq_nil_or_concat' list
    · exact le_rfl
    · rw [List.dropLast_concat, width_append]
      exact Nat.le_add_right _ _

theorem width_splitPath (special : Bool) (cs : List Char) :
    width ((splitPath special cs).map encodeSegment) = extent (unbroken cs) + 1 := by
  induction cs with
  | nil => rfl
  | cons c cs ih =>
    cases hslash : isSlash special c with
    | true =>
      have hone : isBreak c = false ∧ (Percent.encodeChar Percent.path c).length = 1 := by
        simp only [isSlash, Bool.or_eq_true, Bool.and_eq_true, beq_iff_eq] at hslash
        rcases hslash with rfl | ⟨-, rfl⟩ <;> exact ⟨rfl, rfl⟩
      have hkept : unbroken (c :: cs) = c :: unbroken cs :=
        List.filter_cons_of_pos (by rw [hone.1]; rfl)
      rw [splitPath_slash hslash, List.map_cons, width_cons, ih, hkept, extent_cons, hone.2]
      show 0 + 1 + _ = _
      omega
    | false =>
      obtain ⟨part, parts, hsplit⟩ := exists_splitPath_eq_cons special cs
      rw [hsplit, List.map_cons, width_cons] at ih
      rw [splitPath_cons hslash hsplit, List.map_cons, width_cons]
      cases hbreak : isBreak c with
      | true =>
        have hgone (cs : List Char) : unbroken (c :: cs) = unbroken cs :=
          List.filter_cons_of_neg (by rw [hbreak]; exact Bool.false_ne_true)
        have hsegment : encodeSegment (c :: part) = encodeSegment part := by
          rw [encodeSegment, hgone, encodeSegment]
        rw [hsegment, hgone, ih]
      | false =>
        have hkept (cs : List Char) : unbroken (c :: cs) = c :: unbroken cs :=
          List.filter_cons_of_pos (by rw [hbreak]; rfl)
        have hsegment : (encodeSegment (c :: part)).length =
            (Percent.encodeChar Percent.path c).length + (encodeSegment part).length := by
          rw [encodeSegment, hkept]
          exact extent_cons c (unbroken part)
        rw [hsegment, hkept, extent_cons]
        omega

/-- Dots make a path shorter than their parts are. -/
theorem width_resolve (trail : Trail) (parts : List (List Char)) :
    width (resolve false trail parts).segments ≤
        width trail.segments + width (parts.map encodeSegment) ∧
      (width (resolve false trail parts).segments =
          width trail.segments + width (parts.map encodeSegment) →
        ∀ part ∈ parts, ¬ IsDots (encodeSegment part)) := by
  induction parts generalizing trail with
  | nil => exact ⟨le_rfl, fun _ part hpart => absurd hpart List.not_mem_nil⟩
  | cons raw rest ih =>
    rw [List.map_cons, width_cons]
    by_cases hdots : IsDots (encodeSegment raw)
    · have hfull : 0 < (encodeSegment raw).length := by
        rw [List.length_pos_iff]
        exact fun hnil => not_isDots_nil (hnil ▸ hdots)
      have hlt : width (resolve false trail (raw :: rest)).segments < width trail.segments +
          ((encodeSegment raw).length + 1 + width (rest.map encodeSegment)) := by
        obtain ⟨kept, hkept, hresolve⟩ := resolve_of_isDots false trail rest hdots
        have hkept : width kept ≤ width trail.segments := by
          rcases hkept with rfl | rfl
          · exact le_rfl
          · exact width_shorten_le _
        rw [hresolve]
        cases rest with
        | nil =>
          show width (kept ++ [[]]) < _
          rw [width_append, width_singleton]
          show width kept + (0 + 1) < _
          omega
        | cons next rest =>
          have hle := (ih ⟨kept, trail.drive⟩).1
          show width (resolve false ⟨kept, trail.drive⟩ (next :: rest)).segments < _
          dsimp only at hle
          omega
      exact ⟨hlt.le, fun heq => absurd heq hlt.ne⟩
    · rw [resolve_of_not_isDots hdots, if_neg fun h => Bool.false_ne_true h.1]
      obtain ⟨hle, heq⟩ := ih ⟨trail.segments ++ [encodeSegment raw], trail.drive⟩
      rw [width_append, width_singleton] at hle heq
      exact ⟨by omega, fun h => List.forall_mem_cons.mpr ⟨hdots, heq (by omega)⟩⟩

section Read
variable {u : Url} {cs : List Char}

/-- A path that is read behind segments is as long as these and the text only if all of the text
became segments. -/
theorem length_withPath (hother : isFile u.scheme = false) (done : List (List Char))
    (cs : List Char) :
    (u.withPath done cs).path.chars.length ≤ width done + 1 + extent cs ∧
      ((u.withPath done cs).path.chars.length = width done + 1 + extent cs →
        (∀ c ∈ cs, isBreak c = false ∧ isTail c = false) ∧
        ∀ part ∈ splitPath (isSpecial u.scheme) cs, ¬ IsDots (encodeSegment part)) := by
  rcases hspan : cs.span fun c => !isTail c with ⟨text, rest⟩
  have hpath : (u.withPath done cs).path.chars.length =
      width (resolve false ⟨done, false⟩ (splitPath (isSpecial u.scheme) text)).segments := by
    unfold withPath readPath
    simp only [hspan, path_withTail, hother]
    rfl
  obtain ⟨hle, hdots⟩ := width_resolve ⟨done, false⟩ (splitPath (isSpecial u.scheme) text)
  rw [width_splitPath] at hle hdots
  have htext := (sublist_of_span hspan).1
  have hsub := (unbroken_sublist text).trans htext
  have hextent := extent_le_of_sublist hsub
  rw [hpath]
  refine ⟨by dsimp only at hle; omega, fun heq => ?_⟩
  dsimp only at hle hdots
  have hall : unbroken text = cs := by
    by_contra hne
    have hlt := extent_lt_of_sublist hsub hne
    omega
  obtain rfl : text = cs := htext.antisymm (hall ▸ unbroken_sublist text)
  refine ⟨fun c hc => ⟨?_, ?_⟩, hdots (by rw [hall]; omega)⟩
  · rw [← hall] at hc
    simpa using (List.mem_filter.mp hc).2
  · rw [List.span_eq_takeWhile_dropWhile] at hspan
    rw [← (Prod.mk.inj hspan).1] at hc
    simpa using List.mem_takeWhile_imp hc

theorem length_withRootPath (hother : isFile u.scheme = false) (cs : List Char) :
    (u.withRootPath cs).path.chars.length ≤ 1 + extent cs := by
  have hempty (cs : List Char) :
      (withTail { u with path := .segments [] } cs).path.chars.length = 0 := by
    rw [path_withTail]
    rfl
  have hroot (cs : List Char) : (u.withPath [] cs).path.chars.length ≤ 1 + extent cs :=
    (length_withPath hother [] cs).1
  unfold withRootPath
  dsimp only
  split
  · split
    · exact hroot []
    · rw [hempty]
      exact Nat.zero_le _
  · next c rest =>
    split
    · have hrest := extent_le_of_sublist (List.sublist_cons_self c rest)
      exact (hroot rest).trans (by omega)
    split
    · rw [hempty]
      exact Nat.zero_le _
    · exact hroot _

theorem length_afterSlashes {scheme : List Char} (hother : isFile scheme = false)
    (h : afterSlashes scheme cs = .ok u) : u.path.chars.length ≤ 1 + extent cs := by
  obtain ⟨authority, path, hsub, rfl⟩ := exists_eq_of_afterSlashes h
  have hpath := extent_le_of_sublist hsub
  exact (length_withRootPath hother path).trans (by omega)

theorem length_readOther {scheme : List Char} (hother : isSpecial scheme = false)
    (h : readOther scheme cs = .ok u) : u.path.chars.length ≤ 1 + extent cs := by
  have hfile := not_isFile_of_not_isSpecial hother
  unfold readOther at h
  dsimp only at h
  split at h
  · next rest =>
    have hrest := extent_le_of_sublist
      ((List.sublist_cons_self '/' rest).trans (List.sublist_cons_self '/' _))
    exact (length_afterSlashes hfile h).trans (by omega)
  · next rest _ =>
    cases h
    have hrest := extent_le_of_sublist (List.sublist_cons_self '/' rest)
    exact (length_withPath hfile [] rest).1.trans (by show 0 + 1 + _ ≤ _; omega)
  · rcases hspan : cs.span fun c => !isTail c with ⟨text, rest⟩
    rw [hspan] at h
    cases h
    have htext := extent_le_of_sublist (sublist_of_span hspan).1
    rw [path_withTail]
    exact (length_encode_controls_le text).trans (by omega)

/-- What follows a scheme that is not that of files makes a path of its own, or it is read as a
relative reference. -/
theorem length_readScheme {base : Url} {scheme : List Char} (hother : isFile scheme = false)
    (h : readScheme (some base) scheme cs = .ok u) :
    u.path.chars.length ≤ 1 + extent cs ∨
      (isSpecial base.scheme ∧ readRelative base cs = .ok u) := by
  have hdrop (n : Nat) {u : Url} (h : afterSlashes scheme (cs.drop n) = .ok u) :
      u.path.chars.length ≤ 1 + extent cs := by
    have hrest := extent_le_of_sublist (List.drop_sublist n cs)
    exact (length_afterSlashes hother h).trans (by omega)
  unfold readScheme at h
  dsimp only at h
  split at h
  · next hspecial =>
    split at h
    · next hsame => exact .inr ⟨hsame.2 ▸ hspecial, h⟩
    · exact .inl (hdrop _ h)
  · next hplain => exact .inl (length_readOther (Bool.eq_false_iff.mpr hplain) h)

/-- A relative reference makes the path of its base longer by its own length only if all of it
becomes segments. -/
theorem length_readRelative {base : Url} (hother : isFile base.scheme = false)
    {init : List (List Char)} (hbase : base.path = .segments (init ++ [[]]))
    (h : readRelative base cs = .ok u) :
    u.path.chars.length ≤ base.path.chars.length + extent cs ∧
      (u.path.chars.length = base.path.chars.length + extent cs → cs ≠ [] →
        (∃ c rest, cs = c :: rest ∧ isSlash true c = false) ∧
        (∀ c ∈ cs, isBreak c = false ∧ isTail c = false) ∧
        (∀ part ∈ splitPath (isSpecial base.scheme) cs, ¬ IsDots (encodeSegment part)) ∧
        u = base.withPath init cs) := by
  have hlength : base.path.chars.length = width init + 1 := by
    rw [hbase]
    exact width_append init [[]]
  unfold readRelative at h
  split at h
  · cases h
    exact ⟨Nat.le_add_right _ _, fun _ hnil => absurd rfl hnil⟩
  next c rest =>
  have hpos : extent rest + 1 ≤ extent (c :: rest) := by
    have hchar := length_encodeChar_pos Percent.path c
    rw [extent_cons]
    omega
  -- whatever is shorter is no equality
  have hshort {u : Url} {P : Prop}
      (hlt : u.path.chars.length < base.path.chars.length + extent (c :: rest)) :
      u.path.chars.length ≤ base.path.chars.length + extent (c :: rest) ∧
        (u.path.chars.length = base.path.chars.length + extent (c :: rest) → c :: rest ≠ [] → P) :=
    ⟨hlt.le, fun heq => absurd heq hlt.ne⟩
  split at h
  · cases h
    exact hshort (by dsimp only; omega)
  split at h
  · cases h
    exact hshort (by rw [path_withTail]; omega)
  split at h
  · have hrest := extent_le_of_sublist (List.drop_sublist 1 rest)
    have hle := length_afterSlashes hother h
    exact hshort (by omega)
  split at h
  · split at h
    · have hrest := extent_le_of_sublist (List.dropWhile_sublist (l := rest) (isSlash true))
      have hle := length_afterSlashes hother h
      exact hshort (by omega)
    · cases h
      have hle := (length_withPath hother [] rest).1
      have hroot : width [] = 0 := rfl
      exact hshort (by omega)
  · next hslash =>
    rw [hbase] at h
    dsimp only at h
    rw [List.dropLast_concat] at h
    obtain rfl := Except.ok.inj h
    obtain ⟨hle, heq⟩ := length_withPath hother init (c :: rest)
    rw [hlength]
    refine ⟨hle, fun h _ => ?_⟩
    obtain ⟨hplain, hdots⟩ := heq h
    exact ⟨⟨c, rest, rfl, Bool.eq_false_iff.mpr hslash⟩, hplain, hdots, rfl⟩

theorem isFile_of_readFile (h : readFile none cs = .ok u) : isFile u.scheme := by
  have hpath (host : Host) (read : List (List Char) → Trail) (cs : List Char) :
      isFile ((fileUrl host).readPath read cs).1.scheme := by
    rw [readPath, scheme_withTail]
    rfl
  have hhost {cs : List Char} {u : Url} (h : readFileHost cs = .ok u) : isFile u.scheme := by
    unfold readFileHost at h
    rcases hspan : cs.span fun c => !(isSlash true c || isTail c) with ⟨text, rest⟩
    simp only [hspan] at h
    split at h
    · cases h
      exact hpath _ _ cs
    split at h
    · cases h
      exact hpath _ _ rest
    cases hhost : readHost true (unbroken text) with
    | error e =>
      rw [hhost] at h
      cases h
    | ok host =>
      rw [hhost] at h
      change (if _ then _ else _) = _ at h
      split at h
      · cases h
        exact hpath _ _ rest
      · cases h
        generalize (if rest.head?.any (isSlash true) then rest.drop 1 else rest) = path
        split <;> exact hpath host _ path
  unfold readFile at h
  split at h
  · cases h
    exact hpath _ _ []
  · next hnone _ => cases hnone
  split at h
  · split at h
    · split at h
      · exact hhost h
      · cases h
        exact hpath _ _ _
    · cases h
      exact hpath _ _ _
  · cases h
    exact hpath _ _ cs

/-- What a reference to a URL of another kind than a file is read as, if it has the scheme of its
base: a path of its own, the path of the base, or a relative reference, which may stand behind the
scheme. -/
theorem read_cases {base : Url} {reference : List Char} (hother : isFile base.scheme = false)
    (hscheme : u.scheme = base.scheme) (h : read (some base) reference = .ok u) :
    u.path.chars.length ≤ extent reference ∨ u.path = base.path ∨
      (isSpecial base.scheme ∧ ∃ rest, extent rest < extent reference ∧
        readRelative base rest = .ok u) ∨
      (scheme? (unbroken (trimmed reference)) = none ∧ base.isFlat = false ∧
        readRelative base (unbroken (trimmed reference)) = .ok u) := by
  have hread := extent_le_of_sublist
    ((unbroken_sublist (trimmed reference)).trans (trimmed_sublist reference))
  unfold read at h
  dsimp only at h
  cases hfound : scheme? (unbroken (trimmed reference)) with
  | some found =>
    obtain ⟨scheme, rest⟩ := found
    obtain ⟨name, heq, -⟩ := eq_of_scheme? hfound
    have hcolon : (Percent.encodeChar Percent.path ':').length = 1 := rfl
    rw [heq, extent_append, extent_cons, hcolon] at hread
    simp only [hfound] at h
    split at h
    · rw [Option.filter_some, hother, if_neg Bool.false_ne_true] at h
      have hfile := isFile_of_readFile h
      rw [hscheme, hother] at hfile
      cases hfile
    · next hfile =>
      rcases length_readScheme (Bool.eq_false_iff.mpr hfile) h with hle | ⟨hspecial, hrelative⟩
      · exact .inl (by omega)
      · exact .inr (.inr (.inl ⟨hspecial, rest, by omega, hrelative⟩))
  | none =>
    simp only [hfound] at h
    split at h
    · cases h
      exact .inr (.inl rfl)
    split at h
    · cases h
    · next hflat =>
      rw [hother, if_neg Bool.false_ne_true] at h
      exact .inr (.inr (.inr ⟨rfl, Bool.eq_false_iff.mpr hflat, h⟩))

end Read

/-! ### References -/

theorem lt_head_of_trimmed {cs : List Char} (h : trimmed cs = cs) :
    ∀ c ∈ cs.head?, 0x20 < c.toNat := by
  intro c hc
  cases cs with
  | nil => cases hc
  | cons d cs =>
    obtain rfl := Option.some.inj hc
    by_contra hlow
    have hdrop : (d :: cs).dropWhile (fun c => decide (c.toNat ≤ 0x20)) =
        cs.dropWhile fun c => decide (c.toNat ≤ 0x20) :=
      List.dropWhile_cons_of_pos (by simpa using hlow)
    have hlength := congrArg List.length h
    rw [trimmed, hdrop, List.length_reverse] at hlength
    have hback := (List.dropWhile_sublist (l := (cs.dropWhile fun c =>
      decide (c.toNat ≤ 0x20)).reverse) fun c => decide (c.toNat ≤ 0x20)).length_le
    have hfront := (List.dropWhile_sublist (l := cs) fun c => decide (c.toNat ≤ 0x20)).length_le
    rw [List.length_reverse] at hback
    rw [List.length_cons] at hlength
    omega

theorem lt_getLast_of_trimmed {cs : List Char} (h : trimmed cs = cs) :
    ∀ c ∈ cs.getLast?, 0x20 < c.toNat := by
  intro c hc
  rw [← h, trimmed, List.getLast?_reverse] at hc
  have hkept := List.head?_dropWhile_not (fun c : Char => decide (c.toNat ≤ 0x20))
    (cs.dropWhile fun c => decide (c.toNat ≤ 0x20)).reverse
  rw [hc] at hkept
  simpa using hkept

theorem backslash_not_mem_encodeSegment {part : List Char} (h : '\\' ∉ part) :
    '\\' ∉ encodeSegment part := by
  intro hmem
  obtain ⟨c, hc, hmem⟩ := List.mem_flatMap.mp hmem
  have hhex : ∀ n < 0x10, '\\' ≠ Numeral.upperHex n := by decide
  rcases mem_encodeChar hmem with ⟨rfl, -⟩ | hpercent | ⟨n, hn, hdigit⟩
  · exact h ((unbroken_sublist part).subset hc)
  · exact absurd hpercent (by decide)
  · exact hhex n hn hdigit

/-- **Only what leads down is put behind the path of its base as a whole**, and only if nothing at
its ends is left out. -/
theorem leadsDown_of_join {base u : Url} (hother : isFile base.scheme = false)
    {init : List (List Char)} (hbase : base.path = .segments (init ++ [[]])) {reference : String}
    (hfull : reference.toList ≠ []) (h : base.join reference = .ok u)
    (hscheme : u.scheme = base.scheme)
    (hchars : u.path.chars = base.path.chars ++ Percent.encode Percent.path reference.toList) :
    LeadsDown base.scheme reference.toList ∧ trimmed reference.toList = reference.toList := by
  have hlength : u.path.chars.length = base.path.chars.length + extent reference.toList := by
    rw [hchars, List.length_append]
    rfl
  have hslash : 0 < base.path.chars.length := by
    rw [hbase, Path.chars, List.flatMap_append, List.length_append]
    exact Nat.succ_pos _
  have hpos : 0 < extent reference.toList :=
    List.length_pos_iff.mpr (encode_ne_nil hfull)
  rcases read_cases hother hscheme h with hown | hsame | ⟨-, rest, hless, hrelative⟩ |
    ⟨hschemeless, -, hrelative⟩
  · omega
  · rw [hsame] at hlength
    omega
  · have hle := (length_readRelative hother hbase hrelative).1
    omega
  obtain ⟨hle, hall⟩ := length_readRelative hother hbase hrelative
  have hsub := (unbroken_sublist (trimmed reference.toList)).trans (trimmed_sublist _)
  have hkept : unbroken (trimmed reference.toList) = reference.toList := by
    by_contra hne
    have hlt := extent_lt_of_sublist hsub hne
    omega
  have htrimmed : trimmed reference.toList = reference.toList := by
    have hback := unbroken_sublist (trimmed reference.toList)
    rw [hkept] at hback
    exact (trimmed_sublist _).antisymm hback
  rw [hkept] at hall hschemeless
  obtain ⟨⟨c, rest, hcs, hfirst⟩, hplain, hdots, rfl⟩ := hall hlength hfull
  refine ⟨⟨⟨c, rest, hcs, lt_head_of_trimmed htrimmed c (hcs ▸ rfl), hfirst⟩, hplain,
    fun hspecial hmem => ?slashes, hschemeless, hdots, fun hfile => ?files⟩, htrimmed⟩
  case slashes =>
    -- a backslash would be a slash in the path
    have hpath := withPath_eq init (fun c hc => (hplain c hc).2) hdots
      (fun hfile => absurd (hother.symm.trans hfile) Bool.false_ne_true) (by rw [hother]; rfl)
    have hparts : (splitPath (isSpecial base.scheme) reference.toList).flatMap
        (fun part => '/' :: encodeSegment part) =
          '/' :: Percent.encode Percent.path reference.toList := by
      rw [hpath, hbase, Path.chars, Path.chars, List.flatMap_append, List.flatMap_append,
        List.flatMap_map, List.append_assoc] at hchars
      exact List.append_cancel_left hchars
    have hwritten : '\\' ∈ Percent.encode Percent.path reference.toList :=
      List.mem_flatMap.mpr ⟨_, hmem, List.mem_singleton.mpr rfl⟩
    have hpart := hparts ▸ List.mem_cons_of_mem '/' hwritten
    obtain ⟨part, hpart, hback⟩ := List.mem_flatMap.mp hpart
    have hnone := backslash_not_mem_encodeSegment fun hmem =>
      absurd (mem_of_mem_splitPath hpart _ hmem).2 (by rw [hspecial]; decide)
    exact hnone (List.mem_of_ne_of_mem (by decide) hback)
  case files =>
    rw [hother] at hfile
    cases hfile

/-- Against a flat path only a path of its own is read, or the flat path stays. -/
theorem length_join_of_isFlat {base u : Url} (hflat : base.isFlat)
    (hother : isSpecial base.scheme = false) {reference : String} (h : base.join reference = .ok u)
    (hscheme : u.scheme = base.scheme) :
    u.path.chars.length ≤ extent reference.toList ∨ u.path = base.path := by
  rcases read_cases (not_isFile_of_not_isSpecial hother) hscheme h with hown | hsame |
    ⟨hspecial, -⟩ | ⟨-, hopen, -⟩
  · exact .inl hown
  · exact .inr hsame
  · rw [hother] at hspecial
    cases hspecial
  · rw [hflat] at hopen
    cases hopen

/-! ### A slash at the end -/

section FinalSlash
variable {u : Url}

theorem slashed_ne_nil (path : List Char) : slashed path ≠ [] := by
  unfold slashed
  split
  · next h =>
    rintro rfl
    cases h
  · exact List.append_ne_nil_of_right_ne_nil path (List.cons_ne_nil '/' [])

/-- A flat path with a slash at its end has nothing else behind it. -/
theorem withFinalSlash_path_ne (hflat : u.isFlat) {tail : List Char} (htail : tail ≠ []) :
    u.withFinalSlash.path.chars ≠ slashed u.path.chars ++ tail := by
  have hsame : ¬ slashed u.path.chars = slashed u.path.chars ++ tail :=
    fun h => htail (List.self_eq_append_right.mp h)
  unfold withFinalSlash slashed at *
  split
  · next h => rwa [if_pos h] at hsame
  · next h =>
    rw [if_neg h] at hsame
    unfold isFlat at hflat
    rcases hpath : u.path with (_ | ⟨c, cs⟩) | list <;> rw [hpath] at hsame hflat
    · -- the slash that a flat path cannot begin with is encoded
      exact fun h => absurd (List.cons.inj h).1 (by decide)
    · exact hsame
    · cases hflat

/-- **Only what leads down is put behind the path of a URL as a whole**, with a slash between; and
only behind segments. -/
theorem leadsDown_of_join_withFinalSlash {text reference : String} {api : Url}
    (hparse : parse text = .ok api) (hother : isFile api.scheme = false)
    (hfull : reference.toList ≠ []) (h : api.withFinalSlash.join reference = .ok u)
    (hscheme : u.scheme = api.scheme) (hchars : u.path.chars =
      slashed api.path.chars ++ Percent.encode Percent.path reference.toList) :
    api.isFlat = false ∧ LeadsDown api.scheme reference.toList := by
  have hbase := scheme_withFinalSlash api
  cases hpath : api.path with
  | flat cs =>
    have hflat : api.isFlat := by rw [isFlat, hpath]
    have hspecial : isSpecial api.scheme = false := by
      by_contra hspecial
      obtain ⟨list, hlist⟩ := (tailedBy_parse hparse).segments (Bool.of_not_eq_false hspecial)
      rw [hpath] at hlist
      cases hlist
    rcases length_join_of_isFlat ((isFlat_withFinalSlash api).trans hflat) (hbase ▸ hspecial) h
      (hscheme.trans hbase.symm) with hown | hsame
    · have hpos := List.length_pos_iff.mpr (slashed_ne_nil api.path.chars)
      rw [hchars, List.length_append, extent] at hown
      omega
    · exact absurd (hsame ▸ hchars) (withFinalSlash_path_ne hflat (encode_ne_nil hfull))
  | segments list =>
    have hsteady : api.Steady := fun hfile => absurd (hother.symm.trans hfile) Bool.false_ne_true
    obtain ⟨init, hinit, -, hslashed, -⟩ :=
      withFinalSlash_path (pathSettled_parse hparse) hsteady hpath
    obtain ⟨hdown, -⟩ := leadsDown_of_join (hbase ▸ hother) hinit hfull h (hscheme.trans hbase.symm)
      (hslashed ▸ hchars)
    exact ⟨by rw [isFlat, hpath], hbase ▸ hdown⟩

end FinalSlash

end Url

end CloudApi
