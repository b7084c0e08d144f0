import CloudApi.Proofs.Url.Path

/-! References that lead down.

A text that begins with nothing special, without marks, breaks and dots in it (`LeadsDown`), is read
against a base as parts of its path: they stand behind the last slash of the base, and nothing else of
the base changes but for its query and fragment (`join_of_leadsDown`). A base with a flat path has no
place for them. -/
namespace CloudApi

namespace Url

open Text

/-- A text that a URL of a scheme takes for parts of its path, behind its last slash. -/
structure LeadsDown (scheme cs : List Char) : Prop where
  begins : ∃ c rest, cs = c :: rest ∧ 0x20 < c.toNat ∧ isSlash true c = false
  plain : ∀ c ∈ cs, isBreak c = false ∧ isTail c = false
  slashes : isSpecial scheme → '\\' ∉ cs
  schemeless : scheme? cs = none
  undotted : ∀ part ∈ splitPath (isSpecial scheme) cs, ¬ IsDots (encodeSegment part)
  driveless : isFile scheme → startsWithDrive cs = false

/-! ### Words -/

/-- A character of a word. -/
def isWord (c : Char) : Bool :=
  isLetter c || Numeral.isDigit c || c == '_' || c == '-'

section Words
variable {w : List Char} (hw : ∀ c ∈ w, isWord c)

theorem isWritten_of_isWord {c : Char} (h : isWord c) : isWritten c := by
  simp only [isWord, Bool.or_eq_true, beq_iff_eq] at h
  rcases h with ((h | h) | rfl) | rfl
  · exact isWritten_of_isLetter h
  · have hlow : c.toNat < 0x80 := Nat.lt_of_le_of_lt (Numeral.isDigit_iff.mp h).2 (by decide)
    revert h
    exact Utf8.of_ascii hlow (by decide)
  · decide
  · decide

include hw in
theorem written_of_word : Written w :=
  fun c hc => isWritten_of_isWord (hw c hc)

include hw in
theorem untailed_of_word : Untailed w :=
  fun c hc => not_isTail_of_isWritten (written_of_word hw c hc)

include hw in
theorem not_mem_word {c : Char} (hc : isWord c = false) : c ∉ w :=
  fun hmem => absurd (hc.symm.trans (hw c hmem)) Bool.false_ne_true

include hw in
theorem not_isDots_word : ¬ IsDots w := by
  have hunmasked : unmasked w = w := by
    induction w with
    | nil => rfl
    | cons c w ih =>
      obtain ⟨hc, hrest⟩ := List.forall_mem_cons.mp hw
      have hpercent : c ≠ '%' := by
        rintro rfl
        exact absurd hc (by decide)
      rw [unmasked.eq_def]
      split
      · next heq => exact absurd (List.cons.inj heq).1 hpercent
      · next heq =>
        obtain ⟨rfl, rfl⟩ := List.cons.inj heq
        rw [ih hrest]
      · next heq => cases heq
  have hdot : '.' ∉ w := not_mem_word hw rfl
  rintro (h | h) <;> rw [hunmasked] at h <;> exact hdot (h ▸ List.mem_cons_self)

include hw in
/-- A word behind a slash is written as it is. -/
theorem encode_append_word (cs : List Char) : Percent.encode Percent.path (cs ++ '/' :: w) =
    Percent.encode Percent.path cs ++ '/' :: w := by
  rw [Percent.encode, List.flatMap_append]
  exact congrArg (fun behind => _ ++ '/' :: behind) (encode_of_written (written_of_word hw))

include hw in
/-- A text with a word at its end is not trimmed there. -/
theorem lt_getLast_append_word (cs : List Char) :
    ∀ c ∈ (cs ++ '/' :: w).getLast?, 0x20 < c.toNat := by
  intro c hc
  rw [List.getLast?_append, List.getLast?_cons] at hc
  obtain rfl := Option.some.inj hc
  cases hlast : w.getLast? with
  | none => decide
  | some d => exact (isWritten_iff.mp (written_of_word hw d (List.mem_of_getLast? hlast))).1

end Words

/-! ### A word behind a reference -/

/-- Whether a text begins with a scheme shows up to the first character that can be in none. -/
theorem scheme?_append_of_dropWhile {cs back : List Char} {c : Char}
    (hback : cs.dropWhile isSchemeChar = c :: back) (ds : List Char) :
    scheme? (cs ++ ds) = (scheme? cs).map fun (scheme, rest) => (scheme, rest ++ ds) := by
  have hlength : (cs.takeWhile isSchemeChar).length ≠ cs.length := by
    have hsum := congrArg List.length
      (List.takeWhile_append_dropWhile (p := isSchemeChar) (l := cs))
    rw [List.length_append, hback, List.length_cons] at hsum
    omega
  unfold scheme?
  rw [List.span_eq_takeWhile_dropWhile, List.span_eq_takeWhile_dropWhile, List.takeWhile_append,
    List.dropWhile_append, if_neg hlength, hback, List.isEmpty_cons, if_neg Bool.false_ne_true,
    List.cons_append]
  by_cases hcolon : c = ':'
  · subst hcolon
    cases cs.takeWhile isSchemeChar with
    | nil => rfl
    | cons d name =>
      show (if isLetter d then _ else none) = Option.map _ (if isLetter d then _ else none)
      by_cases hletter : isLetter d
      · rw [if_pos hletter, if_pos hletter]
        rfl
      · rw [if_neg hletter, if_neg hletter]
        rfl
  · dsimp only
    split
    · next heq => exact absurd (List.cons.inj heq).1 hcolon
    · split
      · next heq => exact absurd (List.cons.inj heq).1 hcolon
      · rfl

theorem scheme?_append {cs : List Char} (h : scheme? cs = none) (ds : List Char) :
    scheme? (cs ++ '/' :: ds) = none := by
  cases hback : cs.dropWhile isSchemeChar with
  | cons c back => rw [scheme?_append_of_dropWhile hback, h, Option.map_none]
  | nil =>
    -- the name ends at the slash, where no colon stands
    unfold scheme?
    rw [List.span_eq_takeWhile_dropWhile, List.takeWhile_append, List.dropWhile_append, hback,
      List.isEmpty_nil, if_pos rfl, List.dropWhile_cons_of_neg (by decide)]
    dsimp only
    split
    · next heq => cases heq
    · rfl

theorem scheme?_of_append {cs ds : List Char} (h : scheme? (cs ++ ds) = none) :
    scheme? cs = none := by
  cases hback : cs.dropWhile isSchemeChar with
  | cons c back =>
    rw [scheme?_append_of_dropWhile hback, Option.map_eq_none_iff] at h
    exact h
  | nil =>
    unfold scheme?
    rw [List.span_eq_takeWhile_dropWhile, hback]
    dsimp only
    split
    · next heq => cases heq
    · rfl

theorem LeadsDown.append_word {scheme cs w : List Char} (h : LeadsDown scheme cs)
    (hw : ∀ c ∈ w, isWord c) : LeadsDown scheme (cs ++ '/' :: w) where
  begins := by
    obtain ⟨c, rest, rfl, hc⟩ := h.begins
    exact ⟨c, _, rfl, hc⟩
  plain := by
    intro c hc
    rcases List.mem_append.mp hc with hc | hc
    · exact h.plain c hc
    rcases List.mem_cons.mp hc with rfl | hc
    · exact ⟨rfl, rfl⟩
    · have hwritten := written_of_word hw c hc
      exact ⟨not_isBreak_of_isWritten hwritten, untailed_of_word hw c hc⟩
  slashes := by
    intro hspecial hmem
    rcases List.mem_append.mp hmem with hmem | hmem
    · exact h.slashes hspecial hmem
    · exact not_mem_word hw rfl (List.mem_of_ne_of_mem (by decide) hmem)
  schemeless := scheme?_append h.schemeless w
  undotted := by
    have hslash : ∀ c ∈ w, isSlash (isSpecial scheme) c = false := by
      intro c hc
      have hplain {d : Char} (hd : isWord d = false) : c ≠ d := fun h => not_mem_word hw hd (h ▸ hc)
      simp [isSlash, hplain (d := '/') rfl, hplain (d := '\\') rfl]
    intro part hpart
    rw [splitPath_append, splitPath_of_not_mem hslash] at hpart
    rcases List.mem_append.mp hpart with hpart | hpart
    · exact h.undotted part hpart
    · rw [List.mem_singleton.mp hpart, encodeSegment_of_written (written_of_word hw)]
      exact not_isDots_word hw
  driveless := by
    intro hfile
    have hdrive := h.driveless hfile
    obtain ⟨c, rest, rfl, -⟩ := h.begins
    rw [startsWithDrive, unbroken_of_not_isBreak fun d hd => (h.plain d hd).1] at hdrive
    rw [startsWithDrive, unbroken_of_not_isBreak fun d hd => ?plain]
    case plain =>
      rcases List.mem_append.mp hd with hd | hd
      · exact (h.plain d hd).1
      rcases List.mem_cons.mp hd with rfl | hd
      · rfl
      · exact not_isBreak_of_isWritten (written_of_word hw d hd)
    rcases rest with _ | ⟨d, _ | ⟨e, rest⟩⟩
    · simp [Drive.isDrive]
    · simp only [List.cons_append, List.nil_append, List.take_succ_cons, List.take_zero,
        List.drop_succ_cons, List.drop_zero, List.head?_nil, Option.all_none, Bool.and_true] at hdrive ⊢
      rw [hdrive, Bool.false_and]
    · exact hdrive

/-- What is in front of what leads down leads down, if it is something; the drives of files aside. -/
theorem LeadsDown.of_append {scheme cs ds : List Char} (h : LeadsDown scheme (cs ++ '/' :: ds))
    (hfull : cs ≠ []) (hother : isFile scheme = false) : LeadsDown scheme cs where
  begins := by
    obtain ⟨c, rest, rfl⟩ := List.exists_cons_of_ne_nil hfull
    obtain ⟨d, more, heq, hd⟩ := h.begins
    obtain ⟨rfl, -⟩ := List.cons.inj heq
    exact ⟨c, rest, rfl, hd⟩
  plain c hc := h.plain c (List.mem_append_left _ hc)
  slashes hspecial hmem := h.slashes hspecial (List.mem_append_left _ hmem)
  schemeless := scheme?_of_append h.schemeless
  undotted part hpart := by
    refine h.undotted part ?_
    rw [splitPath_append]
    exact List.mem_append_left _ hpart
  driveless hfile := by
    rw [hother] at hfile
    cases hfile

/-! ### Reading it -/

section Read
variable {base : Url} {cs : List Char}

/-- A text with something at both its ends is not trimmed. -/
theorem trimmed_eq_self (hfirst : ∀ c ∈ cs.head?, 0x20 < c.toNat)
    (hlast : ∀ c ∈ cs.getLast?, 0x20 < c.toNat) : trimmed cs = cs := by
  have hkept {cs : List Char} (h : ∀ c ∈ cs.head?, 0x20 < c.toNat) :
      cs.dropWhile (fun c => decide (c.toNat ≤ 0x20)) = cs := by
    cases cs with
    | nil => rfl
    | cons c cs =>
      have hc := h c rfl
      exact List.dropWhile_cons_of_neg (by simpa using hc)
  rw [trimmed, hkept hfirst, hkept (by rwa [List.head?_reverse]), List.reverse_reverse]

theorem LeadsDown.unbroken_eq {scheme : List Char} (h : LeadsDown scheme cs) : unbroken cs = cs :=
  unbroken_of_not_isBreak fun c hc => (h.plain c hc).1

theorem isSpecial_of_isFile {scheme : List Char} (h : isFile scheme) : isSpecial scheme := by
  rw [isSpecial, h, Bool.true_or]

theorem not_isFile_of_not_isSpecial {scheme : List Char} (h : isSpecial scheme = false) :
    isFile scheme = false := by
  by_contra hfile
  rw [isSpecial_of_isFile (Bool.of_not_eq_false hfile)] at h
  cases h

/-- The first part of what leads down is no drive in a file path, and there is something in it. -/
theorem LeadsDown.exists_first {scheme : List Char} (h : LeadsDown scheme cs) :
    ∃ first parts, splitPath (isSpecial scheme) cs = first :: parts ∧ first ≠ [] ∧
      (isFile scheme → Drive.isDrive (encodeSegment first) = false) := by
  obtain ⟨first, parts, hsplit⟩ := exists_splitPath_eq_cons (isSpecial scheme) cs
  obtain ⟨more, hcs, hmore⟩ := eq_of_splitPath hsplit
  refine ⟨first, parts, hsplit, ?_, fun hfile => ?_⟩
  · rintro rfl
    obtain ⟨c, rest, rfl, -, hslash⟩ := h.begins
    obtain rfl : c :: rest = more := hcs
    have hc : isSlash (isSpecial scheme) c := hmore
    simp only [isSlash, Bool.or_eq_true, Bool.and_eq_true, beq_iff_eq, Bool.or_eq_false_iff,
      Bool.true_and, beq_eq_false_iff_ne] at hc hslash
    exact hc.elim hslash.1 fun hback => hslash.2 hback.2
  · by_contra hdrive
    rw [Bool.not_eq_false] at hdrive
    have hbreak : ∀ c ∈ first, isBreak c = false := fun c hc =>
      (h.plain c (hcs ▸ List.mem_append_left more hc)).1
    rw [eq_of_isDrive hbreak hdrive] at hdrive
    have hstarts := h.driveless hfile
    rw [startsWithDrive, h.unbroken_eq, hcs] at hstarts
    rw [isSpecial_of_isFile hfile] at hmore
    obtain ⟨c, d, rfl⟩ : ∃ c d, first = [c, d] := by
      unfold Drive.isDrive at hdrive
      split at hdrive
      · exact ⟨_, _, rfl⟩
      · cases hdrive
    have hdropped : ([c, d] ++ more).drop 2 = more := rfl
    have htaken : ([c, d] ++ more).take 2 = [c, d] := rfl
    rw [htaken, hdropped, hdrive, Bool.true_and] at hstarts
    cases more with
    | nil => cases hstarts
    | cons e more =>
      have he : isSlash true e = true := hmore
      simp [he] at hstarts

/-- Parts without marks, breaks and dots are read behind the segments of a path. -/
theorem withPath_eq (init : List (List Char)) (hplain : ∀ c ∈ cs, isTail c = false)
    (hdots : ∀ part ∈ splitPath (isSpecial base.scheme) cs, ¬ IsDots (encodeSegment part))
    (hfirst : isFile base.scheme → ∀ part ∈ (splitPath (isSpecial base.scheme) cs).head?,
      (Trail.start part).segments = [encodeSegment part])
    (hkept : withoutLeading (isFile base.scheme)
      (init ++ (splitPath (isSpecial base.scheme) cs).map encodeSegment) =
        init ++ (splitPath (isSpecial base.scheme) cs).map encodeSegment) :
    base.withPath init cs = { base with
      path := .segments (init ++ (splitPath (isSpecial base.scheme) cs).map encodeSegment)
      query := none
      fragment := none } := by
  have hspan : cs.span (fun c => !isTail c) = (cs, []) := by
    have hall : ∀ c ∈ cs, (!isTail c) = true := fun c hc => by rw [hplain c hc]; rfl
    rw [List.span_eq_takeWhile_dropWhile, List.takeWhile_eq_self_iff.mpr hall,
      List.dropWhile_eq_nil_iff.mpr hall]
  have hsegments : (resolve (isFile base.scheme) ⟨init, false⟩
      (splitPath (isSpecial base.scheme) cs)).segments =
        init ++ (splitPath (isSpecial base.scheme) cs).map encodeSegment :=
    resolve_segments hdots fun hfile _ => hfirst hfile
  unfold withPath readPath
  dsimp only
  rw [hspan]
  dsimp only
  rw [hsegments, hkept]
  rfl

/-- What leads down is read behind the last slash of a path. -/
theorem LeadsDown.withPath_eq (h : LeadsDown base.scheme cs) {init : List (List Char)}
    (hleading : withoutLeading (isFile base.scheme) (init ++ [[]]) = init ++ [[]]) :
    base.withPath init cs = { base with
      path := .segments (init ++ (splitPath (isSpecial base.scheme) cs).map encodeSegment)
      query := none
      fragment := none } := by
  obtain ⟨first, parts, hsplit, hfull, hdrive⟩ := h.exists_first
  have hbreak : ∀ c ∈ first, isBreak c = false := fun c hc =>
    (h.plain c (mem_of_mem_splitPath (hsplit ▸ List.mem_cons_self) c hc).1).1
  refine Url.withPath_eq init (fun c hc => (h.plain c hc).2) h.undotted (fun hfile part hpart => ?_) ?_
  · rw [hsplit] at hpart
    obtain rfl := Option.some.inj hpart
    refine start_segments hbreak fun h => ?_
    rw [hdrive hfile] at h
    cases h
  · have hfirst : encodeSegment first ≠ [] := by
      rw [encodeSegment, unbroken_of_not_isBreak hbreak]
      exact encode_ne_nil hfull
    obtain ⟨c, s, hcons⟩ := List.exists_cons_of_ne_nil hfirst
    rw [hsplit, List.map_cons, hcons]
    exact withoutLeading_append hleading

/-- **A reference that leads down is put behind the last slash of its base**, part by part. The rest of
the base stays, but for its query and fragment. -/
theorem join_eq_of_leadsDown {reference : String} (h : LeadsDown base.scheme reference.toList)
    (hlast : ∀ c ∈ reference.toList.getLast?, 0x20 < c.toNat) :
    (base.isFlat → base.join reference = .error .flatBase) ∧
      ∀ init, base.path = .segments (init ++ [[]]) →
        withoutLeading (isFile base.scheme) (init ++ [[]]) = init ++ [[]] →
        base.join reference = .ok { base with
          path := .segments (init ++
            (splitPath (isSpecial base.scheme) reference.toList).map encodeSegment)
          query := none
          fragment := none } := by
  obtain ⟨c, rest, hcs, hlow, hslash⟩ := h.begins
  have htrimmed : trimmed reference.toList = reference.toList :=
    trimmed_eq_self (fun d hd => by rw [hcs] at hd; exact Option.some.inj hd ▸ hlow) hlast
  obtain ⟨hbreak, htail⟩ := h.plain c (hcs ▸ List.mem_cons_self)
  simp only [isTail, Bool.or_eq_false_iff, beq_eq_false_iff_ne] at htail
  have hread : base.join reference = if base.isFlat then .error .flatBase
      else if isFile base.scheme then readFile (some base) reference.toList
      else readRelative base reference.toList := by
    have hmark : reference.toList.head? ≠ some '#' := by
      rw [hcs]
      exact fun hhead => htail.2 (Option.some.inj hhead)
    unfold join read
    simp only [htrimmed, h.unbroken_eq, h.schemeless, if_neg hmark]
  refine ⟨fun hflat => by rw [hread, if_pos hflat], fun init hpath hleading => ?_⟩
  have hinit : base.join reference = .ok (base.withPath init reference.toList) := by
    have hopen : base.isFlat = false := by rw [isFlat, hpath]
    have hslash' := hslash
    simp only [isSlash, Bool.true_and, Bool.or_eq_false_iff, beq_eq_false_iff_ne] at hslash'
    rw [hread, hopen, if_neg Bool.false_ne_true]
    split
    · next hfile =>
      have hsibling : readFileSibling base reference.toList =
          base.withPath init reference.toList := by
        unfold readFileSibling
        rw [hpath]
        dsimp only
        rw [List.getLast?_concat, List.dropLast_concat]
        rfl
      have hstart := h.driveless hfile
      unfold readFile
      rw [hcs] at hstart hsibling ⊢
      rw [List.dropWhile_cons_of_neg (by rw [hbreak]; exact Bool.false_ne_true)]
      simp only [hslash, htail.1, htail.2, hstart, if_false, Bool.false_eq_true, hsibling]
    · unfold readRelative
      rw [hcs]
      simp only [htail.1, htail.2, hslash'.1, hslash, false_and, if_false, Bool.false_eq_true, hpath,
        List.dropLast_concat]
  rw [hinit, h.withPath_eq hleading]

/-- The path of a reference that leads down is that of its base with the reference behind it. -/
theorem join_of_leadsDown {reference : String} (h : LeadsDown base.scheme reference.toList)
    (hlast : ∀ c ∈ reference.toList.getLast?, 0x20 < c.toNat) :
    (base.isFlat → base.join reference = .error .flatBase) ∧
      ∀ init, base.path = .segments (init ++ [[]]) →
        withoutLeading (isFile base.scheme) (init ++ [[]]) = init ++ [[]] →
        ∃ u, base.join reference = .ok u ∧ u.origin = base.origin ∧
          u.path.chars =
            base.path.chars ++ Percent.encode Percent.path reference.toList ∧
          u.query = none ∧ u.fragment = none := by
  obtain ⟨hflat, hjoin⟩ := join_eq_of_leadsDown h hlast
  refine ⟨hflat, fun init hpath hleading => ⟨_, hjoin init hpath hleading, rfl, ?_, rfl, rfl⟩⟩
  rw [hpath, Path.chars, Path.chars, List.flatMap_append, List.flatMap_append, List.flatMap_map,
    flatMap_splitPath (fun c hc => (h.plain c hc).1) h.slashes, List.append_assoc]
  rfl

end Read

end Url

end CloudApi
