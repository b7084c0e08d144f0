import CloudApi.Proofs.Url.Origin
import CloudApi.Proofs.Url.Address
import CloudApi.Proofs.Url.Percent
import Mathlib.Data.List.Basic

/-! The segments of a path.

A segment stands in a URL in the form in which it is written, so that it is read again as it is
(`encodeSegment_of_written`). A text is read part by part between its slashes, and what the parts are
written as is what the text is written as (`flatMap_splitPath`); those that are no dots are put one
behind the other (`resolve_segments`). A URL that was parsed has segments of this kind
(`pathSettled_parse`), so that a slash at the end of its path changes nothing else
(`withFinalSlash_path`). -/
namespace CloudApi

namespace Url

open Text

/-! ### Characters of a segment -/

/-- A character that stands for itself in a segment. -/
def isWritten (c : Char) : Bool :=
  0x20 < c.toNat && c.toNat < 0x7F && !Percent.path c && c != '/'

/-- A text that is a segment as it is. -/
def Written (segment : List Char) : Prop :=
  ∀ c ∈ segment, isWritten c

section Characters
variable {c : Char}

theorem isWritten_iff : isWritten c ↔
    0x20 < c.toNat ∧ c.toNat < 0x7F ∧ Percent.path c = false ∧ c ≠ '/' := by
  simp [isWritten, and_assoc]

theorem not_isBreak_of_lt (h : 0x20 < c.toNat) : isBreak c = false := by
  by_contra hbreak
  simp only [Bool.not_eq_false, isBreak, Bool.or_eq_true, beq_iff_eq] at hbreak
  rcases hbreak with (rfl | rfl) | rfl <;> exact absurd h (by decide)

theorem not_isBreak_of_isWritten (h : isWritten c) : isBreak c = false :=
  not_isBreak_of_lt (isWritten_iff.mp h).1

theorem not_isTail_of_isWritten (h : isWritten c) : isTail c = false := by
  obtain ⟨-, -, hpath, -⟩ := isWritten_iff.mp h
  by_contra htail
  simp only [Bool.not_eq_false, isTail, Bool.or_eq_true, beq_iff_eq] at htail
  rcases htail with rfl | rfl <;> cases hpath

theorem isWritten_upperHex {d : Nat} (h : d < 0x10) : isWritten (Numeral.upperHex d) := by
  have hall : ∀ d < 0x10, isWritten (Numeral.upperHex d) := by decide
  exact hall d h

/-- What a character other than a slash is encoded as is a segment. -/
theorem written_encodeChar (hslash : c ≠ '/') : Written (Percent.encodeChar Percent.path c) := by
  intro d hd
  rcases mem_encodeChar hd with ⟨rfl, hlow, hhigh, hpath⟩ | rfl | ⟨n, hn, rfl⟩
  · have hblank : d.toNat ≠ 0x20 := fun h => by
      obtain rfl : d = ' ' := Char.toNat_inj.mp h
      exact absurd hpath (by decide)
    exact isWritten_iff.mpr ⟨by omega, hhigh, hpath, hslash⟩
  · decide
  · exact isWritten_upperHex hn

end Characters

/-! ### Segments -/

section Segments
variable {segment raw : List Char}

theorem written_nil : Written [] :=
  fun _ hc => absurd hc List.not_mem_nil

theorem unbroken_of_not_isBreak (h : ∀ c ∈ raw, isBreak c = false) : unbroken raw = raw :=
  List.filter_eq_self.mpr fun c hc => by rw [h c hc]; rfl

theorem encode_of_written (h : Written segment) : Percent.encode Percent.path segment = segment := by
  refine Percent.encode_of_isEncoded fun c hc => ?_
  obtain ⟨hlow, hhigh, hspared, -⟩ := isWritten_iff.mp (h c hc)
  exact ⟨hlow.le, hhigh, hspared⟩

/-- **A segment is read again as it is.** -/
theorem encodeSegment_of_written (h : Written segment) : encodeSegment segment = segment := by
  rw [encodeSegment, unbroken_of_not_isBreak fun c hc => not_isBreak_of_isWritten (h c hc),
    encode_of_written h]

theorem written_encodeSegment (h : '/' ∉ raw) : Written (encodeSegment raw) := by
  intro d hd
  obtain ⟨c, hc, hd⟩ := List.mem_flatMap.mp hd
  refine written_encodeChar ?_ d hd
  rintro rfl
  exact h ((unbroken_sublist raw).subset hc)

end Segments

/-! ### Texts between slashes -/

section Split
variable {special : Bool}

/-- A path is split at its slashes. -/
theorem splitPath_eq_splitOnP (special : Bool) (cs : List Char) :
    splitPath special cs = cs.splitOnP (isSlash special) := by
  induction cs with
  | nil => rw [List.splitOnP_nil, splitPath]
  | cons c cs ih =>
    rw [List.splitOnP_cons_eq_if_modifyHead, splitPath, ih]
    obtain ⟨part, parts, hsplit⟩ :=
      List.exists_cons_of_ne_nil (List.splitOnP_ne_nil (isSlash special) cs)
    rw [hsplit]
    rfl

theorem exists_splitPath_eq_cons (special : Bool) (cs : List Char) :
    ∃ part parts, splitPath special cs = part :: parts := by
  rw [splitPath_eq_splitOnP]
  exact List.exists_cons_of_ne_nil (List.splitOnP_ne_nil _ _)

theorem splitPath_slash {c : Char} (h : isSlash special c) (cs : List Char) :
    splitPath special (c :: cs) = [] :: splitPath special cs := by
  rw [splitPath, if_pos h]

theorem splitPath_cons {c : Char} (h : isSlash special c = false) {cs part : List Char}
    {parts : List (List Char)} (hrest : splitPath special cs = part :: parts) :
    splitPath special (c :: cs) = (c :: part) :: parts := by
  rw [splitPath, h, if_neg Bool.false_ne_true, hrest]

/-- The parts are of the characters of the text that are no slashes. -/
theorem mem_of_mem_splitPath {cs part : List Char} (h : part ∈ splitPath special cs) :
    ∀ c ∈ part, c ∈ cs ∧ isSlash special c = false :=
  mem_of_mem_splitOnP (splitPath_eq_splitOnP special cs ▸ h)

theorem slash_not_mem_of_mem_splitPath {cs part : List Char} (h : part ∈ splitPath special cs) :
    '/' ∉ part := fun hslash =>
  absurd (mem_of_mem_splitPath h '/' hslash).2 (by cases special <;> decide)

theorem splitPath_append (cs ds : List Char) :
    splitPath special (cs ++ '/' :: ds) = splitPath special cs ++ splitPath special ds := by
  simp only [splitPath_eq_splitOnP]
  exact List.splitOnP_append_cons cs ds (by cases special <;> rfl)

/-- The first part is what stands before the first slash. -/
theorem eq_of_splitPath {cs part : List Char} {parts : List (List Char)}
    (h : splitPath special cs = part :: parts) :
    ∃ more, cs = part ++ more ∧ more.head?.all (isSlash special) := by
  induction cs generalizing part parts with
  | nil =>
    obtain ⟨rfl, -⟩ := List.cons.inj h
    exact ⟨[], rfl, rfl⟩
  | cons c cs ih =>
    cases hslash : isSlash special c with
    | true =>
      rw [splitPath_slash hslash] at h
      obtain ⟨rfl, -⟩ := List.cons.inj h
      exact ⟨c :: cs, rfl, hslash⟩
    | false =>
      obtain ⟨first, rest, hsplit⟩ := exists_splitPath_eq_cons special cs
      rw [splitPath_cons hslash hsplit] at h
      obtain ⟨rfl, -⟩ := List.cons.inj h
      obtain ⟨more, rfl, hmore⟩ := ih hsplit
      exact ⟨more, rfl, hmore⟩

theorem splitPath_of_not_mem {cs : List Char} (h : ∀ c ∈ cs, isSlash special c = false) :
    splitPath special cs = [cs] := by
  rw [splitPath_eq_splitOnP, List.splitOnP_eq_singleton h]

/-- **What is read between the slashes of a text is the text as it is written**, if nothing else
counts as a slash. -/
theorem flatMap_splitPath {cs : List Char} (hbreak : ∀ c ∈ cs, isBreak c = false)
    (hslash : special → '\\' ∉ cs) :
    (splitPath special cs).flatMap (fun part => '/' :: encodeSegment part) =
      '/' :: Percent.encode Percent.path cs := by
  induction cs with
  | nil => rfl
  | cons c cs ih =>
    obtain ⟨hc, hrest⟩ := List.forall_mem_cons.mp hbreak
    have ih := ih hrest fun h hmem => hslash h (List.mem_cons_of_mem c hmem)
    cases hsep : isSlash special c with
    | true =>
      obtain rfl : c = '/' := by
        simp only [isSlash, Bool.or_eq_true, beq_iff_eq, Bool.and_eq_true] at hsep
        rcases hsep with rfl | ⟨hspecial, rfl⟩
        · rfl
        · exact absurd List.mem_cons_self (hslash hspecial)
      rw [splitPath_slash hsep, List.flatMap_cons, ih]
      rfl
    | false =>
      obtain ⟨part, parts, hsplit⟩ := exists_splitPath_eq_cons special cs
      rw [hsplit, List.flatMap_cons, List.cons_append] at ih
      have hpart : encodeSegment (c :: part) =
          Percent.encodeChar Percent.path c ++ encodeSegment part := by
        unfold encodeSegment unbroken Percent.encode
        rw [List.filter_cons_of_pos (by rw [hc]; rfl), List.flatMap_cons]
      rw [splitPath_cons hsep hsplit, List.flatMap_cons, hpart, List.cons_append, List.append_assoc,
        List.tail_eq_of_cons_eq ih]
      rfl

end Split

/-! ### Dots and drives -/

/-- A segment that names no place of its own. -/
def IsDots (segment : List Char) : Prop :=
  unmasked segment = ['.'] ∨ unmasked segment = ['.', '.']

instance : DecidablePred IsDots := fun segment =>
  inferInstanceAs (Decidable (unmasked segment = ['.'] ∨ unmasked segment = ['.', '.']))

theorem not_isDots_nil : ¬ IsDots [] :=
  fun h => h.elim nofun nofun

section Resolve
variable {file : Bool} {trail : Trail} {raw : List Char} {rest : List (List Char)}

/-- Dots keep the segments or shorten them; at the end they leave an empty one. -/
theorem resolve_of_isDots (file : Bool) (trail : Trail) (rest : List (List Char))
    (h : IsDots (encodeSegment raw)) :
    ∃ kept, (kept = trail.segments ∨ kept = shorten trail.segments) ∧
      resolve file trail (raw :: rest) = resolve file
        { trail with segments := if rest.isEmpty then kept ++ [[]] else kept } rest := by
  refine ⟨if unmasked (encodeSegment raw) = ['.'] then trail.segments else shorten trail.segments,
    ?_, if_pos h⟩
  split
  · exact .inl rfl
  · exact .inr rfl

/-- What is no dots is put behind the segments, or begins a file path. -/
theorem resolve_of_not_isDots (h : ¬ IsDots (encodeSegment raw)) :
    resolve file trail (raw :: rest) =
      if file ∧ trail.segments = [] then resolve file (Trail.start raw) rest
      else resolve file { trail with segments := trail.segments ++ [encodeSegment raw] } rest :=
  if_neg h

end Resolve

/-- Segments that are no dots are put behind those that are there. The first one of a file path has
to stand for itself. -/
theorem resolve_segments {file : Bool} {parts : List (List Char)}
    (hdots : ∀ part ∈ parts, ¬ IsDots (encodeSegment part)) {trail : Trail}
    (hfirst : file → trail.segments = [] → ∀ part ∈ parts.head?,
      (Trail.start part).segments = [encodeSegment part]) :
    (resolve file trail parts).segments = trail.segments ++ parts.map encodeSegment := by
  induction parts generalizing trail with
  | nil => exact (List.append_nil _).symm
  | cons raw rest ih =>
    obtain ⟨hraw, hrest⟩ := List.forall_mem_cons.mp hdots
    rw [resolve_of_not_isDots hraw]
    split
    · next hroot =>
      have hstart := hfirst hroot.1 hroot.2 raw rfl
      have hmore : (Trail.start raw).segments ≠ [] := hstart ▸ List.cons_ne_nil _ _
      rw [ih hrest fun _ hnil => absurd hnil hmore, hstart, hroot.2]
      rfl
    · rw [ih hrest fun _ hnil => absurd hnil (List.concat_ne_nil _ _), List.append_assoc]
      rfl

theorem mem_shorten {segments : List (List Char)} {s : List Char} (h : s ∈ shorten segments) :
    s ∈ segments := by
  unfold shorten at h
  split at h
  · exact h
  · exact List.dropLast_subset segments h

/-- Where the segments of a path come from. -/
theorem mem_resolve {file : Bool} {trail : Trail} {parts : List (List Char)} {s : List Char}
    (h : s ∈ (resolve file trail parts).segments) :
    s ∈ trail.segments ∨ s = [] ∨ ∃ part ∈ parts,
      (s = encodeSegment part ∧ ¬ IsDots s) ∨ (file ∧ s ∈ (Trail.start part).segments) := by
  induction parts generalizing trail with
  | nil => exact .inl h
  | cons raw rest ih =>
    have hlater {P : List Char → Prop} (h : ∃ part ∈ rest, P part) : ∃ part ∈ raw :: rest, P part :=
      h.imp fun part hpart => ⟨List.mem_cons_of_mem raw hpart.1, hpart.2⟩
    by_cases hdots : IsDots (encodeSegment raw)
    · obtain ⟨kept, hkept, hresolve⟩ := resolve_of_isDots file trail rest hdots
      rw [hresolve] at h
      rcases ih h with hmem | hnil | hpart
      · have hold : s ∈ kept → s ∈ trail.segments := by
          rcases hkept with rfl | rfl
          · exact id
          · exact mem_shorten
        split at hmem
        · exact (List.mem_append.mp hmem).imp hold fun hlast => .inl (List.mem_singleton.mp hlast)
        · exact .inl (hold hmem)
      · exact .inr (.inl hnil)
      · exact .inr (.inr (hlater hpart))
    rw [resolve_of_not_isDots hdots] at h
    split at h
    · next hroot =>
      rcases ih h with hstart | hnil | hpart
      · exact .inr (.inr ⟨raw, List.mem_cons_self, .inr ⟨hroot.1, hstart⟩⟩)
      · exact .inr (.inl hnil)
      · exact .inr (.inr (hlater hpart))
    · rcases ih h with hmem | hnil | hpart
      · rcases List.mem_append.mp hmem with hmem | hmem
        · exact .inl hmem
        · obtain rfl := List.mem_singleton.mp hmem
          exact .inr (.inr ⟨raw, List.mem_cons_self, .inl ⟨rfl, hdots⟩⟩)
      · exact .inr (.inl hnil)
      · exact .inr (.inr (hlater hpart))

theorem isWritten_of_isLetter {c : Char} (h : isLetter c) : isWritten c := by
  have hlow : c.toNat < 0x80 := by
    simp only [isLetter, Bool.or_eq_true, Bool.and_eq_true, decide_eq_true_eq, Char.le_def,
      UInt32.le_iff_toNat_le] at h
    have : c.val.toNat ≤ 0x7A := by
      rcases h with ⟨-, h⟩ | ⟨-, h⟩
      · exact h
      · exact h.trans (by decide)
    exact Nat.lt_of_le_of_lt this (by decide)
  revert h
  exact Utf8.of_ascii hlow (by decide)

theorem written_of_isDrive {segment : List Char} (h : Drive.isDrive segment) : Written segment := by
  unfold Drive.isDrive at h
  split at h
  · next c d =>
    simp only [Bool.and_eq_true, Bool.or_eq_true, beq_iff_eq] at h
    obtain ⟨hc, hd⟩ := h
    refine List.forall_mem_cons.mpr ⟨isWritten_of_isLetter hc, fun e he => ?_⟩
    obtain rfl := List.mem_singleton.mp he
    rcases hd with rfl | rfl <;> decide
  · cases h

/-- A segment that is a drive was written as one. -/
theorem eq_of_isDrive {raw : List Char} (hbreak : ∀ c ∈ raw, isBreak c = false)
    (h : Drive.isDrive (encodeSegment raw)) : encodeSegment raw = raw := by
  rw [encodeSegment, unbroken_of_not_isBreak hbreak] at h ⊢
  refine encode_of_not_mem fun hmem => ?_
  unfold Drive.isDrive at h
  split at h
  · next c d heq =>
    simp only [Bool.and_eq_true, Bool.or_eq_true, beq_iff_eq] at h
    rw [heq] at hmem
    rcases List.mem_cons.mp hmem with rfl | hmem
    · exact absurd h.1 (by decide)
    · obtain rfl := List.mem_singleton.mp hmem
      exact absurd h.2 (by decide)
  · cases h

theorem of_brokenDrive? {raw drive rest : List Char} (h : brokenDrive? raw = some (drive, rest)) :
    Drive.isDrive drive ∧ rest.Sublist raw ∧ ∃ c ∈ raw, isBreak c := by
  unfold brokenDrive? at h
  split at h
  · next c raw' hraw =>
    split at h
    · next d behind hbehind =>
      split at h
      · next hdrive =>
        obtain ⟨rfl, rfl⟩ := Prod.mk.inj (Option.some.inj h)
        have htail : (d :: behind).Sublist raw :=
          (hbehind ▸ List.dropWhile_sublist isBreak).trans
            ((List.sublist_cons_self c raw').trans (hraw ▸ List.dropWhile_sublist isBreak))
        have hrest := (List.sublist_cons_self d behind).trans htail
        refine ⟨hdrive.1, (unbroken_sublist behind).trans hrest, ?_⟩
        cases behind with
        | nil => cases hdrive.2.1
        | cons e behind => exact ⟨e, hrest.subset List.mem_cons_self, hdrive.2.1⟩
      · cases h
    · cases h
  · cases h

/-- The first segments of a file path are written as they are. -/
theorem written_start {raw : List Char} (hslash : '/' ∉ raw) :
    ∀ s ∈ (Trail.start raw).segments, Written s := by
  intro s hs
  unfold Trail.start at hs
  split at hs
  · next drive rest hbroken =>
    obtain ⟨hdrive, hsub, -⟩ := of_brokenDrive? hbroken
    simp only [List.mem_cons, List.not_mem_nil, or_false] at hs
    rcases hs with rfl | rfl
    · exact written_of_isDrive hdrive
    · exact written_encodeSegment fun hmem => hslash (hsub.subset hmem)
  · have hwritten := written_encodeSegment hslash
    dsimp only at hs
    split at hs
    · obtain rfl := List.mem_singleton.mp hs
      intro c hc
      rcases List.mem_append.mp hc with hc | hc
      · exact hwritten c (List.mem_of_mem_take hc)
      · obtain rfl := List.mem_singleton.mp hc
        decide
    · obtain rfl := List.mem_singleton.mp hs
      exact hwritten

/-! ### Paths that were read -/

/-- The segments of a path as reading leaves them: written as they are, without dots, unless a file
path has them behind a drive, and in a file path none is empty in front. -/
structure Settled (file : Bool) (list : List (List Char)) : Prop where
  written : ∀ s ∈ list, Written s
  undotted : file = false → ∀ s ∈ list, ¬ IsDots s
  leading : withoutLeading file list = list

theorem withoutLeading_eq (file : Bool) (list : List (List Char)) :
    withoutLeading file (withoutLeading file list) = withoutLeading file list ∧
      ∀ s ∈ withoutLeading file list, s ∈ list ∨ s = [] := by
  unfold withoutLeading
  cases file with
  | false => exact ⟨rfl, fun s hs => .inl hs⟩
  | true =>
    rw [if_pos rfl, if_pos rfl]
    cases hdrop : list.dropWhile (·.isEmpty) with
    | nil => exact ⟨rfl, fun s hs => .inr (List.mem_singleton.mp hs)⟩
    | cons s rest =>
      have hhead : s.isEmpty = false := by
        have hnot := List.head_dropWhile_not (·.isEmpty) (l := list) (by rw [hdrop]; exact nofun)
        simpa [hdrop] using hnot
      dsimp only
      rw [List.dropWhile_cons_of_neg (by simp [hhead])]
      exact ⟨rfl, fun t ht => .inl ((List.dropWhile_sublist _).subset (hdrop ▸ ht))⟩

theorem path_withTail (u : Url) (cs : List Char) : (withTail u cs).path = u.path := by
  unfold withTail
  split <;> rfl

theorem scheme_withTail (u : Url) (cs : List Char) : (withTail u cs).scheme = u.scheme := by
  unfold withTail
  split <;> rfl

/-- A URL whose path has settled segments, if it has segments. -/
def PathSettled (u : Url) : Prop :=
  ∀ list, u.path = .segments list → Settled (isFile u.scheme) list

section Parse
variable {u : Url} {cs : List Char}

theorem pathSettled_withTail (h : u.PathSettled) (cs : List Char) : (withTail u cs).PathSettled := by
  intro list hlist
  rw [path_withTail] at hlist
  rw [scheme_withTail]
  exact h list hlist

theorem pathSettled_readPath (u : Url) {read : List (List Char) → Trail}
    (hread : ∀ parts : List (List Char), (∀ part ∈ parts, '/' ∉ part) →
      ∀ s ∈ (read parts).segments, Written s ∧ (isFile u.scheme = false → ¬ IsDots s))
    (cs : List Char) : (u.readPath read cs).1.PathSettled := by
  refine pathSettled_withTail (fun list hlist => ?_) _
  obtain rfl := Path.segments.inj hlist
  obtain ⟨hleading, hmem⟩ := withoutLeading_eq (isFile u.scheme)
    (read (splitPath (isSpecial u.scheme) (cs.span fun c => !isTail c).1)).segments
  have hboth (s : List Char) (hs : _) := (hmem s hs).imp_left
    (hread _ (fun part hpart => slash_not_mem_of_mem_splitPath hpart) s)
  exact ⟨fun s hs => (hboth s hs).elim And.left fun hnil => hnil ▸ written_nil,
    fun hfile s hs => (hboth s hs).elim (fun h => h.2 hfile) fun hnil => hnil ▸ not_isDots_nil,
    hleading⟩

theorem settled_resolve {file : Bool} {parts : List (List Char)} (h : ∀ part ∈ parts, '/' ∉ part) :
    ∀ s ∈ (resolve file ⟨[], false⟩ parts).segments, Written s ∧ (file = false → ¬ IsDots s) := by
  intro s hs
  rcases mem_resolve hs with hs | rfl | ⟨part, hpart, ⟨rfl, hdots⟩ | ⟨hfile, hs⟩⟩
  · exact absurd hs List.not_mem_nil
  · exact ⟨written_nil, fun _ => not_isDots_nil⟩
  · exact ⟨written_encodeSegment (h part hpart), fun _ => hdots⟩
  · exact ⟨written_start (h part hpart) s hs, fun hother => by rw [hother] at hfile; cases hfile⟩

theorem pathSettled_withPath (u : Url) (cs : List Char) : (u.withPath [] cs).PathSettled :=
  pathSettled_readPath u (fun _ hparts => settled_resolve hparts) cs

theorem pathSettled_withRootPath {u : Url}
    (hother : isFile u.scheme = false) (cs : List Char) : (u.withRootPath cs).PathSettled := by
  have hempty (cs : List Char) : (withTail { u with path := .segments [] } cs).PathSettled := by
    refine pathSettled_withTail (fun list hlist => ?_) cs
    obtain rfl := Path.segments.inj hlist
    exact ⟨fun s hs => absurd hs List.not_mem_nil, fun _ s hs => absurd hs List.not_mem_nil,
      by rw [show isFile _ = false from hother]; rfl⟩
  unfold withRootPath
  dsimp only
  split
  · split
    · exact pathSettled_withPath u []
    · exact hempty []
  · split
    · exact pathSettled_withPath u _
    split
    · exact hempty _
    · exact pathSettled_withPath u _

theorem pathSettled_afterSlashes {scheme : List Char} (hother : isFile scheme = false)
    (h : afterSlashes scheme cs = .ok u) : u.PathSettled := by
  obtain ⟨authority, path, -, rfl⟩ := exists_eq_of_afterSlashes h
  exact pathSettled_withRootPath hother path

theorem pathSettled_readFileHost (h : readFileHost cs = .ok u) : u.PathSettled := by
  unfold readFileHost at h
  rcases hspan : cs.span fun c => !(isSlash true c || isTail c) with ⟨text, rest⟩
  simp only [hspan] at h
  split at h
  · cases h
    exact pathSettled_withPath _ cs
  split at h
  · cases h
    exact pathSettled_withPath _ rest
  cases hhost : readHost true (unbroken text) with
  | error e =>
    rw [hhost] at h
    cases h
  | ok host =>
    rw [hhost] at h
    change (if _ then _ else _) = _ at h
    split at h
    · cases h
      exact pathSettled_withPath _ rest
    · cases h
      have hpath (cs : List Char) :
          ((fileUrl host).readPath (resolve true ⟨[], false⟩) cs).1.PathSettled :=
        pathSettled_readPath _ (fun _ hparts => settled_resolve hparts) cs
      generalize (if rest.head?.any (isSlash true) then rest.drop 1 else rest) = path
      split
      · exact fun list hlist => hpath path list hlist
      · exact hpath path

theorem pathSettled_readFile (h : readFile none cs = .ok u) : u.PathSettled := by
  unfold readFile at h
  split at h
  · cases h
    exact pathSettled_withPath _ []
  · next hnone _ => cases hnone
  split at h
  · split at h
    · split at h
      · exact pathSettled_readFileHost h
      · cases h
        exact pathSettled_withPath _ _
    · cases h
      exact pathSettled_withPath _ _
  · cases h
    exact pathSettled_withPath _ cs

theorem pathSettled_readScheme {scheme : List Char} (hother : isFile scheme = false)
    (h : readScheme none scheme cs = .ok u) : u.PathSettled := by
  unfold readScheme at h
  dsimp only at h
  split at h
  · exact pathSettled_afterSlashes hother h
  · unfold readOther at h
    dsimp only at h
    split at h
    · exact pathSettled_afterSlashes hother h
    · cases h
      exact pathSettled_withPath _ _
    · cases h
      exact pathSettled_withTail (fun list hlist => by cases hlist) _

/-- **A URL that was parsed has a settled path.** -/
theorem pathSettled_parse {s : String} (h : parse s = .ok u) : u.PathSettled := by
  unfold parse read at h
  dsimp only at h
  split at h
  · next hscheme =>
    split at h
    · exact pathSettled_readFile h
    · next hother => exact pathSettled_readScheme (Bool.eq_false_iff.mpr hother) h
  · cases h
  · next hnone => cases hnone

end Parse

/-! ### A slash at the end -/

/-- The text of a path with a slash at its end. -/
def slashed (path : List Char) : List Char :=
  if path.getLast? = some '/' then path else path ++ ['/']

/-- A path that is read again as it is when it gets a slash at its end: this does not touch a drive
with a bar or dots, which only a file URL can have kept. -/
def Steady (u : Url) : Prop :=
  isFile u.scheme → u.path.chars.getLast? = some '/' ∨ ∀ list, u.path = .segments list →
    (∀ s ∈ list, ¬ IsDots s) ∧ ∀ s ∈ list.head?, Drive.isDrive s → Drive.isNamed s

/-- No segment in front of a file path is empty, but for the path that is a single slash. -/
theorem withoutLeading_eq_self_iff {list : List (List Char)} :
    withoutLeading true list = list ↔ list = [[]] ∨ ∃ c s rest, list = (c :: s) :: rest := by
  unfold withoutLeading
  rw [if_pos rfl]
  rcases list with _ | ⟨_ | ⟨c, s⟩, rest⟩
  · simp
  · rw [List.dropWhile_cons_of_pos rfl]
    cases hdrop : rest.dropWhile (·.isEmpty) with
    | nil => simp
    | cons t ts =>
      have hlength := (List.dropWhile_sublist (l := rest) (·.isEmpty)).length_le
      rw [hdrop, List.length_cons] at hlength
      refine iff_of_false (fun h => ?_) (by rintro (h | ⟨c, s, rest', h⟩) <;> simp_all)
      rw [← (List.cons.inj h).2] at hlength
      omega
  · exact iff_of_true rfl (.inr ⟨c, s, rest, rfl⟩)

/-- Behind the segments of a path any others may stand, the first of them with something in it. -/
theorem withoutLeading_append {file : Bool} {init parts : List (List Char)} {c : Char}
    {s : List Char} (h : withoutLeading file (init ++ [[]]) = init ++ [[]]) :
    withoutLeading file (init ++ (c :: s) :: parts) = init ++ (c :: s) :: parts := by
  cases file with
  | false => rfl
  | true =>
    rw [withoutLeading_eq_self_iff] at h ⊢
    rcases init with _ | ⟨first, init⟩
    · exact .inr ⟨c, s, parts, rfl⟩
    · rcases h with h | ⟨d, t, rest, h⟩
      · simp at h
      · obtain ⟨rfl, -⟩ := List.cons.inj h
        exact .inr ⟨d, t, _, rfl⟩

theorem withoutLeading_concat {file : Bool} {list : List (List Char)}
    (h : withoutLeading file list = list) (hroot : list ≠ [[]]) :
    withoutLeading file (list ++ [[]]) = list ++ [[]] := by
  cases file with
  | false => rfl
  | true =>
    obtain ⟨c, s, rest, rfl⟩ := (withoutLeading_eq_self_iff.mp h).resolve_left hroot
    rfl

theorem isNamed_eq {s : List Char} (h : Drive.isNamed s) : Drive.named s = s := by
  unfold Drive.isNamed Drive.isDrive at h
  split at h
  · simp only [Bool.and_eq_true, List.getLast?_cons_cons, List.getLast?_singleton, beq_iff_eq,
      Option.some.injEq] at h
    rw [h.2]
    rfl
  · cases h

/-- A first segment without a break stands for itself, unless it is a drive with a bar. -/
theorem start_segments {raw : List Char} (hbreak : ∀ c ∈ raw, isBreak c = false)
    (hdrive : Drive.isDrive (encodeSegment raw) → Drive.isNamed (encodeSegment raw)) :
    (Trail.start raw).segments = [encodeSegment raw] := by
  unfold Trail.start
  split
  · next hbroken =>
    obtain ⟨-, -, c, hc, hc'⟩ := of_brokenDrive? hbroken
    exact absurd ((hbreak c hc).symm.trans hc') Bool.false_ne_true
  · dsimp only
    split
    · next h => exact congrArg (fun s => [s]) (isNamed_eq (hdrive h))
    · rfl

/-- **The path with a slash at its end is the path, and the slash where it is missing.** -/
theorem withFinalSlash_path {u : Url} (hsettled : u.PathSettled) (hsteady : u.Steady)
    {list : List (List Char)} (hlist : u.path = .segments list) :
    ∃ init, u.withFinalSlash.path = .segments (init ++ [[]]) ∧
      withoutLeading (isFile u.scheme) (init ++ [[]]) = init ++ [[]] ∧
      u.withFinalSlash.path.chars = slashed u.path.chars ∧ ∀ s ∈ init, s ∈ list := by
  have hkept := hsettled list hlist
  by_cases hends : u.path.chars.getLast? = some '/'
  · have hsame : u.withFinalSlash = u := if_pos hends
    rw [hsame, slashed, if_pos hends]
    -- a segment holds no slash, so that the last one is empty
    obtain rfl | ⟨init, s, rfl⟩ := List.eq_nil_or_concat' list
    · rw [hlist] at hends
      cases hends
    have hempty : s = [] := by
      by_contra hfull
      have hchars : u.path.chars = init.flatMap ('/' :: ·) ++ '/' :: s := by
        rw [hlist, Path.chars, List.flatMap_append, List.flatMap_singleton]
      rw [hchars, List.getLast?_append, List.getLast?_cons,
        List.getLast?_eq_some_getLast hfull] at hends
      have hlast := hkept.written s (List.mem_append_right _ List.mem_cons_self) _
        (List.getLast_mem hfull)
      have hslash : s.getLast hfull = '/' := Option.some.inj hends
      rw [hslash] at hlast
      exact absurd hlast (by decide)
    rw [hempty] at hlist hkept
    exact ⟨init, hlist, hkept.leading, rfl, fun t ht => List.mem_append_left _ ht⟩
  · have hroot : list ≠ [[]] := by
      rintro rfl
      rw [hlist] at hends
      exact hends rfl
    have hcases : ∀ s ∈ list ++ [[]], Written s ∧ ¬ IsDots s := by
      intro s hs
      rcases List.mem_append.mp hs with hs | hs
      · refine ⟨hkept.written s hs, ?_⟩
        cases hfile : isFile u.scheme with
        | false => exact hkept.undotted hfile s hs
        | true => exact (((hsteady hfile).resolve_left hends) list hlist).1 s hs
      · rw [List.mem_singleton.mp hs]
        exact ⟨written_nil, not_isDots_nil⟩
    have hsame {s : List Char} (hs : s ∈ list ++ [[]]) : encodeSegment s = s :=
      encodeSegment_of_written (hcases s hs).1
    have hresolved : (resolve (isFile u.scheme) ⟨[], false⟩ (list ++ [[]])).segments =
        list ++ [[]] := by
      rw [resolve_segments (fun s hs => by rw [hsame hs]; exact (hcases s hs).2),
        List.nil_append, List.map_congr_left fun s hs => hsame hs, List.map_id']
      intro hfile _ s hs
      have hmem := List.mem_of_mem_head? hs
      refine start_segments (fun c hc => not_isBreak_of_isWritten ((hcases s hmem).1 c hc)) ?_
      rw [hsame hmem]
      rcases list with _ | ⟨first, rest⟩
      · obtain rfl := Option.some.inj hs
        exact nofun
      · exact (((hsteady hfile).resolve_left hends) _ hlist).2 s hs
    have hleading := withoutLeading_concat hkept.leading hroot
    have hpath : u.withFinalSlash.path = .segments (list ++ [[]]) := by
      rw [withFinalSlash, if_neg hends]
      simp only [hlist]
      rw [hresolved, hleading]
    refine ⟨list, hpath, hleading, ?_, fun s hs => hs⟩
    rw [hpath, slashed, if_neg hends, hlist, Path.chars, List.flatMap_append]
    rfl

/-- Only the path is changed. -/
theorem withFinalSlash_eq (u : Url) :
    u.withFinalSlash = { u with path := u.withFinalSlash.path } := by
  unfold withFinalSlash
  split <;> rfl

theorem scheme_withFinalSlash (u : Url) : u.withFinalSlash.scheme = u.scheme := by
  rw [withFinalSlash_eq]

theorem origin_withFinalSlash (u : Url) : u.withFinalSlash.origin = u.origin := by
  rw [withFinalSlash_eq]
  rfl

theorem isFlat_withFinalSlash (u : Url) : u.withFinalSlash.isFlat = u.isFlat := by
  by_cases hends : u.path.chars.getLast? = some '/'
  · rw [withFinalSlash, if_pos hends]
  · rw [withFinalSlash, if_neg hends]
    unfold isFlat
    rcases u.path with (_ | _) | list <;> rfl

end Url

end CloudApi
