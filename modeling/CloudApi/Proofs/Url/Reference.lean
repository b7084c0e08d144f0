import CloudApi.Url.Reference
import Mathlib.Data.List.TakeDrop
import Mathlib.Data.List.TakeWhile

/-! References without a query and a fragment.

What is read from a text ends in a query and a fragment only if their marks are in the text
(`TailedBy`). A text in which nothing ends a path (`Untailed`) leads, from a base that is no file, to
a URL without either, whatever the base has of them (`bare_read`): only a reference with nothing in
it would keep the query of the base. The fragment of a base never matters (`join_congr`). -/
namespace CloudApi

namespace Url

open Text

/-! ### Texts that are read up to their end -/

/-- Neither a query nor a fragment begins in a text. -/
def Untailed (cs : List Char) : Prop :=
  ∀ c ∈ cs, isTail c = false

section Untailed
variable {cs ds : List Char}

theorem Untailed.sublist (h : Untailed cs) (hsub : ds.Sublist cs) : Untailed ds :=
  fun c hc => h c (hsub.subset hc)

theorem Untailed.append (hcs : Untailed cs) (hds : Untailed ds) : Untailed (cs ++ ds) :=
  fun c hc => (List.mem_append.mp hc).elim (hcs c) (hds c)

theorem Untailed.ne_of_mem (h : Untailed cs) {c : Char} (hc : c ∈ cs) : c ≠ '?' ∧ c ≠ '#' := by
  have htail := h c hc
  simp only [isTail, Bool.or_eq_false_iff, beq_eq_false_iff_ne] at htail
  exact htail

end Untailed

/-! ### What is left of a text -/

theorem sublist_of_span {cs front back : List Char} {p : Char → Bool}
    (h : cs.span p = (front, back)) : front.Sublist cs ∧ back.Sublist cs := by
  rw [List.span_eq_takeWhile_dropWhile] at h
  obtain ⟨rfl, rfl⟩ := Prod.mk.inj h
  exact ⟨List.takeWhile_sublist p, List.dropWhile_sublist p⟩

theorem append_of_span {cs front back : List Char} {p : Char → Bool}
    (h : cs.span p = (front, back)) : front ++ back = cs := by
  rw [List.span_eq_takeWhile_dropWhile] at h
  obtain ⟨rfl, rfl⟩ := Prod.mk.inj h
  exact List.takeWhile_append_dropWhile

theorem unbroken_sublist (cs : List Char) : (unbroken cs).Sublist cs :=
  List.filter_sublist

theorem trimmed_sublist (cs : List Char) : (trimmed cs).Sublist cs := by
  have hback := List.reverse_sublist.mpr (List.dropWhile_sublist
    (l := (cs.dropWhile fun c => decide (c.toNat ≤ 0x20)).reverse)
    fun c => decide (c.toNat ≤ 0x20))
  rw [List.reverse_reverse] at hback
  exact hback.trans (List.dropWhile_sublist _)

theorem splitLast_sublist (mark : Char) (cs : List Char) :
    ((splitLast mark cs).getD ([], cs)).2.Sublist cs := by
  unfold splitLast
  split
  · have hback := List.reverse_sublist.mpr
      (List.takeWhile_sublist (l := cs.reverse) (· != mark))
    rwa [List.reverse_reverse] at hback
  · exact List.Sublist.refl cs

theorem splitHost_sublist (bracketed : Bool) (cs : List Char) :
    (splitHost bracketed cs).2.Sublist cs := by
  induction cs generalizing bracketed with
  | nil => exact List.Sublist.refl []
  | cons c cs ih =>
    rw [splitHost]
    split
    · exact List.Sublist.refl _
    · exact (ih _).trans (List.sublist_cons_self c cs)

theorem sublist_of_readPort {scheme cs left : List Char} {port : Option (Fin 65536)}
    (h : readPort scheme cs = .ok (port, left)) : left.Sublist cs := by
  unfold readPort at h
  rcases hspan : cs.span Numeral.isDigit with ⟨run, rest⟩
  have hrest := (sublist_of_span hspan).2
  rw [hspan] at h
  grind

theorem sublist_of_readHostAndPort {scheme cs left : List Char} {host : Host}
    {port : Option (Fin 65536)} (h : readHostAndPort scheme cs = .ok (host, port, left)) :
    left.Sublist cs := by
  have hrest := splitHost_sublist false cs
  unfold readHostAndPort at h
  rcases hsplit : splitHost false cs with ⟨hostText, rest⟩
  rw [hsplit] at h hrest
  dsimp only at h hrest
  split at h
  · cases h
  cases hhost : readHost (isSpecial scheme) hostText with
  | error e =>
    rw [hhost] at h
    cases h
  | ok read =>
    rw [hhost] at h
    dsimp only [bind, Except.bind] at h
    split at h
    · next behind =>
      split at h
      · cases h
      cases hport : readPort scheme behind with
      | error e =>
        rw [hport] at h
        cases h
      | ok found =>
        rw [hport] at h
        cases h
        exact (sublist_of_readPort hport).trans ((List.sublist_cons_self ':' behind).trans hrest)
    · cases h
      exact hrest

/-! ### Where a query and a fragment come from -/

/-- A URL without a query and a fragment; its path has segments, unless its scheme has flat
paths. -/
structure Bare (u : Url) : Prop where
  query : u.query = none
  fragment : u.fragment = none
  segments : isSpecial u.scheme → ∃ list, u.path = .segments list

/-- A URL has a query and a fragment only if their marks are in a text; its path has segments,
unless its scheme has flat paths. -/
structure TailedBy (cs : List Char) (u : Url) : Prop where
  query : u.query ≠ none → '?' ∈ cs
  fragment : u.fragment ≠ none → '#' ∈ cs
  segments : isSpecial u.scheme → ∃ list, u.path = .segments list

theorem TailedBy.mono {cs ds : List Char} {u : Url} (h : TailedBy ds u)
    (hsub : ds.Sublist cs) : TailedBy cs u :=
  ⟨fun hquery => hsub.subset (h.query hquery),
    fun hfragment => hsub.subset (h.fragment hfragment), h.segments⟩

theorem TailedBy.bare {cs : List Char} {u : Url} (h : TailedBy cs u) (hcs : Untailed cs) :
    u.Bare where
  query := by
    by_contra hquery
    exact (hcs.ne_of_mem (h.query hquery)).1 rfl
  fragment := by
    by_contra hfragment
    exact (hcs.ne_of_mem (h.fragment hfragment)).2 rfl
  segments := h.segments

section Read
variable {cs : List Char}

theorem mem_of_readFragment (h : readFragment cs ≠ none) : '#' ∈ cs := by
  unfold readFragment at h
  split at h
  · exact List.mem_cons_self
  · exact absurd rfl h

theorem mem_of_withTail {u : Url} (h : (withTail u cs).fragment ≠ none) : '#' ∈ cs := by
  unfold withTail at h
  split at h
  · next cs =>
    have hrest := (sublist_of_span (rfl : cs.span (· != '#') = _)).2
    exact List.mem_cons_of_mem _ (hrest.subset (mem_of_readFragment h))
  · exact mem_of_readFragment h

theorem tailedBy_withTail {u : Url} (hpath : isSpecial u.scheme → ∃ list, u.path = .segments list)
    (cs : List Char) : TailedBy cs (withTail u cs) := by
  refine ⟨fun h => ?_, mem_of_withTail, ?_⟩
  · unfold withTail at h
    split at h
    · exact List.mem_cons_self
    · exact absurd rfl h
  · unfold withTail
    split <;> exact hpath

variable (cs)

theorem tailedBy_readPath (u : Url) (read : List (List Char) → Trail) :
    TailedBy cs (u.readPath read cs).1 := by
  have hrest := (sublist_of_span (rfl : (cs.span fun c => !isTail c) = _)).2
  exact (tailedBy_withTail (fun _ => ⟨_, rfl⟩) _).mono ((unbroken_sublist _).trans hrest)

theorem tailedBy_withPath (u : Url) (done : List (List Char)) : TailedBy cs (u.withPath done cs) :=
  tailedBy_readPath cs u _

theorem tailedBy_withRootPath (u : Url) : TailedBy cs (u.withRootPath cs) := by
  unfold withRootPath
  dsimp only
  split
  · split
    · exact tailedBy_withPath [] u []
    · exact tailedBy_withTail (fun _ => ⟨[], rfl⟩) []
  · next c rest =>
    split
    · exact (tailedBy_withPath rest u []).mono (List.sublist_cons_self c rest)
    split
    · exact tailedBy_withTail (fun _ => ⟨[], rfl⟩) _
    · exact tailedBy_withPath _ u []

variable {cs}

/-- What stands behind an authority is read as a path from the root. -/
theorem exists_eq_of_afterSlashes {scheme : List Char} {u : Url}
    (h : afterSlashes scheme cs = .ok u) : ∃ authority path, path.Sublist cs ∧
      u = withRootPath ⟨scheme, some authority, .segments [], none, none⟩ path := by
  unfold afterSlashes at h
  rcases hspan : cs.span fun c => !(isSlash (isSpecial scheme) c || isTail c) with ⟨text, rest⟩
  simp only [hspan] at h
  have hhost := splitLast_sublist '@' text
  rcases hsplit : (splitLast '@' text).getD ([], text) with ⟨credentials, hostText⟩
  rw [hsplit] at hhost
  simp only [hsplit] at h
  split at h
  · cases h
  cases hread : readHostAndPort scheme hostText with
  | error e =>
    rw [hread] at h
    cases h
  | ok found =>
    obtain ⟨host, port, left⟩ := found
    rw [hread] at h
    change (if _ then _ else _) = _ at h
    split at h
    · cases h
    · cases h
      have hleft := ((sublist_of_readHostAndPort hread).trans hhost).append_right rest
      rw [append_of_span hspan] at hleft
      exact ⟨_, left ++ rest, hleft, rfl⟩

theorem tailedBy_afterSlashes {scheme : List Char} {u : Url} (h : afterSlashes scheme cs = .ok u) :
    TailedBy cs u := by
  obtain ⟨authority, path, hpath, rfl⟩ := exists_eq_of_afterSlashes h
  exact (tailedBy_withRootPath path _).mono hpath

/-- What a URL that may keep the query of its base has of a text: a reference with nothing in it
keeps that query. -/
structure TailedOver (cs : List Char) (u : Url) : Prop where
  fragment : u.fragment ≠ none → '#' ∈ cs
  bare : cs ≠ [] → Untailed cs → u.Bare

theorem TailedBy.over {u : Url} (h : TailedBy cs u) : TailedOver cs u :=
  ⟨h.fragment, fun _ => h.bare⟩

theorem tailedOver_readRelative {base u : Url} (h : readRelative base cs = .ok u) :
    TailedOver cs u := by
  unfold readRelative at h
  split at h
  · cases h
    exact ⟨fun h => absurd rfl h, fun h => absurd rfl h⟩
  next c rest =>
  split at h
  · next hmark =>
    cases h
    exact ⟨mem_of_readFragment, fun _ hcs => absurd hmark (hcs.ne_of_mem List.mem_cons_self).2⟩
  split at h
  · next hmark =>
    cases h
    exact ⟨mem_of_withTail,
      fun _ hcs => absurd hmark (hcs.ne_of_mem List.mem_cons_self).1⟩
  have htail := List.sublist_cons_self c rest
  split at h
  · exact ((tailedBy_afterSlashes h).mono ((List.drop_sublist 1 rest).trans htail)).over
  split at h
  · split at h
    · exact ((tailedBy_afterSlashes h).mono
        ((List.dropWhile_sublist _).trans htail)).over
    · cases h
      exact ((tailedBy_withPath rest base []).mono htail).over
  · split at h
    · cases h
      exact (tailedBy_withPath _ base _).over
    · cases h

theorem tailedBy_readOther {scheme : List Char} (hother : isSpecial scheme = false) {u : Url}
    (h : readOther scheme cs = .ok u) : TailedBy cs u := by
  unfold readOther at h
  dsimp only at h
  split at h
  · next rest =>
    exact (tailedBy_afterSlashes h).mono
      ((List.sublist_cons_self _ rest).trans (List.sublist_cons_self _ _))
  · next rest _ =>
    cases h
    exact (tailedBy_withPath rest _ []).mono (List.sublist_cons_self _ rest)
  · rcases hspan : cs.span fun c => !isTail c with ⟨text, rest⟩
    rw [hspan] at h
    cases h
    refine (tailedBy_withTail (fun hspecial => ?_) rest).mono (sublist_of_span hspan).2
    exact absurd (hother.symm.trans hspecial) Bool.false_ne_true

theorem tailedOver_readScheme {base : Option Url} {scheme : List Char} {u : Url}
    (h : readScheme base scheme cs = .ok u) : TailedOver cs u := by
  unfold readScheme at h
  dsimp only at h
  have hdrop (n : Nat) {u : Url} (h : afterSlashes scheme (cs.drop n) = .ok u) : TailedOver cs u :=
    ((tailedBy_afterSlashes h).mono (List.drop_sublist n cs)).over
  split at h
  · split at h
    · split at h
      · exact tailedOver_readRelative h
      · exact hdrop _ h
    · exact hdrop _ h
  · next hother => exact (tailedBy_readOther (Bool.eq_false_iff.mpr hother) h).over

theorem tailedBy_readFileHost {u : Url} (h : readFileHost cs = .ok u) : TailedBy cs u := by
  unfold readFileHost at h
  rcases hspan : cs.span fun c => !(isSlash true c || isTail c) with ⟨text, rest⟩
  have hrest := (sublist_of_span hspan).2
  simp only [hspan] at h
  split at h
  · cases h
    exact tailedBy_withPath cs _ []
  split at h
  · cases h
    exact (tailedBy_withPath rest _ []).mono hrest
  cases hhost : readHost true (unbroken text) with
  | error e =>
    rw [hhost] at h
    cases h
  | ok host =>
    rw [hhost] at h
    change (if _ then _ else _) = _ at h
    split at h
    · cases h
      exact (tailedBy_withPath rest _ []).mono hrest
    · cases h
      have hpath : (if rest.head?.any (isSlash true) then rest.drop 1 else rest).Sublist cs := by
        split
        · exact (List.drop_sublist 1 rest).trans hrest
        · exact hrest
      generalize (if rest.head?.any (isSlash true) then rest.drop 1 else rest) = path at hpath ⊢
      have htailed := (tailedBy_readPath path (fileUrl host) (resolve true ⟨[], false⟩)).mono hpath
      split
      · exact ⟨htailed.query, htailed.fragment, htailed.segments⟩
      · exact htailed

theorem tailedBy_readFileRoot (base : Option Url) (cs : List Char) :
    TailedBy cs (readFileRoot base cs) := by
  unfold readFileRoot
  dsimp only
  split
  · exact tailedBy_withPath cs _ []
  split
  · exact tailedBy_withPath cs _ []
  split <;> exact tailedBy_withPath cs _ _

theorem tailedBy_readFileSibling (base : Url) (cs : List Char) :
    TailedBy cs (readFileSibling base cs) := by
  unfold readFileSibling
  dsimp only
  split
  · exact tailedBy_withPath cs base []
  split
  · exact tailedBy_withPath cs base _
  split
  · exact tailedBy_withPath cs base _
  · exact tailedBy_readPath cs base _

theorem tailedBy_readFile {base : Option Url} {u : Url} (h : readFile base cs = .ok u) :
    (u.fragment ≠ none → '#' ∈ cs) ∧ (base = none → TailedBy cs u) := by
  have hboth {ds : List Char} {u : Url} (h : TailedBy ds u) (hsub : ds.Sublist cs) :
      (u.fragment ≠ none → '#' ∈ cs) ∧ (base = none → TailedBy cs u) :=
    ⟨(h.mono hsub).fragment, fun _ => h.mono hsub⟩
  unfold readFile at h
  split at h
  · cases h
    exact hboth (tailedBy_withPath [] _ []) (List.nil_sublist cs)
  · cases h
    exact ⟨fun h => absurd rfl h, nofun⟩
  next c rest heq =>
  have hread : (c :: rest).Sublist cs := heq ▸ List.dropWhile_sublist isBreak
  have hrest := (List.sublist_cons_self c rest).trans hread
  split at h
  · split at h
    · next d behind hbehind =>
      have hbehind : (d :: behind).Sublist rest := hbehind ▸ List.dropWhile_sublist isBreak
      split at h
      · exact hboth (tailedBy_readFileHost h)
          ((List.sublist_cons_self d behind).trans (hbehind.trans hrest))
      · cases h
        exact hboth (tailedBy_readFileRoot _ rest) hrest
    · cases h
      exact hboth (tailedBy_readFileRoot _ rest) hrest
  split at h
  · cases h
    exact hboth (tailedBy_withPath cs _ []) (List.Sublist.refl cs)
  next b =>
  have hmark {ds : List Char} (hsub : ds.Sublist cs) {u : Url} (hmark : u.fragment ≠ none → '#' ∈ ds) :
      (u.fragment ≠ none → '#' ∈ cs) ∧ (some b = none → TailedBy cs u) :=
    ⟨fun h => hsub.subset (hmark h), nofun⟩
  split at h
  · cases h
    exact hmark (unbroken_sublist cs) mem_of_withTail
  split at h
  · cases h
    exact hmark (unbroken_sublist cs) mem_of_readFragment
  split at h
  · cases h
    exact hboth (tailedBy_withPath cs _ []) (List.Sublist.refl cs)
  · cases h
    exact hboth (tailedBy_readFileSibling b cs) (List.Sublist.refl cs)

theorem tailedBy_readScheme {scheme : List Char} {u : Url} (h : readScheme none scheme cs = .ok u) :
    TailedBy cs u := by
  unfold readScheme at h
  dsimp only at h
  split at h
  · exact (tailedBy_afterSlashes h).mono (List.drop_sublist _ cs)
  · next hother => exact tailedBy_readOther (Bool.eq_false_iff.mpr hother) h

end Read

/-! ### References -/

theorem mem_dropWhile {p : Char → Bool} {cs : List Char} {c : Char} (hc : c ∈ cs) (h : p c = false) :
    c ∈ cs.dropWhile p := by
  rw [← List.takeWhile_append_dropWhile (p := p) (l := cs)] at hc
  refine (List.mem_append.mp hc).resolve_left fun hfront => ?_
  have hp := List.mem_takeWhile_imp hfront
  rw [h] at hp
  cases hp

/-- A text keeps its slashes when it is trimmed and its breaks are taken out. -/
theorem slash_mem_unbroken_trimmed {cs : List Char} (h : '/' ∈ cs) :
    '/' ∈ unbroken (trimmed cs) := by
  have htrimmed : '/' ∈ trimmed cs :=
    List.mem_reverse.mpr (mem_dropWhile
      (List.mem_reverse.mpr (mem_dropWhile h (by decide))) (by decide))
  exact List.mem_filter.mpr ⟨htrimmed, by decide⟩

theorem eq_of_scheme? {cs scheme rest : List Char} (h : scheme? cs = some (scheme, rest)) :
    ∃ name, cs = name ++ ':' :: rest ∧ ∀ c ∈ name, isSchemeChar c := by
  unfold scheme? at h
  rw [List.span_eq_takeWhile_dropWhile] at h
  dsimp only at h
  have hcs := List.takeWhile_append_dropWhile (p := isSchemeChar) (l := cs)
  have hname (c : Char) (hc : c ∈ cs.takeWhile isSchemeChar) := List.mem_takeWhile_imp hc
  split at h
  · next c name behind heq hbehind =>
    split at h
    · cases h
      exact ⟨_, by rw [← hbehind, hcs], hname⟩
    · cases h
  · cases h

/-- What a reference is read as has a fragment only if the reference has, and if it names a path it
has a query only then. -/
theorem tailed_read {base u : Url} {cs : List Char} (h : read (some base) cs = .ok u) :
    (u.fragment ≠ none → '#' ∈ cs) ∧
      (isFile base.scheme = false → '/' ∈ cs → Untailed cs → u.Bare) := by
  have hraw := trimmed_sublist cs
  have hread := (unbroken_sublist _).trans hraw
  unfold read at h
  dsimp only at h
  cases hscheme : scheme? (unbroken (trimmed cs)) with
  | some found =>
    obtain ⟨scheme, rest⟩ := found
    obtain ⟨name, heq, hname⟩ := eq_of_scheme? hscheme
    have hrest : rest.Sublist cs := by
      rw [heq] at hread
      exact (List.sublist_cons_self ':' rest).trans ((List.sublist_append_right name _).trans hread)
    simp only [hscheme] at h
    split at h
    · have hbehind := (List.drop_sublist 1 _).trans
        ((List.dropWhile_sublist (l := trimmed cs) (· != ':')).trans hraw)
      obtain ⟨hfragment, htailed⟩ := tailedBy_readFile h
      refine ⟨fun hf => hbehind.subset (hfragment hf), fun hbase _ hcs => ?_⟩
      rw [Option.filter_some, hbase, if_neg Bool.false_ne_true] at htailed
      exact (htailed rfl).bare (hcs.sublist hbehind)
    · have hover := tailedOver_readScheme h
      refine ⟨fun hf => hrest.subset (hover.fragment hf), fun _ hslash hcs => ?_⟩
      refine hover.bare ?_ (hcs.sublist hrest)
      rintro rfl
      have hmem := slash_mem_unbroken_trimmed hslash
      rw [heq] at hmem
      rcases List.mem_append.mp hmem with hmem | hmem
      · exact absurd (hname '/' hmem) (by decide)
      · exact absurd (List.mem_singleton.mp hmem) (by decide)
  | none =>
    simp only [hscheme] at h
    split at h
    · next hhead =>
      have hmark := hread.subset (List.mem_of_mem_head? hhead)
      exact ⟨fun _ => hmark, fun _ _ hcs => absurd rfl (hcs.ne_of_mem hmark).2⟩
    split at h
    · cases h
    split at h
    · next hfile =>
      refine ⟨fun hf => hraw.subset ((tailedBy_readFile h).1 hf), fun hbase => ?_⟩
      exact absurd (hbase.symm.trans hfile) Bool.false_ne_true
    · have hover := tailedOver_readRelative h
      exact ⟨fun hf => hread.subset (hover.fragment hf), fun _ hslash hcs =>
        hover.bare (List.ne_nil_of_mem (slash_mem_unbroken_trimmed hslash)) (hcs.sublist hread)⟩

/-- **A reference that names a path and no more leads to a URL without a query and a fragment**,
whatever the base has of either. -/
theorem bare_read {base u : Url} (hbase : isFile base.scheme = false) {cs : List Char}
    (hcs : Untailed cs) (hslash : '/' ∈ cs) (h : read (some base) cs = .ok u) : Bare u :=
  (tailed_read h).2 hbase hslash hcs

/-- **A reference without a fragment leads to a URL without one.** -/
theorem fragment_join {base u : Url} {reference : String} (hmark : '#' ∉ reference.toList)
    (h : base.join reference = .ok u) : u.fragment = none := by
  by_contra hfragment
  exact hmark ((tailed_read h).1 hfragment)

/-- A URL that was parsed has no more than its text. -/
theorem tailedBy_parse {s : String} {u : Url} (h : parse s = .ok u) : TailedBy s.toList u := by
  have hraw := trimmed_sublist s.toList
  unfold parse read at h
  dsimp only at h
  split at h
  · next scheme rest hscheme =>
    split at h
    · exact ((tailedBy_readFile h).2 rfl).mono
        ((List.drop_sublist 1 _).trans ((List.dropWhile_sublist _).trans hraw))
    · obtain ⟨name, heq, -⟩ := eq_of_scheme? hscheme
      have hread := (unbroken_sublist _).trans hraw
      rw [heq] at hread
      exact (tailedBy_readScheme h).mono
        ((List.sublist_cons_self ':' rest).trans ((List.sublist_append_right name _).trans hread))
  · cases h
  · next hnone => cases hnone

/-! ### The fragment of a base -/

section Base
variable (base : Url) (cs : List Char)

theorem withTail_withoutFragment : withTail base.withoutFragment cs = withTail base cs := by
  unfold withTail
  split <;> rfl

theorem readPath_withoutFragment (read : List (List Char) → Trail) :
    base.withoutFragment.readPath read cs = base.readPath read cs :=
  Prod.ext (withTail_withoutFragment { base with path := _ } _) rfl

theorem withPath_withoutFragment (done : List (List Char)) :
    base.withoutFragment.withPath done cs = base.withPath done cs :=
  congrArg Prod.fst (readPath_withoutFragment base cs _)

theorem readRelative_withoutFragment :
    readRelative base.withoutFragment cs = readRelative base cs := by
  unfold readRelative
  simp only [withTail_withoutFragment, withPath_withoutFragment]
  rfl

theorem readScheme_withoutFragment (scheme : List Char) :
    readScheme (some base.withoutFragment) scheme cs = readScheme (some base) scheme cs := by
  unfold readScheme
  simp only [readRelative_withoutFragment]
  rfl

theorem readFileSibling_withoutFragment :
    readFileSibling base.withoutFragment cs = readFileSibling base cs := by
  unfold readFileSibling
  simp only [withPath_withoutFragment, readPath_withoutFragment]
  rfl

theorem readFile_withoutFragment :
    readFile (some base.withoutFragment) cs = readFile (some base) cs := by
  unfold readFile
  cases cs.dropWhile isBreak with
  | nil => rfl
  | cons c rest =>
    simp only [withTail_withoutFragment, readFileSibling_withoutFragment]
    rfl

/-- **A reference leads to the same place from a base with any fragment.** -/
theorem read_withoutFragment : read (some base.withoutFragment) cs = read (some base) cs := by
  have hfile : isFile base.withoutFragment.scheme = isFile base.scheme := rfl
  unfold read
  dsimp only
  cases scheme? (unbroken (trimmed cs)) with
  | none =>
    simp only [readFile_withoutFragment, readRelative_withoutFragment]
    rfl
  | some found =>
    simp only [Option.filter_some, hfile, readScheme_withoutFragment]
    split
    · split
      · exact readFile_withoutFragment base _
      · rfl
    · rfl

end Base

theorem join_congr {base other : Url} (h : base.withoutFragment = other.withoutFragment)
    (reference : String) : base.join reference = other.join reference := by
  unfold join
  rw [← read_withoutFragment base, h, read_withoutFragment]

end Url

end CloudApi
