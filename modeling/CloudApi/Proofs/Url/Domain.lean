import CloudApi.Proofs.Text.Utf8
import CloudApi.Proofs.Url.Address
import CloudApi.Proofs.Url.Punycode
import CloudApi.Url.Domain

/-! Names of domains are read back.

A name is folded and composed before it is parted. This leaves no capitals (`small_of_normal?`), and a
text of ASCII without capitals as it is (`normal?_eq_self`). The text of a label is of such characters
and none that delimit a name (`Label.isPlain_text`), and the label is read back from it, unless it is
Punycode of more characters than are read (`Label.ofText?_text`). So the ASCII form of a name is read
label by label as it was written (`ascii?_of_ascii?`). -/
namespace CloudApi.Url.Domain

open Text

/-! ### Capitals -/

def isCapital (c : Char) : Bool :=
  'A' ≤ c && c ≤ 'Z'

/-- A text without capitals of ASCII. -/
def Small (cs : List Char) : Prop :=
  ∀ c ∈ cs, isCapital c = false

theorem isCapital_iff {c : Char} : isCapital c ↔ 0x41 ≤ c.toNat ∧ c.toNat ≤ 0x5A := by
  rw [isCapital, Bool.and_eq_true, decide_eq_true_eq, decide_eq_true_eq]
  exact Iff.rfl

theorem lower_of_small {c : Char} (h : isCapital c = false) : Caseless.lower c = c := by
  rw [isCapital, Bool.and_eq_false_iff, decide_eq_false_iff_not, decide_eq_false_iff_not] at h
  rw [Caseless.lower, if_neg (by tauto)]

theorem small_lower (c : Char) : isCapital (Caseless.lower c) = false := by
  by_cases hc : isCapital c
  · have hbounds := isCapital_iff.mp hc
    have hlow : c.toNat < 0x80 := by omega
    clear hc hbounds
    exact Utf8.of_ascii hlow (by decide)
  · rw [lower_of_small (Bool.eq_false_iff.mpr hc)]
    exact Bool.eq_false_iff.mpr hc

theorem small_ofNat {n : Nat} (h : n < 0x41 ∨ 0x5A < n) : isCapital (Char.ofNat n) = false := by
  by_contra hcapital
  have hbounds := isCapital_iff.mp (Bool.of_not_eq_false hcapital)
  have hchar : (Char.ofNat n).toNat = n ∨ (Char.ofNat n).toNat = 0 := by
    by_cases hvalid : n.isValidChar
    · exact .inl (toNat_charOfNat hvalid)
    · right
      rw [Char.ofNat, dif_neg hvalid]
      rfl
  omega

theorem small_of_le {c : Char} (h : 0x80 ≤ c.toNat) : isCapital c = false := by
  by_contra hcapital
  have hbounds := isCapital_iff.mp (Bool.of_not_eq_false hcapital)
  omega

/-! ### Tables -/

/-- What is decided of every row of a table by its number and the characters of its text. -/
def EveryRow (p : Nat → List Char → Bool) (rows : List (Nat × String)) : Prop :=
  ∀ row ∈ rows, p row.1 row.2.toList

/-- The rows of a table whose texts are lists of characters. -/
def texts (rows : List (Nat × List Char)) : List (Nat × String) :=
  rows.map fun row => (row.1, String.ofList row.2)

theorem texts_nil : [] = texts [] :=
  rfl

theorem texts_cons {n : Nat} {cs : List Char} {rows : List (Nat × String)}
    {spelled : List (Nat × List Char)} (h : rows = texts spelled) :
    (n, String.ofList cs) :: rows = texts ((n, cs) :: spelled) :=
  congrArg ((n, String.ofList cs) :: ·) h

/-- The texts are taken for their characters before a row is decided, because texts are bytes and take
long to be read. -/
theorem EveryRow.of_texts {p : Nat → List Char → Bool} {rows : List (Nat × String)}
    {spelled : List (Nat × List Char)} (hrows : rows = texts spelled)
    (h : ∀ row ∈ spelled, p row.1 row.2) : EveryRow p rows := by
  intro row hrow
  rw [hrows] at hrow
  obtain ⟨⟨n, cs⟩, hspelled, rfl⟩ := List.mem_map.mp hrow
  rw [String.toList_ofList]
  exact h _ hspelled

def isSmallRow (_ : Nat) (cs : List Char) : Bool :=
  cs.all (!isCapital ·)

theorem small_of_isSmallRow {n : Nat} {cs : List Char} (h : isSmallRow n cs) : Small cs :=
  fun c hc => by simpa using List.all_eq_true.mp h c hc

set_option maxRecDepth 10000 in
theorem everyRow_letters : EveryRow isSmallRow Folding.letters := by
  apply EveryRow.of_texts
  · unfold Folding.letters
    repeat' apply texts_cons
    exact texts_nil
  · decide

set_option maxRecDepth 10000 in
theorem everyRow_words : EveryRow isSmallRow Folding.words := by
  apply EveryRow.of_texts
  · unfold Folding.words
    repeat' apply texts_cons
    exact texts_nil
  · decide

set_option maxRecDepth 10000 in
theorem everyRow_composites : EveryRow isSmallRow Composition.table := by
  apply EveryRow.of_texts
  · unfold Composition.table
    repeat' apply texts_cons
    exact texts_nil
  · decide

/-! ### Folding -/

/-- An entry is in a row that reaches as far as its number. -/
theorem mem_of_entry? {α : Type} {rows : List (Nat × List α)} {n : Nat} {a : α}
    (h : Folding.entry? rows n = some a) :
    ∃ row ∈ rows, a ∈ row.2 ∧ row.1 ≤ n ∧ n < row.1 + row.2.length := by
  obtain ⟨⟨first, images⟩, hrow, hentry⟩ := List.exists_of_findSome?_eq_some h
  dsimp only at hentry
  split at hentry
  · next hle =>
    obtain ⟨hlt, -⟩ := List.getElem?_eq_some_iff.mp hentry
    exact ⟨_, hrow, List.mem_of_getElem? hentry, hle, by dsimp only; omega⟩
  · cases hentry

theorem mem_of_mem_split {cs part : List Char} (h : part ∈ Folding.split cs) : ∀ c ∈ part, c ∈ cs := by
  induction cs generalizing part with
  | nil =>
    obtain rfl := List.mem_singleton.mp h
    exact fun c hc => hc
  | cons c cs ih =>
    have hlater {part : List Char} (h : part ∈ Folding.split cs) (d : Char) (hd : d ∈ part) :
        d ∈ c :: cs := List.mem_cons_of_mem c (ih h d hd)
    rw [Folding.split] at h
    split at h
    · rcases List.mem_cons.mp h with rfl | h
      · exact fun d hd => absurd hd List.not_mem_nil
      · exact hlater h
    · split at h
      · obtain rfl := List.mem_singleton.mp h
        exact fun d hd => List.mem_singleton.mp hd ▸ List.mem_cons_self
      · next first parts hsplit =>
        rw [hsplit] at hlater
        rcases List.mem_cons.mp h with rfl | h
        · exact List.forall_mem_cons.mpr ⟨List.mem_cons_self, hlater List.mem_cons_self⟩
        · exact hlater (List.mem_cons_of_mem first h)

theorem small_of_shifted? {n : Nat} {c : Char} (h : Folding.shifted? n = some c) :
    isCapital c = false := by
  have hall : ∀ s ∈ Folding.shifts, s.target + (s.last - s.first) < 0x41 ∨ 0x5A < s.target := by
    decide +kernel
  obtain ⟨s, hfind, rfl⟩ := Option.map_eq_some_iff.mp h
  have hin := List.find?_some hfind
  simp only [Bool.and_eq_true, decide_eq_true_eq] at hin
  have hs := hall s (List.mem_of_find?_eq_some hfind)
  exact small_ofNat (by omega)

theorem small_of_image? {n : Nat} {image : List Char} (h : Folding.image? n = some image) :
    Small image := by
  unfold Folding.image? at h
  split at h
  · next c hc =>
    obtain rfl := Option.some.inj h
    exact List.forall_mem_singleton.mpr (small_of_shifted? hc)
  split at h
  · next c hc =>
    obtain rfl := Option.some.inj h
    obtain ⟨row, hrow, hmem, -⟩ := mem_of_entry? hc
    obtain ⟨text, htext, rfl⟩ := List.mem_map.mp hrow
    exact List.forall_mem_singleton.mpr (small_of_isSmallRow (everyRow_letters text htext) c hmem)
  · obtain ⟨row, hrow, hmem, -⟩ := mem_of_entry? h
    obtain ⟨text, htext, rfl⟩ := List.mem_map.mp hrow
    exact fun c hc =>
      small_of_isSmallRow (everyRow_words text htext) c (mem_of_mem_split hmem c hc)

/-- Folding leaves no capitals. -/
theorem small_of_fold? {c : Char} {image : List Char} (h : fold? c = some image) : Small image := by
  unfold fold? at h
  dsimp only at h
  split at h
  · obtain rfl := Option.some.inj h
    exact List.forall_mem_singleton.mpr (small_lower c)
  next hlarge =>
  split at h
  · obtain rfl := Option.some.inj h
    exact fun c hc => absurd hc List.not_mem_nil
  split at h
  · next image himage =>
    obtain rfl := Option.some.inj h
    exact small_of_image? himage
  split at h
  · cases h
  · obtain rfl := Option.some.inj h
    exact List.forall_mem_singleton.mpr (small_of_le (by omega))

/-! ### Composing -/

section Composition
open Composition

/-- A composite is in a row of its second part, with its first part and its whole. -/
theorem exists_of_mem_composites {e : Composite} (he : e ∈ composites) : ∃ row ∈ Composition.table,
    e.second = Char.ofNat row.1 ∧ e.first ∈ row.2.toList ∧ e.whole ∈ row.2.toList := by
  have hpair (second : Char) (cs : List Char) :
      ∀ e ∈ pairUp second cs, e.second = second ∧ e.first ∈ cs ∧ e.whole ∈ cs := by
    induction cs using pairUp.induct with
    | case1 first whole rest ih =>
      refine List.forall_mem_cons.mpr ⟨⟨rfl, by simp, by simp⟩, fun e he => ?_⟩
      obtain ⟨hsecond, hfirst, hwhole⟩ := ih e he
      exact ⟨hsecond, by simp [hfirst], by simp [hwhole]⟩
    | case2 cs hshort =>
      rw [pairUp]
      · exact fun e he => absurd he List.not_mem_nil
      · exact hshort
  obtain ⟨⟨second, pairs⟩, hrow, he⟩ := List.mem_flatMap.mp he
  exact ⟨_, hrow, hpair _ _ e he⟩

theorem small_of_mem_composites {e : Composite} (he : e ∈ composites) :
    isCapital e.first = false ∧ isCapital e.second = false ∧ isCapital e.whole = false := by
  have hseconds : ∀ row ∈ Composition.table, 0x80 ≤ row.1 := by decide
  obtain ⟨row, hrow, hsecond, hfirst, hwhole⟩ := exists_of_mem_composites he
  have hsmall := small_of_isSmallRow (everyRow_composites row hrow)
  have hlarge := hseconds row hrow
  exact ⟨hsmall _ hfirst, hsecond ▸ small_ofNat (.inr (by omega)), hsmall _ hwhole⟩

theorem small_of_join? {first second c : Char} (h : join? first second = some c) :
    isCapital c = false := by
  unfold join? at h
  split at h
  · next s hs =>
    obtain rfl := Option.some.inj h
    unfold syllable? at hs
    split at hs
    · obtain rfl := Option.some.inj hs
      exact small_ofNat (.inr (by unfold syllables; omega))
    split at hs
    · next hopen =>
      obtain rfl := Option.some.inj hs
      have hsyllable := hopen.1
      rw [isSyllable, Bool.and_eq_true, decide_eq_true_eq] at hsyllable
      unfold syllables at hsyllable
      exact small_ofNat (.inr (by omega))
    · cases hs
  · obtain ⟨e, he, rfl⟩ := Option.map_eq_some_iff.mp h
    exact (small_of_mem_composites (List.mem_of_find?_eq_some he)).2.2

theorem small_letters (n : Nat) : Small (letters n) := by
  have hlarge {k least : Nat} (hleast : 0x5A < least) : isCapital (Char.ofNat (least + k)) = false :=
    small_ofNat (.inr (by omega))
  have hpair : Small [Char.ofNat (leading + (n - syllables) / (21 * 28)),
      Char.ofNat (vowels + (n - syllables) / 28 % 21)] :=
    List.forall_mem_cons.mpr
      ⟨hlarge (by decide), List.forall_mem_singleton.mpr (hlarge (by decide))⟩
  unfold letters
  dsimp only
  split
  · exact hpair
  · exact List.forall_mem_append.mpr ⟨hpair, List.forall_mem_singleton.mpr (hlarge (by decide))⟩

theorem parts_succ (fuel : Nat) (c : Char) : parts (fuel + 1) c =
    if c.toNat < 0x80 then [c]
    else if isSyllable c.toNat then letters c.toNat
    else match composites.find? (·.whole = c) with
      | some e => parts fuel e.first ++ [e.second]
      | none => [c] := by
  rfl

theorem small_parts (fuel : Nat) {c : Char} (h : isCapital c = false) : Small (parts fuel c) := by
  induction fuel generalizing c with
  | zero => exact List.forall_mem_singleton.mpr h
  | succ fuel ih =>
    rw [parts_succ]
    split
    · exact List.forall_mem_singleton.mpr h
    split
    · exact small_letters c.toNat
    split
    · next e he =>
      obtain ⟨hfirst, hsecond, -⟩ := small_of_mem_composites (List.mem_of_find?_eq_some he)
      exact List.forall_mem_append.mpr ⟨ih hfirst, List.forall_mem_singleton.mpr hsecond⟩
    · exact List.forall_mem_singleton.mpr h

theorem mem_ordered {cs : List Char} {c : Char} (h : c ∈ ordered cs) : c ∈ cs := by
  have hsink (c d : Char) (cs : List Char) (h : d ∈ sink c cs) : d = c ∨ d ∈ cs := by
    induction cs with
    | nil => exact List.mem_cons.mp h
    | cons e cs ih =>
      rw [sink] at h
      split at h
      · rcases List.mem_cons.mp h with rfl | h
        · exact .inr List.mem_cons_self
        · exact (ih h).imp_right (List.mem_cons_of_mem e)
      · exact List.mem_cons.mp h
  induction cs with
  | nil => exact h
  | cons d cs ih =>
    rcases hsink d c _ h with rfl | h
    · exact List.mem_cons_self
    · exact List.mem_cons_of_mem d (ih h)

theorem small_joined {starter : Char} {kept : List Char} (top : Nat) {cs : List Char}
    (hstarter : isCapital starter = false) (hkept : Small kept) (hcs : Small cs) :
    Small (joined starter kept top cs) := by
  induction cs generalizing starter kept top with
  | nil =>
    exact List.forall_mem_cons.mpr ⟨hstarter, fun c hc => hkept c (List.mem_reverse.mp hc)⟩
  | cons c cs ih =>
    obtain ⟨hc, hrest⟩ := List.forall_mem_cons.mp hcs
    rw [joined]
    split
    · next s hs =>
      split at hs
      · exact ih top (small_of_join? hs) hkept hrest
      · cases hs
    split
    · refine List.forall_mem_cons.mpr ⟨hstarter, fun d hd => ?_⟩
      rcases List.mem_append.mp hd with hd | hd
      · exact hkept d (List.mem_reverse.mp hd)
      · exact ih 0 hc (fun d hd => absurd hd List.not_mem_nil) hrest d hd
    · exact ih _ hstarter (List.forall_mem_cons.mpr ⟨hc, hkept⟩) hrest

theorem small_joinedAll {cs : List Char} (h : Small cs) : Small (joinedAll cs) := by
  induction cs with
  | nil => exact h
  | cons c cs ih =>
    obtain ⟨hc, hrest⟩ := List.forall_mem_cons.mp h
    rw [joinedAll]
    split
    · exact small_joined 0 hc (fun d hd => absurd hd List.not_mem_nil) hrest
    · exact List.forall_mem_cons.mpr ⟨hc, ih hrest⟩

/-- Composing makes no capitals. -/
theorem small_composed {cs : List Char} (h : Small cs) : Small (composed cs) := by
  unfold composed
  split
  · exact h
  · refine small_joinedAll fun c hc => ?_
    obtain ⟨d, hd, hc⟩ := List.mem_flatMap.mp (mem_ordered hc)
    exact small_parts 4 (h d hd) c hc

end Composition

/-! ### Normal forms -/

/-- **A normal form has no capitals.** -/
theorem small_of_normal? {cs name : List Char} (h : normal? cs = some name) : Small name := by
  obtain ⟨images, himages, rfl⟩ := Option.map_eq_some_iff.mp h
  have hsmall : ∀ image ∈ images, Small image := by
    have hfolds := mapM_eq_some_iff.mp himages
    clear himages h
    induction hfolds with
    | nil => exact fun image himage => absurd himage List.not_mem_nil
    | cons hfold _ ih => exact List.forall_mem_cons.mpr ⟨small_of_fold? hfold, ih⟩
  refine small_composed fun c hc => ?_
  obtain ⟨image, himage, hc⟩ := List.mem_flatten.mp hc
  exact hsmall image himage c hc

/-- A text in ASCII without capitals is its own normal form. -/
theorem normal?_eq_self {cs : List Char} (hbasic : ∀ c ∈ cs, Punycode.isBasic c) (hsmall : Small cs) :
    normal? cs = some cs := by
  have hfold : cs.mapM fold? = some (cs.map fun c => [c]) := by
    rw [mapM_eq_some_iff, List.forall₂_map_right_iff, List.forall₂_same]
    intro c hc
    have hlow : c.toNat < 0x80 := of_decide_eq_true (hbasic c hc)
    rw [fold?, lower_of_small (hsmall c hc)]
    exact if_pos hlow
  have hall : cs.all (·.toNat < 0x80) := List.all_eq_true.mpr hbasic
  rw [normal?, hfold, Option.map_some, ← List.flatMap_def, List.flatMap_singleton', composed, if_pos hall]

/-! ### Labels -/

namespace Label

/-- What the text of a label is made of. -/
def isPlain (c : Char) : Bool :=
  Punycode.isBasic c && !isCapital c && !isForbidden c && c != '.'

theorem isPlain_iff {c : Char} : isPlain c ↔
    Punycode.isBasic c ∧ isCapital c = false ∧ isForbidden c = false ∧ c ≠ '.' := by
  simp [isPlain, and_assoc]

/-- Whether a text is Punycode that is too long to be read. -/
def isLong (cs : List Char) : Bool :=
  cs.take 4 == sign && decide (longestPunycode < (cs.drop 4).length)

section Text
variable {cs : List Char} {label : Label}

/-- The text of a label is the one it was read from, or Punycode for it. -/
theorem ofText?_cases (h : ofText? cs = some label) :
    (label.text = cs ∧ cs.all Punycode.isBasic ∧ isLong cs = false) ∨
      (label = ⟨cs, sign ++ Punycode.encode cs⟩ ∧ cs.all Punycode.isBasic = false ∧
        isSound cs) := by
  unfold ofText? at h
  obtain ⟨shown, hshown, h⟩ := Option.bind_eq_some_iff.mp h
  unfold shown? at hshown
  split at hshown
  · next hsign =>
    -- Punycode is of ASCII, and so is the whole text
    dsimp only at hshown
    split at hshown
    · next hcode =>
      obtain ⟨-, hshown⟩ := Option.filter_eq_some_iff.mp hshown
      have hbasic : cs.all Punycode.isBasic := by
        rw [← List.take_append_drop 4 cs, List.all_append, hsign, hcode.1]
        decide
      have hlong : isLong cs = false := by
        rw [isLong, decide_eq_false (by omega), Bool.and_false]
      rw [Bool.not_eq_true'] at hshown
      rw [hshown, if_neg Bool.false_ne_true] at h
      split at h
      · exact .inl ⟨congrArg Label.text (Option.some.inj h).symm, hbasic, hlong⟩
      · cases h
    · cases hshown
  · next hsign =>
    obtain rfl := Option.some.inj hshown
    have hlong : isLong cs = false := by
      rw [isLong, beq_eq_false_iff_ne.mpr hsign, Bool.false_and]
    split at h
    · next hbasic => exact .inl ⟨congrArg Label.text (Option.some.inj h).symm, hbasic, hlong⟩
    · next hbasic =>
      rw [Bool.not_eq_true] at hbasic
      split at h
      · next hsound => exact .inr ⟨(Option.some.inj h).symm, hbasic, hsound⟩
      · cases h

theorem isPlain_digit {n : Nat} (h : n < 36) : isPlain (Punycode.digit n) := by
  have hall : ∀ n < 36, isPlain (Punycode.digit n) := by decide
  exact hall n h

/-- The text of a label is of plain characters. -/
theorem isPlain_text (hsmall : Small cs) (hcs : ∀ c ∈ cs, isForbidden c = false ∧ c ≠ '.')
    (h : ofText? cs = some label) : ∀ c ∈ label.text, isPlain c := by
  have hplain {c : Char} (hc : c ∈ cs) (hbasic : Punycode.isBasic c) : isPlain c :=
    isPlain_iff.mpr ⟨hbasic, hsmall c hc, hcs c hc⟩
  rcases ofText?_cases h with ⟨htext, hbasic, -⟩ | ⟨rfl, -, -⟩
  · rw [htext]
    exact fun c hc => hplain hc (List.all_eq_true.mp hbasic c hc)
  · intro c hc
    rcases List.mem_append.mp hc with hc | hc
    · have hall : ∀ c ∈ sign, isPlain c := by decide
      exact hall c hc
    rcases Punycode.mem_encode hc with ⟨hc, hbasic⟩ | rfl | ⟨n, hn, rfl⟩
    · exact hplain hc hbasic
    · decide
    · exact isPlain_digit hn

/-- **A label is read back from its text**, unless this is Punycode that is too long. -/
theorem ofText?_text (h : ofText? cs = some label) :
    ofText? label.text = if isLong label.text then none else some label := by
  rcases ofText?_cases h with ⟨htext, -, hlong⟩ | ⟨rfl, hbasic, hsound⟩
  · rw [htext, hlong, if_neg Bool.false_ne_true, h]
  · have hcode : (Punycode.encode cs).all Punycode.isBasic := by
      refine List.all_eq_true.mpr fun c hc => ?_
      rcases Punycode.mem_encode hc with ⟨-, hbasic⟩ | rfl | ⟨n, hn, rfl⟩
      · exact hbasic
      · rfl
      · exact (isPlain_iff.mp (isPlain_digit hn)).1
    have htake : (sign ++ Punycode.encode cs).take 4 = sign := rfl
    have hdrop : (sign ++ Punycode.encode cs).drop 4 = Punycode.encode cs := rfl
    have hshown : shown? (sign ++ Punycode.encode cs) =
        if isLong (sign ++ Punycode.encode cs) then none else some cs := by
      rw [shown?, isLong, if_pos htake, htake, hdrop, beq_self_eq_true, Bool.true_and]
      dsimp only
      rw [Punycode.decode?_encode]
      by_cases hlong : longestPunycode < (Punycode.encode cs).length
      · rw [decide_eq_true hlong, if_pos rfl, if_neg fun h => by omega]
      · rw [decide_eq_false hlong, if_neg Bool.false_ne_true, if_pos ⟨hcode, by omega⟩,
          Option.filter_some, hbasic]
        rfl
    have hall : (sign ++ Punycode.encode cs).all Punycode.isBasic := by
      rw [List.all_append, hcode, Bool.and_true]
      decide
    unfold ofText?
    rw [hshown]
    by_cases hlong : isLong (sign ++ Punycode.encode cs)
    · rw [if_pos hlong, if_pos hlong]
      rfl
    · rw [if_neg hlong, if_neg hlong]
      show (if _ then _ else _) = _
      rw [hbasic, if_neg Bool.false_ne_true, if_pos hsound, if_pos hall]

end Text

end Label

/-! ### Names -/

section Names
variable {cs : List Char} {labels : List Label}

/-- The name of labels. -/
def nameOf (labels : List Label) : List Char :=
  Address.joinWith '.' (labels.map Label.text)

/-- The labels of a name are read from parts without capitals and without what no name may hold. In
a name that runs from right to left they are orderly. -/
theorem exists_parts (h : labels? cs = some labels) : ∃ parts, parts ≠ [] ∧
    (∀ part ∈ parts, Small part ∧ ∀ c ∈ part, isForbidden c = false ∧ c ≠ '.') ∧
      List.Forall₂ (fun part label => Label.ofText? part = some label) parts labels ∧
        ¬ (labels.any (·.shown.any Label.runsLeft) ∧ !labels.all Label.orderly) := by
  unfold labels? at h
  obtain ⟨name, hname, h⟩ := Option.bind_eq_some_iff.mp h
  split at h
  · cases h
  next hforbidden =>
  obtain ⟨found, hfound, h⟩ := Option.bind_eq_some_iff.mp h
  split at h
  · cases h
  next horder =>
  obtain rfl := Option.some.inj h
  refine ⟨Address.splitOn '.' name, Address.splitOn_ne_nil '.' name, fun part hpart => ?_,
    mapM_eq_some_iff.mp hfound, horder⟩
  have hmem := Address.mem_of_mem_splitOn hpart
  have hsmall := small_of_normal? hname
  refine ⟨fun c hc => hsmall c (hmem c hc).1, fun c hc => ⟨?_, (hmem c hc).2⟩⟩
  by_contra hc'
  exact hforbidden (List.any_eq_true.mpr ⟨c, (hmem c hc).1, Bool.of_not_eq_false hc'⟩)

/-- The texts of labels that were read are of plain characters. -/
theorem isPlain_of_labels? (h : labels? cs = some labels) :
    ∀ label ∈ labels, ∀ c ∈ label.text, Label.isPlain c := by
  obtain ⟨parts, -, hparts, hlabels, -⟩ := exists_parts h
  clear h
  induction hlabels with
  | nil => exact fun label hlabel => absurd hlabel List.not_mem_nil
  | cons hlabel _ ih =>
    obtain ⟨⟨hsmall, hallowed⟩, hrest⟩ := List.forall_mem_cons.mp hparts
    exact List.forall_mem_cons.mpr ⟨Label.isPlain_text hsmall hallowed hlabel, ih hrest⟩

theorem mem_nameOf (h : labels? cs = some labels) {c : Char} (hc : c ∈ nameOf labels) :
    c = '.' ∨ Label.isPlain c := by
  refine (Address.mem_joinWith hc).imp_right fun ⟨text, htext, hc⟩ => ?_
  obtain ⟨label, hlabel, rfl⟩ := List.mem_map.mp htext
  exact isPlain_of_labels? h label hlabel c hc

theorem mapM_ofText? {parts : List (List Char)}
    (h : List.Forall₂ (fun part label => Label.ofText? part = some label) parts labels) :
    (labels.map Label.text).mapM Label.ofText? =
      if (labels.map Label.text).any Label.isLong then none else some labels := by
  induction h with
  | nil => rfl
  | cons hlabel _ ih =>
    rw [List.map_cons, List.mapM_cons, List.any_cons, Label.ofText?_text hlabel, ih]
    split
    · next hlong =>
      rw [hlong, Bool.true_or, if_pos rfl]
      rfl
    · next hlong =>
      rw [Bool.eq_false_iff.mpr hlong, Bool.false_or]
      split <;> rfl

/-- **A name of plain parts is read part by part.** -/
theorem labels?_joinWith {parts : List (List Char)} (hfull : parts ≠ [])
    (hplain : ∀ part ∈ parts, ∀ c ∈ part, Label.isPlain c) :
    labels? (Address.joinWith '.' parts) = (parts.mapM Label.ofText?).bind fun labels =>
      if labels.any (·.shown.any Label.runsLeft) ∧ !labels.all Label.orderly then none
      else some labels := by
  have hname : ∀ c ∈ Address.joinWith '.' parts, Punycode.isBasic c ∧ isCapital c = false ∧
      isForbidden c = false := by
    intro c hc
    rcases Address.mem_joinWith hc with rfl | ⟨part, hpart, hc⟩
    · decide
    · obtain ⟨hbasic, hsmall, hallowed, -⟩ := Label.isPlain_iff.mp (hplain part hpart c hc)
      exact ⟨hbasic, hsmall, hallowed⟩
  have hnormal := normal?_eq_self (fun c hc => (hname c hc).1) fun c hc => (hname c hc).2.1
  have hallowed : ¬ (Address.joinWith '.' parts).any isForbidden = true := by
    rw [List.any_eq_true]
    rintro ⟨c, hc, hforbidden⟩
    rw [(hname c hc).2.2] at hforbidden
    cases hforbidden
  have hdot : ∀ part ∈ parts, '.' ∉ part := fun part hpart hmem =>
    (Label.isPlain_iff.mp (hplain part hpart '.' hmem)).2.2.2 rfl
  unfold labels?
  rw [hnormal]
  show (if _ then _ else _) = _
  rw [if_neg hallowed, Address.splitOn_joinWith hdot hfull]
  rfl

theorem map_text_ne_nil (h : labels? cs = some labels) : labels.map Label.text ≠ [] := by
  obtain ⟨parts, hfull, -, hlabels, -⟩ := exists_parts h
  intro hnil
  rw [List.map_eq_nil_iff] at hnil
  subst hnil
  exact hfull (List.forall₂_nil_right_iff.mp hlabels)

theorem isPlain_of_mem_map_text (h : labels? cs = some labels) :
    ∀ text ∈ labels.map Label.text, ∀ c ∈ text, Label.isPlain c := by
  intro text htext
  obtain ⟨label, hlabel, rfl⟩ := List.mem_map.mp htext
  exact isPlain_of_labels? h label hlabel

/-- **Labels are read back from their name**, unless there is Punycode among them that is too long. -/
theorem labels?_nameOf (h : labels? cs = some labels) : labels? (nameOf labels) =
    if (labels.map Label.text).any Label.isLong then none else some labels := by
  obtain ⟨_, -, -, hlabels, horder⟩ := exists_parts h
  rw [nameOf, labels?_joinWith (map_text_ne_nil h) (isPlain_of_mem_map_text h),
    mapM_ofText? hlabels]
  split
  · rfl
  · exact if_neg horder

/-- A name of plain parts without Punycode is its own ASCII form. -/
theorem ascii?_joinWith {parts : List (List Char)} (hfull : parts ≠ [])
    (hplain : ∀ part ∈ parts, part.take 4 ≠ Label.sign ∧ ∀ c ∈ part, Label.isPlain c) :
    ascii? (Utf8.encode (Address.joinWith '.' parts)) = some (Address.joinWith '.' parts) := by
  have hread : parts.mapM Label.ofText? = some (parts.map fun part => ⟨part, part⟩) := by
    rw [mapM_eq_some_iff, List.forall₂_map_right_iff, List.forall₂_same]
    intro part hpart
    obtain ⟨hsign, hpart⟩ := hplain part hpart
    have hbasic : part.all Punycode.isBasic :=
      List.all_eq_true.mpr fun c hc => (Label.isPlain_iff.mp (hpart c hc)).1
    unfold Label.ofText? Label.shown?
    rw [if_neg hsign]
    exact if_pos hbasic
  -- nothing in ASCII runs from right to left
  have hleft : ¬ ((parts.map fun part => (⟨part, part⟩ : Label)).any (·.shown.any Label.runsLeft) ∧
      !(parts.map fun part => (⟨part, part⟩ : Label)).all Label.orderly) := by
    rintro ⟨hany, -⟩
    obtain ⟨label, hlabel, hany⟩ := List.any_eq_true.mp hany
    obtain ⟨part, hpart, rfl⟩ := List.mem_map.mp hlabel
    obtain ⟨c, hc, hruns⟩ := List.any_eq_true.mp hany
    have hlow : c.toNat < 0x80 :=
      of_decide_eq_true (Label.isPlain_iff.mp ((hplain part hpart).2 c hc)).1
    rw [Label.runsLeft, decide_eq_false (by omega), Bool.false_and] at hruns
    cases hruns
  have hlabels := labels?_joinWith hfull fun part hpart => (hplain part hpart).2
  rw [hread, Option.bind_some, if_neg hleft] at hlabels
  unfold ascii?
  rw [Utf8.decode?_encode]
  show (labels? _).bind _ = _
  rw [hlabels, Option.bind_some, List.map_map]
  exact congrArg (fun parts => some (Address.joinWith '.' parts)) (List.map_id parts)

/-- **A name is read back from its ASCII form**, unless there is Punycode in it that is too long. -/
theorem ascii?_of_ascii? {bytes : List UInt8} {name : List Char} (h : ascii? bytes = some name) :
    (∀ c ∈ name, c = '.' ∨ Label.isPlain c) ∧ ascii? (Utf8.encode name) =
      if (Address.splitOn '.' name).any Label.isLong then none else some name := by
  unfold ascii? at h
  obtain ⟨cs, -, h⟩ := Option.bind_eq_some_iff.mp h
  obtain ⟨labels, hlabels, h⟩ := Option.bind_eq_some_iff.mp h
  obtain rfl : nameOf labels = name := Option.some.inj h
  refine ⟨fun c hc => mem_nameOf hlabels hc, ?_⟩
  have hparts : Address.splitOn '.' (nameOf labels) = labels.map Label.text :=
    Address.splitOn_joinWith (fun text htext hmem => (Label.isPlain_iff.mp
      (isPlain_of_mem_map_text hlabels text htext '.' hmem)).2.2.2 rfl) (map_text_ne_nil hlabels)
  unfold ascii?
  rw [Utf8.decode?_encode]
  show (labels? (nameOf labels)).bind _ = _
  rw [labels?_nameOf hlabels, hparts]
  split <;> rfl

end Names

end CloudApi.Url.Domain
