import CloudApi.Proofs.Url.Domain
import Mathlib.Data.List.Nodup
import Mathlib.Data.List.Perm.Subperm

/-! Names of ideographs.

Ideographs are in no table of what is folded, composed or excluded, they are no marks and run from left
to right. A label of them is therefore sound as it is, and written in Punycode (`ascii?_ideographs`).
If they are some steps apart this takes three digits for each of them, but for a few at the beginning
(`Punycode.length_numbers`): Punycode is longer than the label it stands for, and there are labels
short enough to be written whose Punycode is too long to be read (`isLong_of_apart`). -/
namespace CloudApi.Url

open Text

namespace Punycode

/-! ### The length of Punycode -/

theorem three_le_length_digits (bias k : Nat) {fuel q : Nat} (hq : 936 ≤ q) (hfuel : q ≤ fuel) :
    3 ≤ (digits bias fuel k q).length := by
  obtain ⟨fuel, rfl⟩ : ∃ n, fuel = n + 2 := ⟨fuel - 2, by omega⟩
  obtain ⟨hone, htop⟩ := threshold_bounds bias k
  have hnext : 26 ≤ (q - threshold bias k) / (36 - threshold bias k) := by
    rw [Nat.le_div_iff_mul_le (by omega)]
    omega
  have htop' := (threshold_bounds bias (k + 36)).2
  rw [digits, if_neg (by omega), List.length_cons, digits, if_neg (by omega), List.length_cons]
  have hlast := List.length_pos_iff.mpr (digits_ne_nil bias fuel (k + 36 + 36)
    (((q - threshold bias k) / (36 - threshold bias k) - threshold bias (k + 36)) /
      (36 - threshold bias (k + 36))))
  omega

section Length
variable {label : List Char} (basic : Nat)

theorem foldl_see_le (code : Nat) (cs : List Char) (e : Encoder) :
    e.written.length ≤ (cs.foldl (Encoder.see basic code) e).written.length ∧
      e.placed ≤ (cs.foldl (Encoder.see basic code) e).placed := by
  induction cs generalizing e with
  | nil => exact ⟨le_rfl, le_rfl⟩
  | cons c cs ih =>
    have hsee : e.written.length ≤ (e.see basic code c).written.length ∧
        e.placed ≤ (e.see basic code c).placed := by
      unfold Encoder.see
      split_ifs <;> simp
    exact ⟨hsee.1.trans (ih _).1, hsee.2.trans (ih _).2⟩

/-- Where a code point occurs a character is placed, with three digits if the delta is large. -/
theorem foldl_see_of_mem {code : Nat} {cs : List Char} (h : ∃ c ∈ cs, c.toNat = code) (e : Encoder) :
    e.placed < (cs.foldl (Encoder.see basic code) e).placed ∧ (936 ≤ e.delta →
      e.written.length + 3 ≤ (cs.foldl (Encoder.see basic code) e).written.length) := by
  induction cs generalizing e with
  | nil =>
    obtain ⟨c, hc, -⟩ := h
    cases hc
  | cons c cs ih =>
    have hlater (hne : c.toNat ≠ code) : ∃ c ∈ cs, c.toNat = code := by
      obtain ⟨d, hd, hcode⟩ := h
      rcases List.mem_cons.mp hd with rfl | hd
      · exact absurd hcode hne
      · exact ⟨d, hd, hcode⟩
    rw [List.foldl_cons]
    rcases lt_trichotomy c.toNat code with hlt | heq | hgt
    · have hsee : e.see basic code c = { e with delta := e.delta + 1 } := if_pos hlt
      rw [hsee]
      obtain ⟨hplaced, hwritten⟩ := ih (hlater hlt.ne) { e with delta := e.delta + 1 }
      exact ⟨hplaced, fun hdelta => hwritten (by dsimp only; omega)⟩
    · have hsee : e.see basic code c =
          { written := e.written ++ digits e.bias e.delta 36 e.delta
            delta := 0
            bias := adapt e.delta (e.placed + 1) (e.placed = basic)
            placed := e.placed + 1 } := (if_neg heq.not_lt).trans (if_pos heq)
      obtain ⟨hwritten, hplaced⟩ := foldl_see_le basic code cs (e.see basic code c)
      rw [hsee] at hwritten hplaced ⊢
      refine ⟨Nat.lt_of_succ_le hplaced, fun hdelta => ?_⟩
      have hdigits := three_le_length_digits e.bias 36 hdelta le_rfl
      rw [List.length_append] at hwritten
      omega
    · have hsee : e.see basic code c = e := (if_neg (by omega)).trans (if_neg (by omega))
      rw [hsee]
      exact ih (hlater hgt.ne') e

/-- Code points that are apart take three digits each as soon as there are enough characters before
them. -/
theorem length_place {codes : List Nat} {last : Nat} {e : Encoder}
    (hcodes : ∀ n ∈ codes, ∃ c ∈ label, c.toNat = n)
    (hapart : (last :: codes).Pairwise (fun n m => n + 26 ≤ m)) :
    e.written.length + 3 * codes.length ≤
      (Encoder.place label basic (last + 1) codes e).written.length + 3 * (37 - e.placed) := by
  induction codes generalizing last e with
  | nil =>
    rw [Encoder.place, List.length_nil]
    omega
  | cons code codes ih =>
    obtain ⟨hcode, hrest⟩ := List.forall_mem_cons.mp hcodes
    obtain ⟨hfirst, hlater⟩ := List.pairwise_cons.mp hapart
    have hstep := hfirst code List.mem_cons_self
    rw [Encoder.place, List.length_cons]
    obtain ⟨hplaced, hwritten⟩ := foldl_see_of_mem basic hcode
      { e with delta := e.delta + (code - (last + 1)) * (e.placed + 1) }
    have hmore := (foldl_see_le basic code label
      { e with delta := e.delta + (code - (last + 1)) * (e.placed + 1) }).1
    dsimp only at hplaced hwritten hmore ⊢
    generalize label.foldl (Encoder.see basic code)
      { e with delta := e.delta + (code - (last + 1)) * (e.placed + 1) } = e' at hplaced hwritten hmore ⊢
    have hread := ih (e := { e' with delta := e'.delta + 1 }) hrest hlater
    dsimp only at hread
    by_cases henough : 37 ≤ e.placed
    · have hdelta : 25 * 38 ≤ (code - (last + 1)) * (e.placed + 1) :=
        Nat.mul_le_mul (by omega) (by omega)
      have hthree := hwritten (by omega)
      omega
    · omega

/-- **Characters that are apart take three digits each**, but for the first of them. -/
theorem length_numbers (hnodup : label.Nodup) (hlow : ∀ c ∈ label, 0x7F + 26 ≤ c.toNat)
    (hapart : ∀ c ∈ label, ∀ d ∈ label, c.toNat < d.toNat → c.toNat + 26 ≤ d.toNat) :
    3 * label.length ≤ (numbers label).length + 111 := by
  obtain ⟨hsorted, hmem⟩ := codes_spec label
  have hcodes : ∀ n ∈ codes label, ∃ c ∈ label, c.toNat = n := fun n hn => by
    obtain ⟨c, hc, -, hcode⟩ := (hmem n).mp hn
    exact ⟨c, hc, hcode⟩
  have hpairwise : (0x7F :: codes label).Pairwise (fun n m => n + 26 ≤ m) := by
    refine List.pairwise_cons.mpr ⟨fun n hn => ?_, hsorted.imp_of_mem fun hn hm hlt => ?_⟩
    · obtain ⟨c, hc, rfl⟩ := hcodes n hn
      exact hlow c hc
    · obtain ⟨c, hc, rfl⟩ := hcodes _ hn
      obtain ⟨d, hd, rfl⟩ := hcodes _ hm
      exact hapart c hc d hd hlt
  have hcount : label.length ≤ (codes label).length := by
    have hnumbers : (label.map Char.toNat).Nodup :=
      List.Nodup.map (fun _ _ => Char.toNat_inj.mp) hnodup
    have hsub : label.map Char.toNat ⊆ codes label := by
      intro n hn
      obtain ⟨c, hc, rfl⟩ := List.mem_map.mp hn
      have hlarge := hlow c hc
      exact (hmem _).mpr ⟨c, hc, by omega, rfl⟩
    have hlength := (List.subperm_of_subset hnumbers hsub).length_le
    rwa [List.length_map] at hlength
  have hplace := length_place (label.filter isBasic).length
    (e := ⟨[], 0, 72, (label.filter isBasic).length⟩) hcodes hpairwise
  change 0 + 3 * (codes label).length ≤ (numbers label).length + _ at hplace
  omega

end Length

end Punycode

namespace Domain

/-! ### Ideographs -/

def isIdeograph (c : Char) : Bool :=
  0x4E00 ≤ c.toNat && c.toNat ≤ 0x9FFF

theorem isIdeograph_iff {c : Char} : isIdeograph c ↔ 0x4E00 ≤ c.toNat ∧ c.toNat ≤ 0x9FFF := by
  simp [isIdeograph]

/-- No image in a row is that of an ideograph. -/
def isApartRow (n : Nat) (cs : List Char) : Bool :=
  n + cs.length < 0x4E00 || 0x9FFF < n

theorem isApartRow_iff {n : Nat} {cs : List Char} :
    isApartRow n cs ↔ n + cs.length < 0x4E00 ∨ 0x9FFF < n := by
  simp [isApartRow]

/-- There is no ideograph in a row. -/
def isFreeRow (n : Nat) (cs : List Char) : Bool :=
  (n < 0x4E00 || 0x9FFF < n) && cs.all (!isIdeograph ·)

set_option maxRecDepth 10000 in
theorem apart_letters : EveryRow isApartRow Folding.letters := by
  apply EveryRow.of_texts
  · unfold Folding.letters
    repeat' apply texts_cons
    exact texts_nil
  · decide

set_option maxRecDepth 10000 in
theorem apart_words : EveryRow isApartRow Folding.words := by
  apply EveryRow.of_texts
  · unfold Folding.words
    repeat' apply texts_cons
    exact texts_nil
  · decide

set_option maxRecDepth 10000 in
theorem free_composites : EveryRow isFreeRow Composition.table := by
  apply EveryRow.of_texts
  · unfold Composition.table
    repeat' apply texts_cons
    exact texts_nil
  · decide

theorem length_split_le (cs : List Char) : (Folding.split cs).length ≤ cs.length + 1 := by
  induction cs with
  | nil => exact le_rfl
  | cons c cs ih =>
    rw [Folding.split]
    split
    · simpa using ih
    · split
      · simp
      · next hsplit =>
        rw [hsplit] at ih
        simp only [List.length_cons] at ih ⊢
        omega

/-- A number that no row reaches has no entry. -/
theorem entry?_eq_none {α : Type} {rows : List (Nat × List α)} {n : Nat}
    (h : ∀ row ∈ rows, row.1 + row.2.length ≤ n ∨ n < row.1) : Folding.entry? rows n = none := by
  by_contra hsome
  obtain ⟨image, himage⟩ := Option.ne_none_iff_exists'.mp hsome
  obtain ⟨row, hrow, -, hlow, hhigh⟩ := mem_of_entry? himage
  have hrow := h row hrow
  omega

section Ideograph
variable {c : Char} (h : isIdeograph c)

include h in
theorem inRanges_of_isIdeograph {ranges : List (Nat × Nat)}
    (hranges : ∀ r ∈ ranges, r.2 < 0x4E00 ∨ 0x9FFF < r.1) : inRanges ranges c.toNat = false := by
  have hbounds := isIdeograph_iff.mp h
  refine List.any_eq_false.mpr fun r hr => ?_
  have hr := hranges r hr
  simp only [Bool.and_eq_true, decide_eq_true_eq]
  omega

include h in
theorem image?_of_isIdeograph : Folding.image? c.toNat = none := by
  have hbounds := isIdeograph_iff.mp h
  have hshifts : ∀ s ∈ Folding.shifts, s.last < 0x4E00 ∨ 0x9FFF < s.first := by decide +kernel
  have hshifted : Folding.shifted? c.toNat = none := by
    rw [Folding.shifted?, Option.map_eq_none_iff, List.find?_eq_none]
    intro s hs
    have hs := hshifts s hs
    simp only [Bool.and_eq_true, decide_eq_true_eq]
    omega
  have hletter : Folding.entry? Folding.letterRows c.toNat = none := by
    refine entry?_eq_none fun row hrow => ?_
    obtain ⟨text, htext, rfl⟩ := List.mem_map.mp hrow
    have hapart := isApartRow_iff.mp (apart_letters text htext)
    dsimp only
    omega
  have hword : Folding.entry? Folding.wordRows c.toNat = none := by
    refine entry?_eq_none fun row hrow => ?_
    obtain ⟨text, htext, rfl⟩ := List.mem_map.mp hrow
    have hapart := isApartRow_iff.mp (apart_words text htext)
    have hparts := length_split_le text.2.toList
    dsimp only
    omega
  rw [Folding.image?, hshifted]
  dsimp only
  rw [hletter]
  exact hword

include h in
theorem fold?_of_isIdeograph : fold? c = some [c] := by
  have hbounds := isIdeograph_iff.mp h
  have hignored : inRanges Folding.ignored c.toNat = false :=
    inRanges_of_isIdeograph h (by decide)
  have hexcluded : isExcluded c = false := inRanges_of_isIdeograph h (by decide +kernel)
  rw [fold?, if_neg (by omega), hignored, if_neg Bool.false_ne_true, image?_of_isIdeograph h]
  dsimp only
  rw [hexcluded, if_neg Bool.false_ne_true]

include h in
theorem isMark_of_isIdeograph : isMark c = false := by
  have hnonspacing : inRanges Mark.nonspacing c.toNat = false :=
    inRanges_of_isIdeograph h (by decide +kernel)
  have hspacing : inRanges Mark.spacing c.toNat = false :=
    inRanges_of_isIdeograph h (by decide +kernel)
  rw [isMark, Mark.isNonspacing, Mark.isSpacing, hnonspacing, hspacing, Bool.and_false, Bool.or_false]

include h in
theorem runsLeft_of_isIdeograph : Label.runsLeft c = false := by
  have hnonspacing : Mark.isNonspacing c = false :=
    (Bool.or_eq_false_iff.mp (isMark_of_isIdeograph h)).1
  have hright : inRanges Direction.rightRanges c.toNat = false :=
    inRanges_of_isIdeograph h (by decide)
  have heuropean : inRanges Direction.europeanRanges c.toNat = false :=
    inRanges_of_isIdeograph h (by decide)
  have harabic : inRanges Direction.arabicRanges c.toNat = false :=
    inRanges_of_isIdeograph h (by decide)
  have hdirection : Direction.ofChar c = .left ∨ Direction.ofChar c = .neutral := by
    rw [Direction.ofChar, hnonspacing, hright, heuropean, harabic, if_neg Bool.false_ne_true, if_neg Bool.false_ne_true,
      if_neg Bool.false_ne_true, if_neg Bool.false_ne_true]
    split
    · exact .inr rfl
    · exact .inl rfl
  rw [Label.runsLeft]
  rcases hdirection with h | h <;> rw [h] <;> simp

include h in
theorem combiningClass_of_isIdeograph : combiningClass c = 0 := by
  have hbounds := isIdeograph_iff.mp h
  have htable : ∀ row ∈ CombiningClass.table, row.2.1 < 0x4E00 ∨ 0x9FFF < row.1 := by decide +kernel
  rw [combiningClass]
  dsimp only
  generalize hfind : List.find? _ CombiningClass.table = found
  cases found with
  | none => rw [Option.map_none, Option.getD_none, ite_self]
  | some row =>
    -- There is no such row: each is beside the ideographs.
    obtain ⟨low, high, k⟩ := row
    have hrow := htable _ (List.mem_of_find?_eq_some hfind)
    have hin := List.find?_some hfind
    simp only [Bool.and_eq_true, decide_eq_true_eq] at hrow hin
    omega

open Composition

include h in
/-- An ideograph is no part of a composite, nor one itself. -/
theorem ne_of_mem_composites {e : Composite} (he : e ∈ composites) : e.first ≠ c ∧ e.whole ≠ c := by
  obtain ⟨row, hrow, -, hfirst, hwhole⟩ := exists_of_mem_composites he
  have hfree := (Bool.and_eq_true_iff.mp (free_composites row hrow)).2
  have hne {d : Char} (hd : d ∈ row.2.toList) : d ≠ c := by
    rintro rfl
    have hnot := List.all_eq_true.mp hfree d hd
    rw [h] at hnot
    cases hnot
  exact ⟨hne hfirst, hne hwhole⟩

include h in
theorem not_isSyllable_of_isIdeograph : isSyllable c.toNat = false := by
  have hbounds := isIdeograph_iff.mp h
  rw [isSyllable, Bool.and_eq_false_iff, decide_eq_false_iff_not]
  exact .inl (by unfold syllables; omega)

include h in
theorem parts_of_isIdeograph : parts 4 c = [c] := by
  have hbounds := isIdeograph_iff.mp h
  have hnone : composites.find? (·.whole = c) = none := by
    rw [List.find?_eq_none]
    exact fun e he => by simpa using (ne_of_mem_composites h he).2
  rw [parts_succ, if_neg (by omega), not_isSyllable_of_isIdeograph h, if_neg Bool.false_ne_true,
    hnone]

include h in
theorem join?_of_isIdeograph (d : Char) : join? c d = none := by
  have hbounds := isIdeograph_iff.mp h
  have hsyllable : syllable? c.toNat d.toNat = none := by
    rw [syllable?, if_neg (by unfold leading; omega),
      if_neg (by rw [not_isSyllable_of_isIdeograph h]; simp)]
  have hnone : (composites.find? fun e => e.first = c ∧ e.second = d) = none := by
    rw [List.find?_eq_none]
    exact fun e he => by simpa using fun hfirst => absurd hfirst (ne_of_mem_composites h he).1
  rw [join?, hsyllable]
  dsimp only
  rw [hnone, Option.map_none]

end Ideograph

/-! ### Names of ideographs -/

section Names
variable {cs : List Char} (h : ∀ c ∈ cs, isIdeograph c)

open Composition

include h in
theorem ordered_ideographs : ordered cs = cs := by
  induction cs with
  | nil => rfl
  | cons c cs ih =>
    obtain ⟨-, hrest⟩ := List.forall_mem_cons.mp h
    have hsink : sink c cs = c :: cs := by
      cases cs with
      | nil => rfl
      | cons d cs =>
        rw [sink, combiningClass_of_isIdeograph (hrest d List.mem_cons_self), if_neg (by omega)]
    show sink c (ordered cs) = c :: cs
    rw [ih hrest, hsink]

include h in
theorem joinedAll_ideographs : joinedAll cs = cs := by
  have hjoined {c : Char} (hc : isIdeograph c) {cs : List Char} (hcs : ∀ d ∈ cs, isIdeograph d) :
      joined c [] 0 cs = c :: cs := by
    induction cs generalizing c with
    | nil => rfl
    | cons d cs ih =>
      obtain ⟨hd, hrest⟩ := List.forall_mem_cons.mp hcs
      rw [joined, join?_of_isIdeograph hc, ite_self]
      dsimp only
      rw [combiningClass_of_isIdeograph hd, if_pos rfl, ih hd hrest]
      rfl
  cases cs with
  | nil => rfl
  | cons c cs =>
    obtain ⟨hc, hrest⟩ := List.forall_mem_cons.mp h
    rw [joinedAll, combiningClass_of_isIdeograph hc, if_pos rfl, hjoined hc hrest]

include h in
theorem normal?_ideographs : normal? cs = some cs := by
  have hfold : cs.mapM fold? = some (cs.map fun c => [c]) := by
    rw [mapM_eq_some_iff, List.forall₂_map_right_iff, List.forall₂_same]
    exact fun c hc => fold?_of_isIdeograph (h c hc)
  have hparts : cs.flatMap (parts 4) = cs := by
    rw [List.flatMap_congr fun c hc => parts_of_isIdeograph (h c hc), List.flatMap_singleton']
  rw [normal?, hfold, Option.map_some, ← List.flatMap_def, List.flatMap_singleton', composed, hparts,
    ordered_ideographs h, joinedAll_ideographs h, ite_self]

include h in
theorem not_isForbidden_ideograph : ∀ c ∈ cs, isForbidden c = false ∧ c ≠ '.' := by
  have hforbidden : ∀ d ∈ "%#/:<>?@[\\]^|".toList, d.toNat < 0x4E00 := by decide
  intro c hc
  have hbounds := isIdeograph_iff.mp (h c hc)
  have hnot : "%#/:<>?@[\\]^|".toList.contains c = false := by
    rw [List.contains_eq_mem, decide_eq_false_iff_not]
    exact fun hmem => absurd (hforbidden c hmem) (by omega)
  refine ⟨?_, ?_⟩
  · rw [isForbidden, hnot, Bool.or_false, decide_eq_false (by omega), Bool.false_or, beq_eq_false_iff_ne]
    omega
  · rintro rfl
    exact absurd hbounds.1 (by decide)

include h in
theorem isSound_ideographs (hlength : cs.length ≤ Label.longestShown) : Label.isSound cs := by
  have hallowed := not_isForbidden_ideograph h
  have hnone : cs.any (fun c => isForbidden c || c == '.') = false := by
    rw [List.any_eq_false]
    intro c hc
    rw [(hallowed c hc).1, beq_eq_false_iff_ne.mpr (hallowed c hc).2]
    exact Bool.false_ne_true
  have hhead : cs.head?.any isMark = false := by
    cases cs with
    | nil => rfl
    | cons c cs => exact isMark_of_isIdeograph (h c List.mem_cons_self)
  have hjoiners : Label.joinersFit [] cs := by
    have hfits (before : List Char) : Label.joinersFit before cs := by
      clear hallowed hnone hhead hlength
      induction cs generalizing before with
      | nil => rfl
      | cons c cs ih =>
        obtain ⟨hc, hrest⟩ := List.forall_mem_cons.mp h
        have hjoiner : Label.isJoiner c = false := by
          rw [Label.isJoiner, Bool.or_eq_false_iff, beq_eq_false_iff_ne, beq_eq_false_iff_ne]
          refine ⟨?_, ?_⟩ <;> rintro rfl <;> exact absurd hc (by decide)
        rw [Label.joinersFit, hjoiner, ih hrest]
        rfl
    exact hfits []
  rw [Label.isSound, normal?_ideographs h, hnone, hhead, hjoiners, decide_eq_true hlength]
  simp

include h in
/-- **A name of ideographs is written in Punycode**, as it is, if it is short enough. -/
theorem ascii?_ideographs (hfull : cs ≠ []) (hlength : cs.length ≤ Label.longestShown) :
    ascii? (Utf8.encode cs) = some (Label.sign ++ Punycode.encode cs) := by
  have hallowed := not_isForbidden_ideograph h
  obtain ⟨c, rest, rfl⟩ := List.exists_cons_of_ne_nil hfull
  have hbounds := isIdeograph_iff.mp (h c List.mem_cons_self)
  have hbasic : (c :: rest).all Punycode.isBasic = false := by
    rw [List.all_cons, Punycode.isBasic, decide_eq_false (by omega), Bool.false_and]
  have hsign : (c :: rest).take 4 ≠ Label.sign := by
    intro hsign
    have hc : c = 'x' := (List.cons.inj hsign).1
    rw [hc] at hbounds
    exact absurd hbounds.1 (by decide)
  have hlabel : Label.ofText? (c :: rest) =
      some ⟨c :: rest, Label.sign ++ Punycode.encode (c :: rest)⟩ := by
    unfold Label.ofText? Label.shown?
    rw [if_neg hsign]
    show (if _ then _ else _) = _
    rw [hbasic, if_neg Bool.false_ne_true, if_pos (isSound_ideographs h hlength),
      if_neg Bool.false_ne_true]
  have hany : ¬ (c :: rest).any isForbidden = true := by
    rw [Bool.not_eq_true, List.any_eq_false]
    exact fun d hd => Bool.eq_false_iff.mp (hallowed d hd).1
  have hsplit : Address.splitOn '.' (c :: rest) = [c :: rest] :=
    Address.splitOn_of_not_mem fun hmem => (hallowed _ hmem).2 rfl
  have hleft : (c :: rest).any Label.runsLeft = false := by
    rw [List.any_eq_false]
    exact fun d hd => Bool.eq_false_iff.mp (runsLeft_of_isIdeograph (h d hd))
  have hread : [c :: rest].mapM Label.ofText? =
      some [⟨c :: rest, Label.sign ++ Punycode.encode (c :: rest)⟩] := by
    rw [List.mapM_cons, hlabel]
    rfl
  have hlabels : labels? (c :: rest) =
      some [⟨c :: rest, Label.sign ++ Punycode.encode (c :: rest)⟩] := by
    unfold labels?
    rw [normal?_ideographs h]
    show (if _ then _ else _) = _
    rw [if_neg hany, hsplit, hread]
    show (if _ then _ else _) = _
    rw [List.any_cons, hleft, List.any_nil, Bool.or_false, if_neg fun h => Bool.false_ne_true h.1]
  unfold ascii?
  rw [Utf8.decode?_encode]
  show (labels? _).bind _ = _
  rw [hlabels]
  rfl

include h in
/-- Punycode of ideographs is one label. -/
theorem dot_not_mem_ideographs : '.' ∉ Label.sign ++ Punycode.encode cs := by
  intro hmem
  rcases List.mem_append.mp hmem with hmem | hmem
  · exact absurd hmem (by decide)
  rcases Punycode.mem_encode hmem with ⟨hc, -⟩ | hyphen | ⟨n, hn, hdigit⟩
  · exact (not_isForbidden_ideograph h _ hc).2 rfl
  · exact absurd hyphen (by decide)
  · exact (Label.isPlain_iff.mp (Label.isPlain_digit hn)).2.2.2 hdigit.symm

include h in
/-- **Punycode of ideographs that are apart is too long to be read**, if there are enough of them. -/
theorem isLong_of_apart (hnodup : cs.Nodup) (hlength : 704 ≤ cs.length)
    (hapart : ∀ c ∈ cs, ∀ d ∈ cs, c.toNat < d.toNat → c.toNat + 26 ≤ d.toNat) :
    Label.isLong (Label.sign ++ Punycode.encode cs) := by
  have hlow : ∀ c ∈ cs, 0x7F + 26 ≤ c.toNat := fun c hc => by
    have hbounds := isIdeograph_iff.mp (h c hc)
    omega
  have hnumbers := Punycode.length_numbers hnodup hlow hapart
  have hencode : (Punycode.numbers cs).length ≤ (Punycode.encode cs).length := by
    rw [Punycode.encode, List.length_append]
    exact Nat.le_add_left _ _
  have htake : (Label.sign ++ Punycode.encode cs).take 4 = Label.sign := rfl
  have hdrop : (Label.sign ++ Punycode.encode cs).drop 4 = Punycode.encode cs := rfl
  rw [Label.isLong, htake, hdrop, beq_self_eq_true, Bool.true_and, decide_eq_true_eq,
    Label.longestPunycode]
  omega

end Names

end Domain

end CloudApi.Url
