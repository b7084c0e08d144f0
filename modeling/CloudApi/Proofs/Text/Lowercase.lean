import CloudApi.Proofs.Text.Utf8
import CloudApi.Text.Caseless

/-! What the small letters of a text can be.

The small letters of a character of ASCII are those that ASCII knows. Those of any other character
hold one that is not of ASCII, except for the Kelvin sign, whose small letter is k (`exists_far`): this
is decided of every run of capitals. So a text has a name of ASCII for its small letters exactly if it
is that name in any case of its letters, a Kelvin sign being read as the letter (`text_eq_iff`). -/
namespace CloudApi.Text

namespace Caseless

/-- The Kelvin sign is taken for the letter. -/
def letter (c : Char) : Char :=
  if c = '\u212a' then 'k' else c

/-- A text with the letter in place of the Kelvin sign. -/
def letters (s : String) : String :=
  String.ofList (s.toList.map letter)

/-- Texts that differ in nothing but the case of letters of ASCII. -/
def Same (s t : String) : Prop :=
  s.toList.map lower = t.toList.map lower

instance (s t : String) : Decidable (Same s t) :=
  inferInstanceAs (Decidable (_ = _))

/-- A name in small letters of ASCII. -/
def IsSmall (name : String) : Prop :=
  ∀ c ∈ name.toList, c.toNat < 0x80 ∧ lower c = c

instance (name : String) : Decidable (IsSmall name) :=
  inferInstanceAs (Decidable (∀ c ∈ name.toList, c.toNat < 0x80 ∧ lower c = c))

theorem IsSmall.map_lower {name : String} (h : IsSmall name) :
    name.toList.map lower = name.toList := by
  rw [List.map_congr_left fun c hc => (h c hc).2, List.map_id']

theorem lower_of_le {c : Char} (h : 0x80 ≤ c.toNat) : lower c = c := by
  refine if_neg fun hcapital => ?_
  have hlast : c.toNat ≤ 0x5A := hcapital.2
  omega

end Caseless

namespace Lowercase

open Caseless

/-! ### Runs of capitals -/

/-- A run whose small letters are characters beyond ASCII. -/
def Run.isFar (r : Run) : Bool :=
  0x80 ≤ r.small && (r.small + (r.last - r.first) < 0xD800 ||
    (0xE000 ≤ r.small && r.small + (r.last - r.first) < 0x110000))

set_option maxRecDepth 4000 in
/-- Two runs have small letters of ASCII: its own capitals, and the Kelvin sign. -/
theorem isFar_of_mem_runs : ∀ r ∈ runs, r.isFar ∨ r = ⟨0x41, 0x5A, 1, 0x61⟩ ∨
    r = ⟨0x212A, 0x212A, 1, 0x6B⟩ := by
  decide

theorem Run.le_of_isFar {r : Run} (h : r.isFar) {n : Nat} (hn : r.holds n) :
    0x80 ≤ (Char.ofNat (r.small + (n - r.first))).toNat := by
  simp only [isFar, holds, Bool.and_eq_true, Bool.or_eq_true, decide_eq_true_eq] at h hn
  have hvalid : (r.small + (n - r.first)).isValidChar := by
    rcases h.2 with hlow | hhigh
    · exact .inl (by omega)
    · exact .inr (by omega)
  rw [toNat_charOfNat hvalid]
  omega

/-! ### Characters -/

/-- The small letter of a character of ASCII is that of ASCII. -/
theorem small_of_lt {c : Char} (h : c.toNat < 0x80) : small c = [lower c] :=
  Utf8.of_ascii h (by decide +kernel)

theorem small_kelvin : small '\u212a' = ['k'] := by
  decide +kernel

/-- **The small letters of a character beyond ASCII are not all of ASCII**, but for the Kelvin
sign. -/
theorem exists_far {c : Char} (h : 0x80 ≤ c.toNat) (hkelvin : c ≠ '\u212a') :
    ∃ d ∈ small c, 0x80 ≤ d.toNat := by
  unfold small
  split
  · exact ⟨'\u0307', by decide, by decide⟩
  split
  · next r hr =>
    refine ⟨_, List.mem_singleton_self _, ?_⟩
    have hholds : r.holds c.toNat := by simpa using List.find?_some hr
    rcases isFar_of_mem_runs r (List.mem_of_find?_eq_some hr) with hfar | rfl | rfl
    · exact Run.le_of_isFar hfar hholds
    · simp only [Run.holds, Bool.and_eq_true, decide_eq_true_eq] at hholds
      omega
    · simp only [Run.holds, Bool.and_eq_true, decide_eq_true_eq] at hholds
      have hsign : c.toNat = ('\u212a' : Char).toNat := le_antisymm hholds.1.2 hholds.1.1
      exact absurd (Char.toNat_inj.mp hsign) hkelvin
  · exact ⟨c, List.mem_singleton_self c, h⟩

/-- Where a letter stands matters only for letters whose small letters are beyond ASCII. -/
theorem smallBetween_cases (before : List Char) (c : Char) (after : List Char) :
    smallBetween before c after = [lower (letter c)] ∨
      0x80 ≤ c.toNat ∧ c ≠ '\u212a' ∧ ∃ d ∈ smallBetween before c after, 0x80 ≤ d.toNat := by
  unfold smallBetween
  split
  · next hsigma =>
    subst hsigma
    refine .inr ⟨by decide, by decide, ?_⟩
    split
    · exact ⟨_, List.mem_singleton_self _, by decide⟩
    · exact ⟨_, List.mem_singleton_self _, by decide⟩
  · by_cases hkelvin : c = '\u212a'
    · left
      rw [hkelvin, small_kelvin]
      rfl
    by_cases hlow : c.toNat < 0x80
    · left
      rw [small_of_lt hlow, letter, if_neg hkelvin]
    · exact .inr ⟨Nat.not_lt.mp hlow, hkelvin, exists_far (Nat.not_lt.mp hlow) hkelvin⟩

/-! ### Texts -/

theorem textFrom_eq_iff {name : List Char} (hname : ∀ c ∈ name, c.toNat < 0x80)
    (before cs : List Char) :
    textFrom before cs = name ↔ cs.map (lower ∘ letter) = name := by
  induction cs generalizing before name with
  | nil => rfl
  | cons c cs ih =>
    rw [textFrom, List.map_cons]
    rcases smallBetween_cases before c cs with hone | ⟨hfar, hkelvin, d, hd, hdfar⟩
    · rw [hone, List.singleton_append]
      cases name with
      | nil => simp
      | cons e name =>
        rw [List.cons.injEq, List.cons.injEq, ih (List.forall_mem_cons.mp hname).2]
        rfl
    · refine iff_of_false ?_ ?_
      · rintro rfl
        have hlow := hname d (List.mem_append_left _ hd)
        omega
      · rintro rfl
        have hlow := hname _ List.mem_cons_self
        rw [Function.comp_apply, letter, if_neg hkelvin, lower_of_le hfar] at hlow
        omega

/-- **A text is a name in small letters** exactly if it differs from it in nothing but the case of
letters of ASCII and in Kelvin signs. -/
theorem text_eq_iff {s name : String} (hname : IsSmall name) :
    text s.toList = name.toList ↔ Same (letters s) name := by
  rw [text, textFrom_eq_iff fun c hc => (hname c hc).1, Same, letters, String.toList_ofList,
    hname.map_lower, List.map_map]

end Lowercase

/-- Where a name has no k, no Kelvin sign is read. -/
theorem Caseless.same_letters_iff {s name : String} (hname : IsSmall name)
    (hk : 'k' ∉ name.toList) : Same (letters s) name ↔ Same s name := by
  unfold Same letters
  rw [String.toList_ofList, hname.map_lower, List.map_map]
  by_cases hkelvin : '\u212a' ∈ s.toList
  · refine iff_of_false (fun h => hk ?_) (fun h => ?_)
    · rw [← h]
      exact List.mem_map.mpr ⟨_, hkelvin, by decide⟩
    · have hsign : '\u212a' ∈ name.toList := by
        rw [← h]
        exact List.mem_map.mpr ⟨_, hkelvin, by decide⟩
      exact absurd (hname _ hsign).1 (by decide)
  · have hsame : s.toList.map (lower ∘ letter) = s.toList.map lower := by
      refine List.map_congr_left fun c hc => ?_
      have hne : c ≠ '\u212a' := fun heq => hkelvin (heq ▸ hc)
      rw [Function.comp_apply, letter, if_neg hne]
    rw [hsame]

end CloudApi.Text
