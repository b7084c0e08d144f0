import CloudApi.Uuid
import Mathlib.Data.List.SplitLengths

/-! The written form of identifiers: groups of digits with hyphens between them
(`text_eq_groups`). It is read back as the identifier that it was written for (`parse_text`). -/
namespace CloudApi.Uuid

open Text

/-- The digits of an identifier in groups of 8, 4, 4, 4 and 12. -/
def groups (u : Uuid) : List (List (Fin 16)) :=
  [8, 4, 4, 4, 12].splitLengths u.digits

def hex (digits : List (Fin 16)) : List Char :=
  digits.map fun d => Numeral.lowerHex d.val

/-- The digits of a group are put into as many places. -/
theorem fill_replicate (g more : List (Fin 16)) (places : List Char) :
    fill (List.replicate g.length 'x' ++ places) (g ++ more) = hex g ++ fill places more := by
  induction g with
  | nil => rfl
  | cons d g ih => exact congrArg (Numeral.lowerHex d.val :: ·) ih

theorem fill_groups (groups : List (List (Fin 16))) :
    fill (['-'].intercalate (groups.map fun g => List.replicate g.length 'x')) groups.flatten =
      ['-'].intercalate (groups.map hex) := by
  induction groups with
  | nil => rfl
  | cons g groups ih =>
    cases groups with
    | nil =>
      have hfill := fill_replicate g [] []
      simpa [fill] using hfill
    | cons next groups =>
      simp only [List.map_cons, List.flatten_cons, List.intercalate_cons_cons,
        List.append_assoc] at ih ⊢
      rw [fill_replicate]
      exact congrArg (_ ++ '-' :: ·) ih

/-- **The written form of an identifier**: its groups with hyphens between them. -/
theorem text_eq_groups (u : Uuid) :
    u.text = String.ofList (['-'].intercalate (u.groups.map hex)) := by
  have hflatten : u.groups.flatten = u.digits :=
    List.flatten_splitLengths _ _ u.length_digits.le
  have hlengths : u.groups.map List.length = [8, 4, 4, 4, 12] :=
    List.map_splitLengths_length _ _ u.length_digits.ge
  have hlayout : layout =
      ['-'].intercalate (u.groups.map fun g => List.replicate g.length 'x') := by
    have hplaces : (u.groups.map fun g => List.replicate g.length 'x') =
        (u.groups.map List.length).map (List.replicate · 'x') := by
      rw [List.map_map]
      rfl
    rw [hplaces, hlengths]
    rfl
  rw [text, chars, hlayout, ← fill_groups, hflatten]

/-! ### Reading the written form -/

theorem digit?_lowerHex (d : Fin 16) : digit? (Numeral.lowerHex d.val) = some d := by
  revert d
  decide

/-- A digit is as long as its place. -/
theorem byteLength_fill (places : List Char) (ds : List (Fin 16)) :
    byteLength (fill places ds) = byteLength places := by
  have hsize : ∀ d : Fin 16, (Numeral.lowerHex d.val).utf8Size = 'x'.utf8Size := by decide
  induction places, ds using fill.induct with
  | case1 ds => rfl
  | case2 places d ds ih => exact congrArg₂ (· + ·) (hsize d) ih
  | case3 c places ds hplace ih =>
    rw [fill]
    · exact congrArg (c.utf8Size + ·) ih
    · exact hplace

/-- What was filled in is scanned back, if there is a place for every digit. -/
theorem scan_fill {places : List Char} {ds : List (Fin 16)} (h : places.count 'x' = ds.length) :
    scan places (fill places ds) = some ds := by
  induction places, ds using fill.induct with
  | case1 ds =>
    obtain rfl := List.length_eq_zero_iff.mp h.symm
    rfl
  | case2 places d ds ih =>
    rw [List.count_cons_self, List.length_cons, Nat.add_right_cancel_iff] at h
    rw [fill, scan, digit?_lowerHex, ih h]
    rfl
  | case3 c places ds hplace ih =>
    have hother : c ≠ 'x' := by
      rintro rfl
      cases ds with
      | nil => simp at h
      | cons d ds => exact hplace d ds rfl rfl
    rw [List.count_cons_of_ne hother] at h
    rw [fill, scan, if_pos rfl, ih h]
    · exact fun heq => absurd heq hother
    · exact hplace

/-- **An identifier is read back from its written form.** -/
theorem parse_text (u : Uuid) : parse u.text = .ok u := by
  have hlength : byteLength u.chars = layout.length := byteLength_fill layout u.digits
  have hscan : scan layout u.chars = some u.digits :=
    scan_fill (u.length_digits.symm ▸ (by decide))
  unfold parse text parseChars hyphenated?
  rw [String.toList_ofList, if_pos hlength, Option.bind_some, hscan, Option.some_or]
  dsimp only
  rw [Option.bind_some, ofDigits?, dif_pos u.length_digits]

end CloudApi.Uuid
