import CloudApi.Url.Punycode
import Mathlib.Data.List.TakeWhile
import Mathlib.Tactic.IntervalCases
import Mathlib.Tactic.Ring

/-! Punycode is read back.

A number is read back from its digits (`number?_digits`). The decoder follows the encoder: while that
is at a code point, somewhere in the label, the decoder has the smaller characters and those it was
shown at this code point, and the delta is what lies between the place it put the last of them and
this one (`Follows`). So each number puts its character where it stands in the label
(`completes_digits`), and in the end the label is complete (`decode?_encode`). -/
namespace CloudApi.Url.Punycode

open Text

/-! ### Numbers -/

theorem digitValue?_digit {d : Nat} (h : d < 36) : digitValue? (digit d) = some d := by
  interval_cases d <;> rfl

theorem threshold_bounds (bias k : Nat) : 1 ≤ threshold bias k ∧ threshold bias k ≤ 26 := by
  unfold threshold
  split_ifs <;> omega

theorem number?_cons {bias k weight d : Nat} (hd : d < 36) (rest : List Char) :
    number? bias k weight (digit d :: rest) =
      if d < threshold bias k then some (d * weight, rest)
      else (number? bias (k + 36) (weight * (36 - threshold bias k)) rest).map
        fun (n, rest) => (d * weight + n, rest) := by
  rw [number?, digitValue?_digit hd]
  dsimp only [bind, Option.bind]
  split
  · rfl
  · cases number? bias (k + 36) (weight * (36 - threshold bias k)) rest <;> rfl

/-- **A number is read back from its digits**, whatever follows them. -/
theorem number?_digits {bias fuel k q : Nat} (h : q ≤ fuel) (weight : Nat) (rest : List Char) :
    number? bias k weight (digits bias fuel k q ++ rest) = some (q * weight, rest) := by
  have ht := threshold_bounds bias k
  induction fuel generalizing k q weight with
  | zero =>
    obtain rfl := Nat.le_zero.mp h
    rw [digits, List.singleton_append, number?_cons (by decide), if_pos (by omega)]
  | succ fuel ih =>
    rw [digits]
    split
    · next hlt => rw [List.singleton_append, number?_cons (by omega), if_pos hlt]
    · next hge =>
      have hmod := Nat.mod_lt (q - threshold bias k) (y := 36 - threshold bias k) (by omega)
      have hdiv := Nat.div_add_mod (q - threshold bias k) (36 - threshold bias k)
      have hle := Nat.div_le_self (q - threshold bias k) (36 - threshold bias k)
      rw [List.cons_append, number?_cons (by omega), if_neg (by omega),
        ih (by omega) _ (threshold_bounds bias (k + 36)), Option.map_some]
      refine congrArg some (Prod.ext ?_ rfl)
      dsimp only
      generalize (q - threshold bias k) / (36 - threshold bias k) = high at *
      generalize (q - threshold bias k) % (36 - threshold bias k) = low at *
      have hq : q = threshold bias k + low + (36 - threshold bias k) * high := by omega
      rw [hq]
      ring

/-- What digits are: letters of lower case and decimal digits. -/
theorem exists_of_mem_digits {bias fuel k q : Nat} (h : q ≤ fuel) {c : Char}
    (hc : c ∈ digits bias fuel k q) : ∃ d < 36, c = digit d := by
  have ht := threshold_bounds bias k
  induction fuel generalizing k q with
  | zero => exact ⟨q, by omega, List.mem_singleton.mp hc⟩
  | succ fuel ih =>
    rw [digits] at hc
    split at hc
    · exact ⟨q, by omega, List.mem_singleton.mp hc⟩
    · have hmod := Nat.mod_lt (q - threshold bias k) (y := 36 - threshold bias k) (by omega)
      have hle := Nat.div_le_self (q - threshold bias k) (36 - threshold bias k)
      rcases List.mem_cons.mp hc with rfl | hc
      · exact ⟨_, by omega, rfl⟩
      · exact ih (by omega) hc (threshold_bounds bias (k + 36))

theorem digits_ne_nil (bias fuel k q : Nat) : digits bias fuel k q ≠ [] := by
  cases fuel with
  | zero => exact List.cons_ne_nil _ _
  | succ fuel =>
    rw [digits]
    split <;> exact List.cons_ne_nil _ _

/-! ### What the decoder has

While the encoder is at a code point, between what it has seen of the label and what it has not, the
decoder has the characters below the code point and those at it that were seen. -/

/-- The characters placed up to a point of a label. -/
def placed (code : Nat) (seen unseen : List Char) : List Char :=
  seen.filter (·.toNat ≤ code) ++ unseen.filter (·.toNat < code)

/-- The encoder follows a decoder that placed its last character at `position - 1` with the code point
`last`: its delta is what lies between there and the point of the label it is at. -/
structure Follows (basic code : Nat) (seen unseen : List Char) (e : Encoder) (last position : Nat) :
    Prop where
  count : e.placed = (placed code seen unseen).length
  least : basic ≤ e.placed
  behind : last ≤ code
  delta : position + e.delta =
    (code - last) * (e.placed + 1) + (seen.filter (·.toNat ≤ code)).length

/-- The decoder completes a label from a text. -/
def Completes (basic : Nat) (e : Encoder) (last position : Nat) (label text whole : List Char) : Prop :=
  ∀ fuel, text.length ≤ fuel →
    insertAll (e.placed = basic) e.bias last position label fuel text = some whole

section Step
variable {basic code last position : Nat} {seen unseen : List Char} {e : Encoder} {c : Char}

theorem placed_concat (c : Char) : placed code (seen ++ [c]) unseen =
    seen.filter (·.toNat ≤ code) ++
      (if c.toNat ≤ code then [c] else []) ++ unseen.filter (·.toNat < code) := by
  unfold placed
  split
  · next h => simp [List.filter_append, h]
  · next h => simp [List.filter_append, h]

theorem placed_cons (c : Char) : placed code seen (c :: unseen) =
    seen.filter (·.toNat ≤ code) ++
      ((if c.toNat < code then [c] else []) ++ unseen.filter (·.toNat < code)) := by
  unfold placed
  split
  · next h => simp [h]
  · next h => simp [h]

theorem insertAll_of_number? {first : Bool} {bias delta fuel : Nat} {label cs rest : List Char}
    (hnumber : number? bias 36 1 cs = some (delta, rest))
    (hvalid : (code + (position + delta) / (label.length + 1)).isValidChar) :
    insertAll first bias code position label (fuel + 1) cs =
      insertAll false (adapt delta (label.length + 1) first)
        (code + (position + delta) / (label.length + 1))
        ((position + delta) % (label.length + 1) + 1)
        (label.take ((position + delta) % (label.length + 1)) ++
          Char.ofNat (code + (position + delta) / (label.length + 1)) ::
            label.drop ((position + delta) % (label.length + 1))) fuel rest := by
  cases cs with
  | nil => cases hnumber
  | cons c cs =>
    rw [insertAll, hnumber]
    · exact if_pos hvalid
    · exact List.cons_ne_nil c cs

/-- **A character at the code point is put where it stands in the label.** -/
theorem completes_digits (hc : c.toNat = code) (h : Follows basic code seen (c :: unseen) e last position)
    {text whole : List Char}
    (hnext : Completes basic (e.see basic code c) code ((seen.filter (·.toNat ≤ code)).length + 1)
      (placed code (seen ++ [c]) unseen) text whole) :
    Completes basic e last position (placed code seen (c :: unseen))
      (digits e.bias e.delta 36 e.delta ++ text) whole := by
  intro fuel hfuel
  have hpos := List.length_pos_iff.mpr (digits_ne_nil e.bias e.delta 36 e.delta)
  rw [List.length_append] at hfuel
  obtain ⟨fuel, rfl⟩ : ∃ less, fuel = less + 1 := ⟨fuel - 1, by omega⟩
  have hcount := h.count
  have hplace := h.delta
  have hbehind := h.behind
  generalize hspot : (seen.filter (·.toNat ≤ code)).length = spot at hplace hnext
  have hlt : spot < e.placed + 1 := by
    rw [hcount, placed, List.length_append]
    omega
  have hcode : last + (position + e.delta) / (e.placed + 1) = code := by
    rw [hplace, Nat.mul_comm, Nat.mul_add_div (by omega), Nat.div_eq_of_lt hlt]
    omega
  have hmod : (position + e.delta) % (e.placed + 1) = spot := by
    rw [hplace, Nat.mul_comm, Nat.mul_add_mod, Nat.mod_eq_of_lt hlt]
  have hvalid : code.isValidChar := hc ▸ c.valid
  have hnumber : number? e.bias 36 1 (digits e.bias e.delta 36 e.delta ++ text) =
      some (e.delta * 1, text) := number?_digits (le_refl e.delta) 1 text
  rw [Nat.mul_one] at hnumber
  rw [insertAll_of_number? hnumber (by rwa [← hcount, hcode]), ← hcount, hcode, hmod]
  have hsee : e.see basic code c = ⟨e.written ++ digits e.bias e.delta 36 e.delta, 0,
      adapt e.delta (e.placed + 1) (e.placed = basic), e.placed + 1⟩ := by
    rw [Encoder.see, if_neg (by omega), if_pos hc]
  have hlabel : (placed code seen (c :: unseen)).take spot ++
      Char.ofNat code :: (placed code seen (c :: unseen)).drop spot =
        placed code (seen ++ [c]) unseen := by
    rw [placed_cons, placed_concat, if_neg (by omega), if_pos (by omega), ← hspot,
      List.take_left, List.nil_append, List.drop_left, ← hc, Char.ofNat_toNat, List.append_assoc,
      List.singleton_append]
  have hnot : decide (e.placed + 1 = basic) = false := by
    have hleast := h.least
    exact decide_eq_false (by omega)
  have hfinish := hnext fuel (by omega)
  rw [hsee] at hfinish
  rw [hlabel, ← hfinish, hnot]

/-- One character of the label: what is written for it, if anything is, completes the label. -/
theorem see_completes (h : Follows basic code seen (c :: unseen) e last position) :
    ∃ out last' position', (e.see basic code c).written = e.written ++ out ∧
      Follows basic code (seen ++ [c]) unseen (e.see basic code c) last' position' ∧
      ∀ text whole,
        Completes basic (e.see basic code c) last' position' (placed code (seen ++ [c]) unseen)
          text whole →
        Completes basic e last position (placed code seen (c :: unseen)) (out ++ text) whole := by
  have hcount := h.count
  rcases lt_trichotomy c.toNat code with hlt | heq | hgt
  · -- a smaller one is there already
    have hsee : e.see basic code c = { e with delta := e.delta + 1 } := by
      rw [Encoder.see, if_pos hlt]
    have hsame : placed code (seen ++ [c]) unseen = placed code seen (c :: unseen) := by
      rw [placed_concat, placed_cons, if_pos hlt.le, if_pos hlt, List.append_assoc]
    refine ⟨[], last, position, by rw [hsee, List.append_nil], ?_, fun text whole hnext => ?_⟩
    · refine ⟨by rw [hsee, hsame]; exact hcount, by rw [hsee]; exact h.least, h.behind, ?_⟩
      have hdelta := h.delta
      simp only [hsee, List.filter_append, List.filter_cons, decide_eq_true hlt.le, if_true,
        List.filter_nil, List.length_append, List.length_singleton]
      omega
    · rw [hsame, hsee] at hnext
      exact hnext
  · have hsee : e.see basic code c = ⟨e.written ++ digits e.bias e.delta 36 e.delta, 0,
        adapt e.delta (e.placed + 1) (e.placed = basic), e.placed + 1⟩ := by
      rw [Encoder.see, if_neg (by omega), if_pos heq]
    refine ⟨digits e.bias e.delta 36 e.delta, code, (seen.filter (·.toNat ≤ code)).length + 1,
      by rw [hsee], ?_, fun text whole hnext => completes_digits heq h hnext⟩
    refine ⟨?_, ?_, le_refl code, ?_⟩
    · rw [hsee, placed_concat, if_pos heq.le]
      rw [placed_cons, if_neg (by omega)] at hcount
      simp only [List.length_append, List.length_singleton, List.length_nil] at hcount ⊢
      omega
    · have hleast := h.least
      rw [hsee]
      exact hleast.trans (Nat.le_succ _)
    · simp [hsee, List.filter_append, heq]
  · -- a greater one has to wait
    have hsee : e.see basic code c = e := by
      rw [Encoder.see, if_neg (by omega), if_neg (by omega)]
    have hsame : placed code (seen ++ [c]) unseen = placed code seen (c :: unseen) := by
      rw [placed_concat, placed_cons, if_neg (by omega), if_neg (by omega), List.append_assoc]
    refine ⟨[], last, position, by rw [hsee, List.append_nil], ?_, fun text whole hnext => ?_⟩
    · refine ⟨by rw [hsee, hsame]; exact hcount, by rw [hsee]; exact h.least, h.behind, ?_⟩
      have hnot : ¬ c.toNat ≤ code := by omega
      have hdelta := h.delta
      simpa [hsee, List.filter_append, hnot] using hdelta
    · rw [hsame, hsee] at hnext
      exact hnext

/-- All occurrences of a code point. -/
theorem foldl_see_completes (h : Follows basic code seen unseen e last position) :
    ∃ out last' position', (unseen.foldl (Encoder.see basic code) e).written = e.written ++ out ∧
      Follows basic code (seen ++ unseen) [] (unseen.foldl (Encoder.see basic code) e) last' position' ∧
      ∀ text whole,
        Completes basic (unseen.foldl (Encoder.see basic code) e) last' position'
          (placed code (seen ++ unseen) []) text whole →
        Completes basic e last position (placed code seen unseen) (out ++ text) whole := by
  induction unseen generalizing seen e last position with
  | nil =>
    rw [List.append_nil]
    exact ⟨[], last, position, (List.append_nil _).symm, h, fun text whole hnext => hnext⟩
  | cons c unseen ih =>
    obtain ⟨out, last₁, position₁, hwritten, hfollows, hcompletes⟩ := see_completes h
    obtain ⟨more, last₂, position₂, hwritten', hfollows', hcompletes'⟩ := ih hfollows
    rw [List.append_assoc, List.singleton_append] at hfollows' hcompletes'
    refine ⟨out ++ more, last₂, position₂, ?_, hfollows', fun text whole hnext => ?_⟩
    · rw [List.foldl_cons, hwritten', hwritten, List.append_assoc]
    · rw [List.append_assoc]
      exact hcompletes _ whole (hcompletes' text whole hnext)

end Step

/-! ### Code points -/

theorem mem_insertCode {n m : Nat} {sorted : List Nat} :
    m ∈ insertCode n sorted ↔ m = n ∨ m ∈ sorted := by
  induction sorted with
  | nil => simp [insertCode]
  | cons k sorted ih =>
    rw [insertCode]
    split
    · exact List.mem_cons
    split
    · next heq => simp [heq]
    · simp only [List.mem_cons, ih]
      tauto

theorem pairwise_insertCode {n : Nat} {sorted : List Nat} (h : sorted.Pairwise (· < ·)) :
    (insertCode n sorted).Pairwise (· < ·) := by
  induction sorted with
  | nil => exact List.pairwise_singleton _ _
  | cons k sorted ih =>
    obtain ⟨hk, hsorted⟩ := List.pairwise_cons.mp h
    rw [insertCode]
    split
    · next hlt =>
      refine List.pairwise_cons.mpr ⟨fun m hm => ?_, h⟩
      rcases List.mem_cons.mp hm with rfl | hm
      · exact hlt
      · exact hlt.trans (hk m hm)
    split
    · exact h
    · refine List.pairwise_cons.mpr ⟨fun m hm => ?_, ih hsorted⟩
      rcases mem_insertCode.mp hm with rfl | hm
      · omega
      · exact hk m hm

theorem codes_spec (label : List Char) : (codes label).Pairwise (· < ·) ∧
    ∀ n, n ∈ codes label ↔ ∃ c ∈ label, 0x80 ≤ c.toNat ∧ c.toNat = n := by
  have hfold (cs : List Char) (sorted : List Nat) (h : sorted.Pairwise (· < ·)) :
      (cs.foldl (fun sorted c => insertCode c.toNat sorted) sorted).Pairwise (· < ·) ∧
        ∀ n, n ∈ cs.foldl (fun sorted c => insertCode c.toNat sorted) sorted ↔
          n ∈ sorted ∨ ∃ c ∈ cs, c.toNat = n := by
    induction cs generalizing sorted with
    | nil => simp [h]
    | cons c cs ih =>
      obtain ⟨hpairwise, hmem⟩ := ih _ (pairwise_insertCode h)
      refine ⟨hpairwise, fun n => ?_⟩
      rw [List.foldl_cons, hmem, mem_insertCode]
      simp only [List.mem_cons, exists_eq_or_imp, eq_comm (a := n)]
      tauto
  obtain ⟨hpairwise, hmem⟩ := hfold (label.filter (!isBasic ·)) [] List.Pairwise.nil
  refine ⟨hpairwise, fun n => ?_⟩
  rw [codes, hmem]
  simp [isBasic, and_assoc]

section Place
variable {label : List Char} {basic : Nat}

theorem filter_lt_congr {n m : Nat} (hle : n ≤ m)
    (h : ∀ c ∈ label, n ≤ c.toNat → m ≤ c.toNat) :
    label.filter (·.toNat < m) = label.filter (·.toNat < n) := by
  refine List.filter_congr fun c hc => ?_
  have hgap := h c hc
  exact decide_eq_decide.mpr (by omega)

/-- **One code point after another completes the label.** -/
theorem place_completes {codes : List Nat} {next last position : Nat} {e : Encoder}
    (hsorted : codes.Pairwise (· < ·)) (hleast : ∀ n ∈ codes, next ≤ n)
    (hall : ∀ c ∈ label, next ≤ c.toNat → c.toNat ∈ codes)
    (h : Follows basic next [] label e last position) :
    ∃ out, (Encoder.place label basic next codes e).written = e.written ++ out ∧
      Completes basic e last position (placed next [] label) out label := by
  induction codes generalizing next last position e with
  | nil =>
    have hplaced : placed next [] label = label :=
      List.filter_eq_self.mpr fun c hc => decide_eq_true <| by
        by_contra hge
        exact List.not_mem_nil (hall c hc (Nat.le_of_not_lt hge))
    refine ⟨[], (List.append_nil _).symm, fun fuel _ => ?_⟩
    rw [hplaced]
    cases fuel <;> rfl
  | cons code codes ih =>
    obtain ⟨hcode, hsorted⟩ := List.pairwise_cons.mp hsorted
    have hle := hleast code List.mem_cons_self
    have hgap : ∀ c ∈ label, next ≤ c.toNat → code ≤ c.toNat := by
      intro c hc hge
      rcases List.mem_cons.mp (hall c hc hge) with heq | hmem
      · exact heq.ge
      · exact (hcode _ hmem).le
    have hplaced : placed code [] label = placed next [] label := filter_lt_congr hle hgap
    -- the steps to the code point run through all places of those between
    have hskip : Follows basic code [] label
        { e with delta := e.delta + (code - next) * (e.placed + 1) } last position := by
      refine ⟨hplaced ▸ h.count, h.least, h.behind.trans hle, ?_⟩
      have hdelta := h.delta
      have hsum : code - last = (next - last) + (code - next) := by
        have hbehind := h.behind
        omega
      dsimp only at hdelta ⊢
      rw [hsum, Nat.add_mul]
      simp only [List.filter_nil, List.length_nil] at hdelta ⊢
      omega
    obtain ⟨out, last₁, position₁, hwritten, hfollows, hcompletes⟩ := foldl_see_completes hskip
    generalize hfold : label.foldl (Encoder.see basic code)
      { e with delta := e.delta + (code - next) * (e.placed + 1) } = seen at *
    rw [List.nil_append] at hfollows hcompletes
    have hlabel : placed (code + 1) [] label = placed code label [] := by
      simp only [placed, List.filter_nil, List.nil_append, List.append_nil, Nat.lt_succ_iff]
    have hturn : Follows basic (code + 1) [] label { seen with delta := seen.delta + 1 }
        last₁ position₁ := by
      refine ⟨hlabel ▸ hfollows.count, hfollows.least, hfollows.behind.trans (Nat.le_succ _), ?_⟩
      have hdelta := hfollows.delta
      have hcount := hfollows.count
      have hbehind := hfollows.behind
      simp only [placed, List.filter_nil, List.append_nil] at hcount
      rw [← hcount] at hdelta
      rw [Nat.sub_add_comm hbehind, Nat.add_mul]
      simp only [List.filter_nil, List.length_nil]
      omega
    obtain ⟨more, hmore, hfinish⟩ := ih hsorted (fun n hn => hcode n hn)
      (fun c hc hge => (List.mem_cons.mp (hall c hc (by omega))).resolve_left (by omega)) hturn
    refine ⟨out ++ more, ?_, ?_⟩
    · rw [Encoder.place, hfold, hmore, hwritten, List.append_assoc]
    · rw [← hplaced]
      exact hcompletes more label (hlabel ▸ hfinish)

theorem written_see {code : Nat} {e : Encoder} {c d : Char}
    (hd : d ∈ (e.see basic code c).written) : d ∈ e.written ∨ ∃ n < 36, d = digit n := by
  unfold Encoder.see at hd
  split at hd
  · exact .inl hd
  split at hd
  · exact (List.mem_append.mp hd).imp_right (exists_of_mem_digits (le_refl _))
  · exact .inl hd

/-- Behind the characters of ASCII are digits. -/
theorem written_place {codes : List Nat} {next : Nat} {e : Encoder} {d : Char}
    (hd : d ∈ (Encoder.place label basic next codes e).written) :
    d ∈ e.written ∨ ∃ n < 36, d = digit n := by
  have hfold {code : Nat} (cs : List Char) {e : Encoder}
      (hd : d ∈ (cs.foldl (Encoder.see basic code) e).written) :
      d ∈ e.written ∨ ∃ n < 36, d = digit n := by
    induction cs generalizing e with
    | nil => exact .inl hd
    | cons c cs ih => exact (ih hd).elim written_see .inr
  induction codes generalizing next e with
  | nil => exact .inl hd
  | cons code codes ih => exact (ih hd).elim (hfold label) .inr

end Place

/-! ### Labels -/

/-- What is written for the characters beyond ASCII. -/
def numbers (label : List Char) : List Char :=
  (Encoder.place label (label.filter isBasic).length 0x80 (codes label)
    ⟨[], 0, 72, (label.filter isBasic).length⟩).written

theorem digit_of_mem_numbers {label : List Char} {c : Char} (hc : c ∈ numbers label) :
    ∃ n < 36, c = digit n :=
  (written_place hc).resolve_left List.not_mem_nil

theorem digit_ne_hyphen {n : Nat} (h : n < 36) : digit n ≠ '-' := by
  interval_cases n <;> decide

theorem insertAll_numbers (label : List Char) :
    insertAll true 72 0x80 0 (label.filter isBasic) (numbers label).length (numbers label) =
      some label := by
  obtain ⟨hsorted, hmem⟩ := codes_spec label
  have hplaced : placed 0x80 [] label = label.filter isBasic := rfl
  have hstart : Follows (label.filter isBasic).length 0x80 [] label
      ⟨[], 0, 72, (label.filter isBasic).length⟩ 0x80 0 := by
    refine ⟨by rw [hplaced], le_refl _, le_refl _, ?_⟩
    simp
  obtain ⟨out, hwritten, hcompletes⟩ := place_completes hsorted
    (fun n hn => by obtain ⟨c, -, hge, rfl⟩ := (hmem n).mp hn; exact hge)
    (fun c hc hge => (hmem _).mpr ⟨c, hc, hge, rfl⟩) hstart
  have hout : numbers label = out := hwritten
  have hlabel := hcompletes out.length (le_refl _)
  rw [hplaced, decide_eq_true rfl] at hlabel
  rw [hout]
  exact hlabel

theorem hyphen_not_mem_numbers (label : List Char) : '-' ∉ numbers label := fun hmem =>
  let ⟨_, hn, heq⟩ := digit_of_mem_numbers hmem
  digit_ne_hyphen hn heq.symm

/-- What is behind the last character that fails a test. -/
theorem takeWhile_reverse_append {p : Char → Bool} {front back : List Char} {c : Char}
    (hback : ∀ d ∈ back, p d) (hc : p c = false) :
    ((front ++ c :: back).reverse.takeWhile p).reverse = back := by
  rw [List.reverse_append, List.reverse_cons, List.append_assoc, List.takeWhile_append_of_pos
    fun d hd => hback d (List.mem_reverse.mp hd), List.singleton_append,
    List.takeWhile_cons_of_neg (by rw [hc]; exact Bool.false_ne_true), List.append_nil,
    List.reverse_reverse]

theorem split_of_not_mem {cs : List Char} (h : '-' ∉ cs) : split cs = ([], cs) := by
  have hall : ∀ c ∈ cs.reverse, (c != '-') = true := by
    intro c hc
    rw [bne_iff_ne]
    rintro rfl
    exact h (List.mem_reverse.mp hc)
  have hzero : cs.length - cs.length - 1 = 0 := by omega
  unfold split
  dsimp only
  rw [List.takeWhile_eq_self_iff.mpr hall, List.reverse_reverse, hzero]
  rfl

theorem split_append {basic extra : List Char} (hbasic : basic ≠ []) (hextra : '-' ∉ extra) :
    split (basic ++ '-' :: extra) = (basic, extra) := by
  have hbehind : ((basic ++ '-' :: extra).reverse.takeWhile (· != '-')).reverse = extra := by
    refine takeWhile_reverse_append (fun d hd => ?_) rfl
    rw [bne_iff_ne]
    rintro rfl
    exact hextra hd
  have hlength : (basic ++ '-' :: extra).length - extra.length - 1 = basic.length := by
    rw [List.length_append, List.length_cons]
    omega
  unfold split
  dsimp only
  rw [hbehind, hlength, List.take_left, List.isEmpty_eq_false_iff.mpr hbasic]
  rfl

/-- **A label is read back from its Punycode.** -/
theorem decode?_encode (label : List Char) : decode? (encode label) = some label := by
  have hall : (label.filter isBasic).all isBasic :=
    List.all_eq_true.mpr fun c hc => (List.mem_filter.mp hc).2
  have hencode : encode label = (if (label.filter isBasic).isEmpty then []
      else label.filter isBasic ++ ['-']) ++ numbers label := rfl
  have hlabel := insertAll_numbers label
  have hsplit : split (encode label) = (label.filter isBasic, numbers label) := by
    rw [hencode]
    cases hbasic : label.filter isBasic with
    | nil => exact split_of_not_mem (hyphen_not_mem_numbers label)
    | cons c cs =>
      rw [List.isEmpty_cons, if_neg Bool.false_ne_true, List.append_assoc, List.singleton_append]
      exact split_append (List.cons_ne_nil c cs) (hyphen_not_mem_numbers label)
  rw [decode?, hsplit]
  exact (if_pos hall).trans hlabel

/-- What Punycode is written in: the characters of ASCII in the label, hyphens and digits. -/
theorem mem_encode {label : List Char} {c : Char} (hc : c ∈ encode label) :
    (c ∈ label ∧ isBasic c) ∨ c = '-' ∨ ∃ n < 36, c = digit n := by
  rcases List.mem_append.mp hc with hc | hc
  · split at hc
    · exact absurd hc List.not_mem_nil
    · rcases List.mem_append.mp hc with hc | hc
      · exact .inl (List.mem_filter.mp hc)
      · exact .inr (.inl (List.mem_singleton.mp hc))
  · exact .inr (.inr (digit_of_mem_numbers hc))

end CloudApi.Url.Punycode
