import CloudApi.Proofs.Url.Domain
import CloudApi.Proofs.Url.Percent
import CloudApi.Proofs.Url.Reference
import CloudApi.Url.Authority

/-! Authorities are read back.

What reading leaves of the authority of a URL of a special scheme is settled
(`exists_settled_of_afterSlashes`): user and password are encoded, the port is not the one of the
scheme, and the host is an address or a name that is its own ASCII form. None of its characters
delimits anything, so that user, host and port are found again in the text
(`Authority.Settled.readUserinfo_chars`, `Authority.Settled.readHostAndPort_chars`), and the authority
with them (`Authority.Settled.afterSlashes_chars`). Only Punycode that is too long is not read
again. -/
namespace CloudApi.Url

open Text

/-! ### Hosts -/

/-- A host of a special scheme as reading leaves it. -/
inductive Host.Settled : Host → Prop
  | name {cs : List Char} (full : cs ≠ []) (plain : ∀ c ∈ cs, c = '.' ∨ Domain.Label.isPlain c)
      (ascii : Domain.ascii? (Utf8.encode cs) =
        if (Address.splitOn '.' cs).any Domain.Label.isLong then none else some cs)
      (letters : Address.endsInNumber cs = false) : Settled (.name cs)
  | ipv4 (a : BitVec 32) : Settled (.ipv4 a)
  | ipv6 {pieces : List Nat} (h : Address.IsPieces pieces) : Settled (.ipv6 pieces)

/-- Whether a host has Punycode that is too long to be read. -/
def Host.isLong : Host → Bool
  | .name cs => (Address.splitOn '.' cs).any Domain.Label.isLong
  | _ => false

/-- What a host is written in. -/
def isHostChar (c : Char) : Bool :=
  c == '.' || c == ':' || c == '[' || c == ']' || Domain.Label.isPlain c

theorem settled_readDomain {cs : List Char} {host : Host} (h : readDomain cs = .ok host) :
    host.Settled := by
  unfold readDomain at h
  split at h
  · cases h
  · cases h
  · next name hfull hascii =>
    split at h
    · split at h
      · cases h
        exact .ipv4 _
      · cases h
    · next hletters =>
      cases h
      obtain ⟨hplain, hagain⟩ := Domain.ascii?_of_ascii? hascii
      exact .name (fun hnil => hfull (hnil ▸ rfl)) hplain hagain (Bool.eq_false_iff.mpr hletters)

theorem settled_readHost {cs : List Char} {host : Host} (h : readHost true cs = .ok host) :
    host.Settled := by
  unfold readHost at h
  split at h
  · unfold readIpv6 at h
    split at h
    · split at h
      · next pieces hpieces =>
        cases h
        exact .ipv6 (Address.isPieces_of_ipv6? hpieces)
      · cases h
    · cases h
  · exact settled_readDomain h

theorem of_isHostChar {c : Char} (h : isHostChar c) :
    0x20 < c.toNat ∧ c ≠ '@' ∧ isSlash true c = false ∧ isTail c = false := by
  have hlow : c.toNat < 0x80 := by
    simp only [isHostChar, Bool.or_eq_true, beq_iff_eq] at h
    rcases h with (((rfl | rfl) | rfl) | rfl) | hplain
    · decide
    · decide
    · decide
    · decide
    · exact of_decide_eq_true (Domain.Label.isPlain_iff.mp hplain).1
  revert h
  exact Utf8.of_ascii hlow (by decide)

theorem isPlain_of_isDigit {c : Char} (h : Numeral.isDigit c) : Domain.Label.isPlain c := by
  have hlow : c.toNat < 0x80 := Nat.lt_of_le_of_lt (Numeral.isDigit_iff.mp h).2 (by decide)
  revert h
  exact Utf8.of_ascii hlow (by decide)

theorem isPlain_lowerHex {d : Nat} (h : d < 16) : Domain.Label.isPlain (Numeral.lowerHex d) := by
  have hall : ∀ d < 16, Domain.Label.isPlain (Numeral.lowerHex d) := by decide
  exact hall d h

/-- A plain character or a point delimits nothing in an authority. -/
theorem ne_of_dotted {c : Char} (h : c = '.' ∨ Domain.Label.isPlain c) :
    c ≠ ':' ∧ c ≠ '[' ∧ c ≠ ']' ∧ c ≠ '%' := by
  refine ⟨?_, ?_, ?_, ?_⟩ <;> rintro rfl <;> exact absurd h (by decide)

theorem splitHost_append {cs : List Char} (h : ∀ c ∈ cs, c ≠ ':' ∧ c ≠ '[' ∧ c ≠ ']')
    (rest : List Char) : splitHost false (cs ++ rest) =
      (cs ++ (splitHost false rest).1, (splitHost false rest).2) := by
  induction cs with
  | nil => rfl
  | cons c cs ih =>
    obtain ⟨⟨hcolon, hopen, hclose⟩, hrest⟩ := List.forall_mem_cons.mp h
    rw [List.cons_append, splitHost, if_neg fun h => hcolon h.1, if_neg hopen, if_neg hclose, ih hrest]
    rfl

theorem splitHost_bracketed {cs : List Char} (h : ']' ∉ cs) (rest : List Char) :
    splitHost true (cs ++ ']' :: rest) =
      (cs ++ ']' :: (splitHost false rest).1, (splitHost false rest).2) := by
  induction cs with
  | nil => rfl
  | cons c cs ih =>
    have hopen : (if c = '[' then true else if c = ']' then false else true) = true := by
      rw [if_neg (List.ne_of_not_mem_cons h).symm, ite_self]
    rw [List.cons_append, splitHost, if_neg fun h => absurd h.2 (by decide), hopen,
      ih (List.not_mem_of_not_mem_cons h)]
    rfl

theorem splitHost_rest {rest : List Char} (h : rest.head?.all (· == ':')) :
    splitHost false rest = ([], rest) := by
  cases rest with
  | nil => rfl
  | cons c rest =>
    have hc : c = ':' := beq_iff_eq.mp h
    rw [splitHost, if_pos ⟨hc, rfl⟩]

namespace Host.Settled
variable {host : Host}

/-- **A host is read back from its text**, unless there is Punycode in it that is too long. -/
theorem readHost_chars (h : host.Settled) :
    readHost true host.chars = if host.isLong then .error .domain else .ok host := by
  cases h with
  | @name cs full plain ascii letters =>
    obtain ⟨c, rest, rfl⟩ := List.exists_cons_of_ne_nil full
    have hhead : (c :: rest).head? ≠ some '[' := fun h =>
      (ne_of_dotted (plain c List.mem_cons_self)).2.1 (Option.some.inj h)
    have hpercent : '%' ∉ c :: rest := fun hmem => (ne_of_dotted (plain '%' hmem)).2.2.2 rfl
    show readHost true (c :: rest) = _
    rw [readHost, if_neg hhead, if_pos rfl, readDomain, Percent.decode_of_not_mem hpercent, ascii,
      Host.isLong]
    by_cases hlong : (Address.splitOn '.' (c :: rest)).any Domain.Label.isLong
    · rw [if_pos hlong, if_pos hlong]
    · rw [if_neg hlong, if_neg hlong]
      dsimp only
      rw [letters]
      rfl
  | ipv4 a =>
    have hdigit (c : Char) (hc : c ∈ Address.ipv4Text a) : c = '.' ∨ Domain.Label.isPlain c :=
      (Address.isDigit_of_mem_ipv4Text a hc).imp_right isPlain_of_isDigit
    have hparts : ∀ part ∈ (Address.bytes a).map Numeral.decimal,
        part.take 4 ≠ Domain.Label.sign ∧ ∀ c ∈ part, Domain.Label.isPlain c := by
      intro part hpart
      obtain ⟨n, -, rfl⟩ := List.mem_map.mp hpart
      refine ⟨fun hsign => ?_, fun c hc => isPlain_of_isDigit (Numeral.isDigit_of_mem_decimal hc)⟩
      have hmem : 'x' ∈ (Numeral.decimal n).take 4 := by
        rw [hsign]
        exact List.mem_cons_self
      exact absurd (Numeral.isDigit_of_mem_decimal (List.mem_of_mem_take hmem)) (by decide)
    have hascii : Domain.ascii? (Utf8.encode (Address.ipv4Text a)) = some (Address.ipv4Text a) :=
      Domain.ascii?_joinWith (List.cons_ne_nil _ _) hparts
    have hpercent : '%' ∉ Address.ipv4Text a := fun hmem => (ne_of_dotted (hdigit '%' hmem)).2.2.2 rfl
    have hhead : (Address.ipv4Text a).head? ≠ some '[' := fun h =>
      (ne_of_dotted (hdigit '[' (List.mem_of_mem_head? h))).2.1 rfl
    obtain ⟨c, rest, hcons⟩ := List.exists_cons_of_ne_nil (Address.ipv4Text_ne_nil a)
    show readHost true (Address.ipv4Text a) = _
    rw [readHost, if_neg hhead, if_pos rfl, readDomain, Percent.decode_of_not_mem hpercent, hascii]
    have hnumber := Address.endsInNumber_ipv4Text a
    have hback := Address.ipv4?_ipv4Text a
    rw [hcons] at hnumber hback ⊢
    dsimp only
    rw [if_pos hnumber, hback]
    rfl
  | @ipv6 pieces hpieces =>
    have hlast : ('[' :: (Address.ipv6Text pieces ++ [']'])).getLast? = some ']' := by
      rw [← List.cons_append, List.getLast?_concat]
    have hinner : (('[' :: (Address.ipv6Text pieces ++ [']'])).drop 1).dropLast =
        Address.ipv6Text pieces := List.dropLast_concat
    show readHost true ('[' :: (Address.ipv6Text pieces ++ [']'])) = _
    rw [readHost, List.head?_cons, if_pos rfl, readIpv6, if_pos hlast, hinner,
      Address.ipv6?_ipv6Text hpieces]
    rfl

theorem isHostChar_of_mem (h : host.Settled) {c : Char} (hc : c ∈ host.chars) : isHostChar c := by
  have hdotted (h : c = '.' ∨ Domain.Label.isPlain c) : isHostChar c := by
    rcases h with rfl | hplain
    · rfl
    · rw [isHostChar, hplain, Bool.or_true]
  cases h with
  | name _ plain => exact hdotted (plain c hc)
  | ipv4 a =>
    exact hdotted ((Address.isDigit_of_mem_ipv4Text a hc).imp_right isPlain_of_isDigit)
  | ipv6 =>
    rcases List.mem_cons.mp hc with rfl | hc
    · rfl
    rcases List.mem_append.mp hc with hc | hc
    · rcases Address.mem_ipv6Text hc with rfl | ⟨d, hd, rfl⟩
      · rfl
      · exact hdotted (.inr (isPlain_lowerHex hd))
    · rw [List.mem_singleton.mp hc]
      rfl

theorem chars_ne_nil (h : host.Settled) : host.chars ≠ [] := by
  cases h with
  | name full => exact full
  | ipv4 a => exact Address.ipv4Text_ne_nil a
  | ipv6 => exact List.cons_ne_nil _ _

/-- A host ends at the colon behind it. -/
theorem splitHost_chars (h : host.Settled) {rest : List Char} (hrest : rest.head?.all (· == ':')) :
    splitHost false (host.chars ++ rest) = (host.chars, rest) := by
  have hdotted {cs : List Char} (hcs : ∀ c ∈ cs, c = '.' ∨ Domain.Label.isPlain c) :
      splitHost false (cs ++ rest) = (cs, rest) := by
    rw [splitHost_append fun c hc => by
      obtain ⟨hcolon, hopen, hclose, -⟩ := ne_of_dotted (hcs c hc)
      exact ⟨hcolon, hopen, hclose⟩, splitHost_rest hrest, List.append_nil]
  cases h with
  | name _ plain => exact hdotted plain
  | ipv4 a =>
    exact hdotted fun c hc => (Address.isDigit_of_mem_ipv4Text a hc).imp_right isPlain_of_isDigit
  | @ipv6 pieces hpieces =>
    have hclose : ']' ∉ Address.ipv6Text pieces := by
      intro hmem
      rcases Address.mem_ipv6Text hmem with h | ⟨d, hd, h⟩
      · exact absurd h (by decide)
      · have hplain := isPlain_lowerHex hd
        rw [← h] at hplain
        exact absurd hplain (by decide)
    have hchars : (Host.ipv6 pieces).chars ++ rest =
        '[' :: (Address.ipv6Text pieces ++ ']' :: rest) := by
      simp [Host.chars]
    rw [hchars, splitHost, if_neg fun h => absurd h.1 (by decide), if_pos rfl,
      splitHost_bracketed hclose, splitHost_rest hrest]
    rfl

end Host.Settled

/-! ### User and password -/

/-- What an authority is written in, whatever it is the authority of. -/
def isAuthorityChar (c : Char) : Bool :=
  0x20 < c.toNat && !isSlash true c && !isTail c

theorem isAuthorityChar_iff {c : Char} : isAuthorityChar c ↔
    0x20 < c.toNat ∧ isSlash true c = false ∧ isTail c = false := by
  simp [isAuthorityChar, and_assoc]

theorem isEncoded_userinfo (cs : List Char) :
    Percent.IsEncoded Percent.userinfo (Percent.encode Percent.userinfo cs) :=
  Percent.isEncoded_encode (by decide) (by decide) cs

/-- What is encoded as userinfo delimits nothing in an authority. -/
theorem of_isEncoded_userinfo {cs : List Char} (h : Percent.IsEncoded Percent.userinfo cs) :
    ∀ c ∈ cs, isAuthorityChar c ∧ c ≠ ':' ∧ c ≠ '@' := by
  intro c hc
  obtain ⟨hlow, -, hspared⟩ := h c hc
  have hne {d : Char} (hd : Percent.userinfo d = true) : c ≠ d := by
    rintro rfl
    exact absurd (hspared.symm.trans hd) Bool.false_ne_true
  have hblank : c.toNat ≠ 0x20 := fun heq => hne (d := ' ') (by decide) (Char.toNat_inj.mp heq)
  refine ⟨isAuthorityChar_iff.mpr ⟨by omega, ?_, ?_⟩, hne (by decide), hne (by decide)⟩
  · simp [isSlash, hne (d := '/') (by decide), hne (d := '\\') (by decide)]
  · simp [isTail, hne (d := '?') (by decide), hne (d := '#') (by decide)]

theorem Authority.mem_userinfo {a : Authority} {c : Char} (hc : c ∈ a.userinfo) :
    c ∈ a.user ∨ c ∈ a.password ∨ c = ':' ∨ c = '@' := by
  unfold Authority.userinfo at hc
  grind

theorem splitLast_of_not_mem {mark : Char} {cs : List Char} (h : mark ∉ cs) :
    splitLast mark cs = none := by
  rw [splitLast, List.contains_eq_mem, decide_eq_false h, if_neg Bool.false_ne_true]

theorem splitLast_append {mark : Char} (front : List Char) {back : List Char} (h : mark ∉ back) :
    splitLast mark (front ++ mark :: back) = some (front, back) := by
  have hbehind : ((front ++ mark :: back).reverse.takeWhile (· != mark)).reverse = back := by
    refine Punycode.takeWhile_reverse_append (fun d hd => bne_iff_ne.mpr ?_) (bne_self_eq_false mark)
    rintro rfl
    exact h hd
  have hlength : (front ++ mark :: back).length - back.length - 1 = front.length := by
    rw [List.length_append, List.length_cons]
    omega
  have hmem : (front ++ mark :: back).contains mark := by simp
  unfold splitLast
  dsimp only
  rw [if_pos hmem, hbehind, hlength, List.take_left]

theorem readUserinfo_append {user password : List Char} (huser : ':' ∉ user)
    (hencoded : Percent.IsEncoded Percent.userinfo user)
    (hpassword : Percent.IsEncoded Percent.userinfo password) :
    readUserinfo user = (user, []) ∧ readUserinfo (user ++ ':' :: password) = (user, password) := by
  have hall : ∀ c ∈ user, (c != ':') = true := fun c hc => bne_iff_ne.mpr fun h => huser (h ▸ hc)
  have huser := Percent.encode_of_isEncoded hencoded
  have hpassword := Percent.encode_of_isEncoded hpassword
  refine ⟨?_, ?_⟩
  · unfold readUserinfo
    rw [List.span_eq_takeWhile_dropWhile, List.takeWhile_eq_self_iff.mpr hall,
      List.dropWhile_eq_nil_iff.mpr hall]
    exact Prod.ext huser rfl
  · unfold readUserinfo
    rw [List.span_eq_takeWhile_dropWhile, List.takeWhile_append_of_pos hall,
      List.dropWhile_append_of_pos hall, List.takeWhile_cons_of_neg (by decide), List.append_nil,
      List.dropWhile_cons_of_neg (by decide)]
    exact Prod.ext huser hpassword

/-! ### Ports -/

/-- A port with its colon. -/
def portText : Option (Fin 65536) → List Char
  | some p => ':' :: Numeral.decimal p.val
  | none => []

theorem mem_portText {port : Option (Fin 65536)} {c : Char} (hc : c ∈ portText port) :
    c = ':' ∨ Numeral.isDigit c := by
  cases port with
  | none => cases hc
  | some p => exact (List.mem_cons.mp hc).imp_right Numeral.isDigit_of_mem_decimal

theorem Authority.chars_eq (a : Authority) : a.chars = a.userinfo ++ (a.host.chars ++ portText a.port) := by
  rw [Authority.chars, List.append_assoc]
  cases a.port <;> rfl

theorem readPort_decimal {scheme : List Char} {p : Fin 65536} (h : schemePort? scheme ≠ some p) :
    readPort scheme (Numeral.decimal p.val) = .ok (some p, []) := by
  have hall : ∀ c ∈ Numeral.decimal p.val, Numeral.isDigit c := fun c => Numeral.isDigit_of_mem_decimal
  unfold readPort
  rw [List.span_eq_takeWhile_dropWhile, List.takeWhile_eq_self_iff.mpr hall,
    List.dropWhile_eq_nil_iff.mpr hall]
  dsimp only
  rw [List.isEmpty_nil, Bool.true_or, Bool.not_true, if_neg Bool.false_ne_true,
    List.isEmpty_eq_false_iff.mpr (Numeral.decimal_ne_nil p.val), if_neg Bool.false_ne_true,
    Numeral.value?_decimal]
  dsimp only
  rw [dif_pos p.isLt, if_neg h]

/-- A port that was read is not the one of the scheme. -/
theorem ne_of_readPort {scheme cs left : List Char} {p : Fin 65536}
    (h : readPort scheme cs = .ok (some p, left)) : schemePort? scheme ≠ some p := by
  unfold readPort at h
  rcases cs.span Numeral.isDigit with ⟨run, rest⟩
  dsimp only at h
  split at h
  · cases h
  split at h
  · cases h
  split at h
  · split at h
    · split at h
      · cases h
      · next hne =>
        cases h
        exact hne
    · cases h
  · cases h

/-! ### Authorities -/

/-- An authority of a special scheme as reading leaves it. -/
structure Authority.Settled (scheme : List Char) (a : Authority) : Prop where
  user : Percent.IsEncoded Percent.userinfo a.user
  password : Percent.IsEncoded Percent.userinfo a.password
  host : a.host.Settled
  port : ∀ p, a.port = some p → schemePort? scheme ≠ some p

section Read
variable {scheme : List Char} (hspecial : isSpecial scheme)

include hspecial in
theorem of_readHostAndPort {cs left : List Char} {host : Host} {port : Option (Fin 65536)}
    (h : readHostAndPort scheme cs = .ok (host, port, left)) :
    host.Settled ∧ ∀ p, port = some p → schemePort? scheme ≠ some p := by
  unfold readHostAndPort at h
  rcases hsplit : splitHost false cs with ⟨hostText, rest⟩
  rw [hsplit] at h
  dsimp only at h
  rw [hspecial] at h
  split at h
  · cases h
  cases hhost : readHost true hostText with
  | error e =>
    rw [hhost] at h
    cases h
  | ok read =>
    rw [hhost] at h
    dsimp only [bind, Except.bind] at h
    have hsettled := settled_readHost hhost
    split at h
    · next behind =>
      split at h
      · cases h
      cases hport : readPort scheme behind with
      | error e =>
        rw [hport] at h
        cases h
      | ok found =>
        rw [hport] at h
        cases h
        obtain ⟨port, left⟩ := found
        refine ⟨hsettled, fun p hp => ?_⟩
        obtain rfl : port = some p := hp
        exact ne_of_readPort hport
    · cases h
      exact ⟨hsettled, fun p hp => by cases hp⟩

include hspecial in
/-- What is read behind the slashes has a settled authority. -/
theorem exists_settled_of_afterSlashes {cs : List Char} {u : Url}
    (h : afterSlashes scheme cs = .ok u) : ∃ a path, Authority.Settled scheme a ∧
      u = withRootPath ⟨scheme, some a, .segments [], none, none⟩ path := by
  unfold afterSlashes at h
  rcases hspan : cs.span fun c => !(isSlash (isSpecial scheme) c || isTail c) with ⟨text, rest⟩
  simp only [hspan] at h
  rcases hsplit : (splitLast '@' text).getD ([], text) with ⟨credentials, hostText⟩
  simp only [hsplit] at h
  split at h
  · cases h
  cases hread : readHostAndPort scheme hostText with
  | error e =>
    rw [hread] at h
    cases h
  | ok found =>
    obtain ⟨host, port, left⟩ := found
    rw [hread] at h
    change (if _ then _ else _) = _ at h
    split at h
    · cases h
    · cases h
      obtain ⟨hhost, hport⟩ := of_readHostAndPort hspecial hread
      exact ⟨_, left ++ rest,
        ⟨isEncoded_userinfo _, isEncoded_userinfo _, hhost, hport⟩, rfl⟩

end Read

/-- What is read behind the slashes: host and port behind the last sign between them and the user, and
then the path. -/
theorem afterSlashes_append {scheme text credentials hostText : List Char}
    (hspecial : isSpecial scheme) (htext : ∀ c ∈ text, isSlash true c = false ∧ isTail c = false)
    (hat : text ≠ ['@'])
    (hsplit : (splitLast '@' text).getD ([], text) = (credentials, hostText)) (rest : List Char) :
    afterSlashes scheme (text ++ '/' :: rest) =
      (readHostAndPort scheme hostText).bind fun (host, port, left) =>
        let (user, password) := readUserinfo credentials
        if host = .name [] ∧ !(user.isEmpty && password.isEmpty) then .error .emptyHost
        else .ok (withRootPath ⟨scheme, some ⟨user, password, host, port⟩, .segments [], none, none⟩
          (left ++ '/' :: rest)) := by
  have hall : ∀ c ∈ text, (!(isSlash true c || isTail c)) = true := fun c hc => by
    rw [(htext c hc).1, (htext c hc).2]
    rfl
  have hspan : (text ++ '/' :: rest).span (fun c => !(isSlash (isSpecial scheme) c || isTail c)) =
      (text, '/' :: rest) := by
    rw [hspecial, List.span_eq_takeWhile_dropWhile, List.takeWhile_append_of_pos hall,
      List.dropWhile_append_of_pos hall, List.takeWhile_cons_of_neg (by decide), List.append_nil,
      List.dropWhile_cons_of_neg (by decide)]
  unfold afterSlashes
  simp only [hspan, hsplit]
  rw [if_neg fun h => hat h.1]
  rfl

namespace Authority.Settled
variable {scheme : List Char} {a : Authority} (h : a.Settled scheme)

include h in
/-- Host and port are written in what delimits nothing in an authority. -/
theorem isHostChar_of_mem {c : Char} (hc : c ∈ a.host.chars ++ portText a.port) : isHostChar c := by
  rcases List.mem_append.mp hc with hc | hc
  · exact h.host.isHostChar_of_mem hc
  · rcases mem_portText hc with rfl | hdigit
    · rfl
    · rw [isHostChar, isPlain_of_isDigit hdigit, Bool.or_true]

include h in
theorem isAuthorityChar_of_mem {c : Char} (hc : c ∈ a.chars) : isAuthorityChar c := by
  rw [Authority.chars_eq] at hc
  rcases List.mem_append.mp hc with hc | hc
  · rcases mem_userinfo hc with hc | hc | rfl | rfl
    · exact (of_isEncoded_userinfo h.user c hc).1
    · exact (of_isEncoded_userinfo h.password c hc).1
    · rfl
    · rfl
  · obtain ⟨hlow, -, hslash, htail⟩ := of_isHostChar (h.isHostChar_of_mem hc)
    exact isAuthorityChar_iff.mpr ⟨hlow, hslash, htail⟩

include h in
theorem chars_ne_nil : a.chars ≠ [] := by
  rw [Authority.chars_eq]
  exact List.append_ne_nil_of_right_ne_nil _
    (List.append_ne_nil_of_left_ne_nil h.host.chars_ne_nil _)

include h in
theorem at_not_mem : '@' ∉ a.host.chars ++ portText a.port :=
  fun hmem => (of_isHostChar (h.isHostChar_of_mem hmem)).2.1 rfl

include h in
/-- **User and password are read back.** -/
theorem readUserinfo_chars : ∃ credentials,
    (splitLast '@' a.chars).getD ([], a.chars) = (credentials, a.host.chars ++ portText a.port) ∧
      readUserinfo credentials = (a.user, a.password) := by
  have hsplit (front : List Char) : splitLast '@' (front ++ '@' :: (a.host.chars ++ portText a.port)) =
      some (front, a.host.chars ++ portText a.port) := splitLast_append front h.at_not_mem
  have huser : ':' ∉ a.user := fun hmem => (of_isEncoded_userinfo h.user _ hmem).2.1 rfl
  obtain ⟨halone, hboth⟩ := readUserinfo_append huser h.user h.password
  rw [Authority.chars_eq, Authority.userinfo]
  split
  · next hnone =>
    obtain ⟨hnouser, hnopassword⟩ := hnone
    rw [List.isEmpty_iff] at hnouser hnopassword
    refine ⟨[], ?_, ?_⟩
    · rw [List.nil_append, splitLast_of_not_mem h.at_not_mem, Option.getD_none]
    · rw [hnouser, hnopassword]
      rfl
  split
  · next hnopassword =>
    refine ⟨a.user, ?_, ?_⟩
    · rw [List.append_assoc, List.singleton_append, hsplit, Option.getD_some]
    · rw [halone, List.isEmpty_iff.mp hnopassword]
  · refine ⟨a.user ++ ':' :: a.password, ?_, hboth⟩
    have hassoc : a.user ++ ':' :: (a.password ++ ['@']) ++ (a.host.chars ++ portText a.port) =
        (a.user ++ ':' :: a.password) ++ '@' :: (a.host.chars ++ portText a.port) := by
      simp
    rw [hassoc, hsplit, Option.getD_some]

include h in
/-- **Host and port are read back**, unless there is Punycode in the host that is too long. -/
theorem readHostAndPort_chars (hspecial : isSpecial scheme) :
    readHostAndPort scheme (a.host.chars ++ portText a.port) =
      if a.host.isLong then .error .domain else .ok (a.host, a.port, []) := by
  have hsplit : splitHost false (a.host.chars ++ portText a.port) = (a.host.chars, portText a.port) := by
    refine h.host.splitHost_chars ?_
    cases a.port <;> rfl
  unfold readHostAndPort
  rw [hsplit, hspecial]
  dsimp only
  rw [List.isEmpty_eq_false_iff.mpr h.host.chars_ne_nil, Bool.and_false, if_neg Bool.false_ne_true,
    h.host.readHost_chars]
  by_cases hlong : a.host.isLong
  · rw [if_pos hlong, if_pos hlong]
    rfl
  rw [if_neg hlong, if_neg hlong]
  have hname : a.host ≠ .name [] := fun hname => h.host.chars_ne_nil (hname ▸ rfl)
  cases hport : a.port with
  | none => rfl
  | some p =>
    change (if a.host = .name [] then _ else _) = _
    rw [if_neg hname, readPort_decimal (h.port p hport)]
    rfl

include h in
/-- **An authority is read back from its text**, unless there is Punycode in its host that is too
long. -/
theorem afterSlashes_chars (hspecial : isSpecial scheme) (rest : List Char) :
    afterSlashes scheme (a.chars ++ '/' :: rest) =
      if a.host.isLong then .error .domain
      else .ok (withRootPath ⟨scheme, some a, .segments [], none, none⟩ ('/' :: rest)) := by
  have hplain : ∀ c ∈ a.chars, isSlash true c = false ∧ isTail c = false := fun c hc =>
    (isAuthorityChar_iff.mp (h.isAuthorityChar_of_mem hc)).2
  obtain ⟨credentials, hsplit, hread⟩ := h.readUserinfo_chars
  have hnotat : a.chars ≠ ['@'] := by
    intro hat
    obtain ⟨c, cs, hcons⟩ := List.exists_cons_of_ne_nil h.host.chars_ne_nil
    have hmem : c ∈ a.host.chars ++ portText a.port :=
      List.mem_append_left _ (hcons ▸ List.mem_cons_self)
    have hc : c ∈ a.chars := by
      rw [Authority.chars_eq]
      exact List.mem_append_right _ hmem
    rw [hat, List.mem_singleton] at hc
    exact h.at_not_mem (hc ▸ hmem)
  have hname : a.host ≠ .name [] := fun hname => h.host.chars_ne_nil (hname ▸ rfl)
  rw [afterSlashes_append hspecial hplain hnotat hsplit, h.readHostAndPort_chars hspecial]
  by_cases hlong : a.host.isLong
  · rw [if_pos hlong, if_pos hlong]
    rfl
  · rw [if_neg hlong, if_neg hlong]
    dsimp only [Except.bind]
    rw [hread]
    exact if_neg fun h => hname h.1

end Authority.Settled

/-- What stands alone between the slashes is a host. -/
theorem afterSlashes_host {scheme cs : List Char} (hspecial : isSpecial scheme) (hfull : cs ≠ [])
    (hcs : ∀ c ∈ cs, isSlash true c = false ∧ isTail c = false)
    (hmarks : ∀ c ∈ cs, c ≠ '@' ∧ c ≠ ':' ∧ c ≠ '[' ∧ c ≠ ']') {host : Host}
    (hhost : readHost true cs = .ok host) (rest : List Char) :
    afterSlashes scheme (cs ++ '/' :: rest) =
      .ok (withRootPath ⟨scheme, some ⟨[], [], host, none⟩, .segments [], none, none⟩
        ('/' :: rest)) := by
  have hnone : '@' ∉ cs := fun hmem => (hmarks '@' hmem).1 rfl
  have hsplit : (splitLast '@' cs).getD ([], cs) = ([], cs) := by
    rw [splitLast_of_not_mem hnone, Option.getD_none]
  have hall : splitHost false cs = (cs, []) := by
    have happend := splitHost_append (fun c hc => (hmarks c hc).2) []
    rwa [List.append_nil, splitHost, List.append_nil] at happend
  have hread : readHostAndPort scheme cs = .ok (host, none, []) := by
    unfold readHostAndPort
    rw [hall, hspecial]
    dsimp only
    rw [List.isEmpty_eq_false_iff.mpr hfull, Bool.and_false, if_neg Bool.false_ne_true, hhost]
    rfl
  rw [afterSlashes_append hspecial hcs (fun h => hnone (h ▸ List.mem_cons_self)) hsplit, hread]
  exact if_neg fun h => absurd h.2 (by decide)

end CloudApi.Url
