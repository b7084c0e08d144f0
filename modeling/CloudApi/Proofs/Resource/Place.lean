import CloudApi.Proofs.Endpoint
import CloudApi.Proofs.Url.Ideograph
import CloudApi.Proofs.Url.ReadBack

/-! Where resources are.

A client on the web has a canonical base URL with a slash at the end of its path. Below it each
resource has a place of its own: the version, the family, the project, the region and the segments
of the resource, one behind the other, if all of them are words. The base URL is read back from its
text, so that the clients of both are the same, unless it has a host with Punycode that is too long
to be read (`ClientSetup.places`). -/
namespace CloudApi

open Text

namespace Endpoint

/-! ### Words -/

/-- A text of letters, digits, hyphens and underscores with something in it. -/
def IsWord (s : String) : Prop :=
  s ≠ "" ∧ ∀ c ∈ s.toList, Url.isWord c

instance : DecidablePred IsWord := fun s =>
  inferInstanceAs (Decidable (s ≠ "" ∧ ∀ c ∈ s.toList, Url.isWord c))

section Words
variable {s : String} (h : IsWord s)

include h in
theorem IsWord.isSegment : Url.IsSegment s.toList :=
  Url.isSegment_of_word h.2 fun hnil => h.1 (String.toList_eq_nil_iff.mp hnil)

include h in
theorem IsWord.encode_eq : Url.Percent.encode Url.Percent.path s.toList = s.toList :=
  Url.encode_of_written (Url.written_of_word h.2)

include h in
theorem IsWord.not_isSlash : ∀ c ∈ s.toList, Url.isSlash true c = false :=
  Url.not_isSlash_of_word h.2

end Words

theorem isWord_decimalText (n : Nat) : IsWord (Numeral.decimalText n) := by
  have htext : (Numeral.decimalText n).toList = Numeral.decimal n := String.toList_ofList
  refine ⟨fun h => Numeral.decimal_ne_nil n ?_, ?_⟩
  · rw [← htext, h]
    rfl
  · rw [htext]
    exact isWord_decimal n

theorem decimalText_injective {n m : Nat} (h : Numeral.decimalText n = Numeral.decimalText m) :
    n = m := by
  have hvalue := congrArg Numeral.value? (String.ofList_injective h)
  rw [Numeral.value?_decimal, Numeral.value?_decimal] at hvalue
  exact Option.some.inj hvalue

theorem name_injective {family other : Family} (h : family.name = other.name) : family = other := by
  revert h
  cases family <;> cases other <;> decide

theorem segmentsText_cons (first : String) (rest : List String) :
    (segmentsText (first :: rest)).toList = Url.slashedText first.toList (rest.map String.toList) := by
  have htext (segments : List String) :
      (segmentsText segments).toList = ['/'].intercalate (segments.map String.toList) :=
    String.toList_intercalate
  rw [htext]
  induction rest generalizing first with
  | nil => exact List.intercalate_singleton.trans (List.append_nil _).symm
  | cons second rest ih =>
    rw [List.map_cons, List.map_cons, List.intercalate_cons_cons, Url.slashedText_cons, ← ih,
      List.append_assoc]
    rfl

/-! ### Places -/

/-- What is put behind the path of the base for a resource. -/
def words (e : Endpoint) (segments : List String) : List String :=
  [e.version, e.family.name, Numeral.decimalText e.project.toNat,
    Numeral.decimalText e.region.toNat] ++ segments

/-- The place of a resource: its words behind the last slash of the base. -/
def place (e : Endpoint) (base : Url) (segments : List String) : Url :=
  base.below ((e.words segments).map String.toList)

section Words
variable {e : Endpoint} {segments : List String} (hversion : IsWord e.version)
  (h : ∀ s ∈ segments, IsWord s)

theorem reference_eq (e : Endpoint) (segments : List String) : (e.reference segments).toList =
    Url.slashedText e.version.toList ((e.words segments).tail.map String.toList) :=
  segmentsText_cons e.version (e.words segments).tail

include hversion h in
theorem isWord_of_mem_words : ∀ s ∈ e.words segments, IsWord s := by
  intro s hs
  rcases List.mem_append.mp hs with hs | hs
  · simp only [List.mem_cons, List.not_mem_nil, or_false] at hs
    rcases hs with rfl | rfl | rfl | rfl
    · exact hversion
    · exact ⟨by cases e.family <;> decide, isWord_name e.family⟩
    · exact isWord_decimalText _
    · exact isWord_decimalText _
  · exact h s hs

include hversion h in
/-- The words are told apart in the reference. -/
theorem splitPath_reference : Url.splitPath true (e.reference segments).toList =
    (e.words segments).map String.toList := by
  rw [reference_eq]
  refine Url.splitPath_slashedText fun part hpart => ?_
  obtain ⟨s, hs, rfl⟩ : ∃ s ∈ e.words segments, s.toList = part := List.mem_map.mp hpart
  exact (isWord_of_mem_words hversion h s hs).not_isSlash

theorem eq_of_words {other : Endpoint} {others : List String}
    (h : e.words segments = other.words others) : e = other ∧ segments = others := by
  obtain ⟨version, family, project, region⟩ := e
  obtain ⟨version', family', project', region'⟩ := other
  simp only [words, List.cons_append, List.nil_append, List.cons.injEq] at h
  obtain ⟨rfl, hfamily, hproject, hregion, rfl⟩ := h
  rw [name_injective hfamily, UInt64.toNat_inj.mp (decimalText_injective hproject),
    UInt64.toNat_inj.mp (decimalText_injective hregion)]
  exact ⟨rfl, rfl⟩

end Words

section Place
variable {e other : Endpoint} {base : Url} {init : List (List Char)} {segments others : List String}
  (hbase : base.path = .segments (init ++ [[]]))

include hbase in
/-- **A resource is at its place** if its version and its segments are words. -/
theorem resource_of_isWord (hother : Url.isFile base.scheme = false) (hversion : IsWord e.version)
    (h : ∀ s ∈ segments, IsWord s) : e.resource base segments = .ok (e.place base segments) := by
  have hwords := isWord_of_mem_words hversion h
  have hsegments : ∀ part ∈ (e.words segments).map String.toList, Url.IsSegment part := by
    intro part hpart
    obtain ⟨s, hs, rfl⟩ := List.mem_map.mp hpart
    exact (hwords s hs).isSegment
  have hencode : ((e.words segments).map String.toList).map
      (Url.Percent.encode Url.Percent.path) = (e.words segments).map String.toList := by
    rw [List.map_map]
    exact List.map_congr_left fun s hs => (hwords s hs).encode_eq
  have hjoin := Url.join_segments hother hbase hsegments (Url.lt_head_word hversion.2)
    (Url.not_mem_word hversion.2 rfl) (by simp) (e.reference_eq segments)
  rw [resource, resolve, hjoin, place]
  exact congrArg (fun list => Except.ok (base.below list)) hencode

include hbase in
theorem chars_path_place :
    (e.place base segments).path.chars = base.path.chars ++ (e.reference segments).toList := by
  rw [reference_eq]
  exact Url.chars_below hbase _ _

include hbase in
theorem chars_place {a : Url.Authority} (ha : base.authority = some a) :
    (e.place base segments).chars = base.scheme ++ ':' :: '/' :: '/' ::
      (a.chars ++ (base.path.chars ++ (e.reference segments).toList)) := by
  have hopening : (e.place base segments).opening = '/' :: '/' :: a.chars := by
    unfold Url.opening
    rw [show (e.place base segments).authority = some a from ha]
  have htail : Url.tail '?' (e.place base segments).query = [] ∧
      Url.tail '#' (e.place base segments).fragment = [] := ⟨rfl, rfl⟩
  rw [Url.chars, hopening, chars_path_place hbase, htail.1, htail.2, List.append_nil, List.append_nil]
  rfl

include hbase in
/-- **Different resources are at different places**, whatever their versions. -/
theorem eq_of_text_place {a : Url.Authority} (ha : base.authority = some a)
    (hversion : IsWord e.version) (h : ∀ s ∈ segments, IsWord s) (hversion' : IsWord other.version)
    (h' : ∀ s ∈ others, IsWord s)
    (hsame : (e.place base segments).text = (other.place base others).text) :
    e = other ∧ segments = others := by
  have hchars := String.ofList_injective hsame
  rw [chars_place hbase ha, chars_place hbase ha] at hchars
  have hreference : (e.reference segments).toList = (other.reference others).toList := by
    simpa using hchars
  have hwords : (e.words segments).map String.toList = (other.words others).map String.toList := by
    rw [← splitPath_reference hversion h, hreference, splitPath_reference hversion' h']
  exact eq_of_words (List.map_injective_iff.mpr (fun s t => String.toList_inj.mp) hwords)

end Place

/-- Only the path tells a resource from the base: behind that of the base stands the reference. -/
structure IsBelow (e : Endpoint) (base : Url) (segments : List String) (u : Url) : Prop where
  scheme : u.scheme = base.scheme
  authority : u.authority = base.authority
  path : u.path.chars = base.path.chars ++ (e.reference segments).toList
  query : u.query = none
  fragment : u.fragment = none

end Endpoint

namespace ClientSetup

/-- The base of a client is the URL that its text names, with a slash at the end of the path. -/
theorem exists_parse_of_ofText {text : String} {setup : ClientSetup} (h : ofText text = .ok setup) :
    ∃ api, Url.parse text = .ok api ∧
      setup = ⟨api.withFinalSlash, .standard, none, standardUserAgent⟩ := by
  unfold ofText at h
  split at h
  · next api hparse => exact ⟨api, hparse, (Except.ok.inj h).symm⟩
  · cases h

theorem ofText_of_parse {text : String} {api : Url} (h : Url.parse text = .ok api) :
    ofText text = .ok ⟨api.withFinalSlash, .standard, none, standardUserAgent⟩ := by
  rw [ofText, h]

/-- A client is made of the text of its base again, unless there is Punycode in this that is too long
to be read. -/
theorem ofText_text {api : Url} (h : api.Canonical) : ofText api.withFinalSlash.text =
    if api.withFinalSlash.isLong then .error (.config ("Invalid API base URL `" ++
      api.withFinalSlash.text ++ "`: " ++ Url.ParseError.domain.message))
    else .ok ⟨api.withFinalSlash, .standard, none, standardUserAgent⟩ := by
  obtain ⟨hbase, -, hchars⟩ := h.withFinalSlash
  rw [ofText, hbase.parse_text]
  by_cases hlong : api.withFinalSlash.isLong
  · rw [if_pos hlong, if_pos hlong]
  · rw [if_neg hlong, if_neg hlong]
    dsimp only
    rw [Url.withFinalSlash_of_slashed hchars]

/-- **The resources of a client on the web have places of their own below its base URL.** The base is
the URL that was given, with a slash at the end of its path; a client made of the text of the base is
the same, unless this text holds Punycode that is too long to be read. Whenever the version and the
segments are words, there is a URL for the resource, which is below the base and belongs to no other
resource. It makes no difference whether the URL that was given had the slash. -/
theorem places {text : String} {setup : ClientSetup} (h : ofText text = .ok setup)
    (hweb : Client.isWeb setup.base) :
    (∃ api, Url.parse text = .ok api ∧ setup.base = { api with path := setup.base.path } ∧
      setup.base.path.chars = Url.slashed api.path.chars ∧
      ∀ another other, Url.parse another = .ok other → other = { api with path := other.path } →
        Url.slashed other.path.chars = Url.slashed api.path.chars →
        ofText another = .ok setup) ∧
    (ofText setup.base.text =
      if setup.base.isLong then .error (.config
        ("Invalid API base URL `" ++ setup.base.text ++ "`: " ++ Url.ParseError.domain.message))
      else .ok setup) ∧
    (∀ (e : Endpoint) (segments : List String), Endpoint.IsWord e.version →
      (∀ s ∈ segments, Endpoint.IsWord s) →
      (∃ u, e.collection setup.base = .ok u ∧ e.IsBelow setup.base [] u) ∧
        ∃ u, e.resource setup.base segments = .ok u ∧ e.IsBelow setup.base segments u) ∧
    ∀ (e other : Endpoint) (segments others : List String) (u v : Url),
      Endpoint.IsWord e.version → Endpoint.IsWord other.version →
      (∀ s ∈ segments, Endpoint.IsWord s) → (∀ s ∈ others, Endpoint.IsWord s) →
      e.resource setup.base segments = .ok u → other.resource setup.base others = .ok v →
      u.text = v.text → e = other ∧ segments = others := by
  obtain ⟨api, hparse, rfl⟩ := exists_parse_of_ofText h
  obtain ⟨hspecial, hother⟩ := Client.special_of_isWeb hweb
  dsimp only at hspecial hother ⊢
  rw [Url.scheme_withFinalSlash] at hspecial hother
  have hapi := Url.canonical_parse hparse hspecial hother
  obtain ⟨hbase, ⟨init, hinit⟩, hchars⟩ := hapi.withFinalSlash
  obtain ⟨a, ha, -⟩ := hbase.authority
  have hplace {e : Endpoint} {segments : List String} (hversion : Endpoint.IsWord e.version)
      (hsegments : ∀ s ∈ segments, Endpoint.IsWord s) :
      e.resource api.withFinalSlash segments = .ok (e.place api.withFinalSlash segments) :=
    Endpoint.resource_of_isWord hinit hbase.other hversion hsegments
  have hbelow (e : Endpoint) (segments : List String) :
      e.IsBelow api.withFinalSlash segments (e.place api.withFinalSlash segments) :=
    ⟨rfl, rfl, Endpoint.chars_path_place hinit, rfl, rfl⟩
  refine ⟨⟨api, hparse, api.withFinalSlash_eq, hchars, fun another other hparse' hsame hpath => ?_⟩,
    ofText_text hapi, fun e segments hversion hsegments => ⟨?_, ?_⟩,
    fun e other segments others u v hversion hversion' hsegments hothers hu hv htext => ?_⟩
  · have hscheme : other.scheme = api.scheme := by rw [hsame]
    have hcanonical := Url.canonical_parse hparse' (hscheme ▸ hspecial) (hscheme ▸ hother)
    rw [ofText_of_parse hparse', hapi.withFinalSlash_congr hcanonical hsame hpath]
  · exact ⟨_, hplace hversion (List.forall_mem_nil _), hbelow e []⟩
  · exact ⟨_, hplace hversion hsegments, hbelow e segments⟩
  · rw [hplace hversion hsegments] at hu
    rw [hplace hversion' hothers] at hv
    rw [← Except.ok.inj hu, ← Except.ok.inj hv] at htext
    exact Endpoint.eq_of_text_place hinit ha hversion hsegments hversion' hothers htext

/-- A client of a service in a path at its host. -/
def cloud : ClientSetup :=
  ⟨⟨"https".toList, some ⟨[], [], .name "api.example.com".toList, none⟩,
    .segments ["cloud".toList, []], none, none⟩, .standard, none, standardUserAgent⟩

/-- The client is the same with and without the slash, and has a place for a network. -/
theorem places_of_cloud : ofText "https://api.example.com/cloud" = .ok cloud ∧
    Client.isWeb cloud.base ∧ ofText "https://api.example.com/cloud/" = .ok cloud ∧
    ofText cloud.base.text = .ok cloud ∧ ∃ u,
      Endpoint.resource ⟨"v1", .networks, 1, 2⟩ cloud.base ["n_1"] = .ok u ∧
        u.path.chars = "/cloud/v1/networks/1/2/n_1".toList := by
  have h : ofText "https://api.example.com/cloud" = .ok cloud := by decide +kernel
  have hweb : Client.isWeb cloud.base := by decide +kernel
  obtain ⟨⟨api, hparse, -, -, hslash⟩, htext, hplaces, -⟩ := places h hweb
  have hapi : Url.parse "https://api.example.com/cloud" =
      .ok { cloud.base with path := .segments ["cloud".toList] } := by decide +kernel
  obtain rfl := Except.ok.inj (hparse.symm.trans hapi)
  have hlong : cloud.base.isLong = false := by decide +kernel
  rw [hlong, if_neg Bool.false_ne_true] at htext
  refine ⟨h, hweb, ?_, htext, ?_⟩
  · exact hslash "https://api.example.com/cloud/" cloud.base (by decide +kernel) rfl (by decide +kernel)
  · obtain ⟨u, hu, hbelow⟩ := (hplaces ⟨"v1", .networks, 1, 2⟩ ["n_1"] (by decide) (by decide)).2
    refine ⟨u, hu, ?_⟩
    rw [hbelow.path]
    decide +kernel

/-! ### Bases that are not read again -/

/-- A URL at the host of some name. -/
def ofHost (name : List Char) : String :=
  String.ofList ("https".toList ++ ':' :: '/' :: '/' :: (name ++ ['/']))

/-- The same, as it is read. -/
def hostUrl (name : List Char) : Url :=
  ⟨"https".toList, some ⟨[], [], .name name, none⟩, .segments [[]], none, none⟩

/-- A name of ideographs is that of a host, which has it in Punycode. -/
theorem parse_ideographs {name : List Char} (h : ∀ c ∈ name, Url.Domain.isIdeograph c)
    (hfull : name ≠ []) (hlength : name.length ≤ Url.Domain.Label.longestShown) :
    Url.parse (ofHost name) =
      .ok (hostUrl (Url.Domain.Label.sign ++ Url.Punycode.encode name)) := by
  have hbounds (c : Char) (hc : c ∈ name) := Url.Domain.isIdeograph_iff.mp (h c hc)
  have hne {c d : Char} (hc : c ∈ name) (hd : d.toNat < 0x4E00) : c ≠ d := by
    rintro rfl
    exact absurd (hbounds c hc).1 (by omega)
  have hslash : ∀ c ∈ name, Url.isSlash true c = false := fun c hc => by
    simp [Url.isSlash, hne hc (d := '/') (by decide), hne hc (d := '\\') (by decide)]
  have htail : ∀ c ∈ name, Url.isTail c = false := fun c hc => by
    simp [Url.isTail, hne hc (d := '?') (by decide), hne hc (d := '#') (by decide)]
  have hhost : Url.readHost true name =
      .ok (.name (Url.Domain.Label.sign ++ Url.Punycode.encode name)) := by
    have hnumber : Url.Address.endsInNumber (Url.Domain.Label.sign ++ Url.Punycode.encode name) =
        false := Url.Address.not_endsInNumber (Url.Domain.dot_not_mem_ideographs h) rfl
    have hhead : name.head? ≠ some '[' := fun hhead =>
      hne (List.mem_of_mem_head? hhead) (by decide) rfl
    have hpercent : '%' ∉ name := fun hmem => hne hmem (by decide) rfl
    rw [Url.readHost, if_neg hhead, if_pos rfl, Url.readDomain, Url.Percent.decode_of_not_mem hpercent,
      Url.Domain.ascii?_ideographs h hfull hlength]
    show (if _ then _ else _) = _
    rw [hnumber]
    rfl
  obtain ⟨hspecial, hother⟩ := Client.special_of_isWeb (u := hostUrl name) rfl
  have hafter := Url.afterSlashes_host hspecial hfull (fun c hc => ⟨hslash c hc, htail c hc⟩)
    (fun c hc => ⟨hne hc (by decide), hne hc (by decide), hne hc (by decide), hne hc (by decide)⟩)
    hhost []
  have hfirst : ∀ c ∈ (name ++ ['/']).head?, Url.isSlash true c = false := by
    obtain ⟨c, cs, rfl⟩ := List.exists_cons_of_ne_nil hfull
    intro d hd
    obtain rfl : c = d := Option.some.inj hd
    exact hslash c List.mem_cons_self
  have hlow : ∀ c ∈ name ++ ['/'], 0x20 < c.toNat := by
    intro c hc
    rcases List.mem_append.mp hc with hc | hc
    · have hc := hbounds c hc
      omega
    · rw [List.mem_singleton.mp hc]
      decide
  have hparse := Url.parse_of_isSpecial hspecial hother hfirst hlow
  rw [hafter] at hparse
  exact hparse

/-- A base is refused when it is read again if there is Punycode in it that is too long. -/
theorem refused_of_isLong {text : String} {name : List Char}
    (hparse : Url.parse text = .ok (hostUrl name)) (hdot : '.' ∉ name)
    (hlong : Url.Domain.Label.isLong name) : ∃ setup, ofText text = .ok setup ∧
      Client.isWeb setup.base ∧ ∃ reason, ofText setup.base.text = .error (.config reason) := by
  obtain ⟨hspecial, hother⟩ := Client.special_of_isWeb (u := hostUrl name) rfl
  have hbase : (hostUrl name).withFinalSlash = hostUrl name := if_pos rfl
  have hrefused : (hostUrl name).isLong := by
    show (Url.Address.splitOn '.' name).any Url.Domain.Label.isLong = true
    rw [Url.Address.splitOn_of_not_mem hdot, List.any_cons, hlong, Bool.true_or]
  have hread := ofText_text (Url.canonical_parse hparse hspecial hother)
  rw [hbase, if_pos hrefused] at hread
  refine ⟨_, ofText_of_parse hparse, ?_⟩
  rw [hbase]
  exact ⟨rfl, _, hread⟩

/-- Eight hundred ideographs, each 26 places behind the one before. -/
def ideographs : List Char :=
  (List.range 800).map fun i => Char.ofNat (0x4E00 + 26 * i)

theorem toNat_ideograph {i : Nat} (h : i < 800) :
    (Char.ofNat (0x4E00 + 26 * i)).toNat = 0x4E00 + 26 * i :=
  toNat_charOfNat (.inl (by omega))

theorem isIdeograph_ideographs : ∀ c ∈ ideographs, Url.Domain.isIdeograph c := by
  intro c hc
  obtain ⟨i, hi, rfl⟩ := List.mem_map.mp hc
  have hi := List.mem_range.mp hi
  rw [Url.Domain.isIdeograph_iff, toNat_ideograph hi]
  omega

theorem isLong_ideographs :
    Url.Domain.Label.isLong (Url.Domain.Label.sign ++ Url.Punycode.encode ideographs) := by
  refine Url.Domain.isLong_of_apart isIdeograph_ideographs ?_ (by simp [ideographs]) ?_
  · refine List.Nodup.map_on (fun i hi j hj heq => ?_) List.nodup_range
    have hnat := congrArg Char.toNat heq
    rw [toNat_ideograph (List.mem_range.mp hi), toNat_ideograph (List.mem_range.mp hj)] at hnat
    omega
  · intro c hc d hd hlt
    obtain ⟨i, hi, rfl⟩ := List.mem_map.mp hc
    obtain ⟨j, hj, rfl⟩ := List.mem_map.mp hd
    rw [toNat_ideograph (List.mem_range.mp hi), toNat_ideograph (List.mem_range.mp hj)] at hlt ⊢
    omega

/-- **Not every base is read again**: for a name of many ideographs it holds Punycode that is too
long. -/
theorem base_is_refused : ∃ setup, ofText (ofHost ideographs) = .ok setup ∧
    Client.isWeb setup.base ∧ ∃ reason, ofText setup.base.text = .error (.config reason) := by
  have hparse := parse_ideographs isIdeograph_ideographs (by simp [ideographs]) (by
    simp [ideographs, Url.Domain.Label.longestShown])
  exact refused_of_isLong hparse (Url.Domain.dot_not_mem_ideographs isIdeograph_ideographs)
    isLong_ideographs

end ClientSetup

end CloudApi
