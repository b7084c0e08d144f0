import CloudApi.Endpoint
import CloudApi.Http.Client
import CloudApi.Proofs.Url.Extent

/-! Where resources are.

The reference to all resources of a family is the version and three words behind it
(`Endpoint.reference_nil`). It leads down from a base if the version does
(`Endpoint.collection_of_leadsDown`), and unless the base is a file only then
(`Endpoint.leadsDown_of_collection`). A valid configuration has a client, whose base is its URL with
a slash at the end; the resources are below it if the version leads down
(`Config.confined_of_valid`). Nothing else that is checked sees to this: a URL may have a flat path,
and a few characters of a version may lead anywhere (`Config.valid_not_confined`). -/
namespace CloudApi

/-- The schemes of the protocol have no flat paths and are not the one of files. -/
theorem Client.special_of_isWeb {u : Url} (h : isWeb u) :
    Url.isSpecial u.scheme ∧ Url.isFile u.scheme = false := by
  simp only [isWeb, Bool.or_eq_true, beq_iff_eq] at h
  rcases h with h | h <;> rw [h] <;> decide

namespace Endpoint

open Text

theorem isWord_decimal (n : Nat) : ∀ c ∈ Numeral.decimal n, Url.isWord c := fun c hc => by
  rw [Url.isWord, Numeral.isDigit_of_mem_decimal hc, Bool.or_true, Bool.true_or, Bool.true_or]

theorem isWord_name (family : Family) : ∀ c ∈ family.name.toList, Url.isWord c := by
  have hall : (family.name.toList.all Url.isWord) = true := by cases family <;> rfl
  exact List.all_eq_true.mp hall

/-- What follows the version in the path to all resources. -/
def scope (e : Endpoint) : List Char :=
  '/' :: (e.family.name.toList ++ '/' :: (Numeral.decimal e.project.toNat ++
    '/' :: Numeral.decimal e.region.toNat))

theorem untailed_scope (e : Endpoint) : Url.Untailed e.scope := by
  have hslash {cs : List Char} (hcs : Url.Untailed cs) : Url.Untailed ('/' :: cs) :=
    List.forall_mem_cons.mpr ⟨rfl, hcs⟩
  have hproject := Url.untailed_of_word (isWord_decimal e.project.toNat)
  have hregion := Url.untailed_of_word (isWord_decimal e.region.toNat)
  exact hslash ((Url.untailed_of_word (isWord_name e.family)).append
    (hslash (hproject.append (hslash hregion))))

theorem reference_nil (e : Endpoint) : (e.reference []).toList = e.version.toList ++ e.scope := by
  have hsegments : e.reference [] = e.version ++ "/" ++ e.family.name ++ "/" ++
      Numeral.decimalText e.project.toNat ++ "/" ++ Numeral.decimalText e.region.toNat := rfl
  simp [hsegments, Numeral.decimalText, scope]

theorem join_of_collection {e : Endpoint} {base u : Url} (h : e.collection base = .ok u) :
    base.join (e.reference []) = .ok u := by
  unfold collection resource resolve at h
  split at h
  · next heq => rw [heq, Except.ok.inj h]
  · cases h

/-- **The URL of all resources has no query and no fragment** of its own, nor of the base, unless
the version has. -/
theorem bare_collection {e : Endpoint} {base u : Url} (hbase : Url.isFile base.scheme = false)
    (hversion : Url.Untailed e.version.toList) (h : e.collection base = .ok u) : u.Bare := by
  have hread : Url.read (some base) (e.reference []).toList = .ok u := join_of_collection h
  rw [reference_nil] at hread
  exact Url.bare_read hbase (hversion.append e.untailed_scope)
    (List.mem_append_right _ List.mem_cons_self) hread

/-! ### Leading down -/

section LeadsDown
variable {e : Endpoint} {base : Url}

theorem reference_words (e : Endpoint) : (e.reference []).toList =
    ((e.version.toList ++ '/' :: e.family.name.toList) ++ '/' :: Numeral.decimal e.project.toNat) ++
      '/' :: Numeral.decimal e.region.toNat := by
  rw [reference_nil, scope]
  simp only [List.append_assoc, List.cons_append]

theorem reference_ne_nil (e : Endpoint) : (e.reference []).toList ≠ [] := by
  rw [reference_nil]
  exact List.append_ne_nil_of_right_ne_nil _ (List.cons_ne_nil _ _)

theorem leadsDown_reference {scheme : List Char} (h : Url.LeadsDown scheme e.version.toList) :
    Url.LeadsDown scheme (e.reference []).toList := by
  rw [reference_words]
  exact ((h.append_word (isWord_name e.family)).append_word (isWord_decimal _)).append_word
    (isWord_decimal _)

theorem encode_reference (e : Endpoint) :
    Url.Percent.encode Url.Percent.path (e.reference []).toList =
      Url.Percent.encode Url.Percent.path e.version.toList ++ e.scope := by
  rw [reference_words, Url.encode_append_word (isWord_decimal _),
    Url.encode_append_word (isWord_decimal _), Url.encode_append_word (isWord_name e.family), scope]
  simp only [List.append_assoc, List.cons_append]

/-- **Behind a version that leads down are all resources**, below the last slash of a base that has
segments. Below one with a flat path they are nowhere. -/
theorem collection_of_leadsDown (h : Url.LeadsDown base.scheme e.version.toList) :
    (base.isFlat → ∃ reason, e.collection base = .error (.invalidEndpoint reason)) ∧
      ∀ init, base.path = .segments (init ++ [[]]) →
        Url.withoutLeading (Url.isFile base.scheme) (init ++ [[]]) = init ++ [[]] →
        ∃ u, e.collection base = .ok u ∧ u.origin = base.origin ∧
          u.path.chars = base.path.chars ++
            Url.Percent.encode Url.Percent.path e.version.toList ++ e.scope ∧
          u.query = none ∧ u.fragment = none := by
  have hlast : ∀ c ∈ (e.reference []).toList.getLast?, 0x20 < c.toNat := by
    rw [reference_words]
    exact Url.lt_getLast_append_word (isWord_decimal _) _
  obtain ⟨hflat, hsegments⟩ := Url.join_of_leadsDown (leadsDown_reference h) hlast
  refine ⟨fun hbase => ?_, fun init hpath hleading => ?_⟩
  · rw [collection, resource, resolve, hflat hbase]
    exact ⟨_, rfl⟩
  · obtain ⟨u, hjoin, horigin, hchars, hbare⟩ := hsegments init hpath hleading
    rw [encode_reference, ← List.append_assoc] at hchars
    exact ⟨u, by rw [collection, resource, resolve, hjoin], horigin, hchars, hbare⟩

/-- **Only behind a version that leads down are all resources** below a URL that is no file: at its
scheme, with the whole reference behind its path. -/
theorem leadsDown_of_collection {text : String} {api u : Url} (hparse : Url.parse text = .ok api)
    (hother : Url.isFile api.scheme = false) (hversion : e.version.toList ≠ [])
    (h : e.collection api.withFinalSlash = .ok u) (hscheme : u.scheme = api.scheme)
    (hchars : u.path.chars = Url.slashed api.path.chars ++
      Url.Percent.encode Url.Percent.path e.version.toList ++ e.scope) :
    api.isFlat = false ∧ Url.LeadsDown api.scheme e.version.toList := by
  rw [List.append_assoc, ← encode_reference] at hchars
  obtain ⟨hopen, hdown⟩ :=
    Url.leadsDown_of_join_withFinalSlash hparse hother e.reference_ne_nil
      (join_of_collection h) hscheme hchars
  rw [reference_words] at hdown
  have hname := List.append_ne_nil_of_left_ne_nil hversion ('/' :: e.family.name.toList)
  have hproject :=
    List.append_ne_nil_of_left_ne_nil hname ('/' :: Numeral.decimal e.project.toNat)
  have hfamily := (hdown.of_append hproject hother).of_append hname hother
  exact ⟨hopen, hfamily.of_append hversion hother⟩

end LeadsDown

end Endpoint

/-! ### Valid configurations -/

namespace Config
variable {c : Config}

/-- The client of a configuration is there, and all resources of each family are for it below the
URL of the configuration: at its origin, and behind its path. -/
def Confined (c : Config) : Prop :=
  ∃ api setup client, Url.parse c.url = .ok api ∧ ClientSetup.ofConfig c = .ok setup ∧
    setup.build = .ok client ∧ ∀ family, ∃ u,
      (c.endpoint family).collection client.base = .ok u ∧ u.origin = api.origin ∧
      u.path.chars = Url.slashed api.path.chars ++
        Url.Percent.encode Url.Percent.path c.version.toList ++ (c.endpoint family).scope

/-- Whether the resources of a family are below the URL of the configuration. -/
def reaches (c : Config) (family : Family) : Bool :=
  match Url.parse c.url, ClientSetup.ofConfig c >>= ClientSetup.build with
  | .ok api, .ok client =>
    match (c.endpoint family).collection client.base with
    | .ok u => u.origin = api.origin ∧ u.path.chars = Url.slashed api.path.chars ++
        Url.Percent.encode Url.Percent.path c.version.toList ++ (c.endpoint family).scope
    | .error _ => false
  | _, _ => false

theorem Confined.reaches (h : c.Confined) (family : Family) : c.reaches family := by
  obtain ⟨api, setup, client, hparse, hsetup, hbuild, hall⟩ := h
  obtain ⟨u, hu, hplace⟩ := hall family
  have hclient : (ClientSetup.ofConfig c >>= ClientSetup.build) = .ok client := by
    rw [hsetup]
    exact hbuild
  simp only [Config.reaches, hparse, hclient, hu, decide_eq_true_eq]
  exact hplace

theorem exists_parse (h : c.validate = []) : ∃ api, Url.parse c.url = .ok api := by
  simp only [validate, List.append_eq_nil_iff] at h
  obtain ⟨⟨⟨⟨⟨⟨⟨hurl, -⟩, -⟩, -⟩, -⟩, -⟩, -⟩, -⟩ := h
  unfold Validation.url at hurl
  split at hurl
  · next api hparse => exact ⟨api, hparse⟩
  · cases hurl

theorem version_ne_nil (h : c.validate = []) : c.version.toList ≠ [] := by
  simp only [validate, List.append_eq_nil_iff] at h
  obtain ⟨⟨⟨⟨⟨⟨⟨-, hversion⟩, -⟩, -⟩, -⟩, -⟩, -⟩, -⟩ := h
  unfold Validation.length at hversion
  split at hversion
  · next hbounds => exact List.length_pos_iff.mp hbounds.1
  · cases hversion

/-- A configuration whose URL is one has a client. -/
theorem exists_client {api : Url} (h : Url.parse c.url = .ok api) : ∃ setup client,
    ClientSetup.ofConfig c = .ok setup ∧ setup.build = .ok client ∧
      client.base = api.withFinalSlash := by
  have hsetup : ClientSetup.ofText c.url =
      .ok ⟨api.withFinalSlash, .standard, none, ClientSetup.standardUserAgent⟩ := by
    rw [ClientSetup.ofText, h]
  have hagent : isHeaderValue ClientSetup.standardUserAgent = true := by decide +kernel
  unfold ClientSetup.ofConfig
  rw [hsetup]
  exact ⟨_, _, rfl, if_pos hagent, rfl⟩

/-- A configuration that is confined has segments for its resources, and a version that leads to
them. -/
theorem leadsDown_of_confined (h : c.validate = []) {api : Url} (hparse : Url.parse c.url = .ok api)
    (hother : Url.isFile api.scheme = false) (hconfined : c.Confined) :
    api.isFlat = false ∧ Url.LeadsDown api.scheme c.version.toList := by
  obtain ⟨other, setup, client, hparsed, hsetup, hbuild, hall⟩ := hconfined
  obtain rfl := Except.ok.inj (hparse.symm.trans hparsed)
  obtain ⟨setup', client', hsetup', hbuild', hbase⟩ := exists_client hparse
  obtain rfl := Except.ok.inj (hsetup.symm.trans hsetup')
  obtain rfl := Except.ok.inj (hbuild.symm.trans hbuild')
  obtain ⟨u, hu, horigin, hchars⟩ := hall .networks
  rw [hbase] at hu
  exact Endpoint.leadsDown_of_collection hparse hother (version_ne_nil h) hu
    (congrArg Url.Origin.scheme horigin) hchars

/-- **A valid configuration has a client that stays below its URL**, if this URL has segments that a
slash at their end leaves as they are, and if the version leads down. If the path is flat, there is
no URL of any resources. Unless the URL is that of a file, a client stays below it only then. -/
theorem confined_of_valid (h : c.validate = []) : ∃ api setup client,
    Url.parse c.url = .ok api ∧ ClientSetup.ofConfig c = .ok setup ∧ setup.build = .ok client ∧
      (Url.LeadsDown api.scheme c.version.toList →
        (api.isFlat → ∀ family, ∃ reason,
          (c.endpoint family).collection client.base = .error (.invalidEndpoint reason)) ∧
        (api.isFlat = false → api.Steady → c.Confined)) ∧
      (Url.isFile api.scheme = false → c.Confined →
        api.isFlat = false ∧ Url.LeadsDown api.scheme c.version.toList) := by
  obtain ⟨api, hparse⟩ := exists_parse h
  obtain ⟨setup, client, hsetup, hbuild, hbase⟩ := exists_client hparse
  refine ⟨api, setup, client, hparse, hsetup, hbuild, fun hdown => ?_,
    leadsDown_of_confined h hparse⟩
  have hscheme : client.base.scheme = api.scheme := by rw [hbase, Url.scheme_withFinalSlash]
  have hfamily (family : Family) :
      Url.LeadsDown client.base.scheme (c.endpoint family).version.toList := hscheme ▸ hdown
  refine ⟨fun hflat family => (Endpoint.collection_of_leadsDown (hfamily family)).1 ?_,
    fun hopen hsteady => ?_⟩
  · rw [hbase, Url.isFlat_withFinalSlash, hflat]
  · obtain ⟨list, hlist⟩ : ∃ list, api.path = .segments list := by
      unfold Url.isFlat at hopen
      split at hopen
      · cases hopen
      · next list heq => exact ⟨list, heq⟩
    obtain ⟨init, hpath, hleading, hchars, -⟩ :=
      Url.withFinalSlash_path (Url.pathSettled_parse hparse) hsteady hlist
    refine ⟨api, setup, client, hparse, hsetup, hbuild, fun family => ?_⟩
    obtain ⟨u, hu, horigin, hplace, -⟩ :=
      (Endpoint.collection_of_leadsDown (hfamily family)).2 init (hbase ▸ hpath)
        (hscheme ▸ hleading)
    refine ⟨u, hu, ?_, ?_⟩
    · rw [horigin, hbase, Url.origin_withFinalSlash]
    · rw [hplace, hbase, hchars]
      rfl

/-- A configuration of a URL and a version. -/
def ofVersion (url version : String) : Config :=
  ⟨url, version, 1, 2, none, standardTimeoutSeconds, standardMaxRetries, .standard, .standard⟩

/-- The standard version leads down from a URL on the web. -/
theorem confined_of_valid_standard :
    let c := ofVersion "https://api.example.com/cloud" standardVersion
    c.validate = [] ∧ c.Confined := by
  intro c
  have hvalid : c.validate = [] := by decide +kernel
  have hcloud : Url.parse c.url = .ok ⟨"https".toList,
      some ⟨[], [], .name "api.example.com".toList, none⟩, .segments ["cloud".toList], none, none⟩ := by
    decide +kernel
  obtain ⟨api, _, _, hparse, -, -, hconfined, -⟩ := confined_of_valid hvalid
  obtain rfl := Except.ok.inj (hcloud.symm.trans hparse)
  have hdown : Url.LeadsDown "https".toList ['v', '1'] := by
    have hplain : ∀ c ∈ ['v', '1'], Url.isBreak c = false ∧ Url.isTail c = false :=
      List.forall_mem_cons.mpr ⟨by decide, List.forall_mem_singleton.mpr (by decide)⟩
    refine ⟨⟨'v', ['1'], rfl, by decide, by decide⟩, hplain, fun _ => by decide, by decide, ?_, nofun⟩
    intro part hpart
    obtain rfl := List.mem_singleton.mp hpart
    exact fun h => h.elim (by decide) (by decide)
  have hversion : c.version.toList = ['v', '1'] := by simp [c, ofVersion, standardVersion]
  exact ⟨hvalid, (hconfined (hversion ▸ hdown)).2 rfl nofun⟩

/-- URLs and versions that are valid and have no place for the resources, each for another reason:
the path of the URL is flat or changes with a slash at its end, or the version does not lead down. -/
def strays : List (String × String) :=
  [("mailto:ops@example.com", "v1"), ("file:////C|", "v1"), ("file:///", "C|"),
    ("https://api.example.com/cloud", "../v1"), ("https://api.example.com/cloud", "v1/%2e"),
    ("https://api.example.com/cloud", "/v1"), ("https://api.example.com/cloud", " v1"),
    ("https://api.example.com/cloud", "v1?x"), ("https://api.example.com/cloud", "v1#x"),
    ("https://api.example.com/cloud", "v\t1"), ("https://api.example.com/cloud", "v1\\x"),
    ("https://api.example.com/cloud", "a:v1")]

/-- **A valid configuration need not be confined.** -/
theorem valid_not_confined : strays.Forall fun stray =>
    (ofVersion stray.1 stray.2).validate = [] ∧ ¬ (ofVersion stray.1 stray.2).Confined := by
  have hstrays : ∀ stray ∈ strays, (ofVersion stray.1 stray.2).validate = [] ∧
      (ofVersion stray.1 stray.2).reaches .networks = false := by
    decide +kernel
  refine List.forall_iff_forall_mem.mpr fun stray hmem => ?_
  obtain ⟨hvalid, hstray⟩ := hstrays stray hmem
  exact ⟨hvalid, fun hconfined =>
    absurd (hstray.symm.trans (hconfined.reaches .networks)) Bool.false_ne_true⟩

end Config

end CloudApi
