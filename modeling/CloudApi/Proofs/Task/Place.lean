import CloudApi.Proofs.Endpoint
import CloudApi.Proofs.Url.Below
import CloudApi.Proofs.Url.Percent

/-! Where tasks are.

An identifier of a task is put into the reference as it is. One that is a segment leads to its own
place, as the one segment behind those of all tasks; any other leads somewhere else (`task_place`).
Segments that differ lead to different places, unless one has a percent sign, behind which it may hold
the other as it is encoded. Identifiers that are no segments lead to places of others, or of no task
at all (`task_collides`). -/
namespace CloudApi

namespace Endpoint

open Text

/-- The place of a task: behind those of all tasks the identifier as one segment. -/
def taskPlace (base : Url) (version id : String) : Url :=
  base.below [version.toList, "tasks".toList, Url.Percent.encode Url.Percent.path id.toList]

theorem task_reference (version id : String) : (segmentsText [version, "tasks", id]).toList =
    Url.slashedText version.toList ["tasks".toList, id.toList] := by
  have hsegments : segmentsText [version, "tasks", id] = version ++ "/" ++ "tasks" ++ "/" ++ id := rfl
  simp [hsegments, Url.slashedText]

theorem join_of_task {base u : Url} {version id : String} (h : task base version id = .ok u) :
    base.join (segmentsText [version, "tasks", id]) = .ok u := by
  unfold task resolve at h
  split at h
  · next heq => rw [heq, Except.ok.inj h]
  · cases h

section Place
variable {base : Url} {init : List (List Char)} {version id : String}

/-- A task whose identifier is a segment is at its place. -/
theorem task_of_isSegment (hother : Url.isFile base.scheme = false)
    (hbase : base.path = .segments (init ++ [[]])) (hversion : ∀ c ∈ version.toList, Url.isWord c)
    (hfull : version ≠ "") (hid : Url.IsSegment id.toList) :
    task base version id = .ok (taskPlace base version id) := by
  have hfull : version.toList ≠ [] := fun h => hfull (String.toList_eq_nil_iff.mp h)
  have htasks : ∀ c ∈ "tasks".toList, Url.isWord c := by decide
  have hsegments : ∀ part ∈ [version.toList, "tasks".toList, id.toList], Url.IsSegment part := by
    refine List.forall_mem_cons.mpr ⟨Url.isSegment_of_word hversion hfull, ?_⟩
    exact List.forall_mem_cons.mpr
      ⟨Url.isSegment_of_word htasks (by decide), List.forall_mem_singleton.mpr hid⟩
  have hjoin := Url.join_segments hother hbase hsegments (Url.lt_head_word hversion)
    (Url.not_mem_word hversion rfl) (List.cons_ne_nil _ _) (task_reference version id)
  rw [task, resolve, hjoin, List.map_cons, List.map_cons, List.map_singleton,
    Url.encode_of_written (Url.written_of_word hversion),
    Url.encode_of_written (Url.written_of_word htasks)]
  rfl

/-- Only a task whose identifier is a segment is at its place. -/
theorem isSegment_of_task (hspecial : Url.isSpecial base.scheme)
    (hother : Url.isFile base.scheme = false) (hbase : base.path = .segments (init ++ [[]]))
    (hversion : ∀ c ∈ version.toList, Url.isWord c) {u : Url} (hid : id ≠ "")
    (h : task base version id = .ok u) (hplace : u.withoutFragment = taskPlace base version id) :
    Url.IsSegment id.toList := by
  have hreference : (segmentsText [version, "tasks", id]).toList =
      version.toList ++ '/' :: ("tasks".toList ++ '/' :: id.toList) := by
    rw [task_reference, Url.slashedText_cons, Url.slashedText_cons, Url.slashedText,
      List.flatMap_nil, List.append_nil]
  have hjoin := join_of_task h
  have htasks : ∀ c ∈ "tasks".toList, Url.isWord c := by decide
  have hscheme := congrArg Url.scheme hplace
  have hpath := congrArg Url.path hplace
  change u.scheme = base.scheme at hscheme
  change u.path = (taskPlace base version id).path at hpath
  have hchars : u.path.chars = base.path.chars ++ Url.Percent.encode Url.Percent.path
      (segmentsText [version, "tasks", id]).toList := by
    rw [hpath, taskPlace, Url.chars_below hbase, task_reference, Url.encode_slashedText,
      Url.encode_of_written (Url.written_of_word hversion), List.map_cons, List.map_singleton,
      Url.encode_of_written (Url.written_of_word htasks)]
  have hfull : (segmentsText [version, "tasks", id]).toList ≠ [] := by
    rw [hreference]
    exact List.append_ne_nil_of_right_ne_nil _ (List.cons_ne_nil _ _)
  obtain ⟨hdown, htrimmed⟩ := Url.leadsDown_of_join hother hbase hfull hjoin hscheme hchars
  have hlast := Url.lt_getLast_of_trimmed htrimmed
  -- the identifier is one part, because the place has one segment for it
  have hsplit : Url.splitPath true (segmentsText [version, "tasks", id]).toList =
      version.toList :: "tasks".toList :: Url.splitPath true id.toList := by
    rw [hreference, Url.splitPath_append, Url.splitPath_append,
      Url.splitPath_of_not_mem (Url.not_isSlash_of_word hversion),
      Url.splitPath_of_not_mem (Url.not_isSlash_of_word htasks)]
    rfl
  have hsingle : (Url.splitPath true id.toList).length = 1 := by
    have hread := (Url.join_eq_of_leadsDown hdown hlast).2 init hbase (by rw [hother]; rfl)
    rw [hspecial, hsplit, hjoin] at hread
    rw [Except.ok.inj hread, taskPlace, Url.below, hbase] at hpath
    have hlength := congrArg List.length (Url.Path.segments.inj hpath)
    simp only [List.length_append, List.length_map, List.length_cons, List.length_nil,
      List.dropLast_concat] at hlength
    omega
  have hslash := Url.not_isSlash_of_length_splitPath hsingle
  have hundotted := hdown.undotted id.toList
  rw [hspecial, hsplit, Url.splitPath_of_not_mem hslash] at hundotted
  rw [hreference] at hlast
  obtain ⟨c, cs, hcons⟩ :=
    List.exists_cons_of_ne_nil fun h : id.toList = [] => hid (String.toList_eq_nil_iff.mp h)
  refine ⟨hcons ▸ List.cons_ne_nil c cs, fun d hd => ?_, fun d hd => hlast d ?_, hundotted (by simp)⟩
  · have hplain := hdown.plain d (by rw [hreference]; simp [hd])
    exact ⟨hplain.1, hplain.2, hslash d hd⟩
  · rw [hcons] at hd ⊢
    rw [List.getLast?_append_cons, ← List.cons_append, List.getLast?_append_cons,
      List.getLast?_cons_cons]
    exact hd

/-- **A task is at its own place exactly if its identifier is a segment.** Two such tasks share a place
exactly if their identifiers are encoded alike; without percent signs these are the same. -/
theorem task_place (hweb : Client.isWeb base) (hbase : base.path = .segments (init ++ [[]]))
    (hversion : ∀ c ∈ version.toList, Url.isWord c) (hfull : version ≠ "") :
    (∀ id, ∃ u, task base version id = .ok u ∧
      (id ≠ "" → (u.withoutFragment = taskPlace base version id ↔ Url.IsSegment id.toList))) ∧
    ∀ id other u v, Url.IsSegment id.toList → Url.IsSegment other.toList →
      task base version id = .ok u → task base version other = .ok v →
      (u.withoutFragment = v.withoutFragment ↔
        Url.Percent.encode Url.Percent.path id.toList =
          Url.Percent.encode Url.Percent.path other.toList) ∧
      (id ≠ other → '%' ∉ id.toList → '%' ∉ other.toList →
        u.withoutFragment ≠ v.withoutFragment) := by
  obtain ⟨hspecial, hother⟩ := Client.special_of_isWeb hweb
  have hwithout (id : String) : (taskPlace base version id).withoutFragment =
      taskPlace base version id := rfl
  refine ⟨fun id => ?_, fun id other u v hid hanother hu hv => ?_⟩
  · have hsegment := Url.isSegment_of_word hversion fun h => hfull (String.toList_eq_nil_iff.mp h)
    obtain ⟨u, hjoin⟩ := Url.exists_join_slashed hother (by rw [Url.isFlat, hbase]) hsegment
      (Url.lt_head_word hversion) (Url.not_mem_word hversion rfl)
      ((task_reference version id).trans (Url.slashedText_cons _ _ _))
    have hu : task base version id = .ok u := by rw [task, resolve, hjoin]
    refine ⟨u, hu, fun hne => ⟨isSegment_of_task hspecial hother hbase hversion hne hu, fun hid => ?_⟩⟩
    rw [Except.ok.inj (hu.symm.trans (task_of_isSegment hother hbase hversion hfull hid)), hwithout]
  · rw [Except.ok.inj (hu.symm.trans (task_of_isSegment hother hbase hversion hfull hid)),
      Except.ok.inj (hv.symm.trans (task_of_isSegment hother hbase hversion hfull hanother)),
      hwithout, hwithout]
    have hsame (h : taskPlace base version id = taskPlace base version other) :
        Url.Percent.encode Url.Percent.path id.toList =
          Url.Percent.encode Url.Percent.path other.toList :=
      List.singleton_inj.mp (List.cons.inj (List.cons.inj (Url.below_injective hbase h)).2).2
    refine ⟨⟨hsame, fun h => by rw [taskPlace, h, taskPlace]⟩, fun hne hleft hright h => hne ?_⟩
    exact String.toList_inj.mp (Url.Percent.encode_injective hleft hright (hsame h))

end Place

/-- A service at the root of its host. -/
def rootUrl : Url :=
  ⟨"https".toList, some ⟨[], [], .name "api.example.com".toList, none⟩, .segments [[]], none, none⟩

/-- Two identifiers that are segments, one of them with a character that is encoded. -/
theorem task_place_of_blank :
    let first := "a b"
    let second := "a:b"
    Client.isWeb rootUrl ∧ Url.IsSegment first.toList ∧ Url.IsSegment second.toList ∧
      ∃ u v, task rootUrl "v1" first = .ok u ∧ task rootUrl "v1" second = .ok v ∧
        u.withoutFragment = taskPlace rootUrl "v1" first ∧ u.withoutFragment ≠ v.withoutFragment := by
  intro first second
  have hweb : Client.isWeb rootUrl := by decide
  have hversion : ∀ c ∈ "v1".toList, Url.isWord c := by decide
  have hfirst : Url.IsSegment first.toList := by decide +kernel
  have hsecond : Url.IsSegment second.toList := by decide +kernel
  have hbase : rootUrl.path = .segments ([] ++ [[]]) := rfl
  obtain ⟨hplaces, hpairs⟩ := task_place hweb hbase hversion (by decide)
  obtain ⟨u, hu, hplace⟩ := hplaces first
  obtain ⟨v, hv, -⟩ := hplaces second
  refine ⟨hweb, hfirst, hsecond, u, v, hu, hv, (hplace (by decide)).mpr hfirst, ?_⟩
  exact (hpairs first second u v hfirst hsecond hu hv).2 (by decide) (by decide) (by decide)

/-- Where the request for a task goes, if it goes anywhere. -/
def requested? (base : Url) (version id : String) : Option Url :=
  (task base version id).toOption.map Url.withoutFragment

/-- Different identifiers of tasks that are asked for at one place. -/
def collisions : List (String × String) :=
  [("a", "a#b"), ("a", "a "), ("a", "a\t"), ("a", "x/../a"), ("a/b", "a\\b"), ("a b", "a%20b")]

/-- **Different identifiers of tasks may lead to one place**, and one to the place of all networks. -/
theorem task_collides : Url.parse "https://api.example.com/" = .ok rootUrl ∧
    (collisions.Forall fun pair => pair.1 ≠ pair.2 ∧ (requested? rootUrl "v1" pair.1).isSome ∧
      requested? rootUrl "v1" pair.1 = requested? rootUrl "v1" pair.2) ∧
    (requested? rootUrl "v1" "../networks/1/2").isSome ∧ requested? rootUrl "v1" "../networks/1/2" =
      (collection ⟨"v1", .networks, 1, 2⟩ rootUrl).toOption := by
  have hcollisions : ∀ pair ∈ collisions, pair.1 ≠ pair.2 ∧
      (requested? rootUrl "v1" pair.1).isSome ∧
      requested? rootUrl "v1" pair.1 = requested? rootUrl "v1" pair.2 := by
    decide +kernel
  exact ⟨by decide +kernel, List.forall_iff_forall_mem.mpr hcollisions, by decide +kernel,
    by decide +kernel⟩

end Endpoint

end CloudApi
