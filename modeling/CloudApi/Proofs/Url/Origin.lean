import CloudApi.Proofs.Url.Form
import CloudApi.Proofs.Url.Reference

/-! Where a URL leads.

Requests for URLs of one origin go to the same place: scheme, host and port. A reference stays at
the origin of its base unless it names a scheme or an authority itself (`origin_join`), which shows
at its start (`namesOrigin`). -/
namespace CloudApi

namespace Url

/-- Scheme, host and port of a URL. -/
structure Origin where
  scheme : List Char
  host : Option Host
  port : Option (Fin 65536)
  deriving DecidableEq

def origin (u : Url) : Origin :=
  ⟨u.scheme, u.authority.map (·.host), u.authority.bind (·.port)⟩

/-- Whether a reference begins with a scheme or with the two slashes of an authority. -/
def namesOrigin (reference : List Char) : Bool :=
  let cs := unbroken (trimmed reference)
  (scheme? cs).isSome || ((cs.take 2).length == 2 && (cs.take 2).all (isSlash true))

theorem origin_withTail (u : Url) (cs : List Char) : (withTail u cs).origin = u.origin := by
  unfold withTail
  split <;> rfl

theorem origin_withPath (u : Url) (done : List (List Char)) (cs : List Char) :
    (u.withPath done cs).origin = u.origin :=
  origin_withTail _ _

theorem origin_appendPairs (u : Url) (pairs : List (String × String)) :
    (u.appendPairs pairs).origin = u.origin := by
  obtain ⟨query, hquery⟩ := exists_eq_appendPairs u pairs
  rw [hquery]
  rfl

/-- A reference without two slashes in front stays at the origin of its base. -/
theorem origin_readRelative {base u : Url} {cs : List Char}
    (hslashes : ¬ ((cs.take 2).length = 2 ∧ (cs.take 2).all (isSlash true)))
    (h : readRelative base cs = .ok u) : u.origin = base.origin := by
  unfold readRelative at h
  split at h
  · cases h
    rfl
  next c rest =>
  have hsecond (hslash : isSlash true c = true) : rest.head?.any (isSlash true) = false := by
    by_contra hmore
    rw [Bool.not_eq_false] at hmore
    rcases rest with _ | ⟨d, rest⟩
    · cases hmore
    · exact hslashes ⟨rfl, by simpa using ⟨hslash, hmore⟩⟩
  split at h
  · cases h
    rfl
  split at h
  · cases h
    exact origin_withTail _ _
  split at h
  · next hdouble =>
    obtain ⟨rfl, hhead⟩ := hdouble
    have hfalse := hsecond rfl
    rw [hhead] at hfalse
    cases hfalse
  split at h
  · next hslash =>
    rw [hsecond hslash, if_neg Bool.false_ne_true] at h
    cases h
    exact origin_withPath _ _ _
  split at h
  · cases h
    exact origin_withPath _ _ _
  · cases h

/-- **A reference that names no origin stays at the one of its base.** -/
theorem origin_join {base u : Url} (hbase : isFile base.scheme = false) {reference : String}
    (hnames : namesOrigin reference.toList = false) (h : base.join reference = .ok u) :
    u.origin = base.origin := by
  simp only [namesOrigin, Bool.or_eq_false_iff, Option.isSome_eq_false_iff, Option.isNone_iff_eq_none,
    Bool.and_eq_false_iff] at hnames
  obtain ⟨hscheme, hslashes⟩ := hnames
  simp only [join, read, hscheme] at h
  split at h
  · cases h
    rfl
  split at h
  · cases h
  · rw [hbase, if_neg Bool.false_ne_true] at h
    refine origin_readRelative (fun htwo => ?_) h
    rcases hslashes with hslashes | hslashes
    · simp [htwo.1] at hslashes
    · exact absurd (htwo.2.symm.trans hslashes) Bool.noConfusion

end Url

end CloudApi
