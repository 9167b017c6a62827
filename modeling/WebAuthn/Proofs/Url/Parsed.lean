import WebAuthn.Url.Basic

/-!
# Hosts and ports of URLs

* `Url.Located` — the host is one of a scheme with domains, and the port is not the usual one of the scheme;
* `Url.located_of_parse?` — every URL whose scheme has a usual port is such a URL, whatever text it was read from.
-/

namespace WebAuthn.Url

/-- Host and port are such as URLs of the scheme have. -/
def Located (scheme : String) (host : Option Host) (port : Option Nat) : Prop :=
  (∀ found ∈ host, ∃ text, Host.ofDomain? text = some found) ∧
    ∀ number ∈ port, number < 65536 ∧ defaultPort? scheme ≠ some number

variable {scheme : String} {host : Option Host} {port : Option Nat} {text : List Char}

theorem lt_of_port? {number : Nat} (h : port? text = some (some number)) : number < 65536 := by
  unfold port? at h
  simp only at h
  split at h
  · cases h
  · split at h
    · obtain ⟨n, _, h⟩ := Option.bind_eq_some_iff.1 h
      split at h
      · next hlt =>
        cases h
        exact hlt
      · cases h
    · cases h

/-- Reading the authority of a URL with a domain leaves the usual port out. -/
theorem located_of_hostAndPort? {hasUser : Bool} (hspecial : isSpecial scheme = true)
    (h : hostAndPort? scheme hasUser text = some (host, port)) : Located scheme host port := by
  unfold hostAndPort? at h
  simp only [hspecial, Bool.true_or, if_true] at h
  split at h
  · cases h
  · obtain ⟨found, hfound, h⟩ := Option.bind_eq_some_iff.1 h
    obtain ⟨given, hgiven, h⟩ := Option.bind_eq_some_iff.1 h
    obtain ⟨rfl, rfl⟩ := Prod.mk.inj (Option.some.inj h)
    constructor
    · intro other hother
      cases hother
      exact ⟨_, hfound⟩
    · intro number hnumber
      split at hnumber
      · cases hnumber
      · next hother =>
        obtain rfl := hnumber
        exact ⟨lt_of_port? hgiven, fun hsame => hother hsame.symm⟩

theorem located_of_authority? {endsHere : Bool} (hspecial : isSpecial scheme = true)
    (h : authority? scheme endsHere text = some (host, port)) : Located scheme host port := by
  unfold authority? at h
  split at h
  · exact located_of_hostAndPort? hspecial h
  · split at h
    · cases h
    · exact located_of_hostAndPort? hspecial h
  · exact located_of_hostAndPort? hspecial h

theorem located_of_afterSlashes? {hasQuery hasFragment : Bool} {url : Url}
    (hspecial : isSpecial scheme = true)
    (h : afterSlashes? scheme text hasQuery hasFragment = some url) :
    Located url.scheme url.host url.port := by
  obtain ⟨⟨host, port⟩, hauthority, h⟩ := Option.bind_eq_some_iff.1 h
  cases h
  exact located_of_authority? hspecial hauthority

/-- A URL of a file is one. -/
theorem scheme_of_file? {hasQuery hasFragment : Bool} {url : Url}
    (h : file? text hasQuery hasFragment = some url) : url.scheme = "file" := by
  unfold file? at h
  split at h
  · split at h
    · obtain ⟨_, _, h⟩ := Option.bind_eq_some_iff.1 h
      cases h
      rfl
    · cases h
      rfl
  · cases h
    rfl

theorem located_of_parse? {text : String} {url : Url} (h : parse? text = some url)
    (hscheme : (defaultPort? url.scheme).isSome = true) : Located url.scheme url.host url.port := by
  obtain ⟨⟨scheme, rest⟩, _, h⟩ := Option.bind_eq_some_iff.1 h
  simp only at h
  split at h
  · rw [scheme_of_file? h] at hscheme
    cases hscheme
  · split at h
    · next hspecial => exact located_of_afterSlashes? hspecial h
    · next hspecial =>
      -- the other schemes keep theirs, and it has no usual port
      have hother : url.scheme = scheme → False := by
        intro hsame
        rw [hsame] at hscheme
        exact hspecial (by rw [isSpecial, hscheme, Bool.true_or])
      split at h
      · obtain ⟨_, _, h⟩ := Option.bind_eq_some_iff.1 h
        cases h
        exact absurd rfl hother
      · cases h
        exact absurd rfl hother

end WebAuthn.Url
