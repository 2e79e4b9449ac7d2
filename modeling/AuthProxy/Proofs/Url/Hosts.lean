import AuthProxy.Outcome
import AuthProxy.Url.Reader

/-!
# The hosts of URLs

A URL that is read has a host with a name, or an address, or none: a name that is empty is refused or counts as none
(`host_ne_domain_nil`).
-/

namespace AuthProxy.Url

/-- What stands in brackets is an address. -/
theorem eq_ipv6_of_bracketed {s : List Char} {h : Host} (hs : bracketed s = some (.ok h)) : ∃ groups, h = .ipv6 groups := by
  unfold bracketed at hs
  split at hs
  · split at hs
    · cases hs
      exact ⟨_, rfl⟩
    · cases hs
  · cases hs

theorem webHost_ne_domain_nil {s : List Char} {h : Host} (hs : webHost s = .ok h) : h ≠ .domain [] := by
  unfold webHost at hs
  split at hs
  next hb =>
    obtain ⟨groups, rfl⟩ := eq_ipv6_of_bracketed (hs ▸ hb)
    nofun
  · split at hs
    · cases hs
    · cases hs
    next domain hne _ =>
      split at hs
      · split at hs
        · cases hs
          nofun
        · cases hs
      · cases hs
        intro he
        cases he
        exact hne rfl

theorem plainHost?_ne_domain_nil {s : List Char} {h : Host} (hs : plainHost? s = .ok (some h)) : h ≠ .domain [] := by
  unfold plainHost? at hs
  split at hs
  next hb =>
    obtain ⟨h', rfl, he⟩ := Outcome.map_eq_ok_iff.1 hs
    cases he
    obtain ⟨groups, rfl⟩ := eq_ipv6_of_bracketed hb
    nofun
  · split at hs
    · cases hs
    · split at hs
      · cases hs
      next hne =>
        cases hs
        intro he
        cases he
        exact hne rfl

theorem authorityHost_ne_domain_nil {web : Bool} {authority rest : List Char} {h : Host}
    (hs : authorityHost web authority rest = .ok (some h)) : h ≠ .domain [] := by
  simp only [authorityHost, bind, Except.bind, Functor.map, Except.map] at hs
  split at hs
  · cases hs
  split at hs
  · cases hs
  -- whatever is checked behind the host, it stays the one that was read
  split at hs
  · cases hw : webHost (splitHost false ((splitLast? '@' authority).getD ([], authority)).2).1 with
    | error cause =>
      rw [hw] at hs
      cases hs
    | ok host =>
      simp only [hw] at hs
      repeat' split at hs
      all_goals cases hs
      all_goals exact webHost_ne_domain_nil hw
  · cases hp : plainHost? (splitHost false ((splitLast? '@' authority).getD ([], authority)).2).1 with
    | error cause =>
      rw [hp] at hs
      cases hs
    | ok host =>
      simp only [hp] at hs
      repeat' split at hs
      all_goals cases hs
      all_goals exact plainHost?_ne_domain_nil hp

theorem fileHost_ne_domain_nil {s : List Char} {h : Host} (hs : fileHost s = .ok (some h)) : h ≠ .domain [] := by
  unfold fileHost at hs
  split at hs
  · split at hs
    · dsimp only at hs
      split at hs
      · cases hs
      · obtain ⟨host, hw, hs⟩ := Outcome.bind_eq_ok_iff.1 hs
        split at hs
        · cases hs
        · cases hs
          exact webHost_ne_domain_nil hw
    · cases hs
  · cases hs

/-- **No URL has an empty host.** -/
theorem host_ne_domain_nil {s : List Char} {url : Url} (h : parse s = .ok url) {host : Host}
    (hhost : url.host = some host) : host ≠ .domain [] := by
  unfold parse at h
  split at h
  · cases h
  next scheme r _ =>
    obtain ⟨o, ho, rfl⟩ := Outcome.map_eq_ok_iff.1 h
    dsimp only at hhost
    subst hhost
    split at ho
    · exact fileHost_ne_domain_nil ho
    · split at ho
      · exact authorityHost_ne_domain_nil ho
      · split at ho
        · exact authorityHost_ne_domain_nil ho
        · cases ho

end AuthProxy.Url
