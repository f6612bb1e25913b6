import BuilderRelay.Proofs.Url.Appending

/-!
# The address that is asked

The check of an endpoint looks at the endpoint alone, while the address that is asked is its text
with the route behind it. The two agree on the scheme, the host and the port of an endpoint that has
a host, or a path without hierarchy, and no space behind it. They agree on the path as well unless
the endpoint has a query or a fragment: that swallows the route, and the endpoint itself is asked.
-/

namespace BuilderRelay.BeaconClient

open Url (isEdge isPathEnd)

/-- The route is set off by one slash, whether or not the endpoint ends with one. -/
theorem syncingUrl_eq (c : BeaconClient) :
    ∃ added, c.syncingUrl = c.endpoint ++ added ∧
      Url.Joins c.endpoint.toList added.toList := by
  by_cases hslash : c.endpoint.toList.getLast? = some '/'
  · refine ⟨syncingRoute, ?_, .inr ⟨rfl, hslash⟩⟩
    rw [syncingUrl, routeUrl, if_pos hslash]
  · refine ⟨"/" ++ syncingRoute, ?_, .inl rfl⟩
    rw [syncingUrl, routeUrl, if_neg hslash, String.append_assoc]

theorem config_of_create {config : BeaconConfig} {c : BeaconClient} (h : create config = .ok c) :
    c.config = config := by
  unfold create at h
  split at h
  · cases h
  · split at h
    · cases h
    · split at h
      · cases h
      · rw [← Except.ok.inj h]

theorem create_of_read (config : BeaconConfig) (hread : (readUrl config.endpoint).isOk)
    (hblank : Text.isBlank config.endpoint = false) (htimeout : config.requestTimeoutSecs ≠ 0) :
    create config = .ok ⟨config⟩ := by
  cases h : readUrl config.endpoint with
  | error fault =>
      rw [h] at hread
      cases hread
  | ok u => simp only [create, h, hblank, Bool.false_eq_true, if_false, if_neg htimeout]

/-- The address that is asked is accepted by the check of the endpoint, and names the same node. It
goes on with the route, unless the endpoint has a query or a fragment. -/
theorem syncing_url_on_node {config : BeaconConfig} {c : BeaconClient} {u : Url}
    (hcreate : create config = .ok c) (hread : readUrl config.endpoint = .ok u)
    (hhost : u.host.isSome ∨ u.opaquePath)
    (hlast : ∀ ch ∈ config.endpoint.toList.getLast?, isEdge ch = false) :
    ∃ asked, readUrl c.syncingUrl = .ok asked ∧ asked.scheme = u.scheme ∧ asked.host = u.host ∧
      asked.port = u.port ∧
      ((∀ ch ∈ config.endpoint.toList, isPathEnd ch = false) →
        ∃ base, asked.path = base ++ "/eth/v1/node/syncing") ∧
      ((∃ ch ∈ config.endpoint.toList, isPathEnd ch) → asked.path = u.path) := by
  have hendpoint : c.endpoint = config.endpoint := by rw [endpoint, config_of_create hcreate]
  obtain ⟨added, hurl, hjoin⟩ := syncingUrl_eq c
  rw [hendpoint] at hurl hjoin
  obtain ⟨asked, hasked, hcontinues⟩ := Url.readUrl_append hread hhost hlast hjoin
  refine ⟨asked, hurl ▸ hasked, hcontinues.scheme_eq, hcontinues.host_eq, hcontinues.port_eq,
    fun hplain => hcontinues.path_of_plain ?_, hcontinues.path_of_marked⟩
  rintro ⟨ch, hch, hend⟩
  rw [hplain ch hch] at hend
  cases hend

theorem syncing_url_on_localhost :
    ∃ c u, create ⟨"http://localhost:5052", 30⟩ = .ok c ∧
      readUrl "http://localhost:5052" = .ok u ∧ (u.host.isSome ∨ u.opaquePath) ∧
      (∀ ch ∈ "http://localhost:5052".toList.getLast?, isEdge ch = false) ∧
      ∃ asked, readUrl c.syncingUrl = .ok asked ∧ asked.host = u.host ∧
        ∃ base, asked.path = base ++ "/eth/v1/node/syncing" := by
  have hhost : (readUrl "http://localhost:5052").map (·.host.isSome) = .ok true := by decide +kernel
  cases hread : readUrl "http://localhost:5052" with
  | error fault =>
      rw [hread] at hhost
      cases hhost
  | ok u =>
      rw [hread] at hhost
      have hcreate := create_of_read ⟨"http://localhost:5052", 30⟩ (by rw [hread]; rfl) (by decide)
        (by decide)
      have hlast : ∀ ch ∈ "http://localhost:5052".toList.getLast?, isEdge ch = false := by
        rintro ch ⟨⟩
        rfl
      have hplain : "http://localhost:5052".toList.all (!isPathEnd ·) := rfl
      have hsome : u.host.isSome := Except.ok.inj hhost
      obtain ⟨asked, hasked, -, heq, -, hpath, -⟩ :=
        syncing_url_on_node hcreate hread (.inl hsome) hlast
      exact ⟨_, u, hcreate, rfl, .inl hsome, hlast, asked, hasked, heq, hpath (by simpa using hplain)⟩

/-- An endpoint with a query makes a client that asks for the query of the root, not for the sync
status; one with a space behind it makes a client that asks for what is no address. -/
theorem syncing_url_swallowed :
    (∃ c, create ⟨"http://localhost:5052/?token=abc", 30⟩ = .ok c ∧
      ∃ u, readUrl c.syncingUrl = .ok u ∧ ∀ base, u.path ≠ base ++ "/eth/v1/node/syncing") ∧
    ∃ c, create ⟨"http://localhost:5052 ", 30⟩ = .ok c ∧
      readUrl c.syncingUrl = .error .invalidPort := by
  constructor
  · have haccepted : (readUrl "http://localhost:5052/?token=abc").isOk := by decide +kernel
    have hpath : (readUrl "http://localhost:5052/?token=abc/eth/v1/node/syncing").map (·.path) =
        .ok "/" := by decide +kernel
    refine ⟨_, create_of_read _ haccepted (by decide) (by decide), ?_⟩
    cases hasked : readUrl "http://localhost:5052/?token=abc/eth/v1/node/syncing" with
    | error fault =>
        rw [hasked] at hpath
        cases hpath
    | ok u =>
        rw [hasked] at hpath
        refine ⟨u, hasked, fun base hbase => ?_⟩
        have hroot : u.path = "/" := Except.ok.inj hpath
        have hlength := congrArg String.length (hroot.symm.trans hbase)
        rw [String.length_append] at hlength
        have hlong : "/eth/v1/node/syncing".length = 20 := by decide
        have hshort : "/".length = 1 := by decide
        omega
  · have haccepted : (readUrl "http://localhost:5052 ").isOk := by decide +kernel
    have hasked : readUrl "http://localhost:5052 /eth/v1/node/syncing" =
        .error .invalidPort := by decide +kernel
    exact ⟨_, create_of_read _ haccepted (by decide) (by decide), hasked⟩

end BuilderRelay.BeaconClient
