import Docklane.Endpoints.Confinement
import Docklane.Endpoints.Stability

/-!
# Requests to private addresses

Both clients fetch a URL only right after their policy has let it pass. What the policy lets pass is
public as far as its test on the text of an address goes: a URL is fetched safely if and only if the
test recognises the addresses that were looked up for it.
-/

namespace Docklane.Endpoints

open Concurrent
open Concurrent.Program
open Control (Failure HealthCheckConfig)

/-- The text is that of a private address. -/
def IsPrivateText (text : String) : Prop :=
  ∃ address, readAddress text = some address ∧ address.IsPrivate

/-- The policy was run on the URL right before, and either the host is on the allowlist or the
scheme is HTTPS and no address that was looked up is private. -/
def SafelyReached {ε : Type} (policy : EndpointPolicy ε)
    (assertAllowed : Url → EndpointProgram ε Unit) (url : Url) (h : List EndpointEvent) : Prop :=
  ∃ check older, h = check.reverse ++ older ∧ Trace (assertAllowed url) check (.pure ()) ∧
    (policy.allowlists url = true ∨ url.protocol = "https:" ∧ ∀ hostname addresses,
      ⟨.lookup hostname, .ok addresses⟩ ∈ check → ∀ address ∈ addresses, ¬ IsPrivateText address)

/-- The host is on the allowlist, or the test recognises every address of the DNS answer right
before. -/
def Recognised {ε : Type} (policy : EndpointPolicy ε) (url : Url) (h : List EndpointEvent) : Prop :=
  policy.allowlists url = true ∨ ∀ hostname addresses,
    h.head? = some ⟨.lookup hostname, .ok addresses⟩ → ∀ address ∈ addresses, ¬ Unrecognised address

variable {ε : Type} {policy : EndpointPolicy ε} {url : Url} {h : List EndpointEvent}

/-- Of what the test lets pass, exactly the texts it does not recognise are private. -/
theorem isPrivateText_iff {text : String} (hpublic : isPrivateAddress text = false) :
    IsPrivateText text ↔ Unrecognised text := by
  constructor
  · rintro ⟨address, hread, hprivate⟩
    by_contra hrecognised
    rw [(recognises_iff hread).mpr hrecognised hprivate] at hpublic
    cases hpublic
  · intro hunrecognised
    obtain ⟨groups, hread, -⟩ := id hunrecognised
    by_contra hnone
    refine (recognises_iff hread).mp (fun hprivate => ?_) hunrecognised
    exact (hnone ⟨_, hread, hprivate⟩).elim

/-- A policy that only adds a check to `assertPublic`. -/
theorem safelyReached_iff {assertAllowed : Url → EndpointProgram ε Unit}
    (hpolicy : ∀ check, Trace (assertAllowed url) check (.pure ()) →
      Trace (policy.assertPublic url) check (.pure ()))
    (hpassed : PassedBefore assertAllowed url h) :
    SafelyReached policy assertAllowed url h ↔ Recognised policy url h := by
  constructor
  · rintro ⟨check, older, rfl, htrace, hsafe⟩
    rcases EndpointPolicy.assertPublic_passed (hpolicy check htrace) with
      ⟨hallowed, -⟩ | ⟨-, addresses, rfl, -, hpublic⟩
    · exact .inl hallowed
    · refine hsafe.imp_right fun hsafe hostname addresses' hhead address haddress => ?_
      cases hhead
      rw [← isPrivateText_iff (hpublic address haddress)]
      exact hsafe.2 _ _ List.mem_cons_self address haddress
  · intro hrecognised
    obtain ⟨check, older, rfl, htrace⟩ := hpassed
    refine ⟨check, older, rfl, htrace, ?_⟩
    rcases EndpointPolicy.assertPublic_passed (hpolicy check htrace) with
      ⟨hallowed, -⟩ | ⟨hhttps, addresses, rfl, -, hpublic⟩
    · exact .inl hallowed
    · refine hrecognised.imp_right fun hall =>
        ⟨hhttps, fun hostname addresses' hmem address ha => ?_⟩
      cases List.mem_singleton.mp hmem
      rw [isPrivateText_iff (hpublic address ha)]
      exact hall _ addresses rfl address ha

variable {privateHosts : List String} {sent : HttpRequest}

theorem assertHealthAllowed_public {check : List EndpointEvent}
    (h : Trace (assertHealthAllowed privateHosts url) check (.pure ())) :
    Trace ((healthPolicy privateHosts).assertPublic url) check (.pure ()) := by
  unfold assertHealthAllowed at h
  split at h
  · cases h
  · exact h

theorem assertRegistryAllowed_public {check : List EndpointEvent}
    (h : Trace (assertRegistryAllowed privateHosts url) check (.pure ())) :
    Trace ((registryPolicy privateHosts).assertPublic url) check (.pure ()) := by
  unfold assertRegistryAllowed at h
  split at h
  · cases h
  · exact h

theorem PassedBefore.append {assertAllowed : Url → EndpointProgram ε Unit}
    (hp : PassedBefore assertAllowed url h) (older : List EndpointEvent) :
    PassedBefore assertAllowed url (h ++ older) := by
  obtain ⟨check, older', rfl, htrace⟩ := hp
  exact ⟨check, older' ++ older, List.append_assoc .., htrace⟩

theorem wire_fetch {api : UrlApi} {op : VerifyOp} {last : List EndpointEvent}
    {k : Except String Response → EndpointProgram Failure op.Ans}
    (h : Trace (wire privateHosts api op) last (.request (.fetch sent) k)) :
    PassedBefore (assertHealthAllowed privateHosts) sent.url last.reverse := by
  have hnetwork (hop : op.IsNetwork) :
      PassedBefore (assertHealthAllowed privateHosts) sent.url last.reverse := by
    have hallowed := ((wire_follows hop).allowed_of_trace h).2.1
    rwa [List.append_nil] at hallowed
  cases op with
  | assertAllowed url => exact hnetwork trivial
  | safeFetch url timeoutMs => exact hnetwork trivial
  | _ =>
    rcases h.perform_inv with ⟨-, hr⟩ | ⟨a, -, hr⟩
    · cases hr
    · cases hr

theorem healthVerifier_passed {config : HealthCheckConfig} {api : UrlApi} {fuel : Nat}
    {t : List EndpointEvent} {k : Except String Response → EndpointProgram Failure Unit}
    (ht : Trace (healthVerifier config privateHosts api fuel) t (.request (.fetch sent) k)) :
    PassedBefore (assertHealthAllowed privateHosts) sent.url t.reverse := by
  obtain ⟨parts, loop, last, rfl, -, -, hend⟩ := ht.unlink
  rcases hend with ⟨-, r, -, hq⟩ | ⟨op, k', r, -, hlast, hq, hr⟩
  · cases r <;> cases hq
  · rw [List.reverse_append]
    refine PassedBefore.append ?_ _
    cases r with
    | pure a => exact (hr a rfl).elim
    | throw e => cases hq
    | request op' k'' =>
      cases hq
      exact wire_fetch hlast

theorem resolve_passed {client : RegistryClient} {imageRepository reference : String}
    {t : List EndpointEvent}
    {k : Except String Response → RegistryProgram RegistryClient.ResolvedRegistryArtifact}
    (ht : Trace (client.resolve imageRepository reference) t (.request (.fetch sent) k)) :
    PassedBefore client.assertAllowed sent.url t.reverse := by
  have hallowed := RegistryClient.resolve_follows.allowed_of_trace ht
  rw [List.append_nil] at hallowed
  exact hallowed.1

/-- Whatever a client fetches has just passed its policy, and it is fetched safely if and only if
the test recognises the addresses of that check. -/
theorem private_addresses_not_fetched (t : List EndpointEvent) (sent : HttpRequest) :
    (∀ (client : RegistryClient) (imageRepository reference : String) k,
      Trace (client.resolve imageRepository reference) t (.request (.fetch sent) k) →
      PassedBefore client.assertAllowed sent.url t.reverse ∧
        (SafelyReached (registryPolicy client.privateHosts) client.assertAllowed sent.url
          t.reverse ↔ Recognised (registryPolicy client.privateHosts) sent.url t.reverse)) ∧
    (∀ (config : HealthCheckConfig) (privateHosts : List String) (api : UrlApi) (fuel : Nat) k,
      Trace (healthVerifier config privateHosts api fuel) t (.request (.fetch sent) k) →
      PassedBefore (assertHealthAllowed privateHosts) sent.url t.reverse ∧
        (SafelyReached (healthPolicy privateHosts) (assertHealthAllowed privateHosts) sent.url
          t.reverse ↔ Recognised (healthPolicy privateHosts) sent.url t.reverse)) ∧
    ∀ text address, readAddress text = some address →
      ((address.IsPrivate → isPrivateAddress text = true) ↔ ¬ Unrecognised text) := by
  refine ⟨?_, ?_, fun text address => recognises_iff⟩
  · intro client imageRepository reference k ht
    have hpassed := resolve_passed ht
    exact ⟨hpassed, safelyReached_iff (fun _ => assertRegistryAllowed_public) hpassed⟩
  · intro config privateHosts api fuel k ht
    have hpassed := healthVerifier_passed ht
    exact ⟨hpassed, safelyReached_iff (fun _ => assertHealthAllowed_public) hpassed⟩

/-! ## Two DNS answers -/

/-- The verifier looks its host up, and again for its first check. -/
def lookupRun (address : String) : List EndpointEvent :=
  [⟨.lookup "app.internal", .ok [address]⟩, ⟨.now, 0⟩, ⟨.now, 0⟩, ⟨.assertConverged, .ok ()⟩,
    ⟨.lookup "app.internal", .ok [address]⟩]

def appRequest : HttpRequest := ⟨appUrl, "GET", ⟨none, none⟩, 500⟩

theorem publicRun_safe :
    (∃ k, Trace (healthVerifier (appConfig 0) [] appApi 2) (lookupRun "93.184.216.34")
      (.request (.fetch appRequest) k)) ∧
      Recognised (healthPolicy []) appUrl (lookupRun "93.184.216.34").reverse ∧
      SafelyReached (healthPolicy []) (assertHealthAllowed []) appUrl
        (lookupRun "93.184.216.34").reverse := by
  obtain ⟨k, hk⟩ : ∃ k, Trace (healthVerifier (appConfig 0) [] appApi 2) (lookupRun "93.184.216.34")
    (.request (.fetch appRequest) k) := ⟨_, trace_of_replay rfl⟩
  have hread : readAddress "93.184.216.34" = some (.v4 1572395042) := by decide
  have hrecognised : Recognised (healthPolicy []) appUrl (lookupRun "93.184.216.34").reverse := by
    refine .inr fun hostname addresses hhead address haddress => ?_
    cases hhead
    rintro ⟨groups, hgroups, -⟩
    cases hread.symm.trans (List.mem_singleton.mp haddress ▸ hgroups)
  exact ⟨⟨k, hk⟩, hrecognised,
    ((private_addresses_not_fetched _ appRequest).2.1 _ _ _ _ k hk).2.mpr hrecognised⟩

/-- The verifier fetches from 127.0.0.1 when it is written as a mapped address. -/
theorem mapped_loopback_fetched :
    (∃ k, Trace (healthVerifier (appConfig 0) [] appApi 2) (lookupRun "::ffff:127.0.0.1")
      (.request (.fetch appRequest) k)) ∧
      ¬ SafelyReached (healthPolicy []) (assertHealthAllowed []) appUrl
        (lookupRun "::ffff:127.0.0.1").reverse := by
  have htrace : Trace (healthVerifier (appConfig 0) [] appApi 2) (lookupRun "::ffff:127.0.0.1")
    (.request (.fetch appRequest) _) := trace_of_replay rfl
  refine ⟨⟨_, htrace⟩, fun hsafe => ?_⟩
  have hpassed := healthVerifier_passed htrace
  rcases (safelyReached_iff (fun _ => assertHealthAllowed_public) hpassed).mp hsafe with
    hallowed | hall
  · cases hallowed
  · refine hall _ _ rfl _ (List.mem_singleton_self _) ?_
    rw [← isPrivateText_iff (by decide)]
    exact ⟨.v6 [0, 0, 0, 0, 0, 0xffff, 0x7f00, 1], by decide,
      .inr (.inr (.inr ⟨_, rfl, .inr (.inr (.inl (by decide)))⟩))⟩

end Docklane.Endpoints
