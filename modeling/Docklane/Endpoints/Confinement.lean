import Docklane.Endpoints.Registry

/-!
# Credentials stay with their registry

Where a request with credentials may go is said about the history of the requests before it: which
URL answered with a challenge, and which URLs are reached from another one by redirects. One rule
for a chain of redirects carries a justification along the chain, and `resolve` is three chains.
-/

namespace Docklane.Endpoints

open Concurrent
open Concurrent.Program
open Control (toLowerCase)

/-! ## Hosts and origins -/

def Url.IsWeb (url : Url) : Prop :=
  url.protocol = "https:" ∨ url.protocol = "http:"

theorem Url.IsWeb.host_eq {u v : Url} (hu : u.IsWeb) (hv : v.IsWeb) (h : u.origin = v.origin) :
    u.host = v.host := by
  have horigin : u.protocol ++ "//" ++ u.host = v.protocol ++ "//" ++ v.host := by
    rw [← u.origin_web hu, ← v.origin_web hv, h]
  have hchars := congrArg String.toList horigin
  rcases hu with hu | hu <;> rcases hv with hv | hv <;>
    simp [hu, hv] at hchars <;> exact String.toList_injective hchars

theorem toLower_toLower {c : Char} : c.toLower.toLower = c.toLower := by
  have hall : ∀ n < 128, (Char.ofNat n).toLower.toLower = (Char.ofNat n).toLower := by
    decide +kernel
  by_cases hupper : c.val ≥ 'A'.val ∧ c.val ≤ 'Z'.val
  · have hc := hall c.toNat (lt_of_le_of_lt hupper.2 (by decide))
    rwa [Char.ofNat_toNat] at hc
  · have hsame : c.toLower = c := dif_neg hupper
    rw [hsame, hsame]

theorem lowered_lowered (text : String) : lowered (lowered text) = lowered text := by
  simp only [lowered, toLowerCase, String.toList_ofList, List.map_map]
  exact congrArg String.ofList (List.map_congr_left fun c _ => toLower_toLower)

theorem CredentialTable.credentialsFor_lowered (table : CredentialTable) (host : String) :
    table.credentialsFor (lowered host) = table.credentialsFor host := by
  rw [credentialsFor, credentialsFor, lowered_lowered]

/-! ## Redirects, challenges and tokens -/

variable {challenge : BearerChallenge} {sent : HttpRequest} {headers : RequestHeaders}
  {h₀ : List EndpointEvent} {start : Url} {path : String}

namespace RegistryClient

variable (client : RegistryClient)

/-- A request for `u` was answered with a redirect to `v`. -/
def Redirected (h : List EndpointEvent) (u v : Url) : Prop :=
  ∃ sent response location, ⟨.fetch sent, .ok response⟩ ∈ h ∧ sent.url = u ∧
    isRedirect response.status = true ∧ response.location = some location ∧
      client.api.join location u = some v

/-- The URLs that are reached by redirects. -/
inductive Reached (h : List EndpointEvent) (u : Url) : Url → Prop where
  | refl : Reached h u u
  | step {v w : Url} (hv : Reached h u v) (hw : client.Redirected h v w) : Reached h u w

/-- The URLs that are reached by redirects within one origin. -/
inductive ReachedWithin (h : List EndpointEvent) (u : Url) : Url → Prop where
  | refl : ReachedWithin h u u
  | step {v w : Url} (hv : ReachedWithin h u v) (hw : client.Redirected h v w)
      (horigin : w.origin = v.origin) : ReachedWithin h u w

/-- A request for the URL was answered with a challenge. -/
def Challenged (h : List EndpointEvent) (url : Url) (challenge : BearerChallenge) : Prop :=
  ∃ sent response, ⟨.fetch sent, .ok response⟩ ∈ h ∧ sent.url = url ∧ response.status = 401 ∧
    parseBearerChallenge response.wwwAuthenticate = some challenge

/-- The challenge led to the token: it was read from the response of the realm, or of a URL that the
realm redirects to. -/
def LedTo (h : List EndpointEvent) (challenge : BearerChallenge) (token : String) : Prop :=
  ∃ newer older sent response body realm path,
    h = newer ++ ⟨.readJson, .ok body⟩ :: ⟨.fetch sent, .ok response⟩ :: older ∧
      readToken body = some token ∧ client.api.parse challenge.realm = some realm ∧
      client.Reached older (client.tokenUrl challenge path realm) sent.url

/-- The credentials of a host may go to the host, to a realm that the host has named in a challenge,
and to the URLs that the realm redirects to within its origin. -/
def CredentialsMayGo (h : List EndpointEvent) (host : String) (url : Url) : Prop :=
  lowered url.host = lowered host ∨
    ∃ challenger challenge realm path, Challenged h challenger challenge ∧
      lowered challenger.host = lowered host ∧ client.api.parse challenge.realm = some realm ∧
      client.ReachedWithin h (client.tokenUrl challenge path realm) url

/-- Where a request with this authorization may go. -/
def MayGo (h : List EndpointEvent) (url : Url) : Option Authorization → Prop
  | none => True
  | some (.basic credentials) => ∃ host, client.credentials.credentialsFor host = some credentials ∧
      client.CredentialsMayGo h host url
  | some (.bearer token) => ∃ challenger challenge, Challenged h challenger challenge ∧
      client.LedTo h challenge token ∧ url.origin = challenger.origin

/-- The answer of a fetch is a redirect. -/
def IsRedirectAnswer : EndpointEvent → Prop
  | ⟨.fetch _, .ok response⟩ => isRedirect response.status = true
  | ⟨.fetch _, .error _⟩ => False
  | _ => True

/-- The chain of redirects at the end of the history has left an origin. -/
def LeftOrigin (h : List EndpointEvent) : Prop :=
  ∃ newer older sent response location next,
    h = newer ++ ⟨.fetch sent, .ok response⟩ :: older ∧ (∀ x ∈ newer, IsRedirectAnswer x) ∧
      isRedirect response.status = true ∧ response.location = some location ∧
      client.api.join location sent.url = some next ∧ next.origin ≠ sent.url.origin

/-- What `resolve` may ask for. -/
def Allowed (h : List EndpointEvent) : EndpointOp → Prop
  | .fetch sent => PassedBefore client.assertAllowed sent.url h ∧
      client.MayGo h sent.url sent.headers.authorization ∧
      (client.LeftOrigin h → sent.headers.authorization = none)
  | _ => True

variable {client} {h h' : List EndpointEvent} {u v w : Url}

theorem Redirected.mono (hr : client.Redirected h u v) (hs : h <:+ h') :
    client.Redirected h' u v := by
  obtain ⟨sent, response, location, hmem, hrest⟩ := hr
  exact ⟨sent, response, location, hs.subset hmem, hrest⟩

theorem Reached.mono (hr : client.Reached h u v) (hs : h <:+ h') : client.Reached h' u v := by
  induction hr with
  | refl => exact .refl
  | step _ hw ih => exact .step ih (hw.mono hs)

theorem ReachedWithin.mono (hr : client.ReachedWithin h u v) (hs : h <:+ h') :
    client.ReachedWithin h' u v := by
  induction hr with
  | refl => exact .refl
  | step _ hw horigin ih => exact .step ih (hw.mono hs) horigin

theorem Challenged.mono (hc : Challenged h u challenge) (hs : h <:+ h') :
    Challenged h' u challenge := by
  obtain ⟨sent, response, hmem, hrest⟩ := hc
  exact ⟨sent, response, hs.subset hmem, hrest⟩

theorem LedTo.mono {token : String} (hl : client.LedTo h challenge token) (hs : h <:+ h') :
    client.LedTo h' challenge token := by
  obtain ⟨newer, older, sent, response, body, realm, path, rfl, hrest⟩ := hl
  obtain ⟨more, rfl⟩ := hs
  exact ⟨more ++ newer, older, sent, response, body, realm, path,
    (List.append_assoc ..).symm, hrest⟩

theorem MayGo.mono {authorization : Option Authorization} (hm : client.MayGo h u authorization)
    (hs : h <:+ h') : client.MayGo h' u authorization := by
  match authorization, hm with
  | none, _ => trivial
  | some (.basic credentials), ⟨host, hhost, hgo⟩ =>
    refine ⟨host, hhost, hgo.imp id ?_⟩
    rintro ⟨challenger, challenge, realm, path, hc, hsame, hrealm, hreached⟩
    exact ⟨challenger, challenge, realm, path, hc.mono hs, hsame, hrealm, hreached.mono hs⟩
  | some (.bearer token), ⟨challenger, challenge, hc, hl, horigin⟩ =>
    exact ⟨challenger, challenge, hc.mono hs, hl.mono hs, horigin⟩

theorem MayGo.redirect {authorization : Option Authorization} (hm : client.MayGo h u authorization)
    (hr : client.Redirected h u v) (horigin : v.origin = u.origin) (hu : u.IsWeb) (hv : v.IsWeb) :
    client.MayGo h v authorization := by
  match authorization, hm with
  | none, _ => trivial
  | some (.basic credentials), ⟨host, hhost, hgo⟩ =>
    refine ⟨host, hhost, hgo.imp (fun hsame => ?_) ?_⟩
    · rw [hv.host_eq hu horigin, hsame]
    · rintro ⟨challenger, challenge, realm, path, hc, hsame, hrealm, hreached⟩
      exact ⟨challenger, challenge, realm, path, hc, hsame, hrealm, hreached.step hr horigin⟩
  | some (.bearer token), ⟨challenger, challenge, hc, hl, hsame⟩ =>
    exact ⟨challenger, challenge, hc, hl, horigin.trans hsame⟩

/-! ## One chain of redirects -/

theorem isWeb_of_passed (hp : PassedBefore client.assertAllowed u h) : u.IsWeb := by
  obtain ⟨check, older, -, htrace⟩ := hp
  unfold assertAllowed assertRegistryAllowed at htrace
  split at htrace
  · cases htrace
  · rename_i hprotocol
    simp only [ne_eq, not_and, not_not] at hprotocol
    by_cases hhttps : u.protocol = "https:"
    · exact .inl hhttps
    · exact .inr (hprotocol hhttps)

theorem LeftOrigin.of_cons {x : EndpointEvent} (hx : x.1.isFetch = false)
    (hl : client.LeftOrigin (x :: h)) : client.LeftOrigin h := by
  obtain ⟨newer, older, sent, response, location, next, heq, hnewer, hrest⟩ := hl
  cases newer with
  | nil =>
    obtain ⟨rfl, -⟩ := List.cons.inj heq
    cases hx
  | cons y newer =>
    obtain ⟨-, rfl⟩ := List.cons.inj heq
    exact ⟨newer, older, sent, response, location, next, rfl,
      fun z hz => hnewer z (List.mem_cons_of_mem _ hz), hrest⟩

theorem LeftOrigin.of_lookups {check : List EndpointEvent} (hcheck : ∀ x ∈ check, x.1.IsLookup)
    (hl : client.LeftOrigin (check ++ h)) : client.LeftOrigin h := by
  induction check with
  | nil => exact hl
  | cons x check ih =>
    obtain ⟨hx, hcheck⟩ := List.forall_mem_cons.mp hcheck
    exact ih hcheck (hl.of_cons hx.not_isFetch)

/-- A chain leaves an origin by the redirect of its last response, or it has left one before. -/
theorem LeftOrigin.of_fetch {response : Response}
    (hl : client.LeftOrigin (⟨.fetch sent, .ok response⟩ :: h)) :
    isRedirect response.status = true ∧ ((∃ location next, response.location = some location ∧
      client.api.join location sent.url = some next ∧ next.origin ≠ sent.url.origin) ∨
        client.LeftOrigin h) := by
  obtain ⟨newer, older, sent', response', location, next, heq, hnewer, hredirect, hrest⟩ := hl
  cases newer with
  | nil =>
    obtain ⟨hx, -⟩ := List.cons.inj heq
    cases hx
    exact ⟨hredirect, .inl ⟨location, next, hrest⟩⟩
  | cons y newer =>
    obtain ⟨rfl, rfl⟩ := List.cons.inj heq
    exact ⟨hnewer _ List.mem_cons_self, .inr ⟨newer, older, sent', response', location, next, rfl,
      fun z hz => hnewer z (List.mem_cons_of_mem _ hz), hredirect, hrest⟩⟩

variable (client) in
/-- A chain that began at `start` and the history `h₀` ended with this response of this URL. -/
def Answered (h₀ : List EndpointEvent) (start : Url) :
    Except RegistryFailure (Response × Url) → List EndpointEvent → Prop
  | .error _, _ => True
  | .ok (response, url), h => ∃ sent older, h = ⟨.fetch sent, .ok response⟩ :: older ∧
      sent.url = url ∧ isRedirect response.status = false ∧ client.api.IsUrl url ∧
      client.Reached older start url ∧ h₀ <:+ older

theorem allowed_of_isLookup (op : EndpointOp) (h' : List EndpointEvent) (hop : op.IsLookup) :
    client.Allowed h' op := by
  cases op with
  | fetch sent => exact hop.elim
  | _ => trivial

/-- The loop goes on with a redirect: it keeps the authorization only within the origin. -/
theorem safeFetch_redirected {start current next : Url}
    {loop : Url → RequestHeaders → RegistryProgram (Response × Url)}
    (hloop : ∀ {h : List EndpointEvent} {headers : RequestHeaders} {current : Url},
      client.api.IsUrl current → client.MayGo h current headers.authorization →
      (client.LeftOrigin h → headers.authorization = none) → client.Reached h start current →
      h₀ <:+ h → (loop current headers).Follows client.Allowed (client.Answered h₀ start) h)
    (hgo : client.MayGo h current headers.authorization)
    (hleft : client.LeftOrigin h → headers.authorization = none)
    (hreached : client.Reached h start current) (hbase : h₀ <:+ h) {check : List EndpointEvent}
    (hcheck : ∀ x ∈ check, x.1.IsLookup)
    (hpassed : PassedBefore client.assertAllowed current (check ++ h)) {response : Response}
    {location : String} (hredirect : isRedirect response.status = true)
    (hlocation : response.location = some location)
    (hnext : client.api.join location current = some next) (hsent : sent.url = current) :
    ((client.assertAllowed next).bind fun _ => loop next (nextHeaders current next headers)).Follows
      client.Allowed (client.Answered h₀ start)
      (⟨.fetch sent, .ok response⟩ :: (check ++ h)) := by
  refine follows_assertAllowed (assertRegistryAllowed_uses next)
    allowed_of_isLookup (fun _ _ _ => trivial) fun check' hcheck' hpassed' => ?_
  have hsuffix : h <:+ check' ++ ⟨.fetch sent, .ok response⟩ :: (check ++ h) :=
    (List.suffix_append check h).trans ((List.suffix_cons _ _).trans (List.suffix_append _ _))
  have hredirected : client.Redirected (check' ++ ⟨.fetch sent, .ok response⟩ :: (check ++ h))
      current next :=
    ⟨sent, response, location, by simp, hsent, hredirect, hlocation, hnext⟩
  refine hloop (client.api.isUrl_join hnext) ?_ ?_ ((hreached.mono hsuffix).step hredirected)
    (hbase.trans hsuffix)
  · unfold nextHeaders
    split
    · trivial
    · rename_i horigin
      exact (hgo.mono hsuffix).redirect hredirected (not_not.mp horigin) (isWeb_of_passed hpassed)
        (isWeb_of_passed hpassed')
  · unfold nextHeaders
    split
    · exact fun _ => rfl
    · rename_i horigin
      intro hl
      obtain ⟨-, ⟨location', next', hlocation', hnext', hne⟩ | hl⟩ :=
        (hl.of_lookups hcheck').of_fetch
      · cases hlocation.symm.trans hlocation'
        rw [hsent] at hnext' hne
        cases hnext.symm.trans hnext'
        exact (horigin hne).elim
      · exact hleft (hl.of_lookups hcheck)

theorem safeFetchLoop_follows {method : String} {n : Nat} {start current : Url}
    (hurl : client.api.IsUrl current) (hgo : client.MayGo h current headers.authorization)
    (hleft : client.LeftOrigin h → headers.authorization = none)
    (hreached : client.Reached h start current) (hbase : h₀ <:+ h) :
    (client.safeFetchLoop method n current headers).Follows client.Allowed
      (client.Answered h₀ start) h := by
  induction n generalizing current headers h with
  | zero => trivial
  | succ n ih =>
    refine follows_assertAllowed (assertRegistryAllowed_uses current)
      allowed_of_isLookup (fun _ _ _ => trivial) fun check hcheck hpassed => ?_
    have hsuffix : h <:+ check ++ h := List.suffix_append check h
    refine ⟨⟨hpassed, hgo.mono hsuffix, fun hl => hleft (hl.of_lookups hcheck)⟩, fun answer => ?_⟩
    cases answer with
    | error message => trivial
    | ok response =>
      change (if _ then _ else _ : RegistryProgram (Response × Url)).Follows _ _ _
      split
      · rename_i hredirect
        split
        · trivial
        · trivial
        · rename_i location _ hlocation
          split
          · trivial
          · rename_i next hnext
            exact safeFetch_redirected ih hgo hleft hreached hbase hcheck hpassed hredirect
              hlocation hnext rfl
      · rename_i hredirect
        exact ⟨_, check ++ h, rfl, rfl, by simpa using hredirect, hurl, hreached.mono hsuffix,
          hbase.trans hsuffix⟩

theorem Answered.not_leftOrigin {result : Response × Url}
    (ha : client.Answered h₀ start (.ok result) h) : ¬ client.LeftOrigin h := by
  obtain ⟨sent, older, rfl, -, hredirect, -⟩ := ha
  intro hl
  rw [hl.of_fetch.1] at hredirect
  cases hredirect

theorem safeFetch_follows {input method : String} (hstart : client.api.parse input = some start)
    (hgo : client.MayGo h start headers.authorization) (hfresh : ¬ client.LeftOrigin h) :
    (client.safeFetch input method headers).Follows client.Allowed (client.Answered h start) h := by
  unfold safeFetch withUrl
  rw [hstart]
  exact safeFetchLoop_follows (client.api.isUrl_parse hstart) hgo (fun hl => (hfresh hl).elim) .refl
    (List.suffix_refl h)

/-! ## The three chains of `resolve` -/

theorem isUrl_tokenUrl {realm : Url} (hrealm : client.api.IsUrl realm) :
    client.api.IsUrl (client.tokenUrl challenge path realm) := by
  unfold tokenUrl
  refine client.api.isUrl_setParam ?_
  split
  · exact hrealm
  · exact hrealm
  · exact client.api.isUrl_setParam hrealm

/-- The token that was read, and the history it was read at. -/
def TokenRead (client : RegistryClient) (h₀ : List EndpointEvent) (challenge : BearerChallenge) :
    Except RegistryFailure String → List EndpointEvent → Prop
  | .error _, _ => True
  | .ok token, h => client.LedTo h challenge token ∧ token ≠ "" ∧ h₀ <:+ h ∧ ¬ client.LeftOrigin h

theorem readTokenResponse_follows {realm : Url} {result : Response × Url}
    (hrealm : client.api.parse challenge.realm = some realm)
    (ha : client.Answered h₀ (client.tokenUrl challenge path realm) (.ok result) h) :
    (readTokenResponse result.1).Follows client.Allowed (client.TokenRead h₀ challenge) h := by
  have hfresh := ha.not_leftOrigin
  obtain ⟨sent, older, rfl, hsent, -, -, hreached, hbase⟩ := ha
  unfold readTokenResponse
  split_ifs
  · trivial
  · trivial
  · trivial
  · refine ⟨trivial, fun answer => ?_⟩
    cases answer with
    | error message => trivial
    | ok body =>
      dsimp only [Program.ofExcept, Program.bind]
      split
      · trivial
      · trivial
      · rename_i token hne htoken
        refine ⟨⟨[], older, sent, result.1, body, realm, path, rfl, htoken, hrealm,
          hsent ▸ hreached⟩, hne, ?_, fun hl => hfresh (hl.of_cons rfl)⟩
        exact hbase.trans ((List.suffix_cons _ _).trans (List.suffix_cons _ _))

theorem fetchBearerToken_follows {challenger : Url}
    (hchallenged : Challenged h challenger challenge) (hfresh : ¬ client.LeftOrigin h) :
    (client.fetchBearerToken challenge challenger.host path).Follows client.Allowed
      (client.TokenRead h challenge) h := by
  unfold fetchBearerToken
  split
  · trivial
  · rename_i realm hrealm
    refine follows_assertAllowed (assertRegistryAllowed_uses realm)
      allowed_of_isLookup (fun _ _ _ => trivial) fun check hcheck _ => ?_
    have hsuffix : h <:+ check ++ h := List.suffix_append check h
    have hstart := client.api.parse_href
      (isUrl_tokenUrl (client.api.isUrl_parse hrealm) : client.api.IsUrl
        (client.tokenUrl challenge path realm))
    have hgo : client.MayGo (check ++ h) (client.tokenUrl challenge path realm)
        ((client.credentials.credentialsFor challenger.host).map .basic) := by
      cases hc : client.credentials.credentialsFor challenger.host with
      | none => trivial
      | some credentials =>
        exact ⟨challenger.host, hc, .inr ⟨challenger, challenge, realm, path,
          hchallenged.mono hsuffix, rfl, hrealm, .refl⟩⟩
    refine follows_bind ((safeFetch_follows hstart hgo
      fun hl => hfresh (hl.of_lookups hcheck)).mono fun r h' ha => ?_)
    cases r with
    | error e => trivial
    | ok result =>
      refine (readTokenResponse_follows hrealm ha).mono fun r h'' htoken => ?_
      cases r with
      | error e => trivial
      | ok token => exact ⟨htoken.1, htoken.2.1, hsuffix.trans htoken.2.2.1, htoken.2.2.2⟩

theorem parseRepository_ok {api : UrlApi} {value : String} {repository : ParsedRepository}
    (hr : parseRepository api value = .ok repository) :
    ∃ url, api.IsUrl url ∧ url.IsWeb ∧ repository.host = lowered url.host ∧
      repository.baseUrl = url.protocol ++ "//" ++ url.host := by
  simp only [parseRepository] at hr
  split at hr
  · cases hr
  · split at hr
    · cases hr
    · rename_i url hparse
      split_ifs at hr with _ hprotocol
      cases hr
      refine ⟨url, api.isUrl_parse hparse, ?_, rfl, rfl⟩
      simp only [ne_eq, Bool.and_eq_true, decide_eq_true_eq, not_and, not_not] at hprotocol
      by_cases hhttps : url.protocol = "https:"
      · exact .inl hhttps
      · exact .inr (hprotocol hhttps)

theorem requestManifest_follows {input registryHost : String} {bearerToken : Option String}
    (hgo : ∀ start, client.api.parse input = some start →
      client.MayGo h start (client.manifestAuthorization registryHost bearerToken))
    (hfresh : ¬ client.LeftOrigin h) :
    (client.requestManifest input registryHost bearerToken).Follows client.Allowed
      (fun r h' => ∀ result, r = .ok result → ∃ start, client.Answered h start (.ok result) h')
      h := by
  cases hstart : client.api.parse input with
  | none =>
    unfold requestManifest safeFetch withUrl
    rw [hstart]
    exact fun result hresult => by cases hresult
  | some start =>
    refine (safeFetch_follows hstart (hgo start hstart) hfresh).mono fun r h' ha result hr => ?_
    subst hr
    exact ⟨start, ha⟩

theorem resolveManifest_follows {repository : ParsedRepository} {reference value : String}
    (hr : parseRepository client.api value = .ok repository) (hfresh : ¬ client.LeftOrigin h) :
    (client.resolveManifest repository reference).Follows client.Allowed (fun _ _ => True) h := by
  obtain ⟨url, hurl, hweb, hhost, hbase⟩ := parseRepository_ok hr
  refine follows_bind ((requestManifest_follows (fun start hstart => ?_) hfresh).mono
    fun r h' hanswered => ?_)
  · have hsame : start.host = url.host := client.api.host_parse hurl hweb (hbase ▸ hstart)
    change client.MayGo h start ((client.credentials.credentialsFor repository.host).map .basic)
    rw [hhost, CredentialTable.credentialsFor_lowered]
    cases hc : client.credentials.credentialsFor url.host with
    | none => trivial
    | some credentials => exact ⟨url.host, hc, .inl (by rw [hsame])⟩
  · cases r with
    | error e => trivial
    | ok manifest =>
      obtain ⟨start, ha⟩ := hanswered manifest rfl
      have hfresh' := ha.not_leftOrigin
      change (if _ then _ else _ : RegistryProgram Response).Follows _ _ _
      split
      · rename_i h401
        split
        · trivial
        · rename_i challenge hchallenge
          obtain ⟨sent, older, rfl, hsent, -, hmanifest, -⟩ := ha
          have hchallenged : Challenged (⟨.fetch sent, .ok manifest.1⟩ :: older) manifest.2
              challenge := ⟨sent, manifest.1, List.mem_cons_self, hsent, h401, hchallenge⟩
          refine follows_bind ((fetchBearerToken_follows hchallenged hfresh').mono
            fun r h'' htoken => ?_)
          cases r with
          | error e => trivial
          | ok token =>
            obtain ⟨hled, hne, hsuffix, hfresh''⟩ := htoken
            refine follows_bind ((requestManifest_follows (fun start hstart => ?_) hfresh'').mono
              fun r h' _ => by cases r <;> trivial)
            cases (client.api.parse_href hmanifest).symm.trans hstart
            have hbearer : client.manifestAuthorization manifest.2.host (some token) =
                some (.bearer token) := by
              unfold manifestAuthorization
              split
              · rename_i hnone
                cases hnone
              · rename_i hempty
                cases hempty
                exact (hne rfl).elim
              · rename_i hsome
                cases hsome
                rfl
            rw [hbearer]
            exact ⟨manifest.2, challenge, hchallenged.mono hsuffix, hled, rfl⟩
      · trivial

theorem resolve_follows {imageRepository reference : String} :
    (client.resolve imageRepository reference).Follows client.Allowed (fun _ _ => True) [] := by
  unfold resolve
  cases hr : parseRepository client.api imageRepository with
  | error e => trivial
  | ok repository =>
    change (client.withUrl repository.baseUrl _).Follows _ _ _
    unfold withUrl
    split
    · trivial
    · rename_i url _
      refine follows_assertAllowed (assertRegistryAllowed_uses url)
        allowed_of_isLookup (fun _ _ _ => trivial) fun check hcheck _ => ?_
      have hfresh : ¬ client.LeftOrigin (check ++ []) := by
        intro hl
        obtain ⟨newer, older, _, _, _, _, hnil, -⟩ := hl.of_lookups hcheck
        simp at hnil
      refine follows_bind ((resolveManifest_follows hr hfresh).mono fun r h' _ => ?_)
      cases r with
      | error e => trivial
      | ok response =>
        change (Program.ofExcept _).Follows _ _ _
        cases client.artifact imageRepository reference response <;> trivial

/-! ## Confinement -/

/-- What holds of a request that is sent at this point of the history. -/
structure Confined (client : RegistryClient) (h : List EndpointEvent) (sent : HttpRequest) :
    Prop where
  /-- The credentials are those of a host they may be sent for. -/
  basic : ∀ credentials, sent.headers.authorization = some (.basic credentials) →
    ∃ host, client.credentials.credentialsFor host = some credentials ∧
      client.CredentialsMayGo h host sent.url
  /-- Credentials that are configured for one host only go where those of this host may go. -/
  own : ∀ credentials host, sent.headers.authorization = some (.basic credentials) →
    (∀ host', client.credentials.credentialsFor host' = some credentials →
      lowered host' = lowered host) → client.CredentialsMayGo h host sent.url
  /-- A token goes only to the origin whose challenge led to it. -/
  bearer : ∀ token, sent.headers.authorization = some (.bearer token) →
    ∃ challenger challenge, Challenged h challenger challenge ∧ client.LedTo h challenge token ∧
      sent.url.origin = challenger.origin
  left : client.LeftOrigin h → sent.headers.authorization = none
  /-- A host without credentials gets those of another one only as a realm that the other host has
  named itself. -/
  foreign : ∀ credentials, sent.headers.authorization = some (.basic credentials) →
    client.credentials.credentialsFor sent.url.host = none →
    ∃ host challenger challenge realm path,
      client.credentials.credentialsFor host = some credentials ∧
        Challenged h challenger challenge ∧ lowered challenger.host = lowered host ∧
        client.api.parse challenge.realm = some realm ∧
        client.ReachedWithin h (client.tokenUrl challenge path realm) sent.url

theorem credentialsFor_congr {table : CredentialTable} {host host' : String}
    (hsame : lowered host = lowered host') :
    table.credentialsFor host = table.credentialsFor host' := by
  rw [CredentialTable.credentialsFor, CredentialTable.credentialsFor, hsame]

theorem Allowed.confined (ha : client.Allowed h (.fetch sent)) : client.Confined h sent := by
  obtain ⟨-, hgo, hleft⟩ := ha
  have hbasic : ∀ credentials, sent.headers.authorization = some (.basic credentials) →
      ∃ host, client.credentials.credentialsFor host = some credentials ∧
        client.CredentialsMayGo h host sent.url := by
    intro credentials hc
    rw [hc] at hgo
    exact hgo
  constructor
  case basic => exact hbasic
  case own =>
    intro credentials host hc honly
    obtain ⟨host', hhost', hgo'⟩ := hbasic credentials hc
    unfold CredentialsMayGo at hgo' ⊢
    rwa [honly host' hhost'] at hgo'
  case bearer =>
    intro token hc
    rw [hc] at hgo
    exact hgo
  case left => exact hleft
  case foreign =>
    intro credentials hc hnone
    obtain ⟨host, hhost, hsame | ⟨challenger, challenge, realm, path, hrest⟩⟩ :=
      hbasic credentials hc
    · rw [credentialsFor_congr hsame, hhost] at hnone
      cases hnone
    · exact ⟨host, challenger, challenge, realm, path, hhost, hrest⟩

/-- Whatever the servers answer, every request that `resolve` sends carries credentials and tokens
only where they may go. -/
theorem credentials_confined {imageRepository reference : String} {t : List EndpointEvent}
    {sent : HttpRequest} {k : Except String Response → RegistryProgram ResolvedRegistryArtifact}
    (ht : Trace (client.resolve imageRepository reference) t (.request (.fetch sent) k)) :
    client.Confined t.reverse sent := by
  have hallowed := resolve_follows.allowed_of_trace ht
  rw [List.append_nil] at hallowed
  exact Allowed.confined hallowed

end RegistryClient

/-! ## A registry with a token service -/

def manifestUrl : Url := webUrl "registry.internal" "/v2/app/manifests/latest"

def realmUrl : Url := webUrl "auth.internal" "/token"

/-- The realm with the scope of the repository. -/
def scopedUrl : Url :=
  { realmUrl with
    href := "https://auth.internal/token?scope=repository%3Aapp%3Apull"
    search := "?scope=repository%3Aapp%3Apull" }

/-- The base URL is written without the path that it has. -/
def appTexts : List (String × Url) :=
  ("https://registry.internal", webUrl "registry.internal" "/") ::
    [webUrl "registry.internal" "/", webUrl "registry.internal" "/app", manifestUrl, realmUrl,
      scopedUrl].map fun url => (url.href, url)

def appClient : RegistryClient where
  api := .ofTable appTexts [(("scope", "repository:app:pull", realmUrl), scopedUrl)] (by decide)
    (by decide) (by decide)
  privateHosts := ["registry.internal", "auth.internal"]
  credentials := [("registry.internal", ⟨"ci", "secret"⟩)]
  safeInteger _ := none

def plainResponse (status : Nat) (wwwAuthenticate : Option String) : Response where
  status := status
  location := none
  wwwAuthenticate := wwwAuthenticate
  dockerContentDigest := none
  contentType := none
  contentLength := none

def basicCi : Option Authorization := some (.basic ⟨"ci", "secret"⟩)

/-- The registry challenges, and its token service answers with a token. -/
def challengedRun : List EndpointEvent :=
  [⟨.fetch ⟨manifestUrl, "HEAD", ⟨some ACCEPT_MANIFESTS, basicCi⟩, 10000⟩,
      .ok (plainResponse 401 (some "Bearer realm=\"https://auth.internal/token\""))⟩,
    ⟨.fetch ⟨scopedUrl, "GET", ⟨none, basicCi⟩, 10000⟩, .ok (plainResponse 200 none)⟩,
    ⟨.readJson, .ok (.object [("token", .string "t")])⟩]

/-- The second request for the manifest. -/
def bearerRequest : HttpRequest :=
  ⟨manifestUrl, "HEAD", ⟨some ACCEPT_MANIFESTS, some (.bearer "t")⟩, 10000⟩

set_option maxRecDepth 8000 in
theorem challengedRun_trace :
    ∃ k, Trace (appClient.resolve "registry.internal/app" "latest") challengedRun
      (.request (.fetch bearerRequest) k) :=
  ⟨_, trace_of_replay rfl⟩

theorem challengedRun_confined :
    (∃ k, Trace (appClient.resolve "registry.internal/app" "latest") challengedRun
      (.request (.fetch bearerRequest) k)) ∧
      appClient.Confined challengedRun.reverse bearerRequest := by
  obtain ⟨k, hk⟩ := challengedRun_trace
  exact ⟨⟨k, hk⟩, RegistryClient.credentials_confined hk⟩

end Docklane.Endpoints
