import Docklane.Concurrent.Linking
import Docklane.Endpoints.Address

/-!
# Endpoint policies

`HealthEndpointPolicy` of `deployments/health-endpoint.policy.ts` and `RegistryEndpointPolicy` of
`registry/registry-endpoint.policy.ts`. Both let a host of their allowlist pass and look up any
other one; `assertPublic` is what they share. The WHATWG `URL` is outside the repository: a `Url` is
the record of the attributes the code reads, and `UrlApi` its constructor.
-/

namespace Docklane.Endpoints

open Concurrent
open Concurrent.Program
open Control (toLowerCase)

/-- The attributes of a `URL`. The origin of an HTTP URL is its scheme and its host. -/
structure Url where
  href : String
  protocol : String
  username : String
  password : String
  host : String
  hostname : String
  pathname : String
  search : String
  hash : String
  origin : String
  origin_web : protocol = "https:" ∨ protocol = "http:" → origin = protocol ++ "//" ++ host
  deriving DecidableEq

structure RegistryCredentials where
  username : String
  password : String
  deriving DecidableEq, Repr

/-- The value of an authorization header, before it is written as text. -/
inductive Authorization where
  | basic (credentials : RegistryCredentials)
  | bearer (token : String)
  deriving DecidableEq, Repr

structure RequestHeaders where
  accept : Option String
  authorization : Option Authorization
  deriving DecidableEq, Repr

/-- A `fetch` with `redirect: 'manual'`. -/
structure HttpRequest where
  url : Url
  method : String
  headers : RequestHeaders
  timeoutMs : Nat
  deriving DecidableEq

/-- A response with the headers that are read. -/
structure Response where
  status : Nat
  location : Option String
  wwwAuthenticate : Option String
  dockerContentDigest : Option String
  contentType : Option String
  contentLength : Option String
  deriving DecidableEq, Repr

/-- A value of `JSON.parse`. -/
inductive Json where
  | null
  | bool (value : Bool)
  | number (text : String)
  | string (value : String)
  | array (values : List Json)
  | object (entries : List (String × Json))

/-- What the endpoints' clients ask for. -/
inductive EndpointOp where
  | lookup (hostname : String)
  | fetch (request : HttpRequest)
  /-- `response.body?.cancel()`, for the last response. -/
  | cancelBody
  /-- `response.json()`, for the last response. -/
  | readJson
  | now
  | sleep (ms : Nat)
  /-- The callback `assertConverged`; without one the answer is `ok`. -/
  | assertConverged
  /-- Never answered: a loop that has used up its fuel stays here. -/
  | hang
  deriving DecidableEq

abbrev EndpointOp.Ans : EndpointOp → Type
  | lookup _ => Except String (List String)
  | fetch _ => Except String Response
  | cancelBody => Except String Unit
  | readJson => Except String Json
  | now => Int
  | sleep _ => Unit
  | assertConverged => Except Control.Failure Unit
  | hang => Empty

abbrev EndpointProgram (ε α : Type) := Program EndpointOp EndpointOp.Ans ε α

abbrev EndpointEvent := Event EndpointOp EndpointOp.Ans

/-- `[301, 302, 303, 307, 308].includes(status)`. -/
def isRedirect (status : Nat) : Bool :=
  [301, 302, 303, 307, 308].contains status

/-- The class `URL`: `new URL(text)`, `new URL(text, base)` and `searchParams.set`. -/
structure UrlApi where
  parse : String → Option Url
  join : String → Url → Option Url
  setParam : String → String → Url → Url
  /-- The attributes are those of an object of the class. -/
  IsUrl : Url → Prop
  isUrl_parse : ∀ {text url}, parse text = some url → IsUrl url
  isUrl_join : ∀ {text base url}, join text base = some url → IsUrl url
  isUrl_setParam : ∀ {name value url}, IsUrl url → IsUrl (setParam name value url)
  /-- A URL that is written and read again is the same. -/
  parse_href : ∀ {url}, IsUrl url → parse url.href = some url
  /-- The host ends at the first slash behind it. -/
  host_parse : ∀ {url path result}, IsUrl url → url.protocol = "https:" ∨ url.protocol = "http:" →
    parse (url.protocol ++ "//" ++ url.host ++ "/" ++ path) = some result → result.host = url.host

/-- An HTTPS URL without credentials and query. -/
def webUrl (host pathname : String) : Url where
  href := "https://" ++ host ++ pathname
  protocol := "https:"
  username := ""
  password := ""
  host := host
  hostname := host
  pathname := pathname
  search := ""
  hash := ""
  origin := "https:" ++ "//" ++ host
  origin_web := fun _ => rfl

theorem mem_of_lookup {α β : Type} [BEq α] [LawfulBEq α] {table : List (α × β)} {key : α}
    {value : β} (h : table.lookup key = some value) : (key, value) ∈ table := by
  obtain ⟨before, after, rfl, -⟩ := List.lookup_eq_some_iff.mp h
  exact List.mem_append_right _ List.mem_cons_self

/-- The class on finite tables: the URLs of some texts, and the results of `searchParams.set`. -/
def UrlApi.ofTable (texts : List (String × Url)) (params : List ((String × String × Url) × Url))
    (hhref : ∀ entry ∈ texts, texts.lookup entry.2.href = some entry.2)
    (hparams : ∀ entry ∈ params, ∃ text ∈ texts, text.2 = entry.2)
    (hhost : ∀ entry ∈ texts, ∀ other ∈ texts,
      (entry.2.protocol ++ "//" ++ entry.2.host ++ "/").toList <+: other.1.toList →
        other.2.host = entry.2.host) : UrlApi where
  parse text := texts.lookup text
  join text _ := texts.lookup text
  setParam name value url := (params.lookup (name, value, url)).getD url
  IsUrl url := ∃ entry ∈ texts, entry.2 = url
  isUrl_parse h := ⟨_, mem_of_lookup h, rfl⟩
  isUrl_join h := ⟨_, mem_of_lookup h, rfl⟩
  isUrl_setParam := by
    intro name value url hurl
    cases h : params.lookup (name, value, url) with
    | none => exact hurl
    | some result => exact hparams _ (mem_of_lookup h)
  parse_href := by
    rintro _ ⟨entry, hentry, rfl⟩
    exact hhref entry hentry
  host_parse := by
    rintro _ path result ⟨entry, hentry, rfl⟩ - hparse
    refine hhost entry hentry _ (mem_of_lookup hparse) ?_
    exact ⟨path.toList, String.toList_append.symm⟩

/-! ## The policies -/

/-- An allowlist, and the errors of a policy. -/
structure EndpointPolicy (ε : Type) where
  privateHosts : List String
  insecure : ε
  privateHost : ε
  unresolved : ε

variable {ε : Type}

def isLocalName (hostname : List Char) : Bool :=
  hostname = "localhost".toList || ".localhost".toList.isSuffixOf hostname ||
    ".local".toList.isSuffixOf hostname

namespace EndpointPolicy

variable (policy : EndpointPolicy ε) (url : Url)

/-- `this.privateHosts.has(url.host.toLowerCase())`. -/
def allowlists : Bool :=
  policy.privateHosts.contains (String.ofList (toLowerCase url.host))

def assertPublic : EndpointProgram ε Unit :=
  if policy.allowlists url then .pure ()
  else if url.protocol ≠ "https:" then .throw policy.insecure
  else if isLocalName (toLowerCase url.hostname) then .throw policy.privateHost
  else
    .request (.lookup (String.ofList (toLowerCase url.hostname))) fun answer =>
      match answer with
      | .error _ => .throw policy.unresolved
      | .ok addresses =>
        if addresses.isEmpty || addresses.any isPrivateAddress then .throw policy.privateHost
        else .pure ()

end EndpointPolicy

/-- `HealthEndpointPolicy.assertAllowed`, with the allowlist of `DOCKLANE_HEALTH_PRIVATE_HOSTS`. -/
def healthPolicy (privateHosts : List String) : EndpointPolicy Control.Failure where
  privateHosts := privateHosts
  insecure := .error "Public health endpoints must use HTTPS"
  privateHost := .error "Private health endpoints must be explicitly allowlisted"
  unresolved := .error "Health endpoint hostname could not be resolved"

def assertHealthAllowed (privateHosts : List String) (url : Url) :
    EndpointProgram Control.Failure Unit :=
  if url.username ≠ "" ∨ url.password ≠ "" then
    .throw (.error "Health URL must not contain credentials")
  else (healthPolicy privateHosts).assertPublic url

inductive RegistryErrorCode where
  | INVALID_REPOSITORY
  | AUTHENTICATION_REQUIRED
  | ACCESS_DENIED
  | MANIFEST_NOT_FOUND
  | RATE_LIMITED
  | INVALID_DIGEST
  | REGISTRY_UNAVAILABLE
  deriving DecidableEq, Repr

inductive RegistryFailure where
  | request (code : RegistryErrorCode) (message : String)
  /-- The `TypeError` of a URL that cannot be read. -/
  | invalidUrl
  deriving DecidableEq, Repr

/-- `RegistryEndpointPolicy.assertAllowed`, with the allowlist of `DOCKLANE_REGISTRY_PRIVATE_HOSTS`.
-/
def registryPolicy (privateHosts : List String) : EndpointPolicy RegistryFailure where
  privateHosts := privateHosts
  insecure := .request .INVALID_REPOSITORY "Public registry endpoints must use HTTPS"
  privateHost := .request .INVALID_REPOSITORY
    "Private registry hosts must be explicitly allowlisted"
  unresolved := .request .REGISTRY_UNAVAILABLE "Registry hostname could not be resolved"

def assertRegistryAllowed (privateHosts : List String) (url : Url) :
    EndpointProgram RegistryFailure Unit :=
  if url.protocol ≠ "https:" ∧ url.protocol ≠ "http:" then
    .throw (.request .INVALID_REPOSITORY "Registry endpoint must use HTTP or HTTPS")
  else (registryPolicy privateHosts).assertPublic url

/-! ## What a policy lets pass -/

/-- The host is on the allowlist, or the scheme is HTTPS and the host was looked up and none of its
addresses looks private. -/
theorem EndpointPolicy.assertPublic_passed {policy : EndpointPolicy ε} {url : Url}
    {t : List EndpointEvent} (h : Trace (policy.assertPublic url) t (.pure ())) :
    policy.allowlists url = true ∧ t = [] ∨
      url.protocol = "https:" ∧ ∃ addresses,
        t = [⟨.lookup (String.ofList (toLowerCase url.hostname)), .ok addresses⟩] ∧
          addresses ≠ [] ∧ ∀ address ∈ addresses, isPrivateAddress address = false := by
  unfold assertPublic at h
  split_ifs at h with hallowed hprotocol hlocal
  · cases h
    exact .inl ⟨hallowed, rfl⟩
  · cases h
  · cases h
  · refine .inr ⟨not_not.mp hprotocol, ?_⟩
    cases h with
    | @cons _ _ answer _ _ hrest =>
      cases answer with
      | error message => cases hrest
      | ok addresses =>
        simp only at hrest
        split_ifs at hrest with hbad
        · cases hrest
        · cases hrest
          simp only [Bool.or_eq_true, List.isEmpty_iff, List.any_eq_true, not_or, not_exists,
            not_and, Bool.not_eq_true] at hbad
          exact ⟨addresses, rfl, hbad.1, hbad.2⟩

/-- Requests that look up a host. -/
def EndpointOp.IsLookup : EndpointOp → Prop
  | .lookup _ => True
  | _ => False

def EndpointOp.isFetch : EndpointOp → Bool
  | .fetch _ => true
  | _ => false

theorem EndpointOp.IsLookup.not_isFetch {op : EndpointOp} (h : op.IsLookup) :
    op.isFetch = false := by
  cases op with
  | fetch sent => exact h.elim
  | _ => rfl

theorem EndpointPolicy.assertPublic_uses {policy : EndpointPolicy ε} {url : Url} :
    (policy.assertPublic url).Uses EndpointOp.IsLookup := by
  unfold assertPublic
  split_ifs
  · trivial
  · trivial
  · trivial
  · refine ⟨trivial, fun answer => ?_⟩
    cases answer with
    | error message => trivial
    | ok addresses =>
      change (if _ then _ else _ : EndpointProgram ε Unit).Uses _
      split <;> trivial

theorem assertHealthAllowed_uses {privateHosts : List String} {url : Url} :
    (assertHealthAllowed privateHosts url).Uses EndpointOp.IsLookup := by
  unfold assertHealthAllowed
  split
  · trivial
  · exact EndpointPolicy.assertPublic_uses

theorem assertRegistryAllowed_uses {privateHosts : List String} (url : Url) :
    (assertRegistryAllowed privateHosts url).Uses EndpointOp.IsLookup := by
  unfold assertRegistryAllowed
  split
  · trivial
  · exact EndpointPolicy.assertPublic_uses

/-! ## Fetching what the policy has let pass -/

/-- The policy was run on a URL right before this point of the history, and let it pass. -/
def PassedBefore (assertAllowed : Url → EndpointProgram ε Unit) (url : Url)
    (h : List EndpointEvent) : Prop :=
  ∃ check older, h = check.reverse ++ older ∧ Trace (assertAllowed url) check (.pure ())

/-- A URL is fetched only right after the policy has let it pass. -/
def FetchesPassed (assertAllowed : Url → EndpointProgram ε Unit) (h : List EndpointEvent) :
    EndpointOp → Prop
  | .fetch sent => PassedBefore assertAllowed sent.url h
  | _ => True

/-- What a policy asks for is allowed anywhere, and what follows may use that the policy let the URL
pass. -/
theorem follows_assertAllowed {α : Type} {assertAllowed : Url → EndpointProgram ε Unit} {url : Url}
    (hlookups : (assertAllowed url).Uses EndpointOp.IsLookup)
    {allowed : List EndpointEvent → EndpointOp → Prop}
    (hallowed : ∀ op h', op.IsLookup → allowed h' op) {h : List EndpointEvent}
    {k : Unit → EndpointProgram ε α} {Q : Except ε α → List EndpointEvent → Prop}
    (herror : ∀ e check, (∀ x ∈ check, x.1.IsLookup) → Q (.error e) (check ++ h))
    (hk : ∀ check, (∀ x ∈ check, x.1.IsLookup) → PassedBefore assertAllowed url (check ++ h) →
      (k ()).Follows allowed Q (check ++ h)) :
    ((assertAllowed url).bind k).Follows allowed Q h := by
  have hcheck : (assertAllowed url).Follows allowed (fun _ _ => True) h := hlookups.follows hallowed
  refine follows_bind (hcheck.traced.mono ?_)
  rintro (e | _) h' ⟨-, check, rfl, htrace⟩
  · exact herror e _ fun x hx => hlookups.of_trace htrace x (List.mem_reverse.mp hx)
  · exact hk _ (fun x hx => hlookups.of_trace htrace x (List.mem_reverse.mp hx))
      ⟨check, h, rfl, htrace⟩

end Docklane.Endpoints
