import Docklane.Endpoints.Policy

/-!
# The registry client

`RegistryClient` of `registry/registry.client.ts` and the credentials of
`registry/env-registry-credential.provider.ts`.
-/

namespace Docklane.Endpoints

open Concurrent
open Concurrent.Program
open Control (toLowerCase includes isHexDigit)

abbrev RegistryProgram (α : Type) := EndpointProgram RegistryFailure α

/-! ## Credentials -/

/-- A property of an object: a later entry replaces an earlier one of the same name. -/
def Json.field (name : String) : Json → Option Json
  | .object entries => (entries.reverse.find? fun entry => entry.1 = name).map Prod.snd
  | _ => none

/-- The map of `EnvRegistryCredentialProvider`, from hosts in lower case. -/
abbrev CredentialTable := List (String × RegistryCredentials)

def lowered (text : String) : String := String.ofList (toLowerCase text)

/-- `credentialsFor`. -/
def CredentialTable.credentialsFor (table : CredentialTable) (registryHost : String) :
    Option RegistryCredentials :=
  table.lookup (lowered registryHost)

/-! ## Repositories -/

structure ParsedRepository where
  host : String
  path : String
  baseUrl : String
  deriving DecidableEq, Repr

def isLineTerminator (c : Char) : Bool :=
  c = '\n' || c = '\r' || c.toNat = 0x2028 || c.toNat = 0x2029

/-- The class `\s` of a regular expression. -/
def isSpace (c : Char) : Bool :=
  isLineTerminator c || [0x9, 0xb, 0xc, 0x20, 0xa0, 0x1680, 0x202f, 0x205f, 0x3000, 0xfeff].contains
    c.toNat || 0x2000 ≤ c.toNat && c.toNat ≤ 0x200a

/-- `text.trim()`. -/
def trim (text : List Char) : List Char :=
  ((text.dropWhile isSpace).reverse.dropWhile isSpace).reverse

/-- `pathname.replace(/^\/+|\/+$/g, '')`. -/
def trimSlashes (text : List Char) : List Char :=
  ((text.dropWhile (· = '/')).reverse.dropWhile (· = '/')).reverse

def invalidRepository (message : String) : RegistryFailure :=
  .request .INVALID_REPOSITORY message

def parseRepository (api : UrlApi) (value : String) : Except RegistryFailure ParsedRepository :=
  let trimmed := trim value.toList
  if trimmed = [] || trimmed.contains '@' then
    .error (invalidRepository "imageRepository must not include a digest")
  else
    let text := String.ofList trimmed
    match api.parse (if includes trimmed "://".toList then text else "https://" ++ text) with
    | none => .error (invalidRepository "imageRepository is invalid")
    | some url =>
      let path := String.ofList (trimSlashes url.pathname.toList)
      if url.hostname = "" || path = "" || url.search ≠ "" || url.hash ≠ "" then
        .error (invalidRepository "imageRepository must be registry-host/repository-path")
      else if url.protocol ≠ "https:" && url.protocol ≠ "http:" then
        .error (invalidRepository "Registry protocol must be HTTP or HTTPS")
      else
        .ok
          { host := lowered url.host
            path := path
            baseUrl := url.protocol ++ "//" ++ url.host }

def hexUpper (n : Nat) : Char :=
  if n < 10 then Char.ofNat ('0'.toNat + n) else Char.ofNat ('A'.toNat + (n - 10))

/-- A byte that `encodeURIComponent` keeps. -/
def isUnescaped (byte : UInt8) : Bool :=
  let c := Char.ofNat byte.toNat
  c.isAlphanum && byte.toNat < 128 || "-_.!~*'()".toList.contains c

def encodeURIComponent (text : String) : String :=
  String.ofList (text.toUTF8.data.toList.flatMap fun byte =>
    if isUnescaped byte then [Char.ofNat byte.toNat]
    else ['%', hexUpper (byte.toNat / 16), hexUpper (byte.toNat % 16)])

def encodeRepositoryPath (path : String) : String :=
  String.intercalate "/"
    ((path.toList.splitOn '/').map fun segment => encodeURIComponent (String.ofList segment))

/-! ## Challenges -/

structure BearerChallenge where
  realm : String
  service : Option String
  scope : Option String
  deriving DecidableEq, Repr

/-- The value of a quoted string whose opening quote was read, without its escapes, and the text
after the closing quote. -/
def readQuoted : List Char → Option (List Char × List Char)
  | [] => none
  | '"' :: rest => some ([], rest)
  | '\\' :: [] => none
  | '\\' :: c :: rest =>
    if isLineTerminator c then none
    else (readQuoted rest).map fun (value, after) => (c :: value, after)
  | c :: rest => (readQuoted rest).map fun (value, after) => (c :: value, after)

def isNameChar (c : Char) : Bool :=
  c.isAlphanum || c = '_' || c = '-'

/-- A parameter `name="value"` at the beginning of the text. -/
def readParam (text : List Char) : Option ((String × String) × List Char) :=
  match text with
  | [] => none
  | c :: _ =>
    if c.isAlpha then
      match text.dropWhile isNameChar with
      | '=' :: '"' :: rest =>
        (readQuoted rest).map fun (value, after) =>
          ((lowered (String.ofList (text.takeWhile isNameChar)), String.ofList value), after)
      | _ => none
    else none

/-- The parameters of a text, found from left to right; the newest is the first. The fuel is the
length of the text. -/
def readParams : Nat → List Char → List (String × String) → List (String × String)
  | 0, _, params => params
  | _ + 1, [], params => params
  | fuel + 1, c :: rest, params =>
    match readParam (c :: rest) with
    | some (param, after) => readParams fuel after (param :: params)
    | none => readParams fuel rest params

def parseBearerChallenge (header : Option String) : Option BearerChallenge :=
  match header with
  | none => none
  | some text =>
    let after := text.toList.drop 6
    if (toLowerCase text).take 6 = "bearer".toList ∧ after.head?.any isSpace then
      let body := after.dropWhile isSpace
      let params := readParams body.length body []
      match params.lookup "realm" with
      | none | some "" => none
      | some realm => some ⟨realm, params.lookup "service", params.lookup "scope"⟩
    else none

def readToken (value : Json) : Option String :=
  match value.field "token" with
  | some (.string token) => some token
  | _ =>
    match value.field "access_token" with
    | some (.string token) => some token
    | _ => none

/-! ## Requests -/

structure RegistryClient where
  api : UrlApi
  privateHosts : List String
  credentials : CredentialTable
  /-- `Number(text)`, when that is a safe integer that is not negative. -/
  safeInteger : String → Option Nat

def ACCEPT_MANIFESTS : String :=
  String.intercalate ", "
    ["application/vnd.oci.image.index.v1+json", "application/vnd.oci.image.manifest.v1+json",
      "application/vnd.docker.distribution.manifest.list.v2+json",
      "application/vnd.docker.distribution.manifest.v2+json"]

def registryUnavailable (message : String) : RegistryFailure :=
  .request .REGISTRY_UNAVAILABLE message

def authenticationRequired (message : String) : RegistryFailure :=
  .request .AUTHENTICATION_REQUIRED message

namespace RegistryClient

variable (client : RegistryClient)

def assertAllowed (url : Url) : RegistryProgram Unit :=
  assertRegistryAllowed client.privateHosts url

/-- `new URL(text)` and the program that takes it. -/
def withUrl {α : Type} (text : String) (p : Url → RegistryProgram α) : RegistryProgram α :=
  match client.api.parse text with
  | none => .throw .invalidUrl
  | some url => p url

/-- The headers for the next URL of a chain of redirects. -/
def nextHeaders (current next : Url) (headers : RequestHeaders) : RequestHeaders :=
  if next.origin ≠ current.origin then { headers with authorization := none } else headers

/-- The loop of `safeFetch`, with the number of URLs that it may still fetch. -/
def safeFetchLoop (method : String) : Nat → Url → RequestHeaders → RegistryProgram (Response × Url)
  | 0, _, _ => .throw (registryUnavailable "Registry exceeded the redirect limit")
  | redirects + 1, current, headers =>
    (client.assertAllowed current).bind fun _ =>
      .request (.fetch ⟨current, method, headers, 10000⟩) fun answer =>
        match answer with
        | .error message => .throw (registryUnavailable message)
        | .ok response =>
          if isRedirect response.status then
            match response.location with
            | none | some "" =>
              .throw (registryUnavailable "Registry redirect did not include a Location header")
            | some location =>
              match client.api.join location current with
              | none => .throw .invalidUrl
              | some next =>
                (client.assertAllowed next).bind fun _ =>
                  safeFetchLoop method redirects next (nextHeaders current next headers)
          else .pure (response, current)

def safeFetch (input method : String) (headers : RequestHeaders) :
    RegistryProgram (Response × Url) :=
  client.withUrl input fun current => client.safeFetchLoop method 6 current headers

/-- The authorization of a manifest request: the token, unless it is empty, or the credentials of
the host. -/
def manifestAuthorization (registryHost : String) (bearerToken : Option String) :
    Option Authorization :=
  match bearerToken with
  | none | some "" => (client.credentials.credentialsFor registryHost).map .basic
  | some token => some (.bearer token)

def requestManifest (url registryHost : String) (bearerToken : Option String) :
    RegistryProgram (Response × Url) :=
  client.safeFetch url "HEAD"
    ⟨some ACCEPT_MANIFESTS, client.manifestAuthorization registryHost bearerToken⟩

/-- The URL of the token service: the realm with the service and the scope. -/
def tokenUrl (challenge : BearerChallenge) (repositoryPath : String) (realm : Url) : Url :=
  let url :=
    match challenge.service with
    | none | some "" => realm
    | some service => client.api.setParam "service" service realm
  client.api.setParam "scope" (challenge.scope.getD s!"repository:{repositoryPath}:pull") url

/-- `response.ok`. -/
def isOk (response : Response) : Bool :=
  200 ≤ response.status && response.status ≤ 299

def readTokenResponse (response : Response) : RegistryProgram String :=
  if response.status = 401 then
    .throw (authenticationRequired "Registry credentials were rejected by the token service")
  else if response.status = 403 then
    .throw (.request .ACCESS_DENIED "Registry token service denied repository access")
  else if !isOk response then
    .throw (registryUnavailable s!"Registry token service returned HTTP {response.status}")
  else
    .request .readJson fun answer =>
      match answer with
      | .error _ =>
        .throw (authenticationRequired "Registry token service returned invalid JSON")
      | .ok body =>
        match readToken body with
        | none | some "" =>
          .throw (authenticationRequired "Registry token response did not contain a token")
        | some token => .pure token

def fetchBearerToken (challenge : BearerChallenge) (registryHost repositoryPath : String) :
    RegistryProgram String :=
  match client.api.parse challenge.realm with
  | none =>
    .throw (authenticationRequired "Registry returned an invalid authentication realm")
  | some realm =>
    (client.assertAllowed realm).bind fun _ =>
      (client.safeFetch (client.tokenUrl challenge repositoryPath realm).href "GET"
        ⟨none, (client.credentials.credentialsFor registryHost).map .basic⟩).bind fun result =>
        readTokenResponse result.1

/-- `mapManifestFailure`: the error for a response, if it is one. -/
def mapManifestFailure (response : Response) : Except RegistryFailure Unit :=
  if isOk response then .ok ()
  else if response.status = 401 then
    .error (authenticationRequired "Registry authentication is required")
  else if response.status = 403 then .error (.request .ACCESS_DENIED "Registry access was denied")
  else if response.status = 404 then
    .error (.request .MANIFEST_NOT_FOUND "Registry manifest was not found")
  else if response.status = 429 then
    .error (.request .RATE_LIMITED "Registry rate limit exceeded")
  else .error (registryUnavailable s!"Registry returned HTTP {response.status}")

structure ResolvedRegistryArtifact where
  repository : String
  reference : String
  digest : String
  mediaType : Option String
  contentLength : Option Nat
  deriving DecidableEq, Repr

/-- `DIGEST_PATTERN.test(text)`. -/
def isDigest (text : String) : Bool :=
  (toLowerCase text).take 7 = "sha256:".toList && (text.toList.drop 7).length = 64 &&
    (text.toList.drop 7).all isHexDigit

def parseContentLength (raw : Option String) : Option Nat :=
  match raw with
  | none | some "" => none
  | some text => client.safeInteger text

/-- What `resolve` makes of the last response. -/
def artifact (imageRepository reference : String) (response : Response) :
    Except RegistryFailure ResolvedRegistryArtifact := do
  mapManifestFailure response
  match response.dockerContentDigest with
  | none =>
    .error (.request .INVALID_DIGEST "Registry did not return a valid sha256 Docker-Content-Digest")
  | some digest =>
    if !isDigest digest then
      .error
        (.request .INVALID_DIGEST "Registry did not return a valid sha256 Docker-Content-Digest")
    else if isDigest reference && lowered digest ≠ lowered reference then
      .error (.request .INVALID_DIGEST "Registry manifest digest does not match requested digest")
    else
      .ok
        { repository := imageRepository
          reference := reference
          digest := lowered digest
          mediaType := response.contentType
          contentLength := client.parseContentLength response.contentLength }

/-- The manifest is requested once, and again with a token where the registry challenges. -/
def resolveManifest (repository : ParsedRepository) (reference : String) :
    RegistryProgram Response :=
  (client.requestManifest
    (repository.baseUrl ++ "/" ++ ("v2/" ++ encodeRepositoryPath repository.path ++ "/manifests/" ++
      encodeURIComponent reference)) repository.host none).bind fun manifest =>
    if manifest.1.status = 401 then
      match parseBearerChallenge manifest.1.wwwAuthenticate with
      | none =>
        .throw (authenticationRequired "Registry requires unsupported authentication")
      | some challenge =>
        (client.fetchBearerToken challenge manifest.2.host repository.path).bind fun token =>
          (client.requestManifest manifest.2.href manifest.2.host (some token)).bind fun manifest =>
            .pure manifest.1
    else .pure manifest.1

/-- `RegistryClient.resolve`. -/
def resolve (imageRepository reference : String) : RegistryProgram ResolvedRegistryArtifact :=
  (Program.ofExcept (parseRepository client.api imageRepository)).bind fun repository =>
    client.withUrl repository.baseUrl fun url =>
      (client.assertAllowed url).bind fun _ =>
        (client.resolveManifest repository reference).bind fun response =>
          Program.ofExcept (client.artifact imageRepository reference response)

end RegistryClient

end Docklane.Endpoints
