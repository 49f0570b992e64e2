import Docklane.Text.UrlPath

/-!
# The routes of the Agent

`New` in `agent/internal/httpserver/server.go` registers the handlers below on an
`http.ServeMux`. The mux cleans the *escaped* path (and redirects when that changes it), splits
it at slashes and decodes each segment on its own; a wildcard takes any segment but a trailing
slash. No two patterns of the table match one request, so the order of the table is immaterial.
-/

namespace Docklane.Agent

open UrlPath

/-- What the Agent reads of a request. `rawPath` is the path as it was sent; the server answers a
path that does not decode by itself, so a request that arrives has a decoded `URL.Path`. -/
structure Request where
  method : String
  rawPath : Bytes
  path : Bytes
  decoded : unescape rawPath = some path
  clusterHeaders : List String
  generationHeaders : List String

/-- `URL.EscapedPath`: the path as sent where that is a valid encoding, else the decoded path
encoded anew. -/
def Request.escapedPath (r : Request) : Bytes :=
  if validEncoded r.rawPath then r.rawPath
  else if r.path = ascii "*" then ascii "*"
  else escape r.path

/-- The handlers of the Agent, under their names in `server.go`. -/
inductive Handler where
  | health | getMaintenanceBarrier | setMaintenanceBarrier | identity | cluster
  | services | service | serviceTasks | capacityCheck | placementCheck | node
  | planDrainNode | drainNode | planActivateNode | activateNode | planNodeLabels
  | updateNodeLabels | planScaleService | planRestartService | planImageUpdate
  | planRollbackService | scaleService | restartService | updateServiceImage | rollbackService
  deriving DecidableEq, Repr

/-- The seven handlers that change the Swarm. -/
def Handler.isMutation : Handler → Bool
  | .drainNode | .activateNode | .updateNodeLabels | .scaleService | .restartService
  | .updateServiceImage | .rollbackService => true
  | _ => false

/-- A segment of a pattern: a literal, or a wildcard such as `serviceId`. -/
inductive Segment where
  | lit (text : String)
  | wild
  deriving DecidableEq, Repr

structure Route where
  method : String
  pattern : List Segment
  handler : Handler
  deriving DecidableEq, Repr

open Segment in
/-- The table that `New` registers. -/
def routes : List Route := [
  ⟨"GET", [lit "v1", lit "health"], .health⟩,
  ⟨"GET", [lit "v1", lit "maintenance", lit "barrier"], .getMaintenanceBarrier⟩,
  ⟨"PUT", [lit "v1", lit "maintenance", lit "barrier"], .setMaintenanceBarrier⟩,
  ⟨"GET", [lit "v1", lit "identity"], .identity⟩,
  ⟨"GET", [lit "v1", lit "cluster"], .cluster⟩,
  ⟨"GET", [lit "v1", lit "services"], .services⟩,
  ⟨"GET", [lit "v1", lit "services", wild], .service⟩,
  ⟨"GET", [lit "v1", lit "services", wild, lit "tasks"], .serviceTasks⟩,
  ⟨"POST", [lit "v1", lit "services", wild, lit "capacity-check"], .capacityCheck⟩,
  ⟨"GET", [lit "v1", lit "services", wild, lit "placement-check"], .placementCheck⟩,
  ⟨"GET", [lit "v1", lit "nodes", wild], .node⟩,
  ⟨"POST", [lit "v1", lit "nodes", wild, lit "plan-drain"], .planDrainNode⟩,
  ⟨"POST", [lit "v1", lit "nodes", wild, lit "drain"], .drainNode⟩,
  ⟨"POST", [lit "v2", lit "nodes", wild, lit "drain"], .drainNode⟩,
  ⟨"POST", [lit "v1", lit "nodes", wild, lit "plan-activate"], .planActivateNode⟩,
  ⟨"POST", [lit "v1", lit "nodes", wild, lit "activate"], .activateNode⟩,
  ⟨"POST", [lit "v2", lit "nodes", wild, lit "activate"], .activateNode⟩,
  ⟨"POST", [lit "v1", lit "nodes", wild, lit "plan-labels"], .planNodeLabels⟩,
  ⟨"POST", [lit "v1", lit "nodes", wild, lit "labels"], .updateNodeLabels⟩,
  ⟨"POST", [lit "v2", lit "nodes", wild, lit "labels"], .updateNodeLabels⟩,
  ⟨"POST", [lit "v1", lit "services", wild, lit "plan-scale"], .planScaleService⟩,
  ⟨"POST", [lit "v1", lit "services", wild, lit "plan-restart"], .planRestartService⟩,
  ⟨"POST", [lit "v1", lit "services", wild, lit "plan-image-update"], .planImageUpdate⟩,
  ⟨"POST", [lit "v1", lit "services", wild, lit "plan-rollback"], .planRollbackService⟩,
  ⟨"POST", [lit "v1", lit "services", wild, lit "scale"], .scaleService⟩,
  ⟨"POST", [lit "v2", lit "services", wild, lit "scale"], .scaleService⟩,
  ⟨"POST", [lit "v1", lit "services", wild, lit "restart"], .restartService⟩,
  ⟨"POST", [lit "v2", lit "services", wild, lit "restart"], .restartService⟩,
  ⟨"POST", [lit "v1", lit "services", wild, lit "image"], .updateServiceImage⟩,
  ⟨"POST", [lit "v2", lit "services", wild, lit "image"], .updateServiceImage⟩,
  ⟨"POST", [lit "v1", lit "services", wild, lit "rollback"], .rollbackService⟩,
  ⟨"POST", [lit "v2", lit "services", wild, lit "rollback"], .rollbackService⟩]

/-! ## The mux -/

/-- `path.Clean` on the segments of a rooted path: empty and `.` segments go, `..` takes the one
before it away. -/
def cleanSegments (segments : List Bytes) : List Bytes :=
  segments.foldl (fun kept s =>
    if s = [] ∨ s = ascii "." then kept
    else if s = ascii ".." then kept.dropLast
    else kept ++ [s]) []

/-- `cleanPath` of `net/http`: the cleaned path, rooted, with a trailing slash kept. -/
def cleanPath (p : Bytes) : Bytes :=
  let rooted := if p.head? = some slash then p else slash :: p
  let clean := slash :: [slash].intercalate (cleanSegments (rooted.drop 1 |>.splitOn slash))
  if rooted.getLast? = some slash ∧ clean ≠ [slash] then clean ++ [slash] else clean

/-- One segment as the mux reads it: a trailing slash is the segment `/`, and a segment that does
not decode is taken as it is. -/
def readSegment (s : Bytes) : Bytes :=
  if s = [] then [slash] else (unescape s).getD s

/-- The segments of a cleaned path. -/
def muxSegments (p : Bytes) : List Bytes :=
  (p.drop 1 |>.splitOn slash).map readSegment

/-- Match a pattern and return the values of its wildcards. -/
def matchSegments : List Segment → List Bytes → Option (List Bytes)
  | [], [] => some []
  | .lit text :: pattern, s :: segments =>
    if s = ascii text then matchSegments pattern segments else none
  | .wild :: pattern, s :: segments =>
    if s = [slash] then none else (s :: ·) <$> matchSegments pattern segments
  | _, _ => none

/-- What the mux does with a request. -/
inductive MuxResult where
  | handle (handler : Handler) (matched : List Bytes)
  | redirect
  | notFound
  deriving DecidableEq, Repr

def findRoute (method : String) (segments : List Bytes) : Option (Handler × List Bytes) :=
  routes.findSome? fun route =>
    if route.method = method then
      (route.handler, ·) <$> matchSegments route.pattern segments
    else none

/-- `ServeMux.findHandler` for the table `routes`. The path of a `CONNECT` request is taken as it
is. -/
def serveMux (r : Request) : MuxResult :=
  if r.method = "CONNECT" ∨ cleanPath r.escapedPath = r.escapedPath then
    match (findRoute r.method (muxSegments r.escapedPath)).or
        (if r.method = "HEAD" then findRoute "GET" (muxSegments r.escapedPath) else none) with
    | some (handler, matched) => .handle handler matched
    | none => .notFound
  else .redirect

/-! ## What a dispatched request looks like -/

theorem Request.escapedPath_decodes (r : Request) : unescape r.escapedPath = some r.path := by
  unfold Request.escapedPath
  split_ifs with hvalid hstar
  · exact r.decoded
  · rw [hstar]; decide
  · exact unescape_escape r.path

theorem cleanPath_head {p : Bytes} : ∃ q, cleanPath p = slash :: q := by
  unfold cleanPath
  simp only
  split_ifs <;> exact ⟨_, rfl⟩

/-- The routes of the mutation handlers: `POST /version/kind/id/action`. -/
def Route.isMutationRoute (route : Route) : Bool :=
  route.method == "POST" && match route.pattern with
  | [.lit version, .lit kind, .wild, .lit action] =>
    (version == "v1" || version == "v2") &&
    ((kind == "services" && ["scale", "restart", "image", "rollback"].contains action) ||
      (kind == "nodes" && ["drain", "activate", "labels"].contains action))
  | _ => false

/-- The table registers a mutation handler on such routes, and nothing else on them. -/
theorem routes_isMutation : ∀ route ∈ routes,
    route.handler.isMutation = route.isMutationRoute := by
  decide

theorem findRoute_some {method : String} {segments : List Bytes} {h : Handler}
    {matched : List Bytes} (hf : findRoute method segments = some (h, matched)) :
    ∃ route ∈ routes, route.method = method ∧ route.handler = h ∧
      matchSegments route.pattern segments = some matched := by
  obtain ⟨route, hmem, hr⟩ := List.exists_of_findSome?_eq_some hf
  refine ⟨route, hmem, ?_⟩
  split_ifs at hr with hm
  obtain ⟨m, hmatch, heq⟩ := Option.map_eq_some_iff.mp hr
  obtain ⟨rfl, rfl⟩ := Prod.mk.injEq _ _ _ _ ▸ heq
  exact ⟨hm, rfl, hmatch⟩

theorem readSegment_decodes {s t path : Bytes} (hs : readSegment s = t) (ht : t ≠ [slash])
    (hu : unescape s = some path) : t = path ∧ s ≠ [] := by
  unfold readSegment at hs
  split_ifs at hs with hnil
  · exact absurd hs.symm ht
  · exact ⟨by simpa [hu] using hs.symm, hnil⟩

end Docklane.Agent
