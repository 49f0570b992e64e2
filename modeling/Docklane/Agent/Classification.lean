import Docklane.Agent.Barrier

/-!
# Which requests the barrier sees

The mux and the guard read the path of a request in two ways: the mux splits the escaped path and
decodes each segment, `isMutationPath` splits the decoded path. This module compares them for the
requests that reach a mutation handler. They agree exactly when the path holds no escaped slash;
`/v1/services/a%2Fb/scale` is served by the scale handler while the guard lets it through as a
request that is no mutation.
-/

namespace Docklane.Agent

open UrlPath

variable {r : Request} {h : Handler} {matched : List Bytes} {version kind action : String}

theorem serveMux_handle (hm : h.isMutation = true) (hs : serveMux r = .handle h matched) :
    cleanPath r.escapedPath = r.escapedPath ∧
      ∃ route ∈ routes, route.method = r.method ∧ route.isMutationRoute = true ∧
        matchSegments route.pattern (muxSegments r.escapedPath) = some matched := by
  unfold serveMux at hs
  by_cases hclean : r.method = "CONNECT" ∨ cleanPath r.escapedPath = r.escapedPath
  · rw [if_pos hclean] at hs
    split at hs
    · rename_i handler ms hfound
      cases hs
      rcases Option.or_eq_some_iff.mp hfound with hf | ⟨-, hf⟩
      · obtain ⟨route, hmem, hmethod, rfl, hmatch⟩ := findRoute_some hf
        have hroute := routes_isMutation route hmem ▸ hm
        refine ⟨hclean.resolve_left fun hconnect => ?_, route, hmem, hmethod, hroute, hmatch⟩
        simp [Route.isMutationRoute, hmethod, hconnect] at hroute
      · -- `HEAD` falls back to the `GET` routes, and none of them is a mutation
        split_ifs at hf
        obtain ⟨route, hmem, hmethod, rfl, -⟩ := findRoute_some hf
        have hroute := routes_isMutation route hmem ▸ hm
        simp [Route.isMutationRoute, hmethod] at hroute
    · cases hs
  · simp [hclean] at hs

/-- The pattern of a mutation route takes exactly four segments. -/
theorem isMutationRoute_pattern {route : Route} (h : route.isMutationRoute = true) :
    ∃ version kind action,
      route.pattern = [.lit version, .lit kind, .wild, .lit action] := by
  unfold Route.isMutationRoute at h
  split at h
  · exact ⟨_, _, _, ‹_›⟩
  · simp at h

theorem matchSegments_mutation {segments matched : List Bytes}
    (h : matchSegments [.lit version, .lit kind, .wild, .lit action] segments = some matched) :
    ∃ id, segments = [ascii version, ascii kind, id, ascii action] ∧ id ≠ [slash] ∧
      matched = [id] := by
  match segments with
  | [] | [_] | [_, _] | [_, _, _] => simp [matchSegments] at h
  | a :: b :: c :: d :: rest =>
    simp only [matchSegments] at h
    split_ifs at h with ha hb hc hd
    · obtain ⟨tail, htail, rfl⟩ := Option.map_eq_some_iff.mp h
      cases rest with
      | nil =>
        obtain rfl : [] = tail := by simpa [matchSegments] using htail
        exact ⟨c, by rw [ha, hb, hd], hc, rfl⟩
      | cons e rest => simp [matchSegments] at htail
    · simp at h

/-- The words of the mutation routes: no slash at either end or inside. -/
theorem mutationWords {method version kind action : String}
    (hr : Route.isMutationRoute ⟨method, [.lit version, .lit kind, .wild, .lit action], h⟩ = true) :
    slash ∉ ascii version ∧ slash ∉ ascii kind ∧ slash ∉ ascii action ∧
      ascii version ≠ [] ∧ ascii kind ≠ [] ∧ ascii action ≠ [] := by
  simp only [Route.isMutationRoute, Bool.and_eq_true, Bool.or_eq_true, beq_iff_eq,
    List.contains_iff_mem, List.mem_cons, List.not_mem_nil, or_false] at hr
  obtain ⟨-, hversion, hkind⟩ := hr
  rcases hkind with ⟨rfl, hact⟩ | ⟨rfl, hact⟩ <;> rcases hversion with rfl | rfl <;>
    rcases hact with rfl | rfl | rfl | rfl <;> decide

/-- A mutation request that the mux dispatches has the decoded path `/version/kind/id/action`, and
the id has a slash exactly when the escaped path has an escaped one. -/
theorem serveMux_mutation_path (hm : h.isMutation = true) (hs : serveMux r = .handle h matched) :
    ∃ version kind action id,
      Route.isMutationRoute ⟨r.method, [.lit version, .lit kind, .wild, .lit action], h⟩ = true ∧
      r.path = slash :: (ascii version ++ slash :: (ascii kind ++ slash :: (id ++
        slash :: ascii action))) ∧
      id ≠ [] ∧ (slash ∈ id ↔ encodesSlash r.escapedPath = true) := by
  obtain ⟨hclean, route, hmem, hmethod, hroute, hmatch⟩ := serveMux_handle hm hs
  obtain ⟨version, kind, action, hpattern⟩ := isMutationRoute_pattern hroute
  rw [hpattern] at hmatch
  obtain ⟨id, hsegments, hid, -⟩ := matchSegments_mutation hmatch
  have hroute' :
      Route.isMutationRoute ⟨r.method, [.lit version, .lit kind, .wild, .lit action], h⟩ =
        true := by
    simpa [Route.isMutationRoute, hpattern, hmethod] using hroute
  obtain ⟨hv, hk, ha, hv', hk', ha'⟩ := mutationWords hroute'
  refine ⟨version, kind, action, id, hroute', ?_⟩
  -- the escaped path is rooted, and its four segments are separated by slashes
  obtain ⟨q, hq⟩ := cleanPath_head
  rw [hclean] at hq
  rw [muxSegments, hq, List.drop_one, List.tail_cons] at hsegments
  obtain ⟨s₀, s₁, s₂, s₃, hsplit, h₀, h₁, h₂, h₃⟩ :
      ∃ s₀ s₁ s₂ s₃, q.splitOn slash = [s₀, s₁, s₂, s₃] ∧ readSegment s₀ = ascii version ∧
        readSegment s₁ = ascii kind ∧ readSegment s₂ = id ∧ readSegment s₃ = ascii action := by
    simpa [List.map_eq_cons_iff] using hsegments
  have hnoslash : ∀ s ∈ [s₀, s₁, s₂, s₃], slash ∉ s := fun s hs =>
    slash_notMem_of_mem_splitOn (l := q) (by rwa [hsplit])
  obtain rfl : q = s₀ ++ slash :: (s₁ ++ slash :: (s₂ ++ slash :: s₃)) := by
    have hjoin : [slash].intercalate (q.splitOn slash) = q := List.intercalate_splitOn slash
    simpa [hsplit] using hjoin.symm
  -- so its decoding is the four segments decoded one by one
  have hdecoded := r.escapedPath_decodes
  rw [hq, ← List.nil_append (slash :: _)] at hdecoded
  obtain ⟨root, p₀, hroot, hp₀, hpath⟩ := unescape_split hdecoded
  obtain ⟨d₀, p₁, hd₀, hp₁, rfl⟩ := unescape_split hp₀
  obtain ⟨d₁, p₂, hd₁, hp₂, rfl⟩ := unescape_split hp₁
  obtain ⟨d₂, d₃, hd₂, hd₃, rfl⟩ := unescape_split hp₂
  obtain rfl : [] = root := by simpa [unescape] using hroot
  obtain ⟨rfl, -⟩ := readSegment_decodes h₀ (by rintro h; simp [h] at hv) hd₀
  obtain ⟨rfl, -⟩ := readSegment_decodes h₁ (by rintro h; simp [h] at hk) hd₁
  obtain ⟨rfl, hs₂⟩ := readSegment_decodes h₂ hid hd₂
  obtain ⟨rfl, -⟩ := readSegment_decodes h₃ (by rintro h; simp [h] at ha) hd₃
  refine ⟨hpath, unescape_ne_nil hd₂ hs₂, ?_⟩
  have e₀ := encodesSlash_iff_slash_mem hd₀ (hnoslash s₀ (by simp))
  have e₁ := encodesSlash_iff_slash_mem hd₁ (hnoslash s₁ (by simp))
  have e₂ := encodesSlash_iff_slash_mem hd₂ (hnoslash s₂ (by simp))
  have e₃ := encodesSlash_iff_slash_mem hd₃ (hnoslash s₃ (by simp))
  rw [hq, encodesSlash_cons_of_ne (by decide), encodesSlash_append_slash hd₀,
    encodesSlash_append_slash hd₁, encodesSlash_append_slash hd₂]
  simp only [Bool.or_eq_true, e₀, e₁, e₂, e₃]
  tauto

/-- Trimming a path that starts with one slash, before a text with no slash at its ends. -/
theorem trimSlashes_cons {w t : Bytes} (hw : w ≠ []) (hw' : slash ∉ w) (ht : t ≠ [])
    (ht' : slash ∉ t) (m : Bytes) : trimSlashes (slash :: (w ++ m ++ t)) = w ++ m ++ t := by
  obtain ⟨c, w, rfl⟩ := List.exists_cons_of_ne_nil hw
  have hc : (c == slash) = false := by
    simp only [List.mem_cons, not_or] at hw'
    simpa using fun h => hw'.1 h.symm
  have hdrop : (slash :: (c :: w ++ m ++ t)).dropWhile (· == slash) = c :: w ++ m ++ t := by
    simp [hc]
  rw [trimSlashes, hdrop, List.rdropWhile_eq_self_iff]
  intro hl
  rw [List.getLast_append_of_right_ne_nil _ _ ht, beq_iff_eq]
  exact fun h => ht' (h ▸ List.getLast_mem ht)

/-- On the decoded path of a mutation route the guard sees four parts, unless the id itself has a
slash. -/
theorem isMutationPath_iff {id : Bytes}
    (hr : Route.isMutationRoute ⟨r.method, [.lit version, .lit kind, .wild, .lit action], h⟩ = true)
    (hpath : r.path = slash :: (ascii version ++ slash :: (ascii kind ++ slash :: (id ++
      slash :: ascii action)))) (hid : id ≠ []) : isMutationPath r = true ↔ slash ∉ id := by
  obtain ⟨hv, hk, ha, hv', hk', ha'⟩ := mutationWords hr
  have htrim : trimSlashes r.path = ascii version ++ slash :: (ascii kind ++ slash :: (id ++
      slash :: ascii action)) := by
    have := trimSlashes_cons hv' hv ha' ha (slash :: (ascii kind ++ slash :: (id ++ [slash])))
    simpa [hpath] using this
  have hparts : (trimSlashes r.path).splitOn slash =
      ascii version :: ascii kind :: (id.splitOn slash ++ [ascii action]) := by
    rw [htrim, List.splitOn_append_cons_self_of_not_mem hv,
      List.splitOn_append_cons_self_of_not_mem hk, List.splitOn_append_cons_self,
      List.splitOn_eq_singleton ha]
  by_cases hslash : slash ∈ id
  · have hlen := splitOn_slash_length hslash
    have : isMutationPath r = false := by
      unfold isMutationPath
      rw [hparts]
      match id.splitOn slash, hlen with
      | _ :: _ :: _, _ => simp
    simp [this, hslash]
  · rw [List.splitOn_eq_singleton hslash] at hparts
    simp only [Route.isMutationRoute, Bool.and_eq_true, Bool.or_eq_true, beq_iff_eq,
      List.contains_iff_mem, List.mem_cons, List.not_mem_nil, or_false] at hr
    obtain ⟨hmethod, hversion, hkind⟩ := hr
    have : isMutationPath r = true := by
      unfold isMutationPath
      rw [hparts]
      rcases hkind with ⟨rfl, hact⟩ | ⟨rfl, hact⟩ <;> rcases hversion with rfl | rfl <;>
        rcases hact with rfl | rfl | rfl | rfl <;> simp [hmethod, hid]
    simp [this, hslash]

/-- The two readings of a path agree, on the requests that reach a mutation handler, exactly when
the path holds no escaped slash. In that case, and only then, an enabled barrier lets the request
reach the handler just when the guard's checks pass. -/
theorem mutation_dispatch_guarded_iff (r : Request) (h : Handler) (matched : List Bytes)
    (hm : h.isMutation = true) (hs : serveMux r = .handle h matched) :
    (isMutationPath r = true ↔ encodesSlash r.escapedPath = false) ∧
      ((∀ b identity, b.enabled = true → guard b r identity = .mux (.handle h matched) →
          guardCheck b r identity = .ok ()) ↔ encodesSlash r.escapedPath = false) := by
  obtain ⟨version, kind, action, id, hroute, hpath, hid, hslash⟩ := serveMux_mutation_path hm hs
  have hiff : isMutationPath r = true ↔ encodesSlash r.escapedPath = false := by
    rw [isMutationPath_iff hroute hpath hid, hslash, Bool.not_eq_true]
  refine ⟨hiff, fun hguarded => ?_, fun hfree b identity hb hserved => ?_⟩
  · -- a blocked barrier stops every request that it classifies as a mutation
    by_contra hencoded
    have hpass : isMutationPath r = false := by
      simpa [hencoded] using hiff
    have := hguarded ⟨true, true, initialState⟩ none rfl (by simp [guard, hpass, hs])
    simp [guardCheck, guardBefore, bind, Except.bind] at this
  · have hmut := hiff.mpr hfree
    unfold guard at hserved
    simp only [hb, hmut, Bool.not_true, Bool.true_eq_false, or_self, if_false,
      Bool.false_eq_true] at hserved
    split at hserved
    · cases hserved
    · assumption

/-- `POST path` without any header. -/
def post (rawPath path : String) (decoded : unescape (ascii rawPath) = some (ascii path)) :
    Request :=
  { method := "POST", rawPath := ascii rawPath, path := ascii path, decoded,
    clusterHeaders := [], generationHeaders := [] }

/-- An id with an escaped slash: scale the service that Docker knows as `a/b`. -/
def encodedSlashScale : Request :=
  post "/v1/services/a%2Fb/scale" "/v1/services/a/b/scale" (by decide)

/-- The mux hands `POST /v1/services/a%2Fb/scale` to the scale handler, but the guard takes it for
no mutation, so not every dispatched mutation is guarded. -/
theorem escaped_slash_bypasses_guard :
    ¬ ∀ (r : Request) (h : Handler) (matched : List Bytes), h.isMutation = true →
      serveMux r = .handle h matched →
      isMutationPath r = true ∧
        ∀ b identity, b.enabled = true → guard b r identity = .mux (.handle h matched) →
          guardCheck b r identity = .ok () := by
  intro hall
  have hmux : serveMux encodedSlashScale = .handle .scaleService [ascii "a/b"] := by decide
  have hpath : isMutationPath encodedSlashScale = false := by decide
  have := (hall encodedSlashScale .scaleService _ rfl hmux).1
  simp [hpath] at this

/-- `/v2/nodes/n/drain` reaches the drain handler, and the guard sees it. -/
theorem drain_dispatch_guarded :
    serveMux (post "/v2/nodes/n/drain" "/v2/nodes/n/drain" (by decide)) =
        .handle .drainNode [ascii "n"] ∧
      isMutationPath (post "/v2/nodes/n/drain" "/v2/nodes/n/drain" (by decide)) = true := by
  have hmux : serveMux (post "/v2/nodes/n/drain" "/v2/nodes/n/drain" (by decide)) =
      .handle .drainNode [ascii "n"] := by decide
  exact ⟨hmux, (mutation_dispatch_guarded_iff _ _ _ rfl hmux).1.mpr (by decide)⟩

end Docklane.Agent
