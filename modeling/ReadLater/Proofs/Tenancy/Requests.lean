import Mathlib
import ReadLater.Proofs.Tenancy.Workers
import ReadLater.Http.Api

/-!
# Which user a request may change

Every request to the API changes the store and the worker of one user at most, its tenant, and a
request names a tenant only through its credentials:

* the handlers of the user routes change the store of the user they are given, the sync
  handlers that of the authenticated user, and the health endpoint none
  (`Handlers.createSource_confines`, …, `Handlers.push_confines`, `Handlers.health_confines`);
* `Api.syncUser`: the user of a sync request, the subject of its bearer token when the token
  verifies and names one; `Api.InternalCaller`: a request that carries the internal API's token;
* `Api.tenant`: the user a request is for; `Api.serve_confines`: serving a request changes the
  store and worker of its tenant only;
* `Route.mount_userPrefix`: the user group takes a path whose segments start with
  `internal`, `users` and the user's segment, as routing sees the path.
-/

namespace ReadLater

open Store

namespace Http

namespace Handlers

variable (s : Service)

/-! ## Handlers -/

theorem failure_confines (f : Failure) : s.hosting.Confines (failure s f).2.hosting none := by
  unfold failure
  split
  · exact .refl _ _
  · split
    · exact .refl _ _
    · exact s.log_confines _ _ _

theorem answer_confines {α : Type} {r : Service.Step α} {u : Option String}
    (h : s.hosting.Confines r.2.hosting u) (status : α → Nat) (enc : α → Json) :
    s.hosting.Confines (answer r status enc).2.hosting u := by
  rcases r with ⟨_ | a, s'⟩
  · exact h.trans ((failure_confines s' _).of_none u)
  · exact h

theorem createSource_confines (user body : String) :
    s.hosting.Confines (createSource s user body).2.hosting (some user) := by
  unfold createSource
  split
  · exact .refl _ _
  · exact answer_confines s (s.transact_confines _ user _) _ _

theorem listSources_confines (user : String) :
    s.hosting.Confines (listSources s user).2.hosting (some user) :=
  answer_confines s (s.transact_confines _ user _) _ _

theorem deleteSource_confines (user sourceId : String) :
    s.hosting.Confines (deleteSource s user sourceId).2.hosting (some user) :=
  answer_confines s (s.transact_confines _ user _) _ _

theorem ingest_confines (user sourceId body : String) :
    s.hosting.Confines (ingest s user sourceId body).2.hosting (some user) := by
  unfold ingest
  split
  · exact .refl _ _
  · split
    · exact .refl _ _
    · exact answer_confines s (s.ingest_confines user sourceId _) _ _

theorem identityEvent_confines (user body : String) :
    s.hosting.Confines (identityEvent s user body).2.hosting (some user) := by
  unfold identityEvent
  split
  · exact .refl _ _
  · exact answer_confines s (s.transact_confines _ user _) _ _

theorem schema_confines (user : String) :
    s.hosting.Confines (schema s user).2.hosting (some user) :=
  answer_confines s (s.transact_confines _ user _) _ _

/-- Refreshing reads the source and ingests the fetched posts, both for the same user; fetching
the feed touches no store. -/
theorem runRefresh_confines (fetcher : Option Fetcher) (user sourceId : String) :
    s.hosting.Confines (runRefresh fetcher s user sourceId).2.hosting (some user) := by
  unfold runRefresh
  have hget : s.hosting.Confines (s.getSource user sourceId).2.hosting (some user) :=
    s.transact_confines _ _ _
  rcases hg : s.getSource user sourceId with ⟨_ | src, s₁⟩ <;> rw [hg] at hget
  · exact hget
  dsimp only
  split
  · exact hget
  split
  · exact hget
  split
  · exact hget
  rename_i items _
  have hing := s₁.ingest_confines user sourceId items
  rcases hi : s₁.ingest user sourceId items with ⟨_ | rep, s₂⟩ <;> rw [hi] at hing
  · exact hget.trans hing
  · exact hget.trans hing

theorem refresh_confines (fetcher : Option Fetcher) (user sourceId : String) :
    s.hosting.Confines (refresh fetcher s user sourceId).2.hosting (some user) := by
  unfold refresh
  have hrun := runRefresh_confines s fetcher user sourceId
  rcases hr : runRefresh fetcher s user sourceId with ⟨r, s₁⟩
  rw [hr] at hrun
  dsimp only
  have hcount := (s₁.count_confines fun m =>
    { m with refreshes := m.refreshes.bump (match r with | .ok _ => "ok" | .error _ => "failed") }).of_none (some user)
  split
  · exact hrun.trans hcount
  · exact hrun.trans (hcount.trans (((Service.log_confines _ _ _ _).trans
      (failure_confines _ _)).of_none _))

theorem push_confines (user : Option String) (body : String) :
    s.hosting.Confines (push s user body).2.hosting user := by
  unfold push
  split
  · exact .refl _ _
  · split
    · exact .refl _ _
    · exact answer_confines s (s.perform_confines _ _ _) _ _

theorem pull_confines (user : Option String) (method : String) (t : Target) (body : String) :
    s.hosting.Confines (pull s user method t body).2.hosting user := by
  unfold pull
  split
  · exact .refl _ _
  · dsimp only
    split
    · exact .refl _ _
    · exact answer_confines s (s.perform_confines _ _ _) _ _

theorem health_confines (checked : Bool) :
    s.hosting.Confines (health checked s).2.hosting none := by
  unfold health
  split
  · exact .refl _ _
  · exact s.log_confines _ _ _

end Handlers

/-! ## Routing -/

namespace Route

/-- A route that resolves is a route of the table. -/
theorem resolve_found {α : Type} {table : List (Route α)} {method path : String} {e : α}
    {ps : List (String × String)} (h : resolve table method path = .found e ps) :
    ∃ r ∈ table, r.target = e := by
  unfold resolve at h
  dsimp only at h
  split at h
  · rename_i r ps' hfind
    obtain ⟨r₀, hr₀, hmap⟩ := List.mem_filterMap.1 (List.mem_of_find?_eq_some hfind)
    obtain ⟨_, _, hpair⟩ := Option.map_eq_some_iff.1 hmap
    obtain ⟨rfl, rfl⟩ := Prod.mk.inj hpair
    cases h
    exact ⟨r₀, hr₀, rfl⟩
  · split at h <;> cases h

/-- The user group takes a path whose segments start with `internal`, `users` and the
user's segment, and the user is that segment. -/
theorem mount_userPrefix {path rest : String} {ps : List (String × String)}
    (h : mount userPrefix path = some (ps, rest)) :
    ∃ seg more, segments path = "internal" :: "users" :: seg :: more ∧ ps = [("userID", seg)] := by
  unfold mount at h
  -- the three segments of the prefix must be there
  rcases hs : segments path with _ | ⟨a, _ | ⟨b, _ | ⟨seg, more⟩⟩⟩ <;>
    simp [hs, userPrefix, matchPrefix] at h
  obtain ⟨⟨rfl, rfl, -⟩, rfl, -⟩ := h
  exact ⟨seg, more, rfl, rfl⟩

end Route

/-- Parameters added after a parameter of the path leave its value. -/
theorem Call.param_append {c : Call} {name : String} (h : (c.params.find? (·.1 == name)).isSome)
    (ps : List (String × String)) : { c with params := c.params ++ ps }.param name = c.param name := by
  obtain ⟨kv, hkv⟩ := Option.isSome_iff_exists.1 h
  simp only [Call.param, List.find?_append, hkv, Option.some_or]

namespace Api

/-! ## Who a request is for -/

/-- The user of a sync request: the subject of its bearer token, when the token verifies and
names one. -/
def syncUser (api : Api) (s : Service) (req : Request) : Option String :=
  let token := Token.bearer (req.headers.get "Authorization")
  if token.isEmpty then none
  else
    match Token.verify api.settings.jwtSecret api.settings.jwtIssuer (now s) token with
    | .ok claims => if claims.subject.isEmpty then none else some claims.subject
    | .error _ => none

/-- A request that carries the internal API's token, which is set. -/
def InternalCaller (api : Api) (req : Request) : Prop :=
  api.settings.internalToken ≠ "" ∧
    Token.bearer (req.headers.get "Authorization") = api.settings.internalToken

instance (api : Api) (req : Request) : Decidable (api.InternalCaller req) :=
  inferInstanceAs (Decidable (_ ∧ _))

/-- The user group refuses exactly the requests without the internal token. -/
theorem internalRefused_iff (api : Api) (req : Request) :
    (api.settings.internalToken.isEmpty ||
        Token.bearer (req.headers.get "Authorization") != api.settings.internalToken) = true ↔
      ¬ api.InternalCaller req := by
  simp [InternalCaller, String.isEmpty_iff, imp_iff_not_or]

/-- The user a request for the service's routes is for, by the path routing sees: on the sync
API the user of its token; on a user's path of the internal API the user the path names, when
the request carries the internal token; nobody elsewhere. -/
def routeTenant (api : Api) (s : Service) (req : Request) (t : Target) : Option String :=
  if api.settings.serviceRoutes then
    match Route.mount syncPrefix t.routePath with
    | some _ => api.syncUser s req
    | none =>
      match Route.mount userPrefix t.routePath with
      | some (ps, _) =>
        if api.InternalCaller req then
          some (Call.param { request := req, target := t, params := ps } "userID")
        else none
      | none => none
  else none

/-- The user whose store and worker a request may change: the user its route is for, when its
target is a path and its method one of HTTP's other than `OPTIONS`; nobody otherwise. -/
def tenant (api : Api) (s : Service) (req : Request) : Option String :=
  match req.readTarget with
  | none => none
  | some t =>
    if req.method == "OPTIONS" || !knownMethods.contains req.method then none
    else api.routeTenant s req t

/-! ## Serving a request -/

variable (api : Api) (s : Service)

theorem run_userRoutes (c : Call) (hc : (c.params.find? (·.1 == "userID")).isSome) :
    ∀ r ∈ userRoutes, ∀ ps, s.hosting.Confines
      (api.run s { c with params := c.params ++ ps } r.target).2.hosting
      (some (c.param "userID")) := by
  intro r hr ps
  rw [← Call.param_append hc ps]
  simp only [userRoutes, List.mem_cons, List.not_mem_nil, or_false] at hr
  rcases hr with rfl | rfl | rfl | rfl | rfl | rfl | rfl
  · exact Handlers.createSource_confines s _ _
  · exact Handlers.listSources_confines s _
  · exact Handlers.deleteSource_confines s _ _
  · exact Handlers.ingest_confines s _ _ _
  · exact Handlers.refresh_confines s _ _ _
  · exact Handlers.identityEvent_confines s _ _
  · exact Handlers.schema_confines s _

theorem run_syncRoutes (c : Call) :
    ∀ r ∈ syncRoutes, ∀ ps, s.hosting.Confines
      (api.run s { c with params := c.params ++ ps } r.target).2.hosting c.user := by
  intro r hr ps
  simp only [syncRoutes, List.mem_cons, List.not_mem_nil, or_false] at hr
  rcases hr with rfl | rfl | rfl
  · exact Handlers.push_confines s _ _
  · exact Handlers.pull_confines s _ _ _ _
  · exact Handlers.pull_confines s _ _ _ _

theorem run_topRoutes (c : Call) (metrics : Bool) :
    ∀ r ∈ topRoutes metrics, ∀ ps, s.hosting.Confines
      (api.run s { c with params := c.params ++ ps } r.target).2.hosting none := by
  intro r hr ps
  simp only [topRoutes, List.mem_append, List.mem_singleton] at hr
  rcases hr with rfl | hr
  · exact Handlers.health_confines s _
  · split at hr
    · rw [List.mem_singleton] at hr
      subst hr
      exact .refl _ _
    · cases hr

/-- Routing runs a route of the table, or answers without touching the service. -/
theorem route_confines {c : Call} {table : List (Route Endpoint)} {u : Option String}
    (path : String) (hrun : ∀ r ∈ table, ∀ ps, s.hosting.Confines
      (api.run s { c with params := c.params ++ ps } r.target).2.hosting u) :
    s.hosting.Confines (api.route s c table path).2.hosting u := by
  unfold route
  split
  · rename_i e ps hres
    obtain ⟨r, hr, rfl⟩ := Route.resolve_found hres
    exact hrun r hr ps
  · exact .refl _ _
  · exact .refl _ _

theorem throttle_confines (user : String) (p : Bool × Limiter) :
    s.hosting.Confines (api.throttle s user p).2.2.hosting none := by
  rcases p with ⟨_ | _, l⟩
  · exact s.log_confines _ _ _
  · exact .refl _ _

-- The limiter's decision is passed to throttle unevaluated: the kernel never reduces it.
theorem limit_confines (user : String) : s.hosting.Confines (api.limit s user).2.2.hosting none := by
  unfold limit
  split
  · exact .refl _ _
  · exact throttle_confines api s user _

theorem syncGroup_confines (c : Call) (rest : String) :
    s.hosting.Confines (api.syncGroup s c rest).2.2.1.hosting (api.syncUser s c.request) := by
  unfold syncGroup syncUser
  dsimp only
  cases hb : (Token.bearer (c.request.headers.get "Authorization")).isEmpty
  · simp only [Bool.false_eq_true, ↓reduceIte]
    rcases Token.verify api.settings.jwtSecret api.settings.jwtIssuer (now s)
      (Token.bearer (c.request.headers.get "Authorization")) with e | claims
    · exact s.log_confines _ _ _
    · dsimp only
      cases hsub : claims.subject.isEmpty
      · simp only [Bool.false_eq_true, ↓reduceIte]
        -- the rate limit touches no store; the route runs for the token's subject
        have hlim := api.limit_confines s claims.subject
        rcases hl : api.limit s claims.subject with ⟨_ | r, api', s'⟩ <;> rw [hl] at hlim
        · exact (hlim.of_none _).trans (api'.route_confines s' _ (api'.run_syncRoutes s' _))
        · exact hlim.of_none _
      · exact .refl _ _
  · exact .refl _ _

theorem userGroup_confines (c : Call) (rest : String)
    (hc : (c.params.find? (·.1 == "userID")).isSome) :
    s.hosting.Confines (api.userGroup s c rest).2.hosting
      (if api.InternalCaller c.request then some (c.param "userID") else none) := by
  unfold userGroup
  dsimp only
  by_cases hcall : api.InternalCaller c.request
  · rw [if_pos hcall, if_neg (mt (internalRefused_iff api c.request).1 (not_not.2 hcall))]
    exact api.route_confines s rest (api.run_userRoutes s c hc)
  · rw [if_neg hcall, if_pos ((internalRefused_iff api c.request).2 hcall)]
    exact .refl _ _

theorem dispatch_confines (req : Request) (t : Target) :
    s.hosting.Confines (api.dispatch s { request := req, target := t }).2.2.1.hosting
      (api.routeTenant s req t) := by
  unfold dispatch routeTenant
  dsimp only
  cases hg : api.settings.serviceRoutes
  · simp only [Bool.false_eq_true, ↓reduceIte]
    exact api.route_confines s _ (api.run_topRoutes s _ _)
  · simp only [↓reduceIte]
    rcases hsync : Route.mount syncPrefix t.routePath with _ | ⟨_, rest⟩
    · rcases huser : Route.mount userPrefix t.routePath with _ | ⟨ps, rest⟩
      · exact api.route_confines s _ (api.run_topRoutes s _ _)
      · obtain ⟨seg, more, -, rfl⟩ := Route.mount_userPrefix huser
        exact api.userGroup_confines s _ rest (by simp)
    · exact api.syncGroup_confines s _ rest

theorem record_confines (req : Request) (path : String) (status : Nat) (user : Option String) :
    s.hosting.Confines (api.record s req path status user).hosting none := by
  unfold record
  dsimp only
  split
  · exact (s.count_confines _).trans (Service.log_confines _ _ _ _)
  · exact s.log_confines _ _ _

end Api

end Http

end ReadLater
