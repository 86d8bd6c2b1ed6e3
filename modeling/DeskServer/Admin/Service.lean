import DeskServer.Admin.Isolation
import DeskServer.Server.Reachable

/-!
# `Admin.Service` — HTTP requests in between the events of the connections

`OnHttp` hands the routes of the dashboard to the controller and answers two more with the statistics. A
service is the server and its controller together: connections, timers and lookups on one side, HTTP
requests of anybody on the other, in any order. Its server is **the server run on its own events, with
disconnects in between**, and behind every disconnect stands a login of the operator that no logout has
taken back and whose time is not over.
-/

namespace DeskServer

open Bytes

namespace AdminController

/-- `IsAdminRoute`. -/
def isAdminRoute (resource : Bytes) : Bool :=
  let path := resourcePath resource
  path == bytes "/admin" || startsWith adminAssetPath path || path == bytes "/api/admin" ||
    startsWith (bytes "/api/admin/") path

/-- `SetJsonResponse`; none when `body.dump()` throws. -/
def setJsonResponse (status : Nat) (body : Json) : Option AdminHttpResponse :=
  if body.dumps then
    some ⟨status, jsonContentType,
      [(bytes "Access-Control-Allow-Origin", bytes "*"),
        (bytes "Access-Control-Allow-Methods", bytes "GET, OPTIONS"),
        (bytes "Access-Control-Allow-Headers", bytes "Content-Type"), noStore], .json body⟩
  else none

/-- `OnHttp`. Its statistics are the members of `BuildStats`, read from the same places. -/
def onHttp (overview : AdminBackend → Int → Bytes → Json) (world : AdminWorld) (auth : AdminAuth)
    (backend : AdminBackend) (request : AdminHttpRequest) : AdminOutcome :=
  if isAdminRoute request.resource then handle overview world auth backend request
  else if request.resource = bytes "/stats" ∨ request.resource = bytes "/api/stats" then
    ⟨setJsonResponse 200 (buildStats backend.server world.env.now), auth, backend, []⟩
  else
    ⟨setJsonResponse 404 (.obj [(bytes "error", .str (bytes "not_found")),
      (bytes "message", .str (bytes "available endpoints: /stats, /api/stats"))]), auth, backend, []⟩

/-! ## What a request can do -/

variable {overview : AdminBackend → Int → Bytes → Json} {world : AdminWorld} {auth auth' : AdminAuth}
  {backend backend' : AdminBackend} {request : AdminHttpRequest} {sha256 : Digest} {token : Bytes} {t : Int}

/-- The token of the cookie header. -/
def cookieToken (request : AdminHttpRequest) : Bytes :=
  AdminAuth.extractCookie request.cookie AdminAuth.sessionCookieName

def IsLogout (request : AdminHttpRequest) : Prop :=
  resourcePath request.resource = bytes "/api/admin/logout" ∧ request.method = bytes "POST"

/-- **The steps of a request**: what it leaves of the sessions and of the server. -/
inductive HttpStep (world : AdminWorld) (auth : AdminAuth) (backend : AdminBackend)
    (request : AdminHttpRequest) : AdminAuth → AdminBackend → Prop
  | idle : (IsLogout request → auth.isEnabled = false) → HttpStep world auth backend request auth backend
  | login (body : Json) (username password : Bytes) :
      resourcePath request.resource = bytes "/api/admin/login" → request.method = bytes "POST" →
      world.parse request.body = some body → body.stringField (bytes "username") = some username →
      body.stringField (bytes "password") = some password →
      HttpStep world auth backend request
        (auth.login username password world.token world.purgedAt world.now).2 backend
  | refused : (isAuthorized world auth request).1 = false →
      HttpStep world auth backend request (isAuthorized world auth request).2 backend
  | logout : (isAuthorized world auth request).1 = true →
      HttpStep world auth backend request
        ((isAuthorized world auth request).2.logout (cookieToken request)) backend
  | served : (isAuthorized world auth request).1 = true → ¬ IsLogout request →
      HttpStep world auth backend request (isAuthorized world auth request).2 backend
  | disconnect (transmissionId : Bytes) : (isAuthorized world auth request).1 = true → ¬ IsLogout request →
      extractDisconnectTransmissionId request.resource = transmissionId → request.method = bytes "POST" →
      HttpStep world auth backend request (isAuthorized world auth request).2
        { backend with server := (backend.server.handleDisconnect world.env transmissionId).1 }

theorem cookieToken_ne_nil (h : (isAuthorized world auth request).1 = true) : cookieToken request ≠ [] := by
  intro hnil
  rw [isAuthorized, show AdminAuth.extractCookie _ _ = [] from hnil] at h
  exact absurd h (by simp [AdminAuth.validateSession])

/-- The routes behind the session. -/
theorem handleAuthorized_step (hauthorized : (isAuthorized world auth request).1 = true) :
    HttpStep world auth backend request
      (handleAuthorized overview world (isAuthorized world auth request).2 backend request).auth
      (handleAuthorized overview world (isAuthorized world auth request).2 backend request).backend := by
  unfold handleAuthorized
  dsimp only
  split
  · -- a logout, unless it is asked for by another method
    rename_i hpath
    unfold handleLogout
    split
    · rename_i hmethod
      exact .served hauthorized fun hout => hmethod hout.2
    · have hne : AdminAuth.extractCookie request.cookie AdminAuth.sessionCookieName ≠ [] :=
        cookieToken_ne_nil hauthorized
      dsimp only
      rw [if_neg hne]
      exact .logout hauthorized
  · rename_i hpath
    have hout : ¬ IsLogout request := fun h => hpath h.1
    split
    · exact .served hauthorized hout
    split
    · exact .served hauthorized hout
    split
    · unfold handleDisconnect
      split
      · exact .served hauthorized hout
      · rename_i hpost
        dsimp only
        split
        · exact .served hauthorized hout
        · exact .disconnect _ hauthorized hout rfl (not_not.mp hpost)
    · exact .served hauthorized hout

theorem handleLogin_step (hpath : resourcePath request.resource = bytes "/api/admin/login") :
    HttpStep world auth backend request (handleLogin world auth request).2 backend := by
  have hidle : HttpStep world auth backend request auth backend := by
    apply HttpStep.idle
    intro hout
    rw [IsLogout, hpath] at hout
    exact absurd hout.1 (by decide)
  unfold handleLogin
  split
  · exact hidle
  · rename_i hpost
    split
    · exact hidle
    · rename_i body hbody
      split
      · rename_i username password huser hpassword
        dsimp only
        split
        · exact .login body username password hpath (not_not.mp hpost) hbody huser hpassword
        · exact .login body username password hpath (not_not.mp hpost) hbody huser hpassword
      · exact hidle

/-- **Every request takes such a step.** -/
theorem onHttp_step (overview : AdminBackend → Int → Bytes → Json) (world : AdminWorld)
    (auth : AdminAuth) (backend : AdminBackend) (request : AdminHttpRequest) :
    HttpStep world auth backend request (onHttp overview world auth backend request).auth
      (onHttp overview world auth backend request).backend := by
  have hoff : resourcePath request.resource ≠ bytes "/api/admin/logout" →
      HttpStep world auth backend request auth backend := by
    intro hpath
    exact .idle fun hout => absurd hout.1 hpath
  unfold onHttp
  split
  · unfold handle
    dsimp only
    split
    · -- the page, before anything else is asked of the request
      rename_i hpath
      apply hoff
      rw [hpath]
      decide
    split
    · rename_i hasset
      apply hoff
      intro hpath
      rw [hpath] at hasset
      exact absurd hasset (by decide)
    split
    · -- without credentials even a logout is answered with 503
      rename_i hdisabled
      exact .idle fun _ => by simpa using hdisabled
    split
    · rename_i hpath
      exact handleLogin_step hpath
    · cases hauthorized : (isAuthorized world auth request).1 with
      | false =>
          rw [if_pos (by simp)]
          exact .refused hauthorized
      | true =>
          rw [if_neg (by simp)]
          exact handleAuthorized_step hauthorized
  · rename_i hroute
    -- the logout is a route of the dashboard
    have hpath : resourcePath request.resource ≠ bytes "/api/admin/logout" := by
      intro hpath
      rw [isAdminRoute, hpath] at hroute
      exact hroute (by decide)
    split
    · exact hoff hpath
    · exact hoff hpath

/-! ## What a step does to the sessions -/

/-- A request that is authorised carries a session that is alive. -/
theorem live_of_isAuthorized (h : (isAuthorized world auth request).1 = true) :
    ∃ token, token ≠ [] ∧ Carries request.cookie token ∧ auth.Live token world.now := by
  obtain ⟨hne, hlive⟩ := live_of_validateSession h
  exact ⟨_, hne, carries_extractCookie hne, hlive⟩

/-- Validating lets no session live that did not. -/
theorem live_of_isAuthorized_snd (h : (isAuthorized world auth request).2.Live token t) :
    auth.Live token t := by
  unfold isAuthorized AdminAuth.validateSession at h
  split at h
  · exact h
  · unfold AdminAuth.checkSession at h
    split at h
    · exact h.of_removeExpiredSessions
    · split at h
      · exact (AdminAuth.live_logout.mp h).2.of_removeExpiredSessions
      · exact h.of_removeExpiredSessions

/-- A session that is turned away is over for good. -/
theorem not_live_of_refused (h : (isAuthorized world auth request).1 = false)
    (hne : cookieToken request ≠ []) :
    ¬ (isAuthorized world auth request).2.Live (cookieToken request) t := by
  intro hlive
  unfold isAuthorized AdminAuth.validateSession at h hlive
  rw [show AdminAuth.extractCookie request.cookie AdminAuth.sessionCookieName = cookieToken request from rfl,
    if_neg hne] at h hlive
  unfold AdminAuth.checkSession at h hlive
  split at hlive
  · rename_i hnone
    obtain ⟨_, hsome, _⟩ := hlive
    rw [hnone] at hsome
    exact absurd hsome (by simp)
  · rename_i expiry hsome
    rw [hsome] at h
    dsimp only at h
    split at hlive
    · -- it was over, and the test itself has erased it
      exact (AdminAuth.live_logout.mp hlive).1 rfl
    · rename_i hover
      rw [if_neg hover] at h
      exact absurd h (by simp)

/-- The request logs in, and its token is good at `t`. -/
structure LogsIn (world : AdminWorld) (request : AdminHttpRequest) (username password : Bytes)
    (sessionTtl : Int) (token : Bytes) (t : Int) : Prop where
  route : resourcePath request.resource = bytes "/api/admin/login"
  post : request.method = bytes "POST"
  /-- The body names the configured credentials. -/
  credentials : ∃ body, world.parse request.body = some body ∧
    body.stringField (bytes "username") = some username ∧ body.stringField (bytes "password") = some password
  drawn : world.token = token
  inTime : t < world.now + sessionTtl

/-- **One request and one session**: a session alive after it was opened by it, or was alive and the
    request does not log it out. -/
theorem HttpStep.live (h : HttpStep world auth backend request auth' backend') (hne : token ≠ [])
    (henabled : auth.Live token t → auth.isEnabled = true) (hlive : auth'.Live token t) :
    LogsIn world request auth.username auth.password auth.sessionTtl token t ∧ auth.isEnabled = true ∨
      auth.Live token t ∧ ¬ (IsLogout request ∧ cookieToken request = token) := by
  cases h with
  | idle hidle =>
      refine .inr ⟨hlive, fun hout => ?_⟩
      rw [hidle hout.1] at henabled
      exact absurd (henabled hlive) (by simp)
  | login body username password hpath hpost hbody huser hpassword =>
      have hout : ¬ (IsLogout request ∧ cookieToken request = token) := by
        intro hout
        rw [IsLogout, hpath] at hout
        exact absurd hout.1.1 (by decide)
      unfold AdminAuth.login at hlive
      split at hlive
      · exact .inr ⟨hlive, hout⟩
      · rename_i haccepts
        obtain ⟨henabled', rfl, rfl⟩ := AdminAuth.accepts_iff.mp (by simpa using haccepts)
        rcases AdminAuth.live_openSession.mp hlive with ⟨hdrawn, ht⟩ | ⟨_, hold⟩
        · exact .inl ⟨⟨hpath, hpost, ⟨body, hbody, huser, hpassword⟩, hdrawn, ht⟩, henabled'⟩
        · exact .inr ⟨hold.of_removeExpiredSessions, hout⟩
  | refused hrefused =>
      refine .inr ⟨live_of_isAuthorized_snd hlive, fun hout => ?_⟩
      -- the session to log out was dropped when it was turned away
      rw [← hout.2] at hlive hne
      exact not_live_of_refused hrefused hne hlive
  | logout _ =>
      obtain ⟨hother, hold⟩ := AdminAuth.live_logout.mp hlive
      exact .inr ⟨live_of_isAuthorized_snd hold, fun hout => hother hout.2⟩
  | served _ hout => exact .inr ⟨live_of_isAuthorized_snd hlive, fun h => hout h.1⟩
  | disconnect _ _ hout _ _ => exact .inr ⟨live_of_isAuthorized_snd hlive, fun h => hout h.1⟩

theorem HttpStep.sameConfig (h : HttpStep world auth backend request auth' backend') :
    AdminAuth.SameConfig auth auth' := by
  have hchecked : AdminAuth.SameConfig auth (isAuthorized world auth request).2 :=
    AdminAuth.sameConfig_performMarked auth (.validate _ world.purgedAt world.now, true)
  cases h with
  | idle _ => exact .refl auth
  | login _ username password _ _ _ _ _ =>
      exact AdminAuth.sameConfig_performMarked auth (.login username password _ _ _, true)
  | refused _ => exact hchecked
  | logout _ => exact hchecked.trans ⟨rfl, rfl, rfl⟩
  | served _ _ => exact hchecked
  | disconnect _ _ _ _ _ => exact hchecked

/-- A request leaves the server alone, or is a disconnect of somebody who is authorised. -/
theorem HttpStep.backend_cases (h : HttpStep world auth backend request auth' backend') :
    backend' = backend ∨
    ∃ id, (isAuthorized world auth request).1 = true ∧ extractDisconnectTransmissionId request.resource = id ∧
      request.method = bytes "POST" ∧
      backend' = { backend with server := (backend.server.handleDisconnect world.env id).1 } := by
  cases h with
  | idle _ => exact .inl rfl
  | login _ _ _ _ _ _ _ _ => exact .inl rfl
  | refused _ => exact .inl rfl
  | logout _ => exact .inl rfl
  | served _ _ => exact .inl rfl
  | disconnect id hauthorized _ hroute hpost => exact .inr ⟨id, hauthorized, hroute, hpost, rfl⟩

/-! ## The service -/

/-- The server, what it knows of where its devices are, and the sessions of the dashboard. -/
structure Service where
  auth : AdminAuth
  backend : AdminBackend

/-- What happens to a service. A disconnect of the operator only comes as a request. -/
inductive ServiceEvent where
  | own (step : SignalServer.Step) (notDisconnect : ∀ t, step.2 ≠ .adminDisconnect t)
  /-- A lookup has found where devices are, or they went offline. -/
  | located (deviceNetworkInfo : Std.ExtTreeMap Bytes ClientNetworkInfo)
  | http (world : AdminWorld) (request : AdminHttpRequest)

namespace Service

def next (sha256 : Digest) (overview : AdminBackend → Int → Bytes → Json) (s : Service) :
    ServiceEvent → Service
  | .own step _ => { s with backend := { s.backend with server := s.backend.server.next sha256 step } }
  | .located deviceNetworkInfo =>
      { s with backend := { s.backend with deviceNetworkInfo := deviceNetworkInfo } }
  | .http world request =>
      let outcome := onHttp overview world s.auth s.backend request
      ⟨outcome.auth, outcome.backend⟩

/-- The service when it starts: nobody is signed in. -/
def started (username password : Bytes) (sessionTtl : Int) (backend : AdminBackend) : Service :=
  ⟨AdminAuth.new username password sessionTtl, backend⟩

/-- The step of the server in an event of its own. -/
def ownStep : ServiceEvent → Option SignalServer.Step
  | .own step _ => some step
  | _ => none

def isDisconnect (step : SignalServer.Step) : Bool :=
  match step.2 with
  | .adminDisconnect _ => true
  | _ => false

/-- The event is a login that returned `token`, which is good at `t`. -/
def OpensSession (username password : Bytes) (sessionTtl : Int) (token : Bytes) (t : Int) :
    ServiceEvent → Prop
  | .http world request => LogsIn world request username password sessionTtl token t
  | _ => False

/-- The event is a logout of `token`. -/
def ClosesSession (token : Bytes) : ServiceEvent → Prop
  | .http _ request => IsLogout request ∧ cookieToken request = token
  | _ => False

/-- **The token is held**: a login with the configured credentials returned it, no logout has taken it back
    since, and its time is not over at `t`. -/
def Held (username password : Bytes) (sessionTtl : Int) (token : Bytes) (t : Int)
    (es : List ServiceEvent) : Prop :=
  username ≠ [] ∧ password ≠ [] ∧
    Run.Standing (OpensSession username password sessionTtl token t) (ClosesSession token) es

variable {username password : Bytes} {sessionTtl : Int} {es : List ServiceEvent}

theorem sameConfig_next (sha256 : Digest) (overview : AdminBackend → Int → Bytes → Json) (s : Service)
    (e : ServiceEvent) : AdminAuth.SameConfig s.auth (s.next sha256 overview e).auth := by
  cases e with
  | own _ _ => exact .refl s.auth
  | located _ => exact .refl s.auth
  | http world request => exact (onHttp_step overview world s.auth s.backend request).sameConfig

/-- **The sessions are held**, by induction on the events, the last one first. -/
theorem held_of_live (sha256 : Digest) (overview : AdminBackend → Int → Bytes → Json)
    (username password : Bytes) (sessionTtl : Int) (backend : AdminBackend) (es : List ServiceEvent)
    (hne : token ≠ [])
    (h : (Run.run (next sha256 overview) (started username password sessionTtl backend) es).auth.Live token t) :
    Held username password sessionTtl token t es := by
  induction es using List.reverseRecOn with
  | nil =>
      obtain ⟨_, hnone, _⟩ := h
      exact absurd hnone (by simp [started, AdminAuth.new])
  | append_singleton es e ih =>
      rw [Run.run_append, Run.run_cons, Run.run_nil] at h
      have hconfig : AdminAuth.SameConfig (AdminAuth.new username password sessionTtl)
          (Run.run (next sha256 overview) (started username password sessionTtl backend) es).auth :=
        Run.run_invariant (next sha256 overview)
          (I := fun s => AdminAuth.SameConfig (AdminAuth.new username password sessionTtl) s.auth)
          (fun s e hs => hs.trans (sameConfig_next sha256 overview s e)) (.refl _) es
      generalize Run.run (next sha256 overview) (started username password sessionTtl backend) es = s at *
      have hnamed : s.auth.isEnabled = true → username ≠ [] ∧ password ≠ [] := by
        intro henabled
        rw [AdminAuth.isEnabled, hconfig.username, hconfig.password] at henabled
        simpa [AdminAuth.new] using henabled
      cases e with
      | own _ _ =>
          obtain ⟨huser, hpassword, hstanding⟩ := ih h
          exact ⟨huser, hpassword, Run.standing_snoc.mpr (.inr ⟨hstanding, id⟩)⟩
      | located _ =>
          obtain ⟨huser, hpassword, hstanding⟩ := ih h
          exact ⟨huser, hpassword, Run.standing_snoc.mpr (.inr ⟨hstanding, id⟩)⟩
      | http world request =>
          have hstep := onHttp_step overview world s.auth s.backend request
          have henabled : s.auth.Live token t → s.auth.isEnabled = true := by
            intro hlive
            obtain ⟨huser, hpassword, _⟩ := ih hlive
            rw [AdminAuth.isEnabled, hconfig.username, hconfig.password]
            simp [AdminAuth.new, huser, hpassword]
          rcases hstep.live hne henabled h with ⟨hlogin, hon⟩ | ⟨hlive, hout⟩
          · obtain ⟨huser, hpassword⟩ := hnamed hon
            rw [hconfig.username, hconfig.password, hconfig.sessionTtl] at hlogin
            exact ⟨huser, hpassword, Run.standing_snoc.mpr (.inl hlogin)⟩
          · obtain ⟨huser, hpassword, hstanding⟩ := ih hlive
            exact ⟨huser, hpassword, Run.standing_snoc.mpr (.inr ⟨hstanding, hout⟩)⟩

/-- The disconnect of `t` in `env` was asked for in the history, by somebody who held a session then. -/
def AskedFor (username password : Bytes) (sessionTtl : Int) (es : List ServiceEvent) (env : Env)
    (t : Bytes) : Prop :=
  ∃ before world request later token, es = before ++ .http world request :: later ∧ world.env = env ∧
    extractDisconnectTransmissionId request.resource = t ∧ request.method = bytes "POST" ∧ token ≠ [] ∧
    Carries request.cookie token ∧ Held username password sessionTtl token world.now before

theorem AskedFor.snoc {env : Env} {id : Bytes} (h : AskedFor username password sessionTtl es env id)
    (e : ServiceEvent) : AskedFor username password sessionTtl (es ++ [e]) env id := by
  obtain ⟨before, world, request, later, token, rfl, henv, hroute, hpost, hne, hcarried, hheld⟩ := h
  exact ⟨before, world, request, later ++ [e], token, by simp, henv, hroute, hpost, hne, hcarried, hheld⟩

/-- The event is a disconnect of `t` in `env` that the service authorises. -/
def Authorises (s : Service) (e : ServiceEvent) (env : Env) (t : Bytes) : Prop :=
  ∃ world request token, e = .http world request ∧ world.env = env ∧
    extractDisconnectTransmissionId request.resource = t ∧ request.method = bytes "POST" ∧ token ≠ [] ∧
    Carries request.cookie token ∧ s.auth.Live token world.now

theorem isDisconnect_of_ne {step : SignalServer.Step} (h : ∀ t, step.2 ≠ .adminDisconnect t) :
    isDisconnect step = false := by
  unfold isDisconnect
  split
  · rename_i t heq
    exact absurd heq (h t)
  · rfl

/-- **One event of the service** is its own step of the server, an authorised disconnect, or none. -/
theorem next_refines (sha256 : Digest) (overview : AdminBackend → Int → Bytes → Json) (s : Service)
    (e : ServiceEvent) : ∃ steps : List SignalServer.Step,
      (s.next sha256 overview e).backend.server = SignalServer.after sha256 s.backend.server steps ∧
      (steps.filter fun step => !isDisconnect step) = [e].filterMap ownStep ∧
      ∀ env t, (env, .adminDisconnect t) ∈ steps → s.Authorises e env t := by
  cases e with
  | own step hnot =>
      refine ⟨[step], rfl, ?_, fun env t hmem => ?_⟩
      · rw [List.filter_cons, isDisconnect_of_ne hnot]
        rfl
      · rw [← List.mem_singleton.mp hmem] at hnot
        exact absurd rfl (hnot t)
  | located _ => exact ⟨[], rfl, rfl, fun _ _ hmem => absurd hmem List.not_mem_nil⟩
  | http world request =>
      rcases (onHttp_step overview world s.auth s.backend request).backend_cases with
        hsame | ⟨id, hauthorized, hroute, hpost, hdisconnected⟩
      · -- any other request, and any that is not authorised
        refine ⟨[], ?_, rfl, fun _ _ hmem => absurd hmem List.not_mem_nil⟩
        show (onHttp overview world s.auth s.backend request).backend.server = _
        rw [hsame]
        rfl
      · refine ⟨[(world.env, .adminDisconnect id)], ?_, rfl, fun env t hmem => ?_⟩
        · show (onHttp overview world s.auth s.backend request).backend.server = _
          rw [hdisconnected]
          rfl
        · obtain ⟨rfl, hid⟩ := Prod.mk.inj (List.mem_singleton.mp hmem)
          obtain rfl := SignalServer.Event.adminDisconnect.inj hid
          obtain ⟨token, hne, hcarried, hlive⟩ := live_of_isAuthorized hauthorized
          exact ⟨world, request, token, rfl, rfl, hroute, hpost, hne, hcarried, hlive⟩

/-- **The service is its server, with the disconnects of the operator in between.** Over any run from the
    start, with any requests of anybody among the events, the server is where it gets by its own events in
    their order and disconnects between them; and each of these was a POST of its route that carried a
    token held at that instant: a login with the configured credentials had returned it, no logout had
    taken it back, and its time was not over. -/
theorem service_refines (sha256 : Digest) (overview : AdminBackend → Int → Bytes → Json)
    (username password : Bytes) (sessionTtl : Int) (backend : AdminBackend) (es : List ServiceEvent) :
    ∃ steps : List SignalServer.Step,
      (Run.run (next sha256 overview) (started username password sessionTtl backend) es).backend.server
        = SignalServer.after sha256 backend.server steps ∧
      (steps.filter fun step => !isDisconnect step) = es.filterMap ownStep ∧
      ∀ env t, (env, .adminDisconnect t) ∈ steps → AskedFor username password sessionTtl es env t := by
  induction es using List.reverseRecOn with
  | nil => exact ⟨[], rfl, rfl, fun _ _ hmem => absurd hmem List.not_mem_nil⟩
  | append_singleton es e ih =>
      obtain ⟨steps, hserver, hown, hasked⟩ := ih
      have hheld : ∀ token t, token ≠ [] →
          (Run.run (next sha256 overview) (started username password sessionTtl backend) es).auth.Live token t →
          Held username password sessionTtl token t es :=
        fun _ _ => held_of_live sha256 overview username password sessionTtl backend es
      rw [Run.run_append, Run.run_cons, Run.run_nil, List.filterMap_append]
      generalize Run.run (next sha256 overview) (started username password sessionTtl backend) es = s at *
      obtain ⟨more, hnext, hmore, hauthorised⟩ := next_refines sha256 overview s e
      refine ⟨steps ++ more, ?_, ?_, fun env t hmem => ?_⟩
      · rw [hnext, hserver, SignalServer.after, SignalServer.after, SignalServer.after, Run.run_append]
      · rw [List.filter_append, hown, hmore]
      · rcases List.mem_append.mp hmem with hold | hnew
        · exact (hasked env t hold).snoc e
        · -- who asks for it now carries a session that is alive, which is held by then
          obtain ⟨world, request, token, rfl, henv, hroute, hpost, hne, hcarried, hlive⟩ :=
            hauthorised env t hnew
          exact ⟨es, world, request, [], token, rfl, henv, hroute, hpost, hne, hcarried,
            hheld token world.now hne hlive⟩

/-! ## What a stranger sees -/

/-- A request that carries no session that is alive is answered out of the statistics. -/
theorem onHttp_unauthenticated (overview : AdminBackend → Int → Bytes → Json)
    (h : Unauthenticated world auth request) {first second : AdminBackend}
    (hstats : buildStats first.server world.env.now = buildStats second.server world.env.now) :
    (onHttp overview world auth first request).response
        = (onHttp overview world auth second request).response ∧
      (onHttp overview world auth first request).sent = [] := by
  unfold onHttp
  split
  · rw [handle_unauthenticated overview h first, handle_unauthenticated overview h second]
    exact ⟨rfl, rfl⟩
  · split
    · exact ⟨by rw [hstats], rfl⟩
    · exact ⟨rfl, rfl⟩

/-- **A stranger sees the statistics.** After any run, a request that carries no token held at that instant
    is answered alike by every two servers with the same seven figures, and makes the server send
    nothing. -/
theorem stranger_sees_statistics (sha256 : Digest) (overview : AdminBackend → Int → Bytes → Json)
    (username password : Bytes) (sessionTtl : Int) (backend : AdminBackend) (es : List ServiceEvent)
    (world : AdminWorld) (request : AdminHttpRequest)
    (hstranger : ∀ token, token ≠ [] → Carries request.cookie token →
      ¬ Held username password sessionTtl token world.now es)
    (first second : AdminBackend)
    (hstats : buildStats first.server world.env.now = buildStats second.server world.env.now) :
    let auth := (Run.run (next sha256 overview) (started username password sessionTtl backend) es).auth
    (onHttp overview world auth first request).response
        = (onHttp overview world auth second request).response ∧
      (onHttp overview world auth first request).sent = [] := by
  apply onHttp_unauthenticated overview ?_ hstats
  intro token hne hcarried hlive
  exact hstranger token hne hcarried
    (held_of_live sha256 overview username password sessionTtl backend es hne hlive)

/-- The operator signs in at `1` and is given the token `ab`. -/
def operatorsLogin : ServiceEvent :=
  .http ⟨1, 1, bytes "ab", fun _ => some (SignalServer.stringMembers
      [("username", bytes "admin"), ("password", bytes "secret")]), fun _ => none, .still 1⟩
    ⟨bytes "POST", bytes "/api/admin/login", bytes "\x7b\"username\":\"admin\",\"password\":\"secret\"\x7d", []⟩

/-- A server that knows where a device is. -/
def locatedBackend : AdminBackend :=
  { idleBackend with deviceNetworkInfo := {(bytes "100000000", ⟨[], [], [], [], []⟩)} }

/-- While the operator is signed in, a stranger is answered alike by two servers of which
    only one knows a location. -/
theorem stranger_sees_statistics_signedIn :
    let auth := (Run.run (next SignalServer.sampleDigest fun _ _ _ => .null)
      (started (bytes "admin") (bytes "secret") 10 idleBackend) [operatorsLogin]).auth
    auth.Live (bytes "ab") visitedWorld.now ∧
    (onHttp (fun _ _ _ => .null) visitedWorld auth idleBackend strangersRequest).response
      = (onHttp (fun _ _ _ => .null) visitedWorld auth locatedBackend strangersRequest).response := by
  refine ⟨⟨11, by rfl, by decide⟩, (stranger_sees_statistics SignalServer.sampleDigest
    (fun _ _ _ => .null) (bytes "admin") (bytes "secret") 10 idleBackend [operatorsLogin] visitedWorld
    strangersRequest ?_ idleBackend locatedBackend rfl).1⟩
  rintro token - hcarried ⟨_, _, hstanding⟩
  have hlogged : Run.Standing (OpensSession (bytes "admin") (bytes "secret") 10 token visitedWorld.now)
      (ClosesSession token) ([] ++ [operatorsLogin]) := hstanding
  rcases Run.standing_snoc.mp hlogged with hlogin | ⟨hnone, _⟩
  · -- the token of the cookie is not the one the operator was given
    have htoken : bytes "ab" = token := hlogin.drawn
    rw [eq_of_carries_strangers hcarried] at htoken
    exact absurd htoken (by decide)
  · exact Run.not_standing_nil _ _ hnone

end Service

end AdminController
end DeskServer
