import DeskServer.Admin.Controller
import DeskServer.Admin.Sessions

/-!
# `Admin.Isolation` — a request without a session learns nothing and does nothing

Some routes are served before the authorisation is checked. What they answer is computed without the
server: from the request, the sessions, the clock, the web files and the generated token. So two servers
in any two states answer alike, and stay as they are.

**Shape.** `publicAnswer` is the function that computes the answer without a server, and
`handle_unauthenticated` goes through the routes once to show that the controller does that. How long an
answer takes is not part of it.
-/

namespace DeskServer

open Bytes

namespace AdminController

/-- The cookie header carries the session token: one of its parts is `cd_admin_session=token`. -/
def Carries (cookie token : Bytes) : Prop :=
  ∃ part ∈ cookie.splitOn 59,
    AdminAuth.trim part = AdminAuth.sessionCookieName ++ bytes "=" ++ token

/-- **The request carries no session token that is valid now.** -/
def Unauthenticated (world : AdminWorld) (auth : AdminAuth) (request : AdminHttpRequest) : Prop :=
  ∀ token, token ≠ [] → Carries request.cookie token → ¬ auth.Live token world.now

variable {world : AdminWorld} {auth : AdminAuth} {request : AdminHttpRequest}

/-- What is extracted from a cookie header is carried by it. -/
theorem carries_extractCookie {cookie : Bytes}
    (h : AdminAuth.extractCookie cookie AdminAuth.sessionCookieName ≠ []) :
    Carries cookie (AdminAuth.extractCookie cookie AdminAuth.sessionCookieName) := by
  unfold AdminAuth.extractCookie at h ⊢
  dsimp only at h ⊢
  cases hfind : ((cookie.splitOn 59).map AdminAuth.trim).find? fun part =>
      startsWith (AdminAuth.sessionCookieName ++ bytes "=") part with
  | none =>
      rw [hfind] at h
      exact absurd rfl h
  | some part =>
      obtain ⟨raw, hraw, htrim⟩ := List.mem_map.mp (List.mem_of_find?_eq_some hfind)
      have hstarts : startsWith (AdminAuth.sessionCookieName ++ bytes "=") part = true :=
        List.find?_some hfind
      obtain ⟨value, hvalue⟩ := startsWith_iff.mp hstarts
      refine ⟨raw, hraw, ?_⟩
      rw [htrim]
      dsimp only
      rw [← hvalue, List.drop_left]

/-- Validating accepts no session but a live one. -/
theorem live_of_validateSession {token : Bytes} {purgedAt now : Int}
    (h : (auth.validateSession token purgedAt now).1 = true) : token ≠ [] ∧ auth.Live token now := by
  unfold AdminAuth.validateSession at h
  by_cases hnil : token = []
  · rw [if_pos hnil] at h
    exact absurd h (by simp)
  · rw [if_neg hnil, AdminAuth.checkSession_fst] at h
    exact ⟨hnil, h.of_removeExpiredSessions⟩

/-- A request without a valid session is not authorised. -/
theorem Unauthenticated.not_authorized (h : Unauthenticated world auth request) :
    (isAuthorized world auth request).1 = false := by
  rw [Bool.eq_false_iff]
  intro hauthorized
  obtain ⟨hne, hlive⟩ := live_of_validateSession hauthorized
  exact h _ hne (carries_extractCookie hne) hlive

/-! ## What anyone is answered -/

/-- The answer to a request without a session, and the sessions it leaves behind. -/
def publicAnswer (world : AdminWorld) (auth : AdminAuth) (request : AdminHttpRequest) :
    Option AdminHttpResponse × AdminAuth :=
  let path := resourcePath request.resource
  if path = bytes "/admin" then (some (handleAdminPage world auth), auth)
  else if startsWith adminAssetPath path then (handleAdminAsset world request, auth)
  else if !auth.isEnabled then (errorResponse 503 "admin_disabled", auth)
  else if path = bytes "/api/admin/login" then handleLogin world auth request
  else (errorResponse 401 "unauthorized", (isAuthorized world auth request).2)

/-- **Without a session the server is not consulted**, route by route. -/
theorem handle_unauthenticated (overview : AdminBackend → Int → Bytes → Json)
    (h : Unauthenticated world auth request) (backend : AdminBackend) :
    handle overview world auth backend request
      = ⟨(publicAnswer world auth request).1, (publicAnswer world auth request).2, backend, []⟩ := by
  unfold handle publicAnswer
  dsimp only
  by_cases hpage : resourcePath request.resource = bytes "/admin"
  · rw [if_pos hpage, if_pos hpage]
  · rw [if_neg hpage, if_neg hpage]
    by_cases hasset : startsWith adminAssetPath (resourcePath request.resource) = true
    · rw [if_pos hasset, if_pos hasset]
    · rw [if_neg hasset, if_neg hasset]
      by_cases hdisabled : (!auth.isEnabled) = true
      · rw [if_pos hdisabled, if_pos hdisabled]
      · rw [if_neg hdisabled, if_neg hdisabled]
        by_cases hlogin : resourcePath request.resource = bytes "/api/admin/login"
        · rw [if_pos hlogin, if_pos hlogin]
        · rw [if_neg hlogin, if_neg hlogin, h.not_authorized]
          rfl

/-- **Isolation.** Of two servers in any two states, a request without a valid session gets the same
    response and leaves the same sessions; nothing is sent to anybody, and both servers stay as they
    are. -/
theorem unauthenticated_isolated (overview : AdminBackend → Int → Bytes → Json) (world : AdminWorld)
    (auth : AdminAuth) (request : AdminHttpRequest) (h : Unauthenticated world auth request)
    (first second : AdminBackend) :
    (handle overview world auth first request).response
        = (handle overview world auth second request).response ∧
    (handle overview world auth first request).auth
        = (handle overview world auth second request).auth ∧
    ∀ backend ∈ [first, second], (handle overview world auth backend request).sent = [] ∧
      (handle overview world auth backend request).backend = backend := by
  refine ⟨?_, ?_, ?_⟩
  · rw [handle_unauthenticated overview h, handle_unauthenticated overview h]
  · rw [handle_unauthenticated overview h, handle_unauthenticated overview h]
  · intro backend _
    rw [handle_unauthenticated overview h]
    exact ⟨rfl, rfl⟩

/-! ## A stranger asks for the statistics -/

/-- Another visitor logged in at `0`; it is `3` now. -/
def visitedAuth : AdminAuth :=
  (AdminAuth.new (bytes "admin") (bytes "secret") 10).openSession (bytes "ab") 0

def visitedWorld : AdminWorld :=
  ⟨3, 3, bytes "ef", fun _ => none, fun _ => none, Env.still 3⟩

/-- The cookie names a token nobody was given. -/
def strangersRequest : AdminHttpRequest :=
  ⟨bytes "GET", bytes "/api/admin/stats", [], bytes "cd_admin_session=cd"⟩

def idleBackend : AdminBackend := ⟨⟨.empty, .newFile, .empty, ∅, []⟩, ∅⟩

/-- One device is online. -/
def busyBackend : AdminBackend := ⟨⟨.empty, .newFile, ⟨∅, {bytes "100000000"}, ∅⟩, ∅, []⟩, ∅⟩

/-- The one token the cookie carries. -/
theorem eq_of_carries_strangers {token : Bytes} (h : Carries strangersRequest.cookie token) :
    token = bytes "cd" := by
  obtain ⟨part, hpart, hcarried⟩ := h
  have hsplit : strangersRequest.cookie.splitOn 59 = [bytes "cd_admin_session=cd"] := by decide
  have htrim : AdminAuth.trim (bytes "cd_admin_session=cd")
      = AdminAuth.sessionCookieName ++ bytes "=" ++ bytes "cd" := by decide
  rw [hsplit, List.mem_singleton] at hpart
  rw [hpart, htrim] at hcarried
  exact (List.append_cancel_left hcarried).symm

theorem strangersStats_isolated :
    (handle (fun _ _ _ => .null) visitedWorld visitedAuth idleBackend strangersRequest).response
      = (handle (fun _ _ _ => .null) visitedWorld visitedAuth busyBackend strangersRequest).response := by
  refine (unauthenticated_isolated _ visitedWorld visitedAuth strangersRequest ?_ idleBackend
    busyBackend).1
  intro token _ hcarried hlive
  have htoken : token = bytes "cd" := eq_of_carries_strangers hcarried
  rcases AdminAuth.live_openSession.mp hlive with ⟨hsame, _⟩ | ⟨_, expiry, hexpiry, _⟩
  · rw [htoken] at hsame
    exact absurd hsame (by decide)
  · simp [AdminAuth.new] at hexpiry

end AdminController
end DeskServer
