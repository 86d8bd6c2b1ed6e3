import DeskServer.Lib.JsonDump
import DeskServer.Admin.Auth
import DeskServer.Database.Counts
import DeskServer.Server.Events

/-!
# `Admin.Controller` — the requests of the dashboard

`AdminController::Handle` serves the page and its assets to anyone, a login to anyone who has the
credentials, and everything else to whoever presents a valid session. What the world answers during a
request is an `AdminWorld`: the clock of the sessions, the generated token, the files of the web root,
how a body parses, and the `Env` of the server for a disconnect.

A JSON body is written with `dump()`, which throws when a text in it is not UTF-8. Nobody catches that, and
the request is answered by nothing: so a response is one **or none**. The fixed bodies are all written
(`errorResponse_eq`, `okResponse_eq`); the overview repeats what it was asked with, and is the one that may
not be.
-/

namespace DeskServer

open Bytes

structure AdminHttpRequest where
  method : Bytes
  resource : Bytes
  body : Bytes
  cookie : Bytes

/-- `body.dump()` of a value, or a text. -/
inductive ResponseBody where
  | json (body : Json)
  | text (body : Bytes)

structure AdminHttpResponse where
  status : Nat
  contentType : Bytes
  headers : List (Bytes × Bytes)
  body : ResponseBody

/-- **What the world answers during one request.** -/
structure AdminWorld where
  /-- The first reading of the clock, by `RemoveExpiredSessions`. -/
  purgedAt : Int
  /-- The second reading. -/
  now : Int
  /-- `GenerateToken`. -/
  token : Bytes
  /-- `nlohmann::json::parse`; none when it throws. -/
  parse : Bytes → Option Json
  /-- The readable files below the web root. -/
  webFiles : Bytes → Option Bytes
  env : Env

/-- What the controller reaches: the server, and the network information its presence manager keeps. -/
structure AdminBackend where
  server : SignalServer
  deviceNetworkInfo : Std.ExtTreeMap Bytes ClientNetworkInfo

/-- What a request is answered with, leaves behind and sends. -/
structure AdminOutcome where
  /-- None when an exception is thrown on the way. -/
  response : Option AdminHttpResponse
  auth : AdminAuth
  backend : AdminBackend
  sent : List (ConnectionHdl × Json)

namespace AdminController

/-! ## Responses -/

def jsonContentType : Bytes := bytes "application/json; charset=utf-8"

/-- `{"Cache-Control", "no-store"}`. -/
def noStore : Bytes × Bytes := (bytes "Cache-Control", bytes "no-store")

/-- `JsonResponse`; none when `body.dump()` throws. -/
def jsonResponse (status : Nat) (body : Json) : Option AdminHttpResponse :=
  if body.dumps then some ⟨status, jsonContentType, [noStore], .json body⟩ else none

def htmlResponse (status : Nat) (body : Bytes) : AdminHttpResponse :=
  ⟨status, bytes "text/html; charset=utf-8", [noStore], .text body⟩

def errorResponse (status : Nat) (error : String) : Option AdminHttpResponse :=
  jsonResponse status (.obj [(bytes "ok", .bool false), (bytes "error", .str (bytes error))])

/-- `{"ok": true}`. -/
def okResponse : Option AdminHttpResponse := jsonResponse 200 (.obj [(bytes "ok", .bool true)])

theorem errorResponse_eq (status : Nat) (error : String) : errorResponse status error =
    some ⟨status, jsonContentType, [noStore],
      .json (.obj [(bytes "ok", .bool false), (bytes "error", .str (bytes error))])⟩ := by
  rw [errorResponse, jsonResponse, if_pos]
  simp

theorem okResponse_eq : okResponse =
    some ⟨200, jsonContentType, [noStore], .json (.obj [(bytes "ok", .bool true)])⟩ := by
  rw [okResponse, jsonResponse, if_pos]
  simp

/-- A response with one more header. -/
def withHeader (response : AdminHttpResponse) (name : String) (value : Bytes) : AdminHttpResponse :=
  { response with headers := response.headers ++ [(bytes name, value)] }

/-! ## Resources -/

/-- `ResourcePath`: the resource up to its `?`. -/
def resourcePath (resource : Bytes) : Bytes := resource.takeWhile (· ≠ 63)

/-- `kAdminAssetPrefix`. -/
def adminAssetPath : Bytes := bytes "/admin/assets/"

/-- `kDisconnectPrefix`. -/
def disconnectPath : Bytes := bytes "/api/admin/sessions/"

/-- `kDisconnectSuffix`. -/
def disconnectTail : Bytes := bytes "/disconnect"

/-- `ExtractDisconnectTransmissionId`; the empty id when the path is not that of a disconnect. -/
def extractDisconnectTransmissionId (resource : Bytes) : Bytes :=
  let path := resourcePath resource
  if !startsWith disconnectPath path then []
  else
    let tail := path.drop disconnectPath.length
    if tail.length ≤ disconnectTail.length then []
    -- the last occurrence has to be the end
    else if !disconnectTail.isSuffixOf tail then []
    else tail.take (tail.length - disconnectTail.length)

example : extractDisconnectTransmissionId (bytes "/api/admin/sessions/100000000/disconnect?x")
    = bytes "100000000" := by decide

/-! ## Web files -/

/-- `AdminAllowedWebFiles`. -/
def adminAllowedWebFiles : List Bytes :=
  [bytes "index.html", bytes "admin.css", bytes "admin.js", bytes "china-provinces.json"]

/-- `ReadAdminWebFile`. -/
def readAdminWebFile (world : AdminWorld) (fileName : Bytes) : Option Bytes :=
  if fileName ∈ adminAllowedWebFiles then world.webFiles fileName else none

/-- `AdminAssetNameFromPath`. -/
def adminAssetNameFromPath (path : Bytes) : Bytes :=
  if !startsWith adminAssetPath path then []
  else
    let fileName := path.drop adminAssetPath.length
    -- no `/` and no `\`
    if 47 ∈ fileName ∨ 92 ∈ fileName then [] else fileName

def adminAssetContentType (fileName : Bytes) : Bytes :=
  if fileName = bytes "admin.css" then bytes "text/css; charset=utf-8"
  else if fileName = bytes "admin.js" then bytes "application/javascript; charset=utf-8"
  else if fileName = bytes "china-provinces.json" then bytes "application/json; charset=utf-8"
  else bytes "application/octet-stream"

def adminDisabledHtml : Bytes :=
  bytes "<!doctype html><html><head><meta charset=\"utf-8\"><title>CrossDesk Admin</title></head><body><h1>CrossDesk Admin</h1><p>Admin dashboard is not enabled. Set ADMIN_USERNAME and ADMIN_PASSWORD to enable it.</p></body></html>"

def adminMissingHtml : Bytes :=
  bytes "<!doctype html><html><head><meta charset=\"utf-8\"><title>CrossDesk Admin</title></head><body><h1>CrossDesk Admin</h1><p>Admin frontend assets were not found.</p></body></html>"

/-! ## Handlers -/

def handleAdminPage (world : AdminWorld) (auth : AdminAuth) : AdminHttpResponse :=
  if !auth.isEnabled then htmlResponse 200 adminDisabledHtml
  else
    match readAdminWebFile world (bytes "index.html") with
    | none => htmlResponse 500 adminMissingHtml
    | some body => htmlResponse 200 body

def handleAdminAsset (world : AdminWorld) (request : AdminHttpRequest) : Option AdminHttpResponse :=
  if request.method ≠ bytes "GET" then errorResponse 405 "method_not_allowed"
  else
    let fileName := adminAssetNameFromPath (resourcePath request.resource)
    if fileName = [] then errorResponse 404 "not_found"
    else
      match readAdminWebFile world fileName with
      | none => errorResponse 404 "not_found"
      | some body =>
        some ⟨200, adminAssetContentType fileName,
          [(bytes "Cache-Control", bytes "public, max-age=3600")], .text body⟩

def handleLogin (world : AdminWorld) (auth : AdminAuth) (request : AdminHttpRequest) :
    Option AdminHttpResponse × AdminAuth :=
  if request.method ≠ bytes "POST" then (errorResponse 405 "method_not_allowed", auth)
  else
    match world.parse request.body with
    | none => (errorResponse 400 "invalid_json", auth)
    | some body =>
      match body.stringField (bytes "username"), body.stringField (bytes "password") with
      | some username, some password =>
        let login := auth.login username password world.token world.purgedAt world.now
        match login.1 with
        | none => (errorResponse 401 "unauthorized", login.2)
        | some token =>
          (okResponse.map (withHeader · "Set-Cookie" (AdminAuth.buildSessionCookie token)), login.2)
      | _, _ => (errorResponse 400 "invalid_json", auth)

def handleLogout (auth : AdminAuth) (request : AdminHttpRequest) :
    Option AdminHttpResponse × AdminAuth :=
  if request.method ≠ bytes "POST" then (errorResponse 405 "method_not_allowed", auth)
  else
    let token := AdminAuth.extractCookie request.cookie AdminAuth.sessionCookieName
    (okResponse.map (withHeader · "Set-Cookie" AdminAuth.buildExpiredCookie),
      if token = [] then auth else auth.logout token)

/-- `BuildStats`, with a presence manager and a database. -/
def buildStats (server : SignalServer) (now : Int) : Json :=
  let durationStats := server.db.getOnlineDurationStats now
  let activeConnectionCount :=
    max server.transmission.getActiveConnectionCount
      (DeviceDB.toSize server.db.countActiveRemoteControlConnections)
  .obj [(bytes "online_device_count", .int server.presence.getOnlineDeviceCount),
    (bytes "online_web_client_count", .int server.presence.getOnlineWebClientCount),
    (bytes "active_connection_count", .int activeConnectionCount),
    (bytes "online_duration_seconds", .int durationStats.currentOnlineSeconds),
    (bytes "total_online_seconds", .int durationStats.totalOnlineSeconds),
    (bytes "total_control_seconds", .int durationStats.totalControlSeconds),
    (bytes "total_controlled_seconds", .int durationStats.totalControlledSeconds)]

def handleStats (world : AdminWorld) (backend : AdminBackend) (request : AdminHttpRequest) :
    Option AdminHttpResponse :=
  if request.method ≠ bytes "GET" then errorResponse 405 "method_not_allowed"
  else jsonResponse 200 (.obj [(bytes "stats", buildStats backend.server world.env.now)])

/-- `HandleOverview`, around what the overview says. -/
def handleOverview (overview : AdminBackend → Int → Bytes → Json) (world : AdminWorld)
    (backend : AdminBackend) (request : AdminHttpRequest) : Option AdminHttpResponse :=
  if request.method ≠ bytes "GET" then errorResponse 405 "method_not_allowed"
  else jsonResponse 200 (overview backend world.env.now request.resource)

/-- A disconnect found the session in memory or in the database. -/
def disconnectFinds (server : SignalServer) (env : Env) (transmissionId : Bytes) : Bool :=
  -- looked up in memory first, and in the database once the session is closed
  let existed := (server.transmission.getTransmissionSnapshots (2 ^ 64 - 1) 0 []).1.any
    fun snapshot => snapshot.transmissionId == transmissionId
  let closed := server.settle env.now (server.transmission.disconnectTransmission transmissionId)
  let persisted := (closed.db.listRemoteControlSessions SignalServer.intMax 0 transmissionId).any
    fun session => session.transmissionId == transmissionId
  existed || persisted

/-- `HandleDisconnect`. -/
def handleDisconnect (world : AdminWorld) (auth : AdminAuth) (backend : AdminBackend)
    (request : AdminHttpRequest) : AdminOutcome :=
  if request.method ≠ bytes "POST" then ⟨errorResponse 405 "method_not_allowed", auth, backend, []⟩
  else
    let transmissionId := extractDisconnectTransmissionId request.resource
    if transmissionId = [] then ⟨errorResponse 404 "not_found", auth, backend, []⟩
    else
      let disconnected := backend.server.handleDisconnect world.env transmissionId
      let response :=
        if disconnectFinds backend.server world.env transmissionId then okResponse
        else jsonResponse 200 (.obj [(bytes "ok", .bool true), (bytes "already_closed", .bool true)])
      ⟨response, auth, { backend with server := disconnected.1 }, disconnected.2⟩

/-! ## The route tree -/

/-- `IsAuthorized`, and what validating leaves behind. -/
def isAuthorized (world : AdminWorld) (auth : AdminAuth) (request : AdminHttpRequest) :
    Bool × AdminAuth :=
  auth.validateSession (AdminAuth.extractCookie request.cookie AdminAuth.sessionCookieName)
    world.purgedAt world.now

/-- `Handle`, behind the authorisation. -/
def handleAuthorized (overview : AdminBackend → Int → Bytes → Json) (world : AdminWorld)
    (auth : AdminAuth) (backend : AdminBackend) (request : AdminHttpRequest) : AdminOutcome :=
  let path := resourcePath request.resource
  if path = bytes "/api/admin/logout" then
    let handled := handleLogout auth request
    ⟨handled.1, handled.2, backend, []⟩
  else if path = bytes "/api/admin/stats" then ⟨handleStats world backend request, auth, backend, []⟩
  else if path = bytes "/api/admin/overview" then
    ⟨handleOverview overview world backend request, auth, backend, []⟩
  else if extractDisconnectTransmissionId path ≠ [] then handleDisconnect world auth backend request
  else ⟨errorResponse 404 "not_found", auth, backend, []⟩

/-- `Handle`. What the overview says of the backend at an instant, asked with a resource, is a parameter. -/
def handle (overview : AdminBackend → Int → Bytes → Json) (world : AdminWorld) (auth : AdminAuth)
    (backend : AdminBackend) (request : AdminHttpRequest) : AdminOutcome :=
  let path := resourcePath request.resource
  -- the page and its assets need no session
  if path = bytes "/admin" then ⟨some (handleAdminPage world auth), auth, backend, []⟩
  else if startsWith adminAssetPath path then ⟨handleAdminAsset world request, auth, backend, []⟩
  else if !auth.isEnabled then ⟨errorResponse 503 "admin_disabled", auth, backend, []⟩
  else if path = bytes "/api/admin/login" then
    let handled := handleLogin world auth request
    ⟨handled.1, handled.2, backend, []⟩
  else
    -- everything below is behind the session
    let authorized := isAuthorized world auth request
    if !authorized.1 then ⟨errorResponse 401 "unauthorized", authorized.2, backend, []⟩
    else handleAuthorized overview world authorized.2 backend request

end AdminController
end DeskServer
