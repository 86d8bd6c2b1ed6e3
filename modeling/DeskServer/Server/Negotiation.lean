import DeskServer.Server.State

/-!
# `Server.Negotiation` — the handlers of `SignalNegotiation`

One function per message. Each takes the server, what the world answers, the connection the message came
in on and the message, and gives the value returned, the new server and the messages sent, in order.
-/

namespace DeskServer
namespace SignalServer

open Bytes PresenceManager

/-! ## Helpers -/

/-- An object of string members. -/
def stringMembers (members : List (String × Bytes)) : Json :=
  .obj (members.map fun member => (bytes member.1, .str member.2))

/-- `status` and `reason` of a refusal. -/
def failed (message : Json) (reason : String) : Json :=
  (message.set (bytes "status") (.str (bytes "fail"))).set (bytes "reason") (.str (bytes reason))

/-- An id and the password behind the first `@`. -/
def splitPassword (idWithPwd : Bytes) : Bytes × Bytes := cut 64 idWithPwd

def shouldTrackClientInfo (userId : Bytes) : Bool :=
  !userId.isEmpty && !startsWith (bytes "web-") userId && !startsWith (bytes "C-") userId

/-- The message with the tag copied, or nothing when the tag is malformed. -/
def copyOptionalIceUfrag (source destination : Json) : Option Json :=
  match source.find (bytes "ufrag") with
  | none => some destination
  | some field =>
    match field.string with
    | none => none
    | some ufrag =>
      if ufrag.length > 256 ∨ (0 : UInt8) ∈ ufrag ∨ ufrag.any fun b => b ∈ bytes " \t\r\n" then none
      else some (destination.set (bytes "ufrag") (.str ufrag))

def turnMember (credentials : TurnCredentials) : Json :=
  .obj [(bytes "host", .str credentials.host), (bytes "port", .int credentials.port),
    (bytes "username", .str credentials.username), (bytes "password", .str credentials.password),
    (bytes "expires_at", .int credentials.expiresAt)]

def addTurnCredentials (env : Env) (message : Json) (userId : Bytes) : Bool × Json :=
  if userId = [] then (false, message)
  else
    match env.iceConfigIssuer with
    | some issue =>
      match (Json.obj (issue userId)).find (bytes "turn") with
      | none => (false, message)
      | some turn => (true, message.set (bytes "turn") turn)
    | none =>
      match env.turnCredentialIssuer with
      | none => (false, message)
      | some issue => (true, message.set (bytes "turn") (turnMember (issue userId)))

/-- `ice_config_version` is the integer 1. -/
def asksIceConfig (request : Json) : Bool :=
  match request.find (bytes "ice_config_version") with
  | some (.int version) => version == 1
  | _ => false

def addLoginIceConfig (env : Env) (message request : Json) (userId : Bytes) : Json :=
  let versioned :=
    if env.iceConfigIssuer.isSome then message.set (bytes "ice_config_version") (.int 1) else message
  if env.iceConfigIssuer.isNone || !asksIceConfig request then
    (addTurnCredentials env versioned userId).2
  else versioned

def addConnectionIceConfig (env : Env) (message : Json) (userId : Bytes) : Json :=
  match env.iceConfigIssuer with
  | some issue => message.update (issue userId)
  | none => (addTurnCredentials env message userId).2

/-! ## Login -/

def loginReply (userId status : Bytes) : Json :=
  stringMembers [("type", bytes "login"), ("user_id", userId), ("status", status)]

/-- `BindUserToWsHandle`, then the user's own transmission. -/
def bindIdentity (server : SignalServer) (env : Env) (hdl : ConnectionHdl) (userId : Bytes) :
    Bool × SignalServer :=
  let bound := server.transmission.bindUserToWsHandle env.steadyNow userId hdl
  let routed := server.settle env.now bound
  (bound.ret, routed.settle env.now (routed.transmission.bindHostToTransmission userId userId))

/-- The id that goes into the reply: with its password when it was just registered. -/
def returnHostId (credential : DeviceCredential) (hostId : Bytes) : Bytes :=
  if credential.deviceId ≠ [] ∧ credential.password ≠ [] ∧ credential.deviceId ≠ hostId then
    credential.deviceId ++ bytes "@" ++ credential.password
  else if credential.deviceId ≠ [] ∧ credential.password = [] ∧ credential.update = false then
    credential.deviceId
  else if credential.deviceId ≠ [] ∧ credential.update = true then credential.deviceId
  else []

/-- The branch of ids without `C-`: the device table decides. -/
def loginDevice (sha256 : Digest) (server : SignalServer) (env : Env) (hdl : ConnectionHdl) (j : Json)
    (hostId password : Bytes) : Handled :=
  let added := DeviceDB.addDevice sha256 server.db env.draws hostId password
  let credential := added.1
  let known := { server with db := added.2 }
  if credential.deviceId = [] then
    -- an id the table knows was refused for its password
    let reason :=
      if hostId ≠ [] ∧ known.db.verifyDevice sha256 hostId password = -1 then bytes "Incorrect password"
      else bytes "Failed to register device"
    ⟨true, known, sendMsg hdl (stringMembers [("type", bytes "login"), ("user_id", []),
      ("status", bytes "fail"), ("reason", reason)])⟩
  else
    let bound := known.bindIdentity env hdl credential.deviceId
    let returned := returnHostId credential hostId
    if bound.1 then
      -- a client that reconnects has to report its version again
      let cleared :=
        if shouldTrackClientInfo credential.deviceId then
          { bound.2 with
              db := (bound.2.db.updateDeviceClientInfo env.now credential.deviceId [] []).2 }
        else bound.2
      ⟨true, cleared, sendMsg hdl
        (addLoginIceConfig env (loginReply returned (bytes "success")) j credential.deviceId)⟩
    else ⟨true, bound.2, sendMsg hdl (loginReply returned (bytes "fail"))⟩

/-- The branch of ids with `C-` in them: no table is asked. -/
def loginClone (server : SignalServer) (env : Env) (hdl : ConnectionHdl) (j : Json) (hostId : Bytes) :
    Handled :=
  let bound := server.bindIdentity env hdl hostId
  if bound.1 then
    ⟨true, bound.2, sendMsg hdl
      (addLoginIceConfig env (loginReply hostId (bytes "success")) j hostId)⟩
  else ⟨true, bound.2, sendMsg hdl (loginReply hostId (bytes "fail"))⟩

def loginUser (sha256 : Digest) (server : SignalServer) (env : Env) (hdl : ConnectionHdl) (j : Json) :
    Handled :=
  match j.stringField (bytes "user_id") with
  | none => ⟨false, server, []⟩
  | some hostIdWithPwd =>
    let hostId := (splitPassword hostIdWithPwd).1
    let password := (splitPassword hostIdWithPwd).2
    -- `find`, so the `C-` may stand anywhere
    if !contains (bytes "C-") hostId then loginDevice sha256 server env hdl j hostId password
    else loginClone server env hdl j hostId

/-! ## Transmissions -/

def clientInfo (server : SignalServer) (env : Env) (hdl : ConnectionHdl) (j : Json) : Handled :=
  match j.stringField (bytes "version"), j.stringField (bytes "platform") with
  | some version, some platform =>
    if version = [] ∨ version.length > 64 ∨ platform = [] ∨ platform.length > 32 then
      ⟨false, server, []⟩
    else
      let userId := server.transmission.getUserId hdl
      if userId = [] then ⟨false, server, []⟩
      else if !shouldTrackClientInfo userId then ⟨true, server, []⟩
      else
        let stored := server.db.updateDeviceClientInfo env.now userId version platform
        ⟨stored.1, { server with db := stored.2 }, []⟩
  | _, _ => ⟨false, server, []⟩

def leaveTransmission (server : SignalServer) (env : Env) (j : Json) : Handled :=
  match j.stringField (bytes "transmission_id"), j.stringField (bytes "user_id") with
  | some transmissionId, some userId =>
    let message := stringMembers [("type", bytes "user_leave_transmission"),
      ("transmission_id", transmissionId), ("user_id", userId)]
    -- whoever the message names leaves, whatever connection sent it
    let others := (server.transmission.getAllUserIdOfTransmission transmissionId).filter
      fun id => id ≠ userId
    let sent := others.flatMap fun id => server.sendToUser (id, message)
    if server.transmission.isHostOfTransmission userId transmissionId then
      ⟨true, server.settle env.now (server.transmission.releaseTransmission transmissionId), sent⟩
    else ⟨true, server.settle env.now (server.transmission.releaseGuestFromTransmission userId), sent⟩
  | _, _ => ⟨false, server, []⟩

/-- The answer to `query_user_id_list`: the ids, the status, and the reason of a refusal. -/
def userIdList (transmissionId : Bytes) (ids : List Bytes) (status : String) (reason : Option String) :
    Json :=
  .obj ([(bytes "type", .str (bytes "user_id_list")), (bytes "transmission_id", .str transmissionId),
    (bytes "user_id_list", .arr (ids.map .str)), (bytes "status", .str (bytes status))] ++
    reason.toList.map fun reason => (bytes "reason", .str (bytes reason)))

def queryUserIdList (sha256 : Digest) (server : SignalServer) (hdl : ConnectionHdl) (j : Json) :
    Handled :=
  match j.stringField (bytes "transmission_id") with
  | none => ⟨false, server, []⟩
  | some transmissionIdPwd =>
    let transmissionId := (splitPassword transmissionIdPwd).1
    let ret := server.db.verifyDevice sha256 transmissionId (splitPassword transmissionIdPwd).2
    if ret = 0 then
      ⟨true, server, sendMsg hdl (userIdList transmissionId
        (server.transmission.getAllUserIdOfTransmission transmissionId) "success" none)⟩
    else if ret = -1 then
      ⟨true, server, sendMsg hdl (userIdList transmissionId [] "failed" "Incorrect password")⟩
    else if ret = -2 then
      ⟨true, server, sendMsg hdl (userIdList transmissionId [] "failed" "No such transmission id")⟩
    else ⟨true, server, []⟩

/-- `user_join_transmission` refused. -/
def joinRefused (transmissionId : Bytes) (reason : String) : Json :=
  stringMembers [("type", bytes "user_join_transmission"), ("transmission_id", transmissionId),
    ("status", bytes "failed"), ("reason", bytes reason)]

def joinTransmission (sha256 : Digest) (server : SignalServer) (env : Env) (hdl : ConnectionHdl)
    (j : Json) : Handled :=
  match j.stringField (bytes "transmission_id"), j.stringField (bytes "user_id") with
  | some transmissionIdPwd, some userId =>
    let transmissionId := (splitPassword transmissionIdPwd).1
    let ret := server.db.verifyDevice sha256 transmissionId (splitPassword transmissionIdPwd).2
    if ret = 0 then
      let hostId := server.transmission.getHostIdOfTransmission transmissionId
      let hostHdl := server.transmission.getWsHandle hostId
      if hostId = [] ∨ isExpired env hostHdl = true then
        ⟨true, server, sendMsg hdl (joinRefused transmissionId "Remote unavailable")⟩
      -- only the user of the connection itself may join
      else if server.transmission.getUserId hdl ≠ userId then ⟨false, server, []⟩
      else
        let message := stringMembers [("type", bytes "user_join_transmission"),
          ("transmission_id", transmissionId), ("user_id", userId), ("status", bytes "success")]
        ⟨true, server.settle env.now
          (server.transmission.bindGuestToTransmission userId transmissionId),
          sendMsg hostHdl (addConnectionIceConfig env message hostId)⟩
    else if ret = -1 then
      ⟨true, server, sendMsg hdl (joinRefused transmissionId "Incorrect password")⟩
    else if ret = -2 then
      ⟨true, server, sendMsg hdl (joinRefused transmissionId "No such transmission id")⟩
    else ⟨true, server, []⟩
  | _, _ => ⟨false, server, []⟩

/-! ## Relayed messages -/

/-- Sender and receiver are two members of the transmission, one of them its host, and the connection
    speaks for the sender. -/
def offerAllowed (server : SignalServer) (hdl : ConnectionHdl)
    (transmissionId remoteUserId userId : Bytes) : Bool :=
  let hostId := server.transmission.getHostIdOfTransmission transmissionId
  let members := server.transmission.getAllUserIdOfTransmission transmissionId
  userId != remoteUserId && (userId == hostId || remoteUserId == hostId) &&
    server.transmission.getUserId hdl == userId && members.contains userId &&
    members.contains remoteUserId

def offer (server : SignalServer) (env : Env) (hdl : ConnectionHdl) (j : Json) : Handled :=
  match j.stringField (bytes "transmission_id"), j.stringField (bytes "remote_user_id"),
    j.stringField (bytes "user_id") with
  | some transmissionId, some remoteUserId, some userId =>
    if !server.offerAllowed hdl transmissionId remoteUserId userId then ⟨false, server, []⟩
    else
      match j.stringField (bytes "sdp") with
      | none => ⟨true, server, []⟩
      | some sdp =>
        let message := stringMembers [("type", bytes "offer"), ("transmission_id", transmissionId),
          ("remote_user_id", userId), ("sdp", sdp)]
        ⟨true, server,
          server.sendToUser (remoteUserId, addConnectionIceConfig env message remoteUserId)⟩
  | _, _, _ => ⟨false, server, []⟩

def answer (server : SignalServer) (j : Json) : Handled :=
  match j.stringField (bytes "transmission_id"), j.stringField (bytes "remote_user_id"),
    j.stringField (bytes "user_id") with
  | some transmissionId, some remoteUserId, some userId =>
    match j.stringField (bytes "sdp") with
    | none => ⟨true, server, []⟩
    | some sdp =>
      ⟨true, server, server.sendToUser (remoteUserId, stringMembers [("type", bytes "answer"),
        ("sdp", sdp), ("remote_user_id", userId), ("transmission_id", transmissionId)])⟩
  | _, _, _ => ⟨false, server, []⟩

/-- A candidate goes out with the tag of the sender, unless the tag is malformed. -/
def relayCandidate (server : SignalServer) (j : Json) (remoteUserId : Bytes) (message : Json) :
    Handled :=
  match copyOptionalIceUfrag j message with
  | none => ⟨false, server, []⟩
  | some tagged => ⟨true, server, server.sendToUser (remoteUserId, tagged)⟩

def newCandidate (server : SignalServer) (j : Json) : Handled :=
  match j.stringField (bytes "transmission_id"), j.stringField (bytes "sdp"),
    j.stringField (bytes "user_id"), j.stringField (bytes "remote_user_id") with
  | some transmissionId, some candidate, some userId, some remoteUserId =>
    server.relayCandidate j remoteUserId (stringMembers [("type", bytes "new_candidate"),
      ("sdp", candidate), ("remote_user_id", userId), ("transmission_id", transmissionId)])
  | _, _, _, _ => ⟨false, server, []⟩

def newCandidateMid (server : SignalServer) (j : Json) : Handled :=
  match j.stringField (bytes "transmission_id"), j.stringField (bytes "user_id"),
    j.stringField (bytes "remote_user_id"), j.stringField (bytes "candidate"),
    j.stringField (bytes "mid") with
  | some transmissionId, some userId, some remoteUserId, some candidate, some mid =>
    server.relayCandidate j remoteUserId (stringMembers [("type", bytes "new_candidate_mid"),
      ("remote_user_id", userId), ("transmission_id", transmissionId), ("candidate", candidate),
      ("mid", mid)])
  | _, _, _, _, _ => ⟨false, server, []⟩

/-! ## Passwords -/

/-- `PasswordFingerprint`. -/
def passwordFingerprint (sha256 : Digest) (password : Bytes) : Bytes := sha256Hex sha256 password

def maxRememberedPasswordChanges : Nat := 4096

def maxPasswordChangeRequestIdLength : Nat := 128

def validRequestId (requestId : Bytes) : Bool :=
  !requestId.isEmpty && decide (requestId.length ≤ maxPasswordChangeRequestIdLength)

/-- Controller and browser identities have no persisted password. -/
def temporaryIdentity (userId : Bytes) : Bool :=
  startsWith (bytes "C-") userId || startsWith (bytes "web-") userId

def passwordChangeKey (userId requestId : Bytes) : Bytes := userId ++ bytes "\n" ++ requestId

/-- Remember an answer, and forget the oldest ones beyond the limit. -/
def rememberPasswordChange (server : SignalServer) (cacheKey : Bytes) (result : PasswordChangeResult) :
    SignalServer :=
  let order := server.passwordChangeResultOrder ++ [cacheKey]
  let excess := order.length - maxRememberedPasswordChanges
  { server with
      -- `emplace` keeps an entry that is there
      passwordChangeResults := (order.take excess).foldl (fun results key => results.erase key)
        (server.passwordChangeResults.insertIfNew cacheKey result)
      passwordChangeResultOrder := order.drop excess }

/-- What an authenticated device gets for a well-formed new password. -/
def applyPasswordChange (sha256 : Digest) (server : SignalServer) (env : Env) (message : Json)
    (userId requestId newPassword : Bytes) : SignalServer × Json :=
  let cacheKey := passwordChangeKey userId requestId
  let fingerprint := passwordFingerprint sha256 newPassword
  match server.passwordChangeResults[cacheKey]? with
  | some cached =>
    -- the same request again is answered again, not carried out again
    if cached.passwordFingerprint ≠ fingerprint then
      (server, failed message "Request ID was already used")
    else (server, cached.response)
  | none =>
    -- a failed statement leaves every row as it is
    let updated := if env.updateFails then (false, server.db)
      else server.db.updatePassword sha256 env.passwordSalt userId newPassword
    if !updated.1 then ({ server with db := updated.2 }, failed message "Failed to update password")
    else
      let response := message.set (bytes "status") (.str (bytes "success"))
      ({ server with db := updated.2 }.rememberPasswordChange cacheKey ⟨fingerprint, response⟩, response)

def changePassword (sha256 : Digest) (server : SignalServer) (env : Env) (hdl : ConnectionHdl)
    (j : Json) : Handled :=
  let message := stringMembers [("type", bytes "change_password")]
  match (j.stringField (bytes "request_id")).filter validRequestId with
  | none => ⟨true, server, sendMsg hdl (failed message "Missing or invalid request ID")⟩
  | some requestId =>
    let userId := server.transmission.getUserId hdl
    let named := (message.set (bytes "request_id") (.str requestId)).set (bytes "user_id") (.str userId)
    if userId = [] then ⟨true, server, sendMsg hdl (failed named "Not authenticated")⟩
    else if temporaryIdentity userId then
      ⟨true, server, sendMsg hdl
        (failed named "Password changes are not allowed for this identity")⟩
    else
      match (j.stringField (bytes "new_password")).filter fun p => p.length == 6 with
      | none =>
        ⟨true, server, sendMsg hdl (failed named "Password must contain exactly 6 characters")⟩
      | some newPassword =>
        let changed := applyPasswordChange sha256 server env named userId requestId newPassword
        ⟨true, changed.1, sendMsg hdl changed.2⟩

def turnCredentials (server : SignalServer) (env : Env) (hdl : ConnectionHdl) : Handled :=
  let message := stringMembers [("type", bytes "turn_credentials")]
  let userId := server.transmission.getUserId hdl
  if userId = [] then ⟨true, server, sendMsg hdl (failed message "Not authenticated")⟩
  else
    let added := addTurnCredentials env message userId
    if added.1 then
      ⟨true, server, sendMsg hdl (added.2.set (bytes "status") (.str (bytes "success")))⟩
    else ⟨true, server, sendMsg hdl (failed added.2 "TURN credentials are not configured")⟩

/-! ## Disconnects -/

/-- A browser's device is removed with its last connection. -/
def onWebClientDisconnect (server : SignalServer) (userId : Bytes) : SignalServer :=
  let pureUserId := (splitPassword userId).1
  if isWebClient pureUserId then { server with db := (server.db.removeDevice pureUserId).2 } else server

end SignalServer
end DeskServer
