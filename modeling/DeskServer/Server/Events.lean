import DeskServer.Server.Negotiation
import DeskServer.Database.Startup

/-!
# `Server.Events` — everything that can happen to `SignalServer`

A run of the server is a list of events, each with what the world answers while it is handled: a message
on a connection, a connection closing or failing, a ping or a pong, a sweep of the watchdog, the two
timers, and an operator ending a transmission. A message that is not JSON, or has no known type, changes
nothing.
-/

namespace DeskServer

open Bytes

/-! ## Message types -/

inductive MessageType where
  | ping
  | login
  | userLeaveTransmission
  | queryUserIdList
  | joinTransmission
  | offer
  | answer
  | newCandidate
  | newCandidateMid
  | changePassword
  | turnCredentials
  | clientInfo
  | recentConnectionsPresence
deriving DecidableEq

/-- A `char` added to a `size_t`: sign-extended. -/
def signedChar (b : UInt8) : UInt64 := if b < 128 then b.toUInt64 else b.toUInt64 - 256

/-- `HASH_STRING_PIECE` of a C string. -/
def hashStringPiece (s : Bytes) : UInt64 :=
  (cstr s).foldl (fun result b => result * 131 + signedChar b) 0

/-- The `case` labels, in order. -/
def messageLabels : List (String × MessageType) :=
  [("ping", .ping), ("login", .login), ("user_leave_transmission", .userLeaveTransmission),
    ("query_user_id_list", .queryUserIdList), ("join_transmission", .joinTransmission),
    ("offer", .offer), ("answer", .answer), ("new_candidate", .newCandidate),
    ("new_candidate_mid", .newCandidateMid), ("change_password", .changePassword),
    ("turn_credentials", .turnCredentials), ("client_info", .clientInfo),
    ("recent_connections_presence", .recentConnectionsPresence)]

/-- `switch (HASH_STRING_PIECE(type.c_str()))`: texts with the hash of a label count as the label. -/
def messageType (type : Bytes) : Option MessageType :=
  (messageLabels.find? fun label => hashStringPiece (bytes label.1) = hashStringPiece type).map Prod.snd

example : messageType (bytes "change_password") = some .changePassword := by decide

namespace SignalServer

/-! ## Presence -/

/-- A presence operation, with its messages routed by the manager. -/
def announce (server : SignalServer) (announced : PresenceManager.Announced) :
    SignalServer × List (ConnectionHdl × Json) :=
  ({ server with presence := announced.presence, db := announced.db },
    announced.messages.flatMap server.sendToUser)

def onLogin (server : SignalServer) (env : Env) (deviceId : Bytes) :
    SignalServer × List (ConnectionHdl × Json) :=
  server.announce (server.presence.onLogin server.db env.now deviceId)

def onLogout (server : SignalServer) (env : Env) (deviceId : Bytes) :
    SignalServer × List (ConnectionHdl × Json) :=
  server.announce (server.presence.onLogout server.db env.now deviceId)

/-- The `login` case: whoever the connection speaks for afterwards is online. -/
def login (sha256 : Digest) (server : SignalServer) (env : Env) (hdl : ConnectionHdl) (j : Json) :
    SignalServer × List (ConnectionHdl × Json) :=
  let handled := loginUser sha256 server env hdl j
  let id := handled.server.transmission.getUserId hdl
  if id ≠ [] then
    let announced := handled.server.onLogin env id
    (announced.1, handled.sent ++ announced.2)
  else (handled.server, handled.sent)

/-- `{"type": "presence", …}`. -/
def presenceReply (statuses : List (Bytes × Bool)) : Json :=
  .obj [(bytes "type", .str (bytes "presence")),
    (bytes "devices", .arr (statuses.map fun p =>
      .obj [(bytes "id", .str p.1), (bytes "online", .bool p.2)]))]

/-- The `recent_connections_presence` case. A query without `subscribe` merges, `true` replaces, `false`
    only asks. -/
def recentConnectionsPresence (server : SignalServer) (hdl : ConnectionHdl) (j : Json) :
    SignalServer × List (ConnectionHdl × Json) :=
  let userId := server.transmission.getUserId hdl
  let subscribe := j.find (bytes "subscribe")
  if userId = [] ∨ (j.contains (bytes "user_id") ∧ j.stringField (bytes "user_id") ≠ some userId) then
    (server, [])
  else if subscribe.isSome ∧ (subscribe.bind Json.boolean).isNone then (server, [])
  else
    let deviceIds := ((j.find (bytes "devices")).map Json.items).getD [] |>.filterMap Json.string
    let updated :=
      if (subscribe.bind Json.boolean).getD true then
        { server with
            presence := server.presence.updateUserDevices userId deviceIds subscribe.isSome }
      else server
    (updated, sendMsg hdl (presenceReply (updated.db.batchQueryOnline deviceIds)))

/-! ## Messages -/

/-- The state and the messages of a handler. -/
def Handled.outcome (handled : Handled) : SignalServer × List (ConnectionHdl × Json) :=
  (handled.server, handled.sent)

def handleMessage (sha256 : Digest) (server : SignalServer) (env : Env) (hdl : ConnectionHdl)
    (j : Json) : MessageType → SignalServer × List (ConnectionHdl × Json)
  | .ping =>
      (server.settle env.now (server.transmission.updateWsHandleLastActiveTime env.steadyNow hdl),
        sendMsg hdl (stringMembers [("type", bytes "pong")]))
  | .login => server.login sha256 env hdl j
  | .userLeaveTransmission => (server.leaveTransmission env j).outcome
  | .queryUserIdList => (server.queryUserIdList sha256 hdl j).outcome
  | .joinTransmission => (server.joinTransmission sha256 env hdl j).outcome
  | .offer => (server.offer env hdl j).outcome
  | .answer => (server.answer j).outcome
  | .newCandidate => (server.newCandidate j).outcome
  | .newCandidateMid => (server.newCandidateMid j).outcome
  | .changePassword => (server.changePassword sha256 env hdl j).outcome
  | .turnCredentials => (server.turnCredentials env hdl).outcome
  | .clientInfo => (server.clientInfo env hdl j).outcome
  | .recentConnectionsPresence => server.recentConnectionsPresence hdl j

/-- The type of a payload; none when it is no JSON, has no type or an unknown one. -/
def payloadType (payload : Option Json) : Option (Json × MessageType) :=
  payload.bind fun j => ((j.stringField (bytes "type")).bind messageType).map fun type => (j, type)

def onMessage (sha256 : Digest) (server : SignalServer) (env : Env) (hdl : ConnectionHdl)
    (payload : Option Json) : SignalServer × List (ConnectionHdl × Json) :=
  match payloadType payload with
  | some (j, type) => server.handleMessage sha256 env hdl j type
  | none => (server, [])

/-! ## Connections -/

/-- `OnClose` and `OnFail`, which do the same. -/
def onClose (server : SignalServer) (env : Env) (hdl : ConnectionHdl) :
    SignalServer × List (ConnectionHdl × Json) :=
  let released := server.transmission.releaseUserSession hdl
  let settled := server.settle env.now released
  let idle := { settled with
    transmission := settled.transmission.removeWsHandleLastActiveTime hdl }
  -- the device of a browser goes before its logout is announced
  if released.ret ≠ [] then (idle.onWebClientDisconnect released.ret).onLogout env released.ret
  else (idle, [])

/-- Closing the socket afterwards comes back as a close of its own. -/
def onSessionTimeout (server : SignalServer) (env : Env) (deviceId : Bytes) :
    SignalServer × List (ConnectionHdl × Json) :=
  -- the other way round than on a close
  if deviceId ≠ [] then
    let announced := server.onLogout env deviceId
    (announced.1.onWebClientDisconnect deviceId, announced.2)
  else (server, [])

/-- What the watchdog does for one connection it has just released. -/
def timeoutStep (env : Env) (released : TransmissionManager.Outcome Bytes) (_ : ConnectionHdl)
    (acc : SignalServer × List (ConnectionHdl × Json)) : SignalServer × List (ConnectionHdl × Json) :=
  let timedOut := (acc.1.settle env.now released).onSessionTimeout env released.ret
  (timedOut.1, acc.2 ++ timedOut.2)

/-- `ExpireInactiveSessions`, with the timeout callback. -/
def sweep (server : SignalServer) (env : Env) : SignalServer × List (ConnectionHdl × Json) :=
  let swept := server.transmission.expireInactiveSessions env.steadyNow env.expired (timeoutStep env)
    (server, [])
  ({ swept.2.1 with transmission := swept.1 }, swept.2.2)

/-! ## The operator -/

/-- `HandleDisconnect`, for the transmission id taken from the resource. -/
def handleDisconnect (server : SignalServer) (env : Env) (transmissionId : Bytes) :
    SignalServer × List (ConnectionHdl × Json) :=
  if transmissionId = [] then (server, [])
  else
    let message := stringMembers [("type", bytes "admin_disconnect_transmission"),
      ("transmission_id", transmissionId)]
    let snapshots := (server.transmission.getTransmissionSnapshots (2 ^ 64 - 1) 0 []).1
    let sent := match snapshots.find? fun snapshot => snapshot.transmissionId = transmissionId with
      | some snapshot =>
        (snapshot.hostId :: snapshot.guestIds).flatMap fun id => server.sendToUser (id, message)
      | none => []
    let closed := server.settle env.now (server.transmission.disconnectTransmission transmissionId)
    -- a row that is still there was not ended by the manager
    let persisted := (closed.db.listRemoteControlSessions intMax 0 transmissionId).any
      fun session => session.transmissionId == transmissionId
    if persisted then
      ({ closed with db := (closed.db.endRemoteControlTransmission env.now transmissionId).2 }, sent)
    else (closed, sent)

/-! ## Events -/

/-- A handle of a connection, never empty. -/
abbrev Connection := { hdl : ConnectionHdl // hdl ≠ 0 }

/-- The `n`-th connection of a run on fixed inputs. -/
instance {n : Nat} : OfNat Connection (n + 1) := ⟨⟨n + 1, Nat.succ_ne_zero n⟩⟩

inductive Event where
  | message (hdl : Connection) (payload : Option Json)
  | close (hdl : Connection)
  | fail (hdl : Connection)
  | ping (hdl : Connection)
  | pong (hdl : Connection)
  | sweep
  | runtimeHeartbeat
  | recoveredSessionCleanup
  | adminDisconnect (transmissionId : Bytes)

/-- What an event does, and the messages it tries to send. -/
def react (sha256 : Digest) (server : SignalServer) (env : Env) :
    Event → SignalServer × List (ConnectionHdl × Json)
  | .message hdl payload => server.onMessage sha256 env hdl payload
  | .close hdl => server.onClose env hdl
  | .fail hdl => server.onClose env hdl
  | .ping hdl =>
      (server.settle env.now (server.transmission.updateWsHandleLastActiveTime env.steadyNow hdl), [])
  | .pong hdl =>
      (server.settle env.now (server.transmission.updateWsHandleLastActiveTime env.steadyNow hdl), [])
  | .sweep => server.sweep env
  | .runtimeHeartbeat => ({ server with db := server.db.recordRuntimeHeartbeat env.now }, [])
  | .recoveredSessionCleanup =>
      (server.settle env.now server.transmission.pruneDisconnectedTransmissions, [])
  | .adminDisconnect transmissionId => server.handleDisconnect env transmissionId

/-- One event of a run: what happened, and what the world answered. -/
abbrev Step := Env × Event

/-- The server after one event. -/
def next (sha256 : Digest) (server : SignalServer) (step : Step) : SignalServer :=
  (server.react sha256 step.1 step.2).1

/-- The messages that reach a connection in one event. -/
def output (sha256 : Digest) (server : SignalServer) (step : Step) : List (ConnectionHdl × Json) :=
  delivered step.1 (server.react sha256 step.1 step.2).2

end SignalServer
end DeskServer
