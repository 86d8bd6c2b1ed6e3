import DeskServer.Presence.Manager
import DeskServer.Database.Listing
import DeskServer.Transmission.Operations

/-!
# `Server.State` — the state of `SignalServer` and the session callback

The server holds the transmission manager, the device database and the presence manager, and remembers
the password changes it has answered. The constructor wires the session callback, which writes every
start and end of a remote control session to the database, and restores the sessions it finds there.
What the world decides (clocks, random numbers, which connections are gone, whether a password can be
written, what the credential issuers answer) is an `Env`, given anew to every event.
-/

namespace DeskServer

open Bytes

structure TurnCredentials where
  host : Bytes
  port : Int
  username : Bytes
  password : Bytes
  expiresAt : Int

/-- **What the world answers during one event.** -/
structure Env where
  /-- `strftime('%s','now')`, in seconds. -/
  now : Int
  /-- `std::chrono::steady_clock::now()`, in nanoseconds. -/
  steadyNow : Int
  /-- `connection_hdl::expired()`, for a handle that is not empty. -/
  expired : ConnectionHdl → Bool
  draws : Draws
  passwordSalt : Fin 16 → Fin 16
  /-- The statement of `UpdatePassword` fails. -/
  updateFails : Bool
  /-- `ice_config_issuer_->Issue`: the members of the configuration of a user. -/
  iceConfigIssuer : Option (Bytes → List (Bytes × Json))
  /-- `turn_credential_issuer_->Issue`. -/
  turnCredentialIssuer : Option (Bytes → TurnCredentials)

/-- A world for runs on fixed inputs: both clocks stand at `now`, every draw is zero, nobody is gone, no
    statement fails and no issuer is configured. -/
def Env.still (now : Int) : Env where
  now := now
  steadyNow := now
  expired := fun _ => false
  draws := ⟨fun _ _ => 0, fun _ _ => 0, fun _ _ => 0⟩
  passwordSalt := fun _ => 0
  updateFails := false
  iceConfigIssuer := none
  turnCredentialIssuer := none

structure PasswordChangeResult where
  passwordFingerprint : Bytes
  response : Json

structure SignalServer where
  transmission : TransmissionManager
  db : DeviceDB
  presence : PresenceManager
  passwordChangeResults : Std.ExtTreeMap Bytes PasswordChangeResult
  passwordChangeResultOrder : List Bytes

/-! ## The session callback -/

/-- The callback the constructor installs: a start or an end of a session, written to the database. -/
def remoteControlSessionCallback (now : Int) (db : DeviceDB) (event : SessionEvent) : DeviceDB :=
  if event.started then
    (db.startRemoteControlSession now event.transmissionId event.hostId event.guestId).2
  else (db.endRemoteControlSession now event.transmissionId event.hostId event.guestId).2

namespace SignalServer

/-- The server after a manager operation: its tables, and its callbacks written in order. -/
def settle {α : Type} (server : SignalServer) (now : Int)
    (outcome : TransmissionManager.Outcome α) : SignalServer :=
  { server with
      transmission := outcome.tm
      db := outcome.events.foldl (remoteControlSessionCallback now) server.db }

/-! ## Messages out -/

/-- One call of `send_msg_(hdl, message)`. -/
def sendMsg (hdl : ConnectionHdl) (message : Json) : List (ConnectionHdl × Json) := [(hdl, message)]

/-- `send_to_user_`: to the connection that speaks for the user. -/
def sendToUser (server : SignalServer) (message : Bytes × Json) : List (ConnectionHdl × Json) :=
  sendMsg (server.transmission.getWsHandle message.1) message.2

/-- `hdl.expired()`; the empty handle always is. -/
def isExpired (env : Env) (hdl : ConnectionHdl) : Bool := hdl == 0 || env.expired hdl

/-- `SendMsg`: of the messages to send, those whose handle is not expired go out. -/
def delivered (env : Env) (sent : List (ConnectionHdl × Json)) : List (ConnectionHdl × Json) :=
  sent.filter fun message => !isExpired env message.1

/-- What a handler returns, leaves behind and sends. -/
structure Handled where
  ret : Bool
  server : SignalServer
  sent : List (ConnectionHdl × Json)

/-! ## Start -/

/-- Bind one guest of a listed session. -/
def restoreGuest (now : Int) (transmissionId : Bytes) (server : SignalServer) (guestId : Bytes) :
    SignalServer :=
  server.settle now (server.transmission.bindGuestToTransmission guestId transmissionId)

/-- Bind the host of a listed session, then its guests. -/
def restoreSession (now : Int) (server : SignalServer) (session : RemoteControlSessionInfo) :
    SignalServer :=
  session.guestIds.foldl (restoreGuest now session.transmissionId)
    (server.settle now
      (server.transmission.bindHostToTransmission session.hostId session.transmissionId))

/-- `std::numeric_limits<int>::max()`. -/
def intMax : Nat := 2147483647

/-- `RestorePersistedRemoteControlSessions`. The list is read before the first bind. -/
def restorePersistedRemoteControlSessions (server : SignalServer) (now : Int) : SignalServer :=
  (server.db.listRemoteControlSessions intMax 0 []).foldl (restoreSession now) server

/-- The members of a new server, before the sessions are restored. -/
def constructed (db : DeviceDB) : SignalServer :=
  ⟨TransmissionManager.empty, db, PresenceManager.empty, ∅, []⟩

/-- The constructor, over the database `InitDB` left. -/
def start (now : Int) (db : DeviceDB) : SignalServer :=
  (constructed db).restorePersistedRemoteControlSessions now

end SignalServer
end DeskServer
