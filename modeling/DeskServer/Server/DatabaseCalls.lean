import DeskServer.Database.Runs
import DeskServer.Server.LastRelease

/-!
# `Server.DatabaseCalls` — the server as a client of its database

Whatever happens to the server reaches the database as calls of its operations. `Serves` says which calls
there are: sessions are started and ended under the id of their host, and what is stored about a client is
written by a login or a report of that client. **Every step is a run of such calls** (`next_calls`), so what
all of them keep holds after every step, and no handler is looked at again.

**Shape.** A handler is a run of calls when its parts are (`calls_settle` for the operations of the manager,
`calls_loginUser`, `calls_clientInfo` and so on), and `next_calls` goes through the events. Only the client
information is tied to the event: of the other calls `Serves` does not say at which event they are made, since
nothing that is proved from it needs that.
-/

namespace DeskServer

open Bytes

/-- A call of the server to its database. -/
inductive DatabaseCall where
  | duration (op : DurationOp)
  /-- A statement on the device table, with the table it leaves. -/
  | credentials (devices : Std.ExtTreeMap SqlText Credential)
  | heartbeat

namespace DeviceDB

/-- The database after one call. -/
def call (now : Int) (db : DeviceDB) : DatabaseCall → DeviceDB
  | .duration op => db.perform (now, op)
  | .credentials devices => { db with devices := devices }
  | .heartbeat => db.recordRuntimeHeartbeat now

end DeviceDB

namespace SignalServer

open TransmissionManager DeviceDB

/-! ## The calls of a step -/

/-- **Who writes what is stored about a client**: the login of the device, which forgets it, and a report on
    a connection that speaks for the device. -/
inductive WritesClientInfo (sha256 : Digest) (server : SignalServer) (step : Step) :
    Bytes → Bytes → Bytes → Prop
  | cleared (hdl : Connection) (payload : Option Json) (j : Json) (userId password id : Bytes) :
      step.2 = .message hdl payload → payloadType payload = some (j, .login) →
      presented j = some (userId, password) → contains (bytes "C-") userId = false →
      loginId sha256 server.db step.1.draws j = some id → shouldTrackClientInfo id = true →
      WritesClientInfo sha256 server step id [] []
  | reported (hdl : Connection) (payload : Option Json) (j : Json) (version platform : Bytes) :
      step.2 = .message hdl payload → payloadType payload = some (j, .clientInfo) →
      j.stringField (bytes "version") = some version → j.stringField (bytes "platform") = some platform →
      version ≠ [] ∧ version.length ≤ 64 → platform ≠ [] ∧ platform.length ≤ 32 →
      shouldTrackClientInfo (server.transmission.getUserId hdl) = true →
      WritesClientInfo sha256 server step (server.transmission.getUserId hdl) version platform

/-- **The calls of the server**; only what is stored about a client is told by the step that makes it. -/
inductive Serves (sha256 : Digest) (server : SignalServer) (step : Step) : DatabaseCall → Prop
  | sessionStart (t g : Bytes) : Serves sha256 server step (.duration (.startRemoteControlSession t t g))
  | sessionEnd (t g : Bytes) : Serves sha256 server step (.duration (.endRemoteControlSession t t g))
  | transmissionEnd (t : Bytes) : Serves sha256 server step (.duration (.endRemoteControlTransmission t))
  | presence (d : Bytes) (online : Bool) : Serves sha256 server step (.duration (.setDeviceOnline d online))
  | clientInfo (d version platform : Bytes) : WritesClientInfo sha256 server step d version platform →
      Serves sha256 server step (.duration (.updateDeviceClientInfo d version platform))
  | credentials (devices : Std.ExtTreeMap SqlText Credential) :
      Serves sha256 server step (.credentials devices)
  | heartbeat : Serves sha256 server step .heartbeat

/-- The calls of `step`, which `first` takes, lead from one database to the other. -/
def Calls (sha256 : Digest) (first : SignalServer) (step : Step) (db db' : DeviceDB) : Prop :=
  Run.Leads (DeviceDB.call step.1.now) (Serves sha256 first step) db db'

variable {sha256 : Digest} {first server : SignalServer} {env : Env} {e : Event} {step : Step}
  {hdl : ConnectionHdl} {j : Json}

theorem Serves.calls {c : DatabaseCall} (h : Serves sha256 first step c) (db : DeviceDB) :
    Calls sha256 first step db (db.call step.1.now c) := Run.Leads.single h db

/-! ## Callbacks -/

/-- A callback as a call. -/
def callOf (event : SessionEvent) : DatabaseCall :=
  if event.started then
    .duration (.startRemoteControlSession event.transmissionId event.hostId event.guestId)
  else .duration (.endRemoteControlSession event.transmissionId event.hostId event.guestId)

theorem call_callOf (now : Int) (db : DeviceDB) (event : SessionEvent) :
    db.call now (callOf event) = remoteControlSessionCallback now db event := by
  unfold callOf remoteControlSessionCallback
  split <;> rfl

/-- Every callback names the transmission after its host. -/
theorem event_home {s' : TransmissionManager} {events : List SessionEvent} (hs : Sound server)
    (h : Effect server.transmission s' events) : ∀ e ∈ events, e.hostId = e.transmissionId := by
  intro e he
  cases h with
  | parts h =>
      obtain ⟨left, hl, rfl⟩ := h
      obtain ⟨p, hp, rfl⟩ := List.mem_map.mp he
      obtain ⟨host, hhost, _⟩ := hs.wellFormed.host_of_mem (hl.member p hp)
      show server.transmission.getHostIdOfTransmission p.1 = p.1
      rw [getHostIdOfTransmission, hhost]
      exact hs.selfHosted p.1 host hhost
  | hosted _ _ _ _ _ hev =>
      rw [hev] at he
      exact absurd he (by simp)
  | joined t host g hhost _ _ _ _ hev =>
      rw [hev, List.mem_singleton] at he
      rw [he]
      exact hs.selfHosted t host hhost

theorem serves_callOf {event : SessionEvent} (h : event.hostId = event.transmissionId) :
    Serves sha256 first step (callOf event) := by
  unfold callOf
  rw [h]
  split
  · exact .sessionStart _ _
  · exact .sessionEnd _ _

/-- **What a manager operation reports is called.** -/
theorem calls_settle {α : Type} {outcome : Outcome α} (hs : Sound server)
    (h : Effect server.transmission outcome.tm outcome.events) :
    Calls sha256 first (env, e) server.db (server.settle env.now outcome).db := by
  refine ⟨outcome.events.map callOf, ?_, ?_⟩
  · intro c hc
    obtain ⟨event, hevent, rfl⟩ := List.mem_map.mp hc
    exact serves_callOf (event_home hs h event hevent)
  · rw [Run.run, List.foldl_map]
    simp only [call_callOf]
    rfl

/-! ## Logins -/

/-- The device table is all `AddDevice` writes. -/
theorem addDevice_tables (sha256 : Digest) (db : DeviceDB) (draws : Draws) (deviceId password : Bytes) :
    ∃ devices, (addDevice sha256 db draws deviceId password).2 = { db with devices := devices } := by
  rcases addDevice_cases sha256 db draws deviceId password with ⟨_, _, _, h⟩ | ⟨_, h | h⟩
  · exact ⟨db.devices, by rw [h]⟩
  · exact ⟨db.devices, by rw [h]⟩
  · obtain ⟨_, hins⟩ := h.inserted
    exact ⟨_, hins⟩

theorem calls_credentials (db : DeviceDB) (devices : Std.ExtTreeMap SqlText Credential) :
    Calls sha256 first step db { db with devices := devices } :=
  (Serves.credentials devices).calls db

theorem calls_setDeviceOnline (step : Step) (db : DeviceDB) (d : Bytes) (online : Bool) :
    Calls sha256 first step db (db.setDeviceOnline step.1.now d online).2 :=
  (Serves.presence d online).calls db

/-- **A login**: the device table, and the client information of the device. -/
theorem calls_loginUser {connection : Connection} {payload : Option Json}
    (he : e = .message connection payload) (hp : payloadType payload = some (j, .login)) :
    Calls sha256 server (env, e) server.db (loginUser sha256 server env connection j).server.db := by
  cases hu : j.stringField (bytes "user_id") with
  | none =>
      rw [loginUser, hu]
      exact .refl _
  | some text =>
      have hpresented : presented j = some (splitPassword text) := by rw [presented, hu]; rfl
      generalize hpair : splitPassword text = pair at hpresented
      obtain ⟨userId, password⟩ := pair
      rw [loginUser, hu]
      simp only [hpair]
      cases hclone : contains (bytes "C-") userId with
      | true =>
          -- no table is asked
          simp only [loginClone, bindIdentity_eq, Bool.not_true, Bool.false_eq_true, if_false, if_true]
          exact .refl _
      | false =>
          obtain ⟨devices, hadded⟩ := addDevice_tables sha256 server.db env.draws userId password
          have htable : Calls sha256 server (env, e) server.db
              (addDevice sha256 server.db env.draws userId password).2 := by
            rw [hadded]
            exact calls_credentials server.db devices
          simp only [loginDevice, bindIdentity_eq, Bool.not_false, if_true]
          by_cases hnil : (addDevice sha256 server.db env.draws userId password).1.deviceId = []
          · rw [if_pos hnil]
            exact htable
          · rw [if_neg hnil]
            by_cases htrack : shouldTrackClientInfo
                (addDevice sha256 server.db env.draws userId password).1.deviceId = true
            · have hid : loginId sha256 server.db env.draws j
                  = some (addDevice sha256 server.db env.draws userId password).1.deviceId := by
                rw [loginId, hpresented]
                simp only [Option.bind_some, hclone, Bool.false_eq_true, if_false, if_neg hnil]
              simp only [htrack, if_true]
              have hcleared : WritesClientInfo sha256 server (env, e) _ [] [] :=
                .cleared connection payload j userId password _ he hp hpresented hclone hid htrack
              exact htable.trans ((Serves.clientInfo _ _ _ hcleared).calls _)
            · simp only [htrack]
              exact htable

theorem calls_login {connection : Connection} {payload : Option Json}
    (he : e = .message connection payload) (hp : payloadType payload = some (j, .login)) :
    Calls sha256 server (env, e) server.db (server.login sha256 env connection j).1.db := by
  have huser : Calls sha256 server (env, e) server.db (loginUser sha256 server env connection j).server.db :=
    calls_loginUser he hp
  unfold login
  simp only
  split
  · exact huser.trans (calls_setDeviceOnline (env, e) _ _ true)
  · exact huser

/-! ## The other messages -/

theorem calls_clientInfo {connection : Connection} {payload : Option Json}
    (he : e = .message connection payload) (hp : payloadType payload = some (j, .clientInfo)) :
    Calls sha256 server (env, e) server.db (clientInfo server env connection j).server.db := by
  unfold clientInfo
  split
  · rename_i version platform hversion hplatform
    split
    · exact .refl _
    · rename_i hfields
      simp only [not_or, Nat.not_lt] at hfields
      obtain ⟨hv, hv', hpl, hpl'⟩ := hfields
      simp only
      split
      · exact .refl _
      · split
        · exact .refl _
        · rename_i htrack
          have htrack' : shouldTrackClientInfo (server.transmission.getUserId connection) = true := by
            simpa using htrack
          have hreported : WritesClientInfo sha256 server (env, e) _ version platform :=
            .reported connection payload j version platform he hp hversion hplatform ⟨hv, hv'⟩ ⟨hpl, hpl'⟩
              htrack'
          exact (Serves.clientInfo _ _ _ hreported).calls _
  · exact .refl _

theorem calls_leave (hs : Sound server) :
    Calls sha256 first (env, e) server.db (leaveTransmission server env j).server.db := by
  unfold leaveTransmission
  split
  · simp only
    split
    · exact calls_settle hs (.parts (releaseTransmission_parts hs.wellFormed _))
    · exact calls_settle hs (.parts (releaseGuestFromTransmission_parts hs.wellFormed _))
  · exact .refl _

theorem calls_join (hs : Sound server) :
    Calls sha256 first (env, e) server.db (joinTransmission sha256 server env hdl j).server.db := by
  rcases joinTransmission_cases sha256 server env hdl j with h | ⟨t, u, _, h⟩
  · rw [h]
    exact .refl _
  · rw [h]
    exact calls_settle hs (bindGuestToTransmission_effect hs.wellFormed u t)

/-- A ping only reaches the activity of its connection. -/
theorem calls_ping : Calls sha256 first (env, e) server.db (server.settle env.now
    (server.transmission.updateWsHandleLastActiveTime env.steadyNow hdl)).db := by
  rw [settle_of_quiet (updateWsHandleLastActiveTime_events _ _)]
  exact .refl _

/-- **A message.** -/
theorem calls_message (hs : Sound server) {connection : Connection} {payload : Option Json}
    {type : MessageType} (he : e = .message connection payload)
    (hp : payloadType payload = some (j, type)) :
    Calls sha256 server (env, e) server.db (server.handleMessage sha256 env connection j type).1.db := by
  cases type with
  | ping => exact calls_ping
  | login => exact calls_login he hp
  | userLeaveTransmission => exact calls_leave hs
  | joinTransmission => exact calls_join hs
  | changePassword =>
      show Calls _ _ _ _ (changePassword sha256 server env connection j).server.db
      rcases changePassword_cases sha256 server env connection j with h | ⟨_, _, _, _, _, hdb⟩
      · rw [h]
        exact .refl _
      · rw [hdb]
        exact calls_credentials server.db _
  | clientInfo => exact calls_clientInfo he hp
  | recentConnectionsPresence =>
      rcases recentConnectionsPresence_server server connection j with h | ⟨_, _, _, h⟩
      · rw [handleMessage, h]
        exact .refl _
      · rw [handleMessage, h]
        exact .refl _
  | queryUserIdList =>
      show Calls _ _ _ _ (queryUserIdList sha256 server connection j).server.db
      rw [queryUserIdList_server]
      exact .refl _
  | offer =>
      show Calls _ _ _ _ (offer server env connection j).server.db
      rw [offer_server]
      exact .refl _
  | answer =>
      show Calls _ _ _ _ (answer server j).server.db
      rw [answer_server]
      exact .refl _
  | newCandidate =>
      show Calls _ _ _ _ (newCandidate server j).server.db
      rw [newCandidate_server]
      exact .refl _
  | newCandidateMid =>
      show Calls _ _ _ _ (newCandidateMid server j).server.db
      rw [newCandidateMid_server]
      exact .refl _
  | turnCredentials =>
      show Calls _ _ _ _ (turnCredentials server env connection).server.db
      rw [turnCredentials_server]
      exact .refl _

/-! ## Releases -/

theorem calls_onWebClientDisconnect (server : SignalServer) (u : Bytes) :
    Calls sha256 first step server.db (server.onWebClientDisconnect u).db := by
  unfold onWebClientDisconnect
  simp only
  split
  · exact calls_credentials server.db _
  · exact .refl _

theorem calls_onClose (hs : Sound server) :
    Calls sha256 first (env, e) server.db (server.onClose env hdl).1.db := by
  have hreleased : Calls sha256 first (env, e) server.db
      (server.settle env.now (server.transmission.releaseUserSession hdl)).db :=
    calls_settle hs (.parts (releaseUserSession_parts hs.wellFormed hdl))
  unfold onClose
  simp only
  split
  · -- the device of a browser, then the logout
    generalize hidle : ({ (server.settle env.now (server.transmission.releaseUserSession hdl)) with
      transmission := _ } : SignalServer) = idle
    have hdb : idle.db = (server.settle env.now (server.transmission.releaseUserSession hdl)).db := by
      rw [← hidle]
    rw [← hdb] at hreleased
    apply hreleased.trans
    apply (calls_onWebClientDisconnect idle (server.transmission.releaseUserSession hdl).ret).trans
    exact calls_setDeviceOnline (env, e) _ _ false
  · exact hreleased

theorem calls_timedOut (hs : Sound server) :
    Calls sha256 first (env, e) server.db (timedOut env server hdl).db := by
  have hexpired : Calls sha256 first (env, e) server.db
      (server.settle env.now (server.transmission.expireSession hdl)).db :=
    calls_settle hs (.parts (expireSession_parts hs.wellFormed hdl))
  unfold timedOut onSessionTimeout
  simp only
  split
  · -- the logout, then the device of a browser
    apply hexpired.trans
    have hlogout : Calls sha256 first (env, e)
        (server.settle env.now (server.transmission.expireSession hdl)).db
        ((server.settle env.now (server.transmission.expireSession hdl)).onLogout env
          (server.transmission.expireSession hdl).ret).1.db := calls_setDeviceOnline (env, e) _ _ false
    exact hlogout.trans (calls_onWebClientDisconnect _ _)
  · exact hexpired

/-- Induction on the condemned connections still to time out. -/
theorem calls_swept (hs : Sound server) (hdls : List ConnectionHdl) :
    Calls sha256 first (env, e) server.db (hdls.foldl (timedOut env) server).db := by
  induction hdls generalizing server with
  | nil => exact .refl _
  | cons k hdls ih => exact (calls_timedOut hs).trans (ih (hs.timedOut env k))

theorem calls_handleDisconnect (hs : Sound server) (t : Bytes) :
    Calls sha256 first (env, e) server.db (server.handleDisconnect env t).1.db := by
  unfold handleDisconnect
  split
  · exact .refl _
  · have hclosed : Calls sha256 first (env, e) server.db
        (server.settle env.now (server.transmission.disconnectTransmission t)).db :=
      calls_settle hs (.parts (disconnectTransmission_parts hs.wellFormed t))
    simp only
    split
    · exact hclosed.trans ((Serves.transmissionEnd t).calls _)
    · exact hclosed

/-! ## Every step -/

/-- **Every step is a run of its calls.** -/
theorem next_calls (hs : Sound server) (step : Step) :
    Calls sha256 server step server.db (server.next sha256 step).db := by
  obtain ⟨env, e⟩ := step
  show Calls _ _ _ _ (server.react sha256 env e).1.db
  cases e with
  | message connection payload =>
      show Calls _ _ _ _ (server.onMessage sha256 env connection payload).1.db
      unfold onMessage
      cases hp : payloadType payload with
      | none => exact .refl _
      | some typed => exact calls_message hs rfl hp
  | close connection => exact calls_onClose hs
  | fail connection => exact calls_onClose hs
  | ping connection => exact calls_ping
  | pong connection => exact calls_ping
  | sweep =>
      show Calls _ _ _ _ (server.sweep env).1.db
      rw [sweep_eq]
      exact calls_swept hs _
  | runtimeHeartbeat => exact Serves.heartbeat.calls server.db
  | recoveredSessionCleanup =>
      exact calls_settle hs (.parts (pruneDisconnectedTransmissions_parts hs.wellFormed))
  | adminDisconnect t => exact calls_handleDisconnect hs t

/-! ## The restore -/

/-- A manager operation keeps of the database what its callbacks keep. -/
theorem settle_keeps {I : DeviceDB → Prop} {now : Int}
    (hI : ∀ db event, I db → I (remoteControlSessionCallback now db event)) {α : Type}
    (outcome : Outcome α) (h : I server.db) : I (server.settle now outcome).db :=
  Run.run_invariant (remoteControlSessionCallback now) hI h outcome.events

/-- **The constructor, by induction on the sessions and their guests.** -/
theorem start_keeps {I : DeviceDB → Prop} {now : Int}
    (hI : ∀ db event, I db → I (remoteControlSessionCallback now db event)) {db : DeviceDB} (h : I db) :
    I (start now db).db := by
  apply Run.run_invariant (restoreSession now) (I := fun restored => I restored.db) ?_ h
  intro restored session hrestored
  apply Run.run_invariant (restoreGuest now session.transmissionId) (I := fun restored => I restored.db)
  · intro bound g hbound
    exact settle_keeps hI _ hbound
  · exact settle_keeps hI _ hrestored

end SignalServer
end DeskServer
