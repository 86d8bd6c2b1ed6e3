import DeskServer.Server.Events
import DeskServer.Server.Login

/-!
# `Server.Steps` — what one event can do to identities, credentials and presence

Most events are **quiet**: they touch no identity, no route, no row of the device table and no online
mark. The others are four: a login, a password change, and the release of a connection by a close or by
the watchdog. Each gets one lemma that says all it does to these; the invariants over runs are derived
from them and look at no handler again.

**Shape.** `Quiet` and `Departed` say what is left alone, handler by handler, and `react_cases` gives for
every event the case it is. What a quiet step does to sessions is not decided here; that is
`Transmission.Effects`.
-/

namespace DeskServer
namespace SignalServer

open Bytes PresenceManager TransmissionManager

/-! ## Quiet steps -/

/-- The same ids are counted online. -/
structure SameOnline (p p' : PresenceManager) : Prop where
  devices : p'.onlineDevices = p.onlineDevices
  webClients : p'.onlineWebClients = p.onlineWebClients

theorem SameOnline.refl (p : PresenceManager) : SameOnline p p := ⟨rfl, rfl⟩

theorem SameOnline.trans {p p' p'' : PresenceManager} (h : SameOnline p p') (h' : SameOnline p' p'') :
    SameOnline p p'' :=
  ⟨h'.devices.trans h.devices, h'.webClients.trans h.webClients⟩

theorem SameOnline.counted_iff {p p' : PresenceManager} (h : SameOnline p p') {u : Bytes} :
    p'.Counted u ↔ p.Counted u := by rw [Counted, Counted, h.devices, h.webClients]

theorem SameOnline.sorted {p p' : PresenceManager} (h : SameOnline p p') (hp : p.Sorted) :
    p'.Sorted :=
  ⟨fun u hu => hp.devices u (h.devices ▸ hu), fun u hu => hp.webClients u (h.webClients ▸ hu)⟩

/-- **A quiet step**: nobody's identity, route, credential or online mark changes. -/
structure Quiet (server server' : SignalServer) : Prop where
  connections : SameConnections server.transmission server'.transmission
  devices : server'.db.devices = server.db.devices
  online : SameOnline server.presence server'.presence

variable {sha256 : Digest} {server server' server'' : SignalServer} {env : Env}
  {hdl : ConnectionHdl} {j : Json}

theorem Quiet.refl (server : SignalServer) : Quiet server server := ⟨.refl _, rfl, .refl _⟩

theorem Quiet.trans (h : Quiet server server') (h' : Quiet server' server'') : Quiet server server'' :=
  ⟨h.connections.trans h'.connections, h'.devices.trans h.devices, h.online.trans h'.online⟩

/-! ## The session callback -/

theorem remoteControlSessionCallback_devices (now : Int) (db : DeviceDB) (event : SessionEvent) :
    (remoteControlSessionCallback now db event).devices = db.devices := by
  unfold remoteControlSessionCallback
  split
  · unfold DeviceDB.startRemoteControlSession
    split <;> rfl
  · unfold DeviceDB.endRemoteControlSession
    split
    · rfl
    · simp only
      split
      · rfl
      · split <;> rfl

/-- Induction on the callbacks of one manager operation. -/
theorem foldl_callback_devices (now : Int) (events : List SessionEvent) (db : DeviceDB) :
    (events.foldl (remoteControlSessionCallback now) db).devices = db.devices := by
  induction events generalizing db with
  | nil => rfl
  | cons event events ih =>
      rw [List.foldl_cons, ih, remoteControlSessionCallback_devices]

theorem settle_devices {α : Type} (now : Int) (outcome : Outcome α) :
    (server.settle now outcome).db.devices = server.db.devices := foldl_callback_devices now _ _

theorem quiet_settle {α : Type} {outcome : Outcome α} (now : Int)
    (h : SameConnections server.transmission outcome.tm) : Quiet server (server.settle now outcome) :=
  ⟨h, settle_devices now outcome, .refl _⟩

/-- Induction on the sessions an operator's disconnect ends in the database. -/
theorem foldl_endStep_devices (now : Int) (t : Bytes) (l : List (Bytes × Bytes))
    (acc : Bool × DeviceDB) : (l.foldl (DeviceDB.endStep now t) acc).2.devices = acc.2.devices := by
  induction l generalizing acc with
  | nil => rfl
  | cons session l ih =>
      rw [List.foldl_cons, ih]
      exact remoteControlSessionCallback_devices now acc.2 ⟨t, session.1, session.2, false⟩

theorem endRemoteControlTransmission_devices (db : DeviceDB) (now : Int) (t : Bytes) :
    (db.endRemoteControlTransmission now t).2.devices = db.devices := by
  unfold DeviceDB.endRemoteControlTransmission
  split
  · rfl
  · exact foldl_endStep_devices now t _ _

/-! ## The quiet messages -/

theorem queryUserIdList_server : (queryUserIdList sha256 server hdl j).server = server := by
  unfold queryUserIdList
  cases j.stringField (bytes "transmission_id") with
  | none => rfl
  | some transmissionIdPwd =>
      simp only
      split
      · rfl
      · split
        · rfl
        · split <;> rfl

theorem offer_server : (offer server env hdl j).server = server := by
  unfold offer
  split
  · split
    · rfl
    · split <;> rfl
  · rfl

theorem answer_server : (answer server j).server = server := by
  unfold answer
  split
  · split <;> rfl
  · rfl

theorem relayCandidate_server (remoteUserId : Bytes) (message : Json) :
    (relayCandidate server j remoteUserId message).server = server := by
  unfold relayCandidate
  split <;> rfl

theorem newCandidate_server : (newCandidate server j).server = server := by
  unfold newCandidate
  split
  · exact relayCandidate_server _ _
  · rfl

theorem newCandidateMid_server : (newCandidateMid server j).server = server := by
  unfold newCandidateMid
  split
  · exact relayCandidate_server _ _
  · rfl

theorem turnCredentials_server : (turnCredentials server env hdl).server = server := by
  unfold turnCredentials
  simp only
  split
  · rfl
  · split <;> rfl

/-- The report of a client only reaches its presence row. -/
theorem clientInfo_server (server : SignalServer) (env : Env) (hdl : ConnectionHdl) (j : Json) :
    (clientInfo server env hdl j).server = server ∨
    ∃ userId f, (clientInfo server env hdl j).server
      = { server with db := server.db.upsertPresence userId f } := by
  unfold clientInfo
  split
  · split
    · exact .inl rfl
    · simp only
      split
      · exact .inl rfl
      · rename_i hne
        split
        · exact .inl rfl
        · right
          unfold DeviceDB.updateDeviceClientInfo
          rw [if_neg hne]
          exact ⟨_, _, rfl⟩
  · exact .inl rfl

theorem recentConnectionsPresence_server (server : SignalServer) (hdl : ConnectionHdl) (j : Json) :
    (recentConnectionsPresence server hdl j).1 = server ∨
    ∃ userId deviceIds replace, (recentConnectionsPresence server hdl j).1
      = { server with presence := server.presence.updateUserDevices userId deviceIds replace } := by
  unfold recentConnectionsPresence
  simp only
  split
  · exact .inl rfl
  · split
    · exact .inl rfl
    · split
      · exact .inr ⟨_, _, _, rfl⟩
      · exact .inl rfl

theorem leaveTransmission_quiet : Quiet server (leaveTransmission server env j).server := by
  unfold leaveTransmission
  split
  · simp only
    split
    · exact quiet_settle _ (releaseTransmission_connections _)
    · exact quiet_settle _ (releaseGuestFromTransmission_connections _)
  · exact .refl _

/-- **What a join can do**: nothing, or let the connection's own user into a hosted transmission whose
    password it showed. -/
theorem joinTransmission_cases (sha256 : Digest) (server : SignalServer) (env : Env)
    (hdl : ConnectionHdl) (j : Json) : (joinTransmission sha256 server env hdl j).server = server ∨
    ∃ transmissionId userId, userId = server.transmission.getUserId hdl ∧
      (joinTransmission sha256 server env hdl j).server = server.settle env.now
        (server.transmission.bindGuestToTransmission userId transmissionId) := by
  unfold joinTransmission
  split
  · rename_i text userId _ _
    simp only
    split
    · split
      · exact .inl rfl
      · split
        · exact .inl rfl
        · rename_i huser
          exact .inr ⟨_, userId, (not_not.mp huser).symm, rfl⟩
    · split
      · exact .inl rfl
      · split <;> exact .inl rfl
  · exact .inl rfl

theorem joinTransmission_quiet : Quiet server (joinTransmission sha256 server env hdl j).server := by
  rcases joinTransmission_cases sha256 server env hdl j with h | ⟨t, u, _, h⟩
  · rw [h]; exact .refl _
  · rw [h]; exact quiet_settle _ (bindGuestToTransmission_connections _ _)

/-- Nothing changes but what the database shows of a client and who watches whom. -/
structure Harmless (server server' : SignalServer) : Prop where
  transmission : server'.transmission = server.transmission
  devices : server'.db.devices = server.db.devices
  sessions : server'.db.remoteControlSessions = server.db.remoteControlSessions
  online : SameOnline server.presence server'.presence

theorem Harmless.refl (server : SignalServer) : Harmless server server := ⟨rfl, rfl, rfl, .refl _⟩

theorem Harmless.quiet (h : Harmless server server') : Quiet server server' where
  connections := by rw [h.transmission]; exact .refl _
  devices := h.devices
  online := h.online

/-- The messages that reach the tables of the manager or of the devices. -/
def reachesTables : MessageType → Bool
  | .ping | .login | .userLeaveTransmission | .joinTransmission | .changePassword => true
  | _ => false

/-- **Every other message is harmless.** -/
theorem handleMessage_harmless {type : MessageType} (htype : reachesTables type = false) :
    Harmless server (server.handleMessage sha256 env hdl j type).1 := by
  cases type with
  | ping | login | userLeaveTransmission | joinTransmission | changePassword =>
      exact absurd htype (by decide)
  | queryUserIdList =>
      show Harmless server (queryUserIdList sha256 server hdl j).server
      rw [queryUserIdList_server]; exact .refl _
  | offer =>
      show Harmless server (offer server env hdl j).server
      rw [offer_server]; exact .refl _
  | answer =>
      show Harmless server (answer server j).server
      rw [answer_server]; exact .refl _
  | newCandidate =>
      show Harmless server (newCandidate server j).server
      rw [newCandidate_server]; exact .refl _
  | newCandidateMid =>
      show Harmless server (newCandidateMid server j).server
      rw [newCandidateMid_server]; exact .refl _
  | turnCredentials =>
      show Harmless server (turnCredentials server env hdl).server
      rw [turnCredentials_server]; exact .refl _
  | clientInfo =>
      -- the report of a client reaches its presence row alone
      show Harmless server (clientInfo server env hdl j).server
      rcases clientInfo_server server env hdl j with h | ⟨userId, f, h⟩
      · rw [h]; exact .refl _
      · rw [h]; exact ⟨rfl, rfl, rfl, .refl _⟩
  | recentConnectionsPresence =>
      rcases recentConnectionsPresence_server server hdl j with h | ⟨userId, deviceIds, replace, h⟩
      · rw [handleMessage, h]; exact .refl _
      · rw [handleMessage, h]; exact ⟨rfl, rfl, rfl, rfl, rfl⟩

/-- **Every message but a login and a password change is quiet.** -/
theorem handleMessage_quiet {type : MessageType} (hlogin : type ≠ .login)
    (hchange : type ≠ .changePassword) :
    Quiet server (server.handleMessage sha256 env hdl j type).1 := by
  cases type with
  | ping => exact quiet_settle _ (updateWsHandleLastActiveTime_connections _ _)
  | login => exact absurd rfl hlogin
  | changePassword => exact absurd rfl hchange
  | userLeaveTransmission => exact leaveTransmission_quiet
  | joinTransmission => exact joinTransmission_quiet
  | queryUserIdList | offer | answer | newCandidate | newCandidateMid | turnCredentials
  | clientInfo | recentConnectionsPresence => exact (handleMessage_harmless rfl).quiet

/-- An operator's disconnect is quiet. -/
theorem handleDisconnect_quiet (t : Bytes) : Quiet server (server.handleDisconnect env t).1 := by
  unfold handleDisconnect
  split
  · exact .refl _
  · have hclosed : Quiet server
        (server.settle env.now (server.transmission.disconnectTransmission t)) :=
      quiet_settle _ (disconnectTransmission_connections t)
    simp only
    split
    · exact ⟨hclosed.connections, (endRemoteControlTransmission_devices _ _ _).trans hclosed.devices,
        hclosed.online⟩
    · exact hclosed

/-- An operator's disconnect reaches the manager through one call. -/
theorem handleDisconnect_transmission (t : Bytes) :
    (server.handleDisconnect env t).1.transmission
      = if t = [] then server.transmission else (server.transmission.disconnectTransmission t).tm := by
  unfold handleDisconnect
  split
  · rfl
  · simp only
    split <;> rfl

/-! ## A password change -/

/-- The message gets as far as the update: `u` is the user of the connection, it is not a temporary
    identity, the request and the new password are well formed, and the request is not remembered. -/
structure UpdatesPassword (server : SignalServer) (hdl : ConnectionHdl) (j : Json) (u : Bytes) :
    Prop where
  authenticated : server.transmission.Authenticated hdl u
  persistent : temporaryIdentity u = false
  new : ∃ requestId newPassword, j.stringField (bytes "request_id") = some requestId ∧
    validRequestId requestId = true ∧ j.stringField (bytes "new_password") = some newPassword ∧
    newPassword.length = 6 ∧ server.passwordChangeResults[passwordChangeKey u requestId]? = none

/-- **What a password change can do**: nothing to anybody's credentials, or one update of the row the
    user's id is bound to. -/
theorem changePassword_cases (sha256 : Digest) (server : SignalServer) (env : Env)
    (hdl : ConnectionHdl) (j : Json) :
    (changePassword sha256 server env hdl j).server = server ∨
    ∃ u credential, UpdatesPassword server hdl j u ∧
      (changePassword sha256 server env hdl j).server.transmission = server.transmission ∧
      (changePassword sha256 server env hdl j).server.presence = server.presence ∧
      (changePassword sha256 server env hdl j).server.db = { server.db with
        devices := server.db.devices.alter (bindText u) (Option.map fun _ => credential) } := by
  unfold changePassword
  simp only
  cases hr : (j.stringField (bytes "request_id")).filter validRequestId with
  | none => exact .inl rfl
  | some requestId =>
      simp only
      split
      · exact .inl rfl
      · rename_i huser
        split
        · exact .inl rfl
        · rename_i htemp
          cases hp : (j.stringField (bytes "new_password")).filter fun p => p.length == 6 with
          | none => exact .inl rfl
          | some newPassword =>
              simp only
              unfold applyPasswordChange
              simp only
              cases hc : server.passwordChangeResults[passwordChangeKey
                  (server.transmission.getUserId hdl) requestId]? with
              | some cached =>
                  simp only
                  split <;> exact .inl rfl
              | none =>
                  obtain ⟨hreq, hvalid⟩ := Option.filter_eq_some_iff.mp hr
                  obtain ⟨hnew, hlen⟩ := Option.filter_eq_some_iff.mp hp
                  by_cases hfails : env.updateFails = true
                  · simp only [if_pos hfails]
                    exact .inl rfl
                  · simp only [if_neg hfails]
                    right
                    refine ⟨server.transmission.getUserId hdl, _,
                      ⟨authenticated_of_getUserId huser, by simpa using htemp, requestId, newPassword,
                        hreq, hvalid, hnew, by simpa using hlen, hc⟩, rfl, rfl, rfl⟩

/-! ## A login -/

/-- **The login event**: what `login_user` did, and whoever the connection now speaks for is counted. -/
theorem login_frames (sha256 : Digest) (server : SignalServer) (env : Env) (hdl : ConnectionHdl)
    (j : Json) :
    (server.login sha256 env hdl j).1.transmission
        = (loginUser sha256 server env hdl j).server.transmission ∧
      (server.login sha256 env hdl j).1.db.devices
        = (loginUser sha256 server env hdl j).server.db.devices ∧
      (server.login sha256 env hdl j).1.db.remoteControlSessions
        = (loginUser sha256 server env hdl j).server.db.remoteControlSessions ∧
      ((loginUser sha256 server env hdl j).server.transmission.getUserId hdl = [] ∧
          SameOnline (loginUser sha256 server env hdl j).server.presence
            (server.login sha256 env hdl j).1.presence ∨
        (loginUser sha256 server env hdl j).server.transmission.getUserId hdl ≠ [] ∧
          SameOnline ((loginUser sha256 server env hdl j).server.presence.countOnline
              ((loginUser sha256 server env hdl j).server.transmission.getUserId hdl))
            (server.login sha256 env hdl j).1.presence) := by
  unfold login
  simp only
  by_cases hid : (loginUser sha256 server env hdl j).server.transmission.getUserId hdl = []
  · rw [if_neg (not_not.mpr hid)]
    exact ⟨rfl, rfl, rfl, .inl ⟨hid, .refl _⟩⟩
  · rw [if_pos hid]
    exact ⟨rfl, rfl, rfl, .inr ⟨hid, .refl _⟩⟩

/-! ## A release -/

/-- `u` left: the connection released was the last one that spoke for it. -/
structure Left (server server' : SignalServer) (hdl : ConnectionHdl) (u : Bytes) : Prop where
  named : u ≠ []
  before : server.transmission.Authenticated hdl u
  after : ∀ hdl', ¬ server'.transmission.Authenticated hdl' u

/-- The device table after `u` left. -/
def devicesWithout (devices : Std.ExtTreeMap SqlText Credential) (u : Bytes) :
    Std.ExtTreeMap SqlText Credential :=
  if isWebClient (splitPassword u).1 then devices.erase (bindText (splitPassword u).1) else devices

/-- **What the release of a connection does**: the connection speaks for nobody, and if a user left with
    it, that user is offline and its browser device is gone. -/
structure Departed (server server' : SignalServer) (hdl : ConnectionHdl) : Prop where
  users : server'.transmission.wsHdlUserIdList = server.transmission.wsHdlUserIdList.erase hdl
  routed : server.transmission.Routed → server'.transmission.Routed
  kept : (∀ u, ¬ Left server server' hdl u) →
    server'.db.devices = server.db.devices ∧ SameOnline server.presence server'.presence
  left : ∀ u, Left server server' hdl u →
    server'.db.devices = devicesWithout server.db.devices u ∧
      SameOnline (server.presence.countOffline u) server'.presence

/-- The two callers of `ReleaseUserSession`, over the manager `s` they call it on. -/
theorem departed_of {s : TransmissionManager} (hs : SameConnections server.transmission s)
    (htm : SameConnections (s.releaseUserSession hdl).tm server'.transmission)
    (hkept : (s.releaseUserSession hdl).ret = [] → server'.db.devices = server.db.devices ∧
      SameOnline server.presence server'.presence)
    (hleft : (s.releaseUserSession hdl).ret ≠ [] →
      server'.db.devices = devicesWithout server.db.devices (s.releaseUserSession hdl).ret ∧
        SameOnline (server.presence.countOffline (s.releaseUserSession hdl).ret)
          server'.presence) : Departed server server' hdl := by
  have hiff : ∀ u, u ≠ [] → ((s.releaseUserSession hdl).ret = u ↔ Left server server' hdl u) := by
    intro u hu
    rw [releaseUserSession_ret hdl hu]
    constructor
    · rintro ⟨hb, ha⟩
      exact ⟨hu, hs.authenticated_iff.mp hb, fun hdl' h => ha hdl' (htm.authenticated_iff.mp h)⟩
    · intro h
      exact ⟨hs.authenticated_iff.mpr h.before, fun hdl' h' =>
        h.after hdl' (htm.authenticated_iff.mpr h')⟩
  refine ⟨?_, fun hr => ((hr.of_same hs).releaseUserSession hdl).of_same htm, fun hnobody => ?_,
    fun u hu => ?_⟩
  · rw [htm.users, releaseUserSession_users, hs.users]
  · by_cases hret : (s.releaseUserSession hdl).ret = []
    · exact hkept hret
    · exact absurd ((hiff _ hret).mp rfl) (hnobody _)
  · have hret := (hiff u hu.named).mpr hu
    have := hleft (hret ▸ hu.named)
    rwa [hret] at this

theorem onWebClientDisconnect_devices (u : Bytes) :
    (server.onWebClientDisconnect u).db.devices = devicesWithout server.db.devices u := by
  unfold onWebClientDisconnect devicesWithout
  simp only
  split <;> rfl

theorem onWebClientDisconnect_others (server : SignalServer) (u : Bytes) :
    (server.onWebClientDisconnect u).transmission = server.transmission ∧
      (server.onWebClientDisconnect u).presence = server.presence ∧
      (server.onWebClientDisconnect u).db.remoteControlSessions = server.db.remoteControlSessions := by
  unfold onWebClientDisconnect
  simp only
  split <;> exact ⟨rfl, rfl, rfl⟩

/-- A logout takes the id out of the count, watching or not. -/
theorem onLogout_online (server : SignalServer) (env : Env) (u : Bytes) :
    SameOnline (server.presence.countOffline u) (server.onLogout env u).1.presence := by
  show SameOnline _ ({ server.presence with
    associations := server.presence.associations.erase u }.countOffline u)
  unfold countOffline
  split
  · exact ⟨rfl, rfl⟩
  · split <;> exact ⟨rfl, rfl⟩

/-- **A close or a failure releases the connection.** -/
theorem onClose_departed (server : SignalServer) (env : Env) (hdl : ConnectionHdl) :
    Departed server (server.onClose env hdl).1 hdl := by
  refine departed_of (.refl _) ?_ ?_ ?_
  · unfold onClose
    simp only
    split
    · show SameConnections _ (onWebClientDisconnect _ _).transmission
      rw [(onWebClientDisconnect_others _ _).1]
      exact removeWsHandleLastActiveTime_connections hdl
    · exact removeWsHandleLastActiveTime_connections hdl
  · intro hret
    unfold onClose
    simp only [hret, ne_eq, not_true_eq_false, if_false]
    exact ⟨settle_devices _ _, .refl _⟩
  · intro hret
    unfold onClose
    simp only [hret, ne_eq, not_false_eq_true, if_true]
    refine ⟨?_, ?_⟩
    · show (onWebClientDisconnect _ _).db.devices = _
      rw [onWebClientDisconnect_devices]
      exact congrArg (devicesWithout · _) (settle_devices _ _)
    · refine SameOnline.trans ?_ (onLogout_online _ env _)
      rw [(onWebClientDisconnect_others _ _).2.1]
      exact .refl _

/-! ## A sweep -/

/-- The server after one connection timed out. -/
def timedOut (env : Env) (server : SignalServer) (hdl : ConnectionHdl) : SignalServer :=
  let released := server.transmission.expireSession hdl
  ((server.settle env.now released).onSessionTimeout env released.ret).1

/-- The connections a sweep condemns, in the order it visits them. -/
def condemned (server : SignalServer) (env : Env) : List ConnectionHdl :=
  (server.transmission.wsHdlLastActiveTimeMap.toList.filter fun entry =>
    isInactive env.steadyNow env.expired entry).map Prod.fst

theorem onSessionTimeout_transmission (u : Bytes) :
    (server.onSessionTimeout env u).1.transmission = server.transmission := by
  unfold onSessionTimeout
  split
  · exact (onWebClientDisconnect_others _ _).1
  · rfl

/-- Induction on the activity entries still to visit: the server carried along holds the manager. -/
theorem foldl_expireStep_eq (env : Env) (l : List (ConnectionHdl × Int))
    (acc : SignalServer × List (ConnectionHdl × Json)) :
    let swept := l.foldl (expireStep env.steadyNow env.expired (timeoutStep env))
      (acc.1.transmission, acc)
    let served := ((l.filter fun entry => isInactive env.steadyNow env.expired entry).map
      Prod.fst).foldl (timedOut env) acc.1
    swept.2.1 = served ∧ swept.1 = served.transmission := by
  induction l generalizing acc with
  | nil => exact ⟨rfl, rfl⟩
  | cons entry l ih =>
      intro swept served
      by_cases hin : isInactive env.steadyNow env.expired entry = true
      · have hstep : expireStep env.steadyNow env.expired (timeoutStep env)
            (acc.1.transmission, acc) entry
            = ((timeoutStep env (acc.1.transmission.expireSession entry.1) entry.1 acc).1.transmission,
              timeoutStep env (acc.1.transmission.expireSession entry.1) entry.1 acc) := by
          unfold expireStep
          simp only [hin, if_true]
          refine Prod.ext ?_ rfl
          show _ = (onSessionTimeout _ _ _).1.transmission
          rw [onSessionTimeout_transmission]
          rfl
        have := ih (timeoutStep env (acc.1.transmission.expireSession entry.1) entry.1 acc)
        simp only [swept, served, List.foldl_cons, hstep, List.filter_cons, hin, if_true,
          List.map_cons]
        exact this
      · have hstep : expireStep env.steadyNow env.expired (timeoutStep env)
            (acc.1.transmission, acc) entry = (acc.1.transmission, acc) := by
          unfold expireStep
          rw [if_neg hin]
        simp only [swept, served, List.foldl_cons, hstep, List.filter_cons, hin]
        exact ih acc

/-- **A sweep times out the condemned connections one after another.** -/
theorem sweep_eq (server : SignalServer) (env : Env) :
    (server.sweep env).1 = (server.condemned env).foldl (timedOut env) server := by
  obtain ⟨hserver, htm⟩ := foldl_expireStep_eq env
    server.transmission.wsHdlLastActiveTimeMap.toList (server, [])
  unfold sweep condemned expireInactiveSessions
  simp only
  rw [hserver, htm]

/-- **A timeout releases the connection.** -/
theorem timedOut_departed (server : SignalServer) (env : Env) (hdl : ConnectionHdl) :
    Departed server (timedOut env server hdl) hdl := by
  refine departed_of (removeWsHandleLastActiveTime_connections hdl) ?_ ?_ ?_
  · unfold timedOut
    simp only
    rw [onSessionTimeout_transmission]
    exact .refl _
  · intro hret
    have hret' : (server.transmission.expireSession hdl).ret = [] := hret
    unfold timedOut onSessionTimeout
    simp only [hret', ne_eq, not_true_eq_false, if_false]
    exact ⟨settle_devices _ _, .refl _⟩
  · intro hret
    have hret' : (server.transmission.expireSession hdl).ret ≠ [] := hret
    unfold timedOut onSessionTimeout
    simp only [hret', ne_eq, not_false_eq_true, if_true]
    refine ⟨?_, ?_⟩
    · rw [onWebClientDisconnect_devices]
      exact congrArg (devicesWithout · _) (settle_devices _ _)
    · rw [(onWebClientDisconnect_others _ _).2.1]
      exact onLogout_online _ env _

/-! ## The cases of an event -/

/-- **All an event can do** to identities, routes, credentials and presence. -/
inductive StepCase (sha256 : Digest) (server : SignalServer) (env : Env) (e : Event)
    (server' : SignalServer) : Prop
  | quiet : Quiet server server' → StepCase sha256 server env e server'
  | login (hdl : Connection) (payload : Option Json) (j : Json) : e = .message hdl payload →
      payloadType payload = some (j, .login) → server' = (server.login sha256 env hdl j).1 →
      StepCase sha256 server env e server'
  | changePassword (hdl : Connection) (payload : Option Json) (j : Json) : e = .message hdl payload →
      payloadType payload = some (j, .changePassword) →
      server' = (changePassword sha256 server env hdl j).server → StepCase sha256 server env e server'
  | closed (hdl : Connection) : e = .close hdl ∨ e = .fail hdl → Departed server server' hdl →
      StepCase sha256 server env e server'
  | swept : e = .sweep → server' = (server.condemned env).foldl (timedOut env) server →
      StepCase sha256 server env e server'

/-- **Step cases.** -/
theorem react_cases (sha256 : Digest) (server : SignalServer) (env : Env) (e : Event) :
    StepCase sha256 server env e (server.react sha256 env e).1 := by
  cases e with
  | message hdl payload =>
      show StepCase _ _ _ _ (server.onMessage sha256 env hdl payload).1
      unfold onMessage
      cases hp : payloadType payload with
      | none => exact .quiet (.refl _)
      | some typed =>
          obtain ⟨j, type⟩ := typed
          by_cases hlogin : type = .login
          · subst hlogin
            exact .login hdl payload j rfl hp rfl
          · by_cases hchange : type = .changePassword
            · subst hchange
              exact .changePassword hdl payload j rfl hp rfl
            · exact .quiet (handleMessage_quiet hlogin hchange)
  | close hdl => exact .closed hdl (.inl rfl) (onClose_departed server env hdl)
  | fail hdl => exact .closed hdl (.inr rfl) (onClose_departed server env hdl)
  | sweep => exact .swept rfl (sweep_eq server env)
  | ping h => exact .quiet (quiet_settle _ (updateWsHandleLastActiveTime_connections _ _))
  | pong h => exact .quiet (quiet_settle _ (updateWsHandleLastActiveTime_connections _ _))
  | runtimeHeartbeat => exact .quiet ⟨.refl _, rfl, .refl _⟩
  | recoveredSessionCleanup =>
      exact .quiet (quiet_settle _ pruneDisconnectedTransmissions_connections)
  | adminDisconnect t => exact .quiet (handleDisconnect_quiet t)

end SignalServer
end DeskServer
