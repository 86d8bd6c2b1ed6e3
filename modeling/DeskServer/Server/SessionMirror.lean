import DeskServer.Server.CredentialIntegrity
import DeskServer.Server.SessionStore

/-!
# `Server.SessionMirror` — memory and database agree on the sessions

Guests join and leave in memory; the rows of `remote_control_sessions` follow through the session
callback alone. Over any run from an empty session table, while no login brings a zero byte in, the rows
are exactly the sessions of the guests that have an id, under the host of the transmission, each with
the second of the step that brought the guest in.

**Shape.** `Mirrored` is the invariant of the run: the table is that of the book of guests (`Rows`), with the
second in which each was born. The steps fall into three cases (`SessionCase`): guests leave, one joins, or
nobody moves. A guest without an id has no row, and is left out.
-/

namespace DeskServer
namespace SignalServer

open Bytes Ledger DeviceDB TransmissionManager

/-! ## Steps that only let guests leave -/

/-- **The step lets guests leave, and writes just their ends** to the session table. -/
def Settles (now : Int) (server server' : SignalServer) : Prop :=
  ∃ left, Leaves server.transmission server'.transmission left ∧
    server'.db.remoteControlSessions
      = (endsOf server.transmission left).foldl (postRow now) server.db.remoteControlSessions

variable {sha256 : Digest} {first server server' server'' : SignalServer} {env : Env} {now : Int}
  {hdl : ConnectionHdl} {j : Json} {steps : List Step} {step : Step}

/-- Nothing happened to the session tables, in memory or in the database. -/
theorem Settles.of_eq (hs : server.transmission.WellFormed)
    (hh : server'.transmission.transmissionHostIdList = server.transmission.transmissionHostIdList)
    (hg : server'.transmission.transmissionGuestIdList = server.transmission.transmissionGuestIdList)
    (hd : server'.db.remoteControlSessions = server.db.remoteControlSessions) :
    Settles now server server' := ⟨[], Leaves.of_eq hs hh hg, hd⟩

theorem Settles.of_harmless (hs : server.transmission.WellFormed) (h : Harmless server server') :
    Settles now server server' :=
  .of_eq hs (by rw [h.transmission]) (by rw [h.transmission]) h.sessions

theorem Settles.refl (hs : server.transmission.WellFormed) : Settles now server server :=
  .of_eq hs rfl rfl rfl

theorem Settles.trans (h : Settles now server server') (h' : Settles now server' server'') :
    Settles now server server'' := by
  obtain ⟨left, hl, hd⟩ := h
  obtain ⟨left', hl', hd'⟩ := h'
  refine ⟨left ++ left', hl.trans hl', ?_⟩
  rw [hd', hd, hl.endsOf_eq hl', endsOf, endsOf, endsOf, List.map_append, List.foldl_append]

theorem Settles.wellFormed (hs : server.transmission.WellFormed) (h : Settles now server server') :
    server'.transmission.WellFormed := by
  obtain ⟨_, hl, _⟩ := h
  exact hl.wellFormed hs

theorem settle_sessions {α : Type} (server : SignalServer) (now : Int) (outcome : Outcome α) :
    (server.settle now outcome).db.remoteControlSessions
      = outcome.events.foldl (postRow now) server.db.remoteControlSessions :=
  foldl_callback_sessions now _ _

/-- A manager operation that lets guests leave, settled. -/
theorem settles_settle {α : Type} {outcome : Outcome α}
    (h : Parts server.transmission outcome.tm outcome.events) :
    Settles now server (server.settle now outcome) := by
  obtain ⟨left, hl, hev⟩ := h
  refine ⟨left, hl, ?_⟩
  rw [settle_sessions, hev]

theorem settles_ping (hs : server.transmission.WellFormed) (steadyNow : Int) :
    Settles now server
      (server.settle now (server.transmission.updateWsHandleLastActiveTime steadyNow hdl)) := by
  rw [settle_of_quiet (updateWsHandleLastActiveTime_events _ _)]
  obtain ⟨hh, hg⟩ := updateWsHandleLastActiveTime_tables (s := server.transmission) steadyNow hdl
  exact .of_eq hs hh hg rfl

theorem leaveTransmission_settles (hs : server.transmission.WellFormed) :
    Settles env.now server (leaveTransmission server env j).server := by
  unfold leaveTransmission
  split
  · simp only
    split
    · exact settles_settle (releaseTransmission_parts hs _)
    · exact settles_settle (releaseGuestFromTransmission_parts hs _)
  · exact .refl hs

theorem onLogout_settles (hs : server.transmission.WellFormed) (now : Int) (env : Env) (u : Bytes) :
    Settles now server (server.onLogout env u).1 := .of_eq hs rfl rfl rfl

theorem onWebClientDisconnect_settles (hs : server.transmission.WellFormed) (u : Bytes) :
    Settles now server (server.onWebClientDisconnect u) := by
  obtain ⟨htm, _, hd⟩ := onWebClientDisconnect_others server u
  exact .of_eq hs (by rw [htm]) (by rw [htm]) hd

theorem onClose_settles (hs : server.transmission.WellFormed) :
    Settles env.now server (server.onClose env hdl).1 := by
  have hreleased : Settles env.now server
      (server.settle env.now (server.transmission.releaseUserSession hdl)) :=
    settles_settle (releaseUserSession_parts hs hdl)
  have hidle : Settles env.now server
      { (server.settle env.now (server.transmission.releaseUserSession hdl)) with
        transmission := (server.settle env.now
          (server.transmission.releaseUserSession hdl)).transmission.removeWsHandleLastActiveTime hdl } :=
    hreleased.trans (.of_eq (hreleased.wellFormed hs) rfl rfl rfl)
  unfold onClose
  simp only
  split
  · have hweb := hidle.trans (onWebClientDisconnect_settles (hidle.wellFormed hs)
      (server.transmission.releaseUserSession hdl).ret)
    exact hweb.trans (onLogout_settles (hweb.wellFormed hs) _ _ _)
  · exact hidle

theorem timedOut_settles (hs : server.transmission.WellFormed) :
    Settles env.now server (timedOut env server hdl) := by
  have hexpired : Settles env.now server
      (server.settle env.now (server.transmission.expireSession hdl)) :=
    settles_settle (expireSession_parts hs hdl)
  unfold timedOut onSessionTimeout
  simp only
  split
  · have hout := hexpired.trans (onLogout_settles (hexpired.wellFormed hs) env.now env
      (server.transmission.expireSession hdl).ret)
    exact hout.trans (onWebClientDisconnect_settles (hout.wellFormed hs) _)
  · exact hexpired

/-- Induction on the condemned connections still to time out. -/
theorem swept_settles (hs : server.transmission.WellFormed) (hdls : List ConnectionHdl) :
    Settles env.now server (hdls.foldl (timedOut env) server) := by
  induction hdls generalizing server with
  | nil => exact .refl hs
  | cons k hdls ih =>
      have hstep : Settles env.now server (timedOut env server k) := timedOut_settles hs
      exact hstep.trans (ih (hstep.wellFormed hs))

/-- **Every message but a login and a join only lets guests leave.** -/
theorem handleMessage_settles (hs : server.transmission.WellFormed) {type : MessageType}
    (hlogin : type ≠ .login) (hjoin : type ≠ .joinTransmission) :
    Settles env.now server (server.handleMessage sha256 env hdl j type).1 := by
  cases type with
  | ping => exact settles_ping hs _
  | login => exact absurd rfl hlogin
  | joinTransmission => exact absurd rfl hjoin
  | userLeaveTransmission => exact leaveTransmission_settles hs
  | changePassword =>
      show Settles env.now server (changePassword sha256 server env hdl j).server
      rcases changePassword_cases sha256 server env hdl j with h | ⟨_, _, _, htm, _, hdb⟩
      · rw [h]; exact .refl hs
      · exact .of_eq hs (by rw [htm]) (by rw [htm]) (by rw [hdb])
  | queryUserIdList | offer | answer | newCandidate | newCandidateMid | turnCredentials
  | clientInfo | recentConnectionsPresence => exact .of_harmless hs (handleMessage_harmless rfl)

/-! ## The session cases of an event -/

/-- **All an event can do to sessions.** -/
inductive SessionCase (sha256 : Digest) (server : SignalServer) (env : Env) (e : Event)
    (server' : SignalServer) : Prop
  | settles : Settles env.now server server' → SessionCase sha256 server env e server'
  | granted (hdl : Connection) (payload : Option Json) (j : Json) (userId password id : Bytes) :
      e = .message hdl payload → payloadType payload = some (j, .login) →
      presented j = some (userId, password) → id ≠ [] → ((0 : UInt8) ∉ userId → (0 : UInt8) ∉ id) →
      server'.transmission = boundManager server.transmission env.steadyNow id hdl →
      server'.db.remoteControlSessions = server.db.remoteControlSessions →
      SessionCase sha256 server env e server'
  | joined (hdl : ConnectionHdl) (transmissionId : Bytes) :
      server' = server.settle env.now (server.transmission.bindGuestToTransmission
        (server.transmission.getUserId hdl) transmissionId) → SessionCase sha256 server env e server'
  | disconnected (transmissionId : Bytes) : transmissionId ≠ [] →
      Settles env.now server
        (server.settle env.now (server.transmission.disconnectTransmission transmissionId)) →
      server' = { (server.settle env.now
          (server.transmission.disconnectTransmission transmissionId)) with
        db := ((server.settle env.now
          (server.transmission.disconnectTransmission transmissionId)).db.endRemoteControlTransmission
            env.now transmissionId).2 } →
      (∃ k row, (server.settle env.now (server.transmission.disconnectTransmission
          transmissionId)).db.remoteControlSessions[(k : SessionKey)]? = some (row : SessionRow) ∧
        k.transmissionId.val = transmissionId) → SessionCase sha256 server env e server'

theorem handleDisconnect_cases (hs : server.transmission.WellFormed) (t : Bytes) :
    SessionCase sha256 server env (.adminDisconnect t) (server.handleDisconnect env t).1 := by
  unfold handleDisconnect
  by_cases hnil : t = []
  · rw [if_pos hnil]; exact .settles (.refl hs)
  · rw [if_neg hnil]
    have hclosed : Settles env.now server
        (server.settle env.now (server.transmission.disconnectTransmission t)) :=
      settles_settle (disconnectTransmission_parts hs t)
    simp only
    split
    · rename_i hpersisted
      obtain ⟨session, hmem, heq⟩ := List.any_eq_true.mp hpersisted
      obtain ⟨k, row, hrow, hk, _⟩ := listed_has_row hmem
      exact .disconnected t hnil hclosed rfl ⟨k, row, hrow, hk.trans (beq_iff_eq.mp heq)⟩
    · exact .settles hclosed

/-- **Every event but a login, a join and an operator's disconnect only lets guests leave.** -/
theorem react_settles (sha256 : Digest) (env : Env) (hs : server.transmission.WellFormed) {e : Event}
    (hmessage : ∀ (hdl : Connection) payload j type, e = .message hdl payload →
      payloadType payload = some (j, type) → type ≠ .login ∧ type ≠ .joinTransmission)
    (hadmin : ∀ t, e ≠ .adminDisconnect t) :
    Settles env.now server (server.react sha256 env e).1 := by
  cases e with
  | message hdl payload =>
      show Settles _ _ (server.onMessage sha256 env hdl payload).1
      unfold onMessage
      cases hp : payloadType payload with
      | none => exact .refl hs
      | some typed =>
          obtain ⟨hlogin, hjoin⟩ := hmessage hdl payload typed.1 typed.2 rfl hp
          exact handleMessage_settles hs hlogin hjoin
  | close hdl => exact onClose_settles hs
  | fail hdl => exact onClose_settles hs
  | ping h => exact settles_ping hs _
  | pong h => exact settles_ping hs _
  | sweep =>
      show Settles env.now server (server.sweep env).1
      rw [sweep_eq]
      exact swept_settles hs _
  | runtimeHeartbeat => exact .of_eq hs rfl rfl rfl
  | recoveredSessionCleanup => exact settles_settle (pruneDisconnectedTransmissions_parts hs)
  | adminDisconnect t => exact absurd rfl (hadmin t)

/-- **Session cases.** -/
theorem react_session_cases (sha256 : Digest) (env : Env) (hs : server.transmission.WellFormed)
    (e : Event) : SessionCase sha256 server env e (server.react sha256 env e).1 := by
  cases e with
  | message hdl payload =>
      cases hp : payloadType payload with
      | none =>
          refine .settles (react_settles sha256 env hs ?_ (by simp))
          rintro _ _ j type he hp'
          obtain ⟨_, rfl⟩ := Event.message.inj he
          rw [hp] at hp'
          exact absurd hp' (by simp)
      | some typed =>
          obtain ⟨j, type⟩ := typed
          show SessionCase _ _ _ _ (server.onMessage sha256 env hdl payload).1
          unfold onMessage
          rw [hp]
          by_cases hlogin : type = .login
          · subst hlogin
            obtain ⟨htm, _, hsess, _⟩ := login_frames sha256 server env hdl j
            rcases loginUser_cases sha256 server env hdl j with
              ⟨hrefused, _⟩ | ⟨e', p', id, hpres, _, hgranted, hgrant⟩
            · rw [hrefused.unchanged] at htm hsess
              exact .settles (.of_eq hs (congrArg _ htm) (congrArg _ htm) hsess)
            · exact .granted hdl payload j e' p' id rfl hp hpres hgrant.ne_nil hgrant.noNul
                (htm.trans hgranted.transmission) (hsess.trans hgranted.sessions)
          · by_cases hjoin : type = .joinTransmission
            · subst hjoin
              show SessionCase _ _ _ _ (joinTransmission sha256 server env hdl j).server
              rcases joinTransmission_cases sha256 server env hdl j with h | ⟨t, u, hu, h⟩
              · rw [h]; exact .settles (.refl hs)
              · subst hu
                exact .joined hdl t h
            · exact .settles (handleMessage_settles hs hlogin hjoin)
  | adminDisconnect t => exact handleDisconnect_cases hs t
  | close | fail | ping | pong | sweep | runtimeHeartbeat | recoveredSessionCleanup =>
      exact .settles (react_settles sha256 env hs (by simp) (by simp))

/-! ## The table invariant over a run -/

theorem boundManager_guestsOf (s : TransmissionManager) (steadyNow : Int) (id : Bytes)
    (hdl : ConnectionHdl) (t : Bytes) : (boundManager s steadyNow id hdl).guestsOf t = s.guestsOf t := by
  obtain ⟨_, hg⟩ := bindUserToWsHandle_tables (s := s) steadyNow id hdl
  rw [boundManager, bindHostToTransmission_guests, guestsOf, guestsOf, hg]

theorem boundManager_wellFormed {s : TransmissionManager} (hs : s.WellFormed) (steadyNow : Int)
    (id : Bytes) (hdl : ConnectionHdl) : (boundManager s steadyNow id hdl).WellFormed := by
  obtain ⟨hh, hg⟩ := bindUserToWsHandle_tables (s := s) steadyNow id hdl
  have hbound : (s.bindUserToWsHandle steadyNow id hdl).tm.WellFormed :=
    (Leaves.of_eq hs hh hg).wellFormed hs
  exact (bindHostToTransmission_effect hbound id id).wellFormed hbound

/-- **Every event keeps the session tables in order.** -/
theorem next_wellFormed (sha256 : Digest) (server : SignalServer) (step : Step)
    (hs : server.transmission.WellFormed) : (server.next sha256 step).transmission.WellFormed := by
  obtain ⟨env, e⟩ := step
  show (server.react sha256 env e).1.transmission.WellFormed
  cases react_session_cases sha256 env hs e with
  | settles hstep => exact hstep.wellFormed hs
  | granted hdl payload j userId password id _ _ _ _ _ htm _ =>
      rw [htm]
      exact boundManager_wellFormed hs _ _ _
  | joined hdl t heq =>
      rw [heq]
      exact (bindGuestToTransmission_effect hs _ t).wellFormed hs
  | disconnected t _ hstep heq _ =>
      obtain ⟨_, hleaves, _⟩ := hstep
      rw [heq]
      exact hleaves.wellFormed hs

/-- Induction on the guests of one listed session. -/
theorem foldl_restoreGuest_wellFormed (now : Int) (t : Bytes) (guests : List Bytes)
    (hs : server.transmission.WellFormed) :
    (guests.foldl (restoreGuest now t) server).transmission.WellFormed := by
  induction guests generalizing server with
  | nil => exact hs
  | cons g guests ih => exact ih ((bindGuestToTransmission_effect hs g t).wellFormed hs)

/-- Induction on the listed sessions. -/
theorem foldl_restoreSession_wellFormed (now : Int) (sessions : List RemoteControlSessionInfo)
    (hs : server.transmission.WellFormed) :
    (sessions.foldl (restoreSession now) server).transmission.WellFormed := by
  induction sessions generalizing server with
  | nil => exact hs
  | cons session sessions ih =>
      apply ih
      apply foldl_restoreGuest_wellFormed
      exact (bindHostToTransmission_effect hs session.hostId session.transmissionId).wellFormed hs

theorem start_wellFormed (now : Int) (db : DeviceDB) : (start now db).transmission.WellFormed :=
  foldl_restoreSession_wellFormed now _ empty_wellFormed

/-! ## The mirror -/

/-- No id in the tables says one thing to memory and another to the database: transmissions are hosted
    under their own name, and nobody's id has a zero byte. -/
structure Clean (server : SignalServer) : Prop where
  wellFormed : server.transmission.WellFormed
  hosts : ∀ t host : Bytes, server.transmission.transmissionHostIdList[t]? = some host →
    host = t ∧ t ≠ [] ∧ (0 : UInt8) ∉ t
  guests : ∀ t g : Bytes, g ∈ server.transmission.guestsOf t → (0 : UInt8) ∉ g
  users : ∀ hdl u, server.transmission.Authenticated hdl u → (0 : UInt8) ∉ u

theorem Clean.pair (hc : Clean server) {p : Bytes × Bytes}
    (hp : p.2 ∈ server.transmission.guestsOf p.1) : CleanPair p := by
  obtain ⟨host, hhost, _⟩ := hc.wellFormed.host_of_mem hp
  obtain ⟨_, hne, hz⟩ := hc.hosts p.1 host hhost
  exact ⟨hne, hz, hc.guests p.1 p.2 hp⟩

theorem Clean.book (hc : Clean server) {p : Bytes × Bytes} {host : Bytes}
    (hp : server.transmission.sessionBook p = some host) :
    p.2 ∈ server.transmission.guestsOf p.1 ∧ host = p.1 ∧ host ≠ [] ∧ (0 : UInt8) ∉ host := by
  by_cases hmem : p.2 ∈ server.transmission.guestsOf p.1
  · rw [sessionBook_of_mem hmem] at hp
    obtain ⟨rfl, hne, hz⟩ := hc.hosts p.1 host hp
    exact ⟨hmem, rfl, hne, hz⟩
  · rw [sessionBook_of_not_mem hmem] at hp
    exact absurd hp (by simp)

/-- **The mirror**: the rows are the open sessions, each started at second `births`. -/
structure Mirrored (births : SessionKey → Int) (server : SignalServer) : Prop where
  clean : Clean server
  rows : Rows births server.transmission.sessionBook server.db.remoteControlSessions

variable {births : SessionKey → Int}

/-- **Guests leaving keep the mirror**, and every start its second. -/
theorem Mirrored.settles (h : Mirrored births server) (hstep : Settles now server server')
    (husers : ∀ hdl u, server'.transmission.Authenticated hdl u → (0 : UInt8) ∉ u) :
    Mirrored births server' := by
  obtain ⟨left, hl, hd⟩ := hstep
  refine ⟨⟨hl.wellFormed h.clean.wellFormed, fun t host hhost => ?_, fun t g hg => ?_, husers⟩, ?_⟩
  · exact h.clean.hosts t host (hl.hosts t host hhost)
  · exact h.clean.guests t g (hl.mem_iff.mp hg).1
  · rw [hd, hl.sessionBook_eq]
    refine h.rows.post_ends left (fun p hp => h.clean.pair (hl.member p hp)) fun p host hp => ?_
    exact (h.clean.book hp).2.2

/-- The book of a server whose login was granted: hosting a transmission opens no session. -/
theorem boundManager_sessionBook {s : TransmissionManager} (hs : s.WellFormed) (steadyNow : Int)
    (id : Bytes) (hdl : ConnectionHdl) :
    (boundManager s steadyNow id hdl).WellFormed ∧
      (boundManager s steadyNow id hdl).sessionBook = s.sessionBook := by
  refine ⟨boundManager_wellFormed hs steadyNow id hdl, ?_⟩
  obtain ⟨hh, hg⟩ := bindUserToWsHandle_tables (s := s) steadyNow id hdl
  have hs1 : (s.bindUserToWsHandle steadyNow id hdl).tm.WellFormed :=
    (Leaves.of_eq hs hh hg).wellFormed hs
  have heff := bindHostToTransmission_effect hs1 id id
  have hposts := heff.posts hs1
  rw [bindHostToTransmission_events] at hposts
  have hbook : (s.bindUserToWsHandle steadyNow id hdl).tm.sessionBook = s.sessionBook := by
    funext p
    unfold sessionBook guestsOf
    rw [hh, hg]
  rw [← hbook]
  exact hposts.of_nil

/-- **A granted login keeps the mirror.** -/
theorem Mirrored.granted (h : Mirrored births server) {id : Bytes} (hne : id ≠ [])
    (hz : (0 : UInt8) ∉ id)
    (htm : server'.transmission = boundManager server.transmission env.steadyNow id hdl)
    (hd : server'.db.remoteControlSessions = server.db.remoteControlSessions)
    (husers : ∀ hdl u, server'.transmission.Authenticated hdl u → (0 : UInt8) ∉ u) :
    Mirrored births server' ∧
      ∀ t, server'.transmission.guestsOf t = server.transmission.guestsOf t := by
  obtain ⟨hwf, hbook⟩ := boundManager_sessionBook h.clean.wellFormed env.steadyNow id hdl
  obtain ⟨hh, _⟩ := bindUserToWsHandle_tables (s := server.transmission) env.steadyNow id hdl
  have hguests : ∀ t, server'.transmission.guestsOf t = server.transmission.guestsOf t := by
    intro t
    rw [htm, boundManager_guestsOf]
  refine ⟨⟨⟨htm ▸ hwf, fun t host hhost => ?_, fun t g hmem => ?_, husers⟩, ?_⟩, hguests⟩
  · rw [htm, boundManager, bindHostToTransmission_host, hh] at hhost
    rcases Option.or_eq_some_iff.mp hhost with hold | ⟨_, hnew⟩
    · exact h.clean.hosts t host hold
    · -- the transmission of the user itself, hosted under its own name
      split at hnew
      · rename_i ht
        obtain rfl := Option.some.inj hnew
        exact ⟨ht, ht ▸ hne, ht ▸ hz⟩
      · exact absurd hnew (by simp)
  · exact h.clean.guests t g (hguests t ▸ hmem)
  · rw [htm, hbook, hd]
    exact h.rows

/-- The starts so far, and the ones of this step at second `now`: a guest that stays keeps its start, a
    guest that is new starts now. -/
def BirthsStep (now : Int) (server server' : SignalServer) (births births' : SessionKey → Int) :
    Prop :=
  ∀ t g, g ∈ server'.transmission.guestsOf t →
    (g ∈ server.transmission.guestsOf t ∧ births' (pairKey (t, g)) = births (pairKey (t, g))) ∨
    (g ∉ server.transmission.guestsOf t ∧ births' (pairKey (t, g)) = now)

theorem Clean.joined (hc : Clean server) (t : Bytes) {g : Bytes} (hg : (0 : UInt8) ∉ g) :
    Clean (server.settle now (server.transmission.bindGuestToTransmission g t)) where
  wellFormed := (bindGuestToTransmission_effect hc.wellFormed g t).wellFormed hc.wellFormed
  hosts := fun a host hhost => by
    apply hc.hosts a host
    rw [← bindGuestToTransmission_hosts server.transmission g t]
    exact hhost
  guests := fun a x hx => by
    rcases mem_bindGuestToTransmission hx with hold | ⟨_, rfl⟩
    · exact hc.guests a x hold
    · exact hg
  users := fun hdl u ha =>
    hc.users hdl u ((bindGuestToTransmission_connections g t).authenticated_iff.mp ha)

/-- **A join keeps the mirror**, and its guest starts now. -/
theorem Mirrored.joined (h : Mirrored births server) (t g : Bytes) (hg : (0 : UInt8) ∉ g) :
    ∃ births', Mirrored births'
        (server.settle now (server.transmission.bindGuestToTransmission g t)) ∧
      BirthsStep now server (server.settle now (server.transmission.bindGuestToTransmission g t))
        births births' := by
  have hclean : Clean (server.settle now (server.transmission.bindGuestToTransmission g t)) :=
    h.clean.joined t hg
  rcases bindGuestToTransmission_cases server.transmission g t with
    ⟨hsame, _⟩ | ⟨host, hhost, hdiff, hnew, hout⟩
  · -- turned down: nothing happened
    rw [hsame]
    exact ⟨births, h, fun t g hmem => .inl ⟨hmem, rfl⟩⟩
  · have hposts := (bindGuestToTransmission_effect h.clean.wellFormed g t).posts h.clean.wellFormed
    obtain ⟨rfl, hne, hz⟩ := h.clean.hosts t host hhost
    have hpair : CleanPair (host, g) := ⟨hne, hz, hg⟩
    refine ⟨Function.update births (pairKey (host, g)) now, ⟨hclean, ?_⟩, fun a b hb => ?_⟩
    · show Rows _ (server.transmission.bindGuestToTransmission g host).tm.sessionBook
        (server.settle now _).db.remoteControlSessions
      rw [settle_sessions]
      rw [hout] at hposts ⊢
      obtain ⟨hnone, hbook⟩ := hposts.of_open_one
      have hstarted : Rows (Function.update births (pairKey (host, g)) now) _ _ :=
        h.rows.post_start hpair hnone hne hdiff
      rw [← hbook] at hstarted
      exact hstarted
    · by_cases heq : (a, b) = (host, g)
      · obtain ⟨rfl, rfl⟩ := Prod.mk.inj heq
        exact .inr ⟨hnew, Function.update_self _ _ _⟩
      · -- another pair has another key, so its start is not touched
        have hold := (mem_bindGuestToTransmission hb).resolve_right fun h' => heq (Prod.ext h'.1 h'.2)
        have hkey : pairKey (a, b) ≠ pairKey (host, g) := by
          intro hk
          have hback := (h.clean.pair (p := (a, b)) hold).pairKey_eq_iff.mp hk
          rw [hpair.keyPair_pairKey] at hback
          exact heq hback.symm
        exact .inl ⟨hold, Function.update_of_ne hkey _ _⟩

/-! ## One step, and whole runs -/

/-- The logins of the step bring no zero byte in. -/
def NoNulLogin (step : Step) : Prop :=
  ∀ (hdl : Connection) payload j e p, step.2 = .message hdl payload →
    payloadType payload = some (j, .login) → presented j = some (e, p) → (0 : UInt8) ∉ e

theorem authenticated_noNul (hc : Clean server) (hnul : NoNulLogin step) (hdl : ConnectionHdl)
    (u : Bytes) (ha : (server.next sha256 step).transmission.Authenticated hdl u) :
    (0 : UInt8) ∉ u := by
  rcases authenticated_cases sha256 server step ha with
    hold | ⟨connection, payload, j, e, p, _, he, hp, hpres, hgrant⟩
  · exact hc.users hdl u hold
  · exact hgrant.noNul (hnul connection payload j e p he hp hpres)

/-- **One step keeps the mirror**; the guests it brings in start now. -/
theorem Mirrored.next (h : Mirrored births server) (sha256 : Digest) (hnul : NoNulLogin step) :
    ∃ births', Mirrored births' (server.next sha256 step) ∧
      BirthsStep step.1.now server (server.next sha256 step) births births' := by
  have husers : ∀ hdl u, (server.next sha256 step).transmission.Authenticated hdl u →
      (0 : UInt8) ∉ u := authenticated_noNul h.clean hnul
  obtain ⟨env, e⟩ := step
  have hsettles : ∀ server', Settles env.now server server' →
      BirthsStep env.now server server' births births := by
    rintro server' ⟨left, hl, _⟩ t g hg
    exact .inl ⟨(hl.mem_iff.mp hg).1, rfl⟩
  unfold SignalServer.next at husers ⊢
  cases react_session_cases sha256 env h.clean.wellFormed e with
  | settles hstep => exact ⟨births, h.settles hstep husers, hsettles _ hstep⟩
  | granted hdl payload j userId password id he hp hpres hne hz htm hd =>
      obtain ⟨hm, hguests⟩ :=
        h.granted hne (hz (hnul hdl payload j userId password he hp hpres)) htm hd husers
      refine ⟨births, hm, fun t g hg => .inl ⟨?_, rfl⟩⟩
      rw [hguests] at hg
      exact hg
  | joined hdl t heq =>
      rw [heq]
      apply h.joined t _
      by_cases hnil : server.transmission.getUserId hdl = []
      · rw [hnil]; simp
      · exact h.clean.users hdl _ (authenticated_of_getUserId hnil)
  | disconnected t hne hstep heq hrow =>
      -- the manager has ended every session of `t`, so the mirror has no row of it left
      have hclosed : Mirrored births
          (server.settle env.now (server.transmission.disconnectTransmission t)) := by
        apply h.settles hstep
        intro hdl u ha
        exact h.clean.users hdl u
          ((disconnectTransmission_connections t).authenticated_iff.mp ha)
      obtain ⟨k, row, hrow, hk⟩ := hrow
      rw [hclosed.rows] at hrow
      obtain ⟨host, hhost, _⟩ := Option.map_eq_some_iff.mp hrow
      unfold bookHost at hhost
      split at hhost
      · exact absurd hhost (by simp)
      · have hmem := (hclosed.clean.book hhost).1
        rw [show (keyPair k).1 = t from hk,
          show (server.settle env.now (server.transmission.disconnectTransmission t)).transmission
            = (server.transmission.disconnectTransmission t).tm from rfl,
          disconnectTransmission_guests h.clean.wellFormed] at hmem
        exact absurd hmem (by simp)

/-- **The current membership of `g` in `t` was created at second `born`**: by a step of the run before
    which `g` was no guest of `t`, and since which it has been one. -/
def BornAt (sha256 : Digest) (first : SignalServer) (steps : List Step) (t g : Bytes) (born : Int) :
    Prop :=
  Run.Since (SignalServer.next sha256)
    (fun server step => step.1.now = born ∧ g ∉ server.transmission.guestsOf t)
    (fun server => g ∈ server.transmission.guestsOf t) first steps

/-- The membership was created once. -/
theorem BornAt.unique {t g : Bytes} {born born' : Int} (h : BornAt sha256 first steps t g born)
    (h' : BornAt sha256 first steps t g born') : born = born' := by
  obtain ⟨_, _, hp, hp'⟩ := Run.Since.same_step h h' (fun _ _ hp => hp.2) (fun _ _ hp => hp.2)
  exact hp.1.symm.trans hp'.1

/-- The mirror at the end of a run, by induction on the run from its end. -/
theorem mirrored_run (sha256 : Digest) (hfirst : Mirrored births first)
    (hempty : ∀ t, first.transmission.guestsOf t = []) (steps : List Step)
    (hnul : ∀ step ∈ steps, NoNulLogin step) :
    ∃ births', Mirrored births' (after sha256 first steps) ∧
      ∀ t g, g ∈ (after sha256 first steps).transmission.guestsOf t →
        BornAt sha256 first steps t g (births' (pairKey (t, g))) := by
  induction steps using List.reverseRecOn with
  | nil =>
      refine ⟨births, hfirst, fun t g hg => ?_⟩
      rw [show (after sha256 first []).transmission.guestsOf t = [] from hempty t] at hg
      exact absurd hg (by simp)
  | append_singleton steps step ih =>
      obtain ⟨births', hm, hborn⟩ := ih fun x hx => hnul x (by simp [hx])
      obtain ⟨births'', hm', hstep⟩ := hm.next sha256 (hnul step (by simp))
      rw [← after_snoc] at hm' hstep
      refine ⟨births'', hm', fun t g hg => ?_⟩
      rcases hstep t g hg with ⟨hold, hsame⟩ | ⟨hnew, hnow⟩
      · rw [hsame]
        exact Run.Since.snoc (hborn t g hold) hg
      · rw [hnow]
        exact Run.Since.of_last ⟨rfl, hnew⟩ hg

/-- Without persisted sessions the constructor restores nothing. -/
theorem start_of_no_sessions {db : DeviceDB} (hdb : db.remoteControlSessions = ∅) (now : Int) :
    start now db = constructed db := by
  have hnone : (constructed db).db.listRemoteControlSessions intMax 0 [] = [] := by
    show db.listRemoteControlSessions intMax 0 [] = []
    rw [listRemoteControlSessions_slice db (by decide) (by decide), sessionGroups, hdb,
      Std.ExtTreeMap.toList_eq_nil_iff.mpr rfl]
    rfl
  unfold start restorePersistedRemoteControlSessions
  rw [hnone]
  rfl

theorem constructed_mirrored {db : DeviceDB} (hdb : db.remoteControlSessions = ∅) :
    Mirrored (fun _ => 0) (constructed db) where
  clean := ⟨empty_wellFormed, fun t host h => by simp [constructed, TransmissionManager.empty] at h,
    fun t g h => by simp [constructed, TransmissionManager.empty, guestsOf] at h,
    fun hdl u ha => absurd ha constructed_not_authenticated⟩
  rows := fun k => by
    have hbook : (constructed db).transmission.sessionBook (keyPair k) = none :=
      sessionBook_of_not_mem (by simp [constructed, TransmissionManager.empty, guestsOf])
    have hrow : (constructed db).db.remoteControlSessions[k]? = none := by
      show db.remoteControlSessions[k]? = none
      rw [hdb]
      simp
    rw [hrow, bookHost, hbook]
    split <;> rfl

/-- **Memory and database agree on the sessions.** After every step of a run from an empty session
    table whose logins bring no zero byte in, the rows are exactly the triples of a transmission, its
    host and a guest of it that has an id, each started at the second of the step that created the
    membership. -/
theorem sessionTable_mirrors (sha256 : Digest) (now : Int) (db : DeviceDB)
    (hdb : db.remoteControlSessions = ∅) (steps : List Step)
    (hnul : ∀ step ∈ steps, NoNulLogin step) (k : SessionKey) (row : SessionRow) :
    let server := after sha256 (start now db) steps
    server.db.remoteControlSessions[k]? = some row ↔
      ∃ t host g born, k = ⟨bindText t, bindText g⟩ ∧
        server.transmission.transmissionHostIdList[t]? = some host ∧
        g ∈ server.transmission.guestsOf t ∧ g ≠ [] ∧
        BornAt sha256 (start now db) steps t g born ∧ row = sessionRow born host g := by
  intro server
  have hfirst : Mirrored (fun _ => 0) (start now db) := by
    rw [start_of_no_sessions hdb]
    exact constructed_mirrored hdb
  have hempty : ∀ t, (start now db).transmission.guestsOf t = [] := by
    intro t
    rw [start_of_no_sessions hdb]
    simp [constructed, TransmissionManager.empty, guestsOf]
  obtain ⟨births, hm, hborn⟩ := mirrored_run sha256 hfirst hempty steps hnul
  have hrows : server.db.remoteControlSessions[k]? = _ := hm.rows k
  rw [hrows]
  constructor
  · intro h
    obtain ⟨host, hhost, hrow⟩ := Option.map_eq_some_iff.mp h
    unfold bookHost at hhost
    split at hhost
    · exact absurd hhost (by simp)
    · rename_i hne
      have hmem := (hm.clean.book hhost).1
      rw [sessionBook_of_mem hmem] at hhost
      have hkey : pairKey (keyPair k) = k := pairKey_keyPair k
      refine ⟨k.transmissionId.val, host, k.guestId.val, births k, hkey.symm, hhost, hmem, hne, ?_,
        hrow.symm⟩
      have hb := hborn _ _ hmem
      rw [show pairKey ((keyPair k).1, (keyPair k).2) = k from hkey] at hb
      exact hb
  · rintro ⟨t, host, g, born, hk, hhost, hmem, hne, hb, hrow⟩
    have hpair : CleanPair (t, g) := hm.clean.pair (p := (t, g)) hmem
    have hkey : keyPair k = (t, g) := hpair.pairKey_eq_iff.mp hk.symm
    have hguest : k.guestId.val = g := congrArg Prod.snd hkey
    have hbook : bookHost server.transmission.sessionBook k = some host := by
      rw [bookHost, hguest, if_neg hne, hkey, sessionBook_of_mem (p := (t, g)) hmem]
      exact hhost
    have hk' : k = pairKey (t, g) := hk
    rw [hbook, Option.map_some, hguest, hrow, hb.unique (hborn t g hmem), hk']

/-- `{"type": "join_transmission", "transmission_id": idPwd, "user_id": userId}`. -/
def joinMessage (idPwd userId : Bytes) : Json :=
  stringMembers [("type", bytes "join_transmission"), ("transmission_id", idPwd), ("user_id", userId)]

/-- A device registers on connection 1, a controller logs in on connection 2 and joins it. -/
def joinRun : List Step :=
  [registration, (.still 1, .message 2 (some (loginMessage (bytes "C-x")))),
    (.still 7, .message 2 (some (joinMessage (bytes "100000000@000000") (bytes "C-x"))))]

theorem noNulLogin_of_message {connection : Connection} {j : Json}
    (he : step.2 = .message connection (some j))
    (hz : (0 : UInt8) ∉ ((presented j).map Prod.fst).getD []) : NoNulLogin step := by
  rintro hdl payload j' e p he' hp hpres
  rw [he] at he'
  obtain ⟨_, rfl⟩ := Event.message.inj he'
  have hj : j' = j := by
    obtain ⟨_, _, h⟩ := Option.map_eq_some_iff.mp hp
    exact (Prod.mk.inj h).1.symm
  rw [hj] at hpres
  rw [hpres] at hz
  exact hz

/-- The row of the session, and the join it comes from. -/
theorem joinRun_mirrored : ∃ t host g born,
    (⟨bindText (bytes "100000000"), bindText (bytes "C-x")⟩ : SessionKey) = ⟨bindText t, bindText g⟩ ∧
      (after sampleDigest (start 0 newFile) joinRun).transmission.transmissionHostIdList[t]? = some host ∧
      g ∈ (after sampleDigest (start 0 newFile) joinRun).transmission.guestsOf t ∧ g ≠ [] ∧
      BornAt sampleDigest (start 0 newFile) joinRun t g born ∧
      sessionRow 7 (bytes "100000000") (bytes "C-x") = sessionRow born host g := by
  refine (sessionTable_mirrors sampleDigest 0 newFile rfl joinRun ?_ _ _).mp ?_
  · intro step hstep
    simp only [joinRun, List.mem_cons, List.not_mem_nil, or_false] at hstep
    rcases hstep with rfl | rfl | rfl
    · exact noNulLogin_of_message rfl (by decide)
    · exact noNulLogin_of_message rfl (by decide)
    · exact noNulLogin_of_message rfl (by decide)
  · decide

end SignalServer
end DeskServer
