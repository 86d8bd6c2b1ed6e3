import DeskServer.Server.Hosting

/-!
# `Server.Reachable` — runs of the server across restarts

A server starts over a database without sessions, takes events, and may be stopped at any point and
started again over what it left on disk. What holds in all these states is `Sound`: the table invariant,
every transmission hosted by the user it is named after, and, which is what carries the latter over a
restart, every session row stored under the id of its host.

**Shape.** Starts, events and restarts are the constructors of `Reachable`, and `Sound` is kept by each. A
restart may come from any database whose sessions are among those that were left (`SessionsAmong`), which
covers start-ups that were killed on the way.
-/

namespace DeskServer

open Bytes

/-- Every stored session has the transmission named after its host. -/
def HomeRows (sessions : SessionTable) : Prop :=
  ∀ (k : SessionKey) (row : SessionRow), sessions[k]? = some row → row.hostId = k.transmissionId

section HomeRows

variable {sessions : SessionTable} {now : Int}

/-- A callback keeps it, if what it starts is named after its host. -/
theorem HomeRows.post (h : HomeRows sessions) {event : SessionEvent}
    (he : event.started = true → event.hostId = event.transmissionId) :
    HomeRows (postRow now sessions event) := by
  intro k row hrow
  unfold postRow at hrow
  dsimp only at hrow
  split at hrow
  · rename_i hstart
    split at hrow
    · exact h k row hrow
    · rw [Std.ExtTreeMap.getElem?_insertIfNew_eq] at hrow
      split at hrow
      · rename_i hk
        rw [← Option.some.inj hrow, ← hk.1, DeviceDB.sessionRow, he hstart]
      · exact h k row hrow
  · split at hrow
    · exact h k row hrow
    · split at hrow
      · exact h k row hrow
      · split at hrow
        · exact h k row hrow
        · rw [Std.ExtTreeMap.getElem?_erase_eq] at hrow
          split at hrow
          · exact absurd hrow (by simp)
          · exact h k row hrow

/-- Induction on the callbacks. -/
theorem HomeRows.posts (events : List SessionEvent) (h : HomeRows sessions)
    (he : ∀ e ∈ events, e.started = true → e.hostId = e.transmissionId) :
    HomeRows (events.foldl (postRow now) sessions) := by
  induction events generalizing sessions with
  | nil => exact h
  | cons e events ih =>
      exact ih (h.post (he e List.mem_cons_self)) fun e' he' => he e' (List.mem_cons_of_mem e he')

end HomeRows

namespace DeviceDB

variable {db : DeviceDB} {now : Int} {t : Bytes}

/-- An end on the database is the end callback on the session table. -/
theorem endRemoteControlSession_postRow (db : DeviceDB) (now : Int) (t host g : Bytes) :
    (db.endRemoteControlSession now t host g).2.remoteControlSessions
      = postRow now db.remoteControlSessions ⟨t, host, g, false⟩ :=
  remoteControlSessionCallback_sessions now db ⟨t, host, g, false⟩

/-- Induction on the sessions still to end. -/
theorem foldl_endStep_homeRows (l : List (Bytes × Bytes)) (acc : Bool × DeviceDB)
    (h : HomeRows acc.2.remoteControlSessions) :
    HomeRows (l.foldl (endStep now t) acc).2.remoteControlSessions := by
  induction l generalizing acc with
  | nil => exact h
  | cons session l ih =>
      apply ih
      show HomeRows (acc.2.endRemoteControlSession now t session.1 session.2).2.remoteControlSessions
      rw [endRemoteControlSession_postRow]
      exact h.post fun hstart => absurd hstart (by simp)

theorem endRemoteControlTransmission_homeRows (h : HomeRows db.remoteControlSessions) :
    HomeRows (db.endRemoteControlTransmission now t).2.remoteControlSessions := by
  unfold endRemoteControlTransmission
  split
  · exact h
  · exact foldl_endStep_homeRows _ _ h

end DeviceDB

namespace SignalServer

open TransmissionManager

/-- The sessions of a file are among those the server stood with when it stopped, with their hosts. -/
def SessionsAmong (stopped db : DeviceDB) : Prop :=
  ∀ (k : SessionKey) (row : SessionRow), db.remoteControlSessions[k]? = some row →
    ∃ row' : SessionRow, stopped.remoteControlSessions[k]? = some row' ∧ row'.hostId = row.hostId

/-- **The states of the server**: a first start, any events, and starts over what a stop left. -/
inductive Reachable (sha256 : Digest) : SignalServer → Prop
  | started (now : Int) (db : DeviceDB) : db.remoteControlSessions = ∅ → Reachable sha256 (start now db)
  | event {server : SignalServer} (step : Step) : Reachable sha256 server →
      Reachable sha256 (server.next sha256 step)
  | restarted {server : SignalServer} (now : Int) (db : DeviceDB) : Reachable sha256 server →
      SessionsAmong server.db db → Reachable sha256 (start now db)

/-- What every reachable state has. -/
structure Sound (server : SignalServer) : Prop where
  wellFormed : server.transmission.WellFormed
  selfHosted : server.transmission.SelfHosted
  owned : ∀ k u, server.transmission.Authenticated k u → k ≠ 0 ∧ u ≠ []
  rows : HomeRows server.db.remoteControlSessions

variable {sha256 : Digest} {server server' : SignalServer} {env : Env} {now : Int} {step : Step}

/-! ## Restarts -/

theorem SessionsAmong.refl (db : DeviceDB) : SessionsAmong db db := fun _ row h => ⟨row, h, rfl⟩

theorem SessionsAmong.homeRows {stopped db : DeviceDB} (h : SessionsAmong stopped db)
    (hrows : HomeRows stopped.remoteControlSessions) : HomeRows db.remoteControlSessions := by
  intro k row hrow
  obtain ⟨row', hrow', hhost⟩ := h k row hrow
  rw [← hhost]
  exact hrows k row' hrow'

/-- A start-up statement adds no session and changes no host. -/
theorem SessionsAmong.exec {stopped db : DeviceDB} (h : SessionsAmong stopped db) (st : Statement) :
    SessionsAmong stopped (db.exec st) := by
  cases st with
  | backfillNormalizedGuestId =>
      intro k row hrow
      simp only [DeviceDB.exec, Std.ExtTreeMap.getElem?_map, Option.map_eq_some_iff] at hrow
      obtain ⟨old, hold, rfl⟩ := hrow
      exact h k old hold
  | backfillNormalizedHostId =>
      intro k row hrow
      simp only [DeviceDB.exec, Std.ExtTreeMap.getElem?_map, Option.map_eq_some_iff] at hrow
      obtain ⟨old, hold, rfl⟩ := hrow
      exact h k old hold
  | clearRemoteControlSessions => exact fun k row hrow => absurd hrow (by simp [DeviceDB.exec])
  | create _ => exact h
  | backfillOnlineSince => exact h
  | serverRuntimeInit => exact h
  | finalizeRemote _ => exact h
  | presenceStartupReset _ _ => exact h
  | recordRuntimeHeartbeat _ => exact h

/-- **The start-up of the database leaves such a file**, killed on the way or complete. -/
theorem SessionsAmong.initDBKilledAfter {db db' : DeviceDB} (h : SessionsAmong db db') (now beat : Int)
    (k : Nat) : SessionsAmong db (db'.initDBKilledAfter now beat k) :=
  Run.run_invariant DeviceDB.exec (fun _ st h => h.exec st) h _

theorem SessionsAmong.initDB {db db' : DeviceDB} (h : SessionsAmong db db') (now beat : Int) :
    SessionsAmong db (db'.initDB now beat) :=
  Run.run_invariant DeviceDB.exec (fun _ st h => h.exec st) h _

/-- The constructor over the file of a stopped server, after some start-ups that were killed. -/
theorem Reachable.restart (h : Reachable sha256 server) (killed : List (Int × Int × Nat)) (now beat : Int) :
    Reachable sha256 (start now ((killed.foldl
      (fun db attempt => db.initDBKilledAfter attempt.1 attempt.2.1 attempt.2.2) server.db).initDB now beat)) := by
  apply Reachable.restarted now _ h
  apply SessionsAmong.initDB
  induction killed using List.reverseRecOn with
  | nil => exact .refl server.db
  | append_singleton killed attempt ih =>
      rw [List.foldl_append]
      exact ih.initDBKilledAfter attempt.1 attempt.2.1 attempt.2.2

/-- A run from a reachable state. -/
theorem Reachable.after (h : Reachable sha256 server) (steps : List Step) :
    Reachable sha256 (SignalServer.after sha256 server steps) :=
  Run.run_invariant (SignalServer.next sha256) (fun _ step hs => .event step hs) h steps

/-! ## The invariant -/

/-- What a manager operation starts is named after its host. -/
theorem started_home {s s' : TransmissionManager} {events : List SessionEvent} (hs : s.SelfHosted)
    (h : Effect s s' events) : ∀ e ∈ events, e.started = true → e.hostId = e.transmissionId := by
  intro e he hstart
  cases h with
  | parts h =>
      obtain ⟨left, _, rfl⟩ := h
      obtain ⟨p, _, rfl⟩ := List.mem_map.mp he
      exact absurd hstart (by simp)
  | hosted _ _ _ _ _ hev =>
      rw [hev] at he
      exact absurd he (by simp)
  | joined t host g hhost _ _ _ _ hev =>
      rw [hev, List.mem_singleton] at he
      rw [he]
      exact hs t host hhost

theorem homeRows_settle {α : Type} {outcome : Outcome α} (hs : Sound server)
    (h : Effect server.transmission outcome.tm outcome.events) :
    HomeRows (server.settle now outcome).db.remoteControlSessions := by
  rw [settle_sessions]
  exact hs.rows.posts _ (started_home hs.selfHosted h)

theorem homeRows_settles (hs : Sound server) (h : Settles now server server') :
    HomeRows server'.db.remoteControlSessions := by
  obtain ⟨left, _, hrows⟩ := h
  rw [hrows]
  apply hs.rows.posts
  intro e he hstart
  obtain ⟨p, _, rfl⟩ := List.mem_map.mp he
  exact absurd hstart (by simp)

theorem homeRows_next (sha256 : Digest) (hs : Sound server) (step : Step) :
    HomeRows (server.next sha256 step).db.remoteControlSessions := by
  obtain ⟨env, e⟩ := step
  show HomeRows (server.react sha256 env e).1.db.remoteControlSessions
  cases react_session_cases sha256 env hs.wellFormed e with
  | settles hstep => exact homeRows_settles hs hstep
  | granted _ _ _ _ _ _ _ _ _ _ _ _ hd =>
      rw [hd]
      exact hs.rows
  | joined hdl t heq =>
      rw [heq]
      exact homeRows_settle hs (bindGuestToTransmission_effect hs.wellFormed _ t)
  | disconnected t _ hstep heq _ =>
      rw [heq]
      exact DeviceDB.endRemoteControlTransmission_homeRows (homeRows_settles hs hstep)

theorem Sound.next (hs : Sound server) (sha256 : Digest) (step : Step) :
    Sound (server.next sha256 step) where
  wellFormed := next_wellFormed sha256 server step hs.wellFormed
  selfHosted := selfHosted_next hs.wellFormed hs.selfHosted
  owned := owned_next hs.owned
  rows := homeRows_next sha256 hs step

/-- A connection that timed out. -/
theorem Sound.timedOut (hs : Sound server) (env : Env) (hdl : ConnectionHdl) :
    Sound (SignalServer.timedOut env server hdl) := by
  have hset : Settles env.now server (SignalServer.timedOut env server hdl) :=
    timedOut_settles hs.wellFormed
  refine ⟨hset.wellFormed hs.wellFormed, selfHosted_settles hs.selfHosted hset, fun k u ha => ?_,
    homeRows_settles hs hset⟩
  exact hs.owned k u ((timedOut_departed server env hdl).authenticated_iff.mp ha).2

/-- A bind during the restore. -/
theorem Sound.settle {α : Type} {outcome : Outcome α} (hs : Sound server)
    (heffect : Effect server.transmission outcome.tm outcome.events)
    (hsame : SameConnections server.transmission outcome.tm) (hself : outcome.tm.SelfHosted)
    (now : Int) : Sound (server.settle now outcome) where
  wellFormed := heffect.wellFormed hs.wellFormed
  selfHosted := hself
  owned := fun k u ha => hs.owned k u (hsame.authenticated_iff.mp ha)
  rows := homeRows_settle hs heffect

theorem Sound.restoreGuest (hs : Sound server) (now : Int) (t g : Bytes) :
    Sound (SignalServer.restoreGuest now t server g) := by
  refine hs.settle (bindGuestToTransmission_effect hs.wellFormed g t)
    (bindGuestToTransmission_connections g t) ?_ now
  intro a host hhost
  rw [bindGuestToTransmission_hosts] at hhost
  exact hs.selfHosted a host hhost

/-- A session named after its host. -/
theorem Sound.restoreSession (hs : Sound server) (now : Int) {session : RemoteControlSessionInfo}
    (hhome : session.hostId = session.transmissionId) :
    Sound (SignalServer.restoreSession now server session) := by
  have hhost : Sound (server.settle now
      (server.transmission.bindHostToTransmission session.hostId session.transmissionId)) := by
    refine hs.settle (bindHostToTransmission_effect hs.wellFormed _ _)
      (bindHostToTransmission_connections _ _) ?_ now
    intro a host ha
    rw [bindHostToTransmission_host] at ha
    rcases Option.or_eq_some_iff.mp ha with hold | ⟨_, hnew⟩
    · exact hs.selfHosted a host hold
    · split at hnew
      · rename_i hid
        rw [← Option.some.inj hnew, hhome, hid]
      · exact absurd hnew (by simp)
  unfold SignalServer.restoreSession
  -- the guests one after the other
  generalize session.guestIds = guests
  generalize server.settle now _ = hosted at hhost
  induction guests generalizing hosted with
  | nil => exact hhost
  | cons g guests ih => exact ih _ (hhost.restoreGuest now session.transmissionId g)

/-- Induction on the sessions still to restore. -/
theorem Sound.restoreSessions (now : Int) (sessions : List RemoteControlSessionInfo)
    (hs : Sound server) (hhome : ∀ session ∈ sessions, session.hostId = session.transmissionId) :
    Sound (sessions.foldl (SignalServer.restoreSession now) server) := by
  induction sessions generalizing server with
  | nil => exact hs
  | cons session sessions ih =>
      exact ih (hs.restoreSession now (hhome session List.mem_cons_self))
        fun session' h => hhome session' (List.mem_cons_of_mem session h)

/-- A listed session of such rows is named after its host. -/
theorem listed_home {db : DeviceDB} {limit offset : Nat} {search : Bytes}
    (hrows : HomeRows db.remoteControlSessions) {info : RemoteControlSessionInfo}
    (h : info ∈ db.listRemoteControlSessions limit offset search) : info.hostId = info.transmissionId := by
  obtain ⟨k, row, hrow, ht, hhost⟩ := DeviceDB.listed_has_row h
  rw [← ht, ← hhost, hrows k row hrow]

theorem constructed_sound {db : DeviceDB} (hrows : HomeRows db.remoteControlSessions) :
    Sound (constructed db) where
  wellFormed := empty_wellFormed
  selfHosted := fun t _ h => absurd h (by simp [constructed, empty])
  owned := fun k _ h => absurd h (by simp [constructed, empty, Authenticated])
  rows := hrows

theorem start_sound {db : DeviceDB} (hrows : HomeRows db.remoteControlSessions) (now : Int) :
    Sound (start now db) :=
  (constructed_sound hrows).restoreSessions now _ fun _ h => listed_home hrows h

/-- **Every reachable state is sound.** -/
theorem Reachable.sound (h : Reachable sha256 server) : Sound server := by
  induction h with
  | started now db hdb => exact start_sound (fun k row hrow => by rw [hdb] at hrow; simp at hrow) now
  | event step _ ih => exact ih.next sha256 step
  | restarted now db _ hamong ih => exact start_sound (hamong.homeRows ih.rows) now

/-- The state after a registration, a login of a clone and its join. -/
def joined : SignalServer := after sampleDigest (start 0 DeviceDB.newFile) joinRun

theorem joined_reachable : Reachable sampleDigest joined := Reachable.after (.started 0 _ rfl) joinRun

end SignalServer
end DeskServer
