import DeskServer.Server.Hosting
import DeskServer.Transmission.Watchdog

/-!
# `Server.Watchdog` — the activity map along a run

A login that is granted, a ping message and a ping or pong frame touch their connection. `Follows` says
what a step does to the activity map in terms of these; along a run the map then holds, for each
authenticated handle, the time of the last touch, and nothing for the others. What the sweep does with
such a map is the manager's `SweepExact`.

**Shape.** The cases of `Follows` are the ways a step treats the map, one lemma for each (`Follows.bound`,
`Follows.released`), and every event is one of them (`next_follows`). Time stamps are those given to the
steps, in any order; nothing is assumed of the clock.
-/

namespace DeskServer

open Bytes

namespace TransmissionManager

/-- The activity map after a step at `now` that touched `touch`: closed handles have no entry, the touched
    one has `now`, the others keep what they had. -/
structure Follows (s s' : TransmissionManager) (now : Int) (touch : Option ConnectionHdl) : Prop where
  closed : ∀ hdl : ConnectionHdl, s'.wsHdlUserIdList[hdl]? = none →
    s'.wsHdlLastActiveTimeMap[hdl]? = none
  touched : ∀ hdl : ConnectionHdl, s'.wsHdlUserIdList[hdl]? ≠ none → touch = some hdl →
    s'.wsHdlLastActiveTimeMap[hdl]? = some now
  kept : ∀ hdl : ConnectionHdl, s'.wsHdlUserIdList[hdl]? ≠ none → touch ≠ some hdl →
    s.wsHdlUserIdList[hdl]? ≠ none ∧
      s'.wsHdlLastActiveTimeMap[hdl]? = s.wsHdlLastActiveTimeMap[hdl]?

variable {s s' : TransmissionManager} {now : Int} {touch : Option ConnectionHdl} {k : ConnectionHdl}

theorem Watched.entry_of_auth (hw : s.Watched) {hdl : ConnectionHdl}
    (h : s.wsHdlUserIdList[hdl]? ≠ none) : s.wsHdlLastActiveTimeMap[hdl]? ≠ none := by
  have hsome := hw hdl
  rw [Option.isSome_iff_ne_none.mpr h] at hsome
  exact Option.isSome_iff_ne_none.mp hsome

theorem Watched.no_entry (hw : s.Watched) {hdl : ConnectionHdl} (h : s.wsHdlUserIdList[hdl]? = none) :
    s.wsHdlLastActiveTimeMap[hdl]? = none := by
  have hnone := hw hdl
  rw [h, Option.isSome_none] at hnone
  exact Option.not_isSome_iff_eq_none.mp (by rw [hnone]; simp)

theorem Follows.watched (h : Follows s s' now touch) (hw : s.Watched) : s'.Watched := by
  intro hdl
  rw [Bool.eq_iff_iff, Option.isSome_iff_ne_none, Option.isSome_iff_ne_none]
  constructor
  · intro hentry hnone
    exact hentry (h.closed hdl hnone)
  · intro hauth
    by_cases ht : touch = some hdl
    · rw [h.touched hdl hauth ht]
      exact Option.some_ne_none now
    · obtain ⟨hold, hsame⟩ := h.kept hdl hauth ht
      rw [hsame]
      exact hw.entry_of_auth hold

/-- The connections and the map stay, and nothing is touched. -/
theorem Follows.of_same (hw : s.Watched) (hsame : SameConnections s s')
    (hmap : s'.wsHdlLastActiveTimeMap = s.wsHdlLastActiveTimeMap) : Follows s s' now none where
  closed := by
    intro hdl hnone
    rw [hsame.users] at hnone
    rw [hmap]
    exact hw.no_entry hnone
  touched := fun hdl _ h => absurd h (by simp)
  kept := by
    intro hdl hauth _
    rw [hsame.users] at hauth
    exact ⟨hauth, by rw [hmap]⟩

/-- A heartbeat on `k`. -/
theorem Follows.heartbeat (hw : s.Watched) :
    Follows s (s.updateWsHandleLastActiveTime now k).tm now (some k) := by
  have hsame := (updateWsHandleLastActiveTime_connections (s := s) now k).users
  refine ⟨?_, ?_, ?_⟩
  · intro hdl hnone
    rw [hsame] at hnone
    rw [updateWsHandleLastActiveTime_activity, if_neg]
    · exact hw.no_entry hnone
    · rintro ⟨rfl, hauth⟩
      rw [hnone] at hauth
      exact absurd hauth (by simp)
  · intro hdl hauth htouched
    rw [hsame] at hauth
    obtain rfl := Option.some.inj htouched
    rw [updateWsHandleLastActiveTime_activity, if_pos ⟨rfl, Option.isSome_iff_ne_none.mpr hauth⟩]
  · intro hdl hauth hnot
    rw [hsame] at hauth
    refine ⟨hauth, ?_⟩
    rw [updateWsHandleLastActiveTime_activity, if_neg fun h : k = hdl ∧ _ => hnot (congrArg some h.1)]

/-- A bind of `k`, whoever the host of the transmission is. -/
theorem Follows.bound (hw : s.Watched) (u host t : Bytes) :
    Follows s ((s.bindUserToWsHandle now u k).tm.bindHostToTransmission host t).tm now (some k) := by
  have hsame := (bindHostToTransmission_connections (s := (s.bindUserToWsHandle now u k).tm) host t).users
  have hmap := bindHostToTransmission_activity (s.bindUserToWsHandle now u k).tm host t
  have husers : ∀ hdl : ConnectionHdl, ((s.bindUserToWsHandle now u k).tm.bindHostToTransmission
      host t).tm.wsHdlUserIdList[hdl]? = if k = hdl then some u else s.wsHdlUserIdList[hdl]? := by
    intro hdl
    rw [hsame, bindUserToWsHandle_users, Std.ExtTreeMap.getElem?_insert_eq]
  refine ⟨?_, ?_, ?_⟩
  · intro hdl hnone
    rw [husers] at hnone
    rw [hmap, bindUserToWsHandle_activity]
    split at hnone
    · exact absurd hnone (by simp)
    · rename_i hne
      rw [if_neg hne]
      exact hw.no_entry hnone
  · intro hdl _ htouched
    rw [hmap, bindUserToWsHandle_activity, if_pos (Option.some.inj htouched)]
  · intro hdl hauth hnot
    have hne : k ≠ hdl := fun heq => hnot (congrArg some heq)
    rw [husers, if_neg hne] at hauth
    refine ⟨hauth, ?_⟩
    rw [hmap, bindUserToWsHandle_activity, if_neg hne]

/-- Handles that go, with their entries. -/
theorem Follows.released (hw : s.Watched) (gone : List ConnectionHdl)
    (husers : ∀ hdl : ConnectionHdl, s'.wsHdlUserIdList[hdl]?
      = if hdl ∈ gone then none else s.wsHdlUserIdList[hdl]?)
    (hmap : ∀ hdl : ConnectionHdl, s'.wsHdlLastActiveTimeMap[hdl]?
      = if hdl ∈ gone then none else s.wsHdlLastActiveTimeMap[hdl]?) : Follows s s' now none where
  closed := by
    intro hdl hnone
    rw [husers] at hnone
    rw [hmap]
    split
    · rfl
    · rename_i hin
      rw [if_neg hin] at hnone
      exact hw.no_entry hnone
  touched := fun hdl _ h => absurd h (by simp)
  kept := by
    intro hdl hauth _
    rw [husers] at hauth
    rw [hmap]
    split at hauth
    · exact absurd rfl hauth
    · rename_i hin
      rw [if_neg hin]
      exact ⟨hauth, rfl⟩

end TransmissionManager

namespace SignalServer

open TransmissionManager

variable {sha256 : Digest} {server : SignalServer} {env : Env} {hdl : ConnectionHdl} {j : Json}

/-- **The connection a step touches**: by a granted login, a ping message, or a ping or pong frame. -/
def touchOf (sha256 : Digest) (server : SignalServer) (step : Step) : Option ConnectionHdl :=
  match step.2 with
  | .message connection payload =>
    match payloadType payload with
    | some (_, .ping) => some connection
    | some (j, .login) => (loginId sha256 server.db step.1.draws j).map fun _ => connection.val
    | _ => none
  | .ping connection => some connection
  | .pong connection => some connection
  | _ => none

theorem touchOf_message {connection : Connection} {payload : Option Json} {type : MessageType}
    (hp : payloadType payload = some (j, type)) (hlogin : type ≠ .login) (hping : type ≠ .ping) :
    touchOf sha256 server (env, .message connection payload) = none := by
  simp only [touchOf, hp]
  split
  · rename_i heq
    exact absurd (congrArg Prod.snd (Option.some.inj heq)) hping
  · rename_i heq
    exact absurd (congrArg Prod.snd (Option.some.inj heq)) hlogin
  · rfl

/-- What a handler other than the login and the ping does to the map: nothing. -/
theorem handleMessage_activity (sha256 : Digest) (server : SignalServer) (env : Env)
    (hdl : ConnectionHdl) (j : Json) {type : MessageType} (hlogin : type ≠ .login) (hping : type ≠ .ping) :
    SameConnections server.transmission
        (server.handleMessage sha256 env hdl j type).1.transmission ∧
      (server.handleMessage sha256 env hdl j type).1.transmission.wsHdlLastActiveTimeMap
        = server.transmission.wsHdlLastActiveTimeMap := by
  by_cases hreach : reachesTables type = false
  · rw [(handleMessage_harmless hreach).transmission]
    exact ⟨.refl _, rfl⟩
  · cases type with
    | ping => exact absurd rfl hping
    | login => exact absurd rfl hlogin
    | userLeaveTransmission =>
        refine ⟨leaveTransmission_quiet.connections, ?_⟩
        show (leaveTransmission server env j).server.transmission.wsHdlLastActiveTimeMap = _
        unfold leaveTransmission
        split
        · simp only
          split <;> rfl
        · rfl
    | joinTransmission =>
        refine ⟨joinTransmission_quiet.connections, ?_⟩
        show (joinTransmission sha256 server env hdl j).server.transmission.wsHdlLastActiveTimeMap = _
        rcases joinTransmission_cases sha256 server env hdl j with hsame | ⟨t, u, _, hbound⟩
        · rw [hsame]
        · rw [hbound]
          exact bindGuestToTransmission_activity server.transmission u t
    | changePassword =>
        have hsame : (changePassword sha256 server env hdl j).server.transmission
            = server.transmission := by
          rcases changePassword_cases sha256 server env hdl j with hsame | ⟨_, _, _, htm, _⟩
          · rw [hsame]
          · exact htm
        show SameConnections server.transmission
            (changePassword sha256 server env hdl j).server.transmission ∧ _
        refine ⟨by rw [hsame]; exact .refl _, ?_⟩
        show (changePassword sha256 server env hdl j).server.transmission.wsHdlLastActiveTimeMap = _
        rw [hsame]
    | queryUserIdList => exact absurd rfl hreach
    | offer => exact absurd rfl hreach
    | answer => exact absurd rfl hreach
    | newCandidate => exact absurd rfl hreach
    | newCandidateMid => exact absurd rfl hreach
    | turnCredentials => exact absurd rfl hreach
    | clientInfo => exact absurd rfl hreach
    | recentConnectionsPresence => exact absurd rfl hreach

theorem login_follows (hw : server.transmission.Watched) {connection : Connection}
    {payload : Option Json} (hp : payloadType payload = some (j, .login)) :
    Follows server.transmission (server.login sha256 env connection j).1.transmission env.steadyNow
      (touchOf sha256 server (env, .message connection payload)) := by
  have htouch : touchOf sha256 server (env, .message connection payload)
      = (loginId sha256 server.db env.draws j).map fun _ => connection.val := by
    simp only [touchOf, hp]
  rw [(login_frames sha256 server env connection j).1, htouch]
  rcases loginUser_cases sha256 server env connection j with
    ⟨hrefused, hnone, _⟩ | ⟨_, _, id, _, hid, hgranted, _⟩
  · rw [hrefused.unchanged, hnone]
    exact .of_same hw (.refl _) rfl
  · rw [hgranted.transmission, hid]
    exact .bound hw id id id

/-- Induction on the handles still to time out. -/
theorem foldl_timedOut_transmission (env : Env) (hdls : List ConnectionHdl) (server : SignalServer) :
    (hdls.foldl (timedOut env) server).transmission = server.transmission.releaseAll hdls := by
  induction hdls generalizing server with
  | nil => rfl
  | cons hdl hdls ih =>
      rw [List.foldl_cons, ih, timedOut_transmission]
      rfl

/-- The sweep of the server is the sweep of its manager. -/
theorem sweep_transmission (server : SignalServer) (env : Env) :
    (server.sweep env).1.transmission = (server.transmission.expireInactiveSessions env.steadyNow
      env.expired recordCall []).1 := by
  rw [sweep_eq, foldl_timedOut_transmission, expireInactiveSessions_fst]
  rfl

theorem onMessage_follows (hw : server.transmission.Watched) (connection : Connection)
    (payload : Option Json) :
    Follows server.transmission (server.onMessage sha256 env connection payload).1.transmission
      env.steadyNow (touchOf sha256 server (env, .message connection payload)) := by
  unfold onMessage
  cases hp : payloadType payload with
  | none =>
      have htouch : touchOf sha256 server (env, .message connection payload) = none := by
        simp only [touchOf, hp]
      rw [htouch]
      exact .of_same hw (.refl _) rfl
  | some typed =>
      obtain ⟨j, type⟩ := typed
      by_cases hlogin : type = .login
      · subst hlogin
        exact login_follows hw hp
      · by_cases hping : type = .ping
        · subst hping
          have htouch : touchOf sha256 server (env, .message connection payload)
              = some connection.val := by
            simp only [touchOf, hp]
          rw [htouch]
          exact .heartbeat hw
        · rw [touchOf_message hp hlogin hping]
          obtain ⟨hsame, hmap⟩ := handleMessage_activity sha256 server env connection j hlogin hping
          exact .of_same hw hsame hmap

theorem onClose_follows (hw : server.transmission.Watched) (env : Env) (hdl : ConnectionHdl)
    (now : Int) : Follows server.transmission (server.onClose env hdl).1.transmission now none := by
  rw [onClose_transmission]
  refine .released hw [hdl] ?_ ?_
  · intro k
    show (server.transmission.releaseUserSession hdl).tm.wsHdlUserIdList[k]? = _
    rw [releaseUserSession_users, Std.ExtTreeMap.getElem?_erase_eq]
    simp only [List.mem_singleton, eq_comm]
  · intro k
    simp only [removeWsHandleLastActiveTime, releaseUserSession_activity,
      Std.ExtTreeMap.getElem?_erase_eq, List.mem_singleton, eq_comm]
    split <;> rfl

/-- **What one event does to the activity map.** -/
theorem next_follows (sha256 : Digest) (hw : server.transmission.Watched) (step : Step) :
    Follows server.transmission (server.next sha256 step).transmission step.1.steadyNow
      (touchOf sha256 server step) := by
  obtain ⟨env, e⟩ := step
  cases e with
  | message connection payload => exact onMessage_follows hw connection payload
  | close connection => exact onClose_follows hw env connection _
  | fail connection => exact onClose_follows hw env connection _
  | ping connection => exact .heartbeat hw
  | pong connection => exact .heartbeat hw
  | sweep =>
      show Follows _ (server.sweep env).1.transmission _ none
      rw [sweep_eq, foldl_timedOut_transmission]
      exact .released hw _ (releaseAll_users _ _) (releaseAll_activity _ _)
  | runtimeHeartbeat => exact .of_same hw (.refl _) rfl
  | recoveredSessionCleanup =>
      exact .of_same hw pruneDisconnectedTransmissions_connections
        (pruneDisconnectedTransmissions_activity _)
  | adminDisconnect t =>
      show Follows _ (server.handleDisconnect env t).1.transmission _ none
      rw [handleDisconnect_transmission]
      split
      · exact .of_same hw (.refl _) rfl
      · exact .of_same hw (disconnectTransmission_connections t) (disconnectTransmission_activity _ t)

/-! ## A run -/

/-- `time` is when the run touched `hdl` last. -/
def LatestTouch (sha256 : Digest) (first : SignalServer) (steps : List Step) (hdl : ConnectionHdl)
    (time : Int) : Prop :=
  ∃ before step later, steps = before ++ step :: later ∧
    touchOf sha256 (after sha256 first before) step = some hdl ∧ step.1.steadyNow = time ∧
    ∀ middle step' rest, later = middle ++ step' :: rest →
      touchOf sha256 (after sha256 first (before ++ step :: middle)) step' ≠ some hdl

variable {first : SignalServer} {steps : List Step} {step : Step} {time : Int}

/-- The last step touched it. -/
theorem LatestTouch.of_last (h : touchOf sha256 (after sha256 first steps) step = some hdl) :
    LatestTouch sha256 first (steps ++ [step]) hdl step.1.steadyNow := by
  refine ⟨steps, step, [], rfl, h, rfl, fun middle step' rest hnil => ?_⟩
  exact absurd (congrArg List.length hnil) (by simp)

/-- The last step did not. -/
theorem LatestTouch.snoc (h : LatestTouch sha256 first steps hdl time)
    (hnot : touchOf sha256 (after sha256 first steps) step ≠ some hdl) :
    LatestTouch sha256 first (steps ++ [step]) hdl time := by
  obtain ⟨before, s, later, rfl, htouch, htime, hlater⟩ := h
  refine ⟨before, s, later ++ [step], by simp, htouch, htime, ?_⟩
  intro middle step' rest heq
  -- the later step is the new one, or one of the old ones
  rcases List.eq_nil_or_concat rest with rfl | ⟨rest', last, rfl⟩
  · obtain ⟨rfl, hlast⟩ := List.append_inj' heq rfl
    obtain rfl := List.singleton_inj.mp hlast
    exact hnot
  · rw [List.concat_eq_append, ← List.cons_append, ← List.append_assoc] at heq
    exact hlater middle step' rest' (List.append_inj' heq rfl).1

/-- Induction on the sessions still to restore. -/
theorem foldl_restoreSession_activity (now : Int) (sessions : List RemoteControlSessionInfo)
    (server : SignalServer) :
    (sessions.foldl (restoreSession now) server).transmission.wsHdlLastActiveTimeMap
      = server.transmission.wsHdlLastActiveTimeMap := by
  have hguests : ∀ (t : Bytes) (guests : List Bytes) (server : SignalServer),
      (guests.foldl (restoreGuest now t) server).transmission.wsHdlLastActiveTimeMap
        = server.transmission.wsHdlLastActiveTimeMap := by
    intro t guests
    induction guests with
    | nil => exact fun _ => rfl
    | cons g guests ih =>
        intro server
        rw [List.foldl_cons, ih]
        exact bindGuestToTransmission_activity server.transmission g t
  induction sessions generalizing server with
  | nil => rfl
  | cons session sessions ih =>
      rw [List.foldl_cons, ih, restoreSession, hguests]
      exact bindHostToTransmission_activity server.transmission session.hostId session.transmissionId

theorem start_watched (now : Int) (db : DeviceDB) : (start now db).transmission.Watched := by
  intro hdl
  have hmap : (start now db).transmission.wsHdlLastActiveTimeMap = ∅ :=
    foldl_restoreSession_activity now _ (constructed db)
  rw [hmap, (start_quiet now db).connections.users]
  simp [constructed, empty]

/-- **The activity map along a run**: the authenticated handles, each with its last touch. -/
theorem activity_run (sha256 : Digest) (now : Int) (db : DeviceDB) (steps : List Step) :
    (after sha256 (start now db) steps).transmission.Watched ∧
    ∀ hdl : ConnectionHdl, (after sha256 (start now db) steps).transmission.wsHdlUserIdList[hdl]? ≠ none →
      ∃ time, (after sha256 (start now db) steps).transmission.wsHdlLastActiveTimeMap[hdl]? = some time ∧
        LatestTouch sha256 (start now db) steps hdl time := by
  induction steps using List.reverseRecOn with
  | nil =>
      refine ⟨start_watched now db, fun hdl hauth => absurd ?_ hauth⟩
      show (start now db).transmission.wsHdlUserIdList[hdl]? = none
      rw [(start_quiet now db).connections.users]
      simp [constructed, empty]
  | append_singleton steps step ih =>
      obtain ⟨hw, htimes⟩ := ih
      have hfollows := next_follows sha256 hw step
      have hlast : after sha256 (start now db) (steps ++ [step])
          = next sha256 (after sha256 (start now db) steps) step := Run.run_append _ _ _ _
      rw [hlast]
      refine ⟨hfollows.watched hw, fun hdl hauth => ?_⟩
      by_cases htouch : touchOf sha256 (after sha256 (start now db) steps) step = some hdl
      · exact ⟨_, hfollows.touched hdl hauth htouch, .of_last htouch⟩
      · obtain ⟨hold, hsame⟩ := hfollows.kept hdl hauth htouch
        obtain ⟨time, htime, hlatest⟩ := htimes hdl hold
        exact ⟨time, hsame.trans htime, hlatest.snoc htouch⟩

/-- **The watchdog is exact.** After every run the activity map has the authenticated handles, each with
    the time of its last touch, and no other; a sweep of that state, at any time, releases exactly the
    handles that are expired or idle for more than ten seconds, with one call of the timeout callback for
    each, and a user is named by one of its released handles if and only if none of its handles is left;
    and a ping or pong on a handle that is not authenticated changes nothing. -/
theorem watchdog_exact (sha256 : Digest) (now : Int) (db : DeviceDB) (steps : List Step) :
    let server := after sha256 (start now db) steps
    let s := server.transmission
    (∀ hdl : ConnectionHdl, ((∀ u, ¬ s.Authenticated hdl u) → s.wsHdlLastActiveTimeMap[hdl]? = none) ∧
      ((∃ u, s.Authenticated hdl u) → ∃ time, s.wsHdlLastActiveTimeMap[hdl]? = some time ∧
        LatestTouch sha256 (start now db) steps hdl time)) ∧
    (∀ now expired, SweepExact s now expired (s.expireInactiveSessions now expired recordCall []).1
      (s.expireInactiveSessions now expired recordCall []).2) ∧
    (∀ env, (server.sweep env).1.transmission
      = (s.expireInactiveSessions env.steadyNow env.expired recordCall []).1) ∧
    ∀ (env : Env) (connection : Connection), (∀ u, ¬ s.Authenticated connection u) →
      server.react sha256 env (.ping connection) = (server, []) ∧
      server.react sha256 env (.pong connection) = (server, []) ∧
      ∀ j, (server.handleMessage sha256 env connection j .ping).1 = server := by
  intro server s
  obtain ⟨hw, htimes⟩ := activity_run sha256 now db steps
  refine ⟨fun hdl => ⟨fun hnone => ?_, fun hauth => ?_⟩, fun now expired => ?_, fun env => ?_, ?_⟩
  · apply hw.no_entry
    cases hu : s.wsHdlUserIdList[hdl]? with
    | none => rfl
    | some u => exact absurd hu (hnone u)
  · obtain ⟨u, hu⟩ := hauth
    exact htimes hdl (by rw [show _ = some u from hu]; exact Option.some_ne_none u)
  · exact expireInactiveSessions_exact hw now expired
  · exact sweep_transmission server env
  · intro env connection hnone
    have hreleased : s.wsHdlUserIdList[connection.val]? = none := by
      cases hu : s.wsHdlUserIdList[connection.val]? with
      | none => rfl
      | some u => exact absurd hu (hnone u)
    have hping : server.settle env.now (s.updateWsHandleLastActiveTime env.steadyNow connection)
        = server := by
      rw [updateWsHandleLastActiveTime_released hreleased]
      rfl
    refine ⟨?_, ?_, fun j => hping⟩
    · show (server.settle env.now (s.updateWsHandleLastActiveTime env.steadyNow connection), _) = _
      rw [hping]
    · show (server.settle env.now (s.updateWsHandleLastActiveTime env.steadyNow connection), _) = _
      rw [hping]

end SignalServer
end DeskServer
