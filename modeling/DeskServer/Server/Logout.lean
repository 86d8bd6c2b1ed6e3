import DeskServer.Server.CredentialIntegrity

/-!
# `Server.Logout` — who is logged out, and when

`OnLogout` is called from two places: when a close or a failure releases a connection, and from inside a
sweep, once for every connection it releases. The calls of an event are listed here with the server they
are made on. None is made while the user has another connection, so whoever has one and is counted at
all stays counted.

**Shape.** The calls are collected on the side (`logoutCalls`), and that there are no others is shown by
running them (`react_loggedOut`). For each, the state it is made in has no connection of its user
(`LogoutCall.Settled`); whoever has one keeps being counted, by induction over the run.
-/

namespace DeskServer
namespace SignalServer

open Bytes PresenceManager TransmissionManager

/-! ## The calls of an event -/

/-- One call of `PresenceManager::OnLogout`, with the server it is made on. -/
structure LogoutCall where
  server : SignalServer
  deviceId : Bytes

/-- The call `OnClose` and `OnFail` make. -/
def closeCalls (server : SignalServer) (env : Env) (hdl : ConnectionHdl) : List LogoutCall :=
  let released := server.transmission.releaseUserSession hdl
  let settled := server.settle env.now released
  let idle := { settled with
    transmission := settled.transmission.removeWsHandleLastActiveTime hdl }
  if released.ret ≠ [] then [⟨idle.onWebClientDisconnect released.ret, released.ret⟩] else []

/-- The call `OnSessionTimeout` makes. -/
def timeoutCalls (server : SignalServer) (deviceId : Bytes) : List LogoutCall :=
  if deviceId ≠ [] then [⟨server, deviceId⟩] else []

/-- `timeoutStep`, with the calls in place of the messages. -/
def timeoutCallStep (env : Env) (released : Outcome Bytes) (_ : ConnectionHdl)
    (acc : SignalServer × List LogoutCall) : SignalServer × List LogoutCall :=
  let settled := acc.1.settle env.now released
  ((settled.onSessionTimeout env released.ret).1, acc.2 ++ settled.timeoutCalls released.ret)

/-- The calls made from inside a sweep, in order. -/
def sweepCalls (server : SignalServer) (env : Env) : List LogoutCall :=
  (server.transmission.expireInactiveSessions env.steadyNow env.expired (timeoutCallStep env)
    (server, [])).2.2

/-- **The calls of `OnLogout` an event makes.** -/
def logoutCalls (server : SignalServer) (env : Env) : Event → List LogoutCall
  | .close hdl => server.closeCalls env hdl
  | .fail hdl => server.closeCalls env hdl
  | .sweep => server.sweepCalls env
  | _ => []

/-- The call is not premature: nobody is authenticated as the user. -/
def LogoutCall.Settled (call : LogoutCall) : Prop :=
  ∀ hdl, ¬ call.server.transmission.Authenticated hdl call.deviceId

/-- Whoever is counted at all is counted under its kind. -/
structure OnlineAs (p : PresenceManager) (u : Bytes) : Prop where
  device : shouldTrackOnlineDevice u = true → u ∈ p.onlineDevices
  webClient : isWebClient u = true → u ∈ p.onlineWebClients

/-- **Everybody who has a connection is online.** -/
def ConnectedOnline (server : SignalServer) : Prop :=
  ∀ hdl u, server.transmission.Authenticated hdl u → OnlineAs server.presence u

variable {sha256 : Digest} {server server' : SignalServer} {env : Env} {hdl : ConnectionHdl}
  {p p' : PresenceManager} {u v : Bytes}

/-! ## The calls are all there is -/

/-- The presence after the calls, one after another. -/
def loggedOut (p : PresenceManager) (calls : List LogoutCall) : PresenceManager :=
  calls.foldl (fun p call => p.countOffline call.deviceId) p

theorem SameOnline.countOffline (h : SameOnline p p') (u : Bytes) :
    SameOnline (p.countOffline u) (p'.countOffline u) := by
  unfold PresenceManager.countOffline
  split
  · exact ⟨by rw [h.devices], h.webClients⟩
  · split
    · exact ⟨h.devices, by rw [h.webClients]⟩
    · exact h

/-- A close leaves the presence its calls leave. -/
theorem onClose_loggedOut (server : SignalServer) (env : Env) (hdl : ConnectionHdl) :
    SameOnline (loggedOut server.presence (server.closeCalls env hdl))
      (server.onClose env hdl).1.presence := by
  unfold closeCalls onClose
  simp only
  split
  · refine SameOnline.trans ?_ (onLogout_online _ env _)
    rw [(onWebClientDisconnect_others _ _).2.1]
    exact .refl _
  · exact .refl _

theorem onSessionTimeout_loggedOut (server : SignalServer) (env : Env) (u : Bytes) :
    SameOnline (loggedOut server.presence (server.timeoutCalls u))
      (server.onSessionTimeout env u).1.presence := by
  unfold timeoutCalls onSessionTimeout
  split
  · rw [(onWebClientDisconnect_others _ _).2.1]
    exact onLogout_online server env u
  · exact .refl _

/-- The calls listed before stay in front. -/
theorem loggedOut_append (p : PresenceManager) (calls calls' : List LogoutCall) :
    loggedOut p (calls ++ calls') = loggedOut (loggedOut p calls) calls' := List.foldl_append

theorem SameOnline.loggedOut (h : SameOnline p p') (calls : List LogoutCall) :
    SameOnline (SignalServer.loggedOut p calls) (SignalServer.loggedOut p' calls) := by
  induction calls generalizing p p' with
  | nil => exact h
  | cons call calls ih => exact ih (h.countOffline call.deviceId)

/-! ## No call is premature -/

/-- A release that reports a user has left nobody authenticated as it. -/
theorem releaseUserSession_nobody {s : TransmissionManager} (h : (s.releaseUserSession hdl).ret ≠ [])
    (k : ConnectionHdl) :
    ¬ (s.releaseUserSession hdl).tm.Authenticated k (s.releaseUserSession hdl).ret :=
  ((releaseUserSession_ret hdl h).mp rfl).2 k

theorem closeCalls_settled (server : SignalServer) (env : Env) (hdl : ConnectionHdl) :
    ∀ call ∈ server.closeCalls env hdl, call.Settled := by
  intro call hcall k ha
  unfold closeCalls at hcall
  simp only at hcall
  split at hcall
  · rename_i hret
    obtain rfl := List.mem_singleton.mp hcall
    rw [(onWebClientDisconnect_others _ _).1] at ha
    apply releaseUserSession_nobody hret k
    exact (removeWsHandleLastActiveTime_connections hdl).authenticated_iff.mp ha
  · exact absurd hcall (by simp)

theorem timeoutCalls_settled (server : SignalServer) (env : Env) (hdl : ConnectionHdl) :
    ∀ call ∈ (server.settle env.now (server.transmission.expireSession hdl)).timeoutCalls
      (server.transmission.expireSession hdl).ret, call.Settled := by
  intro call hcall k ha
  unfold timeoutCalls at hcall
  split at hcall
  · rename_i hret
    obtain rfl := List.mem_singleton.mp hcall
    exact releaseUserSession_nobody hret k ha
  · exact absurd hcall (by simp)

/-- One condemned connection of a sweep. -/
theorem expireStep_call (env : Env) (server : SignalServer) (calls : List LogoutCall)
    {entry : ConnectionHdl × Int} (hin : isInactive env.steadyNow env.expired entry = true) :
    expireStep env.steadyNow env.expired (timeoutCallStep env) (server.transmission, (server, calls)) entry
      = ((timedOut env server entry.1).transmission, (timedOut env server entry.1, calls ++
          (server.settle env.now (server.transmission.expireSession entry.1)).timeoutCalls
            (server.transmission.expireSession entry.1).ret)) := by
  unfold expireStep
  simp only [hin, if_true]
  refine Prod.ext ?_ rfl
  show _ = (onSessionTimeout _ _ _).1.transmission
  rw [onSessionTimeout_transmission]
  rfl

/-- Induction on the activity entries still to visit: the calls so far account for the presence, and
    none of them was premature. -/
theorem foldl_timeoutCallStep (env : Env) (l : List (ConnectionHdl × Int)) (server : SignalServer)
    (calls : List LogoutCall) (hp : SameOnline (loggedOut p calls) server.presence)
    (hcalls : ∀ call ∈ calls, call.Settled) :
    let swept := l.foldl (expireStep env.steadyNow env.expired (timeoutCallStep env))
      (server.transmission, (server, calls))
    swept.2.1 = ((l.filter fun entry => isInactive env.steadyNow env.expired entry).map
        Prod.fst).foldl (timedOut env) server ∧
      SameOnline (loggedOut p swept.2.2) swept.2.1.presence ∧ ∀ call ∈ swept.2.2, call.Settled := by
  induction l generalizing server calls with
  | nil => exact ⟨rfl, hp, hcalls⟩
  | cons entry l ih =>
      by_cases hin : isInactive env.steadyNow env.expired entry = true
      · simp only [List.foldl_cons, expireStep_call env server calls hin, List.filter_cons, hin,
          if_true, List.map_cons]
        refine ih _ _ ?_ ?_
        · rw [loggedOut_append]
          apply (hp.loggedOut _).trans
          exact onSessionTimeout_loggedOut
            (server.settle env.now (server.transmission.expireSession entry.1)) env _
        · intro call hcall
          rcases List.mem_append.mp hcall with hold | hnew
          · exact hcalls call hold
          · exact timeoutCalls_settled server env entry.1 call hnew
      · have hstep : expireStep env.steadyNow env.expired (timeoutCallStep env)
            (server.transmission, (server, calls)) entry = (server.transmission, (server, calls)) := by
          unfold expireStep
          rw [if_neg hin]
        simp only [List.foldl_cons, hstep, List.filter_cons, hin]
        exact ih server calls hp hcalls

/-- **No call of an event is premature.** -/
theorem logoutCalls_settled (server : SignalServer) (env : Env) (e : Event) :
    ∀ call ∈ server.logoutCalls env e, call.Settled := by
  cases e with
  | close hdl => exact closeCalls_settled server env hdl
  | fail hdl => exact closeCalls_settled server env hdl
  | sweep =>
      exact (foldl_timeoutCallStep env server.transmission.wsHdlLastActiveTimeMap.toList server []
        (.refl server.presence) (by simp)).2.2
  | message | ping | pong | runtimeHeartbeat | recoveredSessionCleanup | adminDisconnect =>
      intro call hcall
      exact absurd hcall (by simp [logoutCalls])

/-- **The calls are all there is**: but for a login, an event leaves the presence its calls leave. -/
theorem react_loggedOut (sha256 : Digest) (server : SignalServer) (env : Env) (e : Event)
    (hlogin : ∀ (hdl : Connection) payload j, e = .message hdl payload →
      payloadType payload ≠ some (j, .login)) :
    SameOnline (loggedOut server.presence (server.logoutCalls env e))
      (server.react sha256 env e).1.presence := by
  cases e with
  | close hdl => exact onClose_loggedOut server env hdl
  | fail hdl => exact onClose_loggedOut server env hdl
  | sweep =>
      obtain ⟨hserver, honline, _⟩ := foldl_timeoutCallStep env
        server.transmission.wsHdlLastActiveTimeMap.toList server [] (.refl server.presence) (by simp)
      show SameOnline _ (server.sweep env).1.presence
      rw [sweep_eq]
      rw [hserver] at honline
      exact honline
  | message hdl payload =>
      show SameOnline server.presence (server.onMessage sha256 env hdl payload).1.presence
      unfold onMessage
      cases hp : payloadType payload with
      | none => exact .refl _
      | some typed =>
          obtain ⟨j, type⟩ := typed
          by_cases hchange : type = .changePassword
          · subst hchange
            show SameOnline _ (changePassword sha256 server env hdl j).server.presence
            rcases changePassword_cases sha256 server env hdl j with h | ⟨_, _, _, _, hpres, _⟩
            · rw [h]; exact .refl _
            · rw [hpres]; exact .refl _
          · refine (handleMessage_quiet (fun heq => hlogin hdl payload j rfl ?_) hchange).online
            rw [hp, heq]
  | ping | pong | runtimeHeartbeat | recoveredSessionCleanup => exact .refl _
  | adminDisconnect t => exact (handleDisconnect_quiet t).online

/-! ## Whoever has a connection is online -/

theorem OnlineAs.of_same (h : SameOnline p p') (hu : OnlineAs p u) : OnlineAs p' u :=
  ⟨fun ht => h.devices ▸ hu.device ht, fun hw => h.webClients ▸ hu.webClient hw⟩

/-- A login counts its user under its kind. -/
theorem onlineAs_countOnline (p : PresenceManager) (u : Bytes) : OnlineAs (p.countOnline u) u where
  device := fun ht => mem_onlineDevices_countOnline.mpr (.inr ⟨rfl, ht⟩)
  webClient := fun hw => mem_onlineWebClients_countOnline.mpr (.inr ⟨rfl, hw⟩)

/-- A login counts nobody out. -/
theorem OnlineAs.countOnline (h : OnlineAs p v) (u : Bytes) : OnlineAs (p.countOnline u) v where
  device := fun ht => mem_onlineDevices_countOnline.mpr (.inl (h.device ht))
  webClient := fun hw => mem_onlineWebClients_countOnline.mpr (.inl (h.webClient hw))

/-- A logout counts nobody else out. -/
theorem OnlineAs.countOffline (h : OnlineAs p v) (hne : v ≠ u) : OnlineAs (p.countOffline u) v where
  device := fun ht => mem_onlineDevices_countOffline.mpr ⟨h.device ht, fun heq => hne heq.1⟩
  webClient := fun hw => mem_onlineWebClients_countOffline.mpr ⟨h.webClient hw, fun heq => hne heq.1⟩

theorem ConnectedOnline.of_quiet (hs : ConnectedOnline server) (h : Quiet server server') :
    ConnectedOnline server' := fun k u ha =>
  (hs k u (h.connections.authenticated_iff.mp ha)).of_same h.online

/-- A release takes its user out of the count only with its last connection. -/
theorem ConnectedOnline.departed (hs : ConnectedOnline server) (h : Departed server server' hdl) :
    ConnectedOnline server' := by
  intro k v ha
  have hv := hs k v (h.authenticated_iff.mp ha).2
  by_cases hleft : ∃ u, Left server server' hdl u
  · obtain ⟨u, hu⟩ := hleft
    refine (hv.countOffline ?_).of_same (h.left u hu).2
    rintro rfl
    exact hu.after k ha
  · rw [not_exists] at hleft
    exact hv.of_same (h.kept hleft).2

/-- Induction on the condemned connections still to time out. -/
theorem ConnectedOnline.swept (hs : ConnectedOnline server) (env : Env) (hdls : List ConnectionHdl) :
    ConnectedOnline (hdls.foldl (timedOut env) server) := by
  induction hdls generalizing server with
  | nil => exact hs
  | cons k hdls ih => exact ih (hs.departed (timedOut_departed server env k))

theorem ConnectedOnline.login (hs : ConnectedOnline server) (sha256 : Digest) (env : Env)
    (hdl : ConnectionHdl) (j : Json) : ConnectedOnline (server.login sha256 env hdl j).1 := by
  obtain ⟨htm, _, _, honline⟩ := login_frames sha256 server env hdl j
  intro k u ha
  rw [htm] at ha
  rcases loginUser_cases sha256 server env hdl j with
    ⟨hrefused, _⟩ | ⟨_, _, id, _, _, hgranted, hgrant⟩
  · -- a refused login counts whoever the connection spoke for already
    rw [hrefused.unchanged] at ha honline
    rcases honline with ⟨_, h⟩ | ⟨_, h⟩
    · exact (hs k u ha).of_same h
    · exact ((hs k u ha).countOnline _).of_same h
  · rw [hgranted.getUserId, hgranted.presence] at honline
    obtain ⟨_, h⟩ := honline.resolve_left fun h => hgrant.ne_nil h.1
    rw [hgranted.transmission, boundManager_authenticated_iff] at ha
    split at ha
    · rw [← ha]
      exact (onlineAs_countOnline _ id).of_same h
    · exact ((hs k u ha).countOnline id).of_same h

/-- **Every event keeps everybody online that has a connection.** -/
theorem ConnectedOnline.next (server : SignalServer) (step : Step) (hs : ConnectedOnline server) :
    ConnectedOnline (server.next sha256 step) := by
  obtain ⟨env, e⟩ := step
  show ConnectedOnline (server.react sha256 env e).1
  cases react_cases sha256 server env e with
  | quiet h => exact hs.of_quiet h
  | login hdl payload j he hp heq =>
      rw [heq]
      exact hs.login sha256 env hdl j
  | changePassword hdl payload j he hp heq =>
      rw [heq]
      rcases changePassword_cases sha256 server env hdl j with h | ⟨_, _, _, htm, hpres, _⟩
      · rw [h]; exact hs
      · intro k u ha
        rw [htm] at ha
        rw [hpres]
        exact hs k u ha
  | closed hdl he h => exact hs.departed h
  | swept he heq => rw [heq]; exact hs.swept env _

/-- **No premature logout.** In every run from a start, `OnLogout` is only called for a user nobody is
    authenticated as at that moment; but for a login these calls are all that happens to the online
    sets; and after every event everybody who has a connection, and is a regular device or a web
    client, is in the online set of its kind. -/
theorem noPrematureLogout (sha256 : Digest) (now : Int) (db : DeviceDB) (steps : List Step) :
    Run.EveryStep (next sha256) (fun server step => ∀ call ∈ server.logoutCalls step.1 step.2,
      ∀ hdl, ¬ call.server.transmission.Authenticated hdl call.deviceId) (start now db) steps ∧
    Run.EveryStep (next sha256) (fun server step => (∀ (hdl : Connection) payload j,
        step.2 = .message hdl payload → payloadType payload ≠ some (j, .login)) →
      SameOnline (loggedOut server.presence (server.logoutCalls step.1 step.2))
        (server.next sha256 step).presence) (start now db) steps ∧
    Run.EveryState (next sha256) (fun server => ∀ hdl u, server.transmission.Authenticated hdl u →
      (shouldTrackOnlineDevice u = true → u ∈ server.presence.onlineDevices) ∧
      (isWebClient u = true → u ∈ server.presence.onlineWebClients)) (start now db) steps := by
  refine ⟨?_, ?_, fun pre _ hdl u ha => ?_⟩
  · exact Run.everyStep_of (next sha256) (fun server step => logoutCalls_settled server step.1 step.2) _ _
  · exact Run.everyStep_of (next sha256)
      (fun server step => react_loggedOut sha256 server step.1 step.2) _ _
  · have hfirst : ConnectedOnline (start now db) := fun hdl u ha =>
      absurd ha (start_not_authenticated now db hdl u)
    have honline : ConnectedOnline (Run.run (next sha256) (start now db) pre) :=
      Run.run_invariant (next sha256) ConnectedOnline.next hfirst pre
    exact ⟨(honline hdl u ha).device, (honline hdl u ha).webClient⟩

end SignalServer
end DeskServer
