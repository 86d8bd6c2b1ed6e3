import DeskServer.Lib.Run
import DeskServer.Server.Steps

/-!
# `Server.StaleIdentity` — routes and presence over whole runs

Messages for a user go to the connection the user is routed to, and a user counts as online until its
last connection is released. A release keeps both true. A login that gives a connection another id leaves
the old id routed to it: from then on messages for the old id reach somebody else, and nobody will ever
log the old id out. A run is free of stale identities exactly as long as no login does that.

**Shape.** `Consistent` is the invariant: the manager routes every authenticated user (`Routed`), and nobody
is counted without a connection. Each kind of step keeps it (`Consistent.departed`, `Consistent.swept`,
`Consistent.login`), a login under the condition; conversely a login that leaves a route behind breaks the
property in the very next state.
-/

namespace DeskServer
namespace SignalServer

open Bytes PresenceManager TransmissionManager

/-- **No stale identity.** A message routed to `u` reaches a connection authenticated as `u`, and whoever
    is counted online has a connection. -/
structure NoStaleIdentity (server : SignalServer) : Prop where
  route : ∀ u, server.transmission.getWsHandle u ≠ 0 →
    server.transmission.getUserId (server.transmission.getWsHandle u) = u
  online : ∀ u, server.presence.Counted u → ∃ hdl, server.transmission.Authenticated hdl u

/-- **The step takes no route along**: a login that gives a connection an id finds no other id routed to
    that connection. -/
def LeavesNoRoute (sha256 : Digest) (server : SignalServer) (step : Step) : Prop :=
  ∀ (hdl : Connection) payload j id, step.2 = .message hdl payload →
    payloadType payload = some (j, .login) →
    loginId sha256 server.db step.1.draws j = some id →
    ∀ u, server.transmission.getWsHandle u = hdl → u = id

/-- The invariant behind it. -/
structure Consistent (server : SignalServer) : Prop where
  routed : server.transmission.Routed
  named : ∀ hdl u, server.transmission.Authenticated hdl u → u ≠ []
  sorted : server.presence.Sorted
  online : ∀ u, server.presence.Counted u → ∃ hdl, server.transmission.Authenticated hdl u

variable {sha256 : Digest} {server server' : SignalServer} {env : Env} {hdl : ConnectionHdl} {j : Json}

/-! ## A new server -/

theorem restoreGuest_quiet (now : Int) (t g : Bytes) : Quiet server (restoreGuest now t server g) :=
  quiet_settle now (bindGuestToTransmission_connections g t)

/-- Induction on the guests of one listed session. -/
theorem foldl_restoreGuest_quiet (now : Int) (t : Bytes) (guests : List Bytes) (server : SignalServer) :
    Quiet server (guests.foldl (restoreGuest now t) server) := by
  induction guests generalizing server with
  | nil => exact .refl _
  | cons g guests ih => exact (restoreGuest_quiet now t g).trans (ih _)

/-- Induction on the listed sessions. -/
theorem foldl_restoreSession_quiet (now : Int) (sessions : List RemoteControlSessionInfo)
    (server : SignalServer) : Quiet server (sessions.foldl (restoreSession now) server) := by
  induction sessions generalizing server with
  | nil => exact .refl _
  | cons session sessions ih =>
      have hhost : Quiet server (server.settle now (server.transmission.bindHostToTransmission
          session.hostId session.transmissionId)) :=
        quiet_settle now (bindHostToTransmission_connections _ _)
      exact (hhost.trans (foldl_restoreGuest_quiet now _ _ _)).trans (ih _)

/-- Restoring the sessions connects nobody. -/
theorem start_quiet (now : Int) (db : DeviceDB) : Quiet (constructed db) (start now db) :=
  foldl_restoreSession_quiet now _ _

theorem constructed_not_authenticated {db : DeviceDB} {u : Bytes} :
    ¬ (constructed db).transmission.Authenticated hdl u := by
  simp [constructed, TransmissionManager.empty, Authenticated]

theorem constructed_consistent (db : DeviceDB) : Consistent (constructed db) where
  routed := ⟨fun u h hr => by simp [constructed, TransmissionManager.empty] at hr,
    fun h u ha => absurd ha constructed_not_authenticated,
    fun h u ha => absurd ha constructed_not_authenticated⟩
  named := fun h u ha => absurd ha constructed_not_authenticated
  sorted := PresenceManager.empty_sorted
  online := fun u hu => absurd hu (PresenceManager.empty_not_counted u)

/-! ## One step -/

theorem Consistent.of_quiet (hs : Consistent server) (h : Quiet server server') :
    Consistent server' where
  routed := hs.routed.of_same h.connections
  named := fun hdl u ha => hs.named hdl u (h.connections.authenticated_iff.mp ha)
  sorted := h.online.sorted hs.sorted
  online := fun u hu => by
    obtain ⟨hdl, ha⟩ := hs.online u (h.online.counted_iff.mp hu)
    exact ⟨hdl, h.connections.authenticated_iff.mpr ha⟩

/-- The other connections of a release keep their users. -/
theorem Departed.authenticated_iff (h : Departed server server' hdl) {hdl' : ConnectionHdl} {u : Bytes} :
    server'.transmission.Authenticated hdl' u ↔
      hdl ≠ hdl' ∧ server.transmission.Authenticated hdl' u := by
  unfold Authenticated
  rw [h.users, Std.ExtTreeMap.getElem?_erase_eq]
  by_cases hk : hdl = hdl' <;> simp [hk]

/-- **A release keeps the invariant**: whoever left is not counted, whoever stays has a connection. -/
theorem Consistent.departed (hs : Consistent server) (h : Departed server server' hdl) :
    Consistent server' := by
  have hnamed : ∀ k u, server'.transmission.Authenticated k u → u ≠ [] := fun k u ha =>
    hs.named k u (h.authenticated_iff.mp ha).2
  by_cases hleft : ∃ u, Left server server' hdl u
  · obtain ⟨u, hu⟩ := hleft
    obtain ⟨_, honline⟩ := h.left u hu
    refine ⟨h.routed hs.routed, hnamed, honline.sorted (hs.sorted.countOffline u), fun v hv => ?_⟩
    rw [honline.counted_iff, counted_countOffline_iff hs.sorted] at hv
    obtain ⟨hdl', ha⟩ := hs.online v hv.1
    have hne : hdl ≠ hdl' := by
      rintro rfl
      exact hv.2 (ha.unique hu.before)
    exact ⟨hdl', h.authenticated_iff.mpr ⟨hne, ha⟩⟩
  · rw [not_exists] at hleft
    obtain ⟨_, honline⟩ := h.kept hleft
    refine ⟨h.routed hs.routed, hnamed, honline.sorted hs.sorted, fun v hv => ?_⟩
    obtain ⟨hdl', ha⟩ := hs.online v (honline.counted_iff.mp hv)
    by_cases hne : hdl = hdl'
    · -- the released connection spoke for `v`; since `v` did not leave, another one does
      subst hne
      by_contra hnobody
      rw [not_exists] at hnobody
      exact hleft v ⟨hs.named hdl v ha, ha, hnobody⟩
    · exact ⟨hdl', h.authenticated_iff.mpr ⟨hne, ha⟩⟩

/-- Induction on the condemned connections still to time out. -/
theorem Consistent.swept (hs : Consistent server) (env : Env) (hdls : List ConnectionHdl) :
    Consistent (hdls.foldl (timedOut env) server) := by
  induction hdls generalizing server with
  | nil => exact hs
  | cons hdl hdls ih => exact ih (hs.departed (timedOut_departed server env hdl))

/-- Counting an id that has a connection. -/
theorem online_of_countOnline {p p' : PresenceManager} {s : TransmissionManager} {u : Bytes}
    (hold : ∀ v, p.Counted v → ∃ hdl, s.Authenticated hdl v) (hu : ∃ hdl, s.Authenticated hdl u)
    (h : SameOnline (p.countOnline u) p') (v : Bytes) (hv : p'.Counted v) :
    ∃ hdl, s.Authenticated hdl v := by
  rcases counted_of_countOnline (h.counted_iff.mp hv) with rfl | hv
  · exact hu
  · exact hold v hv

/-- The connections of a server whose login was granted. -/
theorem boundManager_authenticated_iff {s : TransmissionManager} {steadyNow : Int} {id u : Bytes}
    {hdl' : ConnectionHdl} : (boundManager s steadyNow id hdl).Authenticated hdl' u ↔
      if hdl = hdl' then id = u else s.Authenticated hdl' u := by
  unfold Authenticated
  rw [boundManager_users, Std.ExtTreeMap.getElem?_insert_eq]
  split
  · exact Option.some_inj
  · rfl

theorem boundManager_routes (s : TransmissionManager) (steadyNow : Int) (id : Bytes)
    (hdl : ConnectionHdl) :
    (boundManager s steadyNow id hdl).userIdWsHdlList = s.userIdWsHdlList.insert id hdl :=
  (bindHostToTransmission_connections id id).routes.trans (bindUserToWsHandle_routes steadyNow id hdl)

theorem getWsHandle_eq_iff {s : TransmissionManager} {u : Bytes} {hdl : ConnectionHdl}
    (hne : hdl ≠ 0) : s.getWsHandle u = hdl ↔ s.userIdWsHdlList[u]? = some hdl := by
  unfold getWsHandle
  cases s.userIdWsHdlList[u]? with
  | none => simpa using hne.symm
  | some hdl' => simp

/-- **A login that takes no route along keeps the invariant.** -/
theorem Consistent.login (hs : Consistent server) {hdl : Connection}
    (hcond : ∀ id, loginId sha256 server.db env.draws j = some id →
      ∀ u, server.transmission.getWsHandle u = hdl → u = id) :
    Consistent (server.login sha256 env hdl j).1 := by
  obtain ⟨htm, _, _, honline⟩ := login_frames sha256 server env hdl j
  rcases loginUser_cases sha256 server env hdl j with
    ⟨hrefused, _⟩ | ⟨e, p, id, _, hid, hgranted, hgrant⟩
  · -- refused: whoever the connection speaks for is counted again
    rw [hrefused.unchanged] at htm honline
    refine ⟨htm ▸ hs.routed, htm ▸ hs.named, ?_, ?_⟩
    · rcases honline with ⟨_, h⟩ | ⟨_, h⟩
      · exact h.sorted hs.sorted
      · exact h.sorted (hs.sorted.countOnline _)
    · rw [htm]
      rcases honline with ⟨_, h⟩ | ⟨hne, h⟩
      · exact fun u hu => hs.online u (h.counted_iff.mp hu)
      · exact online_of_countOnline hs.online ⟨_, authenticated_of_getUserId hne⟩ h
  · rw [hgranted.getUserId, hgranted.presence] at honline
    obtain ⟨_, h⟩ := honline.resolve_left fun h => hgrant.ne_nil h.1
    rw [hgranted.transmission] at htm
    have hnew : (boundManager server.transmission env.steadyNow id hdl).Authenticated hdl id :=
      boundManager_authenticated_iff.mpr (by rw [if_pos rfl])
    refine ⟨?_, ?_, h.sorted (hs.sorted.countOnline id), ?_⟩
    · rw [htm]
      refine Routed.of_same ((hs.routed.bindUserToWsHandle_iff _ hdl.2).mpr fun u hu => ?_)
        (bindHostToTransmission_connections id id)
      exact hcond id hid u ((getWsHandle_eq_iff hdl.2).mpr hu)
    · rw [htm]
      intro k u ha
      rw [boundManager_authenticated_iff] at ha
      split at ha
      · exact ha ▸ hgrant.ne_nil
      · exact hs.named k u ha
    · rw [htm]
      refine online_of_countOnline (fun u hu => ?_) ⟨_, hnew⟩ h
      -- whoever was counted keeps the connection it is routed to, unless that is this one
      obtain ⟨k, ha⟩ := hs.online u hu
      obtain ⟨routed, hr⟩ := hs.routed.complete k u ha
      by_cases hk : hdl.val = routed
      · have hu' : u = id := hcond id hid u ((getWsHandle_eq_iff hdl.2).mpr (hk ▸ hr))
        exact ⟨hdl, hu' ▸ hnew⟩
      · refine ⟨routed, boundManager_authenticated_iff.mpr ?_⟩
        rw [if_neg hk]
        exact hs.routed.sound u routed hr

/-- **A step that takes no route along keeps the invariant.** -/
theorem Consistent.next (server : SignalServer) (step : Step) (hs : Consistent server)
    (hcond : LeavesNoRoute sha256 server step) : Consistent (server.next sha256 step) := by
  obtain ⟨env, e⟩ := step
  show Consistent (server.react sha256 env e).1
  cases react_cases sha256 server env e with
  | quiet h => exact hs.of_quiet h
  | login hdl payload j he hp heq =>
      rw [heq]
      exact hs.login fun id => hcond hdl payload j id he hp
  | changePassword hdl payload j he hp heq =>
      rw [heq]
      rcases changePassword_cases sha256 server env hdl j with h | ⟨u, credential, _, htm, hpres, _⟩
      · rw [h]; exact hs
      · refine ⟨htm ▸ hs.routed, htm ▸ hs.named, hpres ▸ hs.sorted, ?_⟩
        rw [htm, hpres]
        exact hs.online
  | closed hdl he h => exact hs.departed h
  | swept he heq => rw [heq]; exact hs.swept env _

/-! ## The exact condition -/

theorem Consistent.noStale (server : SignalServer) (hs : Consistent server) :
    NoStaleIdentity server := by
  refine ⟨fun u hne => ?_, hs.online⟩
  have hr := (getWsHandle_eq_iff hne).mp rfl
  exact (hs.routed.sound u _ hr).getUserId

/-- A login that does take a route along leaves a stale identity at once. -/
theorem leavesNoRoute_of_noStale (server : SignalServer) (step : Step)
    (h : NoStaleIdentity (server.next sha256 step)) : LeavesNoRoute sha256 server step := by
  rintro hdl payload j id he hp hid u hu
  obtain ⟨env, e⟩ := step
  have hnext : (server.next sha256 (env, e)).transmission
      = boundManager server.transmission env.steadyNow id hdl := by
    have hlogin : server.next sha256 (env, e) = (server.login sha256 env hdl j).1 := by
      show (server.react sha256 env e).1 = _
      rw [show e = .message hdl payload from he, react, onMessage, hp]
      rfl
    rw [hlogin, (login_frames sha256 server env hdl j).1]
    rcases loginUser_cases sha256 server env hdl j with
      ⟨_, hnone, _⟩ | ⟨_, _, id', _, hid', hgranted, _⟩
    · rw [hnone] at hid; exact absurd hid (by simp)
    · rw [hid] at hid'
      obtain rfl := Option.some.inj hid'
      exact hgranted.transmission
  have hroute := h.route u
  rw [hnext] at hroute
  by_cases hne : id = u
  · exact hne.symm
  · have hkept : (boundManager server.transmission env.steadyNow id hdl).getWsHandle u = hdl := by
      rw [getWsHandle_eq_iff hdl.2, boundManager_routes, Std.ExtTreeMap.getElem?_insert_eq,
        if_neg hne]
      exact (getWsHandle_eq_iff hdl.2).mp hu
    rw [hkept, boundManager_getUserId] at hroute
    exact (hroute hdl.2).symm

/-- **No stale identity, exactly.** In every state of a run from a new server no identity is stale if and
    only if no login of the run gives a connection another id than one routed to it. -/
theorem noStaleIdentity_iff (sha256 : Digest) (now : Int) (db : DeviceDB) (steps : List Step) :
    Run.EveryState (next sha256) NoStaleIdentity (start now db) steps ↔
      Run.EveryStep (next sha256) (LeavesNoRoute sha256) (start now db) steps :=
  Run.everyState_iff_everyStep (next sha256) Consistent.noStale Consistent.next
    (fun server step _ => leavesNoRoute_of_noStale server step)
    ((constructed_consistent db).of_quiet (start_quiet now db)) steps

/-- A login message with the user id `userId`. -/
def loginMessage (userId : Bytes) : Json :=
  stringMembers [("type", bytes "login"), ("user_id", userId)]

/-- One connection logs in as `C-a`, then as `C-b`. -/
def reloginRun : List Step :=
  [(.still 0, .message 1 (some (loginMessage (bytes "C-a")))),
    (.still 1, .message 1 (some (loginMessage (bytes "C-b"))))]

/-- Whatever the digest, after the second login messages for `C-a` reach a connection of `C-b`. -/
theorem reloginRun_stale : ¬ ∃ sha256 : Digest,
    Run.EveryState (next sha256) NoStaleIdentity (start 0 DeviceDB.newFile) reloginRun := by
  rintro ⟨sha256, h⟩
  have hlast := (h reloginRun List.prefix_rfl).route (bytes "C-a")
  have hroute : (Run.run (next sha256) (start 0 DeviceDB.newFile) reloginRun).transmission.getWsHandle
      (bytes "C-a") = 1 := by rfl
  have huser : (Run.run (next sha256) (start 0 DeviceDB.newFile) reloginRun).transmission.getUserId 1
      = bytes "C-b" := by rfl
  rw [hroute, huser] at hlast
  exact absurd (hlast (by decide)) (by decide)

end SignalServer
end DeskServer
