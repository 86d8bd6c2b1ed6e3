import DeskServer.Server.JoinAuthorisation

/-!
# `Server.Hosting` — connected devices that cannot be joined

A device is made the host of its own transmission by its login, and routed to the connection it logged
in on. It can be joined as long as both stay. An operator who ends a transmission takes the host along
with the guests, a message that leaves in the name of the host does the same, and a login of another id
on the routed connection takes the route: the device is connected still, but nobody finds it. Nothing
else in the program takes either from a device that has a connection.

**Shape.** `Homely` is the invariant: hosts host their own transmission, and every connected device has its
route. The steps that release are treated alike (`Homely.of_release`); logins, leaves and disconnects have a
lemma each, with the condition where it is needed. `Homely.joinable` then plays a join through. The condition
is exact for staying at home; that a device can be joined is its consequence.
-/

namespace DeskServer

open Bytes

/-! ## The manager -/

namespace TransmissionManager

/-- `d` hosts its own transmission, and messages for it go to a connection that speaks for it. -/
structure AtHome (s : TransmissionManager) (d : Bytes) : Prop where
  host : s.transmissionHostIdList[d]? = some d
  route : ∃ k : ConnectionHdl, s.userIdWsHdlList[d]? = some k ∧ s.Authenticated k d

/-- Every transmission is hosted by the user it is named after. -/
def SelfHosted (s : TransmissionManager) : Prop :=
  ∀ t host : Bytes, s.transmissionHostIdList[t]? = some host → host = t

variable {s s' : TransmissionManager} {d u : Bytes} {hdl k : ConnectionHdl}

theorem AtHome.of_same (h : s.AtHome d) (hsame : SameConnections s s')
    (hhost : s'.transmissionHostIdList[d]? = s.transmissionHostIdList[d]?) : s'.AtHome d := by
  obtain ⟨k, hk, ha⟩ := h.route
  refine ⟨hhost.trans h.host, k, ?_, hsame.authenticated_iff.mpr ha⟩
  rw [hsame.routes]
  exact hk

/-- What `IsHost` finds is hosted by the user. -/
theorem isHost_spec (h : s.isHost u ≠ []) : s.transmissionHostIdList[s.isHost u]? = some u := by
  unfold isHost at h ⊢
  cases hfind : s.transmissionHostIdList.toList.find? fun pair => pair.2 == u with
  | none => rw [hfind] at h; exact absurd rfl h
  | some pair =>
      have hmem := Std.ExtTreeMap.mem_toList.mp (List.mem_of_find?_eq_some hfind)
      have hhost : pair.2 = u := by simpa using List.find?_some hfind
      rw [hhost] at hmem
      exact hmem

theorem releaseTransmission_host_of_ne {t : Bytes} (hne : t ≠ d) :
    (s.releaseTransmission t).tm.transmissionHostIdList[d]? = s.transmissionHostIdList[d]? := by
  unfold releaseTransmission
  rw [Std.ExtTreeMap.getElem?_erase_eq, if_neg hne]

/-- **A release ends no transmission of a user that stays connected.** -/
theorem releaseUserSession_host (hself : s.SelfHosted)
    (ha : (s.releaseUserSession hdl).tm.Authenticated k d) :
    (s.releaseUserSession hdl).tm.transmissionHostIdList[d]? = s.transmissionHostIdList[d]? := by
  have hunbound : (s.releaseUserFromWsHandle hdl).tm.Authenticated k d :=
    (releaseUserSession_connections hdl).authenticated_iff.mp ha
  have htables := (releaseUserFromWsHandle_tables (s := s) hdl).1
  unfold releaseUserSession
  simp only
  split
  · rw [htables]
  · split
    · rw [htables]
    · rename_i hgone
      split
      · rename_i hhosts
        have hhost := isHost_spec hhosts
        change (s.releaseUserFromWsHandle hdl).tm.transmissionHostIdList[_]? = _ at hhost
        rw [htables] at hhost
        rw [releaseTransmission_host_of_ne]
        · show (s.releaseUserFromWsHandle hdl).tm.transmissionHostIdList[d]? = _
          rw [htables]
        · -- the transmission is the one of the user that left, and `d` did not leave
          intro heq
          apply hgone
          rw [hself _ _ hhost, heq]
          exact hasUserConnection_iff.mpr ⟨k, hunbound⟩
      · show (s.releaseUserFromWsHandle hdl).tm.transmissionHostIdList[d]? = _
        rw [htables]

/-- **A release leaves everybody at home that stays connected.** -/
theorem AtHome.released (h : s.AtHome d) (hself : s.SelfHosted)
    (howner : ∀ k, s.Authenticated k d → k ≠ 0)
    (ha : (s.releaseUserSession hdl).tm.Authenticated k d) :
    (s.releaseUserSession hdl).tm.AtHome d := by
  refine ⟨(releaseUserSession_host hself ha).trans h.host, ?_⟩
  obtain ⟨k₀, hroute, hspeaks⟩ := h.route
  -- the route led to a connection of `d`, and the release follows it
  have hat : s.RoutedAt d := by
    refine ⟨fun k' hk' => ?_, fun _ _ => ⟨k₀, hroute⟩, howner⟩
    rw [hroute] at hk'
    exact Option.some.inj hk' ▸ hspeaks
  have hsame := releaseUserSession_connections (s := s) hdl
  simp only [hsame.routes, hsame.authenticated_iff]
  cases releaseUserFromWsHandle_routeAfter hat hdl with
  | kept route other =>
      refine ⟨k₀, route.trans hroute, releaseUserFromWsHandle_authenticated.mpr ⟨?_, hspeaks⟩⟩
      rintro rfl
      exact other hroute
  | handed k' route speaks => exact ⟨k', route, speaks⟩
  | closed _ nobody => exact absurd (hsame.authenticated_iff.mp ha) (nobody k)

/-- Induction on the transmissions still to release: none of them is named `d`. -/
theorem foldl_pruneStep_host (ts : List Bytes) (hts : d ∉ ts) (acc : Outcome Nat) :
    (ts.foldl pruneStep acc).tm.transmissionHostIdList[d]? = acc.tm.transmissionHostIdList[d]? := by
  induction ts generalizing acc with
  | nil => rfl
  | cons t ts ih =>
      rw [List.mem_cons, not_or] at hts
      obtain ⟨hne, hrest⟩ := hts
      rw [List.foldl_cons, ih hrest]
      exact releaseTransmission_host_of_ne (Ne.symm hne)

/-- A prune ends no transmission whose host is connected. -/
theorem pruneDisconnectedTransmissions_host (hself : s.SelfHosted) (ha : s.Authenticated k d) :
    s.pruneDisconnectedTransmissions.tm.transmissionHostIdList[d]?
      = s.transmissionHostIdList[d]? := by
  have hnot : d ∉ (s.transmissionHostIdList.toList.filter fun hostPair =>
      !s.hasUserConnection hostPair.2).map Prod.fst := by
    intro hmem
    -- what is pruned has a host without a connection, and the host is `d`
    obtain ⟨pair, hpair, rfl⟩ := List.mem_map.mp hmem
    obtain ⟨hin, hgone⟩ := List.mem_filter.mp hpair
    rw [hself _ _ (Std.ExtTreeMap.mem_toList.mp hin), hasUserConnection_iff.mpr ⟨k, ha⟩] at hgone
    exact absurd hgone (by decide)
  exact foldl_pruneStep_host _ hnot ⟨0, s, []⟩

end TransmissionManager

/-! ## The property and its condition -/

namespace SignalServer

open TransmissionManager

/-- `d` is in the device table. -/
def Registered (db : DeviceDB) (d : Bytes) : Prop :=
  ∃ key : SqlText, key.val = d ∧ ∃ credential, db.devices[key]? = some credential

/-- **Every registered device that is connected is at home.** -/
def DevicesAtHome (server : SignalServer) : Prop :=
  ∀ d k, Registered server.db d → server.transmission.Authenticated k d →
    server.transmission.AtHome d

/-- **A registered device that is connected can be joined**: while none of its connections is gone, no
    join that shows its password is told that it is unavailable. -/
def Joinable (sha256 : Digest) (server : SignalServer) : Prop :=
  ∀ d k, Registered server.db d → server.transmission.Authenticated k d →
    ∀ (env : Env) (hdl : ConnectionHdl) (j : Json) (password u : Bytes),
      joinFields j = some (d, password, u) → server.db.verifyDevice sha256 d password = 0 →
      (∀ k, server.transmission.Authenticated k d → env.expired k = false) →
      (hdl, joinRefused d "Remote unavailable") ∉ (joinTransmission sha256 server env hdl j).sent

/-- **Online implies reachable**: every registered device that is connected hosts its own transmission
    and can be joined. -/
structure OnlineReachable (sha256 : Digest) (server : SignalServer) : Prop where
  hosting : ∀ d k, Registered server.db d → server.transmission.Authenticated k d →
    server.transmission.transmissionHostIdList[d]? = some d
  joinable : Joinable sha256 server

/-- **The step takes nobody from home**: no operator ends the own transmission of a registered device
    that is connected, nobody leaves it in the name of the device, and no login takes the route of such
    a device for another id while it has a second connection. -/
structure HomeKept (sha256 : Digest) (server : SignalServer) (step : Step) : Prop where
  disconnect : ∀ d k, step.2 = .adminDisconnect d → Registered server.db d →
    ¬ server.transmission.Authenticated k d
  leave : ∀ (hdl : Connection) payload j d k, step.2 = .message hdl payload →
    payloadType payload = some (j, .userLeaveTransmission) →
    j.stringField (bytes "transmission_id") = some d → j.stringField (bytes "user_id") = some d →
    Registered server.db d → ¬ server.transmission.Authenticated k d
  login : ∀ (hdl : Connection) payload j id d k, step.2 = .message hdl payload →
    payloadType payload = some (j, .login) → loginId sha256 server.db step.1.draws j = some id →
    Registered server.db d → d ≠ id → server.transmission.getWsHandle d = hdl →
    server.transmission.Authenticated k d → k = hdl

/-- The invariant behind it. -/
structure Homely (server : SignalServer) : Prop where
  wellFormed : server.transmission.WellFormed
  selfHosted : server.transmission.SelfHosted
  owned : ∀ k u, server.transmission.Authenticated k u → k ≠ 0 ∧ u ≠ []
  atHome : DevicesAtHome server

variable {sha256 : Digest} {server server' : SignalServer} {env : Env} {hdl : ConnectionHdl} {j : Json}
  {d : Bytes} {step : Step}

/-! ## Joining a device that is at home -/

/-- An update keeps the members that are there. -/
theorem find_update_isSome (j : Json) (others : List (Bytes × Json)) (key : Bytes)
    (h : (j.find key).isSome = true) : ((j.update others).find key).isSome = true := by
  unfold Json.update
  induction others generalizing j with
  | nil => exact h
  | cons member others ih =>
      apply ih
      rw [Json.find_set]
      split
      · rfl
      · exact h

theorem addConnectionIceConfig_isSome (env : Env) (message : Json) (u key : Bytes)
    (h : (message.find key).isSome = true) :
    ((addConnectionIceConfig env message u).find key).isSome = true := by
  unfold addConnectionIceConfig
  split
  · exact find_update_isSome _ _ _ h
  · unfold addTurnCredentials
    split
    · exact h
    · split
      · split
        · exact h
        · rw [Json.find_set]
          split
          · rfl
          · exact h
      · split
        · exact h
        · rw [Json.find_set]
          split
          · rfl
          · exact h

/-- **Devices at home can be joined.** -/
theorem Homely.joinable (hs : Homely server) : Joinable sha256 server := by
  intro d k hreg ha env hdl j password u hj hverified hthere hsent
  have hhome := hs.atHome d k hreg ha
  obtain ⟨text, ht, hu, rfl, rfl⟩ := joinFields_some hj
  obtain ⟨k₀, hroute, hspeaks⟩ := hhome.route
  obtain ⟨hk₀, hnamed⟩ := hs.owned k₀ _ hspeaks
  have hhost : server.transmission.getHostIdOfTransmission (splitPassword text).1
      = (splitPassword text).1 := by
    rw [getHostIdOfTransmission, hhome.host]
    rfl
  have hhdl : server.transmission.getWsHandle (splitPassword text).1 = k₀ := by
    rw [getWsHandle, hroute]
    rfl
  have hlive : isExpired env k₀ = false := by
    rw [isExpired, hthere k₀ hspeaks, Bool.or_false]
    simpa using hk₀
  unfold joinTransmission at hsent
  rw [ht, hu] at hsent
  simp only [hverified, hhost, hhdl, hlive, hnamed, if_true, false_or, Bool.false_eq_true,
    if_false] at hsent
  split at hsent
  · exact absurd hsent (by simp)
  · -- what the host is told has a `user_id`, and a refusal has none
    have hmessage := (Prod.mk.inj (List.mem_singleton.mp hsent)).2
    have hsome := addConnectionIceConfig_isSome env (stringMembers [
      ("type", bytes "user_join_transmission"), ("transmission_id", (splitPassword text).1),
      ("user_id", u), ("status", bytes "success")]) (splitPassword text).1 (bytes "user_id") rfl
    have hnone : (joinRefused (splitPassword text).1 "Remote unavailable").find (bytes "user_id")
        = none := rfl
    rw [← hmessage, hnone] at hsome
    exact absurd hsome (by decide)

/-! ## What every step keeps -/

theorem Registered.of_devices {db db' : DeviceDB} (h : db'.devices = db.devices)
    (hd : Registered db' d) : Registered db d := by
  obtain ⟨key, hkey, credential, hrow⟩ := hd
  exact ⟨key, hkey, credential, h ▸ hrow⟩

theorem selfHosted_settles {now : Int} (hs : server.transmission.SelfHosted)
    (h : Settles now server server') : server'.transmission.SelfHosted := by
  obtain ⟨_, hleaves, _⟩ := h
  exact fun t host hhost => hs t host (hleaves.hosts t host hhost)

theorem boundManager_host (s : TransmissionManager) (steadyNow : Int) (id : Bytes)
    (hdl : ConnectionHdl) (t : Bytes) :
    (boundManager s steadyNow id hdl).transmissionHostIdList[t]?
      = (s.transmissionHostIdList[t]?).or (if id = t then some id else none) := by
  rw [boundManager, bindHostToTransmission_host, (bindUserToWsHandle_tables steadyNow id hdl).1]

theorem selfHosted_next (hwf : server.transmission.WellFormed)
    (hs : server.transmission.SelfHosted) : (server.next sha256 step).transmission.SelfHosted := by
  obtain ⟨env, e⟩ := step
  show (server.react sha256 env e).1.transmission.SelfHosted
  cases react_session_cases sha256 env hwf e with
  | settles hstep => exact selfHosted_settles hs hstep
  | granted hdl payload j userId password id _ _ _ _ _ htm _ =>
      rw [htm]
      intro t host hhost
      rw [boundManager_host] at hhost
      rcases Option.or_eq_some_iff.mp hhost with hold | ⟨_, hnew⟩
      · exact hs t host hold
      · split at hnew
        · rename_i ht
          exact (Option.some.inj hnew).symm.trans ht
        · exact absurd hnew (by simp)
  | joined hdl t heq =>
      rw [heq]
      intro a host hhost
      apply hs a host
      rw [← bindGuestToTransmission_hosts server.transmission (server.transmission.getUserId hdl) t]
      exact hhost
  | disconnected t _ hstep heq _ =>
      obtain ⟨_, hleaves, _⟩ := hstep
      rw [heq]
      exact fun a host hhost => hs a host (hleaves.hosts a host hhost)

theorem owned_next (hs : ∀ k u, server.transmission.Authenticated k u → k ≠ 0 ∧ u ≠ []) (k : ConnectionHdl)
    (u : Bytes) (ha : (server.next sha256 step).transmission.Authenticated k u) : k ≠ 0 ∧ u ≠ [] := by
  rcases authenticated_cases sha256 server step ha with
    hold | ⟨connection, _, _, _, _, hk, _, _, _, hgrant⟩
  · exact hs k u hold
  · exact ⟨hk ▸ connection.2, hgrant.ne_nil⟩

/-! ## Who stays at home -/

/-- A quiet step leaves everybody at home that keeps its host. -/
theorem DevicesAtHome.of_quiet (hs : DevicesAtHome server) (hq : Quiet server server')
    (hhost : ∀ d k, Registered server.db d → server.transmission.Authenticated k d →
      server'.transmission.transmissionHostIdList[d]?
        = server.transmission.transmissionHostIdList[d]?) : DevicesAtHome server' := by
  intro d k hreg ha
  have hreg' := hreg.of_devices hq.devices
  have ha' := hq.connections.authenticated_iff.mp ha
  exact (hs d k hreg' ha').of_same hq.connections (hhost d k hreg' ha')

/-- A release, by a close or by the watchdog. -/
theorem Homely.of_release {now : Int} (hs : Homely server) (hdep : Departed server server' hdl)
    (hset : Settles now server server')
    (hhome : ∀ d k, server'.transmission.Authenticated k d → server.transmission.AtHome d →
      server'.transmission.AtHome d) : Homely server' where
  wellFormed := hset.wellFormed hs.wellFormed
  selfHosted := selfHosted_settles hs.selfHosted hset
  owned := fun k u ha => hs.owned k u (hdep.authenticated_iff.mp ha).2
  atHome := by
    intro d k hreg ha
    obtain ⟨key, hkey, credential, hrow⟩ := hreg
    exact hhome d k ha (hs.atHome d k ⟨key, hkey, credential, hdep.row_kept hrow⟩
      (hdep.authenticated_iff.mp ha).2)

theorem onClose_transmission (server : SignalServer) (env : Env) (hdl : ConnectionHdl) :
    (server.onClose env hdl).1.transmission
      = (server.transmission.releaseUserSession hdl).tm.removeWsHandleLastActiveTime hdl := by
  unfold onClose
  simp only
  split
  · show (onWebClientDisconnect _ _).transmission = _
    rw [(onWebClientDisconnect_others _ _).1]
    rfl
  · rfl

theorem timedOut_transmission (server : SignalServer) (env : Env) (hdl : ConnectionHdl) :
    (timedOut env server hdl).transmission = (server.transmission.expireSession hdl).tm := by
  unfold timedOut
  rw [onSessionTimeout_transmission]
  rfl

theorem Homely.onClose (hs : Homely server) (env : Env) (hdl : ConnectionHdl) :
    Homely (server.onClose env hdl).1 := by
  apply hs.of_release (onClose_departed server env hdl) (onClose_settles hs.wellFormed)
  rw [onClose_transmission]
  intro d k ha hhome
  exact (hhome.released hs.selfHosted (fun k ha => (hs.owned k d ha).1) ha).of_same
    (removeWsHandleLastActiveTime_connections hdl) rfl

theorem Homely.timedOut (hs : Homely server) (env : Env) (hdl : ConnectionHdl) :
    Homely (SignalServer.timedOut env server hdl) := by
  have hset : Settles env.now server (SignalServer.timedOut env server hdl) :=
    timedOut_settles hs.wellFormed
  apply hs.of_release (timedOut_departed server env hdl) hset
  rw [timedOut_transmission]
  intro d k ha hhome
  have hidle : (server.transmission.removeWsHandleLastActiveTime hdl).AtHome d :=
    hhome.of_same (removeWsHandleLastActiveTime_connections hdl) rfl
  exact hidle.released hs.selfHosted (fun k ha => (hs.owned k d ha).1) ha

/-- Induction on the condemned connections still to time out. -/
theorem Homely.swept (hs : Homely server) (env : Env) (hdls : List ConnectionHdl) :
    Homely (hdls.foldl (SignalServer.timedOut env) server) := by
  induction hdls generalizing server with
  | nil => exact hs
  | cons k hdls ih => exact ih (hs.timedOut env k)

/-! ## One step -/

/-- A leave ends a transmission only in the name of its host. -/
theorem leaveTransmission_host (hself : server.transmission.SelfHosted)
    (hother : j.stringField (bytes "transmission_id") = some d →
      j.stringField (bytes "user_id") ≠ some d) :
    (leaveTransmission server env j).server.transmission.transmissionHostIdList[d]?
      = server.transmission.transmissionHostIdList[d]? := by
  unfold leaveTransmission
  split
  · rename_i t u ht hu
    simp only
    split
    · rename_i hhost
      apply releaseTransmission_host_of_ne
      rintro rfl
      unfold isHostOfTransmission at hhost
      cases hh : server.transmission.transmissionHostIdList[t]? with
      | none => rw [hh] at hhost; exact absurd hhost (by simp)
      | some host =>
          rw [hh] at hhost
          have hu' : host = u := by simpa using hhost
          rw [hself t host hh] at hu'
          exact hother ht (hu' ▸ hu)
    · rfl
  · rfl

theorem handleDisconnect_host {t : Bytes} (hne : t ≠ d) :
    (server.handleDisconnect env t).1.transmission.transmissionHostIdList[d]?
      = server.transmission.transmissionHostIdList[d]? := by
  rw [handleDisconnect_transmission]
  split
  · rfl
  · unfold disconnectTransmission
    split
    · rfl
    · exact releaseTransmission_host_of_ne hne

/-- Ids are registered by the login that is granted them. -/
theorem registered_of_granted {e p id : Bytes} {db db' : DeviceDB}
    (hgrant : Grant sha256 db e p id db'.devices) (h : Registered db' d) : d = id ∨ Registered db d := by
  cases hgrant with
  | clone _ _ hsame => exact .inr (h.of_devices hsame)
  | verified _ _ _ _ hsame => exact .inr (h.of_devices hsame)
  | registered _ _ _ hgenerated _ hins =>
      obtain ⟨key, hkey, credential, hrow⟩ := h
      rw [hins, Std.ExtTreeMap.getElem?_insert_eq] at hrow
      split at hrow
      · rename_i hid
        left
        rw [← hkey, ← hid, bindText_val, cstr_eq_self hgenerated.noNul]
      · exact .inr ⟨key, hkey, credential, hrow⟩

/-- **A granted login takes nobody from home** but the devices whose route it takes. -/
theorem DevicesAtHome.granted (hs : Homely server) {connection : Connection} {id : Bytes}
    (htm : server'.transmission = boundManager server.transmission env.steadyNow id connection)
    (hreg : ∀ d, Registered server'.db d → d = id ∨ Registered server.db d)
    (hroute : ∀ d k, Registered server.db d → d ≠ id → server.transmission.getWsHandle d = connection →
      server.transmission.Authenticated k d → k = connection) : DevicesAtHome server' := by
  intro d k hd ha
  rw [htm, boundManager_authenticated_iff] at ha
  by_cases hid : d = id
  · -- whoever logs in is at home
    subst hid
    rw [htm]
    refine ⟨?_, connection, ?_, boundManager_authenticated_iff.mpr (by rw [if_pos rfl])⟩
    · rw [boundManager_host, if_pos rfl]
      cases hold : server.transmission.transmissionHostIdList[d]? with
      | none => rfl
      | some host => rw [hs.selfHosted d host hold]; rfl
    · rw [boundManager_routes, Std.ExtTreeMap.getElem?_insert_self]
  · have hold := (hreg d hd).resolve_left hid
    split at ha
    · exact absurd ha.symm hid
    · rename_i hk
      have hhome := hs.atHome d k hold ha
      obtain ⟨k₀, hk₀, hspeaks⟩ := hhome.route
      -- its route is not the one the login takes
      have hkept : connection.val ≠ k₀ := by
        rintro heq
        refine hk (hroute d k hold hid ?_ ha).symm
        rw [getWsHandle_eq_iff connection.2, heq]
        exact hk₀
      rw [htm]
      refine ⟨?_, k₀, ?_, boundManager_authenticated_iff.mpr ?_⟩
      · rw [boundManager_host, hhome.host]
        rfl
      · rw [boundManager_routes, Std.ExtTreeMap.getElem?_insert_eq, if_neg (Ne.symm hid)]
        exact hk₀
      · rw [if_neg hkept]
        exact hspeaks

/-- A login, granted or not. -/
theorem DevicesAtHome.login (hs : Homely server) {connection : Connection}
    (hroute : ∀ id d k, loginId sha256 server.db env.draws j = some id → Registered server.db d → d ≠ id →
      server.transmission.getWsHandle d = connection → server.transmission.Authenticated k d →
      k = connection) : DevicesAtHome (server.login sha256 env connection j).1 := by
  obtain ⟨htm, hdev, _, _⟩ := login_frames sha256 server env connection j
  rcases loginUser_cases sha256 server env connection j with
    ⟨hrefused, _⟩ | ⟨_, _, id, _, hid, hgranted, hgrant⟩
  · rw [hrefused.unchanged] at htm hdev
    intro d k hreg ha
    rw [htm] at ha ⊢
    exact hs.atHome d k (hreg.of_devices hdev) ha
  · rw [← hdev] at hgrant
    exact DevicesAtHome.granted hs (htm.trans hgranted.transmission)
      (fun d => registered_of_granted hgrant) fun d k => hroute id d k hid

/-- A new password is written to a row that is there. -/
theorem DevicesAtHome.changePassword (hs : Homely server) {connection : Connection} :
    DevicesAtHome (changePassword sha256 server env connection j).server := by
  rcases changePassword_cases sha256 server env connection j with h | ⟨u, credential, _, htm, _, hdb⟩
  · rw [h]
    exact hs.atHome
  · intro d k hreg ha
    rw [htm] at ha ⊢
    refine hs.atHome d k ?_ ha
    -- the key was there before, whether its row has changed or not
    obtain ⟨key, hkey, credential', hrow⟩ := hreg
    rw [hdb, Std.ExtTreeMap.getElem?_alter_eq] at hrow
    split at hrow
    · rename_i hu
      obtain ⟨old, hold, _⟩ := Option.map_eq_some_iff.mp hrow
      exact ⟨key, hkey, old, hu ▸ hold⟩
    · exact ⟨key, hkey, credential', hrow⟩

/-- **A message that takes nobody from home.** -/
theorem DevicesAtHome.message (hs : Homely server) {connection : Connection} {payload : Option Json}
    {type : MessageType} (hp : payloadType payload = some (j, type))
    (hkept : HomeKept sha256 server (env, .message connection payload)) :
    DevicesAtHome (server.handleMessage sha256 env connection j type).1 := by
  by_cases hlogin : type = .login
  · subst hlogin
    apply DevicesAtHome.login hs
    intro id d k hid
    exact hkept.login connection payload j id d k rfl hp hid
  · by_cases hchange : type = .changePassword
    · subst hchange
      exact DevicesAtHome.changePassword hs
    · apply hs.atHome.of_quiet (handleMessage_quiet hlogin hchange)
      intro d k hreg ha
      cases type with
      | ping => rw [handleMessage]; exact congrArg (·[d]?) (updateWsHandleLastActiveTime_tables _ _).1
      | login => exact absurd rfl hlogin
      | changePassword => exact absurd rfl hchange
      | userLeaveTransmission =>
          apply leaveTransmission_host hs.selfHosted
          intro ht hu
          exact hkept.leave connection payload j d k rfl hp ht hu hreg ha
      | joinTransmission =>
          show (joinTransmission sha256 server env connection
            j).server.transmission.transmissionHostIdList[d]? = _
          rcases joinTransmission_cases sha256 server env connection j with h | ⟨t, u, _, h⟩
          · rw [h]
          · rw [h]
            exact congrArg (·[d]?) (bindGuestToTransmission_hosts _ _ _)
      | queryUserIdList | offer | answer | newCandidate | newCandidateMid | turnCredentials
      | clientInfo | recentConnectionsPresence => rw [(handleMessage_harmless rfl).transmission]

/-- **A step that takes nobody from home keeps the invariant.** -/
theorem Homely.next (server : SignalServer) (step : Step) (hs : Homely server)
    (hkept : HomeKept sha256 server step) : Homely (server.next sha256 step) := by
  refine ⟨next_wellFormed sha256 server step hs.wellFormed,
    selfHosted_next hs.wellFormed hs.selfHosted, owned_next hs.owned, ?_⟩
  obtain ⟨env, e⟩ := step
  show DevicesAtHome (server.react sha256 env e).1
  cases e with
  | message connection payload =>
      show DevicesAtHome (server.onMessage sha256 env connection payload).1
      unfold onMessage
      cases hp : payloadType payload with
      | none => exact hs.atHome
      | some typed => exact DevicesAtHome.message hs hp hkept
  | close connection => exact (hs.onClose env connection).atHome
  | fail connection => exact (hs.onClose env connection).atHome
  | sweep =>
      show DevicesAtHome (server.sweep env).1
      rw [sweep_eq]
      exact (hs.swept env _).atHome
  | ping connection | pong connection =>
      apply hs.atHome.of_quiet (quiet_settle _ (updateWsHandleLastActiveTime_connections _ _))
      intro d k _ _
      exact congrArg (·[d]?) (updateWsHandleLastActiveTime_tables env.steadyNow _).1
  | runtimeHeartbeat => exact hs.atHome.of_quiet ⟨.refl _, rfl, .refl _⟩ fun _ _ _ _ => rfl
  | recoveredSessionCleanup =>
      apply hs.atHome.of_quiet (quiet_settle _ pruneDisconnectedTransmissions_connections)
      intro d k _ ha
      exact pruneDisconnectedTransmissions_host hs.selfHosted ha
  | adminDisconnect t =>
      apply hs.atHome.of_quiet (handleDisconnect_quiet t)
      intro d k hreg ha
      apply handleDisconnect_host
      rintro rfl
      exact hkept.disconnect t k rfl hreg ha

/-! ## The exact condition -/

/-- Where everybody is at home after a quiet step, the step ended the transmission of nobody connected. -/
theorem host_of_atHome_quiet (hq : Quiet server server') (h : DevicesAtHome server') {k : ConnectionHdl}
    (hreg : Registered server.db d) (ha : server.transmission.Authenticated k d) :
    server'.transmission.transmissionHostIdList[d]? = some d :=
  (h d k (Registered.of_devices hq.devices.symm hreg) (hq.connections.authenticated_iff.mpr ha)).host

/-- An operator who ends the transmission of a connected device takes it from home. -/
theorem not_connected_of_disconnect (hs : Homely server) {k : ConnectionHdl}
    (h : DevicesAtHome (server.handleDisconnect env d).1) (hreg : Registered server.db d) :
    ¬ server.transmission.Authenticated k d := by
  intro ha
  have hhost := host_of_atHome_quiet (handleDisconnect_quiet d) h hreg ha
  have hexists : server.transmission.isTransmissionExist d = true := by
    unfold isTransmissionExist
    rw [Std.ExtTreeMap.contains_eq_isSome_getElem?, (hs.atHome d k hreg ha).host]
    rfl
  rw [handleDisconnect_transmission, if_neg (hs.owned k d ha).2, disconnectTransmission, hexists] at hhost
  simp [releaseTransmission] at hhost

/-- So does a message that leaves it in the name of the device. -/
theorem not_connected_of_leave (hs : Homely server) {k : ConnectionHdl}
    (h : DevicesAtHome (leaveTransmission server env j).server)
    (ht : j.stringField (bytes "transmission_id") = some d)
    (hu : j.stringField (bytes "user_id") = some d) (hreg : Registered server.db d) :
    ¬ server.transmission.Authenticated k d := by
  intro ha
  have hhost := host_of_atHome_quiet leaveTransmission_quiet h hreg ha
  unfold leaveTransmission at hhost
  simp only [ht, hu, isHostOfTransmission, (hs.atHome d k hreg ha).host, beq_self_eq_true,
    if_true] at hhost
  change (server.transmission.releaseTransmission d).tm.transmissionHostIdList[d]? = _ at hhost
  simp [releaseTransmission] at hhost

/-- What a login that names an id leaves in the manager. -/
theorem login_transmission_of_loginId (server : SignalServer) (hdl : Connection) {id : Bytes}
    (hid : loginId sha256 server.db env.draws j = some id) :
    (server.login sha256 env hdl j).1.transmission
      = boundManager server.transmission env.steadyNow id hdl := by
  rw [(login_frames sha256 server env hdl j).1]
  rcases loginUser_cases sha256 server env hdl j with ⟨_, hnone, _⟩ | ⟨_, _, id', _, hid', hgranted, _⟩
  · rw [hnone] at hid
    exact absurd hid (by simp)
  · rw [hid] at hid'
    obtain rfl := Option.some.inj hid'
    exact hgranted.transmission

/-- And a login that takes the route of a device with a second connection. -/
theorem only_route_of_login {hdl : Connection} {id : Bytes} {k : ConnectionHdl}
    (h : DevicesAtHome (server.login sha256 env hdl j).1)
    (hid : loginId sha256 server.db env.draws j = some id) (hreg : Registered server.db d) (hne : d ≠ id)
    (hroute : server.transmission.getWsHandle d = hdl) (ha : server.transmission.Authenticated k d) :
    k = hdl := by
  have htm := login_transmission_of_loginId server hdl hid
  by_contra hk
  have hkept : (server.login sha256 env hdl j).1.transmission.Authenticated k d := by
    rw [htm, boundManager_authenticated_iff, if_neg (Ne.symm hk)]
    exact ha
  obtain ⟨key, hkey, credential, hrow⟩ := hreg
  obtain ⟨k', hk', hspeaks⟩ :=
    (h d k ⟨key, hkey, credential, login_row_kept sha256 env hdl j hrow⟩ hkept).route
  -- the route still leads to the connection, which speaks for the new id now
  rw [htm, boundManager_routes, Std.ExtTreeMap.getElem?_insert_eq, if_neg (Ne.symm hne),
    (getWsHandle_eq_iff hdl.2).mp hroute] at hk'
  obtain rfl := Option.some.inj hk'
  rw [htm, boundManager_authenticated_iff, if_pos rfl] at hspeaks
  exact hne hspeaks.symm

/-- **A step that takes somebody from home is seen at once.** -/
theorem homeKept_of_atHome (server : SignalServer) (step : Step) (hs : Homely server)
    (h : DevicesAtHome (server.next sha256 step)) : HomeKept sha256 server step := by
  obtain ⟨env, e⟩ := step
  refine ⟨fun d k he hreg => ?_, fun hdl payload j d k he hp ht hu hreg => ?_,
    fun hdl payload j id d k he hp hid hreg hne hroute ha => ?_⟩
  · obtain rfl : e = .adminDisconnect d := he
    exact not_connected_of_disconnect hs h hreg
  · have hnext : server.next sha256 (env, e) = (leaveTransmission server env j).server :=
      next_message he hp
    rw [hnext] at h
    exact not_connected_of_leave hs h ht hu hreg
  · have hnext : server.next sha256 (env, e) = (server.login sha256 env hdl j).1 :=
      next_message he hp
    rw [hnext] at h
    exact only_route_of_login h hid hreg hne hroute ha

/-- A new server without sessions. -/
theorem constructed_homely (db : DeviceDB) : Homely (constructed db) where
  wellFormed := empty_wellFormed
  selfHosted := fun t host h => by simp [constructed, TransmissionManager.empty] at h
  owned := fun k u ha => absurd ha constructed_not_authenticated
  atHome := fun d k _ ha => absurd ha constructed_not_authenticated

/-- **Online implies reachable, exactly.** In a run from a fresh start every registered device that is
    connected is at home in every state if and only if no step of the run takes one from home; and then
    in every state it hosts its own transmission and can be joined. -/
theorem onlineReachable_iff (sha256 : Digest) (now : Int) (db : DeviceDB)
    (hdb : db.remoteControlSessions = ∅) (steps : List Step) :
    (Run.EveryState (next sha256) DevicesAtHome (start now db) steps ↔
      Run.EveryStep (next sha256) (HomeKept sha256) (start now db) steps) ∧
    (Run.EveryStep (next sha256) (HomeKept sha256) (start now db) steps →
      Run.EveryState (next sha256) (OnlineReachable sha256) (start now db) steps) := by
  rw [start_of_no_sessions hdb]
  refine ⟨Run.everyState_iff_everyStep (next sha256) (fun _ hs => hs.atHome) Homely.next
    homeKept_of_atHome (constructed_homely db) steps, fun hkept pre hpre => ?_⟩
  have hhomely : Homely (Run.run (next sha256) (constructed db) pre) :=
    Run.run_invariant_of (next sha256) (fun server step hstep hs => hs.next server step hstep)
      (constructed_homely db) (hkept.of_initial hpre)
  exact ⟨fun d k hreg ha => (hhomely.atHome d k hreg ha).host, hhomely.joinable⟩

/-- A device that has just registered is reachable. -/
theorem registration_onlineReachable :
    Run.EveryState (next sampleDigest) (OnlineReachable sampleDigest) (start 0 DeviceDB.newFile)
      [registration] := by
  refine (onlineReachable_iff sampleDigest 0 DeviceDB.newFile rfl [registration]).2 ⟨?_, trivial⟩
  -- the condition is about registered devices, and a new file has none
  have hnobody : ∀ d, ¬ Registered (start 0 DeviceDB.newFile).db d := by
    rintro d ⟨key, _, credential, hrow⟩
    rw [start_of_no_sessions rfl] at hrow
    exact absurd hrow (by simp [constructed, DeviceDB.newFile])
  exact ⟨fun d _ _ hreg => absurd hreg (hnobody d),
    fun _ _ _ d _ _ _ _ _ hreg => absurd hreg (hnobody d),
    fun _ _ _ _ d _ _ _ _ hreg => absurd hreg (hnobody d)⟩

/-- A device registers, and an operator ends its transmission. -/
def disconnectRun : List Step := [registration, (.still 1, .adminDisconnect (bytes "100000000"))]

/-- The device is connected still, and hosts nothing. -/
theorem disconnectRun_unreachable :
    ¬ Run.EveryState (next sampleDigest) (OnlineReachable sampleDigest) (start 0 DeviceDB.newFile)
      disconnectRun := by
  intro h
  have hconnected : (Run.run (next sampleDigest) (start 0 DeviceDB.newFile)
      disconnectRun).transmission.Authenticated 1 (bytes "100000000") := by rfl
  -- its row is in the table, and its transmission is gone
  have hrow : ((Run.run (next sampleDigest) (start 0 DeviceDB.newFile)
      disconnectRun).db.devices[bindText (bytes "100000000")]?).isSome = true := by decide
  obtain ⟨credential, hrow⟩ := Option.isSome_iff_exists.mp hrow
  have hgone : (Run.run (next sampleDigest) (start 0 DeviceDB.newFile)
      disconnectRun).transmission.transmissionHostIdList[bytes "100000000"]? = none := by rfl
  have hhost := (h disconnectRun List.prefix_rfl).hosting (bytes "100000000") 1
    ⟨bindText (bytes "100000000"), rfl, credential, hrow⟩ hconnected
  rw [hgone] at hhost
  exact absurd hhost (by simp)

end SignalServer
end DeskServer
