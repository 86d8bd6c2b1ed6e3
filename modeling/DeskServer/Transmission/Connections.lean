import DeskServer.Transmission.Effects

/-!
# `Transmission.Connections` — who speaks for whom

The other half of the manager: the map from connections to the users they are authenticated as, and the
map from users to the connection messages for them go to. The session operations never touch either; a
login writes one entry of each, a release takes one connection out and hands its route on. `Routed` says
that the two maps agree; a release keeps it, a login keeps it under a condition.

**Shape.** `SameConnections` says that an operation leaves both maps alone, and most do. For a release,
`releaseUserFromWsHandle_routeAfter` lists what can become of the route of its user: it stays, it is handed on
to another connection of that user, or it goes.
-/

namespace DeskServer
namespace TransmissionManager

/-- `hdl` is authenticated as `u`. -/
def Authenticated (s : TransmissionManager) (hdl : ConnectionHdl) (u : Bytes) : Prop :=
  s.wsHdlUserIdList[hdl]? = some u

/-- Both maps are what they were. -/
structure SameConnections (s s' : TransmissionManager) : Prop where
  users : s'.wsHdlUserIdList = s.wsHdlUserIdList
  routes : s'.userIdWsHdlList = s.userIdWsHdlList

variable {s s' s'' : TransmissionManager}

theorem SameConnections.refl (s : TransmissionManager) : SameConnections s s := ⟨rfl, rfl⟩

theorem SameConnections.trans (h : SameConnections s s') (h' : SameConnections s' s'') :
    SameConnections s s'' :=
  ⟨h'.users.trans h.users, h'.routes.trans h.routes⟩

theorem SameConnections.authenticated_iff (h : SameConnections s s') {hdl : ConnectionHdl} {u : Bytes} :
    s'.Authenticated hdl u ↔ s.Authenticated hdl u := by rw [Authenticated, Authenticated, h.users]

theorem Authenticated.unique {hdl : ConnectionHdl} {u v : Bytes} (h : s.Authenticated hdl u)
    (h' : s.Authenticated hdl v) : u = v := Option.some.inj (h.symm.trans h')

theorem Authenticated.getUserId {hdl : ConnectionHdl} {u : Bytes} (h : s.Authenticated hdl u) :
    s.getUserId hdl = u := by
  rw [TransmissionManager.getUserId, h]; rfl

/-- A user id that is not empty comes from the map. -/
theorem authenticated_of_getUserId {hdl : ConnectionHdl} (h : s.getUserId hdl ≠ []) :
    s.Authenticated hdl (s.getUserId hdl) := by
  unfold Authenticated TransmissionManager.getUserId at *
  cases hu : s.wsHdlUserIdList[hdl]? with
  | none => rw [hu] at h; exact absurd rfl h
  | some u => rfl

theorem hasUserConnection_iff {u : Bytes} :
    s.hasUserConnection u = true ↔ ∃ hdl, s.Authenticated hdl u := by
  unfold hasUserConnection Authenticated
  rw [List.any_eq_true]
  constructor
  · rintro ⟨e, he, heq⟩
    rw [Std.ExtTreeMap.mem_toList, beq_iff_eq.mp heq] at he
    exact ⟨e.1, he⟩
  · rintro ⟨hdl, h⟩
    exact ⟨(hdl, u), Std.ExtTreeMap.mem_toList.mpr h, by simp⟩

/-! ## The session operations -/

theorem SameConnections.hasUserConnection (h : SameConnections s s') (u : Bytes) :
    s'.hasUserConnection u = s.hasUserConnection u := by
  rw [TransmissionManager.hasUserConnection, TransmissionManager.hasUserConnection, h.users]

theorem bindHostToTransmission_connections (host t : Bytes) :
    SameConnections s (s.bindHostToTransmission host t).tm := by
  unfold bindHostToTransmission
  split <;> exact ⟨rfl, rfl⟩

theorem bindGuestToTransmission_connections (g t : Bytes) :
    SameConnections s (s.bindGuestToTransmission g t).tm := by
  rcases bindGuestToTransmission_cases s g t with ⟨hsame, _⟩ | ⟨_, _, _, _, hout⟩
  · rw [hsame]; exact .refl s
  · rw [hout]; exact ⟨rfl, rfl⟩

theorem releaseTransmission_connections (t : Bytes) :
    SameConnections s (s.releaseTransmission t).tm := ⟨rfl, rfl⟩

theorem releaseGuestFromTransmission_connections (g : Bytes) :
    SameConnections s (s.releaseGuestFromTransmission g).tm := ⟨rfl, rfl⟩

theorem disconnectTransmission_connections (t : Bytes) :
    SameConnections s (s.disconnectTransmission t).tm := by
  unfold disconnectTransmission
  split <;> exact ⟨rfl, rfl⟩

/-- Induction on the transmissions still to release. -/
theorem foldl_pruneStep_connections (ts : List Bytes) (acc : Outcome Nat) :
    SameConnections acc.tm (ts.foldl pruneStep acc).tm := by
  induction ts generalizing acc with
  | nil => exact .refl _
  | cons t ts ih => exact (releaseTransmission_connections t).trans (ih (pruneStep acc t))

theorem pruneDisconnectedTransmissions_connections :
    SameConnections s s.pruneDisconnectedTransmissions.tm := by
  have hfirst := foldl_pruneStep_connections
    ((s.transmissionHostIdList.toList.filter fun hostPair =>
      !s.hasUserConnection hostPair.2).map Prod.fst) ⟨0, s, []⟩
  exact hfirst.trans ⟨rfl, rfl⟩

theorem updateWsHandleLastActiveTime_connections (now : Int) (hdl : ConnectionHdl) :
    SameConnections s (s.updateWsHandleLastActiveTime now hdl).tm := by
  unfold updateWsHandleLastActiveTime
  split <;> exact ⟨rfl, rfl⟩

theorem removeWsHandleLastActiveTime_connections (hdl : ConnectionHdl) :
    SameConnections s (s.removeWsHandleLastActiveTime hdl) := ⟨rfl, rfl⟩

/-! ## A login -/

theorem bindUserToWsHandle_users (now : Int) (u : Bytes) (hdl : ConnectionHdl) :
    (s.bindUserToWsHandle now u hdl).tm.wsHdlUserIdList = s.wsHdlUserIdList.insert hdl u :=
  (updateWsHandleLastActiveTime_connections (s := { s with
    userIdWsHdlList := s.userIdWsHdlList.insert u hdl
    wsHdlUserIdList := s.wsHdlUserIdList.insert hdl u }) now hdl).users

theorem bindUserToWsHandle_routes (now : Int) (u : Bytes) (hdl : ConnectionHdl) :
    (s.bindUserToWsHandle now u hdl).tm.userIdWsHdlList = s.userIdWsHdlList.insert u hdl :=
  (updateWsHandleLastActiveTime_connections (s := { s with
    userIdWsHdlList := s.userIdWsHdlList.insert u hdl
    wsHdlUserIdList := s.wsHdlUserIdList.insert hdl u }) now hdl).routes

/-! ## A release -/

theorem releaseUserFromWsHandle_users (hdl : ConnectionHdl) :
    (s.releaseUserFromWsHandle hdl).tm.wsHdlUserIdList = s.wsHdlUserIdList.erase hdl := by
  unfold releaseUserFromWsHandle
  cases hu : s.wsHdlUserIdList[hdl]? with
  | some u => rfl
  | none =>
      apply Std.ExtTreeMap.ext_getElem?
      intro a
      rw [Std.ExtTreeMap.getElem?_erase_eq]
      by_cases ha : hdl = a
      · rw [if_pos ha, ← ha]; exact hu
      · rw [if_neg ha]; rfl

theorem releaseUserFromWsHandle_ret (hdl : ConnectionHdl) :
    (s.releaseUserFromWsHandle hdl).ret = s.getUserId hdl := by
  unfold releaseUserFromWsHandle getUserId
  cases s.wsHdlUserIdList[hdl]? <;> rfl

/-- The guests and the transmission of a user that leaves: not a matter of connections. -/
theorem releaseUserSession_connections (hdl : ConnectionHdl) :
    SameConnections (s.releaseUserFromWsHandle hdl).tm (s.releaseUserSession hdl).tm := by
  simp only [releaseUserSession]
  split
  · exact .refl _
  · split
    · exact .refl _
    · split
      · exact (releaseGuestFromTransmission_connections _).trans (releaseTransmission_connections _)
      · exact releaseGuestFromTransmission_connections _

theorem releaseUserSession_users (hdl : ConnectionHdl) :
    (s.releaseUserSession hdl).tm.wsHdlUserIdList = s.wsHdlUserIdList.erase hdl :=
  (releaseUserSession_connections hdl).users.trans (releaseUserFromWsHandle_users hdl)

/-- **The release reports a user exactly when this was the last connection of it.** -/
theorem releaseUserSession_ret (hdl : ConnectionHdl) {u : Bytes} (hu : u ≠ []) :
    (s.releaseUserSession hdl).ret = u ↔
      s.Authenticated hdl u ∧ ∀ hdl', ¬ (s.releaseUserSession hdl).tm.Authenticated hdl' u := by
  have hsame := releaseUserSession_connections (s := s) hdl
  have hret : (s.releaseUserSession hdl).ret
      = if (s.releaseUserFromWsHandle hdl).tm.hasUserConnection (s.getUserId hdl) then []
        else s.getUserId hdl := by
    simp only [releaseUserSession, releaseUserFromWsHandle_ret]
    by_cases hnil : s.getUserId hdl = []
    · simp [hnil]
    · rw [if_neg hnil]
      by_cases hc : (s.releaseUserFromWsHandle hdl).tm.hasUserConnection (s.getUserId hdl) = true
      · rw [if_pos hc, if_pos hc]
      · rw [if_neg hc, if_neg hc]
        split <;> rfl
  have hleft : (∀ hdl', ¬ (s.releaseUserSession hdl).tm.Authenticated hdl' u) ↔
      ¬ (s.releaseUserFromWsHandle hdl).tm.hasUserConnection u = true := by
    rw [hasUserConnection_iff, not_exists]
    simp only [hsame.authenticated_iff]
  rw [hret, hleft]
  constructor
  · intro h
    split at h
    · exact absurd h.symm hu
    · rename_i hc
      rw [h] at hc
      exact ⟨h ▸ authenticated_of_getUserId (h ▸ hu), hc⟩
  · rintro ⟨hauth, hc⟩
    rw [hauth.getUserId, if_neg hc]

/-! ## The two maps agree -/

/-- **The maps agree**: a route leads to a connection that speaks for the user, and every user some
    connection speaks for has a route. -/
structure Routed (s : TransmissionManager) : Prop where
  sound : ∀ (u : Bytes) (hdl : ConnectionHdl), s.userIdWsHdlList[u]? = some hdl →
    s.Authenticated hdl u
  complete : ∀ (hdl : ConnectionHdl) (u : Bytes), s.Authenticated hdl u →
    ∃ hdl' : ConnectionHdl, s.userIdWsHdlList[u]? = some hdl'
  owner : ∀ (hdl : ConnectionHdl) (u : Bytes), s.Authenticated hdl u → hdl ≠ 0

/-- The maps agree about `v`. -/
structure RoutedAt (s : TransmissionManager) (v : Bytes) : Prop where
  sound : ∀ hdl : ConnectionHdl, s.userIdWsHdlList[v]? = some hdl → s.Authenticated hdl v
  complete : ∀ hdl : ConnectionHdl, s.Authenticated hdl v →
    ∃ hdl' : ConnectionHdl, s.userIdWsHdlList[v]? = some hdl'
  owner : ∀ hdl : ConnectionHdl, s.Authenticated hdl v → hdl ≠ 0

theorem Routed.at (hs : s.Routed) (v : Bytes) : s.RoutedAt v :=
  ⟨hs.sound v, fun hdl => hs.complete hdl v, fun hdl => hs.owner hdl v⟩

theorem Routed.of_same (hs : s.Routed) (h : SameConnections s s') : s'.Routed := by
  refine ⟨fun u hdl hr => ?_, fun hdl u ha => ?_, fun hdl u ha => ?_⟩
  · rw [h.routes] at hr; exact h.authenticated_iff.mpr (hs.sound u hdl hr)
  · rw [h.routes]; exact hs.complete hdl u (h.authenticated_iff.mp ha)
  · exact hs.owner hdl u (h.authenticated_iff.mp ha)

/-- A release that leaves the route of `u` alone. -/
theorem reassignWsHandle_kept {hdl : ConnectionHdl} {u v : Bytes}
    (h : v ≠ u ∨ ∃ routed : ConnectionHdl, s.userIdWsHdlList[u]? = some routed ∧
      sameConnection routed hdl = false) :
    (s.reassignWsHandle hdl u)[v]? = s.userIdWsHdlList[v]? := by
  unfold reassignWsHandle
  cases hr : s.userIdWsHdlList[u]? with
  | none => rfl
  | some routed =>
      rcases h with hne | ⟨routed', hr', hdiff⟩
      · simp only
        split
        · split
          · rw [Std.ExtTreeMap.getElem?_insert_eq, if_neg (Ne.symm hne)]
          · rw [Std.ExtTreeMap.getElem?_erase_eq, if_neg (Ne.symm hne)]
        · rfl
      · rw [hr] at hr'
        obtain rfl := Option.some.inj hr'
        simp only [hdiff]; rfl

/-- A release that hands the route of `u` on, to any connection that still speaks for it. -/
theorem reassignWsHandle_handed {hdl routed : ConnectionHdl} {u : Bytes}
    (hr : s.userIdWsHdlList[u]? = some routed) (hsame : sameConnection routed hdl = true) :
    (∃ hdl' : ConnectionHdl, (s.reassignWsHandle hdl u)[u]? = some hdl' ∧ s.Authenticated hdl' u) ∨
    ((s.reassignWsHandle hdl u)[u]? = none ∧ ∀ hdl', ¬ s.Authenticated hdl' u) := by
  unfold reassignWsHandle
  simp only [hr, hsame, if_true]
  cases hf : s.wsHdlUserIdList.toList.find? fun pair => pair.2 == u with
  | some pair =>
      left
      have hmem := Std.ExtTreeMap.mem_toList.mp (List.mem_of_find?_eq_some hf)
      have hpair : pair.2 = u := by simpa using List.find?_some hf
      refine ⟨pair.1, ?_, ?_⟩
      · simp only [Std.ExtTreeMap.getElem?_insert_eq, if_true]
      · show s.wsHdlUserIdList[pair.1]? = some u
        rw [hmem, hpair]
  | none =>
      right
      refine ⟨?_, fun hdl' ha => ?_⟩
      · simp only [Std.ExtTreeMap.getElem?_erase_eq, if_true]
      · have := List.find?_eq_none.mp hf (hdl', u) (Std.ExtTreeMap.mem_toList.mpr ha)
        simp at this

/-- A release takes out the connection and nobody else. -/
theorem releaseUserFromWsHandle_authenticated {hdl k : ConnectionHdl} {v : Bytes} :
    (s.releaseUserFromWsHandle hdl).tm.Authenticated k v ↔ hdl ≠ k ∧ s.Authenticated k v := by
  unfold Authenticated
  rw [releaseUserFromWsHandle_users, Std.ExtTreeMap.getElem?_erase_eq]
  by_cases hk : hdl = k <;> simp [hk]

/-- A route of `s'` is right after `hdl` left: it is the old one, which did not lead to `hdl`, or it
    was looked up again among the connections that stayed. -/
inductive RouteAfter (s s' : TransmissionManager) (hdl : ConnectionHdl) (v : Bytes) : Prop
  | kept (route : s'.userIdWsHdlList[v]? = s.userIdWsHdlList[v]?)
      (other : s.userIdWsHdlList[v]? ≠ some hdl)
  | handed (k : ConnectionHdl) (route : s'.userIdWsHdlList[v]? = some k) (speaks : s'.Authenticated k v)
  | closed (route : s'.userIdWsHdlList[v]? = none) (nobody : ∀ k : ConnectionHdl, ¬ s'.Authenticated k v)

/-- The maps agree again once every route is right. -/
theorem Routed.released (hs : s.Routed) {s' : TransmissionManager} {hdl : ConnectionHdl}
    (hauth : ∀ (k : ConnectionHdl) v, s'.Authenticated k v ↔ hdl ≠ k ∧ s.Authenticated k v)
    (hroute : ∀ v, RouteAfter s s' hdl v) : s'.Routed := by
  refine ⟨fun v k hr => ?_, fun k v ha => ?_, fun k v ha => hs.owner k v ((hauth k v).mp ha).2⟩
  · cases hroute v with
    | kept route other =>
        rw [route] at hr
        refine (hauth k v).mpr ⟨?_, hs.sound v k hr⟩
        rintro rfl
        exact other hr
    | handed k' route speaks =>
        rw [route] at hr
        obtain rfl := Option.some.inj hr
        exact speaks
    | closed route nobody => rw [route] at hr; exact absurd hr (by simp)
  · cases hroute v with
    | kept route other => rw [route]; exact hs.complete k v ((hauth k v).mp ha).2
    | handed k' route speaks => exact ⟨k', route⟩
    | closed route nobody => exact absurd ha (nobody k)

/-- What a release does to each route: only the released user's, and only when it led to the
    connection, is looked up again. -/
theorem releaseUserFromWsHandle_routeAfter {v : Bytes} (hs : s.RoutedAt v) (hdl : ConnectionHdl) :
    RouteAfter s (s.releaseUserFromWsHandle hdl).tm hdl v := by
  cases hu : s.wsHdlUserIdList[hdl]? with
  | none =>
      have hroutes : (s.releaseUserFromWsHandle hdl).tm.userIdWsHdlList = s.userIdWsHdlList := by
        unfold TransmissionManager.releaseUserFromWsHandle; rw [hu]; rfl
      refine .kept (by rw [hroutes]) fun hr => ?_
      have ha := hs.sound hdl hr
      rw [Authenticated, hu] at ha
      exact absurd ha (by simp)
  | some u =>
      -- the manager the route is handed on in: the connection is already out of its map
      let rest : TransmissionManager := { s with wsHdlUserIdList := s.wsHdlUserIdList.erase hdl }
      have hroutes : (s.releaseUserFromWsHandle hdl).tm.userIdWsHdlList = rest.reassignWsHandle hdl u := by
        unfold TransmissionManager.releaseUserFromWsHandle; rw [hu]; rfl
      have hrest : ∀ (k : ConnectionHdl) w,
          rest.Authenticated k w ↔ (s.releaseUserFromWsHandle hdl).tm.Authenticated k w := by
        intro k w
        unfold Authenticated
        rw [releaseUserFromWsHandle_users]
      by_cases hvu : v = u
      · subst hvu
        obtain ⟨routed, hr⟩ := hs.complete hdl hu
        by_cases hsame : sameConnection routed hdl = true
        · rcases reassignWsHandle_handed (s := rest) hr hsame with ⟨k', hk', ha'⟩ | ⟨hnone, hnobody⟩
          · exact .handed k' (by rw [hroutes]; exact hk') ((hrest _ _).mp ha')
          · exact .closed (by rw [hroutes]; exact hnone) fun k ha => hnobody k ((hrest _ _).mpr ha)
        · have hdiff : sameConnection routed hdl = false := by simpa using hsame
          refine .kept ?_ fun hr' => ?_
          · rw [hroutes]
            exact reassignWsHandle_kept (s := rest) (.inr ⟨routed, hr, hdiff⟩)
          · have hown := hs.owner hdl hu
            obtain rfl := Option.some.inj (hr.symm.trans hr')
            simp [sameConnection, hasConnectionOwner, hown] at hdiff
      · refine .kept ?_ fun hr' => hvu ((hs.sound hdl hr').unique hu)
        rw [hroutes]
        exact reassignWsHandle_kept (s := rest) (.inl hvu)

/-- **A release keeps the maps in agreement.** -/
theorem Routed.releaseUserFromWsHandle (hs : s.Routed) (hdl : ConnectionHdl) :
    (s.releaseUserFromWsHandle hdl).tm.Routed :=
  hs.released (fun _ _ => releaseUserFromWsHandle_authenticated)
    (fun v => releaseUserFromWsHandle_routeAfter (hs.at v) hdl)

theorem Routed.releaseUserSession (hs : s.Routed) (hdl : ConnectionHdl) :
    (s.releaseUserSession hdl).tm.Routed :=
  (hs.releaseUserFromWsHandle hdl).of_same (releaseUserSession_connections hdl)

/-- **A login keeps the maps in agreement exactly when it takes no route along**: the connection was
    not the route of another user. -/
theorem Routed.bindUserToWsHandle_iff (hs : s.Routed) (now : Int) {u : Bytes} {hdl : ConnectionHdl}
    (hh : hdl ≠ 0) :
    (s.bindUserToWsHandle now u hdl).tm.Routed ↔
      ∀ v : Bytes, s.userIdWsHdlList[v]? = some hdl → v = u := by
  have husers := bindUserToWsHandle_users (s := s) now u hdl
  have hroutes := bindUserToWsHandle_routes (s := s) now u hdl
  have hauth : ∀ (k : ConnectionHdl) v, (s.bindUserToWsHandle now u hdl).tm.Authenticated k v ↔
      if hdl = k then u = v else s.Authenticated k v := by
    intro k v
    unfold Authenticated
    rw [husers, Std.ExtTreeMap.getElem?_insert_eq]
    split
    · exact Option.some_inj
    · rfl
  constructor
  · intro h v hv
    by_cases hvu : v = u
    · exact hvu
    · have hv' : (s.bindUserToWsHandle now u hdl).tm.userIdWsHdlList[v]? = some hdl := by
        rw [hroutes, Std.ExtTreeMap.getElem?_insert_eq, if_neg (Ne.symm hvu)]; exact hv
      have := (hauth hdl v).mp (h.sound v hdl hv')
      rw [if_pos rfl] at this
      exact this.symm
  · intro hcond
    refine ⟨fun v k hv => ?_, fun k v ha => ?_, fun k v ha => ?_⟩
    · rw [hroutes, Std.ExtTreeMap.getElem?_insert_eq] at hv
      rw [hauth]
      by_cases hvu : u = v
      · rw [if_pos hvu] at hv
        rw [if_pos (Option.some.inj hv)]; exact hvu
      · rw [if_neg hvu] at hv
        have hk : hdl ≠ k := by
          rintro rfl
          exact hvu (hcond v hv).symm
        rw [if_neg hk]
        exact hs.sound v k hv
    · rw [hroutes]
      by_cases hvu : u = v
      · exact ⟨hdl, by rw [Std.ExtTreeMap.getElem?_insert_eq, if_pos hvu]⟩
      · rw [hauth] at ha
        split at ha
        · exact absurd ha hvu
        · obtain ⟨k', hk'⟩ := hs.complete k v ha
          exact ⟨k', by rw [Std.ExtTreeMap.getElem?_insert_eq, if_neg hvu]; exact hk'⟩
    · rw [hauth] at ha
      split at ha
      · rename_i hk; exact hk ▸ hh
      · exact hs.owner k v ha

end TransmissionManager
end DeskServer
