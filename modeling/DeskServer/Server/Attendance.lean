import DeskServer.Server.LastRelease

/-!
# `Server.Attendance` — participants and their connections

A host or a guest that no connection speaks for cannot be heard, cannot leave and is never timed out: it
stays in its transmission, and on the dashboard, until somebody ends that by hand. A restart brings such
participants back with the sessions it restores; the cleanup that follows takes them out. From then on a
release lets its user out of every transmission, so that two steps alone can strand a participant: a login
that gives its only connection another id, and a join on a connection that speaks for nobody.

**Shape.** A step that only releases strands nobody (`attended_swept`, `attended_other`); logins and joins are
decided exactly (`attended_login_iff`, `attended_join_iff`). Runs begin at a cleanup, since a restored session
has no connections before it.
-/

namespace DeskServer

open Bytes

namespace TransmissionManager

/-- `u` hosts a transmission, or is a guest of one. -/
def Participates (s : TransmissionManager) (u : Bytes) : Prop :=
  (∃ t : Bytes, s.transmissionHostIdList[t]? = some u) ∨ ∃ t, u ∈ s.guestsOf t

/-- **Every participant attends**: some connection speaks for it. -/
def Attended (s : TransmissionManager) : Prop := ∀ u, s.Participates u → ∃ k, s.Authenticated k u

variable {s s' : TransmissionManager} {hdl : ConnectionHdl} {u id : Bytes}

/-! ## The operations -/

theorem Participates.of_leaves {left : List (Bytes × Bytes)} (hl : Leaves s s' left)
    (hu : s'.Participates u) : s.Participates u := by
  rcases hu with ⟨t, hhost⟩ | ⟨t, hguest⟩
  · exact .inl ⟨t, hl.hosts t u hhost⟩
  · exact .inr ⟨t, (hl.mem_iff.mp hguest).1⟩

/-- Guests leave, and the connections are what they were. -/
theorem Attended.of_leaves (h : s.Attended) {left : List (Bytes × Bytes)} (hl : Leaves s s' left)
    (hsame : SameConnections s s') : s'.Attended := by
  intro u hu
  obtain ⟨k, ha⟩ := h u (hu.of_leaves hl)
  exact ⟨k, hsame.authenticated_iff.mpr ha⟩

/-- **The cleanup strands nobody**, whatever it starts from. -/
theorem pruneDisconnectedTransmissions_attended (s : TransmissionManager) :
    s.pruneDisconnectedTransmissions.tm.Attended := by
  intro u hu
  rw [← hasUserConnection_iff, pruneDisconnectedTransmissions_connections.hasUserConnection]
  rcases hu with ⟨t, hhost⟩ | ⟨t, hguest⟩
  · exact ((pruneDisconnectedTransmissions_hosts t u).mp hhost).2
  · rw [pruneDisconnectedTransmissions_guests] at hguest
    split at hguest
    · exact absurd hguest List.not_mem_nil
    · exact (List.mem_filter.mp hguest).2

/-- **A release strands nobody**: whoever has no connection left is out of every transmission. -/
theorem Attended.released (h : s.Attended) (hs : s.WellFormed) (hself : s.SelfHosted)
    (hnamed : ∀ k u, s.Authenticated k u → u ≠ []) : (s.releaseUserSession hdl).tm.Attended := by
  intro u hu
  obtain ⟨left, hl, _⟩ := releaseUserSession_parts hs hdl
  obtain ⟨k, ha⟩ := h u (hu.of_leaves hl)
  by_contra hnobody
  rw [not_exists] at hnobody
  have hstays : hdl ≠ k → (s.releaseUserSession hdl).tm.Authenticated k u := fun hk =>
    (releaseUserSession_connections hdl).authenticated_iff.mpr
      (releaseUserFromWsHandle_authenticated.mpr ⟨hk, ha⟩)
  -- the connection of `u` is the one released, and it was the last
  have hhdl : hdl = k := by
    by_contra hk
    exact hnobody k (hstays hk)
  subst hhdl
  have hne := hnamed hdl u ha
  have hret := (releaseUserSession_ret hdl hne).mpr ⟨ha, hnobody⟩
  have hfinal : FinalRelease s (s.releaseUserSession hdl) (s.releaseUserSession hdl).ret :=
    releaseUserSession_final hs hself (hret ▸ hne)
  rw [hret] at hfinal
  rcases hu with ⟨t, hhost⟩ | ⟨t, hguest⟩
  · exact hfinal.noHost t hhost
  · exact hfinal.noGuest t hguest

/-- A guest more, as an admitted join lets it in. -/
theorem participates_joined_iff {t g : Bytes} :
    ({ s with transmissionGuestIdList :=
        s.transmissionGuestIdList.insert t (s.guestsOf t ++ [g]) } : TransmissionManager).Participates u ↔
      s.Participates u ∨ u = g := by
  unfold Participates
  rw [or_assoc]
  apply or_congr_right
  constructor
  · rintro ⟨a, ha⟩
    exact ((mem_guestsOf_joined rfl).mp ha).imp (fun hold => ⟨a, hold⟩) And.right
  · rintro (⟨a, ha⟩ | rfl)
    · exact ⟨a, (mem_guestsOf_joined rfl).mpr (.inl ha)⟩
    · exact ⟨t, (mem_guestsOf_joined rfl).mpr (.inr ⟨rfl, rfl⟩)⟩

/-- **A guest more attends exactly when a connection speaks for it.** -/
theorem attended_joined_iff (h : s.Attended) {t g : Bytes} :
    ({ s with transmissionGuestIdList :=
        s.transmissionGuestIdList.insert t (s.guestsOf t ++ [g]) } : TransmissionManager).Attended ↔
      ∃ k, s.Authenticated k g := by
  constructor
  · intro hall
    exact hall g (participates_joined_iff.mpr (.inr rfl))
  · intro hg u hu
    rcases participates_joined_iff.mp hu with hold | rfl
    · exact h u hold
    · exact hg

end TransmissionManager

namespace SignalServer

open TransmissionManager

variable {sha256 : Digest} {server : SignalServer} {env : Env} {hdl : ConnectionHdl} {j : Json} {step : Step}

/-! ## A login -/

/-- A granted login adds the id it grants. -/
theorem participates_boundManager_iff {s : TransmissionManager} (hself : s.SelfHosted) {steadyNow : Int}
    {u id : Bytes} :
    (boundManager s steadyNow id hdl).Participates u ↔ s.Participates u ∨ u = id := by
  unfold Participates
  simp only [boundManager_guestsOf, boundManager_host]
  constructor
  · rintro (⟨t, hhost⟩ | hguest)
    · rcases Option.or_eq_some_iff.mp hhost with hold | ⟨_, hnew⟩
      · exact .inl (.inl ⟨t, hold⟩)
      · split at hnew
        · exact .inr (Option.some.inj hnew).symm
        · exact absurd hnew (by simp)
    · exact .inl (.inr hguest)
  · rintro ((⟨t, hhost⟩ | hguest) | rfl)
    · exact .inl ⟨t, by rw [hhost]; rfl⟩
    · exact .inr hguest
    · -- the transmission of the id has a host by now, and it is the id
      refine .inl ⟨u, ?_⟩
      rw [if_pos rfl]
      cases hold : s.transmissionHostIdList[u]? with
      | none => rfl
      | some host => rw [hself u host hold]; rfl

/-- **A granted login strands exactly the participant whose only connection it takes.** -/
theorem attended_boundManager_iff {s : TransmissionManager} (h : s.Attended) (hself : s.SelfHosted)
    {steadyNow : Int} {id : Bytes} :
    (boundManager s steadyNow id hdl).Attended ↔
      ∀ u, s.Authenticated hdl u → u ≠ id → s.Participates u → ∃ k, k ≠ hdl ∧ s.Authenticated k u := by
  constructor
  · intro hall u _ hne hu
    obtain ⟨k, hk⟩ := hall u ((participates_boundManager_iff hself).mpr (.inl hu))
    rw [boundManager_authenticated_iff] at hk
    split at hk
    · exact absurd hk.symm hne
    · rename_i hother
      exact ⟨k, Ne.symm hother, hk⟩
  · intro hother u hu
    by_cases hid : u = id
    · exact ⟨hdl, boundManager_authenticated_iff.mpr (by rw [if_pos rfl, hid])⟩
    · have hold := ((participates_boundManager_iff hself).mp hu).resolve_right hid
      obtain ⟨k, ha⟩ := h u hold
      by_cases hk : hdl = k
      · subst hk
        obtain ⟨k', hne, ha'⟩ := hother u ha hid hold
        exact ⟨k', boundManager_authenticated_iff.mpr (by rw [if_neg (Ne.symm hne)]; exact ha')⟩
      · exact ⟨k, boundManager_authenticated_iff.mpr (by rw [if_neg hk]; exact ha)⟩

/-! ## The condition -/

/-- **The step strands nobody**: a login that is granted an id takes no other participant's only
    connection, and a join that is admitted names a user. -/
structure StrandsNobody (sha256 : Digest) (server : SignalServer) (step : Step) : Prop where
  login : ∀ (hdl : Connection) payload j id, step.2 = .message hdl payload →
    payloadType payload = some (j, .login) → loginId sha256 server.db step.1.draws j = some id →
    ∀ u, server.transmission.Authenticated hdl u → u ≠ id → server.transmission.Participates u →
      ∃ k, k ≠ hdl.val ∧ server.transmission.Authenticated k u
  join : ∀ (hdl : Connection) payload j t password u, step.2 = .message hdl payload →
    payloadType payload = some (j, .joinTransmission) → joinFields j = some (t, password, u) →
    Admitted sha256 server step.1 hdl t password u → u ≠ []

/-- The payload of a message has one type. -/
theorem payloadType_unique {e : Event} {hdl hdl' : Connection} {payload payload' : Option Json}
    {j j' : Json} {type type' : MessageType} (he : e = .message hdl payload)
    (hp : payloadType payload = some (j, type)) (he' : e = .message hdl' payload')
    (hp' : payloadType payload' = some (j', type')) : hdl' = hdl ∧ j' = j ∧ type' = type := by
  rw [he] at he'
  obtain ⟨rfl, rfl⟩ := Event.message.inj he'
  rw [hp] at hp'
  obtain ⟨rfl, rfl⟩ := Prod.mk.inj (Option.some.inj hp')
  exact ⟨rfl, rfl, rfl⟩

/-- **A login.** -/
theorem attended_login_iff (hs : Sound server) (h : server.transmission.Attended) {hdl : Connection}
    {payload : Option Json} {e : Event} (he : e = .message hdl payload)
    (hp : payloadType payload = some (j, .login)) :
    (server.next sha256 (env, e)).transmission.Attended ↔ StrandsNobody sha256 server (env, e) := by
  have hnext : server.next sha256 (env, e) = (server.login sha256 env hdl j).1 := next_message he hp
  have hcond : StrandsNobody sha256 server (env, e) ↔
      ∀ id, loginId sha256 server.db env.draws j = some id →
        ∀ u, server.transmission.Authenticated hdl u → u ≠ id → server.transmission.Participates u →
          ∃ k, k ≠ hdl.val ∧ server.transmission.Authenticated k u := by
    constructor
    · intro hstep id
      exact hstep.login hdl payload j id he hp
    · intro hall
      refine ⟨fun hdl' payload' j' id he' hp' => ?_, fun hdl' payload' j' _ _ _ he' hp' => ?_⟩
      · obtain ⟨rfl, rfl, _⟩ := payloadType_unique he hp he' hp'
        exact hall id
      · exact absurd (payloadType_unique he hp he' hp').2.2 (by simp)
  rw [hnext, hcond]
  cases hid : loginId sha256 server.db env.draws j with
  | some id =>
      rw [login_transmission_of_loginId server hdl hid, attended_boundManager_iff h hs.selfHosted]
      exact ⟨fun hall id' heq => Option.some.inj heq ▸ hall, fun hall => hall id rfl⟩
  | none =>
      refine ⟨fun _ id heq => absurd heq (by simp), fun _ => ?_⟩
      -- a refused login changes nothing
      rw [(login_frames sha256 server env hdl j).1]
      rcases loginUser_cases sha256 server env hdl j with ⟨hrefused, _⟩ | ⟨_, _, id, _, hsome, _⟩
      · rw [hrefused.unchanged]
        exact h
      · rw [hid] at hsome
        exact absurd hsome (by simp)

/-- **A join.** -/
theorem attended_join_iff (hs : Sound server) (h : server.transmission.Attended) {hdl : Connection}
    {payload : Option Json} {e : Event} (he : e = .message hdl payload)
    (hp : payloadType payload = some (j, .joinTransmission)) :
    (server.next sha256 (env, e)).transmission.Attended ↔ StrandsNobody sha256 server (env, e) := by
  have hnext : server.next sha256 (env, e) = (joinTransmission sha256 server env hdl j).server :=
    next_message he hp
  have hcond : StrandsNobody sha256 server (env, e) ↔ ∀ t password u, joinFields j = some (t, password, u) →
      Admitted sha256 server env hdl t password u → u ≠ [] := by
    constructor
    · intro hstep t password u
      exact hstep.join hdl payload j t password u he hp
    · intro hall
      refine ⟨fun hdl' payload' j' _ he' hp' => ?_, fun hdl' payload' j' t password u he' hp' => ?_⟩
      · exact absurd (payloadType_unique he hp he' hp').2.2 (by simp)
      · obtain ⟨rfl, rfl, _⟩ := payloadType_unique he hp he' hp'
        exact hall t password u
  rw [hnext, hcond]
  cases hj : joinFields j with
  | none =>
      rw [joinTransmission_unfielded hj]
      exact ⟨fun _ _ _ _ heq => absurd heq (by simp), fun _ => h⟩
  | some fields =>
      obtain ⟨t, password, u⟩ := fields
      rcases joinTransmission_effect sha256 server env hdl hj with ⟨hadmitted, htm⟩ | ⟨hnot, hsame⟩
      · rw [htm, attended_joined_iff h]
        constructor
        · rintro ⟨k, ha⟩ t' password' u' heq _
          obtain ⟨_, hrest⟩ := Prod.mk.inj (Option.some.inj heq)
          rw [← (Prod.mk.inj hrest).2]
          exact (hs.owned k u ha).2
        · intro hall
          have hne : server.transmission.getUserId hdl ≠ [] := by
            rw [hadmitted.sender]
            exact hall t password u rfl hadmitted
          exact ⟨hdl, hadmitted.sender ▸ authenticated_of_getUserId hne⟩
      · rw [hsame.transmission]
        refine ⟨fun _ t' password' u' heq hadmitted => ?_, fun _ => h⟩
        obtain ⟨rfl, hrest⟩ := Prod.mk.inj (Option.some.inj heq)
        obtain ⟨rfl, rfl⟩ := Prod.mk.inj hrest
        exact absurd hadmitted hnot

/-! ## The other steps -/

/-- Induction on the condemned connections still to time out: each is released. -/
theorem attended_swept (hs : Sound server) (h : server.transmission.Attended) (env : Env)
    (hdls : List ConnectionHdl) :
    (hdls.foldl (SignalServer.timedOut env) server).transmission.Attended := by
  induction hdls generalizing server with
  | nil => exact h
  | cons hdl hdls ih =>
      apply ih (hs.timedOut env hdl)
      rw [timedOut_transmission]
      have hidle : (server.transmission.removeWsHandleLastActiveTime hdl).Attended := h
      exact hidle.released ⟨hs.wellFormed.hosted, hs.wellFormed.nonempty, hs.wellFormed.nodup⟩ hs.selfHosted
        fun k u ha => (hs.owned k u ha).2

/-- Whatever is neither a login nor a join takes guests out, or does nothing to them. -/
theorem next_leaves (hs : Sound server) {e : Event}
    (hother : ∀ (hdl : Connection) payload j type, e = .message hdl payload →
      payloadType payload = some (j, type) → type ≠ .login ∧ type ≠ .joinTransmission) :
    ∃ left, Leaves server.transmission (server.next sha256 (env, e)).transmission left := by
  by_cases hadmin : ∃ t, e = .adminDisconnect t
  · obtain ⟨t, rfl⟩ := hadmin
    show ∃ left, Leaves _ (server.handleDisconnect env t).1.transmission left
    rw [handleDisconnect_transmission]
    split
    · exact ⟨[], .of_eq hs.wellFormed rfl rfl⟩
    · obtain ⟨left, hl, _⟩ := disconnectTransmission_parts hs.wellFormed t
      exact ⟨left, hl⟩
  · rw [not_exists] at hadmin
    obtain ⟨left, hl, _⟩ := react_settles sha256 env hs.wellFormed hother hadmin
    exact ⟨left, hl⟩

/-- **Nothing else strands anybody.** -/
theorem attended_other (hs : Sound server) (h : server.transmission.Attended) {e : Event}
    (hother : ∀ (hdl : Connection) payload j type, e = .message hdl payload →
      payloadType payload = some (j, type) → type ≠ .login ∧ type ≠ .joinTransmission) :
    (server.next sha256 (env, e)).transmission.Attended := by
  obtain ⟨left, hl⟩ : ∃ left, Leaves server.transmission (server.next sha256 (env, e)).transmission left :=
    next_leaves hs hother
  change Leaves _ (server.react sha256 env e).1.transmission left at hl
  show (server.react sha256 env e).1.transmission.Attended
  have hclose : ∀ hdl : Connection, (server.onClose env hdl).1.transmission.Attended := by
    intro hdl
    rw [onClose_transmission]
    have hreleased : (server.transmission.releaseUserSession hdl).tm.Attended :=
      h.released hs.wellFormed hs.selfHosted fun k u ha => (hs.owned k u ha).2
    exact hreleased
  cases react_cases sha256 server env e with
  | quiet hq => exact h.of_leaves hl hq.connections
  | login hdl payload j he hp heq => exact absurd rfl (hother hdl payload j .login he hp).1
  | changePassword hdl payload j he hp heq =>
      rw [heq]
      rcases changePassword_cases sha256 server env hdl j with hsame | ⟨_, _, _, htm, _⟩
      · rw [hsame]
        exact h
      · rw [htm]
        exact h
  | closed hdl he _ =>
      rcases he with rfl | rfl
      · exact hclose hdl
      · exact hclose hdl
  | swept _ heq =>
      rw [heq]
      exact attended_swept hs h env _

/-- **One step, exactly.** -/
theorem attended_next_iff (hs : Sound server) (h : server.transmission.Attended) (step : Step) :
    (server.next sha256 step).transmission.Attended ↔ StrandsNobody sha256 server step := by
  obtain ⟨env, e⟩ := step
  by_cases hlogin : ∃ (hdl : Connection) (payload : Option Json) (j : Json),
      e = .message hdl payload ∧ payloadType payload = some (j, .login)
  · obtain ⟨hdl, payload, j, he, hp⟩ := hlogin
    exact attended_login_iff hs h he hp
  · by_cases hjoin : ∃ (hdl : Connection) (payload : Option Json) (j : Json),
        e = .message hdl payload ∧ payloadType payload = some (j, .joinTransmission)
    · obtain ⟨hdl, payload, j, he, hp⟩ := hjoin
      exact attended_join_iff hs h he hp
    · constructor
      · intro _
        exact ⟨fun hdl payload j _ he hp => absurd ⟨hdl, payload, j, he, hp⟩ hlogin,
          fun hdl payload j _ _ _ he hp => absurd ⟨hdl, payload, j, he, hp⟩ hjoin⟩
      · intro _
        apply attended_other hs h
        intro hdl payload j type he hp
        exact ⟨fun heq => hlogin ⟨hdl, payload, j, he, heq ▸ hp⟩,
          fun heq => hjoin ⟨hdl, payload, j, he, heq ▸ hp⟩⟩

/-! ## Runs -/

/-- **From the cleanup on, every participant attends, exactly.** In a run from any reachable state that
    begins with the cleanup, every host and every guest has a connection in every state if and only if no
    step of the run strands one. -/
theorem attended_after_cleanup_iff (h : Reachable sha256 server) (env : Env) (steps : List Step) :
    Run.EveryState (next sha256) (fun server => server.transmission.Attended)
        (server.next sha256 (env, .recoveredSessionCleanup)) steps ↔
      Run.EveryStep (next sha256) (StrandsNobody sha256)
        (server.next sha256 (env, .recoveredSessionCleanup)) steps := by
  have hcleaned : (server.next sha256 (env, .recoveredSessionCleanup)).transmission.Attended :=
    pruneDisconnectedTransmissions_attended server.transmission
  exact Run.everyState_iff_everyStep (next sha256)
    (I := fun server => Sound server ∧ server.transmission.Attended) (fun _ hs => hs.2)
    (fun _ step hs hstep => ⟨hs.1.next sha256 step, (attended_next_iff hs.1 hs.2 step).mpr hstep⟩)
    (fun _ step hs hall => (attended_next_iff hs.1 hs.2 step).mp hall)
    ⟨h.sound.next sha256 _, hcleaned⟩ steps

/-- After a cleanup the guest of a joined session closes its connection. -/
theorem attended_after_cleanup_joined :
    Run.EveryState (next sampleDigest) (fun server => server.transmission.Attended)
      (joined.next sampleDigest (.still 8, .recoveredSessionCleanup)) [(.still 9, .close 2)] := by
  apply (attended_after_cleanup_iff joined_reachable (.still 8) [(.still 9, .close 2)]).mpr
  exact ⟨⟨fun _ _ _ _ he => absurd he (by simp), fun _ _ _ _ _ _ he => absurd he (by simp)⟩, trivial⟩

end SignalServer
end DeskServer
