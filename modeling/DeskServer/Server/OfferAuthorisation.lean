import DeskServer.Server.Reachable

/-!
# `Server.OfferAuthorisation` — who may make an offer to whom

The handler compares sender and receiver with the host and looks both up among the members. In a
reachable state, where no host is its own guest and no guest list is without a host, this is the test
that one of the two is the host and the other one of its guests. What a refused offer must not do is ask
for credentials; the calls of `Issue` are followed on the side, as the users they are made for.

**Shape.** The test of the handler is turned into `Paired` once (`offerAllowed_iff`); behind it the handler is
computed through in both outcomes (`offer_of_allowed`, `offer_of_refused`). What reaches a connection is
`output_offer`: a receiver without a live handle is sent nothing.
-/

namespace DeskServer

open Bytes

namespace TransmissionManager

/-- One of the two hosts the transmission, the other one is its guest. -/
def Paired (s : TransmissionManager) (t u r : Bytes) : Prop :=
  (s.transmissionHostIdList[t]? = some u ∧ r ∈ s.guestsOf t) ∨
  (s.transmissionHostIdList[t]? = some r ∧ u ∈ s.guestsOf t)

end TransmissionManager

namespace SignalServer

open TransmissionManager

variable {sha256 : Digest} {server : SignalServer} {env env' : Env} {hdl : ConnectionHdl} {j : Json}
  {t u r sdp : Bytes}

/-! ## The calls of `Issue` -/

/-- The users `AddTurnCredentials` calls `Issue` for. -/
def turnCredentialsIssuedTo (env : Env) (userId : Bytes) : List Bytes :=
  if userId = [] then []
  else if env.iceConfigIssuer.isSome || env.turnCredentialIssuer.isSome then [userId]
  else []

/-- The users `AddConnectionIceConfig` calls `Issue` for. -/
def connectionIceConfigIssuedTo (env : Env) (userId : Bytes) : List Bytes :=
  if env.iceConfigIssuer.isSome then [userId] else turnCredentialsIssuedTo env userId

/-- The users `offer` calls `Issue` for. -/
def offerIssuedTo (server : SignalServer) (env : Env) (hdl : ConnectionHdl) (j : Json) : List Bytes :=
  match j.stringField (bytes "transmission_id"), j.stringField (bytes "remote_user_id"),
    j.stringField (bytes "user_id") with
  | some transmissionId, some remoteUserId, some userId =>
    if !server.offerAllowed hdl transmissionId remoteUserId userId then []
    else if (j.stringField (bytes "sdp")).isSome then connectionIceConfigIssuedTo env remoteUserId
    else []
  | _, _, _ => []

/-- Two worlds that differ only in what is issued for users outside `users`. -/
structure SameIssue (users : List Bytes) (env env' : Env) : Prop where
  others : env' = { env with
    iceConfigIssuer := env'.iceConfigIssuer
    turnCredentialIssuer := env'.turnCredentialIssuer }
  iceConfigured : env'.iceConfigIssuer.isSome = env.iceConfigIssuer.isSome
  turnConfigured : env'.turnCredentialIssuer.isSome = env.turnCredentialIssuer.isSome
  ice : ∀ v ∈ users, (env'.iceConfigIssuer.map fun issue => issue v)
    = env.iceConfigIssuer.map fun issue => issue v
  turn : ∀ v ∈ users, (env'.turnCredentialIssuer.map fun issue => issue v)
    = env.turnCredentialIssuer.map fun issue => issue v

theorem addTurnCredentials_sameIssue (h : SameIssue (turnCredentialsIssuedTo env u) env env')
    (message : Json) : addTurnCredentials env' message u = addTurnCredentials env message u := by
  by_cases hu : u = []
  · simp only [addTurnCredentials, hu, if_true]
  · have hice := h.iceConfigured
    have hturn := h.turnConfigured
    have hcall : (env.iceConfigIssuer.isSome || env.turnCredentialIssuer.isSome) = true →
        u ∈ turnCredentialsIssuedTo env u := by
      intro hsome
      rw [turnCredentialsIssuedTo, if_neg hu, if_pos hsome]
      exact List.mem_singleton_self u
    simp only [addTurnCredentials, hu, if_false]
    cases hi : env.iceConfigIssuer with
    | some issue =>
        have hsame := h.ice u (hcall (by simp [hi]))
        rw [hi] at hsame
        obtain ⟨issue', hi', heq⟩ := Option.map_eq_some_iff.mp hsame
        rw [hi']
        simp only [heq]
    | none =>
        rw [hi] at hice
        have hi' : env'.iceConfigIssuer = none := by simpa using hice
        rw [hi']
        cases ht : env.turnCredentialIssuer with
        | some issue =>
            have hsame := h.turn u (hcall (by simp [ht]))
            rw [ht] at hsame
            obtain ⟨issue', ht', heq⟩ := Option.map_eq_some_iff.mp hsame
            rw [ht']
            simp only [heq]
        | none =>
            rw [ht] at hturn
            have ht' : env'.turnCredentialIssuer = none := by simpa using hturn
            rw [ht']

theorem addConnectionIceConfig_sameIssue (h : SameIssue (connectionIceConfigIssuedTo env u) env env')
    (message : Json) : addConnectionIceConfig env' message u = addConnectionIceConfig env message u := by
  have hice := h.iceConfigured
  unfold addConnectionIceConfig
  cases hi : env.iceConfigIssuer with
  | some issue =>
      have hcall : u ∈ connectionIceConfigIssuedTo env u := by
        rw [connectionIceConfigIssuedTo, hi]
        exact List.mem_singleton_self u
      have hsame := h.ice u hcall
      rw [hi] at hsame
      obtain ⟨issue', hi', heq⟩ := Option.map_eq_some_iff.mp hsame
      rw [hi']
      simp only [heq]
  | none =>
      rw [hi] at hice
      have hi' : env'.iceConfigIssuer = none := by simpa using hice
      have hturn : SameIssue (turnCredentialsIssuedTo env u) env env' := by
        rw [connectionIceConfigIssuedTo, hi] at h
        exact h
      rw [hi']
      simp only
      rw [addTurnCredentials_sameIssue hturn]

/-- **The handler sees the issuers only at the users it calls `Issue` for.** -/
theorem offer_sameIssue (h : SameIssue (offerIssuedTo server env hdl j) env env') :
    offer server env' hdl j = offer server env hdl j := by
  unfold offer
  cases ht : j.stringField (bytes "transmission_id") with
  | none => rfl
  | some t =>
      cases hr : j.stringField (bytes "remote_user_id") with
      | none => rfl
      | some r =>
          cases hu : j.stringField (bytes "user_id") with
          | none => rfl
          | some u =>
              dsimp only
              by_cases hallowed : server.offerAllowed hdl t r u = true
              · cases hs : j.stringField (bytes "sdp") with
                | none => rfl
                | some sdp =>
                    have hissued : offerIssuedTo server env hdl j = connectionIceConfigIssuedTo env r := by
                      simp only [offerIssuedTo, ht, hr, hu, hallowed, hs, Bool.not_true,
                        Bool.false_eq_true, if_false, Option.isSome_some, if_true]
                    rw [hissued] at h
                    dsimp only
                    rw [addConnectionIceConfig_sameIssue h]
              · rw [Bool.not_eq_true] at hallowed
                rw [hallowed]
                rfl

/-! ## The test -/

theorem mem_getAllUserIdOfTransmission {s : TransmissionManager} {host x : Bytes}
    (hhost : s.transmissionHostIdList[t]? = some host) :
    x ∈ s.getAllUserIdOfTransmission t ↔ x = host ∨ x ∈ s.guestsOf t := by
  rw [getAllUserIdOfTransmission, hhost, Option.toList_some, List.mem_append, List.mem_singleton]

/-- A transmission that is not hosted has no members. -/
theorem getAllUserIdOfTransmission_unhosted {s : TransmissionManager} (hs : s.WellFormed)
    (hhost : s.transmissionHostIdList[t]? = none) : s.getAllUserIdOfTransmission t = [] := by
  have hnil : s.guestsOf t = [] := by
    by_contra hne
    obtain ⟨g, hg⟩ := List.exists_mem_of_ne_nil _ hne
    obtain ⟨host, hhost', _⟩ := hs.host_of_mem hg
    rw [hhost] at hhost'
    exact absurd hhost' (by simp)
  rw [getAllUserIdOfTransmission, hhost, hnil]
  rfl

/-- **The five comparisons are the pairing of a host with one of its guests.** -/
theorem offerAllowed_iff (hs : server.transmission.WellFormed) :
    server.offerAllowed hdl t r u = true ↔
      server.transmission.getUserId hdl = u ∧ server.transmission.Paired t u r := by
  unfold offerAllowed Paired
  simp only [Bool.and_eq_true, Bool.or_eq_true, bne_iff_ne, beq_iff_eq, List.contains_iff_mem, ne_eq]
  cases hhost : server.transmission.transmissionHostIdList[t]? with
  | none =>
      rw [getAllUserIdOfTransmission_unhosted hs hhost]
      constructor
      · rintro ⟨⟨_, hmem⟩, _⟩
        exact absurd hmem List.not_mem_nil
      · rintro ⟨_, ⟨hsome, _⟩ | ⟨hsome, _⟩⟩ <;> exact absurd hsome (by simp)
  | some host =>
      have hid : server.transmission.getHostIdOfTransmission t = host := by
        rw [getHostIdOfTransmission, hhost]; rfl
      rw [mem_getAllUserIdOfTransmission hhost, mem_getAllUserIdOfTransmission hhost, hid,
        Option.some.injEq, Option.some.injEq]
      constructor
      · rintro ⟨⟨⟨⟨hne, hone⟩, hspeaks⟩, hu⟩, hr⟩
        refine ⟨hspeaks, ?_⟩
        rcases hone with rfl | rfl
        · exact .inl ⟨rfl, hr.resolve_left (fun h => hne h.symm)⟩
        · exact .inr ⟨rfl, hu.resolve_left hne⟩
      · rintro ⟨hspeaks, hpair⟩
        -- the host is not its own guest, so the two differ
        rcases hpair with ⟨rfl, hr⟩ | ⟨rfl, hu⟩
        · obtain ⟨host', hhost', hnot⟩ := hs.host_of_mem hr
          rw [hhost] at hhost'
          obtain rfl := Option.some.inj hhost'
          refine ⟨⟨⟨⟨?_, .inl rfl⟩, hspeaks⟩, .inl rfl⟩, .inr hr⟩
          rintro rfl
          exact hnot hr
        · obtain ⟨host', hhost', hnot⟩ := hs.host_of_mem hu
          rw [hhost] at hhost'
          obtain rfl := Option.some.inj hhost'
          refine ⟨⟨⟨⟨?_, .inr rfl⟩, hspeaks⟩, .inr hu⟩, .inl rfl⟩
          rintro rfl
          exact hnot hu

/-! ## The event -/

/-- What the receiver of an offer gets, without the configuration. -/
def offerMessage (t u sdp : Bytes) : Json :=
  stringMembers [("type", bytes "offer"), ("transmission_id", t), ("remote_user_id", u), ("sdp", sdp)]

/-- An offer with its four fields. -/
structure OfferFields (j : Json) (t u r sdp : Bytes) : Prop where
  transmission : j.stringField (bytes "transmission_id") = some t
  user : j.stringField (bytes "user_id") = some u
  remote : j.stringField (bytes "remote_user_id") = some r
  sdp : j.stringField (bytes "sdp") = some sdp

theorem offer_of_allowed (hf : OfferFields j t u r sdp) (h : server.offerAllowed hdl t r u = true) :
    offer server env hdl j = ⟨true, server, [(server.transmission.getWsHandle r,
      addConnectionIceConfig env (offerMessage t u sdp) r)]⟩ := by
  simp only [offer, hf.transmission, hf.user, hf.remote, hf.sdp, h, Bool.not_true, Bool.false_eq_true,
    if_false, sendToUser, sendMsg, offerMessage]

theorem offer_of_refused (hf : OfferFields j t u r sdp) (h : server.offerAllowed hdl t r u = false) :
    offer server env hdl j = ⟨false, server, []⟩ := by
  simp only [offer, hf.transmission, hf.user, hf.remote, h, Bool.not_false, if_true]

/-- The offer is dispatched. -/
theorem react_offer {connection : Connection} {payload : Option Json}
    (hp : payloadType payload = some (j, .offer)) (env : Env) :
    server.react sha256 env (.message connection payload) = (offer server env connection j).outcome := by
  show server.onMessage sha256 env connection payload = _
  unfold onMessage
  rw [hp]
  rfl

/-- **What is delivered of an offer**: the one message, when the offer is authorised and its receiver has a
    handle that is alive. Without one nothing reaches anybody, though credentials are issued for the receiver. -/
theorem output_offer (h : Reachable sha256 server) (env : Env) {connection : Connection}
    {payload : Option Json} (hp : payloadType payload = some (j, .offer)) (hf : OfferFields j t u r sdp) :
    ((server.transmission.getUserId connection = u ∧ server.transmission.Paired t u r) ∧
        isExpired env (server.transmission.getWsHandle r) = false →
      server.output sha256 (env, .message connection payload)
        = [(server.transmission.getWsHandle r, addConnectionIceConfig env (offerMessage t u sdp) r)]) ∧
    (¬ ((server.transmission.getUserId connection = u ∧ server.transmission.Paired t u r) ∧
        isExpired env (server.transmission.getWsHandle r) = false) →
      server.output sha256 (env, .message connection payload) = []) := by
  have hiff : server.offerAllowed connection t r u = true ↔
      server.transmission.getUserId connection = u ∧ server.transmission.Paired t u r :=
    offerAllowed_iff h.sound.wellFormed
  rw [← hiff]
  unfold output
  rw [react_offer hp]
  cases hallowed : server.offerAllowed connection t r u with
  | false =>
      rw [offer_of_refused hf hallowed]
      exact ⟨fun hno => absurd hno.1 Bool.false_ne_true, fun _ => rfl⟩
  | true =>
      rw [offer_of_allowed hf hallowed]
      cases hlive : isExpired env (server.transmission.getWsHandle r) with
      | false =>
          refine ⟨fun _ => ?_, fun hno => absurd ⟨rfl, rfl⟩ hno⟩
          exact List.filter_cons_of_pos (by simp [hlive])
      | true =>
          refine ⟨fun hno => absurd hno.2 (by simp), fun _ => ?_⟩
          exact List.filter_cons_of_neg (by simp [hlive])

/-- **Offer authorisation is exact.** An offer is forwarded, once, to the receiver's connection, in the
    sender's name and with a configuration issued for the receiver, when the connection speaks for the
    sender and the two are host and guest of the transmission; otherwise nothing is sent and nothing is
    issued. Either way nobody else's credentials have a part in it, and the server stays as it is. -/
theorem offer_authorised_iff (h : Reachable sha256 server) (env : Env) (connection : Connection)
    (payload : Option Json) (hp : payloadType payload = some (j, .offer))
    (hf : OfferFields j t u r sdp) :
    ((server.transmission.getUserId connection = u ∧ server.transmission.Paired t u r) →
      server.react sha256 env (.message connection payload)
          = (server, [(server.transmission.getWsHandle r,
              addConnectionIceConfig env (offerMessage t u sdp) r)]) ∧
        offerIssuedTo server env connection j = connectionIceConfigIssuedTo env r) ∧
    (¬ (server.transmission.getUserId connection = u ∧ server.transmission.Paired t u r) →
      server.react sha256 env (.message connection payload) = (server, []) ∧
        offerIssuedTo server env connection j = []) ∧
    ∀ env', SameIssue (offerIssuedTo server env connection j) env env' →
      server.react sha256 env' (.message connection payload)
        = server.react sha256 env (.message connection payload) := by
  have hreact : ∀ env, server.react sha256 env (.message connection payload)
      = (offer server env connection j).outcome := react_offer hp
  have hiff : server.offerAllowed connection t r u = true ↔
      server.transmission.getUserId connection = u ∧ server.transmission.Paired t u r :=
    offerAllowed_iff h.sound.wellFormed
  refine ⟨fun hpaired => ?_, fun hnot => ?_, fun env' hsame => ?_⟩
  · have hallowed := hiff.mpr hpaired
    refine ⟨by rw [hreact, offer_of_allowed hf hallowed]; rfl, ?_⟩
    simp only [offerIssuedTo, hf.transmission, hf.user, hf.remote, hf.sdp, hallowed, Bool.not_true,
      Bool.false_eq_true, if_false, Option.isSome_some, if_true]
  · have hrefused : server.offerAllowed connection t r u = false := by
      rw [← Bool.not_eq_true, hiff]
      exact hnot
    refine ⟨by rw [hreact, offer_of_refused hf hrefused]; rfl, ?_⟩
    simp only [offerIssuedTo, hf.transmission, hf.user, hf.remote, hrefused, Bool.not_false, if_true]
  · rw [hreact, hreact, offer_sameIssue hsame]

/-- The guest of the joined session offers to its host. -/
def guestOffer : Json :=
  stringMembers [("type", bytes "offer"), ("transmission_id", bytes "100000000"),
    ("user_id", bytes "C-x"), ("remote_user_id", bytes "100000000"), ("sdp", bytes "v=0")]

theorem guestOffer_forwarded :
    joined.react sampleDigest (.still 8) (.message 2 (some guestOffer))
      = (joined, [(1, addConnectionIceConfig (.still 8)
          (offerMessage (bytes "100000000") (bytes "C-x") (bytes "v=0")) (bytes "100000000"))]) := by
  have hsent := ((offer_authorised_iff joined_reachable (.still 8) 2 (some guestOffer) rfl
    ⟨rfl, rfl, rfl, rfl⟩).1 ⟨by decide, .inr ⟨by decide, by decide⟩⟩).1
  rw [show joined.transmission.getWsHandle (bytes "100000000") = 1 by decide] at hsent
  exact hsent

end SignalServer
end DeskServer
