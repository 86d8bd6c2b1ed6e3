import DeskServer.Lib.Run
import DeskServer.Server.StaleIdentity
import DeskServer.Transmission.Departures

/-!
# `Server.Relay` — messages that speak for somebody else

An offer is passed on when its connection speaks for the sender and both ends are members of the
transmission, one of them its host. Answers, candidates and leaves name a sender and a transmission as
well, and are carried out whatever they name. They stay within what an offer may do exactly as long as
they would have passed its check, or can reach nobody.

**Shape.** The four messages that are passed on share one form (`Relays`), and the leave is treated apart: it
is harmless when nobody hears it (`leaveTransmission_silent_iff`). One step is decided exactly
(`ActsForSender.checked`, `SenderChecked.acts`), and `Lib.Run` carries that over to runs. Whether the payload
of a message is sensible is not looked at.
-/

namespace DeskServer
namespace SignalServer

open Bytes TransmissionManager

/-! ## What a sender may do -/

/-- The messages passed on to the peer they name, less the offer. -/
def relayed : MessageType → Bool
  | .answer | .newCandidate | .newCandidateMid => true
  | _ => false

/-- The connection is authenticated as the user the message names. -/
def SpeaksFor (server : SignalServer) (hdl : ConnectionHdl) (j : Json) : Prop :=
  ∃ userId, j.stringField (bytes "user_id") = some userId ∧
    server.transmission.Authenticated hdl userId

/-- Both are members of the transmission, and one of them is its host. -/
structure Peers (s : TransmissionManager) (transmissionId userId remoteUserId : Bytes) : Prop where
  sender : userId ∈ s.getAllUserIdOfTransmission transmissionId
  receiver : remoteUserId ∈ s.getAllUserIdOfTransmission transmissionId
  host : s.transmissionHostIdList[transmissionId]? = some userId ∨
    s.transmissionHostIdList[transmissionId]? = some remoteUserId

/-- The tables of the manager and the persisted sessions stay as they are. -/
structure SameSessions (server server' : SignalServer) : Prop where
  transmission : server'.transmission = server.transmission
  sessions : server'.db.remoteControlSessions = server.db.remoteControlSessions

/-- **A step acts for its sender.** A message that names a user its connection does not speak for
    reaches nobody and changes no session, and a peer hears only from members of a transmission it is
    in, with the host on one side. -/
structure ActsForSender (sha256 : Digest) (server : SignalServer) (step : Step) : Prop where
  sender : ∀ (hdl : Connection) payload j type, step.2 = .message hdl payload →
    payloadType payload = some (j, type) → relayed type = true ∨ type = .userLeaveTransmission →
    ¬ SpeaksFor server hdl j →
    server.output sha256 step = [] ∧ SameSessions server (server.next sha256 step)
  peers : ∀ (hdl : Connection) payload j type t u r, step.2 = .message hdl payload →
    payloadType payload = some (j, type) → relayed type = true →
    j.stringField (bytes "transmission_id") = some t → j.stringField (bytes "user_id") = some u →
    j.stringField (bytes "remote_user_id") = some r →
    server.output sha256 step ≠ [] → Peers server.transmission t u r

/-! ## The exact condition -/

/-- The fields a handler asks for. -/
def relayFields : MessageType → List String
  | .answer => ["transmission_id", "remote_user_id", "user_id", "sdp"]
  | .newCandidate => ["transmission_id", "sdp", "user_id", "remote_user_id"]
  | .newCandidateMid => ["transmission_id", "user_id", "remote_user_id", "candidate", "mid"]
  | _ => []

/-- The handler passes the message on: every field is there, and the tag of a candidate is in order. -/
structure Accepted (type : MessageType) (j : Json) : Prop where
  fields : ∀ field ∈ relayFields type, (j.stringField (bytes field)).isSome = true
  tag : type = .answer ∨ (copyOptionalIceUfrag j (.obj [])).isSome = true

/-- A leave in the name of `u` that reaches nobody and takes nobody out. -/
structure Unheard (server : SignalServer) (env : Env) (t u : Bytes) : Prop where
  others : ∀ id ∈ server.transmission.getAllUserIdOfTransmission t, id ≠ u →
    isExpired env (server.transmission.getWsHandle id) = true
  host : server.transmission.transmissionHostIdList[t]? ≠ some u
  guest : ∀ a, u ∉ server.transmission.guestsOf a

/-- **The step would pass the check an offer passes**, or it can reach nobody. -/
structure SenderChecked (server : SignalServer) (step : Step) : Prop where
  relay : ∀ (hdl : Connection) payload j type t u r, step.2 = .message hdl payload →
    payloadType payload = some (j, type) → relayed type = true →
    j.stringField (bytes "transmission_id") = some t → j.stringField (bytes "user_id") = some u →
    j.stringField (bytes "remote_user_id") = some r → Accepted type j →
    isExpired step.1 (server.transmission.getWsHandle r) = false →
    server.transmission.Authenticated hdl u ∧ Peers server.transmission t u r
  leave : ∀ (hdl : Connection) payload j t u, step.2 = .message hdl payload →
    payloadType payload = some (j, .userLeaveTransmission) →
    j.stringField (bytes "transmission_id") = some t → j.stringField (bytes "user_id") = some u →
    server.transmission.Authenticated hdl u ∨ Unheard server step.1 t u

variable {sha256 : Digest} {server : SignalServer} {env : Env} {hdl : ConnectionHdl} {j : Json}
  {type : MessageType} {step : Step}

/-! ## A relayed message -/

/-- Whether the tag is copied depends on the message it comes from alone. -/
theorem copyOptionalIceUfrag_isSome (source destination destination' : Json) :
    (copyOptionalIceUfrag source destination).isSome
      = (copyOptionalIceUfrag source destination').isSome := by
  unfold copyOptionalIceUfrag
  split
  · rfl
  · split
    · rfl
    · split <;> rfl

/-- **What becomes of a relayed message**: it goes to the connection of its receiver when it is accepted,
    and is dropped otherwise. -/
def Relays (server : SignalServer) (type : MessageType) (j : Json)
    (sent : List (ConnectionHdl × Json)) : Prop :=
  (Accepted type j ∧ ∃ r message, j.stringField (bytes "remote_user_id") = some r ∧
    sent = [(server.transmission.getWsHandle r, message)]) ∨ (¬ Accepted type j ∧ sent = [])

/-- A message without one of its fields is dropped. -/
theorem Relays.dropped (field : String) (hfield : field ∈ relayFields type)
    (hnone : j.stringField (bytes field) = none) : Relays server type j [] := by
  refine .inr ⟨fun h => ?_, rfl⟩
  have hsome := h.fields field hfield
  rw [hnone] at hsome
  exact absurd hsome (by decide)

/-- A candidate with all its fields goes out when its tag is in order. -/
theorem relayCandidate_relays {r : Bytes} (message : Json) (htype : type ≠ .answer)
    (hfields : ∀ field ∈ relayFields type, (j.stringField (bytes field)).isSome = true)
    (hr : j.stringField (bytes "remote_user_id") = some r) :
    Relays server type j (relayCandidate server j r message).sent := by
  -- whether the tag is in order does not depend on the message it is copied to
  have htag := copyOptionalIceUfrag_isSome j (.obj []) message
  unfold relayCandidate
  cases hcopy : copyOptionalIceUfrag j message with
  | none =>
      rw [hcopy] at htag
      refine .inr ⟨fun h => ?_, rfl⟩
      rcases h.tag with hanswer | hsome
      · exact htype hanswer
      · rw [htag] at hsome; exact absurd hsome (by decide)
  | some tagged =>
      rw [hcopy] at htag
      exact .inl ⟨⟨hfields, .inr htag⟩, r, tagged, hr, rfl⟩

theorem answer_relays (server : SignalServer) (j : Json) :
    Relays server .answer j (answer server j).sent := by
  unfold answer
  cases ht : j.stringField (bytes "transmission_id") with
  | none => exact .dropped "transmission_id" (by decide) ht
  | some t =>
  cases hr : j.stringField (bytes "remote_user_id") with
  | none => exact .dropped "remote_user_id" (by decide) hr
  | some r =>
  cases hu : j.stringField (bytes "user_id") with
  | none => exact .dropped "user_id" (by decide) hu
  | some u =>
  cases hs : j.stringField (bytes "sdp") with
  | none => exact .dropped "sdp" (by decide) hs
  | some sdp =>
      refine .inl ⟨⟨?_, .inl rfl⟩, r, _, hr, rfl⟩
      simp [relayFields, ht, hr, hu, hs]

theorem newCandidate_relays (server : SignalServer) (j : Json) :
    Relays server .newCandidate j (newCandidate server j).sent := by
  unfold newCandidate
  cases ht : j.stringField (bytes "transmission_id") with
  | none => exact .dropped "transmission_id" (by decide) ht
  | some t =>
  cases hs : j.stringField (bytes "sdp") with
  | none => exact .dropped "sdp" (by decide) hs
  | some sdp =>
  cases hu : j.stringField (bytes "user_id") with
  | none => exact .dropped "user_id" (by decide) hu
  | some u =>
  cases hr : j.stringField (bytes "remote_user_id") with
  | none => exact .dropped "remote_user_id" (by decide) hr
  | some r =>
      exact relayCandidate_relays _ (by decide) (by simp [relayFields, ht, hs, hu, hr]) hr

theorem newCandidateMid_relays (server : SignalServer) (j : Json) :
    Relays server .newCandidateMid j (newCandidateMid server j).sent := by
  unfold newCandidateMid
  cases ht : j.stringField (bytes "transmission_id") with
  | none => exact .dropped "transmission_id" (by decide) ht
  | some t =>
  cases hu : j.stringField (bytes "user_id") with
  | none => exact .dropped "user_id" (by decide) hu
  | some u =>
  cases hr : j.stringField (bytes "remote_user_id") with
  | none => exact .dropped "remote_user_id" (by decide) hr
  | some r =>
  cases hc : j.stringField (bytes "candidate") with
  | none => exact .dropped "candidate" (by decide) hc
  | some candidate =>
  cases hm : j.stringField (bytes "mid") with
  | none => exact .dropped "mid" (by decide) hm
  | some mid =>
      exact relayCandidate_relays _ (by decide) (by simp [relayFields, ht, hu, hr, hc, hm]) hr

/-- **A relayed message changes nothing**, and goes to its receiver alone. -/
theorem handleMessage_relayed (sha256 : Digest) (server : SignalServer) (env : Env)
    (hdl : ConnectionHdl) (j : Json) (htype : relayed type = true) :
    (server.handleMessage sha256 env hdl j type).1 = server ∧
      Relays server type j (server.handleMessage sha256 env hdl j type).2 := by
  cases type with
  | answer => exact ⟨answer_server, answer_relays server j⟩
  | newCandidate => exact ⟨newCandidate_server, newCandidate_relays server j⟩
  | newCandidateMid => exact ⟨newCandidateMid_server, newCandidateMid_relays server j⟩
  | ping | login | userLeaveTransmission | queryUserIdList | joinTransmission | offer | changePassword
  | turnCredentials | clientInfo | recentConnectionsPresence => exact absurd htype (by decide)

/-! ## A leave -/

/-- A guest that is in no list is taken out of none. -/
theorem releaseGuestFromTransmission_absent {s : TransmissionManager} {u : Bytes}
    (h : ∀ t, u ∉ s.guestsOf t) :
    (s.releaseGuestFromTransmission u).tm = s ∧ (s.releaseGuestFromTransmission u).events = [] := by
  -- an empty list and a missing one read alike through `guestsOf`, but not in the table
  have hlist : ∀ (t : Bytes) guests, s.transmissionGuestIdList[t]? = some guests → u ∉ guests := by
    intro t guests hg
    have := h t
    rwa [guestsOf_of_some hg] at this
  constructor
  · have hsame : (s.releaseGuestFromTransmission u).tm.transmissionGuestIdList
        = s.transmissionGuestIdList := by
      apply Std.ExtTreeMap.ext_getElem?
      intro t
      unfold releaseGuestFromTransmission
      simp only [Std.ExtTreeMap.getElem?_rewrite]
      cases hg : s.transmissionGuestIdList[t]? with
      | none => rfl
      | some guests => rw [Option.bind_some, if_neg (hlist t guests hg)]
    show { s with transmissionGuestIdList :=
      (s.releaseGuestFromTransmission u).tm.transmissionGuestIdList } = s
    rw [hsame]
  · unfold releaseGuestFromTransmission
    simp only
    rw [List.flatMap_eq_nil_iff]
    intro entry hentry
    rw [if_neg (hlist _ _ (Std.ExtTreeMap.mem_toList.mp hentry))]
    rfl

/-- A guest that leaves is in no list afterwards. -/
theorem releaseGuestFromTransmission_not_mem (s : TransmissionManager) (u t : Bytes) :
    u ∉ (s.releaseGuestFromTransmission u).tm.guestsOf t := by
  rw [releaseGuestFromTransmission_guestsOf, List.mem_filter]
  intro hin
  exact absurd rfl (of_decide_eq_true hin.2)

/-- What the others are told of a leave. -/
def leaveMessage (t u : Bytes) : Json :=
  stringMembers [("type", bytes "user_leave_transmission"), ("transmission_id", t), ("user_id", u)]

/-- What a leave sends out, for the fields it names. -/
theorem leaveTransmission_sent (server : SignalServer) (env : Env) {t u : Bytes}
    (ht : j.stringField (bytes "transmission_id") = some t)
    (hu : j.stringField (bytes "user_id") = some u) :
    (leaveTransmission server env j).sent
      = (server.transmission.getAllUserIdOfTransmission t |>.filter fun id => id ≠ u).map
        fun id => (server.transmission.getWsHandle id, leaveMessage t u) := by
  unfold leaveTransmission
  rw [ht, hu]
  simp only
  have hsent : ∀ (ids : List Bytes) (message : Json),
      ids.flatMap (fun id => server.sendToUser (id, message))
        = ids.map fun id => (server.transmission.getWsHandle id, message) := by
    intro ids message
    induction ids with
    | nil => rfl
    | cons id ids ih =>
        rw [List.flatMap_cons, ih]
        rfl
  split <;> exact hsent _ _

/-- A leave reaches nobody when everybody else in the transmission is gone. -/
theorem leaveTransmission_silent_iff {t u : Bytes}
    (ht : j.stringField (bytes "transmission_id") = some t)
    (hu : j.stringField (bytes "user_id") = some u) :
    delivered env (leaveTransmission server env j).sent = [] ↔
      ∀ id ∈ server.transmission.getAllUserIdOfTransmission t, id ≠ u →
        isExpired env (server.transmission.getWsHandle id) = true := by
  rw [leaveTransmission_sent server env ht hu, delivered, List.filter_eq_nil_iff]
  constructor
  · intro h id hid hne
    have := h (server.transmission.getWsHandle id, leaveMessage t u)
      (List.mem_map.mpr ⟨id, List.mem_filter.mpr ⟨hid, by simpa using hne⟩, rfl⟩)
    simpa using this
  · intro h p hp
    obtain ⟨id, hid, rfl⟩ := List.mem_map.mp hp
    obtain ⟨hmem, hne⟩ := List.mem_filter.mp hid
    simpa using h id hmem (by simpa using hne)

/-- The host leaves, and its transmission with it. -/
theorem leaveTransmission_of_host (env : Env) {t u : Bytes}
    (ht : j.stringField (bytes "transmission_id") = some t)
    (hu : j.stringField (bytes "user_id") = some u)
    (hhost : server.transmission.transmissionHostIdList[t]? = some u) :
    (leaveTransmission server env j).server.transmission.transmissionHostIdList[t]? = none := by
  unfold leaveTransmission
  simp only [ht, hu, isHostOfTransmission, hhost, beq_self_eq_true, if_true]
  show (server.transmission.releaseTransmission t).tm.transmissionHostIdList[t]? = none
  simp [releaseTransmission]

/-- Anybody else leaves as a guest, whatever transmission it is in. -/
theorem leaveTransmission_of_guest {t u : Bytes}
    (ht : j.stringField (bytes "transmission_id") = some t)
    (hu : j.stringField (bytes "user_id") = some u)
    (hhost : server.transmission.transmissionHostIdList[t]? ≠ some u) :
    (leaveTransmission server env j).server
      = server.settle env.now (server.transmission.releaseGuestFromTransmission u) := by
  have hnot : server.transmission.isHostOfTransmission u t = false := by
    unfold isHostOfTransmission
    cases hh : server.transmission.transmissionHostIdList[t]? with
    | none => rfl
    | some host =>
        rw [hh] at hhost
        simpa using hhost
  unfold leaveTransmission
  simp only [ht, hu, hnot]
  rfl

/-- **A leave nobody hears of**: nothing goes out and no session changes exactly when it is unheard. -/
theorem leaveTransmission_unheard {t u : Bytes}
    (ht : j.stringField (bytes "transmission_id") = some t)
    (hu : j.stringField (bytes "user_id") = some u) :
    (delivered env (leaveTransmission server env j).sent = [] ∧
      SameSessions server (leaveTransmission server env j).server) ↔ Unheard server env t u := by
  rw [leaveTransmission_silent_iff ht hu]
  constructor
  · rintro ⟨hothers, hsame⟩
    have hhost : server.transmission.transmissionHostIdList[t]? ≠ some u := by
      intro hhost
      have herased := leaveTransmission_of_host env ht hu hhost
      rw [hsame.transmission, hhost] at herased
      exact absurd herased (by simp)
    refine ⟨hothers, hhost, fun a ha => ?_⟩
    have htm := hsame.transmission
    rw [leaveTransmission_of_guest ht hu hhost] at htm
    apply releaseGuestFromTransmission_not_mem server.transmission u a
    rw [show (server.transmission.releaseGuestFromTransmission u).tm = server.transmission from htm]
    exact ha
  · intro h
    obtain ⟨htm, hevents⟩ := releaseGuestFromTransmission_absent h.guest
    rw [leaveTransmission_of_guest ht hu h.host]
    refine ⟨h.others, htm, ?_⟩
    unfold settle
    rw [hevents]
    rfl

/-! ## One step -/

/-- What a message does, once its type is known. -/
theorem react_message {hdl : Connection} {payload : Option Json} {e : Event}
    (he : e = .message hdl payload) (hp : payloadType payload = some (j, type)) :
    server.react sha256 env e = server.handleMessage sha256 env hdl j type := by
  subst he
  show server.onMessage sha256 env hdl payload = _
  unfold onMessage
  rw [hp]

theorem next_message {hdl : Connection} {payload : Option Json} {e : Event}
    (he : e = .message hdl payload) (hp : payloadType payload = some (j, type)) :
    server.next sha256 (env, e) = (server.handleMessage sha256 env hdl j type).1 :=
  congrArg Prod.fst (react_message he hp)

theorem output_message {hdl : Connection} {payload : Option Json} {e : Event}
    (he : e = .message hdl payload) (hp : payloadType payload = some (j, type)) :
    server.output sha256 (env, e) = delivered env (server.handleMessage sha256 env hdl j type).2 :=
  congrArg (fun reaction => delivered env (Prod.snd reaction)) (react_message he hp)

/-- A relayed message reaches somebody exactly when it is accepted and its receiver is there. -/
theorem Relays.delivered_ne_nil {sent : List (ConnectionHdl × Json)} {r : Bytes}
    (h : Relays server type j sent) (hr : j.stringField (bytes "remote_user_id") = some r) :
    delivered env sent ≠ [] ↔
      Accepted type j ∧ isExpired env (server.transmission.getWsHandle r) = false := by
  rcases h with ⟨haccepted, r', message, hr', rfl⟩ | ⟨hrefused, rfl⟩
  · rw [hr] at hr'
    obtain rfl := Option.some.inj hr'
    unfold delivered
    cases hexp : isExpired env (server.transmission.getWsHandle r) <;> simp [hexp, haccepted]
  · simp [delivered, hrefused]

/-- Every field of a relayed message is one it asks for. -/
theorem relayFields_named (htype : relayed type = true) {field : String}
    (hfield : field ∈ ["transmission_id", "user_id", "remote_user_id"]) : field ∈ relayFields type := by
  cases type <;> first | exact absurd htype (by decide) | revert field; decide

/-- A relayed message that reaches somebody has a sender, a receiver and a transmission. -/
theorem Relays.named {sent : List (ConnectionHdl × Json)} (h : Relays server type j sent)
    (htype : relayed type = true) (hsent : sent ≠ []) :
    ∃ t u r, j.stringField (bytes "transmission_id") = some t ∧ j.stringField (bytes "user_id") = some u ∧
      j.stringField (bytes "remote_user_id") = some r := by
  rcases h with ⟨haccepted, _⟩ | ⟨_, hnil⟩
  · have hfield : ∀ field ∈ ["transmission_id", "user_id", "remote_user_id"],
        ∃ value, j.stringField (bytes field) = some value := by
      intro field hfield
      exact Option.isSome_iff_exists.mp (haccepted.fields field (relayFields_named htype hfield))
    obtain ⟨t, ht⟩ := hfield "transmission_id" (by decide)
    obtain ⟨u, hu⟩ := hfield "user_id" (by decide)
    obtain ⟨r, hr⟩ := hfield "remote_user_id" (by decide)
    exact ⟨t, u, r, ht, hu, hr⟩
  · exact absurd hnil hsent

/-- A connection that is not authenticated as the user a message names does not speak for it. -/
theorem not_speaksFor {u : Bytes} (hu : j.stringField (bytes "user_id") = some u)
    (hauth : ¬ server.transmission.Authenticated hdl u) : ¬ SpeaksFor server hdl j := by
  rintro ⟨u', hu', ha⟩
  rw [hu] at hu'
  exact hauth (Option.some.inj hu' ▸ ha)

/-- A leave without its fields is ignored. -/
theorem leaveTransmission_unfielded (server : SignalServer) (env : Env)
    (h : ∀ t u, j.stringField (bytes "transmission_id") = some t →
      j.stringField (bytes "user_id") ≠ some u) :
    (leaveTransmission server env j).sent = [] ∧
      (leaveTransmission server env j).server = server := by
  unfold leaveTransmission
  split
  · rename_i t u ht hu
    exact absurd hu (h t u ht)
  · exact ⟨rfl, rfl⟩

/-- A step that acts for its sender would pass the check of an offer. -/
theorem ActsForSender.checked (h : ActsForSender sha256 server step) : SenderChecked server step := by
  obtain ⟨env, e⟩ := step
  refine ⟨fun hdl payload j type t u r he hp htype ht hu hr haccepted hthere => ?_,
    fun hdl payload j t u he hp ht hu => ?_⟩
  · obtain ⟨_, hrelays⟩ := handleMessage_relayed sha256 server env hdl j htype
    have hout : server.output sha256 (env, e) ≠ [] := by
      rw [output_message he hp]
      exact (hrelays.delivered_ne_nil hr).mpr ⟨haccepted, hthere⟩
    refine ⟨?_, h.peers hdl payload j type t u r he hp htype ht hu hr hout⟩
    -- the message went out, so its connection speaks for the sender
    by_contra hauth
    exact hout (h.sender hdl payload j type he hp (.inl htype) (not_speaksFor hu hauth)).1
  · by_cases hauth : server.transmission.Authenticated hdl u
    · exact .inl hauth
    · right
      obtain ⟨hout, hsame⟩ := h.sender hdl payload j _ he hp (.inr rfl) (not_speaksFor hu hauth)
      rw [output_message he hp] at hout
      rw [next_message he hp] at hsame
      exact (leaveTransmission_unheard ht hu).mp ⟨hout, hsame⟩

/-- A leave whose connection does not speak for its user is heard by nobody, if it is checked. -/
theorem SenderChecked.leave_silent {hdl : Connection} {payload : Option Json} {e : Event}
    (h : SenderChecked server (env, e)) (he : e = .message hdl payload)
    (hp : payloadType payload = some (j, .userLeaveTransmission)) (hnot : ¬ SpeaksFor server hdl j) :
    delivered env (leaveTransmission server env j).sent = [] ∧
      SameSessions server (leaveTransmission server env j).server := by
  by_cases hfields : ∃ t u, j.stringField (bytes "transmission_id") = some t ∧
      j.stringField (bytes "user_id") = some u
  · obtain ⟨t, u, ht, hu⟩ := hfields
    apply (leaveTransmission_unheard ht hu).mpr
    rcases h.leave hdl payload j t u he hp ht hu with hauth | hunheard
    · exact absurd ⟨u, hu, hauth⟩ hnot
    · exact hunheard
  · obtain ⟨hsent, hserver⟩ := leaveTransmission_unfielded server env
      fun t u ht hu => hfields ⟨t, u, ht, hu⟩
    rw [hsent, hserver]
    exact ⟨rfl, rfl, rfl⟩

/-- And a step that would pass it acts for its sender. -/
theorem SenderChecked.acts (h : SenderChecked server step) : ActsForSender sha256 server step := by
  obtain ⟨env, e⟩ := step
  refine ⟨fun hdl payload j type he hp htype hnot => ?_,
    fun hdl payload j type t u r he hp htype ht hu hr hout => ?_⟩
  · rw [output_message he hp, next_message he hp]
    rcases htype with htype | rfl
    · obtain ⟨hsame, hrelays⟩ := handleMessage_relayed sha256 server env hdl j htype
      refine ⟨?_, by rw [hsame]; exact ⟨rfl, rfl⟩⟩
      by_contra hsent
      obtain ⟨t, u, r, ht, hu, hr⟩ := hrelays.named htype fun hnil => hsent (by rw [hnil]; rfl)
      obtain ⟨haccepted, hthere⟩ := (hrelays.delivered_ne_nil hr).mp hsent
      obtain ⟨hauth, _⟩ := h.relay hdl payload j type t u r he hp htype ht hu hr haccepted hthere
      exact hnot ⟨u, hu, hauth⟩
    · exact h.leave_silent he hp hnot
  · obtain ⟨_, hrelays⟩ := handleMessage_relayed sha256 server env hdl j htype
    rw [output_message he hp] at hout
    obtain ⟨haccepted, hthere⟩ := (hrelays.delivered_ne_nil hr).mp hout
    exact (h.relay hdl payload j type t u r he hp htype ht hu hr haccepted hthere).2

/-! ## Runs -/

/-- **Signalling for the authenticated sender, exactly.** Every step of a run from a start acts for its
    sender if and only if every relayed message and every leave that reaches somebody, or takes
    somebody out, is one the check of an offer would have let through. -/
theorem actsForSender_everyStep_iff (sha256 : Digest) (now : Int) (db : DeviceDB)
    (steps : List Step) :
    Run.EveryStep (next sha256) (ActsForSender sha256) (start now db) steps ↔
      Run.EveryStep (next sha256) SenderChecked (start now db) steps :=
  Run.everyStep_congr (I := fun _ => True) (fun _ _ _ => trivial)
    (fun _ _ _ => ⟨ActsForSender.checked, SenderChecked.acts⟩) trivial steps

/-- One connection logs in as `C-a`; another, which never logged in, answers `C-a` in the name of
    `C-b`. -/
def forgedAnswerRun : List Step :=
  [(.still 0, .message 1 (some (loginMessage (bytes "C-a")))),
    (.still 1, .message 3 (some (stringMembers [("type", bytes "answer"),
      ("transmission_id", bytes "t"), ("user_id", bytes "C-b"), ("remote_user_id", bytes "C-a"),
      ("sdp", bytes "x")])))]

/-- Whatever the digest, the forged answer is delivered. -/
theorem forgedAnswerRun_delivered : ¬ ∃ sha256 : Digest,
    Run.EveryStep (next sha256) (ActsForSender sha256) (start 0 DeviceDB.newFile) forgedAnswerRun := by
  rintro ⟨sha256, h⟩
  have hforged := h.2.1
  -- connection 3 is in no table
  have hnobody : ((start 0 DeviceDB.newFile).next sha256
      (.still 0, .message 1 (some (loginMessage (bytes "C-a"))))).transmission.wsHdlUserIdList[
        (3 : ConnectionHdl)]? = none := by rfl
  have hsilent := (hforged.sender 3 _ _ .answer rfl (by rfl) (.inl rfl) (by
    rintro ⟨u, _, ha⟩
    rw [Authenticated] at ha
    have := ha.symm.trans hnobody
    exact absurd this (by simp))).1
  -- the forged answer is one message, to the connection of `C-a`
  exact absurd (show 1 = 0 from congrArg List.length hsilent) (by decide)

end SignalServer
end DeskServer
