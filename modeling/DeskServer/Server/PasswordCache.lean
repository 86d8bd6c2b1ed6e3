import DeskServer.Database.Credentials
import DeskServer.Lib.Eviction
import DeskServer.Server.CredentialIntegrity

/-!
# `Server.PasswordCache` — a password change is carried out once

`change_password` remembers what it answered under a key made of the identity and the request id, in a
map with a queue beside it that drops the oldest keys. Both are described here by the history: the log of
the changes carried out, of which they hold the latest. A request whose key is remembered is answered from
the map, and the device table is left as it is.

**Shape.** `Remembers` says that map and queue hold the latest of the log, an instance of `Lib.Eviction`. A
message either adds one change to the log or is answered from it (`changesOf_snoc`), the other events leave
both alone (`next_sameResults`), so that the statement about a run is an induction. It speaks of keys that are
still remembered.
-/

namespace DeskServer
namespace SignalServer

open Bytes DeviceDB PresenceManager

/-! ## Requests -/

/-- A `change_password` message that is looked up among the remembered results. -/
structure PasswordRequest where
  userId : Bytes
  requestId : Bytes
  newPassword : Bytes
deriving DecidableEq

namespace PasswordRequest

def cacheKey (r : PasswordRequest) : Bytes := passwordChangeKey r.userId r.requestId

/-- The reply before its status is set. -/
def message (r : PasswordRequest) : Json :=
  ((stringMembers [("type", bytes "change_password")]).set (bytes "request_id") (.str r.requestId)).set
    (bytes "user_id") (.str r.userId)

/-- The reply once the update has been made. -/
def successReply (r : PasswordRequest) : Json := r.message.set (bytes "status") (.str (bytes "success"))

/-- What is remembered of the change. -/
def result (sha256 : Digest) (r : PasswordRequest) : PasswordChangeResult :=
  ⟨passwordFingerprint sha256 r.newPassword, r.successReply⟩

/-- The log entry of the change. -/
def entry (sha256 : Digest) (r : PasswordRequest) : Bytes × PasswordChangeResult :=
  (r.cacheKey, r.result sha256)

end PasswordRequest

/-- The request of a message: a valid id, from an identity with a persisted password, and six bytes. -/
def passwordRequest (server : SignalServer) (hdl : ConnectionHdl) (j : Json) : Option PasswordRequest :=
  let userId := server.transmission.getUserId hdl
  if userId = [] ∨ temporaryIdentity userId = true then none
  else
    ((j.stringField (bytes "request_id")).filter validRequestId).bind fun requestId =>
      ((j.stringField (bytes "new_password")).filter fun p => p.length == 6).map fun newPassword =>
        ⟨userId, requestId, newPassword⟩

/-- The request of a message, if it is new and the row can be written. -/
def carriedOut (server : SignalServer) (env : Env) (hdl : ConnectionHdl) (j : Json) :
    Option PasswordRequest :=
  (server.passwordRequest hdl j).filter fun r =>
    (server.passwordChangeResults[r.cacheKey]?).isNone && !env.updateFails

/-- The password change an event carries out. -/
def changeOf (server : SignalServer) (step : Step) : Option PasswordRequest :=
  match step.2 with
  | .message hdl payload =>
    match payloadType payload with
    | some (j, .changePassword) => server.carriedOut step.1 hdl j
    | _ => none
  | _ => none

/-- The password changes of a run, in order. -/
def changesOf (sha256 : Digest) (server : SignalServer) : List Step → List PasswordRequest
  | [] => []
  | step :: steps => (server.changeOf step).toList ++ changesOf sha256 (server.next sha256 step) steps

/-! ## One message -/

variable {sha256 : Digest} {server server' : SignalServer} {env : Env} {hdl : ConnectionHdl} {j : Json}
  {r : PasswordRequest}

theorem failed_status (message : Json) (reason : String) :
    (failed message reason).stringField (bytes "status") = some (bytes "fail") := by
  rw [failed, Json.stringField_set_of_ne _ _ (by decide), Json.stringField, Json.find_set, if_pos rfl]
  rfl

/-- A message that makes no request is refused. -/
theorem changePassword_of_none (sha256 : Digest) (env : Env)
    (hr : server.passwordRequest hdl j = none) :
    ∃ message reason, changePassword sha256 server env hdl j
      = ⟨true, server, sendMsg hdl (failed message reason)⟩ := by
  unfold changePassword
  simp only
  cases hreq : (j.stringField (bytes "request_id")).filter validRequestId with
  | none => exact ⟨_, _, rfl⟩
  | some requestId =>
      simp only
      by_cases huser : server.transmission.getUserId hdl = []
      · rw [if_pos huser]
        exact ⟨_, _, rfl⟩
      · rw [if_neg huser]
        by_cases htemp : temporaryIdentity (server.transmission.getUserId hdl) = true
        · rw [if_pos htemp]
          exact ⟨_, _, rfl⟩
        · rw [if_neg htemp]
          cases hnew : (j.stringField (bytes "new_password")).filter fun p => p.length == 6 with
          | none => exact ⟨_, _, rfl⟩
          | some newPassword =>
              have hsome : server.passwordRequest hdl j
                  = some ⟨server.transmission.getUserId hdl, requestId, newPassword⟩ := by
                rw [passwordRequest, if_neg (not_or.mpr ⟨huser, htemp⟩), hreq, hnew]
                rfl
              rw [hr] at hsome
              exact absurd hsome (by simp)

/-- What a request says of the message. -/
theorem passwordRequest_eq_some (hr : server.passwordRequest hdl j = some r) :
    server.transmission.getUserId hdl = r.userId ∧ r.userId ≠ [] ∧ temporaryIdentity r.userId = false ∧
      (j.stringField (bytes "request_id")).filter validRequestId = some r.requestId ∧
      ((j.stringField (bytes "new_password")).filter fun p => p.length == 6) = some r.newPassword := by
  unfold passwordRequest at hr
  simp only at hr
  split at hr
  · exact absurd hr (by simp)
  · rename_i hperm
    obtain ⟨requestId, hreq, hr⟩ := Option.bind_eq_some_iff.mp hr
    obtain ⟨newPassword, hnew, rfl⟩ := Option.map_eq_some_iff.mp hr
    rw [not_or] at hperm
    exact ⟨rfl, hperm.1, by simpa using hperm.2, hreq, hnew⟩

theorem PasswordRequest.length_newPassword (hr : server.passwordRequest hdl j = some r) :
    r.newPassword.length = 6 := by
  have hnew := (passwordRequest_eq_some hr).2.2.2.2
  simpa using (Option.filter_eq_some_iff.mp hnew).2

/-- A request is looked up among the remembered results. -/
theorem changePassword_of_some (hr : server.passwordRequest hdl j = some r) :
    changePassword sha256 server env hdl j
      = ⟨true, (applyPasswordChange sha256 server env r.message r.userId r.requestId r.newPassword).1,
          sendMsg hdl
            (applyPasswordChange sha256 server env r.message r.userId r.requestId r.newPassword).2⟩ := by
  obtain ⟨huser, hne, htemp, hreq, hnew⟩ := passwordRequest_eq_some hr
  unfold changePassword
  simp only [hreq, huser, hne, htemp, hnew, if_false, Bool.false_eq_true]
  rfl

/-- **A remembered request** is answered from memory. -/
theorem changePassword_of_remembered (hr : server.passwordRequest hdl j = some r)
    {result : PasswordChangeResult} (hc : server.passwordChangeResults[r.cacheKey]? = some result) :
    changePassword sha256 server env hdl j = ⟨true, server, sendMsg hdl
      (if result.passwordFingerprint = passwordFingerprint sha256 r.newPassword then result.response
        else failed r.message "Request ID was already used")⟩ := by
  have hc' : server.passwordChangeResults[passwordChangeKey r.userId r.requestId]? = some result := hc
  rw [changePassword_of_some hr]
  unfold applyPasswordChange
  simp only [hc']
  by_cases hsame : result.passwordFingerprint = passwordFingerprint sha256 r.newPassword
  · rw [if_neg (not_not.mpr hsame), if_pos hsame]
  · rw [if_pos hsame, if_neg hsame]

/-- A request that cannot be written is refused. -/
theorem changePassword_of_failing (hr : server.passwordRequest hdl j = some r)
    (hc : server.passwordChangeResults[r.cacheKey]? = none) (hf : env.updateFails = true) :
    changePassword sha256 server env hdl j
      = ⟨true, server, sendMsg hdl (failed r.message "Failed to update password")⟩ := by
  have hc' : server.passwordChangeResults[passwordChangeKey r.userId r.requestId]? = none := hc
  rw [changePassword_of_some hr]
  unfold applyPasswordChange
  simp only [hc', if_pos hf]
  rfl

/-- **A new request** is written, remembered and answered with success. -/
theorem changePassword_of_carriedOut (hr : server.carriedOut env hdl j = some r) :
    changePassword sha256 server env hdl j = ⟨true,
      { server with db := (updatePassword sha256 server.db env.passwordSalt r.userId
          r.newPassword).2 }.rememberPasswordChange r.cacheKey (r.result sha256),
      sendMsg hdl r.successReply⟩ := by
  obtain ⟨hreq, hnew⟩ := Option.filter_eq_some_iff.mp hr
  rw [Bool.and_eq_true, Option.isNone_iff_eq_none, Bool.not_eq_true'] at hnew
  obtain ⟨hnone, hfails⟩ := hnew
  have hc : server.passwordChangeResults[passwordChangeKey r.userId r.requestId]? = none := hnone
  rw [changePassword_of_some hreq]
  unfold applyPasswordChange
  simp only [hc, hfails, Bool.false_eq_true, if_false]
  rfl

/-- **A message that carries nothing out leaves the server as it is.** -/
theorem changePassword_of_not_carriedOut (hr : server.carriedOut env hdl j = none) :
    (changePassword sha256 server env hdl j).server = server := by
  cases hreq : server.passwordRequest hdl j with
  | none =>
      obtain ⟨_, _, h⟩ := changePassword_of_none sha256 env hreq
      rw [h]
  | some r =>
      cases hc : server.passwordChangeResults[r.cacheKey]? with
      | some result => rw [changePassword_of_remembered hreq hc]
      | none =>
          have hfails : env.updateFails = true := by
            by_contra hfails
            have hsome : server.carriedOut env hdl j = some r := by
              rw [carriedOut, hreq, Option.filter_some, if_pos]
              rw [hc, Bool.eq_false_of_not_eq_true hfails]
              rfl
            rw [hr] at hsome
            exact absurd hsome (by simp)
          rw [changePassword_of_failing hreq hc hfails]

/-- What a `change_password` message comes to as an event. -/
theorem changeOf_of_message (sha256 : Digest) (server : SignalServer) (step : Step) {hdl : Connection}
    {payload : Option Json} {j : Json} (he : step.2 = .message hdl payload)
    (hp : payloadType payload = some (j, .changePassword)) :
    server.changeOf step = server.carriedOut step.1 hdl j ∧
      server.next sha256 step = (changePassword sha256 server step.1 hdl j).server := by
  obtain ⟨env, e⟩ := step
  simp only at he
  subst he
  constructor
  · simp only [changeOf, hp]
  · simp only [next, react, onMessage, hp]
    rfl

/-! ## What the other events leave -/

/-- The remembered results and their queue are the same. -/
structure SameResults (server server' : SignalServer) : Prop where
  results : server'.passwordChangeResults = server.passwordChangeResults
  order : server'.passwordChangeResultOrder = server.passwordChangeResultOrder

theorem SameResults.refl (server : SignalServer) : SameResults server server := ⟨rfl, rfl⟩

theorem SameResults.trans {server'' : SignalServer} (h : SameResults server server')
    (h' : SameResults server' server'') : SameResults server server'' :=
  ⟨h'.results.trans h.results, h'.order.trans h.order⟩

theorem sameResults_settle {α : Type} (now : Int) (outcome : TransmissionManager.Outcome α) :
    SameResults server (server.settle now outcome) := ⟨rfl, rfl⟩

theorem loginUser_sameResults (sha256 : Digest) (server : SignalServer) (env : Env)
    (hdl : ConnectionHdl) (j : Json) :
    SameResults server (loginUser sha256 server env hdl j).server := by
  unfold loginUser loginDevice loginClone
  simp only [bindIdentity_eq, if_true]
  split
  · exact .refl _
  · split
    · split
      · exact ⟨rfl, rfl⟩
      · split <;> exact ⟨rfl, rfl⟩
    · exact ⟨rfl, rfl⟩

theorem login_sameResults (sha256 : Digest) (server : SignalServer) (env : Env) (hdl : ConnectionHdl)
    (j : Json) : SameResults server (server.login sha256 env hdl j).1 := by
  have h := loginUser_sameResults sha256 server env hdl j
  unfold login
  simp only
  split
  · exact ⟨h.results, h.order⟩
  · exact h

theorem onWebClientDisconnect_sameResults (server : SignalServer) (u : Bytes) :
    SameResults server (server.onWebClientDisconnect u) := by
  unfold onWebClientDisconnect
  simp only
  split <;> exact ⟨rfl, rfl⟩

theorem onClose_sameResults (server : SignalServer) (env : Env) (hdl : ConnectionHdl) :
    SameResults server (server.onClose env hdl).1 := by
  unfold onClose
  simp only
  split
  · have h := onWebClientDisconnect_sameResults
      { server.settle env.now (server.transmission.releaseUserSession hdl) with
        transmission := (server.settle env.now
          (server.transmission.releaseUserSession hdl)).transmission.removeWsHandleLastActiveTime hdl }
      (server.transmission.releaseUserSession hdl).ret
    exact ⟨h.results, h.order⟩
  · exact ⟨rfl, rfl⟩

theorem timedOut_sameResults (env : Env) (server : SignalServer) (hdl : ConnectionHdl) :
    SameResults server (timedOut env server hdl) := by
  unfold timedOut onSessionTimeout
  simp only
  split
  · refine SameResults.trans ?_ (onWebClientDisconnect_sameResults _ _)
    exact ⟨rfl, rfl⟩
  · exact ⟨rfl, rfl⟩

/-- Induction on the connections that time out. -/
theorem swept_sameResults (env : Env) (hdls : List ConnectionHdl) (server : SignalServer) :
    SameResults server (hdls.foldl (timedOut env) server) := by
  induction hdls generalizing server with
  | nil => exact .refl _
  | cons hdl hdls ih => exact (timedOut_sameResults env server hdl).trans (ih _)

theorem handleMessage_sameResults {type : MessageType} (htype : type ≠ .changePassword) :
    SameResults server (server.handleMessage sha256 env hdl j type).1 := by
  cases type with
  | ping => exact sameResults_settle _ _
  | login => exact login_sameResults sha256 server env hdl j
  | changePassword => exact absurd rfl htype
  | userLeaveTransmission =>
      show SameResults server (leaveTransmission server env j).server
      unfold leaveTransmission
      split
      · simp only
        split <;> exact sameResults_settle _ _
      · exact .refl _
  | joinTransmission =>
      show SameResults server (joinTransmission sha256 server env hdl j).server
      rcases joinTransmission_cases sha256 server env hdl j with h | ⟨t, u, _, h⟩
      · rw [h]; exact .refl _
      · rw [h]; exact sameResults_settle _ _
  | queryUserIdList =>
      show SameResults server (queryUserIdList sha256 server hdl j).server
      rw [queryUserIdList_server]; exact .refl _
  | offer =>
      show SameResults server (offer server env hdl j).server
      rw [offer_server]; exact .refl _
  | answer =>
      show SameResults server (answer server j).server
      rw [answer_server]; exact .refl _
  | newCandidate =>
      show SameResults server (newCandidate server j).server
      rw [newCandidate_server]; exact .refl _
  | newCandidateMid =>
      show SameResults server (newCandidateMid server j).server
      rw [newCandidateMid_server]; exact .refl _
  | turnCredentials =>
      show SameResults server (turnCredentials server env hdl).server
      rw [turnCredentials_server]; exact .refl _
  | clientInfo =>
      show SameResults server (clientInfo server env hdl j).server
      rcases clientInfo_server server env hdl j with h | ⟨userId, f, h⟩
      · rw [h]; exact .refl _
      · rw [h]; exact ⟨rfl, rfl⟩
  | recentConnectionsPresence =>
      rcases recentConnectionsPresence_server server hdl j with h | ⟨userId, deviceIds, replace, h⟩
      · rw [handleMessage, h]; exact .refl _
      · rw [handleMessage, h]; exact ⟨rfl, rfl⟩

theorem handleDisconnect_sameResults (server : SignalServer) (env : Env) (t : Bytes) :
    SameResults server (server.handleDisconnect env t).1 := by
  unfold handleDisconnect
  split
  · exact .refl _
  · simp only
    split <;> exact ⟨rfl, rfl⟩

/-- A new server remembers nothing. -/
theorem start_sameResults (now : Int) (db : DeviceDB) :
    SameResults (constructed db) (start now db) := by
  have hguests : ∀ (t : Bytes) (guests : List Bytes) (server : SignalServer),
      SameResults server (guests.foldl (restoreGuest now t) server) := by
    intro t guests
    induction guests with
    | nil => exact fun server => .refl _
    | cons g guests ih => exact fun server => (sameResults_settle now _).trans (ih _)
  have hsessions : ∀ (sessions : List RemoteControlSessionInfo) (server : SignalServer),
      SameResults server (sessions.foldl (restoreSession now) server) := by
    intro sessions
    induction sessions with
    | nil => exact fun server => .refl _
    | cons session sessions ih =>
        exact fun server => ((sameResults_settle now _).trans (hguests _ _ _)).trans (ih _)
  exact hsessions _ _

/-- **An event that carries no change out leaves the remembered results.** -/
theorem next_sameResults (sha256 : Digest) (server : SignalServer) (step : Step)
    (hnone : server.changeOf step = none) : SameResults server (server.next sha256 step) := by
  obtain ⟨env, e⟩ := step
  unfold next react
  cases e with
  | message hdl payload =>
      simp only [onMessage]
      cases hp : payloadType payload with
      | none => exact .refl _
      | some typed =>
          obtain ⟨j, type⟩ := typed
          by_cases hchange : type = .changePassword
          · subst hchange
            rw [(changeOf_of_message sha256 server (env, .message hdl payload) rfl hp).1] at hnone
            show SameResults server (changePassword sha256 server env hdl j).server
            rw [changePassword_of_not_carriedOut hnone]
            exact .refl _
          · exact handleMessage_sameResults hchange
  | close hdl => exact onClose_sameResults server env hdl
  | fail hdl => exact onClose_sameResults server env hdl
  | ping hdl => exact sameResults_settle _ _
  | pong hdl => exact sameResults_settle _ _
  | sweep =>
      simp only
      rw [sweep_eq]
      exact swept_sameResults env _ server
  | runtimeHeartbeat => exact ⟨rfl, rfl⟩
  | recoveredSessionCleanup => exact sameResults_settle _ _
  | adminDisconnect t => exact handleDisconnect_sameResults server env t

/-! ## The log of a run -/

/-- An event that carries a change out is a `change_password` message. -/
theorem changeOf_eq_some (sha256 : Digest) {step : Step} (h : server.changeOf step = some r) :
    ∃ (hdl : Connection) (payload : Option Json) (j : Json), step.2 = .message hdl payload ∧
      payloadType payload = some (j, .changePassword) ∧ server.carriedOut step.1 hdl j = some r ∧
      server.next sha256 step = (changePassword sha256 server step.1 hdl j).server := by
  obtain ⟨env, e⟩ := step
  cases e with
  | message hdl payload =>
      cases hp : payloadType payload with
      | none => simp [changeOf, hp] at h
      | some typed =>
          obtain ⟨j, type⟩ := typed
          by_cases hchange : type = .changePassword
          · subst hchange
            obtain ⟨hchange, hnext⟩ := changeOf_of_message sha256 server (env, .message hdl payload) rfl hp
            exact ⟨hdl, payload, j, rfl, hp, hchange.symm.trans h, hnext⟩
          · simp only [changeOf, hp] at h
            split at h
            · rename_i heq
              obtain ⟨_, rfl⟩ := Prod.mk.inj (Option.some.inj heq)
              exact absurd rfl hchange
            · exact absurd h (by simp)
  | _ => simp [changeOf] at h

theorem changesOf_snoc (sha256 : Digest) (server : SignalServer) (steps : List Step) (step : Step) :
    changesOf sha256 server (steps ++ [step]) = changesOf sha256 server steps ++
      ((Run.run (next sha256) server steps).changeOf step).toList := by
  induction steps generalizing server with
  | nil => simp [changesOf]
  | cons first steps ih =>
      rw [List.cons_append, changesOf, ih, changesOf, List.append_assoc]
      rfl

/-- **What is remembered is the end of the log**: the results and their queue hold the latest changes. -/
def Remembers (sha256 : Digest) (server : SignalServer) (log : List PasswordRequest) : Prop :=
  Eviction.Holds maxRememberedPasswordChanges server.passwordChangeResults
    server.passwordChangeResultOrder (log.map (PasswordRequest.entry sha256))

theorem rememberPasswordChange_results (server : SignalServer) (k : Bytes)
    (result : PasswordChangeResult) :
    (server.rememberPasswordChange k result).passwordChangeResults
      = Eviction.forget (server.passwordChangeResults.insertIfNew k result)
          ((server.passwordChangeResultOrder ++ [k]).take
            ((server.passwordChangeResultOrder ++ [k]).length - maxRememberedPasswordChanges)) := by
  simp only [rememberPasswordChange, Eviction.forget]

theorem rememberPasswordChange_order (server : SignalServer) (k : Bytes)
    (result : PasswordChangeResult) :
    (server.rememberPasswordChange k result).passwordChangeResultOrder
      = (server.passwordChangeResultOrder ++ [k]).drop
          ((server.passwordChangeResultOrder ++ [k]).length - maxRememberedPasswordChanges) := by
  simp only [rememberPasswordChange]

/-- Remembering one change grows the log by it. -/
theorem Remembers.remember {log : List PasswordRequest} (h : Remembers sha256 server log)
    (hnew : server.passwordChangeResults[r.cacheKey]? = none) (db : DeviceDB) :
    Remembers sha256 ({ server with db := db }.rememberPasswordChange r.cacheKey (r.result sha256))
      (log ++ [r]) := by
  unfold Remembers at h ⊢
  rw [rememberPasswordChange_results, rememberPasswordChange_order, List.map_append, List.map_singleton]
  exact h.remember hnew (r.result sha256)

theorem Remembers.of_same {log : List PasswordRequest} (h : Remembers sha256 server log)
    (hsame : SameResults server server') : Remembers sha256 server' log := by
  unfold Remembers
  rw [hsame.results, hsame.order]
  exact h

/-- **One event more.** -/
theorem Remembers.next {log : List PasswordRequest} (h : Remembers sha256 server log) (step : Step) :
    Remembers sha256 (server.next sha256 step) (log ++ (server.changeOf step).toList) := by
  cases hchange : server.changeOf step with
  | none =>
      rw [Option.toList_none, List.append_nil]
      exact h.of_same (next_sameResults sha256 server step hchange)
  | some r =>
      obtain ⟨hdl, payload, j, _, _, hr, hnext⟩ := changeOf_eq_some sha256 hchange
      have hnew : server.passwordChangeResults[r.cacheKey]? = none := by
        have hfilter := (Option.filter_eq_some_iff.mp hr).2
        rw [Bool.and_eq_true, Option.isNone_iff_eq_none] at hfilter
        exact hfilter.1
      rw [hnext, changePassword_of_carriedOut hr]
      exact h.remember hnew _

/-- Induction on the run. -/
theorem remembers_run (sha256 : Digest) (now : Int) (db : DeviceDB) (steps : List Step) :
    Remembers sha256 (Run.run (SignalServer.next sha256) (start now db) steps)
      (changesOf sha256 (start now db) steps) := by
  induction steps using List.reverseRecOn with
  | nil =>
      have hnew : Remembers sha256 (constructed db) [] := Eviction.Holds.empty _
      exact hnew.of_same (start_sameResults now db)
  | append_singleton steps step ih =>
      rw [changesOf_snoc, Run.run_append]
      exact ih.next step

/-! ## At most once -/

/-- The changes that are still remembered. -/
def latestChanges (log : List PasswordRequest) : List PasswordRequest :=
  Eviction.latest maxRememberedPasswordChanges log

/-- **Results and queue hold the same keys**, each once: those of the latest changes of the log. -/
structure LatestRemembered (sha256 : Digest) (server : SignalServer) (log : List PasswordRequest) :
    Prop where
  order : server.passwordChangeResultOrder = (latestChanges log).map PasswordRequest.cacheKey
  distinct : server.passwordChangeResultOrder.Nodup
  bounded : server.passwordChangeResultOrder.length ≤ maxRememberedPasswordChanges
  sameKeys : ∀ k, k ∈ server.passwordChangeResultOrder ↔
    (server.passwordChangeResults[k]?).isSome = true
  results : ∀ k result, server.passwordChangeResults[k]? = some result ↔
    ∃ r ∈ latestChanges log, r.cacheKey = k ∧ r.result sha256 = result

/-- **A message is carried out at most once while its key is remembered**: a new request writes the row
    and is answered with success, a repeated one is answered from memory, and a failure leaves no trace. -/
structure AnsweredOnce (sha256 : Digest) (server : SignalServer) (log : List PasswordRequest) (env : Env)
    (hdl : ConnectionHdl) (j : Json) : Prop where
  carried : ∀ r, server.carriedOut env hdl j = some r →
    (∀ r' ∈ latestChanges log, r'.cacheKey ≠ r.cacheKey) ∧
    (changePassword sha256 server env hdl j).server.db
      = (updatePassword sha256 server.db env.passwordSalt r.userId r.newPassword).2 ∧
    (changePassword sha256 server env hdl j).sent = sendMsg hdl r.successReply
  repeated : ∀ request, server.passwordRequest hdl j = some request → ∀ r ∈ latestChanges log,
    r.cacheKey = request.cacheKey →
    (changePassword sha256 server env hdl j).server = server ∧
    (changePassword sha256 server env hdl j).sent = sendMsg hdl
      (if request.newPassword = r.newPassword then r.successReply
        else failed request.message "Request ID was already used")
  refused : RepliesWith "fail" (changePassword sha256 server env hdl j).sent →
    (changePassword sha256 server env hdl j).server = server

theorem Remembers.latestRemembered {log : List PasswordRequest} (h : Remembers sha256 server log) :
    LatestRemembered sha256 server log := by
  have hlatest : Eviction.latest maxRememberedPasswordChanges (log.map (PasswordRequest.entry sha256))
      = (latestChanges log).map (PasswordRequest.entry sha256) := Eviction.latest_map _ _ _
  refine ⟨?_, h.distinct, h.length_le, fun k => h.mem_order, fun k result => ?_⟩
  · rw [h.keys, hlatest, List.map_map]
    rfl
  · rw [h.entries, hlatest, List.mem_map]
    simp only [PasswordRequest.entry, Prod.mk.injEq]

/-- The fingerprints of two six-byte passwords are the same for one password only. -/
theorem passwordFingerprint_eq_iff (hsha : Distinguishes sha256 6) {p q : Bytes} (hp : p.length = 6)
    (hq : q.length = 6) : passwordFingerprint sha256 p = passwordFingerprint sha256 q ↔ p = q :=
  ⟨fun h => hsha p q hp hq (sha256Hex_injective h), fun h => h ▸ rfl⟩

theorem successReply_status (r : PasswordRequest) :
    r.successReply.stringField (bytes "status") = some (bytes "success") := by
  rw [PasswordRequest.successReply, Json.stringField, Json.find_set, if_pos rfl]
  rfl

theorem AnsweredOnce.of_remembered {log : List PasswordRequest} (hsha : Distinguishes sha256 6)
    (h : LatestRemembered sha256 server log) (hsix : ∀ r ∈ log, r.newPassword.length = 6) (env : Env)
    (hdl : ConnectionHdl) (j : Json) : AnsweredOnce sha256 server log env hdl j := by
  refine ⟨fun r hr => ⟨fun r' hr' hkey => ?_, ?_, ?_⟩, fun request hreq r hr hkey => ?_, fun hfail => ?_⟩
  · have hsome := (h.results r.cacheKey _).mpr ⟨r', hr', hkey, rfl⟩
    have hnew := (Option.filter_eq_some_iff.mp hr).2
    rw [hsome] at hnew
    exact absurd hnew (by simp)
  · rw [changePassword_of_carriedOut hr]
    rfl
  · rw [changePassword_of_carriedOut hr]
  · have hsome := (h.results request.cacheKey _).mpr ⟨r, hr, hkey, rfl⟩
    have hlen := hsix r (List.mem_of_mem_drop hr)
    rw [changePassword_of_remembered hreq hsome]
    have hprint : (r.result sha256).passwordFingerprint = passwordFingerprint sha256 request.newPassword ↔
        r.newPassword = request.newPassword :=
      passwordFingerprint_eq_iff hsha hlen (PasswordRequest.length_newPassword hreq)
    refine ⟨rfl, ?_⟩
    by_cases hsame : request.newPassword = r.newPassword
    · simp only [if_pos (hprint.mpr hsame.symm), if_pos hsame]
      rfl
    · have hne : ¬ r.newPassword = request.newPassword := fun h => hsame h.symm
      simp only [if_neg (mt hprint.mp hne), if_neg hsame]
  · cases hr : server.carriedOut env hdl j with
    | none => exact changePassword_of_not_carriedOut hr
    | some r =>
        rw [changePassword_of_carriedOut hr] at hfail
        obtain ⟨_, reply, hsent, hstatus⟩ := hfail
        obtain ⟨_, rfl⟩ := Prod.mk.inj (List.singleton_inj.mp hsent)
        rw [successReply_status] at hstatus
        exact absurd hstatus (by decide)

/-- Every logged change was made by a well-formed request. -/
theorem length_newPassword_of_mem (sha256 : Digest) (server : SignalServer) (steps : List Step) :
    ∀ r ∈ changesOf sha256 server steps, r.newPassword.length = 6 := by
  induction steps generalizing server with
  | nil => exact fun r hr => absurd hr (by simp [changesOf])
  | cons step steps ih =>
      intro r hr
      rw [changesOf, List.mem_append, Option.mem_toList] at hr
      rcases hr with hr | hr
      · obtain ⟨hdl, payload, j, _, _, hcarried, _⟩ := changeOf_eq_some sha256 hr
        exact PasswordRequest.length_newPassword (Option.filter_eq_some_iff.mp hcarried).1
      · exact ih _ r hr

/-- **A password change is carried out at most once while it is remembered**, in every state a run
    reaches, and what is remembered are the latest changes of the run. -/
theorem passwordChanges_atMostOnce (sha256 : Digest) (hsha : Distinguishes sha256 6) (now : Int)
    (db : DeviceDB) (steps : List Step) :
    LatestRemembered sha256 (after sha256 (start now db) steps)
      (changesOf sha256 (start now db) steps) ∧
    ∀ (env : Env) (hdl : ConnectionHdl) (j : Json), AnsweredOnce sha256
      (after sha256 (start now db) steps) (changesOf sha256 (start now db) steps) env hdl j := by
  have hlatest := (remembers_run sha256 now db steps).latestRemembered
  exact ⟨hlatest, AnsweredOnce.of_remembered hsha hlatest (length_newPassword_of_mem sha256 _ steps)⟩

/-- The texts `sampleDigest` digests. -/
def sampleTexts : List Bytes :=
  [bytes "0000000000000000000000", bytes "0000000000000000abcdef", bytes "abcdef"]

/-- `sampleDigest`, made free of collisions: a text of up to 29 bytes stands for itself, padded with zeros
    and with its length at the end, and longer ones have no digest of their own. -/
def distinctDigest : Digest := fun text i =>
  if text ∈ sampleTexts then sampleDigest text i
  else if text.length ≤ 29 then if i.val < 29 then text.getD i 0 else if i.val = 31 then
    UInt8.ofNat (text.length + 1) else 0
  else 0

theorem sampleDigest_first : ∀ s ∈ sampleTexts, ∀ t ∈ sampleTexts,
    sampleDigest s ⟨0, by omega⟩ = sampleDigest t ⟨0, by omega⟩ → s = t := by decide

theorem sampleDigest_thirty : ∀ s ∈ sampleTexts, sampleDigest s ⟨30, by omega⟩ ≠ 0 := by decide

/-- The byte that tells the digests of the three texts from the others. -/
theorem distinctDigest_thirty {t : Bytes} (h : t ∉ sampleTexts) : distinctDigest t ⟨30, by omega⟩ = 0 := by
  unfold distinctDigest
  rw [if_neg h]
  split <;> rfl

theorem distinctDigest_last {t : Bytes} (h : t ∉ sampleTexts) : distinctDigest t ⟨31, by omega⟩
    = if t.length ≤ 29 then UInt8.ofNat (t.length + 1) else 0 := by
  unfold distinctDigest
  rw [if_neg h]
  split <;> rfl

theorem distinctDigest_byte {t : Bytes} (h : t ∉ sampleTexts) (hlen : t.length ≤ 29) {i : Nat}
    (hi : i < 29) : distinctDigest t ⟨i, by omega⟩ = t.getD i 0 := by
  unfold distinctDigest
  rw [if_neg h, if_pos hlen]
  exact if_pos hi

/-- A text of up to 29 bytes can be read off its digest. -/
theorem distinctDigest_collisionFree {n : Nat} (hn : n ≤ 29) : CollisionFree distinctDigest n := by
  intro s t hs h
  have hat : ∀ i, distinctDigest s i = distinctDigest t i := fun i => congrFun h i
  have hsample : ∀ u ∈ sampleTexts, ∀ i, distinctDigest u i = sampleDigest u i := fun u hu i => if_pos hu
  by_cases hms : s ∈ sampleTexts
  · have h30 := hat ⟨30, by omega⟩
    rw [hsample s hms] at h30
    by_cases hmt : t ∈ sampleTexts
    · have h0 := hat ⟨0, by omega⟩
      rw [hsample s hms, hsample t hmt] at h0
      exact sampleDigest_first s hms t hmt h0
    · rw [distinctDigest_thirty hmt] at h30
      exact absurd h30 (sampleDigest_thirty s hms)
  · by_cases hmt : t ∈ sampleTexts
    · have h30 := hat ⟨30, by omega⟩
      rw [hsample t hmt, distinctDigest_thirty hms] at h30
      exact absurd h30.symm (sampleDigest_thirty t hmt)
    · have hlast := hat ⟨31, by omega⟩
      rw [distinctDigest_last hms, distinctDigest_last hmt, if_pos (by omega)] at hlast
      have hnat := congrArg UInt8.toNat hlast
      rw [UInt8.toNat_ofNat'] at hnat
      have hlen : t.length ≤ 29 ∧ t.length = s.length := by
        by_cases hlong : t.length ≤ 29
        · rw [if_pos hlong, UInt8.toNat_ofNat'] at hnat
          omega
        · rw [if_neg hlong, UInt8.toNat_zero] at hnat
          omega
      refine List.ext_getElem hlen.2.symm fun i hi hi' => ?_
      have hbyte := hat ⟨i, by omega⟩
      rw [distinctDigest_byte hms (by omega) (by omega), distinctDigest_byte hmt hlen.1 (by omega)] at hbyte
      rw [← List.getD_eq_getElem s 0 hi, ← List.getD_eq_getElem t 0 hi']
      exact hbyte

/-- A device registers, changes its password and repeats the request. -/
theorem ownChange_once :
    LatestRemembered distinctDigest (after distinctDigest (start 0 newFile) [registration, ownChange])
      (changesOf distinctDigest (start 0 newFile) [registration, ownChange]) ∧
    AnsweredOnce distinctDigest (after distinctDigest (start 0 newFile) [registration, ownChange])
      (changesOf distinctDigest (start 0 newFile) [registration, ownChange]) (.still 2) 1
      (changePasswordMessage (bytes "abcdef")) := by
  obtain ⟨hlatest, honce⟩ := passwordChanges_atMostOnce distinctDigest
    (distinctDigest_collisionFree (by omega)).distinguishes 0 newFile [registration, ownChange]
  exact ⟨hlatest, honce _ _ _⟩

end SignalServer
end DeskServer
