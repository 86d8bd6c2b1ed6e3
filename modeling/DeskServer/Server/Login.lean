import DeskServer.Server.Negotiation
import DeskServer.Transmission.Connections

/-!
# `Server.Login` — what a login grants, and to whom

`loginUser_cases` says once what a login can do: refuse and change nothing, or bind the connection to one
id and answer `success`. The id is sound when it is a controller identity, was registered by this call,
or its row was verified; which logins grant a sound id is decided exactly.

**Shape.** Clones and devices go through different branches to the same binding (`bindIdentity_eq`); `Grant`
names the ways to an id, and the invariants over runs look at these and not at the handler. What the reply
says is kept as far as its status and its id.
-/

namespace DeskServer
namespace SignalServer

open Bytes DeviceDB PresenceManager

/-- The id and the password of a login message. -/
def presented (j : Json) : Option (Bytes × Bytes) :=
  (j.stringField (bytes "user_id")).map splitPassword

/-- The id a login is given: the one it presents, when that has `C-` in it, and the one `AddDevice`
    answers with otherwise. -/
def loginId (sha256 : Digest) (db : DeviceDB) (draws : Draws) (j : Json) : Option Bytes :=
  (presented j).bind fun login =>
    if contains (bytes "C-") login.1 then some login.1
    else
      let deviceId := (addDevice sha256 db draws login.1 login.2).1.deviceId
      if deviceId = [] then none else some deviceId

/-! ## Settling the manager operations of a login -/

section Settle
variable {server : SignalServer} {env : Env}

/-- An operation without callbacks leaves the database alone. -/
theorem settle_of_quiet {α : Type} {outcome : TransmissionManager.Outcome α}
    (h : outcome.events = []) (now : Int) :
    server.settle now outcome = { server with transmission := outcome.tm } := by
  rw [settle, h]; rfl

/-- The manager of a server that has bound `hdl` to `id`. -/
def boundManager (s : TransmissionManager) (steadyNow : Int) (id : Bytes) (hdl : ConnectionHdl) :
    TransmissionManager :=
  ((s.bindUserToWsHandle steadyNow id hdl).tm.bindHostToTransmission id id).tm

theorem bindIdentity_eq (hdl : ConnectionHdl) (id : Bytes) :
    server.bindIdentity env hdl id
      = (true, { server with
          transmission := boundManager server.transmission env.steadyNow id hdl }) := by
  unfold bindIdentity
  simp only
  rw [settle_of_quiet (TransmissionManager.bindHostToTransmission_events _ id id)]
  rfl

theorem boundManager_users (s : TransmissionManager) (steadyNow : Int) (id : Bytes)
    (hdl : ConnectionHdl) :
    (boundManager s steadyNow id hdl).wsHdlUserIdList = s.wsHdlUserIdList.insert hdl id :=
  (TransmissionManager.bindHostToTransmission_connections id id).users.trans
    (TransmissionManager.bindUserToWsHandle_users steadyNow id hdl)

theorem boundManager_getUserId (s : TransmissionManager) (steadyNow : Int) (id : Bytes)
    (hdl : ConnectionHdl) : (boundManager s steadyNow id hdl).getUserId hdl = id := by
  rw [TransmissionManager.getUserId, boundManager_users, Std.ExtTreeMap.getElem?_insert_self]
  rfl

end Settle

/-! ## The cases of a login -/

/-- One reply, with the status `status`. -/
def RepliesWith (status : String) (sent : List (ConnectionHdl × Json)) : Prop :=
  ∃ hdl reply, sent = [(hdl, reply)] ∧ reply.stringField (bytes "status") = some (bytes status)

/-- Nothing changed, and the login was turned down: by a failure, or without an answer when the message
    has no id. -/
structure Refused (server : SignalServer) (j : Json) (handled : Handled) : Prop where
  unchanged : handled.server = server
  replies : RepliesWith "fail" handled.sent ∨
    (presented j = none ∧ handled.ret = false ∧ handled.sent = [])

/-- **How an id was granted**: `db` and `devices'` are the database before and the device table after,
    `e` and `p` the id and the password presented. -/
inductive Grant (sha256 : Digest) (db : DeviceDB) (e p id : Bytes)
    (devices' : Std.ExtTreeMap SqlText Credential) : Prop
  | clone : contains (bytes "C-") e = true → id = e → devices' = db.devices →
      Grant sha256 db e p id devices'
  | verified : contains (bytes "C-") e = false → e ≠ [] → Verifies sha256 db (bindText e) p → id = e →
      devices' = db.devices → Grant sha256 db e p id devices'
  | registered (credential : Credential) : contains (bytes "C-") e = false →
      (e = [] ∨ e = bytes "web" ∨ ¬ Verifies sha256 db (bindText e) p) → GeneratedId id →
      db.devices[bindText id]? = none → devices' = db.devices.insert (bindText id) credential →
      Grant sha256 db e p id devices'

/-- The connection is bound to `id`, and nothing else changed but the device table and the presence row
    of `id`. -/
structure Granted (server : SignalServer) (env : Env) (hdl : ConnectionHdl) (handled : Handled)
    (id : Bytes) : Prop where
  transmission : handled.server.transmission
    = boundManager server.transmission env.steadyNow id hdl
  presence : handled.server.presence = server.presence
  sessions : handled.server.db.remoteControlSessions = server.db.remoteControlSessions
  replies : RepliesWith "success" handled.sent

variable {sha256 : Digest} {server : SignalServer} {env : Env} {hdl : ConnectionHdl} {j : Json}

theorem repliesWith_sendMsg {status : String} {message : Json}
    (h : message.stringField (bytes "status") = some (bytes status)) :
    RepliesWith status (sendMsg hdl message) := ⟨hdl, message, rfl, h⟩

/-- The credentials overwrite no other member. -/
theorem addTurnCredentials_stringField (message : Json) (userId : Bytes) {k : Bytes}
    (hne : bytes "turn" ≠ k) :
    (addTurnCredentials env message userId).2.stringField k = message.stringField k := by
  unfold addTurnCredentials
  split
  · rfl
  · split
    · split
      · rfl
      · exact Json.stringField_set_of_ne message _ hne
    · split
      · rfl
      · exact Json.stringField_set_of_ne message _ hne

theorem addLoginIceConfig_stringField (message request : Json) (userId : Bytes) {k : Bytes}
    (hturn : bytes "turn" ≠ k) (hversion : bytes "ice_config_version" ≠ k) :
    (addLoginIceConfig env message request userId).stringField k = message.stringField k := by
  have hversioned : (if env.iceConfigIssuer.isSome then
        message.set (bytes "ice_config_version") (.int 1) else message).stringField k
      = message.stringField k := by
    split
    · exact Json.stringField_set_of_ne message _ hversion
    · rfl
  unfold addLoginIceConfig
  simp only
  split
  · rw [addTurnCredentials_stringField _ _ hturn, hversioned]
  · exact hversioned

/-- A login's reply keeps its status. -/
theorem addLoginIceConfig_status (message request : Json) (userId : Bytes) :
    (addLoginIceConfig env message request userId).stringField (bytes "status")
      = message.stringField (bytes "status") :=
  addLoginIceConfig_stringField message request userId (by decide) (by decide)

theorem loginReply_status (userId status : Bytes) :
    (loginReply userId status).stringField (bytes "status") = some status := rfl

theorem loginClone_granted (server : SignalServer) (env : Env) (hdl : ConnectionHdl) (j : Json)
    (e : Bytes) :
    Granted server env hdl (loginClone server env hdl j e) e ∧
      (loginClone server env hdl j e).server.db.devices = server.db.devices := by
  unfold loginClone
  simp only [bindIdentity_eq, if_true]
  refine ⟨⟨rfl, rfl, rfl, repliesWith_sendMsg ?_⟩, trivial⟩
  rw [addLoginIceConfig_status, loginReply_status]

/-- A login the device table decides: no credential is a refusal, a credential is granted. -/
theorem loginDevice_of_addDevice (hdl : ConnectionHdl) (j : Json) {e p : Bytes} {credential : DeviceCredential}
    {db' : DeviceDB} (h : addDevice sha256 server.db env.draws e p = (credential, db')) :
    (credential.deviceId = [] ∧
      (loginDevice sha256 server env hdl j e p).server = { server with db := db' } ∧
      RepliesWith "fail" (loginDevice sha256 server env hdl j e p).sent) ∨
    (credential.deviceId ≠ [] ∧
      (db'.remoteControlSessions = server.db.remoteControlSessions →
        Granted server env hdl (loginDevice sha256 server env hdl j e p) credential.deviceId) ∧
      (loginDevice sha256 server env hdl j e p).server.db.devices = db'.devices) := by
  unfold loginDevice
  simp only [h, bindIdentity_eq, if_true]
  by_cases hnil : credential.deviceId = []
  · left
    refine ⟨hnil, ?_, ?_⟩
    · rw [if_pos hnil]
    · rw [if_pos hnil]
      exact repliesWith_sendMsg rfl
  · right
    refine ⟨hnil, fun hsessions => ?_, ?_⟩
    · rw [if_neg hnil]
      refine ⟨?_, ?_, ?_, repliesWith_sendMsg ?_⟩
      · show SignalServer.transmission (ite _ _ _) = _
        split <;> rfl
      · show SignalServer.presence (ite _ _ _) = _
        split <;> rfl
      · show (SignalServer.db (ite _ _ _)).remoteControlSessions = _
        split
        · rw [updateDeviceClientInfo, if_neg hnil]; exact hsessions
        · exact hsessions
      · rw [addLoginIceConfig_status, loginReply_status]
    · rw [if_neg hnil]
      show (SignalServer.db (ite _ _ _)).devices = _
      split
      · rw [updateDeviceClientInfo, if_neg hnil]; rfl
      · rfl

/-- **What a login can do.** -/
theorem loginUser_cases (sha256 : Digest) (server : SignalServer) (env : Env) (hdl : ConnectionHdl)
    (j : Json) :
    (Refused server j (loginUser sha256 server env hdl j) ∧
      loginId sha256 server.db env.draws j = none ∧
      ∀ e p, presented j = some (e, p) → contains (bytes "C-") e = false ∧
        (e = [] ∨ e = bytes "web" ∨ ¬ Verifies sha256 server.db (bindText e) p)) ∨
    ∃ e p id, presented j = some (e, p) ∧ loginId sha256 server.db env.draws j = some id ∧
      Granted server env hdl (loginUser sha256 server env hdl j) id ∧
      Grant sha256 server.db e p id (loginUser sha256 server env hdl j).server.db.devices := by
  unfold loginUser loginId presented
  cases hu : j.stringField (bytes "user_id") with
  | none =>
      refine .inl ⟨⟨rfl, .inr ⟨?_, rfl, rfl⟩⟩, rfl, fun _ _ h => absurd h (by simp)⟩
      rw [presented, hu]; rfl
  | some text =>
      simp only [Option.map_some, Option.bind_some]
      generalize he : (splitPassword text).1 = e
      generalize hp : (splitPassword text).2 = p
      have hpair : some (splitPassword text) = some (e, p) := by rw [← he, ← hp]
      cases hclone : contains (bytes "C-") e with
      | true =>
          obtain ⟨hg, hd⟩ := loginClone_granted server env hdl j e
          exact .inr ⟨e, p, e, hpair, rfl, hg, .clone hclone rfl hd⟩
      | false =>
          simp only [Bool.not_false, if_true, Bool.false_eq_true, if_false]
          rcases addDevice_cases sha256 server.db env.draws e p with
            ⟨hne, _, hver, hadd⟩ | ⟨hnew, hadd | hreg⟩
          · rcases loginDevice_of_addDevice hdl j hadd with ⟨hnil, _⟩ | ⟨_, hg, hd⟩
            · exact absurd hnil hne
            · refine .inr ⟨e, p, e, hpair, ?_, hg rfl, .verified hclone hne hver rfl hd⟩
              rw [hadd, if_neg hne]
          · rcases loginDevice_of_addDevice hdl j hadd with ⟨_, hs, hr⟩ | ⟨hne, _⟩
            · refine .inl ⟨⟨hs, .inl hr⟩, ?_, fun e' p' h => ?_⟩
              · rw [hadd, if_pos rfl]
              · obtain ⟨rfl, rfl⟩ := Prod.mk.inj (Option.some.inj (hpair.symm.trans h))
                exact ⟨hclone, hnew⟩
            · exact absurd rfl hne
          · obtain ⟨credential, hins⟩ := hreg.inserted
            have hadd : addDevice sha256 server.db env.draws e p
                = ((addDevice sha256 server.db env.draws e p).1,
                  (addDevice sha256 server.db env.draws e p).2) := rfl
            rcases loginDevice_of_addDevice hdl j hadd with ⟨hnil, _⟩ | ⟨hne, hg, hd⟩
            · exact absurd hnil hreg.generated.ne_nil
            · refine .inr ⟨e, p, _, hpair, if_neg hne, hg (by rw [hins]), .registered credential
                hclone hnew hreg.generated hreg.fresh ?_⟩
              rw [hd, hins]

/-! ## The ids that are granted -/

variable {db : DeviceDB} {e p id : Bytes} {devices' : Std.ExtTreeMap SqlText Credential}

theorem Granted.getUserId {handled : Handled} (h : Granted server env hdl handled id) :
    handled.server.transmission.getUserId hdl = id := by
  rw [h.transmission, boundManager_getUserId]

/-- No connection is ever bound to the empty id. -/
theorem Grant.ne_nil (h : Grant sha256 db e p id devices') : id ≠ [] := by
  cases h with
  | clone hclone hid _ =>
      rw [hid]
      rintro rfl
      exact absurd hclone (by decide)
  | verified _ hne _ hid _ => rw [hid]; exact hne
  | registered _ _ _ hgen _ _ => exact hgen.ne_nil

/-- An id granted has a zero byte only if the id presented has. -/
theorem Grant.noNul (h : Grant sha256 db e p id devices') (hz : (0 : UInt8) ∉ e) :
    (0 : UInt8) ∉ id := by
  cases h with
  | clone _ hid _ => rw [hid]; exact hz
  | verified _ _ _ hid _ => rw [hid]; exact hz
  | registered _ _ _ hgen _ _ => exact hgen.noNul

/-- An id granted has no `@` in it. -/
theorem Grant.noAt (hp : presented j = some (e, p)) (h : Grant sha256 db e p id devices') :
    (64 : UInt8) ∉ id := by
  have he : (64 : UInt8) ∉ e := by
    obtain ⟨text, _, htext⟩ := Option.map_eq_some_iff.mp hp
    have : e = (cut 64 text).1 := (congrArg Prod.fst htext).symm
    rw [this]
    exact not_mem_cut_fst 64 text
  cases h with
  | clone _ hid _ => rw [hid]; exact he
  | verified _ _ _ hid _ => rw [hid]; exact he
  | registered _ _ _ hgen _ _ => exact hgen.not_mem (by decide)

end SignalServer
end DeskServer
