import DeskServer.Server.LoginReply
import DeskServer.Server.PasswordReplies

/-!
# `Server.CredentialString` — `id@password`

A device is handed its credentials as one text, and every message that carries them is cut at the first
`@`. The password behind it may have an `@` itself, and may be any six bytes. From the moment a password
is set, by a registration or a change, until the next change of the same row, the text with this password
is let in everywhere and the text with any other is not.

**Shape.** The life of a password is a run: it begins at a registration or a change (`Current`), and the row
stays as it was sealed until the next one (`SealedRow.kept`, `Current.sealedRow`). What the three handlers
make of the text is then a matter of that row alone (`SealedRow.accepts`).
-/

namespace DeskServer
namespace SignalServer

open Bytes DeviceDB PresenceManager

/-! ## The life of a password -/

/-- The event is a login that registers `d` with the password `p`. -/
def Registers (sha256 : Digest) (server : SignalServer) (step : Step) (d p : Bytes) : Prop :=
  ∃ (hdl : Connection) (payload : Option Json) (j : Json) (e q : Bytes), step.2 = .message hdl payload ∧
    payloadType payload = some (j, .login) ∧ presented j = some (e, q) ∧
    contains (bytes "C-") e = false ∧
    (addDevice sha256 server.db step.1.draws e q).1 = ⟨d, p, false⟩ ∧ p ≠ []

/-- The event updates the row `d` is bound to. -/
def Updates (server : SignalServer) (step : Step) (d : Bytes) : Prop :=
  ∃ r, server.changeOf step = some r ∧ bindText r.userId = bindText d

/-- The event changes the password of the row of `d` to `p`. -/
def ChangesTo (server : SignalServer) (step : Step) (d p : Bytes) : Prop :=
  ∃ r, server.changeOf step = some r ∧ bindText r.userId = bindText d ∧ r.newPassword = p ∧
    (server.db.devices[bindText d]?).isSome = true

/-- **`p` is the current password of `d`**: it was set by a registration or a change, and no later event
    updated the row. The server may have been restarted on its device table in between. -/
inductive Current (sha256 : Digest) (d p : Bytes) : SignalServer → Prop
  | registered (server : SignalServer) (step : Step) : Registers sha256 server step d p →
      Current sha256 d p (server.next sha256 step)
  | changed (server : SignalServer) (step : Step) : ChangesTo server step d p →
      Current sha256 d p (server.next sha256 step)
  | kept (server : SignalServer) (step : Step) : Current sha256 d p server → ¬ Updates server step d →
      Current sha256 d p (server.next sha256 step)
  | restarted (server : SignalServer) (now : Int) (db : DeviceDB) : Current sha256 d p server →
      db.devices = server.db.devices → Current sha256 d p (start now db)

/-- A registered id: digits. -/
def Digits (d : Bytes) : Prop := d ≠ [] ∧ ∀ b ∈ d, 48 ≤ b.toNat ∧ b.toNat < 58

/-- The credential text. -/
def credentialString (d p : Bytes) : Bytes := d ++ bytes "@" ++ p

/-! ## What the three handlers do with it -/

/-- What a join goes on with once the password is right. -/
def joinVerified (server : SignalServer) (env : Env) (hdl : ConnectionHdl) (d userId : Bytes) : Handled :=
  let hostId := server.transmission.getHostIdOfTransmission d
  let hostHdl := server.transmission.getWsHandle hostId
  if hostId = [] ∨ isExpired env hostHdl = true then
    ⟨true, server, sendMsg hdl (joinRefused d "Remote unavailable")⟩
  else if server.transmission.getUserId hdl ≠ userId then ⟨false, server, []⟩
  else
    let message := stringMembers [("type", bytes "user_join_transmission"), ("transmission_id", d),
      ("user_id", userId), ("status", bytes "success")]
    ⟨true, server.settle env.now (server.transmission.bindGuestToTransmission userId d),
      sendMsg hostHdl (addConnectionIceConfig env message hostId)⟩

/-- **The text of `d` is let in with the password `p`, and with no other**, by all three messages. -/
structure AcceptsExactly (sha256 : Digest) (server : SignalServer) (d p : Bytes) : Prop where
  parsed : ∀ q, splitPassword (credentialString d q) = (d, q)
  verified : ∀ q, verifyDevice sha256 server.db d q = if q = p then 0 else -1
  login : ∀ env hdl j, j.stringField (bytes "user_id") = some (credentialString d p) →
    RepliesWith "success" (loginUser sha256 server env hdl j).sent ∧
    (loginUser sha256 server env hdl j).server.transmission.getUserId hdl = d
  query : ∀ hdl j, j.stringField (bytes "transmission_id") = some (credentialString d p) →
    queryUserIdList sha256 server hdl j = ⟨true, server, sendMsg hdl
      (userIdList d (server.transmission.getAllUserIdOfTransmission d) "success" none)⟩
  join : ∀ env hdl j userId, j.stringField (bytes "transmission_id") = some (credentialString d p) →
    j.stringField (bytes "user_id") = some userId →
    joinTransmission sha256 server env hdl j = server.joinVerified env hdl d userId
  loginRejected : ∀ env hdl j q, q ≠ p →
    j.stringField (bytes "user_id") = some (credentialString d q) →
    loginUser sha256 server env hdl j = ⟨true, server, sendMsg hdl (stringMembers
      [("type", bytes "login"), ("user_id", []), ("status", bytes "fail"),
        ("reason", bytes "Incorrect password")])⟩
  queryRejected : ∀ hdl j q, q ≠ p →
    j.stringField (bytes "transmission_id") = some (credentialString d q) →
    queryUserIdList sha256 server hdl j
      = ⟨true, server, sendMsg hdl (userIdList d [] "failed" "Incorrect password")⟩
  joinRejected : ∀ env hdl j q userId, q ≠ p →
    j.stringField (bytes "transmission_id") = some (credentialString d q) →
    j.stringField (bytes "user_id") = some userId →
    joinTransmission sha256 server env hdl j
      = ⟨true, server, sendMsg hdl (joinRefused d "Incorrect password")⟩

variable {sha256 : Digest} {server : SignalServer} {d p : Bytes}

/-! ## Ids of digits -/

theorem Digits.not_mem (h : Digits d) {b : UInt8} (hb : ¬ (48 ≤ b.toNat ∧ b.toNat < 58)) : b ∉ d :=
  fun hmem => hb (h.2 b hmem)

theorem Digits.noNul (h : Digits d) : (0 : UInt8) ∉ d := h.not_mem (by decide)

theorem Digits.noAt (h : Digits d) : (64 : UInt8) ∉ d := h.not_mem (by decide)

theorem Digits.bindText_val (h : Digits d) : (bindText d).val = d := cstr_eq_self h.noNul

theorem Digits.ne_web (h : Digits d) : d ≠ bytes "web" := by
  rintro rfl
  exact h.not_mem (b := 119) (by decide) (by decide)

theorem Digits.not_clone (h : Digits d) : contains (bytes "C-") d = false := by
  rw [← Bool.not_eq_true, contains_iff]
  intro hocc
  exact h.not_mem (b := 67) (by decide) (hocc.subset (by decide))

/-- No browser id is bound as digits. -/
theorem Digits.not_webClient (h : Digits d) {u : Bytes} (hu : isWebClient u = true) :
    bindText u ≠ bindText d := by
  intro hbind
  have hcstr : cstr u = d := by rw [← h.bindText_val, ← hbind]; rfl
  rw [isWebClient, ← startsWith_cstr (by decide), hcstr, startsWith_iff] at hu
  exact h.not_mem (b := 119) (by decide) (hu.subset (by decide))

theorem digits_nineDigits (n : Nat) : Digits (nineDigits n) :=
  ⟨GeneratedId.ne_nil ⟨n, .inl rfl⟩, fun _ => mem_nineDigits⟩

/-! ## The row of a current password -/

/-- **The row is sealed with `p`**, behind a salt of sixteen bytes. -/
def SealedRow (sha256 : Digest) (server : SignalServer) (d p : Bytes) : Prop :=
  p.length = 6 ∧ ∃ draw : Fin 16 → Fin 16,
    server.db.devices[bindText d]? = some (sealedCredential sha256 (generateSalt draw) p)

/-- A registration seals the row of its id. -/
theorem SealedRow.registered {step : Step} (h : Registers sha256 server step d p) :
    SealedRow sha256 (server.next sha256 step) d p := by
  obtain ⟨hdl, payload, j, e, q, he, hp, hpresented, hclone, hadd, hne⟩ := h
  obtain ⟨env, event⟩ := step
  have hcase := addDevice_case sha256 server.db env.draws e q
  generalize hresult : addDevice sha256 server.db env.draws e q = result at hcase hadd
  cases hcase with
  | known _ _ _ => exact absurd (congrArg DeviceCredential.password hadd).symm hne
  | refused => exact absurd (congrArg DeviceCredential.password hadd).symm hne
  | browser m k _ => exact absurd (congrArg DeviceCredential.password hadd).symm hne
  | registered _ _ hid =>
      obtain ⟨hd, hpassword, _⟩ := DeviceCredential.mk.inj hadd
      refine ⟨hpassword ▸ length_generatePassword _, env.draws.salt 0, ?_⟩
      have hnext : server.next sha256 (env, event) = (server.login sha256 env hdl j).1 := by
        unfold next react
        simp only at he
        subst he
        simp only [onMessage, hp]
        rfl
      obtain ⟨_, hdevices, _, _⟩ := login_frames sha256 server env hdl j
      obtain ⟨_, _, hstored⟩ := loginDevice_of_accepted hdl j hresult hid
      rw [hnext, hdevices, loginUser_device hpresented hclone, hstored, insertDevice_devices, ← hd,
        if_pos rfl, hpassword]

/-- A change seals the row it hits. -/
theorem SealedRow.changed {step : Step} (h : ChangesTo server step d p) :
    SealedRow sha256 (server.next sha256 step) d p := by
  obtain ⟨r, hr, hbind, rfl, hrow⟩ := h
  obtain ⟨hdl, payload, j, _, _, hcarried, hnext⟩ := changeOf_eq_some sha256 hr
  obtain ⟨credential, hcredential⟩ := Option.isSome_iff_exists.mp hrow
  refine ⟨PasswordRequest.length_newPassword (carriedOut_request hcarried).1, step.1.passwordSalt, ?_⟩
  rw [hnext, devices_of_carriedOut hcarried, if_pos hbind, hbind, hcredential]
  rfl

/-- Every other event leaves it: the only rows that go are those of browsers. -/
theorem SealedRow.kept (hd : Digits d) (h : SealedRow sha256 server d p) {step : Step}
    (hother : ¬ Updates server step d) : SealedRow sha256 (server.next sha256 step) d p := by
  obtain ⟨hlen, draw, hrow⟩ := h
  refine ⟨hlen, draw, ?_⟩
  cases hafter : (server.next sha256 step).db.devices[bindText d]? with
  | none =>
      obtain ⟨_, u, _, _, _, hweb, hbind⟩ := row_deleted sha256 server step hrow hafter
      exact absurd hbind (hd.not_webClient hweb)
  | some credential =>
      by_contra hne
      obtain ⟨hdl, payload, j, u, he, hp, _, _⟩ := row_modified sha256 server step hrow hafter
        fun h => hne (h ▸ rfl)
      obtain ⟨hchange, hnext⟩ := changeOf_of_message sha256 server step he hp
      rw [hnext] at hafter
      cases hr : server.carriedOut step.1 hdl j with
      | none =>
          rw [changePassword_of_not_carriedOut hr, hrow] at hafter
          exact hne hafter.symm
      | some r =>
          have hbind : bindText r.userId ≠ bindText d := fun h => hother ⟨r, hchange.trans hr, h⟩
          rw [devices_of_carriedOut hr, if_neg hbind, hrow] at hafter
          exact hne hafter.symm

/-- **A current password seals the row.** Induction on its life. -/
theorem Current.sealedRow (hd : Digits d) (h : Current sha256 d p server) :
    SealedRow sha256 server d p := by
  induction h with
  | registered server step hreg => exact SealedRow.registered hreg
  | changed server step hchange => exact SealedRow.changed hchange
  | kept server step _ hother ih => exact ih.kept hd hother
  | restarted server now db _ hsame ih =>
      obtain ⟨hlen, draw, hrow⟩ := ih
      refine ⟨hlen, draw, ?_⟩
      rw [(start_quiet now db).devices]
      exact hsame ▸ hrow

/-! ## What a sealed row lets in -/

theorem splitPassword_credentialString (hd : Digits d) (q : Bytes) :
    splitPassword (credentialString d q) = (d, q) := splitPassword_join hd.noAt q

theorem presented_credentialString {j : Json} (hd : Digits d) {q : Bytes}
    (hj : j.stringField (bytes "user_id") = some (credentialString d q)) :
    presented j = some (d, q) := by
  rw [presented, hj, Option.map_some, splitPassword_credentialString hd]

/-- The row matches `p` alone. -/
theorem SealedRow.matches_iff (hsha : CollisionFree sha256 22) (hlen : p.length = 6)
    (draw : Fin 16 → Fin 16) (q : Bytes) :
    credentialMatches sha256 (sealedCredential sha256 (generateSalt draw) p) q = true ↔ q = p := by
  rw [credentialMatches_sealed (generateSalt_noNul draw)]
  constructor
  · intro h
    have hsalted : (generateSalt draw ++ p).length = 22 := by
      rw [List.length_append, length_generateSalt, hlen]
    exact (List.append_cancel_left (hsha _ _ hsalted h.symm)).symm
  · rintro rfl
    rfl

theorem SealedRow.verifyDevice (hsha : CollisionFree sha256 22) (h : SealedRow sha256 server d p)
    (q : Bytes) : verifyDevice sha256 server.db d q = if q = p then 0 else -1 := by
  obtain ⟨hlen, draw, hrow⟩ := h
  rw [DeviceDB.verifyDevice, hrow]
  simp only [SealedRow.matches_iff hsha hlen draw q]

theorem SealedRow.addDevice (hd : Digits d) (hsha : CollisionFree sha256 22)
    (h : SealedRow sha256 server d p) (draws : Draws) (q : Bytes) :
    addDevice sha256 server.db draws d q = if q = p then (⟨d, [], false⟩, server.db) else ({}, server.db) := by
  obtain ⟨hlen, draw, hrow⟩ := h
  rw [DeviceDB.addDevice, if_neg (not_or.mpr ⟨hd.1, hd.ne_web⟩), hrow]
  simp only [SealedRow.matches_iff hsha hlen draw q]

/-- **A sealed row lets its own password in and no other.** -/
theorem SealedRow.accepts (hd : Digits d) (hsha : CollisionFree sha256 22)
    (h : SealedRow sha256 server d p) : AcceptsExactly sha256 server d p := by
  refine ⟨splitPassword_credentialString hd, h.verifyDevice hsha, fun env hdl j hj => ?_,
    fun hdl j hj => ?_, fun env hdl j userId hj hu => ?_, fun env hdl j q hq hj => ?_,
    fun hdl j q hq hj => ?_, fun env hdl j q userId hq hj hu => ?_⟩
  · have hadd := (h.addDevice hd hsha env.draws p).trans (if_pos rfl)
    obtain ⟨hsent, hid, _⟩ := loginDevice_of_accepted hdl j hadd hd.1
    rw [loginUser_device (presented_credentialString hd hj) hd.not_clone, hsent]
    exact ⟨repliesWith_sendMsg (loginSuccess_status _ _), hid⟩
  · have hverify := (h.verifyDevice hsha p).trans (if_pos rfl)
    unfold queryUserIdList
    rw [hj]
    simp only [splitPassword_credentialString hd, hverify, if_true]
  · have hverify := (h.verifyDevice hsha p).trans (if_pos rfl)
    unfold joinTransmission joinVerified
    rw [hj, hu]
    simp only [splitPassword_credentialString hd, hverify, if_true]
  · have hadd := (h.addDevice hd hsha env.draws q).trans (if_neg hq)
    have hverify := (h.verifyDevice hsha q).trans (if_neg hq)
    rw [loginUser_device (presented_credentialString hd hj) hd.not_clone]
    unfold loginDevice
    simp only [hadd, hverify, if_true, hd.1, ne_eq, not_false_eq_true, and_self]
  · have hverify := (h.verifyDevice hsha q).trans (if_neg hq)
    unfold queryUserIdList
    rw [hj]
    simp [splitPassword_credentialString hd, hverify]
  · have hverify := (h.verifyDevice hsha q).trans (if_neg hq)
    unfold joinTransmission
    rw [hj, hu]
    simp [splitPassword_credentialString hd, hverify]

/-- **The credential text round trip**: while `p` is the current password of `d`, the text of `d` is let in
    with `p` and with nothing else. -/
theorem credentialString_roundTrip (sha256 : Digest) (hsha : CollisionFree sha256 22) (d p : Bytes)
    (hd : Digits d) (server : SignalServer) (h : Current sha256 d p server) :
    AcceptsExactly sha256 server d p := (h.sealedRow hd).accepts hd hsha

/-- A device registers and then changes its password. -/
theorem ownChange_accepted : AcceptsExactly distinctDigest
    (((start 0 newFile).next distinctDigest registration).next distinctDigest ownChange)
    (bytes "100000000") (bytes "abcdef") := by
  have hdigits : Digits (bytes "100000000") := by
    have hid : nineDigits 100000000 = bytes "100000000" := by rfl
    rw [← hid]
    exact digits_nineDigits 100000000
  have hrequest : ((start 0 newFile).next distinctDigest registration).passwordRequest (1 : Connection)
      (changePasswordMessage (bytes "abcdef"))
      = some ⟨bytes "100000000", bytes "r", bytes "abcdef"⟩ := by rfl
  have hnew : ((start 0 newFile).next distinctDigest registration).passwordChangeResults[
      passwordChangeKey (bytes "100000000") (bytes "r")]? = none := by rfl
  have hchange := (changeOf_of_message distinctDigest ((start 0 newFile).next distinctDigest registration)
    ownChange rfl rfl).1.trans (carriedOut_of_new hrequest hnew rfl)
  refine credentialString_roundTrip distinctDigest (distinctDigest_collisionFree (by omega))
    (bytes "100000000") (bytes "abcdef") hdigits _ (.changed _ _ ⟨_, hchange, rfl, rfl, ?_⟩)
  rfl

end SignalServer
end DeskServer
