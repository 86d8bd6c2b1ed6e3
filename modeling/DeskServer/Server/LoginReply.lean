import DeskServer.Database.Credentials
import DeskServer.Server.CredentialIntegrity

/-!
# `Server.LoginReply` — what a successful login is told

The reply to a login names the identity the connection is bound to, and a device that was just registered
finds its password behind the `@`. Which of the two texts goes out is decided by comparing the id that
`AddDevice` returned with the id the client asked for; when the generated id happens to be the unknown
one asked for, neither does.

**Shape.** The handler has three ways to succeed, as a clone, as a device that is known and as one that was
just registered; each has a lemma about the reply it sends, and `loginReply_named_iff` goes through them.
Whether the device keeps what it was told is `Server.CredentialString`.
-/

namespace DeskServer
namespace SignalServer

open Bytes DeviceDB PresenceManager

/-- **No login is anonymous**: a success names the identity of the connection, and a device row that was
    created is named with a password that verifies. -/
structure NamedReply (sha256 : Digest) (server : SignalServer) (env : Env) (hdl : ConnectionHdl)
    (j : Json) : Prop where
  names : ∀ hdl' reply, (hdl', reply) ∈ (loginUser sha256 server env hdl j).sent →
    reply.stringField (bytes "status") = some (bytes "success") →
    ∃ text, reply.stringField (bytes "user_id") = some text ∧
      (splitPassword text).1 = (loginUser sha256 server env hdl j).server.transmission.getUserId hdl
  carries : ∀ d : SqlText, server.db.devices[d]? = none →
    ((loginUser sha256 server env hdl j).server.db.devices[d]?).isSome = true →
    isWebClient d.val = false →
    ∃ reply password, (loginUser sha256 server env hdl j).sent = sendMsg hdl reply ∧
      reply.stringField (bytes "status") = some (bytes "success") ∧
      reply.stringField (bytes "user_id") = some (d.val ++ bytes "@" ++ password) ∧
      splitPassword (d.val ++ bytes "@" ++ password) = (d.val, password) ∧
      Verifies sha256 (loginUser sha256 server env hdl j).server.db d password

variable {sha256 : Digest} {server : SignalServer} {env : Env} {hdl : ConnectionHdl} {j : Json}
  {e p : Bytes}

/-! ## Texts -/

/-- An id without an `@` and a password are read back from the text that joins them. -/
theorem splitPassword_join {d : Bytes} (hd : (64 : UInt8) ∉ d) (p : Bytes) :
    splitPassword (d ++ bytes "@" ++ p) = (d, p) := by
  have hat : bytes "@" = [64] := by decide
  rw [splitPassword, hat, List.append_assoc]
  exact cut_append hd p

theorem presented_noAt (hp : presented j = some (e, p)) : (64 : UInt8) ∉ e := by
  obtain ⟨text, _, htext⟩ := Option.map_eq_some_iff.mp hp
  have he : e = (cut 64 text).1 := (congrArg Prod.fst htext).symm
  rw [he]
  exact not_mem_cut_fst 64 text

theorem generatedId_noAt {id : Bytes} (h : GeneratedId id) : (64 : UInt8) ∉ id :=
  h.not_mem (by decide)

/-- No generated id has a `C-` in it. -/
theorem contains_clone_generated {id : Bytes} (h : GeneratedId id) : contains (bytes "C-") id = false := by
  rw [← Bool.not_eq_true, contains_iff]
  intro hocc
  exact h.not_mem (b := 67) (by decide) (hocc.subset (by decide))

theorem isWebClient_web (n : Nat) : isWebClient (bytes "web" ++ bytes "-" ++ nineDigits n) = true := by
  rw [isWebClient, startsWith_iff]
  exact List.prefix_append _ _

/-! ## Success replies -/

theorem loginSuccess_status (text e : Bytes) :
    (addLoginIceConfig env (loginReply text (bytes "success")) j e).stringField (bytes "status")
      = some (bytes "success") := by
  rw [addLoginIceConfig_status, loginReply_status]

theorem loginSuccess_userId (text e : Bytes) :
    (addLoginIceConfig env (loginReply text (bytes "success")) j e).stringField (bytes "user_id")
      = some text := by
  rw [addLoginIceConfig_stringField _ _ _ (by decide) (by decide)]
  rfl

/-- A reply names what its text names. -/
theorem names_of_sent {text id : Bytes} (hsent : (loginUser sha256 server env hdl j).sent
      = sendMsg hdl (addLoginIceConfig env (loginReply text (bytes "success")) j id)) :
    (∀ hdl' reply, (hdl', reply) ∈ (loginUser sha256 server env hdl j).sent →
      reply.stringField (bytes "status") = some (bytes "success") →
      ∃ text, reply.stringField (bytes "user_id") = some text ∧
        (splitPassword text).1
          = (loginUser sha256 server env hdl j).server.transmission.getUserId hdl) ↔
    (splitPassword text).1 = (loginUser sha256 server env hdl j).server.transmission.getUserId hdl := by
  rw [hsent]
  constructor
  · intro h
    obtain ⟨text', htext, hname⟩ := h hdl _ (List.mem_singleton.mpr rfl) (loginSuccess_status text id)
    rw [loginSuccess_userId] at htext
    rwa [Option.some.inj htext]
  · intro h hdl' reply hmem _
    obtain ⟨_, rfl⟩ := Prod.mk.inj (List.mem_singleton.mp hmem)
    exact ⟨text, loginSuccess_userId text id, h⟩

/-! ## A device -/

/-- A login that `AddDevice` answers with an id. -/
theorem loginDevice_of_accepted (hdl : ConnectionHdl) (j : Json) {credential : DeviceCredential}
    {db' : DeviceDB} (h : addDevice sha256 server.db env.draws e p = (credential, db'))
    (hne : credential.deviceId ≠ []) :
    (loginDevice sha256 server env hdl j e p).sent = sendMsg hdl (addLoginIceConfig env
        (loginReply (returnHostId credential e) (bytes "success")) j credential.deviceId) ∧
      (loginDevice sha256 server env hdl j e p).server.transmission.getUserId hdl
        = credential.deviceId ∧
      (loginDevice sha256 server env hdl j e p).server.db.devices = db'.devices := by
  rcases loginDevice_of_addDevice hdl j h with ⟨hnil, _⟩ | ⟨_, _, hdevices⟩
  · exact absurd hnil hne
  · refine ⟨?_, ?_, hdevices⟩
    · unfold loginDevice
      simp only [h, bindIdentity_eq, if_true, if_neg hne]
    · unfold loginDevice
      simp only [h, bindIdentity_eq, if_true, if_neg hne]
      split <;> exact boundManager_getUserId _ _ _ _

/-- A device the table decides about. -/
theorem loginUser_device (hp : presented j = some (e, p)) (hclone : contains (bytes "C-") e = false) :
    loginUser sha256 server env hdl j = loginDevice sha256 server env hdl j e p := by
  obtain ⟨text, hu, htext⟩ := Option.map_eq_some_iff.mp hp
  unfold loginUser
  rw [hu]
  simp only [htext, hclone, Bool.not_false, if_true]

theorem loginUser_clone (hp : presented j = some (e, p)) (hclone : contains (bytes "C-") e = true) :
    loginUser sha256 server env hdl j = loginClone server env hdl j e := by
  obtain ⟨text, hu, htext⟩ := Option.map_eq_some_iff.mp hp
  unfold loginUser
  rw [hu]
  simp only [htext, hclone, Bool.not_true, Bool.false_eq_true, if_false]

theorem loginUser_none (hp : presented j = none) :
    loginUser sha256 server env hdl j = ⟨false, server, []⟩ := by
  have hu : j.stringField (bytes "user_id") = none := Option.map_eq_none_iff.mp hp
  unfold loginUser
  rw [hu]

/-- No row is created where the table stays. -/
theorem carries_of_same (h : (loginUser sha256 server env hdl j).server.db.devices = server.db.devices)
    (d : SqlText) (hnone : server.db.devices[d]? = none) :
    ¬ ((loginUser sha256 server env hdl j).server.db.devices[d]?).isSome = true := by
  rw [h, hnone]
  exact Bool.false_ne_true

/-- The only row an insertion creates. -/
theorem eq_of_inserted {db : DeviceDB} {id password salt : Bytes} {d : SqlText}
    (hnone : db.devices[d]? = none)
    (hsome : ((insertDevice sha256 db id password salt).devices[d]?).isSome = true) : d = bindText id := by
  rw [insertDevice_devices] at hsome
  by_contra hne
  rw [if_neg fun h => hne h.symm, hnone] at hsome
  exact absurd hsome Bool.false_ne_true

/-! ## When every success is named -/

/-- The text of a registration names the device unless it is the one that was asked for. -/
theorem returnHostId_registered {id pw : Bytes} (hid : id ≠ []) (hpw : pw ≠ []) :
    returnHostId ⟨id, pw, false⟩ e = if id = e then [] else id ++ bytes "@" ++ pw := by
  unfold returnHostId
  by_cases he : id = e
  · simp [hpw, he]
  · simp [hid, hpw, he]

theorem returnHostId_known {id : Bytes} (hid : id ≠ []) : returnHostId ⟨id, [], false⟩ e = id := by
  unfold returnHostId
  simp [hid]

theorem generatePassword_ne_nil (draw : Fin 6 → Fin 62) : generatePassword draw ≠ [] := by
  intro h
  have hlen := congrArg List.length h
  rw [length_generatePassword] at hlen
  exact absurd hlen (by simp)

/-- The id asked for came up in the generator: the success names nobody. -/
theorem not_named_of_generated (hp : presented j = some (e, p)) (he : e ≠ [])
    (hg : server.db.generateDeviceId (env.draws.deviceId 0) = e) :
    ¬ NamedReply sha256 server env hdl j := by
  intro hnamed
  obtain ⟨n, hn⟩ := generateDeviceId_spec (hg ▸ he)
  have hclone := contains_clone_generated ⟨n, .inl (hg.symm.trans hn)⟩
  obtain ⟨hsent, hid, _⟩ :=
    loginDevice_of_accepted hdl j (addDevice_of_generated sha256 env.draws p he hg) he
  rw [← loginUser_device hp hclone] at hsent hid
  have hname := (names_of_sent hsent).mp hnamed.names
  rw [hid, returnHostId_registered he (generatePassword_ne_nil _), if_pos rfl] at hname
  exact he hname.symm

/-- A controller is named by the id it presents. -/
theorem namedReply_clone (hp : presented j = some (e, p)) (hclone : contains (bytes "C-") e = true) :
    NamedReply sha256 server env hdl j := by
  have hlogin : loginUser sha256 server env hdl j = loginClone server env hdl j e :=
    loginUser_clone hp hclone
  obtain ⟨hgranted, hdevices⟩ := loginClone_granted server env hdl j e
  rw [← hlogin] at hgranted hdevices
  have hsent : (loginUser sha256 server env hdl j).sent
      = sendMsg hdl (addLoginIceConfig env (loginReply e (bytes "success")) j e) := by
    rw [hlogin]
    unfold loginClone
    simp only [bindIdentity_eq, if_true]
  refine ⟨(names_of_sent hsent).mpr ?_, fun d hnone hsome _ => absurd hsome (carries_of_same hdevices d hnone)⟩
  rw [hgranted.getUserId, splitPassword_of_noAt (presented_noAt hp)]

/-- A device is named by the id it is bound to, unless that is the unknown id it asked for. -/
theorem namedReply_device (hp : presented j = some (e, p)) (hclone : contains (bytes "C-") e = false)
    (hother : e ≠ [] → server.db.generateDeviceId (env.draws.deviceId 0) ≠ e) :
    NamedReply sha256 server env hdl j := by
  have hlogin : loginUser sha256 server env hdl j = loginDevice sha256 server env hdl j e p :=
    loginUser_device hp hclone
  have hcase := addDevice_case sha256 server.db env.draws e p
  generalize hadd : addDevice sha256 server.db env.draws e p = result at hcase
  cases hcase with
  | known he _ _ =>
      obtain ⟨hsent, hid, hdevices⟩ := loginDevice_of_accepted hdl j hadd he
      rw [← hlogin] at hsent hid hdevices
      refine ⟨(names_of_sent hsent).mpr ?_,
        fun d hnone hsome _ => absurd hsome (carries_of_same hdevices d hnone)⟩
      rw [hid, returnHostId_known he, splitPassword_of_noAt (presented_noAt hp)]
  | refused =>
      rcases loginDevice_of_addDevice hdl j hadd with ⟨_, hserver, hfail⟩ | ⟨hne, _⟩
      · rw [← hlogin] at hserver hfail
        refine ⟨fun hdl' reply hmem hstatus => ?_,
          fun d hnone hsome _ => absurd hsome (carries_of_same (by rw [hserver]) d hnone)⟩
        obtain ⟨_, reply', hsent, hstatus'⟩ := hfail
        rw [hsent, List.mem_singleton] at hmem
        obtain ⟨_, rfl⟩ := Prod.mk.inj hmem
        rw [hstatus] at hstatus'
        exact absurd hstatus' (by decide)
      · exact absurd rfl hne
  | browser m k _ =>
      have hgen : GeneratedId (bytes "web" ++ bytes "-" ++ nineDigits m) := ⟨m, .inr rfl⟩
      obtain ⟨hsent, hid, hdevices⟩ := loginDevice_of_accepted hdl j hadd hgen.ne_nil
      rw [← hlogin] at hsent hid hdevices
      refine ⟨(names_of_sent hsent).mpr ?_, fun d hnone hsome hweb => ?_⟩
      · rw [hid, returnHostId_known hgen.ne_nil, splitPassword_of_noAt (generatedId_noAt hgen)]
      · rw [hdevices] at hsome
        rw [eq_of_inserted hnone hsome, bindText_val, cstr_eq_self hgen.noNul, isWebClient_web] at hweb
        exact absurd hweb (by simp)
  | registered _ _ hne =>
      obtain ⟨n, hn⟩ := generateDeviceId_spec hne
      have hgen : GeneratedId (server.db.generateDeviceId (env.draws.deviceId 0)) := ⟨n, .inl hn⟩
      have hnot : server.db.generateDeviceId (env.draws.deviceId 0) ≠ e := by
        intro he
        exact hother (he ▸ hne) he
      obtain ⟨hsent, hid, hdevices⟩ := loginDevice_of_accepted hdl j hadd hne
      rw [← hlogin] at hsent hid hdevices
      rw [returnHostId_registered hne (generatePassword_ne_nil _), if_neg hnot] at hsent
      have hsplit := splitPassword_join (generatedId_noAt hgen) (generatePassword (env.draws.password 0))
      refine ⟨(names_of_sent hsent).mpr ?_, fun d hnone hsome _ => ?_⟩
      · rw [hid, hsplit]
      · rw [hdevices] at hsome
        obtain rfl := eq_of_inserted hnone hsome
        rw [bindText_val, cstr_eq_self hgen.noNul]
        refine ⟨_, _, hsent, loginSuccess_status _ _, loginSuccess_userId _ _, hsplit, ?_⟩
        refine ⟨_, ?_, credentialMatches_sealed_self (generateSalt_noNul (env.draws.salt 0))⟩
        rw [hdevices, insertDevice_devices, if_pos rfl]

/-- A message without an id is not answered. -/
theorem namedReply_none (hp : presented j = none) : NamedReply sha256 server env hdl j := by
  have hlogin : loginUser sha256 server env hdl j = ⟨false, server, []⟩ := loginUser_none hp
  refine ⟨fun hdl' reply hmem _ => ?_, fun d hnone hsome _ => ?_⟩
  · rw [hlogin] at hmem
    exact absurd hmem (by simp)
  · exact absurd hsome (carries_of_same (by rw [hlogin]) d hnone)

/-- **A login is named exactly when the generated id is not the unknown id it asked for.** -/
theorem loginReply_named_iff (sha256 : Digest) (server : SignalServer) (env : Env)
    (hdl : ConnectionHdl) (j : Json) :
    NamedReply sha256 server env hdl j ↔ ∀ e p, presented j = some (e, p) → e ≠ [] →
      server.db.generateDeviceId (env.draws.deviceId 0) ≠ e := by
  constructor
  · intro hnamed e p hp he hg
    exact not_named_of_generated hp he hg hnamed
  · intro h
    cases hp : presented j with
    | none => exact namedReply_none hp
    | some login =>
        cases hclone : contains (bytes "C-") login.1 with
        | true => exact namedReply_clone hp hclone
        | false => exact namedReply_device hp hclone (h login.1 login.2 hp)

/-- Whatever the digest: a login on a new server asks for the very id the generator draws. -/
theorem guessedId_anonymous : ¬ ∃ sha256 : Digest,
    NamedReply sha256 (constructed newFile) (.still 0) 1 (loginMessage (bytes "100000000")) := by
  rintro ⟨sha256, hnamed⟩
  have hp : presented (loginMessage (bytes "100000000")) = some (bytes "100000000", []) := by rfl
  exact not_named_of_generated hp (by decide) (by rfl) hnamed

end SignalServer
end DeskServer
