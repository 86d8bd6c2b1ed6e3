import DeskServer.Server.Login

/-!
# `Server.LoginSoundness` — logins without a password

`login_user` lets every id in that has `C-` anywhere in it, while a controller identity is one that
starts with `C-`; and it verifies an id through a bound text that ends at the first zero byte. Either way
an identity can be granted that no password stands behind. A login is sound exactly when its id is told
apart the same way by all three.

**Shape.** A grant is justified in one of two ways, by a registration or by a password (`Justified`), and each
branch of the handler gives one of them or is the branch the condition excludes (`Grant.justified`,
`LoginSound.checked`). The statement is about one login in any state, so that it can be used along a run.
-/

namespace DeskServer
namespace SignalServer

open Bytes DeviceDB PresenceManager

/-- The call that led from `db` to `db'` registered `id`. -/
def FreshlyRegistered (db db' : DeviceDB) (id : Bytes) : Prop :=
  ∃ d : SqlText, d.val = id ∧ db.devices[d]? = none ∧ ∃ credential, db'.devices[d]? = some credential

/-- `id` is in the device table, and `password` matches its stored hash. -/
def PasswordVerified (sha256 : Digest) (db : DeviceDB) (id password : Bytes) : Prop :=
  ∃ d : SqlText, d.val = id ∧ Verifies sha256 db d password

/-- **An identity a login may grant.** -/
def Justified (sha256 : Digest) (db db' : DeviceDB) (id password : Bytes) : Prop :=
  isCloneClient id = true ∨ FreshlyRegistered db db' id ∨ PasswordVerified sha256 db id password

/-- The identity the login left the connection with is justified by this login. -/
def LoginJustified (sha256 : Digest) (server : SignalServer) (env : Env) (hdl : ConnectionHdl)
    (j : Json) : Prop :=
  let handled := loginUser sha256 server env hdl j
  ∃ e p, presented j = some (e, p) ∧
    Justified sha256 server.db handled.server.db (handled.server.transmission.getUserId hdl) p

/-- **Authentication soundness of one login**: the identity changes only to a justified one, and a login
    without a justified identity is refused and changes nothing. -/
structure LoginSound (sha256 : Digest) (server : SignalServer) (env : Env) (hdl : ConnectionHdl)
    (j : Json) : Prop where
  changed : (loginUser sha256 server env hdl j).server.transmission.getUserId hdl
      ≠ server.transmission.getUserId hdl → LoginJustified sha256 server env hdl j
  settled : (LoginJustified sha256 server env hdl j ∧
      RepliesWith "success" (loginUser sha256 server env hdl j).sent) ∨
    Refused server j (loginUser sha256 server env hdl j)

/-- **Every check takes the id for the same thing**: it starts with `C-`, or is verified under exactly
    this text, or has no `C-` in it and is not verified even as the text it is bound to. -/
def LoginChecked (sha256 : Digest) (db : DeviceDB) (j : Json) : Prop :=
  ∀ e p, presented j = some (e, p) → isCloneClient e = true ∨ PasswordVerified sha256 db e p ∨
    (contains (bytes "C-") e = false ∧ ¬ Verifies sha256 db (bindText e) p)

variable {sha256 : Digest} {server : SignalServer} {env : Env} {hdl : ConnectionHdl} {j : Json}
  {db db' : DeviceDB} {e p id : Bytes}

theorem not_freshlyRegistered (h : db'.devices = db.devices) : ¬ FreshlyRegistered db db' id := by
  rintro ⟨d, _, hnone, credential, hsome⟩
  rw [h, hnone] at hsome
  exact absurd hsome (by simp)

theorem passwordVerified_of_noNul (hz : (0 : UInt8) ∉ e) (h : Verifies sha256 db (bindText e) p) :
    PasswordVerified sha256 db e p := ⟨bindText e, cstr_eq_self hz, h⟩

/-- An id the device table does not take for its own text is not verified, or is verified exactly. -/
theorem checked_of_new (hclone : contains (bytes "C-") e = false)
    (hnew : e = [] ∨ e = bytes "web" ∨ ¬ Verifies sha256 db (bindText e) p) :
    PasswordVerified sha256 db e p ∨
      (contains (bytes "C-") e = false ∧ ¬ Verifies sha256 db (bindText e) p) := by
  by_cases hver : Verifies sha256 db (bindText e) p
  · left
    rcases hnew with rfl | rfl | hnot
    · exact passwordVerified_of_noNul (by simp) hver
    · exact passwordVerified_of_noNul (by decide) hver
    · exact absurd hver hnot
  · exact .inr ⟨hclone, hver⟩

/-- A grant that is not refused. -/
theorem Granted.not_refused {handled : Handled} (h : Granted server env hdl handled id)
    (hp : presented j = some (e, p)) : ¬ Refused server j handled := by
  rintro ⟨_, hrefused⟩
  obtain ⟨_, reply, hsent, hstatus⟩ := h.replies
  rcases hrefused with ⟨_, reply', hsent', hstatus'⟩ | ⟨hnone, _⟩
  · rw [hsent] at hsent'
    obtain ⟨_, rfl⟩ := Prod.mk.inj (List.singleton_inj.mp hsent')
    rw [hstatus] at hstatus'
    exact absurd hstatus' (by decide)
  · rw [hp] at hnone; exact absurd hnone (by simp)

theorem LoginJustified.of_presented (hp : presented j = some (e, p))
    (h : LoginJustified sha256 server env hdl j) :
    Justified sha256 server.db (loginUser sha256 server env hdl j).server.db
      ((loginUser sha256 server env hdl j).server.transmission.getUserId hdl) p := by
  obtain ⟨e', p', hp', hj⟩ := h
  rw [hp] at hp'
  obtain ⟨_, rfl⟩ := Prod.mk.inj (Option.some.inj hp')
  exact hj

/-- What a sound login says about its id. -/
theorem LoginSound.checked (hsound : LoginSound sha256 server env hdl j) :
    LoginChecked sha256 server.db j := by
  intro e p hp
  rcases loginUser_cases sha256 server env hdl j with
    ⟨_, _, hcause⟩ | ⟨e', p', id, hp', _, hgranted, hgrant⟩
  · obtain ⟨hclone, hnew⟩ := hcause e p hp
    exact .inr (checked_of_new hclone hnew)
  · rw [hp] at hp'
    obtain ⟨rfl, rfl⟩ := Prod.mk.inj (Option.some.inj hp')
    have hjust : Justified sha256 server.db (loginUser sha256 server env hdl j).server.db id p := by
      rcases hsound.settled with ⟨hj, _⟩ | hrefused
      · exact hgranted.getUserId ▸ hj.of_presented hp
      · exact absurd hrefused (hgranted.not_refused hp)
    cases hgrant with
    | clone hclone hid hdev =>
        rcases hjust with h | h | h
        · exact .inl (hid ▸ h)
        · exact absurd h (not_freshlyRegistered hdev)
        · exact .inr (.inl (hid ▸ h))
    | verified hclone _ hver hid hdev =>
        rcases hjust with h | h | h
        · exact .inl (hid ▸ h)
        · exact absurd h (not_freshlyRegistered hdev)
        · exact .inr (.inl (hid ▸ h))
    | registered credential hclone hnew hgen hfresh hdev =>
        exact .inr (checked_of_new hclone hnew)

/-- Each way an id is granted is a way it is justified, once the id is told apart alike. -/
theorem Grant.justified (hcheck : isCloneClient e = true ∨ PasswordVerified sha256 db e p ∨
      (contains (bytes "C-") e = false ∧ ¬ Verifies sha256 db (bindText e) p))
    (hgrant : Grant sha256 db e p id db'.devices) : Justified sha256 db db' id p := by
  cases hgrant with
  | clone hclone hid hdev =>
      rw [hid]
      rcases hcheck with h | h | ⟨h, _⟩
      · exact .inl h
      · exact .inr (.inr h)
      · rw [hclone] at h; exact absurd h (by simp)
  | verified hclone _ hver hid hdev =>
      rw [hid]
      rcases hcheck with h | h | ⟨_, h⟩
      · exact .inl h
      · exact .inr (.inr h)
      · exact absurd hver h
  | registered credential hclone hnew hgen hfresh hdev =>
      refine .inr (.inl ⟨bindText id, cstr_eq_self hgen.noNul, hfresh, credential, ?_⟩)
      rw [hdev, Std.ExtTreeMap.getElem?_insert_self]

theorem LoginChecked.sound (hcheck : LoginChecked sha256 server.db j) :
    LoginSound sha256 server env hdl j := by
  rcases loginUser_cases sha256 server env hdl j with
    ⟨hrefused, _⟩ | ⟨e, p, id, hp, _, hgranted, hgrant⟩
  · refine ⟨fun hchanged => absurd ?_ hchanged, .inr hrefused⟩
    rw [hrefused.unchanged]
  · have hjust : LoginJustified sha256 server env hdl j := by
      refine ⟨e, p, hp, ?_⟩
      rw [hgranted.getUserId]
      exact hgrant.justified (hcheck e p hp)
    exact ⟨fun _ => hjust, .inl ⟨hjust, hgranted.replies⟩⟩

/-- **A login is sound exactly when its id is told apart the same way everywhere.** -/
theorem loginUser_sound_iff (sha256 : Digest) (server : SignalServer) (env : Env)
    (hdl : ConnectionHdl) (j : Json) :
    LoginSound sha256 server env hdl j ↔ LoginChecked sha256 server.db j :=
  ⟨LoginSound.checked, LoginChecked.sound⟩

/-- `{"type": "login", "user_id": "12C-34"}`. -/
def midCloneLogin : Json := stringMembers [("type", bytes "login"), ("user_id", bytes "12C-34")]

/-- Whatever the digest, on a new server an id with `C-` in its middle is let in without a password. -/
theorem midCloneLogin_unsound : ¬ ∃ sha256 : Digest,
    LoginSound sha256 (constructed newFile) (.still 0) 1 midCloneLogin := by
  rintro ⟨sha256, hsound⟩
  have hp : presented midCloneLogin = some (bytes "12C-34", []) := by rfl
  have hclone : isCloneClient (bytes "12C-34") = false := by decide
  have hmid : contains (bytes "C-") (bytes "12C-34") = true := by decide
  rcases hsound.checked _ _ hp with h | ⟨d, _, credential, hrow, _⟩ | ⟨h, _⟩
  · rw [hclone] at h; exact absurd h (by simp)
  · have hempty : (constructed newFile).db.devices[d]? = none := Std.ExtTreeMap.getElem?_empty
    rw [hempty] at hrow; exact absurd hrow (by simp)
  · rw [hmid] at h; exact absurd h (by simp)

end SignalServer
end DeskServer
