import DeskServer.Database.Devices

/-!
# `Database.Credentials` — salts, hashes and what they verify

A credential row holds a salt and the hexadecimal digest of salt and password. Neither has a zero byte,
so binding keeps both whole, and a row verifies exactly the passwords whose digest behind its salt is the
digest it was made from. That this is one password only is a fact about the digest: it tells texts of one
length apart, or collides with no other text at all.

Nothing is assumed of the digest in general; a statement that needs more of it says so (`Distinguishes`,
`CollisionFree`). What `AddDevice` does is told apart by cases (`addDevice_case`), each with the row it
leaves, and the handlers above look at these cases only.
-/

namespace DeskServer

open Bytes

/-- **The digest tells texts of length `n` apart.** -/
def Distinguishes (sha256 : Digest) (n : Nat) : Prop :=
  ∀ s t : Bytes, s.length = n → t.length = n → sha256 s = sha256 t → s = t

/-- **No other text has the digest of a text of length `n`.** -/
def CollisionFree (sha256 : Digest) (n : Nat) : Prop :=
  ∀ s t : Bytes, s.length = n → sha256 s = sha256 t → s = t

theorem CollisionFree.distinguishes {sha256 : Digest} {n : Nat} (h : CollisionFree sha256 n) :
    Distinguishes sha256 n := fun s t hs _ => h s t hs

/-! ## Hexadecimal -/

theorem hexDigit_toNat {n : Nat} (h : n < 16) :
    (hexDigit n).toNat = if n < 10 then 48 + n else 87 + n := by
  unfold hexDigit
  split
  · rw [UInt8.toNat_ofNat']
    omega
  · rw [UInt8.toNat_ofNat']
    omega

theorem hexDigit_injOn {m n : Nat} (hm : m < 16) (hn : n < 16) (h : hexDigit m = hexDigit n) :
    m = n := by
  have htoNat := congrArg UInt8.toNat h
  rw [hexDigit_toNat hm, hexDigit_toNat hn] at htoNat
  split at htoNat <;> split at htoNat <;> omega

theorem hexDigit_ne_zero {n : Nat} (h : n < 16) : hexDigit n ≠ 0 := by
  intro hzero
  have htoNat := congrArg UInt8.toNat hzero
  rw [hexDigit_toNat h, UInt8.toNat_zero] at htoNat
  split at htoNat <;> omega

/-- The two digits of a byte. -/
def hexByte (b : UInt8) : Bytes := [hexDigit (b.toNat / 16), hexDigit (b.toNat % 16)]

theorem hexByte_injective : Function.Injective hexByte := by
  intro b c h
  obtain ⟨hhigh, hlow⟩ := List.cons.inj h
  have hb := b.toNat_lt
  have hc := c.toNat_lt
  have h1 := hexDigit_injOn (by omega) (by omega) hhigh
  have h2 := hexDigit_injOn (by omega) (by omega) (List.cons.inj hlow).1
  exact UInt8.toNat_inj.mp (by omega)

/-- Induction on one text: two digits are read off at a time. -/
theorem flatMap_hexByte_injective : Function.Injective fun s : Bytes => s.flatMap hexByte := by
  intro s
  induction s with
  | nil =>
      intro t h
      cases t with
      | nil => rfl
      | cons c t => exact absurd h (by simp [hexByte])
  | cons b s ih =>
      intro t h
      cases t with
      | nil => exact absurd h (by simp [hexByte])
      | cons c t =>
          have happ : hexByte b ++ s.flatMap hexByte = hexByte c ++ t.flatMap hexByte := h
          obtain ⟨hbyte, hrest⟩ := List.append_inj happ rfl
          rw [hexByte_injective hbyte, ih hrest]

theorem sha256Hex_injective {sha256 : Digest} {s t : Bytes} (h : sha256Hex sha256 s = sha256Hex sha256 t) :
    sha256 s = sha256 t :=
  List.ofFn_injective (flatMap_hexByte_injective h)

theorem sha256Hex_noNul (sha256 : Digest) (s : Bytes) : (0 : UInt8) ∉ sha256Hex sha256 s := by
  intro h
  obtain ⟨b, _, hb⟩ := List.mem_flatMap.mp h
  have hlt := b.toNat_lt
  rcases List.mem_cons.mp hb with hz | hz
  · exact hexDigit_ne_zero (by omega) hz.symm
  · exact hexDigit_ne_zero (by omega) (List.mem_singleton.mp hz).symm

/-! ## Salts and passwords -/

theorem getD_mem_of_lt {s : Bytes} {i : Nat} (d : UInt8) (h : i < s.length) : s.getD i d ∈ s := by
  rw [List.getD_eq_getElem _ _ h]
  exact List.getElem_mem h

theorem generateSalt_noNul (draw : Fin 16 → Fin 16) : (0 : UInt8) ∉ generateSalt draw := by
  intro h
  obtain ⟨i, hi⟩ := List.mem_ofFn.mp h
  have hmem := getD_mem_of_lt (s := bytes "0123456789ABCDEF") 48 (draw i).isLt
  rw [hi] at hmem
  exact absurd hmem (by decide)

@[simp] theorem length_generateSalt (draw : Fin 16 → Fin 16) : (generateSalt draw).length = 16 :=
  List.length_ofFn

@[simp] theorem length_generatePassword (draw : Fin 6 → Fin 62) : (generatePassword draw).length = 6 :=
  List.length_ofFn

/-! ## What a stored row verifies -/

/-- The row `INSERT` and `UPDATE` store for a password. -/
def sealedCredential (sha256 : Digest) (salt password : Bytes) : Credential :=
  ⟨bindText salt, bindText (hashPasswordWithSalt sha256 salt password)⟩

namespace DeviceDB

variable {sha256 : Digest} {db : DeviceDB} {salt p q u : Bytes}

/-- **A stored row verifies what has the same digest behind its salt.** -/
theorem credentialMatches_sealed (hsalt : (0 : UInt8) ∉ salt) :
    credentialMatches sha256 (sealedCredential sha256 salt p) q = true ↔
      sha256 (salt ++ q) = sha256 (salt ++ p) := by
  simp only [credentialMatches, sealedCredential, hashPasswordWithSalt, bindText_val]
  rw [cstr_eq_self hsalt, cstr_eq_self (sha256Hex_noNul _ _), beq_iff_eq]
  constructor
  · exact sha256Hex_injective
  · intro h
    rw [sha256Hex, sha256Hex, h]

/-- A row verifies the password it was made for. -/
theorem credentialMatches_sealed_self (hsalt : (0 : UInt8) ∉ salt) :
    credentialMatches sha256 (sealedCredential sha256 salt p) p = true :=
  (credentialMatches_sealed hsalt).mpr rfl

theorem verifyDevice_eq_zero_iff : verifyDevice sha256 db u p = 0 ↔
    Verifies sha256 db (bindText u) p := by
  unfold verifyDevice Verifies
  cases db.devices[bindText u]? with
  | none => simp
  | some credential =>
      simp only [Option.some.injEq, exists_eq_left']
      by_cases hmatch : credentialMatches sha256 credential p = true
      · simp [hmatch]
      · simp [hmatch]

/-- `UpdatePassword` stores a sealed row where there is one. -/
theorem updatePassword_devices (draw : Fin 16 → Fin 16) (u p : Bytes) (d : SqlText) :
    (updatePassword sha256 db draw u p).2.devices[d]?
      = if bindText u = d then
          (db.devices[bindText u]?).map fun _ => sealedCredential sha256 (generateSalt draw) p
        else db.devices[d]? :=
  Std.ExtTreeMap.getElem?_alter_eq _ _ _ _

theorem insertDevice_devices (u p salt : Bytes) (d : SqlText) :
    (insertDevice sha256 db u p salt).devices[d]?
      = if bindText u = d then some (sealedCredential sha256 salt p) else db.devices[d]? :=
  Std.ExtTreeMap.getElem?_insert_eq _ _ _ _

/-! ## What a registration stores -/

/-- A generated id is taken by nobody. -/
theorem generateDeviceId_fresh {draw : Nat → Fin 900000000} (h : db.generateDeviceId draw ≠ []) :
    db.deviceIdExists (db.generateDeviceId draw) = false := by
  unfold generateDeviceId at h ⊢
  cases hf : ((List.range 100).map fun attempt => nineDigits (100000000 + draw attempt)).find?
      fun candidate => !db.deviceIdExists candidate with
  | none => rw [hf] at h; exact absurd rfl h
  | some candidate => simpa using List.find?_some hf

/-- **A registration that is no browser's**: the first generated id gets a fresh row for a new password,
    and both are returned. -/
theorem registerDevice_plain (draws : Draws) {e : Bytes} (hweb : e ≠ bytes "web") (i n : Nat) :
    registerDevice sha256 db draws e i (n + 1) =
      if db.generateDeviceId (draws.deviceId i) = [] then ({}, db)
      else (⟨db.generateDeviceId (draws.deviceId i), generatePassword (draws.password i), false⟩,
        insertDevice sha256 db (db.generateDeviceId (draws.deviceId i))
          (generatePassword (draws.password i)) (generateSalt (draws.salt i))) := by
  unfold registerDevice
  simp only
  by_cases hnil : db.generateDeviceId (draws.deviceId i) = []
  · rw [if_pos hnil, if_pos hnil]
  · rw [if_neg hnil, if_neg hnil, newDeviceId, if_neg hweb, generateDeviceId_fresh hnil, if_neg hweb,
      if_neg Bool.false_ne_true]

/-- **A browser's registration** gets a fresh row behind `web-`, and no password back. Induction on the
    retries left. -/
theorem registerDevice_web (sha256 : Digest) (db : DeviceDB) (draws : Draws) (i n : Nat) :
    registerDevice sha256 db draws (bytes "web") i n = ({}, db) ∨
      ∃ m k, registerDevice sha256 db draws (bytes "web") i n =
        (⟨bytes "web" ++ bytes "-" ++ nineDigits m, [], false⟩,
          insertDevice sha256 db (bytes "web" ++ bytes "-" ++ nineDigits m)
            (generatePassword (draws.password k)) (generateSalt (draws.salt k))) := by
  induction n generalizing i with
  | zero => exact .inl rfl
  | succ n ih =>
      unfold registerDevice
      simp only
      by_cases hnil : db.generateDeviceId (draws.deviceId i) = []
      · exact .inl (if_pos hnil)
      · rw [if_neg hnil]
        obtain ⟨m, hm⟩ := generateDeviceId_spec hnil
        split
        · exact ih (i + 1)
        · right
          refine ⟨m, i, ?_⟩
          rw [newDeviceId, if_pos rfl, if_pos trivial, hm]

/-- **What `AddDevice` returns and stores.** -/
inductive AddDeviceCase (sha256 : Digest) (db : DeviceDB) (draws : Draws) (e p : Bytes) :
    DeviceCredential × DeviceDB → Prop
  | known : e ≠ [] → e ≠ bytes "web" → Verifies sha256 db (bindText e) p →
      AddDeviceCase sha256 db draws e p (⟨e, [], false⟩, db)
  | refused : AddDeviceCase sha256 db draws e p ({}, db)
  | browser (m k : Nat) : e = bytes "web" → AddDeviceCase sha256 db draws e p
      (⟨bytes "web" ++ bytes "-" ++ nineDigits m, [], false⟩,
        insertDevice sha256 db (bytes "web" ++ bytes "-" ++ nineDigits m)
          (generatePassword (draws.password k)) (generateSalt (draws.salt k)))
  | registered : e ≠ bytes "web" → (e ≠ [] → db.devices[bindText e]? = none) →
      db.generateDeviceId (draws.deviceId 0) ≠ [] → AddDeviceCase sha256 db draws e p
      (⟨db.generateDeviceId (draws.deviceId 0), generatePassword (draws.password 0), false⟩,
        insertDevice sha256 db (db.generateDeviceId (draws.deviceId 0))
          (generatePassword (draws.password 0)) (generateSalt (draws.salt 0)))

/-- An id the table does not know, and that the generator comes up with, is registered. -/
theorem addDevice_of_generated (sha256 : Digest) {db : DeviceDB} (draws : Draws) {e : Bytes} (p : Bytes)
    (he : e ≠ []) (hg : db.generateDeviceId (draws.deviceId 0) = e) :
    addDevice sha256 db draws e p = (⟨e, generatePassword (draws.password 0), false⟩,
      insertDevice sha256 db e (generatePassword (draws.password 0)) (generateSalt (draws.salt 0))) := by
  have hne : db.generateDeviceId (draws.deviceId 0) ≠ [] := hg ▸ he
  obtain ⟨n, hn⟩ := generateDeviceId_spec hne
  have hweb : e ≠ bytes "web" := by
    intro hweb
    have hlen := congrArg List.length (hn.symm.trans (hg.trans hweb))
    rw [nineDigits, List.length_ofFn] at hlen
    exact absurd hlen (by decide)
  have hrow : db.devices[bindText e]? = none := by
    have hfresh := generateDeviceId_fresh hne
    rw [hg, deviceIdExists, if_neg he] at hfresh
    exact Std.ExtTreeMap.getElem?_eq_none_of_contains_eq_false hfresh
  unfold addDevice
  rw [if_neg (not_or.mpr ⟨he, hweb⟩), hrow, registerDevice_plain draws hweb, if_neg hne, hg]

theorem addDevice_case (sha256 : Digest) (db : DeviceDB) (draws : Draws) (e p : Bytes) :
    AddDeviceCase sha256 db draws e p (addDevice sha256 db draws e p) := by
  unfold addDevice
  by_cases hweb : e = bytes "web"
  · rw [if_pos (.inr hweb), hweb]
    rcases registerDevice_web sha256 db draws 0 10 with h | ⟨m, k, h⟩
    · rw [h]; exact .refused
    · rw [h]; exact .browser m k rfl
  · have hregistered : (e ≠ [] → db.devices[bindText e]? = none) →
        AddDeviceCase sha256 db draws e p (registerDevice sha256 db draws e 0 10) := by
      intro hnone
      rw [registerDevice_plain draws hweb]
      by_cases hnil : db.generateDeviceId (draws.deviceId 0) = []
      · rw [if_pos hnil]; exact .refused
      · rw [if_neg hnil]; exact .registered hweb hnone hnil
    by_cases hempty : e = []
    · rw [if_pos (.inl hempty)]
      exact hregistered fun h => absurd hempty h
    · rw [if_neg (not_or.mpr ⟨hempty, hweb⟩)]
      cases hrow : db.devices[bindText e]? with
      | none => exact hregistered fun _ => hrow
      | some credential =>
          by_cases hmatch : credentialMatches sha256 credential p = true
          · simp only [hmatch, if_true]
            exact .known hempty hweb ⟨credential, hrow, hmatch⟩
          · simp only [hmatch]
            exact .refused

end DeviceDB
end DeskServer
