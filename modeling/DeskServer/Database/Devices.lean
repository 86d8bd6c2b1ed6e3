import DeskServer.Database.Presence

/-!
# `Database.Devices` — the device table

Registration, verification and the password of a device. Two things are parameters: the digest that
OpenSSL's `SHA256` computes, and the random numbers, as explicit draws. Every statement is taken to
succeed, so the branches that report a failed statement do not appear.
-/

namespace DeskServer

open Bytes

/-- `SHA256`: the 32 bytes of the digest. -/
abbrev Digest := Bytes → Fin 32 → UInt8

/-- The random numbers one registration can draw: the candidate ids of retry `i`, its password and its
    salt. -/
structure Draws where
  deviceId : Nat → Nat → Fin 900000000
  password : Nat → Fin 6 → Fin 62
  salt : Nat → Fin 16 → Fin 16

structure DeviceCredential where
  deviceId : Bytes := []
  password : Bytes := []
  update : Bool := false
deriving DecidableEq

/-! ## Texts -/

/-- One digit of `std::hex`. -/
def hexDigit (n : Nat) : UInt8 := if n < 10 then UInt8.ofNat (48 + n) else UInt8.ofNat (87 + n)

/-- `Sha256`: the digest in lower-case hexadecimal. -/
def sha256Hex (sha256 : Digest) (s : Bytes) : Bytes :=
  (List.ofFn (sha256 s)).flatMap fun b => [hexDigit (b.toNat / 16), hexDigit (b.toNat % 16)]

def hashPasswordWithSalt (sha256 : Digest) (salt password : Bytes) : Bytes :=
  sha256Hex sha256 (salt ++ password)

/-- `GenerateSalt`. -/
def generateSalt (draw : Fin 16 → Fin 16) : Bytes :=
  List.ofFn fun i => (bytes "0123456789ABCDEF").getD (draw i) 48

/-- `GeneratePassword`. -/
def generatePassword (draw : Fin 6 → Fin 62) : Bytes :=
  List.ofFn fun i =>
    (bytes "0123456789ABCDEFGHIJKLMNOPQRSTUVWXYZabcdefghijklmnopqrstuvwxyz").getD (draw i) 48

/-- `snprintf("%09d")` of a number below `10 ^ 9`. -/
def nineDigits (n : Nat) : Bytes :=
  List.ofFn fun i : Fin 9 => UInt8.ofNat (48 + n / 10 ^ (8 - i.val) % 10)

namespace DeviceDB

/-! ## Statements on `devices` -/

def deviceIdExists (db : DeviceDB) (deviceId : Bytes) : Bool :=
  if deviceId = [] then false else db.devices.contains (bindText deviceId)

/-- The first of a hundred candidates that is not taken, or the empty string. -/
def generateDeviceId (db : DeviceDB) (draw : Nat → Fin 900000000) : Bytes :=
  (((List.range 100).map fun attempt => nineDigits (100000000 + draw attempt)).find?
    fun candidate => !db.deviceIdExists candidate).getD []

/-- `INSERT INTO devices`. -/
def insertDevice (sha256 : Digest) (db : DeviceDB) (deviceId password salt : Bytes) : DeviceDB :=
  { db with
    devices := db.devices.insert (bindText deviceId)
      ⟨bindText salt, bindText (hashPasswordWithSalt sha256 salt password)⟩ }

/-- A browser asks for the id `web` and gets a generated one behind it. -/
def newDeviceId (deviceId generated : Bytes) : Bytes :=
  if deviceId = bytes "web" then deviceId ++ bytes "-" ++ generated else generated

/-- The registration loop of `AddDevice`, from retry `i` with `n` retries left. -/
def registerDevice (sha256 : Digest) (db : DeviceDB) (draws : Draws) (deviceId : Bytes) (i : Nat) :
    Nat → DeviceCredential × DeviceDB
  | 0 => ({}, db)
  | n + 1 =>
    let generated := db.generateDeviceId (draws.deviceId i)
    if generated = [] then ({}, db)
    else
      let newId := newDeviceId deviceId generated
      if db.deviceIdExists newId then registerDevice sha256 db draws deviceId (i + 1) n
      else
        let newPassword := generatePassword (draws.password i)
        (⟨newId, if deviceId = bytes "web" then [] else newPassword, false⟩,
          insertDevice sha256 db newId newPassword (generateSalt (draws.salt i)))

/-- The stored hash of a row matches `password`. -/
def credentialMatches (sha256 : Digest) (credential : Credential) (password : Bytes) : Bool :=
  hashPasswordWithSalt sha256 credential.passwordSalt.val password == credential.passwordHash.val

def addDevice (sha256 : Digest) (db : DeviceDB) (draws : Draws) (deviceId password : Bytes) :
    DeviceCredential × DeviceDB :=
  if deviceId = [] ∨ deviceId = bytes "web" then registerDevice sha256 db draws deviceId 0 10
  else
    match db.devices[bindText deviceId]? with
    | some credential =>
      if credentialMatches sha256 credential password then (⟨deviceId, [], false⟩, db) else ({}, db)
    | none => registerDevice sha256 db draws deviceId 0 10

/-- `0`: the password is right; `-1`: it is wrong; `-2`: no such device. -/
def verifyDevice (sha256 : Digest) (db : DeviceDB) (deviceId password : Bytes) : Int :=
  match db.devices[bindText deviceId]? with
  | some credential => if credentialMatches sha256 credential password then 0 else -1
  | none => -2

/-- `UPDATE devices SET password_salt = ?, password_hash = ? WHERE device_id = ?`. -/
def updatePassword (sha256 : Digest) (db : DeviceDB) (draw : Fin 16 → Fin 16)
    (deviceId newPassword : Bytes) : Bool × DeviceDB :=
  let salt := generateSalt draw
  (true, { db with
    devices := db.devices.alter (bindText deviceId) (Option.map fun _ =>
      ⟨bindText salt, bindText (hashPasswordWithSalt sha256 salt newPassword)⟩) })

/-- `DELETE FROM devices WHERE device_id = ?`. -/
def removeDevice (db : DeviceDB) (deviceId : Bytes) : Bool × DeviceDB :=
  (true, { db with devices := db.devices.erase (bindText deviceId) })

/-- `SQLITE_MAX_VARIABLE_NUMBER`. -/
def maxBindParameters : Nat := 32766

/-- The flag of each id, in the order asked; an id without a row is offline. -/
def batchQueryOnline (db : DeviceDB) (deviceIds : List Bytes) : List (Bytes × Bool) :=
  -- a statement with more parameters is not prepared
  if maxBindParameters < deviceIds.length then []
  else
    deviceIds.map fun id =>
      (id, ((db.devicePresence[bindText id]?).map fun row =>
        columnInt row.online != 0 && (0 : UInt8) ∉ id).getD false)

/-! ## Generated ids -/

/-- An id the server makes up: nine digits, behind `web-` for a browser. -/
def GeneratedId (id : Bytes) : Prop :=
  ∃ n, id = nineDigits n ∨ id = bytes "web" ++ bytes "-" ++ nineDigits n

theorem mem_nineDigits {n : Nat} {b : UInt8} (h : b ∈ nineDigits n) : 48 ≤ b.toNat ∧ b.toNat < 58 := by
  obtain ⟨i, rfl⟩ := List.mem_ofFn.mp h
  rw [UInt8.toNat_ofNat']
  omega

theorem GeneratedId.mem {id : Bytes} (h : GeneratedId id) {b : UInt8} (hb : b ∈ id) :
    b = 119 ∨ b = 101 ∨ b = 98 ∨ b = 45 ∨ (48 ≤ b.toNat ∧ b.toNat < 58) := by
  obtain ⟨n, rfl | rfl⟩ := h
  · have := mem_nineDigits hb
    omega
  · rcases List.mem_append.mp hb with hw | hd
    · have hbytes : bytes "web" ++ bytes "-" = [119, 101, 98, 45] := by decide
      rw [hbytes] at hw
      simp only [List.mem_cons, List.not_mem_nil, or_false] at hw
      rcases hw with h | h | h | h <;> simp [h]
    · have := mem_nineDigits hd
      omega

/-- A byte that is no digit and not in `web-` occurs in no generated id. -/
theorem GeneratedId.not_mem {id : Bytes} (h : GeneratedId id) {b : UInt8}
    (hb : b ≠ 119 ∧ b ≠ 101 ∧ b ≠ 98 ∧ b ≠ 45 ∧ ¬ (48 ≤ b.toNat ∧ b.toNat < 58)) : b ∉ id := by
  intro hmem
  rcases h.mem hmem with h' | h' | h' | h' | h'
  · exact hb.1 h'
  · exact hb.2.1 h'
  · exact hb.2.2.1 h'
  · exact hb.2.2.2.1 h'
  · exact hb.2.2.2.2 h'

theorem GeneratedId.noNul {id : Bytes} (h : GeneratedId id) : (0 : UInt8) ∉ id :=
  h.not_mem (by decide)

theorem GeneratedId.ne_nil {id : Bytes} (h : GeneratedId id) : id ≠ [] := by
  obtain ⟨n, rfl | rfl⟩ := h
  · intro hnil
    have := congrArg List.length hnil
    simp [nineDigits] at this
  · intro hnil
    have := congrArg List.length hnil
    simp [nineDigits] at this

theorem generateDeviceId_spec {db : DeviceDB} {draw : Nat → Fin 900000000}
    (h : db.generateDeviceId draw ≠ []) : ∃ n, db.generateDeviceId draw = nineDigits n := by
  unfold generateDeviceId at h ⊢
  cases hf : ((List.range 100).map fun attempt => nineDigits (100000000 + draw attempt)).find?
      fun candidate => !db.deviceIdExists candidate with
  | none => rw [hf] at h; exact absurd rfl h
  | some candidate =>
      obtain ⟨attempt, _, rfl⟩ := List.mem_map.mp (List.mem_of_find?_eq_some hf)
      exact ⟨_, rfl⟩

/-! ## What a registration does -/

variable {sha256 : Digest} {db : DeviceDB}

/-- The row of `d` matches `password`. -/
def Verifies (sha256 : Digest) (db : DeviceDB) (d : SqlText) (password : Bytes) : Prop :=
  ∃ credential, db.devices[d]? = some credential ∧
    credentialMatches sha256 credential password = true

/-- A device that was not there is, under a generated id. -/
structure Registered (db : DeviceDB) (result : DeviceCredential × DeviceDB) : Prop where
  generated : GeneratedId result.1.deviceId
  fresh : db.devices[bindText result.1.deviceId]? = none
  inserted : ∃ credential, result.2 =
    { db with devices := db.devices.insert (bindText result.1.deviceId) credential }

/-- Induction on the retries left: the loop gives up, or registers one fresh id. -/
theorem registerDevice_cases (draws : Draws) (deviceId : Bytes) (i n : Nat) :
    registerDevice sha256 db draws deviceId i n = ({}, db) ∨
      Registered db (registerDevice sha256 db draws deviceId i n) := by
  induction n generalizing i with
  | zero => exact .inl rfl
  | succ n ih =>
      unfold registerDevice
      by_cases hnil : db.generateDeviceId (draws.deviceId i) = []
      · exact .inl (if_pos hnil)
      · obtain ⟨m, hm⟩ := generateDeviceId_spec hnil
        simp only [hnil, if_false]
        split
        · exact ih (i + 1)
        · rename_i hexists
          right
          have hgen : GeneratedId (newDeviceId deviceId (db.generateDeviceId (draws.deviceId i))) := by
            rw [hm, newDeviceId]
            by_cases hweb : deviceId = bytes "web"
            · rw [if_pos hweb, hweb]; exact ⟨m, .inr rfl⟩
            · rw [if_neg hweb]; exact ⟨m, .inl rfl⟩
          refine ⟨hgen, ?_, _, rfl⟩
          rw [deviceIdExists, if_neg hgen.ne_nil] at hexists
          simpa using hexists

/-- **What `AddDevice` can do**: let a known device in, refuse, or register a fresh one. -/
theorem addDevice_cases (sha256 : Digest) (db : DeviceDB) (draws : Draws) (deviceId password : Bytes) :
    (deviceId ≠ [] ∧ deviceId ≠ bytes "web" ∧ Verifies sha256 db (bindText deviceId) password ∧
      addDevice sha256 db draws deviceId password = (⟨deviceId, [], false⟩, db)) ∨
    ((deviceId = [] ∨ deviceId = bytes "web" ∨ ¬ Verifies sha256 db (bindText deviceId) password) ∧
      (addDevice sha256 db draws deviceId password = ({}, db) ∨
        Registered db (addDevice sha256 db draws deviceId password))) := by
  unfold addDevice
  by_cases hnew : deviceId = [] ∨ deviceId = bytes "web"
  · rw [if_pos hnew]
    right
    exact ⟨hnew.elim .inl fun h => .inr (.inl h), registerDevice_cases draws deviceId 0 10⟩
  · rw [if_neg hnew]
    rw [not_or] at hnew
    cases hrow : db.devices[bindText deviceId]? with
    | none =>
        right
        refine ⟨.inr (.inr ?_), registerDevice_cases draws deviceId 0 10⟩
        rintro ⟨credential, hsome, _⟩
        rw [hrow] at hsome; exact absurd hsome (by simp)
    | some credential =>
        by_cases hmatch : credentialMatches sha256 credential password = true
        · left
          exact ⟨hnew.1, hnew.2, ⟨credential, hrow, hmatch⟩, by simp only [hmatch, if_true]⟩
        · right
          refine ⟨.inr (.inr ?_), .inl (by simp only [hmatch]; rfl)⟩
          rintro ⟨credential', hsome, hmatch'⟩
          rw [hrow] at hsome
          obtain rfl := Option.some.inj hsome
          exact hmatch hmatch'

end DeviceDB
end DeskServer
