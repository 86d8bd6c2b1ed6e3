import DeskServer.Lib.Bytes
import DeskServer.Lib.TreeMap

/-!
# `Database.Schema` — the tables of the device database

The tables `DeviceDBManager::InitDB` creates, as maps from their primary keys to their rows: rows come
back in key order, and an insert that hits a key is a conflict. Every text column was bound with length
`-1`, so it is `SqlText`. The tables `user_devices` and `device_id_seq`, and the row number of `devices`,
are read by nothing that is modelled here.
-/

namespace DeskServer

open Bytes

/-- A row of `devices`. -/
structure Credential where
  passwordSalt : SqlText
  passwordHash : SqlText
deriving DecidableEq

/-- A row of `device_presence`. -/
structure PresenceRow where
  online : Int
  updatedAt : Int
  onlineSince : Int := 0
  totalOnlineSeconds : Int := 0
  totalControlSeconds : Int := 0
  totalControlledSeconds : Int := 0
  clientIp : SqlText := .empty
  geoCountry : SqlText := .empty
  geoRegion : SqlText := .empty
  geoCity : SqlText := .empty
  geoLocation : SqlText := .empty
  clientVersion : SqlText := .empty
  clientPlatform : SqlText := .empty
deriving DecidableEq

/-- `PRIMARY KEY (transmission_id, guest_id)`. -/
structure SessionKey where
  transmissionId : SqlText
  guestId : SqlText
deriving DecidableEq

namespace SessionKey

instance : Ord SessionKey :=
  ⟨compareLex (compareOn SessionKey.transmissionId) (compareOn SessionKey.guestId)⟩

instance : Std.TransOrd SessionKey :=
  inferInstanceAs (Std.TransCmp
    (compareLex (compareOn SessionKey.transmissionId) (compareOn SessionKey.guestId)))

instance : Std.LawfulEqOrd SessionKey where
  compare_self := Std.ReflCmp.compare_self
  eq_of_compare {a b} h := by
    have h' : compareLex (compareOn SessionKey.transmissionId) (compareOn SessionKey.guestId) a b
        = .eq := h
    rw [compareLex_eq_eq] at h'
    obtain ⟨ht, hg⟩ := h'
    have ht' := Std.LawfulEqOrd.eq_of_compare (α := SqlText) ht
    have hg' := Std.LawfulEqOrd.eq_of_compare (α := SqlText) hg
    cases a; cases b
    simp only [mk.injEq]; exact ⟨ht', hg'⟩

end SessionKey

/-- A row of `remote_control_sessions`, less its key. -/
structure SessionRow where
  hostId : SqlText
  normalizedGuestId : SqlText
  normalizedHostId : SqlText
  startedAt : Int
deriving DecidableEq

structure DeviceDB where
  devices : Std.ExtTreeMap SqlText Credential
  devicePresence : Std.ExtTreeMap SqlText PresenceRow
  remoteControlSessions : Std.ExtTreeMap SessionKey SessionRow
  /-- `last_seen_at` of the one row of `server_runtime`, once that row exists. -/
  serverRuntime : Option Int

namespace DeviceDB

/-- A database file that was just created. -/
def newFile : DeviceDB := ⟨∅, ∅, ∅, none⟩

/-! ## Reading a column -/

/-- `sqlite3_column_int`: the low 32 bits. -/
def columnInt (n : Int) : Int := if n % 2 ^ 32 < 2 ^ 31 then n % 2 ^ 32 else n % 2 ^ 32 - 2 ^ 32

@[simp] theorem columnInt_zero : columnInt 0 = 0 := rfl

@[simp] theorem columnInt_one : columnInt 1 = 1 := rfl

/-- What is lost is a multiple of `2 ^ 32`. -/
theorem columnInt_eq_zero_iff {n : Int} : columnInt n = 0 ↔ (2 ^ 32 : Int) ∣ n := by
  unfold columnInt
  split <;> omega

/-- A signed number as `size_t`. -/
def toSize (n : Int) : Nat := (n % 2 ^ 64).toNat

theorem toSize_columnInt {n : Nat} (h : n < 2 ^ 31) : toSize (columnInt n) = n := by
  unfold toSize columnInt
  split <;> omega

/-- A larger count comes out below its range or far above. -/
theorem toSize_columnInt_wrapped (n : Nat) :
    toSize (columnInt n) < 2 ^ 31 ∨ 2 ^ 63 ≤ toSize (columnInt n) := by
  unfold toSize columnInt
  split <;> omega

end DeviceDB

/-! ## Ids in the session table -/

/-- `NormalizeRemoteDeviceId`: a controller clone counts for its base id. -/
def normalizeRemoteDeviceId (deviceId : Bytes) : Bytes :=
  if startsWith (bytes "C-") deviceId then deviceId.drop 2 else deviceId

theorem normalizeRemoteDeviceId_clone (s : Bytes) :
    normalizeRemoteDeviceId (bytes "C-" ++ s) = s := by
  have : startsWith (bytes "C-") (bytes "C-" ++ s) = true :=
    startsWith_iff.mpr (List.prefix_append _ _)
  rw [normalizeRemoteDeviceId, if_pos this]; rfl

/-- Normalizing commutes with binding: the `C-` in front survives truncation. -/
theorem bindText_normalize_cstr (s : Bytes) :
    bindText (normalizeRemoteDeviceId (cstr s)) = bindText (normalizeRemoteDeviceId s) := by
  have hz : (0 : UInt8) ∉ bytes "C-" := by decide
  by_cases h : startsWith (bytes "C-") s = true
  · obtain ⟨rest, rfl⟩ := startsWith_iff.mp h
    rw [cstr_append hz, normalizeRemoteDeviceId_clone, normalizeRemoteDeviceId_clone, bindText_cstr]
  · have h' : ¬ startsWith (bytes "C-") (cstr s) = true := by rw [startsWith_cstr hz]; exact h
    rw [normalizeRemoteDeviceId, normalizeRemoteDeviceId, if_neg h, if_neg h', bindText_cstr]

end DeskServer
