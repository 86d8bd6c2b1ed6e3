import DeskServer.Lib.Run
import DeskServer.Database.Conservation

/-!
# `Database.Startup` — `InitDB` as a list of statements

`InitDB` runs one auto-committed statement after the other, so killing it leaves the effect of an
initial part of the list. The schema statements come first; then the recorded heartbeat decides whether
the sessions of the previous run are recovered or finalized, every online interval is closed, and the
heartbeat is recorded again.

**Shape.** The schema statements are idempotent and commute (`exec_schema_idem`, `exec_schema_comm`), so that
whatever part of them ran before, running all of them ends in the same database (`migrated_replay`, an
instance of the replay rule of `Lib.Run`). A statement that SQLite refuses is not modelled here.
-/

namespace DeskServer

open Bytes PresenceRow

/-- What `InitDB` creates when it is missing. A missing table reads as an empty one and a missing column
    as its default, so creating either changes no row of the model. -/
inductive SchemaObject where
  | devices | deviceIdSeq | deviceIdSeqRow | devicePresence
  | onlineSince | totalOnlineSeconds | totalControlSeconds | totalControlledSeconds
  | clientIp | geoCountry | geoRegion | geoCity | geoLocation | clientVersion | clientPlatform
  | userDevices | remoteControlSessions | normalizedGuestId | normalizedHostId
  | idxPresenceOnlineUpdatedAt | idxPresenceUpdatedAt | idxPresenceGeo
  | idxSessionsNormGuest | idxSessionsNormHost | idxSessionsHostTx
  | serverRuntime
deriving DecidableEq

/-- One statement of `InitDB`. -/
inductive Statement where
  | create (object : SchemaObject)
  | backfillOnlineSince
  | backfillNormalizedGuestId
  | backfillNormalizedHostId
  | serverRuntimeInit
  | finalizeRemote (cutoff : Int)
  | clearRemoteControlSessions
  | presenceStartupReset (staleCutoff now : Int)
  | recordRuntimeHeartbeat (now : Int)
deriving DecidableEq

/-- `id LIKE 'C-%'`; `LIKE` ignores the case of ASCII letters. -/
def likeClone (id : SqlText) : Bool :=
  match id.val with
  | c :: d :: _ => (c == 67 || c == 99) && d == 45
  | _ => false

/-- `CASE WHEN id LIKE 'C-%' THEN substr(id, 3) ELSE id END`, where the column is still empty. -/
def backfilledId (id normalized : SqlText) : SqlText :=
  if normalized = .empty then (if likeClone id then bindText (id.val.drop 2) else id) else normalized

namespace DeviceDB

/-- `online_since = updated_at WHERE online = 1 AND online_since = 0`. -/
def backfillRow (row : PresenceRow) : PresenceRow :=
  if row.online = 1 ∧ row.onlineSince = 0 then { row with onlineSince := row.updatedAt } else row

/-- `EXISTS (SELECT 1 … WHERE normalized_guest_id = d OR normalized_host_id = d)`. -/
def hasSession (db : DeviceDB) (d : SqlText) : Bool :=
  db.remoteControlSessions.toList.any fun e =>
    e.2.normalizedGuestId == d || e.2.normalizedHostId == d

/-- One row of `sql_finalize_remote`. -/
def finalizedRow (db : DeviceDB) (cutoff : Int) (d : SqlText) (row : PresenceRow) : PresenceRow :=
  if db.hasSession d then
    { row with
      totalControlSeconds := row.totalControlSeconds + db.liveControl cutoff d
      totalControlledSeconds := row.totalControlledSeconds + db.liveControlled cutoff d }
  else row

/-- One row of `sql_presence_startup_reset`. -/
def resetRow (staleCutoff now : Int) (row : PresenceRow) : PresenceRow :=
  if row.online = 1 then
    { row with
      totalOnlineSeconds := row.totalOnlineSeconds +
        if staleCutoff > 0 ∧ row.onlineSince > 0 then max 0 (staleCutoff - row.onlineSince) else 0
      online := 0
      updatedAt := if staleCutoff > 0 then staleCutoff else now
      onlineSince := 0 }
  else row

/-- `RecordRuntimeHeartbeat`. -/
def recordRuntimeHeartbeat (db : DeviceDB) (now : Int) : DeviceDB :=
  { db with serverRuntime := db.serverRuntime.map fun _ => now }

/-- `GetRuntimeLastSeen`. -/
def getRuntimeLastSeen (db : DeviceDB) : Int := db.serverRuntime.getD 0

/-- The effect of one statement. -/
def exec (db : DeviceDB) : Statement → DeviceDB
  | .create _ => db
  | .backfillOnlineSince =>
      { db with devicePresence := db.devicePresence.map fun _ row => backfillRow row }
  | .backfillNormalizedGuestId =>
      { db with remoteControlSessions := db.remoteControlSessions.map fun key row =>
          { row with normalizedGuestId := backfilledId key.guestId row.normalizedGuestId } }
  | .backfillNormalizedHostId =>
      { db with remoteControlSessions := db.remoteControlSessions.map fun _ row =>
          { row with normalizedHostId := backfilledId row.hostId row.normalizedHostId } }
  | .serverRuntimeInit => { db with serverRuntime := some (db.serverRuntime.getD 0) }
  | .finalizeRemote cutoff =>
      { db with devicePresence := db.devicePresence.map (db.finalizedRow cutoff) }
  | .clearRemoteControlSessions => { db with remoteControlSessions := ∅ }
  | .presenceStartupReset staleCutoff now =>
      { db with devicePresence := db.devicePresence.map fun _ row => resetRow staleCutoff now row }
  | .recordRuntimeHeartbeat now => db.recordRuntimeHeartbeat now

/-- The statements up to the read of the heartbeat, in the order of the source. -/
def schemaStatements : List Statement :=
  [.create .devices, .create .deviceIdSeq, .create .deviceIdSeqRow, .create .devicePresence,
    .create .onlineSince, .create .totalOnlineSeconds, .create .totalControlSeconds,
    .create .totalControlledSeconds, .create .clientIp, .create .geoCountry, .create .geoRegion,
    .create .geoCity, .create .geoLocation, .create .clientVersion, .create .clientPlatform,
    .backfillOnlineSince, .create .userDevices, .create .remoteControlSessions,
    .create .normalizedGuestId, .create .normalizedHostId, .backfillNormalizedGuestId,
    .backfillNormalizedHostId, .create .idxPresenceOnlineUpdatedAt, .create .idxPresenceUpdatedAt,
    .create .idxPresenceGeo, .create .idxSessionsNormGuest, .create .idxSessionsNormHost,
    .create .idxSessionsHostTx, .create .serverRuntime, .serverRuntimeInit]

/-- `kRemoteControlRecoveryWindowSeconds`. -/
def remoteControlRecoveryWindowSeconds : Int := 120

/-- `stale_cutoff`. -/
def staleCutoff (runtimeLastSeen now : Int) : Int :=
  if runtimeLastSeen > 0 then min runtimeLastSeen now else 0

/-- `recover_remote_sessions`. -/
def recoverRemoteSessions (runtimeLastSeen now : Int) : Bool :=
  decide (staleCutoff runtimeLastSeen now > 0) &&
    decide (now - staleCutoff runtimeLastSeen now ≤ remoteControlRecoveryWindowSeconds)

/-- The statements after that read; `beat` is the second clock reading, in `RecordRuntimeHeartbeat`. -/
def recoveryStatements (runtimeLastSeen now beat : Int) : List Statement :=
  let cutoff := staleCutoff runtimeLastSeen now
  (if recoverRemoteSessions runtimeLastSeen now then []
    else (if cutoff > 0 then [.finalizeRemote cutoff] else []) ++ [.clearRemoteControlSessions]) ++
  [.presenceStartupReset cutoff now, .recordRuntimeHeartbeat beat]

/-- The database with its schema up to date. -/
def migrated (db : DeviceDB) : DeviceDB := Run.run exec db schemaStatements

/-- All statements `InitDB` runs on `db`. -/
def startupStatements (db : DeviceDB) (now beat : Int) : List Statement :=
  schemaStatements ++ recoveryStatements db.migrated.getRuntimeLastSeen now beat

def initDB (db : DeviceDB) (now beat : Int) : DeviceDB :=
  Run.run exec db (db.startupStatements now beat)

/-- `InitDB` killed after its first `k` statements. -/
def initDBKilledAfter (db : DeviceDB) (now beat : Int) (k : Nat) : DeviceDB :=
  Run.run exec db ((db.startupStatements now beat).take k)

variable {db : DeviceDB}

/-! ## The schema statements -/

theorem backfillRow_idem (row : PresenceRow) : backfillRow (backfillRow row) = backfillRow row := by
  unfold backfillRow
  by_cases h : row.online = 1 ∧ row.onlineSince = 0
  · simp [h]
  · simp [h]

/-- A row is up to date when an interval open since `0` was last touched at `0`. -/
theorem backfillRow_eq_self_iff (row : PresenceRow) :
    backfillRow row = row ↔ (row.online = 1 → row.onlineSince = 0 → row.updatedAt = 0) := by
  unfold backfillRow
  by_cases h : row.online = 1 ∧ row.onlineSince = 0
  · rw [if_pos h]
    constructor
    · intro heq _ _
      rw [← h.2]; exact congrArg PresenceRow.onlineSince heq
    · intro hu
      cases row
      simp only [PresenceRow.mk.injEq, true_and, and_true]
      exact (hu h.1 h.2).trans h.2.symm
  · rw [if_neg h]
    exact iff_of_true rfl fun ho hs => absurd ⟨ho, hs⟩ h

theorem backfilledId_idem (id normalized : SqlText) :
    backfilledId id (backfilledId id normalized) = backfilledId id normalized := by
  unfold backfilledId
  by_cases h : normalized = .empty
  · simp only [h, if_true]
    split <;> exact ite_self _
  · simp [h]

/-- The part of `exec` that runs before the heartbeat is read: every statement rewrites rows of one
    column in place. -/
def IsSchema (st : Statement) : Prop :=
  (∃ o, st = .create o) ∨ st = .backfillOnlineSince ∨ st = .backfillNormalizedGuestId ∨
    st = .backfillNormalizedHostId ∨ st = .serverRuntimeInit

instance (st : Statement) : Decidable (IsSchema st) :=
  match st with
  | .create o => isTrue (.inl ⟨o, rfl⟩)
  | .backfillOnlineSince => isTrue (.inr (.inl rfl))
  | .backfillNormalizedGuestId => isTrue (.inr (.inr (.inl rfl)))
  | .backfillNormalizedHostId => isTrue (.inr (.inr (.inr (.inl rfl))))
  | .serverRuntimeInit => isTrue (.inr (.inr (.inr (.inr rfl))))
  | .finalizeRemote _ => isFalse (by simp [IsSchema])
  | .clearRemoteControlSessions => isFalse (by simp [IsSchema])
  | .presenceStartupReset _ _ => isFalse (by simp [IsSchema])
  | .recordRuntimeHeartbeat _ => isFalse (by simp [IsSchema])

theorem isSchema_of_mem {st : Statement} (h : st ∈ schemaStatements) : IsSchema st := by
  have hall : ∀ st ∈ schemaStatements, IsSchema st := by decide
  exact hall st h

/-- Rewriting the values of a map twice. -/
theorem map_map_eq {α β : Type} [Ord α] [Std.TransOrd α] [Std.LawfulEqOrd α]
    (m : Std.ExtTreeMap α β) (f g h : α → β → β) (hfg : ∀ k v, g k (f k v) = h k v) :
    (m.map f).map g = m.map h := by
  apply Std.ExtTreeMap.ext_getElem?
  intro k
  rw [Std.ExtTreeMap.getElem?_map, Std.ExtTreeMap.getElem?_map, Std.ExtTreeMap.getElem?_map,
    Option.map_map]
  congr 1
  funext v
  exact hfg k v

theorem exec_schema_idem {st : Statement} (h : IsSchema st) (db : DeviceDB) :
    (db.exec st).exec st = db.exec st := by
  rcases h with ⟨o, rfl⟩ | rfl | rfl | rfl | rfl
  · rfl
  · simp only [exec]
    rw [map_map_eq _ _ _ _ fun _ row => backfillRow_idem row]
  · simp only [exec]
    rw [map_map_eq _ _ _ _ fun _ _ => by rw [backfilledId_idem]]
  · simp only [exec]
    rw [map_map_eq _ _ _ _ fun _ _ => by rw [backfilledId_idem]]
  · simp [exec]

/-- Two schema statements write different columns, so their order does not matter. -/
theorem exec_schema_comm {st st' : Statement} (h : IsSchema st) (h' : IsSchema st') (db : DeviceDB) :
    (db.exec st).exec st' = (db.exec st').exec st := by
  have hboth : ∀ db : DeviceDB, (db.exec .backfillNormalizedGuestId).exec .backfillNormalizedHostId
      = (db.exec .backfillNormalizedHostId).exec .backfillNormalizedGuestId := by
    intro db
    simp only [exec]
    congr 1
    rw [map_map_eq _ _ _ _ fun _ _ => rfl, map_map_eq _ _ _ _ fun _ _ => rfl]
  rcases h with ⟨o, rfl⟩ | rfl | rfl | rfl | rfl <;>
    rcases h' with ⟨o', rfl⟩ | rfl | rfl | rfl | rfl <;>
    first | rfl | exact hboth db | exact (hboth db).symm

/-- **Part of the schema statements, run before, changes nothing.** -/
theorem migrated_replay (db : DeviceDB) {part : List Statement} (hp : part ⊆ schemaStatements) :
    (Run.run exec db part).migrated = db.migrated :=
  Run.run_replay exec (fun _ h db => exec_schema_idem (isSchema_of_mem h) db)
    (fun _ h _ h' db => exec_schema_comm (isSchema_of_mem h) (isSchema_of_mem h') db) hp db

/-! ## A database whose schema is up to date -/

/-- Every schema statement has been applied. -/
structure UpToDate (db : DeviceDB) : Prop where
  presence : ∀ (d : SqlText) row, db.devicePresence[d]? = some row → backfillRow row = row
  guest : ∀ (k : SessionKey) row, db.remoteControlSessions[k]? = some row →
    backfilledId k.guestId row.normalizedGuestId = row.normalizedGuestId
  host : ∀ (k : SessionKey) row, db.remoteControlSessions[k]? = some row →
    backfilledId row.hostId row.normalizedHostId = row.normalizedHostId
  runtime : db.serverRuntime = some db.getRuntimeLastSeen

/-- A rewrite that changes no stored value is the identity. -/
theorem map_eq_self {α β : Type} [Ord α] [Std.TransOrd α] [Std.LawfulEqOrd α]
    {m : Std.ExtTreeMap α β} {f : α → β → β} (h : ∀ k v, m[k]? = some v → f k v = v) :
    m.map f = m := by
  apply Std.ExtTreeMap.ext_getElem?
  intro k
  rw [Std.ExtTreeMap.getElem?_map]
  cases hk : m[k]? with
  | none => rfl
  | some v => rw [Option.map_some, h k v hk]

theorem UpToDate.migrated_eq (h : UpToDate db) : db.migrated = db := by
  apply Run.run_fixed exec
  intro st hst
  rcases isSchema_of_mem hst with ⟨o, rfl⟩ | rfl | rfl | rfl | rfl
  · rfl
  · simp only [exec]
    rw [map_eq_self fun d row hd => h.presence d row hd]
  · simp only [exec]
    rw [map_eq_self fun k row hk => by rw [h.guest k row hk]]
  · simp only [exec]
    rw [map_eq_self fun k row hk => by rw [h.host k row hk]]
  · simp only [exec]
    rw [h.runtime, Option.getD_some, ← h.runtime]

/-- What the schema statements come to. -/
theorem migrated_def (db : DeviceDB) : db.migrated =
    { db with
      devicePresence := db.devicePresence.map fun _ row => backfillRow row
      remoteControlSessions := (db.remoteControlSessions.map fun key row =>
        { row with normalizedGuestId := backfilledId key.guestId row.normalizedGuestId }).map
          fun _ row => { row with normalizedHostId := backfilledId row.hostId row.normalizedHostId }
      serverRuntime := some (db.serverRuntime.getD 0) } := rfl

theorem migrated_upToDate (db : DeviceDB) : UpToDate db.migrated := by
  rw [migrated_def]
  refine ⟨?_, ?_, ?_, rfl⟩
  · intro d row hd
    rw [Std.ExtTreeMap.getElem?_map] at hd
    obtain ⟨old, _, rfl⟩ := Option.map_eq_some_iff.mp hd
    exact backfillRow_idem old
  · intro k row hk
    rw [Std.ExtTreeMap.getElem?_map, Std.ExtTreeMap.getElem?_map, Option.map_map] at hk
    obtain ⟨old, _, rfl⟩ := Option.map_eq_some_iff.mp hk
    exact backfilledId_idem _ _
  · intro k row hk
    rw [Std.ExtTreeMap.getElem?_map, Std.ExtTreeMap.getElem?_map, Option.map_map] at hk
    obtain ⟨old, _, rfl⟩ := Option.map_eq_some_iff.mp hk
    exact backfilledId_idem _ _

/-- `InitDB` is the schema statements, then the recovery statements for the heartbeat found there. -/
theorem initDB_eq (db : DeviceDB) (now beat : Int) : db.initDB now beat =
    Run.run exec db.migrated (recoveryStatements db.migrated.getRuntimeLastSeen now beat) := by
  rw [initDB, startupStatements, Run.run_append]; rfl

theorem UpToDate.initDB_eq (h : UpToDate db) (now beat : Int) : db.initDB now beat =
    Run.run exec db (recoveryStatements db.getRuntimeLastSeen now beat) := by
  rw [DeviceDB.initDB_eq, h.migrated_eq]

end DeviceDB
end DeskServer
