import DeskServer.Database.Registration
import DeskServer.Database.Runs

/-!
# `Database.Atomicity` — session starts and ends when statements fail

`StartRemoteControlSession` and `EndRemoteControlSession` again, on a connection and with an ending for
every statement they execute. Both put their writes into one transaction and look at every result, so
from a connection without an open transaction the transaction is all or nothing. What an end reads
beforehand is another matter: a look-up that fails reads as "no such session".

**Shape.** The writes of both calls are lists that `Connection.atomically` runs, so that `Lib.Transaction`
says what the tables are after any ending; this file adds what is read before (`EndSettles`) and goes through
the ways an end can go. The connections are those that any such calls leave, whatever their endings
(`ReachableConnection`).
-/

namespace DeskServer

open Bytes Transaction

/-- How the statements of one start end. -/
structure StartEndings where
  begun : Ending
  hostPresence : Ending
  guestPresence : Ending
  insert : Ending
  committed : Ending
  rolledBack : Ending

/-- How the statements of one end end. -/
structure EndEndings where
  selectPrepared : Bool
  select : Ending
  begun : Ending
  addControl : Ending
  addControlled : Ending
  delete : Ending
  committed : Ending
  rolledBack : Ending

/-- Every statement of a start is done. -/
def StartEndings.allDone : StartEndings := ⟨.done, .done, .done, .done, .done, .done⟩

/-- Every statement of an end is done. -/
def EndEndings.allDone : EndEndings := ⟨true, .done, .done, .done, .done, .done, .done, .done⟩

namespace DeviceDB

/-- `INSERT OR IGNORE INTO remote_control_sessions`. -/
def insertSession (db : DeviceDB) (now : Int) (transmissionId hostId guestId : Bytes) : DeviceDB :=
  { db with
    remoteControlSessions := db.remoteControlSessions.insertIfNew
      ⟨bindText transmissionId, bindText guestId⟩ (sessionRow now hostId guestId) }

/-- `DELETE FROM remote_control_sessions WHERE transmission_id = ? AND guest_id = ?`. -/
def deleteSession (db : DeviceDB) (transmissionId guestId : Bytes) : DeviceDB :=
  { db with
    remoteControlSessions := db.remoteControlSessions.erase
      ⟨bindText transmissionId, bindText guestId⟩ }

/-- The writes of a start. -/
def startWrites (now : Int) (transmissionId hostId guestId : Bytes) (endings : StartEndings) :
    List ((DeviceDB → DeviceDB) × Ending) :=
  [(fun db => db.ensurePresence now (normalizeRemoteDeviceId hostId), endings.hostPresence),
    (fun db => db.ensurePresence now (normalizeRemoteDeviceId guestId), endings.guestPresence),
    (fun db => db.insertSession now transmissionId hostId guestId, endings.insert)]

/-- `StartRemoteControlSession`. -/
def startRemoteControlSessionOn (c : Connection DeviceDB) (now : Int)
    (transmissionId hostId guestId : Bytes) (endings : StartEndings) : Bool × Connection DeviceDB :=
  if transmissionId = [] ∨ hostId = [] ∨ guestId = [] ∨ hostId = guestId then (false, c)
  else
    c.atomically endings.begun (startWrites now transmissionId hostId guestId endings)
      endings.committed endings.rolledBack

/-- The writes of an end that found `row`. -/
def endWrites (now : Int) (transmissionId hostId guestId : Bytes) (row : SessionRow)
    (endings : EndEndings) : List ((DeviceDB → DeviceDB) × Ending) :=
  let duration := max 0 (now - row.startedAt)
  [(fun db => db.addControl (normalizeRemoteDeviceId guestId) duration, endings.addControl),
    (fun db => db.addControlled (normalizeRemoteDeviceId (effectiveHostId row hostId)) duration,
      endings.addControlled),
    (fun db => db.deleteSession transmissionId guestId, endings.delete)]

/-- `EndRemoteControlSession`. -/
def endRemoteControlSessionOn (c : Connection DeviceDB) (now : Int)
    (transmissionId hostId guestId : Bytes) (endings : EndEndings) : Bool × Connection DeviceDB :=
  if transmissionId = [] ∨ guestId = [] then (false, c)
  else if !endings.selectPrepared then (false, c)
  else
    let key : SessionKey := ⟨bindText transmissionId, bindText guestId⟩
    match c.read (fun db => db.remoteControlSessions[key]?) endings.select with
    | (some (some row), c) =>
      if effectiveHostId row hostId = [] then (false, c)
      else
        c.atomically endings.begun (endWrites now transmissionId hostId guestId row endings)
          endings.committed endings.rolledBack
    -- a look-up that fails finds nothing
    | (_, c) => (true, c)

/-! ## When every statement is done -/

/-- **When every statement is done a start is `startRemoteControlSession`.** -/
theorem startRemoteControlSessionOn_done (db : DeviceDB) (now : Int) (t h g : Bytes) :
    startRemoteControlSessionOn ⟨db, none⟩ now t h g .allDone =
      ((db.startRemoteControlSession now t h g).1, ⟨(db.startRemoteControlSession now t h g).2, none⟩) := by
  unfold startRemoteControlSessionOn startRemoteControlSession
  split <;> rfl

/-- **When every statement is done an end is `endRemoteControlSession`.** -/
theorem endRemoteControlSessionOn_done (db : DeviceDB) (now : Int) (t h g : Bytes) :
    endRemoteControlSessionOn ⟨db, none⟩ now t h g .allDone =
      ((db.endRemoteControlSession now t h g).1, ⟨(db.endRemoteControlSession now t h g).2, none⟩) := by
  unfold endRemoteControlSessionOn endRemoteControlSession
  by_cases hargs : t = [] ∨ g = []
  · rw [if_pos hargs, if_pos hargs]
  · rw [if_neg hargs, if_neg hargs]
    simp only [EndEndings.allDone, Bool.not_true, Bool.false_eq_true, if_false, Connection.read,
      Connection.view, Option.getD_none]
    cases db.remoteControlSessions[(⟨bindText t, bindText g⟩ : SessionKey)]? with
    | none => rfl
    | some row =>
        by_cases heffective : effectiveHostId row h = []
        · simp only [heffective, if_true]
        · simp only [heffective, if_false]
          rfl

/-! ## The states a connection goes through -/

/-- What a connection can hold: whatever fails on the way, a `ROLLBACK` of a start or an end apart. A
    transaction that `AddDevice` left open takes in every statement that follows. -/
inductive ReachableConnection : Connection DeviceDB → Prop
  | opened : ReachableConnection ⟨newFile, none⟩
  /-- A new connection on what is committed, and a startup that may be cut short. `lastSeen` is what it
      reads of the last heartbeat. -/
  | restarted {c : Connection DeviceDB} (lastSeen now beat : Int) (k : Nat) : ReachableConnection c →
      ReachableConnection
        ⟨Run.run exec c.committed ((schemaStatements ++ recoveryStatements lastSeen now beat).take k), none⟩
  | setDeviceOnline {c : Connection DeviceDB} (now : Int) (deviceId : Bytes) (online : Bool) (e : Ending) :
      ReachableConnection c →
      ReachableConnection (c.write (fun db => db.perform (now, .setDeviceOnline deviceId online)) e).2
  | updateDeviceNetworkInfo {c : Connection DeviceDB} (now : Int) (deviceId : Bytes)
      (networkInfo : ClientNetworkInfo) (e : Ending) : ReachableConnection c →
      ReachableConnection
        (c.write (fun db => db.perform (now, .updateDeviceNetworkInfo deviceId networkInfo)) e).2
  | updateDeviceClientInfo {c : Connection DeviceDB} (now : Int)
      (deviceId clientVersion clientPlatform : Bytes) (e : Ending) : ReachableConnection c →
      ReachableConnection (c.write
        (fun db => db.perform (now, .updateDeviceClientInfo deviceId clientVersion clientPlatform)) e).2
  | heartbeat {c : Connection DeviceDB} (now : Int) (e : Ending) : ReachableConnection c →
      ReachableConnection (c.write (fun db => db.recordRuntimeHeartbeat now) e).2
  /-- `UpdatePassword` and `RemoveDevice`. -/
  | credentials {c : Connection DeviceDB}
      (f : Std.ExtTreeMap SqlText Credential → Std.ExtTreeMap SqlText Credential) (e : Ending) :
      ReachableConnection c →
      ReachableConnection (c.write (fun db => { db with devices := f db.devices }) e).2
  /-- A query, on whichever table. -/
  | queried {c : Connection DeviceDB} (e : Ending) : ReachableConnection c → ReachableConnection (c.spoil e)
  | addDevice {c : Connection DeviceDB} (sha256 : Digest) (draws : Draws) (endings : AddDeviceEndings)
      (deviceId password : Bytes) : ReachableConnection c →
      ReachableConnection (addDeviceOn sha256 c draws endings deviceId password).2
  | sessionStarted {c : Connection DeviceDB} (now : Int) (t h g : Bytes) (endings : StartEndings) :
      endings.rolledBack ≠ .failed → ReachableConnection c →
      ReachableConnection (startRemoteControlSessionOn c now t h g endings).2
  | sessionEnded {c : Connection DeviceDB} (now : Int) (t h g : Bytes) (endings : EndEndings) :
      endings.rolledBack ≠ .failed → ReachableConnection c →
      ReachableConnection (endRemoteControlSessionOn c now t h g endings).2

/-- The sessions of a transaction that was left open are the committed ones. -/
def SameSessions (committed staged : DeviceDB) : Prop :=
  committed.remoteControlSessions = staged.remoteControlSessions

variable {c : Connection DeviceDB}

/-- The writes of an end, together. -/
theorem applied_endWrites (db : DeviceDB) (now : Int) (t h g : Bytes) (row : SessionRow)
    (endings : EndEndings) :
    Connection.applied (endWrites now t h g row endings) db =
      db.ended now ⟨bindText t, bindText g⟩ row (effectiveHostId row h) g := rfl

/-- The writes of a start, together. -/
theorem applied_startWrites (db : DeviceDB) (now : Int) {t h g : Bytes}
    (hargs : ¬ (t = [] ∨ h = [] ∨ g = [] ∨ h = g)) (endings : StartEndings) :
    Connection.applied (startWrites now t h g endings) db =
      (db.startRemoteControlSession now t h g).2 := by
  unfold startRemoteControlSession
  rw [if_neg hargs]
  rfl

theorem startRemoteControlSessionOn_keeps (h : c.Keeps Accounted SameSessions) (now : Int)
    (t host g : Bytes) (endings : StartEndings) (hr : endings.rolledBack ≠ .failed) :
    (startRemoteControlSessionOn c now t host g endings).2.Keeps Accounted SameSessions := by
  unfold startRemoteControlSessionOn
  split
  · exact h
  · rename_i hargs
    refine h.atomically _ (fun db hdb => ?_) _ hr
    rw [applied_startWrites db now hargs]
    exact (startRemoteControlSession_spec hdb now t host g).1

theorem endRemoteControlSessionOn_keeps (h : c.Keeps Accounted SameSessions) (now : Int)
    (t host g : Bytes) (endings : EndEndings) (hr : endings.rolledBack ≠ .failed) :
    (endRemoteControlSessionOn c now t host g endings).2.Keeps Accounted SameSessions := by
  unfold endRemoteControlSessionOn
  split
  · exact h
  · split
    · exact h
    · have hread := h.read (fun db => db.remoteControlSessions[(⟨bindText t, bindText g⟩ : SessionKey)]?)
        endings.select
      simp only
      split
      · rename_i hrow
        rw [hrow] at hread
        split
        · exact hread
        · refine hread.atomically _ (fun db hdb => ?_) _ hr
          rw [applied_endWrites]
          exact hdb.ended now _ _ _ g
      · rename_i hrow
        rw [hrow] at hread
        exact hread

/-- A write that touches no session. -/
theorem write_keeps (h : c.Keeps Accounted SameSessions) {f : DeviceDB → DeviceDB}
    (hf : ∀ db, Accounted db → Accounted (f db))
    (hsessions : ∀ db, (f db).remoteControlSessions = db.remoteControlSessions) (e : Ending) :
    (c.write f e).2.Keeps Accounted SameSessions :=
  h.write hf (fun _ t hst => hst.trans (hsessions t).symm) e

/-- **The accounting invariant holds of what is committed and of what is staged**, and no session is
    staged. -/
theorem ReachableConnection.keeps (h : ReachableConnection c) : c.Keeps Accounted SameSessions := by
  induction h with
  | opened => exact Connection.keeps_closed newFile_accounted
  | restarted lastSeen now beat k _ ih =>
      exact Connection.keeps_closed
        (Run.run_invariant exec (I := Accounted) (fun _ st hs => hs.exec st) ih.committed _)
  | setDeviceOnline now d online e _ ih =>
      refine write_keeps ih (fun db hdb => (perform_spec hdb _).1) (fun db => ?_) e
      cases online <;> rfl
  | updateDeviceNetworkInfo now d info e _ ih =>
      refine write_keeps ih (fun db hdb => (perform_spec hdb _).1) (fun db => ?_) e
      unfold perform DeviceDB.updateDeviceNetworkInfo
      simp only
      split <;> rfl
  | updateDeviceClientInfo now d version platform e _ ih =>
      refine write_keeps ih (fun db hdb => (perform_spec hdb _).1) (fun db => ?_) e
      unfold perform DeviceDB.updateDeviceClientInfo
      simp only
      split <;> rfl
  | heartbeat now e _ ih =>
      exact write_keeps ih (f := fun db => db.recordRuntimeHeartbeat now)
        (fun db hdb => hdb.of_tables rfl rfl) (fun _ => rfl) e
  | credentials f e _ ih =>
      exact write_keeps ih (f := fun db => { db with devices := f db.devices })
        (fun db hdb => hdb.of_tables rfl rfl) (fun _ => rfl) e
  | queried e _ ih => exact ih.spoil e
  | addDevice sha256 draws endings d p _ ih =>
      exact addDeviceOn_keeps (R := SameSessions) (fun _ => rfl)
        (fun db devices hdb => hdb.of_tables rfl rfl) (fun _ _ _ hst => hst) ih sha256 draws endings d p
  | sessionStarted now t host g endings hr _ ih =>
      exact startRemoteControlSessionOn_keeps ih now t host g endings hr
  | sessionEnded now t host g endings hr _ ih =>
      exact endRemoteControlSessionOn_keeps ih now t host g endings hr

/-! ## Atomic calls -/

/-- `device_presence` and `remote_control_sessions` are the same. -/
def SameTables (db db' : DeviceDB) : Prop :=
  db.devicePresence = db'.devicePresence ∧ db.remoteControlSessions = db'.remoteControlSessions

theorem SameTables.refl (db : DeviceDB) : SameTables db db := ⟨rfl, rfl⟩

/-- A call that returns `false` leaves both tables as they were, and no transaction open. -/
def Refused (c : Connection DeviceDB) (result : Bool × Connection DeviceDB) : Prop :=
  result.1 = false → SameTables c.view result.2.view ∧ result.2.pending = none

/-- **A start is atomic**: refused, or everything is committed and the rows are there. -/
structure StartAtomic (c : Connection DeviceDB) (now : Int) (transmissionId hostId guestId : Bytes)
    (result : Bool × Connection DeviceDB) : Prop where
  refused : Refused c result
  accepted : result.1 = true →
    result.2 = ⟨(c.view.startRemoteControlSession now transmissionId hostId guestId).2, none⟩ ∧
    (result.2.committed.devicePresence[bindText (normalizeRemoteDeviceId hostId)]?).isSome ∧
    (result.2.committed.devicePresence[bindText (normalizeRemoteDeviceId guestId)]?).isSome ∧
    (result.2.committed.remoteControlSessions[
      (⟨bindText transmissionId, bindText guestId⟩ : SessionKey)]?).isSome

/-- **An end is atomic**: refused, or there was no such session and nothing changed, or both ends had a
    row to credit and credits and deletion are committed. -/
structure EndAtomic (c : Connection DeviceDB) (now : Int) (transmissionId hostId guestId : Bytes)
    (result : Bool × Connection DeviceDB) : Prop where
  refused : Refused c result
  accepted : result.1 = true →
    (c.view.endedRow transmissionId guestId = none ∧ SameTables c.view result.2.view) ∨
    ∃ row, c.view.endedRow transmissionId guestId = some row ∧
      (c.view.devicePresence[bindText (normalizeRemoteDeviceId guestId)]?).isSome ∧
      (c.view.devicePresence[bindText (normalizeRemoteDeviceId (effectiveHostId row hostId))]?).isSome ∧
      result.2 = ⟨c.view.ended now ⟨bindText transmissionId, bindText guestId⟩ row
        (effectiveHostId row hostId) guestId, none⟩

/-- **What an end needs**: nothing is open already; the look-up of a session that is there does not fail;
    and the host it would credit has a row. Where there is no session, nothing but an open transaction
    can be lost, to a look-up that rolls it back. -/
def EndSettles (c : Connection DeviceDB) (now : Int) (transmissionId hostId guestId : Bytes)
    (endings : EndEndings) : Prop :=
  if transmissionId = [] ∨ guestId = [] ∨ endings.selectPrepared = false then c.pending = none
  else
    match c.view.endedRow transmissionId guestId with
    | none => endings.select = .aborted → SameTables c.view c.committed
    | some row =>
      endings.select = .done ∧ c.pending = none ∧
        (effectiveHostId row hostId ≠ [] →
          Connection.AllDone endings.begun (endWrites now transmissionId hostId guestId row endings)
            endings.committed →
          (c.view.devicePresence[
            bindText (normalizeRemoteDeviceId (effectiveHostId row hostId))]?).isSome)

theorem refused_same_iff : Refused c (false, c) ↔ c.pending = none :=
  ⟨fun h => (h rfl).2, fun h _ => ⟨SameTables.refl _, h⟩⟩

/-- The rows a start makes sure of. -/
theorem startRemoteControlSession_rows (db : DeviceDB) (now : Int) {t h g : Bytes}
    (hargs : ¬ (t = [] ∨ h = [] ∨ g = [] ∨ h = g)) :
    let started := (db.startRemoteControlSession now t h g).2
    (started.devicePresence[bindText (normalizeRemoteDeviceId h)]?).isSome ∧
    (started.devicePresence[bindText (normalizeRemoteDeviceId g)]?).isSome ∧
    (started.remoteControlSessions[(⟨bindText t, bindText g⟩ : SessionKey)]?).isSome := by
  unfold startRemoteControlSession
  rw [if_neg hargs]
  refine ⟨?_, ?_, ?_⟩
  · exact (ensurePresence_isSome _ now _ _).mpr (.inr ((ensurePresence_isSome _ now _ _).mpr (.inl rfl)))
  · exact (ensurePresence_isSome _ now _ _).mpr (.inl rfl)
  · rw [Std.ExtTreeMap.getElem?_insertIfNew]
    split
    · rfl
    · rename_i hnew
      rw [Std.ExtTreeMap.isSome_getElem?_eq_contains]
      simpa using hnew

/-- **A start is atomic exactly when no transaction is open.** -/
theorem startRemoteControlSessionOn_atomic_iff (c : Connection DeviceDB) (now : Int) (t h g : Bytes)
    {endings : StartEndings} (hr : endings.rolledBack ≠ .failed) :
    StartAtomic c now t h g (startRemoteControlSessionOn c now t h g endings) ↔ c.pending = none := by
  have hkept : StartAtomic c now t h g (false, c) ↔ c.pending = none :=
    ⟨fun hatomic => refused_same_iff.mp hatomic.refused,
      fun hclosed => ⟨refused_same_iff.mpr hclosed, fun htrue => absurd htrue (by simp)⟩⟩
  unfold startRemoteControlSessionOn
  split
  · exact hkept
  · rename_i hargs
    cases hp : c.pending with
    | some staged =>
        rw [Connection.atomically_of_open _ _ _ _ hp, hkept, hp]
    | none =>
        obtain ⟨db, pending⟩ := c
        obtain rfl : pending = none := hp
        refine iff_of_true ?_ rfl
        rw [Connection.atomically_of_closed _ _ _ _ hr]
        split
        · rw [applied_startWrites db now hargs]
          refine ⟨fun hfalse => absurd hfalse (by simp), fun _ => ⟨rfl, ?_⟩⟩
          exact startRemoteControlSession_rows db now hargs
        · exact hkept.mpr rfl

/-- A session that is ended is gone. -/
theorem ended_session (db : DeviceDB) (now : Int) (key : SessionKey) (row : SessionRow) (host g : Bytes) :
    (db.ended now key row host g).remoteControlSessions[key]? = none :=
  Std.ExtTreeMap.getElem?_erase_self

/-- A look-up that fails on a session that is there leaves it there. -/
theorem spoil_not_ended (hreach : c.Keeps Accounted SameSessions) (now : Int) {t g : Bytes}
    {row : SessionRow} (hrow : c.view.endedRow t g = some row) (e : Ending) (host : Bytes) :
    c.spoil e ≠ ⟨c.view.ended now ⟨bindText t, bindText g⟩ row host g, none⟩ := by
  intro hspoil
  have hlookup := endedRow_lookup hrow
  have hsessions : (c.spoil e).view.remoteControlSessions = c.view.remoteControlSessions := by
    cases e with
    | done | failed => rfl
    | aborted =>
        unfold Connection.view
        cases hp : c.pending with
        | none => rfl
        | some staged => exact (hreach.pending staged hp).2
  rw [← hsessions, hspoil, Connection.view, Option.getD_none, ended_session] at hlookup
  exact absurd hlookup (by simp)

/-- The guest of a session that is there has a presence row. -/
theorem Accounted.guest_isSome {db : DeviceDB} (h : Accounted db) {t g : Bytes} {row : SessionRow}
    (hrow : db.endedRow t g = some row) :
    (db.devicePresence[bindText (normalizeRemoteDeviceId g)]?).isSome := by
  have hlookup := endedRow_lookup hrow
  have hpresent := h.guestPresent _ row hlookup
  rw [h.guest _ row hlookup] at hpresent
  rwa [← bindText_normalize_cstr]

/-! ### The ways an end can go -/

section End

variable {now : Int} {t h g : Bytes} {row : SessionRow}

theorem endAtomic_kept_iff : EndAtomic c now t h g (false, c) ↔ c.pending = none :=
  ⟨fun hatomic => refused_same_iff.mp hatomic.refused,
    fun hclosed => ⟨refused_same_iff.mpr hclosed, fun htrue => absurd htrue (by simp)⟩⟩

/-- Without a session, nothing may change. -/
theorem endAtomic_missing_iff (hrow : c.view.endedRow t g = none) (c' : Connection DeviceDB) :
    EndAtomic c now t h g (true, c') ↔ SameTables c.view c'.view := by
  constructor
  · intro hatomic
    rcases hatomic.accepted rfl with ⟨_, hsame⟩ | ⟨row, hsome, _⟩
    · exact hsame
    · rw [hrow] at hsome
      exact absurd hsome (by simp)
  · intro hsame
    exact ⟨fun hfalse => absurd hfalse (by simp), fun _ => .inl ⟨hrow, hsame⟩⟩

/-- A session that is there is not ended by a look-up that fails. -/
theorem endAtomic_lost (hreach : c.Keeps Accounted SameSessions)
    (hrow : c.view.endedRow t g = some row) (e : Ending) :
    ¬ EndAtomic c now t h g (true, c.spoil e) := by
  intro hatomic
  rcases hatomic.accepted rfl with ⟨hnone, _⟩ | ⟨row', hrow', _, _, hended⟩
  · rw [hrow] at hnone
    exact absurd hnone (by simp)
  · exact spoil_not_ended hreach now hrow' e _ hended

/-- The transaction of an end, once the session was found. -/
theorem endAtomic_atomically_iff (hreach : c.Keeps Accounted SameSessions)
    (hrow : c.view.endedRow t g = some row) {endings : EndEndings} (hr : endings.rolledBack ≠ .failed) :
    EndAtomic c now t h g
        (c.atomically endings.begun (endWrites now t h g row endings) endings.committed
          endings.rolledBack) ↔
      c.pending = none ∧
        (Connection.AllDone endings.begun (endWrites now t h g row endings) endings.committed →
          (c.view.devicePresence[bindText (normalizeRemoteDeviceId (effectiveHostId row h))]?).isSome) := by
  cases hp : c.pending with
  | some staged =>
      rw [Connection.atomically_of_open _ _ _ _ hp, endAtomic_kept_iff, hp]
      exact iff_of_false (by simp) fun hboth => absurd hboth.1 (by simp)
  | none =>
      obtain ⟨db, pending⟩ := c
      obtain rfl : pending = none := hp
      rw [Connection.atomically_of_closed _ _ _ _ hr]
      split
      · rename_i hall
        rw [applied_endWrites]
        constructor
        · intro hatomic
          rcases hatomic.accepted rfl with ⟨hnone, _⟩ | ⟨row', hrow', _, hhost, _⟩
          · rw [hrow] at hnone
            exact absurd hnone (by simp)
          · obtain rfl : row = row' := Option.some.inj (hrow.symm.trans hrow')
            exact ⟨rfl, fun _ => hhost⟩
        · rintro ⟨_, hhost⟩
          refine ⟨fun hfalse => absurd hfalse (by simp), fun _ => .inr ⟨row, hrow, ?_, hhost hall, rfl⟩⟩
          exact hreach.view.guest_isSome hrow
      · rename_i hsome
        exact iff_of_true (endAtomic_kept_iff.mpr rfl) ⟨rfl, fun hall => absurd hall hsome⟩

end End

/-- **An end is atomic exactly when it settles.** -/
theorem endRemoteControlSessionOn_atomic_iff (hreach : c.Keeps Accounted SameSessions) (now : Int)
    (t h g : Bytes) {endings : EndEndings} (hr : endings.rolledBack ≠ .failed) :
    EndAtomic c now t h g (endRemoteControlSessionOn c now t h g endings) ↔
      EndSettles c now t h g endings := by
  unfold endRemoteControlSessionOn EndSettles
  by_cases hargs : t = [] ∨ g = []
  · rw [if_pos hargs, if_pos (hargs.elim .inl fun h => .inr (.inl h))]
    exact endAtomic_kept_iff
  by_cases hprepared : endings.selectPrepared = false
  · have hprefix : t = [] ∨ g = [] ∨ endings.selectPrepared = false := .inr (.inr hprepared)
    rw [if_neg hargs, if_pos hprefix, hprepared]
    exact endAtomic_kept_iff
  have hlookup : c.view.remoteControlSessions[(⟨bindText t, bindText g⟩ : SessionKey)]? =
      c.view.endedRow t g := (if_neg hargs).symm
  have hprefix : ¬ (t = [] ∨ g = [] ∨ endings.selectPrepared = false) := by
    rintro (ht | hg | hunprepared)
    · exact hargs (.inl ht)
    · exact hargs (.inr hg)
    · exact hprepared hunprepared
  rw [if_neg hargs, if_neg hprefix, Bool.eq_true_of_not_eq_false hprepared]
  simp only [Bool.not_true, Bool.false_eq_true, if_false]
  cases hselect : endings.select with
  | done =>
      simp only [Connection.read, hlookup]
      cases hrow : c.view.endedRow t g with
      | none => exact iff_of_true ((endAtomic_missing_iff hrow c).mpr (.refl _)) fun h => absurd h (by simp)
      | some row =>
          simp only [true_and]
          by_cases heffective : effectiveHostId row h = []
          · rw [if_pos heffective, endAtomic_kept_iff]
            exact ⟨fun hclosed => ⟨hclosed, fun hne => absurd heffective hne⟩, fun hboth => hboth.1⟩
          · rw [if_neg heffective, endAtomic_atomically_iff hreach hrow hr]
            exact and_congr_right fun _ => ⟨fun hall _ => hall, fun hall => hall heffective⟩
  | failed =>
      simp only [Connection.read]
      cases hrow : c.view.endedRow t g with
      | none => exact iff_of_true ((endAtomic_missing_iff hrow c).mpr (.refl _)) fun h => absurd h (by simp)
      | some row => exact iff_of_false (endAtomic_lost hreach hrow .failed) fun hall => absurd hall.1 (by simp)
  | aborted =>
      simp only [Connection.read]
      cases hrow : c.view.endedRow t g with
      | none => exact (endAtomic_missing_iff hrow _).trans ⟨fun hsame _ => hsame, fun hsame => hsame trivial⟩
      | some row => exact iff_of_false (endAtomic_lost hreach hrow .aborted) fun hall => absurd hall.1 (by simp)

/-- **Starts and ends on every reachable connection**: a start is atomic exactly when no transaction was
    left open, an end exactly when it settles. -/
theorem sessionCalls_atomic_iff (hreach : ReachableConnection c) (now : Int) (t h g : Bytes) :
    (∀ endings : StartEndings, endings.rolledBack ≠ .failed →
      (StartAtomic c now t h g (startRemoteControlSessionOn c now t h g endings) ↔ c.pending = none)) ∧
    (∀ endings : EndEndings, endings.rolledBack ≠ .failed →
      (EndAtomic c now t h g (endRemoteControlSessionOn c now t h g endings) ↔
        EndSettles c now t h g endings)) :=
  ⟨fun _ hr => startRemoteControlSessionOn_atomic_iff c now t h g hr,
    fun _ hr => endRemoteControlSessionOn_atomic_iff hreach.keeps now t h g hr⟩

/-- A connection on which a session of a guest `g` is open. -/
def sessionOpen : Connection DeviceDB :=
  (startRemoteControlSessionOn
    ⟨Run.run exec newFile ((schemaStatements ++ recoveryStatements 0 800 800).take 40), none⟩ 900
    (bytes "t") (bytes "h") (bytes "g") .allDone).2

theorem sessionOpen_reachable : ReachableConnection sessionOpen := by
  have hopened := ReachableConnection.restarted (c := ⟨newFile, none⟩) 0 800 800 40 .opened
  exact .sessionStarted 900 (bytes "t") (bytes "h") (bytes "g") .allDone (by decide) hopened

theorem sessionOpen_row : sessionOpen.view.endedRow (bytes "t") (bytes "g") =
    some (sessionRow 900 (bytes "h") (bytes "g")) := by decide

/-- An end whose every statement is done, a hundred seconds later. -/
theorem sessionOpen_ends :
    EndAtomic sessionOpen 1000 (bytes "t") (bytes "h") (bytes "g")
      (endRemoteControlSessionOn sessionOpen 1000 (bytes "t") (bytes "h") (bytes "g") .allDone) := by
  refine ((sessionCalls_atomic_iff sessionOpen_reachable 1000 (bytes "t") (bytes "h") (bytes "g")).2
    .allDone (by decide)).mpr ?_
  rw [EndSettles, if_neg (by decide), sessionOpen_row]
  exact ⟨rfl, by decide, fun _ _ => by decide⟩

/-- The database is busy when the session is looked up: the end returns `true`, and the session stays. -/
theorem busyLookup_unended :
    ¬ ∀ c, ReachableConnection c → ∀ (now : Int) (t h g : Bytes) (endings : EndEndings),
      endings.rolledBack ≠ .failed →
      EndAtomic c now t h g (endRemoteControlSessionOn c now t h g endings) := by
  intro hall
  have hatomic := hall sessionOpen sessionOpen_reachable 1000 (bytes "t") (bytes "h") (bytes "g")
    { EndEndings.allDone with select := .failed } (by decide)
  exact endAtomic_lost sessionOpen_reachable.keeps sessionOpen_row .failed hatomic

end DeviceDB
end DeskServer
