import DeskServer.Database.CrashSafety

/-!
# `Database.Runs` — reachable databases and the conservation of durations

A database file starts empty and goes through startups, killed or not, heartbeats, changes to the device
table and the six operations on presence and sessions. The accounting invariant holds in every state on
the way, so in every such state an operation changes a reported total only by miscrediting.

**Shape.** `Accounted` is the invariant. An operation keeps it (`perform_spec`), and so does every statement
of a start-up (`Accounted.exec`), so that a start-up that was killed needs no lemma of its own. The
conservation is stated for one operation in any reachable state; the run lemma adds a clock that does not go
back.
-/

namespace DeskServer

open Bytes PresenceRow

/-- The operations on presence rows and sessions. -/
inductive DurationOp where
  | setDeviceOnline (deviceId : Bytes) (online : Bool)
  | updateDeviceNetworkInfo (deviceId : Bytes) (networkInfo : ClientNetworkInfo)
  | updateDeviceClientInfo (deviceId clientVersion clientPlatform : Bytes)
  | startRemoteControlSession (transmissionId hostId guestId : Bytes)
  | endRemoteControlSession (transmissionId hostId guestId : Bytes)
  | endRemoteControlTransmission (transmissionId : Bytes)

namespace DeviceDB

/-- One operation, executed at a clock second. -/
def perform (db : DeviceDB) (e : Int × DurationOp) : DeviceDB :=
  match e.2 with
  | .setDeviceOnline d online => (db.setDeviceOnline e.1 d online).2
  | .updateDeviceNetworkInfo d info => (db.updateDeviceNetworkInfo e.1 d info).2
  | .updateDeviceClientInfo d v p => (db.updateDeviceClientInfo e.1 d v p).2
  | .startRemoteControlSession t h g => (db.startRemoteControlSession e.1 t h g).2
  | .endRemoteControlSession t h g => (db.endRemoteControlSession e.1 t h g).2
  | .endRemoteControlTransmission t => (db.endRemoteControlTransmission e.1 t).2

/-- The operation moves live seconds to another device. -/
def Miscredits (db : DeviceDB) (e : Int × DurationOp) : Prop :=
  match e.2 with
  | .endRemoteControlSession t h g => db.EndMiscredits e.1 t h g
  | _ => False

/-- The states a database file goes through. -/
inductive Reachable : DeviceDB → Prop
  | newFile : Reachable newFile
  | started {db : DeviceDB} (now beat : Int) (k : Nat) :
      Reachable db → Reachable (db.initDBKilledAfter now beat k)
  | heartbeat {db : DeviceDB} (now : Int) : Reachable db → Reachable (db.recordRuntimeHeartbeat now)
  | credentials {db : DeviceDB} (devices : Std.ExtTreeMap SqlText Credential) :
      Reachable db → Reachable { db with devices := devices }
  | performed {db : DeviceDB} (e : Int × DurationOp) : Reachable db → Reachable (db.perform e)

variable {db : DeviceDB}

/-- A startup that is not killed. -/
theorem Reachable.initDB (h : Reachable db) (now beat : Int) : Reachable (db.initDB now beat) := by
  have hall := Reachable.started now beat (db.startupStatements now beat).length h
  rwa [initDBKilledAfter, List.take_length] at hall

/-! ## One operation -/

/-- **One operation keeps the invariant, and the totals unless it miscredits.** -/
theorem perform_spec (h : Accounted db) (e : Int × DurationOp) :
    Accounted (db.perform e) ∧ (Conserved e.1 db (db.perform e) ↔ ¬ db.Miscredits e) := by
  obtain ⟨now, op⟩ := e
  cases op with
  | setDeviceOnline d online =>
      refine ⟨?_, iff_of_true ?_ id⟩
      · cases online with
        | true => exact h.upsert (onlineUpsert_keepsFlag now) _
        | false => exact h.upsert (offlineUpsert_keepsFlag now) _
      · cases online with
        | true => exact conserved_upsert h (onlineUpsert_keepsFlag now) (onlineUpsert_neutral now) _
        | false => exact conserved_upsert h (offlineUpsert_keepsFlag now) (offlineUpsert_neutral now) _
  | updateDeviceNetworkInfo d info =>
      have ⟨hn, hk⟩ : Neutral now (networkInfoUpsert now info) ∧ KeepsFlag (networkInfoUpsert now info) :=
        descriptive_neutral now fun _ => ⟨rfl, rfl, rfl, rfl, rfl, rfl⟩
      simp only [perform, updateDeviceNetworkInfo, Miscredits, not_false_eq_true, iff_true]
      split
      · exact ⟨h, .refl now db⟩
      · exact ⟨h.upsert hk _, conserved_upsert h hk hn _⟩
  | updateDeviceClientInfo d v p =>
      have ⟨hn, hk⟩ : Neutral now (clientInfoUpsert now v p) ∧ KeepsFlag (clientInfoUpsert now v p) :=
        descriptive_neutral now fun _ => ⟨rfl, rfl, rfl, rfl, rfl, rfl⟩
      simp only [perform, updateDeviceClientInfo, Miscredits, not_false_eq_true, iff_true]
      split
      · exact ⟨h, .refl now db⟩
      · exact ⟨h.upsert hk _, conserved_upsert h hk hn _⟩
  | startRemoteControlSession t host g =>
      obtain ⟨hacc, hcons⟩ := startRemoteControlSession_spec h now t host g
      exact ⟨hacc, iff_of_true hcons id⟩
  | endRemoteControlSession t host g => exact endRemoteControlSession_spec h now t host g
  | endRemoteControlTransmission t =>
      obtain ⟨hacc, hcons⟩ := endRemoteControlTransmission_spec h now t
      exact ⟨hacc, iff_of_true hcons id⟩

/-! ## Startups -/

/-- The backfill finds nothing to do where the normalized id is the right one. -/
theorem backfilledId_normalized (id : SqlText) :
    backfilledId id (bindText (normalizeRemoteDeviceId id.val))
      = bindText (normalizeRemoteDeviceId id.val) := by
  unfold backfilledId
  split
  · rename_i hempty
    rw [hempty]
    have hnil : cstr (normalizeRemoteDeviceId id.val) = [] := congrArg SqlText.val hempty
    by_cases hclone : startsWith (bytes "C-") id.val = true
    · obtain ⟨rest, hrest⟩ := startsWith_iff.mp hclone
      have hz : (0 : UInt8) ∉ rest := fun hmem => id.noNul (by rw [← hrest]; simp [hmem])
      rw [← hrest, normalizeRemoteDeviceId_clone, cstr_eq_self hz] at hnil
      have hval : id.val = bytes "C-" := by rw [← hrest, hnil, List.append_nil]
      have hlike : likeClone id = true := by rw [likeClone, hval]; rfl
      rw [if_pos hlike, hval]; rfl
    · rw [normalizeRemoteDeviceId, if_neg hclone, cstr_eq_self id.noNul] at hnil
      have hlike : ¬ likeClone id = true := by rw [likeClone, hnil]; exact Bool.false_ne_true
      rw [if_neg hlike]
      exact SqlText.ext hnil
  · rfl

/-- A rewrite of presence rows that keeps them within the invariant. -/
theorem Accounted.mapPresence (h : Accounted db) {f : SqlText → PresenceRow → PresenceRow}
    (hf : ∀ (d : SqlText) row, db.devicePresence[d]? = some row →
      ((f d row).online = 0 ∨ (f d row).online = 1) ∧
      ((f d row).online = 1 → (f d row).onlineSince = 0 → (f d row).updatedAt = 0)) :
    Accounted { db with devicePresence := db.devicePresence.map f } where
  guest := h.guest
  host := h.host
  guestPresent k row hk := by
    rw [Std.ExtTreeMap.getElem?_map, Option.isSome_map]; exact h.guestPresent k row hk
  hostPresent k row hk := by
    rw [Std.ExtTreeMap.getElem?_map, Option.isSome_map]; exact h.hostPresent k row hk
  flag d row hd := by
    rw [Std.ExtTreeMap.getElem?_map] at hd
    obtain ⟨old, hold, rfl⟩ := Option.map_eq_some_iff.mp hd
    exact (hf d old hold).1
  since d row hd := by
    rw [Std.ExtTreeMap.getElem?_map] at hd
    obtain ⟨old, hold, rfl⟩ := Option.map_eq_some_iff.mp hd
    exact (hf d old hold).2

/-- In an accounted database the backfills find nothing to do. -/
theorem Accounted.backfill (h : Accounted db) :
    db.exec .backfillOnlineSince = db ∧ db.exec .backfillNormalizedGuestId = db ∧
      db.exec .backfillNormalizedHostId = db := by
  refine ⟨?_, ?_, ?_⟩
  · simp only [exec]
    rw [map_eq_self fun d row hd => (backfillRow_eq_self_iff row).mpr (h.since d row hd)]
  · simp only [exec]
    rw [map_eq_self fun k row hk => by rw [h.guest k row hk, backfilledId_normalized, ← h.guest k row hk]]
  · simp only [exec]
    rw [map_eq_self fun k row hk => by rw [h.host k row hk, backfilledId_normalized, ← h.host k row hk]]

/-- **Every statement of a startup keeps the invariant.** -/
theorem Accounted.exec (h : Accounted db) (st : Statement) : Accounted (db.exec st) := by
  cases st with
  | create o => exact h
  | backfillOnlineSince => rw [h.backfill.1]; exact h
  | backfillNormalizedGuestId => rw [h.backfill.2.1]; exact h
  | backfillNormalizedHostId => rw [h.backfill.2.2]; exact h
  | serverRuntimeInit => exact h.of_tables rfl rfl
  | finalizeRemote cutoff =>
      apply h.mapPresence
      intro d row hd
      have hsame : (db.finalizedRow cutoff d row).online = row.online ∧
          (db.finalizedRow cutoff d row).onlineSince = row.onlineSince ∧
          (db.finalizedRow cutoff d row).updatedAt = row.updatedAt := finalizedRow_online cutoff d row
      rw [hsame.1, hsame.2.1, hsame.2.2]
      exact ⟨h.flag d row hd, h.since d row hd⟩
  | clearRemoteControlSessions =>
      have hempty : ∀ (k : SessionKey) row,
          (∅ : Std.ExtTreeMap SessionKey SessionRow)[k]? = some row → False := by
        intro k row hk; simp at hk
      exact ⟨fun k row hk => (hempty k row hk).elim, fun k row hk => (hempty k row hk).elim,
        fun k row hk => (hempty k row hk).elim, fun k row hk => (hempty k row hk).elim,
        h.flag, h.since⟩
  | presenceStartupReset cutoff now =>
      apply h.mapPresence
      intro d row hd
      have hne := resetRow_online cutoff now row
      refine ⟨.inl ?_, fun ho => absurd ho hne⟩
      rcases h.flag d row hd with ho | ho
      · simp [resetRow, ho]
      · simp [resetRow, ho]
  | recordRuntimeHeartbeat now =>
      exact h.of_tables rfl rfl

theorem newFile_accounted : Accounted newFile := by
  refine ⟨?_, ?_, ?_, ?_, ?_, ?_⟩ <;> intro k row hk <;> simp [newFile] at hk

/-- **Every reachable database is accounted.** -/
theorem Reachable.accounted (h : Reachable db) : Accounted db := by
  induction h with
  | newFile => exact newFile_accounted
  | started now beat k _ ih =>
      exact Run.run_invariant DeviceDB.exec (I := Accounted) (fun _ st hs => hs.exec st) ih _
  | heartbeat now _ ih =>
      exact ih.of_tables rfl rfl
  | credentials devices _ ih =>
      exact ih.of_tables rfl rfl
  | performed e _ ih => exact (perform_spec ih e).1

/-! ## Runs with a non-decreasing clock -/

/-- The clock readings of a run from `now` to `later`, in order. -/
def Chronological : Int → List (Int × DurationOp) → Int → Prop
  | now, [], later => now ≤ later
  | now, e :: es, later => now ≤ e.1 ∧ Chronological e.1 es later

/-- Every total is at most the other. -/
def DurationTotals.AtMost (a b : DurationTotals) : Prop :=
  a.online ≤ b.online ∧ a.control ≤ b.control ∧ a.controlled ≤ b.controlled

/-- Time alone never takes a reported total down. -/
theorem reportedTotals_mono (db : DeviceDB) {now later : Int} (h : now ≤ later) (d : SqlText) :
    DurationTotals.AtMost (db.reportedTotals now d) (db.reportedTotals later d) := by
  have helapsed : ∀ row : SessionRow, elapsed now row ≤ elapsed later row := by
    intro row; unfold elapsed; omega
  have hc : db.liveControl now d ≤ db.liveControl later d :=
    Std.ExtTreeMap.sumBy_mono fun k row _ => by
      split
      · exact helapsed row
      · exact le_refl 0
  have hcd : db.liveControlled now d ≤ db.liveControlled later d :=
    Std.ExtTreeMap.sumBy_mono fun k row _ => by
      split
      · exact helapsed row
      · exact le_refl 0
  unfold reportedTotals DurationTotals.AtMost
  cases db.devicePresence[d]? with
  | none => exact ⟨le_refl 0, le_refl 0, le_refl 0⟩
  | some row =>
      have ho : row.liveOnline now ≤ row.liveOnline later := by
        unfold liveOnline
        split
        · omega
        · exact le_refl 0
      refine ⟨?_, ?_, ?_⟩ <;> dsimp only <;> omega

/-- Induction on the operations still to come: each conserves at its own second, and time only adds. -/
theorem run_mono (h : Accounted db) {now later : Int} {es : List (Int × DurationOp)}
    (hes : Run.EveryStep perform (fun db e => ¬ db.Miscredits e) db es)
    (hchron : Chronological now es later) (d : SqlText) :
    DurationTotals.AtMost (db.reportedTotals now d)
      ((Run.run perform db es).reportedTotals later d) := by
  induction es generalizing db now with
  | nil => exact reportedTotals_mono db hchron d
  | cons e es ih =>
      obtain ⟨hacc, hiff⟩ := perform_spec h e
      have hstep := reportedTotals_mono db hchron.1 d
      have hrest := ih hacc hes.2 hchron.2
      rw [hiff.mpr hes.1 d] at hrest
      exact ⟨hstep.1.trans hrest.1, hstep.2.1.trans hrest.2.1, hstep.2.2.trans hrest.2.2⟩

/-- **Durations are conserved, exactly.** In every reachable database an operation at second `t` leaves
    the three reported totals of every device as they were at `t` if and only if it does not miscredit;
    so over any run of operations that do not, under a clock that never goes back, no reported total
    decreases. -/
theorem durations_conserved_iff (h : Reachable db) :
    (∀ e, Conserved e.1 db (db.perform e) ↔ ¬ db.Miscredits e) ∧
    ∀ (now later : Int) (es : List (Int × DurationOp)),
      Run.EveryStep perform (fun db e => ¬ db.Miscredits e) db es → Chronological now es later →
      ∀ d, DurationTotals.AtMost (db.reportedTotals now d)
        ((Run.run perform db es).reportedTotals later d) :=
  ⟨fun e => (perform_spec h.accounted e).2, fun _ _ _ hes hchron d =>
    run_mono h.accounted hes hchron d⟩

/-- A session whose host id begins with a zero byte: its host is stored as the empty text. -/
def unnamedHost : DeviceDB :=
  (newFile.initDB 1 1).perform (1, .startRemoteControlSession (bytes "t") [0] (bytes "g"))

theorem unnamedHost_reachable : Reachable unnamedHost := (Reachable.newFile.initDB 1 1).performed _

/-- Ending it under another host takes its seconds from the device they were reported for. -/
theorem unnamedHost_miscredited :
    ¬ ∀ db, Reachable db → ∀ e, Conserved e.1 db (db.perform e) := by
  intro hall
  have hcons := hall unnamedHost unnamedHost_reachable
    (5, .endRemoteControlSession (bytes "t") (bytes "z") (bytes "g")) (bindText [])
  exact absurd hcons (by decide)

/-- Ending it under its own host keeps every total. -/
theorem unnamedHost_conserved :
    Conserved 5 unnamedHost
      (unnamedHost.perform (5, .endRemoteControlSession (bytes "t") [0] (bytes "g"))) :=
  ((durations_conserved_iff unnamedHost_reachable).1
    (5, .endRemoteControlSession (bytes "t") [0] (bytes "g"))).mpr
    fun ⟨_, _, _, hne, _⟩ => hne (by decide)

end DeviceDB
end DeskServer
