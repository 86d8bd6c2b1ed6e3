import DeskServer.Database.Settlement

/-!
# `Database.CrashSafety` — a killed startup, run again

The one gap of `Database.Settlement` made exact: a startup that is killed and run again outside the
recovery window pays what one uninterrupted startup pays, unless it was killed right after the statement
that credits the sessions and some device had session seconds to credit.

**Shape.** A killed start-up is an initial part of the list of statements. Killed among the schema statements
it is started over (`killed_in_schema`); killed among the recovery statements it has left one of four states
(`killed_recovery_cases`), and the second run settles each of them (`rerun_settles`). Only the credited one is
settled twice. Several kills in a row, and kills within the window, are not covered.
-/

namespace DeskServer

open Bytes PresenceRow

namespace DeviceDB

variable {db : DeviceDB}

/-- The last statement that ran credited the sessions. -/
def KilledAfterCredit (db : DeviceDB) (now beat : Int) (k : Nat) : Prop :=
  ∃ cutoff, ((db.startupStatements now beat).take k).getLast? = some (.finalizeRemote cutoff)

/-- Some device has session seconds due at the recorded heartbeat. -/
def OwesSessions (db : DeviceDB) : Prop :=
  ∃ d, (db.devicePresence[d]?).isSome ∧ (db.liveControl db.getRuntimeLastSeen d ≠ 0 ∨
    db.liveControlled db.getRuntimeLastSeen d ≠ 0)

/-- The same stored totals for every device and the same session rows. -/
def SameAccounts (db db' : DeviceDB) : Prop :=
  (∀ d, db.accounts d = db'.accounts d) ∧ db.remoteControlSessions = db'.remoteControlSessions

/-- The recovery statements one by one, when there is a heartbeat and when there is none. -/
theorem recoveryStatements_cases {lastSeen now : Int} (h : OutsideWindow lastSeen now) (beat : Int) :
    (0 < lastSeen ∧ recoveryStatements lastSeen now beat =
      [.finalizeRemote (heartbeatCutoff lastSeen), .clearRemoteControlSessions,
        .presenceStartupReset (heartbeatCutoff lastSeen) now, .recordRuntimeHeartbeat beat]) ∨
    (lastSeen ≤ 0 ∧ recoveryStatements lastSeen now beat =
      [.clearRemoteControlSessions, .presenceStartupReset (heartbeatCutoff lastSeen) now,
        .recordRuntimeHeartbeat beat]) := by
  rw [recoveryStatements_outside h, creditStatements]
  by_cases hpos : 0 < lastSeen
  · have hcut : heartbeatCutoff lastSeen > 0 := by unfold heartbeatCutoff; omega
    rw [if_pos hcut]
    exact .inl ⟨hpos, rfl⟩
  · have hcut : ¬ heartbeatCutoff lastSeen > 0 := by unfold heartbeatCutoff; omega
    rw [if_neg hcut]
    exact .inr ⟨by omega, rfl⟩

theorem credited_of_heartbeat {cutoff : Int} (h : cutoff > 0) (db : DeviceDB) :
    db.credited cutoff = db.exec (.finalizeRemote cutoff) := by
  rw [credited, creditStatements, if_pos h]; rfl

theorem credited_of_none {cutoff : Int} (h : ¬ cutoff > 0) (db : DeviceDB) :
    db.credited cutoff = db := by
  rw [credited, creditStatements, if_neg h]; rfl

/-- **The states a killed recovery can leave**: untouched, credited, cleared or closed. -/
theorem killed_recovery_cases {lastSeen now : Int} (h : OutsideWindow lastSeen now) (beat : Int)
    (db : DeviceDB) {r : Nat} (hr : r < (recoveryStatements lastSeen now beat).length) :
    let part := (recoveryStatements lastSeen now beat).take r
    let cutoff := heartbeatCutoff lastSeen
    (Run.run exec db part = db ∧ part = []) ∨
    (Run.run exec db part = db.credited cutoff ∧ cutoff > 0 ∧
      part.getLast? = some (.finalizeRemote cutoff)) ∨
    (Run.run exec db part = db.cleared cutoff ∧
      part.getLast? = some .clearRemoteControlSessions) ∨
    (Run.run exec db part = db.closed cutoff now ∧
      part.getLast? = some (.presenceStartupReset cutoff now)) := by
  intro part cutoff
  rcases recoveryStatements_cases h beat with ⟨hpos, hlist⟩ | ⟨hneg, hlist⟩
  · have hcut : cutoff > 0 := by show max 0 lastSeen > 0; omega
    have hcredit := credited_of_heartbeat hcut db
    have hpart : part = (recoveryStatements lastSeen now beat).take r := rfl
    rw [hlist] at hr hpart
    rw [hpart, cleared, closed, cleared, hcredit]
    match r, hr with
    | 0, _ => exact .inl ⟨rfl, rfl⟩
    | 1, _ => exact .inr (.inl ⟨rfl, hcut, rfl⟩)
    | 2, _ => exact .inr (.inr (.inl ⟨rfl, rfl⟩))
    | 3, _ => exact .inr (.inr (.inr ⟨rfl, rfl⟩))
  · have hcut : ¬ cutoff > 0 := by show ¬ max 0 lastSeen > 0; omega
    have hcredit := credited_of_none hcut db
    have hpart : part = (recoveryStatements lastSeen now beat).take r := rfl
    rw [hlist] at hr hpart
    rw [hpart, cleared, closed, cleared, hcredit]
    match r, hr with
    | 0, _ => exact .inl ⟨rfl, rfl⟩
    | 1, _ => exact .inr (.inr (.inl ⟨rfl, rfl⟩))
    | 2, _ => exact .inr (.inr (.inr ⟨rfl, rfl⟩))

/-- The second run settles what the killed one left. -/
theorem rerun_settles {crashed : DeviceDB} (hup : UpToDate crashed) (now : Int)
    (h : OutsideWindow crashed.getRuntimeLastSeen now) (beat : Int) :
    (∀ d, (crashed.initDB now beat).accounts d
      = crashed.settled (heartbeatCutoff crashed.getRuntimeLastSeen) d) ∧
    (crashed.initDB now beat).remoteControlSessions = ∅ := by
  rw [hup.initDB_eq]
  exact recovery_settles h beat crashed

/-- Paying the sessions a second time changes nothing exactly when nothing is owed. -/
theorem settled_credited_iff (h : 0 < db.getRuntimeLastSeen) :
    (∀ d, (db.credited (heartbeatCutoff db.getRuntimeLastSeen)).settled
        (heartbeatCutoff db.getRuntimeLastSeen) d
      = db.settled (heartbeatCutoff db.getRuntimeLastSeen) d) ↔ ¬ db.OwesSessions := by
  have hcut : heartbeatCutoff db.getRuntimeLastSeen = db.getRuntimeLastSeen := by
    unfold heartbeatCutoff; omega
  rw [hcut]
  constructor
  · rintro hsame ⟨d, hpres, howes⟩
    have hd := hsame d
    rw [settled_credited] at hd
    obtain ⟨row, hrow⟩ := Option.isSome_iff_exists.mp hpres
    simp only [settled, hrow, Option.map_some, Option.some.injEq, DurationTotals.mk.injEq, true_and,
      sessionCredit, gt_iff_lt, h, if_true] at hd
    omega
  · intro howes d
    rw [settled_credited]
    cases hrow : db.devicePresence[d]? with
    | none => simp only [settled, hrow, Option.map_none]
    | some row =>
        have hz : db.liveControl db.getRuntimeLastSeen d = 0 ∧
            db.liveControlled db.getRuntimeLastSeen d = 0 := by
          by_contra hne
          exact howes ⟨d, by rw [hrow]; rfl, by omega⟩
        rw [hz.1, hz.2]
        simp only [settled, hrow, Option.map_some, sessionCredit, ite_self, Int.add_zero]

theorem finalizeRemote_not_schema (k : Nat) (cutoff : Int) :
    (schemaStatements.take k).getLast? ≠ some (.finalizeRemote cutoff) := by
  intro hlast
  have hmem := List.mem_of_mem_take (List.mem_of_getLast? hlast)
  rcases isSchema_of_mem hmem with ⟨o, ho⟩ | ho | ho | ho | ho <;> exact Statement.noConfusion ho

/-- Killed among the schema statements, the second run starts them over. -/
theorem killed_in_schema (db : DeviceDB) (now beat : Int) {k : Nat} (hk : k ≤ schemaStatements.length) :
    (db.initDBKilledAfter now beat k).migrated = db.migrated ∧ ¬ db.KilledAfterCredit now beat k := by
  have hpart : (db.startupStatements now beat).take k = schemaStatements.take k := by
    rw [startupStatements, List.take_append_of_le_length hk]
  constructor
  · rw [initDBKilledAfter, hpart]
    exact migrated_replay db (List.take_subset k _)
  · rintro ⟨cutoff, hlast⟩
    rw [hpart] at hlast
    exact finalizeRemote_not_schema k cutoff hlast

/-- Killed among the recovery statements: what ran of them, on the migrated database. -/
theorem killed_in_recovery (db : DeviceDB) (now beat : Int) (r : Nat) :
    db.initDBKilledAfter now beat (schemaStatements.length + r) = Run.run exec db.migrated
        ((recoveryStatements db.migrated.getRuntimeLastSeen now beat).take r) ∧
      (db.KilledAfterCredit now beat (schemaStatements.length + r) ↔ ∃ cutoff,
        ((recoveryStatements db.migrated.getRuntimeLastSeen now beat).take r).getLast?
          = some (.finalizeRemote cutoff)) := by
  have hpart : (db.startupStatements now beat).take (schemaStatements.length + r)
      = schemaStatements ++ (recoveryStatements db.migrated.getRuntimeLastSeen now beat).take r := by
    rw [startupStatements, List.take_length_add_append]
  constructor
  · rw [initDBKilledAfter, hpart, Run.run_append]; rfl
  · unfold KilledAfterCredit
    rw [hpart, List.getLast?_append]
    cases ((recoveryStatements db.migrated.getRuntimeLastSeen now beat).take r).getLast? with
    | some st => rfl
    | none =>
        -- nothing of the recovery ran, and no schema statement credits
        have hnone : ∀ cutoff, schemaStatements.getLast? ≠ some (.finalizeRemote cutoff) := by
          intro cutoff hlast
          apply finalizeRemote_not_schema schemaStatements.length cutoff
          rw [List.take_length]
          exact hlast
        simp [hnone]

/-- A second run that finds the recorded heartbeat agrees with one uninterrupted startup exactly when
    what it has to settle is the same. -/
theorem rerun_agrees_iff (beat beat' : Int) {now now' : Int}
    (h : OutsideWindow db.migrated.getRuntimeLastSeen now)
    (h' : OutsideWindow db.migrated.getRuntimeLastSeen now') {crashed : DeviceDB}
    (hup : UpToDate crashed)
    (hseen : crashed.getRuntimeLastSeen = db.migrated.getRuntimeLastSeen) :
    SameAccounts (crashed.initDB now' beat') (db.initDB now beat) ↔
      ∀ d, crashed.settled (heartbeatCutoff db.migrated.getRuntimeLastSeen) d
        = db.migrated.settled (heartbeatCutoff db.migrated.getRuntimeLastSeen) d := by
  have honce := recovery_settles h beat db.migrated
  rw [← initDB_eq] at honce
  have htwice := rerun_settles hup now' (by rw [hseen]; exact h') beat'
  rw [hseen] at htwice
  constructor
  · intro hacc d
    rw [← htwice.1 d, ← honce.1 d]
    exact hacc.1 d
  · intro hset
    refine ⟨fun d => ?_, htwice.2.trans honce.2.symm⟩
    rw [htwice.1 d, honce.1 d]
    exact hset d

/-- **Crash safety of the startup, exactly.** A startup killed after any number of its statements but
    before the heartbeat is recorded again, and then run to its end, both outside the recovery window,
    leaves the totals of every device and the session rows of one uninterrupted startup, if and only if it
    was not killed right after crediting sessions that were worth something. -/
theorem startup_crashSafe_iff (db : DeviceDB) (now beat now' beat' : Int) (k : Nat)
    (hk : k < (db.startupStatements now beat).length)
    (h : OutsideWindow db.migrated.getRuntimeLastSeen now)
    (h' : OutsideWindow db.migrated.getRuntimeLastSeen now') :
    SameAccounts ((db.initDBKilledAfter now beat k).initDB now' beat') (db.initDB now beat) ↔
      ¬ (db.KilledAfterCredit now beat k ∧ db.migrated.OwesSessions) := by
  have hup := migrated_upToDate db
  rcases Nat.le_total k schemaStatements.length with hle | hge
  · obtain ⟨hmig, hnot⟩ := killed_in_schema db now beat hle
    refine iff_of_true ?_ fun hboth => hnot hboth.1
    have hagree := (rerun_agrees_iff beat beat' h h' hup rfl).mpr fun _ => rfl
    rw [initDB_eq, hmig]
    rw [hup.initDB_eq] at hagree
    exact hagree
  · obtain ⟨r, rfl⟩ := Nat.exists_eq_add_of_le hge
    have hr : r < (recoveryStatements db.migrated.getRuntimeLastSeen now beat).length := by
      rw [startupStatements, List.length_append] at hk; omega
    obtain ⟨hcrash, hcredit⟩ := killed_in_recovery db now beat r
    have hnotCredit : ∀ {st : Statement}, (∀ cutoff, st ≠ .finalizeRemote cutoff) →
        ((recoveryStatements db.migrated.getRuntimeLastSeen now beat).take r).getLast? = some st →
        ¬ db.KilledAfterCredit now beat (schemaStatements.length + r) := by
      intro st hst hlast
      rw [hcredit, hlast]
      rintro ⟨cutoff, hsome⟩
      exact hst cutoff (Option.some.inj hsome)
    rw [hcrash]
    rcases killed_recovery_cases h beat db.migrated hr with
      ⟨hrun, hnil⟩ | ⟨hrun, hpos, hlast⟩ | ⟨hrun, hlast⟩ | ⟨hrun, hlast⟩
    · -- no recovery statement ran
      rw [hrun, rerun_agrees_iff beat beat' h h' hup rfl]
      apply iff_of_true (fun _ => rfl)
      rw [hcredit, hnil]
      rintro ⟨⟨_, hlast⟩, _⟩
      exact absurd hlast (by simp)
    · -- the sessions are credited and still there
      have hseen : 0 < db.migrated.getRuntimeLastSeen := by
        unfold heartbeatCutoff at hpos; omega
      have hkilled : db.KilledAfterCredit now beat (schemaStatements.length + r) :=
        hcredit.mpr ⟨_, hlast⟩
      rw [hrun, rerun_agrees_iff beat beat' h h' (hup.credited _)
        (by rw [getRuntimeLastSeen, (credited_frame _ _).2]; rfl), settled_credited_iff hseen]
      exact not_congr ⟨fun howes => ⟨hkilled, howes⟩, fun hboth => hboth.2⟩
    · -- the sessions are credited and gone
      rw [hrun, rerun_agrees_iff beat beat' h h' (hup.cleared _)
        (by rw [getRuntimeLastSeen, cleared, exec, (credited_frame _ _).2]; rfl)]
      exact iff_of_true (settled_cleared db.migrated _)
        fun hboth => hnotCredit (fun _ => Statement.noConfusion) hlast hboth.1
    · -- everything is settled but the heartbeat
      rw [hrun, rerun_agrees_iff beat beat' h h' (hup.closed _ now)
        (by rw [getRuntimeLastSeen, closed, exec, cleared, exec, (credited_frame _ _).2]; rfl)]
      exact iff_of_true (settled_closed db.migrated _ now)
        fun hboth => hnotCredit (fun _ => Statement.noConfusion) hlast hboth.1

/-- A session of a hundred seconds is open when the last heartbeat is recorded. -/
def openSession : DeviceDB :=
  ((newFile.initDB 800 800).startRemoteControlSession 900 (bytes "t") (bytes "h") (bytes "g")).2
    |>.recordRuntimeHeartbeat 1000

/-- Killed after the statement that credits it, statement 31, the session is paid twice. -/
theorem startup_doubleCredit :
    ¬ ∀ (db : DeviceDB) (now beat now' beat' : Int) (k : Nat),
      k < (db.startupStatements now beat).length →
      OutsideWindow db.migrated.getRuntimeLastSeen now →
      OutsideWindow db.migrated.getRuntimeLastSeen now' →
      SameAccounts ((db.initDBKilledAfter now beat k).initDB now' beat') (db.initDB now beat) := by
  intro hall
  have hsame := (hall openSession 2000 2000 2001 2001 31 (by decide) (by decide) (by decide)).1
    (bindText (bytes "g"))
  exact absurd hsame (by decide)

/-- Killed one statement later, the same startup pays it once. -/
theorem startup_crashSafe_afterDelete :
    32 < (openSession.startupStatements 2000 2000).length ∧
    (SameAccounts ((openSession.initDBKilledAfter 2000 2000 32).initDB 2001 2001)
        (openSession.initDB 2000 2000) ↔
      ¬ (openSession.KilledAfterCredit 2000 2000 32 ∧ openSession.migrated.OwesSessions)) :=
  ⟨by decide, startup_crashSafe_iff openSession 2000 2000 2001 2001 32 (by decide) (by decide)
    (by decide)⟩

end DeviceDB
end DeskServer
