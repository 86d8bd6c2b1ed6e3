import DeskServer.Database.Runs

/-!
# `Database.Restart` — the accounts across a restart

A startup on a reachable database with a recorded heartbeat `hb` finds nothing to migrate, so it is the
recovery statements alone. Older than the window, every interval is paid out up to `hb`: that is what
would have been reported at `hb`. Within the window the sessions stay as they are, and only the online
intervals are paid out.

**Shape.** `settled` is read as a report at `hb` (`settled_eq_reported`), which `Accounted` allows; inside the
window the accounts are compared row by row (`accounts_within`). A clock that has gone back behind `hb` is not
covered, nor is a file without a heartbeat.
-/

namespace DeskServer

open Bytes PresenceRow

namespace DeviceDB

variable {db : DeviceDB}

theorem Accounted.upToDate (h : Accounted db) {hb : Int} (hrt : db.serverRuntime = some hb) :
    UpToDate db where
  presence d row hd := (backfillRow_eq_self_iff row).mpr (h.since d row hd)
  guest k row hk := by rw [h.guest k row hk, backfilledId_normalized]
  host k row hk := by rw [h.host k row hk, backfilledId_normalized]
  runtime := by rw [getRuntimeLastSeen, hrt]; rfl

theorem getRuntimeLastSeen_of_some {hb : Int} (hrt : db.serverRuntime = some hb) :
    db.getRuntimeLastSeen = hb := by rw [getRuntimeLastSeen, hrt]; rfl

/-- At a recorded heartbeat the credit of a row is the live part it reports there. -/
theorem onlineCredit_eq_live {hb : Int} (hpos : 0 < hb) (row : PresenceRow) :
    onlineCredit hb row = row.liveOnline hb := by
  unfold onlineCredit liveOnline intervalOpen
  by_cases ho : row.online = 1
  · by_cases hs : row.onlineSince > 0
    · simp [ho, hs, hpos]
    · simp [ho, hs]
  · simp [ho]

/-- **What is due at the heartbeat is what would have been reported at it.** -/
theorem settled_eq_reported {hb : Int} (hpos : 0 < hb) (d : SqlText) :
    (db.settled hb d).getD ⟨0, 0, 0⟩ = db.reportedTotals hb d := by
  unfold settled reportedTotals
  cases db.devicePresence[d]? with
  | none => rfl
  | some row =>
      simp only [Option.map_some, Option.getD_some, onlineCredit_eq_live hpos, sessionCredit,
        gt_iff_lt, hpos, if_true]

theorem accounts_getD (db : DeviceDB) (d : SqlText) : (db.accounts d).getD ⟨0, 0, 0⟩ =
    ⟨stored totalOnlineSeconds db d, stored totalControlSeconds db d,
      stored totalControlledSeconds db d⟩ := by
  unfold accounts stored
  cases db.devicePresence[d]? <;> rfl

theorem staleCutoff_heartbeat {hb now : Int} (hpos : 0 < hb) (hnow : hb ≤ now) :
    staleCutoff hb now = hb := by
  rw [staleCutoff, if_pos hpos]; omega

/-- Within the window the startup closes the online intervals and touches no session. -/
theorem recoveryStatements_within {hb now : Int} (hpos : 0 < hb) (hnow : hb ≤ now)
    (hwin : now - hb ≤ remoteControlRecoveryWindowSeconds) (beat : Int) :
    recoveryStatements hb now beat = [.presenceStartupReset hb now, .recordRuntimeHeartbeat beat] := by
  have hrec : recoverRemoteSessions hb now = true := by
    rw [recoverRemoteSessions, staleCutoff_heartbeat hpos hnow]
    simp [hpos, hwin]
  unfold recoveryStatements
  rw [hrec, staleCutoff_heartbeat hpos hnow]
  rfl

/-- Every startup ends by closing the online intervals. -/
theorem initDB_rows (db : DeviceDB) (now beat : Int) (d : SqlText) (row : PresenceRow)
    (hd : (db.initDB now beat).devicePresence[d]? = some row) : row.online ≠ 1 := by
  rw [initDB_eq, recoveryStatements, Run.run_append] at hd
  simp only [Run.run_cons, Run.run_nil, exec, recordRuntimeHeartbeat, Std.ExtTreeMap.getElem?_map] at hd
  obtain ⟨old, _, rfl⟩ := Option.map_eq_some_iff.mp hd
  exact resetRow_online _ now old

theorem initDB_offline (h : Accounted db) (now beat : Int) (d : SqlText) (row : PresenceRow)
    (hd : (db.initDB now beat).devicePresence[d]? = some row) : row.online = 0 := by
  have hacc : Accounted (db.initDB now beat) :=
    Run.run_invariant DeviceDB.exec (I := Accounted) (fun _ st hs => hs.exec st) h _
  rcases hacc.flag d row hd with ho | ho
  · exact ho
  · exact absurd ho (initDB_rows db now beat d row hd)

/-- Outside the window: every account is settled at the heartbeat. -/
theorem restart_outside (h : Accounted db) {hb now : Int} (hrt : db.serverRuntime = some hb)
    (hpos : 0 < hb) (hout : now - hb > remoteControlRecoveryWindowSeconds) (beat : Int) :
    (∀ d, ((db.initDB now beat).accounts d).getD ⟨0, 0, 0⟩ = db.reportedTotals hb d) ∧
    (db.initDB now beat).remoteControlSessions = ∅ := by
  have hcut : heartbeatCutoff hb = hb := by unfold heartbeatCutoff; omega
  rw [(h.upToDate hrt).initDB_eq, getRuntimeLastSeen_of_some hrt]
  obtain ⟨hacc, hsessions⟩ := recovery_settles (.inr hout) beat db
  refine ⟨fun d => ?_, hsessions⟩
  rw [hacc d, hcut]
  exact settled_eq_reported hpos d

/-- Within the window: the database after the startup. -/
theorem restart_within (h : Accounted db) {hb now : Int} (hrt : db.serverRuntime = some hb)
    (hpos : 0 < hb) (hnow : hb ≤ now) (hwin : now - hb ≤ remoteControlRecoveryWindowSeconds)
    (beat : Int) : db.initDB now beat = { db with
      devicePresence := db.devicePresence.map fun _ row => resetRow hb now row
      serverRuntime := some beat } := by
  rw [(h.upToDate hrt).initDB_eq, getRuntimeLastSeen_of_some hrt,
    recoveryStatements_within hpos hnow hwin]
  simp only [Run.run_cons, Run.run_nil, exec, recordRuntimeHeartbeat, hrt, Option.map_some]

theorem accounts_within (h : Accounted db) {hb now : Int} (hrt : db.serverRuntime = some hb)
    (hpos : 0 < hb) (hnow : hb ≤ now) (hwin : now - hb ≤ remoteControlRecoveryWindowSeconds)
    (beat : Int) (d : SqlText) : (db.initDB now beat).accounts d =
      (db.devicePresence[d]?).map fun row =>
        { rowTotals row with online := row.totalOnlineSeconds + row.liveOnline hb } := by
  rw [restart_within h hrt hpos hnow hwin, accounts, Std.ExtTreeMap.getElem?_map, Option.map_map]
  apply Option.map_congr
  intro row _
  rw [Function.comp_apply, rowTotals_resetRow, onlineCredit_eq_live hpos]

/-- **The accounts across a restart.** With a last heartbeat `hb` and a restart at `now`, no device is
    online afterwards and its stored online total is the one that would have been reported at `hb`. More
    than the window later, so are the control totals, and no session is left. Within the window every
    session is kept as it was, and the control totals reported at `now` are those the database without
    the restart reports. -/
theorem restart_accounts (h : Reachable db) {hb now : Int} (hrt : db.serverRuntime = some hb)
    (hpos : 0 < hb) (hnow : hb ≤ now) (beat : Int) :
    (∀ (d : SqlText) row, (db.initDB now beat).devicePresence[d]? = some row → row.online = 0) ∧
    (∀ d, stored totalOnlineSeconds (db.initDB now beat) d = (db.reportedTotals hb d).online) ∧
    (now - hb > 120 →
      (∀ d, stored totalControlSeconds (db.initDB now beat) d = (db.reportedTotals hb d).control ∧
        stored totalControlledSeconds (db.initDB now beat) d
          = (db.reportedTotals hb d).controlled) ∧
      (db.initDB now beat).remoteControlSessions = ∅) ∧
    (now - hb ≤ 120 →
      (db.initDB now beat).remoteControlSessions = db.remoteControlSessions ∧
      ∀ d, ((db.initDB now beat).reportedTotals now d).control = (db.reportedTotals now d).control ∧
        ((db.initDB now beat).reportedTotals now d).controlled
          = (db.reportedTotals now d).controlled) := by
  have hacc := h.accounted
  refine ⟨initDB_offline hacc now beat, ?_, ?_, ?_⟩
  · intro d
    by_cases hwin : now - hb ≤ remoteControlRecoveryWindowSeconds
    · have hd := congrArg (fun o => (o.getD ⟨0, 0, 0⟩).online)
        (accounts_within hacc hrt hpos hnow hwin beat d)
      simp only [accounts_getD] at hd
      rw [hd, reportedTotals]
      cases db.devicePresence[d]? <;> rfl
    · have hd := (restart_outside hacc hrt hpos (not_le.mp hwin) beat).1 d
      rw [accounts_getD] at hd
      exact congrArg DurationTotals.online hd
  · intro hout
    obtain ⟨htotals, hsessions⟩ := restart_outside hacc hrt hpos hout beat
    refine ⟨fun d => ?_, hsessions⟩
    have hd := htotals d
    rw [accounts_getD] at hd
    exact ⟨congrArg DurationTotals.control hd, congrArg DurationTotals.controlled hd⟩
  · intro hwin
    have hdb := restart_within hacc hrt hpos hnow hwin beat
    refine ⟨by rw [hdb], fun d => ?_⟩
    rw [hdb]
    simp only [reportedTotals, Std.ExtTreeMap.getElem?_map]
    -- a reset row keeps its control columns, and the session table is the same
    have hcols : ∀ row, (resetRow hb now row).totalControlSeconds = row.totalControlSeconds ∧
        (resetRow hb now row).totalControlledSeconds = row.totalControlledSeconds := by
      intro row
      unfold resetRow
      split <;> exact ⟨rfl, rfl⟩
    cases db.devicePresence[d]? with
    | none => exact ⟨rfl, rfl⟩
    | some row =>
        simp only [Option.map_some, (hcols row).1, (hcols row).2]
        exact ⟨rfl, rfl⟩

theorem openSession_reachable : Reachable openSession :=
  ((Reachable.newFile.initDB 800 800).performed
    (900, .startRemoteControlSession (bytes "t") (bytes "h") (bytes "g"))).heartbeat 1000

/-- The open session, restarted three hundred seconds after the last heartbeat. -/
theorem openSession_restart :
    stored totalControlSeconds (openSession.initDB 1300 1300) (bindText (bytes "g")) = 100 := by
  have hrestart := (restart_accounts openSession_reachable
    (show openSession.serverRuntime = some 1000 by decide) (by decide)
    (show (1000 : Int) ≤ 1300 by decide) 1300).2.2.1 (by decide)
  rw [(hrestart.1 (bindText (bytes "g"))).1]
  decide

end DeviceDB
end DeskServer
