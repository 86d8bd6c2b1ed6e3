import DeskServer.Database.Startup

/-!
# `Database.Settlement` — what a startup pays out, and when it is killed

`settled` states what the recovery part of `InitDB` is for: every open interval is paid out up to the
recorded heartbeat, once. Outside the recovery window an uninterrupted startup does exactly that. Killed
and run again it still does, except after the statement that credits the sessions and before the one that
deletes them: the second run finds the credited sessions and credits them again.

**Shape.** Of the three recovery statements one credits the sessions, one deletes them and one closes the
online intervals; each has a lemma that says what it leaves in the accounts (`settled_credited`,
`settled_cleared`, `settled_closed`), and `recovery_settles` puts them together.
-/

namespace DeskServer

open Bytes PresenceRow

namespace DeviceDB

variable {db : DeviceDB}

/-- The stored totals of a presence row. -/
def rowTotals (row : PresenceRow) : DurationTotals :=
  ⟨row.totalOnlineSeconds, row.totalControlSeconds, row.totalControlledSeconds⟩

/-- The stored totals of every device. -/
def accounts (db : DeviceDB) (d : SqlText) : Option DurationTotals :=
  (db.devicePresence[d]?).map rowTotals

/-- What an open online interval is worth at the cutoff; nothing without a heartbeat. -/
def onlineCredit (cutoff : Int) (row : PresenceRow) : Int :=
  if row.online = 1 ∧ cutoff > 0 ∧ row.onlineSince > 0 then max 0 (cutoff - row.onlineSince) else 0

/-- What open sessions are worth at the cutoff; nothing without a heartbeat. -/
def sessionCredit (cutoff live : Int) : Int := if cutoff > 0 then live else 0

/-- **The purpose of a startup outside the window**: every interval is paid out once. -/
def settled (db : DeviceDB) (cutoff : Int) (d : SqlText) : Option DurationTotals :=
  (db.devicePresence[d]?).map fun row =>
    { online := row.totalOnlineSeconds + onlineCredit cutoff row
      control := row.totalControlSeconds + sessionCredit cutoff (db.liveControl cutoff d)
      controlled := row.totalControlledSeconds + sessionCredit cutoff (db.liveControlled cutoff d) }

/-- No heartbeat was recorded, or it is older than the recovery window. -/
def OutsideWindow (runtimeLastSeen now : Int) : Prop :=
  runtimeLastSeen ≤ 0 ∨ now - runtimeLastSeen > remoteControlRecoveryWindowSeconds

instance (runtimeLastSeen now : Int) : Decidable (OutsideWindow runtimeLastSeen now) :=
  inferInstanceAs (Decidable (_ ∨ _))

/-- The cutoff outside the window does not depend on the clock. -/
def heartbeatCutoff (runtimeLastSeen : Int) : Int := max 0 runtimeLastSeen

theorem staleCutoff_outside {lastSeen now : Int} (h : OutsideWindow lastSeen now) :
    staleCutoff lastSeen now = heartbeatCutoff lastSeen := by
  unfold staleCutoff heartbeatCutoff
  unfold OutsideWindow remoteControlRecoveryWindowSeconds at h
  split <;> omega

theorem recoverRemoteSessions_outside {lastSeen now : Int} (h : OutsideWindow lastSeen now) :
    recoverRemoteSessions lastSeen now = false := by
  unfold recoverRemoteSessions
  rw [staleCutoff_outside h, Bool.and_eq_false_iff, decide_eq_false_iff_not, decide_eq_false_iff_not]
  unfold heartbeatCutoff
  unfold OutsideWindow at h
  unfold remoteControlRecoveryWindowSeconds at *
  omega

/-- The statement that credits the sessions, when there is a heartbeat to credit them up to. -/
def creditStatements (cutoff : Int) : List Statement :=
  if cutoff > 0 then [.finalizeRemote cutoff] else []

theorem recoveryStatements_outside {lastSeen now : Int} (h : OutsideWindow lastSeen now) (beat : Int) :
    recoveryStatements lastSeen now beat =
      creditStatements (heartbeatCutoff lastSeen) ++ [.clearRemoteControlSessions,
        .presenceStartupReset (heartbeatCutoff lastSeen) now, .recordRuntimeHeartbeat beat] := by
  unfold recoveryStatements creditStatements
  rw [recoverRemoteSessions_outside h, staleCutoff_outside h]
  simp only [Bool.false_eq_true, if_false, List.append_assoc]
  rfl

/-! ## What each recovery statement does to the accounts -/

theorem live_zero_of_not_hasSession {d : SqlText} (h : db.hasSession d = false) (cutoff : Int) :
    db.liveControl cutoff d = 0 ∧ db.liveControlled cutoff d = 0 := by
  have hrow : ∀ (k : SessionKey) row, db.remoteControlSessions[k]? = some row →
      row.normalizedGuestId ≠ d ∧ row.normalizedHostId ≠ d := by
    intro k row hk
    have := List.any_eq_false.mp h (k, row) (Std.ExtTreeMap.mem_toList.mpr hk)
    simpa using this
  have hzero : ∀ f : SessionRow → SqlText,
      (∀ (k : SessionKey) row, db.remoteControlSessions[k]? = some row → f row ≠ d) →
      db.remoteControlSessions.sumBy (fun _ row => if f row = d then elapsed cutoff row else 0) = 0 := by
    intro f hf
    rw [Std.ExtTreeMap.sumBy_congr (g := fun _ _ => 0) fun k row hk => if_neg (hf k row hk)]
    simp [Std.ExtTreeMap.sumBy]
  exact ⟨hzero SessionRow.normalizedGuestId fun k row hk => (hrow k row hk).1,
    hzero SessionRow.normalizedHostId fun k row hk => (hrow k row hk).2⟩

/-- Crediting adds the live seconds of every device; the test for a session is an optimisation. -/
theorem rowTotals_finalizedRow (cutoff : Int) (d : SqlText) (row : PresenceRow) :
    rowTotals (db.finalizedRow cutoff d row) =
      { online := row.totalOnlineSeconds
        control := row.totalControlSeconds + db.liveControl cutoff d
        controlled := row.totalControlledSeconds + db.liveControlled cutoff d } := by
  unfold finalizedRow
  by_cases h : db.hasSession d = true
  · rw [if_pos h]; rfl
  · obtain ⟨hc, hcd⟩ := live_zero_of_not_hasSession (Bool.eq_false_iff.mpr h) cutoff
    rw [if_neg h, hc, hcd, Int.add_zero, Int.add_zero]; rfl

theorem finalizedRow_online (cutoff : Int) (d : SqlText) (row : PresenceRow) :
    (db.finalizedRow cutoff d row).online = row.online ∧
    (db.finalizedRow cutoff d row).onlineSince = row.onlineSince ∧
    (db.finalizedRow cutoff d row).updatedAt = row.updatedAt := by
  unfold finalizedRow
  split <;> exact ⟨rfl, rfl, rfl⟩

theorem rowTotals_resetRow (cutoff now : Int) (row : PresenceRow) :
    rowTotals (resetRow cutoff now row) =
      { rowTotals row with online := row.totalOnlineSeconds + onlineCredit cutoff row } := by
  unfold resetRow onlineCredit
  by_cases h : row.online = 1
  · simp [h, rowTotals]
  · simp [h, rowTotals]

theorem resetRow_online (cutoff now : Int) (row : PresenceRow) :
    (resetRow cutoff now row).online ≠ 1 := by
  unfold resetRow
  split
  · show (0 : Int) ≠ 1
    decide
  · rename_i h; exact h

theorem onlineCredit_of_offline {cutoff : Int} {row : PresenceRow} (h : row.online ≠ 1) :
    onlineCredit cutoff row = 0 := by
  rw [onlineCredit, if_neg fun hc => h hc.1]

theorem live_of_empty (db : DeviceDB) (cutoff : Int) (d : SqlText)
    (h : db.remoteControlSessions = ∅) :
    db.liveControl cutoff d = 0 ∧ db.liveControlled cutoff d = 0 := by
  unfold liveControl liveControlled
  rw [h]
  exact ⟨Std.ExtTreeMap.sumBy_empty _, Std.ExtTreeMap.sumBy_empty _⟩

/-- The crediting step on the whole table. -/
def credited (db : DeviceDB) (cutoff : Int) : DeviceDB := Run.run exec db (creditStatements cutoff)

/-- Crediting keeps the online columns of a row and adds the session credit. -/
theorem credited_row (db : DeviceDB) (cutoff : Int) (d : SqlText) :
    ∃ f : PresenceRow → PresenceRow, (db.credited cutoff).devicePresence[d]?
        = (db.devicePresence[d]?).map f ∧
      ∀ row, ((f row).online = row.online ∧ (f row).onlineSince = row.onlineSince ∧
        (f row).updatedAt = row.updatedAt) ∧
        rowTotals (f row) =
          { online := row.totalOnlineSeconds
            control := row.totalControlSeconds + sessionCredit cutoff (db.liveControl cutoff d)
            controlled := row.totalControlledSeconds +
              sessionCredit cutoff (db.liveControlled cutoff d) } := by
  unfold credited creditStatements sessionCredit
  by_cases h : cutoff > 0
  · simp only [h, if_true, Run.run_cons, Run.run_nil, exec, Std.ExtTreeMap.getElem?_map]
    exact ⟨_, rfl, fun row => ⟨finalizedRow_online cutoff d row, rowTotals_finalizedRow cutoff d row⟩⟩
  · simp only [h, if_false, Run.run_nil, Int.add_zero]
    exact ⟨id, by simp, fun _ => ⟨⟨rfl, rfl, rfl⟩, rfl⟩⟩

theorem credited_frame (db : DeviceDB) (cutoff : Int) :
    (db.credited cutoff).remoteControlSessions = db.remoteControlSessions ∧
    (db.credited cutoff).serverRuntime = db.serverRuntime := by
  unfold credited creditStatements
  split <;> exact ⟨rfl, rfl⟩

/-- The database after the sessions were credited and deleted. -/
def cleared (db : DeviceDB) (cutoff : Int) : DeviceDB :=
  (db.credited cutoff).exec .clearRemoteControlSessions

/-- The database after the online intervals were closed too. -/
def closed (db : DeviceDB) (cutoff now : Int) : DeviceDB :=
  (db.cleared cutoff).exec (.presenceStartupReset cutoff now)

theorem onlineCredit_congr {cutoff : Int} {row row' : PresenceRow} (ho : row.online = row'.online)
    (hs : row.onlineSince = row'.onlineSince) : onlineCredit cutoff row = onlineCredit cutoff row' := by
  rw [onlineCredit, onlineCredit, ho, hs]

/-- What is still to be paid after the sessions were credited but not deleted: they are paid again. -/
theorem settled_credited (db : DeviceDB) (cutoff : Int) (d : SqlText) :
    (db.credited cutoff).settled cutoff d = (db.settled cutoff d).map fun totals =>
      { online := totals.online
        control := totals.control + sessionCredit cutoff (db.liveControl cutoff d)
        controlled := totals.controlled + sessionCredit cutoff (db.liveControlled cutoff d) } := by
  obtain ⟨f, hf, hrow⟩ := credited_row db cutoff d
  obtain ⟨hsessions, _⟩ := credited_frame db cutoff
  unfold settled
  rw [hf, Option.map_map, Option.map_map]
  apply Option.map_congr
  intro row _
  obtain ⟨⟨ho, hs, _⟩, ht⟩ := hrow row
  simp only [rowTotals, DurationTotals.mk.injEq] at ht
  obtain ⟨hto, htc, htcd⟩ := ht
  simp only [Function.comp_apply, liveControl, liveControlled, hsessions, hto, htc, htcd,
    onlineCredit_congr ho hs]

/-- Once the credited sessions are deleted, what is still to be paid completes what is due. -/
theorem settled_cleared (db : DeviceDB) (cutoff : Int) (d : SqlText) :
    (db.cleared cutoff).settled cutoff d = db.settled cutoff d := by
  obtain ⟨f, hf, hrow⟩ := credited_row db cutoff d
  obtain ⟨hc, hcd⟩ := live_of_empty (db.cleared cutoff) cutoff d rfl
  have hpres : (db.cleared cutoff).devicePresence[d]? = (db.devicePresence[d]?).map f := hf
  unfold settled
  rw [hc, hcd, hpres, Option.map_map]
  apply Option.map_congr
  intro row _
  obtain ⟨⟨ho, hs, _⟩, ht⟩ := hrow row
  simp only [rowTotals, DurationTotals.mk.injEq] at ht
  obtain ⟨hto, htc, htcd⟩ := ht
  simp only [Function.comp_apply, hto, htc, htcd, onlineCredit_congr ho hs, sessionCredit, ite_self,
    Int.add_zero]

/-- Closing the intervals pays what is still due when there is no session left. -/
theorem accounts_closed (db : DeviceDB) (cutoff now : Int) (d : SqlText) :
    (db.closed cutoff now).accounts d = db.settled cutoff d := by
  obtain ⟨hc, hcd⟩ := live_of_empty (db.cleared cutoff) cutoff d rfl
  rw [← settled_cleared db cutoff d]
  unfold accounts settled
  have hpres : (db.closed cutoff now).devicePresence[d]?
      = ((db.cleared cutoff).devicePresence[d]?).map (resetRow cutoff now) :=
    Std.ExtTreeMap.getElem?_map
  rw [hpres, Option.map_map, hc, hcd]
  apply Option.map_congr
  intro row _
  simp only [Function.comp_apply, rowTotals_resetRow, sessionCredit, ite_self, Int.add_zero]
  rfl

/-- Closed intervals owe nothing more. -/
theorem settled_closed (db : DeviceDB) (cutoff now : Int) (d : SqlText) :
    (db.closed cutoff now).settled cutoff d = db.settled cutoff d := by
  obtain ⟨hc, hcd⟩ := live_of_empty (db.closed cutoff now) cutoff d rfl
  rw [← accounts_closed db cutoff now d]
  unfold accounts settled
  rw [hc, hcd]
  have hpres : (db.closed cutoff now).devicePresence[d]?
      = ((db.cleared cutoff).devicePresence[d]?).map (resetRow cutoff now) :=
    Std.ExtTreeMap.getElem?_map
  rw [hpres, Option.map_map, Option.map_map]
  apply Option.map_congr
  intro row _
  simp only [Function.comp_apply, onlineCredit_of_offline (resetRow_online cutoff now row),
    sessionCredit, ite_self, Int.add_zero]
  rfl

/-- **An uninterrupted startup outside the window settles every account.** -/
theorem recovery_settles {lastSeen now : Int} (h : OutsideWindow lastSeen now) (beat : Int)
    (db : DeviceDB) :
    (∀ d, (Run.run exec db (recoveryStatements lastSeen now beat)).accounts d
      = db.settled (heartbeatCutoff lastSeen) d) ∧
    (Run.run exec db (recoveryStatements lastSeen now beat)).remoteControlSessions = ∅ := by
  rw [recoveryStatements_outside h, Run.run_append]
  exact ⟨fun d => accounts_closed db _ now d, rfl⟩

/-! ## The schema of a killed startup -/

theorem UpToDate.credited (h : UpToDate db) (cutoff : Int) : UpToDate (db.credited cutoff) := by
  obtain ⟨hsessions, hruntime⟩ := credited_frame db cutoff
  refine ⟨?_, ?_, ?_, ?_⟩
  · intro d row hd
    obtain ⟨f, hf, hrow⟩ := credited_row db cutoff d
    rw [hf] at hd
    obtain ⟨old, hold, rfl⟩ := Option.map_eq_some_iff.mp hd
    obtain ⟨⟨ho, hs, hu⟩, _⟩ := hrow old
    rw [backfillRow_eq_self_iff, ho, hs, hu]
    exact (backfillRow_eq_self_iff old).mp (h.presence d old hold)
  · intro k row hk
    rw [hsessions] at hk
    exact h.guest k row hk
  · intro k row hk
    rw [hsessions] at hk
    exact h.host k row hk
  · rw [hruntime, getRuntimeLastSeen, hruntime]
    exact h.runtime

theorem UpToDate.cleared (h : UpToDate db) (cutoff : Int) : UpToDate (db.cleared cutoff) := by
  have hc := h.credited cutoff
  have hempty : ∀ (k : SessionKey) row,
      (db.cleared cutoff).remoteControlSessions[k]? = some row → False := by
    intro k row hk
    have hk' : (∅ : Std.ExtTreeMap SessionKey SessionRow)[k]? = some row := hk
    simp at hk'
  exact ⟨hc.presence, fun k row hk => (hempty k row hk).elim,
    fun k row hk => (hempty k row hk).elim, hc.runtime⟩

theorem UpToDate.closed (h : UpToDate db) (cutoff now : Int) : UpToDate (db.closed cutoff now) := by
  have hc := h.cleared cutoff
  refine ⟨?_, hc.guest, hc.host, hc.runtime⟩
  intro d row hd
  have hpres : (db.closed cutoff now).devicePresence[d]?
      = ((db.cleared cutoff).devicePresence[d]?).map (resetRow cutoff now) :=
    Std.ExtTreeMap.getElem?_map
  rw [hpres] at hd
  obtain ⟨old, _, rfl⟩ := Option.map_eq_some_iff.mp hd
  rw [backfillRow, if_neg fun hopen => resetRow_online cutoff now old hopen.1]

end DeviceDB
end DeskServer
