import DeskServer.Server.DatabaseCalls

/-!
# `Server.Totals` — the durations of a running server

The database moves seconds to another device when a session whose host was stored as the empty text is
ended under another host. The server never does that: every session it starts or ends carries the id of
its host as the transmission, so the host a row stores and the host of the call are one text. Over a
file the program has written itself **no event and no restore changes a reported total at its own
second**, and under a clock that does not go back no reported total decreases.

**Shape.** A step of the server is a run of calls (`Server.DatabaseCalls`); each call upholds the totals,
since it names the host it stores (`upheld_call`), and so does the restore. What is not covered is a file
somebody else has written: there a stored host may be empty.
-/

namespace DeskServer

open Bytes

namespace DeviceDB

variable {db : DeviceDB} {now : Int}

/-- What the calls of the server keep, and what they conserve. -/
structure Upheld (now : Int) (db db' : DeviceDB) : Prop where
  accounted : Accounted db'
  rows : HomeRows db'.remoteControlSessions
  conserved : Conserved now db db'

theorem Upheld.refl (h : Accounted db) (hrows : HomeRows db.remoteControlSessions) (now : Int) :
    Upheld now db db := ⟨h, hrows, .refl now db⟩

theorem Upheld.trans {db' db'' : DeviceDB} (h : Upheld now db db') (h' : Upheld now db' db'') :
    Upheld now db db'' := ⟨h'.accounted, h'.rows, h.conserved.trans h'.conserved⟩

end DeviceDB

namespace SignalServer

open DeviceDB

variable {sha256 : Digest} {first server : SignalServer} {step : Step} {db db' : DeviceDB} {now : Int}

/-! ## One call -/

/-- What is left of the file of a stopped server, after start-ups that were killed and one that was not. -/
def reopened (db : DeviceDB) (killed : List (Int × Int × Nat)) (now beat : Int) : DeviceDB :=
  (killed.foldl (fun db attempt => db.initDBKilledAfter attempt.1 attempt.2.1 attempt.2.2) db).initDB now beat

/-- **The states of the server over files of its own**: a first start on a file without sessions, any
    events, and starts over what a stop left. -/
inductive Lived (sha256 : Digest) : SignalServer → Prop
  | started (now : Int) (db : DeviceDB) : DeviceDB.Reachable db → db.remoteControlSessions = ∅ →
      Lived sha256 (start now db)
  | event {server : SignalServer} (step : Step) : Lived sha256 server → Lived sha256 (server.next sha256 step)
  | restarted {server : SignalServer} (killed : List (Int × Int × Nat)) (now beat : Int) :
      Lived sha256 server → Lived sha256 (start now (reopened server.db killed now beat))

theorem Lived.reachable (h : Lived sha256 server) : Reachable sha256 server := by
  induction h with
  | started now db _ hempty => exact .started now db hempty
  | event step _ ih => exact .event step ih
  | restarted killed now beat _ ih => exact ih.restart killed now beat

theorem reopened_reachable (h : DeviceDB.Reachable db) (killed : List (Int × Int × Nat)) (now beat : Int) :
    DeviceDB.Reachable (reopened db killed now beat) := by
  apply DeviceDB.Reachable.initDB
  induction killed generalizing db with
  | nil => exact h
  | cons attempt killed ih => exact ih (h.started attempt.1 attempt.2.1 attempt.2.2)

theorem callback_reachable (h : DeviceDB.Reachable db) (now : Int) (event : SessionEvent) :
    DeviceDB.Reachable (remoteControlSessionCallback now db event) := by
  rw [← call_callOf]
  unfold callOf
  split
  · exact h.performed (now, .startRemoteControlSession _ _ _)
  · exact h.performed (now, .endRemoteControlSession _ _ _)

theorem start_reachable (h : DeviceDB.Reachable db) (now : Int) : DeviceDB.Reachable (start now db).db :=
  start_keeps (I := DeviceDB.Reachable) (fun _ event h => callback_reachable h now event) h

theorem Calls.reachable (h : Calls sha256 first step db db') (hdb : DeviceDB.Reachable db) :
    DeviceDB.Reachable db' := by
  refine Run.Leads.keeps (P := Serves sha256 first step) (I := DeviceDB.Reachable) (fun db c _ hdb => ?_) h hdb
  cases c with
  | duration op => exact hdb.performed _
  | credentials devices => exact hdb.credentials devices
  | heartbeat => exact hdb.heartbeat _

/-- The database of a server is one of those the database goes through by itself. -/
theorem Lived.database (h : Lived sha256 server) : DeviceDB.Reachable server.db := by
  induction h with
  | started now db hdb _ => exact start_reachable hdb now
  | event step hlived ih => exact (next_calls hlived.reachable.sound step).reachable ih
  | restarted killed now beat _ ih => exact start_reachable (reopened_reachable ih killed now beat) now

/-- **The server refines its database.** Over files of its own the database under a server is always one that
    the operations of the database reach, and every event drives it on by calls of the server (`Serves`). -/
theorem server_refines_database (h : Lived sha256 server) : DeviceDB.Reachable server.db ∧
    ∀ step, Calls sha256 server step server.db (server.next sha256 step).db :=
  ⟨h.database, next_calls h.reachable.sound⟩

theorem server_refines_database_first : DeviceDB.Reachable (start 0 newFile).db ∧
    Calls sampleDigest (start 0 newFile) registration (start 0 newFile).db
      ((start 0 newFile).next sampleDigest registration).db :=
  have hlived : Lived sampleDigest (start 0 newFile) := .started 0 newFile .newFile rfl
  ⟨(server_refines_database hlived).1, (server_refines_database hlived).2 registration⟩

end SignalServer
end DeskServer
