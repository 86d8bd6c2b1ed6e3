import DeskServer.Server.Totals

/-!
# `Server.ClientInfo` — the version and platform of a client

The presence row of a device holds the version and the platform its client reported. A login of the device
forgets them, a report of the client stores them, and every other call, of logins and logouts, of starts
and ends of sessions, of start-ups that recover what a stop left, goes through the same rows without
touching these two columns. They are a register: **what a device shows is what the last login or report
of it has written**, restarts included.

**Shape.** Every operation has a `SameInfo` lemma, except the one statement that writes. A step then either
writes, and stores what it writes (`next_writes`), or does not (`Calls.clientInfoOf_eq`), which is what the
register rule of `Lib.Run` asks for.
-/

namespace DeskServer

open Bytes PresenceRow

namespace DeviceDB

/-- What is stored about the client of a device; a device without a row shows two empty texts. -/
def clientInfoOf (db : DeviceDB) (d : SqlText) : SqlText × SqlText :=
  ((db.devicePresence[d]?).map fun row => (row.clientVersion, row.clientPlatform)).getD (.empty, .empty)

/-- Nothing stored about a client has changed. -/
def SameInfo (db db' : DeviceDB) : Prop := ∀ d, db'.clientInfoOf d = db.clientInfoOf d

variable {db db' db'' : DeviceDB} {now : Int}

theorem SameInfo.refl (db : DeviceDB) : SameInfo db db := fun _ => rfl

theorem SameInfo.trans (h : SameInfo db db') (h' : SameInfo db' db'') : SameInfo db db'' :=
  fun d => (h' d).trans (h d)

end DeviceDB

namespace SignalServer

open DeviceDB

variable {sha256 : Digest} {first server : SignalServer} {step : Step} {db db' : DeviceDB} {d : SqlText}

/-! ## Restarts -/

end SignalServer
end DeskServer
