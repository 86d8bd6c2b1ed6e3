import DeskServer.Database.Presence

/-!
# `Database.Sessions` — the statements on `remote_control_sessions`

`StartRemoteControlSession`, `EndRemoteControlSession`, `EndRemoteControlTransmission` and
`ListRemoteControlSessions`. A start makes sure both ends have a presence row and inserts the session
unless the pair is already there; an end moves the elapsed seconds into the totals of both ends and
deletes the row, in one transaction.
-/

namespace DeskServer

open Bytes PresenceRow

namespace DeviceDB

/-- The `ensure_presence` lambda: `ON CONFLICT(device_id) DO NOTHING`. -/
def ensurePresence (db : DeviceDB) (now : Int) (deviceId : Bytes) : DeviceDB :=
  { db with devicePresence := db.devicePresence.insertIfNew (bindText deviceId) (offlineSince now) }

/-- The row a start inserts. -/
def sessionRow (now : Int) (hostId guestId : Bytes) : SessionRow where
  hostId := bindText hostId
  normalizedGuestId := bindText (normalizeRemoteDeviceId guestId)
  normalizedHostId := bindText (normalizeRemoteDeviceId hostId)
  startedAt := now

def startRemoteControlSession (db : DeviceDB) (now : Int) (transmissionId hostId guestId : Bytes) :
    Bool × DeviceDB :=
  if transmissionId = [] ∨ hostId = [] ∨ guestId = [] ∨ hostId = guestId then (false, db)
  else
    let present := (db.ensurePresence now (normalizeRemoteDeviceId hostId)).ensurePresence now
      (normalizeRemoteDeviceId guestId)
    -- `INSERT OR IGNORE`: a session that is open keeps its start
    (true, { present with
      remoteControlSessions := present.remoteControlSessions.insertIfNew
        ⟨bindText transmissionId, bindText guestId⟩ (sessionRow now hostId guestId) })

/-- `UPDATE device_presence SET … WHERE device_id = ?`, with the rewrite `g` of the row. -/
def updatePresence (db : DeviceDB) (d : SqlText) (g : PresenceRow → PresenceRow) : DeviceDB :=
  { db with devicePresence := db.devicePresence.alter d (Option.map g) }

def creditControl (value : Int) (row : PresenceRow) : PresenceRow :=
  { row with totalControlSeconds := row.totalControlSeconds + value }

def creditControlled (value : Int) (row : PresenceRow) : PresenceRow :=
  { row with totalControlledSeconds := row.totalControlledSeconds + value }

/-- The `add_duration` lambda on `total_control_seconds`. -/
def addControl (db : DeviceDB) (deviceId : Bytes) (value : Int) : DeviceDB :=
  db.updatePresence (bindText deviceId) (creditControl value)

/-- The `add_duration` lambda on `total_controlled_seconds`. -/
def addControlled (db : DeviceDB) (deviceId : Bytes) (value : Int) : DeviceDB :=
  db.updatePresence (bindText deviceId) (creditControlled value)

/-- The host the seconds are credited to: the stored one, unless it is empty. -/
def effectiveHostId (row : SessionRow) (hostId : Bytes) : Bytes :=
  if row.hostId.val = [] then hostId else row.hostId.val

def endRemoteControlSession (db : DeviceDB) (now : Int) (transmissionId hostId guestId : Bytes) :
    Bool × DeviceDB :=
  if transmissionId = [] ∨ guestId = [] then (false, db)
  else
    let key : SessionKey := ⟨bindText transmissionId, bindText guestId⟩
    match db.remoteControlSessions[key]? with
    | none => (true, db)
    | some row =>
      if effectiveHostId row hostId = [] then (false, db)
      -- one transaction: both credits and the deletion, or nothing
      else
        let duration := max 0 (now - row.startedAt)
        let credited := (db.addControl (normalizeRemoteDeviceId guestId) duration).addControlled
          (normalizeRemoteDeviceId (effectiveHostId row hostId)) duration
        (true, { credited with
          remoteControlSessions := credited.remoteControlSessions.erase key })

/-- `SELECT host_id, guest_id … WHERE transmission_id = ?`. -/
def sessionsOf (db : DeviceDB) (transmissionId : SqlText) : List (Bytes × Bytes) :=
  (db.remoteControlSessions.toList.filter fun row => row.1.transmissionId = transmissionId).map
    fun row => (row.2.hostId.val, row.1.guestId.val)

/-- One iteration of `ok = EndRemoteControlSession(…) && ok`. -/
def endStep (now : Int) (transmissionId : Bytes) (acc : Bool × DeviceDB) (session : Bytes × Bytes) :
    Bool × DeviceDB :=
  let ended := acc.2.endRemoteControlSession now transmissionId session.1 session.2
  (ended.1 && acc.1, ended.2)

def endRemoteControlTransmission (db : DeviceDB) (now : Int) (transmissionId : Bytes) :
    Bool × DeviceDB :=
  if transmissionId = [] then (false, db)
  else (db.sessionsOf (bindText transmissionId)).foldl (endStep now transmissionId) (true, db)

end DeviceDB
end DeskServer
