import DeskServer.Database.Schema

/-!
# `Database.Presence` — the statements on `device_presence`

`SetDeviceOnline`, `UpdateDeviceNetworkInfo` and `UpdateDeviceClientInfo`. Each is one upsert: a function
from the row under the device id, if there is one, to the row that replaces it. `now` is
`strftime('%s','now')`, in seconds; the statements are taken to succeed.
-/

namespace DeskServer

open Bytes

/-- `ClientNetworkInfo`, less the fields no statement binds. -/
structure ClientNetworkInfo where
  clientIp : Bytes
  country : Bytes
  region : Bytes
  city : Bytes
  location : Bytes
deriving DecidableEq

namespace PresenceRow

/-- The row an insert creates for a device that is not connected. -/
def offlineSince (now : Int) : PresenceRow := { online := 0, updatedAt := now }

/-- `CASE WHEN online = 1 AND online_since > 0`: an interval is open. -/
def intervalOpen (row : PresenceRow) : Bool := row.online == 1 && decide (row.onlineSince > 0)

/-- The live part of the online total at `now`. -/
def liveOnline (now : Int) (row : PresenceRow) : Int :=
  if row.intervalOpen then max 0 (now - row.onlineSince) else 0

end PresenceRow

open PresenceRow

namespace DeviceDB

/-- `online_sql`. -/
def onlineUpsert (now : Int) : Option PresenceRow → PresenceRow
  | none => { online := 1, updatedAt := now, onlineSince := now }
  | some row => { row with
      online := 1
      updatedAt := now
      -- a second login does not cut the open interval
      onlineSince := if row.intervalOpen then row.onlineSince else now }

/-- `offline_sql`. -/
def offlineUpsert (now : Int) : Option PresenceRow → PresenceRow
  | none => offlineSince now
  | some row => { row with
      totalOnlineSeconds := row.totalOnlineSeconds + row.liveOnline now
      online := 0
      updatedAt := now
      onlineSince := 0 }

def networkInfoUpsert (now : Int) (info : ClientNetworkInfo) (old : Option PresenceRow) :
    PresenceRow :=
  { old.getD (offlineSince now) with
      clientIp := bindText info.clientIp
      geoCountry := bindText info.country
      geoRegion := bindText info.region
      geoCity := bindText info.city
      geoLocation := bindText info.location }

def clientInfoUpsert (now : Int) (clientVersion clientPlatform : Bytes) (old : Option PresenceRow) :
    PresenceRow :=
  { old.getD (offlineSince now) with
      clientVersion := bindText clientVersion
      clientPlatform := bindText clientPlatform }

/-- `INSERT … ON CONFLICT(device_id) DO UPDATE`. -/
def upsertPresence (db : DeviceDB) (deviceId : SqlText) (f : Option PresenceRow → PresenceRow) :
    DeviceDB :=
  { db with devicePresence := db.devicePresence.alter deviceId fun old => some (f old) }

def setDeviceOnline (db : DeviceDB) (now : Int) (deviceId : Bytes) (online : Bool) :
    Bool × DeviceDB :=
  (true, db.upsertPresence (bindText deviceId)
    (if online then onlineUpsert now else offlineUpsert now))

def updateDeviceNetworkInfo (db : DeviceDB) (now : Int) (deviceId : Bytes)
    (networkInfo : ClientNetworkInfo) : Bool × DeviceDB :=
  if deviceId = [] then (false, db)
  else (true, db.upsertPresence (bindText deviceId) (networkInfoUpsert now networkInfo))

def updateDeviceClientInfo (db : DeviceDB) (now : Int) (deviceId clientVersion clientPlatform : Bytes) :
    Bool × DeviceDB :=
  if deviceId = [] then (false, db)
  else (true, db.upsertPresence (bindText deviceId)
    (clientInfoUpsert now clientVersion clientPlatform))

/-! ## What an upsert leaves alone -/

variable {db : DeviceDB}

@[simp] theorem upsertPresence_devices (d : SqlText) (f : Option PresenceRow → PresenceRow) :
    (db.upsertPresence d f).devices = db.devices := rfl

@[simp] theorem upsertPresence_sessions (d : SqlText) (f : Option PresenceRow → PresenceRow) :
    (db.upsertPresence d f).remoteControlSessions = db.remoteControlSessions := rfl

@[simp] theorem upsertPresence_runtime (d : SqlText) (f : Option PresenceRow → PresenceRow) :
    (db.upsertPresence d f).serverRuntime = db.serverRuntime := rfl

theorem upsertPresence_row (d a : SqlText) (f : Option PresenceRow → PresenceRow) :
    (db.upsertPresence d f).devicePresence[a]?
      = if d = a then some (f db.devicePresence[a]?) else db.devicePresence[a]? := by
  unfold upsertPresence
  rw [Std.ExtTreeMap.getElem?_alter_eq]
  split
  · rename_i h; subst h; rfl
  · rfl

end DeviceDB
end DeskServer
