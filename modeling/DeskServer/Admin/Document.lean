import DeskServer.Admin.Pages
import DeskServer.Presence.GeoDistribution

/-!
# `Admin.Document` — what the overview says

`HandleOverview` answers with one JSON document: the figures of the whole server, a page of devices, a page
of sessions, the counts behind the filters and where the clients are. Every part is a query of its own, and
the dashboard sets them next to each other, so they have to fit.
-/

namespace DeskServer

open Bytes Paging

namespace AdminController

open TransmissionManager DeviceDB

/-! ## Parts of the document -/

/-- An object, its members in the order of the source. -/
def object (members : List (String × Json)) : Json := .obj (members.map fun member => (bytes member.1, member.2))

/-- `ClientKind`. -/
def clientKind (deviceId : Bytes) : Bytes :=
  if startsWith (bytes "web-") deviceId then bytes "web" else bytes "device"

/-- `CurrentNetworkInfo`: what is known in memory of a device that is online. -/
def currentNetworkInfo (deviceNetworkInfo : Std.ExtTreeMap Bytes ClientNetworkInfo)
    (device : OnlineDeviceInfo) : ClientNetworkInfo :=
  if device.online then (deviceNetworkInfo[device.deviceId]?).getD ⟨[], [], [], [], []⟩
  else ⟨[], [], [], [], []⟩

/-- The location `GetDeviceNetworkInfo` knows, for the sort by location. -/
def knownLocation (deviceNetworkInfo : Std.ExtTreeMap Bytes ClientNetworkInfo) (deviceId : Bytes) : Bytes :=
  ((deviceNetworkInfo[deviceId]?).map ClientNetworkInfo.location).getD []

def strings (ids : List Bytes) : Json := .arr (ids.map Json.str)

/-- One element of `devices`. -/
def deviceJson (deviceNetworkInfo : Std.ExtTreeMap Bytes ClientNetworkInfo) (device : OnlineDeviceInfo) :
    Json :=
  let networkInfo := currentNetworkInfo deviceNetworkInfo device
  object [("id", .str device.deviceId),
    ("online", .bool device.online),
    ("kind", .str (clientKind device.deviceId)),
    ("client_version", .str device.clientVersion),
    ("client_platform", .str device.clientPlatform),
    ("updated_at", .int device.updatedAt),
    ("last_online_at", .int (if device.online then 0 else device.updatedAt)),
    ("online_since", .int device.onlineSince),
    ("online_duration_seconds", .int device.onlineDurationSeconds),
    ("total_online_seconds", .int device.totalOnlineSeconds),
    ("total_control_seconds", .int device.totalControlSeconds),
    ("total_controlled_seconds", .int device.totalControlledSeconds),
    ("client_ip", .str networkInfo.clientIp),
    ("geo_country", .str networkInfo.country),
    ("geo_region", .str networkInfo.region),
    ("geo_city", .str networkInfo.city),
    ("geo_location", .str networkInfo.location),
    ("current_control_seconds", .int device.currentControlSeconds),
    ("current_controlled_seconds", .int device.currentControlledSeconds),
    ("active_control_count", .int device.activeControlCount),
    ("active_controlled_count", .int device.activeControlledCount),
    ("active_control_targets", strings device.activeControlTargets),
    ("active_controlled_by", strings device.activeControlledBy),
    ("active_session_count", .int (device.activeControlCount + device.activeControlledCount))]

/-- One element of `sessions`. -/
def sessionJson (session : TransmissionSnapshot) : Json :=
  object [("transmission_id", .str session.transmissionId),
    ("host_id", .str session.hostId),
    ("guest_ids", strings session.guestIds),
    ("participant_count", .int session.participantCount),
    ("active", .bool session.active)]

/-- `GeoDistributionJson`. -/
def geoDistributionJson (distribution : ClientGeoDistribution) : Json :=
  object [("total_count", .int distribution.totalCount),
    ("domestic_count", .int distribution.domesticCount),
    ("foreign_count", .int distribution.foreignCount),
    ("unknown_count", .int distribution.unknownCount),
    ("provinces", .arr (distribution.provinces.map fun province =>
      object [("province", .str province.1), ("count", .int province.2)])),
    ("countries", .arr (distribution.countries.map fun country =>
      object [("country", .str country.1), ("count", .int country.2)]))]

/-- `web_counts`; counted once when the browsers are asked for anyway. -/
def webCounts (db : DeviceDB) (q : DeviceQuery) : DevicePresenceCounts :=
  if q.kind = bytes "web" then db.countDevicePresenceByFilters q.search q.kind
  else db.countDevicePresenceByFilters q.search (bytes "web")

/-- `pc_counts`. -/
def pcCounts (db : DeviceDB) (q : DeviceQuery) : DevicePresenceCounts :=
  if q.kind = bytes "pc" then db.countDevicePresenceByFilters q.search q.kind
  else db.countDevicePresenceByFilters q.search (bytes "pc")

/-- `devices_total`. -/
def devicesTotal (db : DeviceDB) (q : DeviceQuery) : Nat :=
  toSize (countForDeviceFilter (db.countDevicePresenceByFilters q.search q.kind) q.filter)

/-- `device_counts`. -/
def deviceCountsJson (db : DeviceDB) (q : DeviceQuery) : Json :=
  let counts := db.countDevicePresenceByFilters q.search q.kind
  object [("all", .int counts.all), ("online", .int counts.online), ("offline", .int counts.offline),
    ("active", .int counts.active), ("web", .int (webCounts db q).all)]

/-- `devices_page`. -/
def devicesPageJson (db : DeviceDB) (q : DeviceQuery) : Json :=
  object [("limit", .int q.limit), ("offset", .int q.offset), ("total", .int (devicesTotal db q)),
    ("search", .str q.search), ("filter", .str q.filter), ("kind", .str q.kind), ("sort", .str q.sort),
    ("order", .str q.order)]

/-- `sessions_page`. -/
def sessionsPageJson (q : SessionQuery) (sessionsTotal : Nat) : Json :=
  object [("limit", .int q.limit), ("offset", .int q.offset), ("total", .int sessionsTotal),
    ("search", .str q.search)]

/-! ## The document -/

/-- The body of `HandleOverview`. The hash containers of the presence manager give their elements in some
    order. -/
def overviewDocument (order : HashOrder) (backend : AdminBackend) (now : Int) (resource : Bytes) : Json :=
  let params := resourceParams resource
  let devices := deviceQuery params
  let sessions := sessionQuery params
  let db := backend.server.db
  let listed := overviewSessions backend.server.transmission db sessions.limit sessions.offset sessions.search
  object [("stats", buildStats backend.server now),
    ("devices", .arr ((overviewDevices (knownLocation backend.deviceNetworkInfo) db now devices).map
      (deviceJson backend.deviceNetworkInfo))),
    ("devices_page", devicesPageJson db devices),
    ("device_counts", deviceCountsJson db devices),
    ("device_kind_counts", object [("pc", .int (pcCounts db devices).all),
      ("web", .int (webCounts db devices).all)]),
    ("geo_distribution", geoDistributionJson
      (backend.server.presence.getClientGeoDistribution backend.deviceNetworkInfo order)),
    ("sessions", .arr (listed.1.map sessionJson)),
    ("sessions_page", sessionsPageJson sessions listed.2)]

end AdminController
end DeskServer
