import DeskServer.Admin.Document
import DeskServer.Server.GeoAgreement

/-!
# `Admin.Returned` — when the overview returns its pages

`HandleOverview` repeats in `devices_page` and `sessions_page` what it was asked with, decoded, and
`JsonResponse` writes the document with `dump()`, which throws on a text that is not UTF-8. A resource can
ask with any bytes (`device_search=%FF`), so both pages may be the right ones and nothing is returned.

**Shape.** `dumps` is taken apart along the document. Every part is written exactly when the texts it shows
are UTF-8 (`deviceJson_dumps`, `sessionJson_dumps`, `devicesPageJson_dumps`); figures always are. Of the
places, a province has one of the names of `matchers`, so only the countries of foreign clients count
(`geoDistributionJson_dumps`). With `pagesAreSlices_iff` this is the exact condition `PagesFit`.

What is not covered is the text that is written, and a device whose running seconds leave 64 bits, where
SQLite's `SUM` fails and the list of the query ends.
-/

namespace DeskServer

open Bytes Paging Tally GeoClass

/-! ## The names that are listed -/

/-- A name is listed under its kind of class when a client is of that class. -/
theorem mem_names_iff {counts : Std.ExtTreeMap Bytes Nat} {kind : Bytes → GeoClass} {classes : List GeoClass}
    (h : Holds counts fun name => weightOf (· == kind name) (classes.map fun c => (c, 1))) (name : Bytes) :
    name ∈ (ranking counts).map Prod.fst ↔ kind name ∈ classes := by
  refine (h.mem_names name).trans ?_
  show weightOf (· == kind name) (classes.map fun c => (c, 1)) ≠ 0 ↔ kind name ∈ classes
  rw [weightOf_ones, Nat.ne_zero_iff_zero_lt, List.countP_pos_iff]
  simp only [beq_iff_eq, exists_eq_right]

/-- A province has one of the names of the matchers. -/
theorem isUtf8_normalizeChinaProvince (region location : Bytes) :
    isUtf8 (normalizeChinaProvince region location) = true := by
  unfold normalizeChinaProvince
  dsimp only
  split
  · exact isUtf8_bytes _
  · rfl

theorem isUtf8_of_classify {country region location name : Bytes}
    (h : classify country region location = .province name) : isUtf8 name = true := by
  unfold classify at h
  split at h
  · rw [← GeoClass.province.inj h]
    exact isUtf8_normalizeChinaProvince region location
  · split at h
    · exact absurd h GeoClass.noConfusion
    · split at h <;> exact absurd h GeoClass.noConfusion

namespace AdminController

open TransmissionManager DeviceDB

/-! ## The parts of the document -/

theorem dumps_object (members : List (String × Json)) :
    (object members).dumps = members.all fun member => member.2.dumps := by
  rw [object, Json.dumps_obj, List.all_map]
  simp [Function.comp_def]

theorem dumps_strings (ids : List Bytes) : (strings ids).dumps = ids.all isUtf8 := by
  rw [strings, Json.dumps_arr, List.all_map]
  simp [Function.comp_def]

/-- The texts a device is shown with. -/
def deviceTexts (deviceNetworkInfo : Std.ExtTreeMap Bytes ClientNetworkInfo) (device : OnlineDeviceInfo) :
    List Bytes :=
  let networkInfo := currentNetworkInfo deviceNetworkInfo device
  [device.deviceId, device.clientVersion, device.clientPlatform, networkInfo.clientIp, networkInfo.country,
    networkInfo.region, networkInfo.city, networkInfo.location] ++ device.activeControlTargets ++
    device.activeControlledBy

theorem deviceJson_dumps (deviceNetworkInfo : Std.ExtTreeMap Bytes ClientNetworkInfo)
    (device : OnlineDeviceInfo) :
    (deviceJson deviceNetworkInfo device).dumps = (deviceTexts deviceNetworkInfo device).all isUtf8 := by
  have hkind : isUtf8 (clientKind device.deviceId) = true := by
    unfold clientKind
    split <;> exact isUtf8_bytes _
  unfold deviceJson deviceTexts
  simp [dumps_object, dumps_strings, hkind]

/-- The texts a session is shown with. -/
def sessionTexts (session : TransmissionSnapshot) : List Bytes :=
  session.transmissionId :: session.hostId :: session.guestIds

theorem sessionJson_dumps (session : TransmissionSnapshot) :
    (sessionJson session).dumps = (sessionTexts session).all isUtf8 := by
  unfold sessionJson sessionTexts
  simp [dumps_object, dumps_strings]

/-- The texts of a query that are repeated as they are. -/
def echoedTexts (devices : DeviceQuery) (sessions : SessionQuery) : List Bytes :=
  [devices.search, devices.filter, devices.sort, devices.order, sessions.search]

theorem pagesJson_dumps (db : DeviceDB) (params : Std.ExtTreeMap Bytes Bytes) (sessionsTotal : Nat) :
    ((devicesPageJson db (deviceQuery params)).dumps && (sessionsPageJson (sessionQuery params) sessionsTotal).dumps)
      = (echoedTexts (deviceQuery params) (sessionQuery params)).all isUtf8 := by
  have hkind : isUtf8 (deviceQuery params).kind = true := by
    show isUtf8 (normalizeDeviceKind _) = true
    unfold normalizeDeviceKind
    dsimp only
    split
    · exact isUtf8_bytes _
    · split <;> exact isUtf8_bytes _
  unfold devicesPageJson sessionsPageJson echoedTexts
  simp [dumps_object, hkind, Bool.and_assoc]

/-- The countries of the foreign clients in memory are UTF-8. -/
def CountriesWritten (backend : AdminBackend) : Prop :=
  ∀ id ∈ backend.server.presence.clients, ∀ country : Bytes,
    clientClass backend.deviceNetworkInfo[id]? = .foreign country → isUtf8 country = true

theorem geoDistributionJson_dumps (backend : AdminBackend) (order : HashOrder) :
    (geoDistributionJson (backend.server.presence.getClientGeoDistribution backend.deviceNetworkInfo
      order)).dumps = true ↔ CountriesWritten backend := by
  have hcounts := memory_counts backend.server.presence backend.deviceNetworkInfo order
  have hclients : ∀ c : GeoClass, c ∈ (order.ids backend.server.presence.onlineDevices ++
        order.ids backend.server.presence.onlineWebClients).map (fun id => clientClass backend.deviceNetworkInfo[id]?) ↔
      ∃ id ∈ backend.server.presence.clients, clientClass backend.deviceNetworkInfo[id]? = c := by
    intro c
    rw [PresenceManager.clients, ← order.ids_val, ← order.ids_val, Multiset.coe_add]
    simp only [List.mem_map, Multiset.mem_coe]
  have hprovinces : ∀ name ∈ (backend.server.presence.getClientGeoDistribution backend.deviceNetworkInfo
      order).provinces.map Prod.fst, isUtf8 name = true := by
    intro name hname
    rw [PresenceManager.getClientGeoDistribution, GeoCounts.distribution_provinces,
      mem_names_iff hcounts.provinces, hclients] at hname
    obtain ⟨id, _, hclass⟩ := hname
    unfold clientClass at hclass
    split at hclass
    · exact absurd hclass GeoClass.noConfusion
    · exact isUtf8_of_classify hclass
  have hcountries : (∀ name ∈ (backend.server.presence.getClientGeoDistribution backend.deviceNetworkInfo
      order).countries.map Prod.fst, isUtf8 name = true) ↔ CountriesWritten backend := by
    rw [PresenceManager.getClientGeoDistribution, GeoCounts.distribution_countries]
    simp only [mem_names_iff hcounts.countries, hclients]
    constructor
    · intro h id hid country hclass
      exact h country ⟨id, hid, hclass⟩
    · rintro h country ⟨id, hid, hclass⟩
      exact h id hid country hclass
  have hdumps : ∀ distribution : ClientGeoDistribution, (geoDistributionJson distribution).dumps =
      ((distribution.provinces.map Prod.fst).all isUtf8 && (distribution.countries.map Prod.fst).all isUtf8) := by
    intro distribution
    unfold geoDistributionJson
    simp [dumps_object, List.all_map, Function.comp_def]
  rw [hdumps, Bool.and_eq_true, List.all_eq_true, List.all_eq_true]
  exact ⟨fun h => hcountries.mp h.2, fun h => ⟨hprovinces, hcountries.mpr h⟩⟩

/-! ## The document -/

/-- What a resource asks of the devices. -/
abbrev devicesAsked (resource : Bytes) : DeviceQuery := deviceQuery (resourceParams resource)

/-- And of the sessions. -/
abbrev sessionsAsked (resource : Bytes) : SessionQuery := sessionQuery (resourceParams resource)

/-- **Every text that is shown is UTF-8**: those of the devices, those of the sessions, those of the queries,
    and the countries. -/
structure TextsWritten (backend : AdminBackend) (q : DeviceQuery) (r : SessionQuery)
    (devices : List OnlineDeviceInfo) (sessions : List TransmissionSnapshot) : Prop where
  devices : ∀ device ∈ devices, ∀ text ∈ deviceTexts backend.deviceNetworkInfo device, isUtf8 text = true
  sessions : ∀ session ∈ sessions, ∀ text ∈ sessionTexts session, isUtf8 text = true
  echoed : ∀ text ∈ echoedTexts q r, isUtf8 text = true
  countries : CountriesWritten backend

/-- **The document is written exactly when its texts are UTF-8.** -/
theorem overviewDocument_dumps_iff (order : HashOrder) (backend : AdminBackend) (now : Int) (resource : Bytes) :
    (overviewDocument order backend now resource).dumps = true ↔
      TextsWritten backend (devicesAsked resource) (sessionsAsked resource)
        (overviewDevices (knownLocation backend.deviceNetworkInfo) backend.server.db now (devicesAsked resource))
        (overviewSessions backend.server.transmission backend.server.db (sessionsAsked resource).limit
          (sessionsAsked resource).offset (sessionsAsked resource).search).1 := by
  have hstats : (buildStats backend.server now).dumps = true := by
    simp only [buildStats, Json.dumps_obj, List.all_cons, List.all_nil, isUtf8_bytes, Json.dumps_int,
      Bool.and_self]
  have hcounts : ∀ q, (deviceCountsJson backend.server.db q).dumps = true := by
    intro q
    simp only [deviceCountsJson, dumps_object, List.all_cons, List.all_nil, Json.dumps_int, Bool.and_self]
  have hkinds : ∀ pc web : Int, (object [("pc", .int pc), ("web", .int web)]).dumps = true := by
    intro pc web
    simp only [dumps_object, List.all_cons, List.all_nil, Json.dumps_int, Bool.and_self]
  have hpages := pagesJson_dumps backend.server.db (resourceParams resource)
  have hgeo := geoDistributionJson_dumps backend order
  unfold overviewDocument
  simp only [dumps_object, List.all_cons, List.all_nil, hstats, hcounts, hkinds, Json.dumps_arr, List.all_map,
    Function.comp_def, deviceJson_dumps, sessionJson_dumps, Bool.and_eq_true, Bool.true_and, Bool.and_true,
    List.all_eq_true, hgeo]
  constructor
  · rintro ⟨hdevices, hdevicesPage, hcountries, hsessions, hsessionsPage⟩
    refine ⟨hdevices, hsessions, List.all_eq_true.mp ?_, hcountries⟩
    rw [← hpages, hdevicesPage, hsessionsPage, Bool.and_self]
  · intro h
    have hboth := List.all_eq_true.mpr h.echoed
    rw [← hpages, Bool.and_eq_true] at hboth
    exact ⟨h.devices, hboth.1, h.countries, h.sessions, hboth.2⟩

/-- **A search that is not UTF-8 is answered by nothing**, and so is every other text that is repeated. -/
theorem overview_unanswered (order : HashOrder) (backend : AdminBackend) (now : Int) {resource text : Bytes}
    (hin : text ∈ echoedTexts (devicesAsked resource) (sessionsAsked resource))
    (htext : isUtf8 text = false) :
    jsonResponse 200 (overviewDocument order backend now resource) = none := by
  refine if_neg fun hdumps => ?_
  have hechoed := ((overviewDocument_dumps_iff order backend now resource).mp hdumps).echoed text hin
  rw [htext] at hechoed
  exact absurd hechoed Bool.false_ne_true

example : (devicesAsked (bytes "/api/admin/overview?device_search=%FF")).search = [255] := by decide

/-! ## Both pages -/

section Samples

open SignalServer

/-- The device `100000000`, known to be in France, under the control of `C-x`. -/
def watched : AdminBackend :=
  ⟨joined, (∅ : Std.ExtTreeMap Bytes ClientNetworkInfo).insert (bytes "100000000")
    ⟨bytes "8.8.8.8", bytes "France", [], [], bytes "France"⟩⟩

end Samples

end AdminController
end DeskServer
