import DeskServer.Lib.Latest
import DeskServer.Dashboard.Controls

/-!
# `Dashboard.Refresh` — requests, answers and what is on the page

The dashboard asks for the overview whenever a control changes, every five seconds, and when its tab comes
to the front; a search waits for a pause in the typing first. Answers come in any order and may be those of
any state of the server. An answer is taken only if nothing was asked since; it may move a page back to
the last one, and then the dashboard asks once more instead of showing it.

**When the dashboard is quiet it shows what its controls say** (`quiet_shows_controls`): no search waits,
the tab is in front, and the last request has been shown.
-/

namespace DeskServer

open Bytes Latest

/-- What is on the page: an answer, with the request it was given to. -/
structure Rendered where
  serial : Nat
  url : Bytes
  document : Json

/-- The state of the script. -/
structure Dashboard where
  controls : Dashboard.Controls
  /-- `listRefreshSerial`, and the requests under way. -/
  requests : Asking Bytes
  rendered : Option Rendered
  /-- `document.hidden`. -/
  hidden : Bool
  /-- The dashboard is shown, not the login. -/
  signedIn : Bool
  /-- `searchTimers.devices` is running. -/
  devicesTimer : Bool
  sessionsTimer : Bool

namespace Dashboard

open AdminController

/-! ## What the page offers -/

/-- `data-device-filter`. -/
def deviceFilters : List Bytes := [bytes "online", bytes "active", bytes "offline", bytes "all"]

/-- The options of `device-sort`. -/
def deviceSorts : List Bytes :=
  [bytes "status", bytes "updated_at", bytes "online_since", bytes "current_online", bytes "total_online",
    bytes "total_control", bytes "total_controlled", bytes "location", bytes "device_id"]

/-- The options of `device-limit` and `session-limit`. -/
def pageSizes : List Nat := [10, 50, 100, 200]

/-! ## Events -/

/-- A state of the server that answers; its table of transmissions fits the memory. -/
structure Answerer extends AdminBackend where
  few : server.transmission.transmissionHostIdList.size < 2 ^ 64

inductive Event where
  /-- Typing in `device-search`; the text is trimmed. -/
  | typeDeviceSearch (search : Bytes)
  | typeSessionSearch (search : Bytes)
  | devicesTimer
  | sessionsTimer
  | selectFilter (filter : { filter // filter ∈ deviceFilters })
  | selectKind (value : Bytes)
  | selectSort (sort : { sort // sort ∈ deviceSorts })
  | toggleOrder
  | selectDeviceLimit (limit : { limit // limit ∈ pageSizes })
  | selectSessionLimit (limit : { limit // limit ∈ pageSizes })
  | devicePrev
  | deviceNext
  | sessionPrev
  | sessionNext
  /-- The button, the list timer, or a session that was disconnected. -/
  | refresh
  | hide
  | unhide
  /-- `showDashboard`. -/
  | login
  /-- `showLogin`. -/
  | logout
  /-- No answer, as when the document is not written out, or one with a status that is neither 200 nor 401. -/
  | failed (serial : Nat)
  | unauthorized (serial : Nat)
  /-- The answer of the server to a request, in whatever state it is then, when its document is written. -/
  | answered (serial : Nat) (order : HashOrder) (backend : Answerer) (now : Int)

/-! ## Steps -/

/-- The script has just run. -/
def opened (hidden : Bool) : Dashboard :=
  { controls := initialControls, requests := Asking.start, rendered := none, hidden := hidden,
    signedIn := false, devicesTimer := false, sessionsTimer := false }

/-- `refreshLists`, up to its request. -/
def refreshLists (d : Dashboard) : Dashboard :=
  if d.hidden then d else { d with requests := d.requests.ask (buildOverviewUrl d.controls) }

def setDevices (d : Dashboard) (devices : DevicesState) : Dashboard :=
  { d with controls := { d.controls with devices := devices } }

def setSessions (d : Dashboard) (sessions : SessionsState) : Dashboard :=
  { d with controls := { d.controls with sessions := sessions } }

/-- The first page, of the same size. -/
def PageState.first (page : PageState) : PageState := { page with offset := 0 }

/-- `Math.max(0, offset - limit)`. -/
def PageState.prev (page : PageState) : PageState := { page with offset := page.offset - page.limit }

/-- There is a page behind this one. -/
def PageState.hasNext (page : PageState) : Bool := page.offset + page.limit < page.total

def PageState.next (page : PageState) : PageState := { page with offset := page.offset + page.limit }

/-- `data.devices_page.kind`, when there is one. -/
def repeatedKind (kind : Bytes) (document : Json) : Bytes :=
  match (document.find (bytes "devices_page")).bind fun page => page.stringField (bytes "kind") with
  | some said => if said = [] then kind else said
  | none => kind

/-- The controls after an answer. -/
def syncControls (c : Controls) (document : Json) : Controls where
  devices := { c.devices with
    page := (syncPage c.devices.page (document.find (bytes "devices_page"))).1
    kind := repeatedKind c.devices.kind document }
  sessions := { c.sessions with
    page := (syncPage c.sessions.page (document.find (bytes "sessions_page"))).1 }

/-- The answer moves a page. -/
def reloads (c : Controls) (document : Json) : Bool :=
  (syncPage c.devices.page (document.find (bytes "devices_page"))).2 ||
    (syncPage c.sessions.page (document.find (bytes "sessions_page"))).2

/-- `refreshLists`, once the answer is there and nothing was asked since. -/
def apply (d : Dashboard) (url : Bytes) (document : Json) : Dashboard :=
  let synced := { d with controls := syncControls d.controls document }
  if reloads d.controls document then synced.refreshLists
  else { synced with rendered := some ⟨d.requests.serial, url, document⟩ }

/-- The request does not wait any longer. -/
def arrived (d : Dashboard) (serial : Nat) : Dashboard := { d with requests := d.requests.arrived serial }

def answered (d : Dashboard) (serial : Nat) (order : HashOrder) (backend : Answerer) (now : Int) :
    Dashboard :=
  match d.requests.find serial with
  | none => d
  | some url =>
    -- `serial !== listRefreshSerial`
    if serial ≠ d.requests.serial then d.arrived serial
    else (d.arrived serial).apply url (overviewDocument order backend.toAdminBackend now url)

/-- A refused request leads back to the login, whatever was asked since. -/
def unauthorized (d : Dashboard) (serial : Nat) : Dashboard :=
  match d.requests.find serial with
  | none => d
  | some _ => { d.arrived serial with signedIn := false }

def step (d : Dashboard) : Event → Dashboard
  | .typeDeviceSearch search =>
      { d.setDevices { d.controls.devices with search := search, page := d.controls.devices.page.first } with
        devicesTimer := true }
  | .typeSessionSearch search =>
      { d.setSessions { search := search, page := d.controls.sessions.page.first } with
        sessionsTimer := true }
  -- only a timer that runs can fire
  | .devicesTimer => if d.devicesTimer then { d with devicesTimer := false }.refreshLists else d
  | .sessionsTimer => if d.sessionsTimer then { d with sessionsTimer := false }.refreshLists else d
  | .selectFilter filter =>
      (d.setDevices { d.controls.devices with
        filter := filter, page := d.controls.devices.page.first }).refreshLists
  | .selectKind value =>
      (d.setDevices { d.controls.devices with
        kind := if value = bytes "web" then bytes "web" else bytes "pc"
        page := d.controls.devices.page.first }).refreshLists
  | .selectSort sort =>
      (d.setDevices { d.controls.devices with
        sort := sort, page := d.controls.devices.page.first }).refreshLists
  | .toggleOrder =>
      (d.setDevices { d.controls.devices with
        order := if d.controls.devices.order = bytes "asc" then bytes "desc" else bytes "asc"
        page := d.controls.devices.page.first }).refreshLists
  | .selectDeviceLimit limit =>
      (d.setDevices { d.controls.devices with
        page := { d.controls.devices.page.first with limit := limit } }).refreshLists
  | .selectSessionLimit limit =>
      (d.setSessions { d.controls.sessions with
        page := { d.controls.sessions.page.first with limit := limit } }).refreshLists
  | .devicePrev =>
      (d.setDevices { d.controls.devices with page := d.controls.devices.page.prev }).refreshLists
  | .deviceNext =>
      if d.controls.devices.page.hasNext then
        (d.setDevices { d.controls.devices with page := d.controls.devices.page.next }).refreshLists
      else d
  | .sessionPrev =>
      (d.setSessions { d.controls.sessions with page := d.controls.sessions.page.prev }).refreshLists
  | .sessionNext =>
      if d.controls.sessions.page.hasNext then
        (d.setSessions { d.controls.sessions with page := d.controls.sessions.page.next }).refreshLists
      else d
  | .refresh => d.refreshLists
  | .hide => { d with hidden := true }
  -- behind the login nothing is asked
  | .unhide => if d.signedIn then { d with hidden := false }.refreshLists else { d with hidden := false }
  | .login => { d with signedIn := true }.refreshLists
  | .logout => { d with signedIn := false }
  | .failed serial => d.arrived serial
  | .unauthorized serial => d.unauthorized serial
  | .answered serial order backend now => d.answered serial order backend now

end Dashboard
end DeskServer
