import DeskServer.Dashboard.Refresh
import DeskServer.Server.GeoAgreement
import DeskServer.Lib.Run

/-!
# `Dashboard.Quiet` — the page agrees with its controls

Two facts are kept apart. What is asked and shown is always sound (`Sound`): every request is that of some
controls, every page shown answers a request. And the last request is that of the controls as they are
(`UpToDate`), except while a search waits, the tab is hidden or the login is shown: each of these ends in a
new request. An answer repeats what it was asked for, so taking it changes no control that was asked with.
-/

namespace DeskServer

open Bytes Latest

namespace Dashboard

open AdminController

theorem toSize_lt (n : Int) : DeviceDB.toSize n < 2 ^ 64 := by
  unfold DeviceDB.toSize
  omega

theorem PageState.valid_mk {limit offset total : Nat} (h : limit ≤ 200) (h' : offset < 2 ^ 64)
    (h'' : total < 2 ^ 64) : PageState.Valid ⟨limit, offset, total⟩ := ⟨h, h', h''⟩

/-! ## The answer to a request -/

section Answer
variable {order : HashOrder} {backend : Answerer} {now : Int} {c c' : Controls}

/-- The document `c` is answered with. -/
def answerTo (order : HashOrder) (backend : Answerer) (now : Int) (c : Controls) : Json :=
  overviewDocument order backend.toAdminBackend now (buildOverviewUrl c)

/-- How many devices the server counts. -/
def devicesCounted (backend : Answerer) (c : Controls) : Nat :=
  devicesTotal backend.server.db (deviceQuery (resourceParams (buildOverviewUrl c)))

/-- How many sessions it counts: the database's number, unless that is zero. -/
def sessionsCounted (backend : Answerer) (c : Controls) : Nat :=
  if DeviceDB.toSize (backend.server.db.countRemoteControlTransmissions c.sessions.search) = 0 then
    (rememberedList backend.server.transmission c.sessions.search).length
  else DeviceDB.toSize (backend.server.db.countRemoteControlTransmissions c.sessions.search)

theorem overviewSessions_snd (backend : Answerer) (c : Controls) (limit offset : Nat) :
    (overviewSessions backend.server.transmission backend.server.db limit offset c.sessions.search).2 =
      sessionsCounted backend c := by
  simp only [overviewSessions, apply_ite Prod.snd, sessionsCounted,
    TransmissionManager.getTransmissionSnapshots_page, rememberedList]

theorem find_devices_page : (answerTo order backend now c).find (bytes "devices_page") =
    some (devicesPageJson backend.server.db (deviceQuery (resourceParams (buildOverviewUrl c)))) := rfl

theorem find_sessions_page (order : HashOrder) (backend : Answerer) (now : Int) (h : c.Valid) : ∃ page,
    (answerTo order backend now c).find (bytes "sessions_page") = some page ∧
      readPage page = ⟨c.sessions.page.limit, c.sessions.page.offset, sessionsCounted backend c⟩ := by
  refine ⟨_, rfl, ?_⟩
  rw [readPage_sessionsPageJson, sessionQuery_buildOverviewUrl h, overviewSessions_snd]

theorem readPage_devices (backend : Answerer) (h : c.Valid) : readPage (devicesPageJson backend.server.db
    (deviceQuery (resourceParams (buildOverviewUrl c)))) =
      ⟨c.devices.page.limit, c.devices.page.offset, devicesCounted backend c⟩ := by
  rw [readPage_devicesPageJson, devicesCounted, deviceQuery_buildOverviewUrl h]

/-- The kind is repeated. -/
theorem repeatedKind_answerTo (h : c.Valid) (kind : Bytes) :
    repeatedKind kind (answerTo order backend now c) = c.devices.kind := by
  have hne : c.devices.kind ≠ [] := by
    rcases h.kind with hk | hk
    all_goals rw [hk]; decide
  have hsaid : (devicesPageJson backend.server.db
      (deviceQuery (resourceParams (buildOverviewUrl c)))).stringField (bytes "kind") =
        some c.devices.kind := by
    rw [deviceQuery_buildOverviewUrl h]
    rfl
  unfold repeatedKind
  rw [find_devices_page, Option.bind_some, hsaid]
  exact if_neg hne

theorem devicesCounted_lt (backend : Answerer) (c : Controls) : devicesCounted backend c < 2 ^ 64 := by
  unfold devicesCounted devicesTotal
  exact toSize_lt _

/-- The transmissions in memory are no more than the table has. -/
theorem sessionsCounted_lt (backend : Answerer) (c : Controls) : sessionsCounted backend c < 2 ^ 64 := by
  unfold sessionsCounted
  split
  · rw [rememberedList, List.length_map]
    have hle := List.length_filter_le (backend.server.transmission.hostMatches c.sessions.search)
      backend.server.transmission.transmissionHostIdList.toList
    rw [Std.ExtTreeMap.length_toList] at hle
    have hfew := backend.few
    omega
  · exact toSize_lt _

/-! ## Taking an answer -/

/-- A page that is not moved is what the server says. -/
theorem syncPage_kept {page : PageState} {pageData : Json} (h : (syncPage page (some pageData)).2 = false) :
    (syncPage page (some pageData)).1 = readPage pageData := by
  unfold syncPage at h ⊢
  dsimp only at h ⊢
  split at h
  · exact absurd h (by simp)
  · rename_i hstays
    rw [if_neg hstays]

/-- A page that is moved goes to the last one. -/
theorem syncPage_moved {page : PageState} {pageData : Json} (h : (syncPage page (some pageData)).2 = true) :
    (syncPage page (some pageData)).1 = { readPage pageData with
      offset := ((readPage pageData).total - 1) / (readPage pageData).limit * (readPage pageData).limit } ∧
    0 < (readPage pageData).total ∧ (readPage pageData).total ≤ (readPage pageData).offset ∧
      0 < (readPage pageData).limit := by
  unfold syncPage at h ⊢
  dsimp only at h ⊢
  split at h
  · rename_i hmoves
    rw [if_pos hmoves]
    exact ⟨rfl, hmoves⟩
  · exact absurd h (by simp)

theorem syncPage_valid {page : PageState} {pageData : Json} (h : (readPage pageData).Valid) :
    (syncPage page (some pageData)).1.Valid := by
  cases hmoved : (syncPage page (some pageData)).2 with
  | false =>
      rw [syncPage_kept hmoved]
      exact h
  | true =>
      obtain ⟨heq, hpos, _⟩ := syncPage_moved hmoved
      have hle := Nat.div_mul_le_self ((readPage pageData).total - 1) (readPage pageData).limit
      have hback : ((readPage pageData).total - 1) / (readPage pageData).limit * (readPage pageData).limit <
          (readPage pageData).total := by omega
      rw [heq]
      exact ⟨h.limit, Nat.lt_trans hback h.total, h.total⟩

/-- Controls stay in their ranges, whatever they were, when they take an answer to valid ones. -/
theorem syncControls_valid (order : HashOrder) (backend : Answerer) (now : Int) (h : c.Valid) (h' : c'.Valid) :
    (syncControls c' (answerTo order backend now c)).Valid := by
  obtain ⟨page, hpage, hread⟩ := find_sessions_page order backend now h
  unfold syncControls
  rw [hpage, find_devices_page, repeatedKind_answerTo h]
  have hdevices : (readPage (devicesPageJson backend.server.db
      (deviceQuery (resourceParams (buildOverviewUrl c))))).Valid := by
    rw [readPage_devices backend h]
    exact PageState.valid_mk h.devices.limit h.devices.offset (devicesCounted_lt backend c)
  have hsessions : (readPage page).Valid := by
    rw [hread]
    exact PageState.valid_mk h.sessions.limit h.sessions.offset (sessionsCounted_lt backend c)
  exact ⟨syncPage_valid hdevices, syncPage_valid hsessions, h'.filter, h.kind, h'.sort, h'.order⟩

/-- **An answer repeats the controls it was asked with**, when it moves no page. -/
theorem syncControls_answerTo (h : c.Valid) (hstay : reloads c (answerTo order backend now c) = false) :
    syncControls c (answerTo order backend now c) =
      { devices := { c.devices with
          page := ⟨c.devices.page.limit, c.devices.page.offset, devicesCounted backend c⟩ }
        sessions := { c.sessions with
          page := ⟨c.sessions.page.limit, c.sessions.page.offset, sessionsCounted backend c⟩ } } := by
  obtain ⟨page, hpage, hread⟩ := find_sessions_page order backend now h
  unfold reloads at hstay
  rw [Bool.or_eq_false_iff, hpage, find_devices_page] at hstay
  unfold syncControls
  rw [hpage, find_devices_page, repeatedKind_answerTo h, syncPage_kept hstay.1, syncPage_kept hstay.2, hread,
    readPage_devices backend h]

/-- What is asked for does not depend on the totals. -/
theorem buildOverviewUrl_totals (c : Controls) (m n : Nat) : buildOverviewUrl
    { devices := { c.devices with page := ⟨c.devices.page.limit, c.devices.page.offset, m⟩ }
      sessions := { c.sessions with page := ⟨c.sessions.page.limit, c.sessions.page.offset, n⟩ } } =
    buildOverviewUrl c := rfl

/-- So the request they stand for is the same. -/
theorem buildOverviewUrl_syncControls (h : c.Valid)
    (hstay : reloads c (answerTo order backend now c) = false) :
    buildOverviewUrl (syncControls c (answerTo order backend now c)) = buildOverviewUrl c := by
  rw [syncControls_answerTo h hstay]
  exact buildOverviewUrl_totals c _ _

end Answer

/-! ## The invariant -/

/-- The request is that of valid controls. -/
def IsRequest (url : Bytes) : Prop := ∃ c : Controls, c.Valid ∧ url = buildOverviewUrl c

/-- The page shows what the server has answered, among the events `es`, to the request with its number. -/
structure AnswersRequest (asked : List Bytes) (es : List Event) (r : Rendered) : Prop where
  request : asked[r.serial - 1]? = some r.url
  document : ∃ (order : HashOrder) (backend : Answerer) (now : Int),
    Event.answered r.serial order backend now ∈ es ∧
      r.document = overviewDocument order backend.toAdminBackend now r.url

/-- **What is asked and shown is sound**, with `asked` the requests so far and `es` the events. -/
structure Sound (asked : List Bytes) (es : List Event) (d : Dashboard) : Prop where
  represents : Represents asked d.requests
  controls : d.controls.Valid
  wellFormed : ∀ url ∈ asked, IsRequest url
  rendered : ∀ r, d.rendered = some r → AnswersRequest asked es r

/-- Something will lead to a new request. -/
def Excused (d : Dashboard) : Prop :=
  d.hidden = true ∨ d.signedIn = false ∨ d.devicesTimer = true ∨ d.sessionsTimer = true

/-- **The last request is that of the controls**, or a new one is to come. -/
def UpToDate (asked : List Bytes) (d : Dashboard) : Prop :=
  asked.getLast? = some (buildOverviewUrl d.controls) ∨ d.Excused

/-- Both, for some requests so far. -/
def Coherent (es : List Event) (d : Dashboard) : Prop := ∃ asked, Sound asked es d ∧ UpToDate asked d

variable {asked : List Bytes} {es : List Event} {d : Dashboard}

theorem opened_coherent (hidden : Bool) : Coherent [] (opened hidden) :=
  ⟨[], ⟨represents_start, initialControls_valid, fun _ h => absurd h List.not_mem_nil,
    fun _ h => absurd h (by simp [opened])⟩, .inr (.inr (.inl rfl))⟩

/-! ### Pages -/

theorem PageState.Valid.first {page : PageState} (h : page.Valid) : page.first.Valid :=
  PageState.valid_mk h.limit (Nat.two_pow_pos 64) h.total

theorem PageState.Valid.prev {page : PageState} (h : page.Valid) : page.prev.Valid :=
  PageState.valid_mk h.limit (Nat.lt_of_le_of_lt (Nat.sub_le _ _) h.offset) h.total

theorem PageState.Valid.next {page : PageState} (h : page.Valid) (hnext : page.hasNext = true) :
    page.next.Valid := by
  have hlt : page.offset + page.limit < page.total := by
    unfold PageState.hasNext at hnext
    simpa using hnext
  exact PageState.valid_mk h.limit (Nat.lt_trans hlt h.total) h.total

theorem PageState.Valid.resize {page : PageState} (h : page.Valid) (limit : { limit // limit ∈ pageSizes }) :
    ({ page.first with limit := limit } : PageState).Valid := by
  have hsizes : ∀ limit ∈ pageSizes, limit ≤ 200 := by simp [pageSizes]
  exact PageState.valid_mk (hsizes _ limit.2) (Nat.two_pow_pos 64) h.total

theorem ne_nil_of_mem_deviceFilters (filter : { filter // filter ∈ deviceFilters }) :
    (filter : Bytes) ≠ [] := by
  have h : [] ∉ deviceFilters := by decide
  exact fun heq => h (heq ▸ filter.2)

theorem ne_nil_of_mem_deviceSorts (sort : { sort // sort ∈ deviceSorts }) : (sort : Bytes) ≠ [] := by
  have h : [] ∉ deviceSorts := by decide
  exact fun heq => h (heq ▸ sort.2)

/-! ### One step -/

theorem AnswersRequest.ask {r : Rendered} (h : AnswersRequest asked es r) (url : Bytes) :
    AnswersRequest (asked ++ [url]) es r := ⟨getElem?_append_of_some h.request [url], h.document⟩

theorem Sound.later (h : Sound asked es d) (e : Event) : Sound asked (es ++ [e]) d := by
  refine ⟨h.represents, h.controls, h.wellFormed, fun r hr => ?_⟩
  obtain ⟨order, backend, now, hmem, hdocument⟩ := (h.rendered r hr).document
  exact ⟨(h.rendered r hr).request, order, backend, now, List.mem_append_left _ hmem, hdocument⟩

/-- **A refresh makes it current**, or the tab is hidden. -/
theorem Sound.refreshLists (h : Sound asked es d) : Coherent es d.refreshLists := by
  unfold Dashboard.refreshLists
  by_cases hhidden : d.hidden = true
  · rw [if_pos hhidden]
    exact ⟨asked, h, .inr (.inl hhidden)⟩
  · rw [if_neg hhidden]
    refine ⟨asked ++ [buildOverviewUrl d.controls], ⟨h.represents.ask _, h.controls, ?_, ?_⟩, .inl ?_⟩
    · intro url hurl
      rcases List.mem_append.mp hurl with hold | hnew
      · exact h.wellFormed url hold
      · exact ⟨d.controls, h.controls, List.mem_singleton.mp hnew⟩
    · exact fun r hr => (h.rendered r hr).ask _
    · rw [List.getLast?_append, List.getLast?_singleton]
      rfl

/-- Only the flags change. -/
theorem Sound.flags (h : Sound asked es d) (hidden signedIn devicesTimer sessionsTimer : Bool) :
    Sound asked es { d with
      hidden := hidden, signedIn := signedIn, devicesTimer := devicesTimer, sessionsTimer := sessionsTimer } :=
  ⟨h.represents, h.controls, h.wellFormed, h.rendered⟩

theorem Sound.setDevices (h : Sound asked es d) {devices : DevicesState} (hpage : devices.page.Valid)
    (hfilter : devices.filter ≠ []) (hkind : devices.kind = bytes "pc" ∨ devices.kind = bytes "web")
    (hsort : devices.sort ≠ []) (horder : devices.order ≠ []) : Sound asked es (d.setDevices devices) :=
  ⟨h.represents, ⟨hpage, h.controls.sessions, hfilter, hkind, hsort, horder⟩, h.wellFormed, h.rendered⟩

/-- The page, the search or both change. -/
theorem Sound.turnDevices (h : Sound asked es d) {page : PageState} (hpage : page.Valid) (search : Bytes) :
    Sound asked es (d.setDevices { d.controls.devices with page := page, search := search }) :=
  h.setDevices hpage h.controls.filter h.controls.kind h.controls.sort h.controls.order

theorem Sound.setSessions (h : Sound asked es d) {sessions : SessionsState} (hpage : sessions.page.Valid) :
    Sound asked es (d.setSessions sessions) :=
  ⟨h.represents, ⟨h.controls.devices, hpage, h.controls.filter, h.controls.kind, h.controls.sort,
    h.controls.order⟩, h.wellFormed, h.rendered⟩

theorem Sound.arrived (h : Sound asked es d) (serial : Nat) : Sound asked es (d.arrived serial) :=
  ⟨h.represents.arrived serial, h.controls, h.wellFormed, h.rendered⟩

/-- **Taking the answer to the last request keeps the dashboard coherent.** If the request was that of the
    controls, it still is; if a new one is to come, it still is to come. -/
theorem Sound.apply (h : Sound asked es d) (hcurrent : UpToDate asked d) {url : Bytes}
    (hlast : asked.getLast? = some url) {order : HashOrder} {backend : Answerer} {now : Int}
    (hmem : Event.answered d.requests.serial order backend now ∈ es) :
    Coherent es (d.apply url (overviewDocument order backend.toAdminBackend now url)) := by
  obtain ⟨c, hc, rfl⟩ := h.wellFormed url (List.mem_of_getLast? hlast)
  rw [← answerTo]
  have hvalid := syncControls_valid order backend now hc h.controls
  unfold Dashboard.apply
  dsimp only
  split
  · exact Sound.refreshLists (d := { d with controls := syncControls d.controls _ })
      ⟨h.represents, hvalid, h.wellFormed, h.rendered⟩
  · rename_i hstay
    refine ⟨asked, ⟨h.represents, hvalid, h.wellFormed, ?_⟩, ?_⟩
    · intro r hr
      obtain rfl := Option.some.inj hr
      exact ⟨h.represents.getElem?_serial.trans hlast, order, backend, now, hmem, rfl⟩
    · rcases hcurrent with hcurrent | hexcused
      · -- the controls were not touched since the request
        have hsame : buildOverviewUrl d.controls = buildOverviewUrl c :=
          Option.some.inj (hcurrent.symm.trans hlast)
        have hanswer : answerTo order backend now c = answerTo order backend now d.controls := by
          rw [answerTo, answerTo, hsame]
        rw [Bool.not_eq_true, hanswer] at hstay
        left
        rw [hcurrent, hanswer]
        exact congrArg some (buildOverviewUrl_syncControls h.controls hstay).symm
      · exact .inr hexcused

theorem Sound.answered (h : Sound asked es d) (hcurrent : UpToDate asked d) {serial : Nat}
    {order : HashOrder} {backend : Answerer} {now : Int}
    (hmem : Event.answered serial order backend now ∈ es) :
    Coherent es (d.answered serial order backend now) := by
  unfold Dashboard.answered
  cases hfind : d.requests.find serial with
  | none => exact ⟨asked, h, hcurrent⟩
  | some url =>
      dsimp only
      by_cases hserial : serial = d.requests.serial
      · subst hserial
        rw [if_neg (not_not.mpr rfl)]
        exact (h.arrived _).apply hcurrent (h.represents.current hfind) hmem
      · rw [if_pos hserial]
        exact ⟨asked, h.arrived serial, hcurrent⟩

/-- **Every event keeps the dashboard coherent.** -/
theorem Coherent.step (h : Coherent es d) (e : Event) : Coherent (es ++ [e]) (d.step e) := by
  obtain ⟨asked, hold, hcurrent⟩ := h
  have hsound := hold.later e
  have hpage := hsound.controls.devices
  have hsessions := hsound.controls.sessions
  cases e with
  | typeDeviceSearch search =>
      exact ⟨asked, (hsound.turnDevices hpage.first search).flags _ _ _ _, .inr (.inr (.inr (.inl rfl)))⟩
  | typeSessionSearch search =>
      have hset : Sound asked _ (d.setSessions ⟨d.controls.sessions.page.first, search⟩) :=
        hsound.setSessions hsessions.first
      exact ⟨asked, hset.flags _ _ _ _, .inr (.inr (.inr (.inr rfl)))⟩
  | devicesTimer =>
      unfold Dashboard.step
      dsimp only
      split
      · exact (hsound.flags _ _ _ _).refreshLists
      · exact ⟨asked, hsound, hcurrent⟩
  | sessionsTimer =>
      unfold Dashboard.step
      dsimp only
      split
      · exact (hsound.flags _ _ _ _).refreshLists
      · exact ⟨asked, hsound, hcurrent⟩
  | selectFilter filter =>
      refine Sound.refreshLists (d := d.setDevices { d.controls.devices with
        filter := filter, page := d.controls.devices.page.first }) (hsound.setDevices hpage.first ?_
          hsound.controls.kind hsound.controls.sort hsound.controls.order)
      exact ne_nil_of_mem_deviceFilters filter
  | selectKind value =>
      refine Sound.refreshLists (d := d.setDevices { d.controls.devices with
        kind := if value = bytes "web" then bytes "web" else bytes "pc"
        page := d.controls.devices.page.first }) (hsound.setDevices hpage.first hsound.controls.filter ?_
          hsound.controls.sort hsound.controls.order)
      dsimp only
      split
      · exact .inr rfl
      · exact .inl rfl
  | selectSort sort =>
      refine Sound.refreshLists (d := d.setDevices { d.controls.devices with
        sort := sort, page := d.controls.devices.page.first }) (hsound.setDevices hpage.first
          hsound.controls.filter hsound.controls.kind ?_ hsound.controls.order)
      exact ne_nil_of_mem_deviceSorts sort
  | toggleOrder =>
      refine Sound.refreshLists (d := d.setDevices { d.controls.devices with
        order := if d.controls.devices.order = bytes "asc" then bytes "desc" else bytes "asc"
        page := d.controls.devices.page.first }) (hsound.setDevices hpage.first hsound.controls.filter
          hsound.controls.kind hsound.controls.sort ?_)
      dsimp only
      split
      all_goals decide
  | selectDeviceLimit limit => exact (hsound.turnDevices (hpage.resize limit) _).refreshLists
  | selectSessionLimit limit => exact (hsound.setSessions (hsessions.resize limit)).refreshLists
  | devicePrev => exact (hsound.turnDevices hpage.prev _).refreshLists
  | deviceNext =>
      unfold Dashboard.step
      dsimp only
      split
      · rename_i hnext
        exact (hsound.turnDevices (hpage.next hnext) _).refreshLists
      · exact ⟨asked, hsound, hcurrent⟩
  | sessionPrev => exact (hsound.setSessions hsessions.prev).refreshLists
  | sessionNext =>
      unfold Dashboard.step
      dsimp only
      split
      · rename_i hnext
        exact (hsound.setSessions (hsessions.next hnext)).refreshLists
      · exact ⟨asked, hsound, hcurrent⟩
  | refresh => exact hsound.refreshLists
  | hide => exact ⟨asked, hsound.flags _ _ _ _, .inr (.inl rfl)⟩
  | unhide =>
      unfold Dashboard.step
      dsimp only
      split
      · exact (hsound.flags _ _ _ _).refreshLists
      · rename_i hsigned
        exact ⟨asked, hsound.flags _ _ _ _, .inr (.inr (.inl (Bool.not_eq_true _ ▸ hsigned)))⟩
  | login => exact (hsound.flags _ _ _ _).refreshLists
  | logout => exact ⟨asked, hsound.flags _ _ _ _, .inr (.inr (.inl rfl))⟩
  | failed serial => exact ⟨asked, hsound.arrived serial, hcurrent⟩
  | unauthorized serial =>
      unfold Dashboard.step Dashboard.unauthorized
      dsimp only
      split
      · exact ⟨asked, hsound, hcurrent⟩
      · exact ⟨asked, (hsound.arrived serial).flags _ _ _ _, .inr (.inr (.inl rfl))⟩
  | answered serial order backend now =>
      exact hsound.answered hcurrent (List.mem_append_right _ (List.mem_singleton_self _))

/-- The answer to the last request, when it moves no page. -/
theorem answered_of_stay {d : Dashboard} {url : Bytes} {order : HashOrder} {backend : Answerer} {now : Int}
    (hfind : d.requests.find d.requests.serial = some url)
    (hstay : reloads d.controls (overviewDocument order backend.toAdminBackend now url) = false) :
    d.answered d.requests.serial order backend now = { d.arrived d.requests.serial with
      controls := syncControls d.controls (overviewDocument order backend.toAdminBackend now url)
      rendered := some ⟨d.requests.serial, url, overviewDocument order backend.toAdminBackend now url⟩ } := by
  unfold answered
  rw [hfind]
  dsimp only
  rw [if_neg (not_not.mpr rfl)]
  unfold apply
  dsimp only
  rw [if_neg (by rw [arrived, hstay]; exact Bool.false_ne_true)]
  rfl

/-! ## Whole runs -/

/-- The dashboard after the events `es`. -/
def after (hidden : Bool) (es : List Event) : Dashboard := Run.run step (opened hidden) es

/-- **Every dashboard is coherent**, whatever the user does and whenever and however the server answers. -/
theorem coherent_after (hidden : Bool) (es : List Event) : Coherent es (after hidden es) := by
  induction es using List.reverseRecOn with
  | nil => exact opened_coherent hidden
  | append_singleton es e ih =>
      unfold after at ih ⊢
      rw [Run.run_append]
      exact ih.step e

/-- The dashboard is in front, no search waits, and it shows the answer to its last request. -/
structure Quiet (d : Dashboard) (r : Rendered) : Prop where
  front : d.hidden = false
  signedIn : d.signedIn = true
  devices : d.devicesTimer = false
  sessions : d.sessionsTimer = false
  shown : d.rendered = some r
  last : r.serial = d.requests.serial

/-- Then nothing else is to come. -/
theorem Quiet.not_excused {r : Rendered} (h : Quiet d r) : ¬ d.Excused := by
  unfold Excused
  rw [h.front, h.signedIn, h.devices, h.sessions]
  simp

/-- **When the dashboard is quiet it shows what its controls say**: the page is what the server has answered
    to exactly the filter, kind, order, searches, page sizes and offsets that are set now, even if they were
    changed and changed back, answers came late or a page was moved back. -/
theorem quiet_shows_controls (hidden : Bool) (es : List Event) (r : Rendered)
    (h : Quiet (after hidden es) r) :
    ∃ (order : HashOrder) (backend : Answerer) (now : Int),
      Event.answered r.serial order backend now ∈ es ∧
        r.url = buildOverviewUrl (after hidden es).controls ∧
        r.document = overviewDocument order backend.toAdminBackend now
          (buildOverviewUrl (after hidden es).controls) := by
  obtain ⟨asked, hsound, hcurrent⟩ := coherent_after hidden es
  have hlast := hcurrent.resolve_right h.not_excused
  obtain ⟨hrequest, order, backend, now, hmem, hdocument⟩ := hsound.rendered r h.shown
  rw [h.last, hsound.represents.getElem?_serial, hlast] at hrequest
  have hurl := Option.some.inj hrequest
  exact ⟨order, backend, now, hmem, hurl.symm, hurl ▸ hdocument⟩

section Samples

/-- A server with `n` devices online, `100000000` and on. -/
def withOnline (n : Nat) : Answerer where
  server := ⟨.empty, (List.range n).foldl
    (fun db i => (db.setDeviceOnline 0 (decimalText (100000000 + i)) true).2) .newFile, .empty, ∅, []⟩
  deviceNetworkInfo := ∅
  few := (by decide : TransmissionManager.empty.transmissionHostIdList.size < 2 ^ 64)

/-- A login, and eleven devices: the page has room for ten. -/
def firstLogin : List Event := [.login, .answered 1 HashOrder.byName (withOnline 11) 0]

/-- The second page is asked for, and asked for again. The first of the two answers is late; by the second
    one device is left, so the page is moved back. -/
def movedBack : List Event := firstLogin ++
  [.deviceNext, .refresh, .answered 2 HashOrder.byName (withOnline 11) 5,
    .answered 3 HashOrder.byName (withOnline 1) 6, .answered 4 HashOrder.byName (withOnline 1) 7]

/-- The first page, of one device. -/
def oneLeft : Rendered :=
  ⟨4, buildOverviewUrl initialControls,
    overviewDocument HashOrder.byName (withOnline 1).toAdminBackend 7 (buildOverviewUrl initialControls)⟩

set_option maxRecDepth 8000 in
/-- The page that was moved back is that of the controls. -/
theorem quiet_shows_controls_movedBack : ∃ (order : HashOrder) (backend : Answerer) (now : Int),
    Event.answered oneLeft.serial order backend now ∈ movedBack ∧
      oneLeft.url = buildOverviewUrl (after false movedBack).controls ∧
      oneLeft.document = overviewDocument order backend.toAdminBackend now
        (buildOverviewUrl (after false movedBack).controls) :=
  quiet_shows_controls false movedBack oneLeft
    ⟨by decide, by decide, by decide, by decide, rfl, by decide⟩

end Samples

end Dashboard
end DeskServer
