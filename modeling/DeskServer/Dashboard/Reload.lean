import DeskServer.Dashboard.Quiet

/-!
# `Dashboard.Reload` — a refresh comes to an end

An answer that has less entries than the page starts at is not shown: the page is moved back to the last one
that is left, and asked for again. By then entries may have gone again. **Each reload asks for a smaller
offset than the one before** (`reloads_lower`), so the chain is finite whatever the server answers
(`refresh_settles`), and when nothing changes meanwhile, neither at the server nor in the controls, it is one
reload at most (`refresh_settles_unchanged`).

**Shape.** One answer either is shown or lowers the sum of the two offsets that were asked for
(`Sound.answerLast`, `Sound.askedOffset_lt`); the induction is on that sum, since the two lists may be moved
back one after the other. A control that was changed since the request is not in the request, so with one the
second answer may move a page again. What is not covered is a request that is never answered.
-/

namespace DeskServer

open Bytes Latest

namespace Dashboard

open AdminController

/-! ## Pages that are in range -/

/-- The page starts at an entry, or there is none, or none is shown. -/
def PageState.InRange (page : PageState) : Prop :=
  page.total = 0 ∨ page.limit = 0 ∨ page.offset < page.total

/-- A page is moved exactly when what the server says is out of range. -/
theorem syncPage_snd {page : PageState} {pageData : Json} :
    (syncPage page (some pageData)).2 = false ↔ (readPage pageData).InRange := by
  unfold syncPage PageState.InRange
  dsimp only
  split
  · simp only [Bool.true_eq_false, false_iff]
    omega
  · simp only [true_iff]
    omega

/-- **After an answer the page is in range** of what the server has said. -/
theorem syncPage_inRange (page : PageState) (pageData : Json) : (syncPage page (some pageData)).1.InRange := by
  cases hmoved : (syncPage page (some pageData)).2 with
  | false =>
      rw [syncPage_kept hmoved]
      exact syncPage_snd.mp hmoved
  | true =>
      obtain ⟨heq, hpos, _⟩ := syncPage_moved hmoved
      have hle := Nat.div_mul_le_self ((readPage pageData).total - 1) (readPage pageData).limit
      rw [heq]
      right; right
      dsimp only
      omega

/-- Only the offset is moved, and only to the front. -/
theorem syncPage_said {pageData : Json} {limit offset total : Nat}
    (hsaid : readPage pageData = ⟨limit, offset, total⟩) (page : PageState) :
    (syncPage page (some pageData)).1.limit = limit ∧
      (syncPage page (some pageData)).1.total = total ∧
      (syncPage page (some pageData)).1.offset ≤ offset ∧
      ((syncPage page (some pageData)).2 = true → (syncPage page (some pageData)).1.offset < offset) := by
  cases hmoved : (syncPage page (some pageData)).2 with
  | false =>
      rw [syncPage_kept hmoved, hsaid]
      exact ⟨rfl, rfl, Nat.le_refl _, fun h => absurd h (by simp)⟩
  | true =>
      obtain ⟨heq, hpos, hbehind, _⟩ := syncPage_moved hmoved
      rw [hsaid] at heq hpos hbehind
      dsimp only at heq hpos hbehind
      have hle := Nat.div_mul_le_self (total - 1) limit
      rw [heq]
      exact ⟨rfl, rfl, by dsimp only; omega, fun _ => by dsimp only; omega⟩

/-! ## What a reload asks for -/

/-- The offsets of a request, both lists together. -/
def askedOffset (url : Bytes) : Nat :=
  (deviceQuery (resourceParams url)).offset + (sessionQuery (resourceParams url)).offset

theorem askedOffset_buildOverviewUrl {c : Controls} (h : c.Valid) :
    askedOffset (buildOverviewUrl c) = c.devices.page.offset + c.sessions.page.offset := by
  rw [askedOffset, deviceQuery_buildOverviewUrl h, sessionQuery_buildOverviewUrl h]

section Answer
variable {order : HashOrder} {backend : Answerer} {now : Int} {c c' : Controls}

/-- The page of an answer, after it was taken. -/
structure Taken (asked : PageState) (total : Nat) (synced : PageState) (moved : Bool) : Prop where
  inRange : synced.InRange
  limit : synced.limit = asked.limit
  total : synced.total = total
  offset : synced.offset ≤ asked.offset
  moved : moved = true → synced.offset < asked.offset

theorem syncPage_devices (order : HashOrder) (backend : Answerer) (now : Int) (h : c.Valid)
    (page : PageState) : Taken c.devices.page (devicesCounted backend c)
      (syncPage page ((answerTo order backend now c).find (bytes "devices_page"))).1
      (syncPage page ((answerTo order backend now c).find (bytes "devices_page"))).2 := by
  obtain ⟨hlimit, htotal, hoffset, hmoved⟩ := syncPage_said (readPage_devices backend h) page
  rw [find_devices_page]
  exact ⟨syncPage_inRange _ _, hlimit, htotal, hoffset, hmoved⟩

theorem syncPage_sessions (order : HashOrder) (backend : Answerer) (now : Int) (h : c.Valid)
    (page : PageState) : Taken c.sessions.page (sessionsCounted backend c)
      (syncPage page ((answerTo order backend now c).find (bytes "sessions_page"))).1
      (syncPage page ((answerTo order backend now c).find (bytes "sessions_page"))).2 := by
  obtain ⟨said, hfind, hread⟩ := find_sessions_page order backend now h
  obtain ⟨hlimit, htotal, hoffset, hmoved⟩ := syncPage_said hread page
  rw [hfind]
  exact ⟨syncPage_inRange _ _, hlimit, htotal, hoffset, hmoved⟩

theorem syncControls_devicePage (c : Controls) (document : Json) :
    (syncControls c document).devices.page =
      (syncPage c.devices.page (document.find (bytes "devices_page"))).1 := rfl

theorem syncControls_sessionPage (c : Controls) (document : Json) :
    (syncControls c document).sessions.page =
      (syncPage c.sessions.page (document.find (bytes "sessions_page"))).1 := rfl

/-- What is looked for stays, but for the kind, which is repeated. -/
theorem syncControls_search (c : Controls) (document : Json) :
    (syncControls c document).devices.search = c.devices.search ∧
      (syncControls c document).devices.filter = c.devices.filter ∧
      (syncControls c document).devices.kind = repeatedKind c.devices.kind document ∧
      (syncControls c document).sessions.search = c.sessions.search := ⟨rfl, rfl, rfl, rfl⟩

/-- **A reload asks for less**, whatever the controls were when the answer came. -/
theorem reloads_lower (h : c.Valid) (hreload : reloads c' (answerTo order backend now c) = true) :
    (syncControls c' (answerTo order backend now c)).devices.page.offset +
        (syncControls c' (answerTo order backend now c)).sessions.page.offset <
      c.devices.page.offset + c.sessions.page.offset := by
  have hdevices := syncPage_devices order backend now h c'.devices.page
  have hsessions := syncPage_sessions order backend now h c'.sessions.page
  unfold reloads at hreload
  rw [Bool.or_eq_true] at hreload
  rw [syncControls_devicePage, syncControls_sessionPage]
  rcases hreload with hd | hs
  · exact Nat.add_lt_add_of_lt_of_le (hdevices.moved hd) hsessions.offset
  · exact Nat.add_lt_add_of_le_of_lt hdevices.offset (hsessions.moved hs)

/-- How many devices there are depends on what is searched, not on the page. -/
theorem devicesTotal_congr (db : DeviceDB) {q q' : DeviceQuery} (hsearch : q'.search = q.search)
    (hfilter : q'.filter = q.filter) (hkind : q'.kind = q.kind) : devicesTotal db q' = devicesTotal db q := by
  unfold devicesTotal
  rw [hsearch, hfilter, hkind]

theorem devicesCounted_congr (h : c.Valid) (h' : c'.Valid) (hsearch : c'.devices.search = c.devices.search)
    (hfilter : c'.devices.filter = c.devices.filter) (hkind : c'.devices.kind = c.devices.kind) :
    devicesCounted backend c' = devicesCounted backend c := by
  unfold devicesCounted
  rw [deviceQuery_buildOverviewUrl h, deviceQuery_buildOverviewUrl h']
  exact devicesTotal_congr _ hsearch hfilter hkind

theorem sessionsCounted_congr (hsearch : c'.sessions.search = c.sessions.search) :
    sessionsCounted backend c' = sessionsCounted backend c := by
  unfold sessionsCounted
  rw [hsearch]

/-- The request was for these pages, and they are in range of what the server counts. -/
theorem reloads_eq_false (order : HashOrder) (now : Int) (h : c.Valid) (hdevices : c.devices.page.InRange)
    (hsessions : c.sessions.page.InRange) (hdtotal : c.devices.page.total = devicesCounted backend c)
    (hstotal : c.sessions.page.total = sessionsCounted backend c) :
    reloads c (answerTo order backend now c) = false := by
  obtain ⟨said, hfind, hread⟩ := find_sessions_page order backend now h
  unfold reloads
  rw [hfind, find_devices_page, Bool.or_eq_false_iff, syncPage_snd, syncPage_snd, hread,
    readPage_devices backend h, ← hdtotal, ← hstotal]
  exact ⟨hdevices, hsessions⟩

/-- **The answer to a reload moves nothing**, when nothing has changed. -/
theorem reloads_once (order order' : HashOrder) (backend : Answerer) (now now' : Int) (h : c.Valid) :
    reloads (syncControls c (answerTo order backend now c))
      (answerTo order' backend now' (syncControls c (answerTo order backend now c))) = false := by
  have hvalid := syncControls_valid order backend now h h
  have hdevices := syncPage_devices order backend now h c.devices.page
  have hsessions := syncPage_sessions order backend now h c.sessions.page
  obtain ⟨hsearch, hfilter, hkind, hsearch'⟩ := syncControls_search c (answerTo order backend now c)
  rw [repeatedKind_answerTo h] at hkind
  rw [← syncControls_devicePage] at hdevices
  rw [← syncControls_sessionPage] at hsessions
  refine reloads_eq_false order' now' hvalid hdevices.inRange hsessions.inRange ?_ ?_
  · rw [hdevices.total, devicesCounted_congr h hvalid hsearch hfilter hkind]
  · rw [hsessions.total, sessionsCounted_congr hsearch']

end Answer

/-! ## Chains of reloads -/

/-- What the server says, in some state of its own. -/
structure Answer where
  order : HashOrder
  backend : Answerer
  now : Int

/-- The answer to the last request. -/
def answerLast (d : Dashboard) (a : Answer) : Dashboard :=
  d.answered d.requests.serial a.order a.backend a.now

/-- The last request is that with this URL, and it still waits, in front. -/
structure Awaits (d : Dashboard) (url : Bytes) : Prop where
  front : d.hidden = false
  waits : d.requests.find d.requests.serial = some url

/-- The answer to the last request is shown, and both pages are in range of it. -/
structure Loaded (d : Dashboard) : Prop where
  shown : ∃ r, d.rendered = some r ∧ r.serial = d.requests.serial
  devices : d.controls.devices.page.InRange
  sessions : d.controls.sessions.page.InRange

variable {asked : List Bytes} {es : List Event} {d : Dashboard} {url : Bytes}

theorem loaded_of_stay (h : Awaits d url) {order : HashOrder} {backend : Answerer} {now : Int}
    (hstay : reloads d.controls (overviewDocument order backend.toAdminBackend now url) = false)
    (hdevices : (syncControls d.controls
      (overviewDocument order backend.toAdminBackend now url)).devices.page.InRange)
    (hsessions : (syncControls d.controls
      (overviewDocument order backend.toAdminBackend now url)).sessions.page.InRange) :
    Loaded (d.answered d.requests.serial order backend now) := by
  rw [answered_of_stay h.waits hstay]
  exact ⟨⟨_, rfl, rfl⟩, hdevices, hsessions⟩

/-- What is asked for is awaited. -/
theorem Sound.awaits (h : Sound asked es d) (hfront : d.hidden = false) :
    Awaits d.refreshLists (buildOverviewUrl d.controls) ∧ d.refreshLists.controls = d.controls := by
  unfold Dashboard.refreshLists
  rw [if_neg (by rw [hfront]; exact Bool.false_ne_true)]
  exact ⟨⟨hfront, h.represents.find_ask _⟩, rfl⟩

/-- An answer that moves a page is asked for again at once. -/
theorem Sound.awaits_of_reload (h : Sound asked es d) (hawaits : Awaits d url) {order : HashOrder}
    {backend : Answerer} {now : Int}
    (hvalid : (syncControls d.controls (overviewDocument order backend.toAdminBackend now url)).Valid)
    (hreload : reloads d.controls (overviewDocument order backend.toAdminBackend now url) = true) :
    Awaits (d.answered d.requests.serial order backend now)
        (buildOverviewUrl (syncControls d.controls (overviewDocument order backend.toAdminBackend now url))) ∧
      (d.answered d.requests.serial order backend now).controls =
        syncControls d.controls (overviewDocument order backend.toAdminBackend now url) := by
  unfold Dashboard.answered
  rw [hawaits.waits]
  dsimp only
  rw [if_neg (not_not.mpr rfl)]
  unfold Dashboard.apply
  dsimp only
  rw [if_pos (by rw [Dashboard.arrived, hreload])]
  exact Sound.awaits (d := { d.arrived _ with controls := syncControls d.controls _ })
    ⟨h.represents.arrived _, hvalid, h.wellFormed, h.rendered⟩ hawaits.front

/-- **One answer**: it is shown, with the controls in range, or it moves a page and is asked for again. -/
theorem Sound.answerLast (h : Sound asked es d) (hawaits : Awaits d url) (a : Answer) :
    Loaded (answerLast d a) ∨
      reloads d.controls (overviewDocument a.order a.backend.toAdminBackend a.now url) = true ∧
        Awaits (answerLast d a) (buildOverviewUrl (answerLast d a).controls) ∧
        (answerLast d a).controls =
          syncControls d.controls (overviewDocument a.order a.backend.toAdminBackend a.now url) := by
  obtain ⟨c, hc, hurl⟩ := h.wellFormed url (List.mem_of_getLast? (h.represents.current hawaits.waits))
  have hanswer : overviewDocument a.order a.backend.toAdminBackend a.now url =
      answerTo a.order a.backend a.now c := by rw [hurl, answerTo]
  unfold Dashboard.answerLast
  cases hreload : reloads d.controls (overviewDocument a.order a.backend.toAdminBackend a.now url) with
  | false =>
      left
      refine loaded_of_stay hawaits hreload ?_ ?_
      · rw [hanswer, syncControls_devicePage]
        exact (syncPage_devices a.order a.backend a.now hc d.controls.devices.page).inRange
      · rw [hanswer, syncControls_sessionPage]
        exact (syncPage_sessions a.order a.backend a.now hc d.controls.sessions.page).inRange
  | true =>
      right
      have hvalid := syncControls_valid a.order a.backend a.now hc h.controls
      rw [← hanswer] at hvalid
      obtain ⟨hnext, hcontrols⟩ := h.awaits_of_reload hawaits hvalid hreload
      rw [hcontrols]
      exact ⟨rfl, hnext, rfl⟩

/-- What is asked for again is less. -/
theorem Sound.askedOffset_lt (h : Sound asked es d) (hawaits : Awaits d url) {order : HashOrder}
    {backend : Answerer} {now : Int}
    (hreload : reloads d.controls (overviewDocument order backend.toAdminBackend now url) = true) :
    askedOffset (buildOverviewUrl
      (syncControls d.controls (overviewDocument order backend.toAdminBackend now url))) <
        askedOffset url := by
  obtain ⟨c, hc, hurl⟩ := h.wellFormed url (List.mem_of_getLast? (h.represents.current hawaits.waits))
  have hanswer : overviewDocument order backend.toAdminBackend now url = answerTo order backend now c := by
    rw [hurl, answerTo]
  rw [hanswer] at hreload ⊢
  rw [askedOffset_buildOverviewUrl (syncControls_valid order backend now hc h.controls), hurl,
    askedOffset_buildOverviewUrl hc]
  exact reloads_lower hc hreload

/-- The answer, as one of the events. -/
theorem Coherent.answerLast (h : Coherent es d) (a : Answer) :
    Coherent (es ++ [.answered d.requests.serial a.order a.backend a.now]) (answerLast d a) := h.step _

/-- **Any chain of reloads ends**, by induction on the offsets that are asked for. -/
theorem Coherent.loaded (h : Coherent es d) (hawaits : Awaits d url) {answers : List Answer}
    (hlong : askedOffset url < answers.length) :
    ∃ k ≤ askedOffset url + 1, Loaded (Run.run Dashboard.answerLast d (answers.take k)) := by
  induction answers generalizing es d url with
  | nil => exact absurd hlong (Nat.not_lt_zero _)
  | cons a answers ih =>
      obtain ⟨asked, hsound, _⟩ := id h
      rcases hsound.answerLast hawaits a with hloaded | ⟨hreload, hnext, hcontrols⟩
      · exact ⟨1, by omega, hloaded⟩
      · have hless := hsound.askedOffset_lt hawaits hreload
        rw [← hcontrols] at hless
        rw [List.length_cons] at hlong
        obtain ⟨k, hk, hloaded⟩ := ih (h.answerLast a) hnext (by omega)
        exact ⟨k + 1, by omega, hloaded⟩

/-- **A refresh comes to an end**, whatever the user did before and whatever the server answers: the chain of
    reloads is at most as long as the offsets that were asked for, and the answer that is shown then starts
    both pages at an entry, if there is any. -/
theorem refresh_settles (hidden : Bool) (es : List Event) (url : Bytes)
    (h : Awaits (after hidden es) url) (answers : List Answer)
    (hlong : askedOffset url < answers.length) :
    ∃ k ≤ askedOffset url + 1, Loaded (Run.run answerLast (after hidden es) (answers.take k)) :=
  (coherent_after hidden es).loaded h hlong

section Samples

/-- Eleven devices are online, and the second page is asked for. -/
def turned : List Event := firstLogin ++ [.deviceNext]

/-- The request for it. -/
def secondPage : Bytes :=
  buildOverviewUrl { initialControls with devices := { initialControls.devices with page := ⟨10, 10, 11⟩ } }

/-- One device is left. -/
def oneLeftAt (now : Int) : Answer := ⟨HashOrder.byName, withOnline 1, now⟩

set_option maxRecDepth 8000

theorem awaits_turned : Awaits (after false turned) secondPage := ⟨by decide, by decide⟩

/-- The second page is empty when its answer comes, and is moved back. -/
theorem turned_reloads : reloads (after false turned).controls
    (overviewDocument HashOrder.byName (withOnline 1).toAdminBackend 6 secondPage) = true := by decide

/-- After the reload the page is shown. -/
theorem refresh_settles_turned : reloads (after false turned).controls
      (overviewDocument HashOrder.byName (withOnline 1).toAdminBackend 6 secondPage) = true ∧
    ∃ k ≤ askedOffset secondPage + 1,
      Loaded (Run.run answerLast (after false turned) ((List.replicate 11 (oneLeftAt 6)).take k)) :=
  ⟨turned_reloads,
    refresh_settles false turned secondPage awaits_turned (List.replicate 11 (oneLeftAt 6)) (by decide)⟩

end Samples

/-- **One reload is enough when nothing changes meanwhile**: of two answers of one state of the server, one is
    shown. -/
theorem refresh_settles_unchanged (hidden : Bool) (es : List Event) (url : Bytes)
    (h : Awaits (after hidden es) url) (hcurrent : ¬ (after hidden es).Excused) (a b : Answer)
    (hsame : a.backend = b.backend) :
    Loaded (answerLast (after hidden es) a) ∨ Loaded (answerLast (answerLast (after hidden es) a) b) := by
  obtain ⟨asked, hsound, hlast⟩ := coherent_after hidden es
  have hurl : url = buildOverviewUrl (after hidden es).controls :=
    Option.some.inj ((hsound.represents.current h.waits).symm.trans (hlast.resolve_right hcurrent))
  obtain ⟨asked', hsound', _⟩ := (coherent_after hidden es).answerLast a
  rcases hsound.answerLast h a with hloaded | ⟨_, hnext, hcontrols⟩
  · exact .inl hloaded
  · rcases hsound'.answerLast hnext b with hloaded | ⟨hreload, _⟩
    · exact .inr hloaded
    · have honce := reloads_once a.order b.order a.backend a.now b.now hsound.controls
      rw [hcontrols, hurl, ← hsame] at hreload
      exact absurd (hreload.symm.trans honce) (by simp)

set_option maxRecDepth 8000 in
/-- Of two answers the first moves the page back, and the second shows it. -/
theorem refresh_settles_unchanged_turned : reloads (after false turned).controls
      (overviewDocument HashOrder.byName (withOnline 1).toAdminBackend 6 secondPage) = true ∧
    (Loaded (answerLast (after false turned) (oneLeftAt 6)) ∨
      Loaded (answerLast (answerLast (after false turned) (oneLeftAt 6)) (oneLeftAt 11))) :=
  ⟨turned_reloads, refresh_settles_unchanged false turned secondPage awaits_turned
    (by unfold Excused; decide) (oneLeftAt 6) (oneLeftAt 11) rfl⟩

end Dashboard
end DeskServer
