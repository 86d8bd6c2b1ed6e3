import DeskServer.Dashboard.Reload

/-!
# `Dashboard.Walk` — going through the pages

From the first page of devices the button for the next page leads through the whole list. Each click asks
for the page behind the one that is shown, its answer is taken, and the button is enabled as long as there
is one more: **the pages that are shown are the whole list, in order, each device once**
(`walk_shows_all`), when the server does not change meanwhile and its clock stands still.

**Shape.** A click keeps `Shows`, what is shown being the answer of one server at one instant, and turns the
page by its limit (`Shows.nextPage`); iterated, the `i`-th page is the `i`-th slice of one list, and the slices
tile it. The instant matters: in the order of the seconds online the list itself moves with the clock, and a
device that changes its place between two clicks may be shown twice or not at all. That is not covered, and
neither is a click that gets no answer.
-/

namespace DeskServer

open Bytes Latest Paging

namespace Dashboard

open AdminController DeviceDB

/-! ## The list -/

/-- What is written into the table of devices. -/
def shownDevices (d : Dashboard) : List Json :=
  match d.rendered.bind fun r => r.document.find (bytes "devices") with
  | some (.arr rows) => rows
  | _ => []

/-- The list the pages are cut from. -/
def listedDevices (a : Answer) (c : Controls) : List OnlineDeviceInfo :=
  sortedDevices (knownLocation a.backend.deviceNetworkInfo) a.backend.server.db a.now
    (deviceQuery (resourceParams (buildOverviewUrl c)))

/-- The rows of the database that match the controls. -/
def matchingDevices (a : Answer) (c : Controls) : List OnlineDeviceInfo :=
  (a.backend.server.db.presenceRows c.devices.search c.devices.filter c.devices.kind).map
    (a.backend.server.db.onlineDeviceInfo a.now)

variable {c c' : Controls} {a : Answer}

/-- **The list has every matching device once**, in some order. -/
theorem listedDevices_perm (h : c.Valid) (a : Answer) : (listedDevices a c).Perm (matchingDevices a c) := by
  unfold listedDevices matchingDevices sortedDevices
  rw [deviceQuery_buildOverviewUrl h]
  dsimp only
  split
  · exact (sortBy_perm _ _).trans ((sortBy_perm _ _).map _)
  · exact (sortBy_perm _ _).map _

theorem length_listedDevices (h : c.Valid) (hfew : a.backend.server.db.devicePresence.size < 2 ^ 63) :
    (listedDevices a c).length = devicesCounted a.backend c := by
  have hle := length_presenceRows_le a.backend.server.db c.devices.search c.devices.filter c.devices.kind
  rw [(listedDevices_perm h a).length_eq, matchingDevices, List.length_map, devicesCounted, devicesTotal,
    deviceQuery_buildOverviewUrl h, countForDeviceFilter_eq]
  exact (toSize_natCast (by omega)).symm

/-- The list does not depend on the page. -/
theorem listedDevices_page (h : c.Valid) (h' : c'.Valid)
    (hsame : c'.devices = { c.devices with page := c'.devices.page }) :
    listedDevices a c' = listedDevices a c := by
  unfold listedDevices
  rw [deviceQuery_buildOverviewUrl h, deviceQuery_buildOverviewUrl h', hsame]
  rfl

/-- One page of it. -/
theorem overviewDevices_controls (h : c.Valid) (hfew : a.backend.server.db.devicePresence.size < 2 ^ 63)
    (hoffset : c.devices.page.offset < 2 ^ 63) :
    overviewDevices (knownLocation a.backend.deviceNetworkInfo) a.backend.server.db a.now
        (deviceQuery (resourceParams (buildOverviewUrl c))) =
      page c.devices.page.limit c.devices.page.offset (listedDevices a c) := by
  have hlimit := h.devices.limit
  have hiff := overviewDevices_page_iff (knownLocation a.backend.deviceNetworkInfo) a.backend.server.db hfew
    a.now (q := deviceQuery (resourceParams (buildOverviewUrl c)))
  rw [deviceQuery_buildOverviewUrl h] at hiff
  have hpage := (hiff (by dsimp only; omega) (by dsimp only; omega)).mpr (.inr (.inl hoffset))
  unfold listedDevices
  rw [deviceQuery_buildOverviewUrl h]
  exact hpage

/-! ## One click -/

/-- The button for the next page, and the answer. -/
def nextPage (a : Answer) (d : Dashboard) : Dashboard := answerLast (d.step .deviceNext) a

/-- **What `a` says is shown**, and nothing else is to come. -/
structure Shows (a : Answer) (d : Dashboard) : Prop where
  current : ¬ d.Excused
  rendered : d.rendered = some ⟨d.requests.serial, buildOverviewUrl d.controls,
    overviewDocument a.order a.backend.toAdminBackend a.now (buildOverviewUrl d.controls)⟩
  devicesTotal : d.controls.devices.page.total = devicesCounted a.backend d.controls
  sessions : d.controls.sessions.page.InRange
  sessionsTotal : d.controls.sessions.page.total = sessionsCounted a.backend d.controls

variable {asked : List Bytes} {es : List Event} {d : Dashboard}

/-- The rows that are shown. -/
theorem Shows.shownDevices (h : Shows a d) : shownDevices d =
    (overviewDevices (knownLocation a.backend.deviceNetworkInfo) a.backend.server.db a.now
      (deviceQuery (resourceParams (buildOverviewUrl d.controls)))).map
        (deviceJson a.backend.deviceNetworkInfo) := by
  unfold Dashboard.shownDevices
  rw [h.rendered]
  rfl

/-- The controls with the next page. -/
def Controls.turned (c : Controls) : Controls :=
  { c with devices := { c.devices with page := c.devices.page.next } }

theorem Controls.Valid.turned (h : c.Valid) (hnext : c.devices.page.hasNext = true) : c.turned.Valid :=
  ⟨h.devices.next hnext, h.sessions, h.filter, h.kind, h.sort, h.order⟩

theorem step_deviceNext (hnext : d.controls.devices.page.hasNext = true) :
    d.step .deviceNext = ({ d with controls := d.controls.turned } : Dashboard).refreshLists := by
  unfold step
  dsimp only
  rw [if_pos hnext]
  rfl

/-- **The answer to a request that moves nothing is shown.** -/
theorem Awaits.shows (hawaits : Awaits d (buildOverviewUrl d.controls)) (hcurrent : ¬ d.Excused)
    (hvalid : d.controls.Valid) (hdevices : d.controls.devices.page.InRange)
    (hsessions : d.controls.sessions.page.InRange)
    (hdtotal : d.controls.devices.page.total = devicesCounted a.backend d.controls)
    (hstotal : d.controls.sessions.page.total = sessionsCounted a.backend d.controls) :
    Shows a (answerLast d a) ∧ (answerLast d a).controls = d.controls := by
  have hstay := reloads_eq_false a.order a.now hvalid hdevices hsessions hdtotal hstotal
  have hsame := syncControls_answerTo hvalid hstay
  rw [← hdtotal, ← hstotal] at hsame
  have hcontrols : (answerLast d a).controls = d.controls := by
    unfold answerLast
    rw [answered_of_stay hawaits.waits hstay]
    exact hsame
  have hrendered : (answerLast d a).rendered = some ⟨(answerLast d a).requests.serial,
      buildOverviewUrl d.controls, overviewDocument a.order a.backend.toAdminBackend a.now
        (buildOverviewUrl d.controls)⟩ := by
    unfold answerLast
    rw [answered_of_stay hawaits.waits hstay]
    rfl
  have hkept : ¬ (answerLast d a).Excused := by
    unfold answerLast
    rw [answered_of_stay hawaits.waits hstay]
    exact hcurrent
  refine ⟨⟨hkept, ?_, ?_, ?_, ?_⟩, hcontrols⟩
  all_goals rw [hcontrols]
  · exact hrendered
  · exact hdtotal
  · exact hsessions
  · exact hstotal

/-- **A click shows the next page**, and leaves everything else as it is. -/
theorem Shows.nextPage (hsound : Sound asked es d) (h : Shows a d)
    (hnext : d.controls.devices.page.hasNext = true) :
    Shows a (nextPage a d) ∧ (nextPage a d).controls = d.controls.turned := by
  have hvalid := hsound.controls.turned hnext
  have hfront : d.hidden = false := by
    cases hhidden : d.hidden with
    | false => rfl
    | true => exact absurd (.inl hhidden) h.current
  -- the request for the next page
  have hturned : Sound asked es { d with controls := d.controls.turned } :=
    ⟨hsound.represents, hvalid, hsound.wellFormed, hsound.rendered⟩
  obtain ⟨hawaits, hcontrols⟩ : Awaits (d.step .deviceNext) (buildOverviewUrl d.controls.turned) ∧
      (d.step .deviceNext).controls = d.controls.turned := by
    rw [step_deviceNext hnext]
    exact hturned.awaits hfront
  -- its answer
  have hdtotal : d.controls.turned.devices.page.total = devicesCounted a.backend d.controls.turned :=
    h.devicesTotal.trans (devicesCounted_congr hvalid hsound.controls rfl rfl rfl)
  have hrange : d.controls.turned.devices.page.InRange := by
    unfold PageState.hasNext at hnext
    exact .inr (.inr (of_decide_eq_true hnext))
  have hcurrent : ¬ (d.step .deviceNext).Excused := by
    rw [step_deviceNext hnext]
    unfold Dashboard.refreshLists
    split
    · exact h.current
    · exact h.current
  rw [← hcontrols] at hawaits
  have hshows := hawaits.shows (a := a) hcurrent (by rw [hcontrols]; exact hvalid)
    (by rw [hcontrols]; exact hrange) (by rw [hcontrols]; exact h.sessions)
    (by rw [hcontrols]; exact hdtotal) (by rw [hcontrols]; exact h.sessionsTotal)
  rw [hcontrols] at hshows
  exact hshows

/-! ## The whole list -/

/-- The controls with the page number `i`. -/
def Controls.atPage (c : Controls) (i : Nat) : Controls :=
  { c with devices := { c.devices with
      page := ⟨c.devices.page.limit, i * c.devices.page.limit, c.devices.page.total⟩ } }

theorem Controls.atPage_zero (h : c.devices.page.offset = 0) : c.atPage 0 = c := by
  unfold Controls.atPage
  rw [Nat.zero_mul, ← h]

theorem Controls.turned_atPage (c : Controls) (i : Nat) : (c.atPage i).turned = c.atPage (i + 1) := by
  unfold Controls.atPage Controls.turned PageState.next
  dsimp only
  rw [Nat.succ_mul]

theorem Controls.hasNext_atPage (c : Controls) (i : Nat) : (c.atPage i).devices.page.hasNext = true ↔
    (i + 1) * c.devices.page.limit < c.devices.page.total := by
  unfold Controls.atPage PageState.hasNext
  dsimp only
  rw [decide_eq_true_eq, Nat.succ_mul]

/-- **After `i` clicks the page with the number `i` is shown**, by induction on `i`. -/
theorem Shows.iterate (hcoherent : Coherent es d) (h : Shows a d)
    (hfirst : d.controls.devices.page.offset = 0) {i : Nat}
    (hi : ∀ j < i, (j + 1) * d.controls.devices.page.limit < d.controls.devices.page.total) :
    Shows a ((Dashboard.nextPage a)^[i] d) ∧
      ((Dashboard.nextPage a)^[i] d).controls = d.controls.atPage i ∧
      ∃ es, Coherent es ((Dashboard.nextPage a)^[i] d) := by
  induction i with
  | zero => exact ⟨h, (Controls.atPage_zero hfirst).symm, es, hcoherent⟩
  | succ i ih =>
      obtain ⟨hshows, hcontrols, es', hcoherent'⟩ := ih fun j hj => hi j (Nat.lt_succ_of_lt hj)
      obtain ⟨asked, hsound, _⟩ := id hcoherent'
      have hnext : ((Dashboard.nextPage a)^[i] d).controls.devices.page.hasNext = true := by
        rw [hcontrols, Controls.hasNext_atPage]
        exact hi i (Nat.lt_succ_self i)
      obtain ⟨hshows', hcontrols'⟩ := hshows.nextPage hsound hnext
      rw [Function.iterate_succ_apply']
      refine ⟨hshows', ?_, _, (hcoherent'.step .deviceNext).answerLast a⟩
      rw [hcontrols', hcontrols, Controls.turned_atPage]

theorem Controls.Valid.atPage (h : c.Valid) {i : Nat} (hi : i * c.devices.page.limit < 2 ^ 63) :
    (c.atPage i).Valid :=
  ⟨PageState.valid_mk h.devices.limit (by omega) h.devices.total, h.sessions, h.filter, h.kind, h.sort,
    h.order⟩

/-- The rows of the page with the number `i`. -/
theorem Shows.shownDevices_atPage (h : Shows a d) {i : Nat} (hcontrols : d.controls = c.atPage i)
    (hvalid : c.Valid) (hfew : a.backend.server.db.devicePresence.size < 2 ^ 63)
    (hi : i * c.devices.page.limit < 2 ^ 63) : Dashboard.shownDevices d =
      (page c.devices.page.limit (i * c.devices.page.limit) (listedDevices a c)).map
        (deviceJson a.backend.deviceNetworkInfo) := by
  have hturned := hvalid.atPage hi
  have hlist : listedDevices a (c.atPage i) = listedDevices a c := listedDevices_page hvalid hturned rfl
  rw [h.shownDevices, hcontrols, overviewDevices_controls hturned hfew hi, hlist]
  rfl

/-- **The button for the next page leads through the whole list.** From the first page it can be clicked
    until every page was shown, and what was shown, page after page, is the list of all matching devices in
    its order, when every answer is that of one server at one instant and its sums are in range. -/
theorem walk_shows_all (hidden : Bool) (es : List Event) (a : Answer) (h : Shows a (after hidden es))
    (hfirst : (after hidden es).controls.devices.page.offset = 0)
    (hlimit : 0 < (after hidden es).controls.devices.page.limit)
    (hbounds : ListBounds a.backend.server.db a.now) :
    ∃ n, (∀ i < n, ((nextPage a)^[i] (after hidden es)).controls.devices.page.hasNext = true) ∧
      ((nextPage a)^[n] (after hidden es)).controls.devices.page.hasNext = false ∧
      ((List.range (n + 1)).flatMap fun i => shownDevices ((nextPage a)^[i] (after hidden es))) =
        (listedDevices a (after hidden es).controls).map (deviceJson a.backend.deviceNetworkInfo) ∧
      (listedDevices a (after hidden es).controls).Perm (matchingDevices a (after hidden es).controls) := by
  have hfew := hbounds.rows
  have hcoherent := coherent_after hidden es
  generalize after hidden es = d at *
  obtain ⟨asked, hsound, _⟩ := id hcoherent
  have hvalid := hsound.controls
  have htotal : (listedDevices a d.controls).length = d.controls.devices.page.total :=
    (length_listedDevices hvalid hfew).trans h.devicesTotal.symm
  have hfits : d.controls.devices.page.total < 2 ^ 63 := by
    have hle := length_presenceRows_le a.backend.server.db d.controls.devices.search
      d.controls.devices.filter d.controls.devices.kind
    rw [← htotal, (listedDevices_perm hvalid a).length_eq, matchingDevices, List.length_map]
    omega
  -- the number of the page with the last device
  obtain ⟨n, hn⟩ : ∃ n, n = (d.controls.devices.page.total - 1) / d.controls.devices.page.limit := ⟨_, rfl⟩
  have hmore : ∀ i < n, (i + 1) * d.controls.devices.page.limit < d.controls.devices.page.total := by
    intro i hi
    have hle : (i + 1) * d.controls.devices.page.limit ≤ d.controls.devices.page.total - 1 :=
      (Nat.le_div_iff_mul_le hlimit).mp (hn ▸ hi)
    have hpos := Nat.mul_pos (Nat.succ_pos i) hlimit
    rw [Nat.succ_eq_add_one] at hpos
    omega
  have hend : d.controls.devices.page.total ≤ (n + 1) * d.controls.devices.page.limit := by
    have hlt := Nat.lt_mul_div_succ (d.controls.devices.page.total - 1) hlimit
    rw [← hn, Nat.mul_comm] at hlt
    omega
  refine ⟨n, fun i hi => ?_, ?_, ?_, listedDevices_perm hvalid a⟩
  · obtain ⟨_, hcontrols, _⟩ := h.iterate hcoherent hfirst fun j hj => hmore j (Nat.lt_trans hj hi)
    rw [hcontrols, Controls.hasNext_atPage]
    exact hmore i hi
  · obtain ⟨_, hcontrols, _⟩ := h.iterate hcoherent hfirst hmore
    rw [hcontrols, ← Bool.not_eq_true, Controls.hasNext_atPage]
    omega
  · have hpages : ∀ i ∈ List.range (n + 1), shownDevices ((nextPage a)^[i] d) =
        (page d.controls.devices.page.limit (i * d.controls.devices.page.limit)
          (listedDevices a d.controls)).map (deviceJson a.backend.deviceNetworkInfo) := by
      intro i hi
      have hle : i ≤ n := Nat.le_of_lt_succ (List.mem_range.mp hi)
      obtain ⟨hshows, hcontrols, _⟩ := h.iterate hcoherent hfirst fun j hj =>
        hmore j (Nat.lt_of_lt_of_le hj hle)
      have hbefore : i * d.controls.devices.page.limit ≤ d.controls.devices.page.total - 1 :=
        (Nat.le_div_iff_mul_le hlimit).mp (hn ▸ hle)
      exact hshows.shownDevices_atPage hcontrols hvalid hfew (by omega)
    rw [List.flatMap_congr hpages, ← List.map_flatMap, pages_tile (htotal ▸ hend)]

section Samples

/-- Eleven devices are online. -/
def elevenOnline : Answer := ⟨HashOrder.byName, withOnline 11, 0⟩

set_option maxRecDepth 8000

/-- Ten of them are on the first page. -/
theorem shows_firstLogin : Shows elevenOnline (after false firstLogin) :=
  ⟨by unfold Excused; decide, rfl, by decide, .inl (by decide), by decide⟩

/-- The walk has a second page. -/
theorem walk_shows_all_firstLogin : (after false firstLogin).controls.devices.page.hasNext = true ∧
    ∃ n, (∀ i < n, ((nextPage elevenOnline)^[i] (after false firstLogin)).controls.devices.page.hasNext = true) ∧
      ((nextPage elevenOnline)^[n] (after false firstLogin)).controls.devices.page.hasNext = false ∧
      ((List.range (n + 1)).flatMap fun i => shownDevices ((nextPage elevenOnline)^[i] (after false firstLogin))) =
        (listedDevices elevenOnline (after false firstLogin).controls).map
          (deviceJson elevenOnline.backend.deviceNetworkInfo) ∧
      (listedDevices elevenOnline (after false firstLogin).controls).Perm
        (matchingDevices elevenOnline (after false firstLogin).controls) :=
  ⟨by decide, walk_shows_all false firstLogin elevenOnline shows_firstLogin (by decide) (by decide)
    (.of_list (by decide) (by decide))⟩

end Samples

end Dashboard
end DeskServer
