import DeskServer.Admin.Document
import DeskServer.Admin.QueryParsing

/-!
# `Dashboard.Controls` — what the dashboard asks for

The page keeps what its controls are set to: for each of the two lists the page size, the offset, the
number of entries and the search, and for the devices the filter, the kind, the sort key and the order. Of
these it builds the URL of the overview. **The server reads the controls back out of the URL**
(`deviceQuery_buildOverviewUrl`, `sessionQuery_buildOverviewUrl`), and repeats in its answer what it has
read.
-/

namespace DeskServer

open Bytes

namespace Dashboard

open AdminController

/-! ## Controls -/

/-- A `pageState`, less the search. -/
structure PageState where
  limit : Nat
  offset : Nat
  total : Nat

/-- `state.devices`. -/
structure DevicesState where
  page : PageState
  search : Bytes
  filter : Bytes
  kind : Bytes
  sort : Bytes
  order : Bytes

/-- `state.sessions`. -/
structure SessionsState where
  page : PageState
  search : Bytes

/-- `state`, less what only the map shows. -/
structure Controls where
  devices : DevicesState
  sessions : SessionsState

/-- `state` as the script sets it up. -/
def initialControls : Controls where
  devices := ⟨⟨10, 0, 0⟩, [], bytes "online", bytes "pc", bytes "status", bytes "desc"⟩
  sessions := ⟨⟨10, 0, 0⟩, []⟩

/-! ## The URL -/

/-- `if (search) params.set(name, search)`. -/
def searchParam (name : String) (search : Bytes) : List (Bytes × Bytes) :=
  if search = [] then [] else [(bytes name, search)]

/-- The parameters that are always written. -/
def fixedParams (c : Controls) : List (Bytes × Bytes) :=
  [(bytes "device_limit", decimalText c.devices.page.limit),
    (bytes "device_offset", decimalText c.devices.page.offset),
    (bytes "device_filter", c.devices.filter),
    (bytes "device_kind", c.devices.kind),
    (bytes "device_sort", c.devices.sort),
    (bytes "device_order", c.devices.order),
    (bytes "session_limit", decimalText c.sessions.page.limit),
    (bytes "session_offset", decimalText c.sessions.page.offset)]

/-- The parameters of `buildOverviewUrl`. -/
def overviewParams (c : Controls) : List (Bytes × Bytes) :=
  fixedParams c ++ searchParam "device_search" c.devices.search ++
    searchParam "session_search" c.sessions.search

/-- `buildOverviewUrl`. -/
def buildOverviewUrl (c : Controls) : Bytes :=
  bytes "/api/admin/overview" ++ 63 :: urlSearchParams (overviewParams c)

/-! ## The URL is understood -/

theorem overviewParams_nodup (c : Controls) : ((overviewParams c).map Prod.fst).Nodup := by
  unfold overviewParams fixedParams searchParam
  rw [List.map_append, List.map_append]
  split <;> split <;> simp only [List.map_cons, List.map_nil] <;> decide

/-- **What the server reads are the parameters that were written.** -/
theorem resourceParams_buildOverviewUrl (c : Controls) {key value : Bytes} :
    (resourceParams (buildOverviewUrl c))[key]? = some value ↔ (key, value) ∈ overviewParams c := by
  have hpath : (63 : UInt8) ∉ bytes "/api/admin/overview" := by decide
  unfold resourceParams resourceQuery buildOverviewUrl
  rw [cut_append hpath, parseQueryParams_urlSearchParams,
    getElem?_foldl_insert (overviewParams_nodup c) ∅ (fun p _ => Std.ExtTreeMap.getElem?_empty) key value]
  simp

/-- The names of the parameters that are always written. -/
def fixedNames : List Bytes :=
  [bytes "device_limit", bytes "device_offset", bytes "device_filter", bytes "device_kind",
    bytes "device_sort", bytes "device_order", bytes "session_limit", bytes "session_offset"]

theorem not_mem_fixedParams (c : Controls) {key value : Bytes} (h : key ∉ fixedNames) :
    (key, value) ∉ fixedParams c := fun hmem => h (List.mem_map_of_mem (f := Prod.fst) hmem)

/-- A search is written under its own name. -/
theorem not_mem_searchParam {key value search : Bytes} {name : String} (h : key ≠ bytes name) :
    (key, value) ∉ searchParam name search := by
  unfold searchParam
  split
  · exact List.not_mem_nil
  · rw [List.mem_singleton]
    exact fun heq => h (congrArg Prod.fst heq)

theorem mem_overviewParams_deviceSearch (c : Controls) (value : Bytes) :
    (bytes "device_search", value) ∈ overviewParams c ↔
      (bytes "device_search", value) ∈ searchParam "device_search" c.devices.search := by
  unfold overviewParams
  rw [List.mem_append, List.mem_append, or_iff_left (not_mem_searchParam (by decide)),
    or_iff_right (not_mem_fixedParams c (by decide))]

theorem mem_overviewParams_sessionSearch (c : Controls) (value : Bytes) :
    (bytes "session_search", value) ∈ overviewParams c ↔
      (bytes "session_search", value) ∈ searchParam "session_search" c.sessions.search := by
  unfold overviewParams
  rw [List.mem_append, List.mem_append, or_iff_right]
  exact fun h => h.elim (not_mem_fixedParams c (by decide)) (not_mem_searchParam (by decide))

/-- A search that is not written is the empty one. -/
theorem queryStringParam_search {params : Std.ExtTreeMap Bytes Bytes} {name : String} {search : Bytes}
    (h : ∀ value, params[bytes name]? = some value ↔ (bytes name, value) ∈ searchParam name search) :
    queryStringParam params (bytes name) [] = search := by
  unfold queryStringParam
  by_cases hsearch : search = []
  · subst hsearch
    have hnone : params[bytes name]? = none := by
      cases hget : params[bytes name]? with
      | none => rfl
      | some value => exact absurd ((h value).mp hget) List.not_mem_nil
    rw [hnone]
  · have hsome : params[bytes name]? = some search := by
      rw [h, searchParam, if_neg hsearch]
      exact List.mem_singleton_self _
    rw [hsome]
    exact if_neg hsearch

theorem queryStringParam_of_some {params : Std.ExtTreeMap Bytes Bytes} {key value : Bytes}
    (h : params[key]? = some value) (hne : value ≠ []) (fallback : Bytes) :
    queryStringParam params key fallback = value := by
  unfold queryStringParam
  rw [h]
  exact if_neg hne

theorem querySizeParam_of_some {params : Std.ExtTreeMap Bytes Bytes} {key : Bytes} {n : Nat}
    (h : params[key]? = some (decimalText n)) (hn : n < 2 ^ 64) (fallback maxValue : Nat) :
    querySizeParam params key fallback maxValue = min n maxValue := by
  unfold querySizeParam
  rw [h]
  simp only [parseSize_decimalText hn]

/-! ## Controls in their ranges -/

/-- A page size the server keeps, and sizes it can read. -/
structure PageState.Valid (page : PageState) : Prop where
  limit : page.limit ≤ 200
  offset : page.offset < 2 ^ 64
  total : page.total < 2 ^ 64

/-- **Controls that the server reads as they are**: nothing that has to be there is empty, the kind is one
    it knows, and the sizes fit. -/
structure Controls.Valid (c : Controls) : Prop where
  devices : c.devices.page.Valid
  sessions : c.sessions.page.Valid
  filter : c.devices.filter ≠ []
  kind : c.devices.kind = bytes "pc" ∨ c.devices.kind = bytes "web"
  sort : c.devices.sort ≠ []
  order : c.devices.order ≠ []

theorem initialControls_valid : initialControls.Valid :=
  ⟨⟨by decide, by decide, by decide⟩, ⟨by decide, by decide, by decide⟩, by decide, .inl rfl, by decide,
    by decide⟩

variable {c : Controls}

/-- A parameter that is always written is read. -/
theorem read_fixed {key value : Bytes} (h : (key, value) ∈ fixedParams c) :
    (resourceParams (buildOverviewUrl c))[key]? = some value :=
  (resourceParams_buildOverviewUrl c).mpr (List.mem_append_left _ (List.mem_append_left _ h))

/-- **The device page that was asked for.** -/
theorem deviceQuery_buildOverviewUrl (h : c.Valid) : deviceQuery (resourceParams (buildOverviewUrl c)) =
    ⟨c.devices.page.limit, c.devices.page.offset, c.devices.search, c.devices.filter, c.devices.kind,
      c.devices.sort, c.devices.order⟩ := by
  have hlimit := h.devices.limit
  have hoffset := h.devices.offset
  have hkindNe : c.devices.kind ≠ [] := by
    rcases h.kind with hk | hk
    all_goals rw [hk]; decide
  have hnormal : normalizeDeviceKind c.devices.kind = c.devices.kind := by
    rcases h.kind with hk | hk
    all_goals rw [hk]; decide
  have hsearch := queryStringParam_search fun value =>
    (resourceParams_buildOverviewUrl c).trans (mem_overviewParams_deviceSearch c value)
  unfold deviceQuery
  rw [querySizeParam_of_some (read_fixed (by simp [fixedParams])) (by omega : c.devices.page.limit < 2 ^ 64),
    querySizeParam_of_some (read_fixed (by simp [fixedParams])) hoffset, hsearch,
    queryStringParam_of_some (read_fixed (by simp [fixedParams])) h.filter,
    queryStringParam_of_some (read_fixed (by simp [fixedParams])) hkindNe, hnormal,
    queryStringParam_of_some (read_fixed (by simp [fixedParams])) h.sort,
    queryStringParam_of_some (read_fixed (by simp [fixedParams])) h.order, maxPageLimit,
    Nat.min_eq_left hlimit, Nat.min_eq_left (by omega)]

/-- **The session page that was asked for.** -/
theorem sessionQuery_buildOverviewUrl (h : c.Valid) : sessionQuery (resourceParams (buildOverviewUrl c)) =
    ⟨c.sessions.page.limit, c.sessions.page.offset, c.sessions.search⟩ := by
  have hlimit := h.sessions.limit
  have hoffset := h.sessions.offset
  have hsearch := queryStringParam_search fun value =>
    (resourceParams_buildOverviewUrl c).trans (mem_overviewParams_sessionSearch c value)
  unfold sessionQuery
  rw [querySizeParam_of_some (read_fixed (by simp [fixedParams])) (by omega : c.sessions.page.limit < 2 ^ 64),
    querySizeParam_of_some (read_fixed (by simp [fixedParams])) hoffset, hsearch, maxPageLimit,
    Nat.min_eq_left hlimit, Nat.min_eq_left (by omega)]

/-! ## The answer -/

/-- A number of an object; the server puts nothing else there. -/
def number (page : Json) (name : String) : Nat :=
  match page.find (bytes name) with
  | some (.int n) => n.toNat
  | _ => 0

/-- The lines of `syncPage` that repeat what the server says. -/
def readPage (pageData : Json) : PageState :=
  ⟨number pageData "limit", number pageData "offset", number pageData "total"⟩

/-- `syncPage`: the page as the server says, moved back to the last one when it is behind the end; whether
    it was moved. -/
def syncPage (page : PageState) : Option Json → PageState × Bool
  | none => (page, false)
  | some pageData =>
    let read := readPage pageData
    if 0 < read.total ∧ read.total ≤ read.offset ∧ 0 < read.limit then
      ({ read with offset := (read.total - 1) / read.limit * read.limit }, true)
    else (read, false)

theorem readPage_devicesPageJson (db : DeviceDB) (q : DeviceQuery) :
    readPage (devicesPageJson db q) = ⟨q.limit, q.offset, devicesTotal db q⟩ := rfl

theorem readPage_sessionsPageJson (q : SessionQuery) (sessionsTotal : Nat) :
    readPage (sessionsPageJson q sessionsTotal) = ⟨q.limit, q.offset, sessionsTotal⟩ := rfl

end Dashboard
end DeskServer
