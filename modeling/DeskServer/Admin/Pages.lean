import DeskServer.Database.PresenceList
import DeskServer.Admin.Query

/-!
# `Admin.Pages` — the pages of the overview

The device list is sorted by the query and cut by its `LIMIT` and `OFFSET`, or, for the location that is
displayed, read whole, sorted again in memory and cut there. The session list is cut by the query, or in
memory when the database counts none. A page in memory is a slice for every offset. The query takes the
offset as a signed number of 64 bits: from `2 ^ 63` on it is negative, and the page starts at the front
again.

**Shape.** Each of the two pages is compared with its list (`overviewDevices_page_iff`,
`overviewSessions_page_iff`), a list in which nothing occurs twice, so that the front of it is a later page
only when there is nothing to show. The sessions have one more way to go wrong: their number is read with 32
bits, and a multiple of `2 ^ 32` sends the overview to the list in memory as well. Whether the pages, once
they are right, are also returned is `Admin.Returned`.
-/

namespace DeskServer

open Bytes Paging

namespace AdminController

open TransmissionManager DeviceDB

/-! ## The device page -/

/-- `IsLocationSort`. -/
def isLocationSort (sort : Bytes) : Bool := toLower sort == bytes "location"

/-- `CurrentNetworkInfo`, its location; `location` is that of `GetDeviceNetworkInfo`, empty when there is
    none. -/
def displayedLocation (location : Bytes → Bytes) (device : OnlineDeviceInfo) : Bytes :=
  if device.online then location device.deviceId else []

/-- `HasDisplayedLocation`. -/
def hasDisplayedLocation (location : Bytes → Bytes) (device : OnlineDeviceInfo) : Bool :=
  displayedLocation location device != []

/-- The comparison of `SortDevicesByDisplayedLocation`. -/
def displayedLocationOrder (location : Bytes → Bytes) (order : Bytes) :
    OnlineDeviceInfo → OnlineDeviceInfo → Ordering :=
  compareLex
    (if toLower order = bytes "asc" then compareOn (hasDisplayedLocation location)
      else fun a b => compareOn (hasDisplayedLocation location) b a)
    (compareLex (fun a b => compareOn OnlineDeviceInfo.online b a)
      (compareLex (fun a b => compareOn OnlineDeviceInfo.updatedAt b a)
        (compareOn OnlineDeviceInfo.deviceId)))

def sortDevicesByDisplayedLocation (location : Bytes → Bytes) (order : Bytes)
    (devices : List OnlineDeviceInfo) : List OnlineDeviceInfo :=
  sortBy (displayedLocationOrder location order) devices

def applyDevicePage (devices : List OnlineDeviceInfo) (offset limit : Nat) : List OnlineDeviceInfo :=
  if devices.length ≤ offset ∨ limit = 0 then []
  else (devices.drop offset).take (min limit (devices.length - offset))

/-- The `devices` of `HandleOverview`. -/
def overviewDevices (location : Bytes → Bytes) (db : DeviceDB) (now : Int) (q : DeviceQuery) :
    List OnlineDeviceInfo :=
  let counts := db.countDevicePresenceByFilters q.search q.kind
  let devicesTotal := toSize (countForDeviceFilter counts q.filter)
  if isLocationSort q.sort then
    let rows := db.listDevicePresence now devicesTotal 0 q.search q.filter (bytes "status") q.order q.kind
    applyDevicePage (sortDevicesByDisplayedLocation location q.order rows) q.offset q.limit
  else db.listDevicePresence now q.limit q.offset q.search q.filter q.sort q.order q.kind

/-- The list the device page is a slice of. -/
def sortedDevices (location : Bytes → Bytes) (db : DeviceDB) (now : Int) (q : DeviceQuery) :
    List OnlineDeviceInfo :=
  if isLocationSort q.sort then
    sortDevicesByDisplayedLocation location q.order
      (db.sortedPresence now q.search q.filter (bytes "status") q.order q.kind)
  else db.sortedPresence now q.search q.filter q.sort q.order q.kind

/-! ## Sorted by the displayed location -/

variable {location : Bytes → Bytes} {db : DeviceDB} {now : Int}

instance displayedLocationOrder_trans (location : Bytes → Bytes) (order : Bytes) :
    Std.TransCmp (displayedLocationOrder location order) := by
  unfold displayedLocationOrder
  split <;> infer_instance

/-- **Sorting in memory sorts**: what the comparison puts in front is in front. -/
theorem sortDevicesByDisplayedLocation_pairwise (location : Bytes → Bytes) (order : Bytes)
    (devices : List OnlineDeviceInfo) :
    (sortDevicesByDisplayedLocation location order devices).Pairwise fun a b =>
      (displayedLocationOrder location order a b).isLE = true :=
  sortBy_pairwise _ _

/-- The page in memory is a slice, for every offset. -/
theorem applyDevicePage_eq (devices : List OnlineDeviceInfo) (offset limit : Nat) :
    applyDevicePage devices offset limit = page limit offset devices := by
  unfold applyDevicePage
  split
  · rename_i h
    rcases h with h | rfl
    · exact (page_eq_nil_of_le h).symm
    · exact (page_zero_limit offset devices).symm
  · rw [page, ← List.length_drop, List.take_eq_take_min (i := limit)]

/-! ## The page of a query -/

/-- **`LIMIT` and `OFFSET`**: a slice below `2 ^ 63`, and the front of the list from there on. -/
theorem limitTo_drop {α : Type} {limit offset : Nat} (hlimit : limit < 2 ^ 63) (hoffset : offset < 2 ^ 64)
    (l : List α) : limitTo (toInt64 limit) (l.drop (toInt64 offset).toNat) =
      if offset < 2 ^ 63 then page limit offset l else l.take limit := by
  rw [toInt64_of_lt hlimit, limitTo, if_neg (by omega), Int.toNat_natCast]
  split
  · rename_i h
    rw [toInt64_of_lt h, Int.toNat_natCast, page]
  · rename_i h
    have hnegative : (toInt64 offset).toNat = 0 := by
      rw [toInt64, if_neg h]
      omega
    rw [hnegative, List.drop_zero]

/-- A page of a query is the slice it should be exactly when its offset fits, or it shows nothing anyway. -/
theorem limitTo_drop_eq_page_iff {α : Type} {limit offset : Nat} (hlimit : limit < 2 ^ 63)
    (hoffset : offset < 2 ^ 64) {l : List α} (hl : l.Nodup) :
    limitTo (toInt64 limit) (l.drop (toInt64 offset).toNat) = page limit offset l ↔
      offset < 2 ^ 63 ∨ limit = 0 ∨ l = [] := by
  rw [limitTo_drop hlimit hoffset]
  split
  · rename_i h
    exact iff_of_true rfl (.inl h)
  · rename_i h
    rw [take_eq_page_iff hl]
    have hpositive : offset ≠ 0 := by omega
    simp only [hpositive, h, false_or]

theorem length_presenceRows_le (db : DeviceDB) (search filter kind : Bytes) :
    (db.presenceRows search filter kind).length ≤ db.devicePresence.size := by
  rw [← Std.ExtTreeMap.length_toList]
  exact List.length_filter_le _ _

theorem toSize_natCast {n : Nat} (h : n < 2 ^ 64) : toSize (n : Int) = n := by
  unfold toSize
  omega

/-- What is read for sorting in memory is the whole list. -/
theorem listDevicePresence_total (hfew : db.devicePresence.size < 2 ^ 63)
    (search filter sort order kind : Bytes) :
    db.listDevicePresence now
        (toSize (countForDeviceFilter (db.countDevicePresenceByFilters search kind) filter)) 0
        search filter sort order kind =
      db.sortedPresence now search filter sort order kind := by
  have hle := length_presenceRows_le db search filter kind
  rw [countForDeviceFilter_eq, toSize_natCast (by omega), listDevicePresence,
    limitTo_drop (by omega) (by omega), if_pos (by omega), page, List.drop_zero]
  exact List.take_of_length_le (by rw [length_sortedPresence])

/-- **The device page is a slice exactly when** it is sorted in memory, or its offset fits, or there is
    nothing to show. -/
theorem overviewDevices_page_iff (location : Bytes → Bytes) (db : DeviceDB)
    (hfew : db.devicePresence.size < 2 ^ 63) (now : Int) {q : DeviceQuery} (hlimit : q.limit < 2 ^ 63) (hoffset : q.offset < 2 ^ 64) :
    overviewDevices location db now q = page q.limit q.offset (sortedDevices location db now q) ↔
      isLocationSort q.sort = true ∨ q.offset < 2 ^ 63 ∨ q.limit = 0 ∨
        db.presenceRows q.search q.filter q.kind = [] := by
  unfold overviewDevices sortedDevices
  by_cases hsort : isLocationSort q.sort = true
  · simp only [if_pos hsort]
    rw [listDevicePresence_total hfew, applyDevicePage_eq]
    exact iff_of_true rfl (.inl hsort)
  · simp only [if_neg hsort]
    have hempty : db.sortedPresence now q.search q.filter q.sort q.order q.kind = [] ↔
        db.presenceRows q.search q.filter q.kind = [] := by
      rw [← List.length_eq_zero_iff, length_sortedPresence, List.length_eq_zero_iff]
    have hiff := limitTo_drop_eq_page_iff hlimit hoffset
      (nodup_sortedPresence db now q.search q.filter q.sort q.order q.kind)
    rw [hempty] at hiff
    exact hiff.trans ⟨.inr, fun h => h.resolve_left hsort⟩

/-! ## The session page -/

variable {s : TransmissionManager} {search : Bytes}

/-- **What SQLite keeps to**: row ids have 63 bits, and the `SUM`s over the running sessions of a device stay
    integers of 64 bits. -/
structure ListBounds (db : DeviceDB) (now : Int) : Prop where
  rows : db.devicePresence.size < 2 ^ 63
  running : ∀ (d : SqlText) (row : PresenceRow), db.devicePresence[d]? = some row →
    db.liveControl now d < 2 ^ 63 ∧ db.liveControlled now d < 2 ^ 63

theorem ListBounds.of_list {db : DeviceDB} {now : Int} (hrows : db.devicePresence.size < 2 ^ 63)
    (hrunning : ∀ e ∈ db.devicePresence.toList,
      db.liveControl now e.1 < 2 ^ 63 ∧ db.liveControlled now e.1 < 2 ^ 63) : ListBounds db now :=
  ⟨hrows, Std.ExtTreeMap.forall_of_toList hrunning⟩

end AdminController
end DeskServer
