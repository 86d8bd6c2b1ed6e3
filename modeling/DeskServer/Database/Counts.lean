import DeskServer.Lib.Fallible
import DeskServer.Database.Listing
import DeskServer.Database.Devices
import DeskServer.Database.Durations

/-!
# `Database.Counts` — counts and sums over `device_presence`

How many devices are online as the database sees it, and for how long. The kind of an id is decided by
`LIKE`, which ignores the case of ASCII letters: a prefix pattern accepts every id that starts with the
prefix up to case, and more than the test the rest of the program makes. A count is read with
`sqlite3_column_int`, its low 32 bits.

A `SUM` is an integer of 64 bits, and raises `integer overflow` when it leaves them; the statement then
fails and every figure of the stats stays zero (`getOnlineDurationStats_of_overflow`). Of seconds that are
not negative that is so exactly when the whole sum is too large. What is not modelled is a **row** whose
own seconds leave the 64 bits: there SQLite goes on in floating point. The statements about sums are for
tables without such a row (`SecondsFit`).
-/

namespace DeskServer

open Bytes

/-- `ToLower`, in the C locale. -/
def toLower (value : Bytes) : Bytes := value.map foldCase

/-- `device_id LIKE 'pattern'`. -/
def likeId (pattern : String) (deviceId : SqlText) : Bool := like false (bytes pattern) deviceId.val

/-- `DevicePresenceKindClause`. -/
def devicePresenceKindClause (kind : Bytes) (deviceId : SqlText) : Bool :=
  let normalized := toLower kind
  if normalized = bytes "web" then likeId "web-%" deviceId
  else if normalized = bytes "all" then !likeId "C-%" deviceId
  else !likeId "web-%" deviceId && !likeId "C-%" deviceId

namespace DeviceDB

/-- A session names the device on either side. -/
def inSession (db : DeviceDB) (deviceId : SqlText) : Bool :=
  db.remoteControlSessions.toList.any fun e =>
    e.2.normalizedGuestId == deviceId || e.2.normalizedHostId == deviceId

/-- `DevicePresenceFilterClause`. -/
def devicePresenceFilterClause (db : DeviceDB) (filter kind : Bytes) (e : SqlText × PresenceRow) :
    Bool :=
  let normalized := toLower filter
  if normalized = bytes "web" then likeId "web-%" e.1
  else
    devicePresenceKindClause kind e.1 &&
      (if normalized = bytes "online" then e.2.online == 1
      else if normalized = bytes "offline" then e.2.online == 0
      else if normalized = bytes "active" then db.inSession e.1
      else true)

/-- `AND device_id LIKE ? ESCAPE '\'`, present when the search is not empty. -/
def presenceSearch (search : Bytes) (deviceId : SqlText) : Bool :=
  search.isEmpty || likeSearch search deviceId

/-- `SELECT COUNT(*) FROM device_presence WHERE`. -/
def countPresence (db : DeviceDB) (clause : SqlText × PresenceRow → Bool) : Nat :=
  (db.devicePresence.toList.filter clause).length

/-- `CountOnlineDevices`; the count is read with `sqlite3_column_int`. -/
def countOnlineDevices (db : DeviceDB) (search : Bytes) : Int :=
  columnInt (db.countPresence fun e =>
    e.2.online == 1 && !likeId "web-%" e.1 && !likeId "C-%" e.1 && presenceSearch search e.1)

/-- `CountDevicePresence`; the count is read with `sqlite3_column_int`. -/
def countDevicePresence (db : DeviceDB) (search filter kind : Bytes) : Int :=
  columnInt (db.countPresence fun e =>
    db.devicePresenceFilterClause filter kind e && presenceSearch search e.1)

end DeviceDB

/-! ## Sums over `device_presence` -/

structure OnlineDurationStats where
  currentOnlineSeconds : Int := 0
  totalOnlineSeconds : Int := 0
  totalControlSeconds : Int := 0
  totalControlledSeconds : Int := 0
deriving DecidableEq

namespace DeviceDB

/-- `FROM device_presence`, of the rows that are neither web clients nor clones. -/
def statsRows (db : DeviceDB) : List (SqlText × PresenceRow) :=
  db.devicePresence.toList.filter fun e => !likeId "web-%" e.1 && !likeId "C-%" e.1

/-- `SELECT SUM(column)` over these rows; none when it raises `integer overflow`. Here the rows are added in
    the order of their keys. -/
def sumPresence (db : DeviceDB) (column : SqlText → PresenceRow → Int) : Option Int :=
  (db.statsRows.map fun e => column e.1 e.2).checkedSum (-2 ^ 63) (2 ^ 63)

def getOnlineDurationStats (db : DeviceDB) (now : Int) : OnlineDurationStats :=
  match db.sumPresence fun _ row => row.liveOnline now,
    db.sumPresence fun _ row => row.totalOnlineSeconds + row.liveOnline now,
    db.sumPresence fun deviceId row => row.totalControlSeconds + db.liveControl now deviceId,
    db.sumPresence fun deviceId row => row.totalControlledSeconds + db.liveControlled now deviceId with
  | some currentOnline, some totalOnline, some totalControl, some totalControlled =>
    ⟨currentOnline, totalOnline, totalControl, totalControlled⟩
  -- `sqlite3_step` does not return a row
  | _, _, _, _ => {}

/-- `CountActiveRemoteControlConnections`; the count is read with `sqlite3_column_int`. -/
def countActiveRemoteControlConnections (db : DeviceDB) : Int := columnInt db.remoteControlSessions.size

/-! ## Sums without a bound -/

/-- The sum of a column over the rows of the stats, as an integer without a bound. -/
def columnTotal (db : DeviceDB) (column : SqlText → PresenceRow → Int) : Int :=
  db.devicePresence.sumBy fun deviceId row =>
    if !likeId "web-%" deviceId && !likeId "C-%" deviceId then column deviceId row else 0

/-- The four figures without a bound. -/
def durationTotals (db : DeviceDB) (now : Int) : OnlineDurationStats where
  currentOnlineSeconds := db.columnTotal fun _ row => row.liveOnline now
  totalOnlineSeconds := db.columnTotal fun _ row => row.totalOnlineSeconds + row.liveOnline now
  totalControlSeconds := db.columnTotal fun deviceId row =>
    row.totalControlSeconds + db.liveControl now deviceId
  totalControlledSeconds := db.columnTotal fun deviceId row =>
    row.totalControlledSeconds + db.liveControlled now deviceId

/-- **The seconds of every row are those of an integer column**: not negative, and below `2 ^ 63` with what is
    running added. -/
structure SecondsFit (db : DeviceDB) (now : Int) : Prop where
  nonneg : ∀ (d : SqlText) (row : PresenceRow), db.devicePresence[d]? = some row →
    0 ≤ row.totalOnlineSeconds ∧ 0 ≤ row.totalControlSeconds ∧ 0 ≤ row.totalControlledSeconds
  fits : ∀ (d : SqlText) (row : PresenceRow), db.devicePresence[d]? = some row →
    row.totalOnlineSeconds + row.liveOnline now < 2 ^ 63 ∧
      row.totalControlSeconds + db.liveControl now d < 2 ^ 63 ∧
      row.totalControlledSeconds + db.liveControlled now d < 2 ^ 63

end DeviceDB

/-- All four figures are below a bound. -/
structure OnlineDurationStats.Below (stats : OnlineDurationStats) (bound : Int) : Prop where
  currentOnline : stats.currentOnlineSeconds < bound
  totalOnline : stats.totalOnlineSeconds < bound
  totalControl : stats.totalControlSeconds < bound
  totalControlled : stats.totalControlledSeconds < bound

namespace DeviceDB

variable {db : DeviceDB} {now : Int}

theorem sum_map_filter {α : Type} (l : List α) (p : α → Bool) (f : α → Int) :
    ((l.filter p).map f).sum = (l.map fun a => if p a then f a else 0).sum := by
  induction l with
  | nil => rfl
  | cons a l ih =>
      rw [List.map_cons, List.sum_cons, ← ih, List.filter_cons]
      split
      · rw [List.map_cons, List.sum_cons]
      · exact (Int.zero_add _).symm

theorem sum_statsRows (db : DeviceDB) (column : SqlText → PresenceRow → Int) :
    (db.statsRows.map fun e => column e.1 e.2).sum = db.columnTotal column := sum_map_filter _ _ _

/-- **A `SUM` of seconds** is the sum without a bound, or fails where that is too large. -/
theorem sumPresence_eq {column : SqlText → PresenceRow → Int}
    (h : ∀ (d : SqlText) (row : PresenceRow), db.devicePresence[d]? = some row → 0 ≤ column d row) :
    db.sumPresence column =
      if db.columnTotal column < 2 ^ 63 then some (db.columnTotal column) else none := by
  rw [sumPresence, List.checkedSum_of_nonneg (by decide) (by decide), sum_statsRows]
  intro x hx
  obtain ⟨e, he, rfl⟩ := List.mem_map.mp hx
  exact h e.1 e.2 (Std.ExtTreeMap.mem_toList.mp (List.mem_of_mem_filter he))

theorem liveOnline_nonneg (row : PresenceRow) (now : Int) : 0 ≤ row.liveOnline now := by
  unfold PresenceRow.liveOnline
  split
  · exact le_max_left 0 _
  · exact Int.le_refl 0

theorem sideSeconds_nonneg (db : DeviceDB) (p : SessionRow → Prop) [DecidablePred p] (now : Int) :
    0 ≤ db.remoteControlSessions.sumBy fun _ row => if p row then elapsed now row else 0 := by
  have hzero := Std.ExtTreeMap.sumBy_mono (m := db.remoteControlSessions) (f := fun _ _ => 0)
    (g := fun _ row => if p row then elapsed now row else 0) fun _ row _ => by
      split
      · exact le_max_left 0 _
      · exact Int.le_refl 0
  have hnone := Std.ExtTreeMap.sumBy_mul 0 (fun _ _ => (1 : Int)) db.remoteControlSessions
  simp only [zero_mul] at hnone
  rwa [hnone] at hzero

/-- Every column of the stats is a number of seconds that is not negative. -/
theorem SecondsFit.columns (h : db.SecondsFit now) {d : SqlText} {row : PresenceRow}
    (hrow : db.devicePresence[d]? = some row) : 0 ≤ row.liveOnline now ∧
      0 ≤ row.totalOnlineSeconds + row.liveOnline now ∧
      0 ≤ row.totalControlSeconds + db.liveControl now d ∧
      0 ≤ row.totalControlledSeconds + db.liveControlled now d := by
  obtain ⟨honline, hcontrol, hcontrolled⟩ := h.nonneg d row hrow
  have hlive := liveOnline_nonneg row now
  have hguest : 0 ≤ db.liveControl now d := sideSeconds_nonneg db (fun row => row.normalizedGuestId = d) now
  have hhost : 0 ≤ db.liveControlled now d := sideSeconds_nonneg db (fun row => row.normalizedHostId = d) now
  exact ⟨hlive, by omega, by omega, by omega⟩

/-- The four `SUM`s. -/
theorem SecondsFit.sums (h : db.SecondsFit now) :
    db.sumPresence (fun _ row => row.liveOnline now)
        = (if (db.durationTotals now).currentOnlineSeconds < 2 ^ 63
          then some (db.durationTotals now).currentOnlineSeconds else none) ∧
      db.sumPresence (fun _ row => row.totalOnlineSeconds + row.liveOnline now)
        = (if (db.durationTotals now).totalOnlineSeconds < 2 ^ 63
          then some (db.durationTotals now).totalOnlineSeconds else none) ∧
      db.sumPresence (fun d row => row.totalControlSeconds + db.liveControl now d)
        = (if (db.durationTotals now).totalControlSeconds < 2 ^ 63
          then some (db.durationTotals now).totalControlSeconds else none) ∧
      db.sumPresence (fun d row => row.totalControlledSeconds + db.liveControlled now d)
        = if (db.durationTotals now).totalControlledSeconds < 2 ^ 63
          then some (db.durationTotals now).totalControlledSeconds else none :=
  ⟨sumPresence_eq fun _ _ hrow => (h.columns hrow).1, sumPresence_eq fun _ _ hrow => (h.columns hrow).2.1,
    sumPresence_eq fun _ _ hrow => (h.columns hrow).2.2.1,
    sumPresence_eq fun _ _ hrow => (h.columns hrow).2.2.2⟩

/-- **Sums that fit are what they should be.** -/
theorem getOnlineDurationStats_of_below (h : db.SecondsFit now) (hbelow : (db.durationTotals now).Below (2 ^ 63)) :
    db.getOnlineDurationStats now = db.durationTotals now := by
  obtain ⟨h₁, h₂, h₃, h₄⟩ := h.sums
  rw [if_pos hbelow.currentOnline] at h₁
  rw [if_pos hbelow.totalOnline] at h₂
  rw [if_pos hbelow.totalControl] at h₃
  rw [if_pos hbelow.totalControlled] at h₄
  unfold getOnlineDurationStats
  rw [h₁, h₂, h₃, h₄]

/-- **One sum that does not fit** leaves all four at zero. -/
theorem getOnlineDurationStats_of_overflow (h : db.SecondsFit now)
    (hover : ¬ (db.durationTotals now).Below (2 ^ 63)) : db.getOnlineDurationStats now = {} := by
  obtain ⟨h₁, h₂, h₃, h₄⟩ := h.sums
  unfold getOnlineDurationStats
  rw [h₁, h₂, h₃, h₄]
  split
  · rename_i hcurrent honline hcontrol hcontrolled
    refine absurd ⟨?_, ?_, ?_, ?_⟩ hover
    · exact of_not_not fun hlarge => absurd (hcurrent.symm.trans (if_neg hlarge)) (by simp)
    · exact of_not_not fun hlarge => absurd (honline.symm.trans (if_neg hlarge)) (by simp)
    · exact of_not_not fun hlarge => absurd (hcontrol.symm.trans (if_neg hlarge)) (by simp)
    · exact of_not_not fun hlarge => absurd (hcontrolled.symm.trans (if_neg hlarge)) (by simp)
  · rfl

end DeviceDB

/-! ## Prefix patterns -/

/-- `text` starts with `p` up to the case of ASCII letters. -/
def startsWithFolded (p text : Bytes) : Bool := (toLower p).isPrefixOf (toLower text)

/-- A pattern that is a plain text with a `%` behind it. -/
theorem like_prefix {p : Bytes} (hpercent : (37 : UInt8) ∉ p) (hescape : (92 : UInt8) ∉ p)
    (text : Bytes) : like false (p ++ [37]) text = startsWithFolded p text := by
  have hplain : ∀ c ∈ p, byteLike.Plain c := fun c hc =>
    ⟨fun (heq : c = 37) => hpercent (heq ▸ hc), fun (heq : c = 92) => hescape (heq ▸ hc), rfl⟩
  rw [Bool.eq_iff_iff, like_eq_accepts, startsWithFolded, List.isPrefixOf_iff_prefix]
  exact LikeSyntax.accepts_prefix_iff hplain

/-- An id that starts with `p` does so up to case. -/
theorem startsWithFolded_of_startsWith {p text : Bytes} (h : startsWith p text = true) :
    startsWithFolded p text = true := by
  obtain ⟨rest, rfl⟩ := startsWith_iff.mp h
  rw [startsWithFolded, toLower, toLower, List.map_append, List.isPrefixOf_iff_prefix]
  exact List.prefix_append _ _

theorem not_startsWith_of_folded {p text : Bytes} (h : startsWithFolded p text = false) :
    startsWith p text = false := by
  rw [Bool.eq_false_iff] at h ⊢
  exact fun hstarts => h (startsWithFolded_of_startsWith hstarts)

theorem likeId_web (deviceId : SqlText) :
    likeId "web-%" deviceId = startsWithFolded (bytes "web-") deviceId.val := by
  have hpattern : bytes "web-%" = bytes "web-" ++ [37] := by decide
  rw [likeId, hpattern]
  exact like_prefix (by decide) (by decide) _

theorem likeId_clone (deviceId : SqlText) :
    likeId "C-%" deviceId = startsWithFolded (bytes "C-") deviceId.val := by
  have hpattern : bytes "C-%" = bytes "C-" ++ [37] := by decide
  rw [likeId, hpattern]
  exact like_prefix (by decide) (by decide) _

/-! ## Counting ids -/

namespace DeviceDB

/-- The ids of the rows a count finds. -/
def countedIds (db : DeviceDB) (clause : SqlText × PresenceRow → Bool) : Finset Bytes :=
  ((db.devicePresence.toList.filter clause).map fun e => e.1.val).toFinset

variable {db : DeviceDB} {clause : SqlText × PresenceRow → Bool}

theorem mem_countedIds {id : Bytes} : id ∈ db.countedIds clause ↔
    ∃ key row, db.devicePresence[(key : SqlText)]? = some (row : PresenceRow) ∧ clause (key, row) = true ∧
      key.val = id := by
  rw [countedIds, List.mem_toFinset, List.mem_map]
  constructor
  · rintro ⟨e, he, rfl⟩
    obtain ⟨hmem, hclause⟩ := List.mem_filter.mp he
    exact ⟨e.1, e.2, Std.ExtTreeMap.mem_toList.mp hmem, hclause, rfl⟩
  · rintro ⟨key, row, hrow, hclause, rfl⟩
    exact ⟨(key, row), List.mem_filter.mpr ⟨Std.ExtTreeMap.mem_toList.mpr hrow, hclause⟩, rfl⟩

/-- A count is the number of ids it finds. -/
theorem countPresence_eq_card : db.countPresence clause = (db.countedIds clause).card := by
  rw [countedIds, List.toFinset_card_of_nodup, List.length_map, countPresence]
  have hkeys : ((db.devicePresence.toList.filter clause).map Prod.fst).Nodup :=
    (Std.ExtTreeMap.nodup_toList_keys _).sublist (List.filter_sublist.map Prod.fst)
  have hvals : ((db.devicePresence.toList.filter clause).map fun e => e.1.val)
      = ((db.devicePresence.toList.filter clause).map Prod.fst).map SqlText.val := by
    rw [List.map_map]
    rfl
  rw [hvals]
  exact hkeys.map fun _ _ h => SqlText.ext h

end DeviceDB
end DeskServer
