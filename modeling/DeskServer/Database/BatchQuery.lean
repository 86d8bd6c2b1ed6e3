import DeskServer.Database.Devices

/-!
# `Database.BatchQuery` — when a batch query answers for every id

`BatchQueryOnline` builds one statement with a placeholder for each id, collects the rows in a map and
reads the map once for each id asked. `batchQueryOnline` says what comes out of it; here the loop itself
is written down, over the rows in whatever order the statement returns them, and shown to be the same.

A statement with too many placeholders is not prepared, and the function then returns the empty list,
which is what it returns for an empty request.

**Shape.** The rows of the statement name each id once (`onlineRows_nodup`), so that the map holds for an id
what its row says, in whatever order the rows came (`getElem?_onlineMap`). From there the answer is decided id
by id.
-/

namespace DeskServer

open Bytes Std.ExtTreeMap

namespace DeviceDB

/-! ## The loop -/

/-- `SELECT device_id, online FROM device_presence WHERE device_id IN (?,…,?)`. -/
def onlineRows (db : DeviceDB) (deviceIds : List Bytes) : List (SqlText × PresenceRow) :=
  db.devicePresence.toList.filter fun row => row.1 ∈ deviceIds.map bindText

/-- `map[id] = (online != 0)`, under the id as the column gives it. -/
def recordOnline (map : Std.ExtTreeMap Bytes Bool) (row : SqlText × PresenceRow) :
    Std.ExtTreeMap Bytes Bool :=
  map.insert row.1.val (columnInt row.2.online != 0)

/-- The map after the loop over `rows`. -/
def onlineMap (rows : List (SqlText × PresenceRow)) : Std.ExtTreeMap Bytes Bool :=
  rows.foldl recordOnline ∅

/-- What `BatchQueryOnline` returns when the statement returns `rows`. -/
def batchQueryRows (rows : List (SqlText × PresenceRow)) (deviceIds : List Bytes) :
    List (Bytes × Bool) :=
  if deviceIds = [] then []
  -- `sqlite3_prepare_v2` fails
  else if maxBindParameters < deviceIds.length then []
  else deviceIds.map fun id => (id, ((onlineMap rows)[id]?).getD false)

variable {db : DeviceDB} {ids : List Bytes} {rows : List (SqlText × PresenceRow)}

theorem mem_onlineRows {row : SqlText × PresenceRow} : row ∈ db.onlineRows ids ↔
    db.devicePresence[row.1]? = some row.2 ∧ row.1 ∈ ids.map bindText := by
  rw [onlineRows, List.mem_filter, mem_toList, decide_eq_true_eq]

/-- The key is primary: no id comes back twice. -/
theorem onlineRows_nodup : ((db.onlineRows ids).map Prod.fst).Nodup :=
  (List.filter_sublist.map _).nodup (nodup_toList_keys _)

/-- The loop is a pass over the pairs of an id and its flag. -/
theorem onlineMap_eq : onlineMap rows
    = (rows.map fun row => (row.1.val, columnInt row.2.online != 0)).foldl
        (visit fun _ online => some online) ∅ := by
  rw [onlineMap, List.foldl_map]
  rfl

theorem nodup_columnIds (h : (rows.map Prod.fst).Nodup) :
    ((rows.map fun row => (row.1.val, columnInt row.2.online != 0)).map Prod.fst).Nodup := by
  rw [List.map_map]
  have hcomp : (Prod.fst ∘ fun row : SqlText × PresenceRow =>
      (row.1.val, columnInt row.2.online != 0)) = SqlText.val ∘ Prod.fst := rfl
  rw [hcomp, ← List.map_map]
  exact h.map fun _ _ => SqlText.ext

/-- **The map holds the flag of each row, under the id of the row.** -/
theorem getElem?_onlineMap (h : (rows.map Prod.fst).Nodup) {id : Bytes} {online : Bool} :
    (onlineMap rows)[id]? = some online ↔
      ∃ row ∈ rows, row.1.val = id ∧ (columnInt row.2.online != 0) = online := by
  rw [onlineMap_eq, getElem?_foldl_visit _ _ _ (nodup_columnIds h)]
  cases hfind : (rows.map fun row => (row.1.val, columnInt row.2.online != 0)).find?
      fun e => e.1 = id with
  | none =>
      rw [List.find?_eq_none] at hfind
      simp only [getElem?_empty, reduceCtorEq, false_iff, not_exists, not_and]
      intro row hrow hid _
      exact hfind _ (List.mem_map_of_mem hrow) (decide_eq_true hid)
  | some e =>
      obtain ⟨row, hrow, rfl⟩ := List.mem_map.mp (List.mem_of_find?_eq_some hfind)
      have hid : row.1.val = id := by simpa using List.find?_some hfind
      simp only [Option.some.injEq]
      constructor
      · intro h
        exact ⟨row, hrow, hid, h⟩
      · rintro ⟨row', hrow', hid', rfl⟩
        -- one row for each id
        have hkey : row'.1 = row.1 := SqlText.ext (hid'.trans hid.symm)
        rw [List.inj_on_of_nodup_map h hrow' hrow hkey]

/-- The flag `batchQueryOnline` gives an id is the one the map holds for it. -/
theorem getD_onlineMap (hrows : rows.Perm (db.onlineRows ids)) {id : Bytes} (hid : id ∈ ids) :
    ((onlineMap rows)[id]?).getD false = ((db.devicePresence[bindText id]?).map fun row =>
      columnInt row.online != 0 && (0 : UInt8) ∉ id).getD false := by
  have hnodup : (rows.map Prod.fst).Nodup :=
    (hrows.map Prod.fst).nodup_iff.mpr onlineRows_nodup
  rw [Bool.eq_iff_iff]
  constructor
  · intro h
    have hsome : (onlineMap rows)[id]? = some true := by
      cases hmap : (onlineMap rows)[id]? with
      | none => rw [hmap] at h; exact absurd h (by simp)
      | some online => rw [hmap] at h; exact congrArg some h
    obtain ⟨row, hrow, rfl, hflag⟩ := (getElem?_onlineMap hnodup).mp hsome
    have hfound := (mem_onlineRows.mp (hrows.mem_iff.mp hrow)).1
    rw [bindText_column, hfound]
    simp only [Option.map_some, Option.getD_some, hflag, Bool.true_and, row.1.noNul]
    rfl
  · intro h
    cases hrow : db.devicePresence[bindText id]? with
    | none => rw [hrow] at h; exact absurd h (by simp)
    | some row =>
        rw [hrow] at h
        simp only [Option.map_some, Option.getD_some, Bool.and_eq_true, decide_eq_true_eq] at h
        have hmem : (bindText id, row) ∈ rows :=
          hrows.mem_iff.mpr (mem_onlineRows.mpr ⟨hrow, List.mem_map_of_mem hid⟩)
        rw [(getElem?_onlineMap hnodup).mpr ⟨_, hmem, cstr_eq_self h.2, h.1⟩]
        rfl

/-- **The loop computes `batchQueryOnline`, in whatever order the rows come.** -/
theorem batchQueryRows_eq (hrows : rows.Perm (db.onlineRows ids)) :
    batchQueryRows rows ids = db.batchQueryOnline ids := by
  rw [batchQueryRows, batchQueryOnline]
  by_cases hnil : ids = []
  · subst hnil
    rfl
  · rw [if_neg hnil]
    by_cases hlong : maxBindParameters < ids.length
    · rw [if_pos hlong, if_pos hlong]
    · rw [if_neg hlong, if_neg hlong]
      exact List.map_congr_left fun id hid => congrArg (Prod.mk id) (getD_onlineMap hrows hid)

/-! ## Completeness -/

/-- **The answer covers the request**: a pair for each id, in the order asked, with the flag of the
    table. -/
structure CompleteAnswer (db : DeviceDB) (deviceIds : List Bytes) (answer : List (Bytes × Bool)) :
    Prop where
  ids : answer.map Prod.fst = deviceIds
  flags : ∀ q ∈ answer,
    (q.2 = true ↔ ∃ row, db.devicePresence[bindText q.1]? = some row ∧ row.online ≠ 0)

/-- `sqlite3_column_int` reads the flag of `id` as it stands in the table. -/
def FlagReadable (db : DeviceDB) (id : Bytes) : Prop :=
  ∀ row, db.devicePresence[bindText id]? = some row → row.online ≠ 0 → ¬ (2 ^ 32 : Int) ∣ row.online

/-- The flag of a prepared statement, for an id without a zero byte. -/
theorem flag_right_iff {id : Bytes} (hnul : (0 : UInt8) ∉ id) :
    (((db.devicePresence[bindText id]?).map fun row =>
        columnInt row.online != 0 && (0 : UInt8) ∉ id).getD false = true ↔
      ∃ row, db.devicePresence[bindText id]? = some row ∧ row.online ≠ 0) ↔
    FlagReadable db id := by
  unfold FlagReadable
  cases hrow : db.devicePresence[bindText id]? with
  | none => simp
  | some row =>
      simp only [Option.map_some, Option.getD_some, hnul, not_false_eq_true, decide_true,
        Bool.and_true, bne_iff_ne, ne_eq, Option.some.injEq, exists_eq_left', forall_eq',
        columnInt_eq_zero_iff]
      constructor
      · intro h honline
        exact h.mpr honline
      · intro h
        refine ⟨fun hdvd hzero => hdvd (hzero ▸ dvd_zero _), h⟩

/-- **A batch query of ids without zero bytes is complete exactly when the statement can be prepared and
    every flag asked for fits a C `int`.** -/
theorem batchQueryOnline_complete_iff (db : DeviceDB) (deviceIds : List Bytes)
    (hnul : ∀ id ∈ deviceIds, (0 : UInt8) ∉ id) :
    CompleteAnswer db deviceIds (db.batchQueryOnline deviceIds) ↔
      deviceIds.length ≤ maxBindParameters ∧ ∀ id ∈ deviceIds, FlagReadable db id := by
  unfold batchQueryOnline
  by_cases hlong : maxBindParameters < deviceIds.length
  · rw [if_pos hlong]
    constructor
    · intro h
      have hids : [] = deviceIds := h.ids
      rw [← hids] at hlong
      exact absurd hlong (Nat.not_lt_zero _)
    · rintro ⟨hshort, _⟩
      omega
  · rw [if_neg hlong]
    constructor
    · intro h
      refine ⟨by omega, fun id hid => ?_⟩
      exact (flag_right_iff (hnul id hid)).mp (h.flags _ (List.mem_map_of_mem hid))
    · rintro ⟨_, hreadable⟩
      refine ⟨?_, fun q hq => ?_⟩
      · rw [List.map_map]
        exact List.map_id _
      · obtain ⟨id, hid, rfl⟩ := List.mem_map.mp hq
        exact (flag_right_iff (hnul id hid)).mpr (hreadable id hid)

/-- A table with one online device, asked for it twice. -/
theorem batchQueryOnline_repeated_complete :
    CompleteAnswer (newFile.setDeviceOnline 9 (bytes "100000000") true).2
      [bytes "100000000", bytes "100000000"]
      ((newFile.setDeviceOnline 9 (bytes "100000000") true).2.batchQueryOnline
        [bytes "100000000", bytes "100000000"]) := by
  refine (batchQueryOnline_complete_iff _ _ (by decide)).mpr ⟨by decide, fun id hid row hrow _ => ?_⟩
  have hid' : id = bytes "100000000" := by simpa using hid
  have hfound : (newFile.setDeviceOnline 9 (bytes "100000000") true).2.devicePresence[
      bindText (bytes "100000000")]? = some (onlineUpsert 9 none) := by
    rw [setDeviceOnline, upsertPresence_row, if_pos rfl]
    rfl
  rw [hid', hfound] at hrow
  obtain rfl := Option.some.inj hrow
  decide

/-- One placeholder too many: the answer is empty, not one pair for each id. -/
theorem batchQueryOnline_tooMany_incomplete :
    ¬ CompleteAnswer newFile (List.replicate 32767 (bytes "100000000"))
      (newFile.batchQueryOnline (List.replicate 32767 (bytes "100000000"))) := by
  intro h
  have hlong : maxBindParameters < (List.replicate 32767 (bytes "100000000")).length := by
    rw [List.length_replicate]
    exact Nat.lt_succ_self _
  have hids := h.ids
  rw [batchQueryOnline, if_pos hlong] at hids
  have hlen := congrArg List.length hids
  rw [List.length_replicate] at hlen
  exact absurd hlen (by simp)

end DeviceDB
end DeskServer
