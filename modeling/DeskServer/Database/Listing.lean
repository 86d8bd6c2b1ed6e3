import DeskServer.Lib.Like
import DeskServer.Database.Sessions

/-!
# `Database.Listing` — `ListRemoteControlSessions`

The session table as the server and the console read it: rows grouped by transmission and host, the
guest ids of a group joined by commas in SQL (`GROUP_CONCAT`) and split again in the program. The search
is a `LIKE` over the three id columns.
-/

namespace DeskServer

open Bytes

structure RemoteControlSessionInfo where
  transmissionId : Bytes
  hostId : Bytes
  guestIds : List Bytes
  startedAt : Int
deriving DecidableEq

/-! ## `LIKE` -/

def escapeLikePattern (value : Bytes) : Bytes :=
  value.flatMap fun ch => if ch = 37 ∨ ch = 95 ∨ ch = 92 then [92, ch] else [ch]

/-- `LIKE` ignores the case of ASCII letters. -/
def foldCase (b : UInt8) : UInt8 := if 65 ≤ b ∧ b ≤ 90 then b + 32 else b

/-- `text LIKE pattern ESCAPE '\'`, for patterns without a bare `_`; `escaped` after a backslash. -/
def like : Bool → Bytes → Bytes → Bool
  | escaped, [], text => !escaped && text.isEmpty
  | true, _ :: _, [] => false
  | true, c :: pattern, d :: text => foldCase c == foldCase d && like false pattern text
  | false, c :: pattern, text =>
    if c = 37 then text.tails.any fun rest => like false pattern rest
    else if c = 92 then like true pattern text
    else
      match text with
      | [] => false
      | d :: text => foldCase c == foldCase d && like false pattern text

/-- The same as an instance of the pattern language: no letter of these patterns stands for any one. -/
def byteLike : LikeSyntax UInt8 UInt8 where
  many := 37
  one := fun _ => false
  escape := 92
  fold := foldCase
  escape_ne_many := by decide

theorem like_eq_accepts (escaped : Bool) (pattern text : Bytes) :
    like escaped pattern text = byteLike.accepts escaped pattern text := by
  induction pattern generalizing escaped text with
  | nil => cases escaped <;> rfl
  | cons c pattern ih =>
      cases escaped with
      | true =>
          cases text with
          | nil => rfl
          | cons d text =>
              show (foldCase c == foldCase d && like false pattern text) = _
              rw [ih]
              rfl
      | false =>
          rw [like.eq_def, LikeSyntax.accepts.eq_def]
          cases text <;> simp only [ih] <;> rfl

/-- `SQLITE_MAX_LIKE_PATTERN_LENGTH`, in bytes. -/
def maxLikePatternLength : Nat := 50000

/-- The pattern `%search%`, as it is bound. -/
def searchPattern (search : Bytes) : Bytes :=
  (bindText (bytes "%" ++ escapeLikePattern search ++ bytes "%")).val

/-- `column LIKE '%search%' ESCAPE '\'`. A pattern that is too long is an error, and the query then finds
    nothing. Bytes are compared where SQLite compares characters, which is the same on the well-formed
    UTF-8 that JSON carries. -/
def likeSearch (search : Bytes) (column : SqlText) : Bool :=
  decide ((searchPattern search).length ≤ maxLikePatternLength) &&
    like false (searchPattern search) column.val

/-! ## Splitting -/

/-- `std::unique`: of equal neighbours the first stays. -/
def unique {α : Type} [DecidableEq α] : List α → List α
  | [] => []
  | [a] => [a]
  | a :: b :: l => if a = b then unique (b :: l) else a :: unique (b :: l)

/-- `std::string` order. -/
def byteLE (a b : Bytes) : Prop := (compare a b).isLE = true

instance : DecidableRel byteLE := fun _ _ => inferInstanceAs (Decidable (_ = true))

/-- Split at the commas, drop the empty items, `std::sort` and `std::unique`. -/
def splitCommaSeparatedIds (value : Bytes) : List Bytes :=
  unique (((value.splitOn 44).filter fun item => item ≠ []).insertionSort byteLE)

/-- `GROUP_CONCAT(guest_id)`. -/
def groupConcat (ids : List Bytes) : Bytes := List.intercalate [44] ids

namespace DeviceDB

/-! ## The query -/

abbrev SessionEntry := SessionKey × SessionRow

/-- `GROUP BY transmission_id, host_id`. -/
def groupKey (e : SessionEntry) : SqlText × SqlText := (e.1.transmissionId, e.2.hostId)

/-- The `WHERE` clause, present when the search is not empty. -/
def searchMatches (search : Bytes) (e : SessionEntry) : Bool :=
  search.isEmpty || likeSearch search e.1.transmissionId || likeSearch search e.2.hostId ||
    likeSearch search e.1.guestId

/-- The result row of one group. -/
def groupInfo (rows : List SessionEntry) (key : SqlText × SqlText) : RemoteControlSessionInfo :=
  let members := rows.filter fun e => groupKey e = key
  { transmissionId := key.1.val
    hostId := key.2.val
    guestIds := splitCommaSeparatedIds (groupConcat (members.map fun e => e.1.guestId.val))
    startedAt := ((members.map fun e => e.2.startedAt).min?).getD 0 }

/-- `ORDER BY MIN(started_at) DESC, transmission_id ASC`. -/
def listedBefore (a b : RemoteControlSessionInfo) : Prop :=
  b.startedAt < a.startedAt ∨ (b.startedAt = a.startedAt ∧ byteLE a.transmissionId b.transmissionId)

instance : DecidableRel listedBefore := fun _ _ => inferInstanceAs (Decidable (_ ∨ _))

/-- The groups of the rows that match, in the order of the query. -/
def sessionGroups (db : DeviceDB) (search : Bytes) : List RemoteControlSessionInfo :=
  let rows := db.remoteControlSessions.toList.filter fun e => searchMatches search e
  (((rows.map groupKey).dedup).map (groupInfo rows)).insertionSort listedBefore

/-- A `size_t` bound with `sqlite3_bind_int64`. -/
def toInt64 (n : Nat) : Int := if n < 2 ^ 63 then n else n - 2 ^ 64

/-- `LIMIT ?`; a negative limit is none. -/
def limitTo {α : Type} (limit : Int) (l : List α) : List α :=
  if limit < 0 then l else l.take limit.toNat

/-- `LIMIT ? OFFSET ?`; a negative offset is zero. -/
def listRemoteControlSessions (db : DeviceDB) (limit offset : Nat) (search : Bytes) :
    List RemoteControlSessionInfo :=
  limitTo (toInt64 limit) ((db.sessionGroups search).drop (toInt64 offset).toNat)

end DeviceDB

/-! ## What splitting keeps -/

theorem mem_unique {α : Type} [DecidableEq α] {l : List α} {x : α} : x ∈ unique l ↔ x ∈ l := by
  induction l using unique.induct with
  | case1 => rfl
  | case2 a => rfl
  | case3 b l ih =>
      rw [unique, if_pos rfl, ih]
      simp
  | case4 a b l hne ih =>
      rw [unique, if_neg hne, List.mem_cons, ih, List.mem_cons (a := x) (b := a)]

theorem mem_splitCommaSeparatedIds {value x : Bytes} :
    x ∈ splitCommaSeparatedIds value ↔ x ≠ [] ∧ x ∈ value.splitOn 44 := by
  unfold splitCommaSeparatedIds
  rw [mem_unique, List.mem_insertionSort, List.mem_filter]
  simp only [ne_eq, decide_not, Bool.not_eq_eq_eq_not, Bool.not_true, decide_eq_false_iff_not]
  exact and_comm

/-- No item of a split contains the separator. -/
theorem not_mem_of_mem_splitOn {c : UInt8} {s item : Bytes} (h : item ∈ s.splitOn c) : c ∉ item := by
  induction s generalizing item with
  | nil =>
      rw [List.splitOn_nil, List.mem_singleton] at h
      rw [h]; simp
  | cons b s ih =>
      rw [List.splitOn_cons_eq_if_modifyHead] at h
      split at h
      · rcases List.mem_cons.mp h with rfl | h
        · simp
        · exact ih h
      · rename_i hb
        cases hs : s.splitOn c with
        | nil => exact absurd hs (List.splitOn_ne_nil c s)
        | cons hd tl =>
            rw [hs, List.modifyHead_cons] at h
            rcases List.mem_cons.mp h with rfl | h
            · have hhd : c ∉ hd := ih (by rw [hs]; simp)
              have hne : c ≠ b := by
                rintro rfl
                exact hb (beq_self_eq_true c)
              simp [hhd, hne]
            · exact ih (by rw [hs]; simp [h])

/-- **A split item is not empty and has no comma.** -/
theorem splitCommaSeparatedIds_clean {value x : Bytes} (h : x ∈ splitCommaSeparatedIds value) :
    x ≠ [] ∧ (44 : UInt8) ∉ x := by
  rw [mem_splitCommaSeparatedIds] at h
  exact ⟨h.1, not_mem_of_mem_splitOn h.2⟩

/-- **Ids without a comma come back**, the empty one apart. -/
theorem mem_split_groupConcat {ids : List Bytes} (h : ∀ id ∈ ids, (44 : UInt8) ∉ id) {x : Bytes} :
    x ∈ splitCommaSeparatedIds (groupConcat ids) ↔ x ≠ [] ∧ x ∈ ids := by
  rw [mem_splitCommaSeparatedIds, groupConcat]
  cases ids with
  | nil =>
      rw [List.intercalate_nil, List.splitOn_nil, List.mem_singleton]
      simp
  | cons id ids => rw [List.splitOn_intercalate 44 h (by simp)]

namespace DeviceDB

variable {db : DeviceDB}

theorem mem_sessionGroups {search : Bytes} {info : RemoteControlSessionInfo} :
    info ∈ db.sessionGroups search ↔ ∃ e ∈ db.remoteControlSessions.toList,
      searchMatches search e = true ∧ info = groupInfo
        (db.remoteControlSessions.toList.filter fun e => searchMatches search e) (groupKey e) := by
  unfold sessionGroups
  rw [List.mem_insertionSort, List.mem_map]
  constructor
  · rintro ⟨key, hkey, rfl⟩
    obtain ⟨e, he, rfl⟩ := List.mem_map.mp (List.mem_dedup.mp hkey)
    obtain ⟨hmem, hmatch⟩ := List.mem_filter.mp he
    exact ⟨e, hmem, hmatch, rfl⟩
  · rintro ⟨e, hmem, hmatch, rfl⟩
    exact ⟨groupKey e, List.mem_dedup.mpr (List.mem_map.mpr
      ⟨e, List.mem_filter.mpr ⟨hmem, hmatch⟩, rfl⟩), rfl⟩

theorem toInt64_of_lt {n : Nat} (h : n < 2 ^ 63) : toInt64 n = n := if_pos h

/-- A page within the range of `sqlite3_int64` is a slice of the groups. -/
theorem listRemoteControlSessions_slice (db : DeviceDB) {limit offset : Nat} (hl : limit < 2 ^ 63)
    (ho : offset < 2 ^ 63) (search : Bytes) :
    db.listRemoteControlSessions limit offset search
      = ((db.sessionGroups search).drop offset).take limit := by
  rw [listRemoteControlSessions, toInt64_of_lt hl, toInt64_of_lt ho, limitTo,
    if_neg (Int.not_lt.mpr (Int.natCast_nonneg limit)), Int.toNat_natCast, Int.toNat_natCast]

theorem mem_of_mem_listRemoteControlSessions {limit offset : Nat} {search : Bytes}
    {info : RemoteControlSessionInfo} (h : info ∈ db.listRemoteControlSessions limit offset search) :
    info ∈ db.sessionGroups search := by
  unfold listRemoteControlSessions limitTo at h
  split at h
  · exact List.mem_of_mem_drop h
  · exact List.mem_of_mem_drop (List.mem_of_mem_take h)

/-- A listed transmission has a row. -/
theorem listed_has_row {limit offset : Nat} {search : Bytes} {info : RemoteControlSessionInfo}
    (h : info ∈ db.listRemoteControlSessions limit offset search) :
    ∃ (k : SessionKey) (row : SessionRow), db.remoteControlSessions[k]? = some row ∧
      k.transmissionId.val = info.transmissionId ∧ row.hostId.val = info.hostId := by
  obtain ⟨e, he, _, rfl⟩ := mem_sessionGroups.mp (mem_of_mem_listRemoteControlSessions h)
  exact ⟨e.1, e.2, Std.ExtTreeMap.mem_toList.mp he, rfl, rfl⟩

end DeviceDB
end DeskServer
