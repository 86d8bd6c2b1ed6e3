import DeskServer.Database.Counts

/-!
# `Database.Search` — what a session search finds

The search of the session queries is `LIKE '%search%'` with the wildcards of the text escaped. For a text
without a zero byte, and short enough for a pattern, this is containment up to the case of ASCII letters.
The rows that match are grouped, and what a group shows is taken from its matching rows alone.

**Shape.** The escaped text is the quoted pattern of `Lib.Like`, between two wildcards, so that the search is
containment (`like_search_iff`). A group is a list of rows with one transmission id; its guests are joined and
split again, which loses nothing for ids without a comma (`mem_guestIds_group`).
-/

namespace DeskServer

open Bytes

/-! ## `LIKE '%search%'` -/

/-- `text` contains `p` up to the case of ASCII letters. -/
def containsFolded (p text : Bytes) : Bool := contains (toLower p) (toLower text)

/-- The letters that `EscapeLikePattern` escapes. -/
def likeSpecial (ch : UInt8) : Bool := decide (ch = 37 ∨ ch = 95 ∨ ch = 92)

theorem escapeLikePattern_eq_quote (value : Bytes) :
    escapeLikePattern value = byteLike.quote likeSpecial value := by
  unfold escapeLikePattern LikeSyntax.quote likeSpecial
  simp only [decide_eq_true_eq]
  rfl

theorem covers_likeSpecial (value : Bytes) : byteLike.Covers likeSpecial value := by
  intro ch _ hbare
  have hbare := of_decide_eq_false hbare
  exact ⟨fun heq => hbare (.inl heq), fun heq => hbare (.inr (.inr heq)), rfl⟩

/-- The pattern of a search finds what contains the text up to case. -/
theorem like_search_iff {search text : Bytes} :
    like false (37 :: (escapeLikePattern search ++ [37])) text = true ↔
      containsFolded search text = true := by
  rw [like_eq_accepts, escapeLikePattern_eq_quote, containsFolded, contains_iff]
  exact (LikeSyntax.accepts_between_iff (covers_likeSpecial search)).trans LikeSyntax.finds_iff_infix

/-- A search whose pattern reaches SQLite whole and is not refused. -/
structure PlainSearch (search : Bytes) : Prop where
  noNul : (0 : UInt8) ∉ search
  short : (escapeLikePattern search).length + 2 ≤ maxLikePatternLength

theorem zero_not_mem_escapeLikePattern {search : Bytes} (h : (0 : UInt8) ∉ search) :
    (0 : UInt8) ∉ escapeLikePattern search := by
  intro hin
  obtain ⟨c, hc, hzero⟩ := List.mem_flatMap.mp hin
  have hne : (0 : UInt8) ≠ c := fun heq => h (heq ▸ hc)
  split at hzero
  · rcases List.mem_cons.mp hzero with h92 | hlast
    · exact absurd h92 (by decide)
    · exact hne (List.mem_singleton.mp hlast)
  · exact hne (List.mem_singleton.mp hzero)

theorem searchPattern_of_noNul {search : Bytes} (h : (0 : UInt8) ∉ search) :
    searchPattern search = 37 :: (escapeLikePattern search ++ [37]) := by
  have hwhole : (0 : UInt8) ∉ bytes "%" ++ escapeLikePattern search ++ bytes "%" := by
    rw [List.mem_append, List.mem_append]
    rintro ((hzero | hzero) | hzero)
    · exact absurd hzero (by decide)
    · exact zero_not_mem_escapeLikePattern h hzero
    · exact absurd hzero (by decide)
  rw [searchPattern, bindText_val, cstr_eq_self hwhole, List.append_assoc]
  rfl

/-- **The search is containment up to case.** -/
theorem PlainSearch.likeSearch_eq {search : Bytes} (h : PlainSearch search) (column : SqlText) :
    likeSearch search column = containsFolded search column.val := by
  have hpattern := searchPattern_of_noNul h.noNul
  have hlen : (searchPattern search).length ≤ maxLikePatternLength := by
    rw [hpattern, List.length_cons, List.length_append, List.length_singleton]
    exact h.short
  rw [Bool.eq_iff_iff, likeSearch, decide_eq_true hlen, Bool.true_and, hpattern, like_search_iff]

/-! ## A search with a zero byte -/

/-- What is bound of a quoted text is what is quoted of its C string; no escape is a zero byte. -/
theorem cstr_escapeLikePattern (value : Bytes) : cstr (escapeLikePattern value) = escapeLikePattern (cstr value) := by
  induction value with
  | nil => rfl
  | cons ch rest ih =>
      have hcons : ∀ l : Bytes, escapeLikePattern (ch :: l)
          = (if ch = 37 ∨ ch = 95 ∨ ch = 92 then [92, ch] else [ch]) ++ escapeLikePattern l :=
        fun l => List.flatMap_cons ..
      by_cases hzero : ch = 0
      · subst hzero
        rw [hcons]
        rfl
      · have hfirst : (0 : UInt8) ∉ (if ch = 37 ∨ ch = 95 ∨ ch = 92 then [92, ch] else [ch]) := by
          split <;> simp [Ne.symm hzero]
        have hkept : cstr (ch :: rest) = ch :: cstr rest := List.takeWhile_cons_of_pos (decide_eq_true hzero)
        rw [hcons, cstr_append hfirst, ih, hkept, hcons]

theorem searchPattern_of_nul {search : Bytes} (h : (0 : UInt8) ∈ search) :
    searchPattern search = 37 :: escapeLikePattern (cstr search) := by
  have hquoted : (0 : UInt8) ∈ escapeLikePattern search := List.mem_flatMap.mpr ⟨0, h, by simp⟩
  rw [searchPattern, bindText_val, List.append_assoc, cstr_append (by decide), cstr_append_of_mem hquoted,
    cstr_escapeLikePattern]
  rfl

/-- **Of such a search only the part before the zero byte is looked for**, and at the end of a text: the
    pattern has lost its second `%`. -/
theorem likeSearch_of_nul {search : Bytes} (h : (0 : UInt8) ∈ search)
    (hshort : (searchPattern search).length ≤ maxLikePatternLength) (column : SqlText) :
    likeSearch search column = true ↔ toLower (cstr search) <:+ toLower column.val := by
  rw [likeSearch, decide_eq_true hshort, Bool.true_and, searchPattern_of_nul h, like_eq_accepts,
    escapeLikePattern_eq_quote]
  exact LikeSyntax.accepts_ending_iff (covers_likeSpecial _)

/-! ## The guest ids of a group -/

instance : Std.Total byteLE := by
  refine ⟨fun a b => ?_⟩
  unfold byteLE
  rw [Std.OrientedOrd.eq_swap (a := b) (b := a)]
  cases compare a b <;> simp

instance : IsTrans Bytes byteLE := ⟨fun _ _ _ h h' => Std.TransCmp.isLE_trans h h'⟩

/-- Of a sorted list `std::unique` leaves every element once. -/
theorem nodup_unique {l : List Bytes} (h : l.Pairwise byteLE) : (unique l).Nodup := by
  induction l using unique.induct with
  | case1 => exact List.nodup_nil
  | case2 a => exact List.nodup_singleton a
  | case3 b l ih =>
      rw [unique, if_pos rfl]
      exact ih (List.pairwise_cons.mp h).2
  | case4 a b l hne ih =>
      obtain ⟨hle, htail⟩ := List.pairwise_cons.mp h
      rw [unique, if_neg hne, List.nodup_cons, mem_unique]
      refine ⟨fun hin => ?_, ih htail⟩
      rcases List.mem_cons.mp hin with heq | hlater
      · exact hne heq
      · -- the next element is between `a` and a later `a`
        have hba : byteLE b a := (List.pairwise_cons.mp htail).1 a hlater
        have hab : byteLE a b := hle b List.mem_cons_self
        exact hne (Std.LawfulEqCmp.eq_of_compare (Std.OrientedCmp.isLE_antisymm hab hba))

theorem nodup_splitCommaSeparatedIds (value : Bytes) : (splitCommaSeparatedIds value).Nodup :=
  nodup_unique (List.pairwise_insertionSort byteLE _)

namespace DeviceDB

variable {db : DeviceDB} {search : Bytes} {rows : List SessionEntry} {key : SqlText × SqlText}
  {g : Bytes}

/-- The guest ids of a group, when no comma is in the way. -/
theorem mem_guestIds_group
    (hcomma : ∀ e ∈ rows, groupKey e = key → (44 : UInt8) ∉ e.1.guestId.val) :
    g ∈ (groupInfo rows key).guestIds ↔
      g ≠ [] ∧ ∃ e ∈ rows, groupKey e = key ∧ e.1.guestId.val = g := by
  have hclean : ∀ id ∈ (rows.filter fun e => groupKey e = key).map fun e => e.1.guestId.val,
      (44 : UInt8) ∉ id := by
    intro id hid
    obtain ⟨e, he, rfl⟩ := List.mem_map.mp hid
    obtain ⟨hmem, hkey⟩ := List.mem_filter.mp he
    exact hcomma e hmem (of_decide_eq_true hkey)
  show g ∈ splitCommaSeparatedIds (groupConcat _) ↔ _
  rw [mem_split_groupConcat hclean, List.mem_map]
  refine and_congr_right fun _ => ⟨?_, ?_⟩
  · rintro ⟨e, he, hg⟩
    obtain ⟨hmem, hkey⟩ := List.mem_filter.mp he
    exact ⟨e, hmem, of_decide_eq_true hkey, hg⟩
  · rintro ⟨e, hmem, hkey, hg⟩
    exact ⟨e, List.mem_filter.mpr ⟨hmem, decide_eq_true hkey⟩, hg⟩

/-- The rows a search finds. -/
def foundRows (db : DeviceDB) (search : Bytes) : List SessionEntry :=
  db.remoteControlSessions.toList.filter fun e => searchMatches search e

theorem mem_foundRows {e : SessionEntry} : e ∈ db.foundRows search ↔
    db.remoteControlSessions[e.1]? = some e.2 ∧ searchMatches search e = true := by
  rw [foundRows, List.mem_filter, Std.ExtTreeMap.mem_toList]

/-- The groups of the rows that a search finds. -/
def foundTransmissions (db : DeviceDB) (search : Bytes) : List (SqlText × SqlText) :=
  ((db.foundRows search).map groupKey).dedup

/-- `CountRemoteControlTransmissions`; the count is read with `sqlite3_column_int`. -/
def countRemoteControlTransmissions (db : DeviceDB) (search : Bytes) : Int :=
  columnInt (db.foundTransmissions search).length

theorem sessionGroups_perm (db : DeviceDB) (search : Bytes) : (db.sessionGroups search).Perm
    ((db.foundTransmissions search).map (groupInfo (db.foundRows search))) :=
  List.perm_insertionSort listedBefore _

theorem length_sessionGroups (db : DeviceDB) (search : Bytes) :
    (db.sessionGroups search).length = (db.foundTransmissions search).length := by
  rw [(sessionGroups_perm db search).length_eq, List.length_map]

/-- There are no more groups than rows. -/
theorem length_foundTransmissions_le (db : DeviceDB) (search : Bytes) :
    (db.foundTransmissions search).length ≤ db.remoteControlSessions.size := by
  rw [← Std.ExtTreeMap.length_toList]
  calc (db.foundTransmissions search).length
      ≤ ((db.foundRows search).map groupKey).length := (List.dedup_sublist _).length_le
    _ = (db.foundRows search).length := List.length_map _
    _ ≤ db.remoteControlSessions.toList.length := List.length_filter_le _ _

/-- The `WHERE` clause of such a search. -/
theorem searchMatches_iff (hplain : PlainSearch search) (e : SessionEntry) :
    searchMatches search e = true ↔ (containsFolded search e.1.transmissionId.val = true ∨
      containsFolded search e.2.hostId.val = true ∨ containsFolded search e.1.guestId.val = true) := by
  rw [searchMatches, hplain.likeSearch_eq, hplain.likeSearch_eq, hplain.likeSearch_eq, Bool.or_eq_true,
    Bool.or_eq_true, Bool.or_eq_true, List.isEmpty_iff]
  constructor
  · rintro (((hempty | ht) | hhost) | hg)
    · refine .inl ?_
      rw [hempty, containsFolded, contains_iff]
      exact List.nil_infix
    · exact .inl ht
    · exact .inr (.inl hhost)
    · exact .inr (.inr hg)
  · rintro (ht | hhost | hg)
    · exact .inl (.inl (.inr ht))
    · exact .inl (.inr hhost)
    · exact .inr hg

/-- With one host a transmission, each transmission is one group. -/
theorem nodup_ids_sessionGroups (hone : ∀ (k k' : SessionKey) (row row' : SessionRow),
    db.remoteControlSessions[k]? = some row → db.remoteControlSessions[k']? = some row' →
      k.transmissionId = k'.transmissionId → row.hostId = row'.hostId) (search : Bytes) :
    ((db.sessionGroups search).map RemoteControlSessionInfo.transmissionId).Nodup := by
  rw [((sessionGroups_perm db search).map _).nodup_iff, List.map_map]
  refine List.Nodup.map_on ?_ (List.nodup_dedup _)
  intro key hkey key' hkey' hsame
  obtain ⟨e, he, rfl⟩ := List.mem_map.mp (List.mem_dedup.mp hkey)
  obtain ⟨e', he', rfl⟩ := List.mem_map.mp (List.mem_dedup.mp hkey')
  have ht : e.1.transmissionId = e'.1.transmissionId := SqlText.ext hsame
  exact Prod.ext ht (hone e.1 e'.1 e.2 e'.2 (mem_foundRows.mp he).1 (mem_foundRows.mp he').1 ht)

end DeviceDB
end DeskServer
