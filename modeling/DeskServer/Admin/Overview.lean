import DeskServer.Database.Search
import DeskServer.Admin.Controller
import DeskServer.Server.Reachable
import DeskServer.Transmission.Snapshots

/-!
# `Admin.Overview` — the two session lists of the overview

The dashboard lists sessions from the database, and from memory when the database counts none. The query
drops rows before it groups them, so a session found by one of its guests shows that guest alone; the
guest ids travel in one text with commas between them; and the list in memory shows every transmission
that has a host. When the tables hold the same sessions, the two answers are the expected one exactly
under the conditions of `Agrees`.

**Shape.** The list of the database and the list in memory are compared with the expected sessions one by one
(`enumerates_persistedList_iff`, `enumerates_rememberedList_iff`), and `agrees_iff` puts them together: a
list all of whose pages are shown is the one that is paged through. What `Agrees` asks of the rows that are
found is then said of the sessions, for each kind of search: one that reaches SQLite whole
(`agrees_iff_plainAgrees`), one with a zero byte (`agrees_iff_of_nul`), one past the limit of a pattern
(`agrees_iff_of_long`). Not covered here is whether the answer is written out: a search that is not UTF-8 is
answered by nothing (`overview_unanswered` of `Admin.Returned`).
-/

namespace DeskServer

open Bytes

namespace AdminController

open TransmissionManager DeviceDB

/-! ## The overview -/

/-- A session of the database, as the overview shows it. -/
def persistedSnapshot (session : RemoteControlSessionInfo) : TransmissionSnapshot where
  transmissionId := session.transmissionId
  hostId := session.hostId
  guestIds := session.guestIds
  participantCount := 1 + session.guestIds.length
  active := true

/-- `sessions` and `sessions_total` of `HandleOverview`. -/
def overviewSessions (s : TransmissionManager) (db : DeviceDB) (limit offset : Nat) (search : Bytes) :
    List TransmissionSnapshot × Nat :=
  let sessionsTotal := toSize (db.countRemoteControlTransmissions search)
  let sessions := (db.listRemoteControlSessions limit offset search).map persistedSnapshot
  if sessionsTotal = 0 then
    let snapshots := s.getTransmissionSnapshots limit offset search
    (sessions ++ snapshots.1, snapshots.2)
  else (sessions, sessionsTotal)

/-! ## What it should say -/

/-- The tables hold the same sessions; row ids have 63 bits. -/
structure SameSessions (s : TransmissionManager) (db : DeviceDB) : Prop where
  wellFormed : s.WellFormed
  rows : ∀ t host g : Bytes, (∃ (k : SessionKey) (row : SessionRow),
      db.remoteControlSessions[k]? = some row ∧ k.transmissionId.val = t ∧ row.hostId.val = host ∧
        k.guestId.val = g) ↔
    s.transmissionHostIdList[t]? = some host ∧ g ∈ s.guestsOf t
  few : db.remoteControlSessions.size < 2 ^ 63

/-- A session with guests that has the text in its id, its host's or a guest's, up to the case of ASCII
    letters. -/
def Expected (s : TransmissionManager) (search t : Bytes) : Prop :=
  ∃ host, s.transmissionHostIdList[t]? = some host ∧ s.guestsOf t ≠ [] ∧
    (containsFolded search t = true ∨ containsFolded search host = true ∨
      ∃ g ∈ s.guestsOf t, containsFolded search g = true)

/-- **`full` lists exactly the expected sessions**, each with its host, all its guests and its number of
    participants. -/
structure Enumerates (s : TransmissionManager) (search : Bytes) (full : List TransmissionSnapshot) :
    Prop where
  nodup : (full.map TransmissionSnapshot.transmissionId).Nodup
  expected : ∀ t, t ∈ full.map TransmissionSnapshot.transmissionId ↔ Expected s search t
  host : ∀ x ∈ full, s.transmissionHostIdList[x.transmissionId]? = some x.hostId
  guests : ∀ x ∈ full, ∀ g, g ∈ x.guestIds ↔ g ∈ s.guestsOf x.transmissionId
  participants : ∀ x ∈ full, x.participantCount = 1 + (s.guestsOf x.transmissionId).length

/-- The query finds a row of the transmission. -/
def Found (db : DeviceDB) (search t : Bytes) : Prop :=
  ∃ e ∈ db.foundRows search, e.1.transmissionId.val = t

/-- **The conditions under which the overview is right.** If the query finds anything, then it finds the
    expected sessions, and of each of them the row of every guest, whose id is neither empty nor has a
    comma; if it finds nothing, then the search in memory finds just the expected transmissions. And the
    number found fits an `int`. -/
structure Agrees (s : TransmissionManager) (db : DeviceDB) (search : Bytes) : Prop where
  few : (db.foundTransmissions search).length < 2 ^ 31
  found : (∃ t, Found db search t) → ∀ t, Found db search t ↔ Expected s search t
  whole : ∀ t, Found db search t → ∀ g ∈ s.guestsOf t, g ≠ [] ∧ (44 : UInt8) ∉ g ∧
    ∃ e ∈ db.foundRows search, e.1.transmissionId.val = t ∧ e.1.guestId.val = g
  memory : (∀ t, ¬ Found db search t) → ∀ t host : Bytes, s.transmissionHostIdList[t]? = some host →
    (s.hostMatches search (t, host) = true ↔ Expected s search t)

variable {s : TransmissionManager} {db : DeviceDB} {search t : Bytes}

theorem SameSessions.row (h : SameSessions s db) {e : SessionEntry} (he : e ∈ db.foundRows search) :
    s.transmissionHostIdList[e.1.transmissionId.val]? = some e.2.hostId.val ∧
      e.1.guestId.val ∈ s.guestsOf e.1.transmissionId.val :=
  (h.rows _ _ _).mp ⟨e.1, e.2, (mem_foundRows.mp he).1, rfl, rfl, rfl⟩

theorem SameSessions.oneHost (h : SameSessions s db) (k k' : SessionKey) (row row' : SessionRow)
    (hrow : db.remoteControlSessions[k]? = some row) (hrow' : db.remoteControlSessions[k']? = some row')
    (ht : k.transmissionId = k'.transmissionId) : row.hostId = row'.hostId := by
  have hhost := ((h.rows _ _ _).mp ⟨k, row, hrow, rfl, rfl, rfl⟩).1
  have hhost' := ((h.rows _ _ _).mp ⟨k', row', hrow', rfl, rfl, rfl⟩).1
  rw [ht, hhost'] at hhost
  exact SqlText.ext (Option.some.inj hhost).symm

/-! ## The query found something -/

/-- The list the database pages through. -/
def persistedList (db : DeviceDB) (search : Bytes) : List TransmissionSnapshot :=
  (db.sessionGroups search).map persistedSnapshot

theorem length_persistedList (db : DeviceDB) (search : Bytes) :
    (persistedList db search).length = (db.foundTransmissions search).length := by
  rw [persistedList, List.length_map, length_sessionGroups]

/-- What the list shows of the group of a row. -/
theorem mem_persistedList {x : TransmissionSnapshot} : x ∈ persistedList db search ↔
    ∃ e ∈ db.foundRows search, x = persistedSnapshot (groupInfo (db.foundRows search) (groupKey e)) := by
  rw [persistedList, List.mem_map]
  constructor
  · rintro ⟨info, hinfo, rfl⟩
    rw [(sessionGroups_perm db search).mem_iff, List.mem_map] at hinfo
    obtain ⟨key, hkey, rfl⟩ := hinfo
    obtain ⟨e, he, rfl⟩ := List.mem_map.mp (List.mem_dedup.mp hkey)
    exact ⟨e, he, rfl⟩
  · rintro ⟨e, he, rfl⟩
    refine ⟨_, ?_, rfl⟩
    rw [(sessionGroups_perm db search).mem_iff]
    exact List.mem_map_of_mem (List.mem_dedup.mpr (List.mem_map_of_mem he))

theorem mem_persistedList_ids :
    t ∈ (persistedList db search).map TransmissionSnapshot.transmissionId ↔ Found db search t := by
  rw [List.mem_map]
  constructor
  · rintro ⟨x, hx, rfl⟩
    obtain ⟨e, he, rfl⟩ := mem_persistedList.mp hx
    exact ⟨e, he, rfl⟩
  · rintro ⟨e, he, rfl⟩
    exact ⟨_, mem_persistedList.mpr ⟨e, he, rfl⟩, rfl⟩

theorem persistedList_ne_nil : persistedList db search ≠ [] ↔ ∃ t, Found db search t := by
  constructor
  · intro hne
    obtain ⟨x, hx⟩ := List.exists_mem_of_ne_nil _ hne
    exact ⟨x.transmissionId, mem_persistedList_ids.mp (List.mem_map_of_mem hx)⟩
  · rintro ⟨t, ht⟩ hnil
    have hin := mem_persistedList_ids.mpr ht
    rw [hnil] at hin
    exact absurd hin List.not_mem_nil

theorem overviewSessions_found (h : ∃ t, Found db search t)
    (hfew : (db.foundTransmissions search).length < 2 ^ 31) (limit offset : Nat) :
    overviewSessions s db limit offset search
      = ((db.listRemoteControlSessions limit offset search).map persistedSnapshot,
        (persistedList db search).length) := by
  have htotal : toSize (db.countRemoteControlTransmissions search) = (persistedList db search).length := by
    rw [length_persistedList]
    exact toSize_columnInt hfew
  have hpos : (persistedList db search).length ≠ 0 :=
    fun hzero => persistedList_ne_nil.mpr h (List.length_eq_zero_iff.mp hzero)
  simp only [overviewSessions]
  rw [htotal, if_neg hpos]

theorem listRemoteControlSessions_page {limit offset : Nat} (hl : limit < 2 ^ 63)
    (ho : offset < 2 ^ 63) :
    (db.listRemoteControlSessions limit offset search).map persistedSnapshot
      = ((persistedList db search).drop offset).take limit := by
  rw [listRemoteControlSessions_slice db hl ho, persistedList, List.map_take, List.map_drop]

/-- **The guests of a group are all guests of its session** exactly when none is filtered out or spoilt by
    the commas; and then they are counted right. -/
theorem guests_of_group (h : SameSessions s db) {e : SessionEntry} (he : e ∈ db.foundRows search) :
    (∀ g, g ∈ (groupInfo (db.foundRows search) (groupKey e)).guestIds ↔
        g ∈ s.guestsOf e.1.transmissionId.val) ↔
      ∀ g ∈ s.guestsOf e.1.transmissionId.val, g ≠ [] ∧ (44 : UInt8) ∉ g ∧
        ∃ e' ∈ db.foundRows search, e'.1.transmissionId.val = e.1.transmissionId.val ∧
          e'.1.guestId.val = g := by
  -- every row of the group is a guest of the session
  have hguest : ∀ e' ∈ db.foundRows search, groupKey e' = groupKey e →
      e'.1.guestId.val ∈ s.guestsOf e.1.transmissionId.val := by
    intro e' he' hkey
    rw [show e.1.transmissionId = e'.1.transmissionId from (congrArg Prod.fst hkey).symm]
    exact (h.row he').2
  have hgroup : ∀ e' ∈ db.foundRows search, e'.1.transmissionId.val = e.1.transmissionId.val →
      groupKey e' = groupKey e := by
    intro e' he' ht
    have ht' : e'.1.transmissionId = e.1.transmissionId := SqlText.ext ht
    exact Prod.ext ht' (h.oneHost e'.1 e.1 e'.2 e.2 (mem_foundRows.mp he').1 (mem_foundRows.mp he).1 ht')
  constructor
  · intro hall
    have hclean : ∀ g ∈ s.guestsOf e.1.transmissionId.val, g ≠ [] ∧ (44 : UInt8) ∉ g :=
      fun g hg => splitCommaSeparatedIds_clean ((hall g).mpr hg)
    have hcomma : ∀ e' ∈ db.foundRows search, groupKey e' = groupKey e →
        (44 : UInt8) ∉ e'.1.guestId.val := fun e' he' hkey => (hclean _ (hguest e' he' hkey)).2
    intro g hg
    obtain ⟨_, e', he', hkey, hval⟩ := (mem_guestIds_group hcomma).mp ((hall g).mpr hg)
    exact ⟨(hclean g hg).1, (hclean g hg).2, e', he',
      congrArg (fun key : SqlText × SqlText => key.1.val) hkey, hval⟩
  · intro hwhole g
    have hcomma : ∀ e' ∈ db.foundRows search, groupKey e' = groupKey e →
        (44 : UInt8) ∉ e'.1.guestId.val := fun e' he' hkey => (hwhole _ (hguest e' he' hkey)).2.1
    rw [mem_guestIds_group hcomma]
    constructor
    · rintro ⟨_, e', he', hkey, rfl⟩
      exact hguest e' he' hkey
    · intro hg
      obtain ⟨hne, _, e', he', ht, hval⟩ := hwhole g hg
      exact ⟨hne, e', he', hgroup e' he' ht, hval⟩

/-- The number of guests, when the set is right. -/
theorem length_guests_of_group (h : SameSessions s db) {rows : List SessionEntry}
    {key : SqlText × SqlText} {a : Bytes}
    (hall : ∀ g, g ∈ (groupInfo rows key).guestIds ↔ g ∈ s.guestsOf a) :
    (groupInfo rows key).guestIds.length = (s.guestsOf a).length :=
  ((List.perm_ext_iff_of_nodup (nodup_splitCommaSeparatedIds _) (h.wellFormed.guestsOf_nodup a)).mpr
    hall).length_eq

/-- **The list of the database is right exactly when** it finds what is expected, whole. -/
theorem enumerates_persistedList_iff (h : SameSessions s db) :
    Enumerates s search (persistedList db search) ↔
      (∀ t, Found db search t ↔ Expected s search t) ∧
      ∀ t, Found db search t → ∀ g ∈ s.guestsOf t, g ≠ [] ∧ (44 : UInt8) ∉ g ∧
        ∃ e ∈ db.foundRows search, e.1.transmissionId.val = t ∧ e.1.guestId.val = g := by
  constructor
  · intro henum
    refine ⟨fun t => mem_persistedList_ids.symm.trans (henum.expected t), ?_⟩
    rintro t ⟨e, he, rfl⟩
    exact (guests_of_group h he).mp (henum.guests _ (mem_persistedList.mpr ⟨e, he, rfl⟩))
  · rintro ⟨hexpected, hwhole⟩
    refine ⟨?_, fun t => mem_persistedList_ids.trans (hexpected t), ?_, ?_, ?_⟩
    · rw [persistedList, List.map_map]
      exact nodup_ids_sessionGroups h.oneHost search
    · intro x hx
      obtain ⟨e, he, rfl⟩ := mem_persistedList.mp hx
      exact (h.row he).1
    · intro x hx
      obtain ⟨e, he, rfl⟩ := mem_persistedList.mp hx
      exact (guests_of_group h he).mpr (hwhole _ ⟨e, he, rfl⟩)
    · intro x hx
      obtain ⟨e, he, rfl⟩ := mem_persistedList.mp hx
      have hall := (guests_of_group h he).mpr (hwhole _ ⟨e, he, rfl⟩)
      show 1 + (groupInfo (db.foundRows search) (groupKey e)).guestIds.length = _
      rw [length_guests_of_group h hall]
      rfl

/-! ## The query found nothing -/

/-- The list the memory pages through. -/
def rememberedList (s : TransmissionManager) (search : Bytes) : List TransmissionSnapshot :=
  (s.transmissionHostIdList.toList.filter (s.hostMatches search)).map s.snapshotOf

theorem overviewSessions_notFound (h : ∀ t, ¬ Found db search t) (limit offset : Nat) :
    overviewSessions s db limit offset search
      = (((rememberedList s search).drop offset).take limit, (rememberedList s search).length) := by
  have hnil : persistedList db search = [] := by
    by_contra hne
    obtain ⟨t, ht⟩ := persistedList_ne_nil.mp hne
    exact h t ht
  have hzero : toSize (db.countRemoteControlTransmissions search) = 0 := by
    rw [countRemoteControlTransmissions, ← length_persistedList, hnil]
    rfl
  have hgroups : db.sessionGroups search = [] := List.map_eq_nil_iff.mp hnil
  have hlist : db.listRemoteControlSessions limit offset search = [] := by
    unfold listRemoteControlSessions limitTo
    rw [hgroups, List.drop_nil, List.take_nil, ite_self]
  simp only [overviewSessions]
  rw [if_pos hzero, hlist, getTransmissionSnapshots_page]
  rfl

theorem mem_rememberedList {x : TransmissionSnapshot} : x ∈ rememberedList s search ↔
    ∃ t host : Bytes, s.transmissionHostIdList[t]? = some host ∧ s.hostMatches search (t, host) = true ∧
      x = s.snapshotOf (t, host) := by
  rw [rememberedList, List.mem_map]
  constructor
  · rintro ⟨⟨t, host⟩, hin, rfl⟩
    obtain ⟨hmem, hmatch⟩ := List.mem_filter.mp hin
    exact ⟨t, host, Std.ExtTreeMap.mem_toList.mp hmem, hmatch, rfl⟩
  · rintro ⟨t, host, hhost, hmatch, rfl⟩
    exact ⟨(t, host), List.mem_filter.mpr ⟨Std.ExtTreeMap.mem_toList.mpr hhost, hmatch⟩, rfl⟩

/-- **The list in memory is right exactly when** the transmissions it finds are the expected ones. -/
theorem enumerates_rememberedList_iff : Enumerates s search (rememberedList s search) ↔
    ∀ t host : Bytes, s.transmissionHostIdList[t]? = some host →
      (s.hostMatches search (t, host) = true ↔ Expected s search t) := by
  have hids : ∀ t, t ∈ (rememberedList s search).map TransmissionSnapshot.transmissionId ↔
      ∃ host : Bytes, s.transmissionHostIdList[t]? = some host ∧
        s.hostMatches search (t, host) = true := by
    intro t
    rw [List.mem_map]
    constructor
    · rintro ⟨x, hx, rfl⟩
      obtain ⟨t, host, hhost, hmatch, rfl⟩ := mem_rememberedList.mp hx
      exact ⟨host, hhost, hmatch⟩
    · rintro ⟨host, hhost, hmatch⟩
      exact ⟨_, mem_rememberedList.mpr ⟨t, host, hhost, hmatch, rfl⟩, rfl⟩
  constructor
  · intro henum t host hhost
    rw [← henum.expected t, hids t]
    constructor
    · exact fun hmatch => ⟨host, hhost, hmatch⟩
    · rintro ⟨host', hhost', hmatch⟩
      rw [hhost] at hhost'
      obtain rfl := Option.some.inj hhost'
      exact hmatch
  · intro hall
    refine ⟨?_, ?_, ?_, ?_, ?_⟩
    · rw [rememberedList, List.map_map]
      exact (Std.ExtTreeMap.nodup_toList_keys _).sublist (List.filter_sublist.map Prod.fst)
    · intro t
      rw [hids t]
      constructor
      · rintro ⟨host, hhost, hmatch⟩
        exact (hall t host hhost).mp hmatch
      · intro hexpected
        have hhosted := hexpected
        obtain ⟨host, hhost, _⟩ := hhosted
        exact ⟨host, hhost, (hall t host hhost).mpr hexpected⟩
    · intro x hx
      obtain ⟨t, host, hhost, _, rfl⟩ := mem_rememberedList.mp hx
      exact hhost
    · intro x hx g
      obtain ⟨t, host, hhost, _, rfl⟩ := mem_rememberedList.mp hx
      rfl
    · intro x hx
      obtain ⟨t, host, hhost, _, rfl⟩ := mem_rememberedList.mp hx
      rfl

/-! ## Both -/

/-- **`Agrees` is what the list that is shown needs.** -/
theorem agrees_iff (h : SameSessions s db) : Agrees s db search ↔
    (db.foundTransmissions search).length < 2 ^ 31 ∧
      ((∃ t, Found db search t) → Enumerates s search (persistedList db search)) ∧
      ((∀ t, ¬ Found db search t) → Enumerates s search (rememberedList s search)) := by
  rw [enumerates_persistedList_iff h, enumerates_rememberedList_iff]
  constructor
  · intro hagrees
    exact ⟨hagrees.few, fun hfound => ⟨hagrees.found hfound, hagrees.whole⟩, hagrees.memory⟩
  · rintro ⟨hfew, hfound, hmemory⟩
    exact ⟨hfew, fun h => (hfound h).1, fun t ht => (hfound ⟨t, ht⟩).2 t ht, hmemory⟩

/-- One page with room for everything shows the whole list. -/
theorem slice_whole {α : Type} {l full : List α} {n : Nat}
    (h : ((l.drop 0).take l.length, l.length) = ((full.drop 0).take l.length, n)) (hn : n = full.length) :
    l = full := by
  obtain ⟨hlist, hlength⟩ := Prod.mk.inj h
  rw [List.drop_zero, List.drop_zero, hlength, hn, List.take_length] at hlist
  rwa [show full.length = l.length by omega, List.take_length] at hlist

/-- The overview shows the pages of `full`, those of the database within the range of `sqlite3_int64`. -/
def Shows (s : TransmissionManager) (db : DeviceDB) (search : Bytes) (full : List TransmissionSnapshot) :
    Prop :=
  ∀ limit offset : Nat, (limit < 2 ^ 63 ∧ offset < 2 ^ 63 ∨ ∀ t, ¬ Found db search t) →
    overviewSessions s db limit offset search = ((full.drop offset).take limit, full.length)

/-- The lengths of the pages, for the number `total` that is read. -/
theorem overviewSessions_lengths {limit offset total : Nat}
    (htotal : toSize (columnInt (persistedList db search).length) = total) (hl : limit < 2 ^ 63)
    (ho : offset < 2 ^ 63) {full : List TransmissionSnapshot}
    (h : overviewSessions s db limit offset search = ((full.drop offset).take limit, full.length)) :
    if total = 0 then
      min limit ((persistedList db search).length - offset)
        + min limit ((rememberedList s search).length - offset) = min limit (full.length - offset) ∧
      (rememberedList s search).length = full.length
    else min limit ((persistedList db search).length - offset) = min limit (full.length - offset) ∧
      total = full.length := by
  simp only [overviewSessions, countRemoteControlTransmissions, ← length_persistedList, htotal] at h
  rw [listRemoteControlSessions_page hl ho, getTransmissionSnapshots_page] at h
  by_cases hzero : total = 0
  · rw [if_pos hzero] at h ⊢
    obtain ⟨hlist, hnumber⟩ := Prod.mk.inj h
    have hlengths := congrArg List.length hlist
    rw [List.length_append, List.length_take, List.length_drop, List.length_take, List.length_drop,
      List.length_take, List.length_drop] at hlengths
    exact ⟨hlengths, hnumber⟩
  · rw [if_neg hzero] at h ⊢
    obtain ⟨hlist, hnumber⟩ := Prod.mk.inj h
    have hlengths := congrArg List.length hlist
    rw [List.length_take, List.length_drop, List.length_take, List.length_drop] at hlengths
    exact ⟨hlengths, hnumber⟩

/-- A number that does not fit an `int` is read wrong, and some page shows it. -/
theorem few_of_shows (h : SameSessions s db) {full : List TransmissionSnapshot}
    (hshows : Shows s db search full) : (db.foundTransmissions search).length < 2 ^ 31 := by
  apply Nat.lt_of_not_le
  intro hmany
  have hrows := length_foundTransmissions_le db search
  have hfew := h.few
  rw [← length_persistedList] at hmany hrows
  obtain ⟨total, htotal⟩ : ∃ total, toSize (columnInt (persistedList db search).length) = total :=
    ⟨_, rfl⟩
  have hwrapped := toSize_columnInt_wrapped (persistedList db search).length
  rw [htotal] at hwrapped
  have hpage := fun (limit offset : Nat) (hl : limit < 2 ^ 63) (ho : offset < 2 ^ 63) =>
    overviewSessions_lengths htotal hl ho (hshows limit offset (.inl ⟨hl, ho⟩))
  by_cases hzero : total = 0
  · -- the list in memory comes behind that of the database
    have hone := hpage 1 0 (by decide) (by decide)
    rw [if_pos hzero] at hone
    omega
  · rcases hwrapped with hless | hmore
    · -- a page longer than the number
      have hone := hpage (total + 1) 0 (by omega) (by decide)
      rw [if_neg hzero] at hone
      omega
    · -- a page behind the rows and before the number
      have hone := hpage 1 (persistedList db search).length (by decide) (by omega)
      rw [if_neg hzero] at hone
      omega

theorem shows_iff_agrees (h : SameSessions s db) :
    (∃ full, Enumerates s search full ∧ Shows s db search full) ↔ Agrees s db search := by
  rw [agrees_iff h]
  by_cases hfound : ∃ t, Found db search t
  · have hnot : ¬ ∀ t, ¬ Found db search t := fun hnone => hfound.elim hnone
    constructor
    · rintro ⟨full, henum, hshows⟩
      have hfew := few_of_shows h hshows
      refine ⟨hfew, fun _ => ?_, fun hnone => absurd hnone hnot⟩
      have hl : (persistedList db search).length < 2 ^ 63 := by
        rw [length_persistedList]
        exact hfew.trans (by decide)
      have hpage := hshows _ 0 (.inl ⟨hl, by decide⟩)
      rw [overviewSessions_found hfound hfew, listRemoteControlSessions_page hl (by decide)] at hpage
      rw [slice_whole hpage rfl]
      exact henum
    · rintro ⟨hfew, hright, _⟩
      refine ⟨_, hright hfound, ?_⟩
      intro limit offset hrange
      obtain ⟨hl, ho⟩ := hrange.resolve_right hnot
      rw [overviewSessions_found hfound hfew, listRemoteControlSessions_page hl ho]
  · have hnone : ∀ t, ¬ Found db search t := fun t ht => hfound ⟨t, ht⟩
    constructor
    · rintro ⟨full, henum, hshows⟩
      refine ⟨few_of_shows h hshows, fun h => absurd h hfound, fun _ => ?_⟩
      have hpage := hshows (rememberedList s search).length 0 (.inr hnone)
      rw [overviewSessions_notFound hnone] at hpage
      rw [slice_whole hpage rfl]
      exact henum
    · rintro ⟨_, _, hright⟩
      refine ⟨_, hright hnone, ?_⟩
      intro limit offset _
      exact overviewSessions_notFound hnone limit offset

/-- **Behind the range no page of the database is right**: SQLite takes such an offset for none. -/
theorem not_shown_behind_range (hfew : (db.foundTransmissions search).length < 2 ^ 31)
    (hfound : ∃ t, Found db search t) {limit offset : Nat} (hpos : 0 < limit) (hl : limit < 2 ^ 63)
    (hbehind : 2 ^ 63 ≤ offset) (hbound : offset < 2 ^ 64) (full : List TransmissionSnapshot) :
    overviewSessions s db limit offset search ≠ ((full.drop offset).take limit, full.length) := by
  intro hpage
  have hcast : (toInt64 offset).toNat = 0 := by
    unfold toInt64
    rw [if_neg (by omega)]
    omega
  have hlist : db.listRemoteControlSessions limit offset search
      = (db.sessionGroups search).take limit := by
    rw [listRemoteControlSessions, hcast, toInt64_of_lt hl, limitTo,
      if_neg (Int.not_lt.mpr (Int.natCast_nonneg limit)), Int.toNat_natCast, List.drop_zero]
  rw [overviewSessions_found hfound hfew, hlist] at hpage
  obtain ⟨hshown, hlength⟩ := Prod.mk.inj hpage
  have hshort : full.length ≤ offset := by
    rw [← hlength, length_persistedList]
    omega
  rw [List.drop_eq_nil_of_le hshort, List.take_nil, List.map_eq_nil_iff, List.take_eq_nil_iff] at hshown
  rcases hshown with hzero | hnil
  · omega
  · apply persistedList_ne_nil.mpr hfound
    rw [persistedList, hnil]
    rfl

/-! ## The searches that reach SQLite whole -/

/-- `Agrees` for such a search, in terms of the sessions. -/
structure PlainAgrees (s : TransmissionManager) (db : DeviceDB) (search : Bytes) : Prop where
  few : (db.foundTransmissions search).length < 2 ^ 31
  whole : ∀ t host : Bytes, s.transmissionHostIdList[t]? = some host → Expected s search t →
    ∀ g ∈ s.guestsOf t, g ≠ [] ∧ (44 : UInt8) ∉ g ∧ (containsFolded search t = true ∨
      containsFolded search host = true ∨ containsFolded search g = true)
  memory : (∀ t, ¬ Expected s search t) → ∀ t host : Bytes, s.transmissionHostIdList[t]? = some host →
    s.hostMatches search (t, host) = false

/-- The row of a guest, found or not. -/
theorem SameSessions.found_guest (h : SameSessions s db) (hplain : PlainSearch search) {host g : Bytes}
    (hhost : s.transmissionHostIdList[t]? = some host) (hg : g ∈ s.guestsOf t) :
    (∃ e ∈ db.foundRows search, e.1.transmissionId.val = t ∧ e.1.guestId.val = g) ↔
      (containsFolded search t = true ∨ containsFolded search host = true ∨
        containsFolded search g = true) := by
  constructor
  · rintro ⟨e, he, rfl, rfl⟩
    have hrow := (h.row he).1
    rw [hhost] at hrow
    rw [Option.some.inj hrow]
    exact (searchMatches_iff hplain e).mp (mem_foundRows.mp he).2
  · intro hmatch
    obtain ⟨k, row, hrow, rfl, rfl, rfl⟩ := (h.rows t host g).mpr ⟨hhost, hg⟩
    exact ⟨(k, row), mem_foundRows.mpr ⟨hrow, (searchMatches_iff hplain _).mpr hmatch⟩, rfl, rfl⟩

/-- Such a search finds the expected sessions. -/
theorem SameSessions.found_iff (h : SameSessions s db) (hplain : PlainSearch search) (t : Bytes) :
    Found db search t ↔ Expected s search t := by
  constructor
  · rintro ⟨e, he, rfl⟩
    obtain ⟨hhost, hg⟩ := h.row he
    refine ⟨_, hhost, List.ne_nil_of_mem hg, ?_⟩
    rcases (searchMatches_iff hplain e).mp (mem_foundRows.mp he).2 with ht | hh | hguest
    · exact .inl ht
    · exact .inr (.inl hh)
    · exact .inr (.inr ⟨_, hg, hguest⟩)
  · rintro ⟨host, hhost, hguests, hmatch⟩
    obtain ⟨first, hfirst⟩ := List.exists_mem_of_ne_nil _ hguests
    have hsome : ∃ g ∈ s.guestsOf t, containsFolded search t = true ∨
        containsFolded search host = true ∨ containsFolded search g = true := by
      rcases hmatch with ht | hh | ⟨g, hg, hguest⟩
      · exact ⟨first, hfirst, .inl ht⟩
      · exact ⟨first, hfirst, .inr (.inl hh)⟩
      · exact ⟨g, hg, .inr (.inr hguest)⟩
    obtain ⟨g, hg, hfoundG⟩ := hsome
    obtain ⟨e, he, ht, _⟩ := (h.found_guest hplain hhost hg).mpr hfoundG
    exact ⟨e, he, ht⟩

theorem agrees_iff_plainAgrees (h : SameSessions s db) (hplain : PlainSearch search) :
    Agrees s db search ↔ PlainAgrees s db search := by
  constructor
  · intro hagrees
    refine ⟨hagrees.few, ?_, ?_⟩
    · intro t host hhost hexpected g hg
      obtain ⟨hne, hcomma, hrow⟩ := hagrees.whole t ((h.found_iff hplain t).mpr hexpected) g hg
      exact ⟨hne, hcomma, (h.found_guest hplain hhost hg).mp hrow⟩
    · intro hnone t host hhost
      rw [Bool.eq_false_iff]
      intro hmatch
      have hmemory := hagrees.memory (fun t ht => hnone t ((h.found_iff hplain t).mp ht)) t host hhost
      exact hnone t (hmemory.mp hmatch)
  · intro hagrees
    refine ⟨hagrees.few, ?_, ?_, ?_⟩
    · exact fun _ => h.found_iff hplain
    · intro t ht g hg
      have hexpected := (h.found_iff hplain t).mp ht
      have hhosted := hexpected
      obtain ⟨host, hhost, _⟩ := hhosted
      obtain ⟨hne, hcomma, hmatch⟩ := hagrees.whole t host hhost hexpected g hg
      exact ⟨hne, hcomma, (h.found_guest hplain hhost hg).mpr hmatch⟩
    · intro hnone t host hhost
      have hno : ∀ t, ¬ Expected s search t := fun t ht => hnone t ((h.found_iff hplain t).mpr ht)
      rw [hagrees.memory hno t host hhost]
      exact ⟨fun h => absurd h (by decide), fun hexpected => absurd hexpected (hno t)⟩

/-! ## The searches that do not -/

/-- A search that finds nothing in the database is answered from memory. -/
theorem agrees_iff_of_notFound (hnone : ∀ t, ¬ Found db search t) : Agrees s db search ↔
    ∀ t host : Bytes, s.transmissionHostIdList[t]? = some host →
      (s.hostMatches search (t, host) = true ↔ Expected s search t) := by
  have hfew : db.foundTransmissions search = [] := by
    rw [foundTransmissions, List.dedup_eq_nil, List.map_eq_nil_iff, List.eq_nil_iff_forall_not_mem]
    exact fun e he => hnone _ ⟨e, he, rfl⟩
  constructor
  · exact fun hagrees => hagrees.memory hnone
  · intro hmemory
    refine ⟨?_, fun hfound => absurd hfound (not_exists.mpr hnone), fun t ht => absurd ht (hnone t),
      fun _ => hmemory⟩
    rw [hfew]
    exact (by decide : (0 : Nat) < 2 ^ 31)

/-- **Past the limit of a pattern** the query finds nothing, whatever the sessions are. -/
theorem agrees_iff_of_long (hlong : maxLikePatternLength < (searchPattern search).length) :
    Agrees s db search ↔ ∀ t host : Bytes, s.transmissionHostIdList[t]? = some host →
      (s.hostMatches search (t, host) = true ↔ Expected s search t) := by
  refine agrees_iff_of_notFound ?_
  rintro t ⟨e, he, _⟩
  have hrefused : ∀ column, likeSearch search column = false := by
    intro column
    rw [likeSearch, decide_eq_false (Nat.not_le.mpr hlong), Bool.false_and]
  have hne : search.isEmpty = false := by
    cases search with
    | nil => exact absurd hlong (by decide)
    | cons => rfl
  have hmatch := (mem_foundRows.mp he).2
  rw [searchMatches, hne, hrefused, hrefused, hrefused] at hmatch
  exact absurd hmatch (by decide)

/-- What has a zero byte is contained in no text of a row, so nothing is expected of it. -/
theorem SameSessions.not_expected_of_nul (h : SameSessions s db) (hnul : (0 : UInt8) ∈ search) (t : Bytes) :
    ¬ Expected s search t := by
  have hfolded : (0 : UInt8) ∈ toLower search := List.mem_map.mpr ⟨0, hnul, rfl⟩
  have hnot : ∀ text : SqlText, ¬ containsFolded search text.val = true := by
    intro text hin
    rw [containsFolded, contains_iff] at hin
    obtain ⟨ch, hch, hzero⟩ := List.mem_map.mp (hin.subset hfolded)
    have hch0 : ch = 0 := by
      unfold foldCase at hzero
      split at hzero
      · rename_i hletter
        have hlow := UInt8.le_iff_toNat_le.mp hletter.1
        have hhigh := UInt8.le_iff_toNat_le.mp hletter.2
        have hsum := congrArg UInt8.toNat hzero
        rw [UInt8.toNat_add] at hsum
        change (ch.toNat + 32) % 256 = 0 at hsum
        change 65 ≤ ch.toNat at hlow
        change ch.toNat ≤ 90 at hhigh
        omega
      · exact hzero
    exact text.noNul (hch0 ▸ hch)
  rintro ⟨host, hhost, hguests, hmatch⟩
  have hrow : ∀ g ∈ s.guestsOf t, ¬ containsFolded search t = true ∧ ¬ containsFolded search host = true ∧
      ¬ containsFolded search g = true := by
    intro g hg
    obtain ⟨k, row, _, rfl, rfl, rfl⟩ := (h.rows t host g).mpr ⟨hhost, hg⟩
    exact ⟨hnot _, hnot _, hnot _⟩
  obtain ⟨first, hfirst⟩ := List.exists_mem_of_ne_nil _ hguests
  rcases hmatch with ht | hh | ⟨g, hg, hguest⟩
  · exact (hrow first hfirst).1 ht
  · exact (hrow first hfirst).2.1 hh
  · exact (hrow g hg).2.2 hguest

/-- **With a zero byte in it** the search is right when it shows nothing: no id of a session ends in the part
    before the zero byte, and no hosted transmission has all of it. -/
theorem agrees_iff_of_nul (h : SameSessions s db) (hnul : (0 : UInt8) ∈ search)
    (hshort : (searchPattern search).length ≤ maxLikePatternLength) : Agrees s db search ↔
      (∀ t host : Bytes, s.transmissionHostIdList[t]? = some host → ∀ g ∈ s.guestsOf t,
        ∀ id ∈ [t, host, g], ¬ toLower (cstr search) <:+ toLower id) ∧
      ∀ t host : Bytes, s.transmissionHostIdList[t]? = some host →
        s.hostMatches search (t, host) = false := by
  have hexpected := h.not_expected_of_nul hnul
  have hne : search.isEmpty = false := by
    cases search with
    | nil => exact absurd hnul List.not_mem_nil
    | cons => rfl
  have hmatches : ∀ e : SessionEntry, searchMatches search e = true ↔
      ∃ id ∈ [e.1.transmissionId.val, e.2.hostId.val, e.1.guestId.val],
        toLower (cstr search) <:+ toLower id := by
    intro e
    rw [searchMatches, hne, Bool.false_or, Bool.or_eq_true, Bool.or_eq_true, likeSearch_of_nul hnul hshort,
      likeSearch_of_nul hnul hshort, likeSearch_of_nul hnul hshort]
    simp only [List.mem_cons, List.not_mem_nil, or_false, exists_eq_or_imp, exists_eq_left, or_assoc]
  have hfound : (∀ t, ¬ Found db search t) ↔ ∀ t host : Bytes, s.transmissionHostIdList[t]? = some host →
      ∀ g ∈ s.guestsOf t, ∀ id ∈ [t, host, g], ¬ toLower (cstr search) <:+ toLower id := by
    constructor
    · intro hnone t host hhost g hg id hid hends
      obtain ⟨k, row, hrow, rfl, rfl, rfl⟩ := (h.rows t host g).mpr ⟨hhost, hg⟩
      exact hnone _ ⟨(k, row), mem_foundRows.mpr ⟨hrow, (hmatches _).mpr ⟨id, hid, hends⟩⟩, rfl⟩
    · rintro hnone t ⟨e, he, rfl⟩
      obtain ⟨id, hid, hends⟩ := (hmatches e).mp (mem_foundRows.mp he).2
      exact hnone _ _ (h.row he).1 _ (h.row he).2 id hid hends
  rw [← hfound]
  have hmemory : (∀ t host : Bytes, s.transmissionHostIdList[t]? = some host →
      (s.hostMatches search (t, host) = true ↔ Expected s search t)) ↔
      ∀ t host : Bytes, s.transmissionHostIdList[t]? = some host → s.hostMatches search (t, host) = false := by
    simp only [hexpected, iff_false, Bool.not_eq_true]
  constructor
  · intro hagrees
    have hnone : ∀ t, ¬ Found db search t :=
      fun t ht => hexpected t ((hagrees.found ⟨t, ht⟩ t).mp ht)
    exact ⟨hnone, hmemory.mp (hagrees.memory hnone)⟩
  · rintro ⟨hnone, hall⟩
    exact (agrees_iff_of_notFound hnone).mpr (hmemory.mpr hall)

/-- **When the two session lists agree.** For tables that hold the same sessions, the overview shows the
    pages of a list of just the expected sessions exactly when `Agrees` holds; a page of the database from
    an offset of 64 bits is never right; and for a search without a zero byte, and short enough for a
    pattern, `Agrees` is a condition on the sessions and their number. -/
theorem overviewSessions_exact_iff (h : SameSessions s db) (search : Bytes) :
    ((∃ full, Enumerates s search full ∧ Shows s db search full) ↔ Agrees s db search) ∧
      (Agrees s db search → (∃ t, Found db search t) → ∀ limit offset : Nat, 0 < limit →
        limit < 2 ^ 63 → 2 ^ 63 ≤ offset → offset < 2 ^ 64 → ∀ full : List TransmissionSnapshot,
          overviewSessions s db limit offset search ≠ ((full.drop offset).take limit, full.length)) ∧
      (PlainSearch search → (Agrees s db search ↔ PlainAgrees s db search)) := by
  refine ⟨shows_iff_agrees h, ?_, agrees_iff_plainAgrees h⟩
  intro hagrees hfound limit offset hpos hl hbehind hbound full
  exact not_shown_behind_range hagrees.few hfound hpos hl hbehind hbound full

/-! ## One guest, and two -/

/-- The sessions of the database. -/
def persistedSessions (db : DeviceDB) : List (Bytes × Bytes × Bytes) :=
  db.remoteControlSessions.toList.map fun e => (e.1.transmissionId.val, e.2.hostId.val, e.1.guestId.val)

/-- The sessions in memory. -/
def rememberedSessions (s : TransmissionManager) : List (Bytes × Bytes × Bytes) :=
  s.transmissionHostIdList.toList.flatMap fun pair =>
    (s.guestsOf pair.1).map fun g => (pair.1, pair.2, g)

theorem mem_persistedSessions {host g : Bytes} : (t, host, g) ∈ persistedSessions db ↔
    ∃ (k : SessionKey) (row : SessionRow), db.remoteControlSessions[k]? = some row ∧
      k.transmissionId.val = t ∧ row.hostId.val = host ∧ k.guestId.val = g := by
  rw [persistedSessions, List.mem_map]
  constructor
  · rintro ⟨e, he, heq⟩
    obtain ⟨ht, hrest⟩ := Prod.mk.inj heq
    obtain ⟨hhost, hg⟩ := Prod.mk.inj hrest
    exact ⟨e.1, e.2, Std.ExtTreeMap.mem_toList.mp he, ht, hhost, hg⟩
  · rintro ⟨k, row, hrow, rfl, rfl, rfl⟩
    exact ⟨(k, row), Std.ExtTreeMap.mem_toList.mpr hrow, rfl⟩

theorem mem_rememberedSessions {host g : Bytes} : (t, host, g) ∈ rememberedSessions s ↔
    s.transmissionHostIdList[t]? = some host ∧ g ∈ s.guestsOf t := by
  rw [rememberedSessions, List.mem_flatMap]
  constructor
  · rintro ⟨pair, hpair, hin⟩
    obtain ⟨g', hg', heq⟩ := List.mem_map.mp hin
    obtain ⟨rfl, hrest⟩ := Prod.mk.inj heq
    obtain ⟨rfl, rfl⟩ := Prod.mk.inj hrest
    exact ⟨Std.ExtTreeMap.mem_toList.mp hpair, hg'⟩
  · rintro ⟨hhost, hg⟩
    exact ⟨(t, host), Std.ExtTreeMap.mem_toList.mpr hhost, List.mem_map.mpr ⟨g, hg, rfl⟩⟩

theorem SameSessions.of_lists (hs : s.WellFormed) (hsame : persistedSessions db = rememberedSessions s)
    (hfew : db.remoteControlSessions.size < 2 ^ 63) : SameSessions s db := by
  refine ⟨hs, ?_, hfew⟩
  intro t host g
  rw [← mem_persistedSessions, hsame, mem_rememberedSessions]

section Samples

open SignalServer

/-- A second controller joins the device. -/
def joinedTwice : SignalServer := after sampleDigest joined
  [(.still 8, .message 3 (some (loginMessage (bytes "C-y")))),
    (.still 9, .message 3 (some (joinMessage (bytes "100000000@000000") (bytes "C-y"))))]

/-- Searched by the id of one of its guests, the session is shown without the other. -/
theorem overview_drops_guest : ¬ ∀ s db, SameSessions s db → ∀ search,
    ∃ full, Enumerates s search full ∧ Shows s db search full := by
  intro h
  have hsame : SameSessions joinedTwice.transmission joinedTwice.db :=
    .of_lists (joined_reachable.after _).sound.wellFormed (by decide) (by decide)
  have hplain : PlainSearch (bytes "C-x") := ⟨by decide, by decide⟩
  have hagrees := (agrees_iff_plainAgrees hsame hplain).mp
    ((shows_iff_agrees hsame).mp (h _ _ hsame (bytes "C-x")))
  have hexpected : Expected joinedTwice.transmission (bytes "C-x") (bytes "100000000") :=
    ⟨bytes "100000000", by decide, by decide, .inr (.inr ⟨bytes "C-x", by decide, by decide⟩)⟩
  have hguest := hagrees.whole _ (bytes "100000000") (by decide) hexpected (bytes "C-y") (by decide)
  exact absurd hguest.2.2 (by decide)

/-- With one guest the search shows the session. -/
theorem overview_shows_joined :
    ∃ full, Enumerates joined.transmission (bytes "C-x") full ∧
      Shows joined.transmission joined.db (bytes "C-x") full := by
  have hsame : SameSessions joined.transmission joined.db :=
    .of_lists joined_reachable.sound.wellFormed (by decide) (by decide)
  have hplain : PlainSearch (bytes "C-x") := ⟨by decide, by decide⟩
  obtain ⟨hshows, _, hagrees⟩ := overviewSessions_exact_iff hsame (bytes "C-x")
  refine hshows.mpr ((hagrees hplain).mpr ⟨by decide, ?_, ?_⟩)
  · intro t host hhost _ g hg
    have hall : ∀ x ∈ rememberedSessions joined.transmission, x.2.2 ≠ [] ∧ (44 : UInt8) ∉ x.2.2 ∧
        containsFolded (bytes "C-x") x.2.2 = true := by decide
    obtain ⟨hne, hcomma, hmatch⟩ := hall _ (mem_rememberedSessions.mpr ⟨hhost, hg⟩)
    exact ⟨hne, hcomma, .inr (.inr hmatch)⟩
  · intro hnone
    refine absurd ?_ (hnone (bytes "100000000"))
    exact ⟨bytes "100000000", by decide, by decide, .inr (.inr ⟨bytes "C-x", by decide, by decide⟩)⟩

end Samples

end AdminController
end DeskServer
