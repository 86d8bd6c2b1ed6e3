import DeskServer.Database.Backfill
import DeskServer.Database.Search
import DeskServer.Presence.GeoDistribution
import DeskServer.Server.Agreement

/-!
# `Server.GeoAgreement` — the two distributions

When the database holds the clients that memory holds, with the same information, both versions classify
the same clients, one by one or by group. They return the same distribution unless a client is left out of
the query (`NOT LIKE 'C-%'` ignores the case, so it also drops the ids that start with `c-`), or a text with
a zero byte is stored shorter than it is.

**Shape.** What each version counts is a multiset of classes (`memory_counts`, `database_counts`), and equal
distributions are equal weights of every class (`distribution_eq_iff_classes`). The clients of the two
multisets are then matched one to one, except for those the query leaves out.
-/

namespace DeskServer

open Bytes Tally GeoClass Watched

/-! ## What each version counts -/

/-- The clients in memory. -/
def PresenceManager.clients (p : PresenceManager) : Multiset Bytes :=
  p.onlineDevices.val + p.onlineWebClients.val

/-- What a client counts as in memory. -/
def clientClass (info : Option ClientNetworkInfo) : GeoClass :=
  match info with
  | none => .unknown
  | some info => classify info.country info.region info.location

/-- The texts of a client as they are stored; without information they are empty. -/
def storedKey (info : Option ClientNetworkInfo) : SqlText × SqlText × SqlText :=
  match info with
  | none => (.empty, .empty, .empty)
  | some info => (bindText info.country, bindText info.region, bindText info.location)

/-- What a group counts as. -/
def keyClass (key : SqlText × SqlText × SqlText) : GeoClass :=
  classify key.1.val key.2.1.val key.2.2.val

/-- **The database holds the clients that memory holds**, with the same information. -/
structure SameClients (p : PresenceManager) (deviceNetworkInfo : Std.ExtTreeMap Bytes ClientNetworkInfo)
    (db : DeviceDB) : Prop where
  presence : SamePresence p db
  info : ∀ (d : SqlText) (row : PresenceRow), db.devicePresence[d]? = some row → row.online = 1 →
    p.Counted d.val → DeviceDB.geoKey row = storedKey deviceNetworkInfo[d.val]?

/-- No client is left out, and what is stored counts as what is known. -/
structure CountsAlike (p : PresenceManager) (deviceNetworkInfo : Std.ExtTreeMap Bytes ClientNetworkInfo) :
    Prop where
  noLowerClone : ∀ id, p.Counted id → ¬ startsWith (bytes "c-") id = true
  classes : p.clients.map (fun id => clientClass deviceNetworkInfo[id]?)
    = p.clients.map fun id => keyClass (storedKey deviceNetworkInfo[id]?)

variable {p : PresenceManager} {deviceNetworkInfo : Std.ExtTreeMap Bytes ClientNetworkInfo} {db : DeviceDB}
  {order order' : HashOrder}

/-- In memory one client is added at a time. -/
theorem countClient_eq (acc : GeoCounts) (id : Bytes) :
    PresenceManager.countClient deviceNetworkInfo acc id
      = acc.addClass (clientClass deviceNetworkInfo[id]?) 1 := by
  unfold PresenceManager.countClient clientClass
  cases deviceNetworkInfo[id]? with
  | none => rfl
  | some info => exact GeoCounts.count_eq_addClass acc _ _ _ 1

theorem memory_counts (p : PresenceManager)
    (deviceNetworkInfo : Std.ExtTreeMap Bytes ClientNetworkInfo) (order : HashOrder) :
    ((order.ids p.onlineDevices ++ order.ids p.onlineWebClients).foldl
        (PresenceManager.countClient deviceNetworkInfo) GeoCounts.empty).Counts
      (((order.ids p.onlineDevices ++ order.ids p.onlineWebClients).map fun id =>
        clientClass deviceNetworkInfo[id]?).map fun c => (c, 1)) := by
  rw [List.map_map]
  exact GeoCounts.counts_run (fun id => (clientClass deviceNetworkInfo[id]?, 1))
    fun id _ => ⟨Nat.one_pos, fun acc => countClient_eq acc id⟩

/-- From the database one group is. -/
theorem countGroup_eq (acc : GeoCounts) (group : (SqlText × SqlText × SqlText) × Nat) :
    DeviceDB.countGroup acc group = acc.addClass (keyClass group.1) group.2 :=
  GeoCounts.count_eq_addClass acc _ _ _ _

/-- The query is added a group at a time. -/
theorem database_counts (db : DeviceDB) : (db.geoGroups.foldl DeviceDB.countGroup GeoCounts.empty).Counts
    (db.geoGroups.map fun group => (keyClass group.1, group.2)) := by
  have hpos : ∀ group ∈ db.geoGroups, 0 < group.2 := by
    intro group hgroup
    obtain ⟨key, hkey, rfl⟩ := List.mem_map.mp hgroup
    exact List.count_pos_iff.mpr (List.mem_dedup.mp hkey)
  have hstep : ∀ group ∈ db.geoGroups, 0 < group.2 ∧
      ∀ acc, DeviceDB.countGroup acc group = GeoCounts.addClass acc (keyClass group.1) group.2 :=
    fun group hgroup => ⟨hpos group hgroup, fun acc => countGroup_eq acc group⟩
  exact GeoCounts.counts_run _ hstep

/-- The classes of the rows of the query. -/
def rowClasses (db : DeviceDB) : Multiset GeoClass :=
  Multiset.ofList (db.geoRows.map fun e => keyClass (DeviceDB.geoKey e.2))

/-- The groups of a class have as many members as there are rows of the class. -/
theorem weightOf_geoGroups (db : DeviceDB) (c : GeoClass) :
    weightOf (· == c) (db.geoGroups.map fun group => (keyClass group.1, group.2))
      = (rowClasses db).count c := by
  unfold DeviceDB.geoGroups rowClasses
  rw [List.map_map, Multiset.coe_count, List.count, List.countP_map]
  have hgroups := weightOf_groups (p := (· == c)) keyClass (db.geoRows.map fun e => DeviceDB.geoKey e.2)
  rw [List.countP_map] at hgroups
  exact hgroups

/-- **The two versions agree exactly when they count the same classes.** -/
theorem distribution_eq_iff_classes :
    p.getClientGeoDistribution deviceNetworkInfo order = db.getClientGeoDistribution order' ↔
      p.clients.map (fun id => clientClass deviceNetworkInfo[id]?) = rowClasses db := by
  unfold PresenceManager.getClientGeoDistribution DeviceDB.getClientGeoDistribution
  rw [(memory_counts p deviceNetworkInfo order).distribution_eq_iff (database_counts db), Multiset.ext]
  refine forall_congr' fun c => ?_
  have hclients : p.clients = Multiset.ofList (order.ids p.onlineDevices ++ order.ids p.onlineWebClients) := by
    rw [PresenceManager.clients, ← Multiset.coe_add, order.ids_val, order.ids_val]
  rw [weightOf_geoGroups, weightOf_ones, hclients, Multiset.map_coe, Multiset.coe_count]
  rfl

/-! ## The same clients -/

theorem PresenceManager.mem_clients {id : Bytes} : id ∈ p.clients ↔ p.Counted id := by
  rw [PresenceManager.clients, Multiset.mem_add, Finset.mem_val, Finset.mem_val, PresenceManager.Counted]

/-- The kinds of id that memory counts. -/
theorem tracked_or_web_iff (id : Bytes) : (PresenceManager.shouldTrackOnlineDevice id = true ∨
    PresenceManager.isWebClient id = true) ↔ ¬ startsWith (bytes "C-") id = true := by
  unfold PresenceManager.shouldTrackOnlineDevice PresenceManager.isCloneClient
  constructor
  · rintro (htracked | hweb) hclone
    · rw [hclone] at htracked
      exact absurd htracked (by simp)
    · rw [PresenceManager.isWebClient, startsWith_iff] at hweb
      rw [startsWith_iff] at hclone
      exact absurd (List.prefix_of_prefix_length_le hclone hweb (by decide)) (by decide)
  · intro hclone
    by_cases hweb : PresenceManager.isWebClient id = true
    · exact .inr hweb
    · exact .inl (by simp [hweb, hclone])

/-- The clients that memory counts are the online rows of no clone. -/
theorem SameClients.counted_iff (h : SameClients p deviceNetworkInfo db) (id : Bytes) :
    p.Counted id ↔ ∃ (d : SqlText) (row : PresenceRow), db.devicePresence[d]? = some row ∧
      row.online = 1 ∧ d.val = id ∧ ¬ startsWith (bytes "C-") id = true := by
  rw [PresenceManager.Counted, h.presence.devices, h.presence.webClients, DeviceDB.mem_countedIds, DeviceDB.mem_countedIds,
    ← tracked_or_web_iff]
  constructor
  · rintro (⟨d, row, hrow, hclause, rfl⟩ | ⟨d, row, hrow, hclause, rfl⟩)
    · obtain ⟨honline, hkind⟩ := Bool.and_eq_true_iff.mp hclause
      exact ⟨d, row, hrow, beq_iff_eq.mp honline, rfl, .inl hkind⟩
    · obtain ⟨honline, hkind⟩ := Bool.and_eq_true_iff.mp hclause
      exact ⟨d, row, hrow, beq_iff_eq.mp honline, rfl, .inr hkind⟩
  · rintro ⟨d, row, hrow, honline, rfl, hkind | hkind⟩
    · exact .inl ⟨d, row, hrow, Bool.and_eq_true_iff.mpr ⟨beq_iff_eq.mpr honline, hkind⟩, rfl⟩
    · exact .inr ⟨d, row, hrow, Bool.and_eq_true_iff.mpr ⟨beq_iff_eq.mpr honline, hkind⟩, rfl⟩

/-- The rows of the query. -/
theorem mem_geoRows {e : SqlText × PresenceRow} : e ∈ db.geoRows ↔ db.devicePresence[e.1]? = some e.2 ∧
    e.2.online = 1 ∧ ¬ startsWith (bytes "C-") e.1.val = true ∧ ¬ startsWith (bytes "c-") e.1.val = true := by
  rw [DeviceDB.geoRows, List.mem_filter, Std.ExtTreeMap.mem_toList, Bool.and_eq_true, beq_iff_eq,
    likeId_clone_eq, Bool.not_eq_true', ← Bool.not_eq_true, likeClone_iff, not_or]

theorem nodup_geoRows_ids (db : DeviceDB) : (db.geoRows.map fun e => e.1.val).Nodup := by
  have hkeys : (db.geoRows.map Prod.fst).Nodup :=
    (Std.ExtTreeMap.nodup_toList_keys db.devicePresence).sublist (List.filter_sublist.map Prod.fst)
  have hvals := hkeys.map fun _ _ => SqlText.ext
  rwa [List.map_map] at hvals

theorem SameClients.nodup_clients (h : SameClients p deviceNetworkInfo db) : p.clients.Nodup := by
  refine Multiset.nodup_add.mpr ⟨p.onlineDevices.nodup, p.onlineWebClients.nodup, ?_⟩
  refine Multiset.disjoint_left.mpr fun {id} hdevice hweb => ?_
  rw [Finset.mem_val, h.presence.devices, DeviceDB.mem_countedIds] at hdevice
  rw [Finset.mem_val, h.presence.webClients, DeviceDB.mem_countedIds] at hweb
  obtain ⟨d, _, _, hclause, rfl⟩ := hdevice
  obtain ⟨d', _, _, hclause', hval⟩ := hweb
  have htracked := (Bool.and_eq_true_iff.mp hclause).2
  have hwebClient := (Bool.and_eq_true_iff.mp hclause').2
  rw [hval, PresenceManager.not_webClient_of_tracked htracked] at hwebClient
  exact Bool.false_ne_true hwebClient

/-- The query leaves out the clients whose id starts with `c-`. -/
theorem SameClients.geoRows_ids (h : SameClients p deviceNetworkInfo db) :
    Multiset.ofList (db.geoRows.map fun e => e.1.val)
      = p.clients.filter fun id => ¬ startsWith (bytes "c-") id = true := by
  refine (Multiset.Nodup.ext (Multiset.coe_nodup.mpr (nodup_geoRows_ids db)) (h.nodup_clients.filter _)).mpr fun id => ?_
  rw [Multiset.mem_coe, Multiset.mem_filter, PresenceManager.mem_clients, h.counted_iff, List.mem_map]
  constructor
  · rintro ⟨e, he, rfl⟩
    obtain ⟨hrow, honline, hupper, hlower⟩ := mem_geoRows.mp he
    exact ⟨⟨e.1, e.2, hrow, honline, rfl, hupper⟩, hlower⟩
  · rintro ⟨⟨d, row, hrow, honline, rfl, hupper⟩, hlower⟩
    exact ⟨(d, row), mem_geoRows.mpr ⟨hrow, honline, hupper, hlower⟩, rfl⟩

/-- What is left counts as it is stored. -/
theorem SameClients.rowClasses_eq (h : SameClients p deviceNetworkInfo db) : rowClasses db
    = (p.clients.filter fun id => ¬ startsWith (bytes "c-") id = true).map fun id =>
        keyClass (storedKey deviceNetworkInfo[id]?) := by
  rw [← h.geoRows_ids, Multiset.map_coe, List.map_map]
  refine congrArg Multiset.ofList (List.map_congr_left fun e he => ?_)
  obtain ⟨hrow, honline, hupper, _⟩ := mem_geoRows.mp he
  have hcounted : p.Counted e.1.val := (h.counted_iff _).mpr ⟨e.1, e.2, hrow, honline, rfl, hupper⟩
  rw [h.info e.1 e.2 hrow honline hcounted]
  rfl

/-- **When the two versions agree**, the same clients given. -/
theorem SameClients.distribution_eq_iff (h : SameClients p deviceNetworkInfo db) :
    p.getClientGeoDistribution deviceNetworkInfo order = db.getClientGeoDistribution order' ↔
      CountsAlike p deviceNetworkInfo := by
  rw [distribution_eq_iff_classes, h.rowClasses_eq]
  constructor
  · intro heq
    have hcard := congrArg Multiset.card heq
    rw [Multiset.card_map, Multiset.card_map] at hcard
    have hall := Multiset.eq_of_le_of_card_le (Multiset.filter_le _ p.clients) hcard.le
    rw [hall] at heq
    refine ⟨fun id hid => ?_, heq⟩
    exact Multiset.filter_eq_self.mp hall id (PresenceManager.mem_clients.mpr hid)
  · intro hcond
    rw [Multiset.filter_eq_self.mpr fun id hid => hcond.noLowerClone id (PresenceManager.mem_clients.mp hid)]
    exact hcond.classes

/-- **Where the clients are.** Both distributions are partitions, whatever is online and whatever is known of
    it. On the same clients they are equal exactly when the query leaves out no client and each class has
    as many clients stored as known. -/
theorem geoDistribution_exact (p : PresenceManager)
    (deviceNetworkInfo : Std.ExtTreeMap Bytes ClientNetworkInfo) (db : DeviceDB) (order order' : HashOrder) :
    (p.getClientGeoDistribution deviceNetworkInfo order).Partition ∧
      (db.getClientGeoDistribution order').Partition ∧
      (SameClients p deviceNetworkInfo db →
        (p.getClientGeoDistribution deviceNetworkInfo order = db.getClientGeoDistribution order' ↔
          CountsAlike p deviceNetworkInfo)) :=
  ⟨(memory_counts p deviceNetworkInfo order).partition order, (database_counts db).partition order',
    fun h => h.distribution_eq_iff⟩

/-! ## Two logins -/

section Samples

instance : Std.Antisymm byteLE :=
  ⟨fun _ _ hab hba => Std.LawfulEqCmp.eq_of_compare (Std.OrientedCmp.isLE_antisymm hab hba)⟩

/-- Elements in the order of their names. -/
def HashOrder.byName : HashOrder where
  entries counts := counts.toList
  ids s := s.sort byteLE
  entries_perm _ := .refl _
  ids_val s := s.sort_eq byteLE

/-- What a lookup finds for a client in Zhejiang. -/
def zhejiang : ClientNetworkInfo :=
  ⟨bytes "198.51.100.10", bytes "China", bytes "Zhejiang", bytes "Hangzhou", bytes "Hangzhou, Zhejiang, China"⟩

/-- One client online, with its information in memory and in the database. -/
def onlyClient (id : Bytes) : PresenceManager × Std.ExtTreeMap Bytes ClientNetworkInfo × DeviceDB :=
  let announced := PresenceManager.empty.onLogin DeviceDB.newFile 1 id
  (announced.presence, (∅ : Std.ExtTreeMap Bytes ClientNetworkInfo).insert id zhejiang,
    (announced.db.updateDeviceNetworkInfo 2 id zhejiang).2)

theorem SameClients.of_rows (hdevices : p.onlineDevices = db.countedIds fun e =>
      e.2.online == 1 && PresenceManager.shouldTrackOnlineDevice e.1.val)
    (hwebs : p.onlineWebClients = db.countedIds fun e =>
      e.2.online == 1 && PresenceManager.isWebClient e.1.val)
    (hinfo : ∀ e ∈ db.devicePresence.toList, DeviceDB.geoKey e.2 = storedKey deviceNetworkInfo[e.1.val]?) :
    SameClients p deviceNetworkInfo db :=
  ⟨⟨hdevices, hwebs⟩, fun d row hrow _ _ => hinfo (d, row) (Std.ExtTreeMap.mem_toList.mpr hrow)⟩

theorem CountsAlike.of_sets
    (hdevices : ∀ id ∈ p.onlineDevices, ¬ startsWith (bytes "c-") id = true)
    (hwebs : ∀ id ∈ p.onlineWebClients, ¬ startsWith (bytes "c-") id = true)
    (hclasses : p.clients.map (fun id => clientClass deviceNetworkInfo[id]?)
      = p.clients.map fun id => keyClass (storedKey deviceNetworkInfo[id]?)) :
    CountsAlike p deviceNetworkInfo :=
  ⟨fun id hid => hid.elim (hdevices id) (hwebs id), hclasses⟩

/-- A client with the id `c-C-1` is counted in memory and not by the query. -/
theorem lowerClone_left_out : ¬ ∀ (p : PresenceManager)
    (deviceNetworkInfo : Std.ExtTreeMap Bytes ClientNetworkInfo) (db : DeviceDB) (order order' : HashOrder),
    SameClients p deviceNetworkInfo db →
      p.getClientGeoDistribution deviceNetworkInfo order = db.getClientGeoDistribution order' := by
  intro h
  have hsame : SameClients (onlyClient (bytes "c-C-1")).1 (onlyClient (bytes "c-C-1")).2.1
      (onlyClient (bytes "c-C-1")).2.2 := .of_rows (by decide) (by decide) (by decide)
  have hclasses := distribution_eq_iff_classes.mp (h _ _ _ .byName .byName hsame)
  have hcard := congrArg Multiset.card hclasses
  exact absurd hcard (by decide)

/-- A web client counts alike in both. -/
theorem webClient_counted : (onlyClient (bytes "web-2")).1.getClientGeoDistribution
      (onlyClient (bytes "web-2")).2.1 .byName
    = (onlyClient (bytes "web-2")).2.2.getClientGeoDistribution .byName :=
  ((geoDistribution_exact _ _ _ .byName .byName).2.2
    (.of_rows (by decide) (by decide) (by decide))).mpr (.of_sets (by decide) (by decide) (by decide))

end Samples

end DeskServer
