import DeskServer.Lib.Tally
import DeskServer.Database.Counts
import DeskServer.Presence.Manager

/-!
# `Presence.GeoDistribution` — where the clients are

`GetClientGeoDistribution` exists twice. The presence manager classifies its clients one by one; the
database groups the rows by the texts that are classified, and classifies every group once with its size.
Both accumulate into counters and two hash maps, and list the maps by count. Whatever is counted, the
result is a partition: `Counts` says what the accumulators hold of the classes that were added, and each
step keeps it.

**Shape.** Both versions are runs over lists of classes with weights (`counts_run`), one with every weight one
and the other with the sizes of the groups, so everything about the result is proved once, for weights. That
the two lists describe the same clients is `Server.GeoAgreement`.
-/

namespace DeskServer

open Bytes Tally

/-! ## The classifier -/

/-- `std::isspace`, in the C locale. -/
def isSpace (ch : UInt8) : Bool := ch == 32 || (9 ≤ ch && ch ≤ 13)

def trim (value : Bytes) : Bytes := (value.dropWhile isSpace).rdropWhile isSpace

def isChinaCountry (country : Bytes) : Bool :=
  let normalized := toLower (trim country)
  normalized == bytes "china" || normalized == bytes "cn" || contains (bytes "中国") country

def matchers : List (String × List String) :=
  [("anhui", ["anhui", "安徽"]),
    ("beijing", ["beijing", "北京"]),
    ("chongqing", ["chongqing", "重庆"]),
    ("fujian", ["fujian", "福建"]),
    ("gansu", ["gansu", "甘肃"]),
    ("guangdong", ["guangdong", "广东"]),
    ("guangxi", ["guangxi", "广西"]),
    ("guizhou", ["guizhou", "贵州"]),
    ("hainan", ["hainan", "海南"]),
    ("hebei", ["hebei", "河北"]),
    ("heilongjiang", ["heilongjiang", "黑龙江"]),
    ("henan", ["henan", "河南"]),
    ("hongkong", ["hong kong", "hongkong", "香港"]),
    ("hubei", ["hubei", "湖北"]),
    ("hunan", ["hunan", "湖南"]),
    ("inner_mongolia", ["inner mongolia", "neimenggu", "内蒙古"]),
    ("jiangsu", ["jiangsu", "江苏"]),
    ("jiangxi", ["jiangxi", "江西"]),
    ("jilin", ["jilin", "吉林"]),
    ("liaoning", ["liaoning", "辽宁"]),
    ("macau", ["macau", "macao", "澳门"]),
    ("ningxia", ["ningxia", "宁夏"]),
    ("qinghai", ["qinghai", "青海"]),
    ("shaanxi", ["shaanxi", "shanxi sheng", "陕西"]),
    ("shandong", ["shandong", "山东"]),
    ("shanghai", ["shanghai", "上海"]),
    ("shanxi", ["shanxi", "山西"]),
    ("sichuan", ["sichuan", "四川"]),
    ("taiwan", ["taiwan", "台湾"]),
    ("tianjin", ["tianjin", "天津"]),
    ("tibet", ["tibet", "xizang", "西藏"]),
    ("xinjiang", ["xinjiang", "新疆"]),
    ("yunnan", ["yunnan", "云南"]),
    ("zhejiang", ["zhejiang", "浙江"])]

/-- The first province with a pattern in the text, as it is or in lower case. -/
def normalizeChinaProvince (region location : Bytes) : Bytes :=
  let text := region ++ bytes " " ++ location
  let value := toLower text
  match matchers.find? fun matcher => matcher.2.any fun pattern =>
      contains (bytes pattern) value || contains (bytes pattern) text with
  | some matcher => bytes matcher.1
  | none => []

/-! ## The counters -/

/-- `ProvinceUserCount` and `CountryUserCount` are a name with a count. -/
@[ext]
structure ClientGeoDistribution where
  totalCount : Nat
  domesticCount : Nat
  foreignCount : Nat
  unknownCount : Nat
  provinces : List (Bytes × Nat)
  countries : List (Bytes × Nat)
deriving DecidableEq

/-- The variables of the loop. -/
structure GeoCounts where
  totalCount : Nat
  domesticCount : Nat
  foreignCount : Nat
  unknownCount : Nat
  provinceCounts : Std.ExtTreeMap Bytes Nat
  countryCounts : Std.ExtTreeMap Bytes Nat

/-- **The order in which a hash container gives its elements.** Nothing is known about it. -/
structure HashOrder where
  entries : Std.ExtTreeMap Bytes Nat → List (Bytes × Nat)
  ids : Finset Bytes → List Bytes
  entries_perm : ∀ counts, (entries counts).Perm counts.toList
  ids_val : ∀ s, Multiset.ofList (ids s) = s.val

namespace GeoCounts

def empty : GeoCounts := ⟨0, 0, 0, 0, ∅, ∅⟩

/-- The body of the loop, for `count` clients with these texts. -/
def count (acc : GeoCounts) (country region location : Bytes) (count : Nat) : GeoCounts :=
  let acc := { acc with totalCount := acc.totalCount + count }
  let province := normalizeChinaProvince region location
  let country := trim country
  if province ≠ [] then
    { acc with
      domesticCount := acc.domesticCount + count
      provinceCounts := add acc.provinceCounts province count }
  else if isChinaCountry country then { acc with domesticCount := acc.domesticCount + count }
  else if country ≠ [] then
    { acc with
      foreignCount := acc.foreignCount + count
      countryCounts := add acc.countryCounts country count }
  else { acc with unknownCount := acc.unknownCount + count }

/-- What follows the loop: both maps as they come out, sorted. -/
def distribution (acc : GeoCounts) (order : HashOrder) : ClientGeoDistribution where
  totalCount := acc.totalCount
  domesticCount := acc.domesticCount
  foreignCount := acc.foreignCount
  unknownCount := acc.unknownCount
  provinces := Paging.sortBy (rank compare) (order.entries acc.provinceCounts)
  countries := Paging.sortBy (rank compare) (order.entries acc.countryCounts)

end GeoCounts

namespace PresenceManager

/-- The body of the loop over the clients; a client without information is unknown. -/
def countClient (deviceNetworkInfo : Std.ExtTreeMap Bytes ClientNetworkInfo) (acc : GeoCounts)
    (deviceId : Bytes) : GeoCounts :=
  match deviceNetworkInfo[deviceId]? with
  | none => { acc with totalCount := acc.totalCount + 1, unknownCount := acc.unknownCount + 1 }
  | some info => acc.count info.country info.region info.location 1

/-- The devices, then the web clients; `device_network_info_` is passed along. -/
def getClientGeoDistribution (p : PresenceManager)
    (deviceNetworkInfo : Std.ExtTreeMap Bytes ClientNetworkInfo) (order : HashOrder) :
    ClientGeoDistribution :=
  let onlineDevices := order.ids p.onlineDevices ++ order.ids p.onlineWebClients
  (onlineDevices.foldl (countClient deviceNetworkInfo) GeoCounts.empty).distribution order

end PresenceManager

namespace DeviceDB

/-- `geo_country, geo_region, geo_location`. -/
def geoKey (row : PresenceRow) : SqlText × SqlText × SqlText :=
  (row.geoCountry, row.geoRegion, row.geoLocation)

/-- `WHERE online = 1 AND device_id NOT LIKE 'C-%'`. -/
def geoRows (db : DeviceDB) : List (SqlText × PresenceRow) :=
  db.devicePresence.toList.filter fun e => e.2.online == 1 && !likeId "C-%" e.1

/-- `SELECT …, COUNT(*) … GROUP BY geo_country, geo_region, geo_location`. -/
def geoGroups (db : DeviceDB) : List ((SqlText × SqlText × SqlText) × Nat) :=
  let keys := db.geoRows.map fun e => geoKey e.2
  keys.dedup.map fun key => (key, keys.count key)

/-- The body of the loop over the result rows. -/
def countGroup (acc : GeoCounts) (group : (SqlText × SqlText × SqlText) × Nat) : GeoCounts :=
  acc.count group.1.1.val group.1.2.1.val group.1.2.2.val group.2

def getClientGeoDistribution (db : DeviceDB) (order : HashOrder) : ClientGeoDistribution :=
  (db.geoGroups.foldl countGroup GeoCounts.empty).distribution order

end DeviceDB

/-! ## Classes -/

/-- What a client counts as. -/
inductive GeoClass where
  | province (name : Bytes)
  | domestic
  | foreign (country : Bytes)
  | unknown
deriving DecidableEq

namespace GeoClass

/-- The branch of the loop that the texts take. -/
def classify (country region location : Bytes) : GeoClass :=
  if normalizeChinaProvince region location ≠ [] then
    .province (normalizeChinaProvince region location)
  else if isChinaCountry (trim country) then .domestic
  else if trim country ≠ [] then .foreign (trim country)
  else .unknown

def isProvince : GeoClass → Bool
  | .province _ => true
  | _ => false

def isDomestic : GeoClass → Bool
  | .province _ | .domestic => true
  | _ => false

def isForeign : GeoClass → Bool
  | .foreign _ => true
  | _ => false

end GeoClass

open GeoClass

namespace GeoCounts

/-- Adding to a class. -/
def addClass (acc : GeoCounts) (c : GeoClass) (n : Nat) : GeoCounts :=
  let acc := { acc with totalCount := acc.totalCount + n }
  match c with
  | .province name =>
    { acc with
      domesticCount := acc.domesticCount + n
      provinceCounts := add acc.provinceCounts name n }
  | .domestic => { acc with domesticCount := acc.domesticCount + n }
  | .foreign country =>
    { acc with
      foreignCount := acc.foreignCount + n
      countryCounts := add acc.countryCounts country n }
  | .unknown => { acc with unknownCount := acc.unknownCount + n }

/-- The loop counts by class. -/
theorem count_eq_addClass (acc : GeoCounts) (country region location : Bytes) (n : Nat) :
    acc.count country region location n = acc.addClass (classify country region location) n := by
  unfold count classify
  dsimp only
  split
  · rfl
  · split
    · rfl
    · split <;> rfl

/-- **What the accumulators hold** of the classes that were added: the weight of each class, and what the
    maps add up to. -/
structure Counts (acc : GeoCounts) (l : List (GeoClass × Nat)) : Prop where
  total : acc.totalCount = weightOf (fun _ => true) l
  domestic : acc.domesticCount = weightOf isDomestic l
  foreign : acc.foreignCount = weightOf isForeign l
  unknown : acc.unknownCount = weightOf (· == .unknown) l
  provinces : Holds acc.provinceCounts fun name => weightOf (· == .province name) l
  countries : Holds acc.countryCounts fun country => weightOf (· == .foreign country) l
  provinceTotal : Tally.total acc.provinceCounts = weightOf isProvince l
  countryTotal : Tally.total acc.countryCounts = weightOf isForeign l

theorem counts_empty : empty.Counts [] :=
  ⟨rfl, rfl, rfl, rfl, holds_empty, holds_empty, total_empty, total_empty⟩

variable {acc acc' : GeoCounts} {l l' : List (GeoClass × Nat)}

/-- A map of one kind of class, after a weight for that kind. -/
theorem holds_snoc_same {counts : Std.ExtTreeMap Bytes Nat} {kind : Bytes → GeoClass}
    (hkind : Function.Injective kind) (h : Holds counts fun name => weightOf (· == kind name) l) {n : Nat}
    (hn : 0 < n) (name : Bytes) : Holds (add counts name n)
      fun a => weightOf (· == kind a) (l ++ [(kind name, n)]) := by
  have hadd := h.add hn name
  simp only [weightOf_snoc]
  convert hadd using 4 with a
  rw [beq_iff_eq]
  exact hkind.eq_iff

/-- And after a weight for another one. -/
theorem holds_snoc_other {counts : Std.ExtTreeMap Bytes Nat} {kind : Bytes → GeoClass} {c : GeoClass}
    (hkind : ∀ name, c ≠ kind name) (h : Holds counts fun name => weightOf (· == kind name) l) (n : Nat) :
    Holds counts fun a => weightOf (· == kind a) (l ++ [(c, n)]) := by
  simp only [weightOf_snoc, beq_eq_false_iff_ne.mpr (hkind _)]
  exact h

/-- **A step adds its class**, one case for each. -/
theorem Counts.addClass (h : acc.Counts l) (c : GeoClass) {n : Nat} (hn : 0 < n) :
    (acc.addClass c n).Counts (l ++ [(c, n)]) := by
  cases c with
  | province name => exact
      { total := add_counted rfl h.total
        domestic := add_counted rfl h.domestic
        foreign := not_counted rfl h.foreign
        unknown := not_counted rfl h.unknown
        provinces := holds_snoc_same (fun _ _ => GeoClass.province.inj) h.provinces hn name
        countries := holds_snoc_other (fun _ => GeoClass.noConfusion) h.countries n
        provinceTotal := (total_add name n).trans (add_counted rfl h.provinceTotal)
        countryTotal := not_counted rfl h.countryTotal }
  | domestic => exact
      { total := add_counted rfl h.total
        domestic := add_counted rfl h.domestic
        foreign := not_counted rfl h.foreign
        unknown := not_counted rfl h.unknown
        provinces := holds_snoc_other (fun _ => GeoClass.noConfusion) h.provinces n
        countries := holds_snoc_other (fun _ => GeoClass.noConfusion) h.countries n
        provinceTotal := not_counted rfl h.provinceTotal
        countryTotal := not_counted rfl h.countryTotal }
  | foreign country => exact
      { total := add_counted rfl h.total
        domestic := not_counted rfl h.domestic
        foreign := add_counted rfl h.foreign
        unknown := not_counted rfl h.unknown
        provinces := holds_snoc_other (fun _ => GeoClass.noConfusion) h.provinces n
        countries := holds_snoc_same (fun _ _ => GeoClass.foreign.inj) h.countries hn country
        provinceTotal := not_counted rfl h.provinceTotal
        countryTotal := (total_add country n).trans (add_counted rfl h.countryTotal) }
  | unknown => exact
      { total := add_counted rfl h.total
        domestic := not_counted rfl h.domestic
        foreign := not_counted rfl h.foreign
        unknown := add_counted rfl h.unknown
        provinces := holds_snoc_other (fun _ => GeoClass.noConfusion) h.provinces n
        countries := holds_snoc_other (fun _ => GeoClass.noConfusion) h.countries n
        provinceTotal := not_counted rfl h.provinceTotal
        countryTotal := not_counted rfl h.countryTotal }

/-- **A run adds the classes it visits**, by induction on them. -/
theorem Counts.foldl (h : acc.Counts l) {δ : Type} {step : GeoCounts → δ → GeoCounts}
    (entry : δ → GeoClass × Nat) {visited : List δ} (hstep : ∀ x ∈ visited, 0 < (entry x).2 ∧
      ∀ acc, step acc x = GeoCounts.addClass acc (entry x).1 (entry x).2) :
    (visited.foldl step acc).Counts (l ++ visited.map entry) := by
  induction visited generalizing acc l with
  | nil =>
      rw [List.map_nil, List.append_nil]
      exact h
  | cons x visited ih =>
      obtain ⟨hpos, hadd⟩ := hstep x List.mem_cons_self
      have hnext := h.addClass (entry x).1 hpos
      rw [← hadd] at hnext
      have hrest := ih hnext fun y hy => hstep y (List.mem_cons_of_mem x hy)
      rw [List.append_assoc] at hrest
      exact hrest

/-- A run from the start holds what it visited. -/
theorem counts_run {δ : Type} {step : GeoCounts → δ → GeoCounts} (entry : δ → GeoClass × Nat)
    {visited : List δ} (hstep : ∀ x ∈ visited, 0 < (entry x).2 ∧
      ∀ acc, step acc x = GeoCounts.addClass acc (entry x).1 (entry x).2) :
    (visited.foldl step empty).Counts (visited.map entry) := by
  have hrun := counts_empty.foldl entry hstep
  rwa [List.nil_append] at hrun

/-! ## The result of a run -/

/-- The order of the hash maps does not show. -/
theorem distribution_provinces (acc : GeoCounts) (order : HashOrder) :
    (acc.distribution order).provinces = ranking acc.provinceCounts :=
  sort_eq_ranking (order.entries_perm _)

theorem distribution_countries (acc : GeoCounts) (order : HashOrder) :
    (acc.distribution order).countries = ranking acc.countryCounts :=
  sort_eq_ranking (order.entries_perm _)

end GeoCounts

/-- Strictly before in a list: more clients, or as many and an earlier name. -/
def ListedBefore (a b : Bytes × Nat) : Prop := b.2 < a.2 ∨ (b.2 = a.2 ∧ compare a.1 b.1 = .lt)

/-- **A distribution is a partition** of its clients, listed in order. -/
structure ClientGeoDistribution.Partition (d : ClientGeoDistribution) : Prop where
  total : d.totalCount = d.domesticCount + d.foreignCount + d.unknownCount
  provinceSum : (d.provinces.map Prod.snd).sum ≤ d.domesticCount
  countrySum : (d.countries.map Prod.snd).sum = d.foreignCount
  provincesPositive : ∀ e ∈ d.provinces, 0 < e.2
  countriesPositive : ∀ e ∈ d.countries, 0 < e.2
  provincesDistinct : (d.provinces.map Prod.fst).Nodup
  countriesDistinct : (d.countries.map Prod.fst).Nodup
  provincesOrdered : d.provinces.Pairwise ListedBefore
  countriesOrdered : d.countries.Pairwise ListedBefore

namespace GeoCounts

variable {acc acc' : GeoCounts} {l l' : List (GeoClass × Nat)} {order order' : HashOrder}

/-- The domestic clients are those of a province and those of none. -/
theorem weightOf_isDomestic (l : List (GeoClass × Nat)) :
    weightOf isDomestic l = weightOf isProvince l + weightOf (· == .domestic) l := by
  refine weightOf_split (fun c => ?_) fun c => ?_
  all_goals cases c <;> rfl

/-- Every client is domestic, foreign or unknown. -/
theorem weightOf_true (l : List (GeoClass × Nat)) : weightOf (fun _ => true) l
    = weightOf isDomestic l + weightOf isForeign l + weightOf (· == .unknown) l := by
  have hknown : weightOf (fun c => isDomestic c || isForeign c) l
      = weightOf isDomestic l + weightOf isForeign l := by
    refine weightOf_split (fun c => ?_) fun c => ?_
    all_goals cases c <;> rfl
  rw [← hknown]
  refine weightOf_split (fun c => ?_) fun c => ?_
  all_goals cases c <;> rfl

/-- **Whatever was counted, the distribution is a partition.** -/
theorem Counts.partition (h : acc.Counts l) (order : HashOrder) : (acc.distribution order).Partition := by
  have hprovinces := distribution_provinces acc order
  have hcountries := distribution_countries acc order
  refine ⟨?_, ?_, ?_, ?_, ?_, ?_, ?_, ?_, ?_⟩
  · show acc.totalCount = acc.domesticCount + acc.foreignCount + acc.unknownCount
    rw [h.total, h.domestic, h.foreign, h.unknown, weightOf_true]
  · rw [hprovinces, sum_ranking, h.provinceTotal]
    show _ ≤ acc.domesticCount
    rw [h.domestic, weightOf_isDomestic]
    omega
  · rw [hcountries, sum_ranking, h.countryTotal]
    exact h.foreign.symm
  · rw [hprovinces]
    exact fun e he => h.provinces.pos (mem_ranking.mp he)
  · rw [hcountries]
    exact fun e he => h.countries.pos (mem_ranking.mp he)
  · rw [hprovinces]
    exact nodup_names_ranking _
  · rw [hcountries]
    exact nodup_names_ranking _
  · rw [hprovinces]
    exact ranking_strict _
  · rw [hcountries]
    exact ranking_strict _

/-- **A distribution says how much each class weighs, and nothing else.** -/
theorem Counts.distribution_eq_iff (h : acc.Counts l) (h' : acc'.Counts l') :
    acc.distribution order = acc'.distribution order' ↔
      ∀ c : GeoClass, weightOf (· == c) l = weightOf (· == c) l' := by
  have hsplit := weightOf_isDomestic l
  have hsplit' := weightOf_isDomestic l'
  constructor
  · intro heq c
    have hprovinces : acc.provinceCounts = acc'.provinceCounts := by
      refine ranking_injective ?_
      rw [← distribution_provinces acc order, heq, distribution_provinces]
    have hcountries : acc.countryCounts = acc'.countryCounts := by
      refine ranking_injective ?_
      rw [← distribution_countries acc order, heq, distribution_countries]
    have hdomestic : acc.domesticCount = acc'.domesticCount :=
      congrArg ClientGeoDistribution.domesticCount heq
    have hunknown : acc.unknownCount = acc'.unknownCount :=
      congrArg ClientGeoDistribution.unknownCount heq
    cases c with
    | province name => exact congrFun (h.provinces.weights (hprovinces ▸ h'.provinces)) name
    | domestic =>
        rw [h.domestic, h'.domestic] at hdomestic
        have hprovince := h.provinceTotal
        rw [hprovinces, h'.provinceTotal] at hprovince
        omega
    | foreign country => exact congrFun (h.countries.weights (hcountries ▸ h'.countries)) country
    | unknown => rw [← h.unknown, ← h'.unknown, hunknown]
  · intro hall
    have hprovinces : acc.provinceCounts = acc'.provinceCounts := by
      refine h.provinces.unique ?_
      simp only [hall]
      exact h'.provinces
    have hcountries : acc.countryCounts = acc'.countryCounts := by
      refine h.countries.unique ?_
      simp only [hall]
      exact h'.countries
    have hprovince : weightOf isProvince l = weightOf isProvince l' := by
      rw [← h.provinceTotal, hprovinces, h'.provinceTotal]
    have hforeign : weightOf isForeign l = weightOf isForeign l' := by
      rw [← h.countryTotal, hcountries, h'.countryTotal]
    have hdomestic : weightOf isDomestic l = weightOf isDomestic l' := by
      rw [hsplit, hsplit', hprovince, hall]
    ext1
    · show acc.totalCount = acc'.totalCount
      rw [h.total, h'.total, weightOf_true, weightOf_true, hdomestic, hforeign, hall]
    · show acc.domesticCount = acc'.domesticCount
      rw [h.domestic, h'.domestic, hdomestic]
    · show acc.foreignCount = acc'.foreignCount
      rw [h.foreign, h'.foreign, hforeign]
    · show acc.unknownCount = acc'.unknownCount
      rw [h.unknown, h'.unknown, hall]
    · rw [distribution_provinces, distribution_provinces, hprovinces]
    · rw [distribution_countries, distribution_countries, hcountries]

end GeoCounts
end DeskServer
