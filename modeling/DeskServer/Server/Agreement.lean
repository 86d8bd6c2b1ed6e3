import DeskServer.Database.Counts
import DeskServer.Lib.Run
import DeskServer.Server.StaleIdentity

/-!
# `Server.Agreement` — two counts of who is online

`OnLogin` and `OnLogout` count an id in memory and write it to `device_presence`. Memory sorts ids by
how they start; the database sorts them with `LIKE`, which ignores case, and knows them by the text they
are bound as. Its counts are read as numbers of 32 bits with a sign, those in memory have 64. The two agree
exactly as long as nobody logs in under an id the two take for different things or as the `2 ^ 31`-th one
of a kind, and nobody logs out under an id bound as somebody else's (`presence_agrees_iff`).

One invariant carries both directions (`InStep`): what either store has recorded is the latest event of
every id (`Recorded`), of ids that are of one kind in both, and few enough. What memory counts then holds
what the database counts and the other way round, so that equal numbers are equal sets; and an event that
means different things to the two shows in the very next state.
-/

namespace DeskServer

open Bytes PresenceManager DeviceDB

/-! ## Runs -/

/-- The two stores, and what was last heard of every id. -/
structure Watched where
  presence : PresenceManager
  db : DeviceDB
  /-- The latest event of the id was a login. -/
  latestIsLogin : Bytes → Bool

inductive PresenceEvent where
  | login (now : Int) (deviceId : Bytes)
  | logout (now : Int) (deviceId : Bytes)

namespace Watched

/-- One call of `OnLogin` or `OnLogout`. -/
def perform (s : Watched) : PresenceEvent → Watched
  | .login now id =>
      let announced := s.presence.onLogin s.db now id
      ⟨announced.presence, announced.db, Function.update s.latestIsLogin id true⟩
  | .logout now id =>
      let announced := s.presence.onLogout s.db now id
      ⟨announced.presence, announced.db, Function.update s.latestIsLogin id false⟩

/-- Before the first event. -/
def initial (p : PresenceManager) (db : DeviceDB) : Watched := ⟨p, db, fun _ => false⟩

/-- **Memory and database agree** on every id and on both counts. -/
structure Agrees (s : Watched) : Prop where
  query : ∀ ids : List Bytes, ids.length ≤ maxBindParameters →
    s.db.batchQueryOnline ids = ids.map fun id => (id, s.latestIsLogin id)
  devices : (s.presence.getOnlineDeviceCount : Int) = s.db.countOnlineDevices []
  webClients : (s.presence.getOnlineWebClientCount : Int)
    = s.db.countDevicePresence [] (bytes "online") (bytes "web")

/-- Nobody is online, in memory or in the database. -/
structure NobodyOnline (p : PresenceManager) (db : DeviceDB) : Prop where
  devices : p.onlineDevices = ∅
  webClients : p.onlineWebClients = ∅
  rows : ∀ (key : SqlText) (row : PresenceRow), db.devicePresence[key]? = some row → row.online = 0

/-- Memory counts the ids of the online rows, each under its kind. -/
structure SamePresence (p : PresenceManager) (db : DeviceDB) : Prop where
  devices : p.onlineDevices = db.countedIds fun e => e.2.online == 1 && shouldTrackOnlineDevice e.1.val
  webClients : p.onlineWebClients = db.countedIds fun e => e.2.online == 1 && isWebClient e.1.val

/-- Memory and database take the id for the same kind of thing: it starts as a browser or a controller
    does up to case only when it does so in fact. -/
structure SameKind (id : Bytes) : Prop where
  web : startsWithFolded (bytes "web-") id = true → isWebClient id = true
  clone : startsWithFolded (bytes "C-") id = true → isCloneClient id = true

/-- With this id too, fewer than `2 ^ 31` devices and fewer than `2 ^ 31` browsers are online. -/
structure FewWith (p : PresenceManager) (id : Bytes) : Prop where
  devices : shouldTrackOnlineDevice id = true → (insert id p.onlineDevices).card < 2 ^ 31
  webClients : isWebClient id = true → (insert id p.onlineWebClients).card < 2 ^ 31

/-- **The event means the same to both**: the id that logs in has no zero byte, is of the same kind in both
    and is not one too many; and whoever logs out with a zero byte in its id is not bound as somebody who
    is online. -/
def Faithful (s : Watched) : PresenceEvent → Prop
  | .login _ id => (0 : UInt8) ∉ id ∧ SameKind id ∧ FewWith s.presence id
  | .logout _ id => (0 : UInt8) ∈ id → ∀ row : PresenceRow,
      s.db.devicePresence[bindText id]? = some row → row.online = 0

/-- What both stores have recorded. -/
structure Recorded (s : Watched) : Prop where
  rows : ∀ (key : SqlText) (row : PresenceRow), s.db.devicePresence[key]? = some row →
    row.online = if s.latestIsLogin key.val then 1 else 0
  logged : ∀ id, s.latestIsLogin id = true → (0 : UInt8) ∉ id ∧
    ∃ row : PresenceRow, s.db.devicePresence[bindText id]? = some row
  devices : ∀ id, id ∈ s.presence.onlineDevices ↔
    s.latestIsLogin id = true ∧ shouldTrackOnlineDevice id = true
  webClients : ∀ id, id ∈ s.presence.onlineWebClients ↔
    s.latestIsLogin id = true ∧ isWebClient id = true

variable {s : Watched} {p : PresenceManager} {db : DeviceDB} {id : Bytes}

/-! ## What is recorded decides the agreement -/

/-- The row of an id with a zero byte is the row of another text. -/
theorem bindText_key {key : SqlText} : bindText id = key ↔ cstr id = key.val :=
  ⟨fun h => h ▸ rfl, fun h => SqlText.ext h⟩

/-- What the query reports of an id. -/
theorem Recorded.flag (hs : s.Recorded) (id : Bytes) :
    (((s.db.devicePresence[bindText id]?).map fun row : PresenceRow =>
      columnInt row.online != 0 && (0 : UInt8) ∉ id).getD false) = s.latestIsLogin id := by
  cases hl : s.latestIsLogin id with
  | true =>
      obtain ⟨hz, row, hrow⟩ := hs.logged id hl
      have honline := hs.rows _ row hrow
      rw [bindText_val, cstr_eq_self hz, hl, if_pos rfl] at honline
      simp [hrow, honline, hz]
  | false =>
      cases hrow : s.db.devicePresence[bindText id]? with
      | none => rfl
      | some row =>
          by_cases hz : (0 : UInt8) ∈ id
          · simp [hz]
          · have honline := hs.rows _ row hrow
            rw [bindText_val, cstr_eq_self hz, hl] at honline
            simp [honline]

theorem Recorded.query (hs : s.Recorded) (ids : List Bytes) (hlen : ids.length ≤ maxBindParameters) :
    s.db.batchQueryOnline ids = ids.map fun id => (id, s.latestIsLogin id) := by
  unfold batchQueryOnline
  rw [if_neg (by omega)]
  apply List.map_congr_left
  intro id _
  rw [hs.flag]

/-- The ids a count of online rows finds. -/
theorem Recorded.mem_countedIds (hs : s.Recorded) {kind : SqlText → Bool} :
    id ∈ s.db.countedIds (fun e => e.2.online == 1 && kind e.1) ↔
      s.latestIsLogin id = true ∧ kind (bindText id) = true := by
  rw [DeviceDB.mem_countedIds]
  constructor
  · rintro ⟨key, row, hrow, hclause, rfl⟩
    obtain ⟨honline, hkind⟩ := Bool.and_eq_true_iff.mp hclause
    have hflag := hs.rows key row hrow
    rw [beq_iff_eq.mp honline] at hflag
    rw [bindText_column]
    refine ⟨?_, hkind⟩
    by_contra hl
    rw [if_neg hl] at hflag
    exact absurd hflag (by decide)
  · rintro ⟨hl, hkind⟩
    obtain ⟨hz, row, hrow⟩ := hs.logged id hl
    refine ⟨bindText id, row, hrow, ?_, cstr_eq_self hz⟩
    have honline := hs.rows _ row hrow
    rw [bindText_val, cstr_eq_self hz, hl, if_pos rfl] at honline
    simp [honline, hkind]

/-! ## What the counts find -/

/-- The kind of id `CountOnlineDevices` counts. -/
def countedAsDevice (key : SqlText) : Bool := !likeId "web-%" key && !likeId "C-%" key

theorem countOnlineDevices_eq (db : DeviceDB) : db.countOnlineDevices []
    = columnInt (db.countedIds fun e => e.2.online == 1 && countedAsDevice e.1).card := by
  rw [← countPresence_eq_card]
  unfold countOnlineDevices
  congr 3
  funext e
  simp only [presenceSearch, List.isEmpty_nil, Bool.true_or, Bool.and_true, countedAsDevice,
    Bool.and_assoc]

theorem countDevicePresence_eq (db : DeviceDB) :
    db.countDevicePresence [] (bytes "online") (bytes "web")
      = columnInt (db.countedIds fun e => e.2.online == 1 && likeId "web-%" e.1).card := by
  rw [← countPresence_eq_card]
  unfold countDevicePresence
  congr 3
  funext e
  have hfilter : db.devicePresenceFilterClause (bytes "online") (bytes "web") e
      = (likeId "web-%" e.1 && e.2.online == 1) := rfl
  rw [hfilter, presenceSearch, List.isEmpty_nil, Bool.true_or, Bool.and_true, Bool.and_comm]

/-- No id starts both ways. -/
theorem not_both_folded (hw : startsWithFolded (bytes "web-") id = true)
    (hc : startsWithFolded (bytes "C-") id = true) : False := by
  -- the first letters differ in either case
  have hweb : toLower (bytes "web-") = [119, 101, 98, 45] := by decide
  have hclone : toLower (bytes "C-") = [99, 45] := by decide
  rw [startsWithFolded, hweb] at hw
  rw [startsWithFolded, hclone] at hc
  cases id with
  | nil => exact absurd hw (by decide)
  | cons b rest =>
      simp only [toLower, List.map_cons, List.isPrefixOf_cons_cons, Bool.and_eq_true, beq_iff_eq] at hw hc
      rw [← hw.1] at hc
      exact absurd hc.1 (by decide)

/-- The database finds what is recorded, by how the id starts up to case. -/
theorem Recorded.mem_devices (hs : s.Recorded) :
    id ∈ s.db.countedIds (fun e => e.2.online == 1 && countedAsDevice e.1) ↔
      s.latestIsLogin id = true ∧ startsWithFolded (bytes "web-") id = false ∧
        startsWithFolded (bytes "C-") id = false := by
  rw [hs.mem_countedIds]
  apply and_congr_right
  intro hl
  rw [countedAsDevice, likeId_web, likeId_clone, bindText_val, cstr_eq_self (hs.logged id hl).1]
  simp

theorem Recorded.mem_webClients (hs : s.Recorded) :
    id ∈ s.db.countedIds (fun e => e.2.online == 1 && likeId "web-%" e.1) ↔
      s.latestIsLogin id = true ∧ startsWithFolded (bytes "web-") id = true := by
  rw [hs.mem_countedIds]
  apply and_congr_right
  intro hl
  rw [likeId_web, bindText_val, cstr_eq_self (hs.logged id hl).1]

theorem shouldTrackOnlineDevice_iff :
    shouldTrackOnlineDevice id = true ↔ isWebClient id = false ∧ isCloneClient id = false := by
  simp [shouldTrackOnlineDevice]

/-- The database never counts a device that memory does not. -/
theorem Recorded.devices_subset (hs : s.Recorded) :
    s.db.countedIds (fun e => e.2.online == 1 && countedAsDevice e.1) ⊆ s.presence.onlineDevices := by
  intro id hid
  obtain ⟨hl, hweb, hclone⟩ := hs.mem_devices.mp hid
  exact (hs.devices id).mpr ⟨hl, shouldTrackOnlineDevice_iff.mpr
    ⟨not_startsWith_of_folded hweb, not_startsWith_of_folded hclone⟩⟩

/-- The database counts every web client that memory does. -/
theorem Recorded.webClients_subset (hs : s.Recorded) :
    s.presence.onlineWebClients ⊆ s.db.countedIds (fun e => e.2.online == 1 && likeId "web-%" e.1) := by
  intro id hid
  obtain ⟨hl, hweb⟩ := (hs.webClients id).mp hid
  exact hs.mem_webClients.mpr ⟨hl, startsWithFolded_of_startsWith hweb⟩

/-- A number that is read back as one at least as large is read as it is. -/
theorem eq_of_columnInt_eq {counted remembered : Nat} (h : (remembered : Int) = columnInt counted)
    (hle : counted ≤ remembered) : counted = remembered ∧ remembered < 2 ^ 31 := by
  unfold columnInt at h
  split at h <;> omega

/-- So is one that is at most `2 ^ 31`. -/
theorem eq_of_columnInt_eq_of_le {counted remembered : Nat} (h : (remembered : Int) = columnInt counted)
    (hle : counted ≤ 2 ^ 31) : counted = remembered ∧ remembered < 2 ^ 31 := by
  unfold columnInt at h
  split at h <;> omega

/-- **Equal counts leave nobody online that the two take for different things**, and are numbers that fit. A
    count of the database has to be at most `2 ^ 31` for that, as it is after one login. -/
theorem Recorded.inKind_of_agrees (hs : s.Recorded) (h : s.Agrees)
    (hfew : (s.db.countedIds fun e => e.2.online == 1 && likeId "web-%" e.1).card ≤ 2 ^ 31) :
    (∀ id, s.latestIsLogin id = true → SameKind id) ∧
      s.presence.onlineDevices.card < 2 ^ 31 ∧ s.presence.onlineWebClients.card < 2 ^ 31 := by
  have hdeviceCount := h.devices
  have hwebCount := h.webClients
  rw [countOnlineDevices_eq] at hdeviceCount
  rw [countDevicePresence_eq] at hwebCount
  obtain ⟨hdeviceCards, hfewDevices⟩ :=
    eq_of_columnInt_eq hdeviceCount (Finset.card_le_card hs.devices_subset)
  obtain ⟨hwebCards, hfewWebs⟩ := eq_of_columnInt_eq_of_le hwebCount hfew
  -- one set contains the other, and they are of one size
  have hdevices : s.db.countedIds (fun e => e.2.online == 1 && countedAsDevice e.1)
      = s.presence.onlineDevices :=
    Finset.eq_of_subset_of_card_le hs.devices_subset (le_of_eq hdeviceCards.symm)
  have hwebs : s.presence.onlineWebClients
      = s.db.countedIds (fun e => e.2.online == 1 && likeId "web-%" e.1) :=
    Finset.eq_of_subset_of_card_le hs.webClients_subset (le_of_eq hwebCards)
  refine ⟨fun id hl => ⟨fun hfolded => ?_, fun hfolded => ?_⟩, hfewDevices, hfewWebs⟩
  · have hmem := hs.mem_webClients.mpr ⟨hl, hfolded⟩
    rw [← hwebs] at hmem
    exact ((hs.webClients id).mp hmem).2
  · by_contra hclone
    rw [Bool.not_eq_true] at hclone
    -- memory would count it as a device, and the database does not
    have htracked : shouldTrackOnlineDevice id = true := by
      refine shouldTrackOnlineDevice_iff.mpr ⟨?_, hclone⟩
      rw [Bool.eq_false_iff]
      intro hweb
      exact not_both_folded (startsWithFolded_of_startsWith hweb) hfolded
    have hmem := (hs.devices id).mpr ⟨hl, htracked⟩
    rw [← hdevices, hs.mem_devices, hfolded] at hmem
    exact absurd hmem.2.2 (by decide)

/-- An id of one kind that memory tracks as a device is a device to the database. -/
theorem SameKind.folded_eq_false (h : SameKind id) (htracked : shouldTrackOnlineDevice id = true) :
    startsWithFolded (bytes "web-") id = false ∧ startsWithFolded (bytes "C-") id = false := by
  obtain ⟨hweb, hclone⟩ := shouldTrackOnlineDevice_iff.mp htracked
  rw [Bool.eq_false_iff] at hweb hclone ⊢
  rw [Bool.eq_false_iff]
  exact ⟨fun hfolded => hweb (h.web hfolded), fun hfolded => hclone (h.clone hfolded)⟩

/-- What the two count is the same, when everybody online is of one kind in both. -/
theorem Recorded.countedIds_eq (hs : s.Recorded) (h : ∀ id, s.latestIsLogin id = true → SameKind id) :
    s.db.countedIds (fun e => e.2.online == 1 && countedAsDevice e.1) = s.presence.onlineDevices ∧
      s.db.countedIds (fun e => e.2.online == 1 && likeId "web-%" e.1) = s.presence.onlineWebClients := by
  constructor
  · refine Finset.Subset.antisymm hs.devices_subset fun id hid => ?_
    obtain ⟨hl, htracked⟩ := (hs.devices id).mp hid
    exact hs.mem_devices.mpr ⟨hl, (h id hl).folded_eq_false htracked⟩
  · refine Finset.Subset.antisymm (fun id hid => ?_) hs.webClients_subset
    obtain ⟨hl, hfolded⟩ := hs.mem_webClients.mp hid
    exact (hs.webClients id).mpr ⟨hl, (h id hl).web hfolded⟩

/-- A number below `2 ^ 31` is read as it is. -/
theorem columnInt_of_lt {n : Nat} (h : n < 2 ^ 31) : columnInt n = n := by
  unfold columnInt
  split <;> omega

theorem Recorded.agrees_of_sameKind (hs : s.Recorded)
    (h : ∀ id, s.latestIsLogin id = true → SameKind id) (hdevices : s.presence.onlineDevices.card < 2 ^ 31)
    (hwebs : s.presence.onlineWebClients.card < 2 ^ 31) : s.Agrees := by
  obtain ⟨hsameDevices, hsameWebs⟩ := hs.countedIds_eq h
  refine ⟨hs.query, ?_, ?_⟩
  · rw [countOnlineDevices_eq, hsameDevices, columnInt_of_lt hdevices, getOnlineDeviceCount]
  · rw [countDevicePresence_eq, hsameWebs, columnInt_of_lt hwebs, getOnlineWebClientCount]

/-! ## One event -/

theorem onlineUpsert_online (now : Int) (old : Option PresenceRow) :
    (onlineUpsert now old).online = 1 := by
  cases old <;> rfl

theorem offlineUpsert_online (now : Int) (old : Option PresenceRow) :
    (offlineUpsert now old).online = 0 := by
  cases old <;> rfl

theorem login_row (s : Watched) (now : Int) (id : Bytes) (key : SqlText) :
    (s.perform (.login now id)).db.devicePresence[key]?
      = if bindText id = key then some (onlineUpsert now s.db.devicePresence[key]?)
        else s.db.devicePresence[key]? := by
  show (s.db.upsertPresence (bindText id) _).devicePresence[key]? = _
  rw [upsertPresence_row, if_pos rfl]

theorem logout_row (s : Watched) (now : Int) (id : Bytes) (key : SqlText) :
    (s.perform (.logout now id)).db.devicePresence[key]?
      = if bindText id = key then some (offlineUpsert now s.db.devicePresence[key]?)
        else s.db.devicePresence[key]? := by
  show (s.db.upsertPresence (bindText id) _).devicePresence[key]? = _
  rw [upsertPresence_row]
  rfl

theorem latestIsLogin_login (s : Watched) (now : Int) (id u : Bytes) :
    (s.perform (.login now id)).latestIsLogin u = if u = id then true else s.latestIsLogin u := by
  show Function.update s.latestIsLogin id true u = _
  rw [Function.update_apply]

theorem latestIsLogin_logout (s : Watched) (now : Int) (id u : Bytes) :
    (s.perform (.logout now id)).latestIsLogin u = if u = id then false else s.latestIsLogin u := by
  show Function.update s.latestIsLogin id false u = _
  rw [Function.update_apply]

/-- **A login of an id without a zero byte is recorded.** -/
theorem Recorded.login (hs : s.Recorded) (now : Int) (hz : (0 : UInt8) ∉ id) :
    (s.perform (.login now id)).Recorded := by
  have hlatest := latestIsLogin_login s now id
  refine ⟨fun key row hrow => ?_, fun u hu => ?_, fun u => ?_, fun u => ?_⟩
  · rw [login_row] at hrow
    rw [hlatest]
    split at hrow
    · rename_i hkey
      rw [bindText_key, cstr_eq_self hz] at hkey
      rw [← Option.some.inj hrow, onlineUpsert_online, if_pos hkey.symm, if_pos rfl]
    · rename_i hkey
      rw [bindText_key, cstr_eq_self hz] at hkey
      rw [if_neg (Ne.symm hkey)]
      exact hs.rows key row hrow
  · rw [hlatest] at hu
    simp only [login_row]
    by_cases hid : u = id
    · subst hid
      exact ⟨hz, _, if_pos rfl⟩
    · rw [if_neg hid] at hu
      obtain ⟨hzu, row, hrow⟩ := hs.logged u hu
      refine ⟨hzu, row, ?_⟩
      rw [if_neg ?_]
      · exact hrow
      · intro hkey
        rw [bindText_eq_iff, cstr_eq_self hz, cstr_eq_self hzu] at hkey
        exact hid hkey.symm
  · show u ∈ (s.presence.countOnline id).onlineDevices ↔ _
    rw [mem_onlineDevices_countOnline, hs.devices, hlatest]
    by_cases hid : u = id <;> simp [hid]
  · show u ∈ (s.presence.countOnline id).onlineWebClients ↔ _
    rw [mem_onlineWebClients_countOnline, hs.webClients, hlatest]
    by_cases hid : u = id <;> simp [hid]

/-- The text that an id with a zero byte is bound as, when it is not online. -/
theorem Recorded.bound_offline (hs : s.Recorded) {now : Int} (hfaithful : s.Faithful (.logout now id))
    (hz : (0 : UInt8) ∈ id) : s.latestIsLogin (cstr id) = false := by
  by_contra hl
  rw [Bool.not_eq_false] at hl
  obtain ⟨_, row, hrow⟩ := hs.logged _ hl
  rw [bindText_cstr] at hrow
  have honline := hs.rows _ _ hrow
  rw [bindText_val, hl, if_pos rfl, hfaithful hz row hrow] at honline
  exact absurd honline (by decide)

/-- **A logout is recorded** that is not bound as somebody else who is online. -/
theorem Recorded.logout (hs : s.Recorded) (now : Int) (hfaithful : s.Faithful (.logout now id)) :
    (s.perform (.logout now id)).Recorded := by
  have hlatest := latestIsLogin_logout s now id
  refine ⟨fun key row hrow => ?_, fun u hu => ?_, fun u => ?_, fun u => ?_⟩
  · rw [logout_row] at hrow
    rw [hlatest]
    by_cases hkey : bindText id = key
    · rw [if_pos hkey] at hrow
      have hoff : (if key.val = id then false else s.latestIsLogin key.val) = false := by
        rw [← hkey, bindText_val]
        by_cases hz : (0 : UInt8) ∈ id
        · -- the text the id is bound as was offline already
          rw [hs.bound_offline hfaithful hz]
          split <;> rfl
        · rw [if_pos (cstr_eq_self hz)]
      rw [← Option.some.inj hrow, offlineUpsert_online, hoff]
      rfl
    · rw [if_neg hkey] at hrow
      have hne : key.val ≠ id := by
        intro heq
        rw [← heq, bindText_column] at hkey
        exact hkey rfl
      rw [if_neg hne]
      exact hs.rows key row hrow
  · rw [hlatest] at hu
    split at hu
    · exact absurd hu (by simp)
    · simp only [logout_row]
      obtain ⟨hzu, row, hrow⟩ := hs.logged u hu
      refine ⟨hzu, ?_⟩
      split
      · exact ⟨_, rfl⟩
      · exact ⟨row, hrow⟩
  · show u ∈ ({ s.presence with
      associations := s.presence.associations.erase id }.countOffline id).onlineDevices ↔ _
    rw [mem_onlineDevices_countOffline, hs.devices, hlatest]
    by_cases hid : u = id
    · subst hid
      simp
    · simp [hid]
  · show u ∈ ({ s.presence with
      associations := s.presence.associations.erase id }.countOffline id).onlineWebClients ↔ _
    rw [mem_onlineWebClients_countOffline, hs.webClients, hlatest]
    by_cases hid : u = id
    · subst hid
      simp
    · simp [hid]

/-! ## The exact condition -/

/-- The invariant behind the agreement. -/
structure InStep (s : Watched) : Prop where
  recorded : s.Recorded
  kinds : ∀ id, s.latestIsLogin id = true → SameKind id
  fewDevices : s.presence.onlineDevices.card < 2 ^ 31
  fewWebClients : s.presence.onlineWebClients.card < 2 ^ 31

/-- What memory counts after a login. -/
theorem countOnline_sets (p : PresenceManager) (id : Bytes) :
    (p.countOnline id).onlineDevices = (if shouldTrackOnlineDevice id then insert id p.onlineDevices
      else p.onlineDevices) ∧
    (p.countOnline id).onlineWebClients = if isWebClient id then insert id p.onlineWebClients
      else p.onlineWebClients := by
  constructor
  · ext u
    rw [mem_onlineDevices_countOnline]
    split <;> by_cases hu : u = id <;> simp_all
  · ext u
    rw [mem_onlineWebClients_countOnline]
    split <;> by_cases hu : u = id <;> simp_all

theorem InStep.login (hs : s.InStep) (now : Int) (hz : (0 : UInt8) ∉ id) (hkind : SameKind id)
    (hfew : FewWith s.presence id) : (s.perform (.login now id)).InStep := by
  obtain ⟨hdevices, hwebs⟩ := countOnline_sets s.presence id
  refine ⟨hs.recorded.login now hz, fun u hu => ?_, ?_, ?_⟩
  · rw [latestIsLogin_login] at hu
    split at hu
    · rename_i hid
      exact hid ▸ hkind
    · exact hs.kinds u hu
  · show (s.presence.countOnline id).onlineDevices.card < _
    rw [hdevices]
    split
    · rename_i htracked
      exact hfew.devices htracked
    · exact hs.fewDevices
  · show (s.presence.countOnline id).onlineWebClients.card < _
    rw [hwebs]
    split
    · rename_i hweb
      exact hfew.webClients hweb
    · exact hs.fewWebClients

/-- A logout only takes away. -/
theorem countOffline_subset (p : PresenceManager) (id : Bytes) :
    (p.countOffline id).onlineDevices ⊆ p.onlineDevices ∧
      (p.countOffline id).onlineWebClients ⊆ p.onlineWebClients := by
  constructor
  · intro u hu
    rw [mem_onlineDevices_countOffline] at hu
    exact hu.1
  · intro u hu
    rw [mem_onlineWebClients_countOffline] at hu
    exact hu.1

theorem InStep.perform (s : Watched) (e : PresenceEvent) (hs : s.InStep) (he : s.Faithful e) :
    (s.perform e).InStep := by
  cases e with
  | login now id => exact hs.login now he.1 he.2.1 he.2.2
  | logout now id =>
      obtain ⟨hdevices, hwebs⟩ := countOffline_subset
        { s.presence with associations := s.presence.associations.erase id } id
      refine ⟨hs.recorded.logout now he, fun u hu => ?_, ?_, ?_⟩
      · rw [latestIsLogin_logout] at hu
        split at hu
        · exact absurd hu (by simp)
        · exact hs.kinds u hu
      · exact (Finset.card_le_card hdevices).trans_lt hs.fewDevices
      · exact (Finset.card_le_card hwebs).trans_lt hs.fewWebClients

/-- One login adds at most one browser to those the database counts. -/
theorem InStep.webClients_le (hs : s.InStep) (now : Int) (hz : (0 : UInt8) ∉ id) :
    ((s.perform (.login now id)).db.countedIds fun e => e.2.online == 1 && likeId "web-%" e.1).card
      ≤ 2 ^ 31 := by
  have hrecorded := hs.recorded.login now hz
  have hsub : (s.perform (.login now id)).db.countedIds (fun e => e.2.online == 1 && likeId "web-%" e.1)
      ⊆ insert id s.presence.onlineWebClients := by
    intro u hu
    obtain ⟨hl, hfolded⟩ := hrecorded.mem_webClients.mp hu
    rw [latestIsLogin_login] at hl
    rw [Finset.mem_insert]
    split at hl
    · rename_i hid
      exact .inl hid
    · exact .inr ((hs.recorded.webClients u).mpr ⟨hl, (hs.kinds u hl).web hfolded⟩)
  have hle := (Finset.card_le_card hsub).trans (Finset.card_insert_le id s.presence.onlineWebClients)
  have hfew := hs.fewWebClients
  omega

/-- An event the two stores take for different things is seen at once. -/
theorem faithful_of_agrees (s : Watched) (e : PresenceEvent) (hs : s.InStep)
    (h : (s.perform e).Agrees) : s.Faithful e := by
  cases e with
  | login now id =>
      have hquery := h.query [id] (by simp [maxBindParameters])
      have hlatest : (s.perform (.login now id)).latestIsLogin id = true := by
        rw [latestIsLogin_login, if_pos rfl]
      -- the query reads the id back from its row, up to the first zero byte
      have hz : (0 : UInt8) ∉ id := by
        intro hz
        have hflag := (Prod.mk.inj (List.cons.inj hquery).1).2
        rw [login_row, if_pos rfl, hlatest] at hflag
        simp [hz] at hflag
      obtain ⟨hkinds, hfewDevices, hfewWebs⟩ :=
        (hs.recorded.login now hz).inKind_of_agrees h (hs.webClients_le now hz)
      obtain ⟨hdevices, hwebs⟩ := countOnline_sets s.presence id
      refine ⟨hz, hkinds id hlatest, fun htracked => ?_, fun hweb => ?_⟩
      · rw [← (if_pos htracked : _ = insert id s.presence.onlineDevices), ← hdevices]
        exact hfewDevices
      · rw [← (if_pos hweb : _ = insert id s.presence.onlineWebClients), ← hwebs]
        exact hfewWebs
  | logout now id =>
      intro hz row hrow
      by_contra hon
      have honline := hs.recorded.rows _ row hrow
      have hlogged : s.latestIsLogin (cstr id) = true := by
        by_contra hl
        rw [bindText_val, if_neg hl] at honline
        exact hon honline
      have hne : cstr id ≠ id := by
        intro heq
        rw [← heq] at hz
        exact zero_not_mem_cstr id hz
      -- the other id has not logged out, and its row says it has
      have hquery := h.query [cstr id] (by simp [maxBindParameters])
      have hflag := (Prod.mk.inj (List.cons.inj hquery).1).2
      have hlatest : (s.perform (.logout now id)).latestIsLogin (cstr id) = true := by
        rw [latestIsLogin_logout, if_neg hne]
        exact hlogged
      rw [logout_row, bindText_cstr, if_pos rfl, hlatest] at hflag
      simp [offlineUpsert_online] at hflag

theorem initial_inStep (h : NobodyOnline p db) : (initial p db).InStep where
  recorded := ⟨fun key row hrow => h.rows key row hrow, fun id hid => absurd hid (by simp [initial]),
    fun id => by simp [initial, h.devices], fun id => by simp [initial, h.webClients]⟩
  kinds := fun id hid => absurd hid (by simp [initial])
  fewDevices := by
    show p.onlineDevices.card < _
    rw [h.devices]
    decide
  fewWebClients := by
    show p.onlineWebClients.card < _
    rw [h.webClients]
    decide

/-- **Memory and database agree, exactly.** In a run of logins and logouts that starts with nobody
    online they agree after every event if and only if every event means the same to both. -/
theorem presence_agrees_iff (p : PresenceManager) (db : DeviceDB) (h : NobodyOnline p db)
    (events : List PresenceEvent) :
    Run.EveryState perform Agrees (initial p db) events ↔
      Run.EveryStep perform Faithful (initial p db) events :=
  Run.everyState_iff_everyStep perform
    (fun _ hs => hs.recorded.agrees_of_sameKind hs.kinds hs.fewDevices hs.fewWebClients)
    InStep.perform faithful_of_agrees (initial_inStep h) events

/-- A device comes and goes on a new server. -/
theorem device_agrees : Run.EveryState perform Agrees (initial .empty DeviceDB.newFile)
    [.login 0 (bytes "100000000"), .logout 5 (bytes "100000000")] := by
  have hstart : NobodyOnline .empty DeviceDB.newFile :=
    ⟨rfl, rfl, fun key row hrow => by simp [DeviceDB.newFile] at hrow⟩
  refine (presence_agrees_iff _ _ hstart _).mpr ⟨⟨by decide, ⟨?_, ?_⟩, ?_, ?_⟩, ?_, trivial⟩
  · intro hfolded
    exact absurd hfolded (by decide)
  · intro hfolded
    exact absurd hfolded (by decide)
  · exact fun _ => by decide
  · exact fun _ => by decide
  · intro hz
    exact absurd hz (by decide)

/-- Whatever the digest, `login_user` binds `c-C-x`; memory counts it as a device, and the database as
    a controller. -/
theorem foldedClone_disagrees :
    (∀ (sha256 : Digest) (draws : Draws), SignalServer.loginId sha256 DeviceDB.newFile draws
      (SignalServer.loginMessage (bytes "c-C-x")) = some (bytes "c-C-x")) ∧
    ¬ Run.EveryState perform Agrees (initial .empty DeviceDB.newFile) [.login 0 (bytes "c-C-x")] := by
  refine ⟨fun sha256 draws => rfl, fun h => ?_⟩
  have hdevices := (h _ List.prefix_rfl).devices
  exact absurd hdevices (by decide)

end Watched
end DeskServer
