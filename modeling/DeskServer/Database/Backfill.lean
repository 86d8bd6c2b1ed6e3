import DeskServer.Database.Startup
import DeskServer.Database.Counts

/-!
# `Database.Backfill` — the normalized ids of an older session table

`InitDB` fills the two normalized columns of a session table that does not have them yet. The rule is
there twice: in SQL, where `LIKE 'C-%'` ignores the case of ASCII letters, and in the program, where a
session is credited at its end. **The two agree exactly on the ids that do not start with `c-`.** A session
of such an id is displayed for one device and credited to another.

**Shape.** The rule of the statement is compared with the rule of the program on one id
(`backfilledId_eq_normalize_iff`), then on a row of the migrated table, then on the end of its session
(`migratedLikeRuntime_iff`). The tables are those of older versions, in which both columns are empty.
-/

namespace DeskServer

open Bytes PresenceRow

/-! ## The two rules -/

/-- What the statement writes for an id whose column is empty. -/
theorem backfilledId_empty (id : SqlText) :
    (backfilledId id .empty).val = if likeClone id then id.val.drop 2 else id.val := by
  unfold backfilledId
  rw [if_pos rfl]
  split
  · rw [bindText_val]
    exact cstr_eq_self fun hzero => id.noNul (List.mem_of_mem_drop hzero)
  · rfl

/-- `LIKE 'C-%'` holds of the ids in front of which there is a `C-` or a `c-`. -/
theorem likeClone_iff (id : SqlText) : likeClone id = true ↔
    startsWith (bytes "C-") id.val = true ∨ startsWith (bytes "c-") id.val = true := by
  have hupper : bytes "C-" = [67, 45] := by decide
  have hlower : bytes "c-" = [99, 45] := by decide
  rw [startsWith_iff, startsWith_iff, hupper, hlower]
  unfold likeClone
  match id.val with
  | [] => simp
  | [_] => simp
  | c :: d :: rest =>
      simp only [List.cons_prefix_cons, List.nil_prefix, and_true, Bool.and_eq_true, Bool.or_eq_true,
        beq_iff_eq]
      rw [or_and_right, eq_comm (a := c), eq_comm (a := c), eq_comm (a := d)]

theorem foldCase_c : ∀ ch : UInt8, ((99 : UInt8) == foldCase ch) = (ch == 67 || ch == 99) := by
  decide +kernel

theorem foldCase_dash : ∀ ch : UInt8, ((45 : UInt8) == foldCase ch) = (ch == 45) := by
  decide +kernel

/-- The pattern of the counts is the same condition. -/
theorem likeId_clone_eq (id : SqlText) : likeId "C-%" id = likeClone id := by
  have hclone : toLower (bytes "C-") = [99, 45] := by decide
  rw [likeId_clone, startsWithFolded, hclone]
  unfold likeClone
  rcases id.val with _ | ⟨c, _ | ⟨d, rest⟩⟩
  · rfl
  · simp [toLower, List.isPrefixOf]
  · simp only [toLower, List.map_cons, List.isPrefixOf_cons_cons, List.isPrefixOf_nil_left, Bool.and_true,
      foldCase_c, foldCase_dash]

/-- **The rules agree on an id exactly when it does not start with `c-`.** -/
theorem backfilledId_eq_normalize_iff (id : SqlText) :
    (backfilledId id .empty).val = normalizeRemoteDeviceId id.val ↔
      ¬ startsWith (bytes "c-") id.val = true := by
  rw [backfilledId_empty, normalizeRemoteDeviceId]
  by_cases hupper : startsWith (bytes "C-") id.val = true
  · rw [if_pos ((likeClone_iff id).mpr (.inl hupper)), if_pos hupper]
    refine iff_of_true rfl fun hlower => ?_
    rw [startsWith_iff] at hupper hlower
    exact absurd (List.prefix_of_prefix_length_le hupper hlower (by decide)) (by decide)
  · rw [if_neg hupper]
    by_cases hlower : startsWith (bytes "c-") id.val = true
    · rw [if_pos ((likeClone_iff id).mpr (.inr hlower))]
      refine iff_of_false (fun heq => ?_) (fun h => h hlower)
      -- two bytes are gone
      have hlen := congrArg List.length heq
      have htwo : 2 ≤ id.val.length := (startsWith_iff.mp hlower).length_le
      rw [List.length_drop] at hlen
      omega
    · rw [if_neg fun hlike => (likeClone_iff id).mp hlike |>.elim hupper hlower]
      exact iff_of_true rfl hlower

namespace DeviceDB

/-! ## The session table after `InitDB` -/

/-- A table from before the upgrade: neither normalized column is filled. -/
def LegacySessions (db : DeviceDB) : Prop :=
  ∀ (k : SessionKey) row, db.remoteControlSessions[k]? = some row →
    row.normalizedGuestId = .empty ∧ row.normalizedHostId = .empty

/-- A row with its columns filled. -/
def backfilledRow (k : SessionKey) (row : SessionRow) : SessionRow :=
  { row with
    normalizedGuestId := backfilledId k.guestId row.normalizedGuestId
    normalizedHostId := backfilledId row.hostId row.normalizedHostId }

theorem migrated_session (db : DeviceDB) (k : SessionKey) :
    db.migrated.remoteControlSessions[k]? = (db.remoteControlSessions[k]?).map (backfilledRow k) := by
  rw [migrated_def]
  show ((db.remoteControlSessions.map _).map _)[k]? = _
  rw [Std.ExtTreeMap.getElem?_map, Std.ExtTreeMap.getElem?_map, Option.map_map]
  rfl

/-- The sessions are recovered as they were migrated, or deleted. -/
theorem initDB_sessions (db : DeviceDB) (now beat : Int) :
    (db.initDB now beat).remoteControlSessions = db.migrated.remoteControlSessions ∨
      (db.initDB now beat).remoteControlSessions = ∅ := by
  rw [initDB_eq]
  unfold recoveryStatements
  dsimp only
  by_cases hrecover : recoverRemoteSessions db.migrated.getRuntimeLastSeen now = true
  · left
    rw [if_pos hrecover]
    rfl
  · right
    rw [if_neg hrecover]
    split <;> rfl

/-! ## The end of such a session -/

/-- The presence row of `d` after the end of a session that credits `guest` and `host`. -/
def creditedRow (guest host : SqlText) (seconds : Int) (d : SqlText) (p : PresenceRow) : PresenceRow :=
  { p with
    totalControlSeconds := p.totalControlSeconds + if guest = d then seconds else 0
    totalControlledSeconds := p.totalControlledSeconds + if host = d then seconds else 0 }

/-- Whatever else the database holds, an end of the session adds its seconds to the devices for which the
    live totals display them. -/
def CreditedWhereShown (k : SessionKey) (row : SessionRow) : Prop :=
  ∀ (db : DeviceDB) (now : Int) (t h g : Bytes), db.remoteControlSessions[k]? = some row →
    t ≠ [] → h ≠ [] → g ≠ [] →
    bindText t = k.transmissionId → bindText h = row.hostId → bindText g = k.guestId →
    ∀ d : SqlText, (db.endRemoteControlSession now t h g).2.devicePresence[d]? =
      (db.devicePresence[d]?).map
        (creditedRow row.normalizedGuestId row.normalizedHostId (elapsed now row) d)

/-- The host that is credited normalizes as the stored one. -/
theorem bindText_effectiveHostId {row : SessionRow} {h : Bytes} (hhost : bindText h = row.hostId) :
    bindText (normalizeRemoteDeviceId (effectiveHostId row h)) =
      bindText (normalizeRemoteDeviceId row.hostId.val) := by
  unfold effectiveHostId
  split
  · rw [← hhost, bindText_val, bindText_normalize_cstr]
  · rfl

/-- **What an end does to the presence rows.** -/
theorem endRemoteControlSession_presence {db : DeviceDB} {k : SessionKey} {row : SessionRow} (now : Int)
    {t h g : Bytes} (hrow : db.remoteControlSessions[k]? = some row) (ht : t ≠ []) (hh : h ≠ [])
    (hg : g ≠ []) (htk : bindText t = k.transmissionId) (hhost : bindText h = row.hostId)
    (hgk : bindText g = k.guestId) (d : SqlText) :
    (db.endRemoteControlSession now t h g).2.devicePresence[d]? = (db.devicePresence[d]?).map
      (creditedRow (bindText (normalizeRemoteDeviceId k.guestId.val))
        (bindText (normalizeRemoteDeviceId row.hostId.val)) (elapsed now row) d) := by
  have hkey : (⟨bindText t, bindText g⟩ : SessionKey) = k := by rw [htk, hgk]
  have hended : db.endedRow t g = some row := by
    rw [endedRow, if_neg (fun hor => hor.elim ht hg), hkey, hrow]
  have heff : effectiveHostId row h ≠ [] := by
    unfold effectiveHostId
    split
    · exact hh
    · assumption
  rcases endRemoteControlSession_cases db now t h g with ⟨hnone, _⟩ | ⟨row', hended', _, hres⟩
  · exact absurd (hnone row hended) heff
  · rw [hended] at hended'
    obtain rfl := Option.some.inj hended'
    have hguest : bindText (normalizeRemoteDeviceId g) = bindText (normalizeRemoteDeviceId k.guestId.val) := by
      rw [← hgk, bindText_val, bindText_normalize_cstr]
    rw [hres]
    show ((db.updatePresence (bindText (normalizeRemoteDeviceId g)) _).updatePresence
      (bindText (normalizeRemoteDeviceId (effectiveHostId row h))) _).devicePresence[d]? = _
    rw [updatePresence_row, updatePresence_row, hguest, bindText_effectiveHostId hhost]
    cases db.devicePresence[d]? with
    | none => simp
    | some p =>
        by_cases hgd : bindText (normalizeRemoteDeviceId k.guestId.val) = d <;>
          by_cases hhd : bindText (normalizeRemoteDeviceId row.hostId.val) = d <;>
            simp [hgd, hhd, creditedRow, creditControl, creditControlled]

/-! ## Sessions that are migrated as they are credited -/

/-- **The migration normalizes a session like the running server**: `InitDB` writes what
    `NormalizeRemoteDeviceId` gives, and the end of the session credits who was displayed. -/
structure MigratedLikeRuntime (db : DeviceDB) (k : SessionKey) (row : SessionRow) : Prop where
  filled : ∃ migrated, db.migrated.remoteControlSessions[k]? = some migrated ∧
    migrated.normalizedGuestId.val = normalizeRemoteDeviceId k.guestId.val ∧
    migrated.normalizedHostId.val = normalizeRemoteDeviceId row.hostId.val
  credited : ∀ now beat recovered, (db.initDB now beat).remoteControlSessions[k]? = some recovered →
    CreditedWhereShown k recovered

/-- A session is migrated like that exactly when neither of its ids starts with `c-`. -/
theorem migratedLikeRuntime_iff {db : DeviceDB} (hlegacy : db.LegacySessions) {k : SessionKey}
    {row : SessionRow} (hrow : db.remoteControlSessions[k]? = some row) : MigratedLikeRuntime db k row ↔
      ¬ startsWith (bytes "c-") k.guestId.val = true ∧ ¬ startsWith (bytes "c-") row.hostId.val = true := by
  have hmigrated : db.migrated.remoteControlSessions[k]? = some (backfilledRow k row) := by
    rw [migrated_session, hrow]
    rfl
  obtain ⟨hguestEmpty, hhostEmpty⟩ := hlegacy k row hrow
  have hguest : (backfilledRow k row).normalizedGuestId = backfilledId k.guestId .empty := by
    rw [backfilledRow, hguestEmpty]
  have hhost : (backfilledRow k row).normalizedHostId = backfilledId row.hostId .empty := by
    rw [backfilledRow, hhostEmpty]
  constructor
  · rintro ⟨⟨migrated, hat, hg, hh⟩, _⟩
    rw [hmigrated] at hat
    obtain rfl := Option.some.inj hat
    rw [hguest] at hg
    rw [hhost] at hh
    exact ⟨(backfilledId_eq_normalize_iff _).mp hg, (backfilledId_eq_normalize_iff _).mp hh⟩
  · rintro ⟨hg, hh⟩
    have hg' := (backfilledId_eq_normalize_iff _).mpr hg
    have hh' := (backfilledId_eq_normalize_iff _).mpr hh
    refine ⟨⟨_, hmigrated, by rw [hguest, hg'], by rw [hhost, hh']⟩, ?_⟩
    intro now beat recovered hrecovered
    have heq : recovered = backfilledRow k row := by
      rcases initDB_sessions db now beat with hsame | hnone
      · rw [hsame, hmigrated] at hrecovered
        exact (Option.some.inj hrecovered).symm
      · rw [hnone, Std.ExtTreeMap.getElem?_empty] at hrecovered
        exact absurd hrecovered (by simp)
    subst heq
    intro db' now' t h g hin ht hh hg htk hhk hgk d
    have htext : ∀ {id : SqlText} {s : Bytes}, id.val = s → bindText s = id := by
      rintro id _ rfl
      exact bindText_column id
    rw [endRemoteControlSession_presence now' hin ht hh hg htk hhk hgk, hguest, hhost]
    show (db'.devicePresence[d]?).map (creditedRow (bindText (normalizeRemoteDeviceId k.guestId.val))
      (bindText (normalizeRemoteDeviceId row.hostId.val)) _ d) = _
    rw [htext hg', htext hh']

/-- **An older table is migrated like the running server normalizes exactly when no id in it starts with
    `c-`.** -/
theorem backfill_normalises_iff {db : DeviceDB} (hlegacy : db.LegacySessions) :
    (∀ (k : SessionKey) row, db.remoteControlSessions[k]? = some row → MigratedLikeRuntime db k row) ↔
      ∀ (k : SessionKey) row, db.remoteControlSessions[k]? = some row →
        ¬ startsWith (bytes "c-") k.guestId.val = true ∧
          ¬ startsWith (bytes "c-") row.hostId.val = true := by
  refine forall_congr' fun k => forall_congr' fun row => ?_
  exact ⟨fun h hrow => (migratedLikeRuntime_iff hlegacy hrow).mp (h hrow),
    fun h hrow => (migratedLikeRuntime_iff hlegacy hrow).mpr (h hrow)⟩

/-! ### A clone with a small letter in front -/

/-- An older table with the one session of `guest` on the device `123456789`. -/
def legacySession (guest : Bytes) : DeviceDB :=
  { newFile with
      remoteControlSessions := (∅ : Std.ExtTreeMap SessionKey SessionRow).insert
        ⟨bindText (bytes "123456789"), bindText guest⟩
        ⟨bindText (bytes "123456789"), .empty, .empty, 900⟩ }

theorem legacySession_row {guest : Bytes} {k : SessionKey} {row : SessionRow}
    (h : (legacySession guest).remoteControlSessions[k]? = some row) :
    k = ⟨bindText (bytes "123456789"), bindText guest⟩ ∧
      row = ⟨bindText (bytes "123456789"), .empty, .empty, 900⟩ := by
  unfold legacySession at h
  rw [Std.ExtTreeMap.getElem?_insert_eq] at h
  split at h
  · rename_i hk
    exact ⟨hk.symm, (Option.some.inj h).symm⟩
  · rw [Std.ExtTreeMap.getElem?_empty] at h
    exact absurd h (by simp)

theorem legacySession_legacy (guest : Bytes) : (legacySession guest).LegacySessions := by
  intro k row h
  obtain ⟨_, rfl⟩ := legacySession_row h
  exact ⟨rfl, rfl⟩

/-- The session of a controller clone is migrated as it should. -/
theorem cloneSession_migrated : MigratedLikeRuntime (legacySession (bytes "C-7"))
    ⟨bindText (bytes "123456789"), bindText (bytes "C-7")⟩
    ⟨bindText (bytes "123456789"), .empty, .empty, 900⟩ := by
  refine (backfill_normalises_iff (legacySession_legacy (bytes "C-7"))).mpr (fun k row h => ?_) _ _
    Std.ExtTreeMap.getElem?_insert_self
  obtain ⟨rfl, rfl⟩ := legacySession_row h
  exact ⟨by decide, by decide⟩

/-- The guest `c-C-7` is displayed as `C-7` and credited as itself. -/
theorem smallCloneSession_misnormalised : ¬ ∀ (k : SessionKey) row,
    (legacySession (bytes "c-C-7")).remoteControlSessions[k]? = some row →
      MigratedLikeRuntime (legacySession (bytes "c-C-7")) k row := by
  intro h
  obtain ⟨⟨migrated, hat, hguest, _⟩, _⟩ := h _ _ Std.ExtTreeMap.getElem?_insert_self
  rw [migrated_session] at hat
  obtain ⟨row, hrow, rfl⟩ := Option.map_eq_some_iff.mp hat
  obtain ⟨_, rfl⟩ := legacySession_row hrow
  exact absurd hguest (by decide)

end DeviceDB
end DeskServer
