import DeskServer.Database.Sessions

/-!
# `Database.Durations` — reported totals and their conservation

What the console reports for a device is the stored seconds of its presence row plus the live part of
its open intervals: the open online interval of the row itself, and the sessions it is the guest or the
host of. The two halves are computed from different tables under different keys; `Accounted` is what
keeps them together. Under it, every operation leaves every reported total as it was at that second.

**Shape.** Most operations only upsert a row. `Neutral` says that the new row reports what the old one did,
and `conserved_upsert` that this is enough; what is left for an operation is one `Neutral` lemma. Seconds are
integers without a bound here.
-/

namespace DeskServer

open Bytes PresenceRow

/-- The three totals of one device. -/
structure DurationTotals where
  online : Int
  control : Int
  controlled : Int
deriving DecidableEq

namespace DeviceDB

/-- `MAX(0, now - started_at)`. -/
def elapsed (now : Int) (row : SessionRow) : Int := max 0 (now - row.startedAt)

/-- `SUM(MAX(0, now - started_at)) … WHERE normalized_guest_id = d`. -/
def liveControl (db : DeviceDB) (now : Int) (d : SqlText) : Int :=
  db.remoteControlSessions.sumBy fun _ row =>
    if row.normalizedGuestId = d then elapsed now row else 0

/-- `SUM(MAX(0, now - started_at)) … WHERE normalized_host_id = d`. -/
def liveControlled (db : DeviceDB) (now : Int) (d : SqlText) : Int :=
  db.remoteControlSessions.sumBy fun _ row =>
    if row.normalizedHostId = d then elapsed now row else 0

/-- The totals the duration queries show for the presence row of `d`; nothing without a row. -/
def reportedTotals (db : DeviceDB) (now : Int) (d : SqlText) : DurationTotals :=
  match db.devicePresence[d]? with
  | none => ⟨0, 0, 0⟩
  | some row =>
    { online := row.totalOnlineSeconds + row.liveOnline now
      control := row.totalControlSeconds + db.liveControl now d
      controlled := row.totalControlledSeconds + db.liveControlled now d }

/-- **The accounting invariant.** A session row carries the normalized ids of its two ends, both ends
    have a presence row, and a presence row is online or not. -/
structure Accounted (db : DeviceDB) : Prop where
  guest : ∀ (k : SessionKey) row, db.remoteControlSessions[k]? = some row →
    row.normalizedGuestId = bindText (normalizeRemoteDeviceId k.guestId.val)
  host : ∀ (k : SessionKey) row, db.remoteControlSessions[k]? = some row →
    row.normalizedHostId = bindText (normalizeRemoteDeviceId row.hostId.val)
  guestPresent : ∀ (k : SessionKey) row, db.remoteControlSessions[k]? = some row →
    (db.devicePresence[row.normalizedGuestId]?).isSome
  hostPresent : ∀ (k : SessionKey) row, db.remoteControlSessions[k]? = some row →
    (db.devicePresence[row.normalizedHostId]?).isSome
  flag : ∀ (d : SqlText) row, db.devicePresence[d]? = some row → row.online = 0 ∨ row.online = 1
  since : ∀ (d : SqlText) row, db.devicePresence[d]? = some row →
    row.online = 1 → row.onlineSince = 0 → row.updatedAt = 0

/-- A column of the presence row of `d`, `0` without a row. -/
def stored (f : PresenceRow → Int) (db : DeviceDB) (d : SqlText) : Int :=
  ((db.devicePresence[d]?).map f).getD 0

variable {db db' : DeviceDB}

/-- The invariant reads the two tables and nothing else. -/
theorem Accounted.of_tables (h : Accounted db) (hp : db'.devicePresence = db.devicePresence)
    (hs : db'.remoteControlSessions = db.remoteControlSessions) : Accounted db' where
  guest := by rw [hs]; exact h.guest
  host := by rw [hs]; exact h.host
  guestPresent := by rw [hs, hp]; exact h.guestPresent
  hostPresent := by rw [hs, hp]; exact h.hostPresent
  flag := by rw [hp]; exact h.flag
  since := by rw [hp]; exact h.since

theorem elapsed_nonneg (now : Int) (row : SessionRow) : 0 ≤ elapsed now row := le_max_left _ _

theorem Accounted.live_zero (h : Accounted db) (now : Int) {d : SqlText}
    (hd : db.devicePresence[d]? = none) : db.liveControl now d = 0 ∧ db.liveControlled now d = 0 := by
  have habsent : ∀ a : SqlText, (db.devicePresence[a]?).isSome → a ≠ d := by
    rintro a ha rfl
    rw [hd] at ha; exact absurd ha (by simp)
  constructor
  · refine (Std.ExtTreeMap.sumBy_eq_zero_iff fun k row hk => ?_).mpr fun k row hk => ?_
    · split
      · exact elapsed_nonneg now row
      · exact le_refl 0
    · rw [if_neg (habsent _ (h.guestPresent k row hk))]
  · refine (Std.ExtTreeMap.sumBy_eq_zero_iff fun k row hk => ?_).mpr fun k row hk => ?_
    · split
      · exact elapsed_nonneg now row
      · exact le_refl 0
    · rw [if_neg (habsent _ (h.hostPresent k row hk))]

/-- **Stored plus live.** Under the invariant a device without a row has no live part either. -/
theorem Accounted.reportedTotals_eq (h : Accounted db) (now : Int) (d : SqlText) :
    db.reportedTotals now d =
      { online := stored (fun row => row.totalOnlineSeconds + row.liveOnline now) db d
        control := stored totalControlSeconds db d + db.liveControl now d
        controlled := stored totalControlledSeconds db d + db.liveControlled now d } := by
  unfold reportedTotals stored
  cases hd : db.devicePresence[d]? with
  | some row => rfl
  | none =>
      obtain ⟨hc, hcd⟩ := h.live_zero now hd
      simp [hc, hcd]

/-- An operation at `now` conserves the totals when no reported total changes at that second. -/
def Conserved (now : Int) (db db' : DeviceDB) : Prop :=
  ∀ d, db'.reportedTotals now d = db.reportedTotals now d

/-! ## Upserts -/

/-- An upsert that neither credits nor forgets anything at `now`. -/
structure Neutral (now : Int) (f : Option PresenceRow → PresenceRow) : Prop where
  online : ∀ old : Option PresenceRow, (f old).totalOnlineSeconds + (f old).liveOnline now
    = (old.map fun row => row.totalOnlineSeconds + row.liveOnline now).getD 0
  control : ∀ old, (f old).totalControlSeconds = (old.map totalControlSeconds).getD 0
  controlled : ∀ old, (f old).totalControlledSeconds = (old.map totalControlledSeconds).getD 0

/-- An upsert that keeps rows within the invariant. -/
def KeepsFlag (f : Option PresenceRow → PresenceRow) : Prop :=
  ∀ old : Option PresenceRow,
    (∀ row, old = some row → (row.online = 0 ∨ row.online = 1) ∧
      (row.online = 1 → row.onlineSince = 0 → row.updatedAt = 0)) →
    ((f old).online = 0 ∨ (f old).online = 1) ∧
      ((f old).online = 1 → (f old).onlineSince = 0 → (f old).updatedAt = 0)

theorem stored_upsert {f : Option PresenceRow → PresenceRow} {g : PresenceRow → Int}
    (hf : ∀ old, g (f old) = (old.map g).getD 0) (d a : SqlText) :
    stored g (db.upsertPresence d f) a = stored g db a := by
  unfold stored
  rw [upsertPresence_row]
  split
  · rename_i h; subst h; simp [hf]
  · rfl

theorem Accounted.upsert (h : Accounted db) {f : Option PresenceRow → PresenceRow} (hf : KeepsFlag f)
    (d : SqlText) : Accounted (db.upsertPresence d f) where
  guest := h.guest
  host := h.host
  guestPresent k row hk := by
    rw [upsertPresence_row]
    split
    · rfl
    · exact h.guestPresent k row hk
  hostPresent k row hk := by
    rw [upsertPresence_row]
    split
    · rfl
    · exact h.hostPresent k row hk
  flag a row hrow := by
    rw [upsertPresence_row] at hrow
    split at hrow
    · rw [← Option.some.inj hrow]
      exact (hf _ fun r hr => ⟨h.flag a r hr, h.since a r hr⟩).1
    · exact h.flag a row hrow
  since a row hrow := by
    rw [upsertPresence_row] at hrow
    split at hrow
    · rw [← Option.some.inj hrow]
      exact (hf _ fun r hr => ⟨h.flag a r hr, h.since a r hr⟩).2
    · exact h.since a row hrow

theorem conserved_upsert (h : Accounted db) {now : Int} {f : Option PresenceRow → PresenceRow}
    (hf : KeepsFlag f) (hn : Neutral now f) (d : SqlText) :
    Conserved now db (db.upsertPresence d f) := by
  intro a
  rw [(h.upsert hf d).reportedTotals_eq, h.reportedTotals_eq, stored_upsert hn.control,
    stored_upsert hn.controlled,
    stored_upsert (g := fun row => row.totalOnlineSeconds + row.liveOnline now) hn.online]
  rfl

theorem onlineUpsert_neutral (now : Int) : Neutral now (onlineUpsert now) where
  online old := by
    cases old with
    | none => simp [onlineUpsert, liveOnline]
    | some row =>
        by_cases hopen : row.intervalOpen = true
        · -- the open interval is kept, so its live part is the same
          have hpos : row.online = 1 ∧ row.onlineSince > 0 := by
            simpa [intervalOpen] using hopen
          simp [onlineUpsert, liveOnline, intervalOpen, hpos.1, hpos.2]
        · -- a fresh interval starts at `now` and has no live part yet
          simp only [onlineUpsert, liveOnline, if_neg hopen, Option.map_some, Option.getD_some]
          simp
  control old := by cases old <;> rfl
  controlled old := by cases old <;> rfl

theorem onlineUpsert_keepsFlag (now : Int) : KeepsFlag (onlineUpsert now) := by
  intro old hold
  cases old with
  | none => exact ⟨.inr rfl, fun _ h => h⟩
  | some row =>
      refine ⟨.inr rfl, fun _ h => ?_⟩
      by_cases hopen : row.intervalOpen = true
      · have hpos : row.onlineSince > 0 := by
          have := hopen; simp [intervalOpen] at this; exact this.2
        simp only [onlineUpsert, hopen, if_true] at h
        omega
      · simpa [onlineUpsert, hopen] using h

theorem offlineUpsert_neutral (now : Int) : Neutral now (offlineUpsert now) where
  online old := by
    cases old with
    | none => simp [offlineUpsert, offlineSince, liveOnline, intervalOpen]
    | some row => simp [offlineUpsert, liveOnline, intervalOpen]
  control old := by cases old <;> rfl
  controlled old := by cases old <;> rfl

theorem offlineUpsert_keepsFlag (now : Int) : KeepsFlag (offlineUpsert now) := by
  intro old _
  have hne : ¬ (0 : Int) = 1 := by decide
  cases old <;> exact ⟨.inl rfl, fun h => absurd h hne⟩

/-- An upsert that only writes descriptive columns. -/
theorem descriptive_neutral {now : Int} (now' : Int) {f : Option PresenceRow → PresenceRow}
    (hf : ∀ old, (f old).online = (old.getD (offlineSince now')).online ∧
      (f old).onlineSince = (old.getD (offlineSince now')).onlineSince ∧
      (f old).updatedAt = (old.getD (offlineSince now')).updatedAt ∧
      (f old).totalOnlineSeconds = (old.getD (offlineSince now')).totalOnlineSeconds ∧
      (f old).totalControlSeconds = (old.getD (offlineSince now')).totalControlSeconds ∧
      (f old).totalControlledSeconds = (old.getD (offlineSince now')).totalControlledSeconds) :
    Neutral now f ∧ KeepsFlag f := by
  refine ⟨⟨?_, ?_, ?_⟩, ?_⟩
  · intro old
    obtain ⟨ho, hs, _, ht, _, _⟩ := hf old
    rw [ht, liveOnline, intervalOpen, ho, hs]
    cases old <;> simp [offlineSince, liveOnline, intervalOpen]
  · intro old
    obtain ⟨_, _, _, _, hc, _⟩ := hf old
    rw [hc]; cases old <;> rfl
  · intro old
    obtain ⟨_, _, _, _, _, hcd⟩ := hf old
    rw [hcd]; cases old <;> rfl
  · intro old hold
    obtain ⟨ho, hs, hu, _, _, _⟩ := hf old
    rw [ho, hs, hu]
    cases old with
    | none => exact ⟨.inl rfl, fun h => absurd h (by simp [offlineSince])⟩
    | some row => exact hold row rfl

/-! ## Starting a session -/

theorem ensurePresence_eq (db : DeviceDB) (now : Int) (deviceId : Bytes) :
    db.ensurePresence now deviceId
      = db.upsertPresence (bindText deviceId) fun old => old.getD (offlineSince now) := by
  unfold ensurePresence upsertPresence
  congr 1
  apply Std.ExtTreeMap.ext_getElem?
  intro a
  rw [Std.ExtTreeMap.getElem?_insertIfNew_eq, Std.ExtTreeMap.getElem?_alter_eq]
  by_cases ha : bindText deviceId = a
  · subst ha
    cases hrow : db.devicePresence[bindText deviceId]? with
    | none =>
        have : bindText deviceId ∉ db.devicePresence := by simpa using hrow
        simp [this]
    | some row =>
        have : bindText deviceId ∈ db.devicePresence := by
          rw [Std.ExtTreeMap.mem_iff_isSome_getElem?, hrow]; rfl
        simp [this]
  · simp [ha]

theorem ensurePresence_neutral (now : Int) :
    Neutral now (fun old => old.getD (offlineSince now)) ∧
      KeepsFlag (fun old => old.getD (offlineSince now)) :=
  descriptive_neutral now fun _ => ⟨rfl, rfl, rfl, rfl, rfl, rfl⟩

/-- After `ensure_presence` the row is there, and no row is lost. -/
theorem ensurePresence_isSome (db : DeviceDB) (now : Int) (deviceId : Bytes) (a : SqlText) :
    ((db.ensurePresence now deviceId).devicePresence[a]?).isSome ↔
      bindText deviceId = a ∨ (db.devicePresence[a]?).isSome := by
  rw [ensurePresence_eq, upsertPresence_row]
  split
  · rename_i h; simp [h]
  · rename_i h; simp [h]

/-- A session row may be added when it fits its key and both its ends have a presence row. -/
theorem Accounted.insertSession (h : Accounted db) {k : SessionKey} {row : SessionRow}
    (hg : row.normalizedGuestId = bindText (normalizeRemoteDeviceId k.guestId.val))
    (hh : row.normalizedHostId = bindText (normalizeRemoteDeviceId row.hostId.val))
    (hgp : (db.devicePresence[row.normalizedGuestId]?).isSome)
    (hhp : (db.devicePresence[row.normalizedHostId]?).isSome) :
    Accounted { db with
      remoteControlSessions := db.remoteControlSessions.insertIfNew k row } := by
  have key : ∀ (a : SessionKey) r, (db.remoteControlSessions.insertIfNew k row)[a]? = some r →
      (a = k ∧ r = row) ∨ db.remoteControlSessions[a]? = some r := by
    intro a r hr
    rw [Std.ExtTreeMap.getElem?_insertIfNew_eq] at hr
    split at hr
    · rename_i hka; exact .inl ⟨hka.1.symm, (Option.some.inj hr).symm⟩
    · exact .inr hr
  refine ⟨?_, ?_, ?_, ?_, h.flag, h.since⟩
  · intro a r hr
    rcases key a r hr with ⟨rfl, rfl⟩ | hr
    · exact hg
    · exact h.guest a r hr
  · intro a r hr
    rcases key a r hr with ⟨rfl, rfl⟩ | hr
    · exact hh
    · exact h.host a r hr
  · intro a r hr
    rcases key a r hr with ⟨rfl, rfl⟩ | hr
    · exact hgp
    · exact h.guestPresent a r hr
  · intro a r hr
    rcases key a r hr with ⟨rfl, rfl⟩ | hr
    · exact hhp
    · exact h.hostPresent a r hr

/-- A session that starts now has no live part yet. -/
theorem conserved_insertSession {now : Int} {k : SessionKey} {row : SessionRow}
    (hnow : row.startedAt = now) :
    Conserved now db { db with
      remoteControlSessions := db.remoteControlSessions.insertIfNew k row } := by
  intro d
  have hz : elapsed now row = 0 := by unfold elapsed; omega
  have hc : liveControl { db with
      remoteControlSessions := db.remoteControlSessions.insertIfNew k row } now d
      = db.liveControl now d :=
    Std.ExtTreeMap.sumBy_insertIfNew _ _ (by rw [hz]; split <;> rfl)
  have hcd : liveControlled { db with
      remoteControlSessions := db.remoteControlSessions.insertIfNew k row } now d
      = db.liveControlled now d :=
    Std.ExtTreeMap.sumBy_insertIfNew _ _ (by rw [hz]; split <;> rfl)
  unfold reportedTotals
  rw [hc, hcd]

theorem Conserved.refl (now : Int) (db : DeviceDB) : Conserved now db db := fun _ => rfl

theorem Conserved.trans {now : Int} {db'' : DeviceDB} (h : Conserved now db db')
    (h' : Conserved now db' db'') : Conserved now db db'' := fun d => (h' d).trans (h d)

/-- **A start keeps the invariant and every total.** -/
theorem startRemoteControlSession_spec (h : Accounted db) (now : Int)
    (transmissionId hostId guestId : Bytes) :
    Accounted (db.startRemoteControlSession now transmissionId hostId guestId).2 ∧
      Conserved now db (db.startRemoteControlSession now transmissionId hostId guestId).2 := by
  unfold startRemoteControlSession
  split
  · exact ⟨h, .refl now db⟩
  · obtain ⟨hn, hk⟩ := ensurePresence_neutral now
    have h1 : Accounted (db.ensurePresence now (normalizeRemoteDeviceId hostId)) := by
      rw [ensurePresence_eq]; exact h.upsert hk _
    have c1 : Conserved now db (db.ensurePresence now (normalizeRemoteDeviceId hostId)) := by
      rw [ensurePresence_eq]; exact conserved_upsert h hk hn _
    have h2 : Accounted ((db.ensurePresence now (normalizeRemoteDeviceId hostId)).ensurePresence now
        (normalizeRemoteDeviceId guestId)) := by
      rw [ensurePresence_eq _ now (normalizeRemoteDeviceId guestId)]; exact h1.upsert hk _
    have c2 : Conserved now (db.ensurePresence now (normalizeRemoteDeviceId hostId))
        ((db.ensurePresence now (normalizeRemoteDeviceId hostId)).ensurePresence now
          (normalizeRemoteDeviceId guestId)) := by
      rw [ensurePresence_eq _ now (normalizeRemoteDeviceId guestId)]; exact conserved_upsert h1 hk hn _
    refine ⟨h2.insertSession ?_ ?_ ?_ ?_, (c1.trans c2).trans (conserved_insertSession rfl)⟩
    · exact (bindText_normalize_cstr guestId).symm
    · exact (bindText_normalize_cstr hostId).symm
    · exact (ensurePresence_isSome _ now _ _).mpr (.inl rfl)
    · exact (ensurePresence_isSome _ now _ _).mpr
        (.inr ((ensurePresence_isSome _ now _ _).mpr (.inl rfl)))

end DeviceDB
end DeskServer
