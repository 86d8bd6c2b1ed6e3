import DeskServer.Database.Durations

/-!
# `Database.Conservation` — ending a session moves its seconds

An end takes the live part of one session out of the reported totals and adds the same seconds to the
stored ones. The guest's seconds come back to the guest by construction. The host's come back to the
stored host; only when the stored host text is empty does the caller's `host_id` decide, and then the
seconds can leave the device they were reported for (`Miscredits`). That is the only way any of the six
operations changes a reported total.

**Shape.** An end is written as one rewrite of the two rows (`endRemoteControlSession_cases`), of which stored
and reported seconds are computed apart (`stored_ended`, `reportedTotals_ended`); the condition falls out of
their difference. A transmission ends by induction on its sessions.
-/

namespace DeskServer

open Bytes PresenceRow

namespace DeviceDB

variable {db : DeviceDB}

/-! ## `add_duration` -/

theorem updatePresence_row (d a : SqlText) (g : PresenceRow → PresenceRow) :
    (db.updatePresence d g).devicePresence[a]?
      = if d = a then (db.devicePresence[a]?).map g else db.devicePresence[a]? := by
  unfold updatePresence
  rw [Std.ExtTreeMap.getElem?_alter_eq]
  split
  · rename_i h; subst h; rfl
  · rfl

theorem updatePresence_isSome (d a : SqlText) (g : PresenceRow → PresenceRow) :
    ((db.updatePresence d g).devicePresence[a]?).isSome = (db.devicePresence[a]?).isSome := by
  rw [updatePresence_row]
  split
  · exact Option.isSome_map
  · rfl

theorem stored_update_same {f : PresenceRow → Int} {g : PresenceRow → PresenceRow}
    (hf : ∀ row, f (g row) = f row) (d a : SqlText) :
    stored f (db.updatePresence d g) a = stored f db a := by
  unfold stored
  rw [updatePresence_row]
  split
  · rw [Option.map_map]; congr 2; funext row; exact hf row
  · rfl

theorem stored_update_add {f : PresenceRow → Int} {g : PresenceRow → PresenceRow} {v : Int}
    (hf : ∀ row, f (g row) = f row + v) (d a : SqlText) :
    stored f (db.updatePresence d g) a
      = stored f db a + if d = a ∧ (db.devicePresence[a]?).isSome then v else 0 := by
  unfold stored
  rw [updatePresence_row]
  cases hrow : db.devicePresence[a]? with
  | none => by_cases hd : d = a <;> simp [hd]
  | some row => by_cases hd : d = a <;> simp [hd, hf]

theorem Accounted.update (h : Accounted db) {g : PresenceRow → PresenceRow}
    (hg : ∀ row, (g row).online = row.online ∧ (g row).onlineSince = row.onlineSince ∧
      (g row).updatedAt = row.updatedAt) (d : SqlText) : Accounted (db.updatePresence d g) where
  guest := h.guest
  host := h.host
  guestPresent k row hk := by rw [updatePresence_isSome]; exact h.guestPresent k row hk
  hostPresent k row hk := by rw [updatePresence_isSome]; exact h.hostPresent k row hk
  flag a row hrow := by
    rw [updatePresence_row] at hrow
    split at hrow
    · obtain ⟨old, hold, rfl⟩ := Option.map_eq_some_iff.mp hrow
      rw [(hg old).1]; exact h.flag a old hold
    · exact h.flag a row hrow
  since a row hrow := by
    rw [updatePresence_row] at hrow
    split at hrow
    · obtain ⟨old, hold, rfl⟩ := Option.map_eq_some_iff.mp hrow
      rw [(hg old).1, (hg old).2.1, (hg old).2.2]; exact h.since a old hold
    · exact h.since a row hrow

/-! ## The end of one session -/

/-- The row of an end call, when the call gets that far. -/
def endedRow (db : DeviceDB) (transmissionId guestId : Bytes) : Option SessionRow :=
  if transmissionId = [] ∨ guestId = [] then none
  else db.remoteControlSessions[(⟨bindText transmissionId, bindText guestId⟩ : SessionKey)]?

/-- The database after `row` was ended under the effective host `host`. -/
def ended (db : DeviceDB) (now : Int) (key : SessionKey) (row : SessionRow) (host guestId : Bytes) :
    DeviceDB :=
  let credited := (db.addControl (normalizeRemoteDeviceId guestId) (elapsed now row)).addControlled
    (normalizeRemoteDeviceId host) (elapsed now row)
  { credited with remoteControlSessions := credited.remoteControlSessions.erase key }

/-- **What an end does**: nothing, or one credited and deleted row. -/
theorem endRemoteControlSession_cases (db : DeviceDB) (now : Int)
    (transmissionId hostId guestId : Bytes) :
    ((∀ row, db.endedRow transmissionId guestId = some row → effectiveHostId row hostId = []) ∧
      (db.endRemoteControlSession now transmissionId hostId guestId).2 = db) ∨
    (∃ row, db.endedRow transmissionId guestId = some row ∧ effectiveHostId row hostId ≠ [] ∧
      (db.endRemoteControlSession now transmissionId hostId guestId).2
        = db.ended now ⟨bindText transmissionId, bindText guestId⟩ row
            (effectiveHostId row hostId) guestId) := by
  unfold endRemoteControlSession endedRow
  by_cases hempty : transmissionId = [] ∨ guestId = []
  · left
    simp [hempty]
  · simp only [hempty, if_false]
    cases hrow : db.remoteControlSessions[(⟨bindText transmissionId, bindText guestId⟩ :
        SessionKey)]? with
    | none => left; simp
    | some row =>
        by_cases heff : effectiveHostId row hostId = []
        · left
          simp only [heff, if_true, Option.some.injEq, forall_eq', and_self]
        · right
          refine ⟨row, rfl, heff, ?_⟩
          simp only [heff, if_false]
          rfl

theorem endedRow_lookup {transmissionId guestId : Bytes} {row : SessionRow}
    (h : db.endedRow transmissionId guestId = some row) :
    db.remoteControlSessions[(⟨bindText transmissionId, bindText guestId⟩ : SessionKey)]?
      = some row := by
  unfold endedRow at h
  split at h
  · exact absurd h (by simp)
  · exact h

theorem Accounted.ended (h : Accounted db) (now : Int) (key : SessionKey) (row : SessionRow)
    (host guestId : Bytes) : Accounted (db.ended now key row host guestId) := by
  have hupd : Accounted ((db.addControl (normalizeRemoteDeviceId guestId)
      (elapsed now row)).addControlled (normalizeRemoteDeviceId host) (elapsed now row)) :=
    (h.update (g := creditControl (elapsed now row)) (fun _ => ⟨rfl, rfl, rfl⟩) _).update
      (g := creditControlled (elapsed now row)) (fun _ => ⟨rfl, rfl, rfl⟩) _
  have key' : ∀ (a : SessionKey) r, (db.remoteControlSessions.erase key)[a]? = some r →
      db.remoteControlSessions[a]? = some r := by
    intro a r hr
    rw [Std.ExtTreeMap.getElem?_erase_eq] at hr
    split at hr
    · exact absurd hr (by simp)
    · exact hr
  exact ⟨fun a r hr => hupd.guest a r (key' a r hr), fun a r hr => hupd.host a r (key' a r hr),
    fun a r hr => hupd.guestPresent a r (key' a r hr),
    fun a r hr => hupd.hostPresent a r (key' a r hr), hupd.flag, hupd.since⟩

/-- The columns after an end: the control seconds are added for the guest, the controlled ones for the
    effective host. -/
theorem stored_ended (db : DeviceDB) (now : Int) (key : SessionKey) (row : SessionRow)
    (host guestId : Bytes) (d : SqlText) :
    stored (fun r => r.totalOnlineSeconds + r.liveOnline now) (db.ended now key row host guestId) d
      = stored (fun r => r.totalOnlineSeconds + r.liveOnline now) db d ∧
    stored totalControlSeconds (db.ended now key row host guestId) d
      = stored totalControlSeconds db d
        + (if bindText (normalizeRemoteDeviceId guestId) = d ∧ (db.devicePresence[d]?).isSome
            then elapsed now row else 0) ∧
    stored totalControlledSeconds (db.ended now key row host guestId) d
      = stored totalControlledSeconds db d
        + (if bindText (normalizeRemoteDeviceId host) = d ∧ (db.devicePresence[d]?).isSome
            then elapsed now row else 0) := by
  have hpres : ((db.addControl (normalizeRemoteDeviceId guestId)
      (elapsed now row)).devicePresence[d]?).isSome = (db.devicePresence[d]?).isSome :=
    updatePresence_isSome _ d _
  refine ⟨?_, ?_, ?_⟩
  · show stored _ ((db.addControl _ _).addControlled _ _) d = _
    rw [addControlled, stored_update_same (g := creditControlled _) (fun _ => rfl), addControl,
      stored_update_same (g := creditControl _) (fun _ => rfl)]
  · show stored _ ((db.addControl _ _).addControlled _ _) d = _
    rw [addControlled, stored_update_same (g := creditControlled _) (fun _ => rfl), addControl,
      stored_update_add (g := creditControl _) (fun _ => rfl)]
  · show stored _ ((db.addControl _ _).addControlled _ _) d = _
    rw [addControlled, stored_update_add (g := creditControlled _) (fun _ => rfl), hpres, addControl,
      stored_update_same (g := creditControl _) (fun _ => rfl)]

/-- **The balance of an end.** The online and control totals stay; the controlled total gains the
    seconds where they were credited and loses them where they were live. -/
theorem reportedTotals_ended (h : Accounted db) (now : Int) {key : SessionKey} {row : SessionRow}
    (hrow : db.remoteControlSessions[key]? = some row) {guestId : Bytes}
    (hkey : key.guestId = bindText guestId) (host : Bytes) (d : SqlText) :
    (db.ended now key row host guestId).reportedTotals now d =
      { db.reportedTotals now d with
        controlled := (db.reportedTotals now d).controlled
          + (if bindText (normalizeRemoteDeviceId host) = d ∧ (db.devicePresence[d]?).isSome
              then elapsed now row else 0)
          - (if row.normalizedHostId = d then elapsed now row else 0) } := by
  have hguest : row.normalizedGuestId = bindText (normalizeRemoteDeviceId guestId) := by
    rw [h.guest key row hrow, hkey, bindText_val, bindText_normalize_cstr]
  rw [(h.ended now key row host guestId).reportedTotals_eq, h.reportedTotals_eq]
  obtain ⟨honline, hcontrol, hcontrolled⟩ := stored_ended db now key row host guestId d
  have hlive : db.liveControl now d = (if row.normalizedGuestId = d then elapsed now row else 0)
      + (db.ended now key row host guestId).liveControl now d :=
    Std.ExtTreeMap.sumBy_erase _ hrow
  have hlived : db.liveControlled now d = (if row.normalizedHostId = d then elapsed now row else 0)
      + (db.ended now key row host guestId).liveControlled now d :=
    Std.ExtTreeMap.sumBy_erase _ hrow
  -- the guest's presence row is there, so its credit lands exactly where its live part was
  have hback : (if bindText (normalizeRemoteDeviceId guestId) = d ∧ (db.devicePresence[d]?).isSome
      then elapsed now row else 0) = if row.normalizedGuestId = d then elapsed now row else 0 := by
    by_cases hd : row.normalizedGuestId = d
    · have hpres : (db.devicePresence[d]?).isSome := hd ▸ h.guestPresent key row hrow
      rw [if_pos ⟨hguest ▸ hd, hpres⟩, if_pos hd]
    · rw [if_neg (fun hc => hd (hguest ▸ hc.1)), if_neg hd]
  rw [honline, hcontrol, hcontrolled, hback, hlive, hlived]
  simp only [DurationTotals.mk.injEq, true_and]
  constructor <;> omega

/-- The seconds of the ended session reach the device they were reported for exactly when the
    effective host normalizes to the stored one, or there are none. -/
theorem conserved_ended_iff (h : Accounted db) (now : Int) {key : SessionKey} {row : SessionRow}
    (hrow : db.remoteControlSessions[key]? = some row) {guestId : Bytes}
    (hkey : key.guestId = bindText guestId) (host : Bytes) :
    Conserved now db (db.ended now key row host guestId) ↔
      bindText (normalizeRemoteDeviceId host) = row.normalizedHostId ∨ now ≤ row.startedAt := by
  have hpres := h.hostPresent key row hrow
  constructor
  · intro hcons
    by_cases hhost : bindText (normalizeRemoteDeviceId host) = row.normalizedHostId
    · exact .inl hhost
    · right
      have hd := hcons row.normalizedHostId
      rw [reportedTotals_ended h now hrow hkey] at hd
      have hcd := congrArg DurationTotals.controlled hd
      simp only [hhost, false_and, if_false, if_true] at hcd
      have : elapsed now row = 0 := by omega
      unfold elapsed at this
      omega
  · intro hcase d
    rw [reportedTotals_ended h now hrow hkey]
    have heq : (if bindText (normalizeRemoteDeviceId host) = d ∧ (db.devicePresence[d]?).isSome
        then elapsed now row else 0) = if row.normalizedHostId = d then elapsed now row else 0 := by
      rcases hcase with hhost | hle
      · by_cases hd : row.normalizedHostId = d
        · rw [if_pos ⟨hhost.trans hd, hd ▸ hpres⟩, if_pos hd]
        · rw [if_neg (fun hc => hd (hhost ▸ hc.1)), if_neg hd]
      · have hz : elapsed now row = 0 := by unfold elapsed; omega
        rw [hz]; simp
    rw [heq]
    simp only [Int.add_sub_cancel]

/-- **An end that moves seconds to another device**: the stored host text is empty, so the caller's
    host decides, and it is not the device the session was reported for. -/
def EndMiscredits (db : DeviceDB) (now : Int) (transmissionId hostId guestId : Bytes) : Prop :=
  ∃ row, db.endedRow transmissionId guestId = some row ∧ row.hostId = .empty ∧
    bindText (normalizeRemoteDeviceId hostId) ≠ .empty ∧ row.startedAt < now

theorem effectiveHostId_stored {row : SessionRow} (hostId : Bytes) (h : row.hostId ≠ .empty) :
    effectiveHostId row hostId = row.hostId.val := by
  rw [effectiveHostId, if_neg]
  intro hnil
  exact h (SqlText.ext hnil)

theorem effectiveHostId_empty {row : SessionRow} (hostId : Bytes) (h : row.hostId = .empty) :
    effectiveHostId row hostId = hostId := by
  rw [effectiveHostId, h]; rfl

theorem bindText_normalize_nil : bindText (normalizeRemoteDeviceId []) = .empty := rfl

/-- **An end keeps the invariant, and the totals unless it miscredits.** -/
theorem endRemoteControlSession_spec (h : Accounted db) (now : Int)
    (transmissionId hostId guestId : Bytes) :
    Accounted (db.endRemoteControlSession now transmissionId hostId guestId).2 ∧
      (Conserved now db (db.endRemoteControlSession now transmissionId hostId guestId).2 ↔
        ¬ db.EndMiscredits now transmissionId hostId guestId) := by
  rcases endRemoteControlSession_cases db now transmissionId hostId guestId with
    ⟨hnone, hsame⟩ | ⟨row, hended, heff, hres⟩
  · rw [hsame]
    refine ⟨h, iff_of_true (.refl now db) ?_⟩
    rintro ⟨row, hended, hempty, hne, _⟩
    have := hnone row hended
    rw [effectiveHostId_empty hostId hempty] at this
    subst this
    exact hne bindText_normalize_nil
  · have hrow := endedRow_lookup hended
    rw [hres]
    refine ⟨h.ended now _ row _ guestId, ?_⟩
    rw [conserved_ended_iff h now hrow rfl]
    by_cases hempty : row.hostId = .empty
    · have hhost : row.normalizedHostId = .empty := by
        rw [h.host _ row hrow, hempty]; exact bindText_normalize_nil
      rw [effectiveHostId_empty hostId hempty, hhost]
      constructor
      · rintro hcase ⟨row', hended', _, hne, hlt⟩
        rw [hended] at hended'
        obtain rfl := Option.some.inj hended'
        rcases hcase with hc | hc
        · exact hne hc
        · omega
      · intro hno
        by_cases hc : bindText (normalizeRemoteDeviceId hostId) = .empty
        · exact .inl hc
        · right
          by_contra hlt
          exact hno ⟨row, hended, hempty, hc, by omega⟩
    · rw [effectiveHostId_stored hostId hempty]
      apply iff_of_true (.inl (h.host _ row hrow).symm)
      rintro ⟨row', hended', hempty', _, _⟩
      rw [hended] at hended'
      obtain rfl := Option.some.inj hended'
      exact hempty hempty'

/-! ## The end of a whole transmission -/

theorem endRemoteControlSession_sessions (db : DeviceDB) (now : Int)
    (transmissionId hostId guestId : Bytes) (k : SessionKey) (row : SessionRow)
    (hk : (db.endRemoteControlSession now transmissionId hostId guestId).2.remoteControlSessions[k]?
      = some row) : db.remoteControlSessions[k]? = some row := by
  rcases endRemoteControlSession_cases db now transmissionId hostId guestId with
    ⟨_, hsame⟩ | ⟨r, _, _, hres⟩
  · rwa [hsame] at hk
  · rw [hres] at hk
    have hk' : (db.remoteControlSessions.erase ⟨bindText transmissionId, bindText guestId⟩)[k]?
        = some row := hk
    rw [Std.ExtTreeMap.getElem?_erase_eq] at hk'
    split at hk'
    · exact absurd hk' (by simp)
    · exact hk'

/-- Induction on the sessions still to end: each is ended under the host stored in its own row. -/
theorem foldl_endStep_spec (now : Int) (transmissionId : Bytes) (origin : DeviceDB)
    (l : List (Bytes × Bytes))
    (hl : ∀ e ∈ l, ∃ row, origin.remoteControlSessions[(⟨bindText transmissionId, bindText e.2⟩ :
      SessionKey)]? = some row ∧ row.hostId.val = e.1)
    (acc : Bool × DeviceDB) (h : Accounted acc.2) (hcons : Conserved now origin acc.2)
    (hsub : ∀ (k : SessionKey) row, acc.2.remoteControlSessions[k]? = some row →
      origin.remoteControlSessions[k]? = some row) :
    Accounted (l.foldl (endStep now transmissionId) acc).2 ∧
      Conserved now origin (l.foldl (endStep now transmissionId) acc).2 := by
  induction l generalizing acc with
  | nil => exact ⟨h, hcons⟩
  | cons e l ih =>
      obtain ⟨hacc, hiff⟩ := endRemoteControlSession_spec h now transmissionId e.1 e.2
      have hno : ¬ acc.2.EndMiscredits now transmissionId e.1 e.2 := by
        rintro ⟨row, hended, hempty, hne, _⟩
        obtain ⟨row', hrow', hhost⟩ := hl e (by simp)
        have := hsub _ row (endedRow_lookup hended)
        rw [hrow'] at this
        obtain rfl := Option.some.inj this
        have hnil : e.1 = [] := by rw [← hhost, hempty]; rfl
        rw [hnil] at hne
        exact hne bindText_normalize_nil
      refine ih (fun x hx => hl x (by simp [hx])) (endStep now transmissionId acc e) hacc
        (hcons.trans (hiff.mpr hno)) fun k row hk => ?_
      exact hsub k row (endRemoteControlSession_sessions _ now transmissionId e.1 e.2 k row hk)

theorem endRemoteControlTransmission_spec (h : Accounted db) (now : Int) (transmissionId : Bytes) :
    Accounted (db.endRemoteControlTransmission now transmissionId).2 ∧
      Conserved now db (db.endRemoteControlTransmission now transmissionId).2 := by
  unfold endRemoteControlTransmission
  split
  · exact ⟨h, .refl now db⟩
  · refine foldl_endStep_spec now transmissionId db _ (fun e he => ?_) (true, db) h (.refl now db)
      fun _ _ hk => hk
    obtain ⟨entry, hentry, rfl⟩ := List.mem_map.mp he
    obtain ⟨hmem, htr⟩ := List.mem_filter.mp hentry
    have hrow := Std.ExtTreeMap.mem_toList.mp hmem
    refine ⟨entry.2, ?_, rfl⟩
    rw [bindText_column, ← of_decide_eq_true htr]
    exact hrow

end DeviceDB
end DeskServer
