import DeskServer.Database.Conservation

/-!
# `Database.Endings` — ending a list of sessions

A release and `EndRemoteControlTransmission` both end the sessions of one transmission one after the other.
What the whole list does is decided row by row: the first call that names the guest of a row, and finds a
host for it, credits its seconds and deletes it; every later one finds nothing. So each row is credited at
most once, and what a device gains is the sum over the rows that went.

**Shape.** `EndsAll` says what a list of ends leaves of rows and seconds. It holds of the empty list and is
kept by one more call, whether that ends a row (`EndsAll.cons_ended`) or none (`EndsAll.cons_none`), so that
`endAll_endsAll` is an induction on the list.
-/

namespace DeskServer

open Bytes PresenceRow

/-- A presence row with seconds added to both session totals. -/
def credited (control controlled : Int) (row : PresenceRow) : PresenceRow :=
  { row with
    totalControlSeconds := row.totalControlSeconds + control
    totalControlledSeconds := row.totalControlledSeconds + controlled }

theorem credited_zero : credited 0 0 = id := by
  funext row
  simp only [credited, Int.add_zero, id]

theorem credited_credited (a b c d : Int) (row : PresenceRow) :
    credited a b (credited c d row) = credited (c + a) (d + b) row := by
  unfold credited
  simp only [Int.add_assoc]

/-- Equal credits, read off one row. -/
theorem credited_inj {a b c d : Int} {row : PresenceRow} (h : credited a b row = credited c d row) :
    a = c ∧ b = d := by
  have hcontrol := congrArg totalControlSeconds h
  have hcontrolled := congrArg totalControlledSeconds h
  simp only [credited] at hcontrol hcontrolled
  constructor <;> omega

namespace DeviceDB

variable {db db' : DeviceDB} {now : Int} {t : Bytes} {l : List (Bytes × Bytes)} {k : SessionKey}
  {row : SessionRow} {d : SqlText}

/-- The calls `EndRemoteControlSession(t, host, guest)` for a list of hosts and guests. -/
def endAll (now : Int) (t : Bytes) (db : DeviceDB) (l : List (Bytes × Bytes)) : DeviceDB :=
  l.foldl (fun db session => (db.endRemoteControlSession now t session.1 session.2).2) db

/-- A call for this host and guest ends the row, if it is of that transmission. -/
def endsRow (k : SessionKey) (row : SessionRow) (session : Bytes × Bytes) : Bool :=
  decide (session.2 ≠ []) && decide (bindText session.2 = k.guestId) &&
    decide (effectiveHostId row session.1 ≠ [])

/-- The host a row is ended under, when the list has a call that ends it. -/
def endedUnder (t : Bytes) (l : List (Bytes × Bytes)) (k : SessionKey) (row : SessionRow) : Option Bytes :=
  if k.transmissionId = bindText t then
    (l.find? (endsRow k row)).map fun session => effectiveHostId row session.1
  else none

/-- The seconds of the row, if it is ended, for its guest `d`. -/
def controlCredit (now : Int) (t : Bytes) (l : List (Bytes × Bytes)) (d : SqlText) (k : SessionKey)
    (row : SessionRow) : Int :=
  if (endedUnder t l k row).isSome ∧ row.normalizedGuestId = d then elapsed now row else 0

/-- The seconds of the row, if it is ended, for the host `d` it is ended under. -/
def controlledCredit (now : Int) (t : Bytes) (l : List (Bytes × Bytes)) (d : SqlText) (k : SessionKey)
    (row : SessionRow) : Int :=
  if (endedUnder t l k row).map (fun host => bindText (normalizeRemoteDeviceId host)) = some d then
    elapsed now row
  else 0

/-- **What a list of ends does.** -/
structure EndsAll (now : Int) (t : Bytes) (l : List (Bytes × Bytes)) (db db' : DeviceDB) : Prop where
  sessions : ∀ k : SessionKey, db'.remoteControlSessions[k]?
    = (db.remoteControlSessions[k]?).filter fun row => (endedUnder t l k row).isNone
  presence : ∀ d : SqlText, db'.devicePresence[d]? = (db.devicePresence[d]?).map
    (credited (db.remoteControlSessions.sumBy (controlCredit now t l d))
      (db.remoteControlSessions.sumBy (controlledCredit now t l d)))
  devices : db'.devices = db.devices
  serverRuntime : db'.serverRuntime = db.serverRuntime

/-! ## One call -/

theorem endsRow_iff {session : Bytes × Bytes} : endsRow k row session = true ↔
    session.2 ≠ [] ∧ bindText session.2 = k.guestId ∧ effectiveHostId row session.1 ≠ [] := by
  unfold endsRow
  simp only [Bool.and_eq_true, decide_eq_true_eq, and_assoc]

theorem endedUnder_other (h : k.transmissionId ≠ bindText t) : endedUnder t l k row = none := if_neg h

theorem endedUnder_cons_of_not {session : Bytes × Bytes} (h : endsRow k row session = false) :
    endedUnder t (session :: l) k row = endedUnder t l k row := by
  unfold endedUnder
  rw [List.find?_cons, h]

theorem endedUnder_cons_of_ends {session : Bytes × Bytes} (h : endsRow k row session = true)
    (hk : k.transmissionId = bindText t) :
    endedUnder t (session :: l) k row = some (effectiveHostId row session.1) := by
  unfold endedUnder
  rw [if_pos hk, List.find?_cons, h]
  rfl

/-- The credits of one ended row. -/
theorem ended_presence (db : DeviceDB) (now : Int) (key : SessionKey) (row : SessionRow)
    (host guestId : Bytes) (d : SqlText) :
    (db.ended now key row host guestId).devicePresence[d]? = (db.devicePresence[d]?).map
      (credited (if bindText (normalizeRemoteDeviceId guestId) = d then elapsed now row else 0)
        (if bindText (normalizeRemoteDeviceId host) = d then elapsed now row else 0)) := by
  show ((db.addControl _ _).addControlled _ _).devicePresence[d]? = _
  rw [addControlled, updatePresence_row, addControl, updatePresence_row]
  by_cases hguest : bindText (normalizeRemoteDeviceId guestId) = d
  · by_cases hhost : bindText (normalizeRemoteDeviceId host) = d
    · rw [if_pos hhost, if_pos hguest, if_pos hguest, if_pos hhost, Option.map_map]
      rfl
    · rw [if_neg hhost, if_pos hguest, if_pos hguest, if_neg hhost]
      congr 1
      funext r
      simp only [creditControl, credited, Int.add_zero]
  · by_cases hhost : bindText (normalizeRemoteDeviceId host) = d
    · rw [if_pos hhost, if_neg hguest, if_neg hguest, if_pos hhost]
      congr 1
      funext r
      simp only [creditControlled, credited, Int.add_zero]
    · rw [if_neg hhost, if_neg hguest, if_neg hguest, if_neg hhost]
      rw [credited_zero, Option.map_id]
      rfl

/-- A call that ends no row is for none of the rows. -/
theorem endsRow_false_of_none {session : Bytes × Bytes} (ht : t ≠ [])
    (hnone : ∀ row, db.endedRow t session.2 = some row → effectiveHostId row session.1 = [])
    (hrow : db.remoteControlSessions[k]? = some row) (hk : k.transmissionId = bindText t) :
    endsRow k row session = false := by
  rw [Bool.eq_false_iff]
  intro hends
  obtain ⟨hne, hguest, heff⟩ := endsRow_iff.mp hends
  refine heff (hnone row ?_)
  have hkey : (⟨bindText t, bindText session.2⟩ : SessionKey) = k := by
    rw [hguest, ← hk]
  unfold endedRow
  rw [if_neg (not_or.mpr ⟨ht, hne⟩), hkey]
  exact hrow

/-- A call that ends one row is for none of the others. -/
theorem endsRow_false_of_ne {session : Bytes × Bytes}
    (hne : (⟨bindText t, bindText session.2⟩ : SessionKey) ≠ k) (hk : k.transmissionId = bindText t) :
    endsRow k row session = false := by
  rw [Bool.eq_false_iff]
  intro hends
  obtain ⟨_, hguest, _⟩ := endsRow_iff.mp hends
  apply hne
  rw [hguest, ← hk]

/-- What a call adds to the list, when it does not end the row. -/
theorem endedUnder_cons {session : Bytes × Bytes}
    (h : k.transmissionId = bindText t → endsRow k row session = false) :
    endedUnder t (session :: l) k row = endedUnder t l k row := by
  by_cases hk : k.transmissionId = bindText t
  · exact endedUnder_cons_of_not (h hk)
  · rw [endedUnder_other hk, endedUnder_other hk]

/-! ## The list -/

/-- No call, no end. -/
theorem EndsAll.nil (now : Int) (t : Bytes) (db : DeviceDB) : EndsAll now t [] db db := by
  have hnone : ∀ (k : SessionKey) (row : SessionRow), endedUnder t [] k row = none := by
    intro k row
    unfold endedUnder
    split <;> rfl
  refine ⟨fun k => ?_, fun d => ?_, rfl, rfl⟩
  · cases db.remoteControlSessions[k]? with
    | none => rfl
    | some row =>
        rw [Option.filter_some, hnone]
        rfl
  · have hcontrol : db.remoteControlSessions.sumBy (controlCredit now t [] d) = 0 := by
      apply List.sum_eq_zero
      intro x hx
      obtain ⟨e, _, rfl⟩ := List.mem_map.mp hx
      exact if_neg (by rw [hnone]; simp)
    have hcontrolled : db.remoteControlSessions.sumBy (controlledCredit now t [] d) = 0 := by
      apply List.sum_eq_zero
      intro x hx
      obtain ⟨e, _, rfl⟩ := List.mem_map.mp hx
      exact if_neg (by rw [hnone]; simp)
    rw [hcontrol, hcontrolled, credited_zero, Option.map_id]
    rfl

/-- A call in front that ends no row. -/
theorem EndsAll.cons_none {session : Bytes × Bytes} (h : EndsAll now t l db db')
    (hcons : ∀ (k : SessionKey) row, db.remoteControlSessions[k]? = some row →
      endedUnder t (session :: l) k row = endedUnder t l k row) : EndsAll now t (session :: l) db db' := by
  refine ⟨fun k => ?_, fun d => ?_, h.devices, h.serverRuntime⟩
  · rw [h.sessions k]
    cases hrow : db.remoteControlSessions[k]? with
    | none => rfl
    | some row => rw [Option.filter_some, Option.filter_some, hcons k row hrow]
  · have hcontrol : db.remoteControlSessions.sumBy (controlCredit now t (session :: l) d)
        = db.remoteControlSessions.sumBy (controlCredit now t l d) := by
      apply Std.ExtTreeMap.sumBy_congr
      intro k row hrow
      rw [controlCredit, controlCredit, hcons k row hrow]
    have hcontrolled : db.remoteControlSessions.sumBy (controlledCredit now t (session :: l) d)
        = db.remoteControlSessions.sumBy (controlledCredit now t l d) := by
      apply Std.ExtTreeMap.sumBy_congr
      intro k row hrow
      rw [controlledCredit, controlledCredit, hcons k row hrow]
    rw [h.presence d, hcontrol, hcontrolled]

/-- A call in front that ends the row of `key`: its credit first, then those of the rest. -/
theorem EndsAll.cons_ended {session : Bytes × Bytes} {key : SessionKey} {first : SessionRow}
    (hfirst : db.remoteControlSessions[key]? = some first) (ht : key.transmissionId = bindText t)
    (hends : endsRow key first session = true)
    (hnormalized : first.normalizedGuestId = bindText (normalizeRemoteDeviceId session.2))
    (h : EndsAll now t l (db.ended now key first (effectiveHostId first session.1) session.2) db') :
    EndsAll now t (session :: l) db db' := by
  have hkey : (⟨bindText t, bindText session.2⟩ : SessionKey) = key := by
    rw [(endsRow_iff.mp hends).2.1, ← ht]
  have hcons : ∀ (k : SessionKey) (row : SessionRow), k ≠ key →
      endedUnder t (session :: l) k row = endedUnder t l k row := by
    intro k row hother
    apply endedUnder_cons
    intro hk
    exact endsRow_false_of_ne (fun heq => hother (heq.symm.trans hkey)) hk
  have hunder : endedUnder t (session :: l) key first = some (effectiveHostId first session.1) :=
    endedUnder_cons_of_ends hends ht
  have hleft : ∀ (k : SessionKey) row, (db.remoteControlSessions.erase key)[k]? = some row → k ≠ key := by
    intro k row hrow
    rw [Std.ExtTreeMap.getElem?_erase_eq] at hrow
    split at hrow
    · exact absurd hrow (by simp)
    · rename_i hother
      exact fun heq => hother heq.symm
  refine ⟨fun k => ?_, fun d => ?_, h.devices, h.serverRuntime⟩
  · rw [h.sessions k]
    show ((db.remoteControlSessions.erase key)[k]?).filter _ = _
    rw [Std.ExtTreeMap.getElem?_erase_eq]
    by_cases hk : key = k
    · subst hk
      rw [if_pos rfl, hfirst, Option.filter_some, hunder]
      rfl
    · rw [if_neg hk]
      cases hrow : db.remoteControlSessions[k]? with
      | none => rfl
      | some row =>
          rw [Option.filter_some, Option.filter_some, hcons k row fun heq => hk heq.symm]
  · have hcontrol : db.remoteControlSessions.sumBy (controlCredit now t (session :: l) d)
        = (if bindText (normalizeRemoteDeviceId session.2) = d then elapsed now first else 0)
          + (db.remoteControlSessions.erase key).sumBy (controlCredit now t l d) := by
      rw [Std.ExtTreeMap.sumBy_erase _ hfirst]
      congr 1
      · rw [controlCredit, hunder, hnormalized]
        simp
      · apply Std.ExtTreeMap.sumBy_congr
        intro k row hrow
        rw [controlCredit, controlCredit, hcons k row (hleft k row hrow)]
    have hcontrolled : db.remoteControlSessions.sumBy (controlledCredit now t (session :: l) d)
        = (if bindText (normalizeRemoteDeviceId (effectiveHostId first session.1)) = d then
            elapsed now first else 0)
          + (db.remoteControlSessions.erase key).sumBy (controlledCredit now t l d) := by
      rw [Std.ExtTreeMap.sumBy_erase _ hfirst]
      congr 1
      · rw [controlledCredit, hunder]
        simp
      · apply Std.ExtTreeMap.sumBy_congr
        intro k row hrow
        rw [controlledCredit, controlledCredit, hcons k row (hleft k row hrow)]
    rw [h.presence d, ended_presence, Option.map_map, hcontrol, hcontrolled]
    congr 1
    funext r
    exact credited_credited _ _ _ _ r

/-- **The list, by induction**: the first call ends one row or none, and the rest of the list never sees
    that row. -/
theorem endAll_endsAll (ht : t ≠ []) (l : List (Bytes × Bytes)) (db : DeviceDB)
    (hguest : ∀ (k : SessionKey) row, db.remoteControlSessions[k]? = some row →
      row.normalizedGuestId = bindText (normalizeRemoteDeviceId k.guestId.val)) :
    EndsAll now t l db (endAll now t db l) := by
  induction l generalizing db with
  | nil => exact .nil now t db
  | cons session l ih =>
      show EndsAll now t (session :: l) db
        (endAll now t (db.endRemoteControlSession now t session.1 session.2).2 l)
      rcases endRemoteControlSession_cases db now t session.1 session.2 with
        ⟨hnone, hsame⟩ | ⟨first, hended, heff, hres⟩
      · rw [hsame]
        apply (ih db hguest).cons_none
        intro k row hrow
        apply endedUnder_cons
        intro hk
        exact endsRow_false_of_none ht hnone hrow hk
      · have hfirst := endedRow_lookup hended
        have hne : session.2 ≠ [] := by
          intro hnil
          unfold endedRow at hended
          rw [if_pos (.inr hnil)] at hended
          exact absurd hended (by simp)
        rw [hres]
        refine EndsAll.cons_ended hfirst rfl (endsRow_iff.mpr ⟨hne, rfl, heff⟩) ?_ (ih _ ?_)
        · rw [hguest _ first hfirst, bindText_val, bindText_normalize_cstr]
        · intro k row hrow
          have hrow' : (db.remoteControlSessions.erase ⟨bindText t, bindText session.2⟩)[k]? = some row :=
            hrow
          rw [Std.ExtTreeMap.getElem?_erase_eq] at hrow'
          split at hrow'
          · exact absurd hrow' (by simp)
          · exact hguest k row hrow'

/-- Two lists, one after the other. -/
theorem endAll_append (db : DeviceDB) (now : Int) (t : Bytes) (l l' : List (Bytes × Bytes)) :
    endAll now t db (l ++ l') = endAll now t (endAll now t db l) l' := List.foldl_append

/-- What `EndRemoteControlTransmission` leaves. -/
theorem endRemoteControlTransmission_eq (ht : t ≠ []) (db : DeviceDB) (now : Int) :
    (db.endRemoteControlTransmission now t).2 = endAll now t db (db.sessionsOf (bindText t)) := by
  have hfold : ∀ (l : List (Bytes × Bytes)) (acc : Bool × DeviceDB),
      (l.foldl (endStep now t) acc).2 = endAll now t acc.2 l := by
    intro l
    induction l with
    | nil => intro acc; rfl
    | cons session l ih => intro acc; exact ih _
  unfold endRemoteControlTransmission
  rw [if_neg ht, hfold]

theorem endedUnder_append (t : Bytes) (l l' : List (Bytes × Bytes)) (k : SessionKey) (row : SessionRow) :
    endedUnder t (l ++ l') k row = (endedUnder t l k row).or (endedUnder t l' k row) := by
  unfold endedUnder
  split
  · rw [List.find?_append, Option.map_or]
  · rfl

/-- The texts of the table end their own rows, but for the empty ones. -/
theorem endedUnder_sessionsOf (hrow : db.remoteControlSessions[k]? = some row)
    (hk : k.transmissionId = bindText t) :
    endedUnder t (db.sessionsOf (bindText t)) k row
      = if k.guestId ≠ .empty ∧ row.hostId ≠ .empty then some row.hostId.val else none := by
  unfold endedUnder
  rw [if_pos hk]
  cases hfind : (db.sessionsOf (bindText t)).find? (endsRow k row) with
  | none =>
      rw [if_neg]
      · rfl
      · rintro ⟨hguest, hhost⟩
        have hown : (row.hostId.val, k.guestId.val) ∈ db.sessionsOf (bindText t) :=
          List.mem_map.mpr ⟨(k, row), List.mem_filter.mpr
            ⟨Std.ExtTreeMap.mem_toList.mpr hrow, decide_eq_true hk⟩, rfl⟩
        refine List.find?_eq_none.mp hfind _ hown (endsRow_iff.mpr ⟨?_, bindText_column _, ?_⟩)
        · exact fun hnil => hguest (SqlText.ext hnil)
        · rw [effectiveHostId_stored _ hhost]
          exact fun hnil => hhost (SqlText.ext hnil)
  | some session =>
      obtain ⟨entry, hentry, rfl⟩ := List.mem_map.mp (List.mem_of_find?_eq_some hfind)
      obtain ⟨hmem, ht⟩ := List.mem_filter.mp hentry
      obtain ⟨hne, hguest, heff⟩ := endsRow_iff.mp (List.find?_some hfind)
      -- the row that gave the texts is this one
      have hsame : entry.1 = k := by
        have ht' : entry.1.transmissionId = k.transmissionId := (of_decide_eq_true ht).trans hk.symm
        have hguest' : entry.1.guestId = k.guestId := (bindText_column _).symm.trans hguest
        rcases entry with ⟨⟨a, b⟩, r⟩
        cases k
        rw [SessionKey.mk.injEq]
        exact ⟨ht', hguest'⟩
      have hrow' := Std.ExtTreeMap.mem_toList.mp hmem
      rw [hsame, hrow] at hrow'
      have hvals : row = entry.2 := Option.some.inj hrow'
      have hhost : row.hostId ≠ .empty := by
        intro hempty
        rw [effectiveHostId_empty _ hempty, ← hvals] at heff
        exact heff (congrArg SqlText.val hempty)
      have hnonempty : k.guestId ≠ .empty := by
        intro hempty
        rw [hsame] at hne
        exact hne (congrArg SqlText.val hempty)
      rw [if_pos ⟨hnonempty, hhost⟩]
      exact congrArg some (effectiveHostId_stored _ hhost)

end DeviceDB
end DeskServer
