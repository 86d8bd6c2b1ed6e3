import DeskServer.Admin.Overview
import DeskServer.Database.Endings
import DeskServer.Database.Runs
import DeskServer.Transmission.Departures

/-!
# `Server.AdminDisconnect` — the operator closes a session

`HandleDisconnect` releases the transmission in memory, whose callbacks end its rows, and then ends what a
search of the database still finds. Both halves end rows by `EndRemoteControlSession`, so the whole is one
list of ends (`Database.Endings`): one for each guest in memory, then one for each row left. The second half
passes texts read from the table, and a row whose guest or host text is empty is refused there; it goes
only if a guest in memory still stands for it.

**Shape.** Both halves together are `endAll` of one list (`closed_db`), so which rows go is decided by the
list (`rows_gone_iff`), and so is what they are credited with (`controlCredit_eq_due`). The condition says
which rows neither half reaches. What the members are told is part of the result, whether it arrives is not.
-/

namespace DeskServer

open Bytes

/-! ## The transmission in memory -/

namespace TransmissionManager

variable {s : TransmissionManager} {t : Bytes}

theorem isTransmissionExist_false_iff :
    s.isTransmissionExist t = false ↔ s.transmissionHostIdList[t]? = none := by
  rw [isTransmissionExist, Std.ExtTreeMap.contains_eq_isSome_getElem?, Option.isSome_eq_false_iff,
    Option.isNone_iff_eq_none]

theorem WellFormed.guests_of_unhosted (hs : s.WellFormed) (h : s.transmissionHostIdList[t]? = none) :
    s.transmissionGuestIdList[t]? = none := by
  cases hg : s.transmissionGuestIdList[t]? with
  | none => rfl
  | some guests =>
      obtain ⟨host, hhost, _⟩ := hs.hosted t guests hg
      rw [h] at hhost
      exact absurd hhost (by simp)

/-- Hosted or not, the tables lose the transmission and its guests are reported. -/
theorem disconnectTransmission_spec (hs : s.WellFormed) (t : Bytes) :
    (∀ a, (s.disconnectTransmission t).tm.transmissionHostIdList[a]?
      = if t = a then none else s.transmissionHostIdList[a]?) ∧
    (∀ a, (s.disconnectTransmission t).tm.transmissionGuestIdList[a]?
      = if t = a then none else s.transmissionGuestIdList[a]?) ∧
    (s.disconnectTransmission t).events = s.endEvents t (s.guestsOf t) := by
  unfold disconnectTransmission
  cases hexists : s.isTransmissionExist t with
  | true =>
      rw [if_neg (by decide)]
      exact ⟨releaseTransmission_hosts s t, fun a => Std.ExtTreeMap.getElem?_erase_eq _ _ _, rfl⟩
  | false =>
      rw [if_pos (by decide)]
      have hhost := isTransmissionExist_false_iff.mp hexists
      have hguest := hs.guests_of_unhosted hhost
      refine ⟨fun a => ?_, fun a => ?_, ?_⟩
      · split
        · rename_i ha
          rw [← ha]
          exact hhost
        · rfl
      · split
        · rename_i ha
          rw [← ha]
          exact hguest
        · rfl
      · rw [guestsOf, hguest]
        rfl

/-- A transmission without a host has no snapshot. -/
theorem not_mem_snapshots (h : s.transmissionHostIdList[t]? = none) {limit : Nat}
    {x : TransmissionSnapshot} (hx : x ∈ (s.getTransmissionSnapshots limit 0 []).1) :
    x.transmissionId ≠ t := by
  rw [getTransmissionSnapshots_page] at hx
  obtain ⟨hostPair, hmem, rfl⟩ := List.mem_map.mp (List.mem_of_mem_drop (List.mem_of_mem_take hx))
  rintro rfl
  have hhost := Std.ExtTreeMap.mem_toList.mp (List.mem_filter.mp hmem).1
  rw [show s.transmissionHostIdList[hostPair.1]? = none from h] at hhost
  exact absurd hhost (by simp)

/-- A hosted transmission is found by its id. -/
theorem find_snapshot {host : Bytes} (hfits : s.transmissionHostIdList.size < 2 ^ 64)
    (h : s.transmissionHostIdList[t]? = some host) :
    (s.getTransmissionSnapshots (2 ^ 64 - 1) 0 []).1.find?
        (fun snapshot => snapshot.transmissionId = t) = some (s.snapshotOf (t, host)) := by
  rw [getTransmissionSnapshots_all (by omega), List.find?_map]
  have hfind : s.transmissionHostIdList.toList.find? (fun pair => decide (pair.1 = t))
      = some (t, host) := by
    cases hpair : s.transmissionHostIdList.toList.find? fun pair => decide (pair.1 = t) with
    | none =>
        have hno := List.find?_eq_none.mp hpair (t, host) (Std.ExtTreeMap.mem_toList.mpr h)
        exact absurd (decide_eq_true rfl) hno
    | some pair =>
        have hid : pair.1 = t := by simpa using List.find?_some hpair
        have hhost := Std.ExtTreeMap.mem_toList.mp (List.mem_of_find?_eq_some hpair)
        rw [hid, h] at hhost
        exact congrArg some (Prod.ext hid (Option.some.inj hhost).symm)
  exact congrArg (Option.map s.snapshotOf) hfind

end TransmissionManager

namespace DeviceDB

variable {db db' : DeviceDB} {t : Bytes}

/-- **The search of the handler finds the transmission**: it is among the first rows of the listing. -/
def Listed (db : DeviceDB) (t : Bytes) : Prop :=
  ∃ info ∈ (db.sessionGroups t).take SignalServer.intMax, info.transmissionId = t

theorem any_listed_iff : (db.listRemoteControlSessions SignalServer.intMax 0 t).any
    (fun session => session.transmissionId == t) = true ↔ Listed db t := by
  rw [listRemoteControlSessions_slice db (by decide) (by decide), List.drop_zero, List.any_eq_true]
  simp only [beq_iff_eq]
  rfl

/-- The search reads the session table only. -/
theorem listed_congr (h : db.remoteControlSessions = db'.remoteControlSessions) :
    Listed db t ↔ Listed db' t := by
  unfold Listed sessionGroups
  rw [h]

/-- What is found has a row. -/
theorem Listed.row (h : Listed db t) : ∃ (k : SessionKey) (row : SessionRow),
    db.remoteControlSessions[k]? = some row ∧ k.transmissionId.val = t := by
  obtain ⟨info, hinfo, ht⟩ := h
  obtain ⟨e, he, _, rfl⟩ := mem_sessionGroups.mp (List.mem_of_mem_take hinfo)
  exact ⟨e.1, e.2, Std.ExtTreeMap.mem_toList.mp he, ht⟩

/-- A text contains itself, so with few transmissions its rows are found. -/
theorem listed_of_row (hplain : PlainSearch t)
    (hfew : (db.foundTransmissions t).length ≤ SignalServer.intMax) {k : SessionKey} {row : SessionRow}
    (hrow : db.remoteControlSessions[k]? = some row) (hk : k.transmissionId = bindText t) :
    Listed db t := by
  have hval : k.transmissionId.val = t := by
    rw [hk, bindText_val, cstr_eq_self hplain.noNul]
  have hmatch : searchMatches t (k, row) = true := by
    refine (searchMatches_iff hplain (k, row)).mpr (.inl ?_)
    rw [hval, containsFolded, contains_iff]
  refine ⟨groupInfo (db.remoteControlSessions.toList.filter fun e => searchMatches t e)
    (groupKey (k, row)), ?_, hval⟩
  rw [List.take_of_length_le (by rw [length_sessionGroups]; exact hfew)]
  exact mem_sessionGroups.mpr ⟨(k, row), Std.ExtTreeMap.mem_toList.mpr hrow, hmatch, rfl⟩

end DeviceDB

namespace SignalServer

open TransmissionManager DeviceDB AdminController

/-! ## The states -/

/-- A manager call, with its callbacks written to the database. -/
def call (server : SignalServer) (now : Int) (op : Operation) : SignalServer :=
  { server with
    transmission := (server.transmission.apply op).1
    db := (server.transmission.apply op).2.foldl (remoteControlSessionCallback now) server.db }

/-- **The states of the manager and the database**, reached by their operations under the callback, by
    starts of the database, and by new managers over what is stored. -/
inductive Administered : SignalServer → Prop
  | constructed {db : DeviceDB} : DeviceDB.Reachable db → Administered (constructed db)
  | called {server : SignalServer} (now : Int) (op : Operation) : Administered server →
      Administered (server.call now op)
  | performed {server : SignalServer} (e : Int × DurationOp) : Administered server →
      Administered { server with db := server.db.perform e }
  | initialised {server : SignalServer} (now beat : Int) (k : Nat) : Administered server →
      Administered { server with db := server.db.initDBKilledAfter now beat k }
  | heartbeat {server : SignalServer} (now : Int) : Administered server →
      Administered { server with db := server.db.recordRuntimeHeartbeat now }
  | credentials {server : SignalServer} (devices : Std.ExtTreeMap SqlText Credential) :
      Administered server → Administered { server with db := { server.db with devices := devices } }

variable {server : SignalServer} {env : Env} {now : Int} {t : Bytes}

/-- The callbacks are operations of the database. -/
theorem reachable_callbacks {db : DeviceDB} (h : DeviceDB.Reachable db) (now : Int)
    (events : List SessionEvent) :
    DeviceDB.Reachable (events.foldl (remoteControlSessionCallback now) db) := by
  induction events generalizing db with
  | nil => exact h
  | cons event events ih =>
      apply ih
      unfold remoteControlSessionCallback
      split
      · exact h.performed (now, .startRemoteControlSession event.transmissionId event.hostId event.guestId)
      · exact h.performed (now, .endRemoteControlSession event.transmissionId event.hostId event.guestId)

/-- **In all these states** the tables in memory are well formed and the database is one of its own. -/
theorem Administered.sound (h : Administered server) :
    server.transmission.WellFormed ∧ DeviceDB.Reachable server.db := by
  induction h with
  | constructed hdb => exact ⟨empty_wellFormed, hdb⟩
  | called now op _ ih =>
      exact ⟨(apply_effect ih.1 op).wellFormed ih.1, reachable_callbacks ih.2 now _⟩
  | performed e _ ih => exact ⟨ih.1, ih.2.performed e⟩
  | initialised now beat k _ ih => exact ⟨ih.1, ih.2.started now beat k⟩
  | heartbeat now _ ih => exact ⟨ih.1, ih.2.heartbeat now⟩
  | credentials devices _ ih => exact ⟨ih.1, ih.2.credentials devices⟩

/-! ## One list of ends -/

/-- The ends of the release, one a guest. -/
def rememberedEnds (server : SignalServer) (t : Bytes) : List (Bytes × Bytes) :=
  (server.transmission.guestsOf t).map fun g => (server.transmission.getHostIdOfTransmission t, g)

/-- The server after the release. -/
def closed (server : SignalServer) (now : Int) (t : Bytes) : SignalServer :=
  server.settle now (server.transmission.disconnectTransmission t)

/-- The search of the handler. -/
def findsLeft (server : SignalServer) (now : Int) (t : Bytes) : Bool :=
  ((server.closed now t).db.listRemoteControlSessions intMax 0 t).any
    fun session => session.transmissionId == t

/-- The ends of what the search still finds. -/
def leftEnds (server : SignalServer) (now : Int) (t : Bytes) : List (Bytes × Bytes) :=
  if server.findsLeft now t then (server.closed now t).db.sessionsOf (bindText t) else []

/-- What the members are told. -/
def disconnectMessage (t : Bytes) : Json :=
  stringMembers [("type", bytes "admin_disconnect_transmission"), ("transmission_id", t)]

/-- The messages of the handler. -/
def disconnectSent (server : SignalServer) (t : Bytes) : List (ConnectionHdl × Json) :=
  match (server.transmission.getTransmissionSnapshots (2 ^ 64 - 1) 0 []).1.find?
    fun snapshot => snapshot.transmissionId = t with
  | some snapshot =>
    (snapshot.hostId :: snapshot.guestIds).flatMap fun id => server.sendToUser (id, disconnectMessage t)
  | none => []

theorem handleDisconnect_eq (ht : t ≠ []) (env : Env) : server.handleDisconnect env t
    = (if server.findsLeft env.now t then
        { server.closed env.now t with
          db := ((server.closed env.now t).db.endRemoteControlTransmission env.now t).2 }
      else server.closed env.now t, server.disconnectSent t) := by
  unfold handleDisconnect
  rw [if_neg ht]
  show (if server.findsLeft env.now t = true then _ else _) = _
  by_cases hfinds : server.findsLeft env.now t = true
  · rw [if_pos hfinds, if_pos hfinds]
    rfl
  · rw [if_neg hfinds, if_neg hfinds]
    rfl

theorem closed_db (hs : server.transmission.WellFormed) (now : Int) (t : Bytes) :
    (server.closed now t).db = endAll now t server.db (server.rememberedEnds t) := by
  show (server.transmission.disconnectTransmission t).events.foldl _ _ = _
  rw [(disconnectTransmission_spec hs t).2.2, endEvents, rememberedEnds, endAll, List.foldl_map,
    List.foldl_map]
  rfl

/-- **The disconnect is one list of ends.** -/
theorem handleDisconnect_db (hs : server.transmission.WellFormed) (ht : t ≠ []) (env : Env) :
    (server.handleDisconnect env t).1.db
      = endAll env.now t server.db (server.rememberedEnds t ++ server.leftEnds env.now t) := by
  rw [endAll_append, ← closed_db hs, handleDisconnect_eq ht, leftEnds]
  dsimp only
  split
  · exact endRemoteControlTransmission_eq ht _ env.now
  · rfl

/-! ## What the disconnect has to do -/

/-- The seconds of the sessions of `t` for their guest `d`. -/
def dueControl (now : Int) (t : Bytes) (d : SqlText) (k : SessionKey) (row : SessionRow) : Int :=
  if k.transmissionId = bindText t ∧ row.normalizedGuestId = d then elapsed now row else 0

/-- The seconds of the sessions of `t` for their host `d`. -/
def dueControlled (now : Int) (t : Bytes) (d : SqlText) (k : SessionKey) (row : SessionRow) : Int :=
  if k.transmissionId = bindText t ∧ row.normalizedHostId = d then elapsed now row else 0

/-- **A disconnect that is complete, exact and idempotent.** Memory and database lose the transmission and
    nothing else; every session of it is credited once, to its guest and to its host; the host and each
    guest are sent one message; and a second disconnect changes nothing, sends nothing and finds
    nothing. -/
structure DisconnectExact (server : SignalServer) (env : Env) (t : Bytes) : Prop where
  hosts : ∀ a : Bytes, (server.handleDisconnect env t).1.transmission.transmissionHostIdList[a]?
    = if t = a then none else server.transmission.transmissionHostIdList[a]?
  guests : ∀ a : Bytes, (server.handleDisconnect env t).1.transmission.transmissionGuestIdList[a]?
    = if t = a then none else server.transmission.transmissionGuestIdList[a]?
  rows : ∀ k : SessionKey, (server.handleDisconnect env t).1.db.remoteControlSessions[k]?
    = if k.transmissionId = bindText t then none else server.db.remoteControlSessions[k]?
  credits : ∀ d : SqlText, (server.handleDisconnect env t).1.db.devicePresence[d]?
    = (server.db.devicePresence[d]?).map
      (credited (server.db.remoteControlSessions.sumBy (dueControl env.now t d))
        (server.db.remoteControlSessions.sumBy (dueControlled env.now t d)))
  sent : ∃ members : List Bytes, members.Nodup ∧
    (∀ u, u ∈ members ↔ server.transmission.transmissionHostIdList[t]? = some u ∨
      u ∈ server.transmission.guestsOf t) ∧
    (server.handleDisconnect env t).2
      = members.flatMap fun u => server.sendToUser (u, disconnectMessage t)
  again : ∀ env' : Env, (server.handleDisconnect env t).1.handleDisconnect env' t
      = ((server.handleDisconnect env t).1, []) ∧
    disconnectFinds (server.handleDisconnect env t).1 env' t = false

/-- A guest in memory stands for the row, and there is a host to credit. -/
def Remembered (server : SignalServer) (t : Bytes) (k : SessionKey) (row : SessionRow) : Prop :=
  (∃ g ∈ server.transmission.guestsOf t, g ≠ [] ∧ bindText g = k.guestId) ∧
    (row.hostId ≠ .empty ∨ server.transmission.getHostIdOfTransmission t ≠ [])

instance (server : SignalServer) (t : Bytes) (k : SessionKey) (row : SessionRow) :
    Decidable (Remembered server t k row) := inferInstanceAs (Decidable (_ ∧ _))

/-- The database without the rows the release ends. -/
def unended (server : SignalServer) (t : Bytes) : DeviceDB :=
  { server.db with
    remoteControlSessions := server.db.remoteControlSessions.filter fun k row =>
      !decide (k.transmissionId = bindText t ∧ Remembered server t k row) }

/-- **The rows can be ended, for the right devices.** A row that nobody in memory stands for has a guest
    and a host text; a row stored without a host text is remembered under a host that stands for the same
    device, or has no seconds yet. -/
structure Recoverable (server : SignalServer) (now : Int) (t : Bytes) : Prop where
  named : ∀ (k : SessionKey) (row : SessionRow), server.db.remoteControlSessions[k]? = some row →
    k.transmissionId = bindText t → ¬ Remembered server t k row → k.guestId ≠ .empty ∧ row.hostId ≠ .empty
  hosted : ∀ (k : SessionKey) (row : SessionRow), server.db.remoteControlSessions[k]? = some row →
    k.transmissionId = bindText t → Remembered server t k row → row.hostId = .empty →
    bindText (normalizeRemoteDeviceId (server.transmission.getHostIdOfTransmission t)) = .empty ∨
      now ≤ row.startedAt

/-- And the search finds the rows that are left. -/
structure Disconnectable (server : SignalServer) (now : Int) (t : Bytes) : Prop
    extends Recoverable server now t where
  listed : (∃ (k : SessionKey) (row : SessionRow), server.db.remoteControlSessions[k]? = some row ∧
    k.transmissionId = bindText t ∧ ¬ Remembered server t k row) → Listed (server.unended t) t

/-! ## Row by row -/

variable {k : SessionKey} {row : SessionRow}

/-- The release ends what is remembered, under the stored host or the one in memory. -/
theorem endedUnder_rememberedEnds (hk : k.transmissionId = bindText t) :
    endedUnder t (server.rememberedEnds t) k row
      = if Remembered server t k row then
          some (effectiveHostId row (server.transmission.getHostIdOfTransmission t))
        else none := by
  have heff : effectiveHostId row (server.transmission.getHostIdOfTransmission t) ≠ [] ↔
      row.hostId ≠ .empty ∨ server.transmission.getHostIdOfTransmission t ≠ [] := by
    by_cases hempty : row.hostId = .empty
    · rw [effectiveHostId_empty _ hempty]
      exact ⟨.inr, fun h => h.resolve_left fun hne => hne hempty⟩
    · rw [effectiveHostId_stored _ hempty]
      exact ⟨fun _ => .inl hempty, fun _ hnil => hempty (SqlText.ext hnil)⟩
  unfold endedUnder
  rw [if_pos hk]
  cases hfind : (server.rememberedEnds t).find? (endsRow k row) with
  | none =>
      rw [if_neg]
      · rfl
      · rintro ⟨⟨g, hg, hne, hguest⟩, hhost⟩
        have hno := List.find?_eq_none.mp hfind _ (List.mem_map_of_mem hg)
        exact hno (endsRow_iff.mpr ⟨hne, hguest, heff.mpr hhost⟩)
  | some session =>
      obtain ⟨g, hg, rfl⟩ := List.mem_map.mp (List.mem_of_find?_eq_some hfind)
      obtain ⟨hne, hguest, hhost⟩ := endsRow_iff.mp (List.find?_some hfind)
      rw [if_pos ⟨⟨g, hg, hne, hguest⟩, heff.mp hhost⟩]
      rfl

/-- The rows after the release. -/
theorem closed_sessions (h : Administered server) (ht : t ≠ []) (now : Int) :
    (server.closed now t).db.remoteControlSessions = (server.unended t).remoteControlSessions := by
  obtain ⟨hs, hdb⟩ := h.sound
  have hends : EndsAll now t (server.rememberedEnds t) server.db
      (endAll now t server.db (server.rememberedEnds t)) :=
    endAll_endsAll ht (server.rememberedEnds t) server.db hdb.accounted.guest
  rw [closed_db hs]
  apply Std.ExtTreeMap.ext_getElem?
  intro k
  rw [hends.sessions k, unended, Std.ExtTreeMap.getElem?_filter']
  cases server.db.remoteControlSessions[k]? with
  | none => rfl
  | some row =>
      rw [Option.filter_some, Option.filter_some]
      by_cases hk : k.transmissionId = bindText t
      · rw [endedUnder_rememberedEnds hk]
        by_cases hrem : Remembered server t k row
        · rw [if_pos hrem, decide_eq_true ⟨hk, hrem⟩]
          rfl
        · rw [if_neg hrem, decide_eq_false fun h => hrem h.2]
          rfl
      · rw [endedUnder_other hk, decide_eq_false fun h => hk h.1]
        rfl

theorem findsLeft_iff (h : Administered server) (ht : t ≠ []) (now : Int) :
    server.findsLeft now t = true ↔ Listed (server.unended t) t := by
  rw [findsLeft, any_listed_iff]
  exact listed_congr (closed_sessions h ht now)

/-- **Under which host the whole disconnect ends a row**: as remembered, or else as stored, if the search
    finds it and no text of it is empty. -/
theorem endedUnder_disconnect (h : Administered server) (ht : t ≠ []) (now : Int)
    (hrow : server.db.remoteControlSessions[k]? = some row) (hk : k.transmissionId = bindText t) :
    endedUnder t (server.rememberedEnds t ++ server.leftEnds now t) k row
      = if Remembered server t k row then
          some (effectiveHostId row (server.transmission.getHostIdOfTransmission t))
        else if server.findsLeft now t = true ∧ k.guestId ≠ .empty ∧ row.hostId ≠ .empty then
          some row.hostId.val
        else none := by
  rw [endedUnder_append, endedUnder_rememberedEnds hk]
  by_cases hrem : Remembered server t k row
  · rw [if_pos hrem, if_pos hrem]
    rfl
  · rw [if_neg hrem, if_neg hrem, Option.none_or, leftEnds]
    cases hfinds : server.findsLeft now t with
    | true =>
        have hleft : (server.closed now t).db.remoteControlSessions[k]? = some row := by
          rw [closed_sessions h ht, unended, Std.ExtTreeMap.getElem?_filter', hrow, Option.filter_some,
            decide_eq_false fun h => hrem h.2]
          rfl
        rw [if_pos rfl, endedUnder_sessionsOf hleft hk]
        by_cases htexts : k.guestId ≠ .empty ∧ row.hostId ≠ .empty
        · rw [if_pos htexts, if_pos ⟨rfl, htexts⟩]
        · rw [if_neg htexts, if_neg fun h => htexts h.2]
    | false =>
        rw [if_neg (by decide), if_neg fun h => absurd h.1 (by decide)]
        unfold endedUnder
        split <;> rfl

/-- What the list of the disconnect does. -/
theorem disconnect_endsAll (h : Administered server) (ht : t ≠ []) (env : Env) :
    EndsAll env.now t (server.rememberedEnds t ++ server.leftEnds env.now t) server.db
      (server.handleDisconnect env t).1.db := by
  rw [handleDisconnect_db h.sound.1 ht]
  exact endAll_endsAll ht _ server.db h.sound.2.accounted.guest

/-- **The rows of the transmission go, exactly when** all of them can be ended and are found. -/
theorem rows_gone_iff (h : Administered server) (ht : t ≠ []) (env : Env) :
    (∀ (k : SessionKey) (row : SessionRow), server.db.remoteControlSessions[k]? = some row →
      k.transmissionId = bindText t →
        (endedUnder t (server.rememberedEnds t ++ server.leftEnds env.now t) k row).isSome) ↔
      ∀ (k : SessionKey) (row : SessionRow), server.db.remoteControlSessions[k]? = some row →
        k.transmissionId = bindText t → ¬ Remembered server t k row →
          (k.guestId ≠ .empty ∧ row.hostId ≠ .empty) ∧ Listed (server.unended t) t := by
  constructor
  · intro hgone k row hrow hk hrem
    have hended := hgone k row hrow hk
    rw [endedUnder_disconnect h ht env.now hrow hk, if_neg hrem] at hended
    split at hended
    · rename_i hfound
      exact ⟨hfound.2, (findsLeft_iff h ht env.now).mp hfound.1⟩
    · exact absurd hended (by simp)
  · intro hall k row hrow hk
    rw [endedUnder_disconnect h ht env.now hrow hk]
    by_cases hrem : Remembered server t k row
    · rw [if_pos hrem]
      rfl
    · obtain ⟨htexts, hlisted⟩ := hall k row hrow hk hrem
      rw [if_neg hrem, if_pos ⟨(findsLeft_iff h ht env.now).mpr hlisted, htexts⟩]
      rfl

/-- The table after the disconnect says the same. -/
theorem rows_exact_iff (h : Administered server) (ht : t ≠ []) (env : Env) :
    (∀ k : SessionKey, (server.handleDisconnect env t).1.db.remoteControlSessions[k]?
      = if k.transmissionId = bindText t then none else server.db.remoteControlSessions[k]?) ↔
    ∀ (k : SessionKey) (row : SessionRow), server.db.remoteControlSessions[k]? = some row →
      k.transmissionId = bindText t →
        (endedUnder t (server.rememberedEnds t ++ server.leftEnds env.now t) k row).isSome := by
  have hends := disconnect_endsAll h ht env
  constructor
  · intro hrows k row hrow hk
    have hgone := hrows k
    rw [hends.sessions k, hrow, if_pos hk, Option.filter_some] at hgone
    cases hended : endedUnder t (server.rememberedEnds t ++ server.leftEnds env.now t) k row with
    | some host => rfl
    | none =>
        rw [hended] at hgone
        exact absurd hgone (by simp)
  · intro hgone k
    rw [hends.sessions k]
    cases hrow : server.db.remoteControlSessions[k]? with
    | none => split <;> rfl
    | some row =>
        rw [Option.filter_some]
        by_cases hk : k.transmissionId = bindText t
        · obtain ⟨host, hhost⟩ := Option.isSome_iff_exists.mp (hgone k row hrow hk)
          rw [if_pos hk, hhost]
          rfl
        · rw [if_neg hk, endedUnder_other hk]
          rfl

/-! ## The credits -/

/-- All rows of the transmission are ended. -/
def AllEnded (server : SignalServer) (now : Int) (t : Bytes) : Prop :=
  ∀ (k : SessionKey) (row : SessionRow), server.db.remoteControlSessions[k]? = some row →
    k.transmissionId = bindText t →
      (endedUnder t (server.rememberedEnds t ++ server.leftEnds now t) k row).isSome

/-- The guests get what is due. -/
theorem controlCredit_eq_due (hall : AllEnded server now t) (d : SqlText)
    (hrow : server.db.remoteControlSessions[k]? = some row) :
    controlCredit now t (server.rememberedEnds t ++ server.leftEnds now t) d k row
      = dueControl now t d k row := by
  unfold controlCredit dueControl
  by_cases hk : k.transmissionId = bindText t
  · have hended := hall k row hrow hk
    by_cases hd : row.normalizedGuestId = d
    · rw [if_pos ⟨hended, hd⟩, if_pos ⟨hk, hd⟩]
    · rw [if_neg fun h => hd h.2, if_neg fun h => hd h.2]
  · rw [endedUnder_other hk, if_neg fun h => absurd h.1 (by simp), if_neg fun h => hk h.1]

/-- A row with a host text is ended under it. -/
theorem endedUnder_stored (h : Administered server) (ht : t ≠ [])
    (hrow : server.db.remoteControlSessions[k]? = some row) (hk : k.transmissionId = bindText t)
    (hhost : row.hostId ≠ .empty) {host : Bytes}
    (hended : endedUnder t (server.rememberedEnds t ++ server.leftEnds now t) k row = some host) :
    bindText (normalizeRemoteDeviceId host) = row.normalizedHostId := by
  rw [h.sound.2.accounted.host k row hrow]
  rw [endedUnder_disconnect h ht now hrow hk] at hended
  split at hended
  · rw [effectiveHostId_stored _ hhost] at hended
    rw [Option.some.inj hended]
  · split at hended
    · rw [Option.some.inj hended]
    · exact absurd hended (by simp)

/-- A row without one is ended under the host in memory. -/
theorem endedUnder_unnamed (h : Administered server) (ht : t ≠ [])
    (hrow : server.db.remoteControlSessions[k]? = some row) (hk : k.transmissionId = bindText t)
    (hempty : row.hostId = .empty) {host : Bytes}
    (hended : endedUnder t (server.rememberedEnds t ++ server.leftEnds now t) k row = some host) :
    Remembered server t k row ∧ host = server.transmission.getHostIdOfTransmission t := by
  rw [endedUnder_disconnect h ht now hrow hk] at hended
  split at hended
  · rename_i hrem
    rw [effectiveHostId_empty _ hempty] at hended
    exact ⟨hrem, (Option.some.inj hended).symm⟩
  · split at hended
    · rename_i hfound
      exact absurd hempty hfound.2.2
    · exact absurd hended (by simp)

theorem normalizedHostId_empty (h : Administered server)
    (hrow : server.db.remoteControlSessions[k]? = some row) (hempty : row.hostId = .empty) :
    row.normalizedHostId = .empty := by
  rw [h.sound.2.accounted.host k row hrow, hempty]
  exact bindText_normalize_nil

/-- The hosts get what is due, if no unnamed one is credited as another device. -/
theorem controlledCredit_eq_due (h : Administered server) (ht : t ≠ []) (hall : AllEnded server now t)
    (hhosted : Recoverable server now t) (d : SqlText)
    (hrow : server.db.remoteControlSessions[k]? = some row) :
    controlledCredit now t (server.rememberedEnds t ++ server.leftEnds now t) d k row
      = dueControlled now t d k row := by
  unfold controlledCredit dueControlled
  by_cases hk : k.transmissionId = bindText t
  · obtain ⟨host, hended⟩ := Option.isSome_iff_exists.mp (hall k row hrow hk)
    have hright : bindText (normalizeRemoteDeviceId host) = row.normalizedHostId ∨ elapsed now row = 0 := by
      by_cases hempty : row.hostId = .empty
      · obtain ⟨hrem, rfl⟩ := endedUnder_unnamed h ht hrow hk hempty hended
        rcases hhosted.hosted k row hrow hk hrem hempty with hsame | hle
        · exact .inl (hsame.trans (normalizedHostId_empty h hrow hempty).symm)
        · right
          unfold elapsed
          omega
      · exact .inl (endedUnder_stored h ht hrow hk hempty hended)
    rw [hended, Option.map_some]
    rcases hright with hsame | hzero
    · rw [hsame]
      by_cases hd : row.normalizedHostId = d
      · rw [if_pos (congrArg some hd), if_pos ⟨hk, hd⟩]
      · rw [if_neg fun h => hd (Option.some.inj h), if_neg fun h => hd h.2]
    · rw [hzero, ite_self, ite_self]
  · rw [endedUnder_other hk, Option.map_none, if_neg (by simp), if_neg fun h => hk h.1]

/-- The unnamed device never gets more than is due. -/
theorem controlledCredit_le_due (h : Administered server) (ht : t ≠ [])
    (hrow : server.db.remoteControlSessions[k]? = some row) :
    controlledCredit now t (server.rememberedEnds t ++ server.leftEnds now t) .empty k row
      ≤ dueControlled now t .empty k row := by
  by_cases hk : k.transmissionId = bindText t
  · by_cases hempty : row.hostId = .empty
    · have hdue : dueControlled now t .empty k row = elapsed now row :=
        if_pos ⟨hk, normalizedHostId_empty h hrow hempty⟩
      rw [hdue, controlledCredit]
      split
      · exact le_refl _
      · exact elapsed_nonneg now row
    · unfold controlledCredit dueControlled
      cases hended : endedUnder t (server.rememberedEnds t ++ server.leftEnds now t) k row with
      | none =>
          rw [Option.map_none, if_neg (by simp)]
          split
          · exact elapsed_nonneg now row
          · exact le_refl _
      | some host =>
          rw [Option.map_some, endedUnder_stored h ht hrow hk hempty hended]
          by_cases hd : row.normalizedHostId = .empty
          · rw [if_pos (congrArg some hd), if_pos ⟨hk, hd⟩]
          · rw [if_neg fun h => hd (Option.some.inj h), if_neg fun h => hd h.2]
  · unfold controlledCredit dueControlled
    rw [endedUnder_other hk, Option.map_none, if_neg (by simp), if_neg fun h => hk h.1]

/-- **Credits that are right name the right hosts**: seconds of an unnamed host that go to another device
    are missing from it. -/
theorem hosted_of_credits (h : Administered server) (ht : t ≠ []) (env : Env)
    (hcredits : ∀ d : SqlText, (server.handleDisconnect env t).1.db.devicePresence[d]?
      = (server.db.devicePresence[d]?).map
        (credited (server.db.remoteControlSessions.sumBy (dueControl env.now t d))
          (server.db.remoteControlSessions.sumBy (dueControlled env.now t d))))
    (hrow : server.db.remoteControlSessions[k]? = some row) (hk : k.transmissionId = bindText t)
    (hrem : Remembered server t k row) (hempty : row.hostId = .empty) :
    bindText (normalizeRemoteDeviceId (server.transmission.getHostIdOfTransmission t)) = .empty ∨
      env.now ≤ row.startedAt := by
  by_contra hwrong
  rw [not_or] at hwrong
  obtain ⟨hother, hlater⟩ := hwrong
  have hnorm := normalizedHostId_empty h hrow hempty
  obtain ⟨presence, hpresence⟩ := Option.isSome_iff_exists.mp
    (h.sound.2.accounted.hostPresent k row hrow)
  rw [hnorm] at hpresence
  have hsums := hcredits .empty
  rw [(disconnect_endsAll h ht env).presence .empty, hpresence, Option.map_some, Option.map_some] at hsums
  have hequal := (credited_inj (Option.some.inj hsums)).2
  have hless : server.db.remoteControlSessions.sumBy (controlledCredit env.now t
        (server.rememberedEnds t ++ server.leftEnds env.now t) .empty)
      < server.db.remoteControlSessions.sumBy (dueControlled env.now t .empty) := by
    apply Std.ExtTreeMap.sumBy_lt (fun k row hrow => controlledCredit_le_due h ht hrow) hrow
    have hended := endedUnder_disconnect h ht env.now hrow hk
    rw [if_pos hrem, effectiveHostId_empty _ hempty] at hended
    unfold controlledCredit dueControlled
    rw [hended, Option.map_some, if_neg fun h => hother (Option.some.inj h), if_pos ⟨hk, hnorm⟩]
    unfold elapsed
    omega
  omega

/-! ## The rest -/

/-- The members of the transmission get one message each. -/
theorem disconnectSent_members (hs : server.transmission.WellFormed)
    (hfits : server.transmission.transmissionHostIdList.size < 2 ^ 64) (t : Bytes) :
    ∃ members : List Bytes, members.Nodup ∧
      (∀ u, u ∈ members ↔ server.transmission.transmissionHostIdList[t]? = some u ∨
        u ∈ server.transmission.guestsOf t) ∧
      server.disconnectSent t = members.flatMap fun u => server.sendToUser (u, disconnectMessage t) := by
  cases hhost : server.transmission.transmissionHostIdList[t]? with
  | none =>
      have hnone : (server.transmission.getTransmissionSnapshots (2 ^ 64 - 1) 0 []).1.find?
          (fun snapshot => snapshot.transmissionId = t) = none :=
        List.find?_eq_none.mpr fun x hx heq =>
          not_mem_snapshots hhost hx (of_decide_eq_true heq)
      have hguests : server.transmission.guestsOf t = [] := by
        rw [guestsOf, hs.guests_of_unhosted hhost]
        rfl
      refine ⟨[], List.nodup_nil, ?_, ?_⟩
      · intro u
        rw [hguests]
        simp
      · rw [disconnectSent, hnone]
        rfl
  | some host =>
      refine ⟨host :: server.transmission.guestsOf t, ?_, ?_, ?_⟩
      · rw [List.nodup_cons]
        refine ⟨fun hin => ?_, hs.guestsOf_nodup t⟩
        obtain ⟨host', hhost', hnot⟩ := hs.host_of_mem hin
        rw [hhost] at hhost'
        exact hnot (Option.some.inj hhost' ▸ hin)
      · intro u
        rw [List.mem_cons, Option.some.injEq, eq_comm]
      · rw [disconnectSent, find_snapshot hfits hhost]
        rfl

/-- **Where nothing is left of the transmission, a disconnect does nothing.** -/
theorem handleDisconnect_of_absent (ht : t ≠ []) (hnul : (0 : UInt8) ∉ t)
    (hhost : server.transmission.transmissionHostIdList[t]? = none)
    (hrows : ∀ k : SessionKey, k.transmissionId = bindText t → server.db.remoteControlSessions[k]? = none)
    (env : Env) :
    server.handleDisconnect env t = (server, []) ∧ disconnectFinds server env t = false := by
  have hquiet : server.transmission.disconnectTransmission t = ⟨true, server.transmission, []⟩ := by
    unfold disconnectTransmission
    rw [isTransmissionExist_false_iff.mpr hhost]
    rfl
  have hclosed : server.closed env.now t = server := by
    rw [closed, hquiet]
    rfl
  have hfinds : server.findsLeft env.now t = false := by
    rw [Bool.eq_false_iff, findsLeft, hclosed]
    intro hany
    obtain ⟨k, row, hrow, hk⟩ := (any_listed_iff.mp hany).row
    rw [hrows k (SqlText.ext (by rw [hk, bindText_val, cstr_eq_self hnul]))] at hrow
    exact absurd hrow (by simp)
  have hnone : (server.transmission.getTransmissionSnapshots (2 ^ 64 - 1) 0 []).1.find?
      (fun snapshot => snapshot.transmissionId = t) = none :=
    List.find?_eq_none.mpr fun x hx heq => not_mem_snapshots hhost hx (of_decide_eq_true heq)
  constructor
  · rw [handleDisconnect_eq ht, hfinds, hclosed, disconnectSent, hnone]
    rfl
  · have hexisted : (server.transmission.getTransmissionSnapshots (2 ^ 64 - 1) 0 []).1.any
        (fun snapshot => snapshot.transmissionId == t) = false := by
      rw [List.any_eq_false]
      intro x hx heq
      exact not_mem_snapshots hhost hx (eq_of_beq heq)
    show ((server.transmission.getTransmissionSnapshots (2 ^ 64 - 1) 0 []).1.any
        (fun snapshot => snapshot.transmissionId == t) || server.findsLeft env.now t) = false
    rw [hexisted, hfinds]
    rfl

/-- With few transmissions the search finds whatever is left. -/
theorem Recoverable.disconnectable (hplain : PlainSearch t)
    (hfew : ((server.unended t).foundTransmissions t).length ≤ intMax)
    (h : Recoverable server now t) : Disconnectable server now t := by
  refine ⟨h, ?_⟩
  rintro ⟨k, row, hrow, hk, hrem⟩
  have hleft : (server.unended t).remoteControlSessions[k]? = some row := by
    rw [unended, Std.ExtTreeMap.getElem?_filter', hrow, Option.filter_some,
      decide_eq_false fun h => hrem h.2]
    rfl
  exact listed_of_row hplain hfew hleft hk

/-- **When the operator's disconnect is complete, exact and idempotent.** In every state of the manager and
    the database, for an id without a zero byte that is short enough for a pattern: exactly when every row
    of it can be ended for the right devices and is found; and with no more than `INT_MAX` transmissions
    that the search matches, the rows that are left are found. -/
theorem handleDisconnect_exact_iff (h : Administered server) (ht : t ≠ []) (hplain : PlainSearch t)
    (hfits : server.transmission.transmissionHostIdList.size < 2 ^ 64) (env : Env) :
    (DisconnectExact server env t ↔ Disconnectable server env.now t) ∧
      (((server.unended t).foundTransmissions t).length ≤ intMax →
        (Disconnectable server env.now t ↔ Recoverable server env.now t)) := by
  obtain ⟨hhosts, hguests, _⟩ := disconnectTransmission_spec h.sound.1 t
  refine ⟨⟨?_, ?_⟩, fun hfew => ⟨fun hd => hd.toRecoverable, Recoverable.disconnectable hplain hfew⟩⟩
  · intro hexact
    have hrows := (rows_gone_iff h ht env).mp ((rows_exact_iff h ht env).mp hexact.rows)
    refine ⟨⟨?_, ?_⟩, ?_⟩
    · exact fun k row hrow hk hrem => (hrows k row hrow hk hrem).1
    · exact fun k row hrow hk hrem hempty =>
        hosted_of_credits h ht env hexact.credits hrow hk hrem hempty
    · rintro ⟨k, row, hrow, hk, hrem⟩
      exact (hrows k row hrow hk hrem).2
  · intro hd
    have hall : AllEnded server env.now t := (rows_gone_iff h ht env).mpr fun k row hrow hk hrem =>
      ⟨hd.named k row hrow hk hrem, hd.listed ⟨k, row, hrow, hk, hrem⟩⟩
    have hrows := (rows_exact_iff h ht env).mpr hall
    have hmemory : (server.handleDisconnect env t).1.transmission
        = (server.transmission.disconnectTransmission t).tm := by
      rw [handleDisconnect_transmission, if_neg ht]
    refine ⟨?_, ?_, hrows, ?_, ?_, ?_⟩
    · rw [hmemory]
      exact hhosts
    · rw [hmemory]
      exact hguests
    · intro d
      rw [(disconnect_endsAll h ht env).presence d]
      rw [Std.ExtTreeMap.sumBy_congr fun k row hrow => controlCredit_eq_due hall d hrow,
        Std.ExtTreeMap.sumBy_congr fun k row hrow =>
          controlledCredit_eq_due h ht hall hd.toRecoverable d hrow]
    · rw [handleDisconnect_eq ht]
      exact disconnectSent_members h.sound.1 hfits t
    · intro env'
      refine handleDisconnect_of_absent ht hplain.noNul ?_ ?_ env'
      · rw [hmemory, hhosts t, if_pos rfl]
      · intro k hk
        rw [hrows k, if_pos hk]

/-! ## A device and its guest -/

/-- The device `100000000` is hosted over a database. -/
def deviceHosted (db : DeviceDB) : SignalServer :=
  (constructed db).call 0 (.bindHostToTransmission (bytes "100000000") (bytes "100000000"))

/-- The device and a guest are connected, and the guest joins. -/
def guestJoined (g : Bytes) : SignalServer :=
  (((deviceHosted newFile).call 0 (.bindUserToWsHandle 0 (bytes "100000000") 1)).call 1
    (.bindUserToWsHandle 1 g 2)).call 1 (.bindGuestToTransmission g (bytes "100000000"))

theorem deviceHosted_administered {db : DeviceDB} (h : DeviceDB.Reachable db) :
    Administered (deviceHosted db) := (Administered.constructed h).called 0 _

theorem guestJoined_administered (g : Bytes) : Administered (guestJoined g) :=
  (((deviceHosted_administered .newFile).called 0 _).called 1 _).called 1 _

/-- A guest id of a zero byte and `C-` is stored as the empty text. After a restart nobody in memory stands
    for the row, and it stays. -/
theorem emptyGuest_stays : ¬ ∀ server, Administered server → ∀ t, t ≠ [] → PlainSearch t →
    server.transmission.transmissionHostIdList.size < 2 ^ 64 → ∀ env, DisconnectExact server env t := by
  intro h
  have hreach := (guestJoined_administered (0 :: bytes "C-")).sound.2
  have hexact := h _ (deviceHosted_administered hreach) (bytes "100000000") (by decide)
    ⟨by decide, by decide⟩ (by decide) (.still 9)
  have hrow := hexact.rows ⟨bindText (bytes "100000000"), .empty⟩
  exact absurd hrow (by decide)

example : (guestJoined (bytes "C-x")).transmission.getWsHandle (bytes "100000000") = 1 ∧
    (guestJoined (bytes "C-x")).transmission.getWsHandle (bytes "C-x") = 2 := by decide

/-- The disconnect of a guest in memory, both ends connected. -/
theorem guestJoined_disconnect :
    DisconnectExact (guestJoined (bytes "C-x")) (.still 9) (bytes "100000000") := by
  have hall : ∀ e ∈ (guestJoined (bytes "C-x")).db.remoteControlSessions.toList,
      Remembered (guestJoined (bytes "C-x")) (bytes "100000000") e.1 e.2 ∧ e.2.hostId ≠ .empty := by
    decide
  have hrows : ∀ (k : SessionKey) (row : SessionRow),
      (guestJoined (bytes "C-x")).db.remoteControlSessions[k]? = some row →
        Remembered (guestJoined (bytes "C-x")) (bytes "100000000") k row ∧ row.hostId ≠ .empty :=
    Std.ExtTreeMap.forall_of_toList hall
  refine (handleDisconnect_exact_iff (guestJoined_administered (bytes "C-x")) (by decide)
    ⟨by decide, by decide⟩ (by decide) (.still 9)).1.mpr ⟨⟨?_, ?_⟩, ?_⟩
  · exact fun k row hrow _ hrem => absurd (hrows k row hrow).1 hrem
  · exact fun k row hrow _ _ hempty => absurd hempty (hrows k row hrow).2
  · rintro ⟨k, row, hrow, _, hrem⟩
    exact absurd (hrows k row hrow).1 hrem

end SignalServer

end DeskServer
