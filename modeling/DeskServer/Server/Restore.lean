import DeskServer.Server.SessionMirror
import DeskServer.Database.Search

/-!
# `Server.Restore` — the sessions after a restart

A new server reads the session table group by group, the guest ids of a group joined by commas and split
again, and binds every host and guest through the operations that also write the table. It ends up with
the sessions it found, and the table as it was, exactly when the text of no guest is empty, holds a comma
or is the host's, every transmission has one host, and the list is not cut off.

**Shape.** `Bound` follows the loop over the guests of one session and `Restored` the loop over the sessions,
so that a restorable table is read back (`Restorable.roundTrip`). Conversely a round trip forces each part of
the condition, since the server can hold no session that was not listed (`RoundTrip.restorable`).
-/

namespace DeskServer
namespace SignalServer

open Bytes DeviceDB TransmissionManager

/-! ## Binding what was listed -/

variable {server server' : SignalServer} {now : Int} {db : DeviceDB}

/-- The host the first listed session of `t` names. -/
def listedHost (sessions : List RemoteControlSessionInfo) (t : Bytes) : Option Bytes :=
  (sessions.find? fun session => session.transmissionId = t).map RemoteControlSessionInfo.hostId

/-- `g` is listed for `t`. -/
def ListedGuest (sessions : List RemoteControlSessionInfo) (t g : Bytes) : Prop :=
  ∃ session ∈ sessions, session.transmissionId = t ∧ g ∈ session.guestIds

theorem listedHost_append (sessions : List RemoteControlSessionInfo) (session : RemoteControlSessionInfo)
    (t : Bytes) : listedHost (sessions ++ [session]) t
      = (listedHost sessions t).or
          (if session.transmissionId = t then some session.hostId else none) := by
  unfold listedHost
  rw [List.find?_append]
  cases sessions.find? fun session => session.transmissionId = t with
  | some first => rfl
  | none =>
      by_cases ht : session.transmissionId = t <;> simp [ht]

theorem listedGuest_append {sessions : List RemoteControlSessionInfo} {session : RemoteControlSessionInfo}
    {t g : Bytes} : ListedGuest (sessions ++ [session]) t g ↔
      ListedGuest sessions t g ∨ (session.transmissionId = t ∧ g ∈ session.guestIds) := by
  unfold ListedGuest
  simp only [List.mem_append, List.mem_singleton]
  constructor
  · rintro ⟨info, hmem | rfl, h⟩
    · exact .inl ⟨info, hmem, h⟩
    · exact .inr h
  · rintro (⟨info, hmem, h⟩ | h)
    · exact ⟨info, .inl hmem, h⟩
    · exact ⟨session, .inr rfl, h⟩

/-- One more guest of `t`, unless it is the host or there already. -/
theorem bindGuestToTransmission_guests (s : TransmissionManager) {host t : Bytes} (g : Bytes)
    (hhost : s.transmissionHostIdList[t]? = some host) (a x : Bytes) :
    x ∈ (s.bindGuestToTransmission g t).tm.guestsOf a ↔
      x ∈ s.guestsOf a ∨ (t = a ∧ x = g ∧ x ≠ host) := by
  constructor
  · intro hx
    rcases bindGuestToTransmission_cases s g t with
      ⟨hsame, _⟩ | ⟨host', hhost', hdiff, _, hout⟩
    · rw [hsame] at hx
      exact .inl hx
    · rw [hhost] at hhost'
      obtain rfl := Option.some.inj hhost'
      rcases mem_bindGuestToTransmission hx with hold | ⟨rfl, rfl⟩
      · exact .inl hold
      · exact .inr ⟨rfl, rfl, Ne.symm hdiff⟩
  · intro hx
    rcases bindGuestToTransmission_cases s g t with ⟨hsame, hwhy⟩ | ⟨_, _, _, _, hout⟩
    · rw [hsame]
      rcases hx with hold | ⟨rfl, rfl, hne⟩
      · exact hold
      · -- of the three reasons to turn a guest down only the last is left
        rcases hwhy with hnone | hself | hin
        · rw [hhost] at hnone; exact absurd hnone (by simp)
        · rw [hhost] at hself; exact absurd (Option.some.inj hself).symm hne
        · exact hin
    · rw [hout]
      refine (mem_guestsOf_joined rfl).mpr (hx.imp_right ?_)
      rintro ⟨rfl, rfl, _⟩
      exact ⟨rfl, rfl⟩

/-- A start of a session that is in the table already writes nothing. -/
theorem postRow_start_of_mem {sessions : SessionTable} {t host g : Bytes}
    (hmem : pairKey (t, g) ∈ sessions) : postRow now sessions ⟨t, host, g, true⟩ = sessions := by
  unfold postRow
  simp only [if_true]
  split
  · rfl
  · apply Std.ExtTreeMap.ext_getElem?
    intro k
    rw [Std.ExtTreeMap.getElem?_insertIfNew_eq, if_neg fun h => h.2 hmem]

/-- **What restoring one session does**: the host of `t` if it has none, then the guests but the host;
    the table stays as it is when it has a row for every guest. -/
structure Bound (server server' : SignalServer) (t : Bytes) (ids : List Bytes) : Prop where
  hosts : server'.transmission.transmissionHostIdList = server.transmission.transmissionHostIdList
  guests : ∀ host, server.transmission.transmissionHostIdList[t]? = some host → ∀ a x,
    x ∈ server'.transmission.guestsOf a ↔
      x ∈ server.transmission.guestsOf a ∨ (t = a ∧ x ∈ ids ∧ x ≠ host)
  rows : (∀ g ∈ ids, pairKey (t, g) ∈ server.db.remoteControlSessions) →
    server'.db.remoteControlSessions = server.db.remoteControlSessions

theorem restoreGuest_bound (now : Int) (t g : Bytes) (server : SignalServer) :
    Bound server (restoreGuest now t server g) t [g] where
  hosts := bindGuestToTransmission_hosts _ _ _
  guests := fun host hhost a x => by
    show x ∈ (server.transmission.bindGuestToTransmission g t).tm.guestsOf a ↔ _
    rw [bindGuestToTransmission_guests _ g hhost, List.mem_singleton]
  rows := fun hmem => by
    show (server.settle now _).db.remoteControlSessions = _
    rw [settle_sessions]
    rcases bindGuestToTransmission_cases server.transmission g t with
      ⟨hsame, _⟩ | ⟨host, _, _, _, hout⟩
    · rw [hsame]; rfl
    · rw [hout]
      exact postRow_start_of_mem (hmem g (by simp))

/-- Induction on the guests of one listed session. -/
theorem foldl_restoreGuest_bound (now : Int) (t : Bytes) (guests : List Bytes) (server : SignalServer) :
    Bound server (guests.foldl (restoreGuest now t) server) t guests := by
  induction guests generalizing server with
  | nil => exact ⟨rfl, fun _ _ a x => by simp, fun _ => rfl⟩
  | cons g guests ih =>
      have hstep := restoreGuest_bound now t g server
      have hrest := ih (restoreGuest now t server g)
      refine ⟨hrest.hosts.trans hstep.hosts, fun host hhost a x => ?_, fun hmem => ?_⟩
      · rw [List.foldl_cons, hrest.guests host (by rw [hstep.hosts]; exact hhost),
          hstep.guests host hhost, List.mem_singleton, List.mem_cons]
        grind
      · have hsame := hstep.rows fun x hx => hmem x (by simp [List.mem_singleton.mp hx])
        exact (hrest.rows fun x hx => by rw [hsame]; exact hmem x (by simp [hx])).trans hsame

/-- The server between the host of a listed session and its guests. -/
def hosted (now : Int) (server : SignalServer) (session : RemoteControlSessionInfo) : SignalServer :=
  server.settle now
    (server.transmission.bindHostToTransmission session.hostId session.transmissionId)

theorem restoreSession_bound (now : Int) (server : SignalServer) (session : RemoteControlSessionInfo) :
    Bound (hosted now server session) (restoreSession now server session) session.transmissionId
      session.guestIds :=
  foldl_restoreGuest_bound now session.transmissionId session.guestIds (hosted now server session)

theorem hosted_rows (now : Int) (server : SignalServer) (session : RemoteControlSessionInfo) :
    (hosted now server session).db.remoteControlSessions = server.db.remoteControlSessions := by
  rw [hosted, settle_of_quiet (bindHostToTransmission_events _ _ _)]

/-- The server holds the sessions `sessions`, restored in this order. -/
structure Restored (server : SignalServer) (sessions : List RemoteControlSessionInfo) : Prop where
  hosts : ∀ t : Bytes, server.transmission.transmissionHostIdList[t]? = listedHost sessions t
  guests : ∀ t g, g ∈ server.transmission.guestsOf t ↔
    ListedGuest sessions t g ∧ listedHost sessions t ≠ some g

/-- The first host listed for a transmission stays the first. -/
theorem listedHost_of_guest {sessions : List RemoteControlSessionInfo} {t g : Bytes}
    (h : ListedGuest sessions t g) : ∃ host, listedHost sessions t = some host := by
  obtain ⟨session, hmem, ht, _⟩ := h
  cases hf : sessions.find? fun session => session.transmissionId = t with
  | none =>
      have := List.find?_eq_none.mp hf session hmem
      exact absurd ht (by simpa using this)
  | some first => exact ⟨first.hostId, by rw [listedHost, hf]; rfl⟩

/-- **Restoring one more session.** -/
theorem Restored.restoreSession {sessions : List RemoteControlSessionInfo} (h : Restored server sessions)
    (now : Int) (session : RemoteControlSessionInfo) :
    Restored (SignalServer.restoreSession now server session) (sessions ++ [session]) := by
  have hbound := restoreSession_bound now server session
  have hhosts : ∀ t : Bytes, (SignalServer.restoreSession now server
      session).transmission.transmissionHostIdList[t]? = listedHost (sessions ++ [session]) t := by
    intro t
    rw [hbound.hosts]
    show (server.transmission.bindHostToTransmission _ _).tm.transmissionHostIdList[t]? = _
    rw [bindHostToTransmission_host, h.hosts, listedHost_append]
  refine ⟨hhosts, fun t g => ?_⟩
  -- after the bind of the host the transmission has one: the one listed first
  obtain ⟨host, hhost⟩ : ∃ host,
      listedHost (sessions ++ [session]) session.transmissionId = some host := by
    rw [listedHost_append, if_pos rfl]
    cases listedHost sessions session.transmissionId <;> exact ⟨_, rfl⟩
  have hmid : (hosted now server session).transmission.transmissionHostIdList[session.transmissionId]?
      = some host := by
    rw [← hbound.hosts, hhosts, hhost]
  have hstay : ListedGuest sessions t g →
      listedHost (sessions ++ [session]) t = listedHost sessions t := by
    intro hlisted
    obtain ⟨first, hfirst⟩ := listedHost_of_guest hlisted
    rw [listedHost_append, hfirst]; rfl
  rw [hbound.guests host hmid]
  show g ∈ (server.transmission.bindHostToTransmission _ _).tm.guestsOf t ∨ _ ↔ _
  rw [bindHostToTransmission_guests, h.guests, listedGuest_append]
  constructor
  · rintro (⟨hlisted, hne⟩ | ⟨rfl, hmem, hne⟩)
    · exact ⟨.inl hlisted, by rw [hstay hlisted]; exact hne⟩
    · refine ⟨.inr ⟨rfl, hmem⟩, ?_⟩
      rw [hhost]
      exact fun hself => hne (Option.some.inj hself).symm
  · rintro ⟨hlisted | ⟨rfl, hmem⟩, hne⟩
    · exact .inl ⟨hlisted, by rw [← hstay hlisted]; exact hne⟩
    · refine .inr ⟨rfl, hmem, fun hself => hne ?_⟩
      rw [hhost, hself]

/-- Induction on the sessions still to restore. -/
theorem foldl_restoreSession_restored (now : Int) (rest done : List RemoteControlSessionInfo)
    (h : Restored server done) :
    Restored (rest.foldl (restoreSession now) server) (done ++ rest) := by
  induction rest generalizing server done with
  | nil => rw [List.append_nil]; exact h
  | cons session rest ih =>
      have := ih (done ++ [session]) (h.restoreSession now session)
      rwa [List.append_assoc] at this

/-- Induction on the sessions still to restore: rows that are all there stay as they are. -/
theorem foldl_restoreSession_rows (now : Int) (sessions : List RemoteControlSessionInfo)
    (server : SignalServer) (hmem : ∀ session ∈ sessions, ∀ g ∈ session.guestIds,
      pairKey (session.transmissionId, g) ∈ server.db.remoteControlSessions) :
    (sessions.foldl (restoreSession now) server).db.remoteControlSessions
      = server.db.remoteControlSessions := by
  induction sessions generalizing server with
  | nil => rfl
  | cons session sessions ih =>
      have hhost := hosted_rows now server session
      have hstep : (restoreSession now server session).db.remoteControlSessions
          = server.db.remoteControlSessions := by
        refine Eq.trans ((restoreSession_bound now server session).rows fun g hg => ?_) hhost
        rw [hhost]
        exact hmem session (by simp) g hg
      rw [List.foldl_cons, ih]
      · exact hstep
      · intro s hs g hg
        rw [hstep]
        exact hmem s (by simp [hs]) g hg

/-! ## The list that is restored -/

abbrev rowsOf (db : DeviceDB) : List SessionEntry := db.remoteControlSessions.toList

/-- An empty search finds every row. -/
theorem foundRows_all (db : DeviceDB) : db.foundRows [] = rowsOf db := by
  rw [foundRows, List.filter_eq_self]
  intro e _
  rfl

/-- The pairs of a transmission and a host the table names. -/
def groupCount (db : DeviceDB) : Nat := ((rowsOf db).map groupKey).dedup.length

theorem sessionGroups_length (db : DeviceDB) : (db.sessionGroups []).length = groupCount db := by
  rw [length_sessionGroups, foundTransmissions, foundRows_all]
  rfl

theorem mem_sessionGroups_all {info : RemoteControlSessionInfo} : info ∈ db.sessionGroups [] ↔
    ∃ (k : SessionKey) (row : SessionRow), db.remoteControlSessions[k]? = some row ∧
      info = groupInfo (rowsOf db) (k.transmissionId, row.hostId) := by
  have hrows : db.remoteControlSessions.toList.filter (fun e => searchMatches [] e) = rowsOf db :=
    foundRows_all db
  rw [mem_sessionGroups, hrows]
  constructor
  · rintro ⟨e, he, -, rfl⟩
    exact ⟨e.1, e.2, Std.ExtTreeMap.mem_toList.mp he, rfl⟩
  · rintro ⟨k, row, hrow, rfl⟩
    exact ⟨(k, row), Std.ExtTreeMap.mem_toList.mpr hrow, rfl, rfl⟩

/-- The guest ids of a group, when no comma is in the way. -/
theorem mem_guestIds_groupInfo (hcomma : ∀ (k : SessionKey) row, db.remoteControlSessions[k]? = some row →
    (44 : UInt8) ∉ k.guestId.val) {key : SqlText × SqlText} {g : Bytes} :
    g ∈ (groupInfo (rowsOf db) key).guestIds ↔ g ≠ [] ∧ ∃ (k : SessionKey) (row : SessionRow),
      db.remoteControlSessions[k]? = some row ∧ (k.transmissionId, row.hostId) = key ∧
        k.guestId.val = g := by
  have hclean : ∀ e ∈ rowsOf db, groupKey e = key → (44 : UInt8) ∉ e.1.guestId.val :=
    fun e he _ => hcomma e.1 e.2 (Std.ExtTreeMap.mem_toList.mp he)
  rw [mem_guestIds_group hclean]
  apply and_congr_right
  intro _
  constructor
  · rintro ⟨e, he, hkey, hg⟩
    exact ⟨e.1, e.2, Std.ExtTreeMap.mem_toList.mp he, hkey, hg⟩
  · rintro ⟨k, row, hrow, hkey, hg⟩
    exact ⟨(k, row), Std.ExtTreeMap.mem_toList.mpr hrow, hkey, hg⟩

/-! ## The round trip -/

/-- **A new server over `db` has the sessions of `db`**: the host of every transmission, its guests, and
    the table as it was. -/
structure RoundTrip (now : Int) (db : DeviceDB) : Prop where
  hosts : ∀ t host : Bytes, (start now db).transmission.transmissionHostIdList[t]? = some host ↔
    ∃ (k : SessionKey) (row : SessionRow), db.remoteControlSessions[k]? = some row ∧
      k.transmissionId.val = t ∧ row.hostId.val = host
  guests : ∀ t g : Bytes, g ∈ (start now db).transmission.guestsOf t ↔
    ∃ (k : SessionKey) (row : SessionRow), db.remoteControlSessions[k]? = some row ∧
      k.transmissionId.val = t ∧ k.guestId.val = g
  rows : (start now db).db.remoteControlSessions = db.remoteControlSessions

/-- **A table that survives the list**: its guests are not empty, have no comma and are not their own
    host, each transmission has one host, and the list is not cut off. -/
structure Restorable (db : DeviceDB) : Prop where
  guest : ∀ (k : SessionKey) (row : SessionRow), db.remoteControlSessions[k]? = some row →
    k.guestId.val ≠ [] ∧ (44 : UInt8) ∉ k.guestId.val ∧ k.guestId.val ≠ row.hostId.val
  oneHost : ∀ (k k' : SessionKey) (row row' : SessionRow), db.remoteControlSessions[k]? = some row →
    db.remoteControlSessions[k']? = some row' → k.transmissionId = k'.transmissionId →
      row.hostId = row'.hostId
  count : groupCount db ≤ intMax

theorem start_restored (now : Int) (db : DeviceDB) :
    Restored (start now db) (db.listRemoteControlSessions intMax 0 []) := by
  have hempty : Restored (constructed db) [] := by
    refine ⟨fun t => Std.ExtTreeMap.getElem?_empty, fun t g => ?_⟩
    have hnone : (constructed db).transmission.guestsOf t = [] := by
      simp [constructed, TransmissionManager.empty, guestsOf]
    rw [hnone]
    simp [ListedGuest]
  exact foldl_restoreSession_restored now _ [] hempty

theorem listRemoteControlSessions_all (h : groupCount db ≤ intMax) :
    db.listRemoteControlSessions intMax 0 [] = db.sessionGroups [] := by
  rw [listRemoteControlSessions_slice db (by decide) (by decide), List.drop_zero]
  exact List.take_of_length_le (by rw [sessionGroups_length]; exact h)

/-- With one host a transmission, the list names a host exactly when a row does. -/
theorem listedHost_sessionGroups (h : Restorable db) {t host : Bytes} :
    listedHost (db.sessionGroups []) t = some host ↔
      ∃ (k : SessionKey) (row : SessionRow), db.remoteControlSessions[k]? = some row ∧
        k.transmissionId.val = t ∧ row.hostId.val = host := by
  have hsound : ∀ info ∈ db.sessionGroups [], info.transmissionId = t →
      ∃ (k : SessionKey) (row : SessionRow), db.remoteControlSessions[k]? = some row ∧
        k.transmissionId.val = t ∧ row.hostId.val = info.hostId := by
    intro info hinfo ht
    obtain ⟨k, row, hrow, rfl⟩ := mem_sessionGroups_all.mp hinfo
    exact ⟨k, row, hrow, ht, rfl⟩
  constructor
  · intro hlisted
    obtain ⟨info, hfind, rfl⟩ := Option.map_eq_some_iff.mp hlisted
    exact hsound info (List.mem_of_find?_eq_some hfind)
      (by simpa using List.find?_some hfind)
  · rintro ⟨k, row, hrow, rfl, rfl⟩
    have hgroup := mem_sessionGroups_all.mpr ⟨k, row, hrow, rfl⟩
    cases hfind : (db.sessionGroups []).find?
        fun session => session.transmissionId = k.transmissionId.val with
    | none =>
        have hno := List.find?_eq_none.mp hfind _ hgroup
        exact absurd (decide_eq_true rfl) hno
    | some info =>
        obtain ⟨k', row', hrow', ht, hhost⟩ := hsound info (List.mem_of_find?_eq_some hfind) (by
          simpa using List.find?_some hfind)
        rw [listedHost, hfind, Option.map_some, ← hhost,
          h.oneHost k k' row row' hrow hrow' (SqlText.ext ht.symm)]

/-- A listed guest has a row, and a row's guest is listed. -/
theorem listedGuest_sessionGroups (h : Restorable db) {t g : Bytes} :
    ListedGuest (db.sessionGroups []) t g ↔
      ∃ (k : SessionKey) (row : SessionRow), db.remoteControlSessions[k]? = some row ∧
        k.transmissionId.val = t ∧ k.guestId.val = g := by
  have hcomma := fun k row hrow => (h.guest k row hrow).2.1
  constructor
  · rintro ⟨info, hinfo, rfl, hg⟩
    obtain ⟨k, row, hrow, rfl⟩ := mem_sessionGroups_all.mp hinfo
    obtain ⟨_, k', row', hrow', hkey, hguest⟩ := (mem_guestIds_groupInfo hcomma).mp hg
    exact ⟨k', row', hrow', congrArg SqlText.val (congrArg Prod.fst hkey), hguest⟩
  · rintro ⟨k, row, hrow, rfl, rfl⟩
    refine ⟨_, mem_sessionGroups_all.mpr ⟨k, row, hrow, rfl⟩, rfl, ?_⟩
    exact (mem_guestIds_groupInfo hcomma).mpr ⟨(h.guest k row hrow).1, k, row, hrow, rfl, rfl⟩

/-- **A restorable table comes back.** -/
theorem Restorable.roundTrip (h : Restorable db) (now : Int) : RoundTrip now db := by
  have hrestored := start_restored now db
  rw [listRemoteControlSessions_all h.count] at hrestored
  refine ⟨fun t host => ?_, fun t g => ?_, ?_⟩
  · rw [hrestored.hosts, listedHost_sessionGroups h]
  · rw [hrestored.guests, listedGuest_sessionGroups h]
    refine ⟨fun hg => hg.1, fun hg => ⟨hg, fun hself => ?_⟩⟩
    -- the host listed for the transmission is the host of the guest's own row
    obtain ⟨k, row, hrow, ht, hguest⟩ := hg
    obtain ⟨k', row', hrow', ht', hhost'⟩ := (listedHost_sessionGroups h).mp hself
    have hhost := h.oneHost k k' row row' hrow hrow' (SqlText.ext (ht.trans ht'.symm))
    exact (h.guest k row hrow).2.2 (by rw [hguest, hhost, hhost'])
  · show (((constructed db).db.listRemoteControlSessions intMax 0 []).foldl
        (restoreSession now) (constructed db)).db.remoteControlSessions = _
    apply foldl_restoreSession_rows now _ (constructed db)
    intro info hinfo g hg
    have hlist : info ∈ db.sessionGroups [] := by
      rw [← listRemoteControlSessions_all h.count]; exact hinfo
    obtain ⟨k, row, hrow, ht, hguest⟩ :=
      (listedGuest_sessionGroups h).mp ⟨info, hlist, rfl, hg⟩
    have hkey : pairKey (info.transmissionId, g) = k := by
      rw [← ht, ← hguest]
      exact pairKey_keyPair k
    rw [hkey, ← Std.ExtTreeMap.isSome_getElem?_iff_mem]
    show (db.remoteControlSessions[k]?).isSome = true
    rw [hrow]; rfl

/-! ## What the round trip forces -/

/-- Only what the list names is restored. -/
theorem RoundTrip.listed (h : RoundTrip now db) {k : SessionKey} {row : SessionRow}
    (hrow : db.remoteControlSessions[k]? = some row) :
    listedHost (db.listRemoteControlSessions intMax 0 []) k.transmissionId.val
      = some row.hostId.val := by
  rw [← (start_restored now db).hosts]
  exact (h.hosts _ _).mpr ⟨k, row, hrow, rfl, rfl⟩

theorem RoundTrip.oneHost (h : RoundTrip now db) {k k' : SessionKey} {row row' : SessionRow}
    (hrow : db.remoteControlSessions[k]? = some row)
    (hrow' : db.remoteControlSessions[k']? = some row')
    (ht : k.transmissionId = k'.transmissionId) : row.hostId = row'.hostId := by
  have hfirst := h.listed hrow
  rw [ht, h.listed hrow'] at hfirst
  exact SqlText.ext (Option.some.inj hfirst).symm

/-- A list that is cut off loses a transmission. -/
theorem RoundTrip.count (h : RoundTrip now db) : groupCount db ≤ intMax := by
  by_contra hlong
  have hlen : 0 < ((db.sessionGroups []).drop intMax).length := by
    rw [List.length_drop, sessionGroups_length]; omega
  have hnodup := nodup_ids_sessionGroups
    (fun k k' row row' hrow hrow' ht => h.oneHost hrow hrow' ht) []
  rw [← List.take_append_drop intMax (db.sessionGroups []), List.map_append] at hnodup
  have hapart := (List.nodup_append.mp hnodup).2.2
  -- a group past the limit names a transmission that no listed group names
  obtain ⟨lost, hlost⟩ := List.exists_mem_of_length_pos hlen
  obtain ⟨k, row, hrow, hinfo⟩ := mem_sessionGroups_all.mp (List.mem_of_mem_drop hlost)
  obtain ⟨info, hfind, _⟩ := Option.map_eq_some_iff.mp (h.listed hrow)
  have htaken : info ∈ (db.sessionGroups []).take intMax := List.mem_of_find?_eq_some hfind
  have hsame : info.transmissionId = lost.transmissionId := by
    rw [hinfo]
    show info.transmissionId = k.transmissionId.val
    simpa using List.find?_some hfind
  exact hapart _ (List.mem_map_of_mem htaken) _ (List.mem_map_of_mem hlost) hsame

/-- **A table that comes back is restorable.** -/
theorem RoundTrip.restorable (h : RoundTrip now db) : Restorable db where
  guest := by
    intro k row hrow
    have hmem := (h.guests k.transmissionId.val k.guestId.val).mpr ⟨k, row, hrow, rfl, rfl⟩
    obtain ⟨⟨info, hinfo, _, hg⟩, hhost⟩ := ((start_restored now db).guests _ _).mp hmem
    have hinfo' := mem_of_mem_listRemoteControlSessions hinfo
    obtain ⟨k', row', _, rfl⟩ := mem_sessionGroups_all.mp hinfo'
    obtain ⟨hne, hcomma⟩ := splitCommaSeparatedIds_clean hg
    refine ⟨hne, hcomma, fun hself => hhost ?_⟩
    rw [h.listed hrow, hself]
  oneHost := fun _ _ _ _ hrow hrow' ht => h.oneHost hrow hrow' ht
  count := h.count

/-- **The sessions survive a restart exactly when their table is restorable.** -/
theorem restore_roundTrip_iff (now : Int) (db : DeviceDB) : RoundTrip now db ↔ Restorable db :=
  ⟨RoundTrip.restorable, fun h => h.roundTrip now⟩

/-- A controller logs in as `C-a,b` and joins the device of connection 1. -/
def commaRun : List Step :=
  [registration, (.still 1, .message 2 (some (loginMessage (bytes "C-a,b")))),
    (.still 7, .message 2
      (some (joinMessage (bytes "100000000@000000") (bytes "C-a,b"))))]

/-- One controller goes down, two others come up, each with a row of its own. -/
theorem commaRun_split :
    ¬ ∀ sha256 steps now, RoundTrip now (after sha256 (start 0 newFile) steps).db := by
  intro h
  have hrows := (h sampleDigest commaRun 9).rows
  have hthree : (start 9 (after sampleDigest (start 0 newFile) commaRun).db).db.remoteControlSessions.size
      = 3 := by decide
  have hone : (after sampleDigest (start 0 newFile) commaRun).db.remoteControlSessions.size = 1 := by
    decide
  rw [hrows, hone] at hthree
  exact absurd hthree (by decide)

end SignalServer
end DeskServer

