import DeskServer.Transmission.Manager

/-!
# `Transmission.Effects` — what an operation can do to the session tables

Every public operation of the manager does one of three things to hosts and guests: it takes some
guests out (and possibly the hosts of emptied transmissions with them), it gives a transmission without
a host one, or it lets one guest join. `Effect` says this once, with the callbacks that go with it; the
table invariant, the callback ledger and the persisted mirror are all derived from it.

**Shape.** `Parts` composes, so a loop of releases has one effect (`Parts.trans`); every operation has a lemma
that names its effect, and `Effect.wellFormed` is the only place where the invariant is looked at. The
activity map is not part of an effect.
-/

namespace DeskServer
namespace TransmissionManager

/-- **The table invariant.** A stored guest list belongs to a hosted transmission, is not empty, repeats
    nobody and does not name the host. -/
structure WellFormed (s : TransmissionManager) : Prop where
  hosted : ∀ (t : Bytes) guests, s.transmissionGuestIdList[t]? = some guests →
    ∃ host, s.transmissionHostIdList[t]? = some host ∧ host ∉ guests
  nonempty : ∀ (t : Bytes) guests, s.transmissionGuestIdList[t]? = some guests → guests ≠ []
  nodup : ∀ (t : Bytes) guests, s.transmissionGuestIdList[t]? = some guests → guests.Nodup

theorem empty_wellFormed : empty.WellFormed :=
  ⟨fun t _ h => by simp [empty] at h, fun t _ h => by simp [empty] at h,
    fun t _ h => by simp [empty] at h⟩

variable {s s' s'' : TransmissionManager}

theorem guestsOf_of_some {t : Bytes} {guests : List Bytes}
    (h : s.transmissionGuestIdList[t]? = some guests) : s.guestsOf t = guests := by
  rw [guestsOf, h]; rfl

theorem guestsOf_of_none {t : Bytes} (h : s.transmissionGuestIdList[t]? = none) :
    s.guestsOf t = [] := by
  rw [guestsOf, h]; rfl

/-- A guest is listed in a stored list. -/
theorem stored_of_mem {t g : Bytes} (h : g ∈ s.guestsOf t) :
    s.transmissionGuestIdList[t]? = some (s.guestsOf t) := by
  cases hg : s.transmissionGuestIdList[t]? with
  | none => rw [guestsOf_of_none hg] at h; exact absurd h (by simp)
  | some guests => rw [guestsOf_of_some hg]

theorem WellFormed.guestsOf_nodup (hs : s.WellFormed) (t : Bytes) : (s.guestsOf t).Nodup := by
  cases hg : s.transmissionGuestIdList[t]? with
  | none => rw [guestsOf_of_none hg]; exact List.nodup_nil
  | some guests => rw [guestsOf_of_some hg]; exact hs.nodup t guests hg

/-- Whoever is a guest has a host, and is not it. -/
theorem WellFormed.host_of_mem (hs : s.WellFormed) {t g : Bytes} (h : g ∈ s.guestsOf t) :
    ∃ host, s.transmissionHostIdList[t]? = some host ∧ host ∉ s.guestsOf t :=
  hs.hosted t _ (stored_of_mem h)

/-! ## Guests leaving -/

/-- `left` names the (transmission, guest) pairs that went from `s` to `s'`: the other guests keep
    their order, no empty list stays, and only transmissions left without guests can lose their host. -/
structure Leaves (s s' : TransmissionManager) (left : List (Bytes × Bytes)) : Prop where
  nodup : left.Nodup
  member : ∀ p ∈ left, p.2 ∈ s.guestsOf p.1
  guests : ∀ t, s'.guestsOf t = (s.guestsOf t).filter fun g => (t, g) ∉ left
  stored : ∀ (t : Bytes) guests, s'.transmissionGuestIdList[t]? = some guests → guests ≠ []
  hosts : ∀ (t host : Bytes), s'.transmissionHostIdList[t]? = some host →
    s.transmissionHostIdList[t]? = some host
  kept : ∀ t : Bytes, s'.guestsOf t ≠ [] → s'.transmissionHostIdList[t]? = s.transmissionHostIdList[t]?

/-- The end callbacks for the pairs in `left`. -/
def endsOf (s : TransmissionManager) (left : List (Bytes × Bytes)) : List SessionEvent :=
  left.map fun p => ⟨p.1, s.getHostIdOfTransmission p.1, p.2, false⟩

theorem Leaves.mem_iff {left : List (Bytes × Bytes)} (h : Leaves s s' left) {t g : Bytes} :
    g ∈ s'.guestsOf t ↔ g ∈ s.guestsOf t ∧ (t, g) ∉ left := by
  rw [h.guests, List.mem_filter, decide_eq_true_eq]

/-- Equal session tables: nobody left. -/
theorem Leaves.of_eq (hs : s.WellFormed)
    (hh : s'.transmissionHostIdList = s.transmissionHostIdList)
    (hg : s'.transmissionGuestIdList = s.transmissionGuestIdList) : Leaves s s' [] where
  nodup := List.nodup_nil
  member := fun _ h => absurd h (by simp)
  guests := fun t => by simp [guestsOf, hg]
  stored := fun t guests h => hs.nonempty t guests (hg ▸ h)
  hosts := fun t host h => hh ▸ h
  kept := fun t _ => by rw [hh]

theorem Leaves.trans {left left' : List (Bytes × Bytes)}
    (h : Leaves s s' left) (h' : Leaves s' s'' left') : Leaves s s'' (left ++ left') where
  nodup := by
    refine List.nodup_append.mpr ⟨h.nodup, h'.nodup, ?_⟩
    rintro p hp q hq rfl
    exact (h.mem_iff.mp (h'.member p hq)).2 hp
  member := by
    intro p hp
    rcases List.mem_append.mp hp with hp | hp
    · exact h.member p hp
    · exact (h.mem_iff.mp (h'.member p hp)).1
  guests := fun t => by
    rw [h'.guests, h.guests, List.filter_filter]
    apply List.filter_congr
    intro g _
    rw [Bool.eq_iff_iff]
    simp only [List.mem_append, not_or, Bool.and_eq_true, decide_eq_true_eq]
    exact and_comm
  stored := h'.stored
  hosts := fun t host ht => h.hosts t host (h'.hosts t host ht)
  kept := fun t ht => by
    rw [h'.kept t ht]
    refine h.kept t fun hnil => ht ?_
    rw [h'.guests, hnil]; rfl

theorem Leaves.wellFormed {left : List (Bytes × Bytes)} (hs : s.WellFormed) (h : Leaves s s' left) :
    s'.WellFormed := by
  have key : ∀ (t : Bytes) guests, s'.transmissionGuestIdList[t]? = some guests →
      s'.guestsOf t = guests ∧ guests ≠ [] := fun t guests ht =>
    ⟨guestsOf_of_some ht, h.stored t guests ht⟩
  refine ⟨?_, h.stored, ?_⟩
  · intro t guests ht
    obtain ⟨heq, hne⟩ := key t guests ht
    obtain ⟨g, hg⟩ := List.exists_mem_of_ne_nil _ (heq ▸ hne)
    obtain ⟨host, hhost, hnot⟩ := hs.host_of_mem (h.mem_iff.mp hg).1
    refine ⟨host, by rw [h.kept t (heq ▸ hne), hhost], fun hin => hnot ?_⟩
    exact (h.mem_iff.mp (heq.symm ▸ hin)).1
  · intro t guests ht
    rw [← (key t guests ht).1, h.guests]
    exact (hs.guestsOf_nodup t).filter _

/-- The second of two departures reports the hosts the first one started from. -/
theorem Leaves.endsOf_eq {left left' : List (Bytes × Bytes)}
    (h : Leaves s s' left) (h' : Leaves s' s'' left') : endsOf s' left' = endsOf s left' := by
  apply List.map_congr_left
  intro p hp
  have hne : s'.guestsOf p.1 ≠ [] := List.ne_nil_of_mem (h'.member p hp)
  rw [getHostIdOfTransmission, getHostIdOfTransmission, h.kept p.1 hne]

/-- An operation that only lets guests leave, with the end callbacks that go with it. -/
def Parts (s s' : TransmissionManager) (events : List SessionEvent) : Prop :=
  ∃ left, Leaves s s' left ∧ events = endsOf s left

theorem Parts.of_eq (hs : s.WellFormed)
    (hh : s'.transmissionHostIdList = s.transmissionHostIdList)
    (hg : s'.transmissionGuestIdList = s.transmissionGuestIdList) : Parts s s' [] :=
  ⟨[], Leaves.of_eq hs hh hg, rfl⟩

theorem Parts.wellFormed {events : List SessionEvent} (hs : s.WellFormed) (h : Parts s s' events) :
    s'.WellFormed := by
  obtain ⟨left, hl, _⟩ := h
  exact hl.wellFormed hs

theorem Parts.trans {events events' : List SessionEvent}
    (h : Parts s s' events) (h' : Parts s' s'' events') : Parts s s'' (events ++ events') := by
  obtain ⟨left, hl, rfl⟩ := h
  obtain ⟨left', hl', rfl⟩ := h'
  refine ⟨left ++ left', hl.trans hl', ?_⟩
  rw [hl.endsOf_eq hl', endsOf, endsOf, endsOf, List.map_append]

/-! ## The operations that release -/

/-- The end callbacks of a pass over all guest lists, as the pairs it drops. -/
theorem flatMap_endEvents (s : TransmissionManager) (gone : List Bytes → List Bytes) :
    (s.transmissionGuestIdList.toList.flatMap fun entry => s.endEvents entry.1 (gone entry.2))
      = endsOf s (s.transmissionGuestIdList.toList.flatMap fun entry =>
          (gone entry.2).map fun g => (entry.1, g)) := by
  simp only [endsOf, endEvents, List.map_flatMap, List.map_map]
  rfl

/-- Membership in the pairs a pass drops. -/
theorem mem_dropped {gone : List Bytes → List Bytes} (hgone : gone [] = []) {t g : Bytes} :
    (t, g) ∈ (s.transmissionGuestIdList.toList.flatMap fun entry =>
        (gone entry.2).map fun g => (entry.1, g)) ↔ g ∈ gone (s.guestsOf t) := by
  rw [List.mem_flatMap]
  constructor
  · rintro ⟨e, he, hm⟩
    obtain ⟨g', hg', heq⟩ := List.mem_map.mp hm
    obtain ⟨rfl, rfl⟩ := Prod.mk.inj heq
    rw [Std.ExtTreeMap.mem_toList] at he
    rwa [guestsOf_of_some he]
  · intro hg
    cases ht : s.transmissionGuestIdList[t]? with
    | none => rw [guestsOf_of_none ht, hgone] at hg; exact absurd hg (by simp)
    | some guests =>
        rw [guestsOf_of_some ht] at hg
        exact ⟨(t, guests), Std.ExtTreeMap.mem_toList.mpr ht, List.mem_map.mpr ⟨g, hg, rfl⟩⟩

/-- **A pass over the guest lists** that drops `gone` from each list and keeps the rest in order. -/
theorem leaves_of_pass (hs : s.WellFormed) (gone : List Bytes → List Bytes) (hgone : gone [] = [])
    (hsub : ∀ l, gone l ⊆ l) (hnd : ∀ l : List Bytes, l.Nodup → (gone l).Nodup)
    {f : Bytes → List Bytes → Option (List Bytes)}
    (hf : ∀ t l, l ≠ [] → f t l = keepNonEmpty (l.filter fun g => g ∉ gone l)) :
    Leaves s { s with transmissionGuestIdList := s.transmissionGuestIdList.rewrite f }
      (s.transmissionGuestIdList.toList.flatMap fun entry =>
        (gone entry.2).map fun g => (entry.1, g)) where
  nodup := Std.ExtTreeMap.nodup_flatMap_pairs _ (fun _ => gone) fun e he =>
    hnd _ (hs.nodup e.1 e.2 (Std.ExtTreeMap.mem_toList.mp he))
  member := fun p hp => hsub _ ((mem_dropped (t := p.1) (g := p.2) hgone).mp hp)
  guests := fun t => by
    simp only [mem_dropped hgone]
    cases ht : s.transmissionGuestIdList[t]? with
    | none => simp [guestsOf, ht]
    | some guests =>
        rw [guestsOf_of_some ht]
        simp only [guestsOf, Std.ExtTreeMap.getElem?_rewrite, ht, Option.bind_some,
          hf t guests (hs.nonempty t guests ht), keepNonEmpty]
        split
        · rename_i hnil; rw [hnil]; rfl
        · rfl
  stored := fun t guests h => by
    simp only [Std.ExtTreeMap.getElem?_rewrite] at h
    obtain ⟨l, hl, hfl⟩ := Option.bind_eq_some_iff.mp h
    rw [hf t l (hs.nonempty t l hl), keepNonEmpty] at hfl
    split at hfl
    · exact absurd hfl (by simp)
    · rename_i hne; rw [← Option.some.inj hfl]; exact hne
  hosts := fun _ _ h => h
  kept := fun _ _ => rfl

theorem releaseTransmission_parts (hs : s.WellFormed) (t : Bytes) :
    Parts s (s.releaseTransmission t).tm (s.releaseTransmission t).events := by
  refine ⟨(s.guestsOf t).map fun g => (t, g), ⟨?_, ?_, ?_, ?_, ?_, ?_⟩, ?_⟩
  · exact (hs.guestsOf_nodup t).map fun _ _ h => (Prod.mk.inj h).2
  · intro p hp
    obtain ⟨g, hg, rfl⟩ := List.mem_map.mp hp
    exact hg
  · intro a
    by_cases ha : t = a
    · subst ha
      have hnil : (s.releaseTransmission t).tm.guestsOf t = [] := by
        simp [releaseTransmission, guestsOf]
      rw [hnil, eq_comm, List.filter_eq_nil_iff]
      intro g hg
      simpa using hg
    · have hkeep : (s.releaseTransmission t).tm.guestsOf a = s.guestsOf a := by
        simp only [releaseTransmission, guestsOf, Std.ExtTreeMap.getElem?_erase_eq, ha, if_false]
      rw [hkeep, eq_comm, List.filter_eq_self]
      intro g _
      simpa using Or.inr ha
  · intro a guests h
    simp only [releaseTransmission, Std.ExtTreeMap.getElem?_erase_eq] at h
    split at h
    · exact absurd h (by simp)
    · exact hs.nonempty a guests h
  · intro a host h
    simp only [releaseTransmission, Std.ExtTreeMap.getElem?_erase_eq] at h
    split at h
    · exact absurd h (by simp)
    · exact h
  · intro a h
    by_cases ha : t = a
    · subst ha; exact absurd (by simp [releaseTransmission, guestsOf]) h
    · simp only [releaseTransmission, Std.ExtTreeMap.getElem?_erase_eq, ha, if_false]
  · simp only [releaseTransmission, endEvents, endsOf, List.map_map]
    rfl

/-- `std::remove` on a duplicate-free list drops one guest or nobody. -/
theorem releaseGuestFromTransmission_parts (hs : s.WellFormed) (guestId : Bytes) :
    Parts s (s.releaseGuestFromTransmission guestId).tm
      (s.releaseGuestFromTransmission guestId).events := by
  refine ⟨_, leaves_of_pass hs (fun l => if guestId ∈ l then [guestId] else [])
    rfl ?_ ?_ ?_, flatMap_endEvents s (fun l => if guestId ∈ l then [guestId] else [])⟩
  · intro l g hg
    split at hg
    · rename_i h; rw [List.mem_singleton.mp hg]; exact h
    · exact absurd hg (by simp)
  · intro l _
    split <;> simp
  · intro t l hne
    by_cases h : guestId ∈ l
    · simp only [h, if_true, List.mem_singleton]
    · have hall : (l.filter fun g => g ∉ ([] : List Bytes)) = l := by simp
      simp only [h, if_false, hall, keepNonEmpty, hne]

theorem pruneGuests_parts (hs : s.WellFormed) :
    Parts s s.pruneGuests.tm s.pruneGuests.events := by
  refine ⟨_, leaves_of_pass hs
    (fun l => l.filter fun g => !s.hasUserConnection g) rfl ?_ ?_ ?_,
    flatMap_endEvents s (fun l => l.filter fun g => !s.hasUserConnection g)⟩
  · intro l; exact List.filter_subset_self l
  · intro l hl; exact hl.filter _
  · intro t l _
    refine congrArg keepNonEmpty (List.filter_congr fun g hg => ?_)
    rw [Bool.eq_iff_iff, decide_eq_true_eq, List.mem_filter]
    simp [hg]

/-- Induction on the transmissions still to release. -/
theorem foldl_pruneStep_parts (ts : List Bytes) (acc : Outcome Nat)
    (hs : acc.tm.WellFormed) (h : Parts s acc.tm acc.events) :
    Parts s (ts.foldl pruneStep acc).tm (ts.foldl pruneStep acc).events := by
  induction ts generalizing acc with
  | nil => exact h
  | cons t ts ih =>
      have hrel := releaseTransmission_parts hs t
      exact ih (pruneStep acc t) (hrel.wellFormed hs) (h.trans hrel)

theorem pruneDisconnectedTransmissions_parts (hs : s.WellFormed) :
    Parts s s.pruneDisconnectedTransmissions.tm s.pruneDisconnectedTransmissions.events := by
  have hfirst := foldl_pruneStep_parts (s := s)
    ((s.transmissionHostIdList.toList.filter fun hostPair =>
      !s.hasUserConnection hostPair.2).map Prod.fst) ⟨0, s, []⟩ hs (.of_eq hs rfl rfl)
  exact hfirst.trans (pruneGuests_parts (hfirst.wellFormed hs))

theorem disconnectTransmission_parts (hs : s.WellFormed) (t : Bytes) :
    Parts s (s.disconnectTransmission t).tm (s.disconnectTransmission t).events := by
  unfold disconnectTransmission
  split
  · exact .of_eq hs rfl rfl
  · exact releaseTransmission_parts hs t

/-- A transmission that is disconnected has no guests left, hosted before or not. -/
theorem disconnectTransmission_guests (hs : s.WellFormed) (t : Bytes) :
    (s.disconnectTransmission t).tm.guestsOf t = [] := by
  unfold disconnectTransmission isTransmissionExist
  split
  · rename_i hnot
    have hnone : s.transmissionHostIdList[t]? = none := by
      apply Std.ExtTreeMap.getElem?_eq_none
      intro hmem
      rw [Std.ExtTreeMap.contains_iff_mem.mpr hmem] at hnot
      exact absurd hnot (by simp)
    by_contra hne
    obtain ⟨g, hg⟩ := List.exists_mem_of_ne_nil _ hne
    obtain ⟨host, hhost, _⟩ := hs.host_of_mem hg
    rw [hnone] at hhost
    exact absurd hhost (by simp)
  · simp [releaseTransmission, guestsOf]

/-! ## Connections leave the session tables alone -/

theorem updateWsHandleLastActiveTime_tables (now : Int) (hdl : ConnectionHdl) :
    (s.updateWsHandleLastActiveTime now hdl).tm.transmissionHostIdList = s.transmissionHostIdList ∧
    (s.updateWsHandleLastActiveTime now hdl).tm.transmissionGuestIdList
      = s.transmissionGuestIdList := by
  unfold updateWsHandleLastActiveTime
  split <;> exact ⟨rfl, rfl⟩

theorem updateWsHandleLastActiveTime_events (now : Int) (hdl : ConnectionHdl) :
    (s.updateWsHandleLastActiveTime now hdl).events = [] := by
  unfold updateWsHandleLastActiveTime
  split <;> rfl

theorem bindUserToWsHandle_tables (now : Int) (userId : Bytes) (hdl : ConnectionHdl) :
    (s.bindUserToWsHandle now userId hdl).tm.transmissionHostIdList = s.transmissionHostIdList ∧
    (s.bindUserToWsHandle now userId hdl).tm.transmissionGuestIdList
      = s.transmissionGuestIdList :=
  updateWsHandleLastActiveTime_tables (s := { s with
    userIdWsHdlList := s.userIdWsHdlList.insert userId hdl
    wsHdlUserIdList := s.wsHdlUserIdList.insert hdl userId }) now hdl

theorem releaseUserFromWsHandle_tables (hdl : ConnectionHdl) :
    (s.releaseUserFromWsHandle hdl).tm.transmissionHostIdList = s.transmissionHostIdList ∧
    (s.releaseUserFromWsHandle hdl).tm.transmissionGuestIdList = s.transmissionGuestIdList := by
  unfold releaseUserFromWsHandle
  cases s.wsHdlUserIdList[hdl]? <;> exact ⟨rfl, rfl⟩

theorem releaseUserFromWsHandle_events (hdl : ConnectionHdl) :
    (s.releaseUserFromWsHandle hdl).events = [] := by
  unfold releaseUserFromWsHandle
  cases s.wsHdlUserIdList[hdl]? <;> rfl

theorem releaseUserSession_parts (hs : s.WellFormed) (hdl : ConnectionHdl) :
    Parts s (s.releaseUserSession hdl).tm (s.releaseUserSession hdl).events := by
  have hunbound : Parts s (s.releaseUserFromWsHandle hdl).tm [] :=
    .of_eq hs (releaseUserFromWsHandle_tables hdl).1 (releaseUserFromWsHandle_tables hdl).2
  have hs1 := hunbound.wellFormed hs
  simp only [releaseUserSession]
  split
  · exact hunbound
  · split
    · exact hunbound
    · have hleft := releaseGuestFromTransmission_parts hs1 (s.releaseUserFromWsHandle hdl).ret
      have hs2 := hleft.wellFormed hs1
      split
      · exact hunbound.trans (hleft.trans (releaseTransmission_parts hs2 _))
      · exact hunbound.trans hleft

theorem expireSession_parts (hs : s.WellFormed) (hdl : ConnectionHdl) :
    Parts s (s.expireSession hdl).tm (s.expireSession hdl).events := by
  have hidle : Parts s (s.removeWsHandleLastActiveTime hdl) [] := .of_eq hs rfl rfl
  exact hidle.trans (releaseUserSession_parts (hidle.wellFormed hs) hdl)

/-- The callbacks of a whole sweep, in order. -/
def recordEvents (released : Outcome Bytes) (_ : ConnectionHdl) (events : List SessionEvent) :
    List SessionEvent := events ++ released.events

/-- Induction on the activity entries still to visit. -/
theorem foldl_expireStep_parts (now : Int) (expired : ConnectionHdl → Bool)
    (l : List (ConnectionHdl × Int)) {acc : TransmissionManager × List SessionEvent}
    (hs : acc.1.WellFormed) (h : Parts s acc.1 acc.2) :
    Parts s (l.foldl (expireStep now expired recordEvents) acc).1
      (l.foldl (expireStep now expired recordEvents) acc).2 := by
  induction l generalizing acc with
  | nil => exact h
  | cons entry l ih =>
      rw [List.foldl_cons]
      unfold expireStep
      split
      · have hrel := expireSession_parts hs entry.1
        exact ih (hrel.wellFormed hs) (h.trans hrel)
      · exact ih hs h

theorem expireInactiveSessions_parts (hs : s.WellFormed) (now : Int)
    (expired : ConnectionHdl → Bool) :
    Parts s (s.expireInactiveSessions now expired recordEvents []).1
      (s.expireInactiveSessions now expired recordEvents []).2 :=
  foldl_expireStep_parts now expired _ hs (.of_eq hs rfl rfl)

/-! ## The effect of any operation -/

/-- **What an operation can do to the session tables**, with its callbacks. -/
inductive Effect (s s' : TransmissionManager) (events : List SessionEvent) : Prop
  | parts : Parts s s' events → Effect s s' events
  | hosted (t host : Bytes) : s.transmissionHostIdList[t]? = none →
      s'.transmissionHostIdList = s.transmissionHostIdList.insert t host →
      s'.transmissionGuestIdList = s.transmissionGuestIdList → events = [] → Effect s s' events
  | joined (t host g : Bytes) : s.transmissionHostIdList[t]? = some host → host ≠ g →
      g ∉ s.guestsOf t → s'.transmissionHostIdList = s.transmissionHostIdList →
      s'.transmissionGuestIdList = s.transmissionGuestIdList.insert t (s.guestsOf t ++ [g]) →
      events = [⟨t, host, g, true⟩] → Effect s s' events

theorem bindHostToTransmission_effect (hs : s.WellFormed) (host t : Bytes) :
    Effect s (s.bindHostToTransmission host t).tm (s.bindHostToTransmission host t).events := by
  unfold bindHostToTransmission
  split
  · exact .parts (.of_eq hs rfl rfl)
  · rename_i h
    have hnone : s.transmissionHostIdList[t]? = none := by simpa using h
    exact .hosted t host hnone rfl rfl rfl

/-- A transmission that has a host keeps it, one that has none gets the new one. -/
theorem bindHostToTransmission_host (s : TransmissionManager) (host t a : Bytes) :
    (s.bindHostToTransmission host t).tm.transmissionHostIdList[a]?
      = (s.transmissionHostIdList[a]?).or (if t = a then some host else none) := by
  unfold bindHostToTransmission
  split
  · rename_i h
    by_cases ha : t = a
    · subst ha
      obtain ⟨old, hold⟩ := Option.isSome_iff_exists.mp
        (Std.ExtTreeMap.isSome_getElem?_iff_mem.mpr (Std.ExtTreeMap.contains_iff_mem.mp h))
      rw [hold]; rfl
    · rw [if_neg ha]; simp
  · rename_i h
    have hnone : s.transmissionHostIdList[t]? = none := by simpa using h
    rw [Std.ExtTreeMap.getElem?_insert_eq]
    by_cases ha : t = a
    · subst ha
      rw [hnone, if_pos rfl]; simp
    · rw [if_neg ha, if_neg ha]; simp

theorem bindHostToTransmission_guests (s : TransmissionManager) (host t a : Bytes) :
    (s.bindHostToTransmission host t).tm.guestsOf a = s.guestsOf a := by
  unfold bindHostToTransmission
  split <;> rfl

theorem bindHostToTransmission_events (s : TransmissionManager) (host t : Bytes) :
    (s.bindHostToTransmission host t).events = [] := by
  unfold bindHostToTransmission
  split <;> rfl

/-- The guests after `g` was put behind the guests of `t`. -/
theorem mem_guestsOf_joined {t g a x : Bytes} (hg : s'.transmissionGuestIdList
      = s.transmissionGuestIdList.insert t (s.guestsOf t ++ [g])) :
    x ∈ s'.guestsOf a ↔ x ∈ s.guestsOf a ∨ (a = t ∧ x = g) := by
  rw [guestsOf, hg, Std.ExtTreeMap.getElem?_insert_eq]
  by_cases ha : t = a
  · subst ha
    rw [if_pos rfl, Option.getD_some, List.mem_append, List.mem_singleton]
    exact or_congr_right ⟨fun hx => ⟨rfl, hx⟩, fun hx => hx.2⟩
  · rw [if_neg ha]
    exact ⟨.inl, fun h => h.elim id fun h' => absurd h'.1.symm ha⟩

/-- What a guest bind can do: nothing, for one of three reasons, or let the guest in. -/
theorem bindGuestToTransmission_cases (s : TransmissionManager) (g t : Bytes) :
    (s.bindGuestToTransmission g t = ⟨false, s, []⟩ ∧ (s.transmissionHostIdList[t]? = none ∨
      s.transmissionHostIdList[t]? = some g ∨ g ∈ s.guestsOf t)) ∨
    ∃ host, s.transmissionHostIdList[t]? = some host ∧ host ≠ g ∧ g ∉ s.guestsOf t ∧
      s.bindGuestToTransmission g t = ⟨true, { s with
        transmissionGuestIdList := s.transmissionGuestIdList.insert t (s.guestsOf t ++ [g]) },
        [⟨t, host, g, true⟩]⟩ := by
  unfold bindGuestToTransmission
  cases hhost : s.transmissionHostIdList[t]? with
  | none => exact .inl ⟨rfl, .inl rfl⟩
  | some host =>
      by_cases heq : host = g
      · subst heq
        exact .inl ⟨if_pos rfl, .inr (.inl rfl)⟩
      · by_cases hin : g ∈ s.guestsOf t
        · simp only [heq, hin, if_true, if_false]
          exact .inl ⟨trivial, .inr (.inr trivial)⟩
        · right
          simp only [heq, hin, if_false]
          exact ⟨host, rfl, heq, not_false, rfl⟩

theorem bindGuestToTransmission_effect (hs : s.WellFormed) (g t : Bytes) :
    Effect s (s.bindGuestToTransmission g t).tm (s.bindGuestToTransmission g t).events := by
  rcases bindGuestToTransmission_cases s g t with
    ⟨hsame, _⟩ | ⟨host, hhost, hdiff, hnew, hout⟩
  · rw [hsame]
    exact .parts (.of_eq hs rfl rfl)
  · rw [hout]
    exact .joined t host g hhost hdiff hnew rfl rfl rfl

theorem bindGuestToTransmission_hosts (s : TransmissionManager) (g t : Bytes) :
    (s.bindGuestToTransmission g t).tm.transmissionHostIdList = s.transmissionHostIdList := by
  rcases bindGuestToTransmission_cases s g t with ⟨hsame, _⟩ | ⟨_, _, _, _, hout⟩
  · rw [hsame]
  · rw [hout]

/-- Nobody but the guest that was bound joins. -/
theorem mem_bindGuestToTransmission {g t a x : Bytes}
    (h : x ∈ (s.bindGuestToTransmission g t).tm.guestsOf a) :
    x ∈ s.guestsOf a ∨ (a = t ∧ x = g) := by
  rcases bindGuestToTransmission_cases s g t with ⟨hsame, _⟩ | ⟨_, _, _, _, hout⟩
  · rw [hsame] at h
    exact .inl h
  · rw [hout] at h
    exact (mem_guestsOf_joined rfl).mp h

theorem Effect.wellFormed {events : List SessionEvent} (hs : s.WellFormed)
    (h : Effect s s' events) : s'.WellFormed := by
  cases h with
  | parts h => exact h.wellFormed hs
  | hosted t host hnone hh hg _ =>
      refine ⟨?_, fun a l h => hs.nonempty a l (hg ▸ h), fun a l h => hs.nodup a l (hg ▸ h)⟩
      intro a guests h
      obtain ⟨host', hhost', hnot⟩ := hs.hosted a guests (hg ▸ h)
      refine ⟨host', ?_, hnot⟩
      have hne : t ≠ a := by rintro rfl; rw [hnone] at hhost'; exact absurd hhost' (by simp)
      rw [hh, Std.ExtTreeMap.getElem?_insert_eq, if_neg hne]; exact hhost'
  | joined t host g hhost hne hin hh hg _ =>
      have key : ∀ (a : Bytes) guests, s'.transmissionGuestIdList[a]? = some guests →
          (t = a ∧ guests = s.guestsOf t ++ [g]) ∨
          (t ≠ a ∧ s.transmissionGuestIdList[a]? = some guests) := by
        intro a guests h
        rw [hg, Std.ExtTreeMap.getElem?_insert_eq] at h
        by_cases ha : t = a
        · rw [if_pos ha] at h; exact .inl ⟨ha, (Option.some.inj h).symm⟩
        · rw [if_neg ha] at h; exact .inr ⟨ha, h⟩
      refine ⟨?_, ?_, ?_⟩
      · intro a guests h
        rw [hh]
        rcases key a guests h with ⟨rfl, rfl⟩ | ⟨_, h⟩
        · refine ⟨host, hhost, fun hmem => ?_⟩
          rcases List.mem_append.mp hmem with hold | hnew
          · obtain ⟨host', hhost', hnot⟩ := hs.host_of_mem hold
            rw [hhost] at hhost'
            exact hnot (Option.some.inj hhost' ▸ hold)
          · exact hne (List.mem_singleton.mp hnew)
        · exact hs.hosted a guests h
      · intro a guests h
        rcases key a guests h with ⟨_, rfl⟩ | ⟨_, h⟩
        · simp
        · exact hs.nonempty a guests h
      · intro a guests h
        rcases key a guests h with ⟨rfl, rfl⟩ | ⟨_, h⟩
        · refine List.nodup_append.mpr ⟨hs.guestsOf_nodup t, by simp, ?_⟩
          rintro x hx y hy rfl
          exact hin (List.mem_singleton.mp hy ▸ hx)
        · exact hs.nodup a guests h

/-- **A transmission keeps its host as long as it exists.** -/
theorem Effect.host_stable {events : List SessionEvent} (h : Effect s s' events) {t host host' : Bytes}
    (hb : s.transmissionHostIdList[t]? = some host)
    (ha : s'.transmissionHostIdList[t]? = some host') : host' = host := by
  cases h with
  | parts h =>
      obtain ⟨left, hl, _⟩ := h
      have := hl.hosts t host' ha
      rw [hb] at this; exact (Option.some.inj this).symm
  | hosted t' h' hnone hh _ _ =>
      rw [hh, Std.ExtTreeMap.getElem?_insert_eq] at ha
      split at ha
      · rename_i heq; subst heq; rw [hnone] at hb; exact absurd hb (by simp)
      · rw [hb] at ha; exact (Option.some.inj ha).symm
  | joined t' h' g _ _ _ hh _ _ =>
      rw [hh, hb] at ha; exact (Option.some.inj ha).symm

end TransmissionManager
end DeskServer
