import DeskServer.Transmission.Connections
import DeskServer.Transmission.Tables

/-!
# `Transmission.Departures` — who left, and what was reported

An operation that lets guests leave reports each pair it drops, once (`Parts.count_end`), and nobody
else. The prune is the operation that uses this twice in a row, for two reasons at once: a transmission
without its host goes as a whole, and of the others the guests without a connection go.

**Shape.** The guests that left are the removed members of the lists, and `endOf` gives each its callback, one
to one (`endOf_injective`). For the prune, hosts and guests are followed through the loop separately, and put
together at the end.
-/

namespace DeskServer
namespace TransmissionManager

/-- The end callback of a (transmission, guest) pair, with the host the table holds for it. -/
def endOf (s : TransmissionManager) (p : Bytes × Bytes) : SessionEvent :=
  ⟨p.1, s.getHostIdOfTransmission p.1, p.2, false⟩

/-- The pairs that went from `s` to `s'`. -/
def removed (s s' : TransmissionManager) : Set (Bytes × Bytes) := s.memberships \ s'.memberships

variable {s s' : TransmissionManager}

theorem Leaves.mem_removed {left : List (Bytes × Bytes)} (h : Leaves s s' left) {p : Bytes × Bytes} :
    p ∈ removed s s' ↔ p ∈ left := by
  rw [removed, Set.mem_sdiff, memberships, memberships, Set.mem_ofPred_eq, Set.mem_ofPred_eq, h.mem_iff]
  constructor
  · rintro ⟨hin, hout⟩
    by_contra hnot
    exact hout ⟨hin, hnot⟩
  · intro hp
    exact ⟨h.member p hp, fun hin => hin.2 hp⟩

theorem endOf_injective (s : TransmissionManager) : Function.Injective s.endOf := by
  intro p q h
  injection h with ht _ hg
  exact Prod.ext ht hg

/-- **Each pair that left is reported exactly once.** -/
theorem Parts.count_end {events : List SessionEvent} (h : Parts s s' events) {p : Bytes × Bytes}
    (hp : p ∈ removed s s') : events.count (s.endOf p) = 1 := by
  obtain ⟨left, hl, rfl⟩ := h
  have hcount : (endsOf s left).count (s.endOf p) = left.count p :=
    List.count_map_of_injective left s.endOf (endOf_injective s) p
  rw [hcount]
  exact List.count_eq_one_of_mem hl.nodup (hl.mem_removed.mp hp)

/-- Nothing else is reported. -/
theorem Parts.mem_events {events : List SessionEvent} (h : Parts s s' events) {e : SessionEvent} :
    e ∈ events ↔ ∃ p ∈ removed s s', e = s.endOf p := by
  obtain ⟨left, hl, rfl⟩ := h
  rw [endsOf, List.mem_map]
  constructor
  · rintro ⟨p, hp, rfl⟩
    exact ⟨p, hl.mem_removed.mpr hp, rfl⟩
  · rintro ⟨p, hp, rfl⟩
    exact ⟨p, hl.mem_removed.mp hp, rfl⟩

theorem Parts.length_events {events : List SessionEvent} (h : Parts s s' events) :
    events.length = (removed s s').ncard := by
  obtain ⟨left, hl, rfl⟩ := h
  have hset : removed s s' = ↑left.toFinset := by
    ext p
    rw [hl.mem_removed, List.coe_toFinset, Set.mem_ofPred_eq]
  rw [hset, Set.ncard_coe_finset, List.toFinset_card_of_nodup hl.nodup, endsOf, List.length_map]

/-! ## The tables after a release -/

theorem releaseTransmission_guestsOf (s : TransmissionManager) (t a : Bytes) :
    (s.releaseTransmission t).tm.guestsOf a = if t = a then [] else s.guestsOf a := by
  simp only [releaseTransmission, guestsOf, Std.ExtTreeMap.getElem?_erase_eq]
  split <;> rfl

theorem releaseTransmission_hosts (s : TransmissionManager) (t a : Bytes) :
    (s.releaseTransmission t).tm.transmissionHostIdList[a]?
      = if t = a then none else s.transmissionHostIdList[a]? :=
  Std.ExtTreeMap.getElem?_erase_eq _ _ _

/-- A guest leaves every list, and the others keep their order. -/
theorem releaseGuestFromTransmission_guestsOf (s : TransmissionManager) (g a : Bytes) :
    (s.releaseGuestFromTransmission g).tm.guestsOf a = (s.guestsOf a).filter (· ≠ g) := by
  simp only [releaseGuestFromTransmission, guestsOf, Std.ExtTreeMap.getElem?_rewrite]
  cases s.transmissionGuestIdList[a]? with
  | none => rfl
  | some guests =>
      rw [Option.bind_some, Option.getD_some]
      split
      · rw [keepNonEmpty]
        split
        · rename_i hnil
          rw [hnil]; rfl
        · rfl
      · rename_i hnot
        rw [Option.getD_some, eq_comm, List.filter_eq_self]
        intro x hx
        have hne : x ≠ g := fun heq => hnot (heq ▸ hx)
        exact decide_eq_true hne

/-! ## The prune -/

/-- What the first loop leaves of the hosts, with `ts` released. -/
theorem foldl_pruneStep_hosts (ts : List Bytes) (acc : Outcome Nat) (a : Bytes) :
    (ts.foldl pruneStep acc).tm.transmissionHostIdList[a]?
      = if a ∈ ts then none else acc.tm.transmissionHostIdList[a]? := by
  induction ts generalizing acc with
  | nil => simp
  | cons t ts ih =>
      rw [List.foldl_cons, ih]
      simp only [pruneStep, releaseTransmission, Std.ExtTreeMap.getElem?_erase_eq, List.mem_cons]
      by_cases hin : a ∈ ts
      · rw [if_pos hin, if_pos (.inr hin)]
      · by_cases ht : t = a
        · rw [if_neg hin, if_pos ht, if_pos (.inl ht.symm)]
        · rw [if_neg hin, if_neg ht, if_neg (fun h => h.elim (fun h => ht h.symm) hin)]

/-- What the first loop leaves of the guests. -/
theorem foldl_pruneStep_guests (ts : List Bytes) (acc : Outcome Nat) (a : Bytes) :
    (ts.foldl pruneStep acc).tm.guestsOf a = if a ∈ ts then [] else acc.tm.guestsOf a := by
  induction ts generalizing acc with
  | nil => simp
  | cons t ts ih =>
      rw [List.foldl_cons, ih]
      simp only [pruneStep, releaseTransmission, guestsOf, Std.ExtTreeMap.getElem?_erase_eq,
        List.mem_cons]
      by_cases hin : a ∈ ts
      · rw [if_pos hin, if_pos (.inr hin)]
      · by_cases ht : t = a
        · rw [if_neg hin, if_pos ht, if_pos (.inl ht.symm)]; rfl
        · rw [if_neg hin, if_neg ht, if_neg (fun h => h.elim (fun h => ht h.symm) hin)]

/-- The first loop counts what it reports. -/
theorem foldl_pruneStep_ret (ts : List Bytes) (acc : Outcome Nat) (h : acc.ret = acc.events.length) :
    (ts.foldl pruneStep acc).ret = (ts.foldl pruneStep acc).events.length := by
  induction ts generalizing acc with
  | nil => exact h
  | cons t ts ih =>
      apply ih
      simp only [pruneStep, releaseTransmission, endEvents, List.length_append, List.length_map, h]

/-- So does the second. -/
theorem pruneGuests_ret (s : TransmissionManager) : s.pruneGuests.ret = s.pruneGuests.events.length := by
  simp only [pruneGuests, List.length_flatMap, endEvents, List.length_map]

/-- The second loop keeps the connected guests, in their order. -/
theorem pruneGuests_guests (s : TransmissionManager) (a : Bytes) :
    s.pruneGuests.tm.guestsOf a = (s.guestsOf a).filter fun g => s.hasUserConnection g := by
  simp only [pruneGuests, guestsOf, Std.ExtTreeMap.getElem?_rewrite]
  cases s.transmissionGuestIdList[a]? with
  | none => rfl
  | some guests =>
      rw [Option.bind_some, keepNonEmpty, Option.getD_some]
      split
      · rename_i hnil
        rw [hnil]; rfl
      · rfl

theorem pruneDisconnectedTransmissions_ret (s : TransmissionManager) :
    s.pruneDisconnectedTransmissions.ret = s.pruneDisconnectedTransmissions.events.length := by
  simp only [pruneDisconnectedTransmissions, List.length_append, pruneGuests_ret]
  rw [foldl_pruneStep_ret _ ⟨0, s, []⟩ rfl]

/-- The transmissions the first loop collects. -/
theorem mem_disconnected {t : Bytes} :
    t ∈ (s.transmissionHostIdList.toList.filter fun hostPair =>
        !s.hasUserConnection hostPair.2).map Prod.fst ↔
      ∃ host, s.transmissionHostIdList[t]? = some host ∧ s.hasUserConnection host = false := by
  rw [List.mem_map]
  constructor
  · rintro ⟨hostPair, hpair, rfl⟩
    obtain ⟨hmem, hgone⟩ := List.mem_filter.mp hpair
    exact ⟨hostPair.2, Std.ExtTreeMap.mem_toList.mp hmem, by simpa using hgone⟩
  · rintro ⟨host, hhost, hgone⟩
    exact ⟨(t, host), List.mem_filter.mpr ⟨Std.ExtTreeMap.mem_toList.mpr hhost, by simp [hgone]⟩, rfl⟩

/-- A transmission whose host is connected is not collected. -/
theorem not_mem_disconnected {t host : Bytes} (hhost : s.transmissionHostIdList[t]? = some host)
    (hconn : s.hasUserConnection host = true) :
    t ∉ (s.transmissionHostIdList.toList.filter fun hostPair =>
        !s.hasUserConnection hostPair.2).map Prod.fst := by
  intro hin
  obtain ⟨host', hhost', hgone⟩ := mem_disconnected.mp hin
  rw [hhost] at hhost'
  rw [← Option.some.inj hhost', hconn] at hgone
  exact absurd hgone (by simp)

theorem pruneDisconnectedTransmissions_hosts (t host : Bytes) :
    s.pruneDisconnectedTransmissions.tm.transmissionHostIdList[t]? = some host ↔
      s.transmissionHostIdList[t]? = some host ∧ s.hasUserConnection host = true := by
  simp only [pruneDisconnectedTransmissions, pruneGuests, foldl_pruneStep_hosts]
  constructor
  · intro h
    split at h
    · exact absurd h (by simp)
    · rename_i hnot
      refine ⟨h, ?_⟩
      by_contra hgone
      exact hnot (mem_disconnected.mpr ⟨host, h, by simpa using hgone⟩)
  · rintro ⟨hhost, hconn⟩
    rw [if_neg (not_mem_disconnected hhost hconn), hhost]

theorem pruneDisconnectedTransmissions_guests (t : Bytes) :
    s.pruneDisconnectedTransmissions.tm.guestsOf t
      = if ∃ host, s.transmissionHostIdList[t]? = some host ∧ s.hasUserConnection host = false then []
        else (s.guestsOf t).filter fun g => s.hasUserConnection g := by
  have hconn := (foldl_pruneStep_connections
    ((s.transmissionHostIdList.toList.filter fun hostPair =>
      !s.hasUserConnection hostPair.2).map Prod.fst) (⟨0, s, []⟩ : Outcome Nat)).hasUserConnection
  simp only [pruneDisconnectedTransmissions, pruneGuests_guests, foldl_pruneStep_guests, hconn,
    mem_disconnected]
  split <;> rfl

/-- What the prune owes its caller. -/
structure Pruned (s : TransmissionManager) (out : Outcome Nat) : Prop where
  /-- Every host and every guest that remains is connected. -/
  hosts : ∀ t host : Bytes, out.tm.transmissionHostIdList[t]? = some host →
    ∃ hdl, out.tm.Authenticated hdl host
  guests : ∀ t g, g ∈ out.tm.guestsOf t → ∃ hdl, out.tm.Authenticated hdl g
  /-- A transmission with a connected host keeps it, and its connected guests in their order. -/
  kept : ∀ t host : Bytes, s.transmissionHostIdList[t]? = some host →
    (∃ hdl, s.Authenticated hdl host) → out.tm.transmissionHostIdList[t]? = some host ∧
      out.tm.guestsOf t = (s.guestsOf t).filter fun g => s.hasUserConnection g
  /-- Each removed pair is reported once, with its host, and nothing else is. -/
  ended : ∀ p ∈ removed s out.tm, out.events.count (s.endOf p) = 1
  onlyEnds : ∀ e ∈ out.events, ∃ p ∈ removed s out.tm, e = s.endOf p
  count : out.ret = (removed s out.tm).ncard

/-- **The prune keeps exactly the connected.** -/
theorem pruneDisconnectedTransmissions_exact (s : TransmissionManager) (hs : s.WellFormed) :
    Pruned s s.pruneDisconnectedTransmissions := by
  have hparts := pruneDisconnectedTransmissions_parts hs
  refine ⟨?_, ?_, ?_, fun p hp => hparts.count_end hp, fun e he => hparts.mem_events.mp he, ?_⟩
  · intro t host h
    rw [← hasUserConnection_iff, pruneDisconnectedTransmissions_connections.hasUserConnection]
    exact ((pruneDisconnectedTransmissions_hosts t host).mp h).2
  · intro t g hg
    rw [← hasUserConnection_iff, pruneDisconnectedTransmissions_connections.hasUserConnection]
    rw [pruneDisconnectedTransmissions_guests] at hg
    split at hg
    · exact absurd hg (by simp)
    · exact (List.mem_filter.mp hg).2
  · intro t host hhost hconn
    rw [← hasUserConnection_iff] at hconn
    refine ⟨(pruneDisconnectedTransmissions_hosts t host).mpr ⟨hhost, hconn⟩, ?_⟩
    rw [pruneDisconnectedTransmissions_guests, if_neg]
    rintro ⟨host', hhost', hgone⟩
    rw [hhost] at hhost'
    rw [← Option.some.inj hhost', hconn] at hgone
    exact absurd hgone (by simp)
  · rw [pruneDisconnectedTransmissions_ret, hparts.length_events]

/-- Host `d` and guest `a` are connected, guest `b` and host `e` are not. -/
def halfConnected : List Operation :=
  [.bindHostToTransmission (bytes "d") (bytes "1"), .bindGuestToTransmission (bytes "a") (bytes "1"),
    .bindGuestToTransmission (bytes "b") (bytes "1"), .bindHostToTransmission (bytes "e") (bytes "2"),
    .bindGuestToTransmission (bytes "a") (bytes "2"), .bindUserToWsHandle 0 (bytes "d") 1,
    .bindUserToWsHandle 0 (bytes "a") 2]

theorem prune_halfConnected :
    Pruned (history halfConnected).1 (history halfConnected).1.pruneDisconnectedTransmissions :=
  pruneDisconnectedTransmissions_exact (history halfConnected).1 (history_wellFormed halfConnected)

end TransmissionManager
end DeskServer
