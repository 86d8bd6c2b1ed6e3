import DeskServer.Transmission.Operations

/-!
# `Transmission.Tables` — the transmission table invariant and the connection count

The invariant of `Transmission.Effects` in the state after any run of public calls, and what it buys:
the three ways the program counts active connections agree.

**Shape.** The set of memberships is written down as a list without duplicates (`membershipList_nodup`), to
which the loop of `GetActiveConnectionCount` and the sum over the snapshots are both compared. Other counts,
such as that of the database, are compared elsewhere.
-/

namespace DeskServer
namespace TransmissionManager

/-- The distinct (transmission, guest) pairs. -/
def memberships (s : TransmissionManager) : Set (Bytes × Bytes) := {p | p.2 ∈ s.guestsOf p.1}

/-- The pairs, listed along the host table. -/
def membershipList (s : TransmissionManager) : List (Bytes × Bytes) :=
  s.transmissionHostIdList.toList.flatMap fun hostPair =>
    (s.guestsOf hostPair.1).map fun g => (hostPair.1, g)

/-- What the snapshot of a hosted transmission shows. -/
def snapshotOf (s : TransmissionManager) (hostPair : Bytes × Bytes) : TransmissionSnapshot where
  transmissionId := hostPair.1
  hostId := hostPair.2
  guestIds := s.guestsOf hostPair.1
  participantCount := 1 + (s.guestsOf hostPair.1).length
  active := true

variable {s : TransmissionManager}

theorem mem_membershipList (hs : s.WellFormed) {p : Bytes × Bytes} :
    p ∈ s.membershipList ↔ p ∈ s.memberships := by
  unfold membershipList memberships
  rw [List.mem_flatMap, Set.mem_ofPred_eq]
  constructor
  · rintro ⟨hostPair, _, hp⟩
    obtain ⟨g, hg, rfl⟩ := List.mem_map.mp hp
    exact hg
  · intro hp
    obtain ⟨host, hhost, _⟩ := hs.host_of_mem hp
    exact ⟨(p.1, host), Std.ExtTreeMap.mem_toList.mpr hhost, List.mem_map.mpr ⟨p.2, hp, rfl⟩⟩

theorem membershipList_nodup (hs : s.WellFormed) : s.membershipList.Nodup :=
  Std.ExtTreeMap.nodup_flatMap_pairs _ (fun t _ => s.guestsOf t)
    fun hostPair _ => hs.guestsOf_nodup hostPair.1

theorem ncard_memberships (hs : s.WellFormed) : s.memberships.ncard = s.membershipList.length := by
  have hset : s.memberships = ↑s.membershipList.toFinset := by
    ext p
    rw [List.coe_toFinset, Set.mem_ofPred_eq, mem_membershipList hs]
  rw [hset, Set.ncard_coe_finset, List.toFinset_card_of_nodup (membershipList_nodup hs)]

/-- Induction on the hosts still to count. -/
theorem foldl_count (l : List (Bytes × Bytes)) (count : Nat) :
    l.foldl s.countStep count
      = count + (l.map fun hostPair => (s.guestsOf hostPair.1).length).sum := by
  induction l generalizing count with
  | nil => rfl
  | cons hostPair l ih =>
      rw [List.foldl_cons, ih, List.map_cons, List.sum_cons, countStep]
      cases hg : s.transmissionGuestIdList[hostPair.1]? with
      | none => rw [guestsOf_of_none hg, List.length_nil, Nat.zero_add]
      | some guests => rw [guestsOf_of_some hg, Nat.add_assoc]

theorem getActiveConnectionCount_eq (s : TransmissionManager) :
    s.getActiveConnectionCount = s.membershipList.length := by
  unfold getActiveConnectionCount membershipList
  rw [foldl_count, Nat.zero_add, List.length_flatMap]
  refine congrArg List.sum (List.map_congr_left fun hostPair _ => ?_)
  rw [List.length_map]

/-- Induction on the hosts still to show: without search and offset, and below the limit, every
    iteration appends its snapshot. -/
theorem foldl_snapshotStep {limit : Nat} (l : List (Bytes × Bytes))
    (acc : List TransmissionSnapshot × Nat) (hlim : acc.1.length + l.length ≤ limit) :
    l.foldl (s.snapshotStep limit 0 []) acc = (acc.1 ++ l.map s.snapshotOf, acc.2 + l.length) := by
  induction l generalizing acc with
  | nil => simp
  | cons hostPair l ih =>
      have hroom : ¬ acc.1.length ≥ limit := by
        rw [List.length_cons] at hlim; omega
      have hstep : s.snapshotStep limit 0 [] acc hostPair
          = (acc.1 ++ [s.snapshotOf hostPair], acc.2 + 1) := by
        simp only [snapshotStep, transmissionMatchesSearch, List.isEmpty_nil, Bool.true_or,
          Bool.not_true, Bool.false_eq_true, if_false, Nat.not_lt_zero, hroom, snapshotOf, guestsOf]
      rw [List.foldl_cons, hstep, ih _ (by rw [List.length_append, List.length_cons] at *; simp; omega)]
      simp only [List.append_assoc, List.map_cons, List.singleton_append, List.length_cons]
      rw [Nat.add_right_comm, Nat.add_assoc acc.2 l.length 1]

/-- **All snapshots**: a page large enough shows every hosted transmission, in id order. -/
theorem getTransmissionSnapshots_all {limit : Nat}
    (hlim : s.transmissionHostIdList.size ≤ limit) :
    (s.getTransmissionSnapshots limit 0 []).1 = s.transmissionHostIdList.toList.map s.snapshotOf := by
  unfold getTransmissionSnapshots
  rw [foldl_snapshotStep _ _ (by rw [Std.ExtTreeMap.length_toList]; simpa using hlim)]
  rfl

theorem sum_participants {limit : Nat} (hlim : s.transmissionHostIdList.size ≤ limit) :
    ((s.getTransmissionSnapshots limit 0 []).1.map fun snapshot =>
      snapshot.participantCount - 1).sum = s.membershipList.length := by
  rw [getTransmissionSnapshots_all hlim, membershipList, List.length_flatMap, List.map_map]
  refine congrArg List.sum (List.map_congr_left fun hostPair _ => ?_)
  show 1 + (s.guestsOf hostPair.1).length - 1 = ((s.guestsOf hostPair.1).map _).length
  rw [List.length_map, Nat.add_sub_cancel_left]

/-- **The transmission tables after any run of public calls.** A guest list belongs to a hosted
    transmission, is not empty, repeats nobody and does not name the host; no further call changes the
    host of a transmission that still exists; and the connection count is the number of distinct
    (transmission, guest) pairs and the sum of the participants beyond the host over all snapshots. -/
theorem transmissionTables_invariant (ops : List Operation) :
    let s := (history ops).1
    (∀ (t : Bytes) (guests : List Bytes), s.transmissionGuestIdList[t]? = some guests →
      (∃ host, s.transmissionHostIdList[t]? = some host ∧ host ∉ guests) ∧
      guests ≠ [] ∧ guests.Nodup) ∧
    (∀ (op : Operation) (t host host' : Bytes), s.transmissionHostIdList[t]? = some host →
      (s.apply op).1.transmissionHostIdList[t]? = some host' → host' = host) ∧
    s.getActiveConnectionCount = s.memberships.ncard ∧
    ∀ limit, s.transmissionHostIdList.size ≤ limit →
      s.getActiveConnectionCount = ((s.getTransmissionSnapshots limit 0 []).1.map fun snapshot =>
        snapshot.participantCount - 1).sum := by
  intro s
  have hs : s.WellFormed := history_wellFormed ops
  refine ⟨?_, ?_, ?_, ?_⟩
  · intro t guests h
    exact ⟨hs.hosted t guests h, hs.nonempty t guests h, hs.nodup t guests h⟩
  · intro op t host host' hb ha
    exact (apply_effect hs op).host_stable hb ha
  · rw [getActiveConnectionCount_eq, ncard_memberships hs]
  · intro limit hlim
    rw [getActiveConnectionCount_eq, sum_participants hlim]

end TransmissionManager
end DeskServer
