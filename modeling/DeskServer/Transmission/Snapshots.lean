import DeskServer.Lib.Paging
import DeskServer.Transmission.Tables

/-!
# `Transmission.Snapshots` — pages of the transmissions in memory

**A call returns a page of what the search finds.** One loop over the host table matches, skips, caps and
counts. The list it pages through is that of all matching transmissions, in id order; the number it
reports is the length of that list, whatever page is asked for. The guests of a snapshot stand in the order
in which they joined: replaying the callbacks of the run gives their list.
-/

namespace DeskServer
namespace TransmissionManager

open Bytes Paging

variable {s s' : TransmissionManager} {search : Bytes}

/-! ## The loop -/

/-- A hosted transmission that the search in memory finds. -/
def hostMatches (s : TransmissionManager) (search : Bytes) (hostPair : Bytes × Bytes) : Bool :=
  transmissionMatchesSearch hostPair.1 hostPair.2 s.transmissionGuestIdList[hostPair.1]? search

/-- One more snapshot behind the ones matched so far. -/
theorem page_snoc {limit offset : Nat} (done : List TransmissionSnapshot) (x : TransmissionSnapshot) :
    (((done ++ [x]).drop offset).take limit, (done ++ [x]).length)
      = if done.length < offset then ((done.drop offset).take limit, done.length + 1)
        else if ((done.drop offset).take limit).length ≥ limit then
          ((done.drop offset).take limit, done.length + 1)
        else ((done.drop offset).take limit ++ [x], done.length + 1) := by
  have hlen : (done ++ [x]).length = done.length + 1 := List.length_append
  rw [hlen]
  split
  · rename_i hlt
    rw [List.drop_eq_nil_of_le (by rw [hlen]; omega), List.drop_eq_nil_of_le (by omega)]
  · rename_i hge
    rw [List.drop_append_of_le_length (by omega)]
    split
    · rename_i hfull
      rw [List.length_take] at hfull
      rw [List.take_append_of_le_length (by omega)]
    · rename_i hroom
      rw [List.length_take] at hroom
      rw [List.take_of_length_le (by rw [List.length_append, List.length_singleton]; omega),
        List.take_of_length_le (by omega)]

/-- Induction on the hosts still to show: the snapshots are a page of what matches, and the number is that
    of all that matches. -/
theorem foldl_snapshotStep_page (s : TransmissionManager) (limit offset : Nat) (search : Bytes)
    (l : List (Bytes × Bytes)) (done : List TransmissionSnapshot) :
    l.foldl (s.snapshotStep limit offset search) ((done.drop offset).take limit, done.length)
      = (((done ++ (l.filter (s.hostMatches search)).map s.snapshotOf).drop offset).take limit,
        (done ++ (l.filter (s.hostMatches search)).map s.snapshotOf).length) := by
  induction l generalizing done with
  | nil => rw [List.filter_nil, List.map_nil, List.append_nil]; rfl
  | cons hostPair l ih =>
      rw [List.foldl_cons, List.filter_cons]
      by_cases hmatch : s.hostMatches search hostPair = true
      · have hstep : s.snapshotStep limit offset search ((done.drop offset).take limit, done.length)
              hostPair
            = (((done ++ [s.snapshotOf hostPair]).drop offset).take limit,
              (done ++ [s.snapshotOf hostPair]).length) := by
          rw [page_snoc]
          unfold hostMatches at hmatch
          simp only [snapshotStep, hmatch, Bool.not_true, Bool.false_eq_true, if_false]
          rfl
        rw [hstep, ih, if_pos hmatch, List.map_cons, List.append_assoc]
        rfl
      · have hstep : s.snapshotStep limit offset search ((done.drop offset).take limit, done.length)
            hostPair = ((done.drop offset).take limit, done.length) := by
          unfold hostMatches at hmatch
          rw [Bool.not_eq_true] at hmatch
          simp only [snapshotStep, hmatch, Bool.not_false, if_true]
        rw [hstep, ih, if_neg hmatch]

/-- **The list in memory is a page of the transmissions that match.** -/
theorem getTransmissionSnapshots_page (s : TransmissionManager) (limit offset : Nat) (search : Bytes) :
    s.getTransmissionSnapshots limit offset search
      = ((((s.transmissionHostIdList.toList.filter (s.hostMatches search)).map s.snapshotOf).drop
          offset).take limit,
        ((s.transmissionHostIdList.toList.filter (s.hostMatches search)).map s.snapshotOf).length) := by
  have hpage := foldl_snapshotStep_page s limit offset search s.transmissionHostIdList.toList []
  rw [List.drop_nil, List.take_nil, List.nil_append] at hpage
  exact hpage

/-! ## What is paged through -/

/-- Every transmission that the search finds, in id order. -/
def matchingSnapshots (s : TransmissionManager) (search : Bytes) : List TransmissionSnapshot :=
  (s.transmissionHostIdList.toList.filter (s.hostMatches search)).map s.snapshotOf

/-- The search finds a text in the id, in the host's id or in a guest's; the empty text is found always. -/
theorem hostMatches_iff {t host : Bytes} : s.hostMatches search (t, host) = true ↔
    search = [] ∨ search <:+: t ∨ search <:+: host ∨ ∃ g ∈ s.guestsOf t, search <:+: g := by
  unfold hostMatches transmissionMatchesSearch
  dsimp only
  rw [Bool.or_eq_true, Bool.or_eq_true, Bool.or_eq_true, List.isEmpty_iff, contains_iff, contains_iff,
    or_assoc, or_assoc]
  cases hg : s.transmissionGuestIdList[t]? with
  | none => simp [guestsOf_of_none hg]
  | some guests => simp [guestsOf_of_some hg, contains_iff]

theorem mem_matchingSnapshots {x : TransmissionSnapshot} : x ∈ s.matchingSnapshots search ↔
    ∃ t host, s.transmissionHostIdList[t]? = some host ∧ s.hostMatches search (t, host) = true ∧
      x = ⟨t, host, s.guestsOf t, 1 + (s.guestsOf t).length, true⟩ := by
  unfold matchingSnapshots
  rw [List.mem_map]
  constructor
  · rintro ⟨hostPair, hin, rfl⟩
    obtain ⟨hmem, hmatch⟩ := List.mem_filter.mp hin
    exact ⟨hostPair.1, hostPair.2, Std.ExtTreeMap.mem_toList.mp hmem, hmatch, rfl⟩
  · rintro ⟨t, host, hhost, hmatch, rfl⟩
    exact ⟨(t, host), List.mem_filter.mpr ⟨Std.ExtTreeMap.mem_toList.mpr hhost, hmatch⟩, rfl⟩

/-- The ids go up. -/
theorem matchingSnapshots_ordered (s : TransmissionManager) (search : Bytes) :
    (s.matchingSnapshots search).Pairwise fun a b => compare a.transmissionId b.transmissionId = .lt := by
  unfold matchingSnapshots
  rw [List.pairwise_map]
  exact (Std.ExtTreeMap.ordered_keys_toList (t := s.transmissionHostIdList)).sublist List.filter_sublist

/-- **What a page of snapshots is to be.** -/
structure PagedSnapshots (s : TransmissionManager) (search : Bytes) : Prop where
  ordered : (s.matchingSnapshots search).Pairwise fun a b =>
    compare a.transmissionId b.transmissionId = .lt
  listed : ∀ x, x ∈ s.matchingSnapshots search ↔ ∃ t host, s.transmissionHostIdList[t]? = some host ∧
    (search = [] ∨ search <:+: t ∨ search <:+: host ∨ ∃ g ∈ s.guestsOf t, search <:+: g) ∧
    x = ⟨t, host, s.guestsOf t, 1 + (s.guestsOf t).length, true⟩
  paged : ∀ limit offset,
    (s.getTransmissionSnapshots limit offset search).1 = ((s.matchingSnapshots search).drop offset).take limit
  counted : ∀ limit offset,
    (s.getTransmissionSnapshots limit offset search).2 = (s.matchingSnapshots search).length
  continued : ∀ limit limit' offset, (s.getTransmissionSnapshots limit offset search).1 ++
    (s.getTransmissionSnapshots limit' (offset + limit) search).1 =
      (s.getTransmissionSnapshots (limit + limit') offset search).1
  tiled : ∀ size n, (s.matchingSnapshots search).length ≤ n * size →
    ((List.range n).flatMap fun i => (s.getTransmissionSnapshots size (i * size) search).1) =
      s.matchingSnapshots search

theorem pagedSnapshots (s : TransmissionManager) (search : Bytes) : PagedSnapshots s search := by
  have hpage : ∀ limit offset, (s.getTransmissionSnapshots limit offset search).1 =
      page limit offset (s.matchingSnapshots search) := by
    intro limit offset
    rw [getTransmissionSnapshots_page]
    rfl
  refine ⟨matchingSnapshots_ordered s search, fun x => ?_, hpage, fun limit offset => ?_,
    fun limit limit' offset => ?_, fun size n hn => ?_⟩
  · simp only [mem_matchingSnapshots, hostMatches_iff]
  · rw [getTransmissionSnapshots_page]
    rfl
  · rw [hpage, hpage, hpage, page_append]
  · simp only [hpage]
    exact pages_tile hn

/-! ## The order of joining -/

/-- One callback, as far as transmission `t` is concerned: who starts comes last, who ends is gone. -/
def joinStep (t : Bytes) (joined : List Bytes) (event : SessionEvent) : List Bytes :=
  if event.transmissionId = t then
    if event.started then joined ++ [event.guestId] else joined.filter (· ≠ event.guestId)
  else joined

/-- Who is in transmission `t` after the callbacks, in the order of joining. -/
def joinOrder (t : Bytes) (events : List SessionEvent) : List Bytes := events.foldl (joinStep t) []

/-- Ends take out whom they name, by induction on the ends. -/
theorem foldl_joinStep_ends (t : Bytes) (left : List (Bytes × Bytes)) (joined : List Bytes) :
    (endsOf s left).foldl (joinStep t) joined = joined.filter fun g => (t, g) ∉ left := by
  induction left generalizing joined with
  | nil =>
      have hall : (joined.filter fun g => (t, g) ∉ ([] : List (Bytes × Bytes))) = joined := by simp
      rw [hall]
      rfl
  | cons p left ih =>
      show (endsOf s left).foldl (joinStep t) (joinStep t joined ⟨p.1, _, p.2, false⟩) = _
      rw [ih, joinStep]
      split
      · rename_i ht
        rw [if_neg Bool.false_ne_true, List.filter_filter]
        refine List.filter_congr fun g _ => ?_
        rw [Bool.eq_iff_iff, Bool.and_eq_true, decide_eq_true_eq, decide_eq_true_eq, decide_eq_true_eq,
          List.mem_cons, not_or, Prod.ext_iff]
        simp only [show p.1 = t from ht, true_and]
        exact and_comm
      · rename_i ht
        refine List.filter_congr fun g _ => ?_
        rw [Bool.eq_iff_iff, decide_eq_true_eq, decide_eq_true_eq, List.mem_cons, not_or, Prod.ext_iff]
        exact ⟨fun h => ⟨fun heq => ht heq.1.symm, h⟩, fun h => h.2⟩

/-- **One call**: its callbacks take the list of guests from before to after. -/
theorem Effect.guestsOf_eq {events : List SessionEvent} (h : Effect s s' events) (t : Bytes) :
    s'.guestsOf t = events.foldl (joinStep t) (s.guestsOf t) := by
  cases h with
  | parts h =>
      obtain ⟨left, hleaves, rfl⟩ := h
      rw [foldl_joinStep_ends, hleaves.guests]
  | hosted a host hnone hh hg hev =>
      rw [hev, guestsOf, hg]
      rfl
  | joined a host g hhost hne hin hh hg hev =>
      rw [hev, guestsOf, hg, Std.ExtTreeMap.getElem?_insert_eq]
      show _ = joinStep t (s.guestsOf t) ⟨a, host, g, true⟩
      unfold joinStep
      split
      · rename_i ha
        subst ha
        rfl
      · rfl

/-- **The guests stand in the order of joining**, after any run of public calls. -/
theorem guestsOf_history (ops : List Operation) (t : Bytes) :
    (history ops).1.guestsOf t = joinOrder t (history ops).2 := by
  have hinv := Run.run_invariant record
    (I := fun acc => acc.1.WellFormed ∧ acc.1.guestsOf t = joinOrder t acc.2)
    (fun acc op ⟨hs, hguests⟩ => ⟨(apply_effect hs op).wellFormed hs, ?_⟩)
    (s := (empty, [])) ⟨empty_wellFormed, rfl⟩ ops
  · exact hinv.2
  · show (acc.1.apply op).1.guestsOf t = joinOrder t (acc.2 ++ (acc.1.apply op).2)
    rw [(apply_effect hs op).guestsOf_eq t, hguests, joinOrder, joinOrder, List.foldl_append]

/-- **Snapshots are paged exactly**, whatever the tables hold, with the guests in the order in which they
    joined. -/
theorem transmissionSnapshots_paged :
    (∀ (s : TransmissionManager) (search : Bytes), PagedSnapshots s search) ∧
    (∀ (ops : List Operation) (t : Bytes),
      (history ops).1.guestsOf t = joinOrder t (history ops).2) :=
  ⟨pagedSnapshots, guestsOf_history⟩

end TransmissionManager
end DeskServer
