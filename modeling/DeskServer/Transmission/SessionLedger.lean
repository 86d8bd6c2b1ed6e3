import DeskServer.Lib.Ledger
import DeskServer.Transmission.Operations

/-!
# `Transmission.SessionLedger` — the session callbacks as a book of open sessions

The guest lists are a book: the pair (transmission, guest) is open, under the host of the transmission,
while the guest is listed. Every operation posts its callbacks to that book, so the callbacks of one
pair alternate between start and end over any run, and an end names the host its start named.

**Shape.** An effect posts to the book what it does to the guest lists (`Effect.posts`), a history is a list
of effects (`history_posts`), and that such a list alternates for one key is a fact of `Lib.Ledger`. Nothing
is said about who receives the callbacks.
-/

namespace DeskServer
namespace TransmissionManager

open Ledger

/-- The book of sessions: who is listed, under which host. -/
def sessionBook (s : TransmissionManager) : Book (Bytes × Bytes) Bytes := fun p =>
  if p.2 ∈ s.guestsOf p.1 then s.transmissionHostIdList[p.1]? else none

/-- A callback as an entry of the book. -/
def entryOf (event : SessionEvent) : Entry (Bytes × Bytes) Bytes :=
  ⟨(event.transmissionId, event.guestId), event.hostId, event.started⟩

variable {s s' : TransmissionManager}

theorem sessionBook_of_mem {p : Bytes × Bytes} (h : p.2 ∈ s.guestsOf p.1) :
    s.sessionBook p = s.transmissionHostIdList[p.1]? := by rw [sessionBook, if_pos h]

theorem sessionBook_of_not_mem {p : Bytes × Bytes} (h : p.2 ∉ s.guestsOf p.1) :
    s.sessionBook p = none := by rw [sessionBook, if_neg h]

/-- A pair is open exactly while the guest is listed. -/
theorem sessionBook_isSome_iff (hs : s.WellFormed) {p : Bytes × Bytes} :
    (s.sessionBook p).isSome = true ↔ p.2 ∈ s.guestsOf p.1 := by
  by_cases h : p.2 ∈ s.guestsOf p.1
  · obtain ⟨host, hhost, _⟩ := hs.host_of_mem h
    rw [sessionBook_of_mem h, hhost]; simp [h]
  · rw [sessionBook_of_not_mem h]; simp [h]

theorem Leaves.sessionBook_eq {left : List (Bytes × Bytes)} (h : Leaves s s' left) :
    s'.sessionBook = strike left s.sessionBook := by
  funext p
  unfold strike
  by_cases hp : p ∈ left
  · rw [if_pos hp]
    exact sessionBook_of_not_mem fun hin => (h.mem_iff.mp hin).2 hp
  · rw [if_neg hp]
    by_cases hin : p.2 ∈ s.guestsOf p.1
    · have hin' : p.2 ∈ s'.guestsOf p.1 := h.mem_iff.mpr ⟨hin, hp⟩
      rw [sessionBook_of_mem hin, sessionBook_of_mem hin', h.kept p.1 (List.ne_nil_of_mem hin')]
    · rw [sessionBook_of_not_mem hin, sessionBook_of_not_mem fun hin' => hin (h.mem_iff.mp hin').1]

/-- Guests leaving close their pairs. -/
theorem Parts.posts {events : List SessionEvent} (hs : s.WellFormed) (h : Parts s s' events) :
    Posts (events.map entryOf) s.sessionBook s'.sessionBook := by
  obtain ⟨left, hl, rfl⟩ := h
  have hclose := Posts.close_all
    (l := left.map fun p => (p, s.getHostIdOfTransmission p.1)) (B := s.sessionBook)
    (by rw [List.map_map]; simpa [Function.comp_def] using hl.nodup) (by
      intro e he
      obtain ⟨p, hp, rfl⟩ := List.mem_map.mp he
      have hmem := hl.member p hp
      obtain ⟨host, hhost, _⟩ := hs.host_of_mem hmem
      show s.sessionBook p = some (s.getHostIdOfTransmission p.1)
      rw [sessionBook_of_mem hmem, getHostIdOfTransmission, hhost]; rfl)
  have hkeys : (left.map fun p => (p, s.getHostIdOfTransmission p.1)).map Prod.fst = left := by
    rw [List.map_map]; simp [Function.comp_def]
  rw [hkeys, ← hl.sessionBook_eq] at hclose
  rw [endsOf, List.map_map]
  rw [List.map_map] at hclose
  exact hclose

/-- **Every effect posts its callbacks to the book.** -/
theorem Effect.posts {events : List SessionEvent} (hs : s.WellFormed) (h : Effect s s' events) :
    Posts (events.map entryOf) s.sessionBook s'.sessionBook := by
  cases h with
  | parts h => exact h.posts hs
  | hosted t host hnone hh hg hev =>
      subst hev
      have hsame : s'.sessionBook = s.sessionBook := by
        funext p
        have hguests : s'.guestsOf p.1 = s.guestsOf p.1 := by rw [guestsOf, guestsOf, hg]
        unfold sessionBook
        rw [hguests]
        by_cases hin : p.2 ∈ s.guestsOf p.1
        · obtain ⟨host', hhost', _⟩ := hs.host_of_mem hin
          have hne : t ≠ p.1 := by rintro rfl; rw [hnone] at hhost'; exact absurd hhost' (by simp)
          rw [if_pos hin, if_pos hin, hh, Std.ExtTreeMap.getElem?_insert_eq, if_neg hne]
        · rw [if_neg hin, if_neg hin]
      rw [hsame]; exact .nil
  | joined t host g hhost hne hin hh hg hev =>
      subst hev
      have hupd : s'.sessionBook = Function.update s.sessionBook (t, g) (some host) := by
        funext p
        by_cases hp : p = (t, g)
        · subst hp
          rw [Function.update_self,
            sessionBook_of_mem ((mem_guestsOf_joined hg).mpr (.inr ⟨rfl, rfl⟩)), hh, hhost]
        · -- every other pair is listed as before
          rw [Function.update_of_ne hp]
          have hiff : p.2 ∈ s'.guestsOf p.1 ↔ p.2 ∈ s.guestsOf p.1 := by
            rw [mem_guestsOf_joined hg]
            exact or_iff_left fun h => hp (Prod.ext h.1 h.2)
          unfold sessionBook
          rw [hh]
          simp only [hiff]
      rw [hupd]
      exact Posts.open_one (sessionBook_of_not_mem hin)

/-- The callbacks of a run post the empty book to the final one. -/
theorem history_posts (ops : List Operation) :
    Posts ((history ops).2.map entryOf) empty.sessionBook (history ops).1.sessionBook := by
  have hinv := Run.run_invariant record
    (I := fun acc => acc.1.WellFormed ∧
      Posts (acc.2.map entryOf) empty.sessionBook acc.1.sessionBook) ?_
    (s := (empty, [])) ⟨empty_wellFormed, .nil⟩ ops
  · exact hinv.2
  · rintro acc op ⟨hs, hposts⟩
    have heff := apply_effect hs op
    refine ⟨heff.wellFormed hs, ?_⟩
    show Posts ((acc.2 ++ (acc.1.apply op).2).map entryOf) _ _
    rw [List.map_append]
    exact hposts.append (heff.posts hs)

/-- The callbacks a run made for transmission `t` and guest `g`, in order. -/
def callbacksFor (events : List SessionEvent) (t g : Bytes) : List SessionEvent :=
  events.filter fun event => event.transmissionId = t ∧ event.guestId = g

theorem map_callbacksFor (events : List SessionEvent) (t g : Bytes) :
    (callbacksFor events t g).map entryOf
      = (events.map entryOf).filter fun e => e.key = (t, g) := by
  rw [callbacksFor, List.filter_map]
  congr 1
  apply List.filter_congr
  intro event _
  simp only [Function.comp_apply, entryOf, Prod.mk.injEq]

theorem callbacks_alternate (ops : List Operation) (t g : Bytes) :
    Alternates none ((callbacksFor (history ops).2 t g).map entryOf)
      ((history ops).1.sessionBook (t, g)) := by
  rw [map_callbacksFor]
  exact (history_posts ops).track (t, g)

/-- **The session callbacks over any run of public calls.** For each transmission and guest they
    alternate, starting with a start; the last one is a start exactly when the guest is listed; and an
    end carries the host of the start before it. -/
theorem sessionCallbacks_ledger (ops : List Operation) (t g : Bytes) :
    let callbacks := callbacksFor (history ops).2 t g
    (∀ i event, callbacks[i]? = some event → (event.started = true ↔ i % 2 = 0)) ∧
    ((∃ event, callbacks.getLast? = some event ∧ event.started = true) ↔
      g ∈ (history ops).1.guestsOf t) ∧
    (∀ i event event', callbacks[i]? = some event → callbacks[i + 1]? = some event' →
      event'.started = false → event'.hostId = event.hostId) := by
  intro callbacks
  have halt := callbacks_alternate ops t g
  have hget : ∀ {i : Nat} {event : SessionEvent}, callbacks[i]? = some event →
      (callbacks.map entryOf)[i]? = some (entryOf event) := by
    intro i event h
    rw [List.getElem?_map, h]; rfl
  refine ⟨?_, ?_, ?_⟩
  · intro i event h
    have := halt.opens_iff (hget h)
    simpa [entryOf] using this
  · rw [← sessionBook_isSome_iff (history_wellFormed ops) (p := (t, g))]
    by_cases hnil : callbacks = []
    · rw [show callbacksFor (history ops).2 t g = [] from hnil] at halt
      rw [hnil]
      generalize (history ops).1.sessionBook (t, g) = o at halt ⊢
      cases halt
      simp
    · rw [← halt.last_opens_iff (by simpa using hnil), List.getLast?_map]
      constructor
      · rintro ⟨event, hlast, hst⟩
        exact ⟨entryOf event, by
          rw [show callbacksFor (history ops).2 t g = callbacks from rfl, hlast]; rfl, hst⟩
      · rintro ⟨e, hlast, hst⟩
        obtain ⟨event, hev, rfl⟩ := Option.map_eq_some_iff.mp hlast
        exact ⟨event, hev, hst⟩
  · intro i event event' h h' hend
    exact halt.closes_value (hget h) (hget h') hend

end TransmissionManager
end DeskServer
