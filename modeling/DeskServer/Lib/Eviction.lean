import DeskServer.Lib.TreeMap

/-!
# `Lib.Eviction` — a map that forgets its oldest entries

A map with a queue of its keys, in the order they came: a new entry joins both, and while the queue is
longer than the limit the key at its front leaves both. `Eviction.Holds` describes the pair by the log of
all entries there have ever been: it holds the latest ones of the log.

Nothing here is about any particular program.
-/

namespace Eviction

variable {κ ν : Type} [Ord κ] [Std.TransOrd κ]

/-- The last `n` entries of a log. -/
def latest {α : Type} (n : Nat) (log : List α) : List α := log.drop (log.length - n)

/-- The map without the keys `ks`. -/
def forget (m : Std.ExtTreeMap κ ν) (ks : List κ) : Std.ExtTreeMap κ ν :=
  ks.foldl (fun m k => m.erase k) m

/-- **Map and queue hold the latest entries of the log**, each under a key of its own. -/
structure Holds (n : Nat) (m : Std.ExtTreeMap κ ν) (order : List κ) (log : List (κ × ν)) : Prop where
  keys : order = (latest n log).map Prod.fst
  distinct : order.Nodup
  entries : ∀ k v, m[k]? = some v ↔ (k, v) ∈ latest n log

variable {n : Nat} {m : Std.ExtTreeMap κ ν} {order : List κ} {log : List (κ × ν)} {k : κ} {v : ν}

theorem length_latest {α : Type} (n : Nat) (log : List α) : (latest n log).length = min n log.length := by
  rw [latest, List.length_drop]
  omega

theorem latest_map {α β : Type} (n : Nat) (f : α → β) (log : List α) :
    latest n (log.map f) = (latest n log).map f := by
  rw [latest, latest, List.length_map, List.map_drop]

/-- Forgetting early does not matter. -/
theorem latest_append_singleton {α : Type} (n : Nat) (log : List α) (x : α) :
    latest n (log ++ [x]) = latest n (latest n log ++ [x]) := by
  have hlen := length_latest n log
  have hle : log.length - n ≤ log.length := Nat.sub_le _ _
  unfold latest at hlen ⊢
  rw [← List.drop_append_of_le_length hle, List.drop_drop]
  congr 1
  simp only [List.length_append, List.length_singleton, List.length_drop]
  omega

theorem Holds.empty (n : Nat) : Holds n (∅ : Std.ExtTreeMap κ ν) [] [] :=
  ⟨by simp [latest], List.nodup_nil, fun k v => by simp [latest]⟩

theorem Holds.length_le (h : Holds n m order log) : order.length ≤ n := by
  rw [h.keys, List.length_map, length_latest]
  exact Nat.min_le_left _ _

/-- Map and queue have the same keys. -/
theorem Holds.mem_order (h : Holds n m order log) : k ∈ order ↔ (m[k]?).isSome = true := by
  rw [h.keys, List.mem_map, Option.isSome_iff_exists]
  constructor
  · rintro ⟨⟨k, v⟩, hmem, rfl⟩
    exact ⟨v, (h.entries _ _).mpr hmem⟩
  · rintro ⟨v, hv⟩
    exact ⟨(k, v), (h.entries _ _).mp hv, rfl⟩

section Remember
variable [Std.LawfulEqOrd κ] [DecidableEq κ]

theorem getElem?_forget (m : Std.ExtTreeMap κ ν) (ks : List κ) (a : κ) :
    (forget m ks)[a]? = if a ∈ ks then none else m[a]? := by
  unfold forget
  induction ks generalizing m with
  | nil => rfl
  | cons k ks ih =>
      rw [List.foldl_cons, ih, Std.ExtTreeMap.getElem?_erase_eq]
      by_cases ha : a ∈ ks
      · simp [ha]
      · by_cases hk : k = a
        · simp [hk]
        · have hk' : a ≠ k := fun h => hk h.symm
          simp [ha, hk, hk']

/-- **One entry more**: the log grows by it, and what map and queue held beyond the limit is gone. -/
theorem Holds.remember (h : Holds n m order log) (hnew : m[k]? = none) (v : ν) :
    Holds n
      (forget (m.insertIfNew k v) ((order ++ [k]).take ((order ++ [k]).length - n)))
      ((order ++ [k]).drop ((order ++ [k]).length - n)) (log ++ [(k, v)]) := by
  have hfresh : k ∉ order := by
    rw [h.mem_order, hnew]
    exact Bool.false_ne_true
  have hnodup : (order ++ [k]).Nodup := by
    refine List.nodup_append.mpr ⟨h.distinct, List.nodup_singleton k, fun a ha b hb => ?_⟩
    rw [List.mem_singleton.mp hb]
    exact fun hak => hfresh (hak ▸ ha)
  have hkeys : (latest n log ++ [(k, v)]).map Prod.fst = order ++ [k] := by
    rw [List.map_append, ← h.keys]
    rfl
  have hlen : (latest n log ++ [(k, v)]).length = (order ++ [k]).length := by
    rw [← hkeys, List.length_map]
  refine ⟨?_, hnodup.sublist (List.drop_sublist _ _), fun a w => ?_⟩
  · rw [latest_append_singleton, latest, hlen, List.map_drop, hkeys]
  · rw [latest_append_singleton, latest, hlen, getElem?_forget]
    have hentry : (m.insertIfNew k v)[a]? = some w ↔ (a, w) ∈ latest n log ++ [(k, v)] := by
      rw [Std.ExtTreeMap.getElem?_insertIfNew_eq, List.mem_append, List.mem_singleton, ← h.entries,
        Prod.mk.injEq]
      have hk : k ∉ m := by
        rw [← Std.ExtTreeMap.isSome_getElem?_iff_mem, hnew]
        exact Bool.false_ne_true
      by_cases ha : k = a
      · subst ha
        simp [hk, eq_comm]
      · have ha' : a ≠ k := fun h => ha h.symm
        simp [ha, ha']
    generalize hx : (order ++ [k]).length - n = excess
    have hsplit := List.take_append_drop excess (latest n log ++ [(k, v)])
    have htake : ((latest n log ++ [(k, v)]).take excess).map Prod.fst = (order ++ [k]).take excess := by
      rw [List.map_take, hkeys]
    have hdrop : ((latest n log ++ [(k, v)]).drop excess).map Prod.fst = (order ++ [k]).drop excess := by
      rw [List.map_drop, hkeys]
    have hdisjoint := List.disjoint_take_drop hnodup (le_refl excess)
    by_cases ha : a ∈ (order ++ [k]).take excess
    · rw [if_pos ha]
      refine iff_of_false (by simp) fun hmem => ?_
      exact hdisjoint ha (hdrop ▸ List.mem_map_of_mem hmem)
    · rw [if_neg ha, hentry]
      conv_lhs => rw [← hsplit]
      rw [List.mem_append]
      refine or_iff_right fun hmem => ha ?_
      exact htake ▸ List.mem_map_of_mem hmem

end Remember

end Eviction
