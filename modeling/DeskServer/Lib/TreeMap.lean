import Mathlib

/-!
# `Lib.TreeMap` — extensional tree maps as ordered containers and keyed tables

`Std.ExtTreeMap` serves both as `std::map` and as a table with a primary key. This module adds what a
loop over such a container needs: the lookup lemmas with plain equalities, a pass that rewrites or drops
every entry (`rewrite`), and the sum of an integer column (`sumBy`) with its behaviour under the row
operations.
-/

namespace Std.ExtTreeMap

open Std

variable {α β : Type} {cmp : α → α → Ordering} [TransCmp cmp] [LawfulEqCmp cmp]

/-! ## Lookups with plain equality -/

section Lookup
variable [DecidableEq α]

theorem getElem?_insert_eq (m : ExtTreeMap α β cmp) (k a : α) (v : β) :
    (m.insert k v)[a]? = if k = a then some v else m[a]? := by
  rw [getElem?_insert]; simp only [LawfulEqCmp.compare_eq_iff_eq]

theorem getElem?_erase_eq (m : ExtTreeMap α β cmp) (k a : α) :
    (m.erase k)[a]? = if k = a then none else m[a]? := by
  rw [getElem?_erase]; simp only [LawfulEqCmp.compare_eq_iff_eq]

theorem getElem?_alter_eq (m : ExtTreeMap α β cmp) (k a : α) (f : Option β → Option β) :
    (m.alter k f)[a]? = if k = a then f m[k]? else m[a]? := by
  rw [getElem?_alter]; simp only [LawfulEqCmp.compare_eq_iff_eq]

theorem getElem?_insertIfNew_eq (m : ExtTreeMap α β cmp) (k a : α) (v : β) :
    (m.insertIfNew k v)[a]? = if k = a ∧ k ∉ m then some v else m[a]? := by
  rw [getElem?_insertIfNew]; simp only [LawfulEqCmp.compare_eq_iff_eq]

end Lookup

omit [LawfulEqCmp cmp] in
/-- The entries of a map have distinct keys. -/
theorem nodup_toList_keys (m : ExtTreeMap α β cmp) : (m.toList.map Prod.fst).Nodup := by
  rw [map_fst_toList_eq_keys]; exact nodup_keys

omit [LawfulEqCmp cmp] in
theorem nodup_toList (m : ExtTreeMap α β cmp) : m.toList.Nodup :=
  (nodup_toList_keys m).of_map

theorem mem_toList {m : ExtTreeMap α β cmp} {e : α × β} : e ∈ m.toList ↔ m[e.1]? = some e.2 :=
  mem_toList_iff_getElem?_eq_some (k := e.1) (v := e.2)

/-- What all entries of the list have, every row has. -/
theorem forall_of_toList {m : ExtTreeMap α β cmp} {P : α → β → Prop} (h : ∀ e ∈ m.toList, P e.1 e.2)
    (k : α) (v : β) (hk : m[k]? = some v) : P k v :=
  h (k, v) (mem_toList.mpr hk)

omit [LawfulEqCmp cmp] in
/-- Listing some values under each key repeats no (key, value) pair. -/
theorem nodup_flatMap_pairs {γ : Type} (m : ExtTreeMap α β cmp) (f : α → β → List γ)
    (hf : ∀ e ∈ m.toList, (f e.1 e.2).Nodup) :
    (m.toList.flatMap fun e => (f e.1 e.2).map fun c => (e.1, c)).Nodup := by
  rw [List.nodup_flatMap]
  constructor
  · intro e he
    exact (hf e he).map fun _ _ h => (Prod.mk.inj h).2
  · have hkeys := nodup_toList_keys m
    rw [List.Nodup, List.pairwise_map] at hkeys
    refine hkeys.imp fun {a b} hab => ?_
    rw [Function.onFun, List.disjoint_left]
    intro p hp hq
    obtain ⟨_, _, rfl⟩ := List.mem_map.mp hp
    obtain ⟨_, _, hq⟩ := List.mem_map.mp hq
    exact hab (Prod.mk.inj hq).1.symm

/-! ## A pass over all entries -/

/-- One visit of the pass: drop the entry or store its new value. -/
def visit (f : α → β → Option β) (m : ExtTreeMap α β cmp) (e : α × β) : ExtTreeMap α β cmp :=
  match f e.1 e.2 with
  | some v => m.insert e.1 v
  | none => m.erase e.1

/-- `for (it = m.begin(); it != m.end();)` with a body that rewrites or erases the entry it visits. -/
def rewrite (f : α → β → Option β) (m : ExtTreeMap α β cmp) : ExtTreeMap α β cmp :=
  m.toList.foldl (visit f) m

section Rewrite
variable [DecidableEq α]

theorem getElem?_visit (f : α → β → Option β) (m : ExtTreeMap α β cmp) (e : α × β) (a : α) :
    (visit f m e)[a]? = if e.1 = a then f e.1 e.2 else m[a]? := by
  unfold visit
  cases h : f e.1 e.2 with
  | some v => rw [getElem?_insert_eq]
  | none => rw [getElem?_erase_eq]

/-- Induction on the entries still to visit: each key is decided by its own visit only. -/
theorem getElem?_foldl_visit (f : α → β → Option β) (l : List (α × β)) (m : ExtTreeMap α β cmp)
    (hl : (l.map Prod.fst).Nodup) (a : α) :
    (l.foldl (visit f) m)[a]?
      = match l.find? (fun e => e.1 = a) with
        | some e => f e.1 e.2
        | none => m[a]? := by
  induction l generalizing m with
  | nil => rfl
  | cons e rest ih =>
      rw [List.map_cons, List.nodup_cons] at hl
      rw [List.foldl_cons, ih _ hl.2, List.find?_cons]
      by_cases he : e.1 = a
      · have hnone : rest.find? (fun e => e.1 = a) = none := by
          rw [List.find?_eq_none]
          intro x hx hxa
          exact hl.1 (he ▸ (decide_eq_true_eq.mp hxa) ▸ List.mem_map_of_mem hx)
        simp only [hnone, he, decide_true, getElem?_visit, if_true]
      · simp only [he, decide_false]
        cases rest.find? (fun e => e.1 = a) with
        | some x => rfl
        | none => simp only [getElem?_visit, he, if_false]

/-- **The pass decides every key by its own entry.** -/
@[simp] theorem getElem?_rewrite (f : α → β → Option β) (m : ExtTreeMap α β cmp) (a : α) :
    (m.rewrite f)[a]? = m[a]?.bind (f a) := by
  unfold rewrite
  rw [getElem?_foldl_visit f _ _ (nodup_toList_keys m)]
  cases h : m.toList.find? (fun e => e.1 = a) with
  | some e =>
      have hmem := List.mem_of_find?_eq_some h
      have hkey : e.1 = a := by simpa using List.find?_some h
      rw [mem_toList, hkey] at hmem
      simp only [hmem, Option.bind_some, hkey]
  | none =>
      cases hv : m[a]? with
      | none => rfl
      | some v =>
          have := List.find?_eq_none.mp h (a, v) (mem_toList.mpr hv)
          simp at this

end Rewrite

/-! ## Sums of an integer column -/

/-- `SELECT SUM(f) FROM m` (0 for the empty table). -/
def sumBy (f : α → β → Int) (m : ExtTreeMap α β cmp) : Int := (m.toList.map fun e => f e.1 e.2).sum

omit [LawfulEqCmp cmp] in
@[simp] theorem sumBy_empty (f : α → β → Int) : sumBy f (∅ : ExtTreeMap α β cmp) = 0 := by
  rw [sumBy, toList_eq_nil_iff.mpr rfl]; rfl

theorem sumBy_congr {f g : α → β → Int} {m : ExtTreeMap α β cmp}
    (h : ∀ k v, m[k]? = some v → f k v = g k v) : sumBy f m = sumBy g m := by
  unfold sumBy
  refine congrArg List.sum (List.map_congr_left fun e he => ?_)
  exact h e.1 e.2 (mem_toList.mp he)

theorem sumBy_mono {f g : α → β → Int} {m : ExtTreeMap α β cmp}
    (h : ∀ k v, m[k]? = some v → f k v ≤ g k v) : sumBy f m ≤ sumBy g m := by
  apply List.sum_le_sum
  intro e he
  exact h e.1 e.2 (mem_toList.mp he)

/-- A sum of non-negative terms vanishes exactly when every term does. -/
theorem sumBy_eq_zero_iff {f : α → β → Int} {m : ExtTreeMap α β cmp}
    (h : ∀ k v, m[k]? = some v → 0 ≤ f k v) :
    sumBy f m = 0 ↔ ∀ k v, m[k]? = some v → f k v = 0 := by
  unfold sumBy
  constructor
  · intro hz k v hkv
    have hnn : ∀ x ∈ m.toList.map (fun e => f e.1 e.2), 0 ≤ x := by
      intro x hx
      obtain ⟨e, he, rfl⟩ := List.mem_map.mp hx
      exact h e.1 e.2 (mem_toList.mp he)
    exact List.all_zero_of_le_zero_le_of_sum_eq_zero hnn hz
      (List.mem_map.mpr ⟨(k, v), mem_toList.mpr hkv, rfl⟩)
  · intro hall
    apply List.sum_eq_zero
    intro x hx
    obtain ⟨e, he, rfl⟩ := List.mem_map.mp hx
    exact hall e.1 e.2 (mem_toList.mp he)

omit [LawfulEqCmp cmp] in
theorem sumBy_mul (c : Int) (f : α → β → Int) (m : ExtTreeMap α β cmp) :
    sumBy (fun k v => c * f k v) m = c * sumBy f m := List.sum_map_mul_left _ _ _

section Rows
variable [DecidableEq α]

/-- Two maps with the same lookups have the same entries, so the entries after removing `k` are the
    old ones without `k`'s. -/
theorem perm_toList_erase {m : ExtTreeMap α β cmp} {k : α} {v : β} (h : m[k]? = some v) :
    m.toList.Perm ((k, v) :: (m.erase k).toList) := by
  refine (List.perm_ext_iff_of_nodup (nodup_toList m) ?_).mpr fun e => ?_
  · refine List.nodup_cons.mpr ⟨?_, nodup_toList _⟩
    rw [mem_toList, getElem?_erase_eq]; simp
  · rw [List.mem_cons, mem_toList, mem_toList, getElem?_erase_eq]
    by_cases hk : k = e.1
    · subst hk
      rw [h]
      simp only [Option.some.injEq, if_true, reduceCtorEq, or_false]
      exact ⟨fun hv => Prod.ext rfl hv.symm, fun he => by rw [he]⟩
    · simp only [hk, if_false]
      exact ⟨Or.inr, fun h' => h'.resolve_left fun he => hk (by rw [he])⟩

/-- **Deleting a row takes its term out of the sum.** -/
theorem sumBy_erase (f : α → β → Int) {m : ExtTreeMap α β cmp} {k : α} {v : β} (h : m[k]? = some v) :
    sumBy f m = f k v + sumBy f (m.erase k) := by
  unfold sumBy
  rw [((perm_toList_erase h).map fun e => f e.1 e.2).sum_eq, List.map_cons, List.sum_cons]

/-- The term of one key, and the rest. -/
theorem sumBy_split (f : α → β → Int) (m : ExtTreeMap α β cmp) (k : α) :
    sumBy f m = ((m[k]?).map (f k)).getD 0 + sumBy f (m.erase k) := by
  cases hk : m[k]? with
  | some v => exact sumBy_erase f hk
  | none =>
      have hsame : m.erase k = m := by
        apply ext_getElem?
        intro a
        rw [getElem?_erase_eq]
        split
        · rename_i hka
          rw [← hka, hk]
        · rfl
      rw [hsame, Option.map_none, Option.getD_none, Int.zero_add]

/-- One smaller term makes a smaller sum. -/
theorem sumBy_lt {f g : α → β → Int} {m : ExtTreeMap α β cmp} {k : α} {v : β}
    (h : ∀ k v, m[k]? = some v → f k v ≤ g k v) (hrow : m[k]? = some v) (hlt : f k v < g k v) :
    sumBy f m < sumBy g m := by
  have hrest : sumBy f (m.erase k) ≤ sumBy g (m.erase k) := by
    refine sumBy_mono fun a b hab => h a b ?_
    rw [getElem?_erase_eq] at hab
    split at hab
    · exact absurd hab (by simp)
    · exact hab
  rw [sumBy_erase f hrow, sumBy_erase g hrow]
  omega

/-- **Inserting a new row adds its term.** -/
theorem sumBy_insert_new (f : α → β → Int) {m : ExtTreeMap α β cmp} {k : α} (v : β) (h : m[k]? = none) :
    sumBy f (m.insert k v) = f k v + sumBy f m := by
  have hk : (m.insert k v)[k]? = some v := getElem?_insert_self
  have hback : (m.insert k v).erase k = m := by
    apply ext_getElem?
    intro a
    rw [getElem?_erase_eq, getElem?_insert_eq]
    by_cases ha : k = a
    · subst ha; simp [h]
    · simp [ha]
  rw [sumBy_erase f hk, hback]

/-- An insert that is ignored on conflict and would add nothing leaves the sum alone. -/
theorem sumBy_insertIfNew (f : α → β → Int) (m : ExtTreeMap α β cmp) {k : α} {v : β}
    (hz : f k v = 0) : sumBy f (m.insertIfNew k v) = sumBy f m := by
  by_cases hk : k ∈ m
  · have hsame : m.insertIfNew k v = m := by
      apply ext_getElem?
      intro a
      rw [getElem?_insertIfNew_eq, if_neg (fun h => h.2 hk)]
    rw [hsame]
  · have hnew : m.insertIfNew k v = m.insert k v := by
      apply ext_getElem?
      intro a
      rw [getElem?_insertIfNew_eq, getElem?_insert_eq]
      simp only [hk, not_false_eq_true, and_true]
    have hnone : m[k]? = none := getElem?_eq_none hk
    rw [hnew, sumBy_insert_new f v hnone, hz, zero_add]

end Rows

end Std.ExtTreeMap
