import Mathlib

/-!
# `Lib.Paging` — sorted lists and their pages

A list sorted by a comparison, and the slice of it that a page shows. A page that is taken from the front
of the list although its offset is not zero is wrong as soon as it shows anything, when no element occurs
twice.

Nothing here is about any particular program.
-/

namespace Paging

variable {α : Type}

/-! ## Sorting -/

/-- `l` sorted by a comparison. -/
def sortBy (cmp : α → α → Ordering) (l : List α) : List α :=
  l.insertionSort fun a b => (cmp a b).isLE = true

theorem sortBy_perm (cmp : α → α → Ordering) (l : List α) : (sortBy cmp l).Perm l :=
  List.perm_insertionSort _ l

@[simp] theorem length_sortBy (cmp : α → α → Ordering) (l : List α) : (sortBy cmp l).length = l.length :=
  (sortBy_perm cmp l).length_eq

/-- No element comes behind a greater one. -/
theorem sortBy_pairwise (cmp : α → α → Ordering) [Std.TransCmp cmp] (l : List α) :
    (sortBy cmp l).Pairwise fun a b => (cmp a b).isLE = true := by
  have htotal : Std.Total fun a b => (cmp a b).isLE = true := by
    refine ⟨fun a b => ?_⟩
    have hswap : cmp b a = (cmp a b).swap := Std.OrientedCmp.eq_swap
    rw [hswap]
    cases cmp a b <;> simp
  have htrans : IsTrans α fun a b => (cmp a b).isLE = true :=
    ⟨fun _ _ _ => Std.TransCmp.isLE_trans⟩
  exact List.pairwise_insertionSort _ l

/-! ## Pages -/

/-- The elements `offset .. offset + limit - 1`. -/
def page (limit offset : Nat) (l : List α) : List α := (l.drop offset).take limit

/-- An offset behind the end gives an empty page. -/
theorem page_eq_nil_of_le {limit offset : Nat} {l : List α} (h : l.length ≤ offset) :
    page limit offset l = [] := by
  rw [page, List.drop_eq_nil_of_le h, List.take_nil]

@[simp] theorem page_zero_limit (offset : Nat) (l : List α) : page 0 offset l = [] := List.take_zero

@[simp] theorem page_nil (limit offset : Nat) : page limit offset ([] : List α) = [] := by
  rw [page, List.drop_nil, List.take_nil]

/-- The page that follows a page continues it. -/
theorem page_append (limit limit' offset : Nat) (l : List α) :
    page limit offset l ++ page limit' (offset + limit) l = page (limit + limit') offset l := by
  rw [page, page, page, List.take_add, List.drop_drop]

/-- The first `n` pages of one size, by induction on `n`. -/
theorem flatMap_page (size n : Nat) (l : List α) :
    ((List.range n).flatMap fun i => page size (i * size) l) = l.take (n * size) := by
  induction n with
  | zero => rw [Nat.zero_mul, List.take_zero]; rfl
  | succ n ih =>
      have hnext := page_append (n * size) size 0 l
      rw [Nat.zero_add, page, List.drop_zero, page, page, List.drop_zero] at hnext
      rw [List.range_succ, List.flatMap_append, ih, List.flatMap_singleton, page, hnext, Nat.succ_mul]

/-- **Consecutive pages tile the list**: once they reach its end they are all of it, in order. -/
theorem pages_tile {size n : Nat} {l : List α} (h : l.length ≤ n * size) :
    ((List.range n).flatMap fun i => page size (i * size) l) = l := by
  rw [flatMap_page, List.take_of_length_le h]

/-- What starts at the front is no page further on, whatever follows it. -/
theorem front_append_ne_page {limit offset : Nat} {l : List α} (hl : l.Nodup) (hne : l ≠ [])
    (hlimit : 0 < limit) (hoffset : 0 < offset) (rest : List α) :
    l.take limit ++ rest ≠ page limit offset l := by
  intro heq
  cases l with
  | nil => exact hne rfl
  | cons a l =>
      obtain ⟨limit, rfl⟩ := Nat.exists_eq_succ_of_ne_zero (Nat.pos_iff_ne_zero.mp hlimit)
      obtain ⟨offset, rfl⟩ := Nat.exists_eq_succ_of_ne_zero (Nat.pos_iff_ne_zero.mp hoffset)
      have ha : a ∈ page (limit + 1) (offset + 1) (a :: l) := by
        rw [← heq, List.take_succ_cons]
        exact List.mem_cons_self ..
      have htail : a ∈ l := List.mem_of_mem_drop (List.mem_of_mem_take ha)
      exact (List.nodup_cons.mp hl).1 htail

/-- A page from the front is the page it should be exactly when it starts there or there is nothing to
    show. -/
theorem take_eq_page_iff {limit offset : Nat} {l : List α} (hl : l.Nodup) :
    l.take limit = page limit offset l ↔ offset = 0 ∨ limit = 0 ∨ l = [] := by
  constructor
  · intro heq
    by_contra hnot
    simp only [not_or] at hnot
    obtain ⟨hoffset, hlimit, hne⟩ := hnot
    exact front_append_ne_page hl hne (Nat.pos_of_ne_zero hlimit) (Nat.pos_of_ne_zero hoffset) []
      ((List.append_nil _).trans heq)
  · rintro (rfl | rfl | rfl)
    · rfl
    · rw [List.take_zero, page_zero_limit]
    · rw [List.take_nil, page_nil]

end Paging
