import DeskServer.Lib.TreeMap
import DeskServer.Lib.Paging

/-!
# `Lib.Tally` — weights added up under names

A loop that adds weights into a map leaves under each name the weight that was added under it, in whatever
order (`Holds`): a map of counts stands for a function that is zero almost everywhere. Listed by count, the
largest first and equal ones by name, its entries are strictly ordered, so the list does not depend on the
order in which the map gives them, and the list and the map determine each other.

Grouping equal elements and counting each group once with its size adds up to the same weights.
-/

namespace Tally

open Std

/-! ## Weighted lists -/

section Weight

variable {γ : Type} {p q r : γ → Bool} {l l' : List (γ × Nat)}

/-- The weight of the entries of which `p` holds. -/
def weightOf (p : γ → Bool) (l : List (γ × Nat)) : Nat := ((l.filter fun e => p e.1).map Prod.snd).sum

@[simp] theorem weightOf_nil : weightOf p [] = 0 := rfl

theorem weightOf_cons (c : γ) (n : Nat) : weightOf p ((c, n) :: l) = (if p c then n else 0) + weightOf p l := by
  unfold weightOf
  rw [List.filter_cons]
  split
  · rw [List.map_cons, List.sum_cons]
  · rw [Nat.zero_add]

theorem weightOf_append : weightOf p (l ++ l') = weightOf p l + weightOf p l' := by
  unfold weightOf
  rw [List.filter_append, List.map_append, List.sum_append]

theorem weightOf_snoc (c : γ) (n : Nat) :
    weightOf p (l ++ [(c, n)]) = weightOf p l + if p c then n else 0 := by
  rw [weightOf_append, weightOf_cons, weightOf_nil, Nat.add_zero]

/-- A weight that is counted. -/
theorem add_counted {c : γ} {n x : Nat} (hc : p c = true) (h : x = weightOf p l) :
    x + n = weightOf p (l ++ [(c, n)]) := by
  rw [weightOf_snoc, if_pos hc, h]

/-- A weight that is not. -/
theorem not_counted {c : γ} {n x : Nat} (hc : p c = false) (h : x = weightOf p l) :
    x = weightOf p (l ++ [(c, n)]) := by
  rw [weightOf_snoc, hc, if_neg Bool.false_ne_true, h, Nat.add_zero]

/-- A property that splits into two that exclude each other. -/
theorem weightOf_split (h : ∀ c, p c = (q c ^^ r c)) (hdisjoint : ∀ c, (q c && r c) = false) :
    weightOf p l = weightOf q l + weightOf r l := by
  induction l with
  | nil => rfl
  | cons e l ih =>
      rw [weightOf_cons, weightOf_cons, weightOf_cons, ih, h]
      have hnot := hdisjoint e.1
      cases hq : q e.1 <;> cases hr : r e.1 <;> simp_all <;> omega

/-- Elements of weight one are counted. -/
theorem weightOf_ones (l : List γ) : weightOf p (l.map fun c => (c, 1)) = l.countP p := by
  induction l with
  | nil => rfl
  | cons c l ih =>
      rw [List.map_cons, weightOf_cons, ih, List.countP_cons]
      omega

/-- **Groups counted once with their sizes weigh what their members do.** -/
theorem weightOf_groups {δ : Type} [DecidableEq δ] [b : BEq δ] [LawfulBEq δ] (f : δ → γ)
    (members : List δ) :
    weightOf p (members.dedup.map fun k => (f k, members.count k)) = members.countP fun k => p (f k) := by
  have hsame : b = instBEqOfDecidableEq := lawful_beq_subsingleton b instBEqOfDecidableEq
  subst hsame
  rw [← List.sum_map_count_dedup_filter_eq_countP]
  unfold weightOf
  rw [List.filter_map, List.map_map]
  rfl

end Weight

section Counts

variable {κ : Type} {cmp : κ → κ → Ordering} [TransCmp cmp] [LawfulEqCmp cmp]

/-! ## Maps of counts -/

/-- `counts[k] += n`. -/
def add (counts : ExtTreeMap κ Nat cmp) (k : κ) (n : Nat) : ExtTreeMap κ Nat cmp :=
  counts.alter k fun old => some (old.getD 0 + n)

/-- The map has an entry for each name with a weight, and no other. -/
def Holds (counts : ExtTreeMap κ Nat cmp) (w : κ → Nat) : Prop :=
  ∀ k, counts[k]? = if w k = 0 then none else some (w k)

/-- All counts together. -/
def total (counts : ExtTreeMap κ Nat cmp) : Nat := (counts.toList.map Prod.snd).sum

variable {counts counts' : ExtTreeMap κ Nat cmp} {w w' : κ → Nat}

omit [LawfulEqCmp cmp] in
theorem holds_empty : Holds (∅ : ExtTreeMap κ Nat cmp) fun _ => 0 := fun k => by
  rw [if_pos rfl, ExtTreeMap.getElem?_empty]

omit [LawfulEqCmp cmp] in
theorem total_empty : total (∅ : ExtTreeMap κ Nat cmp) = 0 := by
  rw [total, ExtTreeMap.toList_eq_nil_iff.mpr rfl]
  rfl

omit [LawfulEqCmp cmp] in
theorem Holds.pos (h : Holds counts w) {k : κ} {n : Nat} (hk : counts[k]? = some n) : 0 < n := by
  rw [h k] at hk
  split at hk
  · exact absurd hk (by simp)
  · rw [← Option.some.inj hk]
    omega

/-- A function has one map. -/
theorem Holds.unique (h : Holds counts w) (h' : Holds counts' w) : counts = counts' :=
  ExtTreeMap.ext_getElem? fun k => (h k).trans (h' k).symm

omit [LawfulEqCmp cmp] in
/-- A map holds one function. -/
theorem Holds.weights (h : Holds counts w) (h' : Holds counts w') : w = w' := by
  funext k
  have heq := (h k).symm.trans (h' k)
  split at heq <;> split at heq
  · omega
  · exact absurd heq (by simp)
  · exact absurd heq (by simp)
  · exact Option.some.inj heq

section Add
variable [DecidableEq κ]

theorem getElem?_add (k a : κ) (n : Nat) :
    (add counts k n)[a]? = if k = a then some ((counts[k]?).getD 0 + n) else counts[a]? :=
  ExtTreeMap.getElem?_alter_eq counts k a _

/-- **Adding a weight under a name**; what is added is not nothing. -/
theorem Holds.add (h : Holds counts w) {n : Nat} (hn : 0 < n) (k : κ) :
    Holds (add counts k n) fun a => w a + if k = a then n else 0 := by
  intro a
  show (Tally.add counts k n)[a]? = if w a + (if k = a then n else 0) = 0 then none
    else some (w a + if k = a then n else 0)
  rw [getElem?_add]
  by_cases hka : k = a
  · subst hka
    have hold : (counts[k]?).getD 0 = w k := by
      rw [h k]
      split
      · rename_i hzero
        exact hzero.symm
      · rfl
    rw [if_pos rfl, hold, if_pos rfl, if_neg (by omega)]
  · rw [if_neg hka, if_neg hka, h a, Nat.add_zero]

omit [LawfulEqCmp cmp] [DecidableEq κ] in
theorem total_eq_sumBy (counts : ExtTreeMap κ Nat cmp) :
    (total counts : Int) = ExtTreeMap.sumBy (fun _ (n : Nat) => (n : Int)) counts := by
  rw [total, ExtTreeMap.sumBy, Nat.cast_list_sum, List.map_map]
  rfl

theorem total_add (k : κ) (n : Nat) : total (Tally.add counts k n) = total counts + n := by
  have hrest : (Tally.add counts k n).erase k = counts.erase k := by
    apply ExtTreeMap.ext_getElem?
    intro a
    rw [ExtTreeMap.getElem?_erase_eq, ExtTreeMap.getElem?_erase_eq, getElem?_add]
    split <;> rfl
  have hnew : (total (Tally.add counts k n) : Int) = total counts + n := by
    rw [total_eq_sumBy, total_eq_sumBy, ExtTreeMap.sumBy_split _ counts k,
      ExtTreeMap.sumBy_split _ (Tally.add counts k n) k, hrest, getElem?_add, if_pos rfl]
    cases counts[k]? with
    | none => simp; omega
    | some m => simp; omega
  omega

end Add

/-! ## The entries by rank -/

/-- The larger count first, equal counts by name. -/
def rank (cmp : κ → κ → Ordering) (a b : κ × Nat) : Ordering := (compare b.2 a.2).then (cmp a.1 b.1)

omit [TransCmp cmp] [LawfulEqCmp cmp] in
theorem rank_eq_lt_iff {a b : κ × Nat} :
    rank cmp a b = .lt ↔ b.2 < a.2 ∨ (b.2 = a.2 ∧ cmp a.1 b.1 = .lt) := by
  rw [rank, Ordering.then_eq_lt, Nat.compare_eq_lt, Nat.compare_eq_eq]

instance : TransCmp (rank cmp) := by
  have hcount : TransCmp fun a b : κ × Nat => compare b.2 a.2 :=
    inferInstanceAs (TransCmp fun a b => compareOn (Prod.snd : κ × Nat → Nat) b a)
  have hname : TransCmp fun a b : κ × Nat => cmp a.1 b.1 :=
    { eq_swap := OrientedCmp.eq_swap, isLE_trans := TransCmp.isLE_trans }
  exact inferInstanceAs (TransCmp (compareLex (fun a b : κ × Nat => compare b.2 a.2) fun a b => cmp a.1 b.1))

/-- The entries of a map, by rank. -/
def ranking (counts : ExtTreeMap κ Nat cmp) : List (κ × Nat) := Paging.sortBy (rank cmp) counts.toList

theorem mem_ranking {e : κ × Nat} : e ∈ ranking counts ↔ counts[e.1]? = some e.2 := by
  rw [ranking, (Paging.sortBy_perm _ _).mem_iff, ExtTreeMap.mem_toList]

/-- A name is listed when it has a weight. -/
theorem Holds.mem_names (h : Holds counts w) (k : κ) : k ∈ (ranking counts).map Prod.fst ↔ w k ≠ 0 := by
  have hk := h k
  rw [List.mem_map]
  constructor
  · rintro ⟨e, he, rfl⟩ hzero
    rw [mem_ranking.mp he, if_pos hzero] at hk
    exact absurd hk (by simp)
  · intro hweight
    rw [if_neg hweight] at hk
    exact ⟨(k, w k), mem_ranking.mpr hk, rfl⟩

omit [LawfulEqCmp cmp] in
theorem nodup_names_ranking (counts : ExtTreeMap κ Nat cmp) : ((ranking counts).map Prod.fst).Nodup :=
  (((Paging.sortBy_perm _ _).map _).nodup_iff).mpr (ExtTreeMap.nodup_toList_keys counts)

omit [LawfulEqCmp cmp] in
theorem sum_ranking (counts : ExtTreeMap κ Nat cmp) : ((ranking counts).map Prod.snd).sum = total counts :=
  ((Paging.sortBy_perm _ _).map _).sum_eq

/-- A ranking says what is in the map. -/
theorem ranking_injective (h : ranking counts = ranking counts') : counts = counts' := by
  apply ExtTreeMap.ext_getElem?
  intro k
  cases hk : counts[k]? with
  | some n =>
      have hin : (k, n) ∈ ranking counts' := h ▸ mem_ranking.mpr hk
      exact (mem_ranking.mp hin).symm
  | none =>
      cases hk' : counts'[k]? with
      | none => rfl
      | some n =>
          have hin : (k, n) ∈ ranking counts := h ▸ mem_ranking.mpr hk'
          exact absurd (mem_ranking.mp hin) (by rw [hk]; simp)

/-- **The ranking is strictly ordered.** -/
theorem ranking_strict (counts : ExtTreeMap κ Nat cmp) : (ranking counts).Pairwise fun a b =>
    b.2 < a.2 ∨ (b.2 = a.2 ∧ cmp a.1 b.1 = .lt) := by
  have hle := Paging.sortBy_pairwise (rank cmp) counts.toList
  have hne : (ranking counts).Pairwise fun a b => a.1 ≠ b.1 := List.pairwise_map.mp (nodup_names_ranking counts)
  refine (hle.and hne).imp ?_
  rintro a b ⟨hrank, hname⟩
  rw [← rank_eq_lt_iff]
  have hnot : rank cmp a b ≠ .eq := by
    rw [rank, Ne, Ordering.then_eq_eq, not_and]
    exact fun _ heq => hname (LawfulEqCmp.eq_of_compare heq)
  cases hr : rank cmp a b with
  | lt => rfl
  | eq => exact absurd hr hnot
  | gt => rw [hr] at hrank; exact absurd hrank (by decide)

/-- In whatever order a map gives its entries, sorting them by rank is the ranking. -/
theorem sort_eq_ranking {l : List (κ × Nat)} (h : l.Perm counts.toList) :
    Paging.sortBy (rank cmp) l = ranking counts := by
  have hperm : (Paging.sortBy (rank cmp) l).Perm (ranking counts) :=
    ((Paging.sortBy_perm _ l).trans h).trans (Paging.sortBy_perm _ _).symm
  refine List.Perm.eq_of_pairwise ?_ (Paging.sortBy_pairwise _ l) (Paging.sortBy_pairwise _ _) hperm
  intro a b _ _ hab hba
  have heq := OrientedCmp.isLE_antisymm hab hba
  rw [rank, Ordering.then_eq_eq, Nat.compare_eq_eq] at heq
  exact Prod.ext (LawfulEqCmp.eq_of_compare heq.2) heq.1.symm

end Counts
end Tally
