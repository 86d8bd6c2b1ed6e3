import Mathlib

/-!
# `Lib.Fallible` — loops that may throw

A loop whose body may throw is `List.foldlM` in `Except`. It returns only when every body did, so an
invariant of the elements done so far and the state holds at its end (`foldlM_invariant`); and it does
return when the body returns wherever the invariant holds (`foldlM_total`). Lists that such loops build are
related element by element (`List.Forall₂`) to the lists they walk.

The other loop that may fail is a sum that has to stay in a range (`List.checkedSum`). It fails at a partial
sum, so in general it depends on the order of the summands; of summands that are not negative it fails
exactly when the whole sum is too large (`List.checkedSum_of_nonneg`), whatever their order.
-/

namespace Except

variable {ε α β γ : Type}

theorem bind_ok_iff {x : Except ε α} {f : α → Except ε β} {b : β} :
    (x >>= f) = .ok b ↔ ∃ a, x = .ok a ∧ f a = .ok b := by
  cases x with
  | error e =>
      constructor
      · intro h
        cases h
      · rintro ⟨a, ha, -⟩
        cases ha
  | ok a =>
      constructor
      · intro h
        exact ⟨a, rfl, h⟩
      · rintro ⟨a', ha, hf⟩
        rw [Except.ok.inj ha]
        exact hf

theorem map_ok_iff {x : Except ε α} {f : α → β} {b : β} :
    x.map f = .ok b ↔ ∃ a, x = .ok a ∧ f a = b := by
  cases x with
  | error e =>
      constructor
      · intro h
        cases h
      · rintro ⟨a, ha, -⟩
        cases ha
  | ok a =>
      constructor
      · intro h
        exact ⟨a, rfl, Except.ok.inj h⟩
      · rintro ⟨a', ha, rfl⟩
        rw [Except.ok.inj ha]
        rfl

/-! ## Loops -/

variable {f : β → α → Except ε β} (Inv : List α → β → Prop)

/-- **What every body keeps holds at the end**, by induction on the elements still to come. -/
theorem foldlM_invariant
    (hstep : ∀ done a b b', Inv done b → f b a = .ok b' → Inv (done ++ [a]) b') :
    ∀ (rest done : List α) (b r : β), Inv done b → rest.foldlM f b = .ok r → Inv (done ++ rest) r := by
  intro rest
  induction rest with
  | nil =>
      intro done b r hinv h
      rw [List.append_nil, ← Except.ok.inj h]
      exact hinv
  | cons a rest ih =>
      intro done b r hinv h
      rw [List.foldlM_cons] at h
      obtain ⟨b', hbody, hrest⟩ := bind_ok_iff.mp h
      have hall := ih (done ++ [a]) b' r (hstep done a b b' hinv hbody) hrest
      rw [List.append_assoc, List.singleton_append] at hall
      exact hall

/-- **A loop returns** when its body does wherever the invariant holds. -/
theorem foldlM_total {l : List α}
    (hstep : ∀ done a rest b, l = done ++ a :: rest → Inv done b →
      ∃ b', f b a = .ok b' ∧ Inv (done ++ [a]) b')
    {b : β} (h : Inv [] b) : ∃ r, l.foldlM f b = .ok r ∧ Inv l r := by
  have hrun : ∀ (rest done : List α) (b : β), l = done ++ rest → Inv done b →
      ∃ r, rest.foldlM f b = .ok r ∧ Inv l r := by
    intro rest
    induction rest with
    | nil =>
        intro done b hl hinv
        rw [List.append_nil] at hl
        rw [hl]
        exact ⟨b, rfl, hinv⟩
    | cons a rest ih =>
        intro done b hl hinv
        obtain ⟨b', hbody, hinv'⟩ := hstep done a rest b hl hinv
        obtain ⟨r, hr, hend⟩ := ih (done ++ [a]) b' (by rw [hl, List.append_assoc]; rfl) hinv'
        refine ⟨r, ?_, hend⟩
        rw [List.foldlM_cons]
        exact bind_ok_iff.mpr ⟨b', hbody, hr⟩
  exact hrun l [] b rfl h

end Except

namespace List

variable {α β γ : Type} {R : α → β → Prop} {S : β → γ → Prop}

/-- Two relations, one behind the other. -/
theorem Forall₂.comp {as : List α} {bs : List β} {cs : List γ} (hr : Forall₂ R as bs)
    (hs : Forall₂ S bs cs) : Forall₂ (fun a c => ∃ b, R a b ∧ S b c) as cs := by
  induction hr generalizing cs with
  | nil =>
      cases hs
      exact .nil
  | cons hab _ ih =>
      cases hs with
      | cons hbc htail => exact .cons ⟨_, hab, hbc⟩ (ih htail)

theorem Forall₂.exists_left {as : List α} {bs : List β} (h : Forall₂ R as bs) {b : β} (hb : b ∈ bs) :
    ∃ a ∈ as, R a b := by
  induction h with
  | nil => exact absurd hb not_mem_nil
  | cons hab _ ih =>
      rcases mem_cons.mp hb with rfl | hin
      · exact ⟨_, mem_cons_self, hab⟩
      · obtain ⟨a, ha, hr⟩ := ih hin
        exact ⟨a, mem_cons_of_mem _ ha, hr⟩

theorem Forall₂.exists_right {as : List α} {bs : List β} (h : Forall₂ R as bs) {a : α} (ha : a ∈ as) :
    ∃ b ∈ bs, R a b := by
  induction h with
  | nil => exact absurd ha not_mem_nil
  | cons hab _ ih =>
      rcases mem_cons.mp ha with rfl | hin
      · exact ⟨_, mem_cons_self, hab⟩
      · obtain ⟨b, hb, hr⟩ := ih hin
        exact ⟨b, mem_cons_of_mem _ hb, hr⟩

/-! ## Sums in a range -/

/-- The sum from the left; none when a partial sum leaves the range from `lo` to below `hi`. -/
def checkedSum (lo hi : Int) (l : List Int) : Option Int :=
  l.foldlM (fun total x => if lo ≤ total + x ∧ total + x < hi then some (total + x) else none) 0

/-- **Partial sums that only grow** leave the range exactly when the whole does, by induction on what is still
    to be added. -/
theorem checkedSum_of_nonneg {lo hi : Int} (hlo : lo ≤ 0) (hhi : 0 < hi) {l : List Int}
    (h : ∀ x ∈ l, 0 ≤ x) : l.checkedSum lo hi = if l.sum < hi then some l.sum else none := by
  have hrun : ∀ total : Int, 0 ≤ total → total < hi →
      l.foldlM (fun total x => if lo ≤ total + x ∧ total + x < hi then some (total + x) else none) total =
        if total + l.sum < hi then some (total + l.sum) else none := by
    induction l with
    | nil =>
        intro total _ hbelow
        rw [foldlM_nil, sum_nil, add_zero, if_pos hbelow]
        rfl
    | cons x l ih =>
        intro total hpos hbelow
        have hx := h x mem_cons_self
        have hrest : ∀ y ∈ l, 0 ≤ y := fun y hy => h y (mem_cons_of_mem x hy)
        have hsum := sum_nonneg hrest
        rw [foldlM_cons, sum_cons]
        by_cases hstep : total + x < hi
        · rw [if_pos ⟨by omega, hstep⟩, Option.bind_eq_bind, Option.bind_some,
            ih hrest (total + x) (by omega) hstep, Int.add_assoc]
        · -- the failure is final, and the rest takes nothing away
          rw [if_neg (fun hin => hstep hin.2), if_neg (by omega)]
          rfl
  have hwhole := hrun 0 (Int.le_refl 0) hhi
  rw [zero_add] at hwhole
  exact hwhole

end List
