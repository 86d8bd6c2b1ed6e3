import DeskServer.Lib.Run

/-!
# `Lib.Interleave` — threads whose steps interleave

Each thread takes the steps of its program in order, and nothing orders the threads against each other:
a trace is any list whose part for each thread is the program of the thread. What a step reads is what
was written last before it; for a part of the state that one step alone writes, that is decided by
whether the write comes before the read.

Nothing here is about any particular program.
-/

namespace Interleave

variable {α θ : Type} [DecidableEq α] [DecidableEq θ]

/-! ## Before a step -/

/-- The part of `tr` before the first `y`. -/
def upTo (y : α) (tr : List α) : List α := tr.takeWhile (· ≠ y)

/-- `x` is taken before `y` is. -/
def Before (x y : α) (tr : List α) : Prop := x ∈ upTo y tr

instance (x y : α) (tr : List α) : Decidable (Before x y tr) := inferInstanceAs (Decidable (x ∈ upTo y tr))

variable {x y : α} {tr : List α}

theorem not_mem_upTo (y : α) (tr : List α) : y ∉ upTo y tr := by
  intro h
  simpa using List.mem_takeWhile_imp h

theorem upTo_append_cons (h : y ∉ tr) (post : List α) : upTo y (tr ++ y :: post) = tr := by
  have hall : ∀ a ∈ tr, decide (a ≠ y) = true := by
    intro a ha
    rw [decide_eq_true_eq]
    rintro rfl
    exact h ha
  rw [upTo, List.takeWhile_append_of_pos hall, List.takeWhile_cons_of_neg (by simp), List.append_nil]

/-- A step splits the trace at its first occurrence. -/
theorem exists_split (h : y ∈ tr) : ∃ post, tr = upTo y tr ++ y :: post := by
  obtain ⟨pre, post, rfl, hpre⟩ := List.eq_append_cons_of_mem h
  exact ⟨post, by rw [upTo_append_cons hpre]⟩

theorem upTo_prefix_self (y : α) (tr : List α) : upTo y tr <+: tr := List.takeWhile_prefix _

/-- Before an earlier step of a part of the trace is before it in the trace. -/
theorem upTo_upTo (h : Before x y tr) : upTo x (upTo y tr) = upTo x tr := by
  obtain ⟨post, hpost⟩ := exists_split h
  obtain ⟨rest, hrest⟩ := upTo_prefix_self y tr
  have htr : tr = upTo x (upTo y tr) ++ x :: (post ++ rest) := by
    rw [← List.cons_append, ← List.append_assoc, ← hpost, hrest]
  conv_rhs => rw [htr]
  rw [upTo_append_cons (not_mem_upTo x _)]

/-- Of two steps of a trace one comes first. -/
theorem before_or_before (hx : x ∈ tr) (hy : y ∈ tr) (hne : x ≠ y) : Before x y tr ∨ Before y x tr := by
  obtain ⟨post, hpost⟩ := exists_split hx
  by_cases h : Before y x tr
  · exact .inr h
  · left
    have hy' : y ∈ post := by
      rw [hpost, List.mem_append, List.mem_cons] at hy
      rcases hy with hy | rfl | hy
      · exact absurd hy h
      · exact absurd rfl hne
      · exact hy
    obtain ⟨rest, hrest⟩ := exists_split hy'
    -- `y` comes behind `x`, so `x` is in the part before it
    have htr : tr = (upTo x tr ++ x :: upTo y post) ++ y :: rest := by
      rw [List.append_assoc, List.cons_append, ← hrest]
      exact hpost
    have hmem : y ∉ upTo x tr ++ x :: upTo y post := by
      rw [List.mem_append, List.mem_cons, not_or, not_or]
      exact ⟨h, Ne.symm hne, not_mem_upTo y post⟩
    rw [Before, htr, upTo_append_cons hmem]
    simp

theorem Before.asymm (h : Before x y tr) : ¬ Before y x tr := by
  intro h'
  have hx : x ∈ upTo y (upTo x tr) := by
    rw [upTo_upTo h']
    exact h
  exact not_mem_upTo x tr ((upTo_prefix_self y _).subset hx)

/-! ## Interleavings -/

/-- **`tr` interleaves the threads**: the steps of each thread, taken out of the trace, are its program. -/
def Interleaving (thread : α → θ) (program : θ → List α) (tr : List α) : Prop :=
  ∀ t, tr.filter (fun a => thread a = t) = program t

variable {thread : α → θ} {program : θ → List α}

omit [DecidableEq α] in
theorem Interleaving.mem_iff (h : Interleaving thread program tr) :
    x ∈ tr ↔ x ∈ program (thread x) := by
  rw [← h (thread x), List.mem_filter]
  simp

/-- Programs that repeat no step have traces that repeat none. -/
theorem Interleaving.nodup (h : Interleaving thread program tr) (hp : ∀ t, (program t).Nodup) :
    tr.Nodup := by
  rw [List.nodup_iff_count_le_one]
  intro a
  have hcount : tr.count a = (program (thread a)).count a := by
    rw [← h (thread a), List.count_filter (by simp)]
  rw [hcount]
  exact List.nodup_iff_count_le_one.mp (hp _) a

/-- **A thread keeps the order of its program.** -/
theorem Interleaving.before (h : Interleaving thread program tr) (xs : List α) {ys : List α}
    (hp : program (thread y) = xs ++ y :: ys) (hxs : y ∉ xs) (hx : x ∈ xs) : Before x y tr := by
  have hy : y ∈ tr := h.mem_iff.mpr (by rw [hp]; simp)
  obtain ⟨post, hpost⟩ := exists_split hy
  -- the steps of the thread before the first `y` of the trace are those before it in the program
  have hfilter := h (thread y)
  rw [hp, hpost, List.filter_append, List.filter_cons_of_pos (by simp)] at hfilter
  have hpre : y ∉ (upTo y tr).filter fun a => thread a = thread y := by
    intro hmem
    exact not_mem_upTo y tr (List.mem_filter.mp hmem).1
  have heq : (upTo y tr).filter (fun a => thread a = thread y) = xs := by
    have := congrArg (upTo y) hfilter
    rwa [upTo_append_cons hpre, upTo_append_cons hxs] at this
  rw [← heq] at hx
  exact (List.mem_filter.mp hx).1

/-! ## What one step alone writes -/

section Written
variable {S β : Type} {step : S → α → S} {f : S → β} {g g' : S → β} {s : S}

omit [DecidableEq α] in
/-- A part of the state that no step of the list writes. -/
theorem run_unwritten {es : List α} (hkeep : ∀ s, ∀ e ∈ es, f (step s e) = f s) :
    f (Run.run step s es) = f s := by
  induction es generalizing s with
  | nil => rfl
  | cons e es ih =>
      rw [Run.run_cons, ih fun s d hd => hkeep s d (List.mem_cons_of_mem e hd)]
      exact hkeep s e List.mem_cons_self

omit [DecidableEq α] in
/-- In a trace without repetition a step does not come back after itself. -/
theorem not_mem_of_split {pre post : List α} (h : tr = pre ++ x :: post) (hnodup : tr.Nodup) :
    x ∉ post := by
  rw [h] at hnodup
  exact (List.nodup_cons.mp (List.nodup_append'.mp hnodup).2.1).1

/-- What `x` wrote is there at the end. -/
theorem read_end (hx : ∀ s, f (step s x) = g s) (hkeep : ∀ s e, e ≠ x → f (step s e) = f s)
    (hnodup : tr.Nodup) (hmem : x ∈ tr) (s : S) :
    f (Run.run step s tr) = g (Run.run step s (upTo x tr)) := by
  obtain ⟨post, hpost⟩ := exists_split hmem
  have hnot : x ∉ post := not_mem_of_split hpost hnodup
  conv_lhs => rw [hpost]
  rw [Run.run_append, Run.run_cons, run_unwritten fun s e he => hkeep s e fun h => hnot (h ▸ he), hx]

/-- **What a step reads** of a part that `x` alone writes, in a trace that takes `x` once: what `x` wrote
    there, if `x` came before, and what was there at the start otherwise. -/
theorem read (hx : ∀ s, f (step s x) = g s) (hkeep : ∀ s e, e ≠ x → f (step s e) = f s)
    (hnodup : tr.Nodup) (s : S) (y : α) : f (Run.run step s (upTo y tr)) =
      if Before x y tr then g (Run.run step s (upTo x tr)) else f s := by
  by_cases h : Before x y tr
  · rw [if_pos h, read_end hx hkeep (hnodup.sublist (upTo_prefix_self y tr).sublist) h, upTo_upTo h]
  · rw [if_neg h, run_unwritten fun s e he => hkeep s e fun hex => h (hex ▸ he)]

/-- Two steps write a part of the state, `x` first: what either finds there, and what is left. -/
theorem read_two (hx : ∀ s, f (step s x) = g s) (hy : ∀ s, f (step s y) = g' s)
    (hkeep : ∀ s e, e ≠ x → e ≠ y → f (step s e) = f s) (hnodup : tr.Nodup) (hmem : y ∈ tr)
    (h : Before x y tr) (s : S) :
    f (Run.run step s (upTo x tr)) = f s ∧
      f (Run.run step s (upTo y tr)) = g (Run.run step s (upTo x tr)) ∧
      f (Run.run step s tr) = g' (Run.run step s (upTo y tr)) := by
  obtain ⟨post, hpost⟩ := exists_split hmem
  obtain ⟨mid, hmid⟩ := exists_split h
  rw [upTo_upTo h] at hmid
  refine ⟨?_, ?_, ?_⟩
  · refine run_unwritten fun s e he => hkeep s e ?_ ?_
    · rintro rfl
      exact not_mem_upTo _ _ he
    · rintro rfl
      exact h.asymm he
  · have hnot : x ∉ mid := not_mem_of_split hmid (hnodup.sublist (upTo_prefix_self y tr).sublist)
    have hnot' : y ∉ mid := by
      intro hy
      apply not_mem_upTo y tr
      rw [hmid]
      simp [hy]
    conv_lhs => rw [hmid]
    rw [Run.run_append, Run.run_cons, run_unwritten fun s e he =>
      hkeep s e (fun hex => hnot (hex ▸ he)) fun hey => hnot' (hey ▸ he), hx]
  · have hnot : y ∉ post := not_mem_of_split hpost hnodup
    have hnot' : x ∉ post := by
      intro hxp
      have hd := hpost ▸ hnodup
      exact (List.nodup_append'.mp hd).2.2 h (List.mem_cons_of_mem y hxp)
    conv_lhs => rw [hpost]
    rw [Run.run_append, Run.run_cons, run_unwritten fun s e he =>
      hkeep s e (fun hex => hnot' (hex ▸ he)) fun hey => hnot (hey ▸ he), hy]

end Written

end Interleave
