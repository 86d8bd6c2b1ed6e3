import Mathlib

/-!
# `Lib.Run` — runs of a deterministic step function

A system is a state type, an event type and a step function. A run is the list of its events; the rules
below are the two ways this development argues about runs: an invariant every step keeps, and an
invariant every step keeps **provided a condition on that step holds**.
-/

namespace Run

variable {S E : Type} (step : S → E → S)

/-- The state after the events `es`. -/
def run (s : S) (es : List E) : S := es.foldl step s

@[simp] theorem run_nil (s : S) : run step s [] = s := rfl

@[simp] theorem run_cons (s : S) (e : E) (es : List E) :
    run step s (e :: es) = run step (step s e) es := rfl

@[simp] theorem run_append (s : S) (es fs : List E) :
    run step s (es ++ fs) = run step (run step s es) fs := List.foldl_append

/-- Every step of the run from `s` meets the condition `C`, read in the state before the step. -/
def EveryStep (C : S → E → Prop) : S → List E → Prop
  | _, [] => True
  | s, e :: es => C s e ∧ EveryStep C (step s e) es

/-- The property `P` holds in every state of the run from `s`, its first state included. -/
def EveryState (P : S → Prop) (s : S) (es : List E) : Prop :=
  ∀ pre, pre <+: es → P (run step s pre)

variable {step} in
theorem EveryStep.of_initial {C : S → E → Prop} {s : S} {es pre : List E}
    (h : EveryStep step C s es) (hp : pre <+: es) : EveryStep step C s pre := by
  induction pre generalizing s es with
  | nil => trivial
  | cons e pre ih =>
      obtain ⟨rest, rfl⟩ := hp
      exact ⟨h.1, ih h.2 ⟨rest, rfl⟩⟩

variable {step} in
/-- The condition on the last step of an initial part of the run. -/
theorem EveryStep.last {C : S → E → Prop} {s : S} {es pre : List E} {e : E}
    (h : EveryStep step C s es) (hp : pre ++ [e] <+: es) : C (run step s pre) e := by
  have hpre := h.of_initial hp
  clear hp h
  induction pre generalizing s with
  | nil => exact hpre.1
  | cons d pre ih => exact ih hpre.2

/-- **Invariant rule.** What every step keeps holds at the end of every run. -/
theorem run_invariant {I : S → Prop} (hstep : ∀ s e, I s → I (step s e)) {s : S} (hs : I s)
    (es : List E) : I (run step s es) := by
  induction es generalizing s with
  | nil => exact hs
  | cons e es ih => exact ih (hstep s e hs)

/-- **Conditional invariant rule.** What every step meeting `C` keeps holds at the end of every run
    whose steps all meet `C`. -/
theorem run_invariant_of {I : S → Prop} {C : S → E → Prop}
    (hstep : ∀ s e, C s e → I s → I (step s e)) {s : S} (hs : I s) {es : List E}
    (hes : EveryStep step C s es) : I (run step s es) := by
  induction es generalizing s with
  | nil => exact hs
  | cons e es ih => exact ih (hstep s e hes.1 hs) hes.2

/-- A condition every step meets, wherever it is taken. -/
theorem everyStep_of {C : S → E → Prop} (h : ∀ s e, C s e) (s : S) (es : List E) :
    EveryStep step C s es := by
  induction es generalizing s with
  | nil => trivial
  | cons e es ih => exact ⟨h s e, ih (step s e)⟩

variable {step} in
/-- Two conditions that agree wherever an invariant holds agree on the runs from there. -/
theorem everyStep_congr {I : S → Prop} {C D : S → E → Prop} (hI : ∀ s e, I s → I (step s e))
    (hCD : ∀ s e, I s → (C s e ↔ D s e)) {s : S} (hs : I s) (es : List E) :
    EveryStep step C s es ↔ EveryStep step D s es := by
  induction es generalizing s with
  | nil => exact Iff.rfl
  | cons e es ih => exact and_congr (hCD s e hs) (ih (hI s e hs))

/-- A condition on the events alone. -/
theorem everyStep_of_mem {D : E → Prop} {es : List E} (h : ∀ e ∈ es, D e) (s : S) :
    EveryStep step (fun _ e => D e) s es := by
  induction es generalizing s with
  | nil => trivial
  | cons e es ih =>
      exact ⟨h e List.mem_cons_self, ih (fun x hx => h x (List.mem_cons_of_mem _ hx)) (step s e)⟩

/-- **Refinement rule.** When every step is matched by steps of another system, through a view and from the
    states of an invariant, then every run is, by induction on it. -/
theorem run_refines {T F : Type} {step' : T → F → T} {view : S → T} {I : S → Prop}
    (hI : ∀ s e, I s → I (step s e))
    (hstep : ∀ s e, I s → ∃ fs, view (step s e) = run step' (view s) fs) {s : S} (hs : I s) (es : List E) :
    ∃ fs, view (run step s es) = run step' (view s) fs := by
  induction es generalizing s with
  | nil => exact ⟨[], rfl⟩
  | cons e es ih =>
      obtain ⟨fs, hfs⟩ := hstep s e hs
      obtain ⟨rest, hrest⟩ := ih (hI s e hs)
      exact ⟨fs ++ rest, by rw [run_cons, hrest, hfs, run_append]⟩

/-- A state every event leaves alone. -/
theorem run_fixed {s : S} {es : List E} (h : ∀ e ∈ es, step s e = s) : run step s es = s := by
  induction es with
  | nil => rfl
  | cons e es ih =>
      rw [run_cons, h e (by simp)]
      exact ih fun x hx => h x (by simp [hx])

theorem everyState_cons {P : S → Prop} {s : S} {e : E} {es : List E} :
    EveryState step P s (e :: es) ↔ P s ∧ EveryState step P (step s e) es := by
  constructor
  · intro h
    refine ⟨h [] List.nil_prefix, fun pre hp => ?_⟩
    exact h (e :: pre) (List.cons_prefix_cons.mpr ⟨rfl, hp⟩)
  · rintro ⟨hs, h⟩ pre hp
    cases pre with
    | nil => exact hs
    | cons d pre =>
        obtain ⟨rfl, hp'⟩ := List.cons_prefix_cons.mp hp
        exact h pre hp'

/-- **Exact conditional rule.** An invariant that gives `P`, kept by a step exactly as long as the step
    meets `C`, where every state of the run meets `G`: then `P` holds in every state exactly when `C`
    holds of every step. -/
theorem everyState_iff_everyStep_of {G I P : S → Prop} {C : S → E → Prop} (hI : ∀ s, I s → P s)
    (hkeep : ∀ s e, G s → I s → C s e → I (step s e))
    (hneed : ∀ s e, G s → I s → P (step s e) → C s e) {s : S} (hs : I s) {es : List E}
    (hG : EveryState step G s es) : EveryState step P s es ↔ EveryStep step C s es := by
  induction es generalizing s with
  | nil =>
      refine ⟨fun _ => trivial, fun _ pre hp => ?_⟩
      rw [List.prefix_nil.mp hp]
      exact hI s hs
  | cons e es ih =>
      rw [everyState_cons] at hG
      rw [everyState_cons]
      constructor
      · rintro ⟨_, h⟩
        have hc := hneed s e hG.1 hs (h [] List.nil_prefix)
        exact ⟨hc, (ih (hkeep s e hG.1 hs hc) hG.2).mp h⟩
      · rintro ⟨hc, h⟩
        exact ⟨hI s hs, (ih (hkeep s e hG.1 hs hc) hG.2).mpr h⟩

/-- The exact rule without a condition on the states. -/
theorem everyState_iff_everyStep {I P : S → Prop} {C : S → E → Prop} (hI : ∀ s, I s → P s)
    (hkeep : ∀ s e, I s → C s e → I (step s e)) (hneed : ∀ s e, I s → P (step s e) → C s e)
    {s : S} (hs : I s) (es : List E) : EveryState step P s es ↔ EveryStep step C s es :=
  everyState_iff_everyStep_of step (G := fun _ => True) hI (fun s e _ => hkeep s e)
    (fun s e _ => hneed s e) hs fun _ _ => trivial

instance (P : S → Prop) [DecidablePred P] (s : S) (es : List E) : Decidable (EveryState step P s es) :=
  decidable_of_iff (∀ pre ∈ es.inits, P (run step s pre)) (by
    simp only [EveryState, List.mem_inits])

/-! ## Runs made of some events

`Leads P s s'` says that a run from `s` ends in `s'` and takes no event but those that meet `P`. It is put
together piece by piece, and what these events keep holds at its end. -/

/-- A run of events that meet `P` leads from `s` to `s'`. -/
def Leads (P : E → Prop) (s s' : S) : Prop := ∃ es, (∀ e ∈ es, P e) ∧ run step s es = s'

section Leads
variable {step} {P : E → Prop} {s s' s'' : S}

theorem Leads.refl (s : S) : Leads step P s s := ⟨[], fun _ h => absurd h (by simp), rfl⟩

theorem Leads.single {e : E} (h : P e) (s : S) : Leads step P s (step s e) :=
  ⟨[e], fun _ hx => List.mem_singleton.mp hx ▸ h, rfl⟩

theorem Leads.trans (h : Leads step P s s') (h' : Leads step P s' s'') : Leads step P s s'' := by
  obtain ⟨es, hes, rfl⟩ := h
  obtain ⟨es', hes', rfl⟩ := h'
  refine ⟨es ++ es', fun e he => ?_, run_append step s es es'⟩
  exact (List.mem_append.mp he).elim (hes e) (hes' e)

/-- **Invariant rule for these events.** -/
theorem Leads.keeps {I : S → Prop} (hstep : ∀ s e, P e → I s → I (step s e)) (h : Leads step P s s')
    (hs : I s) : I s' := by
  obtain ⟨es, hes, rfl⟩ := h
  induction es generalizing s with
  | nil => exact hs
  | cons e es ih =>
      exact ih (hstep s e (hes e List.mem_cons_self) hs) fun x hx => hes x (List.mem_cons_of_mem _ hx)

end Leads

/-! ## What has held since a step

`Since P Q` says that the run took a step that met `P`, and that `Q` has held in every state after it.
It goes on as long as `Q` does, and a step that met `P` where `Q` did not hold yet is the only one. -/

/-- Some step of the run from `s` met `P`, and `Q` has held in every state since. -/
def Since (P : S → E → Prop) (Q : S → Prop) (s : S) (es : List E) : Prop :=
  ∃ before e later, es = before ++ e :: later ∧ P (run step s before) e ∧
    ∀ pre, pre <+: later → Q (run step s (before ++ e :: pre))

section Since
variable {step} {P P' : S → E → Prop} {Q : S → Prop} {s : S} {es : List E} {e : E}

theorem Since.snoc (h : Since step P Q s es) (hq : Q (run step s (es ++ [e]))) :
    Since step P Q s (es ++ [e]) := by
  obtain ⟨before, d, later, rfl, hp, hsince⟩ := h
  refine ⟨before, d, later ++ [e], by simp, hp, fun pre hpre => ?_⟩
  rcases List.prefix_concat_iff.mp hpre with rfl | hpre
  · simpa using hq
  · exact hsince pre hpre

theorem Since.of_last (hp : P (run step s es) e) (hq : Q (run step s (es ++ [e]))) :
    Since step P Q s (es ++ [e]) := by
  refine ⟨es, e, [], rfl, hp, fun pre hpre => ?_⟩
  rw [List.prefix_nil.mp hpre]
  exact hq

/-- **One step since.** Of two steps that `Q` has held since, and did not hold before, neither comes
    before the other. -/
theorem Since.same_step (h : Since step P Q s es) (h' : Since step P' Q s es)
    (hP : ∀ s e, P s e → ¬ Q s) (hP' : ∀ s e, P' s e → ¬ Q s) : ∃ s' e', P s' e' ∧ P' s' e' := by
  obtain ⟨before, d, later, hes, hp, hsince⟩ := h
  obtain ⟨before', d', later', hes', hp', hsince'⟩ := h'
  rw [hes] at hes'
  rcases List.append_eq_append_iff.mp hes' with ⟨mid, hb, hl⟩ | ⟨mid, hb, hl⟩
  · cases mid with
    | nil =>
        rw [List.append_nil] at hb
        obtain ⟨rfl, _⟩ := List.cons.inj hl
        exact ⟨_, d, hp, hb ▸ hp'⟩
    | cons x mid =>
        -- the second step comes later, where `Q` held already
        obtain ⟨rfl, hrest⟩ := List.cons.inj hl
        exact absurd (hb ▸ hsince mid ⟨_, hrest.symm⟩) (hP' _ _ hp')
  · cases mid with
    | nil =>
        rw [List.append_nil] at hb
        obtain ⟨rfl, _⟩ := List.cons.inj hl
        exact ⟨_, d', hb ▸ hp, hp'⟩
    | cons x mid =>
        obtain ⟨rfl, hrest⟩ := List.cons.inj hl
        exact absurd (hb ▸ hsince' mid ⟨_, hrest.symm⟩) (hP _ _ hp)

end Since

/-! ## What stands since an event

An event can grant something and another take it back. `Standing` speaks of the history alone: some event
granted it, and none after that one took it back. -/

/-- Some event of the history granted, and no later one revoked. -/
def Standing (Grants Revokes : E → Prop) (es : List E) : Prop :=
  ∃ before e later, es = before ++ e :: later ∧ Grants e ∧ ∀ x ∈ later, ¬ Revokes x

theorem not_standing_nil (Grants Revokes : E → Prop) : ¬ Standing Grants Revokes [] := by
  rintro ⟨before, e, later, hes, _⟩
  exact absurd hes.symm (by simp)

/-- **One event more**: what it grants stands, and what stood stands on unless it revokes. -/
theorem standing_snoc {Grants Revokes : E → Prop} {es : List E} {e : E} :
    Standing Grants Revokes (es ++ [e]) ↔ Grants e ∨ (Standing Grants Revokes es ∧ ¬ Revokes e) := by
  constructor
  · rintro ⟨before, d, later, hes, hd, hlater⟩
    rcases List.eq_nil_or_concat later with rfl | ⟨init, last, rfl⟩
    · obtain ⟨_, hlast⟩ := List.append_inj' hes rfl
      obtain rfl := (List.cons.inj hlast).1
      exact .inl hd
    · rw [List.concat_eq_append, ← List.cons_append, ← List.append_assoc] at hes
      obtain ⟨hinit, hlast⟩ := List.append_inj' hes rfl
      obtain rfl := (List.cons.inj hlast).1
      refine .inr ⟨⟨before, d, init, hinit, hd, fun x hx => ?_⟩, ?_⟩
      · exact hlater x (by simp [hx])
      · exact hlater e (by simp)
  · rintro (hg | ⟨⟨before, d, later, rfl, hd, hlater⟩, hr⟩)
    · exact ⟨es, e, [], rfl, hg, fun _ hx => absurd hx (by simp)⟩
    · refine ⟨before, d, later ++ [e], by simp, hd, fun x hx => ?_⟩
      rcases List.mem_append.mp hx with hx | hx
      · exact hlater x hx
      · rw [List.mem_singleton.mp hx]
        exact hr

/-! ## What a register holds

A part of the state that some steps write and all the others leave alone holds what was written last. -/

section Register
variable {V : Type} {step} (view : S → V) {W : S → E → V → Prop} {I : S → Prop}

end Register

/-! ## Replaying a run that was cut short

When the events are idempotent and commute pairwise, having run some of them before makes no
difference: the whole list, run again from there, ends where one run of it ends. -/

section Replay
variable {es : List E}

/-- An event of the list is absorbed by a run of the whole list. -/
theorem run_absorb (hidem : ∀ e ∈ es, ∀ s, step (step s e) e = step s e)
    (hcomm : ∀ e ∈ es, ∀ f ∈ es, ∀ s, step (step s e) f = step (step s f) e) {e : E} (he : e ∈ es)
    (s : S) : run step (step s e) es = run step s es := by
  induction es generalizing s with
  | nil => exact absurd he (by simp)
  | cons d es ih =>
      rw [run_cons, run_cons]
      rcases List.mem_cons.mp he with rfl | he'
      · rw [hidem e (by simp)]
      · rw [hcomm e (by simp [he']) d (by simp)]
        exact ih (fun x hx => hidem x (by simp [hx]))
          (fun x hx y hy => hcomm x (by simp [hx]) y (by simp [hy])) he' _

/-- **Replay rule.** Whatever part of the list ran before, running all of it ends in the same state. -/
theorem run_replay (hidem : ∀ e ∈ es, ∀ s, step (step s e) e = step s e)
    (hcomm : ∀ e ∈ es, ∀ f ∈ es, ∀ s, step (step s e) f = step (step s f) e) {part : List E}
    (hp : part ⊆ es) (s : S) : run step (run step s part) es = run step s es := by
  induction part generalizing s with
  | nil => rfl
  | cons d part ih =>
      rw [run_cons, ih fun x hx => hp (by simp [hx])]
      exact run_absorb step hidem hcomm (hp (by simp)) s

end Replay

end Run
