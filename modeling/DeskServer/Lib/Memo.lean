import DeskServer.Lib.Run

/-!
# `Lib.Memo` — questions whose answers are kept

Someone who keeps the answers asks nothing twice: a question is asked while its answer is not known, and an
answer, once known, stays. An answer may also fail to come, and then the question is asked again. **`Grows`
says this of two moments, and a system each of whose steps grows its memo does so over its runs**
(`grows_run`).

Nothing here is about any particular program.
-/

/-- What is known of each key, and the questions so far, each with its key. -/
structure Memo (K Q A : Type) where
  known : K → Option A
  asked : List (K × Q)

namespace Memo

variable {K Q A : Type}

/-- Answers stay, and what was asked since had no answer. -/
structure Grows (m m' : Memo K Q A) : Prop where
  retains : ∀ k a, m.known k = some a → m'.known k = some a
  asks : ∃ later, m'.asked = m.asked ++ later ∧ ∀ question ∈ later, m.known question.1 = none

variable {m m' m'' : Memo K Q A}

theorem Grows.refl (m : Memo K Q A) : Grows m m :=
  ⟨fun _ _ h => h, [], (List.append_nil _).symm, fun _ h => absurd h List.not_mem_nil⟩

theorem Grows.trans (h : Grows m m') (h' : Grows m' m'') : Grows m m'' := by
  obtain ⟨later, hlater, hunknown⟩ := h.asks
  obtain ⟨later', hlater', hunknown'⟩ := h'.asks
  refine ⟨fun k a hk => h'.retains k a (h.retains k a hk), later ++ later', ?_, ?_⟩
  · rw [hlater', hlater, List.append_assoc]
  · intro question hquestion
    rcases List.mem_append.mp hquestion with hquestion | hquestion
    · exact hunknown question hquestion
    · cases hk : m.known question.1 with
      | none => rfl
      | some a =>
          have hnone := hunknown' question hquestion
          rw [h.retains _ a hk] at hnone
          exact absurd hnone (by simp)

/-- **What is known is not asked again.** -/
theorem Grows.asked_eq [DecidableEq K] (h : Grows m m') {k : K} {a : A} (hk : m.known k = some a) :
    m'.asked.filter (fun question => question.1 = k) = m.asked.filter (fun question => question.1 = k) := by
  obtain ⟨later, hlater, hunknown⟩ := h.asks
  have hnone : later.filter (fun question => question.1 = k) = [] := by
    refine List.filter_eq_nil_iff.mpr fun question hquestion heq => ?_
    have hunknown := hunknown question hquestion
    rw [of_decide_eq_true heq, hk] at hunknown
    exact absurd hunknown (by simp)
  rw [hlater, List.filter_append, hnone, List.append_nil]

variable {S E : Type} {step : S → E → S}

theorem grows_run (view : S → Memo K Q A) (hstep : ∀ s e, Grows (view s) (view (step s e))) (s : S) (es : List E) :
    Grows (view s) (view (Run.run step s es)) :=
  Run.run_invariant step (I := fun s' => Grows (view s) (view s')) (fun s' e h => h.trans (hstep s' e))
    (Grows.refl (view s)) es

end Memo
