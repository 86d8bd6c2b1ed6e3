import Mathlib

/-!
# `Lib.Latest` — questions asked again before they are answered

A client asks a question, and asks again before the answer is there. Answers come in any order. It numbers
its questions and takes an answer only if nothing was asked since: the answer it takes is always to the
last question (`Represents.current`), whatever order the answers come in.

Nothing here is about any particular program.
-/

namespace Latest

variable {Q : Type}

/-- What the client keeps: the number of its last question, and the questions that still wait. -/
structure Asking (Q : Type) where
  serial : Nat
  waiting : List (Nat × Q)

namespace Asking

/-- Nothing was asked yet. -/
def start : Asking Q := ⟨0, []⟩

def ask (s : Asking Q) (q : Q) : Asking Q := ⟨s.serial + 1, s.waiting ++ [(s.serial + 1, q)]⟩

/-- The question with this number waits no longer. -/
def arrived (s : Asking Q) (n : Nat) : Asking Q := { s with waiting := s.waiting.filter fun w => w.1 ≠ n }

/-- The waiting question with this number. -/
def find (s : Asking Q) (n : Nat) : Option Q := (s.waiting.find? fun w => w.1 = n).map Prod.snd

theorem mem_of_find {s : Asking Q} {n : Nat} {q : Q} (h : s.find n = some q) : (n, q) ∈ s.waiting := by
  obtain ⟨w, hw, rfl⟩ := Option.map_eq_some_iff.mp h
  have hn : w.1 = n := by simpa using List.find?_some hw
  rw [← hn]
  exact List.mem_of_find?_eq_some hw

end Asking

/-- **The numbers stand for the questions asked so far**: the last number is how many there were, and a
    waiting question is the one asked under its number. -/
structure Represents (asked : List Q) (s : Asking Q) : Prop where
  serial : s.serial = asked.length
  waiting : ∀ w ∈ s.waiting, 0 < w.1 ∧ asked[w.1 - 1]? = some w.2

theorem represents_start : Represents ([] : List Q) Asking.start :=
  ⟨rfl, fun _ h => absurd h List.not_mem_nil⟩

section
variable {asked : List Q} {s : Asking Q}

/-- What was asked under a number stays asked under it. -/
theorem getElem?_append_of_some {n : Nat} {q : Q} (h : asked[n]? = some q) (later : List Q) :
    (asked ++ later)[n]? = some q := by
  rw [List.getElem?_append_left (List.getElem?_eq_some_iff.mp h).1]
  exact h

theorem Represents.ask (h : Represents asked s) (q : Q) : Represents (asked ++ [q]) (s.ask q) := by
  refine ⟨?_, fun w hw => ?_⟩
  · rw [List.length_append, List.length_singleton, ← h.serial]
    rfl
  · rcases List.mem_append.mp hw with hold | hnew
    · obtain ⟨hpos, hat⟩ := h.waiting w hold
      exact ⟨hpos, getElem?_append_of_some hat [q]⟩
    · rw [List.mem_singleton.mp hnew]
      refine ⟨Nat.succ_pos _, ?_⟩
      show (asked ++ [q])[s.serial]? = some q
      rw [h.serial, List.getElem?_concat_length]

theorem Represents.arrived (h : Represents asked s) (n : Nat) : Represents asked (s.arrived n) :=
  ⟨h.serial, fun w hw => h.waiting w (List.mem_filter.mp hw).1⟩

/-- The question that was just asked waits under its number: an older one has a smaller number. -/
theorem Represents.find_ask (h : Represents asked s) (q : Q) : (s.ask q).find (s.ask q).serial = some q := by
  have hold : ∀ w ∈ s.waiting, ¬ decide (w.1 = s.serial + 1) = true := by
    intro w hw
    obtain ⟨hpos, hat⟩ := h.waiting w hw
    have hlt := (List.getElem?_eq_some_iff.mp hat).1
    have hserial := h.serial
    simp only [decide_eq_true_eq]
    omega
  show ((s.waiting ++ [(s.serial + 1, q)]).find? fun w => decide (w.1 = s.serial + 1)).map Prod.snd = some q
  rw [List.find?_append, List.find?_eq_none.mpr hold]
  simp

/-- **Only the last question is answered under the last number.** -/
theorem Represents.current (h : Represents asked s) {q : Q} (hfind : s.find s.serial = some q) :
    asked.getLast? = some q := by
  obtain ⟨_, hat⟩ := h.waiting _ (Asking.mem_of_find hfind)
  rw [h.serial] at hat
  rw [List.getLast?_eq_getElem?]
  exact hat

/-- The question asked last, under the last number. -/
theorem Represents.getElem?_serial (h : Represents asked s) : asked[s.serial - 1]? = asked.getLast? := by
  rw [h.serial, List.getLast?_eq_getElem?]

end

end Latest
