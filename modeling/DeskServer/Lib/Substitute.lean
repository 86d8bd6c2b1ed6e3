import Mathlib

/-!
# `Lib.Substitute` — replacing markers in a text

The usual loop looks for a marker, puts the replacement in its place, and goes on behind the replacement.
It ends, and replaces the markers of the text from left to right (`replaceLoop_eq`).

A text with markers is meant as a template: pieces of text, and holes. Replacing one marker after the other
can go wrong, because a replacement and what stands around it can form a new marker. **When no text and no
replacement has the character that opens a marker, the holes are filled as if at once**
(`replaceAll_render`).

Nothing here is about any particular program.
-/

namespace Substitute

variable {α : Type}

/-! ## The loop -/

section Loop
variable [DecidableEq α]

/-- The first position of the marker. -/
def find (marker : List α) : List α → Option Nat
  | [] => if marker = [] then some 0 else none
  | c :: rest => if marker <+: c :: rest then some 0 else (find marker rest).map (· + 1)

/-- The loop, from the position `pos`. -/
def replaceLoop (marker replacement : List α) : Nat → List α → Nat → List α
  | 0, text, _ => text
  | fuel + 1, text, pos =>
    match find marker (text.drop pos) with
    | none => text
    | some i =>
      replaceLoop marker replacement fuel
        (text.take (pos + i) ++ replacement ++ text.drop (pos + i + marker.length))
        (pos + i + replacement.length)

/-- The markers replaced from left to right; `skip` more elements belong to one that was. -/
def replaceFrom (marker replacement : List α) : Nat → List α → List α
  | _, [] => []
  | skip + 1, _ :: rest => replaceFrom marker replacement skip rest
  | 0, c :: rest =>
    if marker <+: c :: rest then replacement ++ replaceFrom marker replacement (marker.length - 1) rest
    else c :: replaceFrom marker replacement 0 rest

def replaceAll (marker replacement text : List α) : List α := replaceFrom marker replacement 0 text

variable {marker replacement : List α}

theorem replaceFrom_skip (skip : Nat) (text : List α) :
    replaceFrom marker replacement skip text = replaceAll marker replacement (text.drop skip) := by
  induction text generalizing skip with
  | nil => rw [List.drop_nil, replaceAll, replaceFrom, replaceFrom]
  | cons c rest ih =>
      cases skip with
      | zero => rfl
      | succ skip => exact ih skip

@[simp] theorem replaceAll_nil : replaceAll marker replacement [] = [] := rfl

/-- A marker in front is replaced. -/
theorem replaceAll_marker (hne : marker ≠ []) (rest : List α) :
    replaceAll marker replacement (marker ++ rest) = replacement ++ replaceAll marker replacement rest := by
  cases marker with
  | nil => exact absurd rfl hne
  | cons c marker =>
      have hfront : c :: marker <+: c :: (marker ++ rest) := List.prefix_append (c :: marker) rest
      rw [List.cons_append, replaceAll, replaceFrom, if_pos hfront, replaceFrom_skip, List.length_cons,
        Nat.add_sub_cancel, List.drop_left]

/-- Anything else in front stays. -/
theorem replaceAll_cons {c : α} {rest : List α} (h : ¬ marker <+: c :: rest) :
    replaceAll marker replacement (c :: rest) = c :: replaceAll marker replacement rest := by
  rw [replaceAll, replaceFrom, if_neg h]
  rfl

theorem find_cons {c : α} {rest : List α} (h : ¬ marker <+: c :: rest) :
    find marker (c :: rest) = (find marker rest).map (· + 1) := by
  rw [find, if_neg h]

theorem find_marker (hne : marker ≠ []) (rest : List α) : find marker (marker ++ rest) = some 0 := by
  cases marker with
  | nil => exact absurd rfl hne
  | cons c marker => exact if_pos (List.prefix_append (c :: marker) rest)

/-- The marker is found when it is anywhere in the text. -/
theorem find_eq_none_iff {text : List α} : find marker text = none ↔ ¬ marker <:+: text := by
  induction text with
  | nil =>
      rw [find, List.infix_nil]
      split <;> simp_all
  | cons c rest ih =>
      rw [List.infix_cons_iff, not_or, find]
      split
      · rename_i hfront
        simp [hfront]
      · rename_i hfront
        rw [Option.map_eq_none_iff, ih]
        simp [hfront]

/-- What has no first character of the marker is passed over. -/
theorem find_append_of_not_mem {opening : α} {text : List α} (h : opening ∉ text) (tail rest : List α) :
    find (opening :: tail) (text ++ rest) = (find (opening :: tail) rest).map (· + text.length) := by
  induction text with
  | nil => rw [List.nil_append, List.length_nil]; exact Option.map_id'.symm
  | cons c text ih =>
      rw [List.mem_cons, not_or] at h
      rw [List.cons_append, find_cons fun hfront => h.1 (List.cons_prefix_cons.mp hfront).1, ih h.2,
        Option.map_map]
      rfl

/-- No marker, nothing to replace. -/
theorem replaceAll_of_find_none {text : List α} (h : find marker text = none) :
    replaceAll marker replacement text = text := by
  induction text with
  | nil => rfl
  | cons c rest ih =>
      by_cases hfront : marker <+: c :: rest
      · rw [find, if_pos hfront] at h
        exact absurd h (by simp)
      · rw [find_cons hfront, Option.map_eq_none_iff] at h
        rw [replaceAll_cons hfront, ih h]

/-- The first marker is replaced, then those behind it. -/
theorem replaceAll_of_find_some {text : List α} {i : Nat} (hne : marker ≠ []) (h : find marker text = some i)
    (replacement : List α) :
    text.take i ++ marker ++ text.drop (i + marker.length) = text ∧
      replaceAll marker replacement text =
        text.take i ++ replacement ++ replaceAll marker replacement (text.drop (i + marker.length)) := by
  induction text generalizing i with
  | nil => rw [find, if_neg hne] at h; exact absurd h (by simp)
  | cons c rest ih =>
      by_cases hfront : marker <+: c :: rest
      · rw [find, if_pos hfront] at h
        obtain rfl := Option.some.inj h
        obtain ⟨behind, hbehind⟩ := hfront
        rw [← hbehind, replaceAll_marker hne, List.take_zero, Nat.zero_add, List.drop_left, List.nil_append,
          List.nil_append]
        exact ⟨rfl, rfl⟩
      · rw [find_cons hfront] at h
        obtain ⟨j, hj, rfl⟩ := Option.map_eq_some_iff.mp h
        obtain ⟨htext, hreplace⟩ := ih hj
        rw [replaceAll_cons hfront, hreplace, List.take_succ_cons, Nat.add_right_comm, List.drop_succ_cons]
        exact ⟨by rw [List.cons_append, List.cons_append, htext], rfl⟩

/-- **The loop ends, and replaces every marker behind its position**, when it may run once for each element. -/
theorem replaceLoop_eq (hne : marker ≠ []) {fuel : Nat} (done rest : List α) (hfuel : rest.length < fuel) :
    replaceLoop marker replacement fuel (done ++ rest) done.length =
      done ++ replaceAll marker replacement rest := by
  induction fuel generalizing done rest with
  | zero => exact absurd hfuel (Nat.not_lt_zero _)
  | succ fuel ih =>
      rw [replaceLoop, List.drop_left]
      cases hfind : find marker rest with
      | none => rw [replaceAll_of_find_none hfind]
      | some i =>
          obtain ⟨htext, hreplace⟩ := replaceAll_of_find_some hne hfind replacement
          have hlength := congrArg List.length htext
          rw [List.length_append, List.length_append, List.length_take, List.length_drop] at hlength
          have hmarker := List.length_pos_iff.mpr hne
          have htaken : (done ++ rest).take (done.length + i) = done ++ rest.take i :=
            List.take_length_add_append i
          have hdropped : (done ++ rest).drop (done.length + i + marker.length) =
              rest.drop (i + marker.length) := by
            rw [Nat.add_assoc, List.drop_length_add_append]
          have hpos : (done ++ rest.take i ++ replacement).length =
              done.length + i + replacement.length := by
            rw [List.length_append, List.length_append, List.length_take]
            omega
          have hshort : (rest.drop (i + marker.length)).length < fuel := by
            rw [List.length_drop]
            omega
          dsimp only
          rw [htaken, hdropped, ← hpos, ih _ _ hshort, hreplace]
          simp only [List.append_assoc]

end Loop

/-! ## Templates -/

/-- A part of a template. -/
inductive Piece (α K : Type) where
  | text (s : List α)
  | hole (k : K)
deriving DecidableEq

variable {K : Type}

namespace Piece

/-- How the piece is written, a hole as its marker. -/
def write (marker : K → List α) : Piece α K → List α
  | .text s => s
  | .hole k => marker k

/-- The hole `k` filled with a text. -/
def fill [DecidableEq K] (k : K) (r : List α) : Piece α K → Piece α K
  | .text s => .text s
  | .hole j => if j = k then .text r else .hole j

end Piece

def render (marker : K → List α) (pieces : List (Piece α K)) : List α := pieces.flatMap (Piece.write marker)

@[simp] theorem render_cons (marker : K → List α) (piece : Piece α K) (pieces : List (Piece α K)) :
    render marker (piece :: pieces) = piece.write marker ++ render marker pieces := List.flatMap_cons

/-- **Markers that are told apart**: each opens with the same character, which it does not have again, and
    none is the beginning of another. -/
structure Markers (opening : α) (marker : K → List α) : Prop where
  opens : ∀ k, ∃ tail, marker k = opening :: tail ∧ opening ∉ tail
  apart : ∀ j k, j ≠ k → ¬ marker j <+: marker k

/-- No text has the character that opens a marker. -/
def Plain (opening : α) (pieces : List (Piece α K)) : Prop := ∀ s, .text s ∈ pieces → opening ∉ s

variable {opening : α} {marker : K → List α} {pieces : List (Piece α K)}

theorem Markers.ne_nil (h : Markers opening marker) (k : K) : marker k ≠ [] := by
  obtain ⟨tail, heq, _⟩ := h.opens k
  rw [heq]
  exact List.cons_ne_nil _ _

/-- No marker begins with another character. -/
theorem Markers.not_prefix (h : Markers opening marker) (k : K) {c : α} (hc : opening ≠ c) (rest : List α) :
    ¬ marker k <+: c :: rest := by
  obtain ⟨tail, heq, _⟩ := h.opens k
  rw [heq]
  exact fun hfront => hc (List.cons_prefix_cons.mp hfront).1

/-- Nor is it found where another marker is. -/
theorem Markers.not_prefix_marker (h : Markers opening marker) {j k : K} (hne : j ≠ k) (rest : List α) :
    ¬ marker k <+: marker j ++ rest := by
  intro hfront
  rcases List.prefix_or_prefix_of_prefix hfront (List.prefix_append (marker j) rest) with hkj | hjk
  · exact h.apart k j hne.symm hkj
  · exact h.apart j k hne hjk

/-- Filling a hole with what has no opening character leaves no text with it. -/
theorem Plain.fill [DecidableEq K] (hplain : Plain opening pieces) (k : K) {replacement : List α}
    (hreplacement : opening ∉ replacement) : Plain opening (pieces.map (Piece.fill k replacement)) := by
  intro s hs
  obtain ⟨piece, hpiece, heq⟩ := List.mem_map.mp hs
  cases piece with
  | text t =>
      rw [Piece.fill, Piece.text.injEq] at heq
      exact heq ▸ hplain t hpiece
  | hole j =>
      rw [Piece.fill] at heq
      split at heq
      · rw [Piece.text.injEq] at heq
        exact heq ▸ hreplacement
      · exact absurd heq (by simp)

/-- The other holes stay. -/
theorem hole_mem_map_fill [DecidableEq K] {j k : K} {replacement : List α} :
    Piece.hole j ∈ pieces.map (Piece.fill k replacement) ↔ Piece.hole j ∈ pieces ∧ j ≠ k := by
  rw [List.mem_map]
  constructor
  · rintro ⟨piece, hpiece, heq⟩
    cases piece with
    | text s => exact absurd heq (by simp [Piece.fill])
    | hole i =>
        rw [Piece.fill] at heq
        split at heq
        · exact absurd heq (by simp)
        · rename_i hne
          rw [Piece.hole.injEq] at heq
          exact heq ▸ ⟨hpiece, hne⟩
  · rintro ⟨hmem, hne⟩
    exact ⟨_, hmem, by rw [Piece.fill, if_neg hne]⟩

/-- A hole that is not there is not filled. -/
theorem map_fill_of_not_mem [DecidableEq K] {k : K} (h : Piece.hole k ∉ pieces) (replacement : List α) :
    pieces.map (Piece.fill k replacement) = pieces := by
  refine (List.map_congr_left fun piece hpiece => ?_).trans (List.map_id pieces)
  cases piece with
  | text s => rfl
  | hole j =>
      have hne : j ≠ k := by
        rintro rfl
        exact h hpiece
      exact if_neg hne

variable [DecidableEq α] {replacement : List α}

theorem Markers.replaceAll_text (h : Markers opening marker) (k : K) {s : List α} (hs : opening ∉ s)
    (rest : List α) :
    replaceAll (marker k) replacement (s ++ rest) = s ++ replaceAll (marker k) replacement rest := by
  induction s with
  | nil => rfl
  | cons c s ih =>
      rw [List.mem_cons, not_or] at hs
      rw [List.cons_append, replaceAll_cons (h.not_prefix k hs.1 _), ih hs.2, List.cons_append]

theorem Markers.replaceAll_other (h : Markers opening marker) {j k : K} (hne : j ≠ k) (rest : List α) :
    replaceAll (marker k) replacement (marker j ++ rest) =
      marker j ++ replaceAll (marker k) replacement rest := by
  have hother := h.not_prefix_marker hne rest
  obtain ⟨tail, heq, htail⟩ := h.opens j
  rw [heq, List.cons_append] at hother ⊢
  rw [replaceAll_cons hother, h.replaceAll_text k htail, List.cons_append]

/-- **One marker after the other**: replacing the marker of a hole fills the hole, and leaves a template. -/
theorem replaceAll_render [DecidableEq K] (h : Markers opening marker) (hplain : Plain opening pieces) (k : K)
    (replacement : List α) : replaceAll (marker k) replacement (render marker pieces) =
      render marker (pieces.map (Piece.fill k replacement)) := by
  induction pieces with
  | nil => rfl
  | cons piece pieces ih =>
      have hrest : Plain opening pieces := fun s hs => hplain s (List.mem_cons_of_mem _ hs)
      rw [render_cons, List.map_cons, render_cons, ← ih hrest]
      cases piece with
      | text s => exact h.replaceAll_text k (hplain s List.mem_cons_self) _
      | hole j =>
          rw [Piece.write, Piece.fill]
          by_cases hj : j = k
          · rw [if_pos hj, hj, replaceAll_marker (h.ne_nil k), Piece.write]
          · rw [if_neg hj, h.replaceAll_other hj, Piece.write]

theorem Markers.find_text (h : Markers opening marker) (k : K) {s : List α} (hs : opening ∉ s)
    (rest : List α) : find (marker k) (s ++ rest) = none ↔ find (marker k) rest = none := by
  obtain ⟨tail, heq, _⟩ := h.opens k
  rw [heq, find_append_of_not_mem hs _, Option.map_eq_none_iff]

/-- A marker is found exactly when the template has its hole. -/
theorem find_render [DecidableEq K] (h : Markers opening marker) (hplain : Plain opening pieces) (k : K) :
    find (marker k) (render marker pieces) = none ↔ Piece.hole k ∉ pieces := by
  induction pieces with
  | nil => simp [render, find, h.ne_nil k]
  | cons piece pieces ih =>
      have hrest : Plain opening pieces := fun s hs => hplain s (List.mem_cons_of_mem _ hs)
      rw [render_cons]
      cases piece with
      | text s =>
          rw [Piece.write, h.find_text k (hplain s List.mem_cons_self), ih hrest]
          simp
      | hole j =>
          rw [Piece.write]
          by_cases hj : j = k
          · rw [hj, find_marker (h.ne_nil k)]
            simp
          · have hother := h.not_prefix_marker hj (render marker pieces)
            obtain ⟨tail, heq, htail⟩ := h.opens j
            rw [heq, List.cons_append] at hother ⊢
            rw [find_cons hother, Option.map_eq_none_iff, h.find_text k htail, ih hrest]
            simp [Ne.symm hj]

end Substitute
