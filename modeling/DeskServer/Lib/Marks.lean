import DeskServer.Lib.TreeMap

/-!
# `Lib.Marks` — a mark for every unfinished job

A queue that takes at most one job a key at a time keeps a map of marks beside it: the key of every
unfinished job, with the stamp of that job. `Marks.Owned` says that the two agree; it depends on the
unfinished jobs only as a set, so moving a job around keeps it, and it is changed by the two operations
that start and finish a job.

Nothing here is about any particular program.
-/

namespace Marks

variable {κ τ J : Type} [Ord κ] [Std.TransOrd κ]

/-- **Every mark belongs to exactly one unfinished job, and every unfinished job has its mark.** -/
structure Owned (key : J → κ) (stamp : J → τ) (marks : Std.ExtTreeMap κ τ) (jobs : List J) : Prop where
  distinct : (jobs.map key).Nodup
  mark_iff : ∀ k t, marks[k]? = some t ↔ ∃ j ∈ jobs, key j = k ∧ stamp j = t

variable {key : J → κ} {stamp : J → τ} {marks : Std.ExtTreeMap κ τ} {jobs jobs' : List J} {j : J}

theorem Owned.empty : Owned key stamp ∅ ([] : List J) :=
  ⟨List.nodup_nil, fun k t => by simp⟩

/-- The mark of an unfinished job. -/
theorem Owned.marked (h : Owned key stamp marks jobs) (hj : j ∈ jobs) :
    marks[key j]? = some (stamp j) := (h.mark_iff _ _).mpr ⟨j, hj, rfl, rfl⟩

/-- A key without a mark has no unfinished job. -/
theorem Owned.not_mem (h : Owned key stamp marks jobs) {k : κ} (hk : marks[k]? = none) (hj : j ∈ jobs) :
    key j ≠ k := by
  rintro rfl
  rw [h.marked hj] at hk
  exact absurd hk (by simp)

/-- A mark has its job. -/
theorem Owned.exists_job (h : Owned key stamp marks jobs) {k : κ} (hk : marks[k]? ≠ none) :
    ∃ j ∈ jobs, key j = k := by
  obtain ⟨t, ht⟩ := Option.ne_none_iff_exists'.mp hk
  obtain ⟨j, hj, hkey, _⟩ := (h.mark_iff k t).mp ht
  exact ⟨j, hj, hkey⟩

/-- **Exactly one job**, with the stamp of the mark. -/
theorem Owned.exactly_one [DecidableEq κ] (h : Owned key stamp marks jobs) {k : κ} {t : τ}
    (hk : marks[k]? = some t) : ∃ j, jobs.filter (fun j => key j = k) = [j] ∧ stamp j = t := by
  obtain ⟨j, hj, rfl, rfl⟩ := (h.mark_iff k t).mp hk
  refine ⟨j, ?_, rfl⟩
  -- no other job has the key, before it or behind it
  obtain ⟨pre, post, rfl⟩ := List.append_of_mem hj
  have hd := h.distinct
  rw [List.map_append, List.map_cons, List.nodup_append', List.nodup_cons] at hd
  have hpre : pre.filter (fun x => key x = key j) = [] := by
    rw [List.filter_eq_nil_iff]
    intro x hx heq
    exact hd.2.2 (List.mem_map.mpr ⟨x, hx, of_decide_eq_true heq⟩) (by simp)
  have hpost : post.filter (fun x => key x = key j) = [] := by
    rw [List.filter_eq_nil_iff]
    intro x hx heq
    exact hd.2.1.1 (List.mem_map.mpr ⟨x, hx, of_decide_eq_true heq⟩)
  rw [List.filter_append, List.filter_cons_of_pos (by simp), hpre, hpost]
  rfl

/-- Moving the unfinished jobs around. -/
theorem Owned.perm (h : Owned key stamp marks jobs) (hp : jobs.Perm jobs') :
    Owned key stamp marks jobs' where
  distinct := (hp.map key).nodup_iff.mp h.distinct
  mark_iff := by
    intro k t
    rw [h.mark_iff]
    constructor
    · rintro ⟨j, hj, hk⟩
      exact ⟨j, hp.mem_iff.mp hj, hk⟩
    · rintro ⟨j, hj, hk⟩
      exact ⟨j, hp.mem_iff.mpr hj, hk⟩

variable [Std.LawfulEqOrd κ] [DecidableEq κ]

/-- A new job sets its mark. -/
theorem Owned.start (h : Owned key stamp marks jobs) (hnew : marks[key j]? = none) :
    Owned key stamp (marks.insert (key j) (stamp j)) (j :: jobs) where
  distinct := by
    rw [List.map_cons, List.nodup_cons]
    refine ⟨fun hmem => ?_, h.distinct⟩
    obtain ⟨i, hi, hkey⟩ := List.mem_map.mp hmem
    exact h.not_mem hnew hi hkey
  mark_iff := by
    intro k t
    rw [Std.ExtTreeMap.getElem?_insert_eq]
    by_cases hk : key j = k
    · rw [if_pos hk]
      constructor
      · intro ht
        exact ⟨j, by simp, hk, Option.some.inj ht⟩
      · rintro ⟨i, hi, hkey, rfl⟩
        rcases List.mem_cons.mp hi with rfl | hi
        · rfl
        · exact absurd (hkey.trans hk.symm) (h.not_mem hnew hi)
    · rw [if_neg hk, h.mark_iff]
      constructor
      · rintro ⟨i, hi, hkey⟩
        exact ⟨i, by simp [hi], hkey⟩
      · rintro ⟨i, hi, hkey, ht⟩
        rcases List.mem_cons.mp hi with rfl | hi
        · exact absurd hkey hk
        · exact ⟨i, hi, hkey, ht⟩

/-- A finished job takes its mark away. -/
theorem Owned.finish (h : Owned key stamp marks (j :: jobs)) :
    Owned key stamp (marks.erase (key j)) jobs where
  distinct := (List.nodup_cons.mp h.distinct).2
  mark_iff := by
    intro k t
    have hj : ∀ i ∈ jobs, key i ≠ key j := by
      intro i hi heq
      have hd := h.distinct
      rw [List.map_cons, List.nodup_cons] at hd
      exact hd.1 (List.mem_map.mpr ⟨i, hi, heq⟩)
    rw [Std.ExtTreeMap.getElem?_erase_eq]
    by_cases hk : key j = k
    · rw [if_pos hk]
      constructor
      · intro ht
        exact absurd ht (by simp)
      · rintro ⟨i, hi, hkey, _⟩
        exact absurd (hkey.trans hk.symm) (hj i hi)
    · rw [if_neg hk, h.mark_iff]
      constructor
      · rintro ⟨i, hi, hkey, ht⟩
        rcases List.mem_cons.mp hi with rfl | hi
        · exact absurd hkey hk
        · exact ⟨i, hi, hkey, ht⟩
      · rintro ⟨i, hi, hkey⟩
        exact ⟨i, by simp [hi], hkey⟩

end Marks
