import DeskServer.Transmission.Connections

/-!
# `Transmission.Watchdog` — the activity map and the sweep over it

The activity map has an entry for each authenticated handle and for no other (`Watched`). The sweep
releases the inactive ones one after the other; whether a release names its user depends on the handles
that are still there at that moment, so of several handles of one user only the last one does.

**Shape.** The loop is written twice: as the releases it makes (`releaseAll`) and as the calls it makes on the
way (`timeoutCalls`). Both are inductions on the handles; the second needs to know which handles of a user are
still to come (`timeoutCalls_kept`, `timeoutCalls_lost`). How often the sweep runs is left to the run.
-/

namespace DeskServer
namespace TransmissionManager

variable {s s' : TransmissionManager} {hdl k : ConnectionHdl} {u : Bytes} {now : Int}
  {expired : ConnectionHdl → Bool}

/-- The activity map has an entry exactly for the authenticated handles. -/
def Watched (s : TransmissionManager) : Prop :=
  ∀ hdl : ConnectionHdl, (s.wsHdlLastActiveTimeMap[hdl]?).isSome = (s.wsHdlUserIdList[hdl]?).isSome

/-! ## What the operations do to the activity map -/

/-- A touch of `k` at `now`. -/
theorem updateWsHandleLastActiveTime_activity (s : TransmissionManager) (now : Int)
    (k hdl : ConnectionHdl) :
    (s.updateWsHandleLastActiveTime now k).tm.wsHdlLastActiveTimeMap[hdl]?
      = if k = hdl ∧ (s.wsHdlUserIdList[k]?).isSome = true then some now
        else s.wsHdlLastActiveTimeMap[hdl]? := by
  unfold updateWsHandleLastActiveTime
  rw [Std.ExtTreeMap.contains_eq_isSome_getElem?]
  split
  · rename_i hauth
    rw [Std.ExtTreeMap.getElem?_insert_eq]
    simp only [hauth, and_true]
  · rename_i hauth
    rw [if_neg fun h => hauth h.2]

/-- **A late heartbeat revives nothing.** -/
theorem updateWsHandleLastActiveTime_released (h : s.wsHdlUserIdList[hdl]? = none) (now : Int) :
    s.updateWsHandleLastActiveTime now hdl = ⟨-1, s, []⟩ := by
  unfold updateWsHandleLastActiveTime
  rw [Std.ExtTreeMap.contains_eq_isSome_getElem?, h]
  rfl

theorem bindUserToWsHandle_activity (s : TransmissionManager) (now : Int) (u : Bytes)
    (k hdl : ConnectionHdl) :
    (s.bindUserToWsHandle now u k).tm.wsHdlLastActiveTimeMap[hdl]?
      = if k = hdl then some now else s.wsHdlLastActiveTimeMap[hdl]? := by
  unfold bindUserToWsHandle
  simp only [updateWsHandleLastActiveTime_activity, Std.ExtTreeMap.getElem?_insert_self,
    Option.isSome_some, and_true]

theorem bindHostToTransmission_activity (s : TransmissionManager) (host t : Bytes) :
    (s.bindHostToTransmission host t).tm.wsHdlLastActiveTimeMap = s.wsHdlLastActiveTimeMap := by
  unfold bindHostToTransmission
  split <;> rfl

theorem bindGuestToTransmission_activity (s : TransmissionManager) (g t : Bytes) :
    (s.bindGuestToTransmission g t).tm.wsHdlLastActiveTimeMap = s.wsHdlLastActiveTimeMap := by
  rcases bindGuestToTransmission_cases s g t with ⟨hsame, _⟩ | ⟨_, _, _, _, hout⟩
  · rw [hsame]
  · rw [hout]

theorem disconnectTransmission_activity (s : TransmissionManager) (t : Bytes) :
    (s.disconnectTransmission t).tm.wsHdlLastActiveTimeMap = s.wsHdlLastActiveTimeMap := by
  unfold disconnectTransmission
  split <;> rfl

/-- Induction on the transmissions still to release. -/
theorem foldl_pruneStep_activity (ts : List Bytes) (acc : Outcome Nat) :
    (ts.foldl pruneStep acc).tm.wsHdlLastActiveTimeMap = acc.tm.wsHdlLastActiveTimeMap := by
  induction ts generalizing acc with
  | nil => rfl
  | cons t ts ih => exact ih (pruneStep acc t)

theorem pruneDisconnectedTransmissions_activity (s : TransmissionManager) :
    s.pruneDisconnectedTransmissions.tm.wsHdlLastActiveTimeMap = s.wsHdlLastActiveTimeMap :=
  foldl_pruneStep_activity _ (⟨0, s, []⟩ : Outcome Nat)

theorem releaseUserFromWsHandle_activity (s : TransmissionManager) (hdl : ConnectionHdl) :
    (s.releaseUserFromWsHandle hdl).tm.wsHdlLastActiveTimeMap
      = s.wsHdlLastActiveTimeMap.erase hdl := by
  unfold releaseUserFromWsHandle
  cases s.wsHdlUserIdList[hdl]? <;> rfl

theorem releaseUserSession_activity (s : TransmissionManager) (hdl : ConnectionHdl) :
    (s.releaseUserSession hdl).tm.wsHdlLastActiveTimeMap = s.wsHdlLastActiveTimeMap.erase hdl := by
  rw [← releaseUserFromWsHandle_activity]
  simp only [releaseUserSession]
  split
  · rfl
  · split
    · rfl
    · split <;> rfl

theorem expireSession_activity (s : TransmissionManager) (hdl k : ConnectionHdl) :
    (s.expireSession hdl).tm.wsHdlLastActiveTimeMap[k]?
      = if hdl = k then none else s.wsHdlLastActiveTimeMap[k]? := by
  rw [expireSession, releaseUserSession_activity, Std.ExtTreeMap.getElem?_erase_eq]
  simp only [removeWsHandleLastActiveTime, Std.ExtTreeMap.getElem?_erase_eq]
  split <;> rfl

theorem expireSession_users (s : TransmissionManager) (hdl k : ConnectionHdl) :
    (s.expireSession hdl).tm.wsHdlUserIdList[k]?
      = if hdl = k then none else s.wsHdlUserIdList[k]? := by
  rw [expireSession, releaseUserSession_users, Std.ExtTreeMap.getElem?_erase_eq]
  rfl

/-- The release names the user whose last handle this was. -/
theorem expireSession_ret (hu : u ≠ []) :
    (s.expireSession hdl).ret = u ↔
      s.Authenticated hdl u ∧ ∀ k, ¬ (s.expireSession hdl).tm.Authenticated k u :=
  releaseUserSession_ret (s := s.removeWsHandleLastActiveTime hdl) hdl hu

/-- Whoever else spoke for somebody still does. -/
theorem expireSession_authenticated_iff :
    (s.expireSession hdl).tm.Authenticated k u ↔ hdl ≠ k ∧ s.Authenticated k u := by
  rw [Authenticated, expireSession_users]
  split
  · rename_i heq
    exact ⟨fun h => absurd h (by simp), fun h => absurd heq h.1⟩
  · rename_i hne
    exact ⟨fun h => ⟨hne, h⟩, fun h => h.2⟩

/-! ## The sweep -/

/-- The handles the sweep condemns. -/
def inactive (s : TransmissionManager) (now : Int) (expired : ConnectionHdl → Bool) :
    List ConnectionHdl :=
  (s.wsHdlLastActiveTimeMap.toList.filter fun entry => isInactive now expired entry).map Prod.fst

/-- The tables after the handles were released one after the other. -/
def releaseAll (s : TransmissionManager) (hdls : List ConnectionHdl) : TransmissionManager :=
  hdls.foldl (fun s hdl => (s.expireSession hdl).tm) s

/-- The calls of the timeout callback on the way. -/
def timeoutCalls : TransmissionManager → List ConnectionHdl → List (ConnectionHdl × Bytes)
  | _, [] => []
  | s, hdl :: hdls =>
    (hdl, (s.expireSession hdl).ret) :: timeoutCalls (s.expireSession hdl).tm hdls

/-- A timeout callback that writes down what it is called with. -/
def recordCall (released : Outcome Bytes) (hdl : ConnectionHdl) (calls : List (ConnectionHdl × Bytes)) :
    List (ConnectionHdl × Bytes) := calls ++ [(hdl, released.ret)]

/-- Induction on the entries still to visit: whatever the callback does, the handles go. -/
theorem foldl_expireStep_fst {σ : Type} (notify : Outcome Bytes → ConnectionHdl → σ → σ)
    (l : List (ConnectionHdl × Int)) (s : TransmissionManager) (rest : σ) :
    (l.foldl (expireStep now expired notify) (s, rest)).1
      = s.releaseAll ((l.filter fun entry => isInactive now expired entry).map Prod.fst) := by
  induction l generalizing s rest with
  | nil => rfl
  | cons entry l ih =>
      rw [List.foldl_cons, List.filter_cons, expireStep]
      split
      · exact ih _ _
      · exact ih _ _

theorem expireInactiveSessions_fst {σ : Type} (notify : Outcome Bytes → ConnectionHdl → σ → σ)
    (s : TransmissionManager) (rest : σ) :
    (s.expireInactiveSessions now expired notify rest).1 = s.releaseAll (s.inactive now expired) :=
  foldl_expireStep_fst notify _ s rest

/-- The same for what the callback is told. -/
theorem foldl_expireStep_calls (l : List (ConnectionHdl × Int)) (s : TransmissionManager)
    (calls : List (ConnectionHdl × Bytes)) :
    (l.foldl (expireStep now expired recordCall) (s, calls)).2
      = calls ++ s.timeoutCalls ((l.filter fun entry => isInactive now expired entry).map Prod.fst) := by
  induction l generalizing s calls with
  | nil => exact (List.append_nil calls).symm
  | cons entry l ih =>
      rw [List.foldl_cons, List.filter_cons, expireStep]
      split
      · rw [ih, recordCall, List.append_assoc]
        rfl
      · exact ih _ _

theorem expireInactiveSessions_calls (s : TransmissionManager) :
    (s.expireInactiveSessions now expired recordCall []).2
      = s.timeoutCalls (s.inactive now expired) := by
  rw [expireInactiveSessions, foldl_expireStep_calls, List.nil_append]
  rfl

theorem timeoutCalls_map_fst (hdls : List ConnectionHdl) (s : TransmissionManager) :
    (s.timeoutCalls hdls).map Prod.fst = hdls := by
  induction hdls generalizing s with
  | nil => rfl
  | cons hdl hdls ih => rw [timeoutCalls, List.map_cons, ih]

/-- What one release takes from the entry of `k`, all of them take. Induction on the handles. -/
theorem releaseAll_entry {α : Type} {f : TransmissionManager → Option α} {k : ConnectionHdl}
    (hf : ∀ s hdl, f (s.expireSession hdl).tm = if hdl = k then none else f s)
    (hdls : List ConnectionHdl) (s : TransmissionManager) :
    f (s.releaseAll hdls) = if k ∈ hdls then none else f s := by
  induction hdls generalizing s with
  | nil => rw [if_neg List.not_mem_nil]; rfl
  | cons hdl hdls ih =>
      show f ((s.expireSession hdl).tm.releaseAll hdls) = _
      rw [ih, hf]
      by_cases hin : k ∈ hdls
      · rw [if_pos hin, if_pos (List.mem_cons_of_mem hdl hin)]
      · by_cases heq : hdl = k
        · rw [if_neg hin, if_pos heq, if_pos (heq ▸ List.mem_cons_self)]
        · rw [if_neg hin, if_neg heq, if_neg]
          exact fun h => (List.mem_cons.mp h).elim (fun h => heq h.symm) hin

theorem releaseAll_users (hdls : List ConnectionHdl) (s : TransmissionManager) (k : ConnectionHdl) :
    (s.releaseAll hdls).wsHdlUserIdList[k]? = if k ∈ hdls then none else s.wsHdlUserIdList[k]? :=
  releaseAll_entry (f := fun s => s.wsHdlUserIdList[k]?) (fun s hdl => expireSession_users s hdl k) hdls s

theorem releaseAll_activity (hdls : List ConnectionHdl) (s : TransmissionManager) (k : ConnectionHdl) :
    (s.releaseAll hdls).wsHdlLastActiveTimeMap[k]?
      = if k ∈ hdls then none else s.wsHdlLastActiveTimeMap[k]? :=
  releaseAll_entry (f := fun s => s.wsHdlLastActiveTimeMap[k]?) (fun s hdl => expireSession_activity s hdl k)
    hdls s

theorem releaseAll_authenticated {hdls : List ConnectionHdl}
    (h : (s.releaseAll hdls).Authenticated k u) : s.Authenticated k u := by
  rw [Authenticated, releaseAll_users] at h
  split at h
  · exact absurd h (by simp)
  · exact h

/-- A call that names somebody names the user of its handle. -/
theorem timeoutCalls_owner (hdls : List ConnectionHdl) (s : TransmissionManager)
    {call : ConnectionHdl × Bytes} (hcall : call ∈ s.timeoutCalls hdls) (hne : call.2 ≠ []) :
    s.Authenticated call.1 call.2 := by
  induction hdls generalizing s with
  | nil => exact absurd hcall List.not_mem_nil
  | cons hdl hdls ih =>
      rw [timeoutCalls] at hcall
      rcases List.mem_cons.mp hcall with rfl | hlater
      · exact ((expireSession_ret hne).mp rfl).1
      · exact (expireSession_authenticated_iff.mp (ih _ hlater)).2

/-- A user that has no handle is not named. -/
theorem timeoutCalls_absent {hdls : List ConnectionHdl} (hu : u ≠ [])
    (hnone : ∀ k, ¬ s.Authenticated k u) : (s.timeoutCalls hdls).countP (fun call => call.2 = u) = 0 := by
  rw [List.countP_eq_zero]
  intro call hcall hname
  have hname : call.2 = u := of_decide_eq_true hname
  have hauth := timeoutCalls_owner hdls s hcall (by rw [hname]; exact hu)
  exact hnone call.1 (hname ▸ hauth)

/-- A user that keeps a handle is not named. -/
theorem timeoutCalls_kept (hdls : List ConnectionHdl) (s : TransmissionManager) (hu : u ≠ [])
    (hkept : (s.releaseAll hdls).Authenticated k u) :
    (s.timeoutCalls hdls).countP (fun call => call.2 = u) = 0 := by
  induction hdls generalizing s with
  | nil => rfl
  | cons hdl hdls ih =>
      rw [timeoutCalls, List.countP_cons, ih _ hkept]
      have hname : (s.expireSession hdl).ret ≠ u := by
        intro heq
        exact ((expireSession_ret hu).mp heq).2 k (releaseAll_authenticated hkept)
      simp only [hname, decide_false, Bool.false_eq_true, if_false]

/-- **A user that loses its last handle is named once**, by the last of its handles to go. -/
theorem timeoutCalls_lost (hdls : List ConnectionHdl) (s : TransmissionManager) (hu : u ≠ [])
    (hauth : s.Authenticated k u) (hlost : ∀ k, ¬ (s.releaseAll hdls).Authenticated k u) :
    (s.timeoutCalls hdls).countP (fun call => call.2 = u) = 1 := by
  induction hdls generalizing s k with
  | nil => exact absurd hauth (hlost k)
  | cons hdl hdls ih =>
      rw [timeoutCalls, List.countP_cons]
      by_cases hname : (s.expireSession hdl).ret = u
      · have hnone := ((expireSession_ret hu).mp hname).2
        rw [timeoutCalls_absent hu hnone]
        simp only [hname, decide_true, if_true]
      · -- another handle of the user is left
        obtain ⟨k', hk'⟩ : ∃ k', (s.expireSession hdl).tm.Authenticated k' u := by
          by_cases heq : hdl = k
          · by_contra hno
            exact hname ((expireSession_ret hu).mpr ⟨heq ▸ hauth, fun k' hk' => hno ⟨k', hk'⟩⟩)
          · exact ⟨k, expireSession_authenticated_iff.mpr ⟨heq, hauth⟩⟩
        rw [ih _ hk' hlost]
        simp only [hname, decide_false, Bool.false_eq_true, if_false]

/-- A handle the sweep has to release: authenticated, and expired or idle for more than ten seconds. -/
def Overdue (s : TransmissionManager) (now : Int) (expired : ConnectionHdl → Bool)
    (hdl : ConnectionHdl) : Prop :=
  (∃ u, s.Authenticated hdl u) ∧
    (hdl = 0 ∨ expired hdl = true ∨
      ∃ time : Int, s.wsHdlLastActiveTimeMap[hdl]? = some time ∧ now - time > inactivityLimit)

/-- **What a sweep owes**, with the calls of the timeout callback. -/
structure SweepExact (s : TransmissionManager) (now : Int) (expired : ConnectionHdl → Bool)
    (swept : TransmissionManager) (calls : List (ConnectionHdl × Bytes)) : Prop where
  /-- One call for each handle that is overdue, and no other. -/
  once : (calls.map Prod.fst).Nodup
  overdue : ∀ hdl, hdl ∈ calls.map Prod.fst ↔ s.Overdue now expired hdl
  /-- These are released, the others are left as they are. -/
  users : ∀ hdl : ConnectionHdl, swept.wsHdlUserIdList[hdl]?
    = if hdl ∈ calls.map Prod.fst then none else s.wsHdlUserIdList[hdl]?
  activity : ∀ hdl : ConnectionHdl, swept.wsHdlLastActiveTimeMap[hdl]?
    = if hdl ∈ calls.map Prod.fst then none else s.wsHdlLastActiveTimeMap[hdl]?
  /-- A user that lost its last handle is named by one of its own; nobody else is. -/
  owner : ∀ call ∈ calls, call.2 ≠ [] → s.Authenticated call.1 call.2
  lost : ∀ u, u ≠ [] → (∃ hdl, s.Authenticated hdl u) → (∀ hdl, ¬ swept.Authenticated hdl u) →
    calls.countP (fun call => call.2 = u) = 1
  kept : ∀ u, u ≠ [] → ¬ ((∃ hdl, s.Authenticated hdl u) ∧ ∀ hdl, ¬ swept.Authenticated hdl u) →
    calls.countP (fun call => call.2 = u) = 0

theorem mem_inactive (hw : s.Watched) : hdl ∈ s.inactive now expired ↔ s.Overdue now expired hdl := by
  unfold inactive Overdue
  rw [List.mem_map]
  constructor
  · rintro ⟨entry, hentry, rfl⟩
    obtain ⟨hmem, hin⟩ := List.mem_filter.mp hentry
    have htime := Std.ExtTreeMap.mem_toList.mp hmem
    have hauth := hw entry.1
    rw [htime, Option.isSome_some] at hauth
    refine ⟨Option.isSome_iff_exists.mp hauth.symm, ?_⟩
    simp only [isInactive, Bool.or_eq_true, beq_iff_eq, decide_eq_true_eq] at hin
    rcases hin with (hzero | hexp) | hidle
    · exact .inl hzero
    · exact .inr (.inl hexp)
    · exact .inr (.inr ⟨entry.2, htime, hidle⟩)
  · rintro ⟨⟨u, hauth⟩, hover⟩
    have hsome := hw hdl
    rw [show s.wsHdlUserIdList[hdl]? = some u from hauth, Option.isSome_some] at hsome
    obtain ⟨time, htime⟩ := Option.isSome_iff_exists.mp hsome
    refine ⟨(hdl, time), List.mem_filter.mpr ⟨Std.ExtTreeMap.mem_toList.mpr htime, ?_⟩, rfl⟩
    simp only [isInactive, Bool.or_eq_true, beq_iff_eq, decide_eq_true_eq]
    rcases hover with hzero | hexp | ⟨time', htime', hidle⟩
    · exact .inl (.inl hzero)
    · exact .inl (.inr hexp)
    · rw [htime] at htime'
      exact .inr (Option.some.inj htime' ▸ hidle)

/-- **The sweep is exact.** -/
theorem expireInactiveSessions_exact (hw : s.Watched) (now : Int) (expired : ConnectionHdl → Bool) :
    SweepExact s now expired (s.expireInactiveSessions now expired recordCall []).1
      (s.expireInactiveSessions now expired recordCall []).2 := by
  rw [expireInactiveSessions_fst, expireInactiveSessions_calls]
  refine ⟨?_, ?_, ?_, ?_, fun call => timeoutCalls_owner _ s, ?_, ?_⟩
  · rw [timeoutCalls_map_fst]
    exact (Std.ExtTreeMap.nodup_toList_keys _).sublist (List.filter_sublist.map Prod.fst)
  · intro hdl
    rw [timeoutCalls_map_fst, mem_inactive hw]
  · intro hdl
    rw [timeoutCalls_map_fst, releaseAll_users]
  · intro hdl
    rw [timeoutCalls_map_fst, releaseAll_activity]
  · rintro u hu ⟨hdl, hauth⟩ hlost
    exact timeoutCalls_lost _ s hu hauth hlost
  · intro u hu hnot
    by_cases hauth : ∃ hdl, s.Authenticated hdl u
    · obtain ⟨k, hkept⟩ : ∃ k, (s.releaseAll (s.inactive now expired)).Authenticated k u := by
        by_contra hno
        exact hnot ⟨hauth, fun k hk => hno ⟨k, hk⟩⟩
      exact timeoutCalls_kept _ s hu hkept
    · exact timeoutCalls_absent hu fun k hk => hauth ⟨k, hk⟩

end TransmissionManager
end DeskServer
