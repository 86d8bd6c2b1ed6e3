import DeskServer.Lib.Marks
import DeskServer.Lib.Run
import DeskServer.Server.GeoLookup

/-!
# `Server.LookupQueue` — the jobs and the marks of the lookup queue

The queue and the map of pending addresses are changed in separate sections, a failed job is put back
while its own mark is set, and a stop clears both under a running job. After every section the marks are
those of the unfinished jobs: the queued ones, and the one in flight while its mark has not been cleared
from under it.

**Shape.** `Accounted` says that marks and unfinished jobs are the same. What each section does to the two is
told apart once (`WorkCase`, `WorkEffect`), and an effect keeps the equality whatever section it belongs to.
Mutexes are not modelled; a section is a step, which is what they are for.
-/

namespace DeskServer

namespace GeoLookup

/-- The queued jobs, and the one in flight unless a stop has cleared its mark. -/
def unfinished (s : GeoLookup) : List GeoIpLookupJob :=
  s.networkInfoJobs ++ (if s.networkInfoStop then none else s.networkInfoWorker.inFlight).toList

/-- What every section keeps. -/
structure Accounted (s : GeoLookup) : Prop where
  owned : Marks.Owned GeoIpLookupJob.clientIp GeoIpLookupJob.runAt s.pendingIpLookupAt s.unfinished
  bounded : s.networkInfoJobs.length ≤ maxClientNetworkInfoJobs
  stopped : s.networkInfoStop = true → s.networkInfoJobs = []

theorem initial_accounted : initial.Accounted where
  owned := Marks.Owned.empty
  bounded := Nat.zero_le _
  stopped := fun h => absurd h (by decide)

variable {config : GeoIpConfig} {s : GeoLookup}

/-- Nothing marked is left when the server is stopped. -/
theorem Accounted.pending_eq_empty (hs : s.Accounted) (hstop : s.networkInfoStop = true) :
    s.pendingIpLookupAt = ∅ := by
  have howned := hs.owned
  rw [unfinished, if_pos hstop, hs.stopped hstop] at howned
  apply Std.ExtTreeMap.ext_getElem?
  intro k
  cases hk : s.pendingIpLookupAt[k]? with
  | none => rfl
  | some t =>
      obtain ⟨j, hj, _⟩ := (howned.mark_iff k t).mp hk
      exact absurd hj (by simp)

/-! ## What a step does to the queue -/

/-- Neither the queue, the marks nor the job in flight is touched. -/
structure SameQueue (s s' : GeoLookup) : Prop where
  jobs : s'.networkInfoJobs = s.networkInfoJobs
  pending : s'.pendingIpLookupAt = s.pendingIpLookupAt
  stop : s'.networkInfoStop = s.networkInfoStop
  inFlight : s'.networkInfoWorker.inFlight = s.networkInfoWorker.inFlight

theorem SameQueue.accounted {s' : GeoLookup} (h : SameQueue s s') (hs : s.Accounted) : s'.Accounted where
  owned := by
    rw [unfinished, h.jobs, h.pending, h.stop, h.inFlight]
    exact hs.owned
  bounded := by
    rw [h.jobs]
    exact hs.bounded
  stopped := by
    rw [h.jobs, h.stop]
    exact hs.stopped

/-- The job in flight is finished: its mark goes, and nothing is in flight. -/
structure Finishes (job : GeoIpLookupJob) (s s' : GeoLookup) : Prop where
  inFlight : s.networkInfoWorker.inFlight = some job
  jobs : s'.networkInfoJobs = s.networkInfoJobs
  pending : s'.pendingIpLookupAt = s.pendingIpLookupAt.erase job.clientIp
  stop : s'.networkInfoStop = s.networkInfoStop
  idle : s'.networkInfoWorker.inFlight = none

theorem Finishes.accounted {s' : GeoLookup} {job : GeoIpLookupJob} (h : Finishes job s s')
    (hs : s.Accounted) : s'.Accounted := by
  refine ⟨?_, by rw [h.jobs]; exact hs.bounded, by rw [h.jobs, h.stop]; exact hs.stopped⟩
  have howned := hs.owned
  rw [unfinished] at howned ⊢
  rw [h.jobs, h.pending, h.stop, h.idle]
  rw [h.inFlight] at howned
  by_cases hstop : s.networkInfoStop = true
  · -- a stop has cleared the mark before
    rw [if_pos hstop, hs.stopped hstop] at howned ⊢
    rw [hs.pending_eq_empty hstop, Std.ExtTreeMap.erase_empty]
    exact Marks.Owned.empty
  · rw [if_neg hstop] at howned ⊢
    have hfront := howned.perm (List.perm_append_comm : List.Perm (s.networkInfoJobs ++ [job]) _)
    rw [Option.toList_none, List.append_nil]
    exact hfront.finish

/-- A job is queued under an address without a mark, while nothing is in flight or something else is. -/
theorem accounted_pushJob (hs : s.Accounted) {clientIp : Bytes} (runAt : Int)
    (hstop : s.networkInfoStop = false) (hnew : s.pendingIpLookupAt[clientIp]? = none)
    (hroom : s.networkInfoJobs.length < maxClientNetworkInfoJobs) :
    (s.pushJob clientIp runAt).Accounted where
  owned := Marks.Owned.start (j := (⟨clientIp, runAt⟩ : GeoIpLookupJob)) hs.owned hnew
  bounded := by
    show s.networkInfoJobs.length + 1 ≤ _
    omega
  stopped := by
    intro h
    have hfalse : s.networkInfoStop = true := h
    rw [hstop] at hfalse
    exact absurd hfalse (by simp)

theorem enqueueGeoIpLookup_cases (clientIp : Bytes) (delay now : Int) :
    s.enqueueGeoIpLookup clientIp delay now = s ∨
      (clientIp ≠ [] ∧ s.networkInfoStop = false ∧ s.pendingIpLookupAt[clientIp]? = none ∧
        s.networkInfoJobs.length < maxClientNetworkInfoJobs ∧
        ∃ runAt, s.enqueueGeoIpLookup clientIp delay now = s.pushJob clientIp runAt) := by
  unfold enqueueGeoIpLookup
  by_cases hnil : clientIp = []
  · exact .inl (if_pos hnil)
  · rw [if_neg hnil]
    by_cases hstop : s.networkInfoStop = true
    · exact .inl (if_pos hstop)
    · rw [if_neg hstop]
      by_cases hpending : s.pendingIpLookupAt.contains clientIp = true
      · exact .inl (if_pos hpending)
      · rw [if_neg hpending]
        by_cases hfull : maxClientNetworkInfoJobs ≤ s.networkInfoJobs.length
        · exact .inl (if_pos hfull)
        · rw [if_neg hfull]
          refine .inr ⟨hnil, by simpa using hstop, ?_, by omega, _, rfl⟩
          rw [Std.ExtTreeMap.contains_eq_isSome_getElem?] at hpending
          simpa using hpending

theorem popJob_cases (job : GeoIpLookupJob) (now : Int) : s.popJob job now = s ∨
    (s.networkInfoWorker = .waiting ∧ s.networkInfoStop = false ∧ job ∈ s.networkInfoJobs ∧
      s.popJob job now = { s with
        networkInfoJobs := s.networkInfoJobs.erase job
        networkInfoWorker := .checking job }) := by
  unfold popJob
  cases hworker : s.networkInfoWorker with
  | waiting =>
      simp only
      split
      · rename_i hdue
        simp only [Bool.and_eq_true, decide_eq_true_eq, Bool.not_eq_true'] at hdue
        exact .inr ⟨trivial, hdue.1.1.1, hdue.1.1.2, rfl⟩
      · exact .inl rfl
  | _ => exact .inl rfl

/-- What the worker carries from a resolved lookup has a location. -/
def Located : LookupWorker → Prop
  | .retesting _ result => result.resolved = true → result.info.location ≠ []
  | .settling _ networkInfo | .publishing _ networkInfo => networkInfo.location ≠ []
  | _ => True

/-- A result counts as resolved only with a location. -/
theorem located_resolve (answer : GeoAnswer) (job : GeoIpLookupJob) :
    Located (.retesting job (resolveWithRetryInfo answer job.clientIp)) := by
  show (resolveWithRetryInfo answer job.clientIp).resolved = true →
    (resolveWithRetryInfo answer job.clientIp).info.location ≠ []
  intro hresolved hnil
  have hlocated : (!answer.info.location.isEmpty) = true := hresolved
  have hempty : answer.info.location = [] := hnil
  rw [hempty] at hlocated
  exact absurd hlocated (by simp)

/-- **What a step of the worker does.** -/
inductive WorkCase (s s' : GeoLookup) : Prop where
  /-- It goes on, with the job it has or without one. -/
  | moves (worker : LookupWorker) (counts : Std.ExtTreeMap Bytes Nat)
      (inFlight : worker.inFlight = s.networkInfoWorker.inFlight)
      (located : Located s.networkInfoWorker → Located worker)
      (result : s' = { s with geoIpFailureCounts := counts, networkInfoWorker := worker })
  /-- The job is left because its mark is gone. -/
  | stale (job : GeoIpLookupJob) (worker : s.networkInfoWorker = .checking job)
      (mark : s.pendingIpLookupAt[job.clientIp]? ≠ some job.runAt) (result : s' = s.goTo .waiting)
  | settles (job : GeoIpLookupJob) (networkInfo : ClientNetworkInfo)
      (worker : s.networkInfoWorker = .settling job networkInfo)
      (result : s' = (s.erasePending job.clientIp).goTo (.publishing job networkInfo))
  | publishes (job : GeoIpLookupJob) (networkInfo : ClientNetworkInfo)
      (worker : s.networkInfoWorker = .publishing job networkInfo)
      (result : s' = (s.updateDevicesWithClientIp job.clientIp networkInfo).goTo .waiting)
  | requeues (job : GeoIpLookupJob) (retryAt : Int)
      (worker : s.networkInfoWorker = .requeueing job retryAt)
      (result : s' = (s.requeueJob job retryAt).goTo .waiting)
  | drops (job : GeoIpLookupJob) (refused : Bool) (worker : s.networkInfoWorker = .dropping job refused)
      (result : s' = (s.erasePending job.clientIp).goTo .waiting)

/-- Going on to a place that carries nothing from a lookup. -/
theorem WorkCase.goTo {worker : LookupWorker} (h : worker.inFlight = s.networkInfoWorker.inFlight)
    (hlocated : Located s.networkInfoWorker → Located worker) : WorkCase s (s.goTo worker) :=
  .moves worker s.geoIpFailureCounts h hlocated rfl

theorem work_cases (config : GeoIpConfig) (now : Int) (answer : GeoAnswer) :
    WorkCase s (s.work config now answer) := by
  have hstays : WorkCase s s := .moves _ _ rfl id rfl
  unfold work
  cases hworker : s.networkInfoWorker with
  | absent => exact hstays
  | exited => exact hstays
  | waiting =>
      dsimp only
      split
      · exact .goTo (by rw [hworker]; rfl) fun _ => trivial
      · exact hstays
  | checking job =>
      dsimp only
      split
      · exact .goTo (by rw [hworker]; rfl) fun _ => trivial
      · rename_i hmark
        exact .stale job hworker hmark rfl
  | testing job =>
      dsimp only
      split <;> exact .goTo (by rw [hworker]; rfl) fun _ => trivial
  | resolving job => exact .goTo (by rw [hworker]; rfl) fun _ => located_resolve answer job
  | retesting job result =>
      dsimp only
      split
      · exact .goTo (by rw [hworker]; rfl) fun _ => trivial
      · split
        · rename_i hresolved
          refine .goTo (by rw [hworker]; rfl) fun hlocated => ?_
          rw [hworker] at hlocated
          exact hlocated hresolved
        · split <;> exact .goTo (by rw [hworker]; rfl) fun _ => trivial
  | settling job networkInfo => exact .settles job networkInfo hworker rfl
  | publishing job networkInfo => exact .publishes job networkInfo hworker rfl
  | counting job =>
      exact .moves (.deciding job (geoIpFailureRetryDelay config (s.failureCount job.clientIp))) _
        (by rw [hworker]; rfl) (fun _ => trivial) rfl
  | deciding job retryDelay =>
      dsimp only
      split <;> exact .goTo (by rw [hworker]; rfl) fun _ => trivial
  | requeueing job retryAt => exact .requeues job retryAt hworker rfl
  | dropping job refused => exact .drops job refused hworker rfl

/-- What a step of the worker does to the queue. -/
inductive WorkEffect (s s' : GeoLookup) : Prop where
  | same (h : SameQueue s s')
  /-- The job is left because its mark is gone. -/
  | stale (job : GeoIpLookupJob) (worker : s.networkInfoWorker = .checking job)
      (mark : s.pendingIpLookupAt[job.clientIp]? ≠ some job.runAt) (result : s' = s.goTo .waiting)
  | finishes (job : GeoIpLookupJob) (h : Finishes job s s')
  /-- Finished, and queued again in the same section. -/
  | requeued (job : GeoIpLookupJob) (retryAt : Int) (between : GeoLookup) (h : Finishes job s between)
      (running : s.networkInfoStop = false)
      (room : s.networkInfoJobs.length < maxClientNetworkInfoJobs)
      (result : s' = between.pushJob job.clientIp retryAt)

theorem work_effect (config : GeoIpConfig) (now : Int) (answer : GeoAnswer) :
    WorkEffect s (s.work config now answer) := by
  cases work_cases (s := s) config now answer with
  | moves worker counts hinFlight _ hresult =>
      rw [hresult]
      exact .same ⟨rfl, rfl, rfl, hinFlight⟩
  | stale job hworker hmark hresult => exact .stale job hworker hmark hresult
  | settles job networkInfo hworker hresult =>
      rw [hresult]
      exact .finishes job ⟨by rw [hworker]; rfl, rfl, rfl, rfl, rfl⟩
  | publishes job networkInfo hworker hresult =>
      rw [hresult]
      exact .same ⟨updateDevicesWithClientIp_jobs .., updateDevicesWithClientIp_pending ..,
        updateDevicesWithClientIp_stop .., by rw [hworker]; rfl⟩
  | drops job refused hworker hresult =>
      rw [hresult]
      exact .finishes job ⟨by rw [hworker]; rfl, rfl, rfl, rfl, rfl⟩
  | requeues job retryAt hworker hresult =>
      rw [hresult]
      unfold requeueJob
      by_cases hroom : (!s.networkInfoStop &&
          decide (s.networkInfoJobs.length < maxClientNetworkInfoJobs)) = true
      · rw [if_pos hroom]
        rw [Bool.and_eq_true, Bool.not_eq_true', decide_eq_true_eq] at hroom
        refine .requeued job retryAt
          ({ s with pendingIpLookupAt := s.pendingIpLookupAt.erase job.clientIp }.goTo .waiting)
          ⟨by rw [hworker]; rfl, rfl, rfl, rfl, rfl⟩ hroom.1 hroom.2 rfl
      · rw [if_neg hroom]
        exact .finishes job ⟨by rw [hworker]; rfl, rfl, rfl, rfl, rfl⟩

/-- No step of the worker starts or stops it. -/
theorem work_stop (config : GeoIpConfig) (now : Int) (answer : GeoAnswer) :
    (s.work config now answer).networkInfoStop = s.networkInfoStop := by
  rcases work_effect (s := s) config now answer with h | ⟨_, _, _, hresult⟩ | ⟨_, h⟩ |
    ⟨_, _, _, h, _, _, hresult⟩
  · exact h.stop
  · rw [hresult]
    rfl
  · exact h.stop
  · rw [hresult]
    exact h.stop

/-! ## The invariant -/

theorem Accounted.work (config : GeoIpConfig) (hs : s.Accounted) (now : Int) (answer : GeoAnswer) :
    (s.work config now answer).Accounted := by
  rcases work_effect config now answer with h | ⟨job, hworker, hmark, hresult⟩ | ⟨job, h⟩ |
    ⟨job, retryAt, between, h, hrunning, hroom, hresult⟩
  · exact h.accounted hs
  · -- only a stop takes the mark of a job in flight
    have hstop : s.networkInfoStop = true := by
      by_contra hrunning
      have howned := hs.owned
      rw [unfinished, if_neg hrunning, hworker] at howned
      exact hmark (howned.marked (j := job) (by simp [LookupWorker.inFlight]))
    rw [hresult]
    refine ⟨?_, hs.bounded, hs.stopped⟩
    have howned := hs.owned
    rw [unfinished, if_pos hstop] at howned
    show Marks.Owned _ _ s.pendingIpLookupAt (s.networkInfoJobs ++
      (if s.networkInfoStop = true then none else none).toList)
    rw [if_pos hstop]
    exact howned
  · exact h.accounted hs
  · -- put back under the address its own mark has just left
    rw [hresult]
    refine accounted_pushJob (h.accounted hs) retryAt (by rw [h.stop]; exact hrunning) ?_
      (by rw [h.jobs]; exact hroom)
    rw [h.pending, Std.ExtTreeMap.getElem?_erase_eq, if_pos rfl]

theorem Accounted.enqueueGeoIpLookup (hs : s.Accounted) (clientIp : Bytes) (delay now : Int) :
    (s.enqueueGeoIpLookup clientIp delay now).Accounted := by
  rcases enqueueGeoIpLookup_cases (s := s) clientIp delay now with
    h | ⟨_, hrunning, hnew, hroom, runAt, h⟩
  · rw [h]
    exact hs
  · rw [h]
    exact accounted_pushJob hs runAt hrunning hnew hroom

/-- The job that is taken stays unfinished. -/
theorem Accounted.popJob (hs : s.Accounted) (job : GeoIpLookupJob) (now : Int) :
    (s.popJob job now).Accounted := by
  rcases popJob_cases (s := s) job now with h | ⟨hworker, hrunning, hmem, h⟩
  · rw [h]
    exact hs
  · rw [h]
    refine ⟨?_, ?_, ?_⟩
    · have howned := hs.owned
      rw [unfinished, hworker, hrunning] at howned
      apply howned.perm
      show List.Perm (s.networkInfoJobs ++ []) (s.networkInfoJobs.erase job ++
        (if s.networkInfoStop = true then none else some job).toList)
      rw [hrunning, List.append_nil]
      exact (List.perm_cons_erase hmem).trans (List.perm_append_singleton job _).symm
    · exact (List.length_erase_le ..).trans hs.bounded
    · intro hstop
      have hstop' : s.networkInfoStop = true := hstop
      rw [hrunning] at hstop'
      exact absurd hstop' (by simp)

/-- A new worker has no job in flight, and neither had the one before. -/
theorem Accounted.startClientNetworkInfoWorker (hs : s.Accounted) :
    s.startClientNetworkInfoWorker.Accounted := by
  unfold GeoLookup.startClientNetworkInfoWorker
  cases hworker : s.networkInfoWorker with
  | absent =>
      refine ⟨?_, hs.bounded, fun h => absurd h (by simp)⟩
      have howned := hs.owned
      rw [unfinished, hworker] at howned
      have hnone : (if s.networkInfoStop = true then none else LookupWorker.inFlight .absent)
          = none := by
        split <;> rfl
      rw [hnone] at howned
      exact howned
  | _ => exact hs

theorem Accounted.joinWorker (hs : s.Accounted) : s.joinWorker.Accounted := by
  unfold GeoLookup.joinWorker
  cases hworker : s.networkInfoWorker with
  | exited =>
      have hsame : SameQueue s (s.goTo .absent) := ⟨rfl, rfl, rfl, by rw [hworker]; rfl⟩
      exact hsame.accounted hs
  | _ => exact hs

/-- **Every section keeps the account.** -/
theorem Accounted.step (config : GeoIpConfig) (hs : s.Accounted) (e : LookupStep) :
    (s.step config e).Accounted := by
  cases e with
  | setDeviceNetworkInfo deviceId networkInfo =>
      show (s.setDeviceNetworkInfo deviceId networkInfo).Accounted
      unfold setDeviceNetworkInfo
      split
      · exact hs
      · exact ⟨hs.owned, hs.bounded, hs.stopped⟩
  | forgetDevice deviceId => exact ⟨hs.owned, hs.bounded, hs.stopped⟩
  | enqueue clientIp delay now => exact hs.enqueueGeoIpLookup clientIp delay now
  | pop job now => exact hs.popJob job now
  | work now answer => exact hs.work config now answer
  | start => exact hs.startClientNetworkInfoWorker
  | stop => exact ⟨Marks.Owned.empty, Nat.zero_le _, fun _ => rfl⟩
  | join => exact hs.joinWorker

/-- **The queue and its marks**, at a lock release. -/
structure QueueInvariant (s : GeoLookup) : Prop where
  distinct : (s.networkInfoJobs.map GeoIpLookupJob.clientIp).Nodup
  marked : ∀ job ∈ s.networkInfoJobs, s.pendingIpLookupAt[job.clientIp]? = some job.runAt
  /-- A mark belongs to exactly one job, queued or in flight before its final section. -/
  owned : ∀ clientIp runAt, s.pendingIpLookupAt[clientIp]? = some runAt →
    ∃ job, (s.networkInfoJobs ++ s.networkInfoWorker.inFlight.toList).filter
      (fun job => job.clientIp = clientIp) = [job] ∧ job.runAt = runAt
  bounded : s.networkInfoJobs.length ≤ maxClientNetworkInfoJobs
  stopped : s.networkInfoStop = true → s.networkInfoJobs = []

theorem Accounted.queueInvariant (hs : s.Accounted) : s.QueueInvariant where
  distinct := by
    have hd := hs.owned.distinct
    rw [unfinished, List.map_append, List.nodup_append'] at hd
    exact hd.1
  marked := fun job hjob => hs.owned.marked (List.mem_append_left _ hjob)
  owned := by
    intro clientIp runAt hmark
    by_cases hstop : s.networkInfoStop = true
    · rw [hs.pending_eq_empty hstop] at hmark
      exact absurd hmark (by simp)
    · have hone := hs.owned.exactly_one hmark
      rw [unfinished, if_neg hstop] at hone
      exact hone
  bounded := hs.bounded
  stopped := hs.stopped

/-- A stopped queue stays so until the worker is started again. -/
theorem stopped_step (h : s.networkInfoStop = true) {e : LookupStep}
    (hstart : e = .start → s.networkInfoWorker ≠ .absent) :
    (s.step config e).networkInfoStop = true := by
  cases e with
  | setDeviceNetworkInfo deviceId networkInfo =>
      show (s.setDeviceNetworkInfo deviceId networkInfo).networkInfoStop = true
      unfold setDeviceNetworkInfo
      split <;> exact h
  | forgetDevice deviceId => exact h
  | enqueue clientIp delay now =>
      show (s.enqueueGeoIpLookup clientIp delay now).networkInfoStop = true
      rcases enqueueGeoIpLookup_cases (s := s) clientIp delay now with hsame | ⟨_, hrunning, _⟩
      · rw [hsame]
        exact h
      · rw [h] at hrunning
        exact absurd hrunning (by simp)
  | pop job now =>
      show (s.popJob job now).networkInfoStop = true
      rcases popJob_cases (s := s) job now with hsame | ⟨_, hrunning, _⟩
      · rw [hsame]
        exact h
      · rw [h] at hrunning
        exact absurd hrunning (by simp)
  | work now answer =>
      show (s.work config now answer).networkInfoStop = true
      rw [work_stop]
      exact h
  | start =>
      show (s.startClientNetworkInfoWorker).networkInfoStop = true
      unfold startClientNetworkInfoWorker
      split
      · rename_i habsent
        exact absurd habsent (hstart rfl)
      · exact h
  | stop => rfl
  | join =>
      show (s.joinWorker).networkInfoStop = true
      unfold joinWorker
      split <;> exact h

/-- **The lookup queue over every run.** After any interleaving of the sections the queue and its marks
    agree; and after a stop no job is queued again until the worker is started again. -/
theorem lookupQueue_invariant (config : GeoIpConfig) (steps : List LookupStep) :
    (Run.run (step config) initial steps).QueueInvariant ∧
    ∀ later, Run.EveryStep (step config) (fun s e => e = .start → s.networkInfoWorker ≠ .absent)
        (Run.run (step config) initial (steps ++ [.stop])) later →
      (Run.run (step config) initial (steps ++ .stop :: later)).networkInfoJobs = [] := by
  have haccounted : ∀ steps, (Run.run (step config) initial steps).Accounted :=
    Run.run_invariant (step config) (fun s e hs => hs.step config e) initial_accounted
  refine ⟨(haccounted steps).queueInvariant, fun later hlater => ?_⟩
  apply (haccounted _).stopped
  rw [List.append_cons, Run.run_append]
  apply Run.run_invariant_of (step config) (fun s e hstart hs => stopped_step hs hstart) ?_ hlater
  rw [Run.run_append]
  rfl

end GeoLookup
end DeskServer
