import DeskServer.Config.Numbers
import DeskServer.Geo.Lookups
import DeskServer.Server.RetryDelay

/-!
# `Geo.Retries` — when a failed lookup is tried again

The delays come from the environment. Whatever it says, they are in their ranges, so that a delay is at most a
day (`geoIpFailureRetryDelay_le_day`). **No job of the queue is ever due later than a day after the latest time
the server has read** (`due_within_a_day`): a failed lookup cannot be put off further, however often it fails.

**Shape.** `Due` says by when everything is due that is queued or about to be; a step keeps it, at the time it
reads (`Due.step`), and one that reads no clock at the time of the last one that did. What is not covered is
when the worker gets to run: a job that is due may wait for as long as it is not taken.
-/

namespace DeskServer

/-- The configuration the environment gives. -/
def geoIpConfig (failureTtlMs failureMaxTtlMs : Option Bytes) : GeoIpConfig :=
  ⟨(envMillis failureTtlMs 60000 0 3600000).toNat, (envMillis failureMaxTtlMs 1800000 0 86400000).toNat⟩

/-- A day, in milliseconds. -/
def dayMs : Nat := 86400000

theorem geoIpConfig_le (failureTtlMs failureMaxTtlMs : Option Bytes) :
    (geoIpConfig failureTtlMs failureMaxTtlMs).failureTtlMs ≤ dayMs ∧
      (geoIpConfig failureTtlMs failureMaxTtlMs).failureMaxTtlMs ≤ dayMs := by
  have hbase : 0 ≤ envMillis failureTtlMs 60000 0 3600000 ∧ envMillis failureTtlMs 60000 0 3600000 ≤ 3600000 :=
    envMillis_mem failureTtlMs (by decide)
  have hmax : 0 ≤ envMillis failureMaxTtlMs 1800000 0 86400000 ∧
      envMillis failureMaxTtlMs 1800000 0 86400000 ≤ 86400000 := envMillis_mem failureMaxTtlMs (by decide)
  unfold geoIpConfig dayMs
  dsimp only
  omega

/-- **No delay is over a day**, whatever the environment says and however often a lookup has failed. -/
theorem geoIpFailureRetryDelay_le_day (failureTtlMs failureMaxTtlMs : Option Bytes) (failureCount : Nat) :
    geoIpFailureRetryDelay (geoIpConfig failureTtlMs failureMaxTtlMs) failureCount ≤ dayMs := by
  obtain ⟨hbase, hmax⟩ := geoIpConfig_le failureTtlMs failureMaxTtlMs
  rw [geoIpFailureRetryDelay_eq]
  split
  · exact Nat.zero_le _
  · exact (Nat.min_le_right _ _).trans (Nat.max_le.mpr ⟨hbase, hmax⟩)

namespace ResolvedLookups

open Bytes GeoLookup
open GeoLocationResolver (sampleAsio keyOnly)

/-- The time a step reads. The worker reads the clock while it waits over a queue, and again when it puts a
    failed lookup back. -/
def timeOf (lookup : GeoLookup) : ResolvedStep → Option Int
  | .enqueue clientIp now => if clientIp = [] then none else some now
  | .pop _ now =>
    match lookup.networkInfoWorker with
    | .waiting => if !lookup.networkInfoStop && !lookup.networkInfoJobs.isEmpty then some now else none
    | _ => none
  | .work now _ =>
    match lookup.networkInfoWorker with
    | .deciding job retryDelay =>
      if 0 < retryDelay && lookup.hasDeviceWithClientIp job.clientIp then some now else none
    | _ => none
  | .login _ _ | .logout _ | .start | .stop | .join => none

/-- The latest time after a step. -/
def tick (lookup : GeoLookup) (clock : Int) (e : ResolvedStep) : Int :=
  max clock ((timeOf lookup e).getD clock)

theorem le_tick (lookup : GeoLookup) (clock : Int) (e : ResolvedStep) : clock ≤ tick lookup clock e :=
  le_max_left _ _

theorem le_tick_of_reads {lookup : GeoLookup} {e : ResolvedStep} {now : Int} (h : timeOf lookup e = some now)
    (clock : Int) : now ≤ tick lookup clock e := by
  rw [tick, h]
  exact le_max_right _ _

/-- A step, with the latest time that was read beside the state. -/
def timedStep (config : GeoIpConfig) (asio : AsioIp) (env : GeoEnv) (s : ResolvedLookups × Int)
    (e : ResolvedStep) : ResolvedLookups × Int :=
  (s.1.step config asio env e, tick s.1.lookup s.2 e)

/-- The latest time that a run has read, from `start` on. -/
def latestRead (config : GeoIpConfig) (asio : AsioIp) (env : GeoEnv) (start : Int)
    (steps : List ResolvedStep) : Int :=
  (Run.run (timedStep config asio env) (initial, start) steps).2

/-- The clock changes nothing. -/
theorem run_timedStep_fst (config : GeoIpConfig) (asio : AsioIp) (env : GeoEnv) (s : ResolvedLookups × Int)
    (steps : List ResolvedStep) : (Run.run (timedStep config asio env) s steps).1 =
      Run.run (step config asio env) s.1 steps := by
  induction steps generalizing s with
  | nil => rfl
  | cons e steps ih => exact ih (timedStep config asio env s e)

/-- What the worker is about to queue is due by then. -/
def DueBy (clock : Int) (limit : Int) : LookupWorker → Prop
  | .deciding _ retryDelay => (retryDelay : Int) * 1000000 ≤ limit
  | .requeueing _ retryAt => retryAt ≤ clock + limit
  | _ => True

/-- **Nothing is due later** than the limit after the clock. -/
structure Due (limit : Int) (lookup : GeoLookup) (clock : Int) : Prop where
  jobs : ∀ job ∈ lookup.networkInfoJobs, job.runAt ≤ clock + limit
  worker : DueBy clock limit lookup.networkInfoWorker

variable {config : GeoIpConfig} {asio : AsioIp} {env : GeoEnv} {limit clock clock' : Int} {lookup : GeoLookup}

theorem DueBy.later {worker : LookupWorker} (h : DueBy clock limit worker) (hle : clock ≤ clock') :
    DueBy clock' limit worker := by
  cases worker with
  | deciding job retryDelay => exact h
  | requeueing job retryAt =>
      have hdue : retryAt ≤ clock + limit := h
      show retryAt ≤ clock' + limit
      omega
  | _ => trivial

/-- Time goes on, and jobs go. -/
theorem Due.later (h : Due limit lookup clock) (hle : clock ≤ clock') {lookup' : GeoLookup}
    (hjobs : ∀ job ∈ lookup'.networkInfoJobs, job ∈ lookup.networkInfoJobs)
    (hworker : lookup'.networkInfoWorker = lookup.networkInfoWorker ∨
      DueBy clock' limit lookup'.networkInfoWorker) : Due limit lookup' clock' where
  jobs := by
    intro job hjob
    have hdue := h.jobs job (hjobs job hjob)
    omega
  worker := by
    rcases hworker with heq | hdue
    · rw [heq]
      exact h.worker.later hle
    · exact hdue

/-- A job is queued that is due by then. -/
theorem Due.push (h : Due limit lookup clock) {ip : Bytes} {runAt : Int} (hdue : runAt ≤ clock + limit) :
    Due limit (lookup.pushJob ip runAt) clock where
  jobs := by
    intro job hjob
    rcases List.mem_cons.mp hjob with rfl | hold
    · exact hdue
    · exact h.jobs job hold
  worker := h.worker

theorem Due.enqueue (h : Due limit lookup clock) (hlimit : 0 ≤ limit) {ip : Bytes} {now : Int}
    (hnow : ip ≠ [] → now ≤ clock) : Due limit (lookup.enqueueGeoIpLookup ip 0 now) clock := by
  unfold enqueueGeoIpLookup
  split
  · exact h
  · rename_i hip
    have hread := hnow hip
    split
    · exact h
    · split
      · exact h
      · split
        · exact h
        · exact h.push (by omega)

/-- A failed lookup is put back for the time that was decided. -/
theorem Due.requeue (h : Due limit lookup clock) (job : GeoIpLookupJob) {retryAt : Int}
    (hdue : retryAt ≤ clock + limit) : Due limit (lookup.requeueJob job retryAt) clock := by
  have herased : Due limit { lookup with pendingIpLookupAt := lookup.pendingIpLookupAt.erase job.clientIp } clock :=
    ⟨h.jobs, h.worker⟩
  unfold requeueJob
  dsimp only
  split
  · exact herased.push hdue
  · exact herased

/-- **A step of the worker**, by where it stands: only a failure that is counted decides on a delay. -/
theorem Due.work (h : Due limit lookup clock) {now : Int} {service : GeoService}
    (hnow : timeOf lookup (.work now service) = some now → now ≤ clock)
    (hdelay : ∀ failureCount, (geoIpFailureRetryDelay config failureCount : Int) * 1000000 ≤ limit)
    (answer : GeoAnswer) : Due limit (lookup.work config now answer) clock := by
  have hgoes : ∀ {worker : LookupWorker}, DueBy clock limit worker → Due limit (lookup.goTo worker) clock :=
    fun hworker => ⟨h.jobs, hworker⟩
  unfold GeoLookup.work
  cases hworker : lookup.networkInfoWorker with
  | absent | exited => exact h
  | waiting => dsimp only; split; exacts [hgoes trivial, h]
  | checking job | testing job => dsimp only; split <;> exact hgoes trivial
  | resolving job => exact hgoes trivial
  | retesting job result =>
      dsimp only
      split
      · exact hgoes trivial
      · split
        · exact hgoes trivial
        · split <;> exact hgoes trivial
  | settling job networkInfo => exact ⟨h.jobs, trivial⟩
  | publishing job networkInfo =>
      refine ⟨?_, trivial⟩
      show ∀ other ∈ (lookup.updateDevicesWithClientIp job.clientIp networkInfo).networkInfoJobs, _
      rw [updateDevicesWithClientIp_jobs]
      exact h.jobs
  | counting job => exact ⟨h.jobs, hdelay _⟩
  | deciding job retryDelay =>
      have hdue := h.worker
      rw [hworker] at hdue
      have hlimit : (retryDelay : Int) * 1000000 ≤ limit := hdue
      dsimp only
      split
      · rename_i hputs
        have hread : now ≤ clock := hnow (by rw [timeOf, hworker]; exact if_pos hputs)
        refine hgoes ?_
        show now + (retryDelay : Int) * 1000000 ≤ clock + limit
        omega
      · exact hgoes trivial
  | requeueing job retryAt =>
      have hdue := h.worker
      rw [hworker] at hdue
      have hrequeued := h.requeue job hdue
      exact ⟨hrequeued.jobs, trivial⟩
  | dropping job refused => exact ⟨h.jobs, trivial⟩

theorem Due.step {s : ResolvedLookups} (h : Due limit s.lookup clock) (hlimit : 0 ≤ limit)
    (hdelay : ∀ failureCount, (geoIpFailureRetryDelay config failureCount : Int) * 1000000 ≤ limit)
    (e : ResolvedStep) : Due limit (s.step config asio env e).lookup (tick s.lookup clock e) := by
  cases e with
  | login deviceId clientIp =>
      show Due limit (s.lookup.setDeviceNetworkInfo deviceId _) _
      unfold setDeviceNetworkInfo
      split
      · exact h.later (le_tick _ _ _) (fun _ hj => hj) (.inl rfl)
      · exact h.later (le_tick _ _ _) (fun _ hj => hj) (.inl rfl)
  | logout deviceId => exact h.later (le_tick _ _ _) (fun _ hj => hj) (.inl rfl)
  | enqueue clientIp now =>
      have hlater : Due limit s.lookup (tick s.lookup clock (.enqueue clientIp now)) :=
        h.later (le_tick _ _ _) (fun _ hj => hj) (.inl rfl)
      have hreads : clientIp ≠ [] → timeOf s.lookup (.enqueue clientIp now) = some now :=
        fun hip => if_neg hip
      exact hlater.enqueue hlimit fun hip => le_tick_of_reads (hreads hip) clock
  | pop job now =>
      show Due limit (s.lookup.popJob job now) _
      rcases popJob_cases job now with hsame | ⟨_, _, _, hpopped⟩
      · rw [hsame]
        exact h.later (le_tick _ _ _) (fun _ hj => hj) (.inl rfl)
      · rw [hpopped]
        exact h.later (le_tick _ _ _) (fun _ hj => List.mem_of_mem_erase hj) (.inr trivial)
  | work now service =>
      have hlater : Due limit s.lookup (tick s.lookup clock (.work now service)) :=
        h.later (le_tick _ _ _) (fun _ hj => hj) (.inl rfl)
      show Due limit (s.work config asio env now service).lookup _
      rcases work_cases config asio env s now service with ⟨job, _, hresult⟩ | ⟨_, hresult⟩
      · rw [hresult]
        exact ⟨hlater.jobs, trivial⟩
      · rw [hresult]
        have hnow : timeOf s.lookup (.work now service) = some now →
            now ≤ tick s.lookup clock (.work now service) := fun hreads => le_tick_of_reads hreads clock
        exact hlater.work hnow hdelay noAnswer
  | start =>
      show Due limit s.lookup.startClientNetworkInfoWorker _
      unfold startClientNetworkInfoWorker
      split
      · exact h.later (le_tick _ _ _) (fun _ hj => hj) (.inr trivial)
      · exact h.later (le_tick _ _ _) (fun _ hj => hj) (.inl rfl)
  | stop => exact h.later (le_tick _ _ _) (fun _ hj => absurd hj List.not_mem_nil) (.inl rfl)
  | join =>
      show Due limit s.lookup.joinWorker _
      unfold joinWorker
      split
      · exact h.later (le_tick _ _ _) (fun _ hj => hj) (.inr trivial)
      · exact h.later (le_tick _ _ _) (fun _ hj => hj) (.inl rfl)

/-- **No lookup is put off for more than a day**: in every run, under any environment, every job of the queue is
    due within a day of the latest time that was read. -/
theorem due_within_a_day (failureTtlMs failureMaxTtlMs : Option Bytes) (asio : AsioIp) (env : GeoEnv)
    (start : Int) (steps : List ResolvedStep) :
    ∀ job ∈ (Run.run (step (geoIpConfig failureTtlMs failureMaxTtlMs) asio env) initial
        steps).lookup.networkInfoJobs,
      job.runAt ≤ latestRead (geoIpConfig failureTtlMs failureMaxTtlMs) asio env start steps
        + dayMs * 1000000 := by
  have hdelay : ∀ failureCount, (geoIpFailureRetryDelay (geoIpConfig failureTtlMs failureMaxTtlMs)
      failureCount : Int) * 1000000 ≤ dayMs * 1000000 := by
    intro failureCount
    have hle := geoIpFailureRetryDelay_le_day failureTtlMs failureMaxTtlMs failureCount
    omega
  have hstart : Due (dayMs * 1000000) initial.lookup start := ⟨fun _ h => absurd h List.not_mem_nil, trivial⟩
  have hdue : Due (dayMs * 1000000)
      (Run.run (timedStep (geoIpConfig failureTtlMs failureMaxTtlMs) asio env) (initial, start) steps).1.lookup
      (Run.run (timedStep (geoIpConfig failureTtlMs failureMaxTtlMs) asio env) (initial, start) steps).2 :=
    Run.run_invariant (timedStep (geoIpConfig failureTtlMs failureMaxTtlMs) asio env)
      (I := fun s : ResolvedLookups × Int => Due (dayMs * 1000000) s.1.lookup s.2)
      (fun _ e h => h.step (by omega) hdelay e) hstart steps
  rw [run_timedStep_fst] at hdue
  exact hdue.jobs

/-- A service that answers nothing. -/
def unreachableService : GeoService where
  fetch _ := []
  parse _ := none

/-- A device logs in, and the lookup of its address fails. -/
def failedLookup : List ResolvedStep :=
  [.login (bytes "100000000") (bytes "8.8.8.8"), .enqueue (bytes "8.8.8.8") 5, .start,
    .pop ⟨bytes "8.8.8.8", 5⟩ 5] ++ List.replicate 7 (.work 6 unreachableService)

/-- The address is due again after a minute. -/
theorem due_within_a_day_failed :
    (6 + 60000 * 1000000 : Int) ≤ latestRead (geoIpConfig none none) sampleAsio (keyOnly (bytes "k")) 0
      failedLookup + dayMs * 1000000 := by
  have hqueued : ⟨bytes "8.8.8.8", 6 + 60000 * 1000000⟩ ∈ (Run.run (step (geoIpConfig none none)
      sampleAsio (keyOnly (bytes "k"))) initial failedLookup).lookup.networkInfoJobs := by decide
  exact due_within_a_day none none sampleAsio (keyOnly (bytes "k")) 0 failedLookup _ hqueued

end ResolvedLookups
end DeskServer
