import DeskServer.Server.LookupQueue

/-!
# `Server.LostLookup` — whether every connected device gets its lookup

A login stores the address of the device and then asks for its lookup, which is granted once for all
devices with the address: while the address has a mark, nothing is queued. The worker tests whether a
device has the address, and takes the mark away in a later section; a login that runs between the two is
told that its lookup is pending, and loses it.

**Shape.** `Covered` is the invariant: whoever is owed a lookup has a mark, and a mark is there for a job
(`Lib.Marks`). Every step keeps it except the one that takes a mark away for want of a device, which keeps it
exactly under the condition (`Covered.work`, `givesUpNobody_of_noneLost`). The queue stays below its limit
throughout.
-/

namespace DeskServer

open GeoLookup

/-- The lookups, and how far the logins have come. -/
structure LoginLookups where
  lookup : GeoLookup
  /-- Logins that have stored their address, and not asked for the lookup yet. -/
  logins : List (Bytes × Bytes)
  /-- A login of the device has asked for the lookup of the address that is stored for it. -/
  enqueued : Bytes → Bool
  /-- The lookup of that address was reported as not to be tried again, since. -/
  refused : Bytes → Bool

inductive LoginStep where
  /-- The first half of `EnqueueClientNetworkInfo`. -/
  | store (deviceId clientIp : Bytes)
  /-- The second half. -/
  | enqueue (deviceId clientIp : Bytes) (now : Int)
  | logout (deviceId : Bytes)
  | pop (job : GeoIpLookupJob) (now : Int)
  | work (now : Int) (answer : GeoAnswer)

namespace LoginLookups

/-- The worker has been started, and nobody is connected. -/
def started : LoginLookups :=
  ⟨initial.startClientNetworkInfoWorker, [], fun _ => false, fun _ => false⟩

/-- The address stored for a device. -/
def storedIp (s : GeoLookup) (deviceId : Bytes) : Option Bytes :=
  (s.deviceNetworkInfo[deviceId]?).map ClientNetworkInfo.clientIp

/-- What a login knows of its address. -/
def rawNetworkInfo (clientIp : Bytes) : ClientNetworkInfo := ⟨clientIp, [], [], [], []⟩

/-- The job the worker is about to give up, and whether it was refused. -/
def givenUp : LookupWorker → Option (GeoIpLookupJob × Bool)
  | .dropping job refused => some (job, refused)
  | _ => none

/-- The next step of the worker refuses the address of the device. -/
def refuses (s : GeoLookup) (deviceId : Bytes) : Bool :=
  match givenUp s.networkInfoWorker with
  | some (job, true) => storedIp s deviceId == some job.clientIp
  | _ => false

def perform (config : GeoIpConfig) (s : LoginLookups) : LoginStep → LoginLookups
  | .store deviceId clientIp =>
    if deviceId = [] then s
    else
      { lookup := s.lookup.setDeviceNetworkInfo deviceId (rawNetworkInfo clientIp)
        logins := (deviceId, clientIp) :: s.logins
        enqueued := Function.update s.enqueued deviceId false
        refused := Function.update s.refused deviceId false }
  | .enqueue deviceId clientIp now =>
    if (deviceId, clientIp) ∈ s.logins then
      let current := storedIp s.lookup deviceId = some clientIp
      { lookup := s.lookup.enqueueGeoIpLookup clientIp 0 now
        logins := s.logins.erase (deviceId, clientIp)
        enqueued := if current then Function.update s.enqueued deviceId true else s.enqueued
        refused := if current then Function.update s.refused deviceId false else s.refused }
    else s
  | .logout deviceId => { s with lookup := s.lookup.forgetDevice deviceId }
  | .pop job now => { s with lookup := s.lookup.popJob job now }
  | .work now answer =>
    { s with
        lookup := s.lookup.work config now answer
        refused := fun deviceId => s.refused deviceId || refuses s.lookup deviceId }

/-! ## The lookups devices are owed -/

/-- **The device is owed a lookup of the address**: it is connected with it, nothing has been found out
    about the address since, its login has asked for the lookup, and the lookup was not refused. -/
structure Awaits (s : LoginLookups) (deviceId clientIp : Bytes) : Prop where
  stored : ∃ info, s.lookup.deviceNetworkInfo[deviceId]? = some info ∧ info.clientIp = clientIp ∧
    info.location = []
  nonempty : clientIp ≠ []
  enqueued : s.enqueued deviceId = true
  notRefused : s.refused deviceId = false

/-- **No lookup is lost.** Whenever the worker holds no job, and failed lookups are retried, the lookup
    of every device that is owed one is queued. -/
def NoneLost (config : GeoIpConfig) (s : LoginLookups) : Prop :=
  s.lookup.networkInfoWorker.holdsJob = false → 0 < config.failureTtlMs →
    ∀ deviceId clientIp, s.Awaits deviceId clientIp →
      ∃ job ∈ s.lookup.networkInfoJobs, job.clientIp = clientIp

/-- The queue has not reached its limit. -/
def BelowLimit (s : LoginLookups) : Prop :=
  s.lookup.networkInfoJobs.length < maxClientNetworkInfoJobs

instance : DecidablePred BelowLimit := fun _ => inferInstanceAs (Decidable (_ < _))

/-- **The step gives up nobody's lookup**: when the worker takes the mark of an address away for want of
    a device, no device is owed the lookup of it by then. -/
def GivesUpNobody (config : GeoIpConfig) (s : LoginLookups) (e : LoginStep) : Prop :=
  ∀ now answer, e = .work now answer → 0 < config.failureTtlMs →
    ∀ job, givenUp s.lookup.networkInfoWorker = some (job, false) →
      ∀ deviceId, ¬ s.Awaits deviceId job.clientIp

/-! ## What the worker does to the marks and the stored addresses -/

section Worker
variable {config : GeoIpConfig} {s : GeoLookup}

/-- The worker has found out about the address, and is about to write it. -/
def Publishes (s : GeoLookup) (clientIp : Bytes) : Prop :=
  ∃ job networkInfo, s.networkInfoWorker = .publishing job networkInfo ∧ job.clientIp = clientIp

theorem located_work (h : Located s.networkInfoWorker) (now : Int) (answer : GeoAnswer) :
    Located (s.work config now answer).networkInfoWorker := by
  cases work_cases (s := s) config now answer with
  | moves worker counts _ hlocated hresult =>
      rw [hresult]
      exact hlocated h
  | settles job networkInfo hworker hresult =>
      rw [hworker] at h
      rw [hresult]
      exact h
  | stale _ _ _ hresult | publishes _ _ _ hresult | requeues _ _ _ hresult | drops _ _ _ hresult =>
      rw [hresult]
      trivial

theorem updateDevicesWithClientIp_row (clientIp : Bytes) (networkInfo : ClientNetworkInfo)
    (deviceId : Bytes) :
    (s.updateDevicesWithClientIp clientIp networkInfo).deviceNetworkInfo[deviceId]?
        = s.deviceNetworkInfo[deviceId]? ∨
    ∃ info, s.deviceNetworkInfo[deviceId]? = some info ∧ info.clientIp = clientIp ∧
      (s.updateDevicesWithClientIp clientIp networkInfo).deviceNetworkInfo[deviceId]?
        = some networkInfo := by
  unfold updateDevicesWithClientIp
  split
  · exact .inl rfl
  · dsimp only
    rw [Std.ExtTreeMap.getElem?_map]
    cases hrow : s.deviceNetworkInfo[deviceId]? with
    | none => exact .inl rfl
    | some info =>
        by_cases hip : info.clientIp = clientIp
        · exact .inr ⟨info, rfl, hip, by rw [Option.map_some, if_pos hip]⟩
        · exact .inl (by rw [Option.map_some, if_neg hip])

/-- The addresses change only where a resolved lookup is written. -/
theorem deviceNetworkInfo_work (config : GeoIpConfig) (now : Int) (answer : GeoAnswer) (deviceId : Bytes) :
    (s.work config now answer).deviceNetworkInfo[deviceId]? = s.deviceNetworkInfo[deviceId]? ∨
    ∃ job networkInfo info, s.networkInfoWorker = .publishing job networkInfo ∧
      s.deviceNetworkInfo[deviceId]? = some info ∧ info.clientIp = job.clientIp ∧
      (s.work config now answer).deviceNetworkInfo[deviceId]? = some networkInfo := by
  cases work_cases (s := s) config now answer with
  | publishes job networkInfo hworker hresult =>
      rw [hresult]
      rcases updateDevicesWithClientIp_row (s := s) job.clientIp networkInfo deviceId with h | ⟨info, h⟩
      · exact .inl h
      · exact .inr ⟨job, networkInfo, info, hworker, h⟩
  | requeues job retryAt _ hresult =>
      left
      rw [hresult]
      show (s.requeueJob job retryAt).deviceNetworkInfo[deviceId]? = _
      unfold requeueJob
      dsimp only
      split <;> rfl
  | moves _ _ _ _ hresult | stale _ _ _ hresult | settles _ _ _ hresult | drops _ _ _ hresult =>
      rw [hresult]
      exact .inl rfl

/-- A device with the address is told what the worker has found out. -/
theorem publishing_work {job : GeoIpLookupJob} {networkInfo : ClientNetworkInfo}
    (hworker : s.networkInfoWorker = .publishing job networkInfo) (hnonempty : job.clientIp ≠ [])
    (now : Int) (answer : GeoAnswer) {deviceId : Bytes} {info : ClientNetworkInfo}
    (hinfo : (s.work config now answer).deviceNetworkInfo[deviceId]? = some info)
    (hip : info.clientIp = job.clientIp) : info = networkInfo := by
  unfold work at hinfo
  rw [hworker] at hinfo
  have hrow : (s.updateDevicesWithClientIp job.clientIp networkInfo).deviceNetworkInfo[deviceId]?
      = some info := hinfo
  unfold updateDevicesWithClientIp at hrow
  rw [if_neg hnonempty] at hrow
  dsimp only at hrow
  rw [Std.ExtTreeMap.getElem?_map] at hrow
  cases hold : s.deviceNetworkInfo[deviceId]? with
  | none =>
      rw [hold] at hrow
      exact absurd hrow (by simp)
  | some old =>
      rw [hold, Option.map_some, Option.some.injEq] at hrow
      by_cases holdIp : old.clientIp = job.clientIp
      · rw [if_pos holdIp] at hrow
        exact hrow.symm
      · rw [if_neg holdIp] at hrow
        rw [hrow] at holdIp
        exact absurd hip holdIp

/-- The mark is set again in the section that takes it away. -/
theorem pending_requeueJob {job : GeoIpLookupJob} (hrunning : s.networkInfoStop = false)
    (hroom : s.networkInfoJobs.length < maxClientNetworkInfoJobs) (retryAt : Int) :
    (s.requeueJob job retryAt).pendingIpLookupAt[job.clientIp]? ≠ none := by
  unfold requeueJob
  rw [if_pos (by rw [hrunning]; simpa using hroom)]
  show ((s.pendingIpLookupAt.erase job.clientIp).insert job.clientIp retryAt)[job.clientIp]? ≠ none
  rw [Std.ExtTreeMap.getElem?_insert_eq, if_pos rfl]
  simp

theorem requeueJob_pending_of_ne {job : GeoIpLookupJob} {retryAt : Int} {clientIp : Bytes}
    (hip : job.clientIp ≠ clientIp) :
    (s.requeueJob job retryAt).pendingIpLookupAt[clientIp]? = s.pendingIpLookupAt[clientIp]? := by
  unfold requeueJob
  dsimp only
  split
  · show ((s.pendingIpLookupAt.erase job.clientIp).insert job.clientIp retryAt)[clientIp]? = _
    rw [Std.ExtTreeMap.getElem?_insert_eq, if_neg hip, Std.ExtTreeMap.getElem?_erase_eq, if_neg hip]
  · show (s.pendingIpLookupAt.erase job.clientIp)[clientIp]? = _
    rw [Std.ExtTreeMap.getElem?_erase_eq, if_neg hip]

/-- **What becomes of a mark** in a step of the worker: it stays, or the worker goes on to publish, or it
    gives the address up. -/
theorem pending_work (config : GeoIpConfig) (hrunning : s.networkInfoStop = false)
    (hroom : s.networkInfoJobs.length < maxClientNetworkInfoJobs) (now : Int) (answer : GeoAnswer)
    {clientIp : Bytes} (h : s.pendingIpLookupAt[clientIp]? ≠ none) :
    (s.work config now answer).pendingIpLookupAt[clientIp]? ≠ none ∨
      Publishes (s.work config now answer) clientIp ∨
      ∃ job refused, givenUp s.networkInfoWorker = some (job, refused) ∧ job.clientIp = clientIp := by
  have herased : ∀ job : GeoIpLookupJob, job.clientIp ≠ clientIp →
      (s.pendingIpLookupAt.erase job.clientIp)[clientIp]? ≠ none := by
    intro job hip
    rw [Std.ExtTreeMap.getElem?_erase_eq, if_neg hip]
    exact h
  cases work_cases (s := s) config now answer with
  | moves _ _ _ _ hresult | stale _ _ _ hresult =>
      rw [hresult]
      exact .inl h
  | settles job networkInfo hworker hresult =>
      rw [hresult]
      by_cases hip : job.clientIp = clientIp
      · exact .inr (.inl ⟨job, networkInfo, rfl, hip⟩)
      · exact .inl (herased job hip)
  | publishes job networkInfo hworker hresult =>
      left
      rw [hresult]
      show (s.updateDevicesWithClientIp job.clientIp networkInfo).pendingIpLookupAt[clientIp]? ≠ none
      rw [updateDevicesWithClientIp_pending]
      exact h
  | drops job refused hworker hresult =>
      by_cases hip : job.clientIp = clientIp
      · refine .inr (.inr ⟨job, refused, ?_, hip⟩)
        rw [hworker]
        rfl
      · rw [hresult]
        exact .inl (herased job hip)
  | requeues job retryAt hworker hresult =>
      left
      rw [hresult]
      by_cases hip : job.clientIp = clientIp
      · rw [← hip]
        exact pending_requeueJob hrunning hroom retryAt
      · show (s.requeueJob job retryAt).pendingIpLookupAt[clientIp]? ≠ none
        rw [requeueJob_pending_of_ne hip]
        exact h

theorem pending_enqueue {clientIp : Bytes} (hnonempty : clientIp ≠ []) (hrunning : s.networkInfoStop = false)
    (hroom : s.networkInfoJobs.length < maxClientNetworkInfoJobs) (delay now : Int) :
    (s.enqueueGeoIpLookup clientIp delay now).pendingIpLookupAt[clientIp]? ≠ none := by
  unfold enqueueGeoIpLookup
  rw [if_neg hnonempty, if_neg (by rw [hrunning]; simp)]
  split
  · rename_i hpending
    rw [Std.ExtTreeMap.contains_eq_isSome_getElem?] at hpending
    exact Option.isSome_iff_ne_none.mp hpending
  · rw [if_neg (by omega)]
    show (s.pendingIpLookupAt.insert clientIp _)[clientIp]? ≠ none
    rw [Std.ExtTreeMap.getElem?_insert_eq, if_pos rfl]
    simp

/-- A mark is not taken away by an enqueue. -/
theorem pending_enqueue_of_pending {clientIp : Bytes} (h : s.pendingIpLookupAt[clientIp]? ≠ none)
    (other : Bytes) (delay now : Int) :
    (s.enqueueGeoIpLookup other delay now).pendingIpLookupAt[clientIp]? ≠ none := by
  rcases enqueueGeoIpLookup_cases (s := s) other delay now with hsame | ⟨_, _, _, _, runAt, hpush⟩
  · rw [hsame]
    exact h
  · rw [hpush]
    show (s.pendingIpLookupAt.insert other runAt)[clientIp]? ≠ none
    rw [Std.ExtTreeMap.getElem?_insert_eq]
    split
    · simp
    · exact h

/-- An enqueue leaves the worker and the stored addresses alone. -/
theorem enqueue_kept (clientIp : Bytes) (delay now : Int) :
    (s.enqueueGeoIpLookup clientIp delay now).deviceNetworkInfo = s.deviceNetworkInfo ∧
    (s.enqueueGeoIpLookup clientIp delay now).networkInfoWorker = s.networkInfoWorker ∧
    (s.enqueueGeoIpLookup clientIp delay now).networkInfoStop = s.networkInfoStop := by
  rcases enqueueGeoIpLookup_cases (s := s) clientIp delay now with h | ⟨_, _, _, _, _, h⟩ <;> rw [h] <;>
    exact ⟨rfl, rfl, rfl⟩

end Worker

/-! ## The invariant -/

/-- What holds as long as nobody's lookup is given up. -/
structure Covered (config : GeoIpConfig) (s : LoginLookups) : Prop where
  accounted : s.lookup.Accounted
  running : s.lookup.networkInfoStop = false
  located : Located s.lookup.networkInfoWorker
  /-- Who is owed a lookup has a mark, or the worker is about to publish. -/
  covered : 0 < config.failureTtlMs → ∀ deviceId clientIp, s.Awaits deviceId clientIp →
    s.lookup.pendingIpLookupAt[clientIp]? ≠ none ∨ Publishes s.lookup clientIp

variable {config : GeoIpConfig} {s : LoginLookups}

theorem started_covered : started.Covered config where
  accounted := initial_accounted.step config .start
  running := rfl
  located := trivial
  covered := by
    rintro _ deviceId clientIp ⟨_, _, henqueued, _⟩
    exact absurd henqueued (by simp [started])

/-- A worker that holds no job leaves the marks to the queue. -/
theorem inFlight_of_not_holdsJob {worker : LookupWorker} (h : worker.holdsJob = false) :
    worker.inFlight = none ∧ ∀ job networkInfo, worker ≠ .publishing job networkInfo := by
  cases worker with
  | absent => exact ⟨rfl, fun job networkInfo hpublishing => by cases hpublishing⟩
  | waiting => exact ⟨rfl, fun job networkInfo hpublishing => by cases hpublishing⟩
  | exited => exact ⟨rfl, fun job networkInfo hpublishing => by cases hpublishing⟩
  | _ => simp [LookupWorker.holdsJob] at h

theorem Covered.noneLost (hs : s.Covered config) : s.NoneLost config := by
  intro hidle hretried deviceId clientIp hawaits
  obtain ⟨hnone, hnotPublishing⟩ := inFlight_of_not_holdsJob hidle
  rcases hs.covered hretried deviceId clientIp hawaits with hmark | ⟨job, networkInfo, hworker, _⟩
  · obtain ⟨job, hjob, hip⟩ := hs.accounted.owned.exists_job hmark
    rw [unfinished, hs.running, hnone] at hjob
    exact ⟨job, by simpa using hjob, hip⟩
  · exact absurd hworker (hnotPublishing job networkInfo)

/-- Who is owed a lookup after a step of the worker was before, unless the step refuses it or writes what
    was found out about the address. -/
theorem awaits_of_work {now : Int} {answer : GeoAnswer} {deviceId clientIp : Bytes}
    (hlocated : Located s.lookup.networkInfoWorker)
    (h : (s.perform config (.work now answer)).Awaits deviceId clientIp) :
    s.Awaits deviceId clientIp ∧ ∀ job, givenUp s.lookup.networkInfoWorker = some (job, true) →
      job.clientIp ≠ clientIp := by
  obtain ⟨⟨info, hinfo, hip, hraw⟩, hnonempty, henqueued, hrefused⟩ := h
  have hrefused' : s.refused deviceId = false ∧ refuses s.lookup deviceId = false := by
    have hor : (s.refused deviceId || refuses s.lookup deviceId) = false := hrefused
    rwa [Bool.or_eq_false_iff] at hor
  -- a row that is written has a location, and is owed nothing any more
  have hinfo' : s.lookup.deviceNetworkInfo[deviceId]? = some info := by
    rcases deviceNetworkInfo_work (s := s.lookup) config now answer deviceId with hsame |
      ⟨job, networkInfo, _, hworker, _, _, hwritten⟩
    · rw [← hsame]
      exact hinfo
    · have heq : info = networkInfo := by
        have hrow : some info = some networkInfo := hinfo.symm.trans hwritten
        exact Option.some.inj hrow
      rw [hworker] at hlocated
      exact absurd (heq ▸ hraw) hlocated
  refine ⟨⟨⟨info, hinfo', hip, hraw⟩, hnonempty, henqueued, hrefused'.1⟩, fun job hjob heq => ?_⟩
  -- a refusal of the address would refuse the device
  have hrefuses : refuses s.lookup deviceId = true := by
    rw [refuses, hjob, storedIp, hinfo', Option.map_some, hip]
    show (some clientIp == some job.clientIp) = true
    rw [heq]
    simp
  rw [hrefused'.2] at hrefuses
  exact absurd hrefuses (by simp)

theorem Covered.work (hs : s.Covered config) (hroom : s.BelowLimit) (now : Int) (answer : GeoAnswer)
    (hnobody : s.GivesUpNobody config (.work now answer)) :
    (s.perform config (.work now answer)).Covered config where
  accounted := hs.accounted.work config now answer
  running := by
    show (s.lookup.work config now answer).networkInfoStop = false
    rw [work_stop]
    exact hs.running
  located := located_work hs.located now answer
  covered := by
    intro hretried deviceId clientIp hawaits
    obtain ⟨hbefore, hnotRefused⟩ := awaits_of_work hs.located hawaits
    rcases hs.covered hretried deviceId clientIp hbefore with hmark | ⟨job, networkInfo, hworker, hip⟩
    · rcases pending_work config hs.running hroom now answer hmark with h | h |
        ⟨job, refused, hgiven, hip⟩
      · exact .inl h
      · exact .inr h
      · cases refused with
        | true => exact absurd hip (hnotRefused job hgiven)
        | false => exact absurd (hip ▸ hbefore) (hnobody now answer rfl hretried job hgiven deviceId)
    · -- what is published reaches the device
      exfalso
      obtain ⟨⟨info, hinfo, hinfoIp, hraw⟩, hnonempty, _, _⟩ := hawaits
      have heq := publishing_work hworker (by rw [hip]; exact hnonempty) now answer hinfo
        (hinfoIp.trans hip.symm)
      have hlocated := hs.located
      rw [hworker] at hlocated
      exact hlocated (heq ▸ hraw)

theorem Covered.store (hs : s.Covered config) (d ip : Bytes) :
    (s.perform config (.store d ip)).Covered config := by
  unfold perform
  dsimp only
  by_cases hnil : d = []
  · rw [if_pos hnil]
    exact hs
  · rw [if_neg hnil]
    have hset : s.lookup.setDeviceNetworkInfo d (rawNetworkInfo ip) =
        { s.lookup with
          deviceNetworkInfo := s.lookup.deviceNetworkInfo.insert d (rawNetworkInfo ip) } := if_neg hnil
    refine ⟨hs.accounted.step config (.setDeviceNetworkInfo d _), ?_, ?_, ?_⟩
    · rw [hset]
      exact hs.running
    · rw [hset]
      exact hs.located
    · rintro hretried deviceId clientIp ⟨hstored, hnonempty, henqueued, hrefused⟩
      dsimp only at hstored henqueued hrefused
      -- the device that has just logged in has not asked yet
      have hother : d ≠ deviceId := by
        rintro rfl
        rw [Function.update_self] at henqueued
        exact absurd henqueued (by simp)
      rw [hset] at hstored ⊢
      dsimp only at hstored
      rw [Std.ExtTreeMap.getElem?_insert_eq, if_neg hother] at hstored
      rw [Function.update_of_ne (Ne.symm hother)] at henqueued hrefused
      exact hs.covered hretried deviceId clientIp ⟨hstored, hnonempty, henqueued, hrefused⟩

theorem Covered.enqueue (hs : s.Covered config) (hroom : s.BelowLimit) (d ip : Bytes) (now : Int) :
    (s.perform config (.enqueue d ip now)).Covered config := by
  unfold perform
  dsimp only
  by_cases hlogin : (d, ip) ∈ s.logins
  · rw [if_pos hlogin]
    obtain ⟨hdevices, hworker, hstop⟩ := enqueue_kept (s := s.lookup) ip 0 now
    refine ⟨hs.accounted.step config (.enqueue ip 0 now), ?_, ?_, ?_⟩
    · rw [hstop]
      exact hs.running
    · rw [hworker]
      exact hs.located
    · rintro hretried deviceId clientIp ⟨hstored, hnonempty, henqueued, hrefused⟩
      dsimp only at hstored henqueued hrefused ⊢
      rw [hdevices] at hstored
      by_cases hcurrent : deviceId = d ∧ storedIp s.lookup d = some ip
      · -- the login's own lookup, granted now or pending already
        obtain ⟨rfl, hcurrent⟩ := hcurrent
        obtain ⟨info, hinfo, hip, _⟩ := hstored
        rw [storedIp, hinfo, Option.map_some, Option.some.injEq] at hcurrent
        have heq : ip = clientIp := hcurrent.symm.trans hip
        subst heq
        exact .inl (pending_enqueue hnonempty hs.running hroom 0 now)
      · have hflags : s.enqueued deviceId = true ∧ s.refused deviceId = false := by
          by_cases hip : storedIp s.lookup d = some ip
          · have hne : deviceId ≠ d := fun h => hcurrent ⟨h, hip⟩
            rw [if_pos hip, Function.update_of_ne hne] at henqueued hrefused
            exact ⟨henqueued, hrefused⟩
          · rw [if_neg hip] at henqueued hrefused
            exact ⟨henqueued, hrefused⟩
        rcases hs.covered hretried deviceId clientIp ⟨hstored, hnonempty, hflags.1, hflags.2⟩ with h | h
        · exact .inl (pending_enqueue_of_pending h ip 0 now)
        · right
          rw [Publishes, hworker]
          exact h
  · rw [if_neg hlogin]
    exact hs

theorem Covered.logout (hs : s.Covered config) (d : Bytes) :
    (s.perform config (.logout d)).Covered config := by
  refine ⟨hs.accounted.step config (.forgetDevice d), hs.running, hs.located, ?_⟩
  rintro hretried deviceId clientIp ⟨⟨info, hinfo, hrest⟩, hnonempty, henqueued, hrefused⟩
  have hinfo' : (s.lookup.deviceNetworkInfo.erase d)[deviceId]? = some info := hinfo
  rw [Std.ExtTreeMap.getElem?_erase_eq] at hinfo'
  by_cases hd : d = deviceId
  · rw [if_pos hd] at hinfo'
    exact absurd hinfo' (by simp)
  · rw [if_neg hd] at hinfo'
    exact hs.covered hretried deviceId clientIp ⟨⟨info, hinfo', hrest⟩, hnonempty, henqueued, hrefused⟩

/-- A pop touches no mark, and the worker that takes the job was not about to publish. -/
theorem Covered.pop (hs : s.Covered config) (job : GeoIpLookupJob) (now : Int) :
    (s.perform config (.pop job now)).Covered config := by
  rcases popJob_cases (s := s.lookup) job now with h | ⟨hworker, _, _, h⟩
  · have hsame : s.perform config (.pop job now) = s := by
      show { s with lookup := s.lookup.popJob job now } = s
      rw [h]
    rw [hsame]
    exact hs
  · refine ⟨hs.accounted.step config (.pop job now), ?_, ?_, ?_⟩
    · show (s.lookup.popJob job now).networkInfoStop = false
      rw [h]
      exact hs.running
    · show Located (s.lookup.popJob job now).networkInfoWorker
      rw [h]
      trivial
    · rintro hretried deviceId clientIp ⟨hstored, hnonempty, henqueued, hrefused⟩
      have hstored' : ∃ info, (s.lookup.popJob job now).deviceNetworkInfo[deviceId]? = some info ∧
          info.clientIp = clientIp ∧ info.location = [] := hstored
      rw [h] at hstored'
      left
      show (s.lookup.popJob job now).pendingIpLookupAt[clientIp]? ≠ none
      rw [h]
      rcases hs.covered hretried deviceId clientIp ⟨hstored', hnonempty, henqueued, hrefused⟩ with
        hmark | ⟨_, _, hpublishing, _⟩
      · exact hmark
      · rw [hworker] at hpublishing
        exact absurd hpublishing (by simp)

/-- **A step that gives up nobody keeps the invariant.** -/
theorem Covered.perform (hs : s.Covered config) (hroom : s.BelowLimit) (e : LoginStep)
    (hnobody : s.GivesUpNobody config e) : (s.perform config e).Covered config := by
  cases e with
  | store d ip => exact hs.store d ip
  | enqueue d ip now => exact hs.enqueue hroom d ip now
  | logout d => exact hs.logout d
  | pop job now => exact hs.pop job now
  | work now answer => exact hs.work hroom now answer hnobody

/-- A lookup that is given up is lost: nothing else is queued for the address. -/
theorem givesUpNobody_of_noneLost (hs : s.Covered config) {e : LoginStep}
    (h : (s.perform config e).NoneLost config) : s.GivesUpNobody config e := by
  rintro now answer rfl hretried job hgiven deviceId hawaits
  have hworker : s.lookup.networkInfoWorker = .dropping job false := by
    unfold givenUp at hgiven
    split at hgiven
    · rename_i heq
      rw [heq]
      simp only [Option.some.injEq, Prod.mk.injEq] at hgiven
      rw [hgiven.1, hgiven.2]
    · exact absurd hgiven (by simp)
  have hwork : s.lookup.work config now answer = (s.lookup.erasePending job.clientIp).goTo .waiting := by
    unfold work
    rw [hworker]
  have hafter : (s.perform config (.work now answer)).Awaits deviceId job.clientIp := by
    obtain ⟨hstored, hnonempty, henqueued, hrefused⟩ := hawaits
    refine ⟨?_, hnonempty, henqueued, ?_⟩
    · show ∃ info, (s.lookup.work config now answer).deviceNetworkInfo[deviceId]? = some info ∧ _
      rw [hwork]
      exact hstored
    · show (s.refused deviceId || refuses s.lookup deviceId) = false
      rw [hrefused, refuses, hgiven]
      rfl
  have hidle : (s.perform config (.work now answer)).lookup.networkInfoWorker.holdsJob = false := by
    show (s.lookup.work config now answer).networkInfoWorker.holdsJob = false
    rw [hwork]
    rfl
  obtain ⟨other, hother, hip⟩ := h hidle hretried deviceId job.clientIp hafter
  have hqueued : other ∈ s.lookup.networkInfoJobs := by
    have hmem : other ∈ (s.lookup.work config now answer).networkInfoJobs := hother
    rw [hwork] at hmem
    exact hmem
  -- but the job in flight is the only one with its address
  have hdistinct := hs.accounted.owned.distinct
  rw [unfinished, hs.running, hworker, List.map_append, List.nodup_append'] at hdistinct
  exact hdistinct.2.2 (List.mem_map.mpr ⟨other, hqueued, hip⟩)
    (by simp [LookupWorker.inFlight])

/-- **No lost lookup, exactly.** In every run of logins, logouts and sections of the worker in which the
    queue stays below its limit: no lookup is lost in any state if and only if no step gives up a lookup
    that a device is owed. -/
theorem noneLost_iff (config : GeoIpConfig) {steps : List LoginStep}
    (hbelow : Run.EveryState (perform config) BelowLimit started steps) :
    Run.EveryState (perform config) (NoneLost config) started steps ↔
      Run.EveryStep (perform config) (GivesUpNobody config) started steps :=
  Run.everyState_iff_everyStep_of (perform config) (I := Covered config) (fun _ hs => hs.noneLost)
    (fun _ e hroom hs hnobody => hs.perform hroom e hnobody)
    (fun _ _ _ hs h => givesUpNobody_of_noneLost hs h) started_covered hbelow

/-! ## Runs on fixed inputs -/

/-- The defaults. -/
def defaultConfig : GeoIpConfig := ⟨60000, 1800000⟩

/-- What the lookup service says about an address it knows. -/
def sampleAnswer : GeoAnswer := ⟨⟨[], bytes "China", bytes "Hubei", [], bytes "China Hubei"⟩, true⟩

/-- A device logs in, and its address is looked up. -/
def lookedUpRun : List LoginStep :=
  [.store (bytes "100000000") (bytes "8.8.8.8"), .enqueue (bytes "100000000") (bytes "8.8.8.8") 0,
    .pop ⟨bytes "8.8.8.8", 0⟩ 0, .work 0 sampleAnswer, .work 0 sampleAnswer, .work 0 sampleAnswer,
    .work 0 sampleAnswer, .work 0 sampleAnswer, .work 0 sampleAnswer]

theorem givesUpNobody_of_not_dropping {e : LoginStep}
    (h : givenUp s.lookup.networkInfoWorker = none) : s.GivesUpNobody config e := by
  intro _ _ _ _ job hgiven
  rw [h] at hgiven
  exact absurd hgiven (by simp)

theorem lookedUpRun_noneLost :
    Run.EveryState (perform defaultConfig) (NoneLost defaultConfig) started lookedUpRun := by
  apply (noneLost_iff defaultConfig (by decide)).mpr
  refine ⟨?_, ?_, ?_, ?_, ?_, ?_, ?_, ?_, ?_, trivial⟩ <;>
    exact givesUpNobody_of_not_dropping (by decide)

/-- A device comes back from another address; before the worker has given up the old one, a second
    device logs in from there. -/
def lostRun : List LoginStep :=
  [.store (bytes "100000000") (bytes "8.8.8.8"), .enqueue (bytes "100000000") (bytes "8.8.8.8") 0,
    .pop ⟨bytes "8.8.8.8", 0⟩ 0, .work 0 sampleAnswer,
    .store (bytes "100000000") (bytes "9.9.9.9"), .enqueue (bytes "100000000") (bytes "9.9.9.9") 0,
    .work 0 sampleAnswer,
    .store (bytes "200000000") (bytes "8.8.8.8"), .enqueue (bytes "200000000") (bytes "8.8.8.8") 0,
    .work 0 sampleAnswer]

/-- **The second device never gets its lookup.** -/
theorem lostRun_loses : Run.EveryState (perform defaultConfig) BelowLimit started lostRun ∧
    ¬ Run.EveryState (perform defaultConfig) (NoneLost defaultConfig) started lostRun := by
  refine ⟨by decide, fun h => ?_⟩
  have hawaits : (Run.run (perform defaultConfig) started lostRun).Awaits (bytes "200000000")
      (bytes "8.8.8.8") :=
    ⟨⟨rawNetworkInfo (bytes "8.8.8.8"), by decide, rfl, rfl⟩, by decide, by decide, by decide⟩
  obtain ⟨job, hjob, haddress⟩ := h _ List.prefix_rfl (by decide) (by decide) _ _ hawaits
  -- what is queued is the other address of the first device
  have hother : ∀ job ∈ (Run.run (perform defaultConfig) started lostRun).lookup.networkInfoJobs,
      job.clientIp ≠ bytes "8.8.8.8" := by decide
  exact hother job hjob haddress

end LoginLookups
end DeskServer
