import DeskServer.Database.Presence

/-!
# `Server.GeoLookup` — the queue of address lookups and its worker

A login stores the address of the device and asks for a lookup of it; a worker thread takes the jobs one
by one, asks the resolver, and writes what it finds to every device with the address. The queue and the
marks of the pending addresses are guarded by one mutex, the stored addresses by another; a step below is
what runs under one lock, or between two. What the clock and the lookup answer is given to each step.
-/

namespace DeskServer

/-! ## Configuration -/

/-- `CROSSDESK_GEOIP_FAILURE_TTL_MS` and `CROSSDESK_GEOIP_FAILURE_MAX_TTL_MS`. -/
structure GeoIpConfig where
  failureTtlMs : Nat
  failureMaxTtlMs : Nat

/-- The loop of `GeoIpFailureRetryDelay`, with `n` doublings left. -/
def doubleDelay (maxDelayMs : Nat) : Nat → Nat → Nat
  | 0, delayMs => delayMs
  | n + 1, delayMs =>
    if delayMs < maxDelayMs then
      doubleDelay maxDelayMs n (if delayMs > maxDelayMs / 2 then maxDelayMs else delayMs * 2)
    else delayMs

/-- `GeoIpFailureRetryDelay`, in milliseconds. -/
def geoIpFailureRetryDelay (config : GeoIpConfig) (failureCount : Nat) : Nat :=
  if config.failureTtlMs = 0 then 0
  else doubleDelay (max config.failureTtlMs config.failureMaxTtlMs) (failureCount - 1)
    config.failureTtlMs

example : geoIpFailureRetryDelay ⟨60000, 1800000⟩ 4 = 480000 := by decide

/-! ## The resolver -/

structure GeoLocationResolveResult where
  info : ClientNetworkInfo
  resolved : Bool
  retryable : Bool

/-- What the cache, the private ranges or the lookup service say about an address. -/
structure GeoAnswer where
  info : ClientNetworkInfo
  /-- The address was looked up, so that a failure may be tried again. -/
  lookedUp : Bool

def hasLocationResult (info : ClientNetworkInfo) : Bool := !info.location.isEmpty

/-- `ResolveWithRetryInfo`, given the answer. -/
def resolveWithRetryInfo (answer : GeoAnswer) (ip : Bytes) : GeoLocationResolveResult :=
  let info := { answer.info with clientIp := ip }
  ⟨info, hasLocationResult info, !hasLocationResult info && answer.lookedUp⟩

/-! ## State -/

structure GeoIpLookupJob where
  clientIp : Bytes
  /-- Nanoseconds of the steady clock. -/
  runAt : Int
deriving DecidableEq

/-- `kMaxClientNetworkInfoJobs`. -/
def maxClientNetworkInfoJobs : Nat := 1024

/-- Where the worker thread stands, between two critical sections. -/
inductive LookupWorker where
  /-- Not joinable. -/
  | absent
  /-- At the top of the loop. -/
  | waiting
  /-- Before the first section of `ProcessGeoIpLookup`. -/
  | checking (job : GeoIpLookupJob)
  /-- Before the first `HasDeviceWithClientIp`. -/
  | testing (job : GeoIpLookupJob)
  | resolving (job : GeoIpLookupJob)
  /-- Before the second `HasDeviceWithClientIp`. -/
  | retesting (job : GeoIpLookupJob) (result : GeoLocationResolveResult)
  /-- Before the section of a resolved lookup. -/
  | settling (job : GeoIpLookupJob) (networkInfo : ClientNetworkInfo)
  /-- Before `UpdateDevicesWithClientIp`. -/
  | publishing (job : GeoIpLookupJob) (networkInfo : ClientNetworkInfo)
  | counting (job : GeoIpLookupJob)
  /-- Before the third `HasDeviceWithClientIp`. -/
  | deciding (job : GeoIpLookupJob) (retryDelay : Nat)
  | requeueing (job : GeoIpLookupJob) (retryAt : Int)
  /-- Before the section that gives the lookup up; `refused` when it is not to be tried again. -/
  | dropping (job : GeoIpLookupJob) (refused : Bool)
  /-- Returned, not joined yet. -/
  | exited

namespace LookupWorker

/-- The job in flight, until its final critical section. -/
def inFlight : LookupWorker → Option GeoIpLookupJob
  | .checking job | .testing job | .resolving job | .retesting job _ | .settling job _ | .counting job
  | .deciding job _ | .requeueing job _ | .dropping job _ => some job
  | .absent | .waiting | .publishing _ _ | .exited => none

/-- The worker is inside `ProcessGeoIpLookup`. -/
def holdsJob : LookupWorker → Bool
  | .absent | .waiting | .exited => false
  | _ => true

end LookupWorker

/-- The members of `SignalServer` the lookups use, and `device_network_info_` of its presence manager. -/
structure GeoLookup where
  networkInfoJobs : List GeoIpLookupJob
  pendingIpLookupAt : Std.ExtTreeMap Bytes Int
  geoIpFailureCounts : Std.ExtTreeMap Bytes Nat
  networkInfoStop : Bool
  networkInfoWorker : LookupWorker
  deviceNetworkInfo : Std.ExtTreeMap Bytes ClientNetworkInfo

namespace GeoLookup

/-- A server that was just constructed. -/
def initial : GeoLookup := ⟨[], ∅, ∅, false, .absent, ∅⟩

/-! ## The presence manager's sections -/

def setDeviceNetworkInfo (s : GeoLookup) (deviceId : Bytes) (networkInfo : ClientNetworkInfo) :
    GeoLookup :=
  if deviceId = [] then s
  else { s with deviceNetworkInfo := s.deviceNetworkInfo.insert deviceId networkInfo }

def hasDeviceWithClientIp (s : GeoLookup) (clientIp : Bytes) : Bool :=
  clientIp ≠ [] && s.deviceNetworkInfo.toList.any fun e => e.2.clientIp == clientIp

def updateDevicesWithClientIp (s : GeoLookup) (clientIp : Bytes) (networkInfo : ClientNetworkInfo) :
    GeoLookup :=
  if clientIp = [] then s
  else
    { s with deviceNetworkInfo := s.deviceNetworkInfo.map fun _ info =>
        if info.clientIp = clientIp then networkInfo else info }

@[simp] theorem updateDevicesWithClientIp_jobs (s : GeoLookup) (clientIp : Bytes)
    (networkInfo : ClientNetworkInfo) :
    (s.updateDevicesWithClientIp clientIp networkInfo).networkInfoJobs = s.networkInfoJobs := by
  unfold updateDevicesWithClientIp
  split <;> rfl

@[simp] theorem updateDevicesWithClientIp_pending (s : GeoLookup) (clientIp : Bytes)
    (networkInfo : ClientNetworkInfo) :
    (s.updateDevicesWithClientIp clientIp networkInfo).pendingIpLookupAt = s.pendingIpLookupAt := by
  unfold updateDevicesWithClientIp
  split <;> rfl

@[simp] theorem updateDevicesWithClientIp_stop (s : GeoLookup) (clientIp : Bytes)
    (networkInfo : ClientNetworkInfo) :
    (s.updateDevicesWithClientIp clientIp networkInfo).networkInfoStop = s.networkInfoStop := by
  unfold updateDevicesWithClientIp
  split <;> rfl

/-- `device_network_info_.erase`, in `OnLogout`. -/
def forgetDevice (s : GeoLookup) (deviceId : Bytes) : GeoLookup :=
  { s with deviceNetworkInfo := s.deviceNetworkInfo.erase deviceId }

/-! ## The server's sections -/

/-- Set the mark and queue the job. -/
def pushJob (s : GeoLookup) (clientIp : Bytes) (runAt : Int) : GeoLookup :=
  { s with
      pendingIpLookupAt := s.pendingIpLookupAt.insert clientIp runAt
      networkInfoJobs := ⟨clientIp, runAt⟩ :: s.networkInfoJobs }

/-- `EnqueueGeoIpLookup`, with a delay in milliseconds. -/
def enqueueGeoIpLookup (s : GeoLookup) (clientIp : Bytes) (delay : Int) (now : Int) : GeoLookup :=
  if clientIp = [] then s
  else if s.networkInfoStop then s
  -- the address is queued or looked up already
  else if s.pendingIpLookupAt.contains clientIp then s
  -- a full queue drops the request without a mark
  else if maxClientNetworkInfoJobs ≤ s.networkInfoJobs.length then s
  else s.pushJob clientIp (now + max delay 0 * 1000000)

/-- `pending_ip_lookup_at_.erase` and `geo_ip_failure_counts_.erase`. -/
def erasePending (s : GeoLookup) (clientIp : Bytes) : GeoLookup :=
  { s with
      pendingIpLookupAt := s.pendingIpLookupAt.erase clientIp
      geoIpFailureCounts := s.geoIpFailureCounts.erase clientIp }

/-- `++geo_ip_failure_counts_[client_ip]`. -/
def failureCount (s : GeoLookup) (clientIp : Bytes) : Nat :=
  (s.geoIpFailureCounts[clientIp]?).getD 0 + 1

/-- The section that puts a failed job back. The failure count stays. -/
def requeueJob (s : GeoLookup) (job : GeoIpLookupJob) (retryAt : Int) : GeoLookup :=
  let erased := { s with pendingIpLookupAt := s.pendingIpLookupAt.erase job.clientIp }
  if !s.networkInfoStop && s.networkInfoJobs.length < maxClientNetworkInfoJobs then
    erased.pushJob job.clientIp retryAt
  else erased

/-- The worker takes a job that is due and not later than any other. -/
def popJob (s : GeoLookup) (job : GeoIpLookupJob) (now : Int) : GeoLookup :=
  match s.networkInfoWorker with
  | .waiting =>
    if !s.networkInfoStop && job ∈ s.networkInfoJobs && decide (job.runAt ≤ now) &&
        s.networkInfoJobs.all fun other => job.runAt ≤ other.runAt then
      { s with
          networkInfoJobs := s.networkInfoJobs.erase job
          networkInfoWorker := .checking job }
    else s
  | _ => s

/-- The worker goes on. -/
def goTo (s : GeoLookup) (worker : LookupWorker) : GeoLookup := { s with networkInfoWorker := worker }

/-- The next step of the worker, outside the queue: one test, one section, or the lookup. -/
def work (config : GeoIpConfig) (s : GeoLookup) (now : Int) (answer : GeoAnswer) : GeoLookup :=
  match s.networkInfoWorker with
  | .absent | .exited => s
  | .waiting => if s.networkInfoStop then s.goTo .exited else s
  | .checking job =>
    -- a stop may have cleared the mark since the job was taken
    if s.pendingIpLookupAt[job.clientIp]? = some job.runAt then s.goTo (.testing job)
    else s.goTo .waiting
  | .testing job =>
    -- every device with the address may have left while the job was queued
    if s.hasDeviceWithClientIp job.clientIp then s.goTo (.resolving job)
    else s.goTo (.dropping job false)
  | .resolving job => s.goTo (.retesting job (resolveWithRetryInfo answer job.clientIp))
  | .retesting job result =>
    -- or while it was looked up
    if !s.hasDeviceWithClientIp job.clientIp then s.goTo (.dropping job false)
    else if result.resolved then s.goTo (.settling job result.info)
    else if !result.retryable then s.goTo (.dropping job true)
    else s.goTo (.counting job)
  | .settling job networkInfo =>
    -- the address can be queued again before the devices are written
    (s.erasePending job.clientIp).goTo (.publishing job networkInfo)
  | .publishing job networkInfo =>
    (s.updateDevicesWithClientIp job.clientIp networkInfo).goTo .waiting
  | .counting job =>
    let count := s.failureCount job.clientIp
    { s with geoIpFailureCounts := s.geoIpFailureCounts.insert job.clientIp count }.goTo
      (.deciding job (geoIpFailureRetryDelay config count))
  | .deciding job retryDelay =>
    -- without a delay a failure is final
    if 0 < retryDelay && s.hasDeviceWithClientIp job.clientIp then
      s.goTo (.requeueing job (now + retryDelay * 1000000))
    else s.goTo (.dropping job false)
  | .requeueing job retryAt => (s.requeueJob job retryAt).goTo .waiting
  | .dropping job _ => (s.erasePending job.clientIp).goTo .waiting

/-! ## Starting and stopping -/

/-- `StartClientNetworkInfoWorker`. -/
def startClientNetworkInfoWorker (s : GeoLookup) : GeoLookup :=
  match s.networkInfoWorker with
  | .absent => { s with networkInfoStop := false, networkInfoWorker := .waiting }
  | _ => s

/-- The section of `StopClientNetworkInfoWorker`. -/
def stopClientNetworkInfoWorker (s : GeoLookup) : GeoLookup :=
  { s with
      networkInfoStop := true
      networkInfoJobs := []
      pendingIpLookupAt := ∅
      geoIpFailureCounts := ∅ }

/-- `network_info_worker_.join()`, which returns once the worker has. -/
def joinWorker (s : GeoLookup) : GeoLookup :=
  match s.networkInfoWorker with
  | .exited => s.goTo .absent
  | _ => s

/-! ## Steps -/

/-- Whatever runs next, on any thread. -/
inductive LookupStep where
  | setDeviceNetworkInfo (deviceId : Bytes) (networkInfo : ClientNetworkInfo)
  | forgetDevice (deviceId : Bytes)
  | enqueue (clientIp : Bytes) (delay now : Int)
  | pop (job : GeoIpLookupJob) (now : Int)
  | work (now : Int) (answer : GeoAnswer)
  | start
  | stop
  | join

def step (config : GeoIpConfig) (s : GeoLookup) : LookupStep → GeoLookup
  | .setDeviceNetworkInfo deviceId networkInfo => s.setDeviceNetworkInfo deviceId networkInfo
  | .forgetDevice deviceId => s.forgetDevice deviceId
  | .enqueue clientIp delay now => s.enqueueGeoIpLookup clientIp delay now
  | .pop job now => s.popJob job now
  | .work now answer => s.work config now answer
  | .start => s.startClientNetworkInfoWorker
  | .stop => s.stopClientNetworkInfoWorker
  | .join => s.joinWorker

end GeoLookup
end DeskServer
