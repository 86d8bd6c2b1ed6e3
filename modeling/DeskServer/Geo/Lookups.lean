import DeskServer.Geo.Resolver
import DeskServer.Lib.Memo
import DeskServer.Server.LookupQueue

/-!
# `Geo.Lookups` — the queue, its worker and the resolver together

The queue model takes the answer of a lookup as given. Here the worker asks the resolver, which has its cache
and asks the service; what the service answers is given, anew for each step. **Every run of the whole is a run
of the queue** (`lookups_refine`), so that what holds of the queue holds here. Beyond it: every location that is
stored for a device was found for the address of that device (`stored_locations`), and the service is asked only
about public addresses, and not again about one it has located (`asked_once`).

**Shape.** A step of the whole is a step of the queue with the answer the resolver gives (`step_refines`). The
two further results have an invariant each: the cache grows and remembers what was asked (`Lib.Memo`), and
`Traced` follows a location from the answer of the service to the devices that get it.
-/

namespace DeskServer

open LoginLookups (rawNetworkInfo)
open GeoLocationResolver (FetchRequest fetchRequest isPrivateOrLocalIp readLookupEnabled CacheSound answerBody
  locatedBy NamesPlace)

/-- The lookups with their resolver. -/
structure ResolvedLookups where
  lookup : GeoLookup
  cache : GeoCache
  /-- What the service was asked, for which address. -/
  asked : List (Bytes × FetchRequest)

/-- Whatever runs next, on any thread. -/
inductive ResolvedStep where
  /-- The first section of `EnqueueClientNetworkInfo`. -/
  | login (deviceId clientIp : Bytes)
  | logout (deviceId : Bytes)
  | enqueue (clientIp : Bytes) (now : Int)
  | pop (job : GeoIpLookupJob) (now : Int)
  | work (now : Int) (service : GeoService)
  | start
  | stop
  | join

namespace ResolvedLookups

open GeoLookup

def initial : ResolvedLookups := ⟨GeoLookup.initial, ∅, []⟩

/-- No lookup is made in the other steps of the worker. -/
def noAnswer : GeoAnswer := ⟨rawNetworkInfo [], false⟩

/-- The next step of the worker. -/
def work (config : GeoIpConfig) (asio : AsioIp) (env : GeoEnv) (s : ResolvedLookups) (now : Int)
    (service : GeoService) : ResolvedLookups :=
  match s.lookup.networkInfoWorker with
  | .resolving job =>
    let resolution := GeoLocationResolver.resolveWithRetryInfo asio env service s.cache job.clientIp
    { lookup := s.lookup.goTo (.retesting job resolution.result)
      cache := resolution.cache
      asked := s.asked ++ (resolution.asked.map fun request => (job.clientIp, request)).toList }
  | _ => { s with lookup := s.lookup.work config now noAnswer }

def step (config : GeoIpConfig) (asio : AsioIp) (env : GeoEnv) (s : ResolvedLookups) :
    ResolvedStep → ResolvedLookups
  | .login deviceId clientIp =>
    { s with lookup := s.lookup.setDeviceNetworkInfo deviceId (rawNetworkInfo clientIp) }
  | .logout deviceId => { s with lookup := s.lookup.forgetDevice deviceId }
  | .enqueue clientIp now => { s with lookup := s.lookup.enqueueGeoIpLookup clientIp 0 now }
  | .pop job now => { s with lookup := s.lookup.popJob job now }
  | .work now service => s.work config asio env now service
  | .start => { s with lookup := s.lookup.startClientNetworkInfoWorker }
  | .stop => { s with lookup := s.lookup.stopClientNetworkInfoWorker }
  | .join => { s with lookup := s.lookup.joinWorker }

variable {config : GeoIpConfig} {asio : AsioIp} {env : GeoEnv} {s : ResolvedLookups}

/-! ## What a step of the worker does -/

/-- It asks the resolver, or does what the queue model says. -/
theorem work_cases (config : GeoIpConfig) (asio : AsioIp) (env : GeoEnv) (s : ResolvedLookups) (now : Int)
    (service : GeoService) :
    (∃ job, s.lookup.networkInfoWorker = .resolving job ∧
      s.work config asio env now service =
        { lookup := s.lookup.goTo (.retesting job
            (GeoLocationResolver.resolveWithRetryInfo asio env service s.cache job.clientIp).result)
          cache := (GeoLocationResolver.resolveWithRetryInfo asio env service s.cache job.clientIp).cache
          asked := s.asked ++
            ((GeoLocationResolver.resolveWithRetryInfo asio env service s.cache job.clientIp).asked.map
              fun request => (job.clientIp, request)).toList }) ∨
    ((∀ job, s.lookup.networkInfoWorker ≠ .resolving job) ∧
      s.work config asio env now service = { s with lookup := s.lookup.work config now noAnswer }) := by
  unfold work
  cases hworker : s.lookup.networkInfoWorker with
  | resolving job => exact .inl ⟨job, rfl, rfl⟩
  | _ => exact .inr ⟨fun job h => (by simp at h), rfl⟩

/-! ## The queue is refined -/

/-- What the queue model takes as the answer. -/
def answerOf (result : GeoLocationResolveResult) : GeoAnswer := ⟨result.info, result.retryable⟩

/-- The result of the resolver is the result of the queue model for that answer. -/
theorem resolveWithRetryInfo_answerOf {service : GeoService} {cache : GeoCache} {ip : Bytes}
    {r : GeoLocationResolver.Resolution}
    (h : GeoLocationResolver.Outcome asio env service cache ip r) :
    DeskServer.resolveWithRetryInfo (answerOf r.result) ip = r.result := by
  have hinfo : { r.result.info with clientIp := ip } = r.result.info := by rw [← h.about]
  have hresolved : hasLocationResult r.result.info = r.result.resolved := by
    rw [Bool.eq_iff_iff, GeoLocationResolver.hasLocationResult_iff, h.located]
  have hretryable : (!r.result.resolved && r.result.retryable) = r.result.retryable := by
    cases hr : r.result.retryable with
    | false => simp
    | true =>
        obtain ⟨hasks, hnowhere⟩ := h.retryable.mp hr
        cases hres : r.result.resolved with
        | false => rfl
        | true =>
            rcases (h.resolved.mp hres).2.2 with hknown | hprivate | hplaces
            · exact absurd hasks.unknown hknown
            · rw [hasks.isPublic] at hprivate
              exact absurd hprivate (by simp)
            · exact absurd hplaces hnowhere
  unfold DeskServer.resolveWithRetryInfo answerOf
  dsimp only
  rw [hinfo, hresolved, hretryable]

theorem cacheSound_step (hs : CacheSound s.cache) (e : ResolvedStep) :
    CacheSound (s.step config asio env e).cache := by
  cases e with
  | work now service =>
      show CacheSound (s.work config asio env now service).cache
      rcases work_cases config asio env s now service with ⟨job, _, hresult⟩ | ⟨_, hresult⟩
      · rw [hresult]
        exact (GeoLocationResolver.resolve_outcome_of asio env service hs job.clientIp).sound
      · rw [hresult]
        exact hs
  | _ => exact hs

/-- **Every step is a step of the queue**, over a cache of answers about their addresses. -/
theorem step_refines (config : GeoIpConfig) (hs : CacheSound s.cache) (e : ResolvedStep) :
    ∃ e', (s.step config asio env e).lookup = s.lookup.step config e' := by
  cases e with
  | login deviceId clientIp => exact ⟨.setDeviceNetworkInfo deviceId (rawNetworkInfo clientIp), rfl⟩
  | logout deviceId => exact ⟨.forgetDevice deviceId, rfl⟩
  | enqueue clientIp now => exact ⟨.enqueue clientIp 0 now, rfl⟩
  | pop job now => exact ⟨.pop job now, rfl⟩
  | start => exact ⟨.start, rfl⟩
  | stop => exact ⟨.stop, rfl⟩
  | join => exact ⟨.join, rfl⟩
  | work now service =>
      rcases work_cases config asio env s now service with ⟨job, hworker, hresult⟩ | ⟨_, hresult⟩
      · refine ⟨.work now (answerOf
          (GeoLocationResolver.resolveWithRetryInfo asio env service s.cache job.clientIp).result), ?_⟩
        show (s.work config asio env now service).lookup = s.lookup.work config now _
        rw [hresult]
        unfold GeoLookup.work
        rw [hworker]
        dsimp only
        rw [resolveWithRetryInfo_answerOf
          (GeoLocationResolver.resolve_outcome_of asio env service hs job.clientIp)]
      · refine ⟨.work now noAnswer, ?_⟩
        show (s.work config asio env now service).lookup = _
        rw [hresult]
        rfl

theorem initial_cacheSound : CacheSound initial.cache := fun ip info h => absurd h (by simp [initial])

/-- **The whole refines the queue**: every run of it is a run of the queue, for some answers. -/
theorem lookups_refine (config : GeoIpConfig) (asio : AsioIp) (env : GeoEnv) (steps : List ResolvedStep) :
    ∃ steps', (Run.run (step config asio env) initial steps).lookup =
      Run.run (GeoLookup.step config) GeoLookup.initial steps' :=
  Run.run_refines (step config asio env) (I := fun s => CacheSound s.cache)
    (fun s e hs => cacheSound_step hs e)
    (fun s e hs => by
      obtain ⟨e', he'⟩ := step_refines config hs e
      exact ⟨[e'], he'⟩)
    initial_cacheSound steps

/-! ## Nothing is asked twice -/

/-- The cache, and what was asked, as a memo. -/
def memo (s : ResolvedLookups) : Memo Bytes FetchRequest ClientNetworkInfo := ⟨fun ip => s.cache[ip]?, s.asked⟩

/-- An answer that is kept changes no other. -/
theorem retains_insert {cache : GeoCache} {ip : Bytes} (hunknown : cache[ip]? = none) (info : ClientNetworkInfo) :
    ∀ (k : Bytes) (a : ClientNetworkInfo), cache[k]? = some a → (cache.insert ip info)[k]? = some a := by
  intro k a hk
  rw [Std.ExtTreeMap.getElem?_insert, if_neg]
  · exact hk
  · intro heq
    rw [Std.LawfulEqCmp.compare_eq_iff_eq] at heq
    rw [← heq, hunknown] at hk
    exact absurd hk (by simp)

theorem resolve_retains (asio : AsioIp) (env : GeoEnv) (service : GeoService) (cache : GeoCache) (ip : Bytes) :
    ∀ (k : Bytes) (a : ClientNetworkInfo), cache[k]? = some a →
      (GeoLocationResolver.resolveWithRetryInfo asio env service cache ip).cache[k]? = some a := by
  have hcase := GeoLocationResolver.resolve_cases asio env service cache ip
  generalize GeoLocationResolver.resolveWithRetryInfo asio env service cache ip = r at hcase ⊢
  cases hcase with
  | isPrivate _ _ hunknown _ info => exact retains_insert hunknown info
  | located hasks => exact retains_insert hasks.unknown _
  | refused | known | missed => exact fun k a h => h

theorem resolve_asks {service : GeoService} {cache : GeoCache} {ip : Bytes} {request : FetchRequest}
    (h : (GeoLocationResolver.resolveWithRetryInfo asio env service cache ip).asked = some request) :
    GeoLocationResolver.Asks asio env cache ip ∧ fetchRequest env ip = some request := by
  have hcase := GeoLocationResolver.resolve_cases asio env service cache ip
  generalize GeoLocationResolver.resolveWithRetryInfo asio env service cache ip = r at hcase h
  cases hcase with
  | located hasks => exact ⟨hasks, h⟩
  | missed hasks => exact ⟨hasks, h⟩
  | refused | known | isPrivate => exact absurd h (by simp)

/-- What a step asks. -/
theorem asked_step (config : GeoIpConfig) (asio : AsioIp) (env : GeoEnv) (s : ResolvedLookups)
    (e : ResolvedStep) : ∃ later, (s.step config asio env e).asked = s.asked ++ later ∧
    ∀ question ∈ later, GeoLocationResolver.Asks asio env s.cache question.1 ∧
      fetchRequest env question.1 = some question.2 := by
  have hnothing : ∃ later, s.asked = s.asked ++ later ∧
      ∀ question ∈ later, GeoLocationResolver.Asks asio env s.cache question.1 ∧
        fetchRequest env question.1 = some question.2 :=
    ⟨[], (List.append_nil _).symm, fun _ h => absurd h List.not_mem_nil⟩
  cases e with
  | work now service =>
      show ∃ later, (s.work config asio env now service).asked = s.asked ++ later ∧ _
      rcases work_cases config asio env s now service with ⟨job, _, hresult⟩ | ⟨_, hresult⟩
      · rw [hresult]
        refine ⟨_, rfl, fun question hquestion => ?_⟩
        rw [Option.mem_toList, Option.map_eq_some_iff] at hquestion
        obtain ⟨request, hrequest, rfl⟩ := hquestion
        exact resolve_asks hrequest
      · rw [hresult]
        exact hnothing
  | _ => exact hnothing

theorem grows_step (config : GeoIpConfig) (asio : AsioIp) (env : GeoEnv) (s : ResolvedLookups)
    (e : ResolvedStep) : Memo.Grows (memo s) (memo (s.step config asio env e)) := by
  constructor
  · cases e with
    | work now service =>
        show ∀ (k : Bytes) (a : ClientNetworkInfo), s.cache[k]? = some a →
          (s.work config asio env now service).cache[k]? = some a
        rcases work_cases config asio env s now service with ⟨job, _, hresult⟩ | ⟨_, hresult⟩
        · rw [hresult]
          exact resolve_retains asio env service s.cache job.clientIp
        · rw [hresult]
          exact fun k a h => h
    | _ => exact fun k a h => h
  · obtain ⟨later, hlater, hasks⟩ := asked_step config asio env s e
    exact ⟨later, hlater, fun question hquestion => (hasks question hquestion).1.unknown⟩

/-- The service may be asked about the address. -/
structure MayAsk (asio : AsioIp) (env : GeoEnv) (question : Bytes × FetchRequest) : Prop where
  nonempty : question.1 ≠ []
  enabled : readLookupEnabled env = true
  isPublic : isPrivateOrLocalIp asio question.1 = false
  written : fetchRequest env question.1 = some question.2

/-- **The service is asked sparingly**, in every run: only about public addresses, while the lookups are on, in
    the words of the template; and never again about an address once its location is known, which then stays. -/
theorem asked_once (config : GeoIpConfig) (asio : AsioIp) (env : GeoEnv) (steps later : List ResolvedStep) :
    (∀ question ∈ (Run.run (step config asio env) initial steps).asked, MayAsk asio env question) ∧
      ∀ (ip : Bytes) (info : ClientNetworkInfo),
        (Run.run (step config asio env) initial steps).cache[ip]? = some info →
        (Run.run (step config asio env) initial (steps ++ later)).cache[ip]? = some info ∧
        (Run.run (step config asio env) initial (steps ++ later)).asked.filter (fun q => q.1 = ip) =
          (Run.run (step config asio env) initial steps).asked.filter fun q => q.1 = ip := by
  constructor
  · refine Run.run_invariant (step config asio env)
      (I := fun s => ∀ question ∈ s.asked, MayAsk asio env question) (fun s e hs => ?_)
      (fun _ h => absurd h List.not_mem_nil) steps
    intro question hquestion
    obtain ⟨new, hnew, hasks⟩ := asked_step config asio env s e
    rw [hnew] at hquestion
    rcases List.mem_append.mp hquestion with hold | hquestion
    · exact hs question hold
    · obtain ⟨hmay, hwritten⟩ := hasks question hquestion
      exact ⟨hmay.nonempty, hmay.enabled, hmay.isPublic, hwritten⟩
  · intro ip info hknown
    rw [Run.run_append]
    have hgrows := Memo.grows_run memo (grows_step config asio env)
      (Run.run (step config asio env) initial steps) later
    exact ⟨hgrows.retains ip info hknown, hgrows.asked_eq hknown⟩

/-! ## Where a location comes from -/

/-- **The location was found for its address**: a private one, or one a service answered about with a body that
    names a place. -/
def Found (asio : AsioIp) (env : GeoEnv) (services : GeoService → Prop) (info : ClientNetworkInfo) : Prop :=
  (isPrivateOrLocalIp asio info.clientIp = true ∧
    info = { rawNetworkInfo info.clientIp with location := bytes "Private network" }) ∨
  (isPrivateOrLocalIp asio info.clientIp = false ∧ ∃ service, services service ∧
    ∃ body, answerBody env service info.clientIp = some body ∧ NamesPlace body ∧
      info = locatedBy info.clientIp body)

/-- What the worker carries to the devices is what was found. -/
def Carried (cache : GeoCache) : LookupWorker → Prop
  | .retesting job result => result.resolved = true → cache[job.clientIp]? = some result.info
  | .settling job networkInfo | .publishing job networkInfo => cache[job.clientIp]? = some networkInfo
  | _ => True

/-- What every step keeps, for the services that are asked. -/
structure Traced (asio : AsioIp) (env : GeoEnv) (services : GeoService → Prop) (s : ResolvedLookups) : Prop where
  sound : CacheSound s.cache
  found : ∀ (ip : Bytes) (info : ClientNetworkInfo), s.cache[ip]? = some info → Found asio env services info
  /-- A device has what its login knew, or what the cache says about its address. -/
  stored : ∀ (deviceId : Bytes) (info : ClientNetworkInfo), s.lookup.deviceNetworkInfo[deviceId]? = some info →
    info = rawNetworkInfo info.clientIp ∨ s.cache[info.clientIp]? = some info
  carried : Carried s.cache s.lookup.networkInfoWorker

variable {services : GeoService → Prop}

theorem initial_traced : Traced asio env services initial where
  sound := initial_cacheSound
  found := fun ip info h => absurd h (by simp [initial])
  stored := fun deviceId info h => absurd h (by simp [initial, GeoLookup.initial])
  carried := trivial

/-- A resolved result is in the cache that the resolver leaves. -/
theorem resolve_kept (asio : AsioIp) (env : GeoEnv) (service : GeoService) (cache : GeoCache) (ip : Bytes) :
    (GeoLocationResolver.resolveWithRetryInfo asio env service cache ip).result.resolved = true →
      (GeoLocationResolver.resolveWithRetryInfo asio env service cache ip).cache[ip]? =
        some (GeoLocationResolver.resolveWithRetryInfo asio env service cache ip).result.info := by
  have hcase := GeoLocationResolver.resolve_cases asio env service cache ip
  generalize GeoLocationResolver.resolveWithRetryInfo asio env service cache ip = r at hcase ⊢
  cases hcase with
  | known _ _ info hkept => exact fun _ => hkept
  | isPrivate | located => exact fun _ => Std.ExtTreeMap.getElem?_insert_self
  | refused | missed => exact fun h => absurd h (by simp)

/-- An answer that the resolver adds to the cache was found. -/
theorem resolve_found {service : GeoService} (hservice : services service) {cache : GeoCache} {ip : Bytes}
    (hfound : ∀ (k : Bytes) (info : ClientNetworkInfo), cache[k]? = some info → Found asio env services info)
    {k : Bytes} {info : ClientNetworkInfo}
    (hk : (GeoLocationResolver.resolveWithRetryInfo asio env service cache ip).cache[k]? = some info) :
    Found asio env services info := by
  have hcase := GeoLocationResolver.resolve_cases asio env service cache ip
  generalize GeoLocationResolver.resolveWithRetryInfo asio env service cache ip = r at hcase hk
  cases hcase with
  | isPrivate _ _ _ hprivate added hadded =>
      rw [Std.ExtTreeMap.getElem?_insert] at hk
      split at hk
      · obtain rfl := Option.some.inj hk
        subst hadded
        exact .inl ⟨hprivate, rfl⟩
      · exact hfound k info hk
  | located hasks body hbody hnames =>
      rw [Std.ExtTreeMap.getElem?_insert] at hk
      split at hk
      · obtain rfl := Option.some.inj hk
        exact .inr ⟨hasks.isPublic, service, hservice, body, hbody, hnames, rfl⟩
      · exact hfound k info hk
  | refused | known | missed => exact hfound k info hk

/-- A step of the worker outside the resolver carries on what it has. -/
theorem carried_work {cache : GeoCache} {lookup : GeoLookup} (h : Carried cache lookup.networkInfoWorker)
    (hworker : ∀ job, lookup.networkInfoWorker ≠ .resolving job) (config : GeoIpConfig) (now : Int)
    (answer : GeoAnswer) : Carried cache (lookup.work config now answer).networkInfoWorker := by
  unfold GeoLookup.work
  cases hat : lookup.networkInfoWorker with
  | absent | exited => rw [hat] at h; rw [hat]; exact h
  | waiting =>
      dsimp only
      split
      · trivial
      · rw [hat]
        trivial
  | checking job | testing job => dsimp only; split <;> trivial
  | resolving job => exact absurd hat (hworker job)
  | retesting job result =>
      rw [hat] at h
      dsimp only
      split
      · trivial
      · split
        · rename_i hresolved
          exact h hresolved
        · split <;> trivial
  | settling job networkInfo =>
      rw [hat] at h
      exact h
  | deciding job retryDelay => dsimp only; split <;> trivial
  | publishing | counting | requeueing | dropping => trivial

/-- Neither the addresses nor what the worker carries is touched. -/
theorem Traced.queue (hs : s.Traced asio env services) {lookup : GeoLookup}
    (hinfo : lookup.deviceNetworkInfo = s.lookup.deviceNetworkInfo)
    (hworker : lookup.networkInfoWorker = s.lookup.networkInfoWorker ∨
      Carried s.cache lookup.networkInfoWorker) : ({ s with lookup := lookup }).Traced asio env services where
  sound := hs.sound
  found := hs.found
  stored := by
    dsimp only
    rw [hinfo]
    exact hs.stored
  carried := by
    rcases hworker with heq | hcarried
    · dsimp only
      rw [heq]
      exact hs.carried
    · exact hcarried

theorem Traced.login (hs : s.Traced asio env services) (deviceId clientIp : Bytes) :
    ({ s with lookup := s.lookup.setDeviceNetworkInfo deviceId (rawNetworkInfo clientIp) }).Traced asio env
      services := by
  unfold setDeviceNetworkInfo
  split
  · exact hs
  · refine ⟨hs.sound, hs.found, fun d info hinfo => ?_, hs.carried⟩
    dsimp only at hinfo
    rw [Std.ExtTreeMap.getElem?_insert] at hinfo
    split at hinfo
    · obtain rfl := Option.some.inj hinfo
      exact .inl rfl
    · exact hs.stored d info hinfo

theorem Traced.logout (hs : s.Traced asio env services) (deviceId : Bytes) :
    ({ s with lookup := s.lookup.forgetDevice deviceId }).Traced asio env services := by
  refine ⟨hs.sound, hs.found, fun d info hinfo => ?_, hs.carried⟩
  have herase : (s.lookup.deviceNetworkInfo.erase deviceId)[d]? = some info := hinfo
  rw [Std.ExtTreeMap.getElem?_erase] at herase
  split at herase
  · exact absurd herase (by simp)
  · exact hs.stored d info herase

/-- The resolver answers, and the worker holds what it said. -/
theorem Traced.resolve (hs : s.Traced asio env services) {service : GeoService} (hservice : services service)
    (job : GeoIpLookupJob) (asked : List (Bytes × FetchRequest)) :
    Traced asio env services
      { lookup := s.lookup.goTo (.retesting job
          (GeoLocationResolver.resolveWithRetryInfo asio env service s.cache job.clientIp).result)
        cache := (GeoLocationResolver.resolveWithRetryInfo asio env service s.cache job.clientIp).cache
        asked := asked } where
  sound := (GeoLocationResolver.resolve_outcome_of asio env service hs.sound job.clientIp).sound
  found := fun _ _ h => resolve_found hservice hs.found h
  stored := fun deviceId info h =>
    (hs.stored deviceId info h).imp_right (resolve_retains asio env service s.cache job.clientIp _ _)
  carried := resolve_kept asio env service s.cache job.clientIp

/-- The other steps of the worker write only what it carries. -/
theorem Traced.work (hs : s.Traced asio env services)
    (hworker : ∀ job, s.lookup.networkInfoWorker ≠ .resolving job) (config : GeoIpConfig) (now : Int)
    (answer : GeoAnswer) : ({ s with lookup := s.lookup.work config now answer }).Traced asio env services where
  sound := hs.sound
  found := hs.found
  stored := by
    intro deviceId info hinfo
    dsimp only at hinfo
    rcases LoginLookups.deviceNetworkInfo_work config now answer deviceId with hsame | hwritten
    · rw [hsame] at hinfo
      exact hs.stored deviceId info hinfo
    · obtain ⟨job, networkInfo, _, hat, _, _, hrow⟩ := hwritten
      rw [hrow] at hinfo
      obtain rfl := Option.some.inj hinfo
      have hcarried := hs.carried
      rw [hat] at hcarried
      have hkept : s.cache[job.clientIp]? = some networkInfo := hcarried
      rw [← (hs.sound job.clientIp networkInfo hkept).1] at hkept
      exact .inr hkept
  carried := carried_work hs.carried hworker config now answer

theorem Traced.step (hs : s.Traced asio env services) {e : ResolvedStep}
    (hservice : ∀ now service, e = .work now service → services service) :
    (s.step config asio env e).Traced asio env services := by
  cases e with
  | login deviceId clientIp => exact hs.login deviceId clientIp
  | logout deviceId => exact hs.logout deviceId
  | enqueue clientIp now =>
      show ({ s with lookup := s.lookup.enqueueGeoIpLookup clientIp 0 now }).Traced asio env services
      rcases enqueueGeoIpLookup_cases clientIp 0 now with h | ⟨_, _, _, _, _, h⟩
      · rw [h]
        exact hs
      · rw [h]
        exact hs.queue rfl (.inl rfl)
  | pop job now =>
      show ({ s with lookup := s.lookup.popJob job now }).Traced asio env services
      rcases popJob_cases job now with h | ⟨_, _, _, h⟩
      · rw [h]
        exact hs
      · rw [h]
        exact hs.queue rfl (.inr trivial)
  | work now service =>
      show (s.work config asio env now service).Traced asio env services
      rcases work_cases config asio env s now service with ⟨job, _, hresult⟩ | ⟨hworker, hresult⟩
      · rw [hresult]
        exact hs.resolve (hservice now service rfl) job _
      · rw [hresult]
        exact hs.work hworker config now noAnswer
  | start =>
      show ({ s with lookup := s.lookup.startClientNetworkInfoWorker }).Traced asio env services
      unfold startClientNetworkInfoWorker
      split
      · exact hs.queue rfl (.inr trivial)
      · exact hs
  | stop => exact hs.queue rfl (.inl rfl)
  | join =>
      show ({ s with lookup := s.lookup.joinWorker }).Traced asio env services
      unfold joinWorker
      split
      · exact hs.queue rfl (.inr trivial)
      · exact hs

/-- The services that are asked in a run. -/
def servicesOf (steps : List ResolvedStep) (service : GeoService) : Prop := ∃ now, .work now service ∈ steps

/-- **Every stored location was found for the address it is stored with**, in every run, whatever the order of
    logins, logouts and steps of the worker; so devices with one address that have a location have the same. -/
theorem stored_locations (config : GeoIpConfig) (asio : AsioIp) (env : GeoEnv) (steps : List ResolvedStep) :
    (∀ (deviceId : Bytes) (info : ClientNetworkInfo),
      (Run.run (step config asio env) initial steps).lookup.deviceNetworkInfo[deviceId]? = some info →
      info = rawNetworkInfo info.clientIp ∨ Found asio env (servicesOf steps) info) ∧
    ∀ (deviceId other : Bytes) (info info' : ClientNetworkInfo),
      (Run.run (step config asio env) initial steps).lookup.deviceNetworkInfo[deviceId]? = some info →
      (Run.run (step config asio env) initial steps).lookup.deviceNetworkInfo[other]? = some info' →
      info.clientIp = info'.clientIp → info.location ≠ [] → info'.location ≠ [] → info = info' := by
  have htraced : (Run.run (step config asio env) initial steps).Traced asio env (servicesOf steps) :=
    Run.run_invariant_of (step config asio env) (I := Traced asio env (servicesOf steps))
      (fun s e hservice hs => hs.step hservice) initial_traced
      (Run.everyStep_of_mem (step config asio env)
        (fun e he now service heq => ⟨now, heq ▸ he⟩) initial)
  refine ⟨fun deviceId info hinfo => ?_, fun deviceId other info info' hinfo hinfo' hip hlocation hlocation' => ?_⟩
  · exact (htraced.stored deviceId info hinfo).imp_right (htraced.found info.clientIp info)
  · have hkept : ∀ (d : Bytes) (i : ClientNetworkInfo),
        (Run.run (step config asio env) initial steps).lookup.deviceNetworkInfo[d]? = some i → i.location ≠ [] →
        (Run.run (step config asio env) initial steps).cache[i.clientIp]? = some i := by
      intro d i hi hlocated
      rcases htraced.stored d i hi with hraw | hcached
      · rw [hraw] at hlocated
        exact absurd rfl hlocated
      · exact hcached
    have hinfoKept := hkept deviceId info hinfo hlocation
    rw [hip, hkept other info' hinfo' hlocation'] at hinfoKept
    exact (Option.some.inj hinfoKept).symm

end ResolvedLookups
end DeskServer
