import DeskServer.Geo.Ranges
import DeskServer.Geo.Response
import DeskServer.Lib.Json
import DeskServer.Server.LostLookup

/-!
# `Geo.Resolver` — the location of an address

`ResolveWithRetryInfo` answers from its cache, calls a private address a private network, and asks the service
for any other. What the service answers is given: a text for each request, and the parser of its body.
**The outcome is determined exactly** (`resolve_outcome`): one of the five cases of `ResolveCase`, each with
what is answered, kept and asked. An address is resolved when it is known, private, or when the service was
asked, answered with a body that `HttpBody` takes, and the body names a region or a country; and only a public
address without a location may be tried again.

**Shape.** `resolvePublicIp` is told by the body alone (`resolvePublicIp_eq`), and a body by its first members
that are texts (`locatedBy_location_ne_nil_iff`); the five cases then follow the branches of the source, and
the rest of `Outcome` is read off them. What is not covered is how the service is reached, and how long it takes.
-/

namespace DeskServer

open LoginLookups (rawNetworkInfo)

/-- The lookup service, and the parser of its answers. -/
structure GeoService where
  /-- `FetchHttpResponse` and `FetchHttpsResponse`; nothing when they fail. -/
  fetch : GeoLocationResolver.FetchRequest → Bytes
  /-- `nlohmann::json::parse`; nothing when it throws. -/
  parse : Bytes → Option Json

/-- `cache_`. -/
abbrev GeoCache := Std.ExtTreeMap Bytes ClientNetworkInfo

namespace GeoLocationResolver

open Bytes

/-! ## The body -/

def jsonString (body : Json) (key : Bytes) : Bytes := (body.stringField key).getD []

def firstJsonString (body : Json) : List Bytes → Bytes
  | [] => []
  | key :: keys => if jsonString body key ≠ [] then jsonString body key else firstJsonString body keys

/-- `SameText`; `ToLowerAscii` is `ToLower`. -/
def sameText (lhs rhs : Bytes) : Bool := lhs ≠ [] && toLower lhs == toLower rhs

def appendLocationPart (location part : Bytes) : Bytes :=
  if part = [] then location
  else (if location ≠ [] then location ++ bytes ", " else location) ++ part

def buildLocation (info : ClientNetworkInfo) : Bytes :=
  let location := appendLocationPart [] info.region
  if !sameText info.country info.region then appendLocationPart location info.country else location

def countryKeys : List Bytes := [bytes "country_name", bytes "country", bytes "country_code"]
def regionKeys : List Bytes := [bytes "region_name", bytes "region", bytes "province", bytes "state"]

def parseGeoJson (service : GeoService) (bodyText ip : Bytes) : ClientNetworkInfo :=
  match service.parse bodyText with
  | none => rawNetworkInfo ip
  | some body =>
    let info := { rawNetworkInfo ip with
      country := firstJsonString body countryKeys
      region := firstJsonString body regionKeys }
    { info with location := buildLocation info }

/-! ## The lookup -/

def resolvePublicIp (env : GeoEnv) (service : GeoService) (ip : Bytes) : ClientNetworkInfo :=
  match fetchRequest env ip with
  | none => rawNetworkInfo ip
  | some request =>
    let response := service.fetch request
    if response = [] then rawNetworkInfo ip
    else
      let body := httpBody response
      if body = [] then rawNetworkInfo ip else parseGeoJson service body ip

/-- What `ResolveWithRetryInfo` returns, the cache it leaves, and what it asked. -/
structure Resolution where
  result : GeoLocationResolveResult
  cache : GeoCache
  asked : Option FetchRequest

def resolveWithRetryInfo (asio : AsioIp) (env : GeoEnv) (service : GeoService) (cache : GeoCache) (ip : Bytes) :
    Resolution :=
  if ip = [] then ⟨⟨rawNetworkInfo ip, false, false⟩, cache, none⟩
  else if !readLookupEnabled env then ⟨⟨rawNetworkInfo ip, false, false⟩, cache, none⟩
  else
    match cache[ip]? with
    | some info => ⟨⟨info, true, false⟩, cache, none⟩
    | none =>
      let privateIp := isPrivateOrLocalIp asio ip
      let info :=
        if privateIp then { rawNetworkInfo ip with location := bytes "Private network" }
        else resolvePublicIp env service ip
      { result := ⟨info, hasLocationResult info, !hasLocationResult info && !privateIp⟩
        cache := if hasLocationResult info then cache.insert ip info else cache
        asked := if privateIp then none else fetchRequest env ip }

/-! ## Locations -/

theorem appendLocationPart_eq_nil_iff {location part : Bytes} :
    appendLocationPart location part = [] ↔ location = [] ∧ part = [] := by
  unfold appendLocationPart
  split
  · simp_all
  · rename_i hpart
    simp [hpart]

/-- **The location is empty only without a region and a country.** -/
theorem buildLocation_eq_nil_iff {info : ClientNetworkInfo} :
    buildLocation info = [] ↔ info.region = [] ∧ info.country = [] := by
  unfold buildLocation
  dsimp only
  split
  · rw [appendLocationPart_eq_nil_iff, appendLocationPart_eq_nil_iff]
    simp
  · rename_i hsame
    rw [appendLocationPart_eq_nil_iff]
    -- the region is the country, which is not empty
    simp only [sameText, Bool.not_eq_true, Bool.not_eq_false', Bool.and_eq_true, decide_eq_true_eq,
      beq_iff_eq] at hsame
    have hregion : info.region ≠ [] := by
      intro hnil
      obtain ⟨hcountry, heq⟩ := hsame
      rw [hnil, toLower, toLower, List.map_nil, List.map_eq_nil_iff] at heq
      exact hcountry heq
    simp [hregion]

/-- The first member that has a text decides, and any that has one is enough. -/
theorem firstJsonString_eq_nil_iff {body : Json} {keys : List Bytes} :
    firstJsonString body keys = [] ↔ ∀ key ∈ keys, jsonString body key = [] := by
  induction keys with
  | nil => simp [firstJsonString]
  | cons key keys ih =>
      rw [firstJsonString, List.forall_mem_cons]
      split
      · rename_i hkey
        simp [hkey]
      · rename_i hkey
        rw [ih]
        simp only [ne_eq, not_not] at hkey
        simp [hkey]

/-! ## What the service says -/

/-- The body the service answers with, if it is asked and answers with one. -/
def answerBody (env : GeoEnv) (service : GeoService) (ip : Bytes) : Option Json :=
  (fetchRequest env ip).bind fun request =>
    if httpBody (service.fetch request) = [] then none else service.parse (httpBody (service.fetch request))

/-- What is made of a body. -/
def locatedBy (ip : Bytes) (body : Json) : ClientNetworkInfo :=
  let info := { rawNetworkInfo ip with
    country := firstJsonString body countryKeys
    region := firstJsonString body regionKeys }
  { info with location := buildLocation info }

/-- **The body names a place**: one of the members that are read is a string that is not empty. -/
def NamesPlace (body : Json) : Prop := ∃ key ∈ regionKeys ++ countryKeys, jsonString body key ≠ []

theorem locatedBy_location_ne_nil_iff {ip : Bytes} {body : Json} :
    (locatedBy ip body).location ≠ [] ↔ NamesPlace body := by
  have hplace : (locatedBy ip body).location = [] ↔
      ∀ key ∈ regionKeys ++ countryKeys, jsonString body key = [] := by
    show buildLocation _ = [] ↔ _
    rw [buildLocation_eq_nil_iff, firstJsonString_eq_nil_iff, firstJsonString_eq_nil_iff, List.forall_mem_append]
  rw [Ne, hplace, NamesPlace]
  push Not
  rfl

/-- An answer that failed has no body. -/
theorem resolvePublicIp_eq (env : GeoEnv) (service : GeoService) (ip : Bytes) :
    resolvePublicIp env service ip =
      match answerBody env service ip with
      | none => rawNetworkInfo ip
      | some body => locatedBy ip body := by
  unfold resolvePublicIp answerBody
  cases fetchRequest env ip with
  | none => rfl
  | some request =>
      rw [Option.bind_some]
      dsimp only
      by_cases hresponse : service.fetch request = []
      · have hbody : httpBody (service.fetch request) = [] := by
          rw [hresponse]
          rfl
        rw [if_pos hresponse, if_pos hbody]
      · rw [if_neg hresponse]
        by_cases hbody : httpBody (service.fetch request) = []
        · rw [if_pos hbody, if_pos hbody]
        · rw [if_neg hbody, if_neg hbody, parseGeoJson]
          rfl

/-- The service locates the address. -/
def Locates (env : GeoEnv) (service : GeoService) (ip : Bytes) : Prop :=
  ∃ body, answerBody env service ip = some body ∧ NamesPlace body

theorem resolvePublicIp_located_iff {env : GeoEnv} {service : GeoService} {ip : Bytes} :
    (resolvePublicIp env service ip).location ≠ [] ↔ Locates env service ip := by
  rw [resolvePublicIp_eq, Locates]
  cases answerBody env service ip with
  | none => simp [rawNetworkInfo]
  | some body =>
      dsimp only
      rw [locatedBy_location_ne_nil_iff]
      simp

/-- A body that names no place is worth nothing. -/
theorem locatedBy_eq_raw {ip : Bytes} {body : Json} (h : ¬ NamesPlace body) :
    locatedBy ip body = rawNetworkInfo ip := by
  have hall : ∀ key ∈ regionKeys ++ countryKeys, jsonString body key = [] := by
    intro key hkey
    by_contra hne
    exact h ⟨key, hkey, hne⟩
  rw [List.forall_mem_append] at hall
  have hregion := firstJsonString_eq_nil_iff.mpr hall.1
  have hcountry := firstJsonString_eq_nil_iff.mpr hall.2
  rw [locatedBy, hregion, hcountry]
  rfl

/-- Without a place only the address is known. -/
theorem resolvePublicIp_of_not_locates {env : GeoEnv} {service : GeoService} {ip : Bytes}
    (h : ¬ Locates env service ip) : resolvePublicIp env service ip = rawNetworkInfo ip := by
  rw [resolvePublicIp_eq]
  cases hanswer : answerBody env service ip with
  | none => rfl
  | some body => exact locatedBy_eq_raw fun hplace => h ⟨body, hanswer, hplace⟩

/-! ## The outcome -/

theorem hasLocationResult_iff {info : ClientNetworkInfo} :
    hasLocationResult info = true ↔ info.location ≠ [] := by
  rw [hasLocationResult, Bool.not_eq_true', ← Bool.not_eq_true, List.isEmpty_iff]

/-- Every answer that is kept is one about its address. -/
def CacheSound (cache : GeoCache) : Prop :=
  ∀ (ip : Bytes) (info : ClientNetworkInfo), cache[ip]? = some info → info.clientIp = ip ∧ info.location ≠ []

/-- The address is one that is asked about: not empty, while the lookups are on, not known and not private. -/
structure Asks (asio : AsioIp) (env : GeoEnv) (cache : GeoCache) (ip : Bytes) : Prop where
  nonempty : ip ≠ []
  enabled : readLookupEnabled env = true
  unknown : cache[ip]? = none
  isPublic : isPrivateOrLocalIp asio ip = false

variable {asio : AsioIp} {env : GeoEnv} {service : GeoService} {cache : GeoCache} {ip : Bytes}

/-- **What a lookup does.** -/
inductive ResolveCase (asio : AsioIp) (env : GeoEnv) (service : GeoService) (cache : GeoCache) (ip : Bytes) :
    Resolution → Prop where
  /-- The address is empty, or the lookups are off. -/
  | refused (off : ip = [] ∨ readLookupEnabled env = false) :
      ResolveCase asio env service cache ip ⟨⟨rawNetworkInfo ip, false, false⟩, cache, none⟩
  /-- It was located before. -/
  | known (nonempty : ip ≠ []) (enabled : readLookupEnabled env = true) (info : ClientNetworkInfo)
      (kept : cache[ip]? = some info) : ResolveCase asio env service cache ip ⟨⟨info, true, false⟩, cache, none⟩
  /-- It is private or local, and kept as such. -/
  | isPrivate (nonempty : ip ≠ []) (enabled : readLookupEnabled env = true) (unknown : cache[ip]? = none)
      (local' : isPrivateOrLocalIp asio ip = true) (info : ClientNetworkInfo)
      (named : info = { rawNetworkInfo ip with location := bytes "Private network" }) :
      ResolveCase asio env service cache ip ⟨⟨info, true, false⟩, cache.insert ip info, none⟩
  /-- The service was asked, and its body names a place. -/
  | located (asks : Asks asio env cache ip) (body : Json) (answered : answerBody env service ip = some body)
      (place : NamesPlace body) :
      ResolveCase asio env service cache ip
        ⟨⟨locatedBy ip body, true, false⟩, cache.insert ip (locatedBy ip body), fetchRequest env ip⟩
  /-- The service was asked for nothing. -/
  | missed (asks : Asks asio env cache ip) (nowhere : ¬ Locates env service ip) :
      ResolveCase asio env service cache ip ⟨⟨rawNetworkInfo ip, false, true⟩, cache, fetchRequest env ip⟩

theorem resolve_cases (asio : AsioIp) (env : GeoEnv) (service : GeoService) (cache : GeoCache) (ip : Bytes) :
    ResolveCase asio env service cache ip (resolveWithRetryInfo asio env service cache ip) := by
  unfold resolveWithRetryInfo
  by_cases hempty : ip = []
  · rw [if_pos hempty]
    exact .refused (.inl hempty)
  · rw [if_neg hempty]
    cases henabled : readLookupEnabled env with
    | false => exact .refused (.inr henabled)
    | true =>
        rw [if_neg (by simp)]
        cases hkept : cache[ip]? with
        | some info => exact .known hempty henabled info hkept
        | none =>
            dsimp only
            cases hprivate : isPrivateOrLocalIp asio ip with
            | true => exact .isPrivate hempty henabled hkept hprivate _ rfl
            | false =>
                have hasks : Asks asio env cache ip := ⟨hempty, henabled, hkept, hprivate⟩
                simp only [Bool.false_eq_true, if_false]
                by_cases hplaces : Locates env service ip
                · have hlocated := hasLocationResult_iff.mpr (resolvePublicIp_located_iff.mpr hplaces)
                  obtain ⟨body, hbody, hplace⟩ := hplaces
                  have hinfo : resolvePublicIp env service ip = locatedBy ip body := by
                    rw [resolvePublicIp_eq, hbody]
                  rw [hlocated, hinfo]
                  exact .located hasks body hbody hplace
                · have hnowhere : hasLocationResult (resolvePublicIp env service ip) = false := by
                    rw [← Bool.not_eq_true, hasLocationResult_iff, resolvePublicIp_located_iff]
                    exact hplaces
                  rw [hnowhere, resolvePublicIp_of_not_locates hplaces]
                  exact .missed hasks hplaces

theorem CacheSound.insert (hcache : CacheSound cache) {info : ClientNetworkInfo} (hip : info.clientIp = ip)
    (hlocation : info.location ≠ []) : CacheSound (cache.insert ip info) := by
  intro k v hk
  rw [Std.ExtTreeMap.getElem?_insert] at hk
  split at hk
  · rename_i heq
    rw [Std.LawfulEqCmp.compare_eq_iff_eq] at heq
    obtain rfl := Option.some.inj hk
    exact ⟨hip.trans heq, hlocation⟩
  · exact hcache k v hk

/-- **The outcome of a lookup, exactly**: the case it is, and when it is called resolved and retryable. -/
structure Outcome (asio : AsioIp) (env : GeoEnv) (service : GeoService) (cache : GeoCache) (ip : Bytes)
    (r : Resolution) : Prop where
  does : ResolveCase asio env service cache ip r
  resolved : r.result.resolved = true ↔
    ip ≠ [] ∧ readLookupEnabled env = true ∧
      (cache[ip]? ≠ none ∨ isPrivateOrLocalIp asio ip = true ∨ Locates env service ip)
  retryable : r.result.retryable = true ↔ Asks asio env cache ip ∧ ¬ Locates env service ip
  asked : ∀ request, r.asked = some request ↔ Asks asio env cache ip ∧ fetchRequest env ip = some request
  /-- What is called resolved has a location, and nothing else has. -/
  located : r.result.resolved = true ↔ r.result.info.location ≠ []
  about : r.result.info.clientIp = ip
  sound : CacheSound r.cache

theorem resolve_outcome_of (asio : AsioIp) (env : GeoEnv) (service : GeoService) {cache : GeoCache}
    (hcache : CacheSound cache) (ip : Bytes) :
    Outcome asio env service cache ip (resolveWithRetryInfo asio env service cache ip) := by
  have hcase := resolve_cases asio env service cache ip
  have hdoes := hcase
  generalize resolveWithRetryInfo asio env service cache ip = r at hcase hdoes ⊢
  cases hcase with
  | refused hoff =>
      have hnever : ¬ (ip ≠ [] ∧ readLookupEnabled env = true) := by
        rintro ⟨hne, henabled⟩
        rcases hoff with hnil | hdisabled
        · exact hne hnil
        · rw [hdisabled] at henabled
          exact absurd henabled (by simp)
      exact
        { does := hdoes
          resolved := iff_of_false (by simp) fun h => hnever ⟨h.1, h.2.1⟩
          retryable := iff_of_false (by simp) fun h => hnever ⟨h.1.nonempty, h.1.enabled⟩
          asked := fun request => iff_of_false (by simp) fun h => hnever ⟨h.1.nonempty, h.1.enabled⟩
          located := by simp [rawNetworkInfo]
          about := rfl
          sound := hcache }
  | known hne henabled info hkept =>
      have hknown : cache[ip]? ≠ none := by rw [hkept]; simp
      have hnot : ¬ Asks asio env cache ip := fun h => hknown h.unknown
      exact
        { does := hdoes
          resolved := iff_of_true rfl ⟨hne, henabled, .inl hknown⟩
          retryable := iff_of_false (by simp) fun h => hnot h.1
          asked := fun request => iff_of_false (by simp) fun h => hnot h.1
          located := iff_of_true rfl (hcache ip info hkept).2
          about := (hcache ip info hkept).1
          sound := hcache }
  | isPrivate hne henabled hunknown hprivate info hinfo =>
      have hnot : ¬ Asks asio env cache ip := fun h => by
        have hpublic := h.isPublic
        rw [hprivate] at hpublic
        exact absurd hpublic (by simp)
      have hlocation : info.location ≠ [] := by
        rw [hinfo]
        show bytes "Private network" ≠ []
        decide
      have hip : info.clientIp = ip := by rw [hinfo]; rfl
      exact
        { does := hdoes
          resolved := iff_of_true rfl ⟨hne, henabled, .inr (.inl hprivate)⟩
          retryable := iff_of_false (by simp) fun h => hnot h.1
          asked := fun request => iff_of_false (by simp) fun h => hnot h.1
          located := iff_of_true rfl hlocation
          about := hip
          sound := hcache.insert hip hlocation }
  | located hasks body hbody hplace =>
      have hplaces : Locates env service ip := ⟨body, hbody, hplace⟩
      have hlocation : (locatedBy ip body).location ≠ [] := locatedBy_location_ne_nil_iff.mpr hplace
      exact
        { does := hdoes
          resolved := iff_of_true rfl ⟨hasks.nonempty, hasks.enabled, .inr (.inr hplaces)⟩
          retryable := iff_of_false (by simp) fun h => h.2 hplaces
          asked := fun request => ⟨fun h => ⟨hasks, h⟩, fun h => h.2⟩
          located := iff_of_true rfl hlocation
          about := rfl
          sound := hcache.insert rfl hlocation }
  | missed hasks hnowhere =>
      have hnothing : ¬ (cache[ip]? ≠ none ∨ isPrivateOrLocalIp asio ip = true ∨ Locates env service ip) := by
        rintro (hknown | hprivate | hplaces)
        · exact hknown hasks.unknown
        · rw [hasks.isPublic] at hprivate
          exact absurd hprivate (by simp)
        · exact hnowhere hplaces
      exact
        { does := hdoes
          resolved := iff_of_false (by simp) fun h => hnothing h.2.2
          retryable := iff_of_true rfl ⟨hasks, hnowhere⟩
          asked := fun request => ⟨fun h => ⟨hasks, h⟩, fun h => h.2⟩
          located := by simp [rawNetworkInfo]
          about := rfl
          sound := hcache }

/-- **Every lookup has that outcome**, over a cache of answers about their addresses. -/
theorem resolve_outcome (asio : AsioIp) (env : GeoEnv) (service : GeoService) {cache : GeoCache}
    (hcache : CacheSound cache) (ip : Bytes) :
    Outcome asio env service cache ip (resolveWithRetryInfo asio env service cache ip) :=
  resolve_outcome_of asio env service hcache ip

/-- A service that says the same about every address. -/
def sampleService : GeoService where
  fetch _ := bytes "HTTP/1.0 200 OK\r\n\r\n\x7b\x7d"
  parse _ := some (.obj
    [(bytes "country_name", .str (bytes "Singapore")), (bytes "region_name", .str (bytes "singapore"))])

/-- A city state is named once, by its region. -/
theorem resolve_outcome_sample :
    (resolveWithRetryInfo sampleAsio (keyOnly (bytes "k")) sampleService ∅
        (bytes "8.8.8.8")).result.resolved = true ∧
      ResolveCase sampleAsio (keyOnly (bytes "k")) sampleService ∅ (bytes "8.8.8.8")
        (resolveWithRetryInfo sampleAsio (keyOnly (bytes "k")) sampleService ∅ (bytes "8.8.8.8")) := by
  have hcache : CacheSound ∅ := fun ip info h => absurd h (by simp)
  have houtcome := resolve_outcome sampleAsio (keyOnly (bytes "k")) sampleService hcache (bytes "8.8.8.8")
  exact ⟨houtcome.resolved.mpr
    ⟨by decide, by decide, .inr (.inr ⟨_, rfl, bytes "region_name", by decide, by decide⟩)⟩, houtcome.does⟩

end GeoLocationResolver
end DeskServer
