import DeskServer.Admin.Isolation
import DeskServer.Admin.Overview

/-!
# `Admin.DisconnectRoute` — from a listed session to the handler that closes it

The dashboard puts the id it was shown into a path with `encodeURIComponent`. The path is routed to the
disconnect handler whatever the id, unless it is empty; but the id is taken out of the path as it stands
there. So the handler is given the id that was listed only if it has no byte that is escaped. Decoded the
way the parameters of a query are, it would always be the id.

**Shape.** The path is built, cut at the route and compared byte by byte (`extract_disconnectUrl`): the
handler gets the escaped id, and that is the id only when there was nothing to escape. The escapes themselves
are decoded correctly by the function the handler does not call (`urlDecode_extract_disconnectUrl`).
-/

namespace DeskServer

open Bytes

namespace AdminController

/-! ## Escapes -/

/-- The bytes `encodeURIComponent` keeps: letters, digits and `-_.!~*'()`. -/
def isUnreserved (b : UInt8) : Bool :=
  (65 ≤ b && b ≤ 90) || (97 ≤ b && b ≤ 122) || (48 ≤ b && b ≤ 57) || decide (b ∈ bytes "-_.!~*'()")

def upperHexDigit (n : Nat) : UInt8 := UInt8.ofNat (if n < 10 then 48 + n else 55 + n)

/-- One byte of the UTF-8 text. -/
def encodeByte (b : UInt8) : Bytes :=
  if isUnreserved b then [b] else [37, upperHexDigit (b.toNat / 16), upperHexDigit (b.toNat % 16)]

/-- `encodeURIComponent`. -/
def encodeURIComponent (s : Bytes) : Bytes := s.flatMap encodeByte

/-- `HexValue`; none for `-1`. -/
def hexValue (ch : UInt8) : Option Nat :=
  if 48 ≤ ch ∧ ch ≤ 57 then some (ch.toNat - 48)
  else if 97 ≤ ch ∧ ch ≤ 102 then some (ch.toNat - 97 + 10)
  else if 65 ≤ ch ∧ ch ≤ 70 then some (ch.toNat - 65 + 10)
  else none

/-- The byte of an escape whose `%` is behind us. -/
def escapedByte : Bytes → Option UInt8
  | first :: second :: _ =>
    (hexValue first).bind fun hi => (hexValue second).map fun lo => UInt8.ofNat (hi * 16 + lo)
  | _ => none

/-- The loop of `UrlDecode`; `skip` bytes of an escape are still to be passed. -/
def urlDecodeFrom : Nat → Bytes → Bytes
  | _, [] => []
  | skip + 1, _ :: rest => urlDecodeFrom skip rest
  | 0, ch :: rest =>
    if ch = 43 then 32 :: urlDecodeFrom 0 rest
    else if ch = 37 then
      match escapedByte rest with
      | some b => b :: urlDecodeFrom 2 rest
      | none => ch :: urlDecodeFrom 0 rest
    else ch :: urlDecodeFrom 0 rest

/-- `UrlDecode`, which the parameters of a query go through. -/
def urlDecode (value : Bytes) : Bytes := urlDecodeFrom 0 value

/-- The path `disconnectSession` posts to. -/
def disconnectUrl (id : Bytes) : Bytes := disconnectPath ++ encodeURIComponent id ++ disconnectTail

theorem upperHexDigit_facts : ∀ n : Fin 16, hexValue (upperHexDigit n) = some n.val ∧
    upperHexDigit n ≠ 47 ∧ upperHexDigit n ≠ 63 := by
  decide

theorem hexValue_upperHexDigit {n : Nat} (h : n < 16) : hexValue (upperHexDigit n) = some n :=
  (upperHexDigit_facts ⟨n, h⟩).1

/-- The bytes that mean something in a path, an escape or a query are escaped. -/
theorem ne_of_isUnreserved {b : UInt8} (h : isUnreserved b = true) :
    b ≠ 47 ∧ b ≠ 63 ∧ b ≠ 37 ∧ b ≠ 43 := by
  refine ⟨?_, ?_, ?_, ?_⟩ <;> rintro rfl <;> exact absurd h (by decide)

/-- No escape has a `/` or a `?` in it. -/
theorem not_mem_encodeByte (b : UInt8) : (47 : UInt8) ∉ encodeByte b ∧ (63 : UInt8) ∉ encodeByte b := by
  unfold encodeByte
  split
  · rename_i hkept
    obtain ⟨hslash, hquery, _, _⟩ := ne_of_isUnreserved hkept
    exact ⟨fun h => hslash (List.mem_singleton.mp h).symm, fun h => hquery (List.mem_singleton.mp h).symm⟩
  · have hb := b.toNat_lt
    obtain ⟨_, hhi, hhi'⟩ := upperHexDigit_facts ⟨b.toNat / 16, by omega⟩
    obtain ⟨_, hlo, hlo'⟩ := upperHexDigit_facts ⟨b.toNat % 16, by omega⟩
    have habsent : ∀ c : UInt8, c ≠ 37 → upperHexDigit (b.toNat / 16) ≠ c →
        upperHexDigit (b.toNat % 16) ≠ c →
        c ∉ [37, upperHexDigit (b.toNat / 16), upperHexDigit (b.toNat % 16)] := by
      intro c hpercent hhigh hlow hin
      rcases List.mem_cons.mp hin with rfl | hin
      · exact hpercent rfl
      · rcases List.mem_cons.mp hin with rfl | hin
        · exact hhigh rfl
        · exact hlow (List.mem_singleton.mp hin).symm
    exact ⟨habsent 47 (by decide) hhi hlo, habsent 63 (by decide) hhi' hlo'⟩

theorem not_mem_encodeURIComponent (id : Bytes) :
    (47 : UInt8) ∉ encodeURIComponent id ∧ (63 : UInt8) ∉ encodeURIComponent id := by
  refine ⟨fun h => ?_, fun h => ?_⟩
  · obtain ⟨b, _, hb⟩ := List.mem_flatMap.mp h
    exact (not_mem_encodeByte b).1 hb
  · obtain ⟨b, _, hb⟩ := List.mem_flatMap.mp h
    exact (not_mem_encodeByte b).2 hb

/-- An escape stands for its byte. -/
theorem urlDecodeFrom_escape (b : UInt8) (rest : Bytes) :
    urlDecodeFrom 0 ([37, upperHexDigit (b.toNat / 16), upperHexDigit (b.toNat % 16)] ++ rest)
      = b :: urlDecodeFrom 0 rest := by
  have hb := b.toNat_lt
  have hbyte : escapedByte (upperHexDigit (b.toNat / 16) :: upperHexDigit (b.toNat % 16) :: rest)
      = some b := by
    rw [escapedByte, hexValue_upperHexDigit (by omega), hexValue_upperHexDigit (by omega),
      Option.bind_some, Option.map_some, show b.toNat / 16 * 16 + b.toNat % 16 = b.toNat by omega,
      UInt8.ofNat_toNat]
  show urlDecodeFrom 0 (37 :: upperHexDigit (b.toNat / 16) :: upperHexDigit (b.toNat % 16) :: rest) = _
  rw [urlDecodeFrom, if_neg (by decide), if_pos rfl, hbyte]
  rfl

/-- A byte comes back. -/
theorem urlDecodeFrom_encodeByte (b : UInt8) (rest : Bytes) :
    urlDecodeFrom 0 (encodeByte b ++ rest) = b :: urlDecodeFrom 0 rest := by
  unfold encodeByte
  split
  · rename_i hkept
    obtain ⟨_, _, hpercent, hplus⟩ := ne_of_isUnreserved hkept
    show urlDecodeFrom 0 (b :: rest) = _
    rw [urlDecodeFrom, if_neg hplus, if_neg hpercent]
  · exact urlDecodeFrom_escape b rest

/-- **Decoding gives the id back**, by induction on the id. -/
theorem urlDecode_encodeURIComponent (id : Bytes) : urlDecode (encodeURIComponent id) = id := by
  rw [urlDecode]
  induction id with
  | nil => rfl
  | cons b id ih =>
      rw [encodeURIComponent, List.flatMap_cons, urlDecodeFrom_encodeByte]
      exact congrArg (b :: ·) ih

/-- An escape is longer than what it stands for. -/
theorem length_encodeByte (b : UInt8) : 1 ≤ (encodeByte b).length := by
  unfold encodeByte
  split
  · exact le_refl 1
  · exact Nat.le_add_left 1 2

theorem length_encodeURIComponent (id : Bytes) : id.length ≤ (encodeURIComponent id).length := by
  induction id with
  | nil => exact le_refl 0
  | cons b id ih =>
      have hone := length_encodeByte b
      rw [encodeURIComponent] at ih ⊢
      rw [List.flatMap_cons, List.length_append, List.length_cons]
      omega

/-- **An id is kept as it is exactly when it has nothing to escape**, by induction on the id. -/
theorem encodeURIComponent_eq_self (id : Bytes) :
    encodeURIComponent id = id ↔ ∀ b ∈ id, isUnreserved b = true := by
  induction id with
  | nil => exact ⟨fun _ b hb => absurd hb List.not_mem_nil, fun _ => rfl⟩
  | cons b id ih =>
      have hcons : encodeURIComponent (b :: id) = encodeByte b ++ encodeURIComponent id :=
        List.flatMap_cons
      rw [hcons, List.forall_mem_cons, ← ih]
      by_cases hkept : isUnreserved b = true
      · have hbyte : encodeByte b = [b] := if_pos hkept
        rw [hbyte, List.singleton_append, List.cons.injEq]
        exact ⟨fun h => ⟨hkept, h.2⟩, fun h => ⟨rfl, h.2⟩⟩
      · constructor
        · intro h
          -- three bytes for one
          have hlength := congrArg List.length h
          have hbyte : (encodeByte b).length = 3 := by
            unfold encodeByte
            rw [if_neg hkept]
            rfl
          have hrest := length_encodeURIComponent id
          rw [List.length_append, List.length_cons, hbyte] at hlength
          omega
        · exact fun h => absurd h.1 hkept

/-! ## The route -/

/-- **The resource is routed to the disconnect handler**: whoever has a session gets its outcome, whatever
    the method. -/
def Routed (url : Bytes) : Prop :=
  ∀ (overview : AdminBackend → Int → Bytes → Json) (world : AdminWorld) (auth : AdminAuth)
    (backend : AdminBackend) (request : AdminHttpRequest), request.resource = url →
    auth.isEnabled = true → (isAuthorized world auth request).1 = true →
    handle overview world auth backend request
      = handleDisconnect world (isAuthorized world auth request).2 backend request

theorem resourcePath_disconnectUrl (id : Bytes) : resourcePath (disconnectUrl id) = disconnectUrl id := by
  refine List.takeWhile_eq_self_iff.mpr fun b hb => decide_eq_true ?_
  rintro rfl
  unfold disconnectUrl at hb
  rw [List.mem_append, List.mem_append] at hb
  rcases hb with (hpath | hid) | htail
  · exact absurd hpath (by decide)
  · exact (not_mem_encodeURIComponent id).2 hid
  · exact absurd htail (by decide)

/-- Behind the path there is the escaped id. -/
theorem extract_disconnectUrl (id : Bytes) :
    extractDisconnectTransmissionId (disconnectUrl id) = encodeURIComponent id := by
  have hstarts : startsWith disconnectPath (disconnectUrl id) = true := by
    rw [startsWith_iff, disconnectUrl, List.append_assoc]
    exact List.prefix_append _ _
  have hdrop : (disconnectUrl id).drop disconnectPath.length
      = encodeURIComponent id ++ disconnectTail := by
    rw [disconnectUrl, List.append_assoc, List.drop_left]
  have hends : disconnectTail.isSuffixOf (encodeURIComponent id ++ disconnectTail) = true :=
    List.isSuffixOf_iff_suffix.mpr (List.suffix_append _ _)
  unfold extractDisconnectTransmissionId
  simp only [resourcePath_disconnectUrl, hstarts, hdrop, hends, Bool.not_true, Bool.false_eq_true,
    if_false, List.length_append, Nat.add_sub_cancel]
  split
  · rename_i hshort
    exact (List.length_eq_zero_iff.mp (by omega)).symm
  · exact List.take_left

/-- A path of the disconnect handler is none of the others. -/
theorem disconnectUrl_ne {id other : Bytes} (h : ¬ disconnectPath <+: other) : disconnectUrl id ≠ other := by
  rintro rfl
  rw [disconnectUrl, List.append_assoc] at h
  exact h (List.prefix_append _ _)

theorem not_asset_disconnectUrl (id : Bytes) : ¬ startsWith adminAssetPath (disconnectUrl id) = true := by
  rw [startsWith_iff, disconnectUrl, List.append_assoc]
  intro h
  rcases List.prefix_or_prefix_of_prefix h (List.prefix_append disconnectPath _) with hpath | hpath
  · exact absurd hpath (by decide)
  · exact absurd hpath (by decide)

/-- What `Handle` does with such a path, behind the authorisation. -/
theorem handle_disconnectUrl (overview : AdminBackend → Int → Bytes → Json) {world : AdminWorld}
    {auth : AdminAuth} (backend : AdminBackend) {request : AdminHttpRequest} {id : Bytes}
    (hurl : request.resource = disconnectUrl id) (henabled : auth.isEnabled = true)
    (hauthorized : (isAuthorized world auth request).1 = true) :
    handle overview world auth backend request
      = if encodeURIComponent id ≠ [] then
          handleDisconnect world (isAuthorized world auth request).2 backend request
        else ⟨errorResponse 404 "not_found", (isAuthorized world auth request).2, backend, []⟩ := by
  have hpath : resourcePath request.resource = disconnectUrl id := by
    rw [hurl, resourcePath_disconnectUrl]
  unfold handle
  simp only [hpath]
  rw [if_neg (disconnectUrl_ne (by decide)), if_neg (not_asset_disconnectUrl id), henabled,
    if_neg (by decide), if_neg (disconnectUrl_ne (by decide)), hauthorized, if_neg (by decide)]
  unfold handleAuthorized
  simp only [hpath]
  rw [if_neg (disconnectUrl_ne (by decide)), if_neg (disconnectUrl_ne (by decide)),
    if_neg (disconnectUrl_ne (by decide)), extract_disconnectUrl]

/-- The visitor with the session `ab` asks for the path of the empty id. -/
def emptyIdRequest : AdminHttpRequest :=
  ⟨bytes "GET", disconnectUrl [], [], bytes "cd_admin_session=ab"⟩

theorem emptyIdRequest_authorized : (isAuthorized visitedWorld visitedAuth emptyIdRequest).1 = true := by
  have htoken : AdminAuth.extractCookie emptyIdRequest.cookie AdminAuth.sessionCookieName = bytes "ab" := by
    decide
  unfold isAuthorized AdminAuth.validateSession
  rw [htoken, if_neg (by decide), AdminAuth.checkSession_fst,
    AdminAuth.live_removeExpiredSessions (show visitedWorld.purgedAt ≤ visitedWorld.now by decide)]
  exact AdminAuth.live_openSession.mpr (.inl ⟨rfl, by decide⟩)

/-- **Every id but the empty one is routed to the handler.** -/
theorem routed_disconnectUrl (id : Bytes) : Routed (disconnectUrl id) ↔ id ≠ [] := by
  constructor
  · rintro hrouted rfl
    have heq := hrouted (fun _ _ _ => .null) visitedWorld visitedAuth idleBackend emptyIdRequest rfl
      (by decide) emptyIdRequest_authorized
    rw [handle_disconnectUrl _ idleBackend rfl (by decide) emptyIdRequest_authorized] at heq
    have hstatus := congrArg (fun outcome => outcome.response.map AdminHttpResponse.status) heq
    exact absurd hstatus (by decide)
  · intro hid overview world auth backend request hurl henabled hauthorized
    have hescaped : encodeURIComponent id ≠ [] := by
      intro hnil
      have hlength := length_encodeURIComponent id
      rw [hnil] at hlength
      exact hid (List.length_eq_zero_iff.mp (Nat.le_zero.mp hlength))
    rw [handle_disconnectUrl overview backend hurl henabled hauthorized, if_pos hescaped]

/-- **What the handler misses is the decoding**: the id is the decoded text of the path. -/
theorem urlDecode_extract_disconnectUrl (id : Bytes) :
    urlDecode (extractDisconnectTransmissionId (disconnectUrl id)) = id := by
  rw [extract_disconnectUrl, urlDecode_encodeURIComponent]

/-- **Which sessions the dashboard can close.** The path it builds from an id reaches the disconnect handler
    and names that id there exactly when the id is not empty and has no byte to escape. -/
theorem disconnectUrl_reaches_iff (id : Bytes) :
    (Routed (disconnectUrl id) ∧ extractDisconnectTransmissionId (disconnectUrl id) = id) ↔
      id ≠ [] ∧ ∀ b ∈ id, isUnreserved b = true := by
  rw [routed_disconnectUrl, extract_disconnectUrl, encodeURIComponent_eq_self]

/-! ## A blank in an id -/

section Samples

open SignalServer

/-- A controller logs in under an id with a blank. -/
def blankLogin : SignalServer := after sampleDigest (start 0 DeviceDB.newFile)
  [(.still 1, .message 2 (some (loginMessage (bytes "C-a b"))))]

/-- It is listed, and the button beside it names another id. -/
theorem blankLogin_unreachable : ¬ ∀ sha256 server, Reachable sha256 server →
    ∀ limit offset search,
      ∀ x ∈ (overviewSessions server.transmission server.db limit offset search).1,
        Routed (disconnectUrl x.transmissionId) ∧
          extractDisconnectTransmissionId (disconnectUrl x.transmissionId) = x.transmissionId := by
  intro h
  have hlisted : bytes "C-a b"
      ∈ (overviewSessions blankLogin.transmission blankLogin.db 50 0 []).1.map
          TransmissionSnapshot.transmissionId := by decide
  obtain ⟨x, hx, hid⟩ := List.mem_map.mp hlisted
  have hnamed := (h sampleDigest blankLogin (.after (.started 0 _ rfl) _) 50 0 [] x hx).2
  rw [hid] at hnamed
  exact absurd hnamed (by decide)

end Samples

end AdminController
end DeskServer
