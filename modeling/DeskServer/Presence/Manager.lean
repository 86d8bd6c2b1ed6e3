import DeskServer.Lib.Json
import DeskServer.Database.Devices

/-!
# `Presence.Manager` — the `PresenceManager` class

Which ids are counted online, and who watches whom. A login or a logout changes the counted sets, the
presence row of the device, and tells the watchers; what is told comes back as a list of messages with
the id each one goes to. The network information the class keeps for a device is left to the lookups.
-/

namespace DeskServer

open Bytes

structure PresenceManager where
  associations : Std.ExtTreeMap Bytes (Finset Bytes)
  onlineDevices : Finset Bytes
  onlineWebClients : Finset Bytes

namespace PresenceManager

/-- A freshly constructed manager. -/
def empty : PresenceManager := ⟨∅, ∅, ∅⟩

/-! ## Kinds of ids -/

def isWebClient (deviceId : Bytes) : Bool := startsWith (bytes "web-") deviceId

def isCloneClient (deviceId : Bytes) : Bool := startsWith (bytes "C-") deviceId

def shouldTrackOnlineDevice (deviceId : Bytes) : Bool :=
  !isWebClient deviceId && !isCloneClient deviceId

/-! ## Operations -/

/-- What an operation leaves behind, and the messages it sends to devices. -/
structure Announced where
  presence : PresenceManager
  db : DeviceDB
  messages : List (Bytes × Json)

/-- `presence_update`. -/
def presenceUpdate (changedDeviceId : Bytes) (online : Bool) : Json :=
  .obj [(bytes "type", .str (bytes "presence_update")), (bytes "id", .str changedDeviceId),
    (bytes "online", .bool online)]

/-- The watchers of the changed device that are online, the device itself left out. -/
def notifyUserDevices (p : PresenceManager) (db : DeviceDB) (changedDeviceId : Bytes) (online : Bool) :
    List (Bytes × Json) :=
  -- only watchers with an online row are told, and nobody about itself
  let watchers := (p.associations.toList.filter fun kv => changedDeviceId ∈ kv.2).map Prod.fst
  let targets := (db.batchQueryOnline watchers).filter fun q => q.1 ≠ changedDeviceId ∧ q.2 = true
  targets.map fun q => (q.1, presenceUpdate changedDeviceId online)

def countOnline (p : PresenceManager) (deviceId : Bytes) : PresenceManager :=
  if shouldTrackOnlineDevice deviceId then
    { p with onlineDevices := insert deviceId p.onlineDevices }
  else if isWebClient deviceId then
    { p with onlineWebClients := insert deviceId p.onlineWebClients }
  else p

def countOffline (p : PresenceManager) (deviceId : Bytes) : PresenceManager :=
  if shouldTrackOnlineDevice deviceId then
    { p with onlineDevices := p.onlineDevices.erase deviceId }
  else if isWebClient deviceId then
    { p with onlineWebClients := p.onlineWebClients.erase deviceId }
  else p

def onLogin (p : PresenceManager) (db : DeviceDB) (now : Int) (deviceId : Bytes) : Announced :=
  let counted := p.countOnline deviceId
  let marked := (db.setDeviceOnline now deviceId true).2
  ⟨counted, marked, counted.notifyUserDevices marked deviceId true⟩

/-- A device that leaves also stops watching. -/
def onLogout (p : PresenceManager) (db : DeviceDB) (now : Int) (deviceId : Bytes) : Announced :=
  let counted := { p with associations := p.associations.erase deviceId }.countOffline deviceId
  let marked := (db.setDeviceOnline now deviceId false).2
  ⟨counted, marked,
    if deviceId = [] then [] else counted.notifyUserDevices marked deviceId false⟩

/-- `replace` drops the old set; the legacy query merges into it. -/
def updateUserDevices (p : PresenceManager) (userId : Bytes) (deviceIds : List Bytes)
    (replace : Bool) : PresenceManager :=
  let old := if replace then ∅ else (p.associations[userId]?).getD ∅
  { p with associations := p.associations.insert userId (old ∪ deviceIds.toFinset) }

def getOnlineDeviceCount (p : PresenceManager) : Nat := p.onlineDevices.card

def getOnlineWebClientCount (p : PresenceManager) : Nat := p.onlineWebClients.card

/-! ## Who is counted -/

/-- `u` is counted online, among the devices or the web clients. -/
def Counted (p : PresenceManager) (u : Bytes) : Prop := u ∈ p.onlineDevices ∨ u ∈ p.onlineWebClients

/-- **Each set counts ids of its own kind**, so a logout finds the id where the login put it. -/
structure Sorted (p : PresenceManager) : Prop where
  devices : ∀ u ∈ p.onlineDevices, shouldTrackOnlineDevice u = true
  webClients : ∀ u ∈ p.onlineWebClients, isWebClient u = true

theorem empty_sorted : empty.Sorted :=
  ⟨fun _ h => absurd h (by simp [empty]), fun _ h => absurd h (by simp [empty])⟩

theorem empty_not_counted (u : Bytes) : ¬ empty.Counted u := by simp [Counted, empty]

variable {p : PresenceManager}

/-- An id is counted under one kind. -/
theorem not_webClient_of_tracked {d : Bytes} (h : shouldTrackOnlineDevice d = true) :
    isWebClient d = false := by
  rw [shouldTrackOnlineDevice, Bool.and_eq_true] at h
  simpa using h.1

theorem mem_onlineDevices_countOnline {d u : Bytes} : u ∈ (p.countOnline d).onlineDevices ↔
    u ∈ p.onlineDevices ∨ (u = d ∧ shouldTrackOnlineDevice d = true) := by
  unfold PresenceManager.countOnline
  by_cases ht : shouldTrackOnlineDevice d = true
  · rw [if_pos ht, Finset.mem_insert]
    simp only [ht, and_true]
    exact or_comm
  · rw [if_neg ht]
    split <;> simp [ht]

theorem mem_onlineWebClients_countOnline {d u : Bytes} : u ∈ (p.countOnline d).onlineWebClients ↔
    u ∈ p.onlineWebClients ∨ (u = d ∧ isWebClient d = true) := by
  unfold PresenceManager.countOnline
  by_cases ht : shouldTrackOnlineDevice d = true
  · rw [if_pos ht]
    simp [not_webClient_of_tracked ht]
  · rw [if_neg ht]
    by_cases hw : isWebClient d = true
    · rw [if_pos hw, Finset.mem_insert]
      simp only [hw, and_true]
      exact or_comm
    · rw [if_neg hw]
      simp [hw]

theorem mem_onlineDevices_countOffline {d u : Bytes} : u ∈ (p.countOffline d).onlineDevices ↔
    u ∈ p.onlineDevices ∧ ¬ (u = d ∧ shouldTrackOnlineDevice d = true) := by
  unfold PresenceManager.countOffline
  by_cases ht : shouldTrackOnlineDevice d = true
  · rw [if_pos ht, Finset.mem_erase]
    simp only [ht, and_true]
    exact and_comm
  · rw [if_neg ht]
    split <;> simp [ht]

theorem mem_onlineWebClients_countOffline {d u : Bytes} : u ∈ (p.countOffline d).onlineWebClients ↔
    u ∈ p.onlineWebClients ∧ ¬ (u = d ∧ isWebClient d = true) := by
  unfold PresenceManager.countOffline
  by_cases ht : shouldTrackOnlineDevice d = true
  · rw [if_pos ht]
    simp [not_webClient_of_tracked ht]
  · rw [if_neg ht]
    by_cases hw : isWebClient d = true
    · rw [if_pos hw, Finset.mem_erase]
      simp only [hw, and_true]
      exact and_comm
    · rw [if_neg hw]
      simp [hw]

@[simp] theorem associations_countOffline (d : Bytes) :
    (p.countOffline d).associations = p.associations := by
  unfold PresenceManager.countOffline
  split
  · rfl
  · split <;> rfl

theorem Sorted.countOnline (hp : p.Sorted) (d : Bytes) : (p.countOnline d).Sorted := by
  refine ⟨fun u hu => ?_, fun u hu => ?_⟩
  · rcases mem_onlineDevices_countOnline.mp hu with hold | ⟨rfl, ht⟩
    · exact hp.devices u hold
    · exact ht
  · rcases mem_onlineWebClients_countOnline.mp hu with hold | ⟨rfl, hw⟩
    · exact hp.webClients u hold
    · exact hw

theorem Sorted.countOffline (hp : p.Sorted) (d : Bytes) : (p.countOffline d).Sorted := by
  refine ⟨fun u hu => ?_, fun u hu => ?_⟩
  · exact hp.devices u (mem_onlineDevices_countOffline.mp hu).1
  · exact hp.webClients u (mem_onlineWebClients_countOffline.mp hu).1

/-- A login counts nobody but the device. -/
theorem counted_of_countOnline {d u : Bytes} (h : (p.countOnline d).Counted u) :
    u = d ∨ p.Counted u := by
  rcases h with h | h
  · rcases mem_onlineDevices_countOnline.mp h with hold | ⟨rfl, _⟩
    · exact .inr (.inl hold)
    · exact .inl rfl
  · rcases mem_onlineWebClients_countOnline.mp h with hold | ⟨rfl, _⟩
    · exact .inr (.inr hold)
    · exact .inl rfl

/-- **A logout takes the device out of the count, and only the device.** -/
theorem counted_countOffline_iff (hp : p.Sorted) {d u : Bytes} :
    (p.countOffline d).Counted u ↔ p.Counted u ∧ u ≠ d := by
  unfold Counted
  rw [mem_onlineDevices_countOffline, mem_onlineWebClients_countOffline]
  constructor
  · rintro (⟨hmem, hout⟩ | ⟨hmem, hout⟩)
    · refine ⟨.inl hmem, ?_⟩
      rintro rfl
      exact hout ⟨rfl, hp.devices u hmem⟩
    · refine ⟨.inr hmem, ?_⟩
      rintro rfl
      exact hout ⟨rfl, hp.webClients u hmem⟩
  · rintro ⟨hmem | hmem, hne⟩
    · exact .inl ⟨hmem, fun h => hne h.1⟩
    · exact .inr ⟨hmem, fun h => hne h.1⟩

end PresenceManager
end DeskServer
