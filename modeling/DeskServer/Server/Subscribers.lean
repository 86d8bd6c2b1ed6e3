import DeskServer.Lib.Interleave
import DeskServer.Server.Events

/-!
# `Server.Subscribers` — what a subscriber is told about a device that logs out

A request of a subscriber and the logout of a device run on two threads, and their steps interleave: the
request updates the subscriptions, queries the database and sends its reply; the logout writes the
database, collects the watchers and sends them a `presence_update`. Both say whether the device is
online, and whichever message is sent last stays with the subscriber.

**Shape.** The interleaving is split at the step that decides: what each step finds is a matter of what ran
before it (`Lib.Interleave`), so that the last report is either the reply or the update (`lastReport_reply`,
`lastReport_notifications`), and the condition compares where the two stand. One request and one logout of one
device are covered; a step is what runs under one lock.
-/

namespace DeskServer

open Bytes Interleave

namespace PresenceManager

/-- `IsOnline`. -/
def isOnline (db : DeviceDB) (deviceId : Bytes) : Bool :=
  match db.batchQueryOnline [deviceId] with
  | [] => false
  | q :: _ => q.2

/-- The watchers `NotifyUserDevices` collects. -/
def watchersOf (p : PresenceManager) (changedDeviceId : Bytes) : List Bytes :=
  (p.associations.toList.filter fun kv => changedDeviceId ∈ kv.2).map Prod.fst

/-- The watchers `NotifyUserDevices` sends to. -/
def targetsOf (db : DeviceDB) (changedDeviceId : Bytes) (watchers : List Bytes) : List Bytes :=
  ((db.batchQueryOnline watchers).filter fun q => q.1 ≠ changedDeviceId ∧ q.2 = true).map Prod.fst

end PresenceManager

/-! ## The two threads -/

/-- A presence request, after its fields are read, and a logout. -/
structure PresenceRace where
  /-- The user who asks. -/
  userId : Bytes
  deviceIds : List Bytes
  subscribe : Option Bool
  /-- The device that logs out. -/
  deviceId : Bytes
  now : Int

inductive PresenceThread where
  | request
  | logout
deriving DecidableEq

inductive PresenceStep where
  /-- `UpdateUserDevices`. -/
  | subscribe
  /-- `BatchQuery`. -/
  | query
  /-- `SendMsg` of the reply. -/
  | reply
  /-- `associations_.erase`. -/
  | forget
  /-- `online_devices_.erase` or `online_web_clients_.erase`. -/
  | countOffline
  /-- `SetDeviceOnline`. -/
  | writeOffline
  /-- The loop over `associations_`. -/
  | collect
  /-- `BatchQueryOnline` of the watchers. -/
  | queryWatchers
  /-- `send_to_device_` to every target. -/
  | notify
deriving DecidableEq

namespace PresenceStep

def thread : PresenceStep → PresenceThread
  | .subscribe | .query | .reply => .request
  | _ => .logout

/-- The steps of a thread, in the order of the source. -/
def program : PresenceThread → List PresenceStep
  | .request => [.subscribe, .query, .reply]
  | .logout => [.forget, .countOffline, .writeOffline, .collect, .queryWatchers, .notify]

end PresenceStep

/-- What both threads share, and the locals of each. -/
structure PresenceView where
  presence : PresenceManager
  db : DeviceDB
  /-- `statuses` of the request. -/
  statuses : List (Bytes × Bool)
  /-- `watchers` of the logout. -/
  watchers : List Bytes
  /-- `targets` of the logout. -/
  targets : List Bytes
  /-- The messages sent so far, with the user each one goes to. -/
  sent : List (Bytes × Json)

namespace PresenceRace

variable (race : PresenceRace)

/-- The subscriptions after the request. -/
def subscribed (p : PresenceManager) : PresenceManager :=
  if race.subscribe.getD true then
    p.updateUserDevices race.userId race.deviceIds race.subscribe.isSome
  else p

/-- The messages of the loop over the targets. -/
def notifications (targets : List Bytes) : List (Bytes × Json) :=
  targets.map fun id => (id, PresenceManager.presenceUpdate race.deviceId false)

/-- One step of either thread. -/
def perform (v : PresenceView) : PresenceStep → PresenceView
  | .subscribe => { v with presence := race.subscribed v.presence }
  | .query => { v with statuses := v.db.batchQueryOnline race.deviceIds }
  | .reply => { v with sent := v.sent ++ [(race.userId, SignalServer.presenceReply v.statuses)] }
  | .forget => { v with presence :=
      { v.presence with associations := v.presence.associations.erase race.deviceId } }
  | .countOffline => { v with presence := v.presence.countOffline race.deviceId }
  | .writeOffline => { v with db := (v.db.setDeviceOnline race.now race.deviceId false).2 }
  -- nobody is told about an empty id
  | .collect => { v with watchers :=
      if race.deviceId = [] then [] else v.presence.watchersOf race.deviceId }
  | .queryWatchers => { v with
      targets := PresenceManager.targetsOf v.db race.deviceId v.watchers }
  | .notify => { v with sent := v.sent ++ race.notifications v.targets }

end PresenceRace

namespace PresenceView

/-- Nothing is under way. -/
def idle (p : PresenceManager) (db : DeviceDB) (sent : List (Bytes × Json)) : PresenceView :=
  ⟨p, db, [], [], [], sent⟩

end PresenceView

/-! ## One thread alone -/

namespace PresenceRace

variable (race : PresenceRace) (p : PresenceManager) (db : DeviceDB)

/-- **The logout alone is `OnLogout`.** -/
theorem run_logout :
    let v := Run.run race.perform (.idle p db []) (PresenceStep.program .logout)
    (⟨v.presence, v.db, v.sent⟩ : PresenceManager.Announced) = p.onLogout db race.now race.deviceId := by
  by_cases hnil : race.deviceId = []
  · simp [PresenceStep.program, perform, PresenceView.idle, PresenceManager.onLogout, hnil,
      notifications, PresenceManager.targetsOf, DeviceDB.batchQueryOnline]
  · simp [PresenceStep.program, perform, PresenceView.idle, PresenceManager.onLogout, hnil,
      notifications, PresenceManager.targetsOf, PresenceManager.notifyUserDevices, PresenceManager.watchersOf,
      List.map_map, Function.comp_def]

/-- **The request alone is the `recent_connections_presence` case**, when that case accepts the message. -/
theorem run_request {server : SignalServer} {hdl : ConnectionHdl} {j : Json}
    (huser : server.transmission.getUserId hdl = race.userId) (hne : race.userId ≠ [])
    (hown : j.contains (bytes "user_id") → j.stringField (bytes "user_id") = some race.userId)
    (hsub : (j.find (bytes "subscribe")).isSome → ((j.find (bytes "subscribe")).bind Json.boolean).isSome)
    (hsubscribe : race.subscribe = (j.find (bytes "subscribe")).bind Json.boolean)
    (hdevices : race.deviceIds = (((j.find (bytes "devices")).map Json.items).getD []).filterMap Json.string) :
    let v := Run.run race.perform (.idle server.presence server.db []) (PresenceStep.program .request)
    server.recentConnectionsPresence hdl j =
      ({ server with presence := v.presence, db := v.db }, v.sent.map fun m => (hdl, m.2)) := by
  have haccept : ¬ (race.userId = [] ∨ (j.contains (bytes "user_id") ∧
      j.stringField (bytes "user_id") ≠ some race.userId)) := by
    rintro (h | ⟨hc, h⟩)
    · exact hne h
    · exact h (hown hc)
  have hboolean : ¬ ((j.find (bytes "subscribe")).isSome ∧
      ((j.find (bytes "subscribe")).bind Json.boolean).isNone) := by
    rintro ⟨hs, hn⟩
    rw [Option.isNone_iff_eq_none] at hn
    have := hsub hs
    rw [hn] at this
    exact absurd this (by simp)
  have hpresent : (j.find (bytes "subscribe")).isSome = race.subscribe.isSome := by
    rw [hsubscribe, Bool.eq_iff_iff]
    refine ⟨hsub, fun h => ?_⟩
    obtain ⟨b, hb⟩ := Option.isSome_iff_exists.mp h
    obtain ⟨v, hv, _⟩ := Option.bind_eq_some_iff.mp hb
    rw [hv]
    rfl
  unfold SignalServer.recentConnectionsPresence
  simp only [huser, haccept, hboolean, if_false]
  rw [hpresent, ← hsubscribe, ← hdevices]
  by_cases hupdate : race.subscribe.getD true = true
  · simp [PresenceStep.program, perform, PresenceView.idle, subscribed, hupdate,
      SignalServer.sendMsg]
  · simp [PresenceStep.program, perform, PresenceView.idle, subscribed, hupdate,
      SignalServer.sendMsg]

end PresenceRace

/-! ## What a message says about a device -/

/-- The flag a message carries for `d`, when it is about `d`. -/
def reports (d : Bytes) (j : Json) : Option Bool :=
  if j.stringField (bytes "type") = some (bytes "presence_update") then
    if j.stringField (bytes "id") = some d then (j.find (bytes "online")).bind Json.boolean else none
  else if j.stringField (bytes "type") = some (bytes "presence") then
    ((((j.find (bytes "devices")).map Json.items).getD []).find? fun entry =>
      entry.stringField (bytes "id") = some d).bind fun entry =>
        (entry.find (bytes "online")).bind Json.boolean
  else none

/-- What the messages to `w` said about `d` last. -/
def lastReport (w d : Bytes) (sent : List (Bytes × Json)) : Option Bool :=
  (sent.filterMap fun message => if message.1 = w then reports d message.2 else none).getLast?

theorem lastReport_append (w d : Bytes) (sent more : List (Bytes × Json)) :
    lastReport w d (sent ++ more) = (lastReport w d more).or (lastReport w d sent) := by
  rw [lastReport, List.filterMap_append, List.getLast?_append]
  rfl

theorem reports_presenceUpdate (d : Bytes) (online : Bool) :
    reports d (PresenceManager.presenceUpdate d online) = some online := by
  have htype : (PresenceManager.presenceUpdate d online).stringField (bytes "type")
      = some (bytes "presence_update") := rfl
  have hid : (PresenceManager.presenceUpdate d online).stringField (bytes "id") = some d := rfl
  rw [reports, if_pos htype, if_pos hid]
  rfl

theorem reports_presenceReply (d : Bytes) (statuses : List (Bytes × Bool)) :
    reports d (SignalServer.presenceReply statuses)
      = (statuses.find? fun q => q.1 = d).map Prod.snd := by
  have htype : (SignalServer.presenceReply statuses).stringField (bytes "type")
      = some (bytes "presence") := rfl
  have hother : ¬ some (bytes "presence") = some (bytes "presence_update") := by decide
  rw [reports, htype, if_neg hother, if_pos rfl]
  show ((statuses.map fun p => Json.obj [(bytes "id", .str p.1), (bytes "online", .bool p.2)]).find?
    fun entry => entry.stringField (bytes "id") = some d).bind _ = _
  induction statuses with
  | nil => rfl
  | cons q statuses ih =>
      rw [List.map_cons, List.find?_cons, List.find?_cons]
      have hfield : (Json.obj [(bytes "id", .str q.1), (bytes "online", .bool q.2)]).stringField
          (bytes "id") = some q.1 := rfl
      by_cases hq : q.1 = d
      · rw [hfield]
        simp only [hq, decide_true]
        rfl
      · rw [hfield]
        have hne : ¬ some q.1 = some d := fun h => hq (Option.some.inj h)
        simp only [hq, hne, decide_false]
        exact ih rfl

/-! ## What the database answers -/

namespace PresenceManager
variable {db : DeviceDB} {d u : Bytes} {now : Int}

theorem batchQueryOnline_eq {ids : List Bytes} (h : ids.length ≤ DeviceDB.maxBindParameters) :
    db.batchQueryOnline ids = ids.map fun id => (id, isOnline db id) := by
  rw [DeviceDB.batchQueryOnline, if_neg (by omega)]
  rfl

theorem batchQueryOnline_eq_nil {ids : List Bytes} (h : ¬ ids.length ≤ DeviceDB.maxBindParameters) :
    db.batchQueryOnline ids = [] := by
  rw [DeviceDB.batchQueryOnline, if_pos (by omega)]

/-- The flag is read off one row. -/
theorem isOnline_eq (db : DeviceDB) (u : Bytes) : isOnline db u =
    ((db.devicePresence[bindText u]?).map fun row =>
      DeviceDB.columnInt row.online != 0 && (0 : UInt8) ∉ u).getD false := rfl

/-- A logout takes the row of the device offline, and no other. -/
theorem isOnline_offline : isOnline (db.setDeviceOnline now d false).2 u
    = if bindText d = bindText u then false else isOnline db u := by
  rw [isOnline_eq, isOnline_eq, DeviceDB.setDeviceOnline, DeviceDB.upsertPresence_row]
  by_cases h : bindText d = bindText u
  · rw [if_pos h, if_pos h]
    cases db.devicePresence[bindText u]? <;> rfl
  · rw [if_neg h, if_neg h]

theorem mem_targetsOf {watchers : List Bytes} : u ∈ targetsOf db d watchers ↔
    u ∈ watchers ∧ watchers.length ≤ DeviceDB.maxBindParameters ∧ u ≠ d ∧ isOnline db u = true := by
  rw [targetsOf]
  by_cases h : watchers.length ≤ DeviceDB.maxBindParameters
  · rw [batchQueryOnline_eq h]
    simp only [List.mem_map, List.mem_filter, decide_eq_true_eq]
    constructor
    · rintro ⟨_, ⟨⟨id, hid, rfl⟩, hne, hon⟩, rfl⟩
      exact ⟨hid, h, hne, hon⟩
    · rintro ⟨hu, _, hne, hon⟩
      exact ⟨_, ⟨⟨u, hu, rfl⟩, hne, hon⟩, rfl⟩
  · rw [batchQueryOnline_eq_nil h]
    simp [h]

end PresenceManager

/-! ## What each step finds -/

namespace PresenceRace

variable (race : PresenceRace)

/-- The watchers of the device when the logout collects them. -/
def collected (p : PresenceManager) (tr : List PresenceStep) : List Bytes :=
  let current := if Before .subscribe .collect tr then race.subscribed p else p
  -- the device itself has stopped watching
  { current with associations := current.associations.erase race.deviceId }.watchersOf race.deviceId

/-- The `presence_update` goes to the subscriber. -/
def Told (p : PresenceManager) (tr : List PresenceStep) : Prop :=
  race.deviceId ≠ [] ∧ race.userId ∈ race.collected p tr ∧
    (race.collected p tr).length ≤ DeviceDB.maxBindParameters

/-- The reply names the device. -/
def Answered : Prop :=
  race.deviceId ∈ race.deviceIds ∧ race.deviceIds.length ≤ DeviceDB.maxBindParameters

instance (p : PresenceManager) (tr : List PresenceStep) : Decidable (race.Told p tr) :=
  inferInstanceAs (Decidable (_ ∧ _ ∧ _))

instance : Decidable race.Answered := inferInstanceAs (Decidable (_ ∧ _))

/-- **The subscriber is told right**: by the `presence_update` if no reply about the device comes behind
    it, or by a reply whose query did not find the device online; or it is told nothing, and knew. -/
def ToldRight (v : PresenceView) (tr : List PresenceStep) : Prop :=
  (race.Told v.presence tr ∧ (¬ race.Answered ∨ Before .reply .notify tr)) ∨
  (race.Answered ∧
    (Before .writeOffline .query tr ∨ PresenceManager.isOnline v.db race.deviceId = false)) ∨
  (¬ race.Told v.presence tr ∧ ¬ race.Answered ∧
    lastReport race.userId race.deviceId v.sent = some false)

variable {race} {v : PresenceView} {tr : List PresenceStep}

theorem program_nodup (t : PresenceThread) : (PresenceStep.program t).Nodup := by
  cases t <;> decide

theorem db_kept (v : PresenceView) (e : PresenceStep) (he : e ≠ .writeOffline) :
    (race.perform v e).db = v.db := by
  -- both threads read the database, and one step of one of them writes it
  cases e <;> first | rfl | exact absurd rfl he

theorem db_before_write : (Run.run race.perform v (upTo .writeOffline tr)).db = v.db :=
  run_unwritten fun v e he => db_kept v e (by rintro rfl; exact not_mem_upTo _ _ he)

theorem db_at (hnodup : tr.Nodup) (y : PresenceStep) :
    (Run.run race.perform v (upTo y tr)).db = if Before .writeOffline y tr
      then (v.db.setDeviceOnline race.now race.deviceId false).2 else v.db := by
  rw [read (f := PresenceView.db) (g := fun v => (v.db.setDeviceOnline race.now race.deviceId false).2)
    (fun _ => rfl) db_kept hnodup, db_before_write]

theorem db_at_end (race : PresenceRace) (v : PresenceView) (hnodup : tr.Nodup)
    (hmem : .writeOffline ∈ tr) :
    (Run.run race.perform v tr).db = (v.db.setDeviceOnline race.now race.deviceId false).2 := by
  rw [read_end (f := PresenceView.db)
    (g := fun v => (v.db.setDeviceOnline race.now race.deviceId false).2) (fun _ => rfl) db_kept hnodup
    hmem, db_before_write]

/-- Two maps without the device's entry agree when they do at every other key. -/
theorem erase_eq_iff {m n : Std.ExtTreeMap Bytes (Finset Bytes)} {d : Bytes} :
    m.erase d = n.erase d ↔ ∀ k, k ≠ d → m[k]? = n[k]? := by
  constructor
  · intro h k hk
    have hk' : (m.erase d)[k]? = (n.erase d)[k]? := by rw [h]
    rwa [Std.ExtTreeMap.getElem?_erase_eq, if_neg (Ne.symm hk), Std.ExtTreeMap.getElem?_erase_eq,
      if_neg (Ne.symm hk)] at hk'
  · intro h
    apply Std.ExtTreeMap.ext_getElem?
    intro k
    rw [Std.ExtTreeMap.getElem?_erase_eq, Std.ExtTreeMap.getElem?_erase_eq]
    by_cases hk : d = k
    · rw [if_pos hk, if_pos hk]
    · rw [if_neg hk, if_neg hk, h k (Ne.symm hk)]

/-- The request's update neither reads nor writes the subscriptions of the device. -/
theorem subscribed_erase (hne : race.userId ≠ race.deviceId) {p q : PresenceManager}
    (h : p.associations.erase race.deviceId = q.associations.erase race.deviceId) :
    (race.subscribed p).associations.erase race.deviceId
      = (race.subscribed q).associations.erase race.deviceId := by
  rw [erase_eq_iff] at h ⊢
  intro k hk
  unfold subscribed
  split
  · simp only [PresenceManager.updateUserDevices, Std.ExtTreeMap.getElem?_insert_eq, h _ hne, h k hk]
  · exact h k hk

/-- After `forget` the device has no subscriptions, and the request's update does not bring them back. -/
theorem forgotten_at_collect (hnodup : tr.Nodup) (hne : race.userId ≠ race.deviceId)
    (hforget : Before .forget .collect tr) :
    (Run.run race.perform v (upTo .collect tr)).presence.associations[race.deviceId]? = none := by
  have hkeep : ∀ v e, e ≠ PresenceStep.forget →
      (race.perform v e).presence.associations[race.deviceId]?
        = v.presence.associations[race.deviceId]? := by
    intro v e he
    cases e with
    | forget => exact absurd rfl he
    | subscribe =>
        show (race.subscribed v.presence).associations[race.deviceId]? = _
        unfold subscribed
        split
        · simp only [PresenceManager.updateUserDevices, Std.ExtTreeMap.getElem?_insert_eq]
          rw [if_neg hne]
        · rfl
    | countOffline =>
        show (v.presence.countOffline race.deviceId).associations[race.deviceId]? = _
        rw [PresenceManager.associations_countOffline]
    | _ => rfl
  have hforgets : ∀ v : PresenceView,
      (race.perform v .forget).presence.associations[race.deviceId]? = none := by
    intro v
    show (v.presence.associations.erase race.deviceId)[race.deviceId]? = none
    rw [Std.ExtTreeMap.getElem?_erase_eq, if_pos rfl]
  have hread := read (f := fun v : PresenceView => v.presence.associations[race.deviceId]?) hforgets
    hkeep hnodup v .collect
  rwa [if_pos hforget] at hread

/-- The logout finds the subscriptions with the request's update, if that came before, and without
    those of the device. -/
theorem associations_at_collect (hnodup : tr.Nodup) (hne : race.userId ≠ race.deviceId)
    (hforget : Before .forget .collect tr) :
    (Run.run race.perform v (upTo .collect tr)).presence.associations =
      (if Before .subscribe .collect tr then race.subscribed v.presence
        else v.presence).associations.erase race.deviceId := by
  have hgone := forgotten_at_collect (v := v) hnodup hne hforget
  -- without its own entry, which is gone by now, the map is written by the subscription alone
  have hself : (Run.run race.perform v (upTo .collect tr)).presence.associations.erase race.deviceId
      = (Run.run race.perform v (upTo .collect tr)).presence.associations := by
    apply Std.ExtTreeMap.ext_getElem?
    intro k
    rw [Std.ExtTreeMap.getElem?_erase_eq]
    by_cases hk : race.deviceId = k
    · rw [if_pos hk, ← hk, hgone]
    · rw [if_neg hk]
  have hkeep : ∀ v e, e ≠ PresenceStep.subscribe →
      (race.perform v e).presence.associations.erase race.deviceId
        = v.presence.associations.erase race.deviceId := by
    intro v e he
    cases e with
    | subscribe => exact absurd rfl he
    | forget =>
        show (v.presence.associations.erase race.deviceId).erase race.deviceId = _
        rw [erase_eq_iff]
        intro k hk
        rw [Std.ExtTreeMap.getElem?_erase_eq, if_neg (Ne.symm hk)]
    | countOffline =>
        show (v.presence.countOffline race.deviceId).associations.erase race.deviceId = _
        rw [PresenceManager.associations_countOffline]
    | _ => rfl
  have hread := read (f := fun v : PresenceView => v.presence.associations.erase race.deviceId)
    (g := fun v => (race.subscribed v.presence).associations.erase race.deviceId) (fun _ => rfl) hkeep
    hnodup v .collect
  rw [← hself, hread]
  by_cases h : Before .subscribe .collect tr
  · rw [if_pos h, if_pos h]
    apply subscribed_erase hne
    exact run_unwritten (f := fun v : PresenceView => v.presence.associations.erase race.deviceId)
      fun v e he => hkeep v e (by rintro rfl; exact not_mem_upTo _ _ he)
  · rw [if_neg h, if_neg h]

/-! ## What the subscriber is told -/

section Trace
variable (htr : Interleaving PresenceStep.thread PresenceStep.program tr)
include htr

theorem mem_trace (e : PresenceStep) : e ∈ tr := by
  rw [htr.mem_iff]
  cases e <;> decide

/-- The reply carries what the query found. -/
theorem statuses_at_reply : (Run.run race.perform v (upTo .reply tr)).statuses
    = (Run.run race.perform v (upTo .query tr)).db.batchQueryOnline race.deviceIds := by
  have hkeep : ∀ v e, e ≠ PresenceStep.query → (race.perform v e).statuses = v.statuses := by
    intro v e he
    cases e <;> first | rfl | exact absurd rfl he
  have hread := read (f := PresenceView.statuses)
    (g := fun v => v.db.batchQueryOnline race.deviceIds) (fun _ => rfl) hkeep
    (htr.nodup program_nodup) v .reply
  rwa [if_pos (htr.before [.subscribe, .query] rfl (by decide) (by decide))] at hread

theorem watchers_at_query (hne : race.userId ≠ race.deviceId) :
    (Run.run race.perform v (upTo .queryWatchers tr)).watchers =
      if race.deviceId = [] then [] else race.collected v.presence tr := by
  have hkeep : ∀ v e, e ≠ PresenceStep.collect → (race.perform v e).watchers = v.watchers := by
    intro v e he
    cases e <;> first | rfl | exact absurd rfl he
  have hread := read (f := PresenceView.watchers)
    (g := fun v => if race.deviceId = [] then [] else v.presence.watchersOf race.deviceId)
    (fun _ => rfl) hkeep (htr.nodup program_nodup) v .queryWatchers
  rw [if_pos (htr.before [.forget, .countOffline, .writeOffline, .collect] rfl (by decide)
    (by decide))] at hread
  rw [hread, PresenceManager.watchersOf, associations_at_collect (htr.nodup program_nodup) hne
    (htr.before [.forget, .countOffline, .writeOffline] rfl (by decide) (by decide))]
  rfl

theorem targets_at_notify : (Run.run race.perform v (upTo .notify tr)).targets =
    PresenceManager.targetsOf (Run.run race.perform v (upTo .queryWatchers tr)).db race.deviceId
      (Run.run race.perform v (upTo .queryWatchers tr)).watchers := by
  have hkeep : ∀ v e, e ≠ PresenceStep.queryWatchers → (race.perform v e).targets = v.targets := by
    intro v e he
    cases e <;> first | rfl | exact absurd rfl he
  have hread := read (f := PresenceView.targets)
    (g := fun v => PresenceManager.targetsOf v.db race.deviceId v.watchers)
    (fun _ => rfl) hkeep (htr.nodup program_nodup) v .notify
  rwa [if_pos (htr.before [.forget, .countOffline, .writeOffline, .collect, .queryWatchers] rfl
    (by decide) (by decide))] at hread

/-- The subscriber is among the targets if it is told. -/
theorem mem_targets_iff (hne : race.userId ≠ race.deviceId)
    (honline : PresenceManager.isOnline (Run.run race.perform v (upTo .queryWatchers tr)).db race.userId
      = true) :
    race.userId ∈ (Run.run race.perform v (upTo .notify tr)).targets ↔ race.Told v.presence tr := by
  rw [targets_at_notify htr, PresenceManager.mem_targetsOf, watchers_at_query htr hne, Told]
  by_cases hnil : race.deviceId = []
  · rw [if_pos hnil]
    simp [hnil]
  · rw [if_neg hnil]
    constructor
    · rintro ⟨hmem, hlen, _⟩
      exact ⟨hnil, hmem, hlen⟩
    · rintro ⟨_, hmem, hlen⟩
      exact ⟨hmem, hlen, hne, honline⟩

end Trace

/-- What the `presence_update` says to the subscriber. -/
theorem lastReport_notifications (targets : List Bytes) :
    lastReport race.userId race.deviceId (race.notifications targets)
      = if race.userId ∈ targets then some false else none := by
  have hmap : (race.notifications targets).filterMap (fun message =>
      if message.1 = race.userId then reports race.deviceId message.2 else none)
        = (targets.filter fun id => id = race.userId).map fun _ => false := by
    rw [notifications]
    induction targets with
    | nil => rfl
    | cons id targets ih =>
        rw [List.map_cons, List.filterMap_cons, List.filter_cons]
        by_cases hid : id = race.userId
        · simp only [hid, if_true, reports_presenceUpdate, decide_true, List.map_cons]
          rw [ih]
        · simp only [hid, if_false, decide_false]
          exact ih
  rw [lastReport, hmap, List.getLast?_map]
  by_cases hmem : race.userId ∈ targets
  · rw [if_pos hmem]
    cases hlast : (targets.filter fun id => id = race.userId).getLast? with
    | none =>
        rw [List.getLast?_eq_none_iff, List.filter_eq_nil_iff] at hlast
        exact absurd (by simp) (hlast _ hmem)
    | some id => rfl
  · rw [if_neg hmem]
    have hnil : (targets.filter fun id => id = race.userId) = [] := by
      rw [List.filter_eq_nil_iff]
      intro id hid heq
      exact hmem (of_decide_eq_true heq ▸ hid)
    rw [hnil]
    rfl

/-- What the reply says about the device. -/
theorem lastReport_reply (db : DeviceDB) :
    lastReport race.userId race.deviceId
      [(race.userId, SignalServer.presenceReply (db.batchQueryOnline race.deviceIds))]
      = if race.Answered then some (PresenceManager.isOnline db race.deviceId) else none := by
  have hone : lastReport race.userId race.deviceId
      [(race.userId, SignalServer.presenceReply (db.batchQueryOnline race.deviceIds))]
        = reports race.deviceId (SignalServer.presenceReply (db.batchQueryOnline race.deviceIds)) := by
    rw [lastReport, List.filterMap_cons, if_pos rfl]
    cases reports race.deviceId (SignalServer.presenceReply (db.batchQueryOnline race.deviceIds)) <;> rfl
  rw [hone, reports_presenceReply]
  by_cases ha : race.Answered
  · have hfind : (race.deviceIds.find? fun id => id = race.deviceId) = some race.deviceId := by
      cases hfind : race.deviceIds.find? fun id => id = race.deviceId with
      | none =>
          rw [List.find?_eq_none] at hfind
          exact absurd (by simp) (hfind _ ha.1)
      | some id =>
          have hid := List.find?_some hfind
          rw [of_decide_eq_true hid]
    rw [if_pos ha, PresenceManager.batchQueryOnline_eq ha.2, List.find?_map]
    show ((race.deviceIds.find? fun id => id = race.deviceId).map _).map _ = _
    rw [hfind]
    rfl
  · rw [if_neg ha]
    by_cases hlen : race.deviceIds.length ≤ DeviceDB.maxBindParameters
    · rw [PresenceManager.batchQueryOnline_eq hlen, Option.map_eq_none_iff, List.find?_eq_none]
      intro q hq heq
      obtain ⟨id, hid, rfl⟩ := List.mem_map.mp hq
      exact ha ⟨of_decide_eq_true heq ▸ hid, hlen⟩
    · rw [PresenceManager.batchQueryOnline_eq_nil hlen]
      rfl

/-- **The messages in the order of the trace.** -/
theorem sent_at_end (htr : Interleaving PresenceStep.thread PresenceStep.program tr)
    {statuses : List (Bytes × Bool)} {targets : List Bytes}
    (hstatuses : (Run.run race.perform v (upTo .reply tr)).statuses = statuses)
    (htargets : (Run.run race.perform v (upTo .notify tr)).targets = targets) :
    (Run.run race.perform v tr).sent = if Before .reply .notify tr
      then v.sent ++ [(race.userId, SignalServer.presenceReply statuses)] ++ race.notifications targets
      else v.sent ++ race.notifications targets ++
        [(race.userId, SignalServer.presenceReply statuses)] := by
  have hnodup := htr.nodup program_nodup
  have hkeep : ∀ v e, e ≠ PresenceStep.reply → e ≠ PresenceStep.notify →
      (race.perform v e).sent = v.sent := by
    intro v e hr hn
    cases e <;> first | rfl | exact absurd rfl hr | exact absurd rfl hn
  have hreply : ∀ v : PresenceView, (race.perform v .reply).sent
      = v.sent ++ [(race.userId, SignalServer.presenceReply v.statuses)] := fun _ => rfl
  have hnotify : ∀ v : PresenceView, (race.perform v .notify).sent
      = v.sent ++ race.notifications v.targets := fun _ => rfl
  -- the two sends are the only steps that send, in either order
  rcases before_or_before (mem_trace htr .reply) (mem_trace htr .notify) (by decide) with h | h
  · obtain ⟨hstart, hfirst, hlast⟩ := read_two hreply hnotify hkeep hnodup (mem_trace htr _) h v
    rw [if_pos h, hlast, hfirst, hstart, hstatuses, htargets]
  · obtain ⟨hstart, hfirst, hlast⟩ := read_two hnotify hreply (fun v e hn hr => hkeep v e hr hn) hnodup
      (mem_trace htr _) h v
    rw [if_neg h.asymm, hlast, hfirst, hstart, hstatuses, htargets]

/-- **The subscriber's view, exactly.** Whatever the interleaving of the request and the logout, with the
    subscriber online throughout: the last word about the device is the flag the database holds if and
    only if the subscriber is told right. -/
theorem subscriberView_converges_iff (race : PresenceRace) (v : PresenceView) {tr : List PresenceStep}
    (htr : Interleaving PresenceStep.thread PresenceStep.program tr)
    (honline : Run.EveryState race.perform
      (fun v => PresenceManager.isOnline v.db race.userId = true) v tr) :
    lastReport race.userId race.deviceId (Run.run race.perform v tr).sent
        = some (PresenceManager.isOnline (Run.run race.perform v tr).db race.deviceId) ↔
      race.ToldRight v tr := by
  have hnodup := htr.nodup program_nodup
  have hdb := db_at_end race v hnodup (mem_trace htr .writeOffline)
  -- a subscriber who is online at the end did not log out itself
  have hne : race.userId ≠ race.deviceId := by
    intro heq
    have hend : PresenceManager.isOnline (Run.run race.perform v tr).db race.userId = true :=
      honline tr List.prefix_rfl
    rw [hdb, PresenceManager.isOnline_offline, if_pos (by rw [heq])] at hend
    exact absurd hend (by simp)
  have htold := mem_targets_iff (v := v) htr hne (honline _ (upTo_prefix_self _ _))
  have hfresh : PresenceManager.isOnline (Run.run race.perform v (upTo .query tr)).db race.deviceId = false
      ↔ Before .writeOffline .query tr ∨ PresenceManager.isOnline v.db race.deviceId = false := by
    rw [db_at hnodup]
    by_cases hwritten : Before .writeOffline .query tr
    · rw [if_pos hwritten, PresenceManager.isOnline_offline, if_pos rfl]
      simp [hwritten]
    · rw [if_neg hwritten]
      simp [hwritten]
  rw [hdb, PresenceManager.isOnline_offline, if_pos rfl, sent_at_end htr (statuses_at_reply htr) rfl,
    ToldRight, ← hfresh]
  by_cases horder : Before .reply .notify tr
  · -- the `presence_update` is behind the reply
    rw [if_pos horder, lastReport_append, lastReport_append, lastReport_notifications, lastReport_reply]
    by_cases ht : race.Told v.presence tr <;> by_cases ha : race.Answered <;>
      simp [htold, horder, ht, ha]
  · rw [if_neg horder, lastReport_append, lastReport_append, lastReport_notifications, lastReport_reply]
    by_cases ht : race.Told v.presence tr <;> by_cases ha : race.Answered <;>
      simp [htold, horder, ht, ha]

/-- Only a logout under the subscriber's own text takes the subscriber offline. -/
theorem online_throughout (h : PresenceManager.isOnline v.db race.userId = true)
    (hother : bindText race.deviceId ≠ bindText race.userId) (tr : List PresenceStep) :
    Run.EveryState race.perform (fun v => PresenceManager.isOnline v.db race.userId = true) v tr := by
  intro pre _
  refine Run.run_invariant race.perform (I := fun v => PresenceManager.isOnline v.db race.userId = true)
    ?_ h pre
  intro v e hv
  by_cases he : e = .writeOffline
  · subst he
    show PresenceManager.isOnline (v.db.setDeviceOnline race.now race.deviceId false).2 race.userId = true
    rw [PresenceManager.isOnline_offline, if_neg hother]
    exact hv
  · rw [db_kept v e he]
    exact hv

/-! ## Runs on fixed inputs -/

/-- `200000000` subscribes to `100000000` while that one logs out. -/
def sample : PresenceRace := ⟨bytes "200000000", [bytes "100000000"], some true, bytes "100000000", 9⟩

/-- Both are online, and the subscription is there already. -/
def sampleView : PresenceView where
  presence := PresenceManager.empty.updateUserDevices (bytes "200000000") [bytes "100000000"] true
  db := ((DeviceDB.newFile.setDeviceOnline 0 (bytes "100000000") true).2.setDeviceOnline 0
    (bytes "200000000") true).2
  statuses := []
  watchers := []
  targets := []
  sent := []

theorem sampleView_online (tr : List PresenceStep) : Run.EveryState sample.perform
    (fun v => PresenceManager.isOnline v.db sample.userId = true) sampleView tr :=
  online_throughout (by decide) (by decide) tr

/-- A request that is answered before the logout starts. -/
theorem earlyReply_converges :
    lastReport sample.userId sample.deviceId (Run.run sample.perform sampleView
      (PresenceStep.program .request ++ PresenceStep.program .logout)).sent
      = some (PresenceManager.isOnline (Run.run sample.perform sampleView
        (PresenceStep.program .request ++ PresenceStep.program .logout)).db sample.deviceId) := by
  refine (subscriberView_converges_iff sample sampleView ?_ (sampleView_online _)).mpr ?_
  · intro t
    cases t <;> decide
  · left
    decide

/-- The request queries before the logout writes, and replies after the logout has told everybody. -/
def lateReply : List PresenceStep :=
  [.subscribe, .query, .forget, .countOffline, .writeOffline, .collect, .queryWatchers, .notify, .reply]

/-- **The late reply is believed**: the last word is that the device is online. -/
theorem lateReply_stale :
    Interleaving PresenceStep.thread PresenceStep.program lateReply ∧
    Run.EveryState sample.perform (fun v => PresenceManager.isOnline v.db sample.userId = true) sampleView
      lateReply ∧
    lastReport sample.userId sample.deviceId (Run.run sample.perform sampleView lateReply).sent
      = some true ∧
    PresenceManager.isOnline (Run.run sample.perform sampleView lateReply).db sample.deviceId
      = false := by
  refine ⟨?_, sampleView_online _, by decide, by decide⟩
  intro t
  cases t <;> decide

end PresenceRace
end DeskServer
