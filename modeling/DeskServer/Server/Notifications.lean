import DeskServer.Server.Subscribers

/-!
# `Server.Notifications` — who is told about a login or a logout

`NotifyUserDevices` finds its recipients in three stores: the association map, which subscriptions fill
and a logout empties, and the online flags of the database. Here the recipients are described by the
history alone: who logged in and has not logged out, and whose subscriptions since then name the device.

**Shape.** Two invariants tie the stores to the history: the associations are the subscriptions that nobody
has taken back (`watches_after`), the flags the logins that no logout followed (`isOnline_after`). A
notification reads both, so its recipients are known. Calls run one after the other here; two threads are
`Server.Subscribers`.
-/

namespace DeskServer

open Bytes PresenceManager DeviceDB

/-! ## Runs -/

/-- A call of `OnLogin`, `OnLogout` or `UpdateUserDevices`. -/
inductive PresenceCall where
  | login (now : Int) (deviceId : Bytes)
  | logout (now : Int) (deviceId : Bytes)
  | update (userId : Bytes) (deviceIds : List Bytes) (replace : Bool)

namespace PresenceCall

/-- `w` logs in. -/
def LogsIn (w : Bytes) : PresenceCall → Prop
  | .login _ deviceId => deviceId = w
  | _ => False

/-- `w` logs out. -/
def LogsOut (w : Bytes) : PresenceCall → Prop
  | .logout _ deviceId => deviceId = w
  | _ => False

/-- `w` subscribes to `d`, in either mode. -/
def Names (w d : Bytes) : PresenceCall → Prop
  | .update userId deviceIds _ => userId = w ∧ d ∈ deviceIds
  | _ => False

/-- The subscriptions of `w` are dropped: it logs out, or replaces them. -/
def Clears (w : Bytes) : PresenceCall → Prop
  | .login _ _ => False
  | .logout _ deviceId => deviceId = w
  | .update userId _ replace => userId = w ∧ replace = true

/-- The id a call writes to the database has no zero byte. -/
def NulFree : PresenceCall → Prop
  | .login _ deviceId => (0 : UInt8) ∉ deviceId
  | .logout _ deviceId => (0 : UInt8) ∉ deviceId
  | .update _ _ _ => True

end PresenceCall

/-- The manager and the database it is attached to. -/
structure Attached where
  presence : PresenceManager
  db : DeviceDB

namespace Attached

/-- One call. -/
def perform (s : Attached) : PresenceCall → Attached
  | .login now deviceId =>
      let announced := s.presence.onLogin s.db now deviceId
      ⟨announced.presence, announced.db⟩
  | .logout now deviceId =>
      let announced := s.presence.onLogout s.db now deviceId
      ⟨announced.presence, announced.db⟩
  | .update userId deviceIds replace =>
      ⟨s.presence.updateUserDevices userId deviceIds replace, s.db⟩

/-- A new manager on `db`, after `calls`. -/
def after (db : DeviceDB) (calls : List PresenceCall) : Attached :=
  Run.run perform ⟨.empty, db⟩ calls

end Attached

/-! ## What the history says -/

/-- `w` subscribed to `d`, and has neither logged out nor replaced its subscriptions since. -/
def Subscribed (w d : Bytes) (calls : List PresenceCall) : Prop :=
  Run.Standing (PresenceCall.Names w d) (PresenceCall.Clears w) calls

/-- `w` logged in and has not logged out since, or was online in `db` and never logged out. -/
def OnlineAfter (db : DeviceDB) (w : Bytes) (calls : List PresenceCall) : Prop :=
  Run.Standing (PresenceCall.LogsIn w) (PresenceCall.LogsOut w) calls ∨
    (isOnline db w = true ∧ ∀ call ∈ calls, ¬ PresenceCall.LogsOut w call)

/-- **One update to each right watcher**: whoever is online and subscribed to `d`, `d` itself left out. -/
def TellsWatchers (db : DeviceDB) (calls : List PresenceCall) (d : Bytes) (online : Bool)
    (messages : List (Bytes × Json)) : Prop :=
  ∃ targets : List Bytes, messages = targets.map (fun w => (w, presenceUpdate d online)) ∧
    targets.Nodup ∧ ∀ w, w ∈ targets ↔ w ≠ d ∧ OnlineAfter db w calls ∧ Subscribed w d calls

/-! ## The association map -/

variable {db : DeviceDB} {calls : List PresenceCall} {w d u : Bytes} {p : PresenceManager} {now : Int}

/-- `w` is filed as watching `d`. -/
def Watches (p : PresenceManager) (w d : Bytes) : Prop := ∃ s, p.associations[w]? = some s ∧ d ∈ s

theorem not_watches_empty : ¬ Watches .empty w d := by
  rintro ⟨s, hs, _⟩
  exact absurd hs (by simp [PresenceManager.empty])

@[simp] theorem associations_countOnline (d : Bytes) :
    (p.countOnline d).associations = p.associations := by
  unfold PresenceManager.countOnline
  split
  · rfl
  · split <;> rfl

theorem watches_onLogin (db : DeviceDB) (now : Int) :
    Watches (p.onLogin db now u).presence w d ↔ Watches p w d := by
  rw [Watches, onLogin, associations_countOnline]
  rfl

theorem watches_onLogout (db : DeviceDB) (now : Int) :
    Watches (p.onLogout db now u).presence w d ↔ w ≠ u ∧ Watches p w d := by
  rw [Watches, onLogout, associations_countOffline, Watches, Std.ExtTreeMap.getElem?_erase_eq]
  by_cases h : u = w
  · simp [h]
  · have hne : w ≠ u := fun he => h he.symm
    simp [h, hne]

theorem watches_update {ids : List Bytes} {replace : Bool} :
    Watches (p.updateUserDevices u ids replace) w d ↔
      (u = w ∧ d ∈ ids) ∨ (Watches p w d ∧ ¬ (u = w ∧ replace = true)) := by
  rw [Watches, updateUserDevices, Std.ExtTreeMap.getElem?_insert_eq]
  by_cases h : u = w
  · subst h
    simp only [if_true, Option.some.injEq, exists_eq_left', Finset.mem_union, List.mem_toFinset,
      true_and, Watches]
    cases replace with
    | true => simp
    | false => cases p.associations[u]? <;> simp [or_comm]
  · simp [h, Watches]

/-- **The map is the history**: `w` is filed as watching `d` exactly while its subscription stands. -/
theorem watches_after : Watches (Attached.after db calls).presence w d ↔ Subscribed w d calls := by
  induction calls using List.reverseRecOn with
  | nil => exact iff_of_false not_watches_empty (Run.not_standing_nil _ _)
  | append_singleton calls call ih =>
      rw [Subscribed, Run.standing_snoc, ← Subscribed, ← ih, Attached.after, Run.run_append]
      cases call with
      | login now u =>
          refine (watches_onLogin (Attached.after db calls).db now).trans ?_
          simp [PresenceCall.Names, PresenceCall.Clears, Attached.after]
      | logout now u =>
          refine (watches_onLogout (Attached.after db calls).db now).trans ?_
          simp [PresenceCall.Names, PresenceCall.Clears, Attached.after, and_comm, eq_comm]
      | update u ids replace => exact watches_update

/-! ## The online flags -/

/-- A login takes the row of the device online, and no other. -/
theorem isOnline_online : isOnline (db.setDeviceOnline now d true).2 u
    = if bindText d = bindText u then decide ((0 : UInt8) ∉ u) else isOnline db u := by
  rw [isOnline_eq, isOnline_eq, DeviceDB.setDeviceOnline, DeviceDB.upsertPresence_row]
  by_cases h : bindText d = bindText u
  · rw [if_pos h, if_pos h]
    cases db.devicePresence[bindText u]? <;> simp [onlineUpsert]
  · rw [if_neg h, if_neg h]

/-- Nothing is online under an id with a zero byte. -/
theorem isOnline_nul (h : (0 : UInt8) ∈ u) : isOnline db u = false := by
  rw [isOnline_eq]
  cases db.devicePresence[bindText u]? <;> simp [h]

/-- An id bound like an id without a zero byte is that id, or has one itself. -/
theorem eq_or_nul_of_bindText (hd : (0 : UInt8) ∉ d) (h : bindText d = bindText u) :
    d = u ∨ (0 : UInt8) ∈ u := by
  by_cases hu : (0 : UInt8) ∈ u
  · exact .inr hu
  · rw [bindText_eq_iff, cstr_eq_self hd, cstr_eq_self hu] at h
    exact .inl h

theorem isOnline_login (hd : (0 : UInt8) ∉ d) :
    isOnline (db.setDeviceOnline now d true).2 u = true ↔ d = u ∨ isOnline db u = true := by
  rw [isOnline_online]
  by_cases h : bindText d = bindText u
  · rw [if_pos h, decide_eq_true_eq]
    rcases eq_or_nul_of_bindText hd h with rfl | hz
    · simp [hd]
    · have hne : d ≠ u := fun he => hd (he ▸ hz)
      simp [hz, isOnline_nul hz, hne]
  · have hne : d ≠ u := fun he => h (he ▸ rfl)
    simp [h, hne]

theorem isOnline_logout (hd : (0 : UInt8) ∉ d) :
    isOnline (db.setDeviceOnline now d false).2 u = true ↔ d ≠ u ∧ isOnline db u = true := by
  rw [isOnline_offline]
  by_cases h : bindText d = bindText u
  · rw [if_pos h]
    rcases eq_or_nul_of_bindText hd h with rfl | hz
    · simp
    · simp [isOnline_nul hz]
  · have hne : d ≠ u := fun he => h (he ▸ rfl)
    simp [h, hne]

theorem onlineAfter_snoc {call : PresenceCall} : OnlineAfter db w (calls ++ [call]) ↔
    PresenceCall.LogsIn w call ∨ (OnlineAfter db w calls ∧ ¬ PresenceCall.LogsOut w call) := by
  rw [OnlineAfter, Run.standing_snoc, OnlineAfter]
  simp only [List.mem_append, List.mem_singleton, or_imp, forall_and, forall_eq]
  tauto

/-- **The flag is the history**: `w` is online in the database exactly while its login stands. -/
theorem isOnline_after (hnul : ∀ call ∈ calls, call.NulFree) :
    isOnline (Attached.after db calls).db w = true ↔ OnlineAfter db w calls := by
  induction calls using List.reverseRecOn with
  | nil => simp [Attached.after, OnlineAfter, Run.not_standing_nil]
  | append_singleton calls call ih =>
      have hcall : call.NulFree := hnul call (by simp)
      rw [onlineAfter_snoc, ← ih fun c hc => hnul c (by simp [hc]), Attached.after, Run.run_append]
      cases call with
      | login now u =>
          refine (isOnline_login hcall).trans ?_
          simp [PresenceCall.LogsIn, PresenceCall.LogsOut, Attached.after]
      | logout now u =>
          refine (isOnline_logout hcall).trans ?_
          simp [PresenceCall.LogsIn, PresenceCall.LogsOut, Attached.after, and_comm]
      | update u ids replace =>
          simp [PresenceCall.LogsIn, PresenceCall.LogsOut, Attached.after, Attached.perform]

/-! ## The recipients -/

theorem mem_watchersOf : w ∈ p.watchersOf d ↔ Watches p w d := by
  rw [watchersOf]
  constructor
  · intro h
    obtain ⟨⟨w', s⟩, hkv, rfl⟩ := List.mem_map.mp h
    obtain ⟨hmem, hd⟩ := List.mem_filter.mp hkv
    exact ⟨s, Std.ExtTreeMap.mem_toList.mp hmem, of_decide_eq_true hd⟩
  · rintro ⟨s, hs, hd⟩
    exact List.mem_map.mpr ⟨(w, s), List.mem_filter.mpr
      ⟨Std.ExtTreeMap.mem_toList.mpr hs, decide_eq_true hd⟩, rfl⟩

theorem watchersOf_nodup : (p.watchersOf d).Nodup :=
  (List.filter_sublist.map _).nodup (Std.ExtTreeMap.nodup_toList_keys _)

theorem targetsOf_nodup {watchers : List Bytes} (h : watchers.Nodup) :
    (targetsOf db d watchers).Nodup := by
  rw [targetsOf]
  by_cases hlen : watchers.length ≤ maxBindParameters
  · rw [batchQueryOnline_eq hlen]
    refine List.Nodup.sublist (List.filter_sublist.map _) ?_
    rw [List.map_map]
    exact (List.map_id watchers).symm ▸ h
  · rw [batchQueryOnline_eq_nil hlen]
    exact List.nodup_nil

theorem notifyUserDevices_eq (online : Bool) : p.notifyUserDevices db d online
    = (targetsOf db d (p.watchersOf d)).map fun w => (w, presenceUpdate d online) := by
  rw [notifyUserDevices, targetsOf, List.map_map]
  rfl

/-- A loop over few enough watchers tells those that are online. -/
theorem tellsWatchers_of {online : Bool} (hfew : (p.watchersOf d).length ≤ maxBindParameters)
    {start : DeviceDB}
    (h : ∀ w, w ≠ d → ((Watches p w d ↔ Subscribed w d calls) ∧
      (isOnline db w = true ↔ OnlineAfter start w calls))) :
    TellsWatchers start calls d online (p.notifyUserDevices db d online) := by
  refine ⟨targetsOf db d (p.watchersOf d), notifyUserDevices_eq online,
    targetsOf_nodup watchersOf_nodup, fun w => ?_⟩
  rw [mem_targetsOf, mem_watchersOf]
  constructor
  · rintro ⟨hwatch, _, hne, hon⟩
    exact ⟨hne, (h w hne).2.mp hon, (h w hne).1.mp hwatch⟩
  · rintro ⟨hne, hon, hsub⟩
    exact ⟨(h w hne).1.mpr hsub, hfew, hne, (h w hne).2.mpr hon⟩

/-- A logout takes nobody in among the watchers. -/
theorem length_watchersOf_logout (db : DeviceDB) (now : Int) :
    ((p.onLogout db now u).presence.watchersOf d).length ≤ (p.watchersOf d).length := by
  refine (List.subperm_of_subset watchersOf_nodup fun w hw => ?_).length_le
  exact mem_watchersOf.mpr ((watches_onLogout db now).mp (mem_watchersOf.mp hw)).2

/-- **A login or a logout is told exactly to the watchers the history names**; the logout of the empty id
    is told to nobody. -/
theorem presenceUpdates_exact (db : DeviceDB) (calls : List PresenceCall) (now : Int) (d : Bytes)
    (hnul : ∀ call ∈ calls, call.NulFree) (hd : (0 : UInt8) ∉ d)
    (hfew : ((Attached.after db calls).presence.watchersOf d).length ≤ maxBindParameters) :
    TellsWatchers db calls d true
      ((Attached.after db calls).presence.onLogin (Attached.after db calls).db now d).messages ∧
    (d ≠ [] → TellsWatchers db calls d false
      ((Attached.after db calls).presence.onLogout (Attached.after db calls).db now d).messages) ∧
    (d = [] →
      ((Attached.after db calls).presence.onLogout (Attached.after db calls).db now d).messages
        = []) := by
  refine ⟨?_, fun hne => ?_, fun hnil => if_pos hnil⟩
  · refine tellsWatchers_of ?_ fun w hw => ⟨?_, ?_⟩
    · rw [watchersOf, associations_countOnline]
      exact hfew
    · exact (watches_onLogin db now).trans watches_after
    · rw [isOnline_login hd, isOnline_after hnul]
      exact or_iff_right fun h => hw h.symm
  · have hmessages : ((Attached.after db calls).presence.onLogout
        (Attached.after db calls).db now d).messages = _ := if_neg hne
    rw [hmessages]
    refine tellsWatchers_of ?_ fun w hw => ⟨?_, ?_⟩
    · exact le_trans (length_watchersOf_logout (Attached.after db calls).db now) hfew
    · rw [← watches_after]
      exact (watches_onLogout (Attached.after db calls).db now).trans (and_iff_right hw)
    · rw [isOnline_logout hd, isOnline_after hnul]
      exact and_iff_right fun h => hw h.symm

/-! ## Two histories -/

/-- A browser logs in and subscribes to `d`. -/
def subscription (d : Bytes) : List PresenceCall :=
  [.login 5 (bytes "web-100000000"), .update (bytes "web-100000000") [d] true]

theorem subscription_watched (d : Bytes) :
    Subscribed (bytes "web-100000000") d (subscription d) ∧
      OnlineAfter newFile (bytes "web-100000000") (subscription d) := by
  refine ⟨⟨[.login 5 (bytes "web-100000000")], _, [], rfl, ⟨rfl, by simp⟩, by simp⟩, .inl ?_⟩
  refine ⟨[], _, [.update (bytes "web-100000000") [d] true], rfl, rfl, fun call hcall => ?_⟩
  rw [List.mem_singleton.mp hcall]
  exact id

/-- The browser is all there is to watch anything. -/
theorem length_watchersOf_subscription (d : Bytes) :
    ((Attached.after newFile (subscription d)).presence.watchersOf d).length ≤ maxBindParameters := by
  have hall : (Attached.after newFile (subscription d)).presence.watchersOf d
      ⊆ [bytes "web-100000000"] := by
    intro w hw
    obtain ⟨before, call, later, hcalls, hnames, _⟩ := watches_after.mp (mem_watchersOf.mp hw)
    have hcall : call ∈ subscription d := by simp [hcalls]
    rcases List.mem_cons.mp hcall with rfl | hcall
    · exact hnames.elim
    · rw [List.mem_singleton.mp hcall] at hnames
      exact List.mem_singleton.mpr hnames.1.symm
  exact le_trans (List.subperm_of_subset watchersOf_nodup hall).length_le (Nat.le_add_left 1 _)

/-- The browser hears of a device it subscribed to. -/
theorem subscription_told : TellsWatchers newFile (subscription (bytes "100000000"))
    (bytes "100000000") false
    ((Attached.after newFile (subscription (bytes "100000000"))).presence.onLogout
      (Attached.after newFile (subscription (bytes "100000000"))).db 9 (bytes "100000000")).messages :=
  (presenceUpdates_exact newFile (subscription (bytes "100000000")) 9 (bytes "100000000")
    (by
      intro call hcall
      rcases List.mem_cons.mp hcall with rfl | hcall
      · exact (by decide : (0 : UInt8) ∉ bytes "web-100000000")
      · rw [List.mem_singleton.mp hcall]
        exact trivial)
    (by decide) (length_watchersOf_subscription _)).2.1 (by decide)

/-- The browser subscribed to the empty id, and does not hear of its logout. -/
theorem emptyIdLogout_untold : ¬ TellsWatchers newFile (subscription []) [] false
    ((Attached.after newFile (subscription [])).presence.onLogout
      (Attached.after newFile (subscription [])).db 9 []).messages := by
  rintro ⟨targets, hmessages, _, hright⟩
  have hnil : targets = [] := List.map_eq_nil_iff.mp hmessages.symm
  obtain ⟨hsub, honline⟩ := subscription_watched []
  have hin : bytes "web-100000000" ∈ targets := (hright _).mpr ⟨by decide, honline, hsub⟩
  rw [hnil] at hin
  exact absurd hin (by simp)

end DeskServer
