import DeskServer.Server.Relay
import DeskServer.Server.Restore

/-!
# `Server.JoinAuthorisation` — who may join, and who got into the guest lists

A join is admitted when the password verifies, the host has a route that is not expired, and the message
names the user of the connection it came in on. A connection that never logged in has the empty id for
its user, and a route can lead to a connection that speaks for somebody else by now; apart from these
two a join is authorised, and every guest of a run is one that joined as itself.

**Shape.** What a join does is told apart by whether it is admitted (`joinTransmission_effect`); with that,
one step is decided exactly (`joinAuthorised_iff`). The second half is an induction over the run on the
guests: a guest list grows by joins alone (`next_guests_subset`), so that each guest is followed back to one.
-/

namespace DeskServer
namespace SignalServer

open Bytes TransmissionManager

/-- The transmission, the password and the user of a join. -/
def joinFields (j : Json) : Option (Bytes × Bytes × Bytes) :=
  match j.stringField (bytes "transmission_id"), j.stringField (bytes "user_id") with
  | some text, some userId => some ((splitPassword text).1, (splitPassword text).2, userId)
  | _, _ => none

/-- **An authorised join**: the password is the one of the transmission, its host is connected, and the
    connection is authenticated as the user, who has an id. -/
structure Authorised (sha256 : Digest) (server : SignalServer) (env : Env) (hdl : ConnectionHdl)
    (t password u : Bytes) : Prop where
  verified : server.db.verifyDevice sha256 t password = 0
  host : ∃ host k, server.transmission.transmissionHostIdList[t]? = some host ∧
    server.transmission.Authenticated k host ∧ isExpired env k = false
  named : u ≠ []
  sender : server.transmission.Authenticated hdl u

/-- **A join changes the session tables only when it is authorised**, and then the user becomes a guest
    of the transmission and nothing else happens to them. -/
def JoinAuthorised (sha256 : Digest) (server : SignalServer) (step : Step) : Prop :=
  ∀ (hdl : Connection) payload j, step.2 = .message hdl payload →
    payloadType payload = some (j, .joinTransmission) →
    ¬ SameSessions server (server.next sha256 step) →
    ∃ t password u, joinFields j = some (t, password, u) ∧
      Authorised sha256 server step.1 hdl t password u ∧
      (server.next sha256 step).transmission = { server.transmission with
        transmissionGuestIdList := server.transmission.transmissionGuestIdList.insert t
          (server.transmission.guestsOf t ++ [u]) }

/-- **How a guest got in**: it has an id, and it was restored with the start and has stayed, or it has
    stayed since a join on a connection that was authenticated as it. -/
structure GuestProven (sha256 : Digest) (first : SignalServer) (steps : List Step) (t g : Bytes) :
    Prop where
  named : g ≠ []
  joined : (∀ pre, pre <+: steps → g ∈ (after sha256 first pre).transmission.guestsOf t) ∨
    Run.Since (next sha256) (fun server step => ∃ (hdl : Connection) (payload : Option Json) (j : Json)
        (password : Bytes), step.2 = .message hdl payload ∧
        payloadType payload = some (j, .joinTransmission) ∧ joinFields j = some (t, password, g) ∧
        server.transmission.Authenticated hdl g)
      (fun server => g ∈ server.transmission.guestsOf t) first steps

/-! ## The exact condition -/

/-- **The checks of a join**, all of them passed, by a user that is not in the transmission yet. -/
structure Admitted (sha256 : Digest) (server : SignalServer) (env : Env) (hdl : ConnectionHdl)
    (t password u : Bytes) : Prop where
  verified : server.db.verifyDevice sha256 t password = 0
  hosted : server.transmission.getHostIdOfTransmission t ≠ []
  reachable : isExpired env
    (server.transmission.getWsHandle (server.transmission.getHostIdOfTransmission t)) = false
  sender : server.transmission.getUserId hdl = u
  apart : server.transmission.getHostIdOfTransmission t ≠ u
  new : u ∉ server.transmission.guestsOf t

/-- **What the checks leave open** is in order: the user an admitted join names is not empty, and where
    the route of the host has come to lead to somebody else's connection, the host has another one that
    is not expired. -/
def JoinChecked (sha256 : Digest) (server : SignalServer) (step : Step) : Prop :=
  ∀ (hdl : Connection) payload j t password u, step.2 = .message hdl payload →
    payloadType payload = some (j, .joinTransmission) → joinFields j = some (t, password, u) →
    Admitted sha256 server step.1 hdl t password u → u ≠ [] ∧
      (server.transmission.getUserId (server.transmission.getWsHandle
          (server.transmission.getHostIdOfTransmission t))
          ≠ server.transmission.getHostIdOfTransmission t →
        ∃ k, server.transmission.Authenticated k (server.transmission.getHostIdOfTransmission t) ∧
          isExpired step.1 k = false)

variable {sha256 : Digest} {server : SignalServer} {env : Env} {hdl : ConnectionHdl} {j : Json}
  {t password u : Bytes} {step : Step} {steps : List Step}

/-- A transmission whose host id is not empty has that host. -/
theorem host_of_getHostId {s : TransmissionManager} (h : s.getHostIdOfTransmission t ≠ []) :
    s.transmissionHostIdList[t]? = some (s.getHostIdOfTransmission t) := by
  unfold getHostIdOfTransmission at *
  cases hh : s.transmissionHostIdList[t]? with
  | none => rw [hh] at h; exact absurd rfl h
  | some host => rfl

theorem joinFields_some (hj : joinFields j = some (t, password, u)) :
    ∃ text, j.stringField (bytes "transmission_id") = some text ∧
      j.stringField (bytes "user_id") = some u ∧ (splitPassword text).1 = t ∧
      (splitPassword text).2 = password := by
  unfold joinFields at hj
  cases ht : j.stringField (bytes "transmission_id") with
  | none => rw [ht] at hj; exact absurd hj (by simp)
  | some text =>
      cases hu : j.stringField (bytes "user_id") with
      | none => rw [ht, hu] at hj; exact absurd hj (by simp)
      | some userId =>
          rw [ht, hu] at hj
          obtain ⟨rfl, hrest⟩ := Prod.mk.inj (Option.some.inj hj)
          obtain ⟨rfl, rfl⟩ := Prod.mk.inj hrest
          exact ⟨text, rfl, rfl, rfl, rfl⟩

/-- **What a join does**: it lets its user in when it is admitted, and leaves the sessions alone
    otherwise. -/
theorem joinTransmission_effect (sha256 : Digest) (server : SignalServer) (env : Env)
    (hdl : ConnectionHdl) (hj : joinFields j = some (t, password, u)) :
    (Admitted sha256 server env hdl t password u ∧
      (joinTransmission sha256 server env hdl j).server.transmission = { server.transmission with
        transmissionGuestIdList := server.transmission.transmissionGuestIdList.insert t
          (server.transmission.guestsOf t ++ [u]) }) ∨
    (¬ Admitted sha256 server env hdl t password u ∧
      SameSessions server (joinTransmission sha256 server env hdl j).server) := by
  obtain ⟨text, ht, hu, rfl, rfl⟩ := joinFields_some hj
  unfold joinTransmission
  rw [ht, hu]
  simp only
  split
  · rename_i hverified
    split
    · rename_i hunavailable
      -- the host is missing, or its connection is gone
      refine .inr ⟨fun h => ?_, rfl, rfl⟩
      rcases hunavailable with hnone | hexpired
      · exact h.hosted hnone
      · rw [h.reachable] at hexpired
        exact absurd hexpired (by decide)
    · rename_i havailable
      obtain ⟨hhosted, hreach⟩ := not_or.mp havailable
      split
      · -- the connection speaks for somebody else
        rename_i hother
        exact .inr ⟨fun h => hother h.sender, rfl, rfl⟩
      · rename_i hsender
        rw [ne_eq, not_not] at hsender
        rcases bindGuestToTransmission_cases server.transmission u (splitPassword text).1 with
          ⟨hsame, hwhy⟩ | ⟨host, hhost, hdiff, hnew, hout⟩
        · right
          rw [hsame]
          refine ⟨fun h => ?_, rfl, rfl⟩
          rcases hwhy with hnone | hself | hin
          · rw [host_of_getHostId hhosted] at hnone
            exact absurd hnone (by simp)
          · rw [host_of_getHostId hhosted] at hself
            exact h.apart (Option.some.inj hself)
          · exact h.new hin
        · left
          rw [hout]
          rw [host_of_getHostId hhosted] at hhost
          obtain rfl := Option.some.inj hhost
          exact ⟨⟨hverified, hhosted, by simpa using hreach, hsender, hdiff, hnew⟩, rfl⟩
  · -- a wrong password, answered in one of two ways
    rename_i hwrong
    refine .inr ⟨fun h => hwrong h.verified, ?_⟩
    split
    · exact ⟨rfl, rfl⟩
    · split <;> exact ⟨rfl, rfl⟩

/-- A join without its fields does nothing. -/
theorem joinTransmission_unfielded (hj : joinFields j = none) :
    (joinTransmission sha256 server env hdl j).server = server := by
  unfold joinFields at hj
  unfold joinTransmission
  cases ht : j.stringField (bytes "transmission_id") with
  | none => rfl
  | some text =>
      cases hu : j.stringField (bytes "user_id") with
      | none => rfl
      | some userId =>
          rw [ht, hu] at hj
          exact absurd hj (by simp)

/-- An admitted join brings in a guest that was none. -/
theorem Admitted.changes (h : Admitted sha256 server env hdl t password u) {server' : SignalServer}
    (htm : server'.transmission = { server.transmission with
        transmissionGuestIdList := server.transmission.transmissionGuestIdList.insert t
          (server.transmission.guestsOf t ++ [u]) }) : ¬ SameSessions server server' := by
  intro hsame
  apply h.new
  rw [← hsame.transmission, htm]
  exact (mem_guestsOf_joined rfl).mpr (.inr ⟨rfl, rfl⟩)

/-! ## One step -/

/-- The live host of an admitted join. -/
theorem Admitted.host (h : Admitted sha256 server env hdl t password u)
    (hstale : server.transmission.getUserId (server.transmission.getWsHandle
        (server.transmission.getHostIdOfTransmission t))
        ≠ server.transmission.getHostIdOfTransmission t →
      ∃ k, server.transmission.Authenticated k (server.transmission.getHostIdOfTransmission t) ∧
        isExpired env k = false) :
    ∃ host k, server.transmission.transmissionHostIdList[t]? = some host ∧
      server.transmission.Authenticated k host ∧ isExpired env k = false := by
  refine ⟨server.transmission.getHostIdOfTransmission t, ?_⟩
  -- the join asks the route of the host, and the route may lead to another user's connection
  by_cases hroute : server.transmission.getUserId (server.transmission.getWsHandle
      (server.transmission.getHostIdOfTransmission t))
      = server.transmission.getHostIdOfTransmission t
  · refine ⟨_, host_of_getHostId h.hosted, ?_, h.reachable⟩
    have hne : server.transmission.getUserId (server.transmission.getWsHandle
        (server.transmission.getHostIdOfTransmission t)) ≠ [] := by
      rw [hroute]
      exact h.hosted
    have hspeaks := authenticated_of_getUserId hne
    rwa [hroute] at hspeaks
  · obtain ⟨k, ha, hlive⟩ := hstale hroute
    exact ⟨k, host_of_getHostId h.hosted, ha, hlive⟩

/-- **A step authorises its join exactly when what the checks leave open is in order.** -/
theorem joinAuthorised_iff (server : SignalServer) (step : Step) :
    JoinAuthorised sha256 server step ↔ JoinChecked sha256 server step := by
  obtain ⟨env, e⟩ := step
  constructor
  · intro h hdl payload j t password u he hp hj hadmitted
    have hnext : (server.next sha256 (env, e))
        = (joinTransmission sha256 server env hdl j).server := next_message he hp
    have hchanges : ¬ SameSessions server (server.next sha256 (env, e)) := by
      rw [hnext]
      rcases joinTransmission_effect sha256 server env hdl hj with ⟨_, htm⟩ | ⟨hnot, _⟩
      · exact hadmitted.changes htm
      · exact absurd hadmitted hnot
    obtain ⟨t', password', u', hj', hauth, _⟩ := h hdl payload j he hp hchanges
    rw [hj] at hj'
    obtain ⟨rfl, hrest⟩ := Prod.mk.inj (Option.some.inj hj')
    obtain ⟨rfl, rfl⟩ := Prod.mk.inj hrest
    refine ⟨hauth.named, fun _ => ?_⟩
    obtain ⟨host, k, hhost, ha, hlive⟩ := hauth.host
    rw [host_of_getHostId hadmitted.hosted] at hhost
    exact ⟨k, Option.some.inj hhost ▸ ha, hlive⟩
  · intro h hdl payload j he hp hchanges
    have hnext : (server.next sha256 (env, e))
        = (joinTransmission sha256 server env hdl j).server := next_message he hp
    rw [hnext] at hchanges ⊢
    cases hj : joinFields j with
    | none =>
        rw [joinTransmission_unfielded hj] at hchanges
        exact absurd ⟨rfl, rfl⟩ hchanges
    | some fields =>
        obtain ⟨t, password, u⟩ := fields
        rcases joinTransmission_effect sha256 server env hdl hj with ⟨hadmitted, htm⟩ | ⟨_, hsame⟩
        · obtain ⟨hnamed, hstale⟩ := h hdl payload j t password u he hp hj hadmitted
          have hne : server.transmission.getUserId hdl ≠ [] := by
            rw [hadmitted.sender]
            exact hnamed
          have hsender := authenticated_of_getUserId hne
          rw [hadmitted.sender] at hsender
          exact ⟨t, password, u, rfl,
            ⟨hadmitted.verified, hadmitted.host hstale, hnamed, hsender⟩, htm⟩
        · exact absurd hsame hchanges

/-- A login brings no guest in. -/
theorem login_guestsOf (sha256 : Digest) (server : SignalServer) (env : Env) (hdl : ConnectionHdl)
    (j : Json) (t : Bytes) :
    (server.login sha256 env hdl j).1.transmission.guestsOf t = server.transmission.guestsOf t := by
  rw [(login_frames sha256 server env hdl j).1]
  rcases loginUser_cases sha256 server env hdl j with
    ⟨hrefused, _⟩ | ⟨_, _, id, _, _, hgranted, _⟩
  · rw [hrefused.unchanged]
  · rw [hgranted.transmission, boundManager_guestsOf]

/-- **Only a join brings a guest in.** -/
theorem next_guests_subset (hs : server.transmission.WellFormed)
    (hjoin : ∀ (hdl : Connection) payload j, step.2 = .message hdl payload →
      payloadType payload ≠ some (j, .joinTransmission)) {t g : Bytes}
    (hg : g ∈ (server.next sha256 step).transmission.guestsOf t) :
    g ∈ server.transmission.guestsOf t := by
  obtain ⟨env, e⟩ := step
  change g ∈ (server.react sha256 env e).1.transmission.guestsOf t at hg
  by_cases hadmin : ∃ a, e = .adminDisconnect a
  · obtain ⟨a, rfl⟩ := hadmin
    change g ∈ (server.handleDisconnect env a).1.transmission.guestsOf t at hg
    rw [handleDisconnect_transmission] at hg
    split at hg
    · exact hg
    · obtain ⟨_, hleaves, _⟩ := disconnectTransmission_parts hs a
      exact (hleaves.mem_iff.mp hg).1
  · by_cases hlogin : ∃ (hdl : Connection) (payload : Option Json) (j : Json),
        e = .message hdl payload ∧ payloadType payload = some (j, .login)
    · obtain ⟨hdl, payload, j, he, hp⟩ := hlogin
      rw [react_message he hp] at hg
      exact login_guestsOf sha256 server env hdl j t ▸ hg
    · obtain ⟨_, hleaves, _⟩ := react_settles sha256 env hs (e := e)
        (fun hdl payload j type he hp => ⟨fun heq => hlogin ⟨hdl, payload, j, he, heq ▸ hp⟩,
          fun heq => hjoin hdl payload j he (heq ▸ hp)⟩) (fun a he => hadmin ⟨a, he⟩)
      exact (hleaves.mem_iff.mp hg).1

/-- Every guest a step leaves was one before, or is the user of the join that was this step. -/
theorem next_guests (hs : server.transmission.WellFormed) (hstep : JoinAuthorised sha256 server step)
    {t g : Bytes} (hg : g ∈ (server.next sha256 step).transmission.guestsOf t)
    (hnew : g ∉ server.transmission.guestsOf t) :
    g ≠ [] ∧ ∃ (hdl : Connection) (payload : Option Json) (j : Json) (password : Bytes),
      step.2 = .message hdl payload ∧ payloadType payload = some (j, .joinTransmission) ∧
      joinFields j = some (t, password, g) ∧ server.transmission.Authenticated hdl g := by
  obtain ⟨env, e⟩ := step
  by_cases hjoin : ∃ (hdl : Connection) (payload : Option Json) (j : Json),
      e = .message hdl payload ∧ payloadType payload = some (j, .joinTransmission)
  · obtain ⟨hdl, payload, j, he, hp⟩ := hjoin
    have hchanges : ¬ SameSessions server (server.next sha256 (env, e)) := fun hsame =>
      hnew (by rw [hsame.transmission] at hg; exact hg)
    obtain ⟨t', password, u, hj, hauth, htm⟩ := hstep hdl payload j he hp hchanges
    rw [htm] at hg
    rcases (mem_guestsOf_joined rfl).mp hg with hold | ⟨rfl, rfl⟩
    · exact absurd hold hnew
    · exact ⟨hauth.named, hdl, payload, j, password, he, hp, hj, hauth.sender⟩
  · exact absurd (next_guests_subset hs (fun hdl payload j he hp => hjoin ⟨hdl, payload, j, he, hp⟩) hg)
      hnew

/-! ## Runs -/

/-- The guests of a start are the ones its list names, and the list names nobody without an id. -/
theorem start_guest_named {now : Int} {db : DeviceDB} {t g : Bytes}
    (hg : g ∈ (start now db).transmission.guestsOf t) : g ≠ [] := by
  obtain ⟨⟨info, hinfo, _, hmem⟩, _⟩ := ((start_restored now db).guests t g).mp hg
  have hlisted := List.mem_of_mem_drop (List.mem_of_mem_take hinfo)
  obtain ⟨_, _, _, rfl⟩ := mem_sessionGroups_all.mp hlisted
  exact (splitCommaSeparatedIds_clean hmem).1

/-- The guests at the end of a run whose joins were all authorised, by induction on the run from its
    end: a guest that was there before the last step keeps its reason, a new one joined with it. -/
theorem guests_proven (sha256 : Digest) {first : SignalServer}
    (hfirst : first.transmission.WellFormed)
    (hnamed : ∀ t g, g ∈ first.transmission.guestsOf t → g ≠ []) (steps : List Step)
    (h : Run.EveryStep (next sha256) (JoinAuthorised sha256) first steps) (t g : Bytes)
    (hg : g ∈ (after sha256 first steps).transmission.guestsOf t) :
    GuestProven sha256 first steps t g := by
  induction steps using List.reverseRecOn with
  | nil =>
      refine ⟨hnamed t g hg, .inl fun pre hpre => ?_⟩
      rw [List.prefix_nil.mp hpre]
      exact hg
  | append_singleton steps step ih =>
      have hlast := h.last List.prefix_rfl
      have hwf : (after sha256 first steps).transmission.WellFormed :=
        Run.run_invariant (next sha256) (I := fun server => server.transmission.WellFormed)
          (next_wellFormed sha256) hfirst steps
      by_cases hold : g ∈ (after sha256 first steps).transmission.guestsOf t
      · obtain ⟨hne, hreason⟩ := ih (h.of_initial (List.prefix_append _ _)) hold
        refine ⟨hne, hreason.imp (fun hkept pre hpre => ?_) fun hsince => hsince.snoc hg⟩
        rcases List.prefix_concat_iff.mp hpre with rfl | hpre
        · exact hg
        · exact hkept pre hpre
      · rw [after_snoc] at hg
        obtain ⟨hne, hjoined⟩ := next_guests hwf hlast hg hold
        rw [← after_snoc] at hg
        exact ⟨hne, .inr (Run.Since.of_last hjoined hg)⟩

/-- **Join authorisation, exactly.** In a run from a start every join that changes the session tables is
    authorised, and every guest in every guest list is proven, if and only if what the checks leave open
    is in order at every step. -/
theorem joinAuthorisation_iff (sha256 : Digest) (now : Int) (db : DeviceDB) (steps : List Step) :
    (Run.EveryStep (next sha256) (JoinAuthorised sha256) (start now db) steps ∧
      ∀ pre, pre <+: steps → ∀ t g,
        g ∈ (after sha256 (start now db) pre).transmission.guestsOf t →
        GuestProven sha256 (start now db) pre t g) ↔
      Run.EveryStep (next sha256) (JoinChecked sha256) (start now db) steps := by
  have hexact : Run.EveryStep (next sha256) (JoinAuthorised sha256) (start now db) steps ↔
      Run.EveryStep (next sha256) (JoinChecked sha256) (start now db) steps :=
    Run.everyStep_congr (I := fun _ => True) (fun _ _ _ => trivial)
      (fun server step _ => joinAuthorised_iff server step) trivial steps
  rw [← hexact]
  constructor
  · rintro ⟨hjoins, _⟩
    exact hjoins
  · intro hjoins
    refine ⟨hjoins, fun pre hpre t g hg => ?_⟩
    exact guests_proven sha256 (start_wellFormed now db) (fun t g => start_guest_named) pre
      (hjoins.of_initial hpre) t g hg

/-- A device registers on connection 1; connection 2 never logs in, and joins in the name of nobody. -/
def namelessJoinRun : List Step :=
  [registration, (.still 1, .message 2 (some (joinMessage (bytes "100000000@000000") [])))]

/-- The empty id becomes a guest of the device. -/
theorem namelessJoinRun_unauthorised :
    ¬ Run.EveryStep (next sampleDigest) (JoinAuthorised sampleDigest) (start 0 DeviceDB.newFile)
      namelessJoinRun := by
  rintro ⟨_, hjoin, _⟩
  -- nobody speaks for the empty id
  have hguest : ([] : Bytes) ∈ (after sampleDigest (start 0 DeviceDB.newFile)
      namelessJoinRun).transmission.guestsOf (bytes "100000000") := by decide
  have hnone : ([] : Bytes) ∉ ((start 0 DeviceDB.newFile).next sampleDigest
      registration).transmission.guestsOf (bytes "100000000") := by decide
  obtain ⟨hnamed, _⟩ := next_guests
    (next_wellFormed sampleDigest _ registration (start_wellFormed 0 DeviceDB.newFile)) hjoin hguest
    hnone
  exact absurd rfl hnamed

end SignalServer
end DeskServer
