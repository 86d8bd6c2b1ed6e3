import DeskServer.Server.OfferAuthorisation
import DeskServer.Transmission.Departures

/-!
# `Server.LeaveFrame` — a guest leaves one of its transmissions

The message names a transmission, and the members of that transmission are told. What the manager then
releases is the guest, from every list it is on: a controller that watches two devices and leaves one is
dropped by both, and the second one is not told. Leaving one session leaves the others alone exactly for
guests of one session.

**Shape.** What the manager releases is computed for the whole state (`GuestLeave.react`), and compared with
what the message was about (`GuestLeave.leftAlone_iff`). Whether the members that are told have a live
connection is not part of it.
-/

namespace DeskServer

open Bytes

namespace SignalServer

open TransmissionManager DeviceDB

variable {sha256 : Digest} {server : SignalServer} {env : Env} {j : Json} {t u : Bytes}

/-- **What a leave of `t` by its guest `u` owes**: the guest is gone, no other guest list changes, and
    whoever stays where the guest was removed is told so. -/
structure LeftAlone (s s' : TransmissionManager) (sent : List (ConnectionHdl × Json)) (t u : Bytes) :
    Prop where
  gone : u ∉ s'.guestsOf t
  others : ∀ a, a ≠ t → s'.guestsOf a = s.guestsOf a
  told : ∀ a, u ∈ s.guestsOf a → u ∉ s'.guestsOf a → ∀ x,
    (s'.transmissionHostIdList[a]? = some x ∨ x ∈ s'.guestsOf a) →
      (s.getWsHandle x, leaveMessage a u) ∈ sent

/-- The step is a message that leaves `t` in the name of a guest of it. -/
structure GuestLeave (server : SignalServer) (step : Step) (t u : Bytes) : Prop where
  message : ∃ (connection : Connection) (payload : Option Json) (j : Json),
    step.2 = .message connection payload ∧ payloadType payload = some (j, .userLeaveTransmission) ∧
    j.stringField (bytes "transmission_id") = some t ∧ j.stringField (bytes "user_id") = some u
  guest : u ∈ server.transmission.guestsOf t

/-- What the leaves of a step owe. -/
def LeavesAlone (sha256 : Digest) (server : SignalServer) (step : Step) : Prop :=
  ∀ t u, GuestLeave server step t u →
    LeftAlone server.transmission (server.next sha256 step).transmission
      (server.react sha256 step.1 step.2).2 t u

/-- Whoever leaves a transmission is guest of no other one. -/
def OneSession (server : SignalServer) (step : Step) : Prop :=
  ∀ t u, GuestLeave server step t u → ∀ a, a ≠ t → u ∉ server.transmission.guestsOf a

/-- What a leave of a guest does. -/
theorem GuestLeave.react {step : Step} (h : GuestLeave server step t u) (sha256 : Digest)
    (hs : server.transmission.WellFormed) :
    (server.next sha256 step).transmission = (server.transmission.releaseGuestFromTransmission u).tm ∧
    (server.react sha256 step.1 step.2).2
      = (server.transmission.getAllUserIdOfTransmission t |>.filter fun id => id ≠ u).map
          fun id => (server.transmission.getWsHandle id, leaveMessage t u) := by
  obtain ⟨⟨connection, payload, j, he, hp, ht, hu⟩, hguest⟩ := h
  obtain ⟨host, hhost, hnot⟩ := hs.host_of_mem hguest
  -- the host is no guest of its own transmission, so the guest branch is taken
  have hother : server.transmission.transmissionHostIdList[t]? ≠ some u := by
    intro hu'
    rw [hhost] at hu'
    exact hnot (Option.some.inj hu' ▸ hguest)
  have hreact : server.react sha256 step.1 step.2 = (leaveTransmission server step.1 j).outcome :=
    react_message he hp
  constructor
  · show (server.react sha256 step.1 step.2).1.transmission = _
    rw [hreact]
    show (leaveTransmission server step.1 j).server.transmission = _
    rw [leaveTransmission_of_guest ht hu hother]
    rfl
  · rw [hreact]
    exact leaveTransmission_sent server step.1 ht hu

/-- **A leave leaves the other sessions alone exactly when there is none.** -/
theorem GuestLeave.leftAlone_iff {step : Step} (h : GuestLeave server step t u)
    (hs : server.transmission.WellFormed) :
    LeftAlone server.transmission (server.next sha256 step).transmission
        (server.react sha256 step.1 step.2).2 t u ↔
      ∀ a, a ≠ t → u ∉ server.transmission.guestsOf a := by
  obtain ⟨htm, hsent⟩ := h.react sha256 hs
  have hguests : ∀ a, (server.next sha256 step).transmission.guestsOf a
      = (server.transmission.guestsOf a).filter (· ≠ u) := by
    intro a
    rw [htm, releaseGuestFromTransmission_guestsOf]
  have hgone : ∀ a, u ∉ (server.next sha256 step).transmission.guestsOf a := by
    intro a hin
    rw [hguests, List.mem_filter] at hin
    exact absurd rfl (of_decide_eq_true hin.2)
  constructor
  · intro hleft a ha hin
    rw [← hleft.others a ha] at hin
    exact hgone a hin
  · intro hone
    refine ⟨hgone t, ?_, ?_⟩
    · intro a ha
      rw [hguests, List.filter_eq_self]
      intro x hx
      have hne : x ≠ u := fun heq => hone a ha (heq ▸ hx)
      exact decide_eq_true hne
    · intro a hin _ x hx
      have hat : a = t := by
        by_contra hne
        exact hone a hne hin
      subst hat
      rw [hsent]
      obtain ⟨host, hhost, hnot⟩ := hs.host_of_mem hin
      rcases hx with hx | hx
      · rw [htm] at hx
        have hx' : server.transmission.transmissionHostIdList[a]? = some x := hx
        rw [hhost] at hx'
        obtain rfl := Option.some.inj hx'
        have hne : host ≠ u := fun heq => hnot (heq ▸ hin)
        exact List.mem_map.mpr ⟨host, List.mem_filter.mpr
          ⟨(mem_getAllUserIdOfTransmission hhost).mpr (.inl rfl), decide_eq_true hne⟩, rfl⟩
      · rw [hguests, List.mem_filter] at hx
        exact List.mem_map.mpr ⟨x, List.mem_filter.mpr
          ⟨(mem_getAllUserIdOfTransmission hhost).mpr (.inr hx.1), hx.2⟩, rfl⟩

/-- **Leaving one session leaves the others alone exactly for guests of one session**, in every reachable
    state, and along every run from one. -/
theorem leavesAlone_iff (h : Reachable sha256 server) :
    (∀ step, LeavesAlone sha256 server step ↔ OneSession server step) ∧
    ∀ steps, Run.EveryStep (next sha256) (LeavesAlone sha256) server steps ↔
      Run.EveryStep (next sha256) OneSession server steps := by
  have hstep : ∀ server step, Reachable sha256 server →
      (LeavesAlone sha256 server step ↔ OneSession server step) := by
    intro server step hreach
    unfold LeavesAlone OneSession
    constructor
    · intro hleft t u hleave
      exact (hleave.leftAlone_iff hreach.sound.wellFormed).mp (hleft t u hleave)
    · intro hone t u hleave
      exact (hleave.leftAlone_iff hreach.sound.wellFormed).mpr (hone t u hleave)
  exact ⟨fun step => hstep server step h,
    fun steps => Run.everyStep_congr (fun _ step hs => .event step hs) hstep h steps⟩

/-! ## Two devices, one controller -/

/-- A device registers while the last id is drawn. -/
def secondRegistration : Step :=
  ({ Env.still 0 with draws := { (Env.still 0).draws with deviceId := fun _ _ => Fin.last 899999999 } },
    .message 3 (some (loginMessage [])))

/-- One controller joins two devices. -/
def twoJoins : List Step :=
  [registration, secondRegistration, (.still 1, .message 2 (some (loginMessage (bytes "C-x")))),
    (.still 2, .message 2 (some (joinMessage (bytes "100000000@000000") (bytes "C-x")))),
    (.still 3, .message 2 (some (joinMessage (bytes "999999999@000000") (bytes "C-x"))))]

/-- It leaves the first one. -/
def leaveFirst : Step := (.still 4, .message 2 (some (leaveMessage (bytes "100000000") (bytes "C-x"))))

theorem leaveFirst_disturbs :
    ¬ ∀ sha256 server, Reachable sha256 server → ∀ step, LeavesAlone sha256 server step := by
  intro h
  have hreach : Reachable sampleDigest (after sampleDigest (start 0 newFile) twoJoins) :=
    .after (.started 0 newFile rfl) twoJoins
  have hleave : GuestLeave (after sampleDigest (start 0 newFile) twoJoins) leaveFirst
      (bytes "100000000") (bytes "C-x") :=
    ⟨⟨2, _, _, rfl, rfl, rfl, rfl⟩, by decide⟩
  have hkept := (h _ _ hreach leaveFirst _ _ hleave).others (bytes "999999999") (by decide)
  exact absurd hkept (by decide)

/-- A controller of one device leaves it. -/
theorem leaveFirst_alone : LeavesAlone sampleDigest joined leaveFirst := by
  have hlists : joined.transmission.transmissionGuestIdList.toList
      = [(bytes "100000000", [bytes "C-x"])] := by decide
  have honly : ∀ a v, v ∈ joined.transmission.guestsOf a → a = bytes "100000000" := by
    intro a v hv
    have hmem := Std.ExtTreeMap.mem_toList (e := (a, _)).mpr (stored_of_mem hv)
    rw [hlists, List.mem_singleton] at hmem
    exact congrArg Prod.fst hmem
  apply ((leavesAlone_iff joined_reachable).1 leaveFirst).mpr
  intro t u hleave a ha hin
  exact ha ((honly a u hin).trans (honly t u hleave.guest).symm)

end SignalServer
end DeskServer
