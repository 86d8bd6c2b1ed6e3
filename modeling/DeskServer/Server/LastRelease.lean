import DeskServer.Server.Reachable
import DeskServer.Transmission.Departures

/-!
# `Server.LastRelease` — the release of a user's last connection

`ReleaseUserSession` names the user whose last connection it released, takes it out of every guest list
and ends the first transmission it hosts. In a reachable state that is all it hosts: a transmission is
named after its host, so there is only one.

**Shape.** The release is rewritten as the release of the user from everything (`releaseUserSession_cases`),
and `SelfHosted` makes the one transmission it ends the only one there is. Everything else keeps its place
(`releaseUserSession_final`).
-/

namespace DeskServer

open Bytes

namespace TransmissionManager

variable {s : TransmissionManager} {hdl : ConnectionHdl} {u : Bytes}

/-- **What a final release of `u` owes**: it hosts nothing and is nobody's guest, each pair that went is
    reported once, and whatever is neither of `u` nor in a transmission of `u` is as before. -/
structure FinalRelease (s : TransmissionManager) (out : Outcome Bytes) (u : Bytes) : Prop where
  noHost : ∀ t : Bytes, out.tm.transmissionHostIdList[t]? ≠ some u
  noGuest : ∀ t, u ∉ out.tm.guestsOf t
  ended : ∀ p ∈ removed s out.tm, out.events.count (s.endOf p) = 1
  onlyEnds : ∀ e ∈ out.events, ∃ p ∈ removed s out.tm, e = s.endOf p
  hosts : ∀ t : Bytes, s.transmissionHostIdList[t]? ≠ some u →
    out.tm.transmissionHostIdList[t]? = s.transmissionHostIdList[t]?
  guests : ∀ t : Bytes, s.transmissionHostIdList[t]? ≠ some u →
    out.tm.guestsOf t = (s.guestsOf t).filter (· ≠ u)

/-- Whoever hosts a transmission is found by `IsHost`. -/
theorem SelfHosted.isHost_eq (hself : s.SelfHosted) {t : Bytes}
    (h : s.transmissionHostIdList[t]? = some u) : s.isHost u = u := by
  unfold isHost
  cases hfind : s.transmissionHostIdList.toList.find? fun pair => pair.2 == u with
  | none =>
      have hnot := List.find?_eq_none.mp hfind (t, u) (Std.ExtTreeMap.mem_toList.mpr h)
      exact absurd (beq_self_eq_true u) hnot
  | some pair =>
      have hmem := Std.ExtTreeMap.mem_toList.mp (List.mem_of_find?_eq_some hfind)
      have hhost : pair.2 = u := by simpa using List.find?_some hfind
      show pair.1 = u
      rw [← hself pair.1 pair.2 hmem, hhost]

/-- What is done for a user without a connection left. -/
def releaseEverything (s : TransmissionManager) (u : Bytes) : TransmissionManager :=
  let left := (s.releaseGuestFromTransmission u).tm
  if left.isHost u ≠ [] then (left.releaseTransmission (left.isHost u)).tm else left

/-- The two outcomes of `ReleaseUserSession`. -/
theorem releaseUserSession_cases (s : TransmissionManager) (hdl : ConnectionHdl) :
    (s.releaseUserSession hdl = ⟨[], (s.releaseUserFromWsHandle hdl).tm, []⟩) ∨
    ((s.releaseUserSession hdl).ret ≠ [] ∧ (s.releaseUserSession hdl).tm
      = (s.releaseUserFromWsHandle hdl).tm.releaseEverything (s.releaseUserSession hdl).ret) := by
  simp only [releaseUserSession]
  by_cases hnil : (s.releaseUserFromWsHandle hdl).ret = []
  · rw [if_pos hnil]
    exact .inl rfl
  · rw [if_neg hnil]
    by_cases hconn : (s.releaseUserFromWsHandle hdl).tm.hasUserConnection
        (s.releaseUserFromWsHandle hdl).ret = true
    · rw [if_pos hconn]
      exact .inl rfl
    · rw [if_neg hconn]
      right
      split
      · rename_i hhost
        refine ⟨hnil, ?_⟩
        simp only [releaseEverything]
        rw [if_pos hhost]
      · rename_i hhost
        refine ⟨hnil, ?_⟩
        simp only [releaseEverything]
        rw [if_neg hhost]

/-- The hosts that stay. -/
theorem SelfHosted.releaseEverything_hosts (hself : s.SelfHosted) (hu : u ≠ []) (t : Bytes) :
    (s.releaseEverything u).transmissionHostIdList[t]?
      = if s.transmissionHostIdList[t]? = some u then none else s.transmissionHostIdList[t]? := by
  have hleft : (s.releaseGuestFromTransmission u).tm.SelfHosted := hself
  unfold releaseEverything
  simp only
  by_cases hhost : s.transmissionHostIdList[t]? = some u
  · have hid : (s.releaseGuestFromTransmission u).tm.isHost u = u := hleft.isHost_eq hhost
    rw [if_pos hhost, hid, if_pos hu, releaseTransmission_hosts, if_pos (hself t u hhost)]
  · rw [if_neg hhost]
    split
    · rename_i hne
      rw [releaseTransmission_hosts]
      split
      · rename_i heq
        -- the transmission that goes is hosted by the user
        exact absurd (heq ▸ isHost_spec hne) hhost
      · rfl
    · rfl

/-- The guests that stay. -/
theorem SelfHosted.releaseEverything_guests (hself : s.SelfHosted) (hu : u ≠ []) (t : Bytes) :
    (s.releaseEverything u).guestsOf t
      = if s.transmissionHostIdList[t]? = some u then [] else (s.guestsOf t).filter (· ≠ u) := by
  have hleft : (s.releaseGuestFromTransmission u).tm.SelfHosted := hself
  unfold releaseEverything
  simp only
  by_cases hhost : s.transmissionHostIdList[t]? = some u
  · have hid : (s.releaseGuestFromTransmission u).tm.isHost u = u := hleft.isHost_eq hhost
    rw [if_pos hhost, hid, if_pos hu, releaseTransmission_guestsOf, if_pos (hself t u hhost)]
  · rw [if_neg hhost]
    split
    · rename_i hne
      rw [releaseTransmission_guestsOf]
      split
      · rename_i heq
        exact absurd (heq ▸ isHost_spec hne) hhost
      · exact releaseGuestFromTransmission_guestsOf s u t
    · exact releaseGuestFromTransmission_guestsOf s u t

/-- **A final release is complete.** -/
theorem releaseUserSession_final (hs : s.WellFormed) (hself : s.SelfHosted)
    (hret : (s.releaseUserSession hdl).ret ≠ []) :
    FinalRelease s (s.releaseUserSession hdl) (s.releaseUserSession hdl).ret := by
  have hparts := releaseUserSession_parts hs hdl
  obtain ⟨hh, hg⟩ := releaseUserFromWsHandle_tables (s := s) hdl
  have hself' : (s.releaseUserFromWsHandle hdl).tm.SelfHosted := by
    intro t host hhost
    rw [hh] at hhost
    exact hself t host hhost
  rcases releaseUserSession_cases s hdl with hsilent | ⟨_, htm⟩
  · exact absurd (by rw [hsilent]) hret
  · have hhosts := hself'.releaseEverything_hosts hret
    have hguests := hself'.releaseEverything_guests hret
    rw [← htm, hh] at hhosts
    rw [← htm] at hguests
    simp only [hh, guestsOf, hg] at hguests
    refine ⟨?_, ?_, fun p hp => hparts.count_end hp, fun e he => hparts.mem_events.mp he, ?_, ?_⟩
    · intro t
      rw [hhosts]
      split
      · exact Option.some_ne_none _ ∘ Eq.symm
      · assumption
    · intro t
      rw [guestsOf, hguests]
      split
      · exact List.not_mem_nil
      · rw [List.mem_filter]
        exact fun h => absurd rfl (of_decide_eq_true h.2)
    · intro t ht
      rw [hhosts, if_neg ht]
    · intro t ht
      rw [guestsOf, hguests, if_neg ht]
      rfl

/-- A release that names nobody touches neither hosts nor guests. -/
theorem releaseUserSession_silent (hret : (s.releaseUserSession hdl).ret = []) :
    (s.releaseUserSession hdl).tm.transmissionHostIdList = s.transmissionHostIdList ∧
    (s.releaseUserSession hdl).tm.transmissionGuestIdList = s.transmissionGuestIdList ∧
    (s.releaseUserSession hdl).events = [] := by
  rcases releaseUserSession_cases s hdl with hsilent | ⟨hne, _⟩
  · obtain ⟨hh, hg⟩ := releaseUserFromWsHandle_tables (s := s) hdl
    rw [hsilent]
    exact ⟨hh, hg, rfl⟩
  · exact absurd hret hne

end TransmissionManager

namespace SignalServer

open TransmissionManager

/-- **The last release of a user is complete, every other one leaves the sessions alone**, in every
    reachable state and for every handle. -/
theorem releaseUserSession_complete {sha256 : Digest} {server : SignalServer}
    (h : Reachable sha256 server) (hdl : ConnectionHdl) :
    let out := server.transmission.releaseUserSession hdl
    (out.ret ≠ [] → FinalRelease server.transmission out out.ret) ∧
    (out.ret = [] →
      out.tm.transmissionHostIdList = server.transmission.transmissionHostIdList ∧
      out.tm.transmissionGuestIdList = server.transmission.transmissionGuestIdList ∧
      out.events = []) := by
  intro out
  exact ⟨fun hret => releaseUserSession_final h.sound.wellFormed h.sound.selfHosted hret,
    fun hret => releaseUserSession_silent hret⟩

/-- The host of a joined session closes its one connection. -/
theorem joined_release : FinalRelease joined.transmission (joined.transmission.releaseUserSession 1)
    (bytes "100000000") := by
  have hret : (joined.transmission.releaseUserSession 1).ret = bytes "100000000" := by decide
  rw [← hret]
  exact (releaseUserSession_complete joined_reachable 1).1 (by rw [hret]; decide)

end SignalServer
end DeskServer
