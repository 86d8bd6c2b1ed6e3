import DeskServer.Lib.Run
import DeskServer.Transmission.Effects

/-!
# `Transmission.Operations` — the public operations as one step function

Any sequence of public `TransmissionManager` calls is a list of `Operation`s. The step function returns
the callbacks of the call next to the new tables; a run keeps the callbacks of all its calls.
-/

namespace DeskServer
namespace TransmissionManager

/-- A public call that can change the manager. -/
inductive Operation where
  | bindHostToTransmission (hostId transmissionId : Bytes)
  | bindGuestToTransmission (guestId transmissionId : Bytes)
  | bindUserToWsHandle (now : Int) (userId : Bytes) (hdl : ConnectionHdl)
  | releaseGuestFromTransmission (guestId : Bytes)
  | releaseTransmission (transmissionId : Bytes)
  | disconnectTransmission (transmissionId : Bytes)
  | pruneDisconnectedTransmissions
  | releaseUserSession (hdl : ConnectionHdl)
  | releaseUserFromWsHandle (hdl : ConnectionHdl)
  | removeWsHandleLastActiveTime (hdl : ConnectionHdl)
  | updateWsHandleLastActiveTime (now : Int) (hdl : ConnectionHdl)
  | expireInactiveSessions (now : Int) (expired : ConnectionHdl → Bool)

/-- The tables and the callbacks after one call. -/
def apply (s : TransmissionManager) : Operation → TransmissionManager × List SessionEvent
  | .bindHostToTransmission h t =>
      ((s.bindHostToTransmission h t).tm, (s.bindHostToTransmission h t).events)
  | .bindGuestToTransmission g t =>
      ((s.bindGuestToTransmission g t).tm, (s.bindGuestToTransmission g t).events)
  | .bindUserToWsHandle now u hdl =>
      ((s.bindUserToWsHandle now u hdl).tm, (s.bindUserToWsHandle now u hdl).events)
  | .releaseGuestFromTransmission g =>
      ((s.releaseGuestFromTransmission g).tm, (s.releaseGuestFromTransmission g).events)
  | .releaseTransmission t => ((s.releaseTransmission t).tm, (s.releaseTransmission t).events)
  | .disconnectTransmission t =>
      ((s.disconnectTransmission t).tm, (s.disconnectTransmission t).events)
  | .pruneDisconnectedTransmissions =>
      (s.pruneDisconnectedTransmissions.tm, s.pruneDisconnectedTransmissions.events)
  | .releaseUserSession hdl => ((s.releaseUserSession hdl).tm, (s.releaseUserSession hdl).events)
  | .releaseUserFromWsHandle hdl =>
      ((s.releaseUserFromWsHandle hdl).tm, (s.releaseUserFromWsHandle hdl).events)
  | .removeWsHandleLastActiveTime hdl => (s.removeWsHandleLastActiveTime hdl, [])
  | .updateWsHandleLastActiveTime now hdl =>
      ((s.updateWsHandleLastActiveTime now hdl).tm, (s.updateWsHandleLastActiveTime now hdl).events)
  | .expireInactiveSessions now expired => s.expireInactiveSessions now expired recordEvents []

/-- **Every call has an effect of one of the three kinds.** -/
theorem apply_effect {s : TransmissionManager} (hs : s.WellFormed) (op : Operation) :
    Effect s (s.apply op).1 (s.apply op).2 := by
  cases op with
  | bindHostToTransmission h t => exact bindHostToTransmission_effect hs h t
  | bindGuestToTransmission g t => exact bindGuestToTransmission_effect hs g t
  | bindUserToWsHandle now u hdl =>
      obtain ⟨hh, hg⟩ := bindUserToWsHandle_tables (s := s) now u hdl
      exact .parts (.of_eq hs hh hg)
  | releaseGuestFromTransmission g => exact .parts (releaseGuestFromTransmission_parts hs g)
  | releaseTransmission t => exact .parts (releaseTransmission_parts hs t)
  | disconnectTransmission t => exact .parts (disconnectTransmission_parts hs t)
  | pruneDisconnectedTransmissions => exact .parts (pruneDisconnectedTransmissions_parts hs)
  | releaseUserSession hdl => exact .parts (releaseUserSession_parts hs hdl)
  | releaseUserFromWsHandle hdl =>
      obtain ⟨hh, hg⟩ := releaseUserFromWsHandle_tables (s := s) hdl
      show Effect s (s.releaseUserFromWsHandle hdl).tm (s.releaseUserFromWsHandle hdl).events
      rw [releaseUserFromWsHandle_events]
      exact .parts (.of_eq hs hh hg)
  | removeWsHandleLastActiveTime hdl => exact .parts (.of_eq hs rfl rfl)
  | updateWsHandleLastActiveTime now hdl =>
      obtain ⟨hh, hg⟩ := updateWsHandleLastActiveTime_tables (s := s) now hdl
      show Effect s (s.updateWsHandleLastActiveTime now hdl).tm
        (s.updateWsHandleLastActiveTime now hdl).events
      rw [updateWsHandleLastActiveTime_events]
      exact .parts (.of_eq hs hh hg)
  | expireInactiveSessions now expired =>
      exact .parts (expireInactiveSessions_parts hs now expired)

/-- The tables and all callbacks so far, after one more call. -/
def record (acc : TransmissionManager × List SessionEvent) (op : Operation) :
    TransmissionManager × List SessionEvent :=
  ((acc.1.apply op).1, acc.2 ++ (acc.1.apply op).2)

/-- A run of public calls from a freshly constructed manager, with every callback it made. -/
def history (ops : List Operation) : TransmissionManager × List SessionEvent :=
  Run.run record (empty, []) ops

theorem history_wellFormed (ops : List Operation) : (history ops).1.WellFormed :=
  Run.run_invariant record (I := fun acc => acc.1.WellFormed) (s := (empty, []))
    (fun _ op h => (apply_effect h op).wellFormed h) empty_wellFormed ops

end TransmissionManager
end DeskServer
