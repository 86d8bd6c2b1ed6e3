import DeskServer.Lib.Bytes
import DeskServer.Lib.TreeMap

/-!
# `Transmission.Manager` — the `TransmissionManager` class

The in-memory tables of the signalling server: which user hosts which transmission, which guests joined
it, and which connection speaks for which user. Every public operation is a function from the tables to
an `Outcome`: the value returned, the new tables, and the invocations of
`remote_control_session_callback_` in the order they were made. The callback never calls back into the
manager, so listing its invocations loses nothing.
-/

namespace DeskServer

open Bytes

/-- A `websocketpp::connection_hdl`, as the address of its control block; `0` is the empty handle. The
    order of addresses is the order `std::owner_less` sorts by. -/
abbrev ConnectionHdl := Nat

/-- One invocation of `remote_control_session_callback_`. -/
structure SessionEvent where
  transmissionId : Bytes
  hostId : Bytes
  guestId : Bytes
  started : Bool
deriving DecidableEq

structure TransmissionSnapshot where
  transmissionId : Bytes
  hostId : Bytes
  guestIds : List Bytes
  participantCount : Nat
  active : Bool
deriving DecidableEq

structure TransmissionManager where
  transmissionHostIdList : Std.ExtTreeMap Bytes Bytes
  transmissionGuestIdList : Std.ExtTreeMap Bytes (List Bytes)
  userIdWsHdlList : Std.ExtTreeMap Bytes ConnectionHdl
  wsHdlUserIdList : Std.ExtTreeMap ConnectionHdl Bytes
  /-- `std::chrono::steady_clock` time points, in nanoseconds. -/
  wsHdlLastActiveTimeMap : Std.ExtTreeMap ConnectionHdl Int

namespace TransmissionManager

/-- A freshly constructed manager. -/
def empty : TransmissionManager := ⟨∅, ∅, ∅, ∅, ∅⟩

/-- What an operation returns, leaves behind and reports to the session callback. -/
structure Outcome (α : Type) where
  ret : α
  tm : TransmissionManager
  events : List SessionEvent

/-! ## Anonymous-namespace helpers -/

def hasConnectionOwner (hdl : ConnectionHdl) : Bool := hdl != 0

def sameConnection (lhs rhs : ConnectionHdl) : Bool :=
  hasConnectionOwner lhs && hasConnectionOwner rhs && lhs == rhs

def hasUserConnection (s : TransmissionManager) (userId : Bytes) : Bool :=
  s.wsHdlUserIdList.toList.any fun pair => pair.2 == userId

def transmissionMatchesSearch (transmissionId hostId : Bytes) (guestIds : Option (List Bytes))
    (search : Bytes) : Bool :=
  search.isEmpty || contains search transmissionId || contains search hostId ||
    match guestIds with
    | none => false
    | some guests => guests.any fun guestId => contains search guestId

/-! ## Queries -/

def isTransmissionExist (s : TransmissionManager) (transmissionId : Bytes) : Bool :=
  s.transmissionHostIdList.contains transmissionId

def getHostIdOfTransmission (s : TransmissionManager) (transmissionId : Bytes) : Bytes :=
  (s.transmissionHostIdList[transmissionId]?).getD []

/-- The stored guest list, or the empty one when the transmission has no entry. -/
def guestsOf (s : TransmissionManager) (transmissionId : Bytes) : List Bytes :=
  (s.transmissionGuestIdList[transmissionId]?).getD []

/-- The first transmission, in id order, that `userId` hosts. -/
def isHost (s : TransmissionManager) (userId : Bytes) : Bytes :=
  match s.transmissionHostIdList.toList.find? fun pair => pair.2 == userId with
  | some pair => pair.1
  | none => []

def isGuest (s : TransmissionManager) (userId : Bytes) : Bytes :=
  match s.transmissionGuestIdList.toList.find? fun pair => pair.2.contains userId with
  | some pair => pair.1
  | none => []

def isHostOfTransmission (s : TransmissionManager) (userId transmissionId : Bytes) : Bool :=
  match s.transmissionHostIdList[transmissionId]? with
  | none => false
  | some hostId => hostId == userId

def getAllUserIdOfTransmission (s : TransmissionManager) (transmissionId : Bytes) : List Bytes :=
  (s.transmissionHostIdList[transmissionId]?).toList ++ s.guestsOf transmissionId

def getWsHandle (s : TransmissionManager) (userId : Bytes) : ConnectionHdl :=
  (s.userIdWsHdlList[userId]?).getD 0

def getUserId (s : TransmissionManager) (hdl : ConnectionHdl) : Bytes :=
  (s.wsHdlUserIdList[hdl]?).getD []

/-- One iteration of the snapshot loop: match, skip up to the offset, cap at the limit, append. -/
def snapshotStep (s : TransmissionManager) (limit offset : Nat) (search : Bytes)
    (acc : List TransmissionSnapshot × Nat) (hostPair : Bytes × Bytes) :
    List TransmissionSnapshot × Nat :=
  let guestIds := s.transmissionGuestIdList[hostPair.1]?
  if !transmissionMatchesSearch hostPair.1 hostPair.2 guestIds search then acc
  -- what matches is counted, shown or not
  else if acc.2 < offset then (acc.1, acc.2 + 1)
  else if acc.1.length ≥ limit then (acc.1, acc.2 + 1)
  else
    let guests := guestIds.getD []
    (acc.1 ++ [{ transmissionId := hostPair.1, hostId := hostPair.2, guestIds := guests,
                 participantCount := 1 + guests.length, active := true }], acc.2 + 1)

/-- The page of snapshots and the number of transmissions that match the search. -/
def getTransmissionSnapshots (s : TransmissionManager) (limit offset : Nat) (search : Bytes) :
    List TransmissionSnapshot × Nat :=
  s.transmissionHostIdList.toList.foldl (s.snapshotStep limit offset search) ([], 0)

/-- One iteration of the count: add the guests of a hosted transmission, if it has an entry. -/
def countStep (s : TransmissionManager) (count : Nat) (hostPair : Bytes × Bytes) : Nat :=
  match s.transmissionGuestIdList[hostPair.1]? with
  | some guests => count + guests.length
  | none => count

def getActiveConnectionCount (s : TransmissionManager) : Nat :=
  s.transmissionHostIdList.toList.foldl s.countStep 0

/-! ## Hosts and guests -/

def bindHostToTransmission (s : TransmissionManager) (hostId transmissionId : Bytes) :
    Outcome Bool :=
  -- the first host stays, whoever asks
  if s.transmissionHostIdList.contains transmissionId then ⟨false, s, []⟩
  else
    ⟨true, { s with
        transmissionHostIdList := s.transmissionHostIdList.insert transmissionId hostId }, []⟩

def bindGuestToTransmission (s : TransmissionManager) (guestId transmissionId : Bytes) :
    Outcome Bool :=
  match s.transmissionHostIdList[transmissionId]? with
  | none => ⟨false, s, []⟩
  | some hostId =>
    -- nobody joins a transmission of its own
    if hostId = guestId then ⟨false, s, []⟩
    else
      let guests := s.guestsOf transmissionId
      if guestId ∈ guests then ⟨false, s, []⟩
      else
        ⟨true, { s with transmissionGuestIdList :=
            s.transmissionGuestIdList.insert transmissionId (guests ++ [guestId]) },
          [⟨transmissionId, hostId, guestId, true⟩]⟩

/-- The end callbacks for `guests` leaving `transmissionId`, with the host the table holds for it. -/
def endEvents (s : TransmissionManager) (transmissionId : Bytes) (guests : List Bytes) :
    List SessionEvent :=
  guests.map fun guestId => ⟨transmissionId, s.getHostIdOfTransmission transmissionId, guestId, false⟩

def releaseTransmission (s : TransmissionManager) (transmissionId : Bytes) : Outcome Bool :=
  ⟨true, { s with
      transmissionGuestIdList := s.transmissionGuestIdList.erase transmissionId
      transmissionHostIdList := s.transmissionHostIdList.erase transmissionId },
    s.endEvents transmissionId (s.guestsOf transmissionId)⟩

/-- `list.empty() ? erase : keep`, at the end of a visit to a guest list. -/
def keepNonEmpty (guests : List Bytes) : Option (List Bytes) :=
  if guests = [] then none else some guests

/-- The loop over the guest map, visiting the lists in transmission order: an end callback and
    `std::remove` wherever the guest is found. -/
def releaseGuestFromTransmission (s : TransmissionManager) (guestId : Bytes) : Outcome Bool :=
  ⟨s.transmissionGuestIdList.toList.any fun entry => entry.2.contains guestId,
    { s with transmissionGuestIdList := s.transmissionGuestIdList.rewrite fun _ guests =>
        if guestId ∈ guests then keepNonEmpty (guests.filter (· ≠ guestId)) else some guests },
    s.transmissionGuestIdList.toList.flatMap fun entry =>
      s.endEvents entry.1 (if guestId ∈ entry.2 then [guestId] else [])⟩

def disconnectTransmission (s : TransmissionManager) (transmissionId : Bytes) : Outcome Bool :=
  if !s.isTransmissionExist transmissionId then ⟨true, s, []⟩ else s.releaseTransmission transmissionId

/-- First loop of the prune: release one transmission whose host is gone, counting its guests. -/
def pruneStep (acc : Outcome Nat) (transmissionId : Bytes) : Outcome Nat :=
  let released := acc.tm.releaseTransmission transmissionId
  ⟨acc.ret + (acc.tm.guestsOf transmissionId).length, released.tm, acc.events ++ released.events⟩

/-- Second loop of the prune: drop every guest without a connection. -/
def pruneGuests (s : TransmissionManager) : Outcome Nat :=
  let gone := fun guests : List Bytes => guests.filter fun guestId => !s.hasUserConnection guestId
  ⟨(s.transmissionGuestIdList.toList.map fun entry => (gone entry.2).length).sum,
    { s with transmissionGuestIdList := s.transmissionGuestIdList.rewrite fun _ guests =>
        keepNonEmpty (guests.filter fun guestId => s.hasUserConnection guestId) },
    s.transmissionGuestIdList.toList.flatMap fun entry => s.endEvents entry.1 (gone entry.2)⟩

def pruneDisconnectedTransmissions (s : TransmissionManager) : Outcome Nat :=
  let disconnected := (s.transmissionHostIdList.toList.filter fun hostPair =>
    !s.hasUserConnection hostPair.2).map Prod.fst
  let first := disconnected.foldl pruneStep ⟨0, s, []⟩
  let second := first.tm.pruneGuests
  ⟨first.ret + second.ret, second.tm, first.events ++ second.events⟩

/-! ## Connections -/

/-- `-1` (and no entry) for a connection without an authenticated session. -/
def updateWsHandleLastActiveTime (s : TransmissionManager) (now : Int) (hdl : ConnectionHdl) :
    Outcome Int :=
  if s.wsHdlUserIdList.contains hdl then
    ⟨0, { s with wsHdlLastActiveTimeMap := s.wsHdlLastActiveTimeMap.insert hdl now }, []⟩
  else ⟨-1, s, []⟩

def bindUserToWsHandle (s : TransmissionManager) (now : Int) (userId : Bytes) (hdl : ConnectionHdl) :
    Outcome Bool :=
  let bound := { s with
    userIdWsHdlList := s.userIdWsHdlList.insert userId hdl
    wsHdlUserIdList := s.wsHdlUserIdList.insert hdl userId }
  ⟨true, (bound.updateWsHandleLastActiveTime now hdl).tm, []⟩

def removeWsHandleLastActiveTime (s : TransmissionManager) (hdl : ConnectionHdl) :
    TransmissionManager :=
  { s with wsHdlLastActiveTimeMap := s.wsHdlLastActiveTimeMap.erase hdl }

/-- Route `userId` to the first remaining connection that speaks for it, if `hdl` was its route. -/
def reassignWsHandle (s : TransmissionManager) (hdl : ConnectionHdl) (userId : Bytes) :
    Std.ExtTreeMap Bytes ConnectionHdl :=
  match s.userIdWsHdlList[userId]? with
  | none => s.userIdWsHdlList
  | some routed =>
    if sameConnection routed hdl then
      match s.wsHdlUserIdList.toList.find? fun pair => pair.2 == userId with
      | some pair => s.userIdWsHdlList.insert userId pair.1
      | none => s.userIdWsHdlList.erase userId
    else s.userIdWsHdlList

def releaseUserFromWsHandle (s : TransmissionManager) (hdl : ConnectionHdl) : Outcome Bytes :=
  let idle := s.removeWsHandleLastActiveTime hdl
  match s.wsHdlUserIdList[hdl]? with
  | none => ⟨[], idle, []⟩
  | some userId =>
    let unbound := { idle with wsHdlUserIdList := s.wsHdlUserIdList.erase hdl }
    ⟨userId, { unbound with userIdWsHdlList := unbound.reassignWsHandle hdl userId }, []⟩

/-- The user whose last connection this was, or the empty string. -/
def releaseUserSession (s : TransmissionManager) (hdl : ConnectionHdl) : Outcome Bytes :=
  let unbound := s.releaseUserFromWsHandle hdl
  let userId := unbound.ret
  if userId = [] then ⟨[], unbound.tm, []⟩
  -- another connection speaks for the user: nothing of it is released
  else if unbound.tm.hasUserConnection userId then ⟨[], unbound.tm, []⟩
  else
    let left := unbound.tm.releaseGuestFromTransmission userId
    let transmissionId := left.tm.isHost userId
    -- of several transmissions the user hosts, the first in id order
    if transmissionId ≠ [] then
      let released := left.tm.releaseTransmission transmissionId
      ⟨userId, released.tm, left.events ++ released.events⟩
    else ⟨userId, left.tm, left.events⟩

/-! ## The watchdog sweep -/

/-- Ten seconds of the steady clock. -/
def inactivityLimit : Int := 10000000000

/-- The test that condemns an entry of the activity map; the empty handle is always expired. -/
def isInactive (now : Int) (expired : ConnectionHdl → Bool) (entry : ConnectionHdl × Int) : Bool :=
  entry.1 == 0 || expired entry.1 || decide (now - entry.2 > inactivityLimit)

/-- What the sweep does to one condemned connection before the timeout callback runs. -/
def expireSession (s : TransmissionManager) (hdl : ConnectionHdl) : Outcome Bytes :=
  (s.removeWsHandleLastActiveTime hdl).releaseUserSession hdl

/-- One iteration of the sweep; `notify` is `session_timeout_callback_` acting on the rest of the
    server, after the session callbacks of this release. -/
def expireStep {σ : Type} (now : Int) (expired : ConnectionHdl → Bool)
    (notify : Outcome Bytes → ConnectionHdl → σ → σ) (acc : TransmissionManager × σ)
    (entry : ConnectionHdl × Int) : TransmissionManager × σ :=
  if isInactive now expired entry then
    let released := acc.1.expireSession entry.1
    (released.tm, notify released entry.1 acc.2)
  else acc

/-- The sweep visits the activity map in handle order; a visit removes its own entry only. -/
def expireInactiveSessions {σ : Type} (now : Int) (expired : ConnectionHdl → Bool)
    (notify : Outcome Bytes → ConnectionHdl → σ → σ) (s : TransmissionManager) (rest : σ) :
    TransmissionManager × σ :=
  s.wsHdlLastActiveTimeMap.toList.foldl (expireStep now expired notify) (s, rest)

end TransmissionManager

end DeskServer
