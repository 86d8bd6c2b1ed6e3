import DeskServer.Server.Steps
import DeskServer.Transmission.SessionLedger

/-!
# `Server.SessionStore` — the session table as a copy of the book of sessions

Every callback writes one row of `remote_control_sessions` or none. `Rows` says that the table is the
book of open sessions, written with the rows a start inserts: then posting a callback to the book and
handing it to the database keep the two in step, as long as the ids say the same to both.

**Shape.** `Rows` relates a book and a table key by key. `Rows.post_start` and `Rows.post_end` are the two
steps, and a list of callbacks is an induction over them; what a callback writes is `postRow`. The server
comes in one file later.
-/

namespace DeskServer

open Bytes Ledger DeviceDB TransmissionManager

abbrev SessionTable := Std.ExtTreeMap SessionKey SessionRow

/-- What a callback does to the session table alone. -/
def postRow (now : Int) (sessions : SessionTable) (event : SessionEvent) : SessionTable :=
  let key : SessionKey := ⟨bindText event.transmissionId, bindText event.guestId⟩
  if event.started then
    if event.transmissionId = [] ∨ event.hostId = [] ∨ event.guestId = [] ∨
        event.hostId = event.guestId then sessions
    else sessions.insertIfNew key (sessionRow now event.hostId event.guestId)
  else if event.transmissionId = [] ∨ event.guestId = [] then sessions
  else
    match sessions[key]? with
    | none => sessions
    | some row => if effectiveHostId row event.hostId = [] then sessions else sessions.erase key

/-- The callback reaches the session table through `postRow`, and nothing but it. -/
theorem remoteControlSessionCallback_sessions (now : Int) (db : DeviceDB) (event : SessionEvent) :
    (remoteControlSessionCallback now db event).remoteControlSessions
      = postRow now db.remoteControlSessions event := by
  unfold remoteControlSessionCallback postRow
  by_cases hst : event.started = true
  · simp only [hst, if_true]
    unfold startRemoteControlSession
    split <;> rfl
  · simp only [hst]
    unfold endRemoteControlSession
    by_cases hnil : event.transmissionId = [] ∨ event.guestId = []
    · simp only [hnil, if_true]
      rfl
    · simp only [hnil, if_false]
      cases hrow : db.remoteControlSessions[(⟨bindText event.transmissionId,
          bindText event.guestId⟩ : SessionKey)]? with
      | none => simp
      | some row =>
          by_cases hhost : effectiveHostId row event.hostId = []
          · simp [hhost]
          · simp only [hhost, if_false]
            rfl

/-- Induction on the callbacks of one manager operation. -/
theorem foldl_callback_sessions (now : Int) (events : List SessionEvent) (db : DeviceDB) :
    (events.foldl (remoteControlSessionCallback now) db).remoteControlSessions
      = events.foldl (postRow now) db.remoteControlSessions := by
  induction events generalizing db with
  | nil => rfl
  | cons event events ih =>
      rw [List.foldl_cons, ih, remoteControlSessionCallback_sessions, List.foldl_cons]

/-! ## The table of a book -/

/-- The pair a row stands for. -/
def keyPair (k : SessionKey) : Bytes × Bytes := (k.transmissionId.val, k.guestId.val)

/-- The key a pair is stored under. -/
def pairKey (p : Bytes × Bytes) : SessionKey := ⟨bindText p.1, bindText p.2⟩

/-- A pair whose texts reach the table as they are. -/
structure CleanPair (p : Bytes × Bytes) : Prop where
  named : p.1 ≠ []
  transmission : (0 : UInt8) ∉ p.1
  guest : (0 : UInt8) ∉ p.2

theorem pairKey_keyPair (k : SessionKey) : pairKey (keyPair k) = k := by
  simp only [pairKey, keyPair, bindText_column]

theorem CleanPair.keyPair_pairKey {p : Bytes × Bytes} (hp : CleanPair p) : keyPair (pairKey p) = p := by
  simp only [keyPair, pairKey, bindText_val, cstr_eq_self hp.transmission, cstr_eq_self hp.guest]

theorem CleanPair.pairKey_eq_iff {p : Bytes × Bytes} (hp : CleanPair p) {k : SessionKey} :
    pairKey p = k ↔ keyPair k = p := by
  constructor
  · rintro rfl; exact hp.keyPair_pairKey
  · rintro rfl; exact pairKey_keyPair k

/-- The host the book has for a row; the guest without an id has no row. -/
def bookHost (B : Book (Bytes × Bytes) Bytes) (k : SessionKey) : Option Bytes :=
  if k.guestId.val = [] then none else B (keyPair k)

/-- **The table is the book**, each row as the start of its session inserted it, at second `births`. -/
def Rows (births : SessionKey → Int) (B : Book (Bytes × Bytes) Bytes) (sessions : SessionTable) : Prop :=
  ∀ k : SessionKey, sessions[k]?
    = (bookHost B k).map fun host => sessionRow (births k) host k.guestId.val

variable {births : SessionKey → Int} {B : Book (Bytes × Bytes) Bytes} {sessions : SessionTable}
  {p : Bytes × Bytes} {now : Int}

theorem Rows.pairKey_row (h : Rows births B sessions) (hp : CleanPair p) :
    sessions[pairKey p]?
      = if p.2 = [] then none else (B p).map fun host => sessionRow (births (pairKey p)) host p.2 := by
  have hguest : (pairKey p).guestId.val = p.2 := cstr_eq_self hp.guest
  rw [h, bookHost, hp.keyPair_pairKey, hguest]
  split <;> rfl

/-- The book says the same about every other row. -/
theorem bookHost_update (hp : CleanPair p) (value : Option Bytes) (k : SessionKey) :
    bookHost (Function.update B p value) k
      = if pairKey p = k then (if p.2 = [] then none else value) else bookHost B k := by
  unfold bookHost
  by_cases hk : pairKey p = k
  · have hpair := hp.pairKey_eq_iff.mp hk
    have hguest : k.guestId.val = p.2 := congrArg Prod.snd hpair
    rw [if_pos hk, hguest, hpair, Function.update_self]
  · have hpair : keyPair k ≠ p := fun h => hk (hp.pairKey_eq_iff.mpr h)
    rw [if_neg hk, Function.update_of_ne hpair]

/-- The rule for one entry of the book: the table follows it in the row of that pair and keeps the
    other rows, and the starts it remembers. -/
theorem Rows.update (h : Rows births B sessions) (hp : CleanPair p) {value : Option Bytes}
    {births' : SessionKey → Int} {sessions' : SessionTable}
    (hbirths : ∀ k, pairKey p ≠ k → births' k = births k)
    (hkept : ∀ k, pairKey p ≠ k → sessions'[k]? = sessions[k]?)
    (hrow : sessions'[pairKey p]?
      = if p.2 = [] then none else value.map fun host => sessionRow (births' (pairKey p)) host p.2) :
    Rows births' (Function.update B p value) sessions' := by
  intro k
  rw [bookHost_update hp]
  by_cases hk : pairKey p = k
  · have hguest : (pairKey p).guestId.val = p.2 := cstr_eq_self hp.guest
    rw [if_pos hk, ← hk, hrow, hguest]
    split <;> rfl
  · rw [if_neg hk, hkept k hk, hbirths k hk]
    exact h k

/-- A callback leaves every row but the one of its own pair. -/
theorem postRow_kept (event : SessionEvent) {k : SessionKey}
    (hk : pairKey (event.transmissionId, event.guestId) ≠ k) :
    (postRow now sessions event)[k]? = sessions[k]? := by
  have hkey : (⟨bindText event.transmissionId, bindText event.guestId⟩ : SessionKey) ≠ k := hk
  unfold postRow
  by_cases hst : event.started = true
  · simp only [hst, if_true]
    split
    · rfl
    · rw [Std.ExtTreeMap.getElem?_insertIfNew_eq, if_neg fun h => hkey h.1]
  · simp only [hst, if_false, Bool.false_eq_true]
    split
    · rfl
    · cases hrow : sessions[(⟨bindText event.transmissionId, bindText event.guestId⟩ : SessionKey)]? with
      | none => rfl
      | some row =>
          by_cases hhost : effectiveHostId row event.hostId = []
          · simp only [hhost, if_true]
          · simp only [hhost, if_false]
            rw [Std.ExtTreeMap.getElem?_erase_eq, if_neg hkey]

/-- The row of a session that ends is gone. -/
theorem Rows.ended_row (h : Rows births B sessions) (hp : CleanPair p)
    (hhost : ∀ host, B p = some host → host ≠ [] ∧ (0 : UInt8) ∉ host) (host : Bytes) :
    (postRow now sessions ⟨p.1, host, p.2, false⟩)[pairKey p]? = none := by
  have hrow := h.pairKey_row hp
  by_cases hguest : p.2 = []
  · -- a guest without an id has no row to take out
    have hpost : postRow now sessions ⟨p.1, host, p.2, false⟩ = sessions := by
      simp [postRow, hguest]
    rw [hpost, hrow, if_pos hguest]
  · rw [if_neg hguest] at hrow
    cases hB : B p with
    | none =>
        have hnone : sessions[(⟨bindText p.1, bindText p.2⟩ : SessionKey)]? = none := by
          show sessions[pairKey p]? = none
          rw [hrow, hB]; rfl
        have hpost : postRow now sessions ⟨p.1, host, p.2, false⟩ = sessions := by
          simp [postRow, hguest, hp.named, hnone]
        rw [hpost]
        exact hnone
    | some stored =>
        obtain ⟨hne, hz⟩ := hhost stored hB
        have hsome : sessions[(⟨bindText p.1, bindText p.2⟩ : SessionKey)]?
            = some (sessionRow (births (pairKey p)) stored p.2) := by
          show sessions[pairKey p]? = _
          rw [hrow, hB]; rfl
        -- the row names its host, so the end is not turned away
        have heff : effectiveHostId (sessionRow (births (pairKey p)) stored p.2) host ≠ [] := by
          have hval : (sessionRow (births (pairKey p)) stored p.2).hostId.val = stored :=
            cstr_eq_self hz
          rw [effectiveHostId, hval, if_neg hne]
          exact hne
        have hpost : postRow now sessions ⟨p.1, host, p.2, false⟩ = sessions.erase (pairKey p) := by
          simp only [postRow, hguest, hp.named, hsome, heff, or_self, if_false, Bool.false_eq_true]
          rfl
        rw [hpost, Std.ExtTreeMap.getElem?_erase_eq, if_pos rfl]

/-- **An end takes the row out with the session.** -/
theorem Rows.post_end (h : Rows births B sessions) (hp : CleanPair p)
    (hhost : ∀ host, B p = some host → host ≠ [] ∧ (0 : UInt8) ∉ host) (host : Bytes) :
    Rows births (Function.update B p none) (postRow now sessions ⟨p.1, host, p.2, false⟩) := by
  apply h.update hp (fun _ _ => rfl) (fun k hk => postRow_kept _ hk)
  rw [h.ended_row hp hhost host]
  split <;> rfl

/-- **A start puts the row in with the session.** -/
theorem Rows.post_start (h : Rows births B sessions) (hp : CleanPair p) (hB : B p = none) {host : Bytes}
    (hne : host ≠ []) (hdiff : host ≠ p.2) :
    Rows (Function.update births (pairKey p) now) (Function.update B p (some host))
      (postRow now sessions ⟨p.1, host, p.2, true⟩) := by
  have hnone : sessions[pairKey p]? = none := by
    rw [h.pairKey_row hp, hB]
    split <;> rfl
  refine h.update hp (fun k hk => Function.update_of_ne (Ne.symm hk) ..)
    (fun k hk => postRow_kept _ hk) ?_
  by_cases hguest : p.2 = []
  · -- the insert is turned away, and the pair has no row to lose
    have hpost : postRow now sessions ⟨p.1, host, p.2, true⟩ = sessions := by
      simp [postRow, hguest]
    rw [hpost, if_pos hguest, hnone]
  · have hpost : postRow now sessions ⟨p.1, host, p.2, true⟩
        = sessions.insertIfNew (pairKey p) (sessionRow now host p.2) := by
      simp only [postRow, hguest, hp.named, hne, hdiff, or_self, if_true, if_false]
      rfl
    have hnew : pairKey p ∉ sessions := by
      rw [← Std.ExtTreeMap.isSome_getElem?_iff_mem, hnone]; simp
    rw [hpost, Std.ExtTreeMap.getElem?_insertIfNew_eq, if_pos ⟨rfl, hnew⟩, if_neg hguest,
      Function.update_self, Option.map_some]

/-- Induction on the pairs that leave: the book is struck, and every start keeps its second. -/
theorem Rows.post_ends {s : TransmissionManager} (left : List (Bytes × Bytes))
    (h : Rows births B sessions) (hclean : ∀ p ∈ left, CleanPair p)
    (hhost : ∀ p host, B p = some host → host ≠ [] ∧ (0 : UInt8) ∉ host) :
    Rows births (strike left B) ((endsOf s left).foldl (postRow now) sessions) := by
  induction left generalizing B sessions with
  | nil =>
      have hnil : strike [] B = B := by
        funext p
        rw [strike, if_neg (by simp)]
      rw [hnil]
      exact h
  | cons p left ih =>
      rw [strike_cons]
      apply ih (h.post_end (hclean p (by simp)) (hhost p) _) (fun q hq => hclean q (by simp [hq]))
      intro q host hq
      by_cases hqp : q = p
      · rw [hqp, Function.update_self] at hq; exact absurd hq (by simp)
      · rw [Function.update_of_ne hqp] at hq
        exact hhost q host hq

end DeskServer
