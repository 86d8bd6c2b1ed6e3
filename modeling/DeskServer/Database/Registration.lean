import DeskServer.Lib.Transaction
import DeskServer.Database.Credentials

/-!
# `Database.Registration` — `AddDevice` when statements fail

`AddDevice` again, on a connection and with an ending for every statement it executes. A failed look-up of
an id reads as "not there", the result of `BEGIN` is not looked at, and neither is that of `COMMIT` or
`ROLLBACK`. When every statement is done this is `addDevice`.

So a registration is all or nothing exactly when the statement that should close the last retry's
transaction closes it.

**Shape.** Before its closing statement a retry has staged nothing, staged the one row, or committed it at
once (`attempt_case`). The loop is an induction on the retries left over these cases
(`registerDeviceOn_allOrNothing_iff`). What another connection sees in between is not covered.
-/

namespace DeskServer

open Bytes Transaction

/-- How the statements of one retry end. -/
structure RetryEndings where
  /-- The look-ups of `GenerateDeviceId`. -/
  candidate : Nat → Ending
  existing : Ending
  begun : Ending
  /-- The look-up within the transaction. -/
  again : Ending
  /-- Preparing and executing the `INSERT`. -/
  insert : Ending
  /-- The code of an `INSERT` that fails is `SQLITE_CONSTRAINT`. -/
  constraint : Bool
  committed : Ending
  rolledBack : Ending

/-- Every statement of a retry is done. -/
def RetryEndings.allDone : RetryEndings :=
  ⟨fun _ => .done, .done, .done, .done, .done, false, .done, .done⟩

/-- How the statements of one `AddDevice` end. -/
structure AddDeviceEndings where
  selectPrepared : Bool
  select : Ending
  retry : Nat → RetryEndings

/-- How a retry stands before the statement that closes it. -/
inductive Attempt where
  /-- No candidate is free. -/
  | noId (c : Connection DeviceDB)
  /-- The id is taken, before the transaction. -/
  | taken (c : Connection DeviceDB)
  /-- The id is taken, within the transaction. -/
  | conflict (c : Connection DeviceDB)
  | refused (c : Connection DeviceDB)
  | inserted (newId newPassword : Bytes) (c : Connection DeviceDB)

/-- Where a retry stands. -/
def Attempt.connection : Attempt → Connection DeviceDB
  | .noId c | .taken c | .conflict c | .refused c | .inserted _ _ c => c

namespace DeviceDB

/-! ## The statements -/

/-- `DeviceIdExists`: a look-up that fails finds nothing. -/
def deviceIdExistsOn (c : Connection DeviceDB) (deviceId : Bytes) (e : Ending) :
    Bool × Connection DeviceDB :=
  if deviceId = [] then (false, c)
  else
    let row := c.read (fun db => db.deviceIdExists deviceId) e
    (row.1.getD false, row.2)

/-- `GenerateDeviceId`, from candidate `attempt` with some candidates left. -/
def generateDeviceIdOn (draw : Nat → Fin 900000000) (endings : Nat → Ending) (attempt : Nat)
    (c : Connection DeviceDB) : Nat → Bytes × Connection DeviceDB
  | 0 => ([], c)
  | n + 1 =>
    let candidate := nineDigits (100000000 + draw attempt)
    let existing := deviceIdExistsOn c candidate (endings attempt)
    if !existing.1 then (candidate, existing.2)
    else generateDeviceIdOn draw endings (attempt + 1) existing.2 n

/-- The `INSERT` of a retry. A key that is there is `SQLITE_CONSTRAINT`. -/
def insertDeviceOn (sha256 : Digest) (c : Connection DeviceDB) (newId newPassword salt : Bytes)
    (endings : RetryEndings) : Attempt :=
  match endings.insert with
  | .done =>
    if c.view.devices.contains (bindText newId) then .conflict c
    else
      .inserted newId newPassword
        (c.write (fun db => insertDevice sha256 db newId newPassword salt) .done).2
  | e => if endings.constraint then .conflict (c.spoil e) else .refused (c.spoil e)

/-- Retry `i` of `AddDevice`, up to the statement that closes it. -/
def attempt (sha256 : Digest) (draws : Draws) (endings : RetryEndings) (deviceId : Bytes) (i : Nat)
    (c : Connection DeviceDB) : Attempt :=
  let generated := generateDeviceIdOn (draws.deviceId i) endings.candidate 0 c 100
  if generated.1 = [] then .noId generated.2
  else
    let newId := newDeviceId deviceId generated.1
    let existing := deviceIdExistsOn generated.2 newId endings.existing
    if existing.1 then .taken existing.2
    else
      -- nothing looks at how `BEGIN` ended
      let opened := existing.2.beginTransaction endings.begun
      let again := deviceIdExistsOn opened.2 newId endings.again
      if again.1 then .conflict again.2
      else
        insertDeviceOn sha256 again.2 newId (generatePassword (draws.password i))
          (generateSalt (draws.salt i)) endings

/-- The retries of `AddDevice`, from retry `i` with `n` left. -/
def registerDeviceOn (sha256 : Digest) (draws : Draws) (endings : Nat → RetryEndings)
    (deviceId : Bytes) (i : Nat) (c : Connection DeviceDB) :
    Nat → DeviceCredential × Connection DeviceDB
  | 0 => ({}, c)
  | n + 1 =>
    match attempt sha256 draws (endings i) deviceId i c with
    | .noId c => ({}, c)
    | .taken c => registerDeviceOn sha256 draws endings deviceId (i + 1) c n
    | .conflict c =>
      registerDeviceOn sha256 draws endings deviceId (i + 1) (c.rollback (endings i).rolledBack).2 n
    | .refused c => ({}, (c.rollback (endings i).rolledBack).2)
    | .inserted newId newPassword c =>
      (⟨newId, if deviceId = bytes "web" then [] else newPassword, false⟩,
        (c.commit (endings i).committed).2)

/-- `AddDevice`. -/
def addDeviceOn (sha256 : Digest) (c : Connection DeviceDB) (draws : Draws)
    (endings : AddDeviceEndings) (deviceId password : Bytes) :
    DeviceCredential × Connection DeviceDB :=
  if deviceId = [] ∨ deviceId = bytes "web" then
    registerDeviceOn sha256 draws endings.retry deviceId 0 c 10
  else if !endings.selectPrepared then ({}, c)
  else
    match c.read (fun db => db.devices[bindText deviceId]?) endings.select with
    | (some (some credential), c) =>
      if credentialMatches sha256 credential password then (⟨deviceId, [], false⟩, c) else ({}, c)
    -- a look-up that fails finds nothing
    | (_, c) => registerDeviceOn sha256 draws endings.retry deviceId 0 c 10

/-! ## What a look-up leaves -/

variable {sha256 : Digest} {db : DeviceDB} {c : Connection DeviceDB} {e p : Bytes} {draws : Draws}
  {I : DeviceDB → Prop} {R : DeviceDB → DeviceDB → Prop}

theorem deviceIdExistsOn_keeps (h : c.Keeps I R) (id : Bytes) (ending : Ending) :
    (deviceIdExistsOn c id ending).2.Keeps I R := by
  unfold deviceIdExistsOn
  split
  · exact h
  · exact h.read _ ending

/-- Nothing open stays nothing open. -/
theorem deviceIdExistsOn_closed (db : DeviceDB) (id : Bytes) (ending : Ending) :
    (deviceIdExistsOn ⟨db, none⟩ id ending).2 = ⟨db, none⟩ := by
  unfold deviceIdExistsOn
  split
  · rfl
  · exact Connection.read_closed db _ ending

theorem deviceIdExistsOn_done (c : Connection DeviceDB) (id : Bytes) :
    deviceIdExistsOn c id .done = (c.view.deviceIdExists id, c) := by
  unfold deviceIdExistsOn
  by_cases h : id = []
  · rw [if_pos h, deviceIdExists, if_pos h]
  · rw [if_neg h]
    rfl

theorem generateDeviceIdOn_keeps (draw : Nat → Fin 900000000) (endings : Nat → Ending)
    (attempt n : Nat) (h : c.Keeps I R) :
    (generateDeviceIdOn draw endings attempt c n).2.Keeps I R := by
  induction n generalizing attempt c with
  | zero => exact h
  | succ n ih =>
      unfold generateDeviceIdOn
      simp only
      have hlook := deviceIdExistsOn_keeps h (nineDigits (100000000 + draw attempt)) (endings attempt)
      split
      · exact hlook
      · exact ih (attempt + 1) hlook

/-! ## What a retry does -/

/-- **The connection and the retry**: nothing is staged, or the one row is. -/
inductive AttemptCase (sha256 : Digest) (db : DeviceDB) (draws : Draws) (i : Nat) : Attempt → Prop
  | noId {c : Connection DeviceDB} : c.Clean db → AttemptCase sha256 db draws i (.noId c)
  | taken {c : Connection DeviceDB} : c.Clean db → AttemptCase sha256 db draws i (.taken c)
  | conflict {c : Connection DeviceDB} : c.Clean db → AttemptCase sha256 db draws i (.conflict c)
  | refused {c : Connection DeviceDB} : c.Clean db → AttemptCase sha256 db draws i (.refused c)
  /-- The `INSERT` is staged in the open transaction. -/
  | staged {newId : Bytes} : newId ≠ [] → db.devices[bindText newId]? = none →
      AttemptCase sha256 db draws i (.inserted newId (generatePassword (draws.password i))
        ⟨db, some (insertDevice sha256 db newId (generatePassword (draws.password i))
          (generateSalt (draws.salt i)))⟩)
  /-- No transaction is open: the `INSERT` was committed at once. -/
  | stored {newId : Bytes} : newId ≠ [] → db.devices[bindText newId]? = none →
      AttemptCase sha256 db draws i (.inserted newId (generatePassword (draws.password i))
        ⟨insertDevice sha256 db newId (generatePassword (draws.password i))
          (generateSalt (draws.salt i)), none⟩)

theorem newDeviceId_ne_nil (deviceId : Bytes) {generated : Bytes} (h : generated ≠ []) :
    newDeviceId deviceId generated ≠ [] := by
  unfold newDeviceId
  split
  · simp [h]
  · exact h

theorem insertDeviceOn_case (i : Nat) (endings : RetryEndings) {newId : Bytes} (hid : newId ≠ [])
    (h : c.Clean db) :
    AttemptCase sha256 db draws i
      (insertDeviceOn sha256 c newId (generatePassword (draws.password i))
        (generateSalt (draws.salt i)) endings) := by
  unfold insertDeviceOn
  split
  · rw [h.view]
    split
    · exact .conflict h
    · rename_i hfresh
      have hnone : db.devices[bindText newId]? = none :=
        Std.ExtTreeMap.getElem?_eq_none_of_contains_eq_false (Bool.eq_false_of_not_eq_true hfresh)
      obtain ⟨committed, pending⟩ := c
      obtain rfl : committed = db := h.committed
      cases pending with
      | none => exact .stored hid hnone
      | some staged =>
          obtain rfl : staged = committed := (h.pending staged rfl).1
          exact .staged hid hnone
  · split
    · exact .conflict (h.spoil _)
    · exact .refused (h.spoil _)

/-- **What one retry can do**, from a connection on which nothing is staged. -/
theorem attempt_case (sha256 : Digest) (draws : Draws) (endings : RetryEndings) (e : Bytes) (i : Nat)
    (h : c.Clean db) : AttemptCase sha256 db draws i (attempt sha256 draws endings e i c) := by
  unfold attempt
  simp only
  have hgenerated := generateDeviceIdOn_keeps (draws.deviceId i) endings.candidate 0 100 h
  split
  · exact .noId hgenerated
  · rename_i hne
    have hid := newDeviceId_ne_nil e hne
    have hexisting := deviceIdExistsOn_keeps hgenerated
      (newDeviceId e (generateDeviceIdOn (draws.deviceId i) endings.candidate 0 c 100).1)
      endings.existing
    split
    · exact .taken hexisting
    · have hagain := deviceIdExistsOn_keeps (hexisting.beginTransaction (fun _ => trivial) endings.begun)
        (newDeviceId e (generateDeviceIdOn (draws.deviceId i) endings.candidate 0 c 100).1)
        endings.again
      split
      · exact .conflict hagain
      · exact insertDeviceOn_case i endings hid hagain

/-! ## When every statement is done -/

/-- Induction on the candidates left: the search stops where the list of candidates does. -/
theorem generateDeviceIdOn_done (c : Connection DeviceDB) (draw : Nat → Fin 900000000) (a n : Nat) :
    generateDeviceIdOn draw (fun _ => .done) a c n =
      ((((List.range' a n).map fun attempt => nineDigits (100000000 + draw attempt)).find?
        fun candidate => !c.view.deviceIdExists candidate).getD [], c) := by
  induction n generalizing a with
  | zero => rfl
  | succ n ih =>
      unfold generateDeviceIdOn
      simp only [deviceIdExistsOn_done, List.range'_succ, List.map_cons, List.find?_cons]
      by_cases hexists : c.view.deviceIdExists (nineDigits (100000000 + draw a)) = true
      · rw [hexists]
        exact ih (a + 1)
      · rw [Bool.eq_false_of_not_eq_true hexists]
        rfl

theorem generateDeviceIdOn_closed (db : DeviceDB) (draw : Nat → Fin 900000000) :
    generateDeviceIdOn draw (fun _ => .done) 0 ⟨db, none⟩ 100 =
      (db.generateDeviceId draw, ⟨db, none⟩) := by
  rw [generateDeviceIdOn_done, generateDeviceId, List.range_eq_range']
  rfl

/-- Induction on the retries left. -/
theorem registerDeviceOn_done (sha256 : Digest) (db : DeviceDB) (draws : Draws) (e : Bytes) (i n : Nat) :
    registerDeviceOn sha256 draws (fun _ => .allDone) e i ⟨db, none⟩ n =
      ((registerDevice sha256 db draws e i n).1, ⟨(registerDevice sha256 db draws e i n).2, none⟩) := by
  induction n generalizing i with
  | zero => rfl
  | succ n ih =>
      have hgenerated := generateDeviceIdOn_closed db (draws.deviceId i)
      unfold registerDeviceOn registerDevice attempt
      simp only [RetryEndings.allDone, hgenerated]
      by_cases hnil : db.generateDeviceId (draws.deviceId i) = []
      · rw [if_pos hnil, if_pos hnil]
      · have hid := newDeviceId_ne_nil e hnil
        rw [if_neg hnil, if_neg hnil, deviceIdExistsOn_done]
        simp only [Connection.view, Option.getD_none]
        by_cases hexists :
            db.deviceIdExists (newDeviceId e (db.generateDeviceId (draws.deviceId i))) = true
        · rw [if_pos hexists, if_pos hexists]
          exact ih (i + 1)
        · have hfresh : ¬ db.devices.contains
              (bindText (newDeviceId e (db.generateDeviceId (draws.deviceId i)))) = true := by
            rwa [deviceIdExists, if_neg hid] at hexists
          rw [if_neg hexists, if_neg hexists]
          simp only [Connection.beginTransaction, deviceIdExistsOn_done, Connection.view,
            Option.getD_some, if_neg hexists, insertDeviceOn, if_neg hfresh, Connection.write,
            Connection.commit]

/-- **When every statement is done this is `addDevice`.** -/
theorem addDeviceOn_done (sha256 : Digest) (db : DeviceDB) (draws : Draws) (e p : Bytes) :
    addDeviceOn sha256 ⟨db, none⟩ draws ⟨true, .done, fun _ => .allDone⟩ e p =
      ((addDevice sha256 db draws e p).1, ⟨(addDevice sha256 db draws e p).2, none⟩) := by
  unfold addDeviceOn addDevice
  by_cases hnew : e = [] ∨ e = bytes "web"
  · rw [if_pos hnew, if_pos hnew, registerDeviceOn_done]
  · rw [if_neg hnew, if_neg hnew]
    simp only [Bool.not_true, Bool.false_eq_true, if_false, Connection.read, Connection.view,
      Option.getD_none]
    cases hrow : db.devices[bindText e]? with
    | none => exact registerDeviceOn_done sha256 db draws e 0 10
    | some credential =>
        simp only
        split <;> rfl

/-! ## All or nothing -/

/-- **All or nothing**: either no id is returned and nothing happened; or a known device was let in and
    nothing happened; or exactly one fresh row is committed, for the password that was generated. Nothing
    stays open. -/
structure AllOrNothing (sha256 : Digest) (db : DeviceDB) (draws : Draws) (deviceId password : Bytes)
    (result : DeviceCredential × Connection DeviceDB) : Prop where
  closed : result.2.pending = none
  refused : result.1.deviceId = [] → result.2.committed = db
  accepted : result.1.deviceId ≠ [] →
    (result.1.deviceId = deviceId ∧ Verifies sha256 db (bindText deviceId) password ∧
        result.2.committed = db) ∨
    ∃ credential k, db.devices[bindText result.1.deviceId]? = none ∧
      result.2.committed =
        { db with devices := db.devices.insert (bindText result.1.deviceId) credential } ∧
      credentialMatches sha256 credential (generatePassword (draws.password k)) = true ∧
      (result.1.password = generatePassword (draws.password k) ∨
        deviceId = bytes "web" ∧ result.1.password = [])

/-- **The last retry closes what is open**: its `COMMIT` is done, or its `ROLLBACK` does not fail, and a
    retry that gives up before its `BEGIN` has nothing open. -/
def Settles (sha256 : Digest) (draws : Draws) (endings : Nat → RetryEndings) (deviceId : Bytes)
    (i : Nat) (c : Connection DeviceDB) : Nat → Prop
  | 0 => c.pending = none
  | n + 1 =>
    match attempt sha256 draws (endings i) deviceId i c with
    | .noId c => c.pending = none
    | .taken c => Settles sha256 draws endings deviceId (i + 1) c n
    | .conflict c =>
      Settles sha256 draws endings deviceId (i + 1) (c.rollback (endings i).rolledBack).2 n
    | .refused c => c.pending = none ∨ (endings i).rolledBack ≠ .failed
    | .inserted _ _ c => c.pending = none ∨ (endings i).committed = .done

/-- What is refused without a staged row is all or nothing once nothing is open. -/
theorem allOrNothing_refused_iff (h : c.Clean db) :
    AllOrNothing sha256 db draws e p ({}, c) ↔ c.pending = none := by
  refine ⟨fun hall => hall.closed, fun hclosed => ⟨hclosed, fun _ => h.committed, ?_⟩⟩
  exact fun hne => absurd rfl hne

/-- The credential a retry returns. -/
theorem stored_allOrNothing {newId : Bytes} (hid : newId ≠ [])
    (hnone : db.devices[bindText newId]? = none) (i : Nat) :
    AllOrNothing sha256 db draws e p
      (⟨newId, if e = bytes "web" then [] else generatePassword (draws.password i), false⟩,
        ⟨insertDevice sha256 db newId (generatePassword (draws.password i))
          (generateSalt (draws.salt i)), none⟩) := by
  refine ⟨rfl, fun hnil => absurd hnil hid, fun _ => .inr ⟨_, i, hnone, rfl, ?_, ?_⟩⟩
  · exact credentialMatches_sealed_self (generateSalt_noNul _)
  · by_cases hweb : e = bytes "web"
    · exact .inr ⟨hweb, if_pos hweb⟩
    · exact .inl (if_neg hweb)

/-- A staged row counts for nothing unless it is committed. -/
theorem staged_allOrNothing_iff {newId : Bytes} (hid : newId ≠ [])
    (hnone : db.devices[bindText newId]? = none) (i : Nat) (ending : Ending) :
    AllOrNothing sha256 db draws e p
      (⟨newId, if e = bytes "web" then [] else generatePassword (draws.password i), false⟩,
        ((⟨db, some (insertDevice sha256 db newId (generatePassword (draws.password i))
          (generateSalt (draws.salt i)))⟩ : Connection DeviceDB).commit ending).2) ↔
      ending = .done := by
  cases ending with
  | done => exact ⟨fun _ => rfl, fun _ => stored_allOrNothing hid hnone i⟩
  | failed => exact ⟨fun hall => absurd hall.closed (by simp [Connection.commit, Connection.spoil]),
      fun h => absurd h (by simp)⟩
  | aborted =>
      refine ⟨fun hall => ?_, fun h => absurd h (by simp)⟩
      rcases hall.accepted hid with ⟨hasked, ⟨credential, hrow, _⟩, _⟩ | ⟨credential, k, _, hstored, _⟩
      · change newId = e at hasked
        rw [← hasked, hnone] at hrow
        exact absurd hrow (by simp)
      · have hrow := congrArg (fun db : DeviceDB => db.devices[bindText newId]?) hstored
        simp only [Connection.commit, Connection.spoil, hnone,
          Std.ExtTreeMap.getElem?_insert_self] at hrow
        exact absurd hrow (by simp)

/-- Induction on the retries left; on entry to each of them nothing is staged. -/
theorem registerDeviceOn_allOrNothing_iff (sha256 : Digest) (draws : Draws)
    (endings : Nat → RetryEndings) (e p : Bytes) (i n : Nat) (h : c.Clean db) :
    AllOrNothing sha256 db draws e p (registerDeviceOn sha256 draws endings e i c n) ↔
      Settles sha256 draws endings e i c n := by
  induction n generalizing i c with
  | zero => exact allOrNothing_refused_iff h
  | succ n ih =>
      have hcase := attempt_case sha256 draws (endings i) e i h
      unfold registerDeviceOn Settles
      revert hcase
      generalize attempt sha256 draws (endings i) e i c = attempted
      intro hcase
      cases hcase with
      | noId hclean => exact allOrNothing_refused_iff hclean
      | taken hclean => exact ih (i + 1) hclean
      | conflict hclean => exact ih (i + 1) (hclean.rollback _)
      | refused hclean =>
          exact (allOrNothing_refused_iff (hclean.rollback _)).trans (Connection.rollback_pending _ _)
      | staged hid hnone =>
          refine (staged_allOrNothing_iff hid hnone i _).trans ⟨.inr, ?_⟩
          exact fun hor => hor.resolve_left (by simp)
      | stored hid hnone =>
          refine ⟨fun _ => .inl rfl, fun _ => ?_⟩
          simp only [Connection.commit_closed]
          exact stored_allOrNothing hid hnone i

/-- `AddDevice` comes to its retries. -/
def Registers (db : DeviceDB) (endings : AddDeviceEndings) (deviceId : Bytes) : Prop :=
  deviceId = [] ∨ deviceId = bytes "web" ∨
    (endings.selectPrepared = true ∧
      (endings.select = .done → db.devices[bindText deviceId]? = none))

/-- **`AddDevice` is all or nothing exactly when the last retry closes its transaction.** -/
theorem addDeviceOn_allOrNothing_iff (sha256 : Digest) (db : DeviceDB) (draws : Draws)
    (endings : AddDeviceEndings) (e p : Bytes) :
    AllOrNothing sha256 db draws e p (addDeviceOn sha256 ⟨db, none⟩ draws endings e p) ↔
      (Registers db endings e → Settles sha256 draws endings.retry e 0 ⟨db, none⟩ 10) := by
  have hclean := Connection.clean_closed db
  have hretries := registerDeviceOn_allOrNothing_iff sha256 draws endings.retry e p 0 10 hclean
  have hrefused : AllOrNothing sha256 db draws e p ({}, ⟨db, none⟩) :=
    (allOrNothing_refused_iff hclean).mpr rfl
  unfold addDeviceOn
  by_cases hnew : e = [] ∨ e = bytes "web"
  · rw [if_pos hnew, hretries]
    have henters : Registers db endings e := hnew.elim .inl fun h => .inr (.inl h)
    exact ⟨fun h _ => h, fun h => h henters⟩
  · rw [if_neg hnew]
    rw [not_or] at hnew
    by_cases hprepared : endings.selectPrepared = true
    · have hregisters : Registers db endings e ↔
          (endings.select = .done → db.devices[bindText e]? = none) :=
        ⟨fun h => (h.resolve_left hnew.1).resolve_left hnew.2 |>.2,
          fun h => .inr (.inr ⟨hprepared, h⟩)⟩
      rw [hregisters, hprepared]
      simp only [Bool.not_true, Bool.false_eq_true, if_false]
      cases hselect : endings.select with
      | done =>
          cases hrow : db.devices[bindText e]? with
          | none =>
              simp only [Connection.read, Connection.view, Option.getD_none, hrow]
              exact hretries.trans ⟨fun h _ => h, fun h => h fun _ => trivial⟩
          | some credential =>
              simp only [Connection.read, Connection.view, Option.getD_none, hrow]
              refine ⟨fun _ h => absurd (h trivial) (by simp), fun _ => ?_⟩
              split
              · rename_i hmatch
                refine ⟨rfl, fun _ => rfl, fun _ => .inl ⟨rfl, ⟨credential, hrow, hmatch⟩, rfl⟩⟩
              · exact hrefused
      | failed | aborted =>
          exact hretries.trans ⟨fun h _ => h, fun h => h fun hdone => absurd hdone (by simp)⟩
    · have hskips : ¬ Registers db endings e := fun h =>
        hprepared ((h.resolve_left hnew.1).resolve_left hnew.2).1
      rw [Bool.eq_false_of_not_eq_true hprepared]
      exact ⟨fun _ h => absurd h hskips, fun _ => hrefused⟩

/-- The database is full when the first registration commits: the transaction stays open, and the id
    that is returned is in no table. -/
theorem failedCommit_unregistered :
    ¬ AllOrNothing (fun _ _ => 0) newFile ⟨fun _ _ => 0, fun _ _ => 0, fun _ _ => 0⟩ [] []
      (addDeviceOn (fun _ _ => 0) ⟨newFile, none⟩ ⟨fun _ _ => 0, fun _ _ => 0, fun _ _ => 0⟩
        ⟨true, .done, fun _ => { RetryEndings.allDone with committed := .failed }⟩ [] []) := by
  intro h
  exact absurd h.closed (by decide)

/-! ## Only the closing statements matter -/

theorem generateDeviceIdOn_nothingOpen (db : DeviceDB) (draw : Nat → Fin 900000000)
    (endings : Nat → Ending) (attempt n : Nat) :
    (generateDeviceIdOn draw endings attempt ⟨db, none⟩ n).2 = ⟨db, none⟩ := by
  induction n generalizing attempt with
  | zero => rfl
  | succ n ih =>
      unfold generateDeviceIdOn
      simp only [deviceIdExistsOn_closed]
      split
      · rfl
      · exact ih (attempt + 1)

/-- A retry that gives up before its `BEGIN` opens nothing. -/
theorem attempt_nothingOpen (sha256 : Digest) (db : DeviceDB) (draws : Draws) (endings : RetryEndings)
    (e : Bytes) (i : Nat)
    (h : attempt sha256 draws endings e i ⟨db, none⟩ = .noId c ∨
      attempt sha256 draws endings e i ⟨db, none⟩ = .taken c) : c = ⟨db, none⟩ := by
  unfold attempt insertDeviceOn at h
  simp only [generateDeviceIdOn_nothingOpen, deviceIdExistsOn_closed] at h
  rcases h with h | h
  · split at h
    · exact (Attempt.noId.inj h).symm
    · repeat' split at h
      all_goals exact absurd h (by simp)
  · split at h
    · exact absurd h (by simp)
    · split at h
      · exact (Attempt.taken.inj h).symm
      · repeat' split at h
        all_goals exact absurd h (by simp)

/-- **A registration whose `COMMIT`s are done and whose `ROLLBACK`s do not fail settles**, whatever else
    fails. Induction on the retries left. -/
theorem settles_of_closing (sha256 : Digest) (db : DeviceDB) (draws : Draws)
    {endings : Nat → RetryEndings} (e : Bytes) (i n : Nat)
    (hcommitted : ∀ i, (endings i).committed = .done)
    (hrolledBack : ∀ i, (endings i).rolledBack ≠ .failed) :
    Settles sha256 draws endings e i ⟨db, none⟩ n := by
  induction n generalizing i with
  | zero => rfl
  | succ n ih =>
      have hcase := attempt_case sha256 draws (endings i) e i (Connection.clean_closed db)
      unfold Settles
      cases hattempt : attempt sha256 draws (endings i) e i ⟨db, none⟩ with
      | noId c => exact congrArg _ (attempt_nothingOpen sha256 db draws _ e i (.inl hattempt))
      | taken c =>
          have hc := attempt_nothingOpen sha256 db draws _ e i (.inr hattempt)
          simp only [hc]
          exact ih (i + 1)
      | conflict c =>
          rw [hattempt] at hcase
          cases hcase with
          | conflict hclean =>
              simp only [Connection.rollback_eq _ (hrolledBack i), hclean.committed]
              exact ih (i + 1)
      | refused c => exact .inr (hrolledBack i)
      | inserted newId newPassword c => exact .inr (hcommitted i)

/-! ## What a registration keeps -/

section Keeps

variable (hrefl : ∀ s, R s s) (hI : ∀ (s : DeviceDB) devices, I s → I { s with devices := devices })
  (hR : ∀ (s t : DeviceDB) devices, R s t → R s { t with devices := devices })

include hrefl hI hR

/-- An attempt ends on a connection that keeps what changes to `devices` keep. -/
theorem attempt_keeps (h : c.Keeps I R) (sha256 : Digest) (draws : Draws) (endings : RetryEndings)
    (e : Bytes) (i : Nat) : (attempt sha256 draws endings e i c).connection.Keeps I R := by
  unfold attempt
  simp only
  have hgenerated := generateDeviceIdOn_keeps (draws.deviceId i) endings.candidate 0 100 h
  split
  · exact hgenerated
  · generalize newDeviceId e (generateDeviceIdOn (draws.deviceId i) endings.candidate 0 c 100).1 = newId
    have hexisting := deviceIdExistsOn_keeps hgenerated newId endings.existing
    split
    · exact hexisting
    · have hagain := deviceIdExistsOn_keeps (hexisting.beginTransaction hrefl endings.begun) newId
        endings.again
      split
      · exact hagain
      · unfold insertDeviceOn
        split
        · split
          · exact hagain
          · exact hagain.write (fun s => hI s _) (fun s t => hR s t _) .done
        · split <;> exact hagain.spoil _

/-- Induction on the retries left. -/
theorem registerDeviceOn_keeps (h : c.Keeps I R) (sha256 : Digest) (draws : Draws)
    (endings : Nat → RetryEndings) (e : Bytes) (i n : Nat) :
    (registerDeviceOn sha256 draws endings e i c n).2.Keeps I R := by
  induction n generalizing i c with
  | zero => exact h
  | succ n ih =>
      have hattempt := attempt_keeps hrefl hI hR h sha256 draws (endings i) e i
      unfold registerDeviceOn
      revert hattempt
      generalize attempt sha256 draws (endings i) e i c = attempted
      intro hattempt
      cases attempted with
      | noId c => exact hattempt
      | taken c => exact ih hattempt (i + 1)
      | conflict c => exact ih (hattempt.rollback _) (i + 1)
      | refused c => exact hattempt.rollback _
      | inserted newId newPassword c => exact hattempt.commit _

/-- **A registration, however its statements end, keeps what changes to `devices` keep.** -/
theorem addDeviceOn_keeps (h : c.Keeps I R) (sha256 : Digest) (draws : Draws)
    (endings : AddDeviceEndings) (e p : Bytes) :
    (addDeviceOn sha256 c draws endings e p).2.Keeps I R := by
  unfold addDeviceOn
  split
  · exact registerDeviceOn_keeps hrefl hI hR h sha256 draws endings.retry e 0 10
  · split
    · exact h
    · have hread := h.read (fun db => db.devices[bindText e]?) endings.select
      split
      · rename_i hrow
        rw [hrow] at hread
        split <;> exact hread
      · rename_i hrow
        rw [hrow] at hread
        exact registerDeviceOn_keeps hrefl hI hR hread sha256 draws endings.retry e 0 10

end Keeps

end DeviceDB
end DeskServer
