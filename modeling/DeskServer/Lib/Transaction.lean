import Mathlib

/-!
# `Lib.Transaction` — statements that can fail, on a connection with transactions

A connection holds what is committed and, while a transaction is open, what the transaction has made of
it. A statement ends in one of three ways: it is done; it fails and leaves no trace; or it fails and the
engine rolls the open transaction back by itself. Without an open transaction every write commits at once.

`atomically` is the usual frame around the writes of one transaction, with every result looked at: it is
all or nothing whatever fails, as long as the connection had no transaction open and a rollback rolls
back.

Nothing here is about any particular program.
-/

namespace Transaction

/-- How a statement ends. -/
inductive Ending where
  | done
  /-- It fails, and leaves no trace. -/
  | failed
  /-- It fails, and the open transaction is rolled back. -/
  | aborted
deriving DecidableEq

/-- What is committed, and what the open transaction has made of it. -/
structure Connection (σ : Type) where
  committed : σ
  pending : Option σ

variable {σ α : Type}

namespace Connection

/-- What a statement on the connection sees. -/
def view (c : Connection σ) : σ := c.pending.getD c.committed

/-- The connection after a statement that was not done. -/
def spoil (c : Connection σ) : Ending → Connection σ
  | .aborted => ⟨c.committed, none⟩
  | _ => c

/-- `BEGIN`. A transaction within a transaction is refused. -/
def beginTransaction (c : Connection σ) (e : Ending) : Bool × Connection σ :=
  match e, c.pending with
  | .done, none => (true, ⟨c.committed, some c.committed⟩)
  | _, _ => (false, c)

/-- A write, in the open transaction or committed at once. -/
def write (c : Connection σ) (f : σ → σ) (e : Ending) : Bool × Connection σ :=
  match e with
  | .done => (true, match c.pending with
    | some staged => ⟨c.committed, some (f staged)⟩
    | none => ⟨f c.committed, none⟩)
  | e => (false, c.spoil e)

/-- A query; nothing, when it fails. -/
def read (c : Connection σ) (f : σ → α) (e : Ending) : Option α × Connection σ :=
  match e with
  | .done => (some (f c.view), c)
  | e => (none, c.spoil e)

/-- `COMMIT`. Without a transaction there is nothing to commit. -/
def commit (c : Connection σ) (e : Ending) : Bool × Connection σ :=
  match e, c.pending with
  | .done, some staged => (true, ⟨staged, none⟩)
  | .done, none => (false, c)
  | e, _ => (false, c.spoil e)

/-- `ROLLBACK`. -/
def rollback (c : Connection σ) (e : Ending) : Bool × Connection σ :=
  match e, c.pending with
  | .done, some _ => (true, ⟨c.committed, none⟩)
  | .done, none => (false, c)
  | e, _ => (false, c.spoil e)

/-- Writes in order, up to the first that is not done. -/
def writes (c : Connection σ) : List ((σ → σ) × Ending) → Bool × Connection σ
  | [] => (true, c)
  | (f, e) :: rest =>
    let wrote := c.write f e
    if wrote.1 then wrote.2.writes rest else wrote

/-- `BEGIN`, the writes and `COMMIT`; whatever fails after the `BEGIN` is rolled back. -/
def atomically (c : Connection σ) (begun : Ending) (body : List ((σ → σ) × Ending))
    (committed rolledBack : Ending) : Bool × Connection σ :=
  let opened := c.beginTransaction begun
  if !opened.1 then (false, opened.2)
  else
    let wrote := opened.2.writes body
    if !wrote.1 then (false, (wrote.2.rollback rolledBack).2)
    else
      let closed := wrote.2.commit committed
      if closed.1 then (true, closed.2) else (false, (closed.2.rollback rolledBack).2)

/-! ## Invariants -/

/-- `I` holds of what is committed and of what is staged, and `R` holds between the two. -/
structure Keeps (I : σ → Prop) (R : σ → σ → Prop) (c : Connection σ) : Prop where
  committed : I c.committed
  pending : ∀ staged, c.pending = some staged → I staged ∧ R c.committed staged

variable {c : Connection σ} {s : σ} {I : σ → Prop} {R : σ → σ → Prop}

theorem keeps_closed (h : I s) : Keeps I R ⟨s, none⟩ := ⟨h, fun _ hs => absurd hs (by simp)⟩

theorem Keeps.view (h : c.Keeps I R) : I c.view := by
  unfold Connection.view
  cases hp : c.pending with
  | none => exact h.committed
  | some staged => exact (h.pending staged hp).1

theorem Keeps.spoil (h : c.Keeps I R) (e : Ending) : (c.spoil e).Keeps I R := by
  cases e with
  | aborted => exact keeps_closed h.committed
  | done | failed => exact h

theorem Keeps.read (h : c.Keeps I R) (f : σ → α) (e : Ending) : (c.read f e).2.Keeps I R := by
  cases e with
  | done => exact h
  | failed => exact h.spoil .failed
  | aborted => exact h.spoil .aborted

theorem Keeps.beginTransaction (h : c.Keeps I R) (hR : ∀ s, R s s) (e : Ending) :
    (c.beginTransaction e).2.Keeps I R := by
  unfold Connection.beginTransaction
  split
  · exact ⟨h.committed, fun staged hs => Option.some.inj hs ▸ ⟨h.committed, hR _⟩⟩
  · exact h

theorem Keeps.write (h : c.Keeps I R) {f : σ → σ} (hI : ∀ s, I s → I (f s))
    (hR : ∀ s t, R s t → R s (f t)) (e : Ending) : (c.write f e).2.Keeps I R := by
  cases e with
  | done =>
      obtain ⟨committed, pending⟩ := c
      cases pending with
      | none => exact keeps_closed (hI _ h.committed)
      | some staged =>
          obtain ⟨hstaged, hrel⟩ := h.pending staged rfl
          exact ⟨h.committed, fun _ hs => Option.some.inj hs ▸ ⟨hI _ hstaged, hR _ _ hrel⟩⟩
  | failed => exact h.spoil .failed
  | aborted => exact h.spoil .aborted

theorem Keeps.commit (h : c.Keeps I R) (e : Ending) : (c.commit e).2.Keeps I R := by
  unfold Connection.commit
  split
  · rename_i staged hstaged
    exact keeps_closed (h.pending staged hstaged).1
  · exact h
  · exact h.spoil _

theorem Keeps.rollback (h : c.Keeps I R) (e : Ending) : (c.rollback e).2.Keeps I R := by
  unfold Connection.rollback
  split
  · exact keeps_closed h.committed
  · exact h
  · exact h.spoil _

/-- Nothing is staged: an open transaction has not changed `s`. -/
abbrev Clean (c : Connection σ) (s : σ) : Prop := c.Keeps (fun t => t = s) fun _ _ => True

theorem clean_closed (s : σ) : Clean ⟨s, none⟩ s := keeps_closed rfl

/-! ## Closing a transaction -/

/-- Without a transaction there is nothing to close. -/
theorem commit_closed (s : σ) (e : Ending) : ((⟨s, none⟩ : Connection σ).commit e).2 = ⟨s, none⟩ := by
  cases e <;> rfl

theorem read_closed (s : σ) (f : σ → α) (e : Ending) :
    ((⟨s, none⟩ : Connection σ).read f e).2 = ⟨s, none⟩ := by
  cases e <;> rfl

/-- A rollback closes the transaction unless it fails. -/
theorem rollback_pending (c : Connection σ) (e : Ending) :
    (c.rollback e).2.pending = none ↔ c.pending = none ∨ e ≠ .failed := by
  unfold Connection.rollback
  cases e with
  | done => cases hp : c.pending <;> simp [hp]
  | failed => simp [Connection.spoil]
  | aborted => simp [Connection.spoil]

/-! ## Atomic writes -/

/-- The writes of a body, one after another. -/
def applied (body : List ((σ → σ) × Ending)) (s : σ) : σ := body.foldl (fun s w => w.1 s) s

/-- Inside a transaction the writes stay in it, and go through exactly when each is done. -/
theorem writes_of_open (body : List ((σ → σ) × Ending)) {staged : σ} (hp : c.pending = some staged) :
    (c.writes body).2.committed = c.committed ∧
    ((∀ w ∈ body, w.2 = .done) →
      c.writes body = (true, ⟨c.committed, some (applied body staged)⟩)) ∧
    ((¬ ∀ w ∈ body, w.2 = .done) → (c.writes body).1 = false) := by
  induction body generalizing c staged with
  | nil =>
      obtain ⟨committed, pending⟩ := c
      obtain rfl : pending = some staged := hp
      exact ⟨rfl, fun _ => rfl, fun h => absurd (fun w hw => absurd hw (by simp)) h⟩
  | cons w body ih =>
      obtain ⟨f, e⟩ := w
      unfold Connection.writes
      cases e with
      | done =>
          have hwrite : c.write f .done = (true, ⟨c.committed, some (f staged)⟩) := by
            rw [Connection.write, hp]
          obtain ⟨hcommitted, hall, hsome⟩ := ih (c := ⟨c.committed, some (f staged)⟩) rfl
          simp only [hwrite, if_true]
          refine ⟨hcommitted, fun h => hall fun w hw => h w (by simp [hw]), fun h => hsome fun h' => h ?_⟩
          exact List.forall_mem_cons.mpr ⟨rfl, h'⟩
      | failed =>
          simp only [Connection.write, Bool.false_eq_true, if_false]
          exact ⟨rfl, fun h => absurd (h _ (List.mem_cons_self ..)) (by simp), fun _ => trivial⟩
      | aborted =>
          simp only [Connection.write, Bool.false_eq_true, if_false]
          exact ⟨rfl, fun h => absurd (h _ (List.mem_cons_self ..)) (by simp), fun _ => trivial⟩

/-- A rollback undoes what was staged. -/
theorem rollback_eq (c : Connection σ) {e : Ending} (he : e ≠ .failed) :
    (c.rollback e).2 = ⟨c.committed, none⟩ := by
  unfold Connection.rollback
  obtain ⟨committed, pending⟩ := c
  cases e with
  | done => cases pending <;> rfl
  | failed => exact absurd rfl he
  | aborted => cases pending <;> rfl

/-- Every statement of the frame is done. -/
def AllDone (begun : Ending) (body : List ((σ → σ) × Ending)) (committed : Ending) : Prop :=
  begun = .done ∧ (∀ w ∈ body, w.2 = .done) ∧ committed = .done

instance (begun : Ending) (body : List ((σ → σ) × Ending)) (committed : Ending) :
    Decidable (AllDone begun body committed) := inferInstanceAs (Decidable (_ ∧ _ ∧ _))

/-- **All or nothing**: on a connection without an open transaction, the writes are committed when every
    statement is done, and otherwise nothing has happened. -/
theorem atomically_of_closed (s : σ) (begun : Ending) (body : List ((σ → σ) × Ending))
    (committed : Ending) {rolledBack : Ending} (hr : rolledBack ≠ .failed) :
    (⟨s, none⟩ : Connection σ).atomically begun body committed rolledBack =
      if AllDone begun body committed then (true, ⟨applied body s, none⟩) else (false, ⟨s, none⟩) := by
  unfold atomically
  by_cases hbegun : begun = .done
  · subst hbegun
    obtain ⟨hkept, hall, hsome⟩ :=
      writes_of_open body (c := ⟨s, some s⟩) rfl
    have hopened : (⟨s, none⟩ : Connection σ).beginTransaction .done = (true, ⟨s, some s⟩) := rfl
    simp only [hopened, Bool.not_true, Bool.false_eq_true, if_false]
    by_cases hbody : ∀ w ∈ body, w.2 = .done
    · have hnot : committed ≠ .done → ¬ AllDone .done body committed := fun he h => he h.2.2
      rw [hall hbody]
      cases committed with
      | done =>
          have hdone : AllDone .done body .done := ⟨rfl, hbody, rfl⟩
          rw [if_pos hdone]
          rfl
      | failed | aborted =>
          rw [if_neg (hnot (by simp))]
          simp only [commit, Bool.not_true, Bool.false_eq_true, if_false, rollback_eq _ hr]
          rfl
    · have hnot : ¬ AllDone .done body committed := fun h => hbody h.2.1
      rw [if_neg hnot]
      simp only [hsome hbody, Bool.not_false, if_true]
      rw [rollback_eq _ hr, hkept]
  · have hnot : ¬ AllDone begun body committed := fun h => hbegun h.1
    rw [if_neg hnot]
    cases begun with
    | done => exact absurd rfl hbegun
    | failed | aborted => rfl

/-- Within an open transaction the frame refuses to begin. -/
theorem atomically_of_open (begun : Ending) (body : List ((σ → σ) × Ending))
    (committed rolledBack : Ending) {staged : σ} (hp : c.pending = some staged) :
    c.atomically begun body committed rolledBack = (false, c) := by
  unfold atomically beginTransaction
  simp [hp]

/-- A frame keeps what its writes together keep; `R` is never put to the test, since an open transaction
    is left alone. -/
theorem Keeps.atomically (h : c.Keeps I R) (begun : Ending) {body : List ((σ → σ) × Ending)}
    (hbody : ∀ s, I s → I (applied body s)) (committed : Ending) {rolledBack : Ending}
    (hr : rolledBack ≠ .failed) : (c.atomically begun body committed rolledBack).2.Keeps I R := by
  cases hp : c.pending with
  | some staged =>
      rw [atomically_of_open begun body committed rolledBack hp]
      exact h
  | none =>
      obtain ⟨s, pending⟩ := c
      obtain rfl : pending = none := hp
      rw [atomically_of_closed s begun body committed hr]
      split
      · exact keeps_closed (hbody s h.committed)
      · exact h

end Connection
end Transaction
