import Mathlib

/-!
# `Lib.Ledger` — a book of open items

Items are opened with a value and closed with a value, one entry at a time. A **book** says what is open
and under which value; posting a list of entries (`Posts`) turns one book into another, provided nothing
is opened twice and nothing is closed unless it is open under the value the entry carries.

What a reader of the entries sees for one key is then forced (`Posts.track`): openings and closings
alternate, the last entry is an opening exactly when the key is open in the end, and a closing repeats
the value of the opening before it.
-/

namespace Ledger

variable {K V : Type}

/-- One entry: `key` is opened with `value`, or closed. -/
structure Entry (K V : Type) where
  key : K
  value : V
  opens : Bool
deriving DecidableEq

/-- What is open, and with which value. -/
abbrev Book (K V : Type) := K → Option V

section Posting
variable [DecidableEq K]

/-- Posting the entries in order turns the first book into the second. -/
inductive Posts : List (Entry K V) → Book K V → Book K V → Prop
  | nil {B : Book K V} : Posts [] B B
  | opened {k : K} {v : V} {es : List (Entry K V)} {B B' : Book K V} :
      B k = none → Posts es (Function.update B k (some v)) B' → Posts (⟨k, v, true⟩ :: es) B B'
  | closed {k : K} {v : V} {es : List (Entry K V)} {B B' : Book K V} :
      B k = some v → Posts es (Function.update B k none) B' → Posts (⟨k, v, false⟩ :: es) B B'

theorem Posts.append {es fs : List (Entry K V)} {B B' B'' : Book K V}
    (h : Posts es B B') (h' : Posts fs B' B'') : Posts (es ++ fs) B B'' := by
  induction h with
  | nil => exact h'
  | opened hk _ ih => exact .opened hk (ih h')
  | closed hk _ ih => exact .closed hk (ih h')

/-- Posting nothing changes nothing. -/
theorem Posts.of_nil {B B' : Book K V} (h : Posts [] B B') : B' = B := by
  cases h with
  | nil => rfl

/-- Posting one opening opens a closed item. -/
theorem Posts.of_open_one {k : K} {v : V} {B B' : Book K V} (h : Posts [⟨k, v, true⟩] B B') :
    B k = none ∧ B' = Function.update B k (some v) := by
  cases h with
  | opened hk hrest => exact ⟨hk, hrest.of_nil⟩

theorem Posts.open_one {k : K} {v : V} {B : Book K V} (h : B k = none) :
    Posts [⟨k, v, true⟩] B (Function.update B k (some v)) := .opened h .nil

/-- The book without the keys in `ks`. -/
def strike (ks : List K) (B : Book K V) : Book K V := fun k => if k ∈ ks then none else B k

theorem strike_cons (k : K) (ks : List K) (B : Book K V) :
    strike (k :: ks) B = strike ks (Function.update B k none) := by
  funext a
  unfold strike
  by_cases ha : a = k
  · subst ha; simp
  · simp [ha]

/-- **Closing distinct open items, each under its value, strikes them from the book.** -/
theorem Posts.close_all {l : List (K × V)} {B : Book K V} (hnd : (l.map Prod.fst).Nodup)
    (hB : ∀ e ∈ l, B e.1 = some e.2) :
    Posts (l.map fun e => ⟨e.1, e.2, false⟩) B (strike (l.map Prod.fst) B) := by
  induction l generalizing B with
  | nil =>
      have : strike [] B = B := by funext k; simp [strike]
      rw [List.map_nil, List.map_nil, this]; exact .nil
  | cons e l ih =>
      rw [List.map_cons, List.nodup_cons] at hnd
      rw [List.map_cons, List.map_cons, strike_cons]
      refine .closed (hB e (by simp)) (ih hnd.2 fun x hx => ?_)
      have hne : x.1 ≠ e.1 := fun h => hnd.1 (h ▸ List.mem_map_of_mem hx)
      rw [Function.update_of_ne hne]
      exact hB x (by simp [hx])

end Posting

/-! ## The entries of one key -/

/-- A list of entries of one key, from the key's state before to its state after. -/
inductive Alternates : Option V → List (Entry K V) → Option V → Prop
  | nil {o : Option V} : Alternates o [] o
  | opened {e : Entry K V} {es : List (Entry K V)} {o : Option V} :
      e.opens = true → Alternates (some e.value) es o → Alternates none (e :: es) o
  | closed {e : Entry K V} {v : V} {es : List (Entry K V)} {o : Option V} :
      e.opens = false → e.value = v → Alternates none es o → Alternates (some v) (e :: es) o

/-- **Each key sees an alternating list.** -/
theorem Posts.track [DecidableEq K] {es : List (Entry K V)} {B B' : Book K V} (h : Posts es B B')
    (k : K) : Alternates (B k) (es.filter fun e => e.key = k) (B' k) := by
  induction h with
  | nil => exact .nil
  | @opened k' v es B B' hk _ ih =>
      by_cases hkk : k' = k
      · subst hkk
        rw [Function.update_self] at ih
        rw [List.filter_cons_of_pos (by simp), hk]
        exact .opened rfl ih
      · rw [Function.update_of_ne (Ne.symm hkk)] at ih
        rw [List.filter_cons_of_neg (by simpa using hkk)]
        exact ih
  | @closed k' v es B B' hk _ ih =>
      by_cases hkk : k' = k
      · subst hkk
        rw [Function.update_self] at ih
        rw [List.filter_cons_of_pos (by simp), hk]
        exact .closed rfl rfl ih
      · rw [Function.update_of_ne (Ne.symm hkk)] at ih
        rw [List.filter_cons_of_neg (by simpa using hkk)]
        exact ih

/-- Entry `i` of a list that starts from `o` is an opening exactly when the parity says so. -/
theorem Alternates.opens_iff {o o' : Option V} {es : List (Entry K V)} (h : Alternates o es o')
    {i : Nat} {e : Entry K V} (he : es[i]? = some e) :
    e.opens = true ↔ (o.isNone = true ↔ i % 2 = 0) := by
  induction h generalizing i with
  | nil => simp at he
  | @opened e' es o hop _ ih =>
      cases i with
      | zero =>
          have : e = e' := by simpa using he.symm
          subst this; simp [hop]
      | succ i =>
          have := ih (i := i) (by simpa using he)
          simp only [Option.isNone_some, Bool.false_eq_true, false_iff] at this
          simp only [Option.isNone_none, true_iff]
          rw [this]; omega
  | @closed e' v es o hop _ _ ih =>
      cases i with
      | zero =>
          have : e = e' := by simpa using he.symm
          subst this; simp [hop]
      | succ i =>
          have := ih (i := i) (by simpa using he)
          simp only [Option.isNone_none, true_iff] at this
          simp only [Option.isNone_some, Bool.false_eq_true, false_iff]
          rw [this]; omega

/-- The last entry is an opening exactly when the key ends up open. -/
theorem Alternates.last_opens_iff {o o' : Option V} {es : List (Entry K V)} (h : Alternates o es o')
    (hne : es ≠ []) : (∃ e, es.getLast? = some e ∧ e.opens = true) ↔ o'.isSome = true := by
  induction h with
  | nil => exact absurd rfl hne
  | @opened e es o hop hrest ih =>
      cases es with
      | nil => cases hrest; simp [hop]
      | cons e' es => rw [List.getLast?_cons_cons]; exact ih (by simp)
  | @closed e v es o hop _ hrest ih =>
      cases es with
      | nil => cases hrest; simp [hop]
      | cons e' es => rw [List.getLast?_cons_cons]; exact ih (by simp)

/-- A closing repeats the value of the entry before it. -/
theorem Alternates.closes_value {o o' : Option V} {es : List (Entry K V)} (h : Alternates o es o')
    {i : Nat} {e e' : Entry K V} (he : es[i]? = some e) (he' : es[i + 1]? = some e')
    (hcl : e'.opens = false) : e'.value = e.value := by
  induction h generalizing i with
  | nil => simp at he
  | @opened d es o hop hrest ih =>
      cases i with
      | zero =>
          have hd : d = e := by simpa using he
          subst hd
          cases hrest with
          | nil => simp at he'
          | closed _ hv _ =>
              simp only [List.getElem?_cons_succ, List.getElem?_cons_zero, Option.some.injEq] at he'
              rw [← he', hv]
      | succ i => exact ih (by simpa using he) (by simpa using he')
  | @closed d v es o hop _ hrest ih =>
      cases i with
      | zero =>
          cases hrest with
          | nil => simp at he'
          | opened hop' _ =>
              simp only [List.getElem?_cons_succ, List.getElem?_cons_zero, Option.some.injEq] at he'
              rw [← he', hop'] at hcl; exact Bool.noConfusion hcl
      | succ i => exact ih (by simpa using he) (by simpa using he')

end Ledger
