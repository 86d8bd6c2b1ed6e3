import Mathlib

/-!
# `Lib.Like` — `LIKE` patterns with an escape

A pattern language over any alphabet: one letter matches any sequence, some letters match any one letter,
one makes the next letter literal, and literals are compared under a fold. Its matcher backtracks over the
sequences. A text is **quoted** by an escape before each letter that is special, and a quoted text between
two wildcards finds exactly the texts that contain it up to the fold (`accepts_between_iff`).
-/

/-- The special letters of a pattern language, and what literals are compared by. -/
structure LikeSyntax (α β : Type) where
  many : α
  one : α → Bool
  escape : α
  fold : α → β
  escape_ne_many : escape ≠ many

namespace LikeSyntax

variable {α β : Type} [DecidableEq α] [DecidableEq β] (L : LikeSyntax α β)

/-- `text` matches `pattern`; `escaped` behind an escape. A pattern that ends in an escape matches
    nothing. -/
def accepts : Bool → List α → List α → Bool
  | escaped, [], text => !escaped && text.isEmpty
  | true, _ :: _, [] => false
  | true, c :: pattern, d :: text => L.fold c == L.fold d && accepts false pattern text
  | false, c :: pattern, text =>
    if c = L.many then text.tails.any fun rest => accepts false pattern rest
    else if c = L.escape then accepts true pattern text
    else
      match text with
      | [] => false
      | d :: text => (L.one c || L.fold c == L.fold d) && accepts false pattern text

/-- A text with an escape before each letter of which `special` holds. -/
def quote (L : LikeSyntax α β) (special : α → Bool) (text : List α) : List α :=
  text.flatMap fun c => if special c then [L.escape, c] else [c]

/-- A letter that means itself. -/
structure Plain (c : α) : Prop where
  ne_many : c ≠ L.many
  ne_escape : c ≠ L.escape
  not_one : L.one c = false

/-- No letter of the text is left bare that means anything but itself. -/
def Covers (special : α → Bool) (text : List α) : Prop := ∀ c ∈ text, special c = false → L.Plain c

variable {L} {special : α → Bool} {pattern text search : List α}

/-! ## The letters of a pattern -/

/-- The wildcard skips any sequence. -/
theorem accepts_many : L.accepts false (L.many :: pattern) text = true ↔
    ∃ skipped rest, text = skipped ++ rest ∧ L.accepts false pattern rest = true := by
  have hskip : L.accepts false (L.many :: pattern) text
      = text.tails.any fun rest => L.accepts false pattern rest := by
    rw [accepts.eq_def]
    exact if_pos rfl
  rw [hskip, List.any_eq_true]
  constructor
  · rintro ⟨rest, hrest, haccepts⟩
    obtain ⟨skipped, rfl⟩ := (List.mem_tails _ _).mp hrest
    exact ⟨skipped, rest, rfl, haccepts⟩
  · rintro ⟨skipped, rest, rfl, haccepts⟩
    exact ⟨rest, (List.mem_tails _ _).mpr ⟨skipped, rfl⟩, haccepts⟩

/-- A literal takes one letter that it folds with. -/
def literal (L : LikeSyntax α β) (c : α) (pattern : List α) : List α → Bool
  | [] => false
  | d :: text => L.fold c == L.fold d && L.accepts false pattern text

theorem accepts_plain {c : α} (h : L.Plain c) :
    L.accepts false (c :: pattern) text = L.literal c pattern text := by
  rw [accepts.eq_def]
  dsimp only
  refine (if_neg h.ne_many).trans ((if_neg h.ne_escape).trans ?_)
  cases text with
  | nil => rfl
  | cons d text =>
      show ((L.one c || L.fold c == L.fold d) && L.accepts false pattern text) = _
      rw [h.not_one, Bool.false_or]
      rfl

/-- A letter behind an escape. -/
theorem accepts_escape {c : α} :
    L.accepts false (L.escape :: c :: pattern) text = L.literal c pattern text := by
  rw [accepts.eq_def]
  dsimp only
  refine (if_neg L.escape_ne_many).trans ((if_pos rfl).trans ?_)
  rw [accepts.eq_def]
  cases text <;> rfl

/-- A quoted letter is a literal. -/
theorem accepts_quoted {c : α} (h : special c = false → L.Plain c) :
    L.accepts false ((if special c then [L.escape, c] else [c]) ++ pattern) text
      = L.literal c pattern text := by
  cases hc : special c with
  | false => exact accepts_plain (h hc)
  | true => exact accepts_escape

/-! ## Quoted texts -/

/-- **A quoted text is matched by what folds like it**, by induction on the text. -/
theorem accepts_quote (hcovers : L.Covers special search) :
    L.accepts false (L.quote special search ++ pattern) text = true ↔
      ∃ found rest, text = found ++ rest ∧ found.map L.fold = search.map L.fold ∧
        L.accepts false pattern rest = true := by
  induction search generalizing text with
  | nil =>
      constructor
      · intro h
        exact ⟨[], text, rfl, rfl, h⟩
      · rintro ⟨found, rest, rfl, hfold, haccepts⟩
        obtain rfl : found = [] := List.map_eq_nil_iff.mp hfold
        exact haccepts
  | cons c search ih =>
      have hcons : L.quote special (c :: search) ++ pattern
          = (if special c then [L.escape, c] else [c]) ++ (L.quote special search ++ pattern) := by
        rw [quote, List.flatMap_cons, List.append_assoc]
        rfl
      have hletter := hcovers c List.mem_cons_self
      have hcovers : L.Covers special search := fun d hd => hcovers d (List.mem_cons_of_mem c hd)
      rw [hcons, accepts_quoted hletter]
      cases text with
      | nil =>
          constructor
          · intro h
            exact absurd h Bool.false_ne_true
          · rintro ⟨found, rest, heq, hfold, _⟩
            obtain ⟨rfl, rfl⟩ := List.append_eq_nil_iff.mp heq.symm
            exact absurd hfold (by simp)
      | cons d text =>
          rw [literal, Bool.and_eq_true, beq_iff_eq, ih hcovers]
          constructor
          · rintro ⟨hcd, found, rest, rfl, hfold, haccepts⟩
            refine ⟨d :: found, rest, rfl, ?_, haccepts⟩
            rw [List.map_cons, List.map_cons, hcd, hfold]
          · rintro ⟨found, rest, heq, hfold, haccepts⟩
            cases found with
            | nil => exact absurd hfold (by simp)
            | cons d' found =>
                obtain ⟨rfl, rfl⟩ := List.cons.inj heq
                obtain ⟨hcd, hfold⟩ := List.cons.inj hfold
                exact ⟨hcd.symm, found, rest, rfl, hfold, haccepts⟩

/-- A text of plain letters with a wildcard behind it matches what starts like it. -/
theorem accepts_prefix_iff (hplain : ∀ c ∈ search, L.Plain c) :
    L.accepts false (search ++ [L.many]) text = true ↔ search.map L.fold <+: text.map L.fold := by
  have hbare : L.quote (fun _ => false) search = search := List.flatMap_singleton' search
  have hcovers : L.Covers (fun _ => false) search := fun c hc _ => hplain c hc
  calc L.accepts false (search ++ [L.many]) text = true
      ↔ L.accepts false (L.quote (fun _ => false) search ++ [L.many]) text = true := by rw [hbare]
    _ ↔ ∃ found rest, text = found ++ rest ∧ found.map L.fold = search.map L.fold ∧
          L.accepts false [L.many] rest = true := accepts_quote hcovers
    _ ↔ search.map L.fold <+: text.map L.fold := ?_
  constructor
  · rintro ⟨found, rest, rfl, hfold, _⟩
    exact ⟨rest.map L.fold, by rw [← hfold, List.map_append]⟩
  · rintro ⟨rest, heq⟩
    obtain ⟨found, after, rfl, hfound, _⟩ := List.map_eq_append_iff.mp heq.symm
    exact ⟨found, after, rfl, hfound, accepts_many.mpr ⟨after, [], (List.append_nil after).symm, rfl⟩⟩

/-- **A quoted text behind a wildcard matches what ends like it.** -/
theorem accepts_ending_iff (hcovers : L.Covers special search) :
    L.accepts false (L.many :: L.quote special search) text = true ↔
      search.map L.fold <:+ text.map L.fold := by
  rw [accepts_many, ← List.append_nil (L.quote special search)]
  constructor
  · rintro ⟨before, rest, rfl, haccepts⟩
    obtain ⟨found, after, rfl, hfold, hend⟩ := (accepts_quote hcovers).mp haccepts
    have hafter : after = [] := by
      cases after with
      | nil => rfl
      | cons d after => exact absurd hend (by rw [accepts.eq_def]; simp)
    refine ⟨before.map L.fold, ?_⟩
    rw [hafter, List.append_nil, List.map_append, hfold]
  · rintro ⟨before, heq⟩
    obtain ⟨skipped, found, rfl, _, hfound⟩ := List.map_eq_append_iff.mp heq.symm
    refine ⟨skipped, found, rfl, (accepts_quote hcovers).mpr ⟨found, [], (List.append_nil found).symm, hfound, ?_⟩⟩
    rw [accepts.eq_def]
    rfl

/-- `text` has a part that folds like `search`. -/
def Finds (fold : α → β) (search text : List α) : Prop :=
  ∃ before found after, text = before ++ found ++ after ∧ found.map fold = search.map fold

/-- **A quoted text between two wildcards finds what contains it.** -/
theorem accepts_between_iff (hcovers : L.Covers special search) :
    L.accepts false (L.many :: (L.quote special search ++ [L.many])) text = true ↔
      Finds L.fold search text := by
  rw [accepts_many]
  constructor
  · rintro ⟨before, rest, rfl, haccepts⟩
    obtain ⟨found, after, rfl, hfold, _⟩ := (accepts_quote hcovers).mp haccepts
    exact ⟨before, found, after, (List.append_assoc before found after).symm, hfold⟩
  · rintro ⟨before, found, after, rfl, hfold⟩
    refine ⟨before, found ++ after, List.append_assoc before found after, ?_⟩
    refine (accepts_quote hcovers).mpr ⟨found, after, rfl, hfold, ?_⟩
    exact accepts_many.mpr ⟨after, [], (List.append_nil after).symm, rfl⟩

omit [DecidableEq α] [DecidableEq β] in
/-- Finding a part is containment of the folded texts. -/
theorem finds_iff_infix {fold : α → β} :
    Finds fold search text ↔ search.map fold <:+: text.map fold := by
  constructor
  · rintro ⟨before, found, after, rfl, hfold⟩
    refine ⟨before.map fold, after.map fold, ?_⟩
    rw [← hfold, ← List.map_append, ← List.map_append]
  · rintro ⟨before, after, heq⟩
    obtain ⟨front, rest, rfl, hfront, _⟩ := List.map_eq_append_iff.mp heq.symm
    obtain ⟨skipped, found, rfl, _, hfound⟩ := List.map_eq_append_iff.mp hfront
    exact ⟨skipped, found, rest, rfl, hfound⟩

end LikeSyntax
