import Mathlib.Data.List.Infix
import Mathlib.Data.List.Forall2

/-!
# Patterns with wildcards

The pattern language of SQL's `LIKE`, over any alphabet and any relation that says when a symbol of
the text stands for one of the pattern: `run` matches any run of symbols, `one` any one symbol.

A pattern that is a text between two `run`s is a search for that text, as long as the text itself
has no wildcards in it. A text that has some is found in places where it is not.
-/

set_option autoImplicit false

namespace Lib.Like

variable {α : Type}

inductive Token (α : Type) where
  | run
  | one
  | lit (a : α)
  deriving DecidableEq, Repr

/-- `text LIKE pattern` -/
def like (same : α → α → Bool) : List (Token α) → List α → Bool
  | [], text => text.isEmpty
  | .run :: pattern, text => text.tails.any (like same pattern)
  | .one :: pattern, text => match text with
    | [] => false
    | _ :: text => like same pattern text
  | .lit a :: pattern, text => match text with
    | [] => false
    | b :: text => same a b && like same pattern text

/-- The pattern `%query%`. -/
def around (query : List (Token α)) : List (Token α) := .run :: query ++ [.run]

variable {same : α → α → Bool} {pattern : List (Token α)} {text : List α}

/-- A run matches what any suffix does. -/
theorem like_run : like same (.run :: pattern) text = true ↔
    ∃ rest, rest <:+ text ∧ like same pattern rest = true := by
  simp [like]

@[simp] theorem like_one_nil : like same (.one :: pattern) [] = false := rfl

@[simp] theorem like_one_cons (b : α) :
    like same (.one :: pattern) (b :: text) = like same pattern text := rfl

@[simp] theorem like_lit_nil (a : α) : like same (.lit a :: pattern) [] = false := rfl

@[simp] theorem like_lit_cons (a b : α) :
    like same (.lit a :: pattern) (b :: text) = (same a b && like same pattern text) := rfl

/-- A run at the end matches anything. -/
theorem like_run_end : like same [.run] text = true :=
  like_run.mpr ⟨[], List.nil_suffix, rfl⟩

/-- Symbol by symbol: `one` stands for any one, a symbol for what is the same. -/
def Fits (same : α → α → Bool) : Token α → α → Prop
  | .run, _ => False
  | .one, _ => True
  | .lit a, b => same a b = true

/-- A pattern without runs matches symbol by symbol, and a run after it takes the rest. -/
theorem like_append_run (hp : Token.run ∉ pattern) :
    like same (pattern ++ [.run]) text = true ↔
      ∃ found rest, text = found ++ rest ∧ List.Forall₂ (Fits same) pattern found := by
  induction pattern generalizing text with
  | nil => simp [like_run_end]
  | cons t pattern ih =>
    have htail : Token.run ∉ pattern := fun h => hp (List.mem_cons_of_mem _ h)
    cases text with
    | nil =>
      cases t with
      | run => exact absurd List.mem_cons_self hp
      | one => simp [List.forall₂_cons_left_iff]
      | lit a => simp [List.forall₂_cons_left_iff]
    | cons b text =>
      have hstep : like same (t :: pattern ++ [.run]) (b :: text) = true ↔
          Fits same t b ∧ like same (pattern ++ [.run]) text = true := by
        cases t with
        | run => exact absurd List.mem_cons_self hp
        | one => simp [Fits]
        | lit a => simp [Fits]
      rw [hstep, ih htail]
      constructor
      · rintro ⟨hb, found, rest, rfl, hfits⟩
        exact ⟨b :: found, rest, rfl, .cons hb hfits⟩
      · rintro ⟨found, rest, htext, hfits⟩
        cases hfits with
        | cons hb hfits =>
          cases htext
          exact ⟨hb, _, _, rfl, hfits⟩

/-- A pattern without runs, looked for anywhere. -/
theorem like_around (hp : Token.run ∉ pattern) :
    like same (around pattern) text = true ↔
      ∃ found, found <:+: text ∧ List.Forall₂ (Fits same) pattern found := by
  rw [around, List.cons_append, like_run]
  constructor
  · rintro ⟨_, ⟨front, rfl⟩, hlike⟩
    obtain ⟨found, rest, rfl, hfits⟩ := (like_append_run hp).mp hlike
    exact ⟨found, ⟨front, rest, List.append_assoc _ _ _⟩, hfits⟩
  · rintro ⟨found, ⟨front, rest, rfl⟩, hfits⟩
    exact ⟨found ++ rest, ⟨front, (List.append_assoc _ _ _).symm⟩,
      (like_append_run hp).mpr ⟨found, rest, rfl, hfits⟩⟩

/-- A pattern whose wildcards each stand for one symbol matches there, whatever the others are. -/
theorem like_of_forall₂ {R : Token α → α → Prop} (hR : ∀ t b, R t b → t = .run ∨ Fits same t b)
    (h : List.Forall₂ R pattern text) : like same (pattern ++ [.run]) text = true := by
  induction h with
  | nil => exact like_run_end
  | @cons t b pattern text ht _ ih =>
    rcases hR t b ht with rfl | hfits
    · exact like_run.mpr ⟨text, List.suffix_cons b text, ih⟩
    · cases t with
      | run => exact hfits.elim
      | one => exact ih
      | lit a =>
        rw [List.cons_append, like_lit_cons, Bool.and_eq_true]
        exact ⟨hfits, ih⟩

/-- What matches a pattern is found when anything may stand around it. -/
theorem like_around_of (h : like same (pattern ++ [.run]) text = true) :
    like same (around pattern) text = true :=
  like_run.mpr ⟨text, List.suffix_refl text, h⟩

end Lib.Like
