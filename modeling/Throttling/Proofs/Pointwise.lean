import Mathlib.Data.List.Forall2

/-!
# Related element by element

A relation between elements lifts to lists of the same length and to options, by `List.Forall₂` and
`Option.Rel`. What is done to both sides at one position, or at all, keeps related lists related if
it keeps related elements so.
-/

set_option autoImplicit false

namespace Throttling

section Related

variable {α β : Type} {R S : α → β → Prop} {xs : List α} {ys : List β}

theorem forall₂_getElem? (related : List.Forall₂ R xs ys) (i : Nat) :
    Option.Rel R xs[i]? ys[i]? := by
  induction related generalizing i with
  | nil => exact .none
  | cons head tail ih =>
    cases i with
    | zero => exact .some head
    | succ i => exact ih i

theorem forall₂_set (related : List.Forall₂ R xs ys) (i : Nat) {a : α} {b : β} (h : R a b) :
    List.Forall₂ R (xs.set i a) (ys.set i b) := by
  induction related generalizing i with
  | nil => exact .nil
  | cons head tail ih =>
    cases i with
    | zero => exact .cons h tail
    | succ i => exact .cons head (ih i)

theorem forall₂_modify (related : List.Forall₂ R xs ys) (i : Nat) {f : α → α} {g : β → β}
    (kept : ∀ a b, R a b → R (f a) (g b)) :
    List.Forall₂ R (xs.modify i f) (ys.modify i g) := by
  induction related generalizing i with
  | nil =>
    rw [List.modify_nil, List.modify_nil]
    exact .nil
  | cons head tail ih =>
    cases i with
    | zero => exact .cons (kept _ _ head) tail
    | succ i => exact .cons head (ih i)

/-- A change at one position of the second list, under which each element stays related. -/
theorem forall₂_modify_right (related : List.Forall₂ R xs ys) (i : Nat) {g : β → β}
    (kept : ∀ a b, R a b → R a (g b)) : List.Forall₂ R xs (ys.modify i g) := by
  induction related generalizing i with
  | nil =>
    rw [List.modify_nil]
    exact .nil
  | cons head tail ih =>
    cases i with
    | zero => exact .cons (kept _ _ head) tail
    | succ i => exact .cons head (ih i)

theorem forall₂_comp {γ : Type} {T : β → γ → Prop} {U : α → γ → Prop} {zs : List γ}
    (compose : ∀ a b c, R a b → T b c → U a c) (first : List.Forall₂ R xs ys)
    (second : List.Forall₂ T ys zs) : List.Forall₂ U xs zs := by
  induction first generalizing zs with
  | nil =>
    cases second
    exact .nil
  | cons head tail ih =>
    cases second with
    | cons head' tail' => exact .cons (compose _ _ _ head head') (ih tail')

theorem forall₂_map {γ δ : Type} {T : γ → δ → Prop} {f : α → γ} {g : β → δ}
    (kept : ∀ a b, R a b → T (f a) (g b)) (related : List.Forall₂ R xs ys) :
    List.Forall₂ T (xs.map f) (ys.map g) := by
  rw [List.forall₂_map_left_iff, List.forall₂_map_right_iff]
  exact related.imp kept

/-- What is counted alike on related elements is counted alike on the lists. -/
theorem forall₂_countP {p : α → Bool} {q : β → Bool} (same : ∀ a b, R a b → p a = q b)
    (related : List.Forall₂ R xs ys) : xs.countP p = ys.countP q := by
  induction related with
  | nil => rfl
  | cons head tail ih => rw [List.countP_cons, List.countP_cons, ih, same _ _ head]

theorem forall₂_map_eq {γ : Type} {f : α → γ} {g : β → γ} (same : ∀ a b, R a b → f a = g b)
    (related : List.Forall₂ R xs ys) : xs.map f = ys.map g := by
  induction related with
  | nil => rfl
  | cons head tail ih => rw [List.map_cons, List.map_cons, ih, same _ _ head]

theorem rel_map {γ δ : Type} {T : γ → δ → Prop} {f : α → γ} {g : β → δ} {x : Option α}
    {y : Option β} (kept : ∀ a b, R a b → T (f a) (g b)) (related : Option.Rel R x y) :
    Option.Rel T (x.map f) (y.map g) := by
  cases related with
  | none => exact .none
  | some h => exact .some (kept _ _ h)

theorem rel_comp {γ : Type} {T : β → γ → Prop} {U : α → γ → Prop} {x : Option α} {y : Option β}
    {z : Option γ} (compose : ∀ a b c, R a b → T b c → U a c) (first : Option.Rel R x y)
    (second : Option.Rel T y z) : Option.Rel U x z := by
  cases first with
  | none =>
    cases second
    exact .none
  | some h =>
    cases second with
    | some h' => exact .some (compose _ _ _ h h')

theorem rel_imp {x : Option α} {y : Option β} (weaker : ∀ a b, R a b → S a b)
    (related : Option.Rel R x y) : Option.Rel S x y := by
  cases related with
  | none => exact .none
  | some h => exact .some (weaker _ _ h)

theorem rel_any {x : Option α} {y : Option β} {p : α → Bool} {q : β → Bool}
    (same : ∀ a b, R a b → p a = q b) (related : Option.Rel R x y) : x.any p = y.any q := by
  cases related with
  | none => rfl
  | some h => exact same _ _ h

theorem forall₂_and (first : List.Forall₂ R xs ys) (second : List.Forall₂ S xs ys) :
    List.Forall₂ (fun a b => R a b ∧ S a b) xs ys := by
  induction first with
  | nil => exact .nil
  | cons head tail ih =>
    cases second with
    | cons head' tail' => exact .cons ⟨head, head'⟩ (ih tail')

theorem rel_and {x : Option α} {y : Option β} (first : Option.Rel R x y)
    (second : Option.Rel S x y) : Option.Rel (fun a b => R a b ∧ S a b) x y := by
  cases first with
  | none => exact .none
  | some h =>
    cases second with
    | some h' => exact .some ⟨h, h'⟩

end Related

end Throttling
