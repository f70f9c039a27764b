import Mathlib.Data.List.Forall2

namespace SqlConverter

variable {ε ε' α β γ : Type}

theorem bind_eq_ok_iff {x : Except ε α} {f : α → Except ε β} {b : β} :
    (x >>= f) = .ok b ↔ ∃ a, x = .ok a ∧ f a = .ok b := by
  cases x <;> simp [bind, Except.bind]

theorem mapError_eq_ok_iff {g : ε → ε'} {x : Except ε α} {a : α} :
    x.mapError g = .ok a ↔ x = .ok a := by
  cases x <;> simp [Except.mapError]

theorem mapError_eq_error_iff {g : ε → ε'} {x : Except ε α} {e : ε'} :
    x.mapError g = .error e ↔ ∃ cause, x = .error cause ∧ e = g cause := by
  cases x <;> simp [Except.mapError, eq_comm]

theorem mapM_eq_some_iff {f : α → Option β} {as : List α} {bs : List β} :
    as.mapM f = some bs ↔ List.Forall₂ (fun a b => f a = some b) as bs := by
  induction as generalizing bs with
  | nil => cases bs <;> simp
  | cons a as ih => cases bs <;> simp [List.mapM_cons, Option.bind_eq_some_iff, ih]

/-- What is read of each item on its own is read of all of them. -/
theorem mapM_map_eq_some {read : β → Option γ} {write : α → β} {value : α → γ}
    (h : ∀ a, read (write a) = some (value a)) (items : List α) :
    (items.map write).mapM read = some (items.map value) := by
  rw [mapM_eq_some_iff, List.forall₂_map_left_iff, List.forall₂_map_right_iff,
    List.forall₂_same]
  exact fun a _ => h a

theorem mapM_id_eq_some_iff {marked : List (Option α)} {as : List α} :
    marked.mapM id = some as ↔ marked = as.map some := by
  have pointwise : List.Forall₂ (fun a b => id a = some b) marked as ↔
      List.Forall₂ Eq marked (as.map some) := List.forall₂_map_right_iff.symm
  rw [mapM_eq_some_iff, pointwise, List.forall₂_eq_eq_eq]

end SqlConverter
