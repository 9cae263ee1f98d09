import Mathlib

set_option autoImplicit false

/-! # Items taken one by one

A source of items is a function that gives the next item and the state behind it. The list of all
its items is what is yielded step by step (`Iteration.next?_iterate_advance`). -/

namespace PacketLog.Iteration

variable {σ α : Type}

/-- The state after one more step; at the end it stays where it is. -/
def advance (next? : σ → Option (α × σ)) (s : σ) : σ :=
  match next? s with
  | none => s
  | some (_, t) => t

/-- **Step by step the items of a list are yielded**, and nothing when they are used up, if the
list follows the steps. -/
theorem next?_iterate_advance {next? : σ → Option (α × σ)} {items : σ → List α}
    (hnone : ∀ s, next? s = none → items s = [])
    (hsome : ∀ s a t, next? s = some (a, t) → items s = a :: items t) (k : Nat) (s : σ) :
    (next? ((advance next?)^[k] s)).map Prod.fst = (items s)[k]? := by
  induction k generalizing s with
  | zero =>
      rw [Function.iterate_zero_apply]
      cases hs : next? s with
      | none => rw [hnone s hs]; rfl
      | some p => rw [hsome s p.1 p.2 hs]; rfl
  | succ k ih =>
      rw [Function.iterate_succ_apply, ih]
      cases hs : next? s with
      | none =>
          have hadv : advance next? s = s := by rw [advance, hs]
          rw [hadv, hnone s hs]
          rfl
      | some p =>
          have hadv : advance next? s = p.2 := by rw [advance, hs]
          rw [hadv, hsome s p.1 p.2 hs, List.getElem?_cons_succ]

end PacketLog.Iteration
