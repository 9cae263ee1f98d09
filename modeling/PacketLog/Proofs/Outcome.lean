import Mathlib
import PacketLog.Journal

set_option autoImplicit false

/-! # Sequences of operations

An operation goes on with the next one after a success. What succeeds as a whole succeeds in both
parts (`Outcome.exists_of_andThen`), and what both parts keep, the sequence keeps
(`Outcome.andThen_keeps`). -/

namespace PacketLog.Outcome

variable {σ ε α β γ : Type}

/-- A success of the whole is a success of both parts. -/
theorem exists_of_andThen {o : Outcome σ (Except ε α)} {next : α → σ → Outcome σ (Except ε β)}
    {b : β} (h : (o.andThen next).result = .ok b) :
    ∃ a t, o.result = .ok a ∧ (next a t).result = .ok b ∧ o.state = t ∧
      (o.andThen next).state = (next a t).state := by
  cases hresult : o.result with
  | error e =>
      rw [andThen_of_error hresult] at h
      cases h
  | ok a =>
      rw [andThen_of_ok hresult] at h ⊢
      exact ⟨a, o.state, rfl, h, rfl, rfl⟩

/-- **What each part of a sequence keeps**, the sequence keeps. -/
theorem andThen_keeps (f : σ → γ) {s : σ} {o : Outcome σ (Except ε α)}
    {next : α → σ → Outcome σ (Except ε β)} (h : f o.state = f s)
    (hnext : ∀ a t, f (next a t).state = f t) : f (o.andThen next).state = f s := by
  cases hresult : o.result with
  | error e =>
      rw [andThen_of_error hresult]
      exact h
  | ok a =>
      rw [andThen_of_ok hresult]
      exact (hnext a o.state).trans h

/-- A sequence of three parts may be cut behind the first or behind the second. -/
theorem andThen_assoc (o : Outcome σ (Except ε α)) (next : α → σ → Outcome σ (Except ε β))
    (last : β → σ → Outcome σ (Except ε γ)) :
    (o.andThen next).andThen last = o.andThen fun a s => (next a s).andThen last := by
  cases hresult : o.result with
  | error e => rw [andThen_of_error hresult, andThen_of_error hresult, andThen_of_error rfl]
  | ok a =>
      rw [andThen_of_ok hresult, andThen_of_ok hresult]
      cases hnext : (next a o.state).result with
      | error e =>
          have hafter : ((next a o.state).after o.events).result = .error e := hnext
          rw [andThen_of_error hafter, andThen_of_error hnext]
          rfl
      | ok b =>
          have hafter : ((next a o.state).after o.events).result = .ok b := hnext
          rw [andThen_of_ok hafter, andThen_of_ok hnext, after, after, after, events_after,
            List.append_assoc]
          rfl

end PacketLog.Outcome
