import Testbench.Proofs.Task

/-!
# Resting — tasks that stand at waits

A task that was polled is done, or it waits in each of its parts. There it may be given up: it holds
what it holds while it waits, and nothing of what comes after it has begun.

- `Task.rests`, `isDone_or_rests_poll` : where a polled task stands;
- `Task.outcome?`                      : what a task will come to, once that is known;
- `Goes.mono`                          : steps when more is ready;
- `abandon_bind`                       : what comes after a task holds nothing.
-/

namespace Testbench
namespace Task

variable {ω σ : Type} {α β : Type}

/-! ## Where a task may stand -/

/-- A task that waits in each of its parts, unless the part is done. -/
def rests {α : Type} : Task ω σ α → Bool
  | .done _ => false
  | .act .. => false
  | .await .. => true
  | .both left right _ _ =>
    (left.isDone || left.rests) && (right.isDone || right.rests) && !(left.isDone && right.isDone)
  | .guarded body _ _ => body.rests

/-- The result of a task that has nothing left to do, apart from releasing what it holds. -/
def outcome? {α : Type} : Task ω σ α → Option α
  | .done a => some a
  | .guarded (.done b) _ next => (next b).result?
  | _ => none

/-- A task that was polled waits, unless it is done. -/
theorem isDone_or_rests_poll (ready : ω → σ → Bool) (t : Task ω σ α) (s : σ) :
    (t.poll ready s).1.isDone = true ∨ (t.poll ready s).1.rests = true := by
  induction t generalizing s with
  | done a => exact .inl rfl
  | act f next ih => exact ih (f s).1 (f s).2
  | await w next ih =>
      rw [poll]
      split
      · exact ih s
      · exact .inr rfl
  | both left right limit next ihl ihr ih =>
      rcases poll_both_cases ready left right limit next s with
        ⟨a, b, -, -, hpoll⟩ | ⟨w, -, -, hpoll⟩ | ⟨-, hopen, hpoll⟩
      · rw [hpoll]
        exact ih _ _
      · rw [hpoll]
        exact ih none _
      -- With neither done, both parts rest, and so do they together.
      · refine .inr ?_
        rw [hpoll, rests, Bool.and_eq_true, Bool.and_eq_true, Bool.or_eq_true, Bool.or_eq_true]
        exact ⟨⟨ihl s, ihr (left.poll ready s).2⟩, Bool.not_eq_true' _ ▸ hopen⟩
  | guarded body release next ihbody ih =>
      rcases poll_guarded_cases ready body release next s with ⟨a, -, hpoll⟩ | ⟨hopen, hpoll⟩
      · rw [hpoll]
        exact ih _ _
      · rw [hpoll]
        exact .inr ((ihbody s).resolve_left fun hdone => Bool.eq_false_iff.1 hopen hdone)

/-! ## Steps that wait for less -/

theorem Goes.mono {ready ready' : ω → σ → Bool}
    (hready : ∀ w s, ready w s = true → ready' w s = true) {t t' : Task ω σ α} {x : Ran σ}
    (h : Goes ready t x t') : Goes ready' t x t' := by
  induction h with
  | act f next s => exact .act f next s
  | await next hw => exact .await next (hready _ _ hw)
  | left _ ih => exact .left ih
  | right _ ih => exact .right ih
  | joined a b limit next s => exact .joined a b limit next s
  | limit l r next hw => exact .limit l r next (hready _ _ hw)
  | inside _ ih => exact .inside ih
  | release a release next s => exact .release a release next s

theorem GoesOn.mono {ready ready' : ω → σ → Bool}
    (hready : ∀ w s, ready w s = true → ready' w s = true) {t t' : Task ω σ α} {s s' : σ}
    {xs : List (Ran σ)} (h : GoesOn ready t s xs t' s') : GoesOn ready' t s xs t' s' := by
  induction h with
  | none t s => exact .none t s
  | more hgoes _ ih => exact .more (hgoes.mono hready) ih

/-! ## One task after another -/

theorem isDone_bind {t : Task ω σ β} {f : β → Task ω σ α} (hf : ∀ b, (f b).isDone = false) :
    (t.bind f).isDone = false := by
  cases t with
  | done b => exact hf b
  | act _ _ | await _ _ | both _ _ _ _ | guarded _ _ _ => rfl

theorem outcome?_guarded {body : Task ω σ β} (h : body.isDone = false) (release : σ → σ)
    (next : β → Task ω σ α) : (guarded body release next).outcome? = none := by
  cases body with
  | done b => cases h
  | act _ _ | await _ _ | both _ _ _ _ | guarded _ _ _ => rfl

theorem abandon_bind {t : Task ω σ β} (h : t.isDone = false) (f : β → Task ω σ α) :
    (t.bind f).abandon = t.abandon := by
  cases t with
  | done b => cases h
  | act _ _ | await _ _ | both _ _ _ _ | guarded _ _ _ => rfl

end Task
end Testbench
