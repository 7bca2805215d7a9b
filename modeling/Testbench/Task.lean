/-!
# Task — work that can be suspended

A task is a tree of atomic acts on a state and of points at which it waits. Between two waiting
points nobody else touches the state; at a waiting point anybody may. What a task holds while it is
suspended is released when it goes on past the guarded part, and also when it is given up.

- `Task`           : the tree;
- `Task.bind`, `Monad (Task ω σ)` : one task after another;
- `Task.poll`      : run as far as the waiting points allow;
- `Task.canRun`    : whether a poll would get anywhere;
- `Task.waits`     : what the task waits for;
- `Task.abandon`   : give a task up.
-/

namespace Testbench

/-- Work on a state `σ` that may wait for the things in `ω`. -/
inductive Task (ω σ : Type) : Type → Type 1 where
  | done {α : Type} (a : α) : Task ω σ α
  /-- One atomic act. -/
  | act {α β : Type} (f : σ → β × σ) (next : β → Task ω σ α) : Task ω σ α
  /-- A point where the task is suspended. -/
  | await {α : Type} (w : ω) (next : Task ω σ α) : Task ω σ α
  /-- Two tasks at once, the left one first. Both are given up when the limit comes before their
  end. -/
  | both {α β γ : Type} (left : Task ω σ β) (right : Task ω σ γ) (limit : Option ω)
      (next : Option (β × γ) → Task ω σ α) : Task ω σ α
  /-- A part that holds something until it ends or is given up. -/
  | guarded {α β : Type} (body : Task ω σ β) (release : σ → σ) (next : β → Task ω σ α) :
      Task ω σ α

namespace Task

variable {ω σ : Type}

/-! ## One after another -/

def bind {α β : Type} : Task ω σ α → (α → Task ω σ β) → Task ω σ β
  | .done a, f => f a
  | .act g next, f => .act g fun x => (next x).bind f
  | .await w next, f => .await w (next.bind f)
  | .both left right limit next, f => .both left right limit fun x => (next x).bind f
  | .guarded body release next, f => .guarded body release fun x => (next x).bind f

instance : Monad (Task ω σ) where
  pure := .done
  bind := .bind

/-- An atomic act. -/
def lift {α : Type} (m : StateM σ α) : Task ω σ α := .act m.run .done

instance : MonadLift (StateM σ) (Task ω σ) where
  monadLift := lift

/-- Wait. -/
def pause (w : ω) : Task ω σ Unit := .await w (.done ())

/-- Hold something during a task. -/
def holding {α : Type} (release : σ → σ) (body : Task ω σ α) : Task ω σ α :=
  .guarded body release .done

/-- Two tasks at once, without a limit. -/
def join {β γ : Type} (left : Task ω σ β) (right : Task ω σ γ) : Task ω σ (Option (β × γ)) :=
  .both left right none .done

/-- Two tasks at once, up to a limit. -/
def joinWithin {β γ : Type} (limit : ω) (left : Task ω σ β) (right : Task ω σ γ) :
    Task ω σ (Option (β × γ)) :=
  .both left right (some limit) .done

@[simp] theorem pure_eq_done {α : Type} (a : α) : (pure a : Task ω σ α) = .done a := rfl

@[simp] theorem bind_eq {α β : Type} (t : Task ω σ α) (f : α → Task ω σ β) : t >>= f = t.bind f :=
  rfl

theorem bind_done {α : Type} (t : Task ω σ α) : t.bind .done = t := by
  induction t with
  | done a => rfl
  | act g next ih => simp only [bind]; congr; funext x; exact ih x
  | await w next ih => simp only [bind, ih]
  | both left right limit next _ _ ih => simp only [bind]; congr; funext x; exact ih x
  | guarded body release next _ ih => simp only [bind]; congr; funext x; exact ih x

theorem bind_assoc {α β γ : Type} (t : Task ω σ α) (f : α → Task ω σ β) (g : β → Task ω σ γ) :
    (t.bind f).bind g = t.bind fun a => (f a).bind g := by
  induction t with
  | done a => rfl
  | act h next ih => simp only [bind]; congr; funext x; exact ih x f
  | await w next ih => simp only [bind, ih]
  | both left right limit next _ _ ih => simp only [bind]; congr; funext x; exact ih x f
  | guarded body release next _ ih => simp only [bind]; congr; funext x; exact ih x f

/-! ## Running -/

def isDone {α : Type} : Task ω σ α → Bool
  | .done _ => true
  | _ => false

/-- The result of a finished task. -/
def result? {α : Type} : Task ω σ α → Option α
  | .done a => some a
  | _ => none

/-- Release what a suspended task holds, the inner parts first. -/
def abandon {α : Type} : Task ω σ α → σ → σ
  | .both left right _ _, s => right.abandon (left.abandon s)
  | .guarded body release _, s => release (body.abandon s)
  | _, s => s

/-- Run until the task is done or waits for something that is not ready. -/
def poll {α : Type} (ready : ω → σ → Bool) : Task ω σ α → σ → Task ω σ α × σ
  | .done a, s => (.done a, s)
  | .act f next, s => poll ready (next (f s).1) (f s).2
  | .await w next, s => if ready w s then poll ready next s else (.await w next, s)
  | .both left right limit next, s =>
    let (left, s) := poll ready left s
    let (right, s) := poll ready right s
    match left.result?, right.result? with
    | some a, some b => poll ready (next (some (a, b))) s
    | _, _ =>
      if limit.any fun w => ready w s then
        poll ready (next none) (right.abandon (left.abandon s))
      else (.both left right limit next, s)
  | .guarded body release next, s =>
    let (body, s) := poll ready body s
    match body.result? with
    | some a => poll ready (next a) (release s)
    | none => (.guarded body release next, s)

/-- Whether a poll would do anything. -/
def canRun {α : Type} (ready : ω → σ → Bool) : Task ω σ α → σ → Bool
  | .done _, _ => false
  | .act .., _ => true
  | .await w _, s => ready w s
  | .both left right limit _, s =>
    canRun ready left s || canRun ready right s || (left.isDone && right.isDone)
      || limit.any fun w => ready w s
  | .guarded body _ _, s => canRun ready body s || body.isDone

/-- What a suspended task waits for. -/
def waits {α : Type} : Task ω σ α → List ω
  | .done _ => []
  | .act .. => []
  | .await w _ => [w]
  | .both left right limit _ => left.waits ++ right.waits ++ limit.toList
  | .guarded body _ _ => body.waits

end Task
end Testbench
