import Testbench.Workspace

/-!
# Schedule — running work in the foreground and in the background

Work in the foreground goes first; what it sent to the background runs while it waits and when it is
done. The clock moves only when nothing else can go on, and then to the next time that anything
waits for.

- `Schedule.Pool`    : the world and the work in the background;
- `Schedule.settle`  : run the background as far as it goes;
- `Schedule.run`     : run work in the foreground;
- `Schedule.advance` : let time pass.
-/

namespace Testbench
namespace Schedule

/-- A world with suspended background work, the oldest first. -/
structure Pool where
  world : World
  tasks : List (Work Unit)

/-- Rounds that one run may take. -/
def roundLimit : Nat := 1000000

/-- The work of a job. What fails in the background is not told to anybody. -/
def workOf : Job → Work Unit
  | .settleTooltips nodes => Listing.settle nodes
  | .setUp id => do
    let _ ← (Project.setUp id).run

/-- Take up the jobs that were sent to the background. -/
def Pool.takeUp (p : Pool) : Pool where
  world := { p.world with jobs := [] }
  tasks := p.tasks ++ p.world.jobs.map workOf

/-- Poll each task once, and drop those that are done. -/
def pollEach : List (Work Unit) → World → List (Work Unit) × World
  | [], w => ([], w)
  | task :: rest, w =>
    let (task, w) := task.poll World.isReady w
    let (rest, w) := pollEach rest w
    (if task.isDone then rest else task :: rest, w)

def Pool.canRun (p : Pool) : Bool := p.tasks.any fun task => task.canRun World.isReady p.world

/-- Run the background until all of it waits for the clock. -/
def settleFor : Nat → Pool → Pool
  | 0, p => p
  | rounds + 1, p =>
    let p := p.takeUp
    if p.canRun then
      let (tasks, w) := pollEach p.tasks p.world
      settleFor rounds ⟨w, tasks⟩
    else p

def settle (p : Pool) : Pool := settleFor roundLimit p

/-! ## The clock -/

/-- The time that one wait is over. -/
def dueOf : Wait → Option Nat
  | .until due => due
  | .dialog | .turn .. | .idle => none

/-- The earliest of the times in waits and of the next flush. -/
def nextDue (w : World) (waits : List Wait) : Option Nat :=
  ((w.flusher.map (·.next)).toList ++ waits.filterMap dueOf).min?

/-- Set the clock; flush the cache if it is time. -/
def setClock (time : Nat) : Act Unit := do
  modify fun w => { w with now := time }
  match (← Act.world).flusher with
  | some flusher =>
    if flusher.next ≤ time then
      let _ ← Caching.flush
      modify fun w =>
        { w with flusher := some { flusher with next := flusher.next + flusher.period } }
  | none => pure ()

def Pool.moveTo (p : Pool) (time : Nat) : Pool :=
  { p with world := ((setClock time).run p.world).2 }

def Pool.waits (p : Pool) : List Wait := p.tasks.flatMap Task.waits

/-! ## Running -/

/-- Run work until it is done; `none` if it waits for ever. -/
def runFor {α : Type} : Nat → Work α → Pool → Option α × Pool
  | 0, _, p => (none, p)
  | rounds + 1, work, p =>
    let (work, w) := work.poll World.isReady p.world
    let p := settle { p with world := w }
    match work.result? with
    | some a => (some a, p)
    | none =>
      if work.canRun World.isReady p.world then runFor rounds work p
      else match nextDue p.world (work.waits ++ p.waits) with
        | some time => runFor rounds work (p.moveTo time)
        | none => (none, p)

/-- Run work in the foreground, and the background as far as it goes. -/
def run {α : Type} (work : Work α) (p : Pool) : Option α × Pool := runFor roundLimit work p

def advanceFor (target : Nat) : Nat → Pool → Pool
  | 0, p => p
  | rounds + 1, p =>
    let p := settle p
    match (nextDue p.world p.waits).filter (· ≤ target) with
    | some time => advanceFor target rounds (p.moveTo time)
    | none => settle (p.moveTo target)

/-- Let time pass. -/
def advance (millis : Nat) (p : Pool) : Pool :=
  advanceFor (p.world.now + millis) roundLimit p

end Schedule
end Testbench
