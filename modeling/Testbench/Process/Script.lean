import Testbench.Invocation
import Testbench.Text.Split

/-!
# Script — prepared answers to invocations

Of the rules whose text is part of the shell command, the latest gives the answer. Delays are chosen
the same way.

- `Reply`  : what an invocation comes to;
- `Script` : the rules, the delays and the invocations so far.
-/

namespace Testbench

inductive Reply where
  | outcome (o : Outcome)
  /-- The program cannot be started. -/
  | failure (message : String)

/-- Rules and delays, the latest first; calls in order. -/
structure Script where
  rules : List (String × Reply)
  /-- Milliseconds; `none` is for ever. -/
  delays : List (String × Option Nat)
  calls : List Invocation

namespace Script

def empty : Script := ⟨[], [], []⟩

def addRule (s : Script) (part : String) (reply : Reply) : Script :=
  { s with rules := (part, reply) :: s.rules }

def addDelay (s : Script) (part : String) (delay : Option Nat) : Script :=
  { s with delays := (part, delay) :: s.delays }

/-- The first entry whose text is part of a command. -/
def choose? {α : Type} (entries : List (String × α)) (command : String) : Option α :=
  (entries.find? fun e => Text.contains command.toList e.1.toList).map (·.2)

/-- What an invocation comes to. -/
def reply (s : Script) (i : Invocation) : Except String Outcome :=
  match choose? s.rules i.shellCommand with
  | some (.outcome o) => .ok o
  | some (.failure message) => .error message
  | none => .error "no scripted response"

/-- When an invocation that starts now is answered. -/
def due (s : Script) (now : Nat) (i : Invocation) : Option Nat :=
  match choose? s.delays i.shellCommand with
  | some delay => delay.map (now + ·)
  | none => some now

def record (s : Script) (i : Invocation) : Script := { s with calls := s.calls ++ [i] }

/-- How many calls a text is part of. -/
def callCount (s : Script) (part : String) : Nat :=
  (s.calls.filter fun i => Text.contains i.shellCommand.toList part.toList).length

end Script
end Testbench
