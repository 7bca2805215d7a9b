import Testbench.Proofs.Environment.Completion
import Testbench.Proofs.Environment.Switching

/-!
# Knowing — operations on an environment, one after another

Whatever operations are completed on an environment, it is not left in the middle of being made, and
an operation that settles on an environment has put it down, as the settings name it. There is one
exception: to see to it that an environment is in use it is enough that the interpreter belongs to
some environment, and then which one is not put down.

- `Operation.Settles` : an operation has set or confirmed an environment;
- `Completed`         : an operation that was run to its end;
- `History`           : some operations that were, with what others did in between;
- `History.knows`     : what is known after them.
-/

namespace Testbench
namespace Environment

open Testbench.Task (Ran Step)

/-! ## One operation -/

namespace Operation

variable {α β : Type}

/-- An operation is a certain one. -/
def Is (op : Operation α) (op' : Operation β) : Prop := (⟨α, op⟩ : Sigma Operation) = ⟨β, op'⟩

/-- An environment was set or confirmed. Nothing is seen to while the questions are suppressed. -/
def Settles : {α : Type} → Operation α → α → List (Ran World) → Prop
  | _, .adopt _, .ok _, _ => True
  | _, .switch, .ok got, _ => got = true
  | _, .create, .ok got, _ => got = true
  | _, .ensure, .ok _, log => ∀ x, log.head? = some x → x.before.suppressed = false
  | _, .settingsChanged, _, _ => True
  | _, _, _, _ => False

section

variable {id : ProjectId} {v : View} {op : Operation α} {a : α} {log : List (Ran World)}
  {s s' : State}

/-- The environment in use is known, or one was seen, or it is the same as before, or there is
none. -/
theorem Post.cases (h : op.Post id v s a log s') :
    Knows id log s' ∨ (op.Is .ensure ∧ Confirms v s log s') ∨ s.Like s' ∨ s'.phase = .outside := by
  have hgot : ∀ {answer}, Got id s answer log s' →
      Knows id log s' ∨ s.Like s' ∨ s'.phase = .outside := by
    intro answer hanswer
    match answer, hanswer with
    | .ok true, hknows => exact .inl hknows
    | .ok false, hlike => exact .inr (.inl hlike)
    | .error _, hfailed => exact .inr hfailed
  -- What each operation comes to, answer by answer.
  cases op with
  | adopt name =>
      match a, h with
      | .ok _, hknows => exact .inl hknows
      | .error _, hlike => exact .inr (.inr (.inl hlike))
  | switch => exact (hgot h).imp_right .inr
  | create => exact (hgot h).imp_right .inr
  | ensure =>
      match a, h with
      | .ok _, .inl hskips => exact .inr (.inr (.inl hskips.2))
      | .ok _, .inr (.inl hconfirms) => exact .inr (.inl ⟨rfl, hconfirms⟩)
      | .ok _, .inr (.inr (.inl hknows)) => exact .inl hknows
      | .ok _, .inr (.inr (.inr hout)) => exact .inr (.inr (.inr hout))
      | .error _, hfailed => exact .inr (.inr hfailed)
  | settingsChanged =>
      rcases h with hknows | hout | ⟨-, -, hlike⟩
      · exact .inl hknows
      · exact .inr (.inr (.inr hout))
      · exact .inr (.inr (.inl hlike))
  | deactivate => exact .inr (.inr (.inr h))
  | checkTool | checkRequirements | requirementsChanged | activate | prependPath | install =>
      exact .inr (.inr (.inl h))

/-- An operation that settles on an environment knows it or saw one, or there is none in use. -/
theorem Post.settled (h : op.Post id v s a log s') (hsettles : op.Settles a log) :
    Knows id log s' ∨ (op.Is .ensure ∧ Confirms v s log s') ∨
      (op.Is .settingsChanged ∧ s'.env = none) ∨ s'.phase = .outside := by
  cases op with
  | adopt name =>
      match a, h, hsettles with
      | .ok _, hknows, _ => exact .inl hknows
  | switch =>
      match a, h, hsettles with
      | .ok true, hknows, _ => exact .inl hknows
  | create =>
      match a, h, hsettles with
      | .ok true, hknows, _ => exact .inl hknows
  | ensure =>
      match a, h, hsettles with
      | .ok _, .inl ⟨⟨x, hx, hsuppressed⟩, _⟩, hasked =>
          -- It did not settle on anything: the questions were suppressed when it began.
          exact absurd hsuppressed (by simp [hasked x hx])
      | .ok _, .inr (.inl hconfirms), _ => exact .inr (.inl ⟨rfl, hconfirms⟩)
      | .ok _, .inr (.inr (.inl hknows)), _ => exact .inl hknows
      | .ok _, .inr (.inr (.inr hout)), _ => exact .inr (.inr (.inr hout))
  | settingsChanged =>
      rcases h with hknows | hout | ⟨-, hnone, hlike⟩
      · exact .inl hknows
      · exact .inr (.inr (.inr hout))
      · exact .inr (.inr (.inl ⟨rfl, hlike.env.trans hnone⟩))
  | deactivate | checkTool | checkRequirements | requirementsChanged | activate | prependPath
  | install => exact hsettles.elim

end

end Operation

/-! ## One operation after another -/

/-- An operation that was run to its end, with what was done until then. -/
structure Completed where
  {Answer : Type}
  op : Operation Answer
  answer : Answer
  log : List (Ran World)
  before : State
  after : State

/-- An environment was seen, and which one was not put down. -/
def Completed.Confirms (v : View) (c : Completed) : Prop :=
  c.op.Is .ensure ∧ Environment.Confirms v c.before c.log c.after

/-- Operations on the environment of a project were completed. Before, in between and meanwhile
others may change everything but what is known of the project. -/
inductive History (id : ProjectId) (w₀ : World) : List Completed → World → Prop where
  | start : History id w₀ [] w₀
  | other {past : List Completed} {w w' : World} :
      History id w₀ past w → view? id w' = view? id w → History id w₀ past w'
  | op {past : List Completed} {w w' : World} {α : Type} {log : List (Ran World)} {a : α}
      (op : Operation α) : History id w₀ past w → Completes id (op.task id) w log a w' →
        History id w₀ (past ++ [⟨op, a, log, (w.project id).env, (w'.project id).env⟩]) w'

/-- What is known of the environment once an operation that settled on it was completed. -/
def Completed.Known (id : ProjectId) (v : View) (c : Completed) : Prop :=
  Knows id c.log c.after ∨ c.Confirms v ∨ (c.op.Is .settingsChanged ∧ c.after.env = none)

section

variable {id : ProjectId} {v : View} {w₀ w w' : World} {past : List Completed}

/-- What holds after each operation. -/
structure Sound (id : ProjectId) (v : View) (past : List Completed) (w : World) (s : State) :
    Prop where
  view : view? id w = some { v with state := s }
  phase : s.phase ≠ .initializing
  used : s.phase = .inside → s.env = none → ∃ c ∈ past, c.Confirms v ∧ c.after.env = none
  known : ∀ c ∈ past, c.after.phase ≠ .initializing ∧
    (c.op.Settles c.answer c.log → c.after.phase = .inside → c.Known id v)

theorem Sound.start (hview : view? id w = some v) (hfresh : v.state = .initial) :
    Sound id v [] w .initial where
  view := by rw [hview, ← hfresh]
  phase := by decide
  used := fun hphase => nomatch hphase
  known := by simp

/-- One more operation. -/
theorem Sound.op {s : State} {α : Type} {op : Operation α} {log : List (Ran World)} {a : α}
    (h : Sound id v past w s) (hroot : v.root.isAbsolute = true)
    (hrun : Completes id (op.task id) w log a w') :
    ∃ s', Sound id v (past ++ [⟨op, a, log, (w.project id).env, (w'.project id).env⟩]) w' s' := by
  rcases (op.comes hroot s).of_completes hrun h.view with ⟨s', hview, hpost⟩
  rw [List.nil_append] at hpost
  rw [state_eq h.view, state_eq hview]
  -- Only `create` begins to make an environment, and it says how that ended before it answers.
  have hphase : s'.phase ≠ .initializing := by
    rcases hpost.cases with ⟨_, _, _, _, hinside, _⟩ | ⟨_, _, _, hinside⟩ | hlike | hout
    · rw [hinside]; decide
    · rw [hinside]; decide
    · rw [hlike.phase]; exact h.phase
    · rw [hout]; decide
  refine ⟨s', hview, hphase, fun hinside hnone => ?_, fun c hc => ?_⟩
  · rcases hpost.cases with ⟨_, _, env, hsome, _⟩ | ⟨hensure, hconfirms⟩ | hlike | hout
    · exact absurd (hsome.symm.trans hnone) (by simp)
    · exact ⟨_, List.mem_append_right _ (List.mem_singleton_self _), ⟨hensure, hconfirms⟩, hnone⟩
    · rcases h.used (hlike.phase.symm.trans hinside) (hlike.env.symm.trans hnone) with ⟨c, hc, hold⟩
      exact ⟨c, List.mem_append_left _ hc, hold⟩
    · exact absurd (hout.symm.trans hinside) (by decide)
  · rcases List.mem_append.1 hc with hold | hnew
    · exact h.known c hold
    · rw [List.mem_singleton.1 hnew]
      refine ⟨hphase, fun hsettles hinside => ?_⟩
      rcases hpost.settled hsettles with hknows | hconfirms | hnone | hout
      · exact .inl hknows
      · exact .inr (.inl hconfirms)
      · exact .inr (.inr hnone)
      · exact absurd (hout.symm.trans hinside) (by decide)

/-- A history keeps the environment sound. -/
theorem History.sound (h : History id w₀ past w) (hview : view? id w₀ = some v)
    (hroot : v.root.isAbsolute = true) (hfresh : v.state = .initial) :
    ∃ s, Sound id v past w s := by
  induction h with
  | start => exact ⟨_, .start hview hfresh⟩
  | other _ hsame ih =>
      rcases ih with ⟨s, hs⟩
      exact ⟨s, { hs with view := hsame.trans hs.view }⟩
  | op op _ hrun ih =>
      rcases ih with ⟨s, hs⟩
      exact hs.op hroot hrun

/-- Whatever operations are completed on an environment, it is never left in the middle of being
made. An operation that settles on an environment and is inside afterwards has put it down, as the
settings name it, unless it saw one only, or the settings name none. To be inside with none put down
takes an earlier operation that saw one. What is put down is what the terminal enters. -/
theorem History.knows (h : History id w₀ past w) (hview : view? id w₀ = some v)
    (hroot : v.root.isAbsolute = true) (hfresh : v.state = .initial) :
    ∃ s, view? id w = some { v with state := s } ∧ s.phase ≠ .initializing ∧
      Does v (activate id) w () w (entering s.env) ∧
      (s.phase = .inside → s.env = none → ∃ c ∈ past, c.Confirms v ∧ c.after.env = none) ∧
      ∀ c ∈ past, c.after.phase ≠ .initializing ∧
        (c.op.Settles c.answer c.log → c.after.phase = .inside → c.Known id v) := by
  rcases h.sound hview hroot hfresh with ⟨s, hs⟩
  exact ⟨s, hs.view, hs.phase, (does_activate hs.view).of_state, hs.used, hs.known⟩

end

/-- An environment is adopted: it is put down, as the settings name it. -/
theorem knows_adopted : ∃ c, History 0 Switching.furnished [c] Switching.adopted ∧
    c.op.Settles c.answer c.log ∧ c.after.phase = .inside ∧ Knows 0 c.log c.after := by
  have hanswer : ((adopt 0 "a").run Switching.furnished).1 = .ok () := by decide +kernel
  have hphase : (Switching.adopted.project 0).env.phase = .inside := by decide +kernel
  have henv : (Switching.adopted.project 0).env.env = some ⟨"/p/a"⟩ := by decide +kernel
  have hhistory : History 0 Switching.furnished _ Switching.adopted :=
    .op (.adopt "a") .start (.step (.act _ _ _) (.done _ _))
  have hsettles : ∀ log,
      (Operation.adopt "a").Settles ((adopt 0 "a").run Switching.furnished).1 log :=
    fun log => hanswer ▸ trivial
  rcases hhistory.knows rfl (by decide) rfl with ⟨_, _, _, _, _, hknown⟩
  refine ⟨_, hhistory, hsettles _, hphase, ?_⟩
  rcases (hknown _ (List.mem_singleton_self _)).2 (hsettles _) hphase with
    hknows | ⟨hensure, _⟩ | ⟨_, hnone⟩
  · exact hknows
  · exact nomatch hensure
  · exact absurd (henv.symm.trans hnone) (by simp)

section

variable {id : ProjectId} {v : View}

/-! ## An environment that is only seen -/

/-- What is left to do once an environment was seen. -/
def sighted (id : ProjectId) : Attempt Unit := do
  setPhase id .inside
  ensureRequirements id

/-- An environment that is seen is not put down, whichever is in use so far. -/
theorem exists_confirms {w : World} (hview : view? id w = some v) (hasked : w.suppressed = false)
    (hinside : isInside w v.root = true) :
    ∃ log w' s', Completes id (ensure id).run w (⟨w, World, Act.world.run⟩ :: log) (.ok ()) w' ∧
      view? id w' = some { v with state := s' } ∧ s'.env = v.state.env ∧ s'.phase = .inside := by
  have hnext : ∀ other : Attempt Unit,
      (if w.suppressed then pure () else if isInside w (w.root id) then sighted id else other) =
        sighted id := by
    intro other
    rw [if_neg (by simp [hasked]), if_pos (by rwa [root_eq hview])]
  have hcomes : Comes id v (sighted id).run
      (fun answer _ s' => answer = .ok () ∧ s'.env = v.state.env ∧ s'.phase = .inside) [] v.state :=
    .update fun _ => .last minor_ensureRequirements fun _ _ _ _ hlike =>
      ⟨rfl, hlike.env, hlike.phase⟩
  have hbuilt : IsBuilt id (sighted id).run :=
    all_first (fun _ => .note fun _ => rfl) fun _ => all_liftM minor_ensureRequirements.isBuilt
  rcases Completes.exists_of_all hbuilt w with ⟨log, a, w', hrun⟩
  rcases hcomes.of_completes hrun hview with ⟨s', hview', ha, henv, hphase⟩
  rw [ha, ← hnext] at hrun
  exact ⟨log, w', s', .step (.act _ _ w) hrun, hview', henv, hphase⟩

end

namespace Knowing

/-- A project whose settings name an environment that is there. -/
def reopened : World :=
  { Switching.furnished with
    files := (naming Switching.furnished ⟨⟨"/p"⟩, .unix, .initial⟩ ⟨"/p/a"⟩).2 }

/-- The environment that the settings name is seen, and none is put down. -/
theorem not_knows_reopened : ∃ c w, History 0 reopened [c] w ∧ c.op.Settles c.answer c.log ∧
    (∃ x ∈ c.log, twoUp (interpreter x.after ⟨"/p"⟩) = some ⟨"/p/a"⟩) ∧
    c.after.phase = .inside ∧ c.after.env = none ∧ ¬Knows 0 c.log c.after := by
  rcases exists_confirms (show view? 0 reopened = some ⟨⟨"/p"⟩, .unix, .initial⟩ from rfl) rfl
    (by decide +kernel) with ⟨log, w, s, hrun, hview, henv, hphase⟩
  have hhistory : History 0 reopened _ w := .op .ensure .start hrun
  rw [state_eq hview] at hhistory
  refine ⟨_, w, hhistory, ?_, ⟨_, List.mem_cons_self .., ?_⟩, hphase, henv, ?_⟩
  · intro x hx
    rw [← Option.some.inj hx]
    rfl
  · decide +kernel
  · rintro ⟨_, _, env, hsome, _⟩
    exact absurd (hsome.symm.trans henv) (by simp [Environment.State.initial])

end Knowing

end Environment
end Testbench
