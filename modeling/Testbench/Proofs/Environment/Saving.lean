import Testbench.Proofs.World
import Testbench.Proofs.Environment.Operations

/-!
# Saving — seeing to an environment saves no file

Files that a person edits are saved by the host when it is asked to. Nothing that is done for the
environment of a project asks for that.

- `Host.saves`       : the files that a host was asked to save;
- `Act.Saveless`     : an act asks for none;
- `Environment.saveless_ensure` : no step of seeing to an environment does.
-/

namespace Testbench

open Testbench.Task (Ran)

/-! ## Files that are saved -/

namespace Host

def Event.savedFile? : Event → Option Path
  | .saved file => some file
  | _ => none

/-- What a host was asked to save so far. A console has nothing to save. -/
def saves : Host → List Path
  | .recorder r => r.events.filterMap Event.savedFile?
  | .console _ => []

theorem Recorder.saves_record (r : Recorder) {event : Event} (h : event.savedFile? = none) :
    (r.record event).events.filterMap Event.savedFile? = r.events.filterMap Event.savedFile? := by
  rw [record, List.filterMap_append, List.filterMap_cons_none h, List.filterMap_nil,
    List.append_nil]

theorem saves_tell (host : Host) {event : Event} (h : event.savedFile? = none)
    (change : Console → Console) : (host.tell event change).saves = host.saves := by
  cases host with
  | recorder r => exact r.saves_record h
  | console c => rfl

theorem saves_prompt (host : Host) (message : String) (choices : Choices) :
    (host.prompt message choices).2.saves = host.saves := by
  cases host with
  | recorder r =>
      have htaken : (r.record (.prompt message)).takePrompt.2.events =
          (r.record (.prompt message)).events := by
        unfold Recorder.takePrompt
        split <;> rfl
      exact (congrArg (List.filterMap _) htaken).trans (r.saves_record rfl)
  | console c => rfl

theorem saves_pick (host : Host) (message : String) (items : List String) :
    (host.pick message items).2.saves = host.saves := by
  cases host with
  | recorder r =>
      have htaken : (r.record (.pick items)).takePick.2.events =
          (r.record (.pick items)).events := by
        unfold Recorder.takePick
        split <;> rfl
      exact (congrArg (List.filterMap _) htaken).trans (r.saves_record rfl)
  | console c => rfl

theorem saves_input (host : Host) (message default : String) (complaint : String → Option String) :
    (host.input message default complaint).2.saves = host.saves := by
  cases host with
  | recorder r =>
      have htaken : (r.record (.input message)).takeInput.2.events =
          (r.record (.input message)).events := by
        unfold Recorder.takeInput
        split <;> rfl
      have hasked := (congrArg (List.filterMap Event.savedFile?) htaken).trans (r.saves_record rfl)
      unfold input
      dsimp only
      split
      · exact (Recorder.saves_record _ rfl).trans hasked
      · exact hasked
  | console c => rfl

theorem saves_send (host : Host) (name line : String) :
    (host.send name line).saves = host.saves := by
  cases host with
  | recorder r => rfl
  | console c => rfl

theorem saves_showTerminal (host : Host) (files : FileTree) (name : String) :
    (host.showTerminal files name).saves = host.saves := by
  cases host with
  | recorder r => rfl
  | console c => rfl

/-- Messages to a person save nothing. -/
theorem saves_showError (host : Host) (message : String) :
    (host.showError message).saves = host.saves := host.saves_tell rfl _

theorem saves_updateStatus (host : Host) (text : String) :
    (host.updateStatus text).saves = host.saves := host.saves_tell rfl _

end Host

/-- An act that asks the host to save nothing. -/
abbrev Act.Saveless {α : Type} (m : Act α) : Prop := m.Keeps (·.host.saves)

/-- A step that asks the host to save nothing. -/
def Task.Ran.IsSaveless (x : Ran World) : Prop := x.after.host.saves = x.before.host.saves

namespace Environment

open Testbench.Act.Keeps (bind world change tell ask onFiles)

section

variable (id : ProjectId)

/-! ## Acts -/

theorem saveless_state : (state id).Saveless := fun _ => rfl

theorem saveless_rootOf : (rootOf id).Saveless := fun _ => rfl

theorem saveless_update (f : State → State) : (update id f).Saveless := change fun _ => rfl

theorem saveless_send (line : String) : (send id line).Saveless :=
  (saveless_rootOf id).bind fun _ => tell fun w => w.host.saves_send _ line

theorem saveless_showError (message : String) : (Act.tell (Host.showError message)).Saveless :=
  tell fun w => w.host.saves_showError message

theorem saveless_updateStatus (text : String) : (Act.tell (Host.updateStatus text)).Saveless :=
  tell fun w => w.host.saves_updateStatus text

theorem saveless_activate : (activate id).Saveless := by
  refine (saveless_state id).bind fun s => ?_
  split
  · exact world.bind fun w => saveless_send id _
  · exact .pure ()

theorem saveless_enter (env : Path) : (enter id env).Saveless :=
  (saveless_update id _).bind fun _ => saveless_activate id

theorem saveless_nameInterpreter (env : Path) : (nameInterpreter id env).Saveless :=
  world.bind fun _ => onFiles fun _ _ => rfl

theorem saveless_install : (install id).Saveless := by
  refine world.bind fun w => ?_
  dsimp only
  split
  · exact saveless_send id _
  · exact .pure ()

theorem saveless_adopt (name : String) : (adopt id name).Saveless := by
  refine (saveless_rootOf id).bind fun root => ?_
  refine (saveless_nameInterpreter id _).bind fun named => ?_
  cases named with
  | error cause => exact .pure _
  | ok _ => exact (saveless_enter id _).bind fun _ => .pure _

theorem saveless_makeEnv (folder : String) : (makeEnv id folder).Saveless := by
  refine world.bind fun w => ?_
  refine (saveless_send id _).bind fun _ => (saveless_nameInterpreter id _).bind fun named => ?_
  cases named with
  | error cause =>
      exact (saveless_showError _).bind fun _ => (saveless_update id _).bind fun _ => .pure _
  | ok _ => exact (saveless_enter id _).bind fun _ => .pure _

theorem saveless_concludeTool (command : String) (outcome : Except Error Outcome) :
    (concludeTool id command outcome).Saveless := by
  have hmissing : ∀ failure : String, Act.Saveless (do
      Act.tell (Host.updateStatus ("virtualenv not installed: " ++ Text.trim failure))
      let told := (← state id).toolChecked
      update id fun s => { s with toolChecked := true }
      if !told then Act.tell (Host.showError notInstalledMessage)
      pure (.error (.tool command (Text.trim failure))) : Act (Except Error Unit)) := by
    intro failure
    refine (saveless_updateStatus _).bind fun _ => (saveless_state id).bind fun s =>
      (saveless_update id _).bind fun _ => ?_
    split
    · exact (saveless_showError _).bind fun _ => .pure _
    · exact .pure _
  -- A run that could not be started and one that failed end in the same message.
  unfold concludeTool
  dsimp only
  split
  · exact hmissing _
  · split
    · exact hmissing _
    · split
      · exact (saveless_update id _).bind fun _ => (saveless_updateStatus _).bind fun _ => .pure _
      · exact (saveless_showError _).bind fun _ => .pure _

end

/-! ## Steps -/

/-- Every step of a task asks the host to save nothing. -/
abbrev IsSaveless {α : Type} (t : Work α) : Prop := t.All Task.Ran.IsSaveless

section

variable {id : ProjectId} {α : Type}

theorem saveless_world : Act.world.Saveless := world

theorem saveless_suppress : suppress.Saveless := change fun _ => rfl

theorem saveless_lift {m : Act α} (hm : m.Saveless) : IsSaveless (Task.lift m : Work α) :=
  all_lift fun w => hm w

theorem saveless_act {β : Type} {m : Act α} {next : α → Work β} (hm : m.Saveless)
    (hnext : ∀ a, IsSaveless (next a)) : IsSaveless (.act m.run next : Work β) :=
  all_act (fun w => hm w) hnext

theorem saveless_first {β : Type} {m : Act α} {f : α → Attempt β} (hm : m.Saveless)
    (hf : ∀ a, IsSaveless (f a).run) : IsSaveless ((liftM m : Attempt α) >>= f).run :=
  all_first (fun w => hm w) hf

theorem saveless_ofAct {m : Act (Except Error α)} (hm : m.Saveless) :
    IsSaveless (Attempt.ofAct m).run :=
  saveless_lift hm

theorem saveless_pause (v : Wait) : IsSaveless (Task.pause v : Work Unit) :=
  ⟨fun _ => rfl, trivial⟩

theorem saveless_question {m : Act α} (hm : m.Saveless) (v : Wait) :
    IsSaveless (.act m.run fun a => (Task.pause v).bind fun _ => .done a : Work α) :=
  saveless_act hm fun _ => (saveless_pause v).bind fun _ => trivial

theorem saveless_prompt (message : String) (choices : Host.Choices) :
    IsSaveless (Work.prompt message choices) :=
  saveless_question (ask fun w => w.host.saves_prompt message choices) .dialog

theorem saveless_pick (message : String) (items : List String) :
    IsSaveless (Work.pick message items) :=
  saveless_question (ask fun w => w.host.saves_pick message items) .dialog

theorem saveless_input (message default : String) (complaint : FileTree → String → Option String) :
    IsSaveless (Work.input message default complaint) :=
  saveless_act saveless_world fun w =>
    saveless_question
      (ask fun w' => w'.host.saves_input message default (complaint w.files)) .dialog

theorem saveless_selectInterpreter : IsSaveless Work.selectInterpreter := by
  have hselect : (Act.tell Host.selectInterpreter).Saveless := tell fun w => w.host.saves_tell rfl _
  exact saveless_act hselect fun _ => saveless_pause .dialog

theorem saveless_run (i : Invocation) : IsSaveless (Work.run i) := by
  have hlaunch : (Work.launch i).Saveless := fun w => by
    rcases w with ⟨files, now, host, runner, setup, cache, suppressed, projects, registry, listing,
      lenses, jobs, nextTicket, flusher⟩
    cases runner <;> rfl
  exact saveless_act hlaunch fun started =>
    (saveless_pause (.until started.2)).bind fun _ => trivial

theorem saveless_checkTool : IsSaveless (checkTool id).run :=
  saveless_first saveless_world fun _ =>
    all_bind (all_ofWork (saveless_run _)) fun _ => saveless_ofAct (saveless_concludeTool id _ _)

theorem saveless_checkRequirements : IsSaveless (checkRequirements id) := by
  refine Task.All.bind ?_ fun status => saveless_act (saveless_update id _) fun _ => trivial
  refine saveless_act saveless_world fun w => ?_
  dsimp only [Task.bind]
  split
  · trivial
  · exact (saveless_run _).bind fun _ => trivial

theorem saveless_ensureRequirements : IsSaveless (ensureRequirements id) := by
  refine saveless_checkRequirements.bind fun status => ?_
  cases status with
  | unsatisfied =>
      refine (saveless_prompt _ _).bind fun answer => ?_
      cases answer with
      | yes => exact saveless_lift (saveless_install id)
      | suppress => exact saveless_lift saveless_suppress
      | no | dismissed => trivial
  | satisfied | unknown => trivial

theorem saveless_create : IsSaveless (create id).run := by
  refine saveless_first (saveless_state id) fun s => ?_
  split
  · trivial
  · refine saveless_first saveless_world fun w => ?_
    refine all_bind (all_liftM (saveless_input _ _ _)) fun answer => ?_
    cases answer with
    | none => trivial
    | some folder =>
        refine saveless_first (saveless_update id _) fun _ => ?_
        refine all_bind (all_liftM saveless_selectInterpreter) fun _ => ?_
        refine all_bind (all_catch saveless_checkTool fun cause => ?_) fun _ => ?_
        · exact saveless_first (saveless_update id _) fun _ => trivial
        · exact all_bind (saveless_ofAct (saveless_makeEnv id folder)) fun _ => trivial

theorem saveless_switchTo (names : List String) : IsSaveless (switchTo id names).run := by
  unfold switchTo
  split
  · exact saveless_create
  · exact all_bind (saveless_ofAct (saveless_adopt id _)) fun _ => trivial
  · refine all_bind (all_liftM (saveless_pick _ _)) fun picked => ?_
    cases picked with
    | none => trivial
    | some name =>
        dsimp only
        split
        · exact all_bind (saveless_ofAct (saveless_adopt id name)) fun _ => trivial
        · trivial

theorem saveless_switch : IsSaveless (switch id).run := by
  refine saveless_first saveless_world fun w => ?_
  refine all_bind (all_liftM (saveless_prompt _ _)) fun answer => ?_
  cases answer with
  | yes => exact saveless_switchTo _
  | suppress => exact saveless_first saveless_suppress fun _ => trivial
  | no | dismissed => trivial

theorem saveless_ensure : IsSaveless (ensure id).run := by
  unfold ensure
  refine saveless_first saveless_world fun w => ?_
  cases w.suppressed with
  | true => trivial
  | false =>
      rw [if_neg Bool.false_ne_true]
      cases isInside w (w.root id) with
      | true =>
          exact saveless_first (saveless_update id _) fun _ => all_liftM saveless_ensureRequirements
      | false =>
          refine all_bind saveless_switch fun switched => ?_
          cases switched with
          | true =>
              exact saveless_first (saveless_update id _) fun _ =>
                all_liftM saveless_ensureRequirements
          | false => exact saveless_act (saveless_update id _) fun _ => trivial

end

end Environment
end Testbench
