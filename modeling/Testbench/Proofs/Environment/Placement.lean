import Testbench.Proofs.Environment.Completion
import Testbench.Proofs.Environment.Switching
import Testbench.Proofs.Path.Folding
import Testbench.Proofs.World

/-!
# Placement — where a new environment is made

A new environment is made in a folder whose name a person entered. What speaks against the name is
looked for under the name as it was entered, and the environment is made under the name without the
blanks around it. So the two are the same place only if there are no such blanks; and what steps up
in the name, or starts it with a slash, leads out of the project.

- `Accepts`          : a name that was entered and accepted;
- `Quiet`, `Sent`    : steps that send nothing, and what some steps sent;
- `makes_create`     : making an environment, from its beginning to its end;
- `made_where_accepted` : where it is made, and what is known of the place;
- `made_elsewhere`   : over a folder that exists, and beside the project.
-/

namespace Testbench

open Testbench.Task (Plays Ran)

/-- What is answered drew no complaint. -/
theorem Host.complaint_of_input {message default s : String} {complaint : String → Option String}
    {host : Host} (h : (host.input message default complaint).1 = some s) : complaint s = none := by
  cases host with
  | recorder r =>
      rcases htaken : (r.record (.input message)).takeInput with ⟨answer, r₁⟩
      simp only [input, htaken] at h
      -- A recorded answer that draws a complaint is not given.
      cases hcomplaint : answer.bind complaint with
      | some text => simp [hcomplaint] at h
      | none =>
          have hanswer : answer = some s := by simpa [hcomplaint] using h
          rwa [hanswer] at hcomplaint
  | console c =>
      replace h : (c.input message default complaint).1 = some s := h
      unfold Console.input at h
      split at h
      · split at h
        · cases h
        · rename_i hnone
          rwa [← Option.some.inj h]
      · cases h

namespace Environment

/-! ## Names that are accepted -/

/-- A name for the folder of a new environment is entered, and nothing speaks against it. -/
def Accepts (v : View) (w : World) (folder : String) : Prop :=
  (w.host.input Creation.folderMessage w.setup.config.envDirName
    (folderComplaint v.root w.files)).1 = some folder

theorem Accepts.exists?_eq_false {v : View} {w : World} {folder : String} (h : Accepts v w folder) :
    w.files.exists? (v.root.joinText folder) = false := by
  have hnone := Host.complaint_of_input h
  unfold folderComplaint at hnone
  split at hnone
  · cases hnone
  · split at hnone
    · cases hnone
    · rename_i hfree
      exact Bool.eq_false_iff.2 hfree

/-! ## Steps that send nothing -/

/-- A step sends nothing to the terminal of a project, and keeps its root and its platform. -/
def Quiet (id : ProjectId) (x : Ran World) : Prop :=
  ∀ v, view? id x.before = some v →
    Sends v x [] ∧ ∃ s, view? id x.after = some { v with state := s }

/-- Others may do what they like, but the project keeps its root and its platform. -/
def Abides (id : ProjectId) (w w' : World) : Prop :=
  ∀ v, view? id w = some v → ∃ s, view? id w' = some { v with state := s }

section

variable {id : ProjectId} {v : View} {α : Type} {w w' : World} {log : List (Ran World)}

theorem Does.sends {m : Act α} {a : α} {lines : List Line} (h : Does v m w a w' lines) :
    Sends v ⟨w, α, m.run⟩ lines := h.fed

theorem quiet_mute {m : Act α} (hm : Mute id m) (w : World) : Quiet id ⟨w, α, m.run⟩ :=
  fun v hv => ⟨fun host => .of_terminals (hm.silent (w.withHost host)), v.state,
    (hm.view w).trans hv⟩

theorem quiet_update (f : State → State) (w : World) :
    Quiet id ⟨w, Unit, (update id f).run⟩ :=
  fun _ hv => ⟨(does_update f w).sends, _, view?_updateEnv_some hv f⟩

theorem quiet_concludeTool (command : String) (outcome : Except Error Outcome) (w : World) :
    Quiet id ⟨w, Except Error Unit, (concludeTool id command outcome).run⟩ := by
  intro v hv
  rcases does_concludeTool hv command outcome with ⟨a, checked, hdoes⟩
  exact ⟨hdoes.sends, _, hdoes.view.trans (view?_updateEnv_some hv _)⟩

theorem quiet_pause (wait : Wait) : (Task.pause wait : Work Unit).All (Quiet id) :=
  ⟨quiet_mute (mute_pure ()), trivial⟩

theorem quiet_selectInterpreter : Work.selectInterpreter.All (Quiet id) :=
  all_act (quiet_mute mute_selectInterpreter) fun _ => quiet_pause .dialog

theorem quiet_input (message default : String) (complaint : FileTree → String → Option String) :
    (Work.input message default complaint).All (Quiet id) :=
  all_act (quiet_mute mute_world) fun w =>
    all_act (quiet_mute (mute_input message default (complaint w.files))) fun _ =>
      (quiet_pause .dialog).bind fun _ => trivial

/-- Asking for the version of the tool, and leaving the phase if it is missing. -/
theorem quiet_checked : (tryCatch (checkTool id) fun cause => do
    setPhase id .outside
    throw cause).run.All (Quiet id) := by
  refine all_catch ?_ fun cause => all_first (quiet_update _) fun _ => trivial
  refine all_first (quiet_mute mute_world) fun w => all_bind (all_ofWork ?_) fun outcome =>
    all_lift (quiet_concludeTool _ outcome)
  exact all_act (quiet_mute (mute_launch _)) fun started =>
    (quiet_pause (.until started.2)).bind fun _ => trivial

/-- A task whose steps send nothing, played among others. -/
theorem Plays.quiet {t : Work α} {a : α} (h : Plays (Abides id) t w log a w')
    (ht : t.All (Quiet id)) (hview : view? id w = some v) :
    (∀ x ∈ log, Sends v x []) ∧ ∃ s, view? id w' = some { v with state := s } := by
  induction h generalizing v with
  | done => exact ⟨fun _ hx => absurd hx List.not_mem_nil, v.state, hview⟩
  | step hstep _ ih =>
      rcases Task.All.step ht hstep with ⟨hquiet, hnext⟩
      rcases hquiet v hview with ⟨hsends, s, hafter⟩
      rcases ih hnext hafter with ⟨hrest, hlast⟩
      exact ⟨List.forall_mem_cons.2 ⟨hsends, hrest⟩, hlast⟩
  | aside _ _ hbeside _ ih =>
      rcases hbeside v hview with ⟨s, hafter⟩
      rcases ih ht hafter with ⟨hsends, hlast⟩
      exact ⟨hsends, hlast⟩

end

/-- What some steps sent to the terminal of a project, one after another. -/
def Sent (v : View) (log : List (Ran World)) (lines : List Line) : Prop :=
  ∃ sent : List (List Line), List.Forall₂ (Sends v) log sent ∧ sent.flatten = lines

namespace Sent

variable {v : View} {log more : List (Ran World)} {lines : List Line}

theorem of_quiet (h : ∀ x ∈ log, Sends v x []) : Sent v log [] := by
  refine ⟨log.map fun _ => [], ?_, by simp⟩
  induction log with
  | nil => exact .nil
  | cons x rest ih =>
      rcases List.forall_mem_cons.1 h with ⟨hx, hrest⟩
      exact .cons hx (ih hrest)

/-- Only the last step sent something. -/
theorem of_last {x : Ran World} (h : ∀ x ∈ log, Sends v x []) (hx : Sends v x lines) :
    Sent v (log ++ [x]) lines := by
  rcases of_quiet h with ⟨sent, hsent, hnone⟩
  refine ⟨sent ++ [lines], List.rel_append hsent (.cons hx .nil), ?_⟩
  rw [List.flatten_append, hnone, List.flatten_singleton, List.nil_append]

end Sent

/-! ## Making an environment -/

section

variable {id : ProjectId} {v : View} {w w' : World} {log : List (Ran World)}

/-- A question for the folder is put before anybody else can do something, and is answered at
once. -/
theorem answer_input {message default : String} {complaint : FileTree → String → Option String}
    {answer : Option String}
    (h : Plays (Abides id) (Work.input message default complaint) w log answer w') :
    answer = (w.host.input message default (complaint w.files)).1 := by
  rcases Plays.of_act h with ⟨_, -, hasked⟩
  rcases Plays.of_act hasked with ⟨_, -, hwaits⟩
  rcases Plays.of_await hwaits with ⟨_, _, -, -, hdone⟩
  exact (Plays.of_done hdone).2.1

/-- Either nothing is sent and no environment is made, or the last step makes one. -/
def Makes (id : ProjectId) (v : View) (folder : String) (log : List (Ran World))
    (r : Except Error Bool) (w' : World) : Prop :=
  (r ≠ .ok true ∧ ∀ x ∈ log, Sends v x []) ∨
    ∃ idle w₁ s, (∀ x ∈ idle, Sends v x []) ∧ view? id w₁ = some { v with state := s } ∧
      log = idle ++ [⟨w₁, Except Error Unit, (makeEnv id folder).run⟩] ∧
      r = ((makeEnv id folder).run w₁).1.map (fun _ => true) ∧ w' = ((makeEnv id folder).run w₁).2

variable {folder : String} {front : List (Ran World)} {r : Except Error Bool}

theorem Makes.after (h : Makes id v folder log r w') (hfront : ∀ x ∈ front, Sends v x []) :
    Makes id v folder (front ++ log) r w' := by
  rcases h with ⟨hr, hquiet⟩ | ⟨idle, w₁, s, hidle, hview, rfl, hr, hw'⟩
  · exact .inl ⟨hr, List.forall_mem_append.2 ⟨hfront, hquiet⟩⟩
  · refine .inr ⟨front ++ idle, w₁, s, List.forall_mem_append.2 ⟨hfront, hidle⟩, hview, ?_, hr, hw'⟩
    rw [List.append_assoc]

theorem Makes.cons {x : Ran World} (h : Makes id v folder log r w') (hx : Sends v x []) :
    Makes id v folder (x :: log) r w' := by
  have hfront : ∀ y ∈ [x], Sends v y [] := fun y hy => List.mem_singleton.1 hy ▸ hx
  exact h.after hfront

/-- Once a name was accepted the tool is looked for, and then the environment is made. -/
theorem makes_folder (hview : view? id w = some v)
    (h : Plays (Abides id) (do
      update id fun s => { s with initialized := true, phase := .initializing }
      Work.selectInterpreter
      try checkTool id catch cause => do
        setPhase id .outside
        throw cause
      Attempt.ofAct (makeEnv id folder)
      pure true : Attempt Bool).run w log r w') : Makes id v folder log r w' := by
  rcases Attempt.plays_first h with ⟨rest, rfl, hnoted⟩
  rcases quiet_update _ w v hview with ⟨hnote, s₁, hview₁⟩
  refine Makes.cons ?_ hnote
  rcases Attempt.plays_ofWork hnoted with ⟨selected, rest, _, w₂, rfl, hselect, hrest⟩
  rcases Plays.quiet hselect quiet_selectInterpreter hview₁ with ⟨hselected, s₂, hview₂⟩
  refine Makes.after ?_ hselected
  rcases Attempt.plays_bind hrest with ⟨checked, rest, outcome, w₃, rfl, hcheck, hrest⟩
  rcases Plays.quiet hcheck quiet_checked hview₂ with ⟨hchecked, s₃, hview₃⟩
  refine Makes.after ?_ hchecked
  cases outcome with
  | error cause =>
      rcases hrest with ⟨rfl, rfl, -⟩
      exact .inl ⟨by simp, by simp⟩
  | ok _ =>
      -- The environment is made in one act, the last one, whether that succeeds or not.
      exact .inr ⟨[], w₃, s₃, by simp, hview₃, Attempt.plays_ofAct hrest⟩

theorem makes_create (hview : view? id w = some v)
    (h : Plays (Abides id) (create id).run w log r w') :
    (r ≠ .ok true ∧ ∀ x ∈ log, Sends v x []) ∨
      ∃ folder, Accepts v w folder ∧ Makes id v folder log r w' := by
  unfold create at h
  rcases Attempt.plays_first h with ⟨rest, rfl, hlooked⟩
  have hstate : Sends v ⟨w, State, (state id).run⟩ [] := (quiet_mute mute_state w v hview).1
  have hworld : Sends v ⟨w, World, Act.world.run⟩ [] := (quiet_mute mute_world w v hview).1
  replace hlooked : Plays (Abides id) _ w rest r w' := hlooked
  -- One is being made already, or nobody answers, or a name was accepted.
  split at hlooked
  · rcases Plays.of_done hlooked with ⟨rfl, rfl, -⟩
    exact .inl ⟨by simp, by simpa using hstate⟩
  · rcases Attempt.plays_look hlooked with ⟨rest, rfl, hasked⟩
    rcases Attempt.plays_ofWork hasked with ⟨asked, rest, answer, w₁, rfl, hinput, hrest⟩
    rcases Plays.quiet hinput (quiet_input _ _ _) hview with ⟨hquiet, s₁, hview₁⟩
    have hanswer := answer_input hinput
    rw [root_eq hview] at hanswer
    cases answer with
    | none =>
        rcases Plays.of_done hrest with ⟨rfl, rfl, -⟩
        exact .inl ⟨by simp, by simpa using ⟨hstate, hworld, hquiet⟩⟩
    | some folder =>
        have hmakes := makes_folder hview₁ hrest
        exact .inr ⟨folder, hanswer.symm, ((hmakes.after hquiet).cons hworld).cons hstate⟩

/-- Whatever a person enters, and whatever others do meanwhile: if a line that makes an environment
is sent, a name was accepted under which nothing was found, and the environment is made under that
name without the blanks around it. If there are none, nothing was there. If that name does not start
with a slash and steps nowhere above the root, the environment lies as deep below the root as the
name descends. And when the answer is yes, the interpreter of the same environment stands in the
settings, and the same environment was entered and is in use. -/
theorem made_where_accepted (hview : view? id w = some v)
    (h : Plays (Abides id) (create id).run w log r w') :
    (r ≠ .ok true ∧ Sent v log []) ∨
      ∃ folder python, Accepts v w folder ∧
        (Text.trim folder = folder → w.files.exists? (envIn v folder) = false) ∧
        (v.root.isAbsolute = true → (⟨Text.trim folder⟩ : Path).isAbsolute = false → ∀ depth,
          Path.descent 0 (FileTree.segmentsOf ⟨Text.trim folder⟩) = some depth →
            ∃ names : List String, names.length = depth ∧
              (envIn v folder).fold.components = v.root.fold.components ++ names.map .name) ∧
        ((∃ cause, r = .error cause) ∧ Sent v log [.make python (envIn v folder)] ∨
          r = .ok true ∧
            Sent v log [.make python (envIn v folder), .enter (envIn v folder)] ∧
            Settings.text? w'.files v.root Settings.pythonPathKey =
              some (v.platform.envPython (envIn v folder)).text ∧
            ∃ s, view? id w' = some { v with state := inside (envIn v folder) s }) := by
  rcases makes_create hview h with ⟨hr, hquiet⟩ | ⟨folder, haccepted, hmakes⟩
  · exact .inl ⟨hr, .of_quiet hquiet⟩
  rcases hmakes with ⟨hr, hquiet⟩ | ⟨idle, w₁, s, hidle, hview₁, rfl, hr, hw'⟩
  · exact .inl ⟨hr, .of_quiet hquiet⟩
  refine .inr ⟨folder, interpreter w₁ v.root, haccepted, fun htrim => ?_,
    fun hroot hrelative depth hdescent => ?_, ?_⟩
  · rw [envIn, htrim]
    exact haccepted.exists?_eq_false
  · exact Path.fold_joinText_of_descent hroot hrelative hdescent
  · -- The line that makes it is sent before the settings are written, which may fail.
    cases hnamed : (naming w₁ { v with state := s } (envIn v folder)).1 with
    | error cause =>
        have hdoes := does_makeEnv_error hview₁ hnamed
        rw [hdoes.answer] at hr
        exact .inl ⟨⟨_, hr⟩, .of_last hidle hdoes.sends⟩
    | ok _ =>
        have hdoes := (does_makeEnv_ok hview₁ hnamed).of_state
        have hsent := Sent.of_last hidle hdoes.sends
        rcases hdoes.run_eq with ⟨host, hrun⟩
        rw [hrun] at hr hw'
        refine .inr ⟨hr, hsent, ?_, s, ?_⟩
        · simp only [hw', files_withHost, World.updateEnv, World.updateProject]
          exact text?_naming hnamed
        · rw [hw', view?_withHost]
          exact view?_changed hview₁ _ _

end

/-! ### Names that lead elsewhere -/

namespace Placement

/-- A project with some files, and a person who answers with a name. -/
def asked (nodes : List (Location × FileNode)) (name : String) : World :=
  { World.start ⟨⟨"/"⟩, 0, nodes⟩
      (.recorder { Host.Recorder.fresh with
        inputs := [some name]
        terminals := [⟨Terminal.nameFor ⟨"/p"⟩, ⟨"/p"⟩, [], 0, false⟩] })
      (.script ⟨[("", .outcome ⟨some 0, "20.0".toUTF8, ⟨#[]⟩⟩)], [], []⟩) default with
    projects := [Project.fresh ⟨"/p"⟩] }

/-- What comes of making an environment when nobody else does anything. -/
def outcome (w : World) : Work (Except Error Bool) × World :=
  (create 0).run.poll (fun _ _ => true) w

theorem plays_outcome {w : World}
    (h : ((outcome w).1.result?.any fun r => r.toOption == some true) = true) :
    ∃ log, Plays (Abides 0) (create 0).run w log (.ok true) (outcome w).2 := by
  have hdone := Creation.eq_done_of_any h
  refine Plays.last (fun _ _ => true) ?_
  change (outcome w).1.result? = some (.ok true)
  rw [hdone]
  rfl

/-- Under a name without blanks, in a project without such a folder. -/
theorem made_where_accepted_vacant :
    ∃ log python, Plays (Abides 0) (create 0).run (asked [(["p"], .dir)] "a") log (.ok true)
        (outcome (asked [(["p"], .dir)] "a")).2 ∧
      (asked [(["p"], .dir)] "a").files.exists? ⟨"/p/a"⟩ = false ∧
      Sent ⟨⟨"/p"⟩, .unix, .initial⟩ log [.make python ⟨"/p/a"⟩, .enter ⟨"/p/a"⟩] := by
  have hview : view? 0 (asked [(["p"], .dir)] "a") = some ⟨⟨"/p"⟩, .unix, .initial⟩ := rfl
  rcases plays_outcome (w := asked [(["p"], .dir)] "a") (by decide +kernel) with ⟨log, hplays⟩
  rcases made_where_accepted hview hplays with
    ⟨hnot, -⟩ | ⟨folder, python, haccepted, hfree, -, ⟨⟨_, herror⟩, -⟩ | ⟨-, hsent, -⟩⟩
  · exact absurd rfl hnot
  · exact nomatch herror
  · have hfolder : folder = "a" := (Option.some.inj haccepted).symm
    subst hfolder
    exact ⟨log, python, hplays, hfree (by decide), hsent⟩

/-- With a blank in front the name of a folder that exists is accepted, and the environment is made
there; and with a step up in front it is made beside the project. -/
theorem made_elsewhere :
    (∃ log, Plays (Abides 0) (create 0).run (asked [(["p"], .dir), (["p", "a"], .dir)] " a") log
        (.ok true) (outcome (asked [(["p"], .dir), (["p", "a"], .dir)] " a")).2 ∧
      (asked [(["p"], .dir), (["p", "a"], .dir)] " a").files.exists? ⟨"/p/a"⟩ = true ∧
      (outcome (asked [(["p"], .dir), (["p", "a"], .dir)] " a")).2.host.recorded.map (·.lines) =
        [[TerminalLine.createVirtualenv ⟨"python"⟩ ⟨"/p/a"⟩,
          TerminalLine.activate .unix ⟨"/p/a"⟩]]) ∧
    ∃ log, Plays (Abides 0) (create 0).run (asked [(["p"], .dir)] "../a") log (.ok true)
        (outcome (asked [(["p"], .dir)] "../a")).2 ∧
      (outcome (asked [(["p"], .dir)] "../a")).2.host.recorded.map (·.lines) =
        [[TerminalLine.createVirtualenv ⟨"python"⟩ ⟨"/p/../a"⟩,
          TerminalLine.activate .unix ⟨"/p/../a"⟩]] ∧
      (⟨"/p/../a"⟩ : Path).fold = ⟨"/a"⟩ := by
  have hover :=
    plays_outcome (w := asked [(["p"], .dir), (["p", "a"], .dir)] " a") (by decide +kernel)
  have hbeside := plays_outcome (w := asked [(["p"], .dir)] "../a") (by decide +kernel)
  rcases hover with ⟨log, hover⟩
  rcases hbeside with ⟨log', hbeside⟩
  exact ⟨⟨log, hover, by decide +kernel, by decide +kernel⟩, log', hbeside, by decide +kernel,
    by decide⟩

end Placement

end Environment
end Testbench
