import Testbench.Proofs.Environment.Placement
import Testbench.Proofs.Environment.Prompts
import Testbench.Proofs.Parsing.Sharing

/-!
# Traces — what the steps of an operation leave behind

An operation leaves lines in a terminal and changes in files. Most of its steps leave neither: they
look at something, put a question, or start a program, which may do what it likes to the files. A
question is answered in the step that puts it, so the steps of an operation tell what a person has
answered.

- `Asks`, `Picks`, `Enters` : questions and how they were answered;
- `LeavesFiles`, `Idle`     : steps that leave nothing behind;
- `Completes.of_plays`, `alone` : a task that is played is run to its end;
- `comes_prompt`, `comes_pick`, `comes_input`, `comes_idle` : the idle parts of an operation.
-/

namespace Testbench
namespace Environment

open Sharing (Starts)
open Testbench.Task (Plays Ran Step)

/-! ## Questions and their answers -/

/-- A prompt was shown and answered. -/
inductive Asks (message : String) (answer : Host.Answer) : Ran World → Prop where
  | intro (w : World) (choices : Host.Choices) : (w.host.prompt message choices).1 = answer →
      Asks message answer ⟨w, Host.Answer, (Act.ask (Host.prompt message choices)).run⟩

/-- Some names were offered, and one was picked. -/
inductive Picks (names : List String) (name : String) : Ran World → Prop where
  | intro (w : World) (message : String) : (w.host.pick message names).1 = some name →
      Picks names name ⟨w, Option String, (Act.ask (Host.pick message names)).run⟩

/-- A text was entered. -/
inductive Enters (s : String) : Ran World → Prop where
  | intro (w : World) (message default : String) (complaint : String → Option String) :
      (w.host.input message default complaint).1 = some s →
        Enters s ⟨w, Option String, (Act.ask (Host.input message default complaint)).run⟩

/-! ## Steps that leave nothing behind -/

/-- A step leaves the files alone, or starts a program. -/
def LeavesFiles (x : Ran World) : Prop := x.after.files = x.before.files ∨ Starts x

/-- A step sends nothing to the terminal of a project, and leaves the files alone. -/
structure Idle (v : View) (x : Ran World) : Prop where
  sends : Sends v x []
  files : LeavesFiles x

section

variable {id : ProjectId} {v : View} {α β : Type} {w w' : World} {a : α}

theorem Does.files_after {m : Act α} {lines : List Line} (h : Does v m w a w' lines) :
    (⟨w, α, m.run⟩ : Ran World).after.files = w'.files := by
  rcases h.run_eq with ⟨host, hrun⟩
  have hafter : (⟨w, α, m.run⟩ : Ran World).after = w'.withHost host := congrArg Prod.snd hrun
  rw [hafter, files_withHost]

theorem Does.idle {m : Act α} (h : Does v m w a w' []) (hfiles : w'.files = w.files) :
    Idle v ⟨w, α, m.run⟩ :=
  ⟨h.sends, .inl (h.files_after.trans hfiles)⟩

theorem idle_mute {m : Act α} (hm : Mute id m) (hfiles : Act.Keeps World.files m) (v : View)
    (w : World) : Idle v ⟨w, α, m.run⟩ :=
  ⟨fun host => .of_terminals (hm.silent (w.withHost host)), .inl (hfiles w)⟩

theorem idle_launch (i : Invocation) (v : View) (w : World) :
    Idle v ⟨w, _, (Work.launch i).run⟩ :=
  ⟨fun host => .of_terminals ((mute_launch i : Mute 0 _).silent (w.withHost host)), .inr ⟨i, rfl⟩⟩

theorem idle_update (f : State → State) (v : View) (w : World) :
    Idle v ⟨w, Unit, (update id f).run⟩ :=
  (does_update f w).idle rfl

theorem idle_world (v : View) (w : World) : Idle v ⟨w, World, Act.world.run⟩ :=
  idle_mute (mute_world : Mute 0 _) .world v w

theorem idle_state (v : View) (w : World) : Idle v ⟨w, State, (state id).run⟩ :=
  idle_mute (mute_state : Mute id _) (fun _ => rfl) v w

theorem idle_waited (v : View) (w : World) : Idle v (waited w) :=
  idle_mute (mute_pure () : Mute 0 _) (.pure ()) v w

theorem does_suppress (v : View) (w : World) :
    Does v suppress w () { w with suppressed := true } [] :=
  .change fun _ => rfl

theorem idle_suppress (v : View) (w : World) : Idle v ⟨w, Unit, suppress.run⟩ :=
  (does_suppress v w).idle rfl

theorem Asks.idle {message : String} {answer : Host.Answer} {x : Ran World}
    (h : Asks message answer x) (v : View) : Idle v x := by
  cases h with
  | intro w choices => exact idle_mute (mute_prompt _ _ : Mute 0 _) (.ask fun _ => rfl) v w

theorem Asks.prompts {message : String} {answer : Host.Answer} {x : Ran World}
    (h : Asks message answer x) : x.prompts = [message] := by
  cases h with
  | intro w choices => rfl

/-- A prompt has one answer. -/
theorem Asks.answer_eq {message message' : String} {answer answer' : Host.Answer} {x : Ran World}
    (h : Asks message answer x) (h' : Asks message' answer' x) : answer = answer' := by
  -- The answer is what the act returns, whatever its type is.
  have hgiven : ∀ {message answer x}, Asks message answer x → HEq (x.act x.before).1 answer := by
    intro message answer x h
    cases h with
    | intro w choices hanswer => exact heq_of_eq hanswer
  exact eq_of_heq ((hgiven h).symm.trans (hgiven h'))

theorem idle_pick (message : String) (names : List String) (v : View) (w : World) :
    Idle v ⟨w, _, (Act.ask (Host.pick message names)).run⟩ :=
  idle_mute (mute_pick _ _ : Mute 0 _) (.ask fun _ => rfl) v w

theorem idle_input (message default : String) (complaint : String → Option String) (v : View)
    (w : World) : Idle v ⟨w, _, (Act.ask (Host.input message default complaint)).run⟩ :=
  idle_mute (mute_input _ _ _ : Mute 0 _) (.ask fun _ => rfl) v w

end

/-! ## Running to the end -/

section

variable {id : ProjectId} {v : View} {α β : Type} {log : List (Ran World)} {s : State}

/-- Others leave what is known of a project. -/
def Leaves (id : ProjectId) (w w' : World) : Prop := view? id w' = view? id w

theorem Leaves.abides {w w' : World} (h : Leaves id w w') : Abides id w w' :=
  fun v hview => ⟨v.state, h.trans hview⟩

/-- A task that is played among others who leave the project alone is run to its end. -/
theorem Completes.of_plays {t : Work α} {w w' : World} {a : α}
    (h : Plays (Leaves id) t w log a w') :
    Completes id t w log a w' := by
  induction h with
  | done a w => exact .done a w
  | step hstep _ ih => exact .step hstep ih
  | aside _ _ hbeside _ ih => exact .other hbeside ih

/-- What a task comes to when nobody else does anything. -/
def alone (t : Work α) (w : World) : Work α × World := t.poll (fun _ _ => true) w

theorem completes_alone (id : ProjectId) (t : Work α) (w : World) :
    ∃ log a, (alone t w).1.result? = some a ∧ Completes id t w log a (alone t w).2 := by
  rcases Task.exists_result?_poll t w with ⟨a, ha⟩
  rcases Plays.last (fun _ _ => true) ha with ⟨log, hplays⟩
  exact ⟨log, a, ha, .of_plays hplays⟩

/-! ## The idle parts -/

/-- The state is as it was, and nothing was left behind. -/
def Idled (v : View) (s : State) (log : List (Ran World)) (log' : List (Ran World)) (s' : State) :
    Prop :=
  s' = s ∧ ∃ more, log' = log ++ more ∧ ∀ x ∈ more, Idle v x

theorem Idled.all {log' : List (Ran World)} {s' : State} (h : Idled v s log log' s')
    (hlog : ∀ x ∈ log, Idle v x) : ∀ x ∈ log', Idle v x := by
  rcases h with ⟨-, more, rfl, hmore⟩
  exact List.forall_mem_append.2 ⟨hlog, hmore⟩

theorem comes_prompt (message : String) (choices : Host.Choices) :
    Comes id v (Work.prompt message choices)
      (fun answer log' s' => Idled v s log log' s' ∧ ∃ x ∈ log', Asks message answer x) log s := by
  refine (Comes.question (mute_prompt message choices) (fun _ => .dialog) fun a => a).mono ?_
  rintro answer log' s' ⟨rfl, w, w', rfl, hanswer⟩
  have hasks : Asks message answer ⟨w, _, (Act.ask (Host.prompt message choices)).run⟩ :=
    .intro w choices hanswer.symm
  exact ⟨⟨rfl, _, rfl, by simpa using ⟨hasks.idle v, idle_waited v w'⟩⟩, _, by simp, hasks⟩

theorem comes_pick (message : String) (names : List String) :
    Comes id v (Work.pick message names)
      (fun picked log' s' => Idled v s log log' s' ∧
        ∀ name, picked = some name → ∃ x ∈ log', Picks names name x) log s := by
  refine (Comes.question (mute_pick message names) (fun _ => .dialog) fun a => a).mono ?_
  rintro picked log' s' ⟨rfl, w, w', rfl, hpicked⟩
  refine ⟨⟨rfl, _, rfl, by simpa using ⟨idle_pick _ _ v w, idle_waited v w'⟩⟩, ?_⟩
  rintro name rfl
  exact ⟨_, by simp, .intro w message hpicked.symm⟩

theorem comes_input (message default : String) (complaint : FileTree → String → Option String) :
    Comes id v (Work.input message default complaint)
      (fun entered log' s' => Idled v s log log' s' ∧
        ∀ name, entered = some name → ∃ x ∈ log', Enters name x) log s := by
  refine .seen fun seen _ => ?_
  refine (Comes.question (mute_input _ _ _) (fun _ => .dialog) fun a => a).mono ?_
  rintro entered log' s' ⟨rfl, w, w', rfl, hentered⟩
  refine ⟨⟨rfl, _, List.append_assoc _ _ _, ?_⟩, ?_⟩
  · simpa using ⟨idle_world v seen, idle_input _ _ _ v w, idle_waited v w'⟩
  · rintro name rfl
    exact ⟨_, by simp, .intro w message default _ hentered.symm⟩

theorem comes_selectInterpreter : Comes id v Work.selectInterpreter
    (fun _ log' s' => Idled v s log log' s') log s := by
  refine (Comes.question mute_selectInterpreter (fun _ => .dialog) fun a => a).mono ?_
  rintro _ log' s' ⟨rfl, w, w', rfl, -⟩
  refine ⟨rfl, _, rfl, ?_⟩
  simpa using ⟨idle_mute (mute_selectInterpreter : Mute id _) (.tell fun _ => rfl) v w,
    idle_waited v w'⟩

theorem comes_run (i : Invocation) :
    Comes id v (Work.run i) (fun _ log' s' => Idled v s log log' s') log s := by
  refine (Comes.question (mute_launch i) (fun a => .until a.2) fun a => a.1).mono ?_
  rintro _ log' s' ⟨rfl, w, w', rfl, -⟩
  exact ⟨rfl, _, rfl, by simpa using ⟨idle_launch i v w, idle_waited v w'⟩⟩

/-- The steps of a task send nothing and leave the files alone, where the project is known. -/
def IsIdle (id : ProjectId) (v : View) {α : Type} (t : Work α) : Prop :=
  t.All fun x => ∀ s, view? id x.before = some { v with state := s } → Idle v x

theorem isIdle_pause (wait : Wait) : IsIdle id v (Task.pause wait : Work Unit) :=
  ⟨fun w _ _ => idle_waited v w, trivial⟩

theorem isIdle_run (i : Invocation) : IsIdle id v (Work.run i) :=
  all_act (fun w _ _ => idle_launch i v w) fun started =>
    (isIdle_pause (.until started.2)).bind fun _ => trivial

theorem isIdle_checkTool : IsIdle id v (checkTool id).run := by
  refine all_first (fun w _ _ => idle_world v w) fun w => all_bind (all_ofWork (isIdle_run _)) ?_
  refine fun outcome => all_lift fun w s hw => ?_
  rcases does_concludeTool hw _ outcome with ⟨a, checked, hdoes⟩
  exact hdoes.of_state.idle rfl

/-- Minor acts of which each is idle. -/
theorem comes_idle {t : Work α} (ht : IsMinor id t) (hidle : IsIdle id v t)
    (hlog : ∀ x ∈ log, Idle v x) :
    Comes id v t (fun _ log' s' => s.Like s' ∧ ∀ x ∈ log', Idle v x) log s := by
  refine ((ht.comes v log s).steps hidle).mono ?_
  rintro a log' s' ⟨⟨-, hlike⟩, more, rfl, hmore⟩
  exact ⟨hlike, List.forall_mem_append.2 ⟨hlog, hmore⟩⟩

end

end Environment
end Testbench
