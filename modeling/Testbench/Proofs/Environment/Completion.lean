import Testbench.Proofs.Environment.Operations
import Testbench.Proofs.Path.Spelling
import Testbench.Proofs.Settings

/-!
# Completion — what each operation on an environment comes to

An operation that runs to its end alone comes to something that its answer tells: the environment
that it put down is known, or there is none in use, or everything is as it was. Meanwhile the files,
and whatever else is not known of the project, may change.

- `Completes`       : a task is run to its end;
- `Comes`           : what holds at the end of a task, by recursion on the task;
- `Names`, `Knows`  : the environment in use is that of the interpreter which the settings name;
- `comes_adopt`, `comes_create`, `comes_ensure`, … : the operations that get an environment;
- `Operation.comes` : what each operation comes to.
-/

namespace Testbench
namespace Environment

open Testbench.Task (Ran Step)

/-! ## Running to the end -/

/-- A task is run to its end. Others may change everything but what is known of the project. -/
inductive Completes (project : ProjectId) {α : Type} :
    Work α → World → List (Ran World) → α → World → Prop where
  | done (a : α) (w : World) : Completes project (.done a) w [] a w
  | step {t t' : Work α} {x : Ran World} {log : List (Ran World)} {a : α} {w : World} :
      Step t x t' → Completes project t' x.after log a w →
        Completes project t x.before (x :: log) a w
  | other {t : Work α} {w w₁ w' : World} {log : List (Ran World)} {a : α} :
      view? project w₁ = view? project w → Completes project t w₁ log a w' →
        Completes project t w log a w'

/-- A task whose parts come one after another can be run to its end. -/
theorem Completes.exists_of_all {project : ProjectId} {α : Type} {P : Ran World → Prop} {t : Work α}
    (h : t.All P) (w : World) : ∃ log a w', Completes project t w log a w' := by
  induction t generalizing w with
  | done a => exact ⟨[], a, w, .done a w⟩
  | act f next ih =>
      rcases ih _ (h w).2 (f w).2 with ⟨log, a, w', hrun⟩
      exact ⟨_, a, w', .step (.act f next w) hrun⟩
  | await wait next ih =>
      rcases ih h.2 w with ⟨log, a, w', hrun⟩
      exact ⟨_, a, w', .step (.await wait next w) hrun⟩
  | both l r limit next _ _ _ => exact h.elim
  | guarded body release next _ _ => exact h.elim

/-- A wait that is over. -/
def waited (w : World) : Ran World := .change w id

/-- What was done until a task ends, and the state that it leaves, satisfy a postcondition. Tasks
that split are not considered. -/
def Comes (project : ProjectId) (v : View) :
    {α : Type} → Work α → (α → List (Ran World) → State → Prop) → List (Ran World) → State → Prop
  | _, .done a, post, log, s => post a log s
  | _, .act (β := β) f next, post, log, s => ∀ w, view? project w = some { v with state := s } →
      ∃ s', view? project (f w).2 = some { v with state := s' } ∧
        Comes project v (next (f w).1) post (log ++ [⟨w, β, f⟩]) s'
  | _, .await _ next, post, log, s => ∀ w, view? project w = some { v with state := s } →
      Comes project v next post (log ++ [.change w id]) s
  | _, .both .., _, _, _ => False
  | _, .guarded .., _, _, _ => False

namespace Comes

variable {project : ProjectId} {v : View} {α β : Type} {log : List (Ran World)} {s : State}

theorem mono {t : Work α} {post post' : α → List (Ran World) → State → Prop}
    (h : Comes project v t post log s) (hpost : ∀ a log' s', post a log' s' → post' a log' s') :
    Comes project v t post' log s := by
  induction t generalizing log s with
  | done a => exact hpost a log s h
  | act f next ih =>
      intro w hw
      rcases h w hw with ⟨s', hs', hrest⟩
      exact ⟨s', hs', ih _ hrest hpost⟩
  | await wait next ih => exact fun w hw => ih (h w hw) hpost
  | both l r limit next _ _ _ => exact h.elim
  | guarded body release next _ _ => exact h.elim

theorem bind {t : Work α} {f : α → Work β} {mid : α → List (Ran World) → State → Prop}
    {post : β → List (Ran World) → State → Prop} (h : Comes project v t mid log s)
    (hf : ∀ a log' s', mid a log' s' → Comes project v (f a) post log' s') :
    Comes project v (t.bind f) post log s := by
  induction t generalizing log s with
  | done a => exact hf a log s h
  | act g next ih =>
      intro w hw
      rcases h w hw with ⟨s', hs', hrest⟩
      exact ⟨s', hs', ih _ hrest hf⟩
  | await wait next ih => exact fun w hw => ih (h w hw) hf
  | both l r limit next _ _ _ => exact h.elim
  | guarded body release next _ _ => exact h.elim

/-- Two parts of an attempt; the second is left out if the first fails. -/
theorem attempt {x : Attempt α} {f : α → Attempt β}
    {mid : Except Error α → List (Ran World) → State → Prop}
    {post : Except Error β → List (Ran World) → State → Prop}
    (h : Comes project v x.run mid log s)
    (hok : ∀ a log' s', mid (.ok a) log' s' → Comes project v (f a).run post log' s')
    (herror : ∀ cause log' s', mid (.error cause) log' s' → post (.error cause) log' s') :
    Comes project v (x >>= f).run post log s := by
  refine Comes.bind h fun outcome log' s' hmid => ?_
  cases outcome with
  | ok a => exact hok a log' s' hmid
  | error cause => exact herror cause log' s' hmid

/-- A part of an attempt that cannot fail. -/
theorem part {t : Work α} {f : α → Attempt β} {mid : α → List (Ran World) → State → Prop}
    {post : Except Error β → List (Ran World) → State → Prop} (h : Comes project v t mid log s)
    (hf : ∀ a log' s', mid a log' s' → Comes project v (f a).run post log' s') :
    Comes project v ((liftM t : Attempt α) >>= f).run post log s := by
  have hpart : Comes project v (liftM t : Attempt α).run
      (fun outcome log' s' => ∃ a, outcome = .ok a ∧ mid a log' s') log s :=
    .bind h fun a log' s' hmid => ⟨a, rfl, hmid⟩
  refine .attempt hpart (fun a log' s' hmid => ?_) ?_
  · rcases hmid with ⟨a', ha, hmid⟩
    exact hf a log' s' (Except.ok.inj ha ▸ hmid)
  · rintro cause log' s' ⟨a, ha, -⟩
    exact nomatch ha

/-- What a task comes to, and what holds of each of its steps. -/
theorem steps {P : Ran World → Prop} {t : Work α} {post : α → List (Ran World) → State → Prop}
    (h : Comes project v t post log s)
    (ht : t.All fun x => ∀ s, view? project x.before = some { v with state := s } → P x) :
    Comes project v t
      (fun a log' s' => post a log' s' ∧ ∃ more, log' = log ++ more ∧ ∀ x ∈ more, P x) log s := by
  induction t generalizing log s with
  | done a => exact ⟨h, [], (List.append_nil log).symm, by simp⟩
  | act f next ih =>
      intro w hw
      rcases h w hw with ⟨s', hs', hrest⟩
      refine ⟨s', hs', (ih _ hrest (ht w).2).mono ?_⟩
      rintro a log' s'' ⟨hpost, more, rfl, hmore⟩
      exact ⟨hpost, _ :: more, by simp, List.forall_mem_cons.2 ⟨(ht w).1 s hw, hmore⟩⟩
  | await wait next ih =>
      intro w hw
      refine (ih (h w hw) ht.2).mono ?_
      rintro a log' s' ⟨hpost, more, rfl, hmore⟩
      exact ⟨hpost, _ :: more, by simp, List.forall_mem_cons.2 ⟨ht.1 w s hw, hmore⟩⟩
  | both l r limit next _ _ _ => exact h.elim
  | guarded body release next _ _ => exact h.elim

/-- The postcondition holds whenever the task is run to its end. -/
theorem of_completes {t : Work α} {post : α → List (Ran World) → State → Prop} {w w' : World}
    {more : List (Ran World)} {a : α} (h : Comes project v t post log s)
    (hrun : Completes project t w more a w')
    (hview : view? project w = some { v with state := s }) :
    ∃ s', view? project w' = some { v with state := s' } ∧ post a (log ++ more) s' := by
  -- On the run: each step goes from what was done so far to the rest of the task.
  induction hrun generalizing log s with
  | done a w => exact ⟨s, hview, by rw [List.append_nil]; exact h⟩
  | @step t t' x more a w hstep _ ih =>
      rw [List.append_cons]
      cases hstep with
      | act f next w =>
          rcases h w hview with ⟨s', hs', hrest⟩
          exact ih hrest hs'
      | await wait next w => exact ih (h w hview) hview
      | left _ => exact h.elim
      | right _ => exact h.elim
      | joined _ _ _ _ _ => exact h.elim
      | limit _ _ _ _ _ => exact h.elim
      | inside _ => exact h.elim
      | release _ _ _ _ => exact h.elim
  | other hsame _ ih => exact ih h (hsame.trans hview)

theorem done {post : α → List (Ran World) → State → Prop} {a : α} (h : post a log s) :
    Comes project v (.done a) post log s := h

end Comes

/-! ## Minor acts -/

/-- The same environment is in use, in the same phase. -/
structure State.Like (s s' : State) : Prop where
  env : s'.env = s.env
  phase : s'.phase = s.phase

theorem State.Like.refl (s : State) : State.Like s s := ⟨rfl, rfl⟩

theorem State.Like.trans {s s' s'' : State} (h : s.Like s') (h' : s'.Like s'') : s.Like s'' :=
  ⟨h'.env.trans h.env, h'.phase.trans h.phase⟩

section

variable {id : ProjectId} {v : View} {α β : Type} {log : List (Ran World)} {s : State}

theorem Does.answer {m : Act α} {w w' : World} {a : α} {lines : List Line}
    (h : Does v m w a w' lines) : (m.run w).1 = a := by
  rcases h.run_eq with ⟨host, hrun⟩
  rw [hrun]

theorem Does.view {m : Act α} {w w' : World} {a : α} {lines : List Line}
    (h : Does v m w a w' lines) : view? id (m.run w).2 = view? id w' := by
  rcases h.run_eq with ⟨host, hrun⟩
  rw [hrun, view?_withHost]

theorem Minor.like {f : World → β × World} (h : Minor id f) {w : World}
    (hv : view? id w = some { v with state := s }) :
    ∃ s', view? id (f w).2 = some { v with state := s' } ∧ s.Like s' := by
  cases h with
  | mute hm => exact ⟨s, (hm.view w).trans hv, .refl s⟩
  | note henv hphase => exact ⟨_, view?_updateEnv_some hv _, henv s, hphase s⟩
  | activate => exact ⟨s, (does_activate hv).view.trans hv, .refl s⟩
  | prependPath => exact ⟨s, (does_prependPath hv).view.trans hv, .refl s⟩
  | install => exact ⟨s, (does_install hv).view.trans hv, .refl s⟩
  | concludeTool command outcome =>
      rcases does_concludeTool hv command outcome with ⟨a, checked, hdoes⟩
      exact ⟨_, hdoes.view.trans (view?_updateEnv_some hv _), rfl, rfl⟩

/-- What is left of a minor task leaves the environment as its first act found it. -/
theorem IsMinor.comes_later {t : Work α} (h : IsMinor id t) {log more : List (Ran World)}
    {s s₁ : State} (hmore : log <+: more) (hlike : s.Like s₁) :
    Comes id v t (fun _ log' s' => log <+: log' ∧ s.Like s') more s₁ := by
  induction t generalizing more s₁ with
  | done a => exact ⟨hmore, hlike⟩
  | act f next ih =>
      intro w hw
      rcases (h w).1.like hw with ⟨s₂, hs₂, hlike₂⟩
      exact ⟨s₂, hs₂, ih _ (h w).2 (hmore.trans (List.prefix_append _ _)) (hlike.trans hlike₂)⟩
  | await wait next ih =>
      intro w hw
      have hnext : IsMinor id next := h.2
      exact ih hnext (hmore.trans (List.prefix_append _ _)) hlike
  | both l r limit next _ _ _ => exact h.elim
  | guarded body release next _ _ => exact h.elim

/-- Tasks that are made of minor acts leave the environment in use. -/
theorem IsMinor.comes {t : Work α} (h : IsMinor id t) (v : View) (log : List (Ran World))
    (s : State) : Comes id v t (fun _ log' s' => log <+: log' ∧ s.Like s') log s :=
  h.comes_later List.prefix_rfl (.refl s)

end

/-! ## One part after another -/

namespace Comes

variable {id : ProjectId} {v : View} {α β : Type} {log : List (Ran World)} {s s' : State}
  {post : β → List (Ran World) → State → Prop}

/-- An act whose effect is known. -/
theorem act {m : Act α} {next : α → Work β}
    (h : ∀ w, view? id w = some { v with state := s } → ∃ a w' lines s',
      Does { v with state := s } m w a w' lines ∧ view? id w' = some { v with state := s' } ∧
        Comes id v (next a) post (log ++ [⟨w, α, m.run⟩]) s') :
    Comes id v (.act m.run next) post log s := by
  intro w hw
  rcases h w hw with ⟨a, w', lines, s', hdoes, hw', hnext⟩
  exact ⟨s', hdoes.view.trans hw', hdoes.answer ▸ hnext⟩

section

variable {f : α → Attempt β} {post : Except Error β → List (Ran World) → State → Prop}

theorem mute {m : Act α} (hm : Mute id m)
    (h : ∀ w, Comes id v (f (m.run w).1).run post (log ++ [⟨w, α, m.run⟩]) s) :
    Comes id v ((liftM m : Attempt α) >>= f).run post log s :=
  fun w hw => ⟨s, (hm.view w).trans hw, h w⟩

theorem world {f : World → Attempt β}
    (h : ∀ w, view? id w = some { v with state := s } →
      Comes id v (f w).run post (log ++ [⟨w, World, Act.world.run⟩]) s) :
    Comes id v ((liftM Act.world : Attempt World) >>= f).run post log s :=
  fun w hw => ⟨s, hw, h w hw⟩

theorem update {change : State → State} {f : Unit → Attempt β}
    (h : ∀ w, Comes id v (f ()).run post (log ++ [⟨w, Unit, (update id change).run⟩]) (change s)) :
    Comes id v ((liftM (Environment.update id change) : Attempt Unit) >>= f).run post log s :=
  .act fun w hw =>
    ⟨(), _, _, change s, does_update change w, view?_updateEnv_some hw change, h w⟩

theorem look {f : State → Attempt β}
    (h : ∀ w, Comes id v (f s).run post (log ++ [⟨w, State, (Environment.state id).run⟩]) s) :
    Comes id v ((liftM (Environment.state id) : Attempt State) >>= f).run post log s :=
  .act fun w hw => ⟨s, w, _, s, does_state hw, hw, h w⟩

end

/-- A look at the world, and what follows from it. -/
theorem seen {f : World → Work β} (h : ∀ w, view? id w = some { v with state := s } →
    Comes id v (f w) post (log ++ [⟨w, World, Act.world.run⟩]) s) :
    Comes id v (.act Act.world.run f) post log s :=
  fun w hw => ⟨s, hw, h w hw⟩

/-- An act that leaves what is known of the project, a wait, and no more. -/
theorem question {m : Act α} (hm : Mute id m) (wait : α → Wait) (f : α → β) :
    Comes id v (.act m.run fun a => (Task.pause (wait a)).bind fun _ => .done (f a))
      (fun b log' s' => s' = s ∧ ∃ w w', log' = log ++ [⟨w, α, m.run⟩, waited w'] ∧
        b = f (m.run w).1) log s := by
  intro w hw
  refine ⟨s, (hm.view w).trans hw, fun w' _ => ⟨rfl, w, w', ?_, rfl⟩⟩
  rw [List.append_assoc]
  rfl

-- A task is taken apart by these lemmas only: its acts are not to be evaluated.
attribute [irreducible] Comes

/-- An act that is the whole task. -/
theorem lift {m : Act α} {post : α → List (Ran World) → State → Prop}
    (h : ∀ w, view? id w = some { v with state := s } → ∃ a w' lines s',
      Does { v with state := s } m w a w' lines ∧ view? id w' = some { v with state := s' } ∧
        post a (log ++ [⟨w, α, m.run⟩]) s') :
    Comes id v (Task.lift m) post log s := by
  refine .act fun w hw => ?_
  rcases h w hw with ⟨a, w', lines, s', hdoes, hw', hpost⟩
  exact ⟨a, w', lines, s', hdoes, hw', .done hpost⟩

/-- The last part, which is made of minor acts. -/
theorem last {t : Work α} {post : Except Error α → List (Ran World) → State → Prop}
    (ht : IsMinor id t) (h : ∀ a log' s', log <+: log' → s.Like s' → post (.ok a) log' s') :
    Comes id v (liftM t : Attempt α).run post log s :=
  .bind (ht.comes v log s) fun a log' s' hmid => .done (h a log' s' hmid.1 hmid.2)

/-- A part that is made of minor acts. -/
theorem minor {t : Work α} {f : α → Attempt β}
    {post : Except Error β → List (Ran World) → State → Prop} (ht : IsMinor id t)
    (h : ∀ a log' s', log <+: log' → s.Like s' → Comes id v (f a).run post log' s') :
    Comes id v ((liftM t : Attempt α) >>= f).run post log s := by
  have hpart : Comes id v (liftM t : Attempt α).run
      (fun outcome log' s' => (∃ a, outcome = .ok a) ∧ log <+: log' ∧ s.Like s') log s :=
    .last ht fun a _ _ hlog hlike => ⟨⟨a, rfl⟩, hlog, hlike⟩
  refine .attempt hpart (fun a log' s' hmid => h a log' s' hmid.2.1 hmid.2.2) ?_
  rintro cause log' s' ⟨⟨a, ha⟩, -⟩
  exact absurd ha (by simp)

theorem pure {post : Except Error α → List (Ran World) → State → Prop} {a : α}
    (h : post (.ok a) log s) : Comes id v (Pure.pure a : Attempt α).run post log s := .done h

theorem ite {c : Prop} [Decidable c] {x y : Attempt α}
    {post : Except Error α → List (Ran World) → State → Prop}
    (hx : c → Comes id v x.run post log s) (hy : ¬c → Comes id v y.run post log s) :
    Comes id v (if c then x else y).run post log s := by
  by_cases h : c
  · rw [if_pos h]
    exact hx h
  · rw [if_neg h]
    exact hy h

/-- A part of an attempt that ends otherwise if it fails. -/
theorem rescue {x : Attempt α} {handle : Error → Attempt α}
    {mid post : Except Error α → List (Ran World) → State → Prop} (h : Comes id v x.run mid log s)
    (hok : ∀ a log' s', mid (.ok a) log' s' → post (.ok a) log' s')
    (herror : ∀ cause log' s', mid (.error cause) log' s' →
      Comes id v (handle cause).run post log' s') :
    Comes id v (tryCatch x handle).run post log s := by
  refine Comes.bind h fun outcome log' s' hmid => ?_
  cases outcome with
  | ok a => exact .done (hok a log' s' hmid)
  | error cause => exact herror cause log' s' hmid

end Comes

/-! ## Knowing the environment -/

/-- The interpreter of an environment is spelled with an editor variable, so that the settings which
name it are read as another path. -/
def IsRespelled (v : View) (env : Path) : Prop :=
  Settings.expand v.root (v.platform.envPython env).text ≠ (v.platform.envPython env).text

/-- The environment in use is two levels above the interpreter that the settings name, or the
settings name its interpreter and are read as another path. -/
def Names (id : ProjectId) (w : World) (env : Path) : Prop :=
  ∃ v, view? id w = some v ∧ v.state.env = some env ∧ v.state.phase = .inside ∧
    ((Settings.text? w.files v.root Settings.pythonPathKey = some (v.platform.envPython env).text ∧
        IsRespelled v env) ∨
      ∃ dir, twoUp (interpreter w v.root) = some dir ∧ env.same dir = true)

/-- After one of some steps the environment in use was the one that the settings named. -/
def Knows (id : ProjectId) (log : List (Ran World)) (s : State) : Prop :=
  ∃ x ∈ log, ∃ env, s.env = some env ∧ s.phase = .inside ∧ Names id x.after env

section

variable {id : ProjectId} {v : View} {w w' : World} {env : Path} {log log' : List (Ran World)}
  {s s' : State}

theorem Knows.mono (h : Knows id log s) (hlog : log <+: log') (hlike : s.Like s') :
    Knows id log' s' := by
  rcases h with ⟨x, hx, env, henv, hphase, hnames⟩
  exact ⟨x, hlog.subset hx, env, hlike.env.trans henv, hlike.phase.trans hphase, hnames⟩

theorem names_withHost (h : Names id w env) (host : Host) : Names id (w.withHost host) env := by
  rcases h with ⟨v, hv, henv, hphase, hnamed⟩
  refine ⟨v, hv, henv, hphase, ?_⟩
  rwa [interpreter_withHost, files_withHost]

theorem knows_of_does {α : Type} {m : Act α} {a : α} {lines : List Line}
    (h : Does v m w a w' lines) (hnames : Names id w' env)
    (hview : view? id w' = some { v with state := s }) :
    Knows id (log ++ [⟨w, α, m.run⟩]) s := by
  rcases h.run_eq with ⟨host, hrun⟩
  have hafter : (⟨w, α, m.run⟩ : Ran World).after = w'.withHost host := congrArg Prod.snd hrun
  have hnamed := hnames
  rcases hnamed with ⟨v', hv', henv, hphase, -⟩
  have hstate : v'.state = s := by
    rw [hview] at hv'
    exact congrArg View.state (Option.some.inj hv').symm
  exact ⟨_, by simp, env, hstate ▸ henv, hstate ▸ hphase, hafter ▸ names_withHost hnames host⟩

/-- Without a variable in its path an interpreter is read as it is spelled. -/
theorem not_isRespelled (h : '$' ∉ (v.platform.envPython env).text.toList) :
    ¬IsRespelled v env :=
  fun hrespelled => hrespelled (Settings.expand_eq_self v.root (Settings.not_hasVariable h))

theorem isName_binDir (p : Platform) : Path.IsName p.binDir := by
  cases p <;> exact ⟨by decide, by decide, by decide⟩

theorem isName_pythonName (p : Platform) : Path.IsName p.pythonName := by
  cases p <;> exact ⟨by decide, by decide, by decide⟩

/-- The interpreter of an environment lies two levels below it. -/
theorem twoUp_envPython (p : Platform) (henv : env.isAbsolute = true) :
    ∃ dir, twoUp (p.envPython env) = some dir ∧ env.same dir = true := by
  rcases Path.components_joinText henv (isName_binDir p) with ⟨hbinAbsolute, hbinComponents⟩
  rcases Path.components_joinText hbinAbsolute (isName_pythonName p) with ⟨habsolute, hcomponents⟩
  have hroot : env.components ≠ [] := by
    rcases Path.components_of_isAbsolute henv with ⟨body, -, hcs⟩
    rw [hcs]
    simp
  rcases Path.exists_parent? habsolute (by rw [hbinComponents]; simp) hcomponents with
    ⟨dir, hdir, hdirAbsolute, hdirComponents⟩
  rw [hbinComponents] at hdirComponents
  rcases Path.exists_parent? hdirAbsolute hroot hdirComponents with ⟨top, htop, -, hsame⟩
  refine ⟨top, ?_, ?_⟩
  · have hpython' : (p.envPython env).parent? = some dir := hdir
    rw [twoUp, hpython', Option.bind_some, htop]
  · rw [Path.same, hsame, beq_self_eq_true]

/-- The interpreter that the settings name is read with its variables replaced. -/
theorem interpreter_of_text? {root p : Path}
    (htext : Settings.text? w.files root Settings.pythonPathKey = some p.text)
    (habsolute : p.isAbsolute = true) :
    interpreter w root = ⟨Settings.expand root p.text⟩ := by
  have hnamed := Settings.pythonPath?_of_text? htext (Settings.isAbsolute_expand root habsolute)
  unfold interpreter
  rw [hnamed]

theorem isAbsolute_envPython (p : Platform) (henv : env.isAbsolute = true) :
    (p.envPython env).isAbsolute = true :=
  Path.isAbsolute_join (Path.isAbsolute_join henv _) _

/-- The interpreter of an environment is the setting once it was named. -/
theorem text?_naming (hnamed : (naming w v env).1 = .ok ()) :
    Settings.text? (naming w v env).2 v.root Settings.pythonPathKey =
      some (v.platform.envPython env).text :=
  Settings.text?_set (Path.isEmpty_joinText _ (isName_pythonName v.platform)) hnamed

/-- The interpreter that is read once one was named. -/
theorem interpreter_naming (id : ProjectId) (henv : env.isAbsolute = true)
    (hnamed : (naming w v env).1 = .ok ()) (f : State → State) :
    interpreter (({ w with files := (naming w v env).2 } : World).updateEnv id f) v.root =
      ⟨Settings.expand v.root (v.platform.envPython env).text⟩ :=
  interpreter_of_text? (text?_naming hnamed) (isAbsolute_envPython v.platform henv)

/-- An environment that is put down once the settings name its interpreter. -/
theorem names_inside (hview : view? id w = some v) (henv : env.isAbsolute = true)
    (hnamed : (naming w v env).1 = .ok ()) :
    Names id (({ w with files := (naming w v env).2 } : World).updateEnv id (inside env)) env := by
  refine ⟨_, view?_changed hview _ _, rfl, rfl, ?_⟩
  by_cases hspelled : IsRespelled v env
  · exact .inl ⟨text?_naming hnamed, hspelled⟩
  · right
    have hpython := interpreter_naming id henv hnamed (inside env)
    rw [not_not.1 hspelled] at hpython
    rcases twoUp_envPython v.platform henv with ⟨dir, hdir, hsame⟩
    exact ⟨dir, hpython ▸ hdir, hsame⟩

end

/-! ## The operations -/

section

variable {id : ProjectId} {v : View} {log : List (Ran World)} {s : State}

/-- An environment was to be put down: it is known, or that failed. -/
def Put (id : ProjectId) (failed : State → Prop) :
    Except Error Unit → List (Ran World) → State → Prop
  | .ok _, log, s => Knows id log s
  | .error _, _, s => failed s

/-- An environment was to be got: it is known, or there is none yet, or that failed. -/
def Got (id : ProjectId) (s : State) : Except Error Bool → List (Ran World) → State → Prop
  | .ok true, log, s' => Knows id log s'
  | .ok false, _, s' => s.Like s'
  | .error _, _, s' => s.Like s' ∨ s'.phase = .outside

theorem comes_adopt (hroot : v.root.isAbsolute = true) (name : String) :
    Comes id v (Task.lift (adopt id name)) (Put id s.Like) log s := by
  refine .lift fun w hw => ?_
  cases hnamed : (naming w { v with state := s } (v.root.joinText name)).1 with
  | ok u =>
      have hdoes := does_adopt_ok hw hnamed
      exact ⟨_, _, _, _, hdoes, view?_changed hw _ _, knows_of_does hdoes
        (names_inside hw (Path.isAbsolute_join hroot _) hnamed) (view?_changed hw _ _)⟩
  | error cause => exact ⟨_, _, _, s, does_adopt_error hw hnamed, hw, .refl s⟩

theorem comes_makeEnv (hroot : v.root.isAbsolute = true) (folder : String) :
    Comes id v (Task.lift (makeEnv id folder)) (Put id (·.phase = .outside)) log s := by
  refine .lift fun w hw => ?_
  cases hnamed : (naming w { v with state := s } (envIn v folder)).1 with
  | ok u =>
      have hdoes := does_makeEnv_ok hw hnamed
      exact ⟨_, _, _, _, hdoes, view?_changed hw _ _, knows_of_does hdoes
        (names_inside hw (Path.isAbsolute_join hroot _) hnamed) (view?_changed hw _ _)⟩
  | error cause =>
      exact ⟨_, _, _, _, does_makeEnv_error hw hnamed, view?_changed hw _ _, rfl⟩

/-- If the tool is missing no environment is in use. -/
theorem comes_checked : Comes id v
    (tryCatch (checkTool id) fun cause => do
      setPhase id .outside
      throw cause).run
    (fun outcome _ s' => ∀ cause, outcome = .error cause → s'.phase = .outside) log s := by
  refine .rescue (minor_checkTool.comes v log s) ?_ fun cause log' s' _ => ?_
  · simp
  · exact .update fun _ => .done fun _ _ => rfl

theorem comes_create (hroot : v.root.isAbsolute = true) :
    Comes id v (create id).run (Got id s) log s := by
  refine .look fun _ => ?_
  split
  · exact .pure (.refl s)
  · refine .world fun w hw => ?_
    refine .minor (minor_input _ _ _) fun answer log₁ s₁ _ hlike => ?_
    cases answer with
    | none => exact .pure hlike
    | some folder =>
        -- From here on it is being made, until the check fails or `makeEnv` says what came of it.
        refine .update fun _ => ?_
        refine .minor minor_selectInterpreter fun _ log₂ s₂ _ _ => ?_
        refine .attempt comes_checked (fun _ log₃ s₃ _ => ?_) fun cause _ _ hout =>
          .inr (hout cause rfl)
        refine .attempt (comes_makeEnv hroot folder) (fun _ _ _ hknows => ?_) fun _ _ _ hout =>
          .inr hout
        exact .pure hknows

theorem comes_switchTo (hroot : v.root.isAbsolute = true) (names : List String) :
    Comes id v (switchTo id names).run (Got id s) log s := by
  -- Questions may come first, so the environment need not be adopted in the state of the beginning.
  have hadopt : ∀ name log s₁, s.Like s₁ → Comes id v (do
      Attempt.ofAct (adopt id name)
      pure true : Attempt Bool).run (Got id s) log s₁ := by
    intro name log s₁ hlike
    refine .attempt (comes_adopt hroot name) (fun _ _ _ hknows => ?_) fun _ _ _ hkept => ?_
    · exact .pure hknows
    · exact .inl (hlike.trans hkept)
  unfold switchTo
  split
  · exact comes_create hroot
  · exact hadopt _ log s (.refl s)
  · refine .minor (minor_pick _ _) fun picked log₁ s₁ _ hlike => ?_
    cases picked with
    | none => exact .pure hlike
    | some name => exact .ite (fun _ => hadopt name log₁ s₁ hlike) fun _ => .pure hlike

theorem Got.of_like {answer : Except Error Bool} {s' s'' : State} (hlike : s.Like s')
    (h : Got id s' answer log s'') : Got id s answer log s'' := by
  match answer, h with
  | .ok true, h => exact h
  | .ok false, h => exact hlike.trans h
  | .error _, .inl h => exact .inl (hlike.trans h)
  | .error _, .inr h => exact .inr h

theorem comes_switch (hroot : v.root.isAbsolute = true) :
    Comes id v (switch id).run (Got id s) log s := by
  refine .world fun w hw => ?_
  refine .minor (minor_prompt _ _) fun answer log₁ s₁ _ hlike => ?_
  cases answer with
  | yes => exact (comes_switchTo hroot _).mono fun _ _ _ => .of_like hlike
  | suppress => exact .mute mute_suppress fun _ => .pure hlike
  | no => exact .pure hlike
  | dismissed => exact .pure hlike

/-! ### Seeing to it that an environment is in use -/

/-- Nothing was done, since the questions were suppressed when it began. -/
def Skips (s : State) (log : List (Ran World)) (s' : State) : Prop :=
  (∃ x, log.head? = some x ∧ x.before.suppressed = true) ∧ s.Like s'

/-- The interpreter was seen to belong to an environment. Which one was not put down. -/
def Confirms (v : View) (s : State) (log : List (Ran World)) (s' : State) : Prop :=
  (∃ x ∈ log, isInside x.after v.root = true) ∧ s'.env = s.env ∧ s'.phase = .inside

def Ensured (id : ProjectId) (v : View) (s : State) :
    Except Error Unit → List (Ran World) → State → Prop
  | .ok _, log, s' => Skips s log s' ∨ Confirms v s log s' ∨ Knows id log s' ∨ s'.phase = .outside
  | .error _, _, s' => s.Like s' ∨ s'.phase = .outside

theorem comes_ensure (hroot : v.root.isAbsolute = true) :
    Comes id v (ensure id).run (Ensured id v s) [] s := by
  refine .world fun w hw => ?_
  -- Suppressed, inside already, or to be switched to.
  refine .ite (fun hsuppressed => ?_) fun _ => .ite (fun hinside => ?_) fun _ => ?_
  · exact .pure (.inl ⟨⟨_, rfl, hsuppressed⟩, .refl s⟩)
  · refine .update fun w' => .last minor_ensureRequirements fun _ log₁ s₁ hlog hlike => ?_
    have hlooked : (⟨w, World, Act.world.run⟩ : Ran World) ∈ log₁ :=
      hlog.subset (List.mem_append_left _ (List.mem_singleton_self _))
    rw [root_eq hw] at hinside
    exact .inr (.inl ⟨⟨_, hlooked, hinside⟩, hlike.env, hlike.phase⟩)
  · refine .attempt (comes_switch hroot) (fun switched log₁ s₁ hgot => ?_) fun _ _ _ hgot => hgot
    cases switched with
    | true =>
        refine .update fun w' => .last minor_ensureRequirements fun _ log₂ s₂ hlog hlike => ?_
        have hknows : Knows id log₁ s₁ := hgot
        have hgrown : log₁ <+: log₂ := (List.prefix_append _ _).trans hlog
        exact .inr (.inr (.inl (hknows.mono hgrown ⟨hlike.env, hlike.phase⟩)))
    | false =>
        exact .act fun w' hw' => ⟨(), _, _, _, does_update _ w', view?_updateEnv_some hw' _,
          .done (.inr (.inr (.inr rfl)))⟩

/-! ### Following edits -/

/-- The settings were edited: the environment that they name is known, or none is in use, or there
was none, and the settings name none. -/
def Followed (id : ProjectId) (v : View) (s : State) (log : List (Ran World)) (s' : State) : Prop :=
  Knows id log s' ∨ s'.phase = .outside ∨
    ((∃ x ∈ log, twoUp (interpreter x.after v.root) = none) ∧ s.env = none ∧ s.Like s')

/-- The environment that an interpreter belongs to is two levels above it. -/
theorem twoUp_of_inUse? {w : World} {root env : Path} (h : inUse? w root = some env) :
    twoUp (interpreter w root) = some env := by
  rcases Option.bind_eq_some_iff.1 h with ⟨dir, hdir, henv⟩
  rw [twoUp, (Option.filter_eq_some_iff.1 hdir).1, Option.bind_some, henv]

theorem cases_of_agrees {env dir : Option Path} (h : agrees env dir = true) :
    (∃ e d, env = some e ∧ dir = some d ∧ e.same d = true) ∨ env = none ∧ dir = none := by
  cases env with
  | none =>
      cases dir with
      | none => exact .inr ⟨rfl, rfl⟩
      | some d => simp [agrees] at h
  | some e =>
      cases dir with
      | none => simp [agrees] at h
      | some d => exact .inl ⟨e, d, rfl, rfl, h⟩

theorem comes_settingsChanged :
    Comes id v (Task.lift (settingsChanged id)) (fun _ => Followed id v s) [] s := by
  refine .lift fun w hw => ?_
  -- If the settings name what is in use, nothing is changed. Otherwise it is entered anew, or left.
  cases hsame : s.phase == .inside && agrees s.env (twoUp (interpreter w v.root)) with
  | true =>
      have hdoes := does_settingsChanged_same hw hsame
      rcases Bool.and_eq_true_iff.1 hsame with ⟨hphase, hagrees⟩
      refine ⟨_, _, _, s, hdoes, hw, ?_⟩
      rcases cases_of_agrees hagrees with ⟨env, dir, henv, hdir, hsame⟩ | ⟨henv, hdir⟩
      · have hnames : Names id w env := ⟨_, hw, henv, eq_of_beq hphase, .inr ⟨dir, hdir, hsame⟩⟩
        exact .inl (knows_of_does hdoes hnames hw)
      · refine .inr (.inr ⟨⟨_, List.mem_singleton_self _, ?_⟩, henv, .refl s⟩)
        rcases hdoes.run_eq with ⟨host, hrun⟩
        have hafter : (⟨w, Unit, (settingsChanged id).run⟩ : Ran World).after = w.withHost host :=
          congrArg Prod.snd hrun
        rw [hafter, interpreter_withHost, hdir]
  | false =>
      cases hin : inUse? w v.root with
      | some env =>
          have hdoes := does_settingsChanged_enter hw hsame hin
          have hview := view?_updateEnv_some hw (inside env)
          have hnames : Names id (w.updateEnv id (inside env)) env :=
            ⟨_, hview, rfl, rfl, .inr ⟨env, twoUp_of_inUse? hin, beq_self_eq_true _⟩⟩
          exact ⟨_, _, _, _, hdoes, hview, .inl (knows_of_does hdoes hnames hview)⟩
      | none =>
          exact ⟨_, _, _, _, does_settingsChanged_leave hw hsame hin,
            view?_updateEnv_some hw outside, .inr (.inl rfl)⟩

end

/-- What an operation comes to. -/
def Operation.Post (id : ProjectId) (v : View) (s : State) :
    {α : Type} → Operation α → α → List (Ran World) → State → Prop
  | _, .adopt _ => Put id s.Like
  | _, .switch | _, .create => Got id s
  | _, .ensure => Ensured id v s
  | _, .settingsChanged => fun _ => Followed id v s
  | _, .deactivate => fun _ _ s' => s'.phase = .outside
  | _, .checkTool | _, .checkRequirements | _, .requirementsChanged
  | _, .activate | _, .prependPath | _, .install => fun _ _ s' => s.Like s'

/-- Each operation comes to what is said of it. -/
theorem Operation.comes {id : ProjectId} {v : View} {α : Type} (hroot : v.root.isAbsolute = true)
    (op : Operation α) (s : State) : Comes id v (op.task id) (op.Post id v s) [] s := by
  have hminor : ∀ {β : Type} {t : Work β}, IsMinor id t →
      Comes id v t (fun _ _ s' => s.Like s') [] s :=
    fun ht => (ht.comes v [] s).mono fun _ _ _ hend => hend.2
  -- The operations that are not minor have each its own lemma.
  cases op with
  | adopt name => exact comes_adopt hroot name
  | switch => exact comes_switch hroot
  | ensure => exact comes_ensure hroot
  | create => exact comes_create hroot
  | settingsChanged => exact comes_settingsChanged
  | deactivate =>
      exact .lift fun w hw => ⟨_, _, _, _, does_deactivate hw, view?_updateEnv_some hw outside, rfl⟩
  | checkTool => exact hminor minor_checkTool
  | checkRequirements => exact hminor minor_checkRequirements
  | requirementsChanged => exact hminor minor_requirementsChanged
  | activate => exact hminor (all_lift fun _ => .activate)
  | prependPath => exact hminor (all_lift fun _ => .prependPath)
  | install => exact hminor (all_lift fun _ => .install)

end Environment
end Testbench
