import Testbench.Proofs.Environment.Traces
import Testbench.Proofs.Settings.Merging

/-!
# Taking — how an environment is got

An environment is got in one act, the last one: the interpreter is written to the settings and the
lines are sent. All before it is idle. So what an operation may do that is to get an environment is
what its last step may do, once an environment was offered.

- `Agreed`, `Offered` : the offer to switch was accepted, and which environments may be taken then;
- `Taken`, `Ends`     : what comes of the last step, and how such an operation ends;
- `comes_create_ends`, `comes_switch_ends` : the operations.
-/

namespace Testbench
namespace Environment

open Testbench.Task (Ran)

/-! ## What is offered -/

/-- The environments of a project were seen, and the offer to switch was accepted. -/
structure Agreed (v : View) (front : List (Ran World)) (names : List String) : Prop where
  seen : ∃ w, (⟨w, World, Act.world.run⟩ : Ran World) ∈ front ∧ candidates w v.root = names
  accepted : ∃ x ∈ front, Asks (switchMessage v.root names) .yes x

/-- The environments that may be taken after some steps. -/
inductive Offered (v : View) (front : List (Ran World)) : Path → Prop where
  | only {name : String} : Agreed v front [name] → Offered v front (v.root.joinText name)
  | picked {names : List String} {name : String} : Agreed v front names → name ∈ names →
      (∃ x ∈ front, Picks names name x) → Offered v front (v.root.joinText name)
  | entered {folder : String} : Agreed v front [] → (∃ x ∈ front, Enters folder x) →
      Offered v front (envIn v folder)

/-- A name was entered, and this is the environment that is made under it. -/
def Entered (v : View) (log front : List (Ran World)) (env : Path) : Prop :=
  log <+: front ∧ ∃ folder, env = envIn v folder ∧ ∃ x ∈ front, Enters folder x

/-! ## What comes of it -/

/-- What comes of a step that is to take an environment: its interpreter is named in the settings,
and it is entered; or that fails. An environment that is made is made before. -/
inductive Taken (v : View) (s : State) (x : Ran World) (env : Path) :
    Except Error Bool → State → Prop where
  | adopted : (naming x.before v env).1 = .ok () → Sends v x [.enter env] →
      Taken v s x env (.ok true) (inside env s)
  | made {python : Path} {s' : State} : (naming x.before v env).1 = .ok () →
      Sends v x [.make python env, .enter env] → Taken v s x env (.ok true) (inside env s')
  | refused {cause : Error} : (naming x.before v env).1 = .error cause → Sends v x [] →
      Taken v s x env (.error cause) s
  | inVain {python : Path} {failure : Error} {s' : State} :
      (naming x.before v env).1 = .error failure →
      Sends v x [.make python env] → s'.env = s.env → s'.phase = .outside →
        Taken v s x env (.error (.environment (creationMessage failure))) s'

/-- All steps are idle, and there is no new environment; or the last one is to take an environment
that is offered. -/
inductive Ends (v : View) (offered : List (Ran World) → Path → Prop) (s : State) :
    Except Error Bool → List (Ran World) → State → Prop where
  | kept {r : Except Error Bool} {log : List (Ran World)} {s' : State} : (∀ x ∈ log, Idle v x) →
      r ≠ .ok true → s'.env = s.env → s'.phase = s.phase ∨ s'.phase = .outside →
        Ends v offered s r log s'
  | takes {r : Except Error Bool} {front : List (Ran World)} {x : Ran World}
      {env : Path} {s' : State} :
      (∀ y ∈ front, Idle v y) → offered front env → x.after.files = (naming x.before v env).2 →
        Taken v s x env r s' → Ends v offered s r (front ++ [x]) s'

theorem gainsDirs_naming {v : View} {w : World} {env : Path} {cause : Error}
    (h : (naming w v env).1 = .error cause) : FileTree.GainsDirs w.files (naming w v env).2 :=
  Settings.gainsDirs_merge h

section

variable {id : ProjectId} {v : View} {log more : List (Ran World)} {s : State}

theorem Agreed.mono {names : List String} (h : Agreed v log names) :
    Agreed v (log ++ more) names := by
  rcases h with ⟨⟨w, hw, hnames⟩, x, hx, hasks⟩
  exact ⟨⟨w, List.mem_append_left more hw, hnames⟩, x, List.mem_append_left more hx, hasks⟩

theorem Offered.agreed {env : Path} (h : Offered v log env) : ∃ names, Agreed v log names := by
  cases h with
  | only hagreed => exact ⟨_, hagreed⟩
  | picked hagreed _ _ => exact ⟨_, hagreed⟩
  | entered hagreed _ => exact ⟨_, hagreed⟩

theorem Ends.mono {offered offered' : List (Ran World) → Path → Prop}
    {r : Except Error Bool} {s' : State}
    (hoffered : ∀ front env, offered front env → offered' front env)
    (h : Ends v offered s r log s') :
    Ends v offered' s r log s' := by
  cases h with
  | kept hidle hr henv hphase => exact .kept hidle hr henv hphase
  | takes hidle henv hfiles htaken => exact .takes hidle (hoffered _ _ henv) hfiles htaken

/-- Only idle steps were done, and no other before. -/
structure StaysIdle (v : View) (log log' : List (Ran World)) : Prop where
  grown : log <+: log'
  idle : ∀ x ∈ log', Idle v x

namespace StaysIdle

variable {log' : List (Ran World)}

theorem refl (h : ∀ x ∈ log, Idle v x) : StaysIdle v log log := ⟨List.prefix_rfl, h⟩

theorem snoc {x : Ran World} (h : StaysIdle v log log') (hx : Idle v x) :
    StaysIdle v log (log' ++ [x]) :=
  ⟨h.grown.trans (List.prefix_append _ _),
    List.forall_mem_append.2 ⟨h.idle, List.forall_mem_singleton.2 hx⟩⟩

theorem idled {log'' : List (Ran World)} {s' : State} (h : StaysIdle v log log')
    (hidled : Idled v s log' log'' s') : StaysIdle v log log'' := by
  have hall := hidled.all h.idle
  rcases hidled with ⟨-, rest, rfl, -⟩
  exact ⟨h.grown.trans (List.prefix_append _ _), hall⟩

end StaysIdle

/-! ## The last step -/

/-- One more step was done, which was to take an environment. -/
def Took (v : View) (s : State) (env : Path) (log : List (Ran World)) (r : Except Error Unit)
    (log' : List (Ran World)) (s' : State) : Prop :=
  ∃ x, log' = log ++ [x] ∧ x.after.files = (naming x.before v env).2 ∧
    Taken v s x env (r.map fun _ => true) s'

theorem comes_adopt_took (name : String) :
    Comes id v (Task.lift (adopt id name)) (Took v s (v.root.joinText name) log) log s := by
  refine .lift fun w hw => ?_
  cases hnamed : (naming w { v with state := s } (v.root.joinText name)).1 with
  | ok u =>
      have hdoes := does_adopt_ok hw hnamed
      exact ⟨_, _, _, _, hdoes, view?_changed hw _ _, _, rfl, hdoes.files_after,
        .adopted hnamed hdoes.sends⟩
  | error cause =>
      have hdoes := does_adopt_error hw hnamed
      exact ⟨_, _, _, s, hdoes, hw, _, rfl, hdoes.files_after, .refused hnamed hdoes.sends⟩

theorem comes_makeEnv_took {s₀ : State} (folder : String) (henv : s.env = s₀.env) :
    Comes id v (Task.lift (makeEnv id folder)) (Took v s₀ (envIn v folder) log) log s := by
  refine .lift fun w hw => ?_
  cases hnamed : (naming w { v with state := s } (envIn v folder)).1 with
  | ok u =>
      have hdoes := does_makeEnv_ok hw hnamed
      exact ⟨_, _, _, _, hdoes, view?_changed hw _ _, _, rfl, hdoes.files_after,
        .made hnamed hdoes.sends⟩
  | error cause =>
      have hdoes := does_makeEnv_error hw hnamed
      exact ⟨_, _, _, _, hdoes, view?_changed hw _ _, _, rfl, hdoes.files_after,
        .inVain hnamed hdoes.sends henv rfl⟩

/-- An operation ends with the step that is to take an environment. -/
theorem comes_ends {m : Act (Except Error Unit)} {offered : List (Ran World) → Path → Prop}
    {s₀ : State} {env : Path} (h : Comes id v (Task.lift m) (Took v s₀ env log) log s)
    (hlog : ∀ x ∈ log, Idle v x) (henv : offered log env) :
    Comes id v (do
      Attempt.ofAct m
      pure true : Attempt Bool).run
      (fun r log' s' => log <+: log' ∧ Ends v offered s₀ r log' s') log s := by
  have hends : ∀ (r : Except Error Unit) (log' : List (Ran World)) (s' : State),
      Took v s₀ env log r log' s' →
        log <+: log' ∧ Ends v offered s₀ (r.map fun _ => true) log' s' := by
    rintro r _ s' ⟨x, rfl, hfiles, htaken⟩
    exact ⟨List.prefix_append _ _, .takes hlog henv hfiles htaken⟩
  exact .attempt h (fun _ _ _ htook => .pure (hends _ _ _ htook)) fun _ _ _ htook =>
    hends _ _ _ htook

/-! ## The operations -/

/-- If the tool is missing no environment is in use. -/
theorem comes_checked_rests {log' : List (Ran World)} (hrests : StaysIdle v log log') : Comes id v
    (tryCatch (checkTool id) fun cause => do
      setPhase id .outside
      throw cause).run
    (fun outcome log'' s' => (StaysIdle v log log'' ∧ s'.env = s.env) ∧
      ∀ cause, outcome = .error cause → s'.phase = .outside) log' s := by
  refine .rescue ((minor_checkTool.comes v log' s).steps isIdle_checkTool) ?_ ?_
  · rintro _ _ s' ⟨⟨hgrown, hlike⟩, more, rfl, hmore⟩
    exact ⟨⟨⟨hrests.grown.trans hgrown, List.forall_mem_append.2 ⟨hrests.idle, hmore⟩⟩, hlike.env⟩,
      fun _ h => nomatch h⟩
  · rintro cause _ s' ⟨⟨hgrown, hlike⟩, more, rfl, hmore⟩
    have hafter : StaysIdle v log (log' ++ more) :=
      ⟨hrests.grown.trans hgrown, List.forall_mem_append.2 ⟨hrests.idle, hmore⟩⟩
    exact .update fun w => .done ⟨⟨hafter.snoc (idle_update _ v w), hlike.env⟩, fun _ _ => rfl⟩

theorem comes_create_ends (hlog : ∀ x ∈ log, Idle v x) :
    Comes id v (create id).run (fun r log' s' => log <+: log' ∧
      Ends v (Entered v log) s r log' s') log s := by
  refine .look fun w₀ => ?_
  have hstate : Idle v ⟨w₀, State, (state id).run⟩ := idle_state v w₀
  have hlooked := (StaysIdle.refl hlog).snoc hstate
  -- While one environment is being made no other is.
  split
  · exact .pure ⟨hlooked.grown, .kept hlooked.idle (by simp) rfl (.inl rfl)⟩
  · refine .world fun w hw => .part (comes_input _ _ _) fun answer log₁ s₁ hinput => ?_
    have hasked := (hlooked.snoc (idle_world v w)).idled hinput.1
    have hs₁ : s₁ = s := hinput.1.1
    cases answer with
    | none => exact .pure ⟨hasked.grown, .kept hasked.idle (by simp) (hs₁ ▸ rfl) (.inl (hs₁ ▸ rfl))⟩
    | some folder =>
        refine .update fun w₁ => .part comes_selectInterpreter fun _ log₂ s₂ hselected => ?_
        have hchosen := ((StaysIdle.refl hasked.idle).snoc (idle_update _ v w₁)).idled hselected
        refine .attempt (comes_checked_rests hchosen) ?_ ?_
        · rintro _ log₃ s₃ ⟨⟨hchecked, henv⟩, -⟩
          have hgrown : log <+: log₃ := hasked.grown.trans hchecked.grown
          have hkept : s₃.env = s.env := by rw [henv, hselected.1, hs₁]
          rcases hinput.2 folder rfl with ⟨x, hx, henters⟩
          have hentered : Entered v log log₃ (envIn v folder) :=
            ⟨hgrown, folder, rfl, x, hchecked.grown.subset hx, henters⟩
          refine (comes_ends (comes_makeEnv_took folder hkept) hchecked.idle hentered).mono ?_
          exact fun _ _ _ hend => ⟨hgrown.trans hend.1, hend.2⟩
        · rintro cause log₃ s₃ ⟨⟨hchecked, henv⟩, hout⟩
          have hkept : s₃.env = s.env := by rw [henv, hselected.1, hs₁]
          exact ⟨hasked.grown.trans hchecked.grown,
            .kept hchecked.idle (by simp) hkept (.inr (hout cause rfl))⟩

/-- Which environments there are decides what is asked next. -/
theorem comes_switchTo_ends {names : List String} (hlog : ∀ x ∈ log, Idle v x)
    (hagreed : Agreed v log names) :
    Comes id v (switchTo id names).run
      (fun r log' s' => log <+: log' ∧ Ends v (Offered v) s r log' s') log s := by
  unfold switchTo
  split
  · refine (comes_create_ends hlog).mono fun r log' s' hend => ⟨hend.1, hend.2.mono ?_⟩
    rintro _ _ ⟨⟨more, rfl⟩, folder, rfl, hentered⟩
    exact .entered hagreed.mono hentered
  · exact comes_ends (comes_adopt_took _) hlog (.only hagreed)
  · refine .part (comes_pick _ _) fun picked log₁ s₁ hpick => ?_
    have hpicked := (StaysIdle.refl hlog).idled hpick.1
    obtain rfl : s₁ = s := hpick.1.1
    have hkept : log <+: log₁ ∧ Ends v (Offered v) s₁ (.ok false) log₁ s₁ :=
      ⟨hpicked.grown, .kept hpicked.idle (by simp) rfl (.inl rfl)⟩
    cases picked with
    | none => exact .pure hkept
    | some name =>
        -- A name that was not offered is not taken.
        refine .ite (fun hoffered => ?_) fun _ => .pure hkept
        rcases hpicked.grown with ⟨more, rfl⟩
        have hname : Offered v (log ++ more) (v.root.joinText name) :=
          .picked hagreed.mono (List.contains_iff_mem.1 hoffered) (hpick.2 name rfl)
        refine (comes_ends (comes_adopt_took name) hpicked.idle hname).mono ?_
        exact fun _ _ _ hend => ⟨hpicked.grown.trans hend.1, hend.2⟩

theorem comes_switch_ends (hlog : ∀ x ∈ log, Idle v x) :
    Comes id v (switch id).run (fun r log' s' => Ends v (Offered v) s r log' s' ∧
      ((∃ names, Agreed v log' names) ∨ r = .ok false ∧ s' = s)) log s := by
  refine .world fun w hw => ?_
  have hseen := (StaysIdle.refl hlog).snoc (idle_world v w)
  rw [root_eq hw]
  refine .part (comes_prompt _ _) fun answer log₁ s₁ hprompt => ?_
  have hasked := (StaysIdle.refl hseen.idle).idled hprompt.1
  obtain rfl : s₁ = s := hprompt.1.1
  have hkept : Ends v (Offered v) s₁ (.ok false) log₁ s₁ :=
    .kept hasked.idle (by simp) rfl (.inl rfl)
  -- Only a yes goes on, and it has agreed to the names that were looked up before.
  cases answer with
  | yes =>
      have hagreed : Agreed v log₁ (candidates w v.root) :=
        ⟨⟨w, hasked.grown.subset (List.mem_append_right log (List.mem_singleton_self _)), rfl⟩,
          hprompt.2⟩
      refine (comes_switchTo_ends hasked.idle hagreed).mono ?_
      rintro _ _ _ ⟨⟨more, rfl⟩, hends⟩
      exact ⟨hends, .inl ⟨_, hagreed.mono⟩⟩
  | suppress =>
      refine .mute mute_suppress fun w' =>
        .pure ⟨.kept ?_ (by simp) rfl (.inl rfl), .inr ⟨rfl, rfl⟩⟩
      exact (hasked.snoc (idle_suppress v w')).idle
  | no => exact .pure ⟨hkept, .inr ⟨rfl, rfl⟩⟩
  | dismissed => exact .pure ⟨hkept, .inr ⟨rfl, rfl⟩⟩

end

end Environment
end Testbench
