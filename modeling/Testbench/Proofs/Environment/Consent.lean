import Testbench.Proofs.Environment.Taking

/-!
# Consent — what is done only after a yes

Seeing to it that an environment is in use may write the settings, send lines and put an environment
down. Each of these is a step of its own, and what a person said before it decides whether it may be
taken. So what is said of a step is said of it together with the steps before it.

- `NamesOnly`           : the interpreter is all that changes in the settings;
- `Permitted`           : what a step may do after those before it;
- `Ends.allPermitted`, `comes_ensureRequirements_permitted` : the parts of the operation;
- `changes_only_agreed` : the operation;
- `double_drifts`       : a setting that changes although nobody agreed to that.
-/

namespace Testbench
namespace Environment

open FileTree (GainsDirs)
open Testbench.Task (Ran)

/-! ## What is permitted -/

/-- The settings name an interpreter. Their other fields are read back as they were written, so
those without doubles are the same. -/
def NamesOnly (root python : Path) (t t' : FileTree) : Prop :=
  ∃ fields fields', Settings.read t root = .ok fields ∧ Settings.read t' root = .ok fields' ∧
    fields'.get? Settings.pythonPathKey = some (.text python.text) ∧
      ∀ key, key ≠ Settings.pythonPathKey →
        fields'.get? key = (fields.get? key).map Json.reread ∧
          ∀ j, fields.get? key = some j → j.IsWhole → fields'.get? key = some j

/-- What a step may do after those before it. Where an environment is offered, the lines that make
it and enter it may be sent, and its interpreter may be named in the settings, unless that fails. -/
inductive Permitted (v : View) (front : List (Ran World)) (x : Ran World) : Prop where
  | idle : Idle v x → Permitted v front x
  | takes {env : Path} {lines : List Line} : Offered v front env → Sends v x lines →
      (∀ l ∈ lines, l = .enter env ∨ ∃ python, l = .make python env) →
        NamesOnly v.root (v.platform.envPython env) x.before.files x.after.files ∨
          GainsDirs x.before.files x.after.files → Permitted v front x
  | installs : (∃ y ∈ front, Asks installMessage .yes y) → x.after.files = x.before.files →
      Sends v x (installed x.before v.root) → Permitted v front x

/-- Each step is permitted after those before it. -/
def AllPermitted (v : View) (log : List (Ran World)) : Prop :=
  ∀ front x back, log = front ++ x :: back → Permitted v front x

section

variable {v : View} {log more : List (Ran World)} {x : Ran World}

theorem AllPermitted.snoc (h : AllPermitted v log) (hx : Permitted v log x) :
    AllPermitted v (log ++ [x]) := by
  intro front y last heq
  -- Nothing comes after the new step, so what comes after an old one ends with it.
  rcases List.eq_nil_or_concat last with rfl | ⟨rest, z, rfl⟩
  · rcases List.append_inj' heq rfl with ⟨rfl, hlast⟩
    exact List.singleton_inj.1 hlast ▸ hx
  · rw [List.concat_eq_append, ← List.cons_append, ← List.append_assoc] at heq
    exact h front y rest (List.append_inj' heq rfl).1

theorem AllPermitted.idled (h : AllPermitted v log) (hmore : ∀ x ∈ more, Idle v x) :
    AllPermitted v (log ++ more) := by
  induction more using List.reverseRecOn with
  | nil => rwa [List.append_nil]
  | append_singleton front x ih =>
      rcases List.forall_mem_append.1 hmore with ⟨hfront, hx⟩
      rw [← List.append_assoc]
      exact (ih hfront).snoc (.idle (hx x (List.mem_singleton_self x)))

theorem AllPermitted.of_idle (h : ∀ x ∈ log, Idle v x) : AllPermitted v log :=
  fun front x _ heq => .idle (h x (heq ▸ List.mem_append_right front List.mem_cons_self))

end

/-! ## Taking an environment -/

section

variable {id : ProjectId} {v : View} {log : List (Ran World)} {s : State} {w : World} {env : Path}

theorem namesOnly_naming (h : (naming w v env).1 = .ok ()) :
    NamesOnly v.root (v.platform.envPython env) w.files (naming w v env).2 := by
  have hmerged : Settings.merge w.files v.root
      (Settings.texts [(Settings.pythonPathKey, (v.platform.envPython env).text)]) =
        (.ok (), (naming w v env).2) := Prod.ext h rfl
  rcases Settings.get?_merged hmerged with ⟨fields, fields', hread, hread', hget⟩
  refine ⟨fields, fields', hread, hread', ?_, fun key hkey => ?_⟩
  · rw [hget]
    rfl
  · have hother : (Json.Fields.insert [] Settings.pythonPathKey
        (.text (v.platform.envPython env).text)).get? key = none := by
      rw [Json.Fields.get?_eq, Json.Fields.insert_eq, Keyed.get?_insert, if_neg hkey.symm]
      rfl
    have hback : fields'.get? key = (fields.get? key).map Json.reread := by
      exact (hget key).trans (congrArg (Option.or · _) hother)
    refine ⟨hback, fun j hj hwhole => ?_⟩
    rw [hback, hj, Option.map_some, Json.reread_eq_self j hwhole]

theorem Taken.permitted {front : List (Ran World)} {x : Ran World}
    {r : Except Error Bool} {s' : State}
    (h : Taken v s x env r s') (henv : Offered v front env)
    (hfiles : x.after.files = (naming x.before v env).2) : Permitted v front x := by
  have hnames : (naming x.before v env).1 = .ok () →
      NamesOnly v.root (v.platform.envPython env) x.before.files x.after.files :=
    fun hnamed => hfiles ▸ namesOnly_naming hnamed
  have hgains : ∀ {cause}, (naming x.before v env).1 = .error cause →
      GainsDirs x.before.files x.after.files :=
    fun hnamed => hfiles ▸ gainsDirs_naming hnamed
  cases h with
  | adopted hnamed hsends => exact .takes henv hsends (by simp) (.inl (hnames hnamed))
  | made hnamed hsends => exact .takes henv hsends (by simp) (.inl (hnames hnamed))
  | refused hnamed hsends => exact .takes henv hsends (by simp) (.inr (hgains hnamed))
  | inVain hnamed hsends _ _ => exact .takes henv hsends (by simp) (.inr (hgains hnamed))

theorem Ends.allPermitted {r : Except Error Bool} {s' : State} (h : Ends v (Offered v) s r log s') :
    AllPermitted v log := by
  cases h with
  | kept hidle _ _ _ => exact .of_idle hidle
  | takes hidle henv hfiles htaken =>
      exact (AllPermitted.of_idle hidle).snoc (htaken.permitted henv hfiles)

/-! ## The requirements -/

theorem comes_queryRequirements :
    Comes id v (queryRequirements id) (fun _ log' s' => Idled v s log log' s') log s := by
  refine .seen fun w _ => ?_
  dsimp only [Task.bind]
  split
  · exact .done ⟨rfl, _, rfl, by simpa using idle_world v w⟩
  · refine .bind (comes_run _) fun _ log' s' hrun => .done ?_
    rcases hrun with ⟨rfl, more, rfl, hmore⟩
    exact ⟨rfl, _, List.append_assoc _ _ _,
      List.forall_mem_append.2 ⟨by simpa using idle_world v w, hmore⟩⟩

/-- The same environment is in use, and whether one was made is the same. -/
def Keeps (s s' : State) : Prop := s'.env = s.env ∧ s'.initialized = s.initialized

theorem comes_checkRequirements (hlog : AllPermitted v log) :
    Comes id v (checkRequirements id)
      (fun _ log' s' => log <+: log' ∧ AllPermitted v log' ∧ Keeps s s') log s := by
  refine .bind comes_queryRequirements fun status log' s' hquery => ?_
  rcases hquery with ⟨rfl, more, rfl, hmore⟩
  refine .act fun w hw => ⟨(), _, _, _, does_update _ w, view?_updateEnv_some hw _, .done ?_⟩
  exact ⟨(List.prefix_append _ _).trans (List.prefix_append _ _),
    (hlog.idled hmore).snoc (.idle (idle_update _ v w)), rfl, rfl⟩

theorem comes_ensureRequirements_permitted (hlog : AllPermitted v log) :
    Comes id v (ensureRequirements id)
      (fun _ log' s' => log <+: log' ∧ AllPermitted v log' ∧ Keeps s s') log s := by
  refine .bind (comes_checkRequirements hlog) fun status log₁ s₁ hchecked => ?_
  -- Only unsatisfied requirements are asked about, and only a yes sends a line.
  cases status with
  | satisfied => exact .done hchecked
  | unknown => exact .done hchecked
  | unsatisfied =>
      refine .bind (comes_prompt _ _) fun answer log₂ s₂ hprompt => ?_
      rcases hprompt with ⟨⟨rfl, more, rfl, hmore⟩, hasked⟩
      have hlog₂ : AllPermitted v (log₁ ++ more) := hchecked.2.1.idled hmore
      have hgrown : log <+: log₁ ++ more := hchecked.1.trans (List.prefix_append _ _)
      cases answer with
      | no => exact .done ⟨hgrown, hlog₂, hchecked.2.2⟩
      | dismissed => exact .done ⟨hgrown, hlog₂, hchecked.2.2⟩
      | suppress =>
          refine .lift fun w hw => ⟨_, _, _, _, does_suppress _ w, hw, ?_⟩
          exact ⟨hgrown.trans (List.prefix_append _ _), hlog₂.snoc (.idle (idle_suppress v w)),
            hchecked.2.2⟩
      | yes =>
          refine .lift fun w hw => ?_
          have hdoes := does_install hw
          refine ⟨_, _, _, _, hdoes, hw, hgrown.trans (List.prefix_append _ _), ?_, hchecked.2.2⟩
          exact hlog₂.snoc (.installs hasked hdoes.files_after hdoes.of_state.sends)

/-! ## The operation -/

theorem comes_ensure_permitted : Comes id v (ensure id).run
      (fun _ log' s' => AllPermitted v log' ∧ ((∃ names, Agreed v log' names) ∨ Keeps s s'))
      [] s := by
  refine .world fun w hw => ?_
  have hlooked : ∀ x ∈ [(⟨w, World, Act.world.run⟩ : Ran World)], Idle v x := by
    simpa using idle_world v w
  -- Questions are no longer asked, or an environment is in use, or there is to be one.
  refine .ite (fun _ => .pure ⟨.of_idle hlooked, .inr ⟨rfl, rfl⟩⟩) fun _ => ?_
  refine .ite (fun _ => .update fun w' => ?_) fun _ => ?_
  · have hlog := AllPermitted.of_idle hlooked
    refine .bind (comes_ensureRequirements_permitted (hlog.snoc (.idle (idle_update _ v w'))))
      fun _ _ _ hend => .done ?_
    exact ⟨hend.2.1, .inr hend.2.2⟩
  · refine .attempt (comes_switch_ends hlooked) (fun switched log₁ s₁ hends => ?_) ?_
    · have hlog₁ := hends.1.allPermitted
      cases switched with
      | true =>
          rcases hends.2 with ⟨names, hagreed⟩ | ⟨hfalse, -⟩
          · refine .update fun w' => .bind
              (comes_ensureRequirements_permitted (hlog₁.snoc (.idle (idle_update _ v w'))))
              fun _ _ _ hend => .done ?_
            rcases hend with ⟨⟨more, rfl⟩, hpermitted, -⟩
            exact ⟨hpermitted, .inl ⟨names, hagreed.mono.mono⟩⟩
          -- Without the yes there would be no switch.
          · exact nomatch hfalse
      | false =>
          refine .act fun w' hw' => ⟨(), _, _, _, does_update _ w', view?_updateEnv_some hw' _,
            .done ⟨hlog₁.snoc (.idle (idle_update _ v w')), ?_⟩⟩
          rcases hends.2 with ⟨names, hagreed⟩ | ⟨-, rfl⟩
          · exact .inl ⟨names, hagreed.mono⟩
          · exact .inr ⟨rfl, rfl⟩
    · rintro cause log₁ s₁ ⟨hends, hagreed | ⟨herror, -⟩⟩
      · exact ⟨hends.allPermitted, .inl hagreed⟩
      · exact nomatch herror

/-- Whatever the settings hold, whatever a person answers and programs print, and whatever others
change meanwhile but the project: each step of seeing to it that an environment is in use is
permitted by what a person has said before it. And unless the offer to switch was accepted, the
environment in use is the one before, and whether one was made is the same. So without a yes to any
question no step sends anything or changes a file, unless by a program that it started, and both are
the same. -/
theorem changes_only_agreed {w w' : World} {r : Except Error Unit} (hview : view? id w = some v)
    (h : Completes id (ensure id).run w log r w') :
    (∀ front x back, log = front ++ x :: back → Permitted v front x) ∧
      ∃ s, view? id w' = some { v with state := s } ∧
        ((∃ names, Agreed v log names) ∨ Keeps v.state s) ∧
        ((∀ x ∈ log, ∀ message, ¬Asks message .yes x) →
          (∀ x ∈ log, Idle v x) ∧ Keeps v.state s) := by
  rcases (comes_ensure_permitted (s := v.state)).of_completes h hview
    with ⟨s, hview', hpermitted, hstate⟩
  refine ⟨hpermitted, s, hview', hstate, fun hno => ?_⟩
  have hdisagreed : ∀ front back names, log = front ++ back → ¬Agreed v front names := by
    rintro front back names rfl ⟨-, y, hy, hasks⟩
    exact hno y (List.mem_append_left back hy) _ hasks
  -- A step that is not idle has a yes before it.
  refine ⟨fun x hx => ?_, ?_⟩
  · rcases List.append_of_mem hx with ⟨front, back, hlog⟩
    cases hpermitted front x back hlog with
    | idle hidle => exact hidle
    | takes henv _ _ _ =>
        rcases henv.agreed with ⟨names, hagreed⟩
        exact absurd hagreed (hdisagreed front _ names hlog)
    | installs hasked _ _ =>
        rcases hasked with ⟨y, hy, hasks⟩
        exact absurd hasks (hno y (hlog ▸ List.mem_append_left _ hy) _)
  · rcases hstate with ⟨names, hagreed⟩ | hkeeps
    · exact absurd hagreed (hdisagreed log [] names (List.append_nil log).symm)
    · exact hkeeps

end

/-! ### A project with settings and no environment -/

namespace Consent

/-- A project with some settings, and a person who has one answer ready. -/
def asked (settings : String) (answer : Host.Answer) : World :=
  { Placement.asked [(["p"], .dir), (["p", ".vscode"], .dir),
      (["p", ".vscode", "settings.json"], .file ⟨settings.toUTF8, false, false, 0⟩)] "a" with
    host := .recorder { Host.Recorder.fresh with
      prompts := [answer]
      inputs := [some "a"]
      terminals := [⟨Terminal.nameFor ⟨"/p"⟩, ⟨"/p"⟩, [], 0, false⟩] } }

def view : View := ⟨⟨"/p"⟩, .unix, .initial⟩

/-- Once the offer was accepted an environment is in use, and nothing is done where no question is
asked. -/
theorem changes_only_agreed_asked :
    (view? 0 (asked "\x7b\x7d" .yes) = some view ∧
      ∃ log r, Completes 0 (ensure 0).run (asked "\x7b\x7d" .yes) log r
          (alone (ensure 0).run (asked "\x7b\x7d" .yes)).2 ∧
        ∃ names, Agreed view log names) ∧
    ∃ w log r w', view? 0 w = some view ∧ Completes 0 (ensure 0).run w log r w' ∧
      (∀ x ∈ log, ∀ message, ¬Asks message .yes x) ∧ ∀ x ∈ log, Idle view x := by
  have hview : view? 0 (asked "\x7b\x7d" .yes) = some view := rfl
  refine ⟨⟨hview, ?_⟩, ?_⟩
  · rcases completes_alone 0 (ensure 0).run (asked "\x7b\x7d" .yes) with ⟨log, r, -, hruns⟩
    refine ⟨log, r, hruns, ?_⟩
    rcases changes_only_agreed hview hruns with ⟨-, s, hview', hagreed | hkeeps, -⟩
    · exact hagreed
    · have henv : ((alone (ensure 0).run (asked "\x7b\x7d" .yes)).2.project 0).env.env =
          some ⟨"/p/a"⟩ := by
        decide +kernel
      rw [state_eq hview'] at henv
      exact nomatch hkeeps.1.symm.trans henv
  -- Where messages are suppressed there is no question, and nothing is done.
  · let w : World := { asked "\x7b\x7d" .yes with suppressed := true }
    have hruns : Completes 0 (ensure 0).run w [⟨w, World, Act.world.run⟩] (.ok ()) w :=
      .step (.act _ _ w) (.done _ w)
    have hno :
        ∀ x ∈ [(⟨w, World, Act.world.run⟩ : Ran World)], ∀ message, ¬Asks message .yes x := by
      intro x hx message hasks
      rw [List.mem_singleton.1 hx] at hasks
      exact nomatch hasks.prompts
    rcases changes_only_agreed (v := view) rfl hruns with ⟨-, s, -, -, hidle⟩
    exact ⟨w, _, _, w, rfl, hruns, hno, (hidle hno).1⟩

/-- Two numbers of which the first is read as the double below the nearest, and the second as one
that is not read back. -/
def numbers : String := "\x7b\"x\": 97.45365320034685, \"y\": 97.453653200346850\x7d"

def setting (w : World) (key : String) : Option Json :=
  (Settings.read w.files ⟨"/p"⟩).toOption.bind (Json.Fields.get? · key)

/-- The person agrees to an environment, and two numbers change: one in the file, and one as it is
read from the file. -/
theorem double_drifts :
    (∃ log r, Completes 0 (ensure 0).run (asked numbers .yes) log r
      (alone (ensure 0).run (asked numbers .yes)).2) ∧
    ((alone (ensure 0).run (asked numbers .yes)).2.files.readText (Settings.path ⟨"/p"⟩)).toOption =
      some ("\x7b\n    \"python.pythonPath\": \"/p/a/bin/python\",\n" ++
        "    \"x\": 97.45365320034684,\n    \"y\": 97.45365320034685\n\x7d") ∧
    (setting (asked numbers .yes) "y").map (·.pretty 0) = some "97.45365320034685" ∧
    (setting (alone (ensure 0).run (asked numbers .yes)).2 "y").map (·.pretty 0) =
      some "97.45365320034684" := by
  rcases completes_alone 0 (ensure 0).run (asked numbers .yes) with ⟨log, r, -, hruns⟩
  exact ⟨⟨log, r, hruns⟩, by decide +kernel, by decide +kernel, by decide +kernel⟩

end Consent

end Environment
end Testbench
