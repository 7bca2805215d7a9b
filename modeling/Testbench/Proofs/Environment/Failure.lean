import Testbench.Proofs.Environment.Taking

/-!
# Failure — what an operation leaves behind that fails

An operation that is to get an environment can fail where the tool is looked for, and where the
settings are read and written. Until then its steps were idle, but for the line that makes the
environment, which is sent before the settings are written. So a failure leaves the files, the
environment in use and the terminal as they were, or exactly that line; and the phase is the one
before, or none is in use.

- `WritesNothing`          : a step after which only directories are new;
- `Failed`                 : what a failure leaves;
- `Ends.onFailure`, `comes_adopt_failed`, `comes_ensure_failed` : the operations, one by one;
- `failed_without_trace`   : all of them;
- `making_sent_on_failure` : a line that is sent although nothing comes of it.
-/

namespace Testbench
namespace Environment

open FileTree (GainsDirs)
open Sharing (Starts)
open Testbench.Task (Plays Ran)

/-! ## What a failure leaves -/

/-- After a step only directories are new, or it starts a program. -/
def WritesNothing (x : Ran World) : Prop := GainsDirs x.before.files x.after.files ∨ Starts x

theorem Idle.writesNothing {v : View} {x : Ran World} (h : Idle v x) : WritesNothing x := by
  rcases h.files with hsame | hstarts
  · exact .inl (hsame ▸ .refl _)
  · exact .inr hstarts

theorem Does.writesNothing {v : View} {α : Type} {m : Act α} {w w' : World} {a : α}
    {lines : List Line} (h : Does v m w a w' lines) (hgains : GainsDirs w.files w'.files) :
    WritesNothing ⟨w, α, m.run⟩ := by
  have hafter := h.files_after
  exact .inl (by rw [hafter]; exact hgains)

/-- The line that makes an environment was sent, and then the settings could not be written. -/
def MadeInVain (v : View) (cause : Error) (log : List (Ran World)) : Prop :=
  ∃ env python failure, cause = .environment (creationMessage failure) ∧
    Sent v log [.make python env] ∧ ∃ x ∈ log, (naming x.before v env).1 = .error failure

/-- If the answer is an error: no file was written, the environment in use is the same, no phase has
begun but that none is in use, and nothing was sent, unless an environment was made in vain. -/
structure Failed (v : View) (makes : Prop) (s : State) (cause : Error) (log : List (Ran World))
    (s' : State) : Prop where
  files : ∀ x ∈ log, WritesNothing x
  env : s'.env = s.env
  phase : s'.phase = s.phase ∨ s'.phase = .outside
  lines : Sent v log [] ∨ makes ∧ MadeInVain v cause log

section

variable {id : ProjectId} {v : View} {log : List (Ran World)} {s : State}

theorem Failed.of_idle {makes : Prop} {cause : Error} {s' : State} (hlog : ∀ x ∈ log, Idle v x)
    (henv : s'.env = s.env) (hphase : s'.phase = s.phase ∨ s'.phase = .outside) :
    Failed v makes s cause log s' :=
  ⟨fun x hx => (hlog x hx).writesNothing, henv, hphase,
    .inl (.of_quiet fun x hx => (hlog x hx).sends)⟩

/-- What an attempt comes to if it fails. -/
def OnFailure (v : View) (makes : Prop) (s : State) {α : Type} (r : Except Error α)
    (log : List (Ran World)) (s' : State) : Prop :=
  ∀ cause, r = .error cause → Failed v makes s cause log s'

theorem onFailure_ok {makes : Prop} {α : Type} {a : α} {s' : State} :
    OnFailure v makes s (.ok a) log s' :=
  fun _ h => nomatch h

/-! ## The operations -/

theorem forall_writesNothing {x : Ran World} (hlog : ∀ y ∈ log, Idle v y) (hx : WritesNothing x) :
    ∀ y ∈ log ++ [x], WritesNothing y :=
  List.forall_mem_append.2 ⟨fun y hy => (hlog y hy).writesNothing, List.forall_mem_singleton.2 hx⟩

theorem comes_adopt_failed (hlog : ∀ x ∈ log, Idle v x) (name : String) :
    Comes id v (Task.lift (adopt id name)) (OnFailure v False s) log s := by
  refine .lift fun w hw => ?_
  cases hnamed : (naming w { v with state := s } (v.root.joinText name)).1 with
  | ok u => exact ⟨_, _, _, _, does_adopt_ok hw hnamed, view?_changed hw _ _, onFailure_ok⟩
  | error cause =>
      have hdoes := does_adopt_error hw hnamed
      have hsends : Sends v ⟨w, _, (adopt id name).run⟩ [] := hdoes.sends
      refine ⟨_, _, _, s, hdoes, hw, fun _ _ => ?_⟩
      exact
        { files := forall_writesNothing hlog (hdoes.writesNothing (gainsDirs_naming hnamed))
          env := rfl
          phase := .inl rfl
          lines := .inl (.of_last (fun x hx => (hlog x hx).sends) hsends) }

/-- A step that is to take an environment leaves at most the line that makes it, where it fails. -/
theorem Ends.onFailure {offered : List (Ran World) → Path → Prop}
    {r : Except Error Bool} {s' : State}
    (h : Ends v offered s r log s') : OnFailure v True s r log s' := by
  intro cause hcause
  cases h with
  | kept hidle _ henv hphase => exact .of_idle hidle henv hphase
  | @takes front x env s' hidle _ hfiles htaken =>
      have hquiet : ∀ y ∈ front, Sends v y [] := fun y hy => (hidle y hy).sends
      have hvain : ∀ {failure}, (naming x.before v env).1 = .error failure →
          ∀ y ∈ front ++ [x], WritesNothing y := fun hnamed =>
        forall_writesNothing hidle (.inl (by rw [hfiles]; exact gainsDirs_naming hnamed))
      -- An environment that was entered is no failure.
      cases htaken with
      | adopted _ _ => exact nomatch hcause
      | made _ _ => exact nomatch hcause
      | refused hnamed hsends => exact ⟨hvain hnamed, rfl, .inl rfl, .inl (.of_last hquiet hsends)⟩
      | inVain hnamed hsends henv hphase =>
          have hx : x ∈ front ++ [x] := List.mem_append_right front (List.mem_singleton_self x)
          exact ⟨hvain hnamed, henv, .inr hphase, .inr ⟨trivial, env, _, _,
            (Except.error.inj hcause).symm, .of_last hquiet hsends, x, hx, hnamed⟩⟩

/-- Once there is an environment nothing fails any more. -/
theorem comes_ensure_failed (hlog : ∀ x ∈ log, Idle v x) :
    Comes id v (ensure id).run (OnFailure v True s) log s := by
  refine .world fun w hw => .ite (fun _ => .pure onFailure_ok) fun _ =>
    .ite (fun _ => ?_) fun _ => ?_
  · exact .update fun _ => .last minor_ensureRequirements fun _ _ _ _ _ => onFailure_ok
  · have hlooked := (StaysIdle.refl hlog).snoc (idle_world v w)
    refine .attempt (comes_switch_ends hlooked.idle) (fun switched _ _ _ => ?_)
      fun cause _ _ hends _ h => by
        rw [← Except.error.inj h]
        exact hends.1.onFailure cause rfl
    cases switched with
    | true => exact .update fun _ => .last minor_ensureRequirements fun _ _ _ _ _ => onFailure_ok
    | false =>
        exact .act fun w' hw' => ⟨(), _, _, _, does_update _ w', view?_updateEnv_some hw' _,
          .done onFailure_ok⟩

end

/-- Why an attempt failed, if it did. -/
def failure? {α : Type} : Except Error α → Option Error
  | .error cause => some cause
  | .ok _ => none

theorem failure?_eq_some {α : Type} {r : Except Error α} {cause : Error} :
    failure? r = some cause ↔ r = .error cause := by
  cases r <;> simp [failure?]

/-- Why an operation failed, if it did. -/
def Operation.cause? {α : Type} : Operation α → α → Option Error
  | .adopt _ | .ensure | .checkTool => failure?
  | .switch | .create => failure?
  | _ => fun _ => none

/-- Whether an operation may come to make an environment. -/
def Operation.Makes {α : Type} : Operation α → Prop
  | .switch | .create | .ensure => True
  | _ => False

section

variable {id : ProjectId} {v : View} {α : Type}

theorem Operation.comes_failed (op : Operation α) (s : State) :
    Comes id v (op.task id)
      (fun a log s' => ∀ cause, op.cause? a = some cause → Failed v op.Makes s cause log s')
      [] s := by
  have hnil : ∀ x ∈ ([] : List (Ran World)), Idle v x := by simp
  have hend : ∀ {β : Type} {t : Work (Except Error β)} {makes : Prop},
      Comes id v t (OnFailure v makes s) [] s →
        Comes id v t (fun r log s' => ∀ cause, failure? r = some cause →
          Failed v makes s cause log s') [] s :=
    fun h => h.mono fun _ _ _ hpost cause hcause => hpost cause (failure?_eq_some.1 hcause)
  have hminor : ∀ {β : Type} {t : Work β} {post : β → List (Ran World) → State → Prop},
      IsMinor id t → (∀ b log s', post b log s') → Comes id v t post [] s :=
    fun ht hpost => (ht.comes v [] s).mono fun b log s' _ => hpost b log s'
  cases op with
  | adopt name => exact hend (comes_adopt_failed hnil name)
  | switch => exact hend ((comes_switch_ends hnil).mono fun _ _ _ hends => hends.1.onFailure)
  | ensure => exact hend (comes_ensure_failed hnil)
  | create => exact hend ((comes_create_ends hnil).mono fun _ _ _ hends => hends.2.onFailure)
  | checkTool =>
      refine hend ((comes_idle minor_checkTool isIdle_checkTool hnil).mono ?_)
      exact fun _ _ _ hend _ _ => .of_idle hend.2 hend.1.env (.inl hend.1.phase)
  -- The others cannot fail.
  | checkRequirements => exact hminor minor_checkRequirements fun _ _ _ _ => nofun
  | requirementsChanged => exact hminor minor_requirementsChanged fun _ _ _ _ => nofun
  | activate => exact hminor (all_lift fun _ => .activate) fun _ _ _ _ => nofun
  | prependPath => exact hminor (all_lift fun _ => .prependPath) fun _ _ _ _ => nofun
  | install => exact hminor (all_lift fun _ => .install) fun _ _ _ _ => nofun
  | settingsChanged => exact comes_settingsChanged.mono fun _ _ _ _ _ => nofun
  | deactivate =>
      exact .lift fun w hw =>
        ⟨_, _, _, _, does_deactivate hw, view?_updateEnv_some hw outside, nofun⟩

/-- Whatever the settings hold, whatever a person answers and programs print, and whatever others
change meanwhile but the project: if an operation that is to get an environment fails, no step of it
has written a file, unless by a program that it started; the environment in use is the one before;
the phase is the one before, or none is in use; and nothing was sent. The only other case is that it
came to making an environment, and then the settings could not be written: then the answer tells so,
and exactly the line that makes the environment was sent. -/
theorem failed_without_trace (op : Operation α) {w w' : World} {log : List (Ran World)} {a : α}
    {cause : Error} (hview : view? id w = some v) (h : Completes id (op.task id) w log a w')
    (hcause : op.cause? a = some cause) :
    (Sent v log [] ∨ op.Makes ∧ MadeInVain v cause log) ∧
      (∀ x ∈ log, GainsDirs x.before.files x.after.files ∨ Starts x) ∧
      ∃ s, view? id w' = some { v with state := s } ∧ s.env = v.state.env ∧
        (s.phase = v.state.phase ∨ s.phase = .outside) := by
  rcases (op.comes_failed v.state).of_completes h hview with ⟨s, hview', hfailed⟩
  have hleft := hfailed cause hcause
  exact ⟨hleft.lines, hleft.files, s, hview', hleft.env, hleft.phase⟩

end

/-! ### Settings that cannot be read or written -/

namespace Failure

/-- A project with a file of settings, and a person who answers with a name. -/
def settled (settings : FileData) : World :=
  Placement.asked [(["p"], .dir), (["p", ".vscode"], .dir),
    (["p", ".vscode", "settings.json"], .file settings)] "a"

/-- The settings are a list. -/
def listed : World := settled ⟨"[1]".toUTF8, false, false, 0⟩

/-- The settings may not be written over. -/
def locked : World := settled ⟨"\x7b\x7d".toUTF8, false, true, 0⟩

/-- The same project while an environment is being made. -/
def making : World := listed.updateEnv 0 fun s => { s with phase := .initializing }

def view : View := ⟨⟨"/p"⟩, .unix, .initial⟩

theorem exists_failure {α : Type} {t : Work (Except Error α)} {w : World}
    (h : ((alone t w).1.result?.any fun r => (failure? r).isSome) = true) :
    ∃ log cause, Completes 0 t w log (.error cause) (alone t w).2 := by
  rcases completes_alone 0 t w with ⟨log, r, hr, hruns⟩
  rw [hr, Option.any_some] at h
  rcases Option.isSome_iff_exists.1 h with ⟨cause, hcause⟩
  exact ⟨log, cause, failure?_eq_some.1 hcause ▸ hruns⟩

/-- Nothing comes of adopting an environment, and nothing is sent. -/
def AdoptsInVain (w : World) : Prop :=
  ∃ log cause, Completes 0 ((Operation.adopt "a").task 0) w log (.error cause)
      (alone ((Operation.adopt "a").task 0) w).2 ∧
    (Operation.adopt "a").cause? (.error cause) = some cause ∧ Sent view log []

/-- The settings cannot be read, or they cannot be written. -/
theorem failed_without_trace_unwritten :
    view? 0 listed = some view ∧ view? 0 locked = some view ∧
      AdoptsInVain listed ∧ AdoptsInVain locked := by
  have hview : view? 0 listed = some view ∧ view? 0 locked = some view := ⟨rfl, rfl⟩
  have hvain : ∀ {w : World}, view? 0 w = some view →
      ((alone ((Operation.adopt "a").task 0) w).1.result?.any fun r => (failure? r).isSome) = true →
        AdoptsInVain w := by
    intro w hw hfails
    rcases exists_failure hfails with ⟨log, cause, hruns⟩
    rcases failed_without_trace (.adopt "a") hw hruns rfl with ⟨hsent, -⟩
    exact ⟨log, cause, hruns, rfl, hsent.resolve_right fun h => h.1⟩
  exact ⟨hview.1, hview.2, hvain hview.1 (by decide +kernel), hvain hview.2 (by decide +kernel)⟩

/-- The line that makes an environment is sent although nothing comes of it; and when adopting one
fails while another is being made, the making goes on. -/
theorem making_sent_on_failure :
    (∃ log cause, Completes 0 (Operation.create.task 0) listed log (.error cause)
        (alone (Operation.create.task 0) listed).2) ∧
    listed.host.recorded.map (·.lines) = [[]] ∧
    (alone (Operation.create.task 0) listed).2.host.recorded.map (·.lines) =
      [[TerminalLine.createVirtualenv ⟨"python"⟩ ⟨"/p/a"⟩]] ∧
    (∃ log cause, Completes 0 ((Operation.adopt "a").task 0) making log (.error cause)
        (alone ((Operation.adopt "a").task 0) making).2) ∧
    (view? 0 (alone ((Operation.adopt "a").task 0) making).2).map (·.state.phase) =
      some .initializing :=
  ⟨exists_failure (by decide +kernel), rfl, by decide +kernel, exists_failure (by decide +kernel),
    by decide +kernel⟩

end Failure

end Environment
end Testbench
