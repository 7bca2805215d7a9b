import Mathlib.Data.List.Forall2
import Testbench.Proofs.Environment.Operations

/-!
# Switching — the terminal is in the environment that is in use

An environment is put down as the one in use together with the line that enters it, and it is
forgotten together with the line that leaves it, if there is still something to leave. So the lines
that were sent tell where the terminal is, whatever order the steps of the operations come in.

- `Line.isSwitch`      : the lines that enter or leave an environment;
- `Mirrors`            : the lines so far mirror the environment in use;
- `Turns`              : some more lines take one environment in use to another;
- `Faithful`           : what an act sends goes with what it puts down;
- `Primitive.faithful` : the acts of the operations, one by one;
- `Reached.mirrors`    : all that can be reached;
- `Line.switch_of_text` : a switch is known by its text.
-/

namespace Testbench
namespace Environment

open Testbench.Task (Ran Step)

/-! ## Lines that switch -/

def Line.isSwitch : Line → Bool
  | .enter _ | .leave => true
  | .prepend _ | .make .. | .install .. => false

/-- The last switch of the lines enters the environment in use, and each line that leaves comes
after one that enters, with no other one that leaves in between. -/
structure Mirrors (lines : List Line) (env : Option Path) : Prop where
  current : ∀ e, env = some e → (lines.filter Line.isSwitch).getLast? = some (.enter e)
  answered : ∀ before after, lines = before ++ .leave :: after →
    ∃ first e between, before = first ++ .enter e :: between ∧ .leave ∉ between

/-- After some more lines another environment is in use. -/
def Turns (lines : List Line) (env env' : Option Path) : Prop :=
  ∀ earlier, Mirrors earlier env → Mirrors (earlier ++ lines) env'

namespace Mirrors

variable {lines more : List Line} {env : Option Path}

theorem nil : Mirrors [] none := ⟨by simp, by simp⟩

/-- While an environment is in use the terminal has not left it. -/
theorem exists_enter {e : Path} (h : Mirrors lines (some e)) :
    ∃ first between, lines = first ++ .enter e :: between ∧ .leave ∉ between := by
  have hlast := h.current e rfl
  -- Cut the lines where the last switch stands.
  rcases List.getLast?_eq_some_iff.1 hlast with ⟨switches, hswitches⟩
  rcases List.filter_eq_append_iff.1 hswitches with ⟨front, back, rfl, -, hback⟩
  rcases List.filter_eq_cons_iff.1 hback with ⟨idle, between, rfl, -, -, hnone⟩
  refine ⟨front ++ idle, between, by simp, fun hmem => ?_⟩
  exact absurd (List.filter_eq_nil_iff.1 hnone _ hmem) (by simp [Line.isSwitch])

/-- Lines that do not leave answer nothing new. -/
theorem answered_append (h : Mirrors lines env) (hmore : .leave ∉ more) (before after : List Line)
    (heq : lines ++ more = before ++ .leave :: after) :
    ∃ first e between, before = first ++ .enter e :: between ∧ .leave ∉ between := by
  rcases List.append_eq_append_iff.1 heq with ⟨rest, hbefore, hrest⟩ | ⟨rest, hlines, hrest⟩
  · exact absurd (by simp [hrest]) hmore
  · cases rest with
    | nil =>
        rw [List.nil_append] at hrest
        exact absurd (by simp [← hrest]) hmore
    | cons l rest =>
        rw [List.cons_append, List.cons.injEq] at hrest
        rw [← hrest.1] at hlines
        exact h.answered before rest hlines

end Mirrors

namespace Turns

variable {lines more : List Line} {env env' env'' : Option Path}

theorem trans (h : Turns lines env env') (h' : Turns more env' env'') :
    Turns (lines ++ more) env env'' := by
  intro earlier hearlier
  rw [← List.append_assoc]
  exact h' _ (h _ hearlier)

/-- Lines that are no switches. -/
theorem idle (h : ∀ l ∈ lines, l.isSwitch = false) : Turns lines env env := by
  intro earlier hearlier
  refine ⟨fun e he => ?_, hearlier.answered_append fun hmem => ?_⟩
  · have hnone : lines.filter Line.isSwitch = [] :=
      List.filter_eq_nil_iff.2 fun l hl => by simp [h l hl]
    rw [List.filter_append, hnone, List.append_nil]
    exact hearlier.current e he
  · exact absurd (h _ hmem) (by simp [Line.isSwitch])

theorem nil : Turns [] env env := idle (by simp)

theorem enter (e : Path) : Turns [.enter e] env (some e) := by
  intro earlier hearlier
  refine ⟨fun e' he' => ?_, hearlier.answered_append (by simp)⟩
  rw [← Option.some.inj he', List.filter_append]
  simp [Line.isSwitch]

/-- Entering the environment in use once more. -/
theorem entering : Turns (entering env) env env := by
  cases env with
  | none => exact nil
  | some e => exact enter e

/-- What is not in use any more need not be left. -/
theorem forget : Turns [] env none := by
  intro earlier hearlier
  rw [List.append_nil]
  exact ⟨by simp, hearlier.answered⟩

theorem leave (e : Path) : Turns [.leave] (some e) none := by
  intro earlier hearlier
  refine ⟨by simp, fun before after heq => ?_⟩
  -- Either it is the line that was just sent, or one from before.
  rcases List.eq_nil_or_concat after with rfl | ⟨front, l, rfl⟩
  · have hsame : earlier = before := (List.append_inj' heq rfl).1
    rw [← hsame]
    rcases hearlier.exists_enter with ⟨first, between, hlines, hnone⟩
    exact ⟨first, e, between, hlines, hnone⟩
  · have hfront : earlier = before ++ .leave :: front := by
      rw [List.concat_eq_append, ← List.cons_append, ← List.append_assoc] at heq
      exact (List.append_inj' heq rfl).1
    exact hearlier.answered before front hfront

theorem left (w : World) (v : View) : Turns (left w v) v.state.env none := by
  unfold Environment.left
  cases v.state.env with
  | none => exact forget
  | some e =>
      dsimp only
      split
      · exact leave e
      · exact forget

end Turns

/-! ## Acts -/

/-- The lines that a step sends to the terminal of a project, whatever the host is. -/
def Sends (v : View) (x : Ran World) (lines : List Line) : Prop :=
  ∀ host, Fed v lines host (x.act (x.before.withHost host)).2.host

/-- What a step sends goes with the environment that it puts down. -/
def Faithful (id : ProjectId) (x : Ran World) : Prop :=
  ∀ v, view? id x.before = some v → ∃ lines s, Sends v x lines ∧
    view? id x.after = some { v with state := s } ∧ Turns lines v.state.env s.env

section

variable {id : ProjectId} {v : View} {w w' : World} {α : Type} {a : α} {lines : List Line}

/-- An act with an equation. -/
theorem Does.faithful {m : Act α} {s : State} (h : Does v m w a w' lines)
    (hview : view? id w' = some { v with state := s }) (hturns : Turns lines v.state.env s.env) :
    ∃ lines s, Sends v ⟨w, α, m.run⟩ lines ∧
      view? id (m.run w).2 = some { v with state := s } ∧ Turns lines v.state.env s.env := by
  refine ⟨lines, s, h.fed, ?_, hturns⟩
  rcases h.run_eq with ⟨host, hrun⟩
  rw [hrun, view?_withHost]
  exact hview

theorem Minor.faithful {f : World → α × World} (h : Minor id f) (w : World) :
    Faithful id ⟨w, α, f⟩ := by
  intro v hv
  replace hv : view? id w = some v := hv
  -- No minor act sends a line that switches, except to enter what is in use already.
  cases h with
  | mute hm =>
      refine ⟨[], v.state, fun host => .of_terminals (hm.silent (w.withHost host)), ?_, .nil⟩
      exact (hm.view w).trans hv
  | @note f hf _ =>
      have hview := view?_updateEnv_some hv f
      exact (does_update f w).faithful hview (by rw [hf]; exact .nil)
  | activate => exact (does_activate hv).faithful hv .entering
  | prependPath => exact (does_prependPath hv).faithful hv (.idle (by simp [Line.isSwitch]))
  | install =>
      refine (does_install hv).faithful hv (.idle fun l hl => ?_)
      unfold installed at hl
      split at hl
      · rw [List.mem_singleton.1 hl]
        rfl
      · simp at hl
  | concludeTool command outcome =>
      rcases does_concludeTool hv command outcome with ⟨a, checked, hdoes⟩
      exact hdoes.faithful (view?_updateEnv_some hv _) .nil

/-- The acts of the operations. Each is looked at with the state that it finds. -/
theorem Primitive.faithful {f : World → α × World} (h : Primitive id f) (w : World) :
    Faithful id ⟨w, α, f⟩ := by
  intro v hv
  replace hv : view? id w = some v := hv
  cases h with
  | minor hm => exact hm.faithful w v hv
  | @note f hf =>
      have hview := view?_updateEnv_some hv f
      exact (does_update f w).faithful hview (by rw [hf]; exact .nil)
  | deactivate => exact (does_deactivate hv).faithful (view?_updateEnv_some hv outside) (.left w v)
  | adopt name =>
      -- Nothing is sent where the settings cannot be written.
      cases hnamed : (naming w v (v.root.joinText name)).1 with
      | error cause => exact (does_adopt_error hv hnamed).faithful (view?_withFiles _ ▸ hv) .nil
      | ok _ =>
          exact (does_adopt_ok hv hnamed).faithful (view?_changed hv _ _) (.enter _)
  | makeEnv folder =>
      have hmake : Turns [.make (interpreter w v.root) (envIn v folder)] v.state.env v.state.env :=
        .idle (by simp [Line.isSwitch])
      cases hnamed : (naming w v (envIn v folder)).1 with
      | error cause =>
          exact (does_makeEnv_error hv hnamed).faithful (view?_changed hv _ _) hmake
      | ok _ =>
          exact (does_makeEnv_ok hv hnamed).faithful (view?_changed hv _ _)
            (hmake.trans (.enter _))
  | settingsChanged =>
      cases hsame :
        v.state.phase == .inside && agrees v.state.env (twoUp (interpreter w v.root)) with
      | true => exact (does_settingsChanged_same hv hsame).faithful hv .nil
      | false =>
          cases henv : inUse? w v.root with
          | some env =>
              exact (does_settingsChanged_enter hv hsame henv).faithful
                (view?_updateEnv_some hv _) (.enter env)
          | none =>
              have hprepend : Turns [.prepend (interpreterDir w v.root)] none none :=
                .idle (by simp [Line.isSwitch])
              exact (does_settingsChanged_leave hv hsame henv).faithful
                (view?_updateEnv_some hv _) ((Turns.left w v).trans hprepend)

end

/-! ## Operations in any order of their steps -/

namespace Switching

/-- An operation that was begun, with what is left to do for it. -/
structure Running : Type 1 where
  answer : Type
  task : Work answer

/-- What can be reached from a world, with the steps of the operations so far. Others may change
everything but what is known of the project. -/
inductive Reached (id : ProjectId) (w₀ : World) :
    List (Ran World) → World → List Running → Prop where
  | start : Reached id w₀ [] w₀ []
  | begin {log : List (Ran World)} {w : World} {running : List Running} {α : Type}
      (op : Operation α) :
      Reached id w₀ log w running → Reached id w₀ log w (running ++ [⟨α, op.task id⟩])
  | step {log : List (Ran World)} {w : World} {running : List Running} {i : Nat} {r : Running}
      {x : Ran World} {t : Work r.answer} :
      Reached id w₀ log w running → running[i]? = some r → x.before = w → Step r.task x t →
        Reached id w₀ (log ++ [x]) x.after (running.set i { r with task := t })
  | other {log : List (Ran World)} {w w' : World} {running : List Running} :
      Reached id w₀ log w running → view? id w' = view? id w → Reached id w₀ log w' running

section

variable {id : ProjectId} {w₀ w : World} {log : List (Ran World)} {running : List Running}

theorem Reached.isBuilt (h : Reached id w₀ log w running) : ∀ r ∈ running, IsBuilt id r.task := by
  induction h with
  | start => simp
  | begin op _ ih =>
      intro r hr
      rcases List.mem_append.1 hr with hold | hnew
      · exact ih r hold
      · rw [List.mem_singleton.1 hnew]
        exact op.isBuilt id
  | step _ hr _ hstep ih =>
      intro r' hr'
      rcases List.mem_or_eq_of_mem_set hr' with hold | rfl
      · exact ih r' hold
      · exact (Task.All.step (ih _ (List.mem_of_getElem? hr)) hstep).2
  | other _ _ ih => exact ih

/-- Whatever operations are begun and in whatever order they take their steps, the lines that the
terminal of the project was sent mirror the environment in use at every point. -/
theorem Reached.mirrors {v : View} (h : Reached id w₀ log w running) (hview : view? id w₀ = some v)
    (hfresh : v.state.env = none) :
    ∃ (sent : List (List Line)) (s : State), List.Forall₂ (Sends v) log sent ∧
      view? id w = some { v with state := s } ∧ Mirrors sent.flatten s.env := by
  induction h with
  | start => exact ⟨[], v.state, .nil, hview, hfresh ▸ Mirrors.nil⟩
  | begin op _ ih => exact ih
  | @step log w running i r x t hreached hr hbefore hstep ih =>
      rcases ih with ⟨sent, s, hsent, hnow, hmirrors⟩
      -- Each step is one of the acts, and those are faithful.
      have hprimitive : Primitive id x.act :=
        (Task.All.step (hreached.isBuilt r (List.mem_of_getElem? hr)) hstep).1
      rw [← hbefore] at hnow
      rcases hprimitive.faithful x.before _ hnow with ⟨lines, s', hsends, hafter, hturns⟩
      refine ⟨sent ++ [lines], s', ?_, hafter, ?_⟩
      · exact List.rel_append hsent (.cons hsends .nil)
      · rw [List.flatten_append, List.flatten_singleton]
        exact hturns _ hmirrors
  | other _ hsame ih =>
      rcases ih with ⟨sent, s, hsent, hnow, hmirrors⟩
      exact ⟨sent, s, hsent, hsame.trans hnow, hmirrors⟩

/-- An operation that is one act is over at once. -/
theorem Reached.act (h : Reached id w₀ log w running) {α : Type} (op : Operation α) {m : Act α}
    (hop : op.task id = Task.lift m) :
    ∃ running', Reached id w₀ (log ++ [⟨w, α, m.run⟩]) (m.run w).2 running' := by
  have hbegun := h.begin op
  rw [hop] at hbegun
  have hlast : (running ++ [⟨α, Task.lift m⟩])[running.length]? = some ⟨α, Task.lift m⟩ := by simp
  exact ⟨_, hbegun.step hlast rfl (.act m.run .done w)⟩

end

/-! ### An environment that is entered and left -/

/-- A project with an environment in it. -/
def furnished : World :=
  { World.start ⟨⟨"/"⟩, 0, [(["p"], .dir), (["p", "a"], .dir), (["p", "a", "bin"], .dir),
        (["p", "a", "bin", Platform.markerName], .file ⟨⟨#[]⟩, false, false, 0⟩)]⟩
      (.recorder { Host.Recorder.fresh with
        terminals := [⟨Terminal.nameFor ⟨"/p"⟩, ⟨"/p"⟩, [], 0, false⟩] })
      .files default with
    projects := [Project.fresh ⟨"/p"⟩] }

/-- The environment is adopted, and left again. -/
def adopted : World := ((adopt 0 "a").run furnished).2

def quitted : World := ((deactivate 0).run adopted).2

theorem mirrors_quitted : ∃ log running, Reached 0 furnished log quitted running ∧
    quitted.host.recorded.map (·.lines) =
      [[TerminalLine.activate .unix ⟨"/p/a"⟩, TerminalLine.deactivate]] ∧
    ∃ (sent : List (List Line)) (s : State),
      List.Forall₂ (Sends ⟨⟨"/p"⟩, .unix, .initial⟩) log sent ∧
      view? 0 quitted = some ⟨⟨"/p"⟩, .unix, s⟩ ∧ Mirrors sent.flatten s.env := by
  have hstart : Reached 0 furnished [] furnished [] := .start
  rcases hstart.act (.adopt "a") rfl with ⟨_, hadopted⟩
  rcases hadopted.act .deactivate rfl with ⟨running, hquitted⟩
  refine ⟨_, running, hquitted, by decide +kernel, ?_⟩
  exact hquitted.mirrors rfl rfl

end Switching

/-! ## Switches by their text -/

/-- Where the first space stands is where a text is cut. -/
theorem append_space_inj {cs ds rest more : List Char} (hcs : ' ' ∉ cs) (hds : ' ' ∉ ds)
    (h : cs ++ ' ' :: rest = ds ++ ' ' :: more) : cs = ds ∧ rest = more := by
  rcases List.append_eq_append_iff.1 h with ⟨front, hfront, hrest⟩ | ⟨front, hfront, hrest⟩
  · cases front with
    | nil => exact ⟨by simpa using hfront.symm, by simpa using hrest⟩
    | cons c front =>
        rw [List.cons_append, List.cons.injEq] at hrest
        exact absurd (by simp [hfront, ← hrest.1]) hds
  · cases front with
    | nil => exact ⟨by simpa using hfront, by simpa using hrest.symm⟩
    | cons c front =>
        rw [List.cons_append, List.cons.injEq] at hrest
        exact absurd (by simp [hfront, ← hrest.1]) hcs

/-- A quoted word starts with its quote, or it has no space. -/
theorem quote_cases (word : String) :
    (∃ rest, (quote word).toList = '"' :: rest) ∨ ' ' ∉ (quote word).toList := by
  unfold quote
  split
  · exact Or.inl ⟨word.toList ++ ['"'], by simp [String.toList_append]⟩
  · rename_i hblank
    refine Or.inr fun hmem => hblank ?_
    exact List.any_eq_true.2 ⟨' ', hmem, by decide⟩

theorem toList_enter (env : Path) : ∃ word, ((Line.enter env).text .unix).toList =
    ['s', 'o', 'u', 'r', 'c', 'e'] ++ ' ' :: ((quote word).toList ++ [';']) :=
  ⟨((env.joinText "bin").joinText "activate").text,
    by simp [Line.text, TerminalLine.activate, String.toList_append]⟩

theorem toList_install (python requirements : Path) (index : Option String) : ∃ rest,
    ((Line.install python requirements index).text .unix).toList =
      (quote python.text).toList ++ ' ' :: '-' :: 'm' :: ' ' :: rest :=
  ⟨_, by simp [Line.text, TerminalLine.pipInstall, String.toList_append]; rfl⟩

theorem enter_ne_install (env python requirements : Path) (index : Option String) :
    (Line.enter env).text .unix ≠ (Line.install python requirements index).text .unix := by
  intro h
  have hchars := congrArg String.toList h
  rcases toList_enter env with ⟨word, henter⟩
  rcases toList_install python requirements index with ⟨rest, hinstall⟩
  rw [henter, hinstall] at hchars
  rcases quote_cases python.text with ⟨tail, hquoted⟩ | hplain
  · simp [hquoted] at hchars
  · rcases append_space_inj (by decide) hplain hchars with ⟨-, hword⟩
    rcases quote_cases word with ⟨tail, hquoted⟩ | hplain'
    · simp [hquoted] at hword
    · have hmem : ' ' ∈ (quote word).toList ++ [';'] := by simp [hword]
      exact hplain' (by simpa using hmem)

theorem head?_text (l : Line) : (l.text .unix).toList.head? =
    match l with
    | .enter _ => some 's'
    | .leave => some 'd'
    | .prepend _ => some 'e'
    | .make .. => some '"'
    | .install python .. => ((quote python.text).toList ++ [' ']).head? := by
  cases l with
  | enter env =>
      rcases toList_enter env with ⟨word, henter⟩
      rw [henter]
      rfl
  | leave => rfl
  | prepend dir => simp [Line.text, TerminalLine.prependPath, String.toList_append]
  | make python env => simp [Line.text, TerminalLine.createVirtualenv, String.toList_append]
  | install python requirements index =>
      rcases toList_install python requirements index with ⟨rest, hinstall⟩
      rw [hinstall]
      simp [List.head?_append]

theorem leave_ne_install (python requirements : Path) (index : Option String) :
    Line.leave.text .unix ≠ (Line.install python requirements index).text .unix := by
  intro h
  rcases toList_install python requirements index with ⟨rest, hinstall⟩
  have hspace : ' ' ∈ (Line.leave.text .unix).toList := by simp [h, hinstall]
  exact absurd hspace (by decide)

/-- On unix no line but a switch reads like one, and one that enters does not read like one that
leaves. -/
theorem Line.switch_of_text {l l' : Line} (h : l.text .unix = l'.text .unix)
    (hl : l.isSwitch = true) : l'.isSwitch = true ∧ (l = .leave ↔ l' = .leave) := by
  -- Most lines differ in their first character. Those that install begin like a switch.
  have hhead : (l.text .unix).toList.head? = (l'.text .unix).toList.head? := by rw [h]
  rw [head?_text, head?_text] at hhead
  cases l with
  | enter env =>
      cases l' with
      | enter env' => simp [isSwitch]
      | install python requirements index =>
          exact absurd h (enter_ne_install env python requirements index)
      | _ => simp at hhead
  | leave =>
      cases l' with
      | leave => simp [isSwitch]
      | install python requirements index =>
          exact absurd h (leave_ne_install python requirements index)
      | _ => simp at hhead
  | _ => simp [isSwitch] at hl

end Environment
end Testbench
