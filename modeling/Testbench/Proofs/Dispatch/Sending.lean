import Testbench.Proofs.Dispatch.Requests
import Testbench.Proofs.Workspace.Terminals
import Testbench.Proofs.World

/-!
# Sending — a run command sends the line that it tells

A command that runs something finds its project, sees to the environment of that project, shows its
terminal and sends one line there. Whatever a person answers and whatever comes of the processes,
the line that is told is the last one that was sent, and no terminal of another project is touched.

- `Beside`        : what others may do while a command waits;
- `Command`       : the commands that run something;
- `Course`        : what a command does from its beginning to its end;
- `Command.sends_what_it_tells` : the line that is told.
-/

namespace Testbench
namespace Dispatch

open Outline (Node)
open Testbench.Host (AnyTerminal)
open Testbench.Task (Ran Plays)
open Terminal (nameFor)
open Environment (View view?)

/-! ## Others -/

/-- Live projects are projects that were opened. -/
def IsLive (w : World) : Prop := ∀ id ∈ w.registry, id < w.projects.length

/-- Others may do what they like, but projects stay where they are. -/
structure Beside (w w' : World) : Prop where
  setup : w'.setup = w.setup
  roots : w.projects.map Project.root <+: w'.projects.map Project.root
  live : IsLive w'

/-- The project stays in view, whatever state its environment is in. -/
def Shows (id : ProjectId) (v : View) (w : World) : Prop :=
  ∃ s, view? id w = some { v with state := s }

theorem Shows.beside {id : ProjectId} {v : View} {w w' : World} (h : Shows id v w)
    (hbeside : Beside w w') : Shows id v w' := by
  obtain ⟨s, hview⟩ := h
  obtain ⟨p, hp, heq⟩ := Option.map_eq_some_iff.1 hview
  obtain ⟨hroot, hplatform, -⟩ := View.mk.inj heq
  obtain ⟨more, hmore⟩ := hbeside.roots
  have hold : (w'.projects.map Project.root)[id]? = some p.root := by
    rw [← hmore, List.getElem?_append_left, List.getElem?_map, hp]
    · rfl
    · rw [List.length_map]
      exact (List.getElem?_eq_some_iff.1 hp).1
  rw [List.getElem?_map] at hold
  obtain ⟨p', hp', hsame⟩ := Option.map_eq_some_iff.1 hold
  refine ⟨p'.env, ?_⟩
  rw [view?, hp', Option.map_some, hsame, hbeside.setup, hroot, hplatform]

/-- What lives stays alive, whoever came in between. -/
theorem IsLive.of_others {w w' : World} (hlive : IsLive w)
    (hothers : Relation.ReflTransGen Beside w w') : IsLive w' := by
  cases hothers with
  | refl => exact hlive
  | tail _ hlast => exact hlast.live

theorem Shows.root {id : ProjectId} {v : View} {w : World} (h : Shows id v w) :
    w.root id = v.root := by
  obtain ⟨s, hview⟩ := h
  have hroot := Environment.root_eq hview
  exact hroot

/-! ## Seeing to the environment -/

section

variable {id : ProjectId} {v : View} {w w' : World} {log : List (Ran World)}

/-- All that seeing to an environment asks for is lines in the terminal of its project. -/
theorem asks_ensure {r : Except Error Unit} (hview : view? id w = some v)
    (h : Plays Beside (Environment.ensure id).run w log r w') :
    Shows id v w' ∧ ∃ lines : List Environment.Line,
      Asks (nameFor v.root) log (lines.map fun l => .line (l.text v.platform)) := by
  have hprimitive := h.all Environment.built_ensure
  have hfaithful : ∀ x ∈ log, Environment.Faithful id x :=
    fun x hx => (hprimitive x hx).faithful x.before
  obtain ⟨hlast, hshows⟩ := h.invariant (P := Shows id v)
    (fun x hx ⟨s, hs⟩ => by
      obtain ⟨_, s', -, hs', -⟩ := hfaithful x hx _ hs
      exact ⟨s', hs'⟩)
    (fun _ _ hbeside hs => hs.beside hbeside) ⟨v.state, hview⟩
  refine ⟨hlast, asks_lines fun x hx => ?_⟩
  obtain ⟨s, hs⟩ := hshows x hx
  obtain ⟨lines, -, hsends, -⟩ := hfaithful x hx _ hs
  exact ⟨lines, requests_of_sends (v := v) hsends⟩

end

/-! ## The course of a command -/

/-- A project is live, and its environment was seen to in some steps. -/
structure Ensured (id : ProjectId) (v : View) (w : World) (log : List (Ran World))
    (r : Except Error Unit) (w' : World) : Prop where
  live : id ∈ w.registry
  view : view? id w = some v
  plays : Plays Beside (Environment.ensure id).run w log r w'
  asks : ∃ lines : List Environment.Line,
    Asks (nameFor v.root) log (lines.map fun l => .line (l.text v.platform))

/-- What a command does, by what it tells at the end. -/
inductive Course : List (Ran World) → Except Error (Option String) → World → Prop where
  /-- It came to no project, or to no environment. -/
  | idle {log : List (Ran World)} {r : Except Error (Option String)} {w' : World}
      (hr : ∀ l, r ≠ .ok (some l)) (hsilent : ∀ x ∈ log, Silent x) : Course log r w'
  /-- It saw to the environment and went no further. -/
  | stopped {id : ProjectId} {v : View} {w₁ w₂ w' : World} {before ensured after : List (Ran World)}
      {r₁ : Except Error Unit} {r : Except Error (Option String)} (hr : ∀ l, r ≠ .ok (some l))
      (hbefore : ∀ x ∈ before, Silent x) (hensured : Ensured id v w₁ ensured r₁ w₂)
      (hafter : ∀ x ∈ after, Silent x) : Course (before ++ ensured ++ after) r w'
  /-- It sent a line. -/
  | sent {id : ProjectId} {v : View} {w₁ w₂ w' : World} {before ensured after : List (Ran World)}
      {l rest : String} (hbefore : ∀ x ∈ before, Silent x)
      (hensured : Ensured id v w₁ ensured (.ok ()) w₂)
      (hafter : Asks (nameFor v.root) after [.show w'.files, .line l])
      (hl : l = quote (Environment.interpreter w' v.root).text ++ " " ++ rest) :
      Course (before ++ ensured ++ after) (.ok (some l)) w'

/-- What comes before the course does nothing to any terminal. -/
theorem Course.after {front log : List (Ran World)} {r : Except Error (Option String)} {w' : World}
    (h : Course log r w') (hfront : ∀ x ∈ front, Silent x) : Course (front ++ log) r w' := by
  have hmore : ∀ {before : List (Ran World)}, (∀ x ∈ before, Silent x) →
      ∀ x ∈ front ++ before, Silent x := fun hbefore x hx =>
    (List.mem_append.mp hx).elim (hfront x) (hbefore x)
  cases h with
  | idle hr hsilent => exact .idle hr (hmore hsilent)
  | stopped hr hbefore hensured hafter =>
      rw [← List.append_assoc, ← List.append_assoc]
      exact .stopped hr (hmore hbefore) hensured hafter
  | sent hbefore hensured hafter hl =>
      rw [← List.append_assoc, ← List.append_assoc]
      exact .sent (hmore hbefore) hensured hafter hl

theorem Course.cons {x : Ran World} {log : List (Ran World)} {r : Except Error (Option String)}
    {w' : World} (h : Course log r w') (hx : Silent x) : Course (x :: log) r w' := by
  have hfront : ∀ y ∈ [x], Silent y := fun y hy => List.mem_singleton.mp hy ▸ hx
  have hcourse := h.after hfront
  exact hcourse

/-! ### Parts of a command -/

/-- See to the environment, and send the line that is made up then. -/
def launch (id : ProjectId) (line? : World → Except Error String) : Attempt (Option String) := do
  Environment.ensure id
  let w ← Act.world
  match line? w with
  | .error cause => throw cause
  | .ok line => do
    let sent ← send id line
    pure (some sent)

theorem course_launch {id : ProjectId} {v : View} {line? : World → Except Error String}
    (hline : ∀ w line, line? w = .ok line →
      ∃ rest, line = quote (Environment.interpreter w (w.root id)).text ++ " " ++ rest)
    {w w' : World} {log : List (Ran World)} {r : Except Error (Option String)}
    (hlive : id ∈ w.registry) (hview : view? id w = some v)
    (h : Plays Beside (launch id line?).run w log r w') : Course log r w' := by
  obtain ⟨ensured, after, o, w₁, rfl, hplays, hafter⟩ := Attempt.plays_bind h
  obtain ⟨hshows, hasks⟩ := asks_ensure hview hplays
  have hensured : Ensured id v w ensured o w₁ := ⟨hlive, hview, hplays, hasks⟩
  have hnone : ∀ x ∈ ([] : List (Ran World)), Silent x := fun _ hx => absurd hx List.not_mem_nil
  cases o with
  | error cause =>
      obtain ⟨rfl, rfl, -⟩ := hafter
      change Course ([] ++ ensured ++ []) _ _
      exact .stopped (fun _ hr => nomatch hr) hnone hensured hnone
  | ok _ =>
      obtain ⟨rest, rfl, hrest⟩ := Attempt.plays_first hafter
      have hworld : (Act.world.run w₁) = (w₁, w₁) := rfl
      rw [hworld] at hrest
      cases hmade : line? w₁ with
      | error cause =>
          simp only [hmade] at hrest
          obtain ⟨rfl, rfl, -⟩ := Plays.of_done hrest
          change Course ([] ++ ensured ++ _) _ _
          refine .stopped (fun _ hr => nomatch hr) hnone hensured fun x hx => ?_
          rw [List.mem_singleton.mp hx]
          exact silent_look w₁
      | ok line =>
          simp only [hmade] at hrest
          -- Nobody comes between the look at the interpreter and the line that begins with it.
          obtain ⟨last, rfl, hlast⟩ := Attempt.plays_first hrest
          obtain ⟨host, hrun⟩ := run_send id line w₁
          rw [hrun] at hlast
          obtain ⟨rfl, rfl, rfl⟩ := Plays.of_done hlast
          obtain ⟨rest, hmade⟩ := hline w₁ line hmade
          have hsend := requests_send id line w₁
          rw [hshows.root] at hsend
          have hasked := Asks.cons ((silent_look w₁).requests _) (.cons hsend (.nil _))
          have hbegins : line =
              quote (Environment.interpreter (w₁.withHost host) v.root).text ++ " " ++ rest := by
            rw [Environment.interpreter_withHost, ← hshows.root]
            exact hmade
          change Course ([] ++ ensured ++ _) _ _
          exact .sent hnone hensured hasked hbegins

/-! ### The commands -/

/-- Launch in a project, if there is one. -/
def launchIn (id? : Option ProjectId) (cause : Error)
    (line? : ProjectId → World → Except Error String) : Attempt (Option String) :=
  match id? with
  | none => throw cause
  | some id => launch id (line? id)

def scriptLine (file : Path) (id : ProjectId) (w : World) : Except Error String :=
  .ok (TerminalLine.runScript (Environment.interpreter w (w.root id)) file)

def testcaseLine (n : Node) (id : ProjectId) (w : World) : Except Error String :=
  match dottedPath? (w.root id) n.file n.label with
  | none => .error (.other (n.file.text ++ " is not inside " ++ (w.root id).text))
  | some dotted => .ok (TerminalLine.runTestcase (Environment.interpreter w (w.root id)) dotted)

theorem runFile_eq (file : Path) : runFile file = (do
    Attempt.ofWork (saveIfUnsaved file)
    let w ← Act.world
    launchIn (Registry.find? w file) (.projectNotFound file) (scriptLine file)) := rfl

theorem runTestcase_eq (n : Node) : runTestcase n =
    (if !n.isClass then do
      Act.tell (Host.showInfo notTestcaseMessage)
      pure none
    else do
      let w ← Act.world
      launchIn (projectOf? w n) (.projectNotFound n.file) (testcaseLine n)) := by
  unfold runTestcase
  refine ite_congr rfl (fun _ => rfl) fun _ => ?_
  refine bind_congr fun w => ?_
  unfold launchIn
  cases projectOf? w n with
  | none => rfl
  | some id =>
      refine bind_congr fun _ => bind_congr fun w' => ?_
      unfold testcaseLine
      dsimp only
      cases dottedPath? (w'.root id) n.file n.label with
      | none => rfl
      | some dotted => rfl

/-! ### The commands -/

/-- A run command, with what it is to run. -/
inductive Command where
  /-- A script, or the one in the editor. -/
  | script (target : Option Target)
  | testcase (n : Node)
  /-- The test case at the cursor. -/
  | here

def Command.work : Command → Work (Except Error (Option String))
  | .script target => (run target).run
  | .testcase n => (runTestcase n).run
  | .here => runTestcaseHere.run

section

variable {w w' : World} {log : List (Ran World)} {r : Except Error (Option String)}

theorem exists_view (hlive : IsLive w) {id : ProjectId} (hid : id ∈ w.registry) :
    ∃ v, view? id w = some v := by
  have hlt := hlive id hid
  rw [view?, List.getElem?_eq_getElem hlt]
  exact ⟨_, rfl⟩

theorem course_launchIn {id? : Option ProjectId} {cause : Error}
    {line? : ProjectId → World → Except Error String} (hlive : IsLive w)
    (hid : ∀ id, id? = some id → id ∈ w.registry)
    (hline : ∀ id w line, line? id w = .ok line →
      ∃ rest, line = quote (Environment.interpreter w (w.root id)).text ++ " " ++ rest)
    (h : Plays Beside (launchIn id? cause line?).run w log r w') : Course log r w' := by
  cases id? with
  | none =>
      obtain ⟨rfl, rfl, -⟩ := Plays.of_done h
      exact .idle (fun _ hr => nomatch hr) fun _ hx => absurd hx List.not_mem_nil
  | some id =>
      obtain ⟨v, hv⟩ := exists_view hlive (hid id rfl)
      exact course_launch (hline id) (hid id rfl) hv h

theorem scriptLine_eq {file : Path} (id : ProjectId) (w : World) (line : String)
    (h : scriptLine file id w = .ok line) :
    ∃ rest, line = quote (Environment.interpreter w (w.root id)).text ++ " " ++ rest :=
  ⟨_, (Except.ok.inj h).symm⟩

theorem testcaseLine_eq {n : Node} (id : ProjectId) (w : World) (line : String)
    (h : testcaseLine n id w = .ok line) :
    ∃ rest, line = quote (Environment.interpreter w (w.root id)).text ++ " " ++ rest := by
  unfold testcaseLine at h
  cases hdotted : dottedPath? (w.root id) n.file n.label with
  | none =>
      rw [hdotted] at h
      cases h
  | some dotted =>
      rw [hdotted] at h
      have hcommand : " manage.py runtest " = " " ++ "manage.py runtest " := rfl
      refine ⟨"manage.py runtest " ++ dotted, ?_⟩
      rw [← Except.ok.inj h, TerminalLine.runTestcase, hcommand]
      simp only [String.append_assoc]

/-- A file with unsaved changes is saved, and others may come before that is done. -/
theorem plays_saveIfUnsaved {file : Path} {a : Unit} (hlive : IsLive w)
    (h : Plays Beside (saveIfUnsaved file) w log a w') :
    IsLive w' ∧ (∀ x ∈ log, Silent x) ∧ SavesFirst (some file) w log := by
  obtain ⟨rest, rfl, hrest⟩ := Plays.of_act h
  change Plays Beside (if w.host.isUnsaved file then Work.save file else pure ()) w rest a w'
    at hrest
  cases hunsaved : w.host.isUnsaved file with
  | false =>
      rw [hunsaved] at hrest
      obtain ⟨rfl, -, hsame⟩ := Plays.of_done hrest
      have hlooks : ∀ x ∈ [(⟨w, World, Act.world.run⟩ : Ran World)], Silent x ∧ Saves x [] :=
        List.forall_mem_singleton.mpr ⟨silent_look w, saves_nil rfl⟩
      refine ⟨hsame ▸ hlive, fun x hx => (hlooks x hx).1, .nothing ?_ fun x hx => (hlooks x hx).2⟩
      rintro _ ⟨⟩
      exact hunsaved
  | true =>
      rw [hunsaved] at hrest
      obtain ⟨waited, rfl, hwaited⟩ := Plays.of_act hrest
      obtain ⟨w₁, ends, hothers, rfl, hends⟩ := Plays.of_await hwaited
      obtain ⟨rfl, -, hsame⟩ := Plays.of_done hends
      have hlive₁ : IsLive ((Act.tell (Host.save file)).run w).2 := hlive
      have hwait : Silent (.change w₁ id) := fun _ _ => rfl
      have hrest : ∀ x ∈ [Ran.change w₁ id], Saves x [] :=
        List.forall_mem_singleton.mpr (saves_nil rfl)
      have hsaves : SavesFirst (some file) w
          ([] ++ ⟨w, Unit, (Act.tell (Host.save file)).run⟩ :: [.change w₁ id]) :=
        .script rfl hunsaved (fun _ hx => absurd hx List.not_mem_nil) (silent_save file w)
          (saves_save hunsaved) hrest
      refine ⟨hsame ▸ hlive₁.of_others hothers, ?_, hsaves.cons (silent_look w) (saves_nil rfl)⟩
      simp only [List.forall_mem_cons]
      exact ⟨silent_look w, silent_save file w, hwait, fun _ hx => absurd hx List.not_mem_nil⟩

theorem course_runFile {file : Path} (hlive : IsLive w)
    (h : Plays Beside (runFile file).run w log r w') : Course log r w' := by
  rw [runFile_eq] at h
  obtain ⟨saved, rest, a, w₁, rfl, hsaved, hrest⟩ := Attempt.plays_ofWork h
  obtain ⟨hlive₁, hsilent, -⟩ := plays_saveIfUnsaved hlive hsaved
  obtain ⟨rest, rfl, hfound⟩ := Attempt.plays_look hrest
  have hcourse := course_launchIn hlive₁ (fun id hid => (Workspace.mem_of_lookUp? hid).1)
    scriptLine_eq hfound
  exact (hcourse.cons (silent_look w₁)).after hsilent

theorem mem_of_projectOf? {n : Node} {id : ProjectId} (h : projectOf? w n = some id) :
    id ∈ w.registry := by
  unfold projectOf? at h
  split at h
  · rename_i hget
    obtain rfl := Option.some.inj h
    exact (Workspace.mem_of_lookUp? hget).1
  · exact (Workspace.mem_of_lookUp? h).1

theorem silent_showInfo (message : String) (w : World) :
    Silent ⟨w, Unit, (Act.tell (Host.showInfo message)).run⟩ := by
  have hkept : ∀ c : Host.Console, (c.showInfo message).terminals = c.terminals := fun _ => rfl
  exact silent_tell hkept w

/-- A person is told why nothing was run. -/
theorem course_told {message : String}
    (h : Plays Beside (do
      Act.tell (Host.showInfo message)
      pure none : Attempt (Option String)).run w log r w') : Course log r w' := by
  obtain ⟨rest, rfl, hrest⟩ := Attempt.plays_first h
  obtain ⟨rfl, rfl, -⟩ := Plays.of_done hrest
  refine .idle (fun _ hr => nomatch hr) fun x hx => ?_
  rw [List.mem_singleton.mp hx]
  exact silent_showInfo message w

theorem course_runTestcase {n : Node} (hlive : IsLive w)
    (h : Plays Beside (runTestcase n).run w log r w') : Course log r w' := by
  rw [runTestcase_eq] at h
  cases hclass : n.isClass with
  | false =>
      rw [hclass] at h
      exact course_told h
  | true =>
      rw [hclass] at h
      obtain ⟨rest, rfl, hfound⟩ := Attempt.plays_look h
      have hcourse := course_launchIn hlive (fun id hid => mem_of_projectOf? hid) testcaseLine_eq
        hfound
      exact hcourse.cons (silent_look w)

theorem course_run {target : Option Target} (hlive : IsLive w)
    (h : Plays Beside (run target).run w log r w') : Course log r w' := by
  obtain ⟨rest, rfl, hrest⟩ := Attempt.plays_look h
  cases target with
  | some target => exact (course_runFile hlive hrest).cons (silent_look w)
  | none =>
      cases heditor : w.host.editor? with
      | none =>
          simp only [heditor] at hrest
          exact (course_told hrest).cons (silent_look w)
      | some editor =>
          simp only [heditor] at hrest
          exact (course_runFile hlive hrest).cons (silent_look w)

/-! ### The test case at the cursor -/

theorem IsLive.aside (hlive : IsLive w) (h : Listing.Aside w w') : IsLive w' := by
  have hlength : w'.projects.length = w.projects.length := by
    simpa only [List.length_map] using congrArg List.length h.roots
  intro id hid
  rw [hlength]
  exact hlive id (h.registry ▸ hid)

/-- Work that does what listings do leaves terminals and files alone. -/
theorem quiet_of_obeys {α : Type} {t : Work α} {a : α} {past : List PUnit} (hlive : IsLive w)
    (hobeys : t.Obeys Listing.law Listing.anyhow past) (h : Plays Beside t w log a w') :
    IsLive w' ∧ ∀ x ∈ log, Silent x ∧ Saves x [] := by
  have hdeeds : ∀ x ∈ log, Listing.Deed x := h.obeys (fun _ _ hx => hx) hobeys
  refine ⟨?_, fun x hx => ⟨silent_of_deed (hdeeds x hx), saves_of_deed (hdeeds x hx)⟩⟩
  exact (h.invariant (fun x hx hbefore => IsLive.aside hbefore (hdeeds x hx).aside)
    (fun _ _ hbeside _ => hbeside.live) hlive).1

theorem obeys_awaitIdle (past : List PUnit) :
    Listing.awaitIdle.Obeys Listing.law Listing.anyhow past := fun _ _ => trivial

/-- The nodes of the last listing, or of a new one. -/
def nodesIn (file : Path) (w : World) : Work (List Node) :=
  match w.listing.last with
  | some listing => if listing.file.same file then pure listing.nodes else Listing.topLevel
  | none => Listing.topLevel

theorem obeys_nodesFor (file : Path) (past : List PUnit) :
    (nodesFor file).Obeys Listing.law Listing.anyhow past := by
  intro past₁ w₁ _
  refine ⟨.look w₁, ?_⟩
  change (nodesIn file w₁).Obeys _ _ _
  unfold nodesIn
  split
  · split
    · exact fun _ _ => trivial
    · exact Listing.obeys_topLevel _
  · exact Listing.obeys_topLevel _

/-- What is run once the nodes of the file are there. -/
def runAmong (nodes : List Node) (line : Nat) : Attempt (Option String) := do
  match (classAt? nodes line).filter Node.isTestcase with
  | some n => runTestcase n
  | none => do
    Act.tell (Host.showInfo notTestcaseMessage)
    pure none

theorem runTestcaseHere_eq : runTestcaseHere = (do
    let w ← Act.world
    match w.host.editor? with
    | none => do
      Act.tell (Host.showInfo noScriptMessage)
      pure none
    | some editor => do
      Attempt.ofWork Listing.awaitIdle
      let nodes ← Attempt.ofWork (nodesFor editor.file)
      runAmong nodes editor.line) := rfl

/-- Finding the nodes comes first. -/
theorem plays_here (hlive : IsLive w) (h : Plays Beside runTestcaseHere.run w log r w') :
    ∃ front rest w₁ f, log = front ++ rest ∧ IsLive w₁ ∧ (∀ x ∈ front, Silent x ∧ Saves x []) ∧
      Plays Beside (f : Attempt (Option String)).run w₁ rest r w' ∧
      (f = (do
        Act.tell (Host.showInfo noScriptMessage)
        pure none) ∨ ∃ nodes line, f = runAmong nodes line) := by
  rw [runTestcaseHere_eq] at h
  obtain ⟨rest, rfl, hrest⟩ := Attempt.plays_look h
  have hlook : ∀ x ∈ [(⟨w, World, Act.world.run⟩ : Ran World)], Silent x ∧ Saves x [] :=
    fun x hx => by
      rw [List.mem_singleton.mp hx]
      exact ⟨silent_look w, saves_nil rfl⟩
  -- Without an editor there is a message only. With one, waiting and listing come first, and both
  -- are quiet.
  cases heditor : w.host.editor? with
  | none =>
      simp only [heditor] at hrest
      exact ⟨[_], rest, w, _, rfl, hlive, hlook, hrest, .inl rfl⟩
  | some editor =>
      simp only [heditor] at hrest
      obtain ⟨idle, rest, a, w₁, rfl, hidle, hrest⟩ := Attempt.plays_ofWork hrest
      obtain ⟨hlive₁, hquiet₁⟩ := quiet_of_obeys hlive (obeys_awaitIdle []) hidle
      obtain ⟨listed, rest, nodes, w₂, rfl, hlisted, hrest⟩ := Attempt.plays_ofWork hrest
      obtain ⟨hlive₂, hquiet₂⟩ := quiet_of_obeys hlive₁ (obeys_nodesFor editor.file []) hlisted
      refine ⟨⟨w, World, Act.world.run⟩ :: (idle ++ listed), rest, w₂, _, by simp, hlive₂, ?_,
        hrest, .inr ⟨nodes, editor.line, rfl⟩⟩
      intro x hx
      rcases List.mem_cons.mp hx with hx | hx
      · exact hlook x (List.mem_singleton.mpr hx)
      · exact (List.mem_append.mp hx).elim (hquiet₁ x) (hquiet₂ x)

theorem course_here (hlive : IsLive w)
    (h : Plays Beside runTestcaseHere.run w log r w') : Course log r w' := by
  obtain ⟨front, rest, w₁, f, rfl, hlive₁, hquiet, hrest, hf⟩ := plays_here hlive h
  refine Course.after ?_ fun x hx => (hquiet x hx).1
  rcases hf with rfl | ⟨nodes, line, rfl⟩
  · exact course_told hrest
  · unfold runAmong at hrest
    split at hrest
    · exact course_runTestcase hlive₁ hrest
    · exact course_told hrest

/-! ## Saving -/

theorem saveless_send (id : ProjectId) (line : String) : (send id line).Saveless :=
  fun w => (Host.saves_send _ _ line).trans (Host.saves_showTerminal w.host w.files _)

theorem saveless_launchIn (id? : Option ProjectId) (cause : Error)
    (line? : ProjectId → World → Except Error String) :
    Environment.IsSaveless (launchIn id? cause line?).run := by
  cases id? with
  | none => trivial
  | some id =>
      refine Environment.all_bind Environment.saveless_ensure fun _ => ?_
      refine Environment.saveless_first Environment.saveless_world fun w => ?_
      cases line? id w with
      | error cause => trivial
      | ok line => exact Environment.saveless_first (saveless_send id line) fun _ => trivial

theorem saveless_told (message : String) : Environment.IsSaveless (do
    Act.tell (Host.showInfo message)
    pure none : Attempt (Option String)).run :=
  Environment.saveless_first (fun w => w.host.saves_tell rfl _) fun _ => trivial

theorem saveless_runTestcase (n : Node) : Environment.IsSaveless (runTestcase n).run := by
  rw [runTestcase_eq]
  cases n.isClass with
  | false => exact saveless_told notTestcaseMessage
  | true =>
      exact Environment.saveless_first Environment.saveless_world fun w => saveless_launchIn _ _ _

/-- Nothing is saved once the script is. -/
theorem savesFirst_runFile {file : Path} (hlive : IsLive w)
    (h : Plays Beside (runFile file).run w log r w') : SavesFirst (some file) w log := by
  rw [runFile_eq] at h
  obtain ⟨saved, rest, a, w₁, rfl, hsaved, hrest⟩ := Attempt.plays_ofWork h
  obtain ⟨-, -, hfirst⟩ := plays_saveIfUnsaved hlive hsaved
  have hsaveless := Environment.saveless_first Environment.saveless_world
    fun w => saveless_launchIn (Registry.find? w file) (.projectNotFound file) (scriptLine file)
  exact hfirst.append fun x hx => saves_nil (hrest.all hsaveless x hx)

theorem saves_here (hlive : IsLive w) (h : Plays Beside runTestcaseHere.run w log r w') :
    ∀ x ∈ log, Saves x [] := by
  obtain ⟨front, rest, w₁, f, rfl, hlive₁, hquiet, hrest, hf⟩ := plays_here hlive h
  have hsaveless : Environment.IsSaveless f.run := by
    rcases hf with rfl | ⟨nodes, line, rfl⟩
    · exact saveless_told noScriptMessage
    · unfold runAmong
      split
      · exact saveless_runTestcase _
      · exact saveless_told notTestcaseMessage
  intro x hx
  rcases List.mem_append.mp hx with hx | hx
  · exact (hquiet x hx).2
  · exact saves_nil (hrest.all hsaveless x hx)

end

/-- The script that a command is to run. -/
def Command.script? (w : World) : Command → Option Path
  | .script (some target) => some target.script
  | .script none => w.host.editor?.map (·.file)
  | .testcase _ | .here => none

section

variable {w w' : World} {log : List (Ran World)} {r : Except Error (Option String)}

theorem Command.savesFirst {c : Command} (hlive : IsLive w) (h : Plays Beside c.work w log r w') :
    SavesFirst (c.script? w) w log := by
  have hnothing : ∀ {log : List (Ran World)}, (∀ x ∈ log, Saves x []) → SavesFirst none w log :=
    .nothing fun _ hfile => nomatch hfile
  cases c with
  | testcase n => exact hnothing fun x hx => saves_nil (h.all (saveless_runTestcase n) x hx)
  | here => exact hnothing (saves_here hlive h)
  | script target =>
      obtain ⟨rest, rfl, hrest⟩ := Attempt.plays_look h
      refine SavesFirst.cons ?_ (silent_look w) (saves_nil rfl)
      cases target with
      | some target => exact savesFirst_runFile hlive hrest
      | none =>
          unfold script?
          cases heditor : w.host.editor? with
          | some editor =>
              simp only [heditor] at hrest
              exact savesFirst_runFile hlive hrest
          | none =>
              simp only [heditor] at hrest
              exact hnothing fun x hx => saves_nil (hrest.all (saveless_told noScriptMessage) x hx)

theorem Command.course {c : Command} (hlive : IsLive w) (h : Plays Beside c.work w log r w') :
    Course log r w' := by
  cases c with
  | script file => exact course_run hlive h
  | testcase n => exact course_runTestcase hlive h
  | here => exact course_here hlive h

end

/-- A command that tells a line has seen to the environment of a live project, once, and has sent
the line last of all, to the terminal of that project, which it showed just before. The line begins
with the interpreter that the project has at the end. A command that tells none has sent none, and
has shown no terminal. No other terminal gets anything. A script with unsaved changes is saved
before all that. -/
theorem Command.sends_what_it_tells {c : Command} {w w' : World} {log : List (Ran World)}
    {r : Except Error (Option String)} (hlive : IsLive w) (h : Plays Beside c.work w log r w') :
    (∀ l, r = .ok (some l) → ∃ id v w₁ w₂ before ensured after rest,
      log = before ++ ensured ++ after ∧
      (∀ x ∈ before, Silent x) ∧
      Ensured id v w₁ ensured (.ok ()) w₂ ∧
      Asks (nameFor v.root) after [.show w'.files, .line l] ∧
      l = quote (Environment.interpreter w' v.root).text ++ " " ++ rest) ∧
    ((∀ l, r ≠ .ok (some l)) → (∀ x ∈ log, Silent x) ∨
      ∃ id v w₁ w₂ before ensured after r₁,
        log = before ++ ensured ++ after ∧
        (∀ x ∈ before, Silent x) ∧
        Ensured id v w₁ ensured r₁ w₂ ∧
        ∀ x ∈ after, Silent x) ∧
    SavesFirst (c.script? w) w log := by
  refine ⟨fun l hl => ?_, fun hnone => ?_, c.savesFirst hlive h⟩
  · cases c.course hlive h with
    | idle hr => exact absurd hl (hr l)
    | stopped hr => exact absurd hl (hr l)
    | sent hbefore hensured hafter heq =>
        obtain rfl := Option.some.inj (Except.ok.inj hl)
        exact ⟨_, _, _, _, _, _, _, _, rfl, hbefore, hensured, hafter, heq⟩
  · cases c.course hlive h with
    | idle _ hsilent => exact .inl hsilent
    | stopped _ hbefore hensured hafter =>
        exact .inr ⟨_, _, _, _, _, _, _, _, rfl, hbefore, hensured, hafter⟩
    | sent => exact absurd rfl (hnone _)

/-- A project with an environment that is not in use, and a script that is only in the editor
yet. -/
def workplace : World :=
  { World.start
      ⟨⟨"/"⟩, 0, [(["p"], .dir), (["p", "venv"], .dir), (["p", "venv", "bin"], .dir),
        (["p", "venv", "bin", "activate_this.py"], .file ⟨.empty, false, false, 0⟩)]⟩
      (.recorder { Host.Recorder.fresh with
        prompts := [.yes]
        unsaved := [⟨"/p/a.py"⟩]
        terminals := [⟨"QTA - /p", ⟨"/p"⟩, [], 0, false⟩] }) .files default with
    projects := [.fresh ⟨"/p"⟩]
    registry := [0] }

/-- The environment is switched to on the way, and the line begins with its interpreter. -/
theorem sends_what_it_tells_workplace : ∃ log w',
    Plays Beside (Command.script (some (.file ⟨"/p/a.py"⟩))).work workplace log
      (.ok (some "/p/venv/bin/python /p/a.py")) w' ∧
    (∃ id v w₁ w₂ before ensured after rest,
      log = before ++ ensured ++ after ∧
      (∀ x ∈ before, Silent x) ∧
      Ensured id v w₁ ensured (.ok ()) w₂ ∧
      Asks (nameFor v.root) after [.show w'.files, .line "/p/venv/bin/python /p/a.py"] ∧
      "/p/venv/bin/python /p/a.py" =
        quote (Environment.interpreter w' v.root).text ++ " " ++ rest) ∧
    SavesFirst (some ⟨"/p/a.py"⟩) workplace log ∧
    w'.host.recorded.map (·.lines) =
      [["source /p/venv/bin/activate;", "/p/venv/bin/python /p/a.py"]] := by
  have hlive : IsLive workplace := fun id hid => by
    rw [List.mem_singleton.mp hid]
    decide
  have hresult :
      ((Command.script (some (.file ⟨"/p/a.py"⟩))).work.poll World.isReady workplace).1.result? =
      some (.ok (some "/p/venv/bin/python /p/a.py")) := by decide +kernel
  rcases Plays.last World.isReady hresult with ⟨log, hplays⟩
  rcases Command.sends_what_it_tells hlive hplays with ⟨hsent, -, hsaves⟩
  exact ⟨log, _, hplays, hsent _ rfl, hsaves, by decide +kernel⟩

end Dispatch
end Testbench
