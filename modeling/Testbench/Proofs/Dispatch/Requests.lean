import Mathlib.Data.List.Forall2
import Testbench.Dispatch
import Testbench.Proofs.Listing.Steps
import Testbench.Proofs.Environment.Saving
import Testbench.Proofs.Environment.Switching

/-!
# Requests — what a step asks of the terminals

Whether a line was sent shows in a terminal only if there is one. So what a step asks of the
terminals is read off what it does in front of every host.

- `Dispatch.Request`, `Requests`, `Silent` : what a step asks of one terminal, and of no other;
- `Dispatch.Asks`      : what a row of steps asks of it, in order;
- `Dispatch.Saves`     : the files that a step has the host save;
- `Dispatch.SavesFirst` : a script is saved before anything is asked of a terminal;
- `silent_of_deed`, `requests_of_sends`, `requests_send` : listings, environments, a line to run.
-/

namespace Testbench
namespace Dispatch

open Testbench.Host (AnyTerminal)
open Testbench.Task (Ran)
open Terminal (nameFor)

/-! ## Requests -/

inductive Request where
  /-- Bring it to the front; the folders that are there tell whether a shell can be started. -/
  | show (files : FileTree)
  | line (text : String)

def Request.on (t : AnyTerminal) : Request → AnyTerminal
  | .show files => t.appear (files.isDir t.cwd)
  | .line text => t.send text

/-- In front of every host, a step does this to the terminal of a name, and nothing to any other. -/
def Requests (name : String) (x : Ran World) (rs : List Request) : Prop :=
  ∀ host n, (x.act (x.before.withHost host)).2.host.terminal? n =
    (host.terminal? n).map fun t => if n = name then rs.foldl Request.on t else t

/-- A step does nothing to any terminal. -/
def Silent (x : Ran World) : Prop :=
  ∀ host n, (x.act (x.before.withHost host)).2.host.terminal? n = host.terminal? n

/-- Steps do this to the terminal of a name, one after another, and nothing to any other. -/
def Asks (name : String) (log : List (Ran World)) (rs : List Request) : Prop :=
  ∃ parts, List.Forall₂ (Requests name) log parts ∧ parts.flatten = rs

/-- The files that a step has the host save. -/
def Saves (x : Ran World) (files : List Path) : Prop :=
  x.after.host.saves = x.before.host.saves ++ files

theorem Silent.requests {x : Ran World} (h : Silent x) (name : String) : Requests name x [] := by
  intro host n
  rw [h host n]
  cases host.terminal? n <;> simp

theorem Asks.nil (name : String) : Asks name [] [] := ⟨[], .nil, rfl⟩

theorem Asks.cons {name : String} {x : Ran World} {log : List (Ran World)} {rs more : List Request}
    (hx : Requests name x rs) (h : Asks name log more) : Asks name (x :: log) (rs ++ more) := by
  obtain ⟨parts, hparts, rfl⟩ := h
  exact ⟨rs :: parts, .cons hx hparts, rfl⟩

theorem saves_nil {x : Ran World} (h : x.IsSaveless) : Saves x [] :=
  Eq.trans h (List.append_nil _).symm

/-! ## Looks and listings -/

theorem silent_look (w : World) : Silent ⟨w, World, Act.world.run⟩ := fun _ _ => rfl

theorem silent_tell {event : Host.Event} {change : Host.Console → Host.Console}
    (h : ∀ c, (change c).terminals = c.terminals) (w : World) :
    Silent ⟨w, Unit, (Act.tell (Host.tell event change)).run⟩ :=
  fun host n => Host.terminal?_tell event h host n

theorem Notified.terminal? {host host' : Host} (h : host.Notified host') (n : String) :
    host'.terminal? n = host.terminal? n := by
  induction h with
  | nothing => rfl
  | status text _ ih => exact (Host.terminal?_tell _ (fun _ => rfl) _ n).trans ih
  | @error host' text _ ih =>
      have hkept : ∀ c : Host.Console, (c.showError text).terminals = c.terminals := fun _ => rfl
      exact (Host.terminal?_tell (.error text) hkept host' n).trans ih

theorem Notified.saves {host host' : Host} (h : host.Notified host') :
    host'.saves = host.saves := by
  induction h with
  | nothing => rfl
  | status text _ ih => exact (Host.saves_updateStatus _ text).trans ih
  | error text _ ih => exact (Host.saves_showError _ text).trans ih

/-- A listing does the same deeds in front of another host. -/
theorem deed_withHost {x : Ran World} (h : Listing.Deed x) (host : Host) :
    Listing.Deed { x with before := x.before.withHost host } := by
  cases h with
  | look w => exact .look _
  | enter w => exact .enter _
  | queueUp p w => exact .queueUp p _
  | lookUp root key file w => exact .lookUp root key file _
  | launch i w => exact .launch i _
  | conclude root key file modified v w => exact .conclude root key file modified v _
  | store root file fetched w => exact .store root file fetched _
  | release hf w => exact .release hf _

theorem silent_of_deed {x : Ran World} (h : Listing.Deed x) : Silent x :=
  fun host n => Notified.terminal? (deed_withHost h host).aside.notified n

theorem saves_of_deed {x : Ran World} (h : Listing.Deed x) : Saves x [] :=
  saves_nil (Notified.saves h.aside.notified)

/-! ## Environments -/

/-- Lines for the environment of a project are requests to its terminal. -/
theorem requests_of_sends {v : Environment.View} {x : Ran World} {lines : List Environment.Line}
    (h : Environment.Sends v x lines) :
    Requests (nameFor v.root) x (lines.map fun l => .line (l.text v.platform)) := by
  intro host n
  refine (h host n).trans ?_
  congr 1
  funext t
  split
  · rw [AnyTerminal.replay, List.map_map, List.foldl_map, List.foldl_map]
    rfl
  · rfl

theorem asks_lines {name : String} {f : Environment.Line → Request} {log : List (Ran World)}
    (h : ∀ x ∈ log, ∃ lines : List Environment.Line, Requests name x (lines.map f)) :
    ∃ lines : List Environment.Line, Asks name log (lines.map f) := by
  induction log with
  | nil => exact ⟨[], .nil name⟩
  | cons x log ih =>
      obtain ⟨lines, hlines⟩ := h x List.mem_cons_self
      obtain ⟨more, hmore⟩ := ih fun y hy => h y (List.mem_cons_of_mem _ hy)
      refine ⟨lines ++ more, ?_⟩
      rw [List.map_append]
      exact .cons hlines hmore

/-! ## The line of a run -/

theorem run_send (id : ProjectId) (line : String) (w : World) : ∃ host,
    (send id line).run w = (line, w.withHost host) := ⟨_, rfl⟩

/-- The terminal of a project is shown, and gets the line. -/
theorem requests_send (id : ProjectId) (line : String) (w : World) :
    Requests (nameFor (w.root id)) ⟨w, String, (send id line).run⟩ [.show w.files, .line line] := by
  intro host n
  have hhost : ((send id line).run (w.withHost host)).2.host =
      (host.showTerminal w.files (nameFor (w.root id))).send (nameFor (w.root id)) line := rfl
  change ((send id line).run (w.withHost host)).2.host.terminal? n = _
  rw [hhost, Host.terminal?_send, Host.terminal?_showTerminal, Option.map_map]
  congr 1
  funext t
  by_cases hn : n = nameFor (w.root id)
  · simp only [Function.comp, if_pos hn]
    rfl
  · simp only [Function.comp, if_neg hn]

/-! ## Saving -/

theorem silent_save (file : Path) (w : World) :
    Silent ⟨w, Unit, (Act.tell (Host.save file)).run⟩ := fun host _ => by cases host <;> rfl

/-- A host that knows of unsaved changes notes that the file was saved. -/
theorem saves_save {file : Path} {w : World} (h : w.host.isUnsaved file = true) :
    Saves ⟨w, Unit, (Act.tell (Host.save file)).run⟩ [file] := by
  change (w.host.save file).saves = w.host.saves ++ [file]
  cases hhost : w.host with
  | recorder r => exact List.filterMap_append
  | console c =>
      rw [hhost] at h
      exact nomatch h

/-- A script with unsaved changes is saved before anything is asked of a terminal, and nothing else
is saved. -/
inductive SavesFirst (script? : Option Path) (w : World) : List (Ran World) → Prop where
  | nothing {log : List (Ran World)}
      (hsaved : ∀ file, script? = some file → w.host.isUnsaved file = false)
      (hlog : ∀ x ∈ log, Saves x []) : SavesFirst script? w log
  | script {file : Path} {save : Ran World} {before after : List (Ran World)}
      (hscript : script? = some file) (hunsaved : w.host.isUnsaved file = true)
      (hbefore : ∀ x ∈ before, Silent x ∧ Saves x []) (hsilent : Silent save)
      (hsave : Saves save [file]) (hafter : ∀ x ∈ after, Saves x []) :
      SavesFirst script? w (before ++ save :: after)

theorem SavesFirst.cons {script? : Option Path} {w : World} {x : Ran World} {log : List (Ran World)}
    (h : SavesFirst script? w log) (hsilent : Silent x) (hsaves : Saves x []) :
    SavesFirst script? w (x :: log) := by
  cases h with
  | nothing hsaved hlog => exact .nothing hsaved (List.forall_mem_cons.mpr ⟨hsaves, hlog⟩)
  | script hscript hunsaved hbefore hsave hsaved hafter =>
      rw [← List.cons_append]
      exact .script hscript hunsaved (List.forall_mem_cons.mpr ⟨⟨hsilent, hsaves⟩, hbefore⟩) hsave
        hsaved hafter

theorem SavesFirst.append {script? : Option Path} {w : World} {log rest : List (Ran World)}
    (h : SavesFirst script? w log) (hrest : ∀ x ∈ rest, Saves x []) :
    SavesFirst script? w (log ++ rest) := by
  cases h with
  | nothing hsaved hlog => exact .nothing hsaved (List.forall_mem_append.mpr ⟨hlog, hrest⟩)
  | script hscript hunsaved hbefore hsave hsaved hafter =>
      rw [List.append_assoc, List.cons_append]
      exact .script hscript hunsaved hbefore hsave hsaved
        (List.forall_mem_append.mpr ⟨hafter, hrest⟩)

end Dispatch
end Testbench
