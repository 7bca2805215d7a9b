import Testbench.Workspace
import Testbench.Proofs.Cache.Store
import Testbench.Proofs.Host.Terminals

/-!
# Terminals — the terminals of projects that come and go

A project's terminal goes by its root, and closing a project closes it. A folder that is opened
again gets the terminal it had before. So the terminal of a live project is the replay of all that
was ever done to a terminal of that root, by this project and by those before it.

- `Op`, `Call`     : the changes of projects and terminals, one by one and as they are made;
- `history`        : what was done to terminals, by root;
- `Tracked`        : the invariant: each terminal is the replay of its part of the history;
- `terminal_of_live` : what the terminal of a live project is good for.
-/

namespace Testbench
namespace Workspace

open Host (AnyTerminal Deed)
open Terminal (nameFor)

/-! ## Changes -/

/-- What happens beside the terminals: files, dialogs, parses and whatever else leaves them, the
projects' roots and the registry alone. -/
structure Aside where
  change : World → World
  registry : ∀ w, (change w).registry = w.registry
  roots : ∀ w, (change w).projects.map (·.root) = w.projects.map (·.root)
  terminals : ∀ w name, (change w).host.terminal? name = w.host.terminal? name
  blank : ∀ w, (change w).host.blank = w.host.blank

/-- One change. The terminal of a project can be reached as long as anybody knows the project. -/
inductive Op where
  | add (folder : Path)
  | remove (folder : Path)
  | clear
  | appear (id : ProjectId)
  | send (id : ProjectId) (line : String)
  | aside (a : Aside)

/-- The world after an act. -/
def ranIn {α : Type} (w : World) (m : Act α) : World := (m.run w).2

/-- Something is done with the terminal of a project that was opened. -/
def atTerminal (w : World) (id : ProjectId) (use : Path → Act Unit) : World :=
  if id < w.projects.length then ranIn w (use (w.root id)) else w

def Op.on : Op → World → World
  | .add folder, w => ranIn w (Registry.add folder)
  | .remove folder, w => ranIn w (Registry.remove folder)
  | .clear, w => ranIn w Registry.clear
  | .appear id, w => atTerminal w id Terminal.appear
  | .send id line, w => atTerminal w id fun root => Terminal.send root line
  | .aside a, w => a.change w

def runOps (w : World) (ops : List Op) : World := ops.foldl (fun w op => op.on w) w

/-- Changes as they are made. -/
inductive Call where
  | openFolders (folders : List Path)
  | foldersChanged (added removed : List Path)
  | single (op : Op)

def Call.on : Call → World → World
  | .openFolders folders, w => ranIn w (Workspace.openFolders folders)
  | .foldersChanged added removed, w => ranIn w (Workspace.foldersChanged added removed)
  | .single op, w => op.on w

def runCalls (w : World) (calls : List Call) : World := calls.foldl (fun w call => call.on w) w

/-- Folders come and go one by one. -/
def Call.ops : Call → List Op
  | .openFolders folders => folders.map .add
  | .foldersChanged added removed => added.map .add ++ removed.map .remove
  | .single op => [op]

theorem runOps_append (w : World) (ops more : List Op) :
    runOps w (ops ++ more) = runOps (runOps w ops) more :=
  List.foldl_append

theorem ranIn_bind {α β : Type} (w : World) (m : Act α) (f : α → Act β) :
    ranIn w (m >>= f) = ranIn (ranIn w m) (f (m.run w).1) :=
  rfl

theorem runCalls_append (w : World) (calls more : List Call) :
    runCalls w (calls ++ more) = runCalls (runCalls w calls) more :=
  List.foldl_append

theorem runOps_openFolders (w : World) (folders : List Path) :
    runOps w (folders.map .add) = ranIn w (openFolders folders) := by
  induction folders generalizing w with
  | nil => rfl
  | cons folder rest ih =>
      rw [openFolders, ranIn_bind, ranIn_bind, ← ih]
      rfl

theorem runOps_removeFolders (w : World) (folders : List Path) :
    runOps w (folders.map .remove) = ranIn w (removeFolders folders) := by
  induction folders generalizing w with
  | nil => rfl
  | cons folder rest ih =>
      rw [removeFolders, ranIn_bind, ← ih]
      rfl

theorem runOps_call (w : World) (call : Call) : runOps w call.ops = call.on w := by
  cases call with
  | openFolders folders => exact runOps_openFolders w folders
  | foldersChanged added removed =>
      rw [Call.ops, runOps_append, runOps_openFolders, runOps_removeFolders]
      rfl
  | single op => rfl

theorem runOps_calls (w : World) (calls : List Call) :
    runOps w (calls.flatMap Call.ops) = runCalls w calls := by
  induction calls generalizing w with
  | nil => rfl
  | cons call rest ih =>
      rw [List.flatMap_cons, runOps_append, runOps_call, ih]
      rfl

/-! ## History -/

/-- The root that a folder is opened under, if that makes a new project. -/
def newRoot? (w : World) (folder : Path) : Option Path :=
  let root := Registry.absolute w.files.cwd folder
  if Registry.admits w.files root && (Registry.lookUp? w (root.same ·)).isNone then some root
  else none

/-- What a change does to terminals. -/
def Op.deeds (op : Op) (w : World) : List (Path × Deed) :=
  match op with
  | .add folder => (newRoot? w folder).toList.map fun root =>
    (root, .sent (TerminalLine.exportPythonPath w.setup.platform root))
  | .remove folder => (Registry.get? w folder).toList.map fun id => (w.root id, .closed)
  | .clear => w.registry.map fun id => (w.root id, .closed)
  | .appear id =>
    if id < w.projects.length then [(w.root id, .shown (w.files.isDir (w.root id)))] else []
  | .send id line => if id < w.projects.length then [(w.root id, .sent line)] else []
  | .aside _ => []

def history (w : World) : List Op → List (Path × Deed)
  | [] => []
  | op :: rest => op.deeds w ++ history (op.on w) rest

/-- What was done to the terminal of a root. -/
def doneTo (past : List (Path × Deed)) (root : Path) : List Deed :=
  (past.filter (·.1 = root)).map (·.2)

theorem doneTo_append (past more : List (Path × Deed)) (root : Path) :
    doneTo (past ++ more) root = doneTo past root ++ doneTo more root := by
  simp [doneTo]

theorem doneTo_single (r root : Path) (d : Deed) :
    doneTo [(r, d)] root = if r = root then [d] else [] := by
  by_cases h : r = root <;> simp [doneTo, h]

theorem mem_doneTo {past : List (Path × Deed)} {root : Path} {d : Deed} :
    d ∈ doneTo past root ↔ (root, d) ∈ past := by
  simp [doneTo]

/-! ## The invariant -/

theorem nameFor_inj {r r' : Path} : nameFor r = nameFor r' ↔ r = r' := by
  constructor
  · intro h
    cases r
    cases r'
    simpa [nameFor] using h
  · exact congrArg nameFor

/-- What may become of the projects' roots. -/
theorem root_congr {w w' : World} (h : w'.projects.map (·.root) = w.projects.map (·.root))
    (id : ProjectId) : w'.root id = w.root id := by
  have hget := congrArg (fun roots => roots[id]?) h
  simp only [List.getElem?_map] at hget
  have hroot := congrArg (fun o : Option Path => o.getD (default : Project).root) hget
  simpa only [World.root, World.project, Option.getD_map] using hroot

/-- The first projects stay the first. -/
theorem root_of_prefix {w w' : World}
    (h : w.projects.map (·.root) <+: w'.projects.map (·.root)) {id : ProjectId}
    (hid : id < w.projects.length) : id < w'.projects.length ∧ w'.root id = w.root id := by
  have hlength : w.projects.length ≤ w'.projects.length := by simpa using h.length_le
  have hlt := Nat.lt_of_lt_of_le hid hlength
  refine ⟨hlt, ?_⟩
  have hget := h.getElem (i := id) (by simpa using hid)
  simp only [List.getElem_map] at hget
  simp only [World.root, World.project, List.getElem?_eq_getElem hid,
    List.getElem?_eq_getElem hlt, Option.getD_some]
  exact hget.symm

theorem length_congr {w w' : World} (h : w'.projects.map (·.root) = w.projects.map (·.root)) :
    w'.projects.length = w.projects.length := by
  simpa using congrArg List.length h

/-- Live projects were opened and have different roots. The terminal of each root is the replay of
what was done to it, and there is none for other roots. -/
structure Tracked (w : World) (past : List (Path × Deed)) : Prop where
  opened : ∀ id ∈ w.registry, id < w.projects.length
  nodup : w.registry.Nodup
  apart : ∀ i ∈ w.registry, ∀ j ∈ w.registry, (w.root i).same (w.root j) = true → i = j
  seen : ∀ id, id < w.projects.length → w.host.terminal? (nameFor (w.root id)) =
    some ((w.host.blank (nameFor (w.root id)) (w.root id)).replay (doneTo past (w.root id)))
  unseen : ∀ root, (∀ id, id < w.projects.length → w.root id ≠ root) →
    w.host.terminal? (nameFor root) = none ∧ doneTo past root = []

/-- A change that does one thing to the terminal of one root. -/
structure Touches (root : Path) (d : Deed) (w w' : World) : Prop where
  roots : w'.projects.map (·.root) = w.projects.map (·.root)
  terminals : ∀ name, w'.host.terminal? name =
    (w.host.terminal? name).map fun t => if name = nameFor root then t.after d else t
  blank : w'.host.blank = w.host.blank

namespace Tracked

variable {w w' : World} {past : List (Path × Deed)}

theorem touched (h : Tracked w past) {root : Path} {d : Deed} (ht : Touches root d w w')
    (hroot : ∃ id, id < w.projects.length ∧ w.root id = root)
    (hregistry : w'.registry.Sublist w.registry) : Tracked w' (past ++ [(root, d)]) := by
  have hlength := length_congr ht.roots
  have hsame := root_congr ht.roots
  refine ⟨?_, h.nodup.sublist hregistry, ?_, ?_, ?_⟩
  · intro id hid
    rw [hlength]
    exact h.opened id (hregistry.subset hid)
  · intro i hi j hj
    rw [hsame, hsame]
    exact h.apart i (hregistry.subset hi) j (hregistry.subset hj)
  · intro id hid
    rw [hlength] at hid
    rw [hsame, ht.terminals, h.seen id hid, ht.blank, doneTo_append, doneTo_single]
    -- The terminal of that root has one more thing done to it, and the others go by other names.
    by_cases heq : root = w.root id
    · rw [if_pos heq, Option.map_some, if_pos (nameFor_inj.2 heq.symm), AnyTerminal.replay_concat]
    · rw [if_neg heq, Option.map_some, if_neg (fun hn => heq (nameFor_inj.1 hn).symm),
        List.append_nil]
  · intro r hr
    simp only [hlength, hsame] at hr
    rcases h.unseen r hr with ⟨hnone, hnothing⟩
    rcases hroot with ⟨id, hid, hroot⟩
    refine ⟨by rw [ht.terminals, hnone, Option.map_none], ?_⟩
    rw [doneTo_append, hnothing, doneTo_single, if_neg, List.nil_append]
    rintro rfl
    exact hr id hid hroot

/-- The terminal that a host has or makes for a root. -/
theorem getD_terminal? (h : Tracked w past) (root : Path) :
    (w.host.terminal? (nameFor root)).getD (w.host.blank (nameFor root) root) =
      (w.host.blank (nameFor root) root).replay (doneTo past root) := by
  by_cases hroot : ∃ id, id < w.projects.length ∧ w.root id = root
  · rcases hroot with ⟨id, hid, rfl⟩
    rw [h.seen id hid, Option.getD_some]
  · have hnew : ∀ id, id < w.projects.length → w.root id ≠ root := fun id hid heq =>
      hroot ⟨id, hid, heq⟩
    rcases h.unseen root hnew with ⟨hnone, hnothing⟩
    rw [hnone, hnothing]
    rfl

end Tracked

/-! ## One change after another -/

theorem roots_updateProject (id : ProjectId) {f : Project → Project} (hf : ∀ p, (f p).root = p.root)
    (w : World) : (w.updateProject id f).projects.map (·.root) = w.projects.map (·.root) := by
  refine List.ext_getElem? fun i => ?_
  simp only [World.updateProject, List.getElem?_map, List.getElem?_modify]
  cases w.projects[i]? with
  | none => rfl
  | some p => by_cases h : id = i <;> simp [h, hf]

/-- Closing a project closes its terminal. -/
theorem touches_dispose (id : ProjectId) (w : World) :
    Touches (w.root id) .closed w (ranIn w (Project.dispose id)) ∧
      (ranIn w (Project.dispose id)).registry = w.registry := by
  have hroots := roots_updateProject id (f := fun p => { p with watching := false })
    (fun _ => rfl) w
  have hroot := root_congr hroots id
  refine ⟨⟨hroots, ?_, ?_⟩, rfl⟩
  · intro name
    rw [← hroot]
    exact w.host.terminal?_closeTerminal _ _ name
  · exact w.host.blank_closeTerminal _ _

theorem touches_appear {w : World} {past : List (Path × Deed)} (h : Tracked w past)
    {id : ProjectId} (hid : id < w.projects.length) :
    Touches (w.root id) (.shown (w.files.isDir (w.root id))) w
      (ranIn w (Terminal.appear (w.root id))) := by
  refine ⟨rfl, ?_, w.host.blank_showTerminal _ _⟩
  intro name
  refine (w.host.terminal?_showTerminal w.files _ name).trans ?_
  by_cases hname : name = nameFor (w.root id)
  · -- The terminal stands in the root, where it was made.
    rw [hname, h.seen id hid]
    have hcwd : ((w.host.blank (nameFor (w.root id)) (w.root id)).replay
        (doneTo past (w.root id))).cwd = w.root id := by
      rw [AnyTerminal.cwd_replay]
      cases w.host <;> rfl
    simp only [Option.map_some, if_true, hcwd, AnyTerminal.after]
  · simp only [if_neg hname]

theorem touches_send (w : World) (root : Path) (line : String) :
    Touches root (.sent line) w (ranIn w (Terminal.send root line)) :=
  ⟨rfl, w.host.terminal?_send _ line, w.host.blank_send _ line⟩

theorem mem_of_lookUp? {w : World} {holds : Path → Bool} {id : ProjectId}
    (h : Registry.lookUp? w holds = some id) : id ∈ w.registry ∧ holds (w.root id) = true := by
  rcases Option.map_eq_some_iff.1 h with ⟨entry, hfind, rfl⟩
  have hmem := List.mem_of_find?_eq_some hfind
  rcases List.mem_map.1 hmem with ⟨i, hi, rfl⟩
  exact ⟨hi, by simpa using List.find?_some hfind⟩

theorem not_holds_of_lookUp? {w : World} {holds : Path → Bool}
    (h : Registry.lookUp? w holds = none) {id : ProjectId} (hid : id ∈ w.registry) :
    holds (w.root id) = false := by
  rw [Registry.lookUp?, Option.map_eq_none_iff, List.find?_eq_none] at h
  have hentry := h (id, w.root id) (List.mem_map.2 ⟨id, hid, rfl⟩)
  simpa using hentry

/-! ### A project that is opened -/

/-- A project is opened for a root. It has the next number, and is listed last. -/
structure Adds (root : Path) (w w' : World) : Prop where
  projects : w'.projects = w.projects ++ [Project.fresh root]
  registry : w'.registry = w.registry ++ [w.projects.length]

namespace Adds

variable {root : Path} {w w' : World} (h : Adds root w w')
include h

theorem length_eq : w'.projects.length = w.projects.length + 1 := by simp [h.projects]

theorem root_new : w'.root w.projects.length = root := by
  simp [World.root, World.project, h.projects, Project.fresh]

theorem root_old {id : ProjectId} (hid : id < w.projects.length) : w'.root id = w.root id := by
  rw [World.root, World.project, h.projects, List.getElem?_append_left hid]
  rfl

theorem roots_prefix : w.projects.map (·.root) <+: w'.projects.map (·.root) :=
  ⟨[root], by simp [h.projects, Project.fresh]⟩

theorem mem_registry {id : ProjectId} :
    id ∈ w'.registry ↔ id ∈ w.registry ∨ id = w.projects.length := by
  rw [h.registry, List.mem_append, List.mem_singleton]

section

variable (hopened : ∀ id ∈ w.registry, id < w.projects.length)
include hopened

theorem opened : ∀ id ∈ w'.registry, id < w'.projects.length := by
  intro id hid
  rw [h.length_eq]
  rcases h.mem_registry.1 hid with hin | rfl
  · exact Nat.lt_succ_of_lt (hopened id hin)
  · exact Nat.lt_succ_self _

theorem nodup (hnodup : w.registry.Nodup) : w'.registry.Nodup := by
  rw [h.registry, List.nodup_append]
  refine ⟨hnodup, by simp, ?_⟩
  intro i hi j hj
  rw [List.mem_singleton.1 hj]
  exact Nat.ne_of_lt (hopened i hi)

/-- What holds of the new root and of the roots that were listed holds of all that are listed. -/
theorem forall_root {P : Path → Prop} (hnew : P root) (hold : ∀ id ∈ w.registry, P (w.root id)) :
    ∀ id ∈ w'.registry, P (w'.root id) := by
  intro id hid
  rcases h.mem_registry.1 hid with hin | rfl
  · exact h.root_old (hopened id hin) ▸ hold id hin
  · exact h.root_new ▸ hnew

/-- Roots stay apart when the new one is apart from those that were listed. -/
theorem apart {R : Path → Path → Prop} (hsymm : ∀ p q, R p q → R q p)
    (hnew : ∀ id ∈ w.registry, ¬R root (w.root id))
    (hold : ∀ i ∈ w.registry, ∀ j ∈ w.registry, R (w.root i) (w.root j) → i = j) :
    ∀ i ∈ w'.registry, ∀ j ∈ w'.registry, R (w'.root i) (w'.root j) → i = j := by
  intro i hi j hj hrel
  rcases h.mem_registry.1 hi with hin | rfl <;> rcases h.mem_registry.1 hj with hjn | rfl
  · rw [h.root_old (hopened i hin), h.root_old (hopened j hjn)] at hrel
    exact hold i hin j hjn hrel
  · rw [h.root_old (hopened i hin), h.root_new] at hrel
    exact absurd (hsymm _ _ hrel) (hnew i hin)
  · rw [h.root_old (hopened j hjn), h.root_new] at hrel
    exact absurd hrel (hnew j hjn)
  · rfl

end

end Adds

namespace Tracked

variable {w : World} {past : List (Path × Deed)}

/-- Nothing but what concerns the terminals counts. -/
theorem congr {w' : World} (h : Tracked w past)
    (hroots : w'.projects.map (·.root) = w.projects.map (·.root))
    (hregistry : w'.registry.Sublist w.registry)
    (hterminals : ∀ name, w'.host.terminal? name = w.host.terminal? name)
    (hblank : w'.host.blank = w.host.blank) : Tracked w' past := by
  have hlength := length_congr hroots
  have hsame := root_congr hroots
  refine ⟨?_, h.nodup.sublist hregistry, ?_, ?_, ?_⟩
  · intro id hid
    rw [hlength]
    exact h.opened id (hregistry.subset hid)
  · intro i hi j hj
    rw [hsame, hsame]
    exact h.apart i (hregistry.subset hi) j (hregistry.subset hj)
  · intro id hid
    rw [hsame, hterminals, hblank]
    exact h.seen id (hlength ▸ hid)
  · intro root hroot
    rw [hterminals]
    exact h.unseen root fun id hid => hsame id ▸ hroot id (hlength ▸ hid)

theorem disposeEach (h : Tracked w past) {ids : List ProjectId}
    (hids : ∀ id ∈ ids, id < w.projects.length) :
    Tracked (ranIn w (Registry.disposeEach ids))
      (past ++ ids.map fun id => (w.root id, .closed)) := by
  induction ids generalizing w past with
  | nil =>
      rw [List.map_nil, List.append_nil]
      exact h
  | cons id rest ih =>
      rcases touches_dispose id w with ⟨htouches, hregistry⟩
      have hid := hids id List.mem_cons_self
      have hfirst := h.touched htouches ⟨id, hid, rfl⟩ (hregistry ▸ List.Sublist.refl _)
      have hrest := ih hfirst fun i hi => by
        rw [length_congr htouches.roots]
        exact hids i (List.mem_cons_of_mem _ hi)
      simp only [root_congr htouches.roots, List.append_assoc] at hrest
      exact hrest

section

variable {root : Path} {w' : World} {line : String}
  (hhost : w'.host = (w.host.openTerminal (nameFor root) root).send (nameFor root) line)
include hhost

/-- One terminal may be new, and it gets a line. -/
theorem terminal?_create (h : Tracked w past) (name : String) : w'.host.terminal? name =
    if name = nameFor root then
      some (((w.host.blank (nameFor root) root).replay (doneTo past root)).send line)
    else w.host.terminal? name := by
  rw [hhost, Host.terminal?_send, Host.terminal?_openTerminal, h.getD_terminal?]
  by_cases hname : name = nameFor root
  · simp [hname]
  · simp [hname]

theorem blank_create : w'.host.blank = w.host.blank := by
  rw [hhost, Host.blank_send, Host.blank_openTerminal]

theorem seen_create (h : Tracked w past) : w'.host.terminal? (nameFor root) =
    some ((w'.host.blank (nameFor root) root).replay
      (doneTo (past ++ [(root, .sent line)]) root)) := by
  rw [h.terminal?_create hhost, if_pos rfl, blank_create hhost, doneTo_append, doneTo_single,
    if_pos rfl, AnyTerminal.replay_concat]
  rfl

/-- A new project comes with its terminal, which is the one of that root if there was one. -/
theorem create (h : Tracked w past) (hadds : Adds root w w')
    (hnew : ∀ id ∈ w.registry, root.same (w.root id) = false) :
    Tracked w' (past ++ [(root, .sent line)]) := by
  refine ⟨hadds.opened h.opened, hadds.nodup h.opened h.nodup, ?_, ?_, ?_⟩
  · refine hadds.apart (R := fun p q => p.same q = true) h.opened (fun p q hpq => ?_)
      (fun id hid => ?_) h.apart
    · exact (Path.same_comm q p).trans hpq
    · exact Bool.eq_false_iff.1 (hnew id hid)
  · intro id hid
    -- Of the same root there may have been a project before, whose terminal this one gets.
    by_cases heq : w'.root id = root
    · rw [heq]
      exact h.seen_create hhost
    · have hlt : id < w.projects.length := by
        rw [hadds.length_eq] at hid
        refine Nat.lt_of_le_of_ne (Nat.le_of_lt_succ hid) ?_
        rintro rfl
        exact heq hadds.root_new
      rw [hadds.root_old hlt] at heq ⊢
      rw [h.terminal?_create hhost, if_neg (fun hn => heq (nameFor_inj.1 hn)), blank_create hhost,
        doneTo_append, doneTo_single, if_neg (Ne.symm heq), List.append_nil]
      exact h.seen id hlt
  · intro r hr
    have hlength := hadds.length_eq
    have hne : root ≠ r := fun heq => hr w.projects.length (by omega) (hadds.root_new.trans heq)
    have hold := h.unseen r fun id hid heq => hr id (by omega) ((hadds.root_old hid).trans heq)
    rw [h.terminal?_create hhost, if_neg (fun hn => hne (nameFor_inj.1 hn).symm), doneTo_append,
      hold.2, doneTo_single, if_neg hne]
    exact ⟨hold.1, rfl⟩

end

end Tracked

/-- A folder that makes no new project changes nothing. -/
theorem add_of_newRoot?_none {w : World} {folder : Path} (h : newRoot? w folder = none) :
    ranIn w (Registry.add folder) = w := by
  unfold Registry.add
  rw [ranIn_bind]
  simp only [newRoot?, ite_eq_right_iff, reduceCtorEq, imp_false] at h
  have hworld : (Act.world.run w).1 = w := rfl
  simp only [hworld]
  cases hadmits : Registry.admits w.files (Registry.absolute w.files.cwd folder) with
  | false => rfl
  | true =>
      cases hfound : Registry.lookUp? w ((Registry.absolute w.files.cwd folder).same ·) with
      | some id => rfl
      | none => simp [hadmits, hfound] at h

theorem add_of_newRoot?_some {w : World} {folder root : Path} (h : newRoot? w folder = some root) :
    (∀ id ∈ w.registry, root.same (w.root id) = false) ∧
      Adds root w (ranIn w (Registry.add folder)) ∧
      (ranIn w (Registry.add folder)).host =
        (w.host.openTerminal (nameFor root) root).send (nameFor root)
          (TerminalLine.exportPythonPath w.setup.platform root) := by
  simp only [newRoot?, Option.ite_none_right_eq_some, Bool.and_eq_true, Option.some.injEq,
    Option.isNone_iff_eq_none] at h
  rcases h with ⟨⟨hadmits, hnone⟩, rfl⟩
  refine ⟨fun id hid => not_holds_of_lookUp? hnone hid, ?_⟩
  unfold Registry.add
  rw [ranIn_bind]
  have hworld : (Act.world.run w).1 = w := rfl
  simp only [hworld, hadmits, hnone]
  -- Whether setting up is sent to the background makes no difference here.
  cases w.setup.initOnOpen with
  | true => exact ⟨⟨rfl, rfl⟩, rfl⟩
  | false => exact ⟨⟨rfl, rfl⟩, rfl⟩

/-- Removing a folder closes the project of that root, if there is one. -/
theorem remove_of_get?_none {w : World} {folder : Path} (h : Registry.get? w folder = none) :
    ranIn w (Registry.remove folder) = w := by
  unfold Registry.remove
  rw [ranIn_bind]
  have hworld : (Act.world.run w).1 = w := rfl
  simp only [hworld, h]
  rfl

theorem remove_of_get?_some {w : World} {folder : Path} {id : ProjectId}
    (h : Registry.get? w folder = some id) :
    ranIn w (Registry.remove folder) =
      ranIn { w with registry := w.registry.erase id } (Project.dispose id) := by
  unfold Registry.remove
  rw [ranIn_bind]
  have hworld : (Act.world.run w).1 = w := rfl
  simp only [hworld, h]
  rfl

/-- The project goes from the registry first, and is then disposed of. -/
theorem touches_remove {w : World} {folder : Path} {id : ProjectId}
    (h : Registry.get? w folder = some id) :
    Touches (w.root id) .closed w ((Op.remove folder).on w) ∧
      ((Op.remove folder).on w).registry = w.registry.erase id := by
  rw [Op.on, remove_of_get?_some h]
  rcases touches_dispose id { w with registry := w.registry.erase id } with ⟨htouches, hregistry⟩
  exact ⟨⟨htouches.roots, htouches.terminals, htouches.blank⟩, hregistry⟩

theorem registry_disposeEach (ids : List ProjectId) (w : World) :
    (ranIn w (Registry.disposeEach ids)).registry = w.registry := by
  induction ids generalizing w with
  | nil => rfl
  | cons id rest ih => exact (ih _).trans (touches_dispose id w).2

theorem roots_disposeEach (ids : List ProjectId) (w : World) :
    (ranIn w (Registry.disposeEach ids)).projects.map (·.root) = w.projects.map (·.root) := by
  induction ids generalizing w with
  | nil => rfl
  | cons id rest ih => exact (ih _).trans (touches_dispose id w).1.roots

theorem registry_clear (w : World) : (Op.clear.on w).registry = [] :=
  registry_disposeEach w.registry { w with registry := [] }

theorem roots_clear (w : World) :
    (Op.clear.on w).projects.map (·.root) = w.projects.map (·.root) :=
  roots_disposeEach w.registry { w with registry := [] }

theorem atTerminal_of_lt {w : World} {id : ProjectId} (h : id < w.projects.length)
    (use : Path → Act Unit) : atTerminal w id use = ranIn w (use (w.root id)) :=
  if_pos h

theorem atTerminal_of_not_lt {w : World} {id : ProjectId} (h : ¬ id < w.projects.length)
    (use : Path → Act Unit) : atTerminal w id use = w :=
  if_neg h

/-! ### Changes that leave the registry alone -/

/-- The roots and the list of live projects are as they were. -/
structure KeepsRoots (w w' : World) : Prop where
  roots : w'.projects.map (·.root) = w.projects.map (·.root)
  registry : w'.registry = w.registry

theorem keepsRoots_add {w : World} {folder : Path} (h : newRoot? w folder = none) :
    KeepsRoots w ((Op.add folder).on w) := by
  rw [Op.on, add_of_newRoot?_none h]
  exact ⟨rfl, rfl⟩

theorem keepsRoots_remove {w : World} {folder : Path} (h : Registry.get? w folder = none) :
    KeepsRoots w ((Op.remove folder).on w) := by
  rw [Op.on, remove_of_get?_none h]
  exact ⟨rfl, rfl⟩

theorem keepsRoots_appear (id : ProjectId) (w : World) : KeepsRoots w ((Op.appear id).on w) := by
  rw [Op.on, atTerminal]
  split <;> exact ⟨rfl, rfl⟩

theorem keepsRoots_send (id : ProjectId) (line : String) (w : World) :
    KeepsRoots w ((Op.send id line).on w) := by
  rw [Op.on, atTerminal]
  split <;> exact ⟨rfl, rfl⟩

theorem keepsRoots_aside (a : Aside) (w : World) : KeepsRoots w ((Op.aside a).on w) :=
  ⟨a.roots w, a.registry w⟩

namespace Tracked

variable {w : World} {past : List (Path × Deed)}

theorem add (h : Tracked w past) (folder : Path) :
    Tracked ((Op.add folder).on w) (past ++ (Op.add folder).deeds w) := by
  simp only [Op.on, Op.deeds]
  cases hnew : newRoot? w folder with
  | none =>
      rw [add_of_newRoot?_none hnew, Option.toList_none, List.map_nil, List.append_nil]
      exact h
  | some root =>
      rcases add_of_newRoot?_some hnew with ⟨hapart, hadds, hhost⟩
      exact h.create hhost hadds hapart

theorem remove (h : Tracked w past) (folder : Path) :
    Tracked ((Op.remove folder).on w) (past ++ (Op.remove folder).deeds w) := by
  cases hfound : Registry.get? w folder with
  | none =>
      rw [Op.on, Op.deeds, remove_of_get?_none hfound, hfound, Option.toList_none, List.map_nil,
        List.append_nil]
      exact h
  | some id =>
      rcases touches_remove hfound with ⟨htouches, hregistry⟩
      rw [Op.deeds, hfound]
      exact h.touched htouches ⟨id, h.opened id (mem_of_lookUp? hfound).1, rfl⟩
        (hregistry ▸ List.erase_sublist)

theorem clear (h : Tracked w past) : Tracked (Op.clear.on w) (past ++ Op.clear.deeds w) := by
  have hcleared : Tracked { w with registry := [] } past :=
    h.congr rfl (List.nil_sublist _) (fun _ => rfl) rfl
  exact hcleared.disposeEach fun id hid => h.opened id hid

/-- One thing is done to the terminal of a project, if that was opened. -/
theorem atTerminal (h : Tracked w past) {id : ProjectId} {use : Path → Act Unit} {d : Deed}
    (htouches : id < w.projects.length → Touches (w.root id) d w (ranIn w (use (w.root id))))
    (hregistry : ∀ root, (ranIn w (use root)).registry = w.registry) :
    Tracked (Workspace.atTerminal w id use)
      (past ++ if id < w.projects.length then [(w.root id, d)] else []) := by
  by_cases hid : id < w.projects.length
  · rw [atTerminal_of_lt hid, if_pos hid]
    exact h.touched (htouches hid) ⟨id, hid, rfl⟩ (hregistry (w.root id) ▸ List.Sublist.refl _)
  · rw [atTerminal_of_not_lt hid, if_neg hid, List.append_nil]
    exact h

/-- Every change keeps the account of the terminals. -/
theorem on (h : Tracked w past) (op : Op) : Tracked (op.on w) (past ++ op.deeds w) := by
  cases op with
  | add folder => exact h.add folder
  | remove folder => exact h.remove folder
  | clear => exact h.clear
  | appear id => exact h.atTerminal (touches_appear h) fun _ => rfl
  | send id line =>
      have hregistry : ∀ root, (ranIn w (Terminal.send root line)).registry = w.registry :=
        fun _ => rfl
      exact h.atTerminal (fun _ => touches_send w _ line) hregistry
  | aside a =>
      rw [Op.deeds, List.append_nil]
      exact h.congr (a.roots w) (a.registry w ▸ List.Sublist.refl _) (a.terminals w) (a.blank w)

theorem run (h : Tracked w past) (ops : List Op) :
    Tracked (runOps w ops) (past ++ history w ops) := by
  induction ops generalizing w past with
  | nil =>
      rw [history, List.append_nil]
      exact h
  | cons op rest ih =>
      rw [history, ← List.append_assoc]
      exact ih (h.on op)

end Tracked

/-! ## Live projects -/

/-- Roots of live projects differ, so the terminal that is closed is not that of another one. -/
theorem open_of_remove {w : World} {past : List (Path × Deed)} (h : Tracked w past) {folder : Path}
    {gone id : ProjectId} (hfound : Registry.get? w folder = some gone)
    (hlive : id ∈ w.registry.erase gone) :
    id ∈ w.registry ∧ (w.root id, .closed) ∉ (Op.remove folder).deeds w := by
  have hmem : id ∈ w.registry := List.mem_of_mem_erase hlive
  refine ⟨hmem, fun hclosed => ?_⟩
  have hroot : w.root id = w.root gone := by simpa [Op.deeds, hfound] using hclosed
  have hsame := h.apart id hmem gone (mem_of_lookUp? hfound).1 (hroot ▸ Path.same_refl _)
  exact (h.nodup.mem_erase_iff.1 hlive).1 hsame

/-- Who is live afterwards was live before, and no terminal was closed. -/
theorem KeepsRoots.live {op : Op} {w : World} (h : KeepsRoots w (op.on w))
    (hopen : ∀ root, (root, .closed) ∉ op.deeds w) :
    w.projects.map (·.root) <+: (op.on w).projects.map (·.root) ∧
      ∀ id, id < w.projects.length → id ∈ (op.on w).registry →
        id ∈ w.registry ∧ (w.root id, .closed) ∉ op.deeds w := by
  rw [h.roots, h.registry]
  exact ⟨List.prefix_rfl, fun id _ hlive => ⟨hlive, hopen (w.root id)⟩⟩

/-- Projects are opened one after another and keep their roots; the number of a project that is no
longer live is not used again. -/
theorem live_on (op : Op) {w : World} {past : List (Path × Deed)} (h : Tracked w past) :
    w.projects.map (·.root) <+: (op.on w).projects.map (·.root) ∧
      ∀ id, id < w.projects.length → id ∈ (op.on w).registry →
        id ∈ w.registry ∧ (w.root id, .closed) ∉ op.deeds w := by
  cases op with
  | add folder =>
      cases hnew : newRoot? w folder with
      | none => exact (keepsRoots_add hnew).live (by simp [Op.deeds, hnew])
      | some root =>
          rcases add_of_newRoot?_some hnew with ⟨-, hadds, -⟩
          refine ⟨hadds.roots_prefix, fun id hid hlive => ?_⟩
          exact ⟨(hadds.mem_registry.1 hlive).resolve_right (Nat.ne_of_lt hid), by simp [Op.deeds]⟩
  | remove folder =>
      cases hfound : Registry.get? w folder with
      | none => exact (keepsRoots_remove hfound).live (by simp [Op.deeds, hfound])
      | some gone =>
          rcases touches_remove hfound with ⟨htouches, hregistry⟩
          rw [htouches.roots, hregistry]
          exact ⟨List.prefix_rfl, fun id _ hlive => open_of_remove h hfound hlive⟩
  | clear =>
      rw [roots_clear, registry_clear]
      exact ⟨List.prefix_rfl, fun id _ hlive => absurd hlive List.not_mem_nil⟩
  | appear other => exact (keepsRoots_appear other w).live (by simp [Op.deeds])
  | send other line => exact (keepsRoots_send other line w).live (by simp [Op.deeds])
  | aside a => exact (keepsRoots_aside a w).live (by simp [Op.deeds])

/-- As long as a project is live its terminal is not closed. -/
theorem live_run {w : World} {past : List (Path × Deed)} (h : Tracked w past) (ops : List Op)
    {id : ProjectId} (hid : id < w.projects.length) (hlive : id ∈ (runOps w ops).registry) :
    id ∈ w.registry ∧ (runOps w ops).root id = w.root id ∧
      .closed ∉ doneTo (history w ops) (w.root id) := by
  induction ops generalizing w past with
  | nil => exact ⟨hlive, rfl, by simp [history, doneTo]⟩
  | cons op rest ih =>
      rcases live_on op h with ⟨hroots, hbefore⟩
      rcases root_of_prefix hroots hid with ⟨hlength, hroot⟩
      rcases ih (h.on op) hlength hlive with ⟨hstill, hsame, hopen⟩
      rcases hbefore id hid hstill with ⟨hregistered, hkept⟩
      refine ⟨hregistered, hsame.trans hroot, ?_⟩
      rw [history, doneTo_append, List.mem_append, mem_doneTo]
      rw [hroot] at hopen
      exact fun hclosed => hclosed.elim hkept hopen

/-- A workspace in which no folder was ever opened. -/
def IsBare (w : World) : Prop :=
  w.projects = [] ∧ w.registry = [] ∧ ∀ name, w.host.terminal? name = none

theorem IsBare.tracked {w : World} (h : IsBare w) : Tracked w [] := by
  rcases h with ⟨hprojects, hregistry, hterminals⟩
  refine ⟨by simp [hregistry], by simp [hregistry], by simp [hregistry], by simp [hprojects], ?_⟩
  intro root _
  exact ⟨hterminals _, rfl⟩

/-- The terminal of a live project has not been closed since the project was opened. It was closed
before if an earlier project of that root was disposed of, and only then; and a line that is sent to
it once it is shown reaches a shell only if the shell was started when the terminal was first shown
and the terminal was not closed since. -/
theorem terminal_of_live {w₀ : World} (hbare : IsBare w₀) (calls : List Call) {id : ProjectId}
    (hlive : id ∈ (runCalls w₀ calls).registry) :
    let w := runCalls w₀ calls
    let root := w.root id
    let deeds := doneTo (history w₀ (calls.flatMap Call.ops)) root
    (∀ before later, calls = before ++ later → id ∈ (runCalls w₀ before).registry →
      .closed ∉ doneTo (history (runCalls w₀ before) (later.flatMap Call.ops)) root) ∧
    ∃ t, w.host.terminal? (nameFor root) = some t ∧
      (∀ recorded, t = .recorded recorded → (recorded.closed = true ↔ .closed ∈ deeds)) ∧
      (∀ console, t = .console console → console.shown = true → ∀ line,
        (console.send true line).1 = [line] ↔ console.mode = .echo ∨ Deed.Runs deeds) := by
  intro w root deeds
  have htracked : Tracked w (history w₀ (calls.flatMap Call.ops)) := by
    have hrun := hbare.tracked.run (calls.flatMap Call.ops)
    rwa [runOps_calls, List.nil_append] at hrun
  refine ⟨?_, _, htracked.seen id (htracked.opened id hlive),
    fun recorded hrecorded => Host.closed_of_replay_blank hrecorded,
    fun console hconsole hshown line => Host.send_of_replay_blank hconsole hshown line⟩
  -- What is left after the calls before is a run from the world that they came to.
  rintro before later rfl hbefore
  have hmid := hbare.tracked.run (before.flatMap Call.ops)
  rw [runOps_calls] at hmid
  have hsplit : runOps (runCalls w₀ before) (later.flatMap Call.ops) = w := by
    rw [runOps_calls, ← runCalls_append]
  have hkept := live_run hmid (later.flatMap Call.ops) (hmid.opened id hbefore)
    (by rwa [hsplit])
  rw [hsplit] at hkept
  rw [show root = (runCalls w₀ before).root id from hkept.2.1]
  exact hkept.2.2

/-! ### A folder that is opened once, and one that is opened again -/

/-- One folder that is a test project. -/
def folders : FileTree :=
  ⟨⟨"/"⟩, 0, [(["p"], .dir), (["p", "manage.py"], .file ⟨.empty, false, false, 0⟩),
    (["p", "settings.py"], .file ⟨.empty, false, false, 0⟩)]⟩

def bench (host : Host) : World := .start folders host .files default

theorem bare_console : IsBare (bench (.console (.fresh none .shell))) := ⟨rfl, rfl, fun _ => rfl⟩

/-- The folder is opened and its terminal is brought up. -/
def openedOnce : List Call := [.openFolders [⟨"/p"⟩], .single (.appear 0)]

/-- A line that is sent to the terminal of the only project reaches its shell. -/
theorem terminal_of_live_once :
    IsBare (bench (.console (.fresh none .shell))) ∧
    0 ∈ (runCalls (bench (.console (.fresh none .shell))) openedOnce).registry ∧
    ∃ console, (runCalls (bench (.console (.fresh none .shell))) openedOnce).host.terminal?
        "QTA - /p" = some (.console console) ∧
      console.mode = .shell ∧ ∀ line, (console.send true line).1 = [line] := by
  have hlive : 0 ∈ (runCalls (bench (.console (.fresh none .shell))) openedOnce).registry := by
    decide +kernel
  have hroot : (runCalls (bench (.console (.fresh none .shell))) openedOnce).root 0 = ⟨"/p"⟩ := by
    decide +kernel
  have hdeeds : doneTo (history (bench (.console (.fresh none .shell)))
      (openedOnce.flatMap Call.ops)) ⟨"/p"⟩ = [.sent "export PYTHONPATH=/p", .shown true] := by
    decide +kernel
  have hfound :
      ∃ console, (runCalls (bench (.console (.fresh none .shell))) openedOnce).host.terminal?
      "QTA - /p" = some (.console console) ∧ console.mode = .shell ∧ console.shown = true :=
    ⟨_, rfl, rfl, rfl⟩
  rcases hfound with ⟨console, hfound, hmode, hshown⟩
  rcases terminal_of_live bare_console openedOnce hlive with ⟨-, t, ht, -, hconsole⟩
  rw [hroot, hdeeds] at hconsole
  have hsame : t = .console console := by
    rw [hroot] at ht
    exact Option.some.inj (ht.symm.trans hfound)
  have hruns : Deed.Runs [.sent "export PYTHONPATH=/p", .shown true] :=
    ⟨[.sent "export PYTHONPATH=/p"], [], rfl, by simp, by simp⟩
  refine ⟨bare_console, hlive, console, hfound, hmode, ?_⟩
  intro line
  exact (hconsole console hsame hshown line).2 (Or.inr hruns)

/-- The folder is opened, closed and opened again. -/
def reopened : List Call :=
  [.openFolders [⟨"/p"⟩], .foldersChanged [] [⟨"/p"⟩], .openFolders [⟨"/p"⟩]]

theorem terminal_of_reopened :
    (runCalls (bench (.recorder .fresh)) reopened).registry = [1] ∧
    (runCalls (bench (.recorder .fresh)) reopened).root 1 = ⟨"/p"⟩ ∧
    ∃ t, (runCalls (bench (.recorder .fresh)) reopened).host.terminal? "QTA - /p" =
      some (.recorded t) ∧ t.closed = true := by
  refine ⟨by decide +kernel, by decide +kernel, ?_⟩
  exact ⟨_, rfl, rfl⟩

end Workspace
end Testbench
