import Mathlib.Data.List.Find
import Testbench.Proofs.Path.Folding
import Testbench.Proofs.Workspace.Terminals

/-!
# Roots — the registry is an ordered set of roots

Whatever folders are opened and closed in whatever order, and whatever happens to the files in
between, the registry lists the roots that were added and not removed since, in the order in which
they were added, each once and in its one spelling. Who asks for a root or for a path below it is
answered from this list.

- `Op.lists`, `listed`   : the ordered set of roots;
- `Fate`, `Op.fates`     : what becomes of projects, one by one;
- `Rooted`               : the invariant of the registry, kept by every change;
- `Lived`                : the life of every project, up to now;
- `registry_refines`     : the registry and the ordered set;
- `add_of_spoiled`       : a live project that cannot be added again.
-/

namespace Testbench

/-! ## The working directory -/

namespace Cache

theorem stays_save (table : Table) (p : Path) : FileM.Stays (table.save p) := by
  unfold Table.save
  dsimp only
  split
  · exact (FileM.stays_createDirs _).bind fun _ => FileM.stays_writeText p _
  · exact FileM.stays_writeText p _

theorem cwd_save (t : FileTree) (root : Path) (table : Table) :
    (onFiles.save t root table).2.cwd = t.cwd := by
  unfold onFiles
  dsimp only
  exact stays_save table (fileOf root) t

namespace Store

variable {v : Vault FileTree} (hv : ∀ t root table, (v.save t root table).2.cwd = t.cwd)
include hv

theorem cwd_writeOne (s : Store) (t : FileTree) (snapshot : Snapshot) :
    (s.writeOne v t snapshot).2.2.cwd = t.cwd := by
  unfold writeOne
  dsimp only
  split
  · exact hv t _ _
  · exact hv t _ _

theorem cwd_writeOut (s : Store) (t : FileTree) (snapshots : List Snapshot) :
    (s.writeOut v t snapshots).2.2.cwd = t.cwd := by
  induction snapshots generalizing s t with
  | nil => rfl
  | cons snapshot rest ih => exact (ih _ _).trans (cwd_writeOne hv s t snapshot)

theorem cwd_evict (s : Store) (t : FileTree) (root : Path) : (s.evict v t root).2.cwd = t.cwd :=
  cwd_writeOut hv _ t _

end Store
end Cache

theorem Host.cwd_closeTerminal (host : Host) (name : String) (files : FileTree) :
    (host.closeTerminal name files).2.cwd = files.cwd := by
  cases host with
  | recorder r => rfl
  | console c =>
      have hclose : (c.closeTerminal files name).2.cwd = files.cwd := by
        unfold Host.Console.closeTerminal
        split
        · dsimp only
          split
          · rfl
          · rfl
        · rfl
      exact hclose

/-! ## The one spelling of a root -/

namespace Registry

open Testbench.Path (IsKept)

theorem absolute_of_isAbsolute (cwd : Path) {p : Path} (hp : p.isAbsolute = true) :
    absolute cwd p = p.foldKeeping := by
  rcases Path.absolute?_of_isAbsolute cwd hp with ⟨q, hq, -, hcomponents⟩
  rw [absolute, hq, Option.getD_some, Path.foldKeeping, Path.foldKeeping, hcomponents]

theorem absolute_empty (cwd : Path) : absolute cwd ⟨""⟩ = ⟨""⟩ := by
  have hnone : Path.absolute? cwd ⟨""⟩ = none := rfl
  rw [absolute, hnone, Option.getD_none]
  decide

theorem isKept_absolute {cwd p : Path} (hcwd : cwd.isAbsolute = true) (hp : p.isEmpty = false) :
    (absolute cwd p).IsKept := by
  cases habsolute : p.isAbsolute with
  | true =>
      rw [absolute_of_isAbsolute cwd habsolute]
      exact Path.isKept_foldKeeping habsolute
  | false =>
      rcases Path.absolute?_of_relative hcwd habsolute hp with ⟨q, hq, hqabsolute, -⟩
      rw [absolute, hq, Option.getD_some]
      exact Path.isKept_foldKeeping hqabsolute

theorem absolute_of_isKept (cwd : Path) {r : Path} (hr : r.IsKept) : absolute cwd r = r := by
  rw [absolute_of_isAbsolute cwd hr.1, hr.2]

theorem eq_empty_of_isEmpty {p : Path} (h : p.isEmpty = true) : p = ⟨""⟩ := by
  rcases p with ⟨text⟩
  exact congrArg Path.mk (by simpa [Path.isEmpty] using h)

/-- Components tell a root from every other folder. -/
theorem same_absolute_iff {cwd : Path} (hcwd : cwd.isAbsolute = true) (p : Path) {r : Path}
    (hr : r.IsKept) : (absolute cwd p).same r = true ↔ r = absolute cwd p := by
  cases hp : p.isEmpty with
  | true =>
      -- The empty path has no components, and a root has one at least.
      rw [eq_empty_of_isEmpty hp, absolute_empty]
      rcases Path.components_of_isAbsolute hr.1 with ⟨body, hchars, hcomponents⟩
      have hnone : (⟨""⟩ : Path).components = [] := by decide
      refine iff_of_false (by simp [Path.same, hcomponents, hnone]) ?_
      rintro rfl
      simp [hnone] at hcomponents
  | false =>
      have hkept := isKept_absolute hcwd hp
      refine ⟨fun h => (hkept.eq_of_same hr h).symm, fun h => ?_⟩
      rw [← h]
      exact Path.same_refl r

theorem isKept_of_admits {cwd : Path} (hcwd : cwd.isAbsolute = true) {t : FileTree} {p : Path}
    (h : admits t (absolute cwd p) = true) : (absolute cwd p).IsKept := by
  cases hp : p.isEmpty with
  | true =>
      rw [eq_empty_of_isEmpty hp, absolute_empty] at h
      have hdir : t.isDir ⟨""⟩ = false := rfl
      simp [admits, hdir] at h
  | false => exact isKept_absolute hcwd hp

theorem startsWith_eq_isPrefixOf (p base : Path) :
    p.startsWith base = base.components.isPrefixOf p.components := by
  rw [Path.startsWith, Path.below?]
  generalize base.components = front
  generalize p.components = whole
  induction front generalizing whole with
  | nil => cases whole <;> rfl
  | cons c rest ih =>
      cases whole with
      | nil => rfl
      | cons d more =>
          rw [Path.afterStart?, List.isPrefixOf]
          by_cases hcd : c = d
          · rw [if_pos hcd, ih, beq_iff_eq.2 hcd, Bool.true_and]
          · rw [if_neg hcd, beq_eq_false_iff_ne.2 hcd, Bool.false_and]
            rfl

theorem lookUp?_eq (w : World) (holds : Path → Bool) :
    lookUp? w holds = w.registry.find? fun id => holds (w.root id) := by
  rw [lookUp?, entries, List.find?_map, Option.map_map]
  exact Option.map_id'

theorem roots_eq (w : World) : roots w = w.registry.map w.root := by
  rw [roots, entries, List.map_map]
  rfl

end Registry

namespace Workspace

/-! ## The ordered set -/

/-- What a change makes of an ordered set of roots. -/
def Op.lists (op : Op) (w : World) (live : List Path) : List Path :=
  match op with
  | .add folder =>
    let root := Registry.absolute w.files.cwd folder
    if Registry.admits w.files root && !live.contains root then live ++ [root] else live
  | .remove folder => live.erase (Registry.absolute w.files.cwd folder)
  | .clear => []
  | .appear _ | .send .. | .aside _ => live

/-- The ordered set after some changes. -/
def listed (w : World) (live : List Path) : List Op → List Path
  | [] => live
  | op :: rest => listed (op.on w) (op.lists w live) rest

/-! ## What becomes of projects -/

inductive Fate where
  /-- Opened for a root, and entered in the registry. -/
  | opened (root : Path)
  /-- Sent to be set up in the background. -/
  | started
  /-- Taken out of the registry. -/
  | left
  | disposed
  deriving DecidableEq, Repr

def Fate.on (id : ProjectId) : Fate → World → World
  | .opened root, w =>
    let w := ranIn w (Project.create root)
    { w with registry := w.registry ++ [id] }
  | .started, w => ranIn w (Act.spawn (.setUp id))
  | .left, w => { w with registry := w.registry.erase id }
  | .disposed, w => ranIn w (Project.dispose id)

def perform (w : World) (fates : List (ProjectId × Fate)) : World :=
  fates.foldl (fun w fate => fate.2.on fate.1 w) w

/-- What a change makes of projects. -/
def Op.fates (op : Op) (w : World) : List (ProjectId × Fate) :=
  match op with
  | .add folder =>
    let root := Registry.absolute w.files.cwd folder
    if Registry.admits w.files root && !(Registry.roots w).contains root then
      (w.projects.length, .opened root) ::
        if w.setup.initOnOpen then [(w.projects.length, .started)] else []
    else []
  | .remove folder =>
    (w.registry.find? fun id => w.root id == Registry.absolute w.files.cwd folder).toList.flatMap
      fun id => [(id, .left), (id, .disposed)]
  | .clear => w.registry.map (·, .left) ++ w.registry.map (·, .disposed)
  | .appear _ | .send .. | .aside _ => []

def fatesOf (w : World) : List Op → List (ProjectId × Fate)
  | [] => []
  | op :: rest => op.fates w ++ fatesOf (op.on w) rest

/-- What became of one project. -/
def lifeOf (log : List (ProjectId × Fate)) (id : ProjectId) : List Fate :=
  (log.filter (·.1 = id)).map (·.2)

theorem lifeOf_append (log more : List (ProjectId × Fate)) (id : ProjectId) :
    lifeOf (log ++ more) id = lifeOf log id ++ lifeOf more id := by
  simp [lifeOf]

theorem perform_append (w : World) (fates more : List (ProjectId × Fate)) :
    perform w (fates ++ more) = perform (perform w fates) more :=
  List.foldl_append

/-! ## The invariant -/

/-- Live projects were opened. Their roots differ, and each is in its one spelling. -/
structure Rooted (w : World) : Prop where
  cwd : w.files.cwd.isAbsolute = true
  opened : ∀ id ∈ w.registry, id < w.projects.length
  nodup : w.registry.Nodup
  kept : ∀ id ∈ w.registry, (w.root id).IsKept
  apart : ∀ i ∈ w.registry, ∀ j ∈ w.registry, w.root i = w.root j → i = j

namespace Rooted

variable {w : World}

theorem start (hnone : w.registry = []) (hcwd : w.files.cwd.isAbsolute = true) : Rooted w :=
  ⟨hcwd, by simp [hnone], by simp [hnone], by simp [hnone], by simp [hnone]⟩

theorem mem_roots (w : World) {root : Path} :
    root ∈ Registry.roots w ↔ ∃ id ∈ w.registry, w.root id = root := by
  rw [Registry.roots_eq, List.mem_map]

theorem nodup_roots (h : Rooted w) : (Registry.roots w).Nodup := by
  rw [Registry.roots_eq]
  refine List.pairwise_map.2 (h.nodup.imp_of_mem ?_)
  intro i j hi hj hne hroot
  exact hne (h.apart i hi j hj hroot)

/-- Whoever asks for a root gets the project that is listed under it. -/
theorem get?_eq_find? (h : Rooted w) (folder : Path) :
    Registry.get? w folder =
      w.registry.find? fun id => w.root id == Registry.absolute w.files.cwd folder := by
  rw [Registry.get?, Registry.lookUp?_eq]
  refine List.find?_congr fun id hid => ?_
  rw [Bool.eq_iff_iff, Registry.same_absolute_iff h.cwd folder (h.kept id hid), beq_iff_eq]

theorem get?_eq_some_iff (h : Rooted w) {folder : Path} {id : ProjectId} :
    Registry.get? w folder = some id ↔
      id ∈ w.registry ∧ w.root id = Registry.absolute w.files.cwd folder := by
  rw [h.get?_eq_find?]
  constructor
  · intro hfind
    have hroot := List.find?_some hfind
    exact ⟨List.mem_of_find?_eq_some hfind, beq_iff_eq.1 hroot⟩
  · rintro ⟨hid, hroot⟩
    cases hfind : w.registry.find? fun id =>
        w.root id == Registry.absolute w.files.cwd folder with
    | none => exact absurd (beq_iff_eq.2 hroot) (List.find?_eq_none.1 hfind id hid)
    | some other =>
        have hother := List.find?_some hfind
        rw [h.apart other (List.mem_of_find?_eq_some hfind) id hid
          ((beq_iff_eq.1 hother).trans hroot.symm)]

theorem get?_eq_none_iff (h : Rooted w) {folder : Path} :
    Registry.get? w folder = none ↔
      Registry.absolute w.files.cwd folder ∉ Registry.roots w := by
  rw [mem_roots]
  constructor
  · rintro hget ⟨id, hid, hroot⟩
    rw [h.get?_eq_some_iff.2 ⟨hid, hroot⟩] at hget
    cases hget
  · intro hnone
    cases hget : Registry.get? w folder with
    | none => rfl
    | some id =>
        rcases h.get?_eq_some_iff.1 hget with ⟨hid, hroot⟩
        exact absurd ⟨id, hid, hroot⟩ hnone

/-- A path is found in the first project that has it. -/
theorem find?_eq (w : World) (p : Path) :
    Registry.find? w p = w.registry.find? fun id =>
      (w.root id).components.isPrefixOf (Registry.absolute w.files.cwd p).components := by
  rw [Registry.find?, Registry.lookUp?_eq]
  simp only [Registry.startsWith_eq_isPrefixOf]

end Rooted

/-! ## One change after another -/

section

variable {w w' : World}

theorem Rooted.newRoot?_eq (h : Rooted w) (folder : Path) :
    newRoot? w folder =
      if Registry.admits w.files (Registry.absolute w.files.cwd folder) &&
          !(Registry.roots w).contains (Registry.absolute w.files.cwd folder) then
        some (Registry.absolute w.files.cwd folder)
      else none := by
  have hget : newRoot? w folder =
      if Registry.admits w.files (Registry.absolute w.files.cwd folder) &&
          (Registry.get? w folder).isNone then
        some (Registry.absolute w.files.cwd folder)
      else none := rfl
  have hsame : (Registry.get? w folder).isNone =
      !(Registry.roots w).contains (Registry.absolute w.files.cwd folder) := by
    rw [Bool.eq_iff_iff, Option.isNone_iff_eq_none, h.get?_eq_none_iff]
    simp
  rw [hget, hsame]

/-- Adding a folder does what becomes of projects, and nothing else. -/
theorem Rooted.add_eq_perform (h : Rooted w) (folder : Path) :
    (Op.add folder).on w = perform w ((Op.add folder).fates w) := by
  have hnew := h.newRoot?_eq folder
  rw [Op.on, Op.fates]
  by_cases hadds : (Registry.admits w.files (Registry.absolute w.files.cwd folder) &&
      !(Registry.roots w).contains (Registry.absolute w.files.cwd folder)) = true
  · rw [if_pos hadds] at hnew ⊢
    simp only [newRoot?, Option.ite_none_right_eq_some, Bool.and_eq_true,
      Option.isNone_iff_eq_none] at hnew
    rcases hnew with ⟨⟨hadmits, hnone⟩, -⟩
    unfold Registry.add
    rw [ranIn_bind]
    have hworld : (Act.world.run w).1 = w := rfl
    simp only [hworld, hadmits, hnone]
    -- Setting up is sent to the background or not, and the fates say which.
    cases hinit : w.setup.initOnOpen with
    | true => rfl
    | false => rfl
  · rw [if_neg hadds] at hnew ⊢
    exact add_of_newRoot?_none hnew

/-- Nothing is written when a folder is added. -/
theorem Rooted.files_add (h : Rooted w) (folder : Path) :
    ((Op.add folder).on w).files = w.files := by
  rw [h.add_eq_perform, Op.fates]
  split
  · cases w.setup.initOnOpen with
    | true => rfl
    | false => rfl
  · rfl

theorem Rooted.remove_eq_perform (h : Rooted w) (folder : Path) :
    (Op.remove folder).on w = perform w ((Op.remove folder).fates w) := by
  have hget := h.get?_eq_find? folder
  rw [Op.on, Op.fates, ← hget]
  cases hfound : Registry.get? w folder with
  | none => exact remove_of_get?_none hfound
  | some id => exact remove_of_get?_some hfound

theorem perform_left (w : World) (ids : List ProjectId) :
    perform { w with registry := ids } (ids.map (·, .left)) = { w with registry := [] } := by
  induction ids with
  | nil => rfl
  | cons id rest ih =>
      have hfirst : Fate.left.on id { w with registry := id :: rest } =
          { w with registry := rest } := by
        rw [Fate.on, List.erase_cons_head]
      rw [List.map_cons, perform, List.foldl_cons, hfirst]
      exact ih

theorem perform_disposed (w : World) (ids : List ProjectId) :
    perform w (ids.map (·, .disposed)) = ranIn w (Registry.disposeEach ids) := by
  induction ids generalizing w with
  | nil => rfl
  | cons id rest ih => exact ih (ranIn w (Project.dispose id))

theorem clear_eq_perform (w : World) : Op.clear.on w = perform w (Op.clear.fates w) := by
  rw [Op.fates, perform_append, perform_left w w.registry, perform_disposed]
  rfl

/-- A disposal leaves the working directory. -/
theorem cwd_dispose (w : World) (id : ProjectId) :
    (ranIn w (Project.dispose id)).files.cwd = w.files.cwd := by
  let w₁ := w.updateProject id fun p => { p with watching := false }
  have hevicted : (w.cache.evict Cache.onFiles w.files (w₁.root id)).2.cwd = w.files.cwd :=
    Cache.Store.cwd_evict Cache.cwd_save _ _ _
  exact (w.host.cwd_closeTerminal (Terminal.nameFor (w₁.root id)) _).trans hevicted

theorem cwd_disposeEach (w : World) (ids : List ProjectId) :
    (ranIn w (Registry.disposeEach ids)).files.cwd = w.files.cwd := by
  induction ids generalizing w with
  | nil => rfl
  | cons id rest ih => exact (ih _).trans (cwd_dispose w id)

theorem cwd_remove (folder : Path) (w : World) :
    ((Op.remove folder).on w).files.cwd = w.files.cwd := by
  rw [Op.on]
  cases hfound : Registry.get? w folder with
  | none => rw [remove_of_get?_none hfound]
  | some id => rw [remove_of_get?_some hfound, cwd_dispose]

theorem cwd_clear (w : World) : (Op.clear.on w).files.cwd = w.files.cwd :=
  cwd_disposeEach { w with registry := [] } w.registry

theorem cwd_appear (id : ProjectId) (w : World) :
    ((Op.appear id).on w).files.cwd = w.files.cwd := by
  rw [Op.on, atTerminal]
  split <;> rfl

theorem cwd_send (id : ProjectId) (line : String) (w : World) :
    ((Op.send id line).on w).files.cwd = w.files.cwd := by
  rw [Op.on, atTerminal]
  split <;> rfl

/-- What happens beside the registry leaves the tool in an absolute directory. -/
def Op.Stays : Op → Prop
  | .aside a =>
      ∀ w : World, w.files.cwd.isAbsolute = true → (a.change w).files.cwd.isAbsolute = true
  | _ => True

namespace Rooted

theorem roots_congr (h : KeepsRoots w w') : Registry.roots w' = Registry.roots w := by
  rw [Registry.roots_eq, Registry.roots_eq, h.registry]
  exact List.map_congr_left fun id _ => root_congr h.roots id

/-- Nothing but the roots and the list of live projects counts. -/
theorem congr (h : Rooted w) (hcwd : w'.files.cwd.isAbsolute = true)
    (hroots : w'.projects.map (·.root) = w.projects.map (·.root))
    (hregistry : w'.registry.Sublist w.registry) : Rooted w' := by
  have hlength := length_congr hroots
  have hsame := root_congr hroots
  refine ⟨hcwd, ?_, h.nodup.sublist hregistry, ?_, ?_⟩
  · intro id hid
    rw [hlength]
    exact h.opened id (hregistry.subset hid)
  · intro id hid
    rw [hsame]
    exact h.kept id (hregistry.subset hid)
  · intro i hi j hj
    rw [hsame, hsame]
    exact h.apart i (hregistry.subset hi) j (hregistry.subset hj)

/-- A root leaves the list with its project. -/
theorem roots_erase (h : Rooted w) {id : ProjectId} (hid : id ∈ w.registry) :
    (w.registry.erase id).map w.root = (Registry.roots w).erase (w.root id) := by
  rw [h.nodup.erase_eq_filter, h.nodup_roots.erase_eq_filter, Registry.roots_eq, List.filter_map]
  refine congrArg (List.map w.root) (List.filter_congr fun i hi => ?_)
  rw [Bool.eq_iff_iff, Function.comp_apply, bne_iff_ne, bne_iff_ne]
  exact ⟨fun hne heq => hne (h.apart i hi id hid heq), fun hne heq => hne (congrArg w.root heq)⟩

section

variable {root : Path}

theorem roots_created (h : Rooted w) (hadds : Adds root w w') :
    Registry.roots w' = Registry.roots w ++ [root] := by
  rw [Registry.roots_eq, Registry.roots_eq, hadds.registry, List.map_append, List.map_singleton,
    hadds.root_new]
  exact congrArg (· ++ [root]) (List.map_congr_left fun id hid => hadds.root_old (h.opened id hid))

/-- A new project is listed last. -/
theorem create (h : Rooted w) (hadds : Adds root w w') (hkept : root.IsKept)
    (hnew : root ∉ Registry.roots w) (hcwd : w'.files.cwd.isAbsolute = true) : Rooted w' := by
  refine ⟨hcwd, hadds.opened h.opened, hadds.nodup h.opened h.nodup,
    hadds.forall_root h.opened hkept h.kept, ?_⟩
  -- The new root is none of those that are listed.
  refine hadds.apart h.opened (fun p q hpq => hpq.symm) (fun id hid heq => ?_) h.apart
  exact hnew ((mem_roots w).2 ⟨id, hid, heq.symm⟩)

end

/-- Where the roots and the registry stay as they are, they stay in order. -/
theorem of_keepsRoots (h : Rooted w) (hkeeps : KeepsRoots w w')
    (hcwd : w'.files.cwd.isAbsolute = true) :
    Rooted w' ∧ Registry.roots w' = Registry.roots w :=
  ⟨h.congr hcwd hkeeps.roots (hkeeps.registry ▸ List.Sublist.refl _), roots_congr hkeeps⟩

theorem add (h : Rooted w) (folder : Path) : Rooted ((Op.add folder).on w) ∧
    Registry.roots ((Op.add folder).on w) = (Op.add folder).lists w (Registry.roots w) := by
  have hnew := h.newRoot?_eq folder
  have hcwd : ((Op.add folder).on w).files.cwd.isAbsolute = true := by
    rw [h.files_add folder]
    exact h.cwd
  rw [Op.lists]
  split at hnew
  · rename_i hadds
    rw [if_pos hadds]
    rcases add_of_newRoot?_some hnew with ⟨-, hopens, -⟩
    simp only [Bool.and_eq_true, Bool.not_eq_true', List.contains_eq_mem,
      decide_eq_false_iff_not] at hadds
    exact ⟨h.create hopens (Registry.isKept_of_admits h.cwd hadds.1) hadds.2 hcwd,
      h.roots_created hopens⟩
  · rename_i hadds
    rw [if_neg hadds]
    exact h.of_keepsRoots (keepsRoots_add hnew) hcwd

theorem remove (h : Rooted w) (folder : Path) : Rooted ((Op.remove folder).on w) ∧
    Registry.roots ((Op.remove folder).on w) = (Op.remove folder).lists w (Registry.roots w) := by
  have hcwd : ((Op.remove folder).on w).files.cwd.isAbsolute = true := cwd_remove folder w ▸ h.cwd
  rw [Op.lists]
  cases hfound : Registry.get? w folder with
  | none =>
      rw [List.erase_of_not_mem (h.get?_eq_none_iff.1 hfound)]
      exact h.of_keepsRoots (keepsRoots_remove hfound) hcwd
  | some id =>
      rcases h.get?_eq_some_iff.1 hfound with ⟨hid, hroot⟩
      rcases touches_remove hfound with ⟨htouches, hregistry⟩
      refine ⟨h.congr hcwd htouches.roots (hregistry ▸ List.erase_sublist), ?_⟩
      rw [Registry.roots_eq, hregistry, ← hroot, ← h.roots_erase hid]
      exact List.map_congr_left fun i _ => root_congr htouches.roots i

theorem clear (h : Rooted w) : Rooted (Op.clear.on w) ∧ Registry.roots (Op.clear.on w) = [] := by
  refine ⟨h.congr (cwd_clear w ▸ h.cwd) (roots_clear w)
    (registry_clear w ▸ List.nil_sublist _), ?_⟩
  rw [Registry.roots_eq, registry_clear]
  rfl

/-- Every change keeps the registry in order, and does to the list of roots what it does to an
ordered set. -/
theorem on (h : Rooted w) {op : Op} (hstays : op.Stays) :
    Rooted (op.on w) ∧ Registry.roots (op.on w) = op.lists w (Registry.roots w) := by
  cases op with
  | add folder => exact h.add folder
  | remove folder => exact h.remove folder
  | clear => exact h.clear
  | appear id => exact h.of_keepsRoots (keepsRoots_appear id w) (cwd_appear id w ▸ h.cwd)
  | send id line => exact h.of_keepsRoots (keepsRoots_send id line w) (cwd_send id line w ▸ h.cwd)
  | aside a => exact h.of_keepsRoots (keepsRoots_aside a w) (hstays w h.cwd)

end Rooted

/-! ## Lives -/

/-- The life of a project up to now: it is opened, it may be started once, and if it is live no
longer it has left and was disposed of, once each. -/
def IsLife (root : Path) (live : Bool) (life : List Fate) : Prop :=
  ∃ started : Bool, life = .opened root :: (if started then [.started] else []) ++
    (if live then [] else [.left, .disposed])

/-- The lives of the projects from a number on; there was nothing with any other. -/
structure Lived (first : Nat) (w : World) (log : List (ProjectId × Fate)) : Prop where
  bound : first ≤ w.projects.length
  since : ∀ id ∈ w.registry, first ≤ id
  life : ∀ id, first ≤ id → id < w.projects.length →
    IsLife (w.root id) (w.registry.contains id) (lifeOf log id)
  none : ∀ id, ¬ (first ≤ id ∧ id < w.projects.length) → lifeOf log id = []

theorem lifeOf_map {ids : List ProjectId} (h : ids.Nodup) (fate : Fate) (id : ProjectId) :
    lifeOf (ids.map (·, fate)) id = if id ∈ ids then [fate] else [] := by
  induction ids with
  | nil => rfl
  | cons first rest ih =>
      rcases List.nodup_cons.1 h with ⟨hnot, hrest⟩
      have hcons : lifeOf ((first :: rest).map (·, fate)) id =
          (if first = id then [fate] else []) ++ lifeOf (rest.map (·, fate)) id := by
        by_cases heq : first = id <;> simp [lifeOf, heq]
      rw [hcons, ih hrest]
      by_cases heq : first = id
      · subst heq
        simp [hnot]
      · simp [heq, Ne.symm heq]

namespace Lived

variable {first : Nat} {log fates : List (ProjectId × Fate)}

theorem start (hnone : w.registry = []) : Lived w.projects.length w [] :=
  ⟨Nat.le_refl _, by simp [hnone], fun _ hid hlt => absurd hlt (Nat.not_lt.2 hid), fun _ _ => rfl⟩

/-- Projects leave, and every other one stays as it is. -/
theorem leave (h : Lived first w log) (hroots : w'.projects.map (·.root) = w.projects.map (·.root))
    (hregistry : w'.registry.Sublist w.registry)
    (hopened : ∀ id ∈ w.registry, id < w.projects.length)
    (hfates : ∀ id, lifeOf fates id =
      if id ∈ w.registry ∧ id ∉ w'.registry then [.left, .disposed] else []) :
    Lived first w' (log ++ fates) := by
  have hlength := length_congr hroots
  refine ⟨hlength ▸ h.bound, fun id hid => h.since id (hregistry.subset hid), ?_, ?_⟩
  · intro id hid hlt
    rw [hlength] at hlt
    rcases h.life id hid hlt with ⟨started, hlife⟩
    refine ⟨started, ?_⟩
    rw [lifeOf_append, hlife, hfates, root_congr hroots]
    by_cases hstill : id ∈ w'.registry
    · simp [hstill, hregistry.subset hstill]
    · by_cases hwas : id ∈ w.registry <;> simp [hstill, hwas]
  · intro id hid
    rw [hlength] at hid
    rw [lifeOf_append, h.none id hid, hfates, if_neg, List.append_nil]
    rintro ⟨hwas, -⟩
    exact hid ⟨h.since id hwas, hopened id hwas⟩

/-- A project is opened, and its life begins. -/
theorem create (h : Lived first w log) {root : Path} (hadds : Adds root w w') (started : Bool) :
    Lived first w' (log ++ ((w.projects.length, .opened root) ::
      if started then [(w.projects.length, .started)] else [])) := by
  have hlength := hadds.length_eq
  have hnew : lifeOf ((w.projects.length, .opened root) ::
      if started then [(w.projects.length, .started)] else []) w.projects.length =
        .opened root :: if started then [.started] else [] := by
    cases started <;> simp [lifeOf]
  have hothers : ∀ id, id ≠ w.projects.length → lifeOf ((w.projects.length, .opened root) ::
      if started then [(w.projects.length, .started)] else []) id = [] := by
    intro id hne
    cases started <;> simp [lifeOf, Ne.symm hne]
  refine ⟨hlength ▸ Nat.le_succ_of_le h.bound, ?_, ?_, ?_⟩
  · intro id hid
    rcases hadds.mem_registry.1 hid with hin | rfl
    · exact h.since id hin
    · exact h.bound
  · intro id hid hlt
    rw [hlength] at hlt
    rw [lifeOf_append]
    by_cases heq : id = w.projects.length
    · subst heq
      -- Nothing was said of the new project before.
      refine ⟨started, ?_⟩
      have hbefore := h.none w.projects.length fun hboth => Nat.lt_irrefl _ hboth.2
      rw [hbefore, hnew, hadds.root_new, hadds.registry]
      simp
    · have hltold : id < w.projects.length := by omega
      rcases h.life id hid hltold with ⟨begun, hlife⟩
      refine ⟨begun, ?_⟩
      rw [hothers id heq, List.append_nil, hlife, hadds.root_old hltold, hadds.registry]
      simp [heq]
  · intro id hid
    rw [hlength] at hid
    have hne : id ≠ w.projects.length := by
      rintro rfl
      exact hid ⟨h.bound, Nat.lt_succ_self _⟩
    have hbefore := h.none id fun hboth => hid ⟨hboth.1, Nat.lt_succ_of_lt hboth.2⟩
    rw [lifeOf_append, hbefore, hothers id hne]
    rfl

/-- Where the registry stays as it is nothing is said of any project. -/
theorem of_keepsRoots (h : Lived first w log) (hrooted : Rooted w) (hkeeps : KeepsRoots w w') :
    Lived first w' (log ++ []) := by
  refine h.leave hkeeps.roots (hkeeps.registry ▸ List.Sublist.refl _) hrooted.opened fun id => ?_
  rw [hkeeps.registry, if_neg fun hboth => hboth.2 hboth.1]
  rfl

theorem add (h : Lived first w log) (hrooted : Rooted w) (folder : Path) :
    Lived first ((Op.add folder).on w) (log ++ (Op.add folder).fates w) := by
  have hnew := hrooted.newRoot?_eq folder
  rw [Op.fates]
  split at hnew
  · rename_i hadds
    rw [if_pos hadds]
    rcases add_of_newRoot?_some hnew with ⟨-, hopens, -⟩
    exact h.create hopens w.setup.initOnOpen
  · rename_i hadds
    rw [if_neg hadds]
    exact h.of_keepsRoots hrooted (keepsRoots_add hnew)

theorem remove (h : Lived first w log) (hrooted : Rooted w) (folder : Path) :
    Lived first ((Op.remove folder).on w) (log ++ (Op.remove folder).fates w) := by
  rw [Op.fates, ← hrooted.get?_eq_find? folder]
  cases hfound : Registry.get? w folder with
  | none => exact h.of_keepsRoots hrooted (keepsRoots_remove hfound)
  | some id =>
      rcases hrooted.get?_eq_some_iff.1 hfound with ⟨hid, -⟩
      rcases touches_remove hfound with ⟨htouches, hregistry⟩
      refine h.leave htouches.roots (hregistry ▸ List.erase_sublist) hrooted.opened fun i => ?_
      simp only [hregistry, hrooted.nodup.mem_erase_iff]
      by_cases heq : id = i
      · subst heq
        simp [lifeOf, hid]
      · simp [lifeOf, heq, Ne.symm heq]

theorem clear (h : Lived first w log) (hrooted : Rooted w) :
    Lived first (Op.clear.on w) (log ++ Op.clear.fates w) := by
  refine h.leave (roots_clear w) (registry_clear w ▸ List.nil_sublist _) hrooted.opened
    fun id => ?_
  rw [registry_clear, Op.fates, lifeOf_append, lifeOf_map hrooted.nodup, lifeOf_map hrooted.nodup]
  by_cases hid : id ∈ w.registry <;> simp [hid]

/-- Every change goes on with the lives of the projects. -/
theorem on (h : Lived first w log) (hrooted : Rooted w) (op : Op) :
    Lived first (op.on w) (log ++ op.fates w) := by
  cases op with
  | add folder => exact h.add hrooted folder
  | remove folder => exact h.remove hrooted folder
  | clear => exact h.clear hrooted
  | appear id => exact h.of_keepsRoots hrooted (keepsRoots_appear id w)
  | send id line => exact h.of_keepsRoots hrooted (keepsRoots_send id line w)
  | aside a => exact h.of_keepsRoots hrooted (keepsRoots_aside a w)

end Lived

/-! ## The registry and the ordered set -/

/-- A registry that answers for an ordered set of roots. -/
structure Answers (w : World) (live : List Path) : Prop where
  contents : Registry.roots w = live
  nodup : live.Nodup
  fixed : ∀ root ∈ live, Registry.absolute w.files.cwd root = root
  get : ∀ folder id, Registry.get? w folder = some id ↔
    id ∈ w.registry ∧ w.root id = Registry.absolute w.files.cwd folder
  find : ∀ p, Registry.find? w p = w.registry.find? fun id =>
    (w.root id).components.isPrefixOf (Registry.absolute w.files.cwd p).components
  /-- A root that is listed is not added again. Its project is handed out if the folder could be
  added now. -/
  again : ∀ folder id, Registry.get? w folder = some id → (Registry.add folder).run w =
    (if Registry.admits w.files (w.root id) then some id else none, w)
  added : ∀ folder, (Op.add folder).on w = perform w ((Op.add folder).fates w)
  removed : ∀ folder, (Op.remove folder).on w = perform w ((Op.remove folder).fates w)
  cleared : Op.clear.on w = perform w (Op.clear.fates w)

theorem run_bind {α β : Type} (m : Act α) (f : α → Act β) (w : World) :
    (m >>= f).run w = (f (m.run w).1).run (m.run w).2 := rfl

theorem Rooted.run_add (h : Rooted w) {folder : Path} {id : ProjectId}
    (hget : Registry.get? w folder = some id) : (Registry.add folder).run w =
      (if Registry.admits w.files (w.root id) then some id else none, w) := by
  have hroot := (h.get?_eq_some_iff.1 hget).2
  have hfound : Registry.lookUp? w ((Registry.absolute w.files.cwd folder).same ·) = some id := hget
  rw [← hroot] at hfound
  unfold Registry.add
  rw [run_bind]
  have hworld : Act.world.run w = (w, w) := rfl
  simp only [hworld, ← hroot, hfound]
  cases Registry.admits w.files (w.root id) with
  | true => rfl
  | false => rfl

theorem Rooted.answers (h : Rooted w) : Answers w (Registry.roots w) where
  contents := rfl
  nodup := h.nodup_roots
  fixed := by
    intro root hroot
    rcases (Rooted.mem_roots w).1 hroot with ⟨id, hid, rfl⟩
    exact Registry.absolute_of_isKept _ (h.kept id hid)
  get := fun _ _ => h.get?_eq_some_iff
  find := Rooted.find?_eq w
  again := fun _ _ => h.run_add
  added := h.add_eq_perform
  removed := h.remove_eq_perform
  cleared := clear_eq_perform w

/-- A row of changes keeps the registry in order, and the lives of the projects go on. -/
theorem Rooted.run (h : Rooted w) {first : Nat} {log : List (ProjectId × Fate)}
    (hlived : Lived first w log) {ops : List Op} (hstays : ∀ op ∈ ops, op.Stays) :
    Rooted (runOps w ops) ∧ Registry.roots (runOps w ops) = listed w (Registry.roots w) ops ∧
      Lived first (runOps w ops) (log ++ fatesOf w ops) := by
  induction ops generalizing w log with
  | nil =>
      rw [fatesOf, List.append_nil]
      exact ⟨h, rfl, hlived⟩
  | cons op rest ih =>
      rcases h.on (hstays op List.mem_cons_self) with ⟨hnext, hroots⟩
      rcases ih hnext (hlived.on h op) fun o ho => hstays o (List.mem_cons_of_mem _ ho) with
        ⟨hrooted, hlisted, hlives⟩
      refine ⟨hrooted, ?_, ?_⟩
      · rw [listed, ← hroots]
        exact hlisted
      · rw [fatesOf, ← List.append_assoc]
        exact hlives

end

/-- What happens beside the registry is among the calls. -/
theorem stays_of_calls {calls : List Call}
    (h : ∀ a, Call.single (.aside a) ∈ calls → (Op.aside a).Stays) :
    ∀ op ∈ calls.flatMap Call.ops, op.Stays := by
  intro op hop
  rcases List.mem_flatMap.1 hop with ⟨call, hcall, hmem⟩
  cases op with
  | aside a =>
      cases call with
      | openFolders folders => simp [Call.ops] at hmem
      | foldersChanged added removed => simp [Call.ops] at hmem
      | single op =>
          have hop : .aside a = op := List.mem_singleton.1 hmem
          exact h a (hop ▸ hcall)
  | add folder => trivial
  | remove folder => trivial
  | clear => trivial
  | appear id => trivial
  | send id line => trivial

/-- Whatever is opened, closed and changed besides, the registry answers for the ordered set of the
roots that were added and not removed since. Each project is opened once, started at most once, and
has left and been disposed of, once each, exactly if it is listed no longer. -/
theorem registry_refines {w₀ : World} (hnone : w₀.registry = [])
    (hcwd : w₀.files.cwd.isAbsolute = true) (calls : List Call)
    (hasides : ∀ a, Call.single (.aside a) ∈ calls → (Op.aside a).Stays) :
    let w := runCalls w₀ calls
    let ops := calls.flatMap Call.ops
    Answers w (listed w₀ [] ops) ∧ Lived w₀.projects.length w (fatesOf w₀ ops) := by
  have hstart : Rooted w₀ := .start hnone hcwd
  have hempty : Registry.roots w₀ = [] := by
    rw [Registry.roots_eq, hnone]
    rfl
  rcases hstart.run (Lived.start hnone) (stays_of_calls hasides) with ⟨hrooted, hlisted, hlives⟩
  rw [runOps_calls] at hrooted hlisted hlives
  rw [hempty] at hlisted
  exact ⟨hlisted ▸ hrooted.answers, hlives⟩

/-- A folder that is opened, closed and opened again has had two projects. -/
theorem registry_of_reopened :
    Registry.roots (runCalls (bench (.recorder .fresh)) reopened) = [⟨"/p"⟩] ∧
      Registry.get? (runCalls (bench (.recorder .fresh)) reopened) ⟨"/p/../p/."⟩ = some 1 ∧
      IsLife ⟨"/p"⟩ false
        (lifeOf (fatesOf (bench (.recorder .fresh)) (reopened.flatMap Call.ops)) 0) := by
  rcases @registry_refines (bench (.recorder .fresh)) rfl (by decide) reopened
    (by simp [reopened]) with ⟨hanswers, hlives⟩
  have hlisted : listed (bench (.recorder .fresh)) [] (reopened.flatMap Call.ops) = [⟨"/p"⟩] := by
    decide +kernel
  have hlast : (1 : ProjectId) ∈ (runCalls (bench (.recorder .fresh)) reopened).registry := by
    decide +kernel
  have hroot : (runCalls (bench (.recorder .fresh)) reopened).root 1 =
      Registry.absolute (runCalls (bench (.recorder .fresh)) reopened).files.cwd ⟨"/p/../p/."⟩ := by
    decide +kernel
  have hfirst := hlives.life 0 (by decide) (by decide +kernel)
  have hgone : (runCalls (bench (.recorder .fresh)) reopened).registry.contains 0 = false := by
    decide +kernel
  have hroot₀ : (runCalls (bench (.recorder .fresh)) reopened).root 0 = ⟨"/p"⟩ := by decide +kernel
  rw [hgone, hroot₀] at hfirst
  exact ⟨hanswers.contents.trans hlisted, (hanswers.get _ _).2 ⟨hlast, hroot⟩, hfirst⟩

/-- Beside the registry, the folder stops being a test project. -/
def spoiling : Aside where
  change w := { w with files := { w.files with nodes := [(["p"], .dir)] } }
  registry _ := rfl
  roots _ := rfl
  terminals _ _ := rfl
  blank _ := rfl

/-- A live project is not handed out when its folder could not be added now, though it is there. -/
theorem add_of_spoiled :
    let w := runCalls (bench (.recorder .fresh)) [.openFolders [⟨"/p"⟩], .single (.aside spoiling)]
    Registry.get? w ⟨"/p"⟩ = some 0 ∧ ((Registry.add ⟨"/p"⟩).run w).1 = none := by
  decide +kernel

end Workspace
end Testbench
