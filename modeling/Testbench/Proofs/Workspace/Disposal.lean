import Testbench.Proofs.Workspace.Restart
import Testbench.Proofs.Workspace.Terminals

/-!
# Disposal — what becomes of parses when a project is removed

A project that is removed writes out and forgets the table of its root. Documents are kept in the
table of the nearest folder with editor settings, which need not be the root; the tables of other
folders stay in memory as they are, with their marks.

- `Store.evict_eq_drop` : an eviction forgets one folder and does nothing else to the memory;
- `Slot.files`          : the files of which a table has documents;
- `Reached.remove_project` : what is written and what stays behind when a project is removed.
-/

namespace Testbench

open Cache (Table Slot Store Coherent onFiles)

/-! ## Forgetting one folder -/

namespace Cache

/-- The files of which a table has documents. -/
def Slot.files (slot : Slot) : List Path := slot.table.entries.map fun e => slot.root.joinText e.1

namespace Store

variable {δ : Type}

/-- What changes only slots that are forgotten anyway does not matter. -/
theorem filter_map_eq_filter {l : List Slot} {f : Slot → Slot} {p : Slot → Bool}
    (hp : ∀ slot, p (f slot) = p slot) (hf : ∀ slot, p slot = true → f slot = slot) :
    (l.map f).filter p = l.filter p := by
  induction l with
  | nil => rfl
  | cons slot rest ih =>
      rw [List.map_cons, List.filter_cons, List.filter_cons, hp, ih]
      cases hslot : p slot with
      | true => rw [hf slot hslot]
      | false => rfl

theorem drop_modify (s : Store) {r root : Path} (hr : r.same root = true) {f : Slot → Slot}
    (hf : ∀ slot, (f slot).root = slot.root) : (s.modify r f).drop root = s.drop root := by
  refine congrArg Store.mk (filter_map_eq_filter ?_ ?_)
  · intro slot
    split
    · rw [hf]
    · rfl
  · intro slot hslot
    rw [Path.same_congr_right hr, if_neg (by simpa using hslot)]

theorem drop_takeDirty (s : Store) {chosen : Path → Bool} {root : Path}
    (hchosen : ∀ p, chosen p = true → p.same root = true) :
    (s.takeDirty chosen).2.drop root = s.drop root := by
  refine congrArg Store.mk (filter_map_eq_filter ?_ ?_)
  · intro slot
    split <;> rfl
  · intro slot hslot
    refine if_neg fun htaken => ?_
    have hsame := hchosen slot.root (Bool.and_eq_true_iff.1 htaken).2
    simp [hsame] at hslot

theorem drop_writeOut (v : Vault δ) (s : Store) (d : δ) {snapshots : List Snapshot} {root : Path}
    (hroot : ∀ snapshot ∈ snapshots, snapshot.1.same root = true) :
    (s.writeOut v d snapshots).2.1.drop root = s.drop root := by
  induction snapshots generalizing s d with
  | nil => rfl
  | cons snapshot rest ih =>
      have hrest := ih (s.writeOne v d snapshot).2.1 (s.writeOne v d snapshot).2.2
        fun other hother => hroot other (List.mem_cons_of_mem snapshot hother)
      refine hrest.trans ?_
      have hfirst := hroot snapshot List.mem_cons_self
      unfold writeOne
      dsimp only
      split
      · rfl
      · exact s.drop_modify hfirst fun _ => rfl

/-- An eviction forgets one folder, whether its table can be written or not. -/
theorem evict_eq_drop (v : Vault δ) (s : Store) (d : δ) (root : Path) :
    (s.evict v d root).1 = s.drop root := by
  have hsnapshots : ∀ snapshot ∈ (s.takeDirty fun other => other.same root).1,
      snapshot.1.same root = true := by
    intro snapshot hsnapshot
    rcases mem_takeDirty.1 hsnapshot with ⟨slot, -, -, hchosen, rfl⟩
    exact hchosen
  calc
    (s.evict v d root).1
        = ((s.takeDirty fun other => other.same root).2.writeOut v d
            (s.takeDirty fun other => other.same root).1).2.1.drop root := rfl
    _ = (s.takeDirty fun other => other.same root).2.drop root := drop_writeOut v _ d hsnapshots
    _ = s.drop root := s.drop_takeDirty fun _ h => h

theorem mem_drop {s : Store} {root : Path} {slot : Slot} :
    slot ∈ (s.drop root).slots ↔ slot ∈ s.slots ∧ slot.root.same root = false := by
  simp [drop, List.mem_filter]

end Store
end Cache

/-! ## Removing a project -/

namespace Workspace

/-- A removal leaves the tables of other folders in memory, as they are. -/
theorem cache_remove {w : World} {folder : Path} {id : ProjectId}
    (h : Registry.get? w folder = some id) :
    (ranIn w (Registry.remove folder)).cache = w.cache.drop (w.root id) := by
  have hroots := roots_updateProject id (f := fun p => { p with watching := false })
    (fun _ => rfl) { w with registry := w.registry.erase id }
  have hroot := root_congr hroots id
  rw [remove_of_get?_some h]
  have hevict := Store.evict_eq_drop onFiles w.cache w.files
    (World.root (World.updateProject id (fun p => { p with watching := false })
      { w with registry := w.registry.erase id }) id)
  refine Eq.trans hevict ?_
  rw [hroot]
  rfl

end Workspace

namespace Activity

open Workspace (ranIn cache_remove)

/-- The tables that are written out when a project is removed. -/
def removalWrites (w : World) (id : ProjectId) : List (Cache.Write FileTree) :=
  w.cache.writes onFiles w.files fun other => other.same (w.root id)

/-- The files once they are written, before the terminal is closed. -/
def writtenOut (w : World) (id : ProjectId) : FileTree :=
  (w.cache.evict onFiles w.files (w.root id)).2

theorem Agrees.root_of_mem {roots : Path → Prop} {w : World} (h : Agrees roots w) {slot : Slot}
    (hslot : slot ∈ w.cache.slots) : roots slot.root := by
  rcases h with ⟨past, hcoherent, hopened⟩
  exact hopened _ (hcoherent.opened slot hslot)

/-- The files hold what memory held for the folder of a project, once that is written out. -/
theorem Agrees.load_writtenOut {roots : Path → Prop} {w : World} (h : Agrees roots w)
    {id : ProjectId} (hwritten : ∀ wr ∈ removalWrites w id, wr.written = true)
    (hfaithful : ∀ wr ∈ removalWrites w id, wr.Faithful onFiles roots) {slot : Slot}
    (hslot : slot ∈ w.cache.slots) (hroot : slot.root.same (w.root id) = true) :
    onFiles.load (writtenOut w id) slot.root = slot.table := by
  have hhere : roots slot.root := h.root_of_mem hslot
  rcases h with ⟨past, hcoherent, -⟩
  -- A marked table is among those that are written; one without a mark is in its file already, and
  -- no write is of its folder.
  cases hdirty : slot.dirty with
  | true =>
      refine Cache.load_flush hcoherent.proper hhere hfaithful hslot hdirty hroot ?_
      refine List.any_eq_false.2 fun wr hwr => ?_
      simp [hwritten wr hwr]
  | false =>
      have hother : ∀ wr ∈ removalWrites w id, wr.root.same slot.root = false := by
        intro wr hwr
        refine Bool.eq_false_iff.2 fun hsame => ?_
        have hmarked := Store.same_of_mem_writes hcoherent.proper hslot hwr hsame
        rw [hdirty, Bool.false_and] at hmarked
        exact Bool.false_ne_true hmarked
      calc
        onFiles.load (writtenOut w id) slot.root
            = onFiles.load w.files slot.root := Cache.load_flush_other hhere hfaithful hother
        _ = slot.table := hcoherent.clean slot hslot hdirty

/-- When a project is removed, the table of its root is written out and forgotten, if the writing
succeeds and closing the terminal leaves the file alone. The tables of other folders stay in memory
as they are; so a document of a file below the root is left unwritten exactly if it was to be
written to the file of another folder. -/
theorem Reached.remove_project {w₀ : World} {x : Activity} (h : Reached w₀ x)
    (hempty : w₀.cache = .empty) (hhonest : ∀ e ∈ x.log, e.Honest x.IsRoot) {folder : Path}
    {id : ProjectId} (hid : Registry.get? x.world folder = some id)
    (hwritten : ∀ wr ∈ removalWrites x.world id, wr.written = true)
    (hfaithful : ∀ wr ∈ removalWrites x.world id, wr.Faithful onFiles x.IsRoot)
    (hclosing : ∀ root, x.IsRoot root →
      onFiles.load (ranIn x.world (Registry.remove folder)).files root =
        onFiles.load (writtenOut x.world id) root) :
    let root := x.world.root id
    let w := ranIn x.world (Registry.remove folder)
    (∀ slot, slot ∈ w.cache.slots ↔ slot ∈ x.world.cache.slots ∧ slot.root.same root = false) ∧
    (∀ slot ∈ x.world.cache.slots, slot.root.same root = true →
      onFiles.load w.files slot.root = slot.table) ∧
    ((∃ slot ∈ w.cache.slots, slot.dirty = true ∧
      ∃ file ∈ slot.files, file.startsWith root = true) ↔
      ∃ slot ∈ x.world.cache.slots, slot.root.same root = false ∧ slot.dirty = true ∧
        ∃ file ∈ slot.files, file.startsWith root = true) := by
  intro root w
  have hslots : ∀ slot,
      slot ∈ w.cache.slots ↔ slot ∈ x.world.cache.slots ∧ slot.root.same root = false := by
    intro slot
    rw [show w.cache = x.world.cache.drop root from cache_remove hid]
    exact Store.mem_drop
  -- What is in memory without a mark is in its file, and the marks go with the writing.
  have hagrees : Agrees x.IsRoot x.world :=
    h.trace.agrees hempty (fun file root key hfile ha => ⟨file, key, hfile, ha⟩) hhonest
  refine ⟨hslots, ?_, ?_⟩
  · intro slot hslot hsame
    have hroot : x.IsRoot slot.root := hagrees.root_of_mem hslot
    exact (hclosing slot.root hroot).trans
      (hagrees.load_writtenOut hwritten hfaithful hslot hsame)
  · constructor
    · rintro ⟨slot, hslot, hdirty, hbelow⟩
      rcases (hslots slot).1 hslot with ⟨hold, hother⟩
      exact ⟨slot, hold, hother, hdirty, hbelow⟩
    · rintro ⟨slot, hold, hother, hdirty, hbelow⟩
      exact ⟨slot, (hslots slot).2 ⟨hold, hother⟩, hdirty, hbelow⟩

/-! ### Settings in the root -/

/-- The left folder is a live project, and its file was parsed. -/
def adopted : World :=
  { once.world with projects := [Project.fresh ⟨"/left"⟩], registry := [0] }

def held : Activity := ⟨adopted, once.calls, once.log ++ [.other once.world adopted]⟩

theorem reached_held : Reached (stage (resting 0) twins [] []) held :=
  reached_once.deed (.other once.world adopted) rfl rfl

theorem get?_adopted : Registry.get? adopted ⟨"/left"⟩ = some 0 := by decide +kernel

theorem files_held {e : Entry} (he : e ∈ held.log) :
    e.writes = [] ∧ e.before.files = twins ∧ e.after.files = twins := by
  rcases List.mem_append.1 he with hran | hlast
  · exact files_stageRuns hran
  · rw [List.mem_singleton.1 hlast]
    exact ⟨rfl, rfl, rfl⟩

theorem held_root {root : Path} (h : held.IsRoot root) : root = ⟨"/left"⟩ := by
  rcases h with ⟨file, key, hfile, e, he, hroot, -⟩
  have hleft : file = ⟨"/left/t.py"⟩ := once_asked hfile
  rw [hleft, (files_held he).2.1, (cacheRoot?_twins (Or.inl rfl)).1] at hroot
  exact (Option.some.inj hroot).symm

theorem removalWrites_adopted : removalWrites adopted 0 = [writing] := flush_left.2

theorem files_remove_adopted :
    (ranIn adopted (Registry.remove ⟨"/left"⟩)).files = writtenOut adopted 0 := by
  rw [Workspace.remove_of_get?_some get?_adopted]
  rfl

/-- What was parsed in the left folder is in its file once the project is removed, and nothing is
left to be written. -/
theorem remove_project_left :
    Registry.get? held.world ⟨"/left"⟩ = some 0 ∧
    (∀ e ∈ held.log, e.Honest held.IsRoot) ∧
    (∀ wr ∈ removalWrites held.world 0, wr.written = true ∧ wr.Faithful onFiles held.IsRoot) ∧
    onFiles.load (ranIn held.world (Registry.remove ⟨"/left"⟩)).files ⟨"/left"⟩ = table ∧
    ¬ ∃ slot ∈ (ranIn held.world (Registry.remove ⟨"/left"⟩)).cache.slots, slot.dirty = true ∧
      ∃ file ∈ slot.files, file.startsWith ⟨"/left"⟩ = true := by
  have hhonest : ∀ e ∈ held.log, e.Honest held.IsRoot := by
    intro e he
    rcases files_held he with ⟨hwrites, hbefore, hafter⟩
    refine ⟨by simp [hwrites], ?_⟩
    intro root _
    rw [hwrites, hbefore, hafter]
    rfl
  have hwritten : ∀ wr ∈ removalWrites held.world 0,
      wr.written = true ∧ wr.Faithful onFiles held.IsRoot := by
    intro wr hwr
    -- One table is written.
    have heq : wr = writing := List.mem_singleton.1 (removalWrites_adopted ▸ hwr)
    rw [heq]
    refine ⟨rfl, fun hlost => by simp [writing] at hlost, fun _ => load_left, ?_⟩
    intro root hroot hother
    rw [held_root hroot] at hother
    exact absurd hother (by decide)
  have hremoved := reached_held.remove_project rfl hhonest get?_adopted
    (fun wr hwr => (hwritten wr hwr).1) (fun wr hwr => (hwritten wr hwr).2)
    fun root _ => congrArg (fun t => onFiles.load t root) files_remove_adopted
  refine ⟨get?_adopted, hhonest, hwritten, ?_, ?_⟩
  · exact hremoved.2.1 ⟨⟨"/left"⟩, table, true⟩ (List.mem_singleton_self _) (Path.same_refl _)
  · refine fun hleft => ?_
    rcases hremoved.2.2.1 hleft with ⟨slot, hslot, hother, -⟩
    rw [List.mem_singleton.1 hslot] at hother
    exact absurd hother (by decide)

/-! ### Settings below the root -/

/-- A test project with settings in a folder below its root. -/
def nested : FileTree where
  cwd := ⟨"/"⟩
  now := 7000000
  nodes :=
    [(["p"], .dir), (["p", "manage.py"], .file ⟨⟨#[]⟩, false, false, 7000000⟩),
      (["p", "settings.py"], .file ⟨⟨#[]⟩, false, false, 7000000⟩), (["p", "sub"], .dir),
      (["p", "sub", ".vscode"], .dir), (["p", "sub", "a.py"], .file ⟨⟨#[]⟩, false, false, 7000000⟩)]

def nestedStart : World :=
  .start nested (.recorder .fresh) (.script ⟨[("", .outcome Table.output)], [], []⟩) default

def nestedOpened : World := ranIn nestedStart (Registry.add ⟨"/p"⟩)

/-- The project has parsed a file below the root. -/
def nestedParsed : World :=
  ((Parsing.parse (.ofProject 0) ⟨"/p/sub/a.py"⟩).poll World.isReady nestedOpened).2

theorem reached_nested : ∃ x, Reached nestedStart x ∧ x.world = nestedParsed := by
  have hnormal : (⟨"/p/sub/a.py"⟩ : Path).IsNormal := by decide
  have hstart : Reached nestedStart ⟨nestedStart, [], []⟩ := .start
  rcases hstart.byDeeds (byDeeds_add ⟨"/p"⟩) with ⟨es, hopened⟩
  have hasked := hopened.ask (.parse (.ofProject 0)) hnormal
  rcases Task.steps_poll World.isReady (Parsing.parse (.ofProject 0) ⟨"/p/sub/a.py"⟩) nestedOpened
    with ⟨xs, hxs⟩
  exact ⟨_, hasked.steps (i := 0) rfl hxs, rfl⟩

/-- All writes succeed, for there are none; but the document that the project parsed stays in memory
with its mark. -/
theorem remove_project_nested :
    ∃ x, Reached nestedStart x ∧ Registry.get? x.world ⟨"/p"⟩ = some 0 ∧
      removalWrites x.world 0 = [] ∧
      ∃ slot ∈ (ranIn x.world (Registry.remove ⟨"/p"⟩)).cache.slots, slot.dirty = true ∧
        ∃ file ∈ slot.files, file.startsWith ⟨"/p"⟩ = true := by
  rcases reached_nested with ⟨x, hreached, hworld⟩
  have hrun : Registry.get? nestedParsed ⟨"/p"⟩ = some 0 ∧
      (removalWrites nestedParsed 0).length = 0 ∧
      ((ranIn nestedParsed (Registry.remove ⟨"/p"⟩)).cache.slots.any fun slot =>
        slot.dirty && slot.files.any (·.startsWith ⟨"/p"⟩)) = true := by
    decide +kernel
  rcases hrun with ⟨hfound, hwrites, hleft⟩
  refine ⟨x, hreached, ?_, ?_, ?_⟩
  · rw [hworld]
    exact hfound
  · rw [hworld]
    exact List.eq_nil_of_length_eq_zero hwrites
  · rw [hworld]
    rcases List.any_eq_true.1 hleft with ⟨slot, hslot, hboth⟩
    rcases Bool.and_eq_true_iff.1 hboth with ⟨hdirty, hbelow⟩
    exact ⟨slot, hslot, hdirty, List.any_eq_true.1 hbelow⟩

end Activity
end Testbench
