import Testbench.Proofs.Files.Spelling
import Testbench.Proofs.Settings

/-!
# Growth — files stay when others are written

A tree that has all nodes of another one leads a walk that finds something to the same end. A new
directory adds a node, and a write puts a file where there was a file or nothing. So whatever is a
file stays one while directories are made and files are written, through links too.

- `Extends`               : one tree has all nodes of another;
- `walk_of_extends`       : what was found is found again;
- `KeepsFiles`            : each file is still one;
- `Settings.isFile_set`   : files after a setting was set.
-/

namespace Testbench
namespace FileTree

/-! ## More nodes -/

/-- One tree has all nodes of another, and the tool works in the same directory. -/
structure Extends (t t' : FileTree) : Prop where
  cwd : t'.cwd = t.cwd
  nodes : ∀ here node, t.node? here = some node → t'.node? here = some node

/-- Where a leg ends, unless it is a free name. -/
def Leg.IsTaken : Leg → Prop
  | .done (.free ..) => False
  | .done (.found ..) | .follow .. => True

section

variable {t t' : FileTree}

theorem leads_of_extends (h : Extends t t') {here : Location} {segments : List String} {l : Leg}
    (hl : Leads t true here segments l) (htaken : l.IsTaken) : Leads t' true here segments l := by
  induction hl with
  | here hnode => exact .here (h.nodes _ _ hnode)
  | idle hdir hidle _ ih => exact .idle (h.nodes _ _ hdir) hidle (ih htaken)
  | up hdir _ ih => exact .up (h.nodes _ _ hdir) (ih htaken)
  | free _ _ _ _ => exact htaken.elim
  | stop hdir hentry hnext hlast =>
      exact .stop (h.nodes _ _ hdir) hentry (h.nodes _ _ hnext) hlast
  | follow hdir hentry hnext hlast =>
      exact .follow (h.nodes _ _ hdir) hentry (h.nodes _ _ hnext) hlast
  | enter hdir hentry hnext hplain _ ih =>
      exact .enter (h.nodes _ _ hdir) hentry (h.nodes _ _ hnext) hplain (ih htaken)

theorem walkFrom_of_extends (h : Extends t t') {links : Nat} {start here : Location}
    {segments : List String} {node : FileNode}
    (hw : t.walkFrom true links start segments = .ok (.found here node)) :
    t'.walkFrom true links start segments = .ok (.found here node) := by
  induction links generalizing start segments with
  | zero => cases hw
  | succ links ih =>
      rcases walkFrom_eq_ok_iff.1 hw with hdone | ⟨next, more, hfollow, hmore⟩
      · exact walkFrom_eq_ok_iff.2 (.inl (leads_of_extends h hdone trivial))
      · exact walkFrom_eq_ok_iff.2
          (.inr ⟨next, more, leads_of_extends h hfollow trivial, ih hmore⟩)

/-- What was found is found again when there is more. -/
theorem walk_of_extends (h : Extends t t') {p : Path} {here : Location} {node : FileNode}
    (hw : t.walk true p = .ok (.found here node)) : t'.walk true p = .ok (.found here node) := by
  rcases walk_eq_ok_iff.1 hw with ⟨hnul, hnonempty, hshort, hfrom⟩
  rw [← h.cwd] at hfrom
  exact walk_eq_ok_iff.2 ⟨hnul, hnonempty, hshort, walkFrom_of_extends h hfrom⟩

end

theorem extends_createDir {t t' : FileTree} {p : Path} (h : t.createDir p = .ok t') :
    Extends t t' := by
  rcases createDir_cases h with ⟨dir, name, slashed, hw, rfl⟩
  have hfree : t.node? (dir ++ [name]) = none := isIn_of_walk hw
  refine ⟨rfl, fun here node hnode => ?_⟩
  have hother : here ≠ dir ++ [name] := by
    rintro rfl
    rw [hfree] at hnode
    cases hnode
  rw [node?_setNode t (by simp), if_neg hother, hnode]

/-! ## Files that stay -/

/-- Each file is a file still, possibly with another content. -/
def KeepsFiles (t t' : FileTree) : Prop := ∀ p, t.isFile p = true → t'.isFile p = true

theorem isFile_iff {t : FileTree} {p : Path} :
    t.isFile p = true ↔ ∃ here data, t.walk true p = .ok (.found here (.file data)) := by
  rw [isFile, stat]
  cases hw : t.walk true p with
  | error cause => simp [bind, Except.bind]
  | ok place =>
      cases place with
      | free dir name slashed => simp [bind, Except.bind]
      | found here node => cases node <;> simp [bind, Except.bind]

theorem keepsFiles_write {t t' : FileTree} {p : Path} {content : ByteArray}
    (h : t.write p content = .ok t') : KeepsFiles t t' := by
  rcases write_cases h with ⟨here, data, -, -, rfl, -, -, -, hne, hbefore⟩
  have hrefiled := refiled_setNode hne hbefore data
  intro q hq
  rcases isFile_iff.1 hq with ⟨there, old, hw⟩
  have hw' := hrefiled.walk rfl true q hw trivial
  refine isFile_iff.2 ?_
  -- Either it is the file that was written, or it is as before.
  by_cases hsame : there = here
  · exact ⟨here, data, by rw [hw', Place.refile, if_pos hsame]⟩
  · exact ⟨there, old, by rw [hw', Place.refile, if_neg hsame]⟩

theorem keepsFiles_createDir {t t' : FileTree} {p : Path} (h : t.createDir p = .ok t') :
    KeepsFiles t t' := by
  intro q hq
  rcases isFile_iff.1 hq with ⟨here, data, hw⟩
  exact isFile_iff.2 ⟨here, data, walk_of_extends (extends_createDir h) hw⟩

end FileTree

namespace Settings

open FileTree (KeepsFiles)

theorem keepsFiles_write (root : Path) (fields : Json.Fields) :
    FileM.Moves KeepsFiles (write root fields) := by
  have hrefl : ∀ t, KeepsFiles t t := fun _ _ hp => hp
  have htrans : ∀ t₁ t₂ t₃, KeepsFiles t₁ t₂ → KeepsFiles t₂ t₃ → KeepsFiles t₁ t₃ :=
    fun _ _ _ h h' p hp => h' p (h p hp)
  have hdirs := FileM.moves_createDirs hrefl htrans
    (fun _ _ _ hmade => FileTree.keepsFiles_createDir hmade) (dir root)
  exact hdirs.bind htrans fun _ => .change hrefl fun _ _ => FileTree.keepsFiles_write

/-- Setting a setting leaves all files, whether it succeeds or not. -/
theorem isFile_set {t : FileTree} {p : Path} (h : t.isFile p = true) (root : Path) (key : String)
    (value : Json) : (set t root key value).2.isFile p = true := by
  unfold set merge
  cases read t root with
  | error cause => exact h
  | ok fields => exact keepsFiles_write root _ t p h

end Settings
end Testbench
