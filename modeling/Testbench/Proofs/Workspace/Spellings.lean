import Testbench.Proofs.Workspace.Roots

/-!
# Spellings — one project for all spellings of a folder

A folder is listed under one spelling of its own. Two absolute spellings come to the same one if
they name the same folder and both overshoot the root an even number of times, or both an odd number
of times. An odd overshot is kept at the front of the root, so a folder can have two projects: one
for either kind of spelling. Among spellings of one kind there is one project, and everybody finds
it.

- `Registry.absolute_eq_iff`, `absolute_eq_fold_iff` : the one spelling, and the other folding;
- `one_project_per_folder` : the project of a folder, under all its spellings;
- `projects_of_overshot`   : a folder that has two.
-/

namespace Testbench

open Testbench.Path (SameFolder)

namespace Registry

/-- When two spellings come to one. -/
theorem absolute_eq_iff (cwd : Path) {p q : Path} (hp : p.isAbsolute = true)
    (hq : q.isAbsolute = true) : absolute cwd p = absolute cwd q ↔
      SameFolder p q ∧ p.overshoots % 2 = q.overshoots % 2 := by
  rw [absolute_of_isAbsolute cwd hp, absolute_of_isAbsolute cwd hq]
  exact Path.foldKeeping_eq_iff hp hq

/-- When the one spelling is what the other folding gives. -/
theorem absolute_eq_fold_iff (cwd : Path) {p : Path} (hp : p.isAbsolute = true) :
    absolute cwd p = p.fold ↔ p.overshoots % 2 = 0 := by
  rw [absolute_of_isAbsolute cwd hp]
  exact Path.foldKeeping_eq_fold_iff hp

end Registry

namespace Workspace

/-- Spellings that come to one root. -/
structure Alike (p q : Path) : Prop where
  absolute : p.isAbsolute = true
  folder : SameFolder p q
  overshoots : p.overshoots % 2 = q.overshoots % 2

section

variable {w : World} {p : Path} {id : ProjectId}

theorem Rooted.absolute_of_alike (h : Rooted w) (hid : id ∈ w.registry) (hp : Alike p (w.root id)) :
    Registry.absolute w.files.cwd p = w.root id := by
  have hkept := h.kept id hid
  rw [← Registry.absolute_of_isKept w.files.cwd hkept]
  exact (Registry.absolute_eq_iff _ hp.absolute hkept.1).2 ⟨hp.folder, hp.overshoots⟩

theorem Rooted.get?_of_alike (h : Rooted w) (hid : id ∈ w.registry) (hp : Alike p (w.root id)) :
    Registry.get? w p = some id :=
  h.get?_eq_some_iff.2 ⟨hid, (h.absolute_of_alike hid hp).symm⟩

/-- A path is looked for by its one spelling. -/
theorem Rooted.find?_of_alike (h : Rooted w) (hid : id ∈ w.registry) (hp : Alike p (w.root id)) :
    Registry.find? w p = Registry.find? w (w.root id) := by
  rw [Rooted.find?_eq, Rooted.find?_eq, h.absolute_of_alike hid hp,
    Registry.absolute_of_isKept _ (h.kept id hid)]

/-- Who is the only one at or above its root is found. -/
theorem Rooted.find?_root (h : Rooted w) (hid : id ∈ w.registry)
    (honly : ∀ other ∈ w.registry, (w.root id).startsWith (w.root other) = true → other = id) :
    Registry.find? w (w.root id) = some id := by
  have habsolute := Registry.absolute_of_isKept w.files.cwd (h.kept id hid)
  cases hfind : Registry.find? w (w.root id) with
  | none =>
      have hnot := not_holds_of_lookUp? hfind hid
      have hself : (w.root id).components.isPrefixOf (w.root id).components = true :=
        List.isPrefixOf_iff_prefix.2 List.prefix_rfl
      rw [habsolute, Registry.startsWith_eq_isPrefixOf, hself] at hnot
      cases hnot
  | some other =>
      rcases mem_of_lookUp? hfind with ⟨hother, hholds⟩
      rw [habsolute] at hholds
      rw [honly other hother hholds]

/-- A folder that is removed under another spelling is gone. -/
theorem Rooted.remove_of_alike (h : Rooted w) (hid : id ∈ w.registry) (hp : Alike p (w.root id)) :
    ((Registry.remove p).run w).1 = true ∧ ((Registry.remove p).run w).2.registry =
      w.registry.erase id := by
  have hget := h.get?_of_alike hid hp
  refine ⟨?_, ?_⟩
  · unfold Registry.remove
    rw [run_bind]
    have hworld : Act.world.run w = (w, w) := rfl
    simp only [hworld, hget]
    rfl
  · exact (touches_remove hget).2

end

/-- Two absolute spellings come to one root if they name one folder and overshoot the root alike,
and the root is what the other folding gives if the overshoots are even. So whatever is opened and
closed, no two live projects have roots that are alike, and whoever asks for a project, for a path
in it or for its removal reaches it under every spelling that is like its root. -/
theorem one_project_per_folder {w₀ : World} (hnone : w₀.registry = [])
    (hcwd : w₀.files.cwd.isAbsolute = true) (calls : List Call)
    (hasides : ∀ a, Call.single (.aside a) ∈ calls → (Op.aside a).Stays) :
    let w := runCalls w₀ calls
    (∀ cwd p q : Path, p.isAbsolute = true → q.isAbsolute = true →
      (Registry.absolute cwd p = Registry.absolute cwd q ↔
        SameFolder p q ∧ p.overshoots % 2 = q.overshoots % 2)) ∧
    (∀ cwd p : Path, p.isAbsolute = true →
      (Registry.absolute cwd p = p.fold ↔ p.overshoots % 2 = 0)) ∧
    (∀ i ∈ w.registry, ∀ j ∈ w.registry, Alike (w.root i) (w.root j) → i = j) ∧
    ∀ id ∈ w.registry, ∀ p, Alike p (w.root id) →
      Registry.get? w p = some id ∧
      Registry.find? w p = Registry.find? w (w.root id) ∧
      ((∀ other ∈ w.registry, (w.root id).startsWith (w.root other) = true → other = id) →
        Registry.find? w p = some id) ∧
      ((Registry.remove p).run w).1 = true ∧
      ((Registry.remove p).run w).2.registry = w.registry.erase id := by
  -- After any calls the roots are kept spellings, so one that is alike is the same.
  have hstart : Rooted w₀ := .start hnone hcwd
  have hrun := hstart.run (Lived.start hnone) (stays_of_calls hasides)
  rw [runOps_calls] at hrun
  have h : Rooted (runCalls w₀ calls) := hrun.1
  refine ⟨fun cwd p q hp hq => Registry.absolute_eq_iff cwd hp hq,
    fun cwd p hp => Registry.absolute_eq_fold_iff cwd hp, ?_, ?_⟩
  · intro i hi j hj halike
    have hroot := h.absolute_of_alike hj halike
    rw [Registry.absolute_of_isKept _ (h.kept i hi)] at hroot
    exact h.apart i hi j hj hroot
  · intro id hid p hp
    have hfound := h.find?_of_alike hid hp
    exact ⟨h.get?_of_alike hid hp, hfound, fun honly => hfound.trans (h.find?_root hid honly),
      h.remove_of_alike hid hp⟩

/-- A folder under a spelling that overshoots the root twice. -/
theorem one_project_of_overshot_twice :
    let w := runCalls (bench (.recorder .fresh)) [.openFolders [⟨"/p"⟩]]
    Alike ⟨"/../..//p/."⟩ (w.root 0) ∧ Registry.get? w ⟨"/../..//p/."⟩ = some 0 := by
  intro w
  have hlive : (0 : ProjectId) ∈ w.registry := by decide +kernel
  have hroot : w.root 0 = ⟨"/p"⟩ := by decide +kernel
  have halike : Alike ⟨"/../..//p/."⟩ (w.root 0) := by
    rw [hroot]
    exact ⟨by decide, Path.sameFolder_iff_climb_eq.2 (by decide), by decide⟩
  rcases @one_project_per_folder (bench (.recorder .fresh)) rfl (by decide)
    [.openFolders [⟨"/p"⟩]] (by simp) with ⟨-, -, -, hreached⟩
  exact ⟨halike, (hreached 0 hlive _ halike).1⟩

/-- A folder under two spellings, one of which overshoots the root once, has two projects. -/
theorem projects_of_overshot :
    SameFolder ⟨"/p"⟩ ⟨"/../p"⟩ ∧
    Registry.absolute ⟨"/"⟩ ⟨"/../p"⟩ ≠ Registry.absolute ⟨"/"⟩ ⟨"/p"⟩ ∧
    Registry.absolute ⟨"/"⟩ ⟨"/../p"⟩ ≠ Path.fold ⟨"/../p"⟩ ∧
    Registry.roots (runCalls (bench (.recorder .fresh)) [.openFolders [⟨"/p"⟩, ⟨"/../p"⟩]]) =
      [⟨"/p"⟩, ⟨"/../p"⟩] := by
  refine ⟨Path.sameFolder_iff_climb_eq.2 (by decide), by decide, by decide, ?_⟩
  decide +kernel

end Workspace
end Testbench
