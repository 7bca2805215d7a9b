import Testbench.Proofs.Files.Growth

/-!
# Directories — what was made is there

Whether the last name of a path is looked through only matters if it is a link. So a directory is
made at a name that is free either way, and it is found there afterwards. Making the directories of
a path that leads to a directory changes nothing.

- `walk_through`        : looking through the last name or not;
- `isDir_createDir`     : a directory after it was made;
- `isDir_createDirs`    : a directory after it was made with those above it;
- `createDirs_of_isDir` : what is there is not made again;
- `GainsDirs`           : nothing but directories is new.
-/

namespace Testbench
namespace FileTree

/-! ## The last name -/

section

variable {t t' : FileTree} {here : Location}

theorem leg_through (t : FileTree) (here : Location) (segments : List String) :
    t.leg false here segments = t.leg true here segments ∨
      ∃ there target, t.leg false here segments = .ok (.done (.found there (.link target))) := by
  induction segments generalizing here with
  | nil => exact .inl (by rw [leg, leg])
  | cons segment rest ih =>
      cases hnode : t.node? here with
      | none => exact .inl (by simp [leg, hnode])
      | some node =>
          cases node with
          | file data => exact .inl (by simp [leg, hnode])
          | link target => exact .inl (by simp [leg, hnode])
          | dir =>
              cases hidle : isIdle segment with
              | true =>
                  rw [leg_idle hnode hidle, leg_idle hnode hidle]
                  exact ih here
              | false =>
                  -- The two differ at a link, and only if it is the last name.
                  rw [leg_sound hnode hidle, leg_sound hnode hidle]
                  split
                  · exact ih here.dropLast
                  · split
                    · exact .inl rfl
                    · cases hnext : t.node? (here ++ [segment]) with
                      | none => exact .inl rfl
                      | some next =>
                          cases next with
                          | file data => exact ih _
                          | dir => exact ih _
                          | link target =>
                              simp only [Bool.not_false, Bool.and_true, Bool.not_true,
                                Bool.and_false, Bool.false_eq_true, if_false]
                              split
                              · exact .inr ⟨_, target, rfl⟩
                              · exact .inl rfl

theorem walkFrom_through (t : FileTree) (links : Nat) (start : Location) (segments : List String) :
    t.walkFrom false links start segments = t.walkFrom true links start segments ∨
      ∃ there target, t.walkFrom false links start segments =
        .ok (.found there (.link target)) := by
  induction links generalizing start segments with
  | zero => exact .inl rfl
  | succ links ih =>
      rw [walkFrom, walkFrom]
      rcases leg_through t start segments with hsame | ⟨there, target, hlink⟩
      · rw [hsame]
        cases t.leg true start segments with
        | error cause => exact .inl rfl
        | ok l =>
            cases l with
            | done place => exact .inl rfl
            | follow next more => exact ih next more
      · rw [hlink]
        exact .inr ⟨there, target, rfl⟩

/-- Only a link at the end of a path makes a difference. -/
theorem walk_through (t : FileTree) (p : Path) :
    t.walk false p = t.walk true p ∨
      ∃ there target, t.walk false p = .ok (.found there (.link target)) := by
  unfold walk
  split
  · exact .inl rfl
  · split
    · exact .inl rfl
    · split
      · exact .inl rfl
      · exact walkFrom_through t _ _ _

/-! ## A directory that was made -/

/-- Empty names at the end lead nowhere else. -/
theorem leads_blank {segments : List String} (hdir : t.node? here = some .dir)
    (h : segments.all (· == "") = true) :
    Leads t true here segments (.done (.found here .dir)) := by
  induction segments with
  | nil => exact .here hdir
  | cons segment rest ih =>
      rcases Bool.and_eq_true_iff.1 (List.all_cons ▸ h) with ⟨hempty, hrest⟩
      exact .idle hdir (by rw [isIdle, hempty, Bool.true_or]) (ih hrest)

section

variable {dir : Location} {name : String} {slashed : Bool}

theorem leads_of_made (h : Extends t t') (hmade : t'.node? (dir ++ [name]) = some .dir)
    {segments : List String} {l : Leg} (hl : Leads t true here segments l)
    (hfree : l = .done (.free dir name slashed)) :
    Leads t' true here segments (.done (.found (dir ++ [name]) .dir)) := by
  induction hl with
  | here _ => cases hfree
  | idle hdir hidle _ ih => exact .idle (h.nodes _ _ hdir) hidle (ih hfree)
  | up hdir _ ih => exact .up (h.nodes _ _ hdir) (ih hfree)
  | free hdir hentry _ hblank =>
      -- The free name is this one, and only empty names follow.
      cases hfree
      exact .enter (h.nodes _ _ hdir) hentry hmade (by simp) (leads_blank hmade hblank)
  | stop _ _ _ _ => cases hfree
  | follow _ _ _ _ => cases hfree
  | enter hdir hentry hnext hplain _ ih =>
      exact .enter (h.nodes _ _ hdir) hentry (h.nodes _ _ hnext) hplain (ih hfree)

theorem walkFrom_of_made (h : Extends t t') (hmade : t'.node? (dir ++ [name]) = some .dir)
    {links : Nat} {start : Location} {segments : List String}
    (hw : t.walkFrom true links start segments = .ok (.free dir name slashed)) :
    t'.walkFrom true links start segments = .ok (.found (dir ++ [name]) .dir) := by
  induction links generalizing start segments with
  | zero => cases hw
  | succ links ih =>
      rcases walkFrom_eq_ok_iff.1 hw with hdone | ⟨next, more, hfollow, hmore⟩
      · exact walkFrom_eq_ok_iff.2 (.inl (leads_of_made h hmade hdone rfl))
      · exact walkFrom_eq_ok_iff.2
          (.inr ⟨next, more, leads_of_extends h hfollow trivial, ih hmore⟩)

theorem walk_of_made (h : Extends t t') (hmade : t'.node? (dir ++ [name]) = some .dir) {p : Path}
    (hw : t.walk true p = .ok (.free dir name slashed)) :
    t'.walk true p = .ok (.found (dir ++ [name]) .dir) := by
  rcases walk_eq_ok_iff.1 hw with ⟨hnul, hnonempty, hshort, hfrom⟩
  rw [← h.cwd] at hfrom
  exact walk_eq_ok_iff.2 ⟨hnul, hnonempty, hshort, walkFrom_of_made h hmade hfrom⟩

end

variable {p : Path}

/-- A directory is there after it was made. -/
theorem isDir_createDir (h : t.createDir p = .ok t') : t'.isDir p = true := by
  have hextends := extends_createDir h
  rcases createDir_cases h with ⟨dir, name, slashed, hw, rfl⟩
  have hmade : (t.setNode (dir ++ [name]) .dir).node? (dir ++ [name]) = some .dir := by
    rw [node?_setNode t (by simp), if_pos rfl]
  -- The walk that found the free name would stop at a link, but a free name is no link.
  rcases walk_through t p with hsame | ⟨there, target, hlink⟩
  · exact isDir_iff_found.2 ⟨_, walk_of_made hextends hmade (hsame ▸ hw)⟩
  · rw [hlink] at hw
    cases hw

/-- A directory that is there is not made. -/
theorem createDir_of_isDir (h : t.isDir p = true) : t.createDir p = .error .exists := by
  rcases isDir_iff_found.1 h with ⟨here, hw⟩
  unfold createDir
  rcases walk_through t p with hsame | ⟨there, target, hlink⟩
  · simp [hsame, hw, bind, Except.bind]
  · simp [hlink, bind, Except.bind]

/-- Writing a file leaves the directories. -/
theorem isDir_write {q : Path} {content : ByteArray} (h : t.write q content = .ok t')
    (hdir : t.isDir p = true) : t'.isDir p = true := by
  rcases write_cases h with ⟨here, data, -, -, rfl, -, -, -, hne, hbefore⟩
  rcases isDir_iff_found.1 hdir with ⟨there, hw⟩
  have hw' := (refiled_setNode hne hbefore data).walk rfl true p hw trivial
  -- Where the file is written nothing was, or a file.
  have hother : there ≠ here := by
    rintro rfl
    rcases hbefore _ (isIn_of_walk hw) with ⟨old, hold⟩
    cases hold
  exact isDir_iff_found.2 ⟨there, by rw [hw', Place.refile, if_neg hother]⟩

/-- Whether a file can be written does not depend on what is written. -/
theorem exists_write {content : ByteArray} (h : t.write p content = .ok t') (other : ByteArray) :
    ∃ t₁, t.write p other = .ok t₁ := by
  unfold write at h ⊢
  cases hw : t.walk true p with
  | error cause => simp [hw, bind, Except.bind] at h
  | ok place =>
      cases place with
      | found here node =>
          cases node with
          | file data =>
              cases hlocked : data.readOnly with
              | true => simp [hw, hlocked, bind, Except.bind] at h
              | false => exact ⟨_, by simp [hlocked, bind, Except.bind]; rfl⟩
          | dir => simp [hw, bind, Except.bind] at h
          | link target => simp [hw, bind, Except.bind] at h
      | free dir name slashed =>
          cases slashed with
          | true => simp [hw, bind, Except.bind] at h
          | false => exact ⟨_, rfl⟩

/-- A file that was written can be written again. -/
theorem exists_rewrite {content : ByteArray} (h : t.write p content = .ok t') (other : ByteArray) :
    ∃ t₁, t'.write p other = .ok t₁ := by
  rcases write_cases h with
    ⟨here, data, place, ⟨-, hlocked⟩, rfl, hwalk, hopen, hrefile, hne, hbefore⟩
  have hwalk' := (refiled_setNode hne hbefore data).walk rfl true p hwalk hopen
  rw [hrefile] at hwalk'
  exact ⟨_, by rw [write, hwalk']; simp [hlocked, bind, Except.bind]; rfl⟩

end

/-! ## Trees that gain directories -/

/-- Only directories are new: every file is as it was, and no other has appeared. -/
structure GainsDirs (t t' : FileTree) : Prop where
  grown : Extends t t'
  others : ∀ here node, t'.node? here = some node → node = .dir ∨ t.node? here = some node

namespace GainsDirs

variable {t t' t'' : FileTree} {p : Path}

theorem refl (t : FileTree) : GainsDirs t t := ⟨⟨rfl, fun _ _ h => h⟩, fun _ _ h => .inr h⟩

theorem trans (h : GainsDirs t t') (h' : GainsDirs t' t'') : GainsDirs t t'' := by
  refine ⟨⟨h'.grown.cwd.trans h.grown.cwd, fun here node hnode =>
    h'.grown.nodes here node (h.grown.nodes here node hnode)⟩, fun here node hnode => ?_⟩
  rcases h'.others here node hnode with hdir | hold
  · exact .inl hdir
  · exact h.others here node hold

theorem createDir (h : t.createDir p = .ok t') : GainsDirs t t' := by
  refine ⟨extends_createDir h, fun here node hnode => ?_⟩
  rcases createDir_cases h with ⟨dir, name, -, -, rfl⟩
  rw [node?_setNode t (by simp)] at hnode
  split at hnode
  · exact .inl (Option.some.inj hnode).symm
  · exact .inr hnode

end GainsDirs

end FileTree

/-! ## Directories made in a row -/

namespace FileM

open FileTree (isDir_createDir createDir_of_isDir)

variable {t t' : FileTree} {p : Path}

theorem on_get {α : Type} (f : FileTree → FileM α) (t : FileTree) :
    (get >>= f : FileM α).on t = (f t).on t := rfl

theorem isDir_orIsDir {cause : FileError}
    (h : (do if (← get).isDir p then pure () else throw cause : FileM Unit).on t = (.ok (), t')) :
    t'.isDir p = true := by
  rw [on_get] at h
  split at h
  · rename_i hdir
    cases h
    exact hdir
  · cases h

theorem isDir_ensureDir (h : (ensureDir p).on t = (.ok (), t')) : t'.isDir p = true := by
  rw [ensureDir, on_get] at h
  split at h
  · rename_i t₁ hmade
    cases h
    exact isDir_createDir hmade
  · exact isDir_orIsDir h

theorem isDir_createChain {parents : List Path} (hp : p.isEmpty = false)
    (h : (createChain (p :: parents)).on t = (.ok (), t')) : t'.isDir p = true := by
  rw [createChain, if_neg (by rw [hp]; exact Bool.false_ne_true), on_get] at h
  split at h
  · rename_i t₁ hmade
    cases h
    exact isDir_createDir hmade
  · split at h
    · cases h
    · rcases on_bind_ok h with ⟨-, t₁, -, hensure⟩
      exact isDir_ensureDir hensure
  · exact isDir_orIsDir h

theorem createChain_of_isDir {parents : List Path} (h : t.isDir p = true) :
    (createChain (p :: parents)).on t = (.ok (), t) := by
  rw [createChain]
  split
  · rfl
  · rw [on_get, createDir_of_isDir h]
    dsimp only
    rw [on_get, if_pos h]
    rfl

theorem exists_ancestors (p : Path) : ∃ parents, p.ancestors = p :: parents := by
  unfold Path.ancestors
  cases p.chars.length with
  | zero => exact ⟨[], rfl⟩
  | succ steps =>
      rw [Path.chain]
      split <;> exact ⟨_, rfl⟩

/-- A directory is there after it was made with those above it. -/
theorem isDir_createDirs (hp : p.isEmpty = false) (h : (createDirs p).on t = (.ok (), t')) :
    t'.isDir p = true := by
  rcases exists_ancestors p with ⟨parents, hchain⟩
  rw [createDirs, hchain] at h
  exact isDir_createChain hp h

/-- Directories that are there are not made again. -/
theorem createDirs_of_isDir (h : t.isDir p = true) : (createDirs p).on t = (.ok (), t) := by
  rcases exists_ancestors p with ⟨parents, hchain⟩
  rw [createDirs, hchain]
  exact createChain_of_isDir h

end FileM
end Testbench
