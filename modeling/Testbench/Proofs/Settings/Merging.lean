import Testbench.Proofs.Files.Directories

/-!
# Merging — settings keep what was not set

A settings file holds an object or is spoilt. Where it holds an object, a merge sets some keys and
the others are read back as they were, so merges compose like the maps they set. Where it is spoilt,
a merge fails before anything is written.

- `Holds`, `Spoilt`          : what a settings file may be;
- `get?_extend`, `extend_extend`, `extend_self` : updates over fields, and over other updates;
- `merge_ok`, `get?_merged`, `gainsDirs_merge` : what a merge has done when it succeeds, or fails;
- `merge_keeps_others`       : what is read after a merge, and the text after several.
-/

namespace Testbench

/-! ## Numbers as they are read back -/

namespace Json

theorem Number.isReadable_of_isWord {n : Number} (h : n.IsWord) : n.IsReadable := by
  cases n with
  | int i => exact h
  | double x => exact h.elim

theorem Number.reread_eq_self {n : Number} (h : n.IsWord) : n.reread = n := by
  cases n with
  | int i => rfl
  | double x => exact h.elim

mutual

/-- A value without doubles is read back as it was. -/
theorem reread_eq_self : ∀ (j : Json), j.IsWhole → j.reread = j
  | .null, _ => rfl
  | .bool _, _ => rfl
  | .number n, h => by rw [reread, Number.reread_eq_self h]
  | .text _, _ => rfl
  | .array items, h => by rw [reread, rereadItems_eq_self items h]
  | .object fields, h => by rw [reread, rereadFields_eq_self fields h]

theorem rereadItems_eq_self : ∀ (items : List Json), AreWholeItems items → rereadItems items = items
  | [], _ => rfl
  | j :: rest, h => by rw [rereadItems, reread_eq_self j h.1, rereadItems_eq_self rest h.2]

theorem rereadFields_eq_self : ∀ (fields : List (String × Json)), AreWholeFields fields →
    rereadFields fields = fields
  | [], _ => rfl
  | (key, j) :: rest, h => by rw [rereadFields, reread_eq_self j h.1, rereadFields_eq_self rest h.2]

end

mutual

theorem isReadable_of_isWhole : ∀ (j : Json), j.IsWhole → j.IsReadable
  | .null, _ => trivial
  | .bool _, _ => trivial
  | .number _, h => Number.isReadable_of_isWord h
  | .text _, _ => trivial
  | .array items, h => areReadableItems_of_whole items h
  | .object fields, h => areReadableFields_of_whole fields h

theorem areReadableItems_of_whole : ∀ (items : List Json), AreWholeItems items →
    AreReadableItems items
  | [], _ => trivial
  | j :: rest, h => ⟨isReadable_of_isWhole j h.1, areReadableItems_of_whole rest h.2⟩

theorem areReadableFields_of_whole : ∀ (fields : List (String × Json)), AreWholeFields fields →
    AreReadableFields fields
  | [], _ => trivial
  | (_, j) :: rest, h => ⟨isReadable_of_isWhole j h.1, areReadableFields_of_whole rest h.2⟩

end

mutual

/-- Reading back leaves the fields of objects where they are. -/
theorem isOrdered_reread : ∀ j : Json, j.IsOrdered → j.reread.IsOrdered
  | .null, _ => trivial
  | .bool _, _ => trivial
  | .number _, _ => trivial
  | .text _, _ => trivial
  | .array items, h => areOrderedItems_reread items h
  | .object fields, h => by
      refine ⟨?_, areOrderedFields_reread fields h.2⟩
      rw [rereadFields_eq_map]
      exact List.pairwise_map.2 h.1

theorem areOrderedItems_reread : ∀ items : List Json, AreOrderedItems items →
    AreOrderedItems (rereadItems items)
  | [], _ => trivial
  | j :: rest, h => ⟨isOrdered_reread j h.1, areOrderedItems_reread rest h.2⟩

theorem areOrderedFields_reread : ∀ fields : List (String × Json), AreOrderedFields fields →
    AreOrderedFields (rereadFields fields)
  | [], _ => trivial
  | (_, j) :: rest, h => ⟨isOrdered_reread j h.1, areOrderedFields_reread rest h.2⟩

end

/-- A value without doubles is read from its indented text. -/
theorem read?_pretty_whole (step : Nat) {j : Json} (hwhole : j.IsWhole) (hordered : j.IsOrdered)
    (hdepth : j.depth ≤ maxLevels) : Json.read? (j.pretty step) = some j := by
  rw [read?_pretty step (isReadable_of_isWhole j hwhole), if_pos hdepth, reread_eq_self j hwhole,
    arrange_eq_self j hordered]

/-! ## Updates over fields -/

namespace Fields

variable {fields updates others : Fields}

theorem extend_eq (fields updates : Fields) :
    fields.extend updates = updates.foldl (fun acc f => Keyed.insert f.1 f.2 acc) fields := by
  simp only [extend, insert_eq]

theorem sorted_extend (h : Keyed.Sorted fields) (updates : Fields) :
    Keyed.Sorted (fields.extend updates) := by
  rw [extend_eq]
  exact Keyed.sorted_foldl_insert updates h

/-- A key has its update, or else what it had. -/
theorem get?_extend (fields : Fields) (hupdates : Keyed.Sorted updates) (key : String) :
    (fields.extend updates).get? key = (updates.get? key).or (fields.get? key) := by
  rw [extend_eq, get?_eq, Keyed.get?_foldl_insert, Keyed.get?_reverse hupdates.nodup_keys, get?_eq,
    get?_eq]

/-- Updates one after the other are the later ones over the earlier ones. -/
theorem extend_extend (hfields : Keyed.Sorted fields) (hupdates : Keyed.Sorted updates)
    (hothers : Keyed.Sorted others) :
    (fields.extend updates).extend others = fields.extend (updates.extend others) := by
  have hboth : Keyed.Sorted (updates.extend others) := sorted_extend hupdates others
  refine Keyed.Sorted.ext (sorted_extend (sorted_extend hfields updates) others)
    (sorted_extend hfields _) fun key => ?_
  calc ((fields.extend updates).extend others).get? key
      = (others.get? key).or ((updates.get? key).or (fields.get? key)) := by
        rw [get?_extend _ hothers, get?_extend _ hupdates]
    _ = ((others.get? key).or (updates.get? key)).or (fields.get? key) := Option.or_assoc.symm
    _ = (fields.extend (updates.extend others)).get? key := by
        rw [get?_extend _ hboth, get?_extend _ hothers]

theorem extend_self (hupdates : Keyed.Sorted updates) : updates.extend updates = updates := by
  refine Keyed.Sorted.ext (sorted_extend hupdates updates) hupdates fun key => ?_
  exact (get?_extend _ hupdates key).trans (Option.or_self)

/-- What holds of all fields and of all updates holds of the fields after the updates. -/
theorem forall_extend {P : String × Json → Prop} (hfields : ∀ f ∈ fields, P f)
    (hupdates : ∀ f ∈ updates, P f) : ∀ f ∈ fields.extend updates, P f := by
  induction updates generalizing fields with
  | nil => exact hfields
  | cons u rest ih =>
      have hfirst : ∀ f ∈ fields.insert u.1 u.2, P f := by
        intro f hf
        rw [insert_eq] at hf
        rcases Keyed.mem_insert hf with rfl | hold
        · exact hupdates u List.mem_cons_self
        · exact hfields f hold
      exact ih hfirst fun f hf => hupdates f (List.mem_cons_of_mem _ hf)

end Fields
end Json

namespace Settings

/-! ## What a settings file may be -/

section

variable {t t' : FileTree} {root : Path} {fields : Json.Fields} {cause : Error}

/-- There is no settings file, or it holds an object. -/
inductive Holds (t : FileTree) (root : Path) : Json.Fields → Prop where
  | absent : t.exists? (path root) = false → Holds t root []
  | object {s : String} {fields : Json.Fields} : t.readText (path root) = .ok s →
      Json.read? s = some (.object fields) → Holds t root fields

/-- There is a settings file, and it holds no object. -/
inductive Spoilt (t : FileTree) (root : Path) : Error → Prop where
  | unreadable {cause : FileError} : t.exists? (path root) = true →
      t.readText (path root) = .error cause → Spoilt t root (.file cause)
  | malformed {s : String} : t.readText (path root) = .ok s → Json.read? s = none →
      Spoilt t root .malformedJson
  | notAnObject {s : String} {j : Json} : t.readText (path root) = .ok s → Json.read? s = some j →
      (∀ fields, j ≠ .object fields) → Spoilt t root (.config (.notAnObject (path root)))

theorem read_of_holds (h : Holds t root fields) : read t root = .ok fields := by
  cases h with
  | absent hnone => simp [read, hnone]
  | object htext hobject => simp [read, FileTree.exists?_of_readText htext, htext, hobject]

theorem read_of_spoilt (h : Spoilt t root cause) : read t root = .error cause := by
  cases h with
  | unreadable hthere htext => simp [read, hthere, htext]
  | malformed htext hnone => simp [read, FileTree.exists?_of_readText htext, htext, hnone]
  | notAnObject htext hsome hother =>
      rename_i s j
      cases j with
      | object fields => exact (hother fields rfl).elim
      | _ => simp [read, FileTree.exists?_of_readText htext, htext, hsome]

/-- A spoilt file is left as it is. -/
theorem merge_of_spoilt (h : Spoilt t root cause) (updates : Json.Fields) :
    merge t root updates = (.error cause, t) := by
  unfold merge
  simp only [read_of_spoilt h]

/-! ## Texts to set -/

/-- Texts by key; of two for one key the later stays. -/
def texts (updates : List (String × String)) : Json.Fields :=
  Json.Fields.ofList (updates.map fun u => (u.1, .text u.2))

theorem sorted_texts (updates : List (String × String)) : Keyed.Sorted (texts updates) := by
  rw [texts, Json.Fields.ofList_eq]
  exact Keyed.sorted_ofList _

theorem mem_texts {updates : List (String × String)} {f : String × Json} (h : f ∈ texts updates) :
    ∃ s, f.2 = .text s := by
  rcases List.mem_map.1 (Json.mem_of_mem_ofList h) with ⟨u, -, rfl⟩
  exact ⟨u.2, rfl⟩

theorem Kept.extend (h : Kept fields) {updates : Json.Fields}
    (hupdates : ∀ f ∈ updates, ∃ s, f.2 = .text s) : Kept (fields.extend updates) := by
  induction updates generalizing fields with
  | nil => exact h
  | cons u rest ih =>
      rcases hupdates u List.mem_cons_self with ⟨s, hs⟩
      have hfirst : Kept (fields.insert u.1 u.2) := hs ▸ h.insert u.1 s
      exact ih hfirst fun f hf => hupdates f (List.mem_cons_of_mem _ hf)

theorem whole_extend (h : Json.AreWholeFields fields) {updates : Json.Fields}
    (hupdates : ∀ f ∈ updates, ∃ s, f.2 = .text s) :
    Json.AreWholeFields (fields.extend updates) := by
  refine (Json.areWholeFields_iff _).2 (Json.Fields.forall_extend
    ((Json.areWholeFields_iff fields).1 h) fun f hf => ?_)
  rcases hupdates f hf with ⟨s, hs⟩
  rw [hs]
  trivial

/-! ## Writing -/

theorem isEmpty_dir (root : Path) : (dir root).isEmpty = false :=
  Path.isEmpty_joinText root ProjectFiles.isName_settingsDirName

theorem readText_written (h : (write root fields).on t = (.ok (), t')) :
    t'.readText (path root) = .ok ((Json.object fields).pretty indentation) := by
  rcases FileM.on_bind_ok h with ⟨-, t₁, -, hrest⟩
  exact FileTree.readText_writeText (FileM.on_change_ok hrest)

/-- Fields without doubles are read back as they were written. -/
theorem read_written_whole (h : Kept fields) (hwhole : Json.AreWholeFields fields)
    (hwrite : (write root fields).on t = (.ok (), t')) : read t' root = .ok fields := by
  have hback : Json.read? ((Json.object fields).pretty indentation) = some (.object fields) :=
    Json.read?_pretty_whole indentation hwhole ⟨h.sorted, h.ordered⟩ h.shallow
  exact read_of_holds (.object (readText_written hwrite) hback)

/-- Whether settings can be written does not depend on what they are. -/
theorem exists_write (h : (write root fields).on t = (.ok (), t')) (others : Json.Fields) :
    ∃ t₁, (write root others).on t = (.ok (), t₁) := by
  rcases FileM.on_bind_ok h with ⟨⟨⟩, t₁, hdirs, hrest⟩
  rcases FileTree.exists_write (FileM.on_change_ok hrest)
    ((Json.object others).pretty indentation).toUTF8 with ⟨t₂, htext⟩
  refine ⟨t₂, ?_⟩
  rw [write, FileM.on_bind, hdirs]
  exact (FileM.on_change _ t₁).trans (by rw [htext])

/-- Settings that were written can be written again. -/
theorem exists_write_again (h : (write root fields).on t = (.ok (), t')) (others : Json.Fields) :
    ∃ t₁, (write root others).on t' = (.ok (), t₁) := by
  rcases FileM.on_bind_ok h with ⟨⟨⟩, t₁, hdirs, hrest⟩
  have hwritten : t₁.write (path root) _ = .ok t' := FileM.on_change_ok hrest
  have hdir := FileTree.isDir_write hwritten (FileM.isDir_createDirs (isEmpty_dir root) hdirs)
  rcases FileTree.exists_rewrite hwritten
    ((Json.object others).pretty indentation).toUTF8 with ⟨t₂, htext⟩
  refine ⟨t₂, ?_⟩
  rw [write, FileM.on_bind, FileM.createDirs_of_isDir hdir]
  exact (FileM.on_change _ t').trans (by rw [htext])

/-! ## Merging -/

theorem merge_ok {updates : Json.Fields} (h : merge t root updates = (.ok (), t')) :
    ∃ fields, read t root = .ok fields ∧
      (write root (fields.extend updates)).on t = (.ok (), t') := by
  unfold merge at h
  cases hread : read t root with
  | error cause => simp [hread] at h
  | ok fields =>
      rcases hwrite : (write root (fields.extend updates)).on t with ⟨outcome, t₁⟩
      simp only [hread, hwrite, Prod.mk.injEq] at h
      rcases h with ⟨hok, rfl⟩
      cases outcome with
      | error cause => cases hok
      | ok u => exact ⟨fields, rfl, hwrite⟩

theorem write_of_merge {updates : Json.Fields} (hread : read t root = .ok fields)
    (h : merge t root updates = (.ok (), t')) :
    (write root (fields.extend updates)).on t = (.ok (), t') := by
  rcases merge_ok h with ⟨_, hsame, hwrite⟩
  obtain rfl : fields = _ := Except.ok.inj (hread.symm.trans hsame)
  exact hwrite

theorem merge_of_write {updates : Json.Fields} (hread : read t root = .ok fields)
    (hwrite : (write root (fields.extend updates)).on t = (.ok (), t')) :
    merge t root updates = (.ok (), t') := by
  unfold merge
  simp only [hread, hwrite, liftFile]

/-- After a merge each key has its text, or else its value as it is read back. -/
theorem get?_merged {updates : List (String × String)}
    (h : merge t root (texts updates) = (.ok (), t')) :
    ∃ fields fields', read t root = .ok fields ∧ read t' root = .ok fields' ∧
      ∀ key, fields'.get? key =
        ((texts updates).get? key).or ((fields.get? key).map Json.reread) := by
  rcases merge_ok h with ⟨fields, hread, hwrite⟩
  have hkept : Kept (fields.extend (texts updates)) :=
    (kept_of_read hread).extend fun _ => mem_texts
  rcases read_written hkept hwrite with ⟨fields', hread', hget⟩
  refine ⟨fields, fields', hread, hread', fun key => ?_⟩
  rw [hget, Json.Fields.get?_extend fields (sorted_texts updates)]
  cases htext : (texts updates).get? key with
  | some j =>
      rw [Json.Fields.get?_eq] at htext
      rcases mem_texts (Keyed.mem_of_get? htext) with ⟨s, rfl⟩
      rfl
  | none =>
      -- What was read is in order already, so writing it arranges nothing anew.
      rw [Option.none_or, Option.none_or, Json.Fields.get?_eq]
      refine Option.map_congr fun j hj => Json.arrange_eq_self _ (Json.isOrdered_reread j ?_)
      exact (Json.areOrderedFields_iff fields).1 (kept_of_read hread).ordered _
        (Keyed.mem_of_get? hj)

/-- Where settings could not be merged, no file was written. -/
theorem gainsDirs_merge {updates : Json.Fields} (h : (merge t root updates).1 = .error cause) :
    FileTree.GainsDirs t (merge t root updates).2 := by
  unfold merge at h ⊢
  cases hread : read t root with
  | error cause => exact .refl t
  | ok fields =>
      -- The directories are made first, and they are all that stays if one of them cannot be.
      have hdirs := FileM.moves_createDirs (r := FileTree.GainsDirs) .refl (fun _ _ _ => .trans)
        (fun _ _ _ => .createDir) (dir root) t
      simp only [hread, write, FileM.on_bind] at h ⊢
      rcases hmade : (FileM.createDirs (dir root)).on t with ⟨outcome, t₁⟩
      rw [hmade] at hdirs h
      cases outcome with
      | error cause => exact hdirs
      | ok u =>
          -- A write that fails has changed nothing.
          dsimp only at h ⊢
          rw [FileM.writeText, FileM.write, FileM.on_change] at h ⊢
          split at h
          · cases h
          · exact hdirs

section

variable {updates : List (String × String)}

theorem read_merged (hread : read t root = .ok fields) (hwhole : Json.AreWholeFields fields)
    (h : merge t root (texts updates) = (.ok (), t')) :
    read t' root = .ok (fields.extend (texts updates)) :=
  read_written_whole ((kept_of_read hread).extend fun _ => mem_texts)
    (whole_extend hwhole fun _ => mem_texts) (write_of_merge hread h)

/-- Merging more afterwards writes what merging all at once would have written. -/
theorem merge_after_merge (hread : read t root = .ok fields) (hwhole : Json.AreWholeFields fields)
    (h : merge t root (texts updates) = (.ok (), t')) (others : List (String × String)) :
    ∃ t₁ t₂ s, merge t' root (texts others) = (.ok (), t₁) ∧
      merge t root ((texts updates).extend (texts others)) = (.ok (), t₂) ∧
        t₁.readText (path root) = .ok s ∧ t₂.readText (path root) = .ok s := by
  have hback := read_merged hread hwhole h
  have hwrite := write_of_merge hread h
  rcases exists_write_again hwrite ((fields.extend (texts updates)).extend (texts others))
    with ⟨t₁, hafter⟩
  rcases exists_write hwrite (fields.extend ((texts updates).extend (texts others)))
    with ⟨t₂, honce⟩
  have hboth := Json.Fields.extend_extend (kept_of_read hread).sorted (sorted_texts updates)
    (sorted_texts others)
  refine ⟨t₁, t₂, _, merge_of_write hback hafter, merge_of_write hread honce,
    readText_written hafter, ?_⟩
  rw [hboth]
  exact readText_written honce

/-- Merging the same again writes the same text. -/
theorem merge_again (hread : read t root = .ok fields) (hwhole : Json.AreWholeFields fields)
    (h : merge t root (texts updates) = (.ok (), t')) :
    ∃ t₁ s, merge t' root (texts updates) = (.ok (), t₁) ∧ t'.readText (path root) = .ok s ∧
      t₁.readText (path root) = .ok s := by
  have hback := read_merged hread hwhole h
  have hwrite := write_of_merge hread h
  rcases exists_write_again hwrite ((fields.extend (texts updates)).extend (texts updates))
    with ⟨t₁, hagain⟩
  refine ⟨t₁, _, merge_of_write hback hagain, readText_written hwrite, ?_⟩
  have htwice : (fields.extend (texts updates)).extend (texts updates) =
      fields.extend (texts updates) := by
    rw [Json.Fields.extend_extend (kept_of_read hread).sorted (sorted_texts updates)
      (sorted_texts updates), Json.Fields.extend_self (sorted_texts updates)]
  rw [← htwice]
  exact readText_written hagain

end

end

/-- A merge that succeeds sets its keys and keeps the others, so that merges in a row write what the
later ones over the earlier ones do, and the same merge again changes no text. A spoilt file is left
as it is. -/
theorem merge_keeps_others (t : FileTree) (root : Path) :
    (∀ fields updates t', Holds t root fields → Json.AreWholeFields fields →
      merge t root (texts updates) = (.ok (), t') →
        (read t' root = .ok (fields.extend (texts updates)) ∧
          ∀ key, (fields.extend (texts updates)).get? key =
            ((texts updates).get? key).or (fields.get? key)) ∧
        (∀ others, ∃ t₁ t₂ s, merge t' root (texts others) = (.ok (), t₁) ∧
          merge t root ((texts updates).extend (texts others)) = (.ok (), t₂) ∧
            t₁.readText (path root) = .ok s ∧ t₂.readText (path root) = .ok s) ∧
        ∃ t₁ s, merge t' root (texts updates) = (.ok (), t₁) ∧ t'.readText (path root) = .ok s ∧
          t₁.readText (path root) = .ok s) ∧
    ∀ cause updates, Spoilt t root cause → merge t root updates = (.error cause, t) := by
  refine ⟨fun fields updates t' hholds hwhole h => ?_,
    fun cause updates h => merge_of_spoilt h updates⟩
  have hread := read_of_holds hholds
  exact ⟨⟨read_merged hread hwhole h, Json.Fields.get?_extend fields (sorted_texts updates)⟩,
    merge_after_merge hread hwhole h, merge_again hread hwhole h⟩

/-! ### A file with values inside values -/

namespace Merging

def folder : Path := ⟨"/p"⟩

/-- A project with a text in its settings file. -/
def filed (s : String) : FileTree :=
  ⟨⟨"/"⟩, 0, [(["p"], .dir), (["p", ".vscode"], .dir),
    (["p", ".vscode", "settings.json"], .file ⟨s.toUTF8, false, false, 0⟩)]⟩

theorem readText_filed (s : String) : (filed s).readText (path folder) = .ok s := by
  have hread : (filed s).read (path folder) = .ok s.toUTF8 := rfl
  simp only [FileTree.readText, hread, FileTree.fromUTF8?_toUTF8, bind, Except.bind]

def editor : Json :=
  .object [("quote", .text "a\"b"), ("tabs", .array [.nat 2, .object []])]

def kept : Json.Fields := [("editor", editor), (pythonPathKey, .text "old")]

theorem whole_kept : (Json.object kept).IsWhole := by decide +kernel

theorem holds_kept : Holds (filed ((Json.object kept).pretty indentation)) folder kept := by
  have hordered : (Json.object kept).IsOrdered := by decide +kernel
  exact .object (readText_filed _)
    (Json.read?_pretty_whole indentation whole_kept hordered (by decide +kernel))

def chosen : List (String × String) := [(pythonPathKey, "/p/venv/bin/python"), (pipSourceKey, "\n")]

theorem spoilt_filed : Spoilt (filed "[1, 2") folder .malformedJson := by
  have hnone : (Json.read? "[1, 2").isNone = true := by decide +kernel
  exact .malformed (readText_filed _) (Option.isNone_iff_eq_none.1 hnone)

theorem exists_merged : ∃ t', merge (filed ((Json.object kept).pretty indentation)) folder
    (texts chosen) = (.ok (), t') := by
  have hok : ((write folder (kept.extend (texts chosen))).on
      (filed ((Json.object kept).pretty indentation))).1.isOk = true := by decide +kernel
  rcases hwrite : (write folder (kept.extend (texts chosen))).on
    (filed ((Json.object kept).pretty indentation)) with ⟨outcome, t'⟩
  rw [hwrite] at hok
  cases outcome with
  | error cause => cases hok
  | ok u => exact ⟨t', merge_of_write (read_of_holds holds_kept) hwrite⟩

end Merging

open Merging in
/-- Two texts are set next to a nested value, and a file with half an array stays as it is. -/
theorem merge_keeps_others_nested :
    Holds (filed ((Json.object kept).pretty indentation)) folder kept ∧ Json.AreWholeFields kept ∧
    (∃ t', merge (filed ((Json.object kept).pretty indentation)) folder (texts chosen) =
        (.ok (), t') ∧
      read t' folder = .ok [("editor", editor), (pythonPathKey, .text "/p/venv/bin/python"),
        (pipSourceKey, .text "\n")] ∧
      ∃ t₁ s, merge t' folder (texts chosen) = (.ok (), t₁) ∧
        t'.readText (path folder) = .ok s ∧ t₁.readText (path folder) = .ok s) ∧
    Spoilt (filed "[1, 2") folder .malformedJson ∧
    merge (filed "[1, 2") folder (texts chosen) = (.error .malformedJson, filed "[1, 2") := by
  rcases exists_merged with ⟨t', hmerged⟩
  rcases (merge_keeps_others _ folder).1 kept chosen t' holds_kept whole_kept hmerged
    with ⟨⟨hread, -⟩, -, hagain⟩
  exact ⟨holds_kept, whole_kept, ⟨t', hmerged, hread, hagain⟩, spoilt_filed,
    (merge_keeps_others _ folder).2 .malformedJson _ spoilt_filed⟩

end Settings
end Testbench
