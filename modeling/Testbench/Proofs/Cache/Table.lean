import Testbench.Parsing
import Testbench.Proofs.Files
import Testbench.Proofs.Json.Reading
import Testbench.Proofs.Outline.Codec

/-!
# Table — cache tables that are saved and loaded again

The version of a table and its entries share one object, and a reader nests only so deep. A saved
table is therefore loaded as it was unless an entry has the key of the version, or holds a document
that nests within two levels of the reader's limit. One such entry is enough to lose all others.

- `Table.Stored`   : the tables that parses build up;
- `Table.IsKept`   : no entry has the key of the version and none nests too deep;
- `load_of_save`   : what is loaded after a save;
- `load_save_iff`  : a stored table survives exactly if it is kept.
-/

namespace Testbench
namespace Cache

open Outline (Document)

/-! ## Tables that parses build up -/

/-- What a parse puts into a table: the key of a file below a root, a time of 64 bits, and a
document that a parser printed, whose free-form numbers are integers of 64 bits. -/
structure Storable (key : String) (modified : Nat) (document : Document) : Prop where
  key_of_file : ∃ root file, ProjectFiles.cacheKey? root file = some key
  modified_lt : modified < timeBound
  parsed : ∃ outcome, Parsing.verdict outcome = .parsed document
  whole : ∀ j ∈ document.freeForm, j.IsWhole

namespace Table

/-- A table built from the empty one by storing documents. -/
inductive Stored : Table → Prop where
  | empty : Stored Table.empty
  | insert {table : Table} {key : String} {modified : Nat} {document : Document} :
      Stored table → Storable key modified document → Stored (table.insert key modified document)

/-- No entry has the key of the version, and all are shallow enough to be read two levels down. -/
def IsKept (table : Table) : Prop :=
  ∀ e ∈ table.entries, e.1 ≠ versionKey ∧ e.2.document.toJson.depth + 2 ≤ Json.maxLevels

instance (table : Table) : Decidable table.IsKept :=
  inferInstanceAs (Decidable (∀ e ∈ table.entries,
    e.1 ≠ versionKey ∧ e.2.document.toJson.depth + 2 ≤ Json.maxLevels))

/-- What is known of an entry, however it was stored. -/
structure IsSoundEntry (e : Entry) : Prop where
  modified_lt : e.modified < timeBound
  document : e.document.IsSound
  whole : ∀ j ∈ e.document.freeForm, j.IsWhole

theorem isSound_of_verdict {outcome : Except Error Outcome} {d : Document}
    (h : Parsing.verdict outcome = .parsed d) : d.IsSound := by
  -- A document is what comes of a run that succeeded, prints one, and lists no errors in it.
  cases outcome with
  | error cause => simp [Parsing.verdict] at h
  | ok o =>
      rw [Parsing.verdict] at h
      by_cases hsuccess : (!o.success) = true
      · rw [if_pos hsuccess] at h
        simp at h
      · rw [if_neg hsuccess] at h
        cases htext : Document.ofText? (Text.trim o.stdoutText) with
        | none => simp [htext] at h
        | some d' =>
            simp only [htext] at h
            by_cases herrors : d'.hasErrors = true
            · simp [if_pos herrors] at h
            · have heq : d' = d := by simpa [if_neg herrors] using h
              rw [← heq]
              exact Document.ofText?_sound htext

theorem Stored.sorted {table : Table} (h : Stored table) : Keyed.Sorted table.entries := by
  induction h with
  | empty => exact List.Pairwise.nil
  | insert _ _ ih =>
      rw [Table.insert, insertEntry_eq]
      exact Keyed.sorted_insert _ _ ih

theorem Stored.sound {table : Table} (h : Stored table) :
    ∀ e ∈ table.entries, IsSoundEntry e.2 := by
  induction h with
  | empty => simp [Table.empty]
  | insert _ hnew ih =>
      intro e he
      rw [Table.insert, insertEntry_eq] at he
      rcases Keyed.mem_insert he with rfl | hold
      · rcases hnew.parsed with ⟨outcome, houtcome⟩
        exact ⟨hnew.modified_lt, isSound_of_verdict houtcome, hnew.whole⟩
      · exact ih e hold

/-! ## What is found -/

theorem find?_insert (table : Table) (key other : String) (modified : Nat) (document : Document) :
    (table.insert key modified document).find? other =
      if key = other then some ⟨modified, document⟩ else table.find? other := by
  rw [find?_eq, find?_eq, insert, insertEntry_eq]
  exact Keyed.get?_insert key other _ _

theorem get?_insert (table : Table) (key other : String) (modified time : Nat)
    (document : Document) : (table.insert key modified document).get? other time =
      if key = other then if modified = time then some document else none
      else table.get? other time := by
  rw [get?, get?, find?_insert]
  by_cases hkey : key = other
  · rw [if_pos hkey, if_pos hkey]
    by_cases htime : modified = time
    · simp [htime, Option.filter]
    · simp [htime, Option.filter]
  · rw [if_neg hkey, if_neg hkey]

/-! ## As JSON -/

/-- The fields that stand for the entries. -/
def entryFields (entries : List (String × Entry)) : List (String × Json) :=
  entries.map fun e => (e.1, Entry.toJson e.2)

theorem toJson_eq (table : Table) :
    table.toJson = .object ((versionKey, .nat formatVersion) :: entryFields table.entries) := rfl

theorem depthFields_entryFields_le_iff (entries : List (String × Entry)) {n : Nat} :
    Json.depthFields (entryFields entries) ≤ n + 1 ↔
      ∀ e ∈ entries, e.2.document.toJson.depth ≤ n := by
  have hentry : ∀ e : Entry, (Entry.toJson e).depth = e.document.toJson.depth + 1 := by
    intro e
    simp [Entry.toJson, Json.depth, Json.depthItems, Json.nat]
  rw [Json.depthFields_le_iff, entryFields, List.forall_mem_map]
  simp only [hentry, Nat.add_le_add_iff_right]

theorem depth_toJson_le_iff (table : Table) :
    table.toJson.depth ≤ Json.maxLevels ↔
      ∀ e ∈ table.entries, e.2.document.toJson.depth + 2 ≤ Json.maxLevels := by
  have hversion : (Json.nat formatVersion).depth = 0 := rfl
  have hlevels : Json.maxLevels = 125 + 1 + 1 := rfl
  rw [toJson_eq, Json.depth, Json.depthFields, hversion, Nat.zero_max, hlevels,
    Nat.add_le_add_iff_right, depthFields_entryFields_le_iff]
  simp only [Nat.add_le_add_iff_right]

theorem isWhole_entryFields {entries : List (String × Entry)}
    (h : ∀ e ∈ entries, IsSoundEntry e.2) : Json.AreWholeFields (entryFields entries) := by
  refine (Json.areWholeFields_iff _).2 ?_
  intro f hf
  rcases List.mem_map.1 hf with ⟨e, he, rfl⟩
  have hsound := h e he
  exact ⟨Outline.isWhole_nat hsound.modified_lt,
    Document.isWhole_toJson hsound.document.inRange hsound.whole, trivial⟩

theorem isWhole_toJson {table : Table} (h : ∀ e ∈ table.entries, IsSoundEntry e.2) :
    table.toJson.IsWhole :=
  ⟨Outline.isWhole_nat (by decide), isWhole_entryFields h⟩

theorem arrange_toJson (table : Table) :
    table.toJson.arrange = .object (Keyed.ofList ((versionKey, .nat formatVersion) ::
      (entryFields table.entries).map fun f => (f.1, f.2.arrange))) := by
  rw [toJson_eq, Json.arrange, Json.arrangeFields, Json.arrangeFields_eq_map, Json.Fields.ofList_eq]
  rfl

theorem decode?_arrange {e : Entry} (h : IsSoundEntry e) :
    Entry.decode? (Entry.toJson e).arrange = some e := by
  have hdocument := Document.ofJson?_arrange h.document
  have hitems : Json.Source.value.items? (Entry.toJson e).arrange =
      some [.nat e.modified, e.document.toJson.arrange] := by
    simp [Entry.toJson, Json.arrange, Json.arrangeItems, Json.Source.items?, Json.Source.value,
      Json.nat]
  simp [Entry.decode?, hitems, Json.below?, Json.nat, h.modified_lt, hdocument]

/-! ## Reading what was written -/

/-- An entry under the key of the version hides the version. -/
theorem ofJson?_of_versionKey {table : Table} (hs : Keyed.Sorted table.entries) {e : Entry}
    (he : (versionKey, e) ∈ table.entries) : ofJson? table.toJson.arrange = none := by
  have hmem : (versionKey, e) ∈ table.entries.reverse := by simpa using he
  have hlast : Keyed.get? table.entries.reverse versionKey = some e := by
    rw [Keyed.get?_reverse hs.nodup_keys]
    exact hs.get?_eq_some_iff.2 he
  have hget : Keyed.get? (Keyed.ofList ((versionKey, Json.nat formatVersion) ::
      (entryFields table.entries).map fun f => (f.1, f.2.arrange))) versionKey =
      some (Entry.toJson e).arrange := by
    rw [Keyed.get?_ofList, List.reverse_cons, Keyed.get?_append, ← List.map_reverse,
      Keyed.get?_map Json.arrange, entryFields, ← List.map_reverse, Keyed.get?_map, hlast]
    rfl
  rw [arrange_toJson]
  simp [ofJson?, Json.fields?, Json.Fields.get?_eq, hget, Entry.toJson, Json.arrange, Json.below?]

/-- Without such an entry the table is read as it was. -/
theorem ofJson?_arrange {table : Table} (hs : Keyed.Sorted table.entries)
    (hsound : ∀ e ∈ table.entries, IsSoundEntry e.2)
    (hkeys : ∀ e ∈ table.entries, e.1 ≠ versionKey) :
    ofJson? table.toJson.arrange = some table := by
  have hfields : ((entryFields table.entries).map fun f => (f.1, f.2.arrange)) =
      table.entries.map fun e => (e.1, (Entry.toJson e.2).arrange) := by
    simp [entryFields, Function.comp_def]
  have hnone : Keyed.get? table.entries versionKey = none := by
    rw [Keyed.get?_eq_none_iff]
    exact hkeys
  have hsorted : Keyed.Sorted (table.entries.map fun e => (e.1, (Entry.toJson e.2).arrange)) :=
    List.pairwise_map.2 hs
  have hget : ∀ key, Keyed.get? (Keyed.ofList ((versionKey, Json.nat formatVersion) ::
      table.entries.map fun e => (e.1, (Entry.toJson e.2).arrange))) key =
      (Keyed.get? (table.entries.map fun e => (e.1, (Entry.toJson e.2).arrange)) key).or
        (if versionKey = key then some (Json.nat formatVersion) else none) := by
    intro key
    rw [Keyed.get?_ofList, List.reverse_cons, Keyed.get?_append,
      Keyed.get?_reverse hsorted.nodup_keys, Keyed.get?_cons, Keyed.get?_nil]
  -- Apart from the version, the sorted fields are those of the entries.
  have hfilter : (Keyed.ofList ((versionKey, Json.nat formatVersion) ::
      table.entries.map fun e => (e.1, (Entry.toJson e.2).arrange))).filter
        (fun f => f.1 != versionKey) =
      table.entries.map fun e => (e.1, (Entry.toJson e.2).arrange) := by
    refine Keyed.Sorted.ext ((Keyed.sorted_ofList _).filter _) hsorted ?_
    intro key
    rw [Keyed.get?_filter_ne, hget]
    by_cases hkey : key = versionKey
    · rw [if_pos hkey, hkey, Keyed.get?_map (fun e => (Entry.toJson e).arrange), hnone]
      rfl
    · rw [if_neg hkey, if_neg (Ne.symm hkey), Option.or_none]
  have hentries : (table.entries.map fun e => (e.1, (Entry.toJson e.2).arrange)).mapM
      (fun f => (Entry.decode? f.2).bind fun e => some (f.1, e)) = some table.entries := by
    refine Json.Source.mapM_map_eq_some ?_
    intro e he
    simp [decode?_arrange (hsound e he)]
  have hversion : Keyed.get? (Keyed.ofList ((versionKey, Json.nat formatVersion) ::
      table.entries.map fun e => (e.1, (Entry.toJson e.2).arrange))) versionKey =
      some (Json.nat formatVersion) := by
    rw [hget, Keyed.get?_map (fun e => (Entry.toJson e).arrange), hnone]
    simp
  have hbelow : (Json.nat formatVersion).below? versionBound = some formatVersion := by decide
  rw [arrange_toJson, hfields]
  simp only [ofJson?, Json.fields?, Json.Fields.get?_eq, hversion, hbelow, entries?, hfilter,
    Option.bind_eq_bind, hentries, Option.bind_some, beq_self_eq_true, if_true]

/-! ## Loading what was saved -/

theorem load_of_location?_eq_none {t : FileTree} {p : Path} (h : t.location? p = none) :
    load t p = empty := by
  rcases FileTree.read_of_location?_eq_none h with ⟨cause, hread⟩
  simp [load, FileTree.readText, hread, bind, Except.bind]

/-- Two paths that lead to one file load one table. -/
theorem load_congr {t : FileTree} {p q : Path} {here : Location}
    (hp : t.location? p = some here) (hq : t.location? q = some here) : load t p = load t q := by
  simp only [load, FileTree.readText, FileTree.read_congr hp hq]

theorem readText_of_save {table : Table} {t t' : FileTree} {p : Path}
    (h : (table.save p).on t = (.ok (), t')) : t'.readText p = .ok table.text := by
  have hwrite : ∃ t₁ : FileTree, t₁.writeText p table.text = .ok t' := by
    rw [save] at h
    cases hparent : p.parent? with
    | none =>
        rw [hparent] at h
        have hok : t.write p table.text.toUTF8 = .ok t' := FileM.on_change_ok h
        exact ⟨t, hok⟩
    | some dir =>
        rw [hparent] at h
        rcases FileM.on_bind_ok h with ⟨_, t₁, _, hrest⟩
        have hok : t₁.write p table.text.toUTF8 = .ok t' := FileM.on_change_ok hrest
        exact ⟨t₁, hok⟩
  rcases hwrite with ⟨t₁, hwrite⟩
  exact FileTree.readText_writeText hwrite

/-- A saved table is loaded as it was if it is kept, and as the empty table if not. -/
theorem load_of_save {table : Table} (hs : Keyed.Sorted table.entries)
    (hsound : ∀ e ∈ table.entries, IsSoundEntry e.2) {t t' : FileTree} {p : Path}
    (h : (table.save p).on t = (.ok (), t')) :
    load t' p = if table.IsKept then table else empty := by
  have hread := Json.read?_compact table.toJson (isWhole_toJson hsound)
  rw [load, readText_of_save h]
  simp only [text, hread]
  -- The text is read back unless it is too deep. Then the entries are, unless one has the key of
  -- the version.
  by_cases hdepth : table.toJson.depth ≤ Json.maxLevels
  · rw [if_pos hdepth, Option.bind_some]
    have hshallow := (depth_toJson_le_iff table).1 hdepth
    by_cases hkeys : ∀ e ∈ table.entries, e.1 ≠ versionKey
    · have hkept : table.IsKept := fun e he => ⟨hkeys e he, hshallow e he⟩
      rw [ofJson?_arrange hs hsound hkeys, if_pos hkept]
      rfl
    · have hlost : ¬ table.IsKept := fun hkept => hkeys fun e he => (hkept e he).1
      rw [if_neg hlost]
      push Not at hkeys
      rcases hkeys with ⟨⟨key, e⟩, he, rfl⟩
      rw [ofJson?_of_versionKey hs he]
      rfl
  · have hlost : ¬ table.IsKept := by
      intro hkept
      exact hdepth ((depth_toJson_le_iff table).2 fun e he => (hkept e he).2)
    rw [if_neg hdepth, if_neg hlost]
    rfl

/-- A table that parses built up survives a save exactly if it is kept; otherwise nothing of it
does. -/
theorem load_save_iff {table : Table} (hstored : Stored table) {t t' : FileTree} {p : Path}
    (h : (table.save p).on t = (.ok (), t')) :
    (load t' p = table ↔ table.IsKept) ∧ (¬ table.IsKept → load t' p = empty) := by
  have hload := load_of_save hstored.sorted hstored.sound h
  refine ⟨⟨?_, ?_⟩, ?_⟩
  · intro hback
    by_contra hlost
    -- The empty table has nothing to lose.
    have hempty : table = empty := by rw [← hback, hload, if_neg hlost]
    refine hlost ?_
    rw [hempty]
    intro e he
    simp [empty] at he
  · intro hkept
    rw [hload, if_pos hkept]
  · intro hlost
    rw [hload, if_neg hlost]

/-! ## A printed class -/

/-- A run that prints one class. -/
def output : Outcome :=
  ⟨some 0, "\x7b\"classes\":[\x7b\"name\":\"A\",\"line\":1\x7d]\x7d".toUTF8, ⟨#[]⟩⟩

def printed : Except Error Outcome := .ok output

/-- The document of a run, if there is one. -/
def printed? (outcome : Except Error Outcome) : Option Document :=
  match Parsing.verdict outcome with
  | .parsed d => some d
  | _ => none

theorem verdict_of_printed? {outcome : Except Error Outcome} {d : Document}
    (h : printed? outcome = some d) : Parsing.verdict outcome = .parsed d := by
  unfold printed? at h
  cases hverdict : Parsing.verdict outcome with
  | parsed d' =>
      rw [hverdict] at h
      rw [Option.some.inj h]
  | failed detail => simp [hverdict] at h
  | unreadable => simp [hverdict] at h
  | syntaxErrors => simp [hverdict] at h

def plain : Document := (printed? printed).getD default

theorem verdict_printed : Parsing.verdict printed = .parsed plain := by
  have hsome : (printed? printed).isSome = true := by decide +kernel
  rcases Option.isSome_iff_exists.1 hsome with ⟨d, hd⟩
  have hplain : plain = d := by rw [plain, hd, Option.getD_some]
  rw [hplain]
  exact verdict_of_printed? hd

theorem storable_plain {root file : Path} {key : String}
    (hkey : ProjectFiles.cacheKey? root file = some key) : Storable key 7 plain :=
  ⟨⟨_, _, hkey⟩, by decide, ⟨_, verdict_printed⟩, by decide +kernel⟩

/-- The cache file of a folder, and a tree that has the folder only. -/
def place : Path := ⟨"/p/.vscode/python.cache"⟩

def disk : FileTree := FileTree.start ⟨"/p"⟩ 0

theorem save_on_disk (table : Table) :
    (table.save place).on disk = (.ok (), ((table.save place).on disk).2) := by
  have hsaved : ((table.save place).on disk).1 = .ok () := rfl
  rw [← hsaved]

theorem stored_plain : Stored (empty.insert "a.py" 7 plain) := by
  have hkey : ProjectFiles.cacheKey? ⟨"/p"⟩ (Path.joinText ⟨"/p"⟩ "a.py") = some "a.py" := by decide
  exact Stored.empty.insert (storable_plain hkey)

theorem isKept_plain : (empty.insert "a.py" 7 plain).IsKept := by decide +kernel

theorem load_save_plain : Stored (empty.insert "a.py" 7 plain) ∧
    ((empty.insert "a.py" 7 plain).save place).on disk =
      (.ok (), (((empty.insert "a.py" 7 plain).save place).on disk).2) ∧
    load (((empty.insert "a.py" 7 plain).save place).on disk).2 place =
      empty.insert "a.py" 7 plain :=
  ⟨stored_plain, save_on_disk _, (load_save_iff stored_plain (save_on_disk _)).1.2 isKept_plain⟩

/-- A file that is called like the version resets the table. -/
theorem load_save_lost : Stored (empty.insert versionKey 7 plain) ∧
    ((empty.insert versionKey 7 plain).save place).on disk =
      (.ok (), (((empty.insert versionKey 7 plain).save place).on disk).2) ∧
    load (((empty.insert versionKey 7 plain).save place).on disk).2 place ≠
      empty.insert versionKey 7 plain := by
  have hkey : ProjectFiles.cacheKey? ⟨"/p"⟩ (Path.joinText ⟨"/p"⟩ versionKey) =
      some versionKey := by
    decide
  have hstored := Stored.empty.insert (storable_plain hkey)
  have hlost : ¬ (empty.insert versionKey 7 plain).IsKept := by decide +kernel
  refine ⟨hstored, save_on_disk _, ?_⟩
  rw [load_of_save hstored.sorted hstored.sound (save_on_disk _), if_neg hlost]
  simp [empty, insert, insertEntry]

end Table

theorem onFiles_load (t : FileTree) (root : Path) :
    onFiles.load t root = Table.load t (fileOf root) := by
  simp only [onFiles]

end Cache
end Testbench
