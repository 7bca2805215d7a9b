import Testbench.Proofs.Cache.Table
import Testbench.Proofs.Outline.Depth

/-!
# Loading — a cache file is read as a whole or not at all

Whatever bytes a cache file has, the table that is loaded is the one that its object spells, with
one entry for each key but that of the version, or it is empty. A loaded table can be saved, and is
then loaded as it was.

- `Json.spelled?`             : the fields of an object as they stand in a text, repeated ones
  included;
- `Table.fieldsIn?`           : the fields that a file spells;
- `Table.Spells`              : what it is for fields to spell a table;
- `ofJson?_eq_some_iff`       : a table is read from the object that spells it;
- `load_all_or_nothing`       : what is loaded, and loaded again.
-/

namespace Testbench

namespace Json

/-! ## Objects as they are spelled -/

/-- The fields of the object that a text spells, in their order. A key may be repeated. -/
def spelled? (s : String) : Option (List (String × Json)) :=
  match Draft.read? s with
  | some (.object fields) => Draft.fieldValues? (maxLevels - 1) fields
  | _ => none

/-- The last value of a key. -/
def last? (fields : List (String × Json)) (key : String) : Option Json :=
  Keyed.get? fields.reverse key

theorem read?_of_spelled? {s : String} {fields : List (String × Json)}
    (h : spelled? s = some fields) : read? s = some (.object (Fields.ofList fields)) := by
  unfold spelled? at h
  split at h
  · rename_i drafts hread
    have hlevels : maxLevels = maxLevels - 1 + 1 := rfl
    rw [read?, hread, hlevels]
    simp [Draft.value?, h]
  · simp at h

theorem spelled?_of_read? {s : String} {fields : Fields} (h : read? s = some (.object fields)) :
    ∃ raw, spelled? s = some raw ∧ Fields.ofList raw = fields := by
  simp only [read?, Option.bind_eq_bind, Option.bind_eq_some_iff] at h
  rcases h with ⟨draft, hread, h⟩
  -- Only a draft of an object is read as an object.
  cases draft with
  | object drafts =>
      have hlevels : maxLevels = maxLevels - 1 + 1 := rfl
      rw [hlevels, Draft.value?] at h
      rcases Option.map_eq_some_iff.1 h with ⟨raw, hraw, heq⟩
      exact ⟨raw, by simp only [spelled?, hread, hraw], Json.object.inj heq⟩
  | array items =>
      have hlevels : maxLevels = maxLevels - 1 + 1 := rfl
      rw [hlevels, Draft.value?] at h
      simp at h
  | null => simp [Draft.value?] at h
  | bool b => simp [Draft.value?] at h
  | numeral n => simp [Draft.value?] at h
  | text s => simp [Draft.value?] at h

/-- A reader that wants an object reads the one that is spelled. -/
theorem bind_read? {β : Type} {f : Json → Option β} (hf : ∀ j, j.fields? = none → f j = none)
    (s : String) :
    (read? s).bind f = (spelled? s).bind fun fields => f (.object (Fields.ofList fields)) := by
  cases hspelled : spelled? s with
  | some fields =>
      rw [read?_of_spelled? hspelled]
      rfl
  | none =>
      cases hread : read? s with
      | none => rfl
      | some j =>
          cases j with
          | object fields =>
              rcases spelled?_of_read? hread with ⟨raw, hraw, -⟩
              rw [hspelled] at hraw
              simp at hraw
          | _ => exact hf _ rfl

/-- An object that is spelled is one that a reader builds. -/
theorem sound_of_spelled? {s : String} {fields : List (String × Json)}
    (h : spelled? s = some fields) : (Json.object (Fields.ofList fields)).IsOrdered ∧
      (Json.object (Fields.ofList fields)).depth ≤ maxLevels := by
  have hread := read?_of_spelled? h
  simp only [read?, Option.bind_eq_bind, Option.bind_eq_some_iff] at hread
  rcases hread with ⟨draft, -, hvalue⟩
  exact ⟨Draft.isOrdered_of_value? draft _ _ hvalue, Draft.depth_le_of_value? draft _ _ hvalue⟩

/-- The natural numbers below a bound. -/
theorem below?_eq_some_iff {bound n : Nat} {j : Json} :
    j.below? bound = some n ↔ j = .nat n ∧ n < bound := by
  unfold below?
  split
  · rename_i m
    split
    · rename_i hlt
      rw [Option.some.injEq]
      constructor
      · rintro rfl
        exact ⟨rfl, hlt⟩
      · rintro ⟨heq, -⟩
        exact Int.ofNat.inj (Number.int.inj (Json.number.inj heq))
    · rename_i hge
      refine ⟨fun h => absurd h (by simp), ?_⟩
      rintro ⟨heq, hlt⟩
      have hm : m = n := Int.ofNat.inj (Number.int.inj (Json.number.inj heq))
      exact absurd (hm ▸ hlt) hge
  · rename_i hother
    refine ⟨fun h => absurd h (by simp), ?_⟩
    rintro ⟨rfl, -⟩
    exact absurd rfl (hother n)

end Json

namespace Cache

open Outline (Document)
open Json (Source)

namespace Table

/-! ## Tables and the fields that spell them -/

/-- Fields spell a table if the last of those for the version is the current version, and the table
has one entry for each other key, which is the last pair of a time of 64 bits and a document
there. -/
structure Spells (fields : List (String × Json)) (table : Table) : Prop where
  sorted : Keyed.Sorted table.entries
  version : Json.last? fields versionKey = some (.nat formatVersion)
  keys : ∀ key, key ∈ table.entries.map (·.1) ↔ key ≠ versionKey ∧ key ∈ fields.map (·.1)
  entries : ∀ e ∈ table.entries, ∃ document, e.2.modified < timeBound ∧
    Json.last? fields e.1 = some (.array [.nat e.2.modified, document]) ∧
    Document.ofJson? document = some e.2.document

/-- An entry is a pair of a time and a document. -/
theorem decode?_eq_some_iff {j : Json} {e : Entry} : Entry.decode? j = some e ↔
    ∃ document, e.modified < timeBound ∧ j = .array [.nat e.modified, document] ∧
      Document.ofJson? document = some e.document := by
  constructor
  · intro h
    simp only [Entry.decode?, Option.bind_eq_bind, Option.bind_eq_some_iff] at h
    rcases h with ⟨items, hitems, h⟩
    -- There are items only in an array.
    have hj : j = .array items := by
      cases j with
      | array js =>
          have heq : js = items := by simpa [Source.items?, Source.value] using hitems
          rw [heq]
      | _ => simp [Source.items?, Source.value] at hitems
    split at h
    · rename_i modified document
      simp only [Option.bind_eq_some_iff] at h
      rcases h with ⟨time, htime, d, hd, heq⟩
      rcases Json.below?_eq_some_iff.1 htime with ⟨rfl, hlt⟩
      rw [← Option.some.inj heq]
      exact ⟨document, hlt, hj, hd⟩
    · simp at h
  · rintro ⟨document, hlt, rfl, hd⟩
    have htime : (Json.nat e.modified).below? timeBound = some e.modified :=
      Json.below?_eq_some_iff.2 ⟨rfl, hlt⟩
    have hitems : Source.value.items? (.array [.nat e.modified, document]) =
        some [.nat e.modified, document] := rfl
    simp [Entry.decode?, hitems, htime, hd]

theorem entries?_eq_some_iff {fields : Json.Fields} {entries : List (String × Entry)} :
    entries? fields = some entries ↔
      Keyed.Reads Entry.decode? (fields.filter fun f => f.1 != versionKey) entries := by
  have hread : ∀ (f : String × Json) (e : String × Entry),
      ((Entry.decode? f.2).bind fun x => some (f.1, x)) = some e ↔
        f.1 = e.1 ∧ Entry.decode? f.2 = some e.2 := by
    rintro ⟨key, j⟩ ⟨other, e⟩
    simp only [Option.bind_eq_some_iff, Option.some.injEq, Prod.mk.injEq]
    constructor
    · rintro ⟨x, hx, rfl, rfl⟩
      exact ⟨rfl, hx⟩
    · rintro ⟨rfl, hx⟩
      exact ⟨e, hx, rfl, rfl⟩
  rw [entries?, Keyed.mapM_eq_some_iff]
  simp only [Option.bind_eq_bind, hread]

/-- What is found among the fields of the entries. -/
theorem get?_entryFields (fields : List (String × Json)) (key : String) :
    Keyed.get? ((Json.Fields.ofList fields).filter fun f => f.1 != versionKey) key =
      if key = versionKey then none else Json.last? fields key := by
  rw [Json.Fields.ofList_eq, Keyed.get?_filter_ne, Keyed.get?_ofList]
  rfl

theorem sorted_entryFields (fields : List (String × Json)) :
    Keyed.Sorted ((Json.Fields.ofList fields).filter fun f => f.1 != versionKey) := by
  rw [Json.Fields.ofList_eq]
  exact (Keyed.sorted_ofList fields).filter _

theorem ofJson?_object {fields : Json.Fields} {table : Table} :
    ofJson? (.object fields) = some table ↔
      fields.get? versionKey = some (.nat formatVersion) ∧
        entries? fields = some table.entries := by
  have hbound : formatVersion < versionBound := by decide
  rw [ofJson?]
  simp only [Json.fields?, Option.bind_eq_bind, Option.bind_some, Option.bind_eq_some_iff,
    Json.below?_eq_some_iff]
  constructor
  · rintro ⟨j, hj, version, ⟨rfl, -⟩, h⟩
    split at h
    · rename_i hversion
      rcases Option.bind_eq_some_iff.1 h with ⟨entries, hentries, heq⟩
      rw [← Option.some.inj heq, ← beq_iff_eq.1 hversion]
      exact ⟨hj, hentries⟩
    · simp at h
  · rintro ⟨hversion, hentries⟩
    refine ⟨_, hversion, formatVersion, ⟨rfl, hbound⟩, ?_⟩
    rw [if_pos (beq_self_eq_true _), hentries]
    rfl

theorem mem_keys_iff_last? {fields : List (String × Json)} {key : String} :
    key ∈ fields.map (·.1) ↔ (Json.last? fields key).isSome = true := by
  rw [Json.last?, ← Keyed.mem_keys_iff, List.map_reverse, List.mem_reverse]

section

variable {fields : List (String × Json)} {table : Table}

/-- What is read from an object is spelled by its fields. -/
theorem spells_of_reads (hversion : Json.last? fields versionKey = some (.nat formatVersion))
    (h : Keyed.Reads Entry.decode?
      ((Json.Fields.ofList fields).filter fun f => f.1 != versionKey) table.entries) :
    Spells fields table := by
  have hsorted := (sorted_entryFields fields).of_reads h
  refine ⟨hsorted, hversion, fun key => ?_, fun e he => ?_⟩
  · rw [h.keys, Keyed.mem_keys_iff, get?_entryFields, mem_keys_iff_last?]
    by_cases hkey : key = versionKey <;> simp [hkey]
  · have hget := h.get? e.1
    rw [hsorted.get?_eq_some_iff.2 he, get?_entryFields] at hget
    rcases Option.bind_eq_some_iff.1 hget.symm with ⟨j, hj, hdecode⟩
    rcases decode?_eq_some_iff.1 hdecode with ⟨document, hlt, rfl, hd⟩
    split at hj
    · simp at hj
    · exact ⟨document, hlt, hj, hd⟩

namespace Spells

variable (h : Spells fields table)
include h

/-- The field that an entry stands for. -/
theorem last?_of_get? {key : String} {e : Entry} (he : Keyed.get? table.entries key = some e) :
    key ≠ versionKey ∧ ∃ j, Json.last? fields key = some j ∧ Entry.decode? j = some e := by
  have hkey : key ∈ table.entries.map (·.1) := Keyed.mem_keys_iff.2 (by rw [he]; rfl)
  rcases h.entries _ (Keyed.mem_of_get? he) with ⟨document, hlt, hlast, hd⟩
  exact ⟨((h.keys key).1 hkey).1, _, hlast, decode?_eq_some_iff.2 ⟨document, hlt, rfl, hd⟩⟩

/-- The entry that a field stands for. -/
theorem get?_of_last? {key : String} {j : Json} (hkey : key ≠ versionKey)
    (hj : Json.last? fields key = some j) :
    ∃ e, Keyed.get? table.entries key = some e ∧ Entry.decode? j = some e := by
  have hin : key ∈ fields.map (·.1) := mem_keys_iff_last?.2 (by rw [hj]; rfl)
  rcases Option.isSome_iff_exists.1 (Keyed.mem_keys_iff.1 ((h.keys key).2 ⟨hkey, hin⟩)) with ⟨e, he⟩
  rcases h.last?_of_get? he with ⟨-, j', hj', hdecode⟩
  rw [hj] at hj'
  exact ⟨e, he, Option.some.inj hj' ▸ hdecode⟩

theorem get?_eq (key : String) : Keyed.get? table.entries key =
    (if key = versionKey then none else Json.last? fields key).bind Entry.decode? := by
  cases he : Keyed.get? table.entries key with
  | some e =>
      rcases h.last?_of_get? he with ⟨hkey, j, hj, hdecode⟩
      rw [if_neg hkey, hj]
      exact hdecode.symm
  | none =>
      by_cases hkey : key = versionKey
      · rw [if_pos hkey]
        rfl
      · cases hj : Json.last? fields key with
        | none => simp
        | some j =>
            rcases h.get?_of_last? hkey hj with ⟨e, hsome, -⟩
            rw [he] at hsome
            simp at hsome

theorem reads : Keyed.Reads Entry.decode?
    ((Json.Fields.ofList fields).filter fun f => f.1 != versionKey) table.entries := by
  have hall : ∀ f ∈ (Json.Fields.ofList fields).filter (fun f => f.1 != versionKey),
      (Entry.decode? f.2).isSome = true := by
    intro f hf
    have hget := (sorted_entryFields fields).get?_eq_some_iff.2 hf
    rw [get?_entryFields] at hget
    split at hget
    · simp at hget
    · rename_i hkey
      rcases h.get?_of_last? hkey hget with ⟨e, -, hdecode⟩
      rw [hdecode]
      rfl
  -- What is read is sorted and has the entries of the table at each key, so it is the table.
  rcases Keyed.exists_reads hall with ⟨entries, hreads⟩
  have hsame : entries = table.entries := by
    refine Keyed.Sorted.ext ((sorted_entryFields fields).of_reads hreads) h.sorted fun key => ?_
    rw [hreads.get?, get?_entryFields, h.get?_eq]
  exact hsame ▸ hreads

end Spells

/-- A table is read from an object exactly if its fields spell the table. -/
theorem ofJson?_eq_some_iff :
    ofJson? (.object (Json.Fields.ofList fields)) = some table ↔ Spells fields table := by
  have hversion : Json.Fields.get? (Json.Fields.ofList fields) versionKey =
      Json.last? fields versionKey := by
    rw [Json.Fields.get?_eq, Json.Fields.ofList_eq, Keyed.get?_ofList]
    rfl
  rw [ofJson?_object, hversion, entries?_eq_some_iff]
  exact ⟨fun h => spells_of_reads h.1 h.2, fun h => ⟨h.version, h.reads⟩⟩

end

/-! ## What is loaded -/

/-- The fields that a file spells, if there is a file, in UTF-8, with the text of an object. -/
def fieldsIn? (t : FileTree) (p : Path) : Option (List (String × Json)) :=
  match t.read p with
  | .error _ => none
  | .ok bytes => (String.fromUTF8? bytes).bind Json.spelled?

theorem load_eq (t : FileTree) (p : Path) : load t p =
    ((fieldsIn? t p).bind fun fields =>
      ofJson? (.object (Json.Fields.ofList fields))).getD empty := by
  -- A file that cannot be read, is not text, or is not an object comes to the empty table alike.
  have hobject : ∀ j : Json, j.fields? = none → ofJson? j = none := by
    intro j hj
    rw [ofJson?, hj]
    rfl
  unfold load fieldsIn? FileTree.readText
  cases t.read p with
  | error cause => rfl
  | ok bytes =>
      cases htext : String.fromUTF8? bytes with
      | none => simp [htext, bind, Except.bind]
      | some s => simp [htext, bind, Except.bind, Json.bind_read? hobject]

/-- What a file spells is loaded, and nothing is if it spells no table. -/
theorem load_cases (t : FileTree) (p : Path) :
    (∃ fields, fieldsIn? t p = some fields ∧ Spells fields (load t p)) ∨
      (load t p = empty ∧
        ∀ fields table, fieldsIn? t p = some fields → ¬ Spells fields table) := by
  rw [load_eq]
  cases hfields : fieldsIn? t p with
  | none => exact .inr ⟨rfl, fun fields table h => absurd h (by simp)⟩
  | some fields =>
      simp only [Option.bind_some, Option.some.injEq]
      cases hread : ofJson? (.object (Json.Fields.ofList fields)) with
      | some table => exact .inl ⟨fields, rfl, ofJson?_eq_some_iff.1 hread⟩
      | none =>
          refine .inr ⟨rfl, ?_⟩
          rintro fields' table rfl hspells
          rw [ofJson?_eq_some_iff.2 hspells] at hread
          simp at hread

/-! ## What is loaded can be saved -/

/-- What is known of an entry that was loaded. -/
structure IsLoadedEntry (key : String) (e : Entry) : Prop where
  key_ne : key ≠ versionKey
  modified_lt : e.modified < timeBound
  document : e.document.IsSound
  depth_le : e.document.toJson.depth + 2 ≤ Json.maxLevels

/-- The document of an entry stands two levels down, so it has two levels left when it is
written. -/
theorem Spells.isLoadedEntry {fields : List (String × Json)} {table : Table}
    (h : Spells fields table) (hordered : (Json.object (Json.Fields.ofList fields)).IsOrdered)
    (hdepth : (Json.object (Json.Fields.ofList fields)).depth ≤ Json.maxLevels) :
    ∀ e ∈ table.entries, IsLoadedEntry e.1 e.2 := by
  intro e he
  rcases h.entries e he with ⟨document, hlt, hlast, hd⟩
  have hkey := ((h.keys e.1).1 (List.mem_map_of_mem he)).1
  have hmem : (e.1, Json.array [.nat e.2.modified, document]) ∈ Json.Fields.ofList fields := by
    refine Keyed.mem_of_get? ?_
    rw [Json.Fields.ofList_eq, Keyed.get?_ofList]
    exact hlast
  have hitems := (Json.areOrderedFields_iff _).1 hordered.2 _ hmem
  have hlevels : Json.maxLevels = 125 + 1 + 1 := rfl
  rw [hlevels, Json.depth_object_le_iff] at hdepth
  have hdocument := Json.depth_array_le_iff.1 (hdepth _ hmem) document (by simp)
  have hwritten := Document.depth_toJson_le hd
  refine ⟨hkey, hlt, Document.ofJson?_sound hitems.2.1 hd, ?_⟩
  omega

theorem sound_of_fieldsIn? {t : FileTree} {p : Path} {fields : List (String × Json)}
    (h : fieldsIn? t p = some fields) :
    (Json.object (Json.Fields.ofList fields)).IsOrdered ∧
      (Json.object (Json.Fields.ofList fields)).depth ≤ Json.maxLevels := by
  unfold fieldsIn? at h
  split at h
  · simp at h
  · rcases Option.bind_eq_some_iff.1 h with ⟨s, -, hs⟩
    exact Json.sound_of_spelled? hs

theorem load_sound (t : FileTree) (p : Path) : Keyed.Sorted (load t p).entries ∧
    ∀ e ∈ (load t p).entries, IsLoadedEntry e.1 e.2 := by
  rcases load_cases t p with ⟨fields, hfields, hspells⟩ | ⟨hempty, -⟩
  · rcases sound_of_fieldsIn? hfields with ⟨hordered, hdepth⟩
    exact ⟨hspells.sorted, hspells.isLoadedEntry hordered hdepth⟩
  · rw [hempty]
    exact ⟨List.Pairwise.nil, fun e he => absurd he List.not_mem_nil⟩

/-- Whatever a cache file holds, the table that is loaded has the current version, and is the one
that the fields of the file spell, or empty if they spell none. A loaded table whose free-form
numbers are integers of 64 bits is the same when it is saved anywhere and loaded again. -/
theorem load_all_or_nothing (t : FileTree) (p : Path) :
    (load t p).toJson.field? versionKey = some (.nat formatVersion) ∧
    ((∃ fields, fieldsIn? t p = some fields ∧ Spells fields (load t p)) ∨
      (load t p = empty ∧
        ∀ fields table, fieldsIn? t p = some fields → ¬ Spells fields table)) ∧
    ((∀ e ∈ (load t p).entries, ∀ j ∈ e.2.document.freeForm, j.IsWhole) →
      ∀ (q : Path) (t₁ t₂ : FileTree), ((load t p).save q).on t₁ = (.ok (), t₂) →
        load t₂ q = load t p) := by
  refine ⟨rfl, load_cases t p, fun hwhole q t₁ t₂ hsave => ?_⟩
  rcases load_sound t p with ⟨hsorted, hloaded⟩
  have hsound : ∀ e ∈ (load t p).entries, IsSoundEntry e.2 := fun e he =>
    ⟨(hloaded e he).modified_lt, (hloaded e he).document, hwhole e he⟩
  have hkept : (load t p).IsKept := fun e he => ⟨(hloaded e he).key_ne, (hloaded e he).depth_le⟩
  rw [load_of_save hsorted hsound hsave, if_pos hkept]

/-- A tree with one file. -/
def filed (text : String) : FileTree := ⟨⟨"/"⟩, 0, [(["c"], .file ⟨text.toUTF8, false, false, 0⟩)]⟩

theorem fieldsIn?_filed (text : String) : fieldsIn? (filed text) ⟨"/c"⟩ = Json.spelled? text := by
  have hread : (filed text).read ⟨"/c"⟩ = .ok text.toUTF8 := rfl
  simp only [fieldsIn?, hread, FileTree.fromUTF8?_toUTF8, Option.bind_some]

theorem eq_empty_iff {table : Table} : table = empty ↔ table.entries.length = 0 := by
  cases table
  simp [empty]

/-- The version and a key are repeated, and records stand as arrays. -/
def repeated : String :=
  "\x7b\"formatVersion\":0,\"a.py\":0,\"b.py\":[5,[]],\"a.py\":[7,[null,[[\"A\",\"\",3]]]]" ++
    ",\"formatVersion\":1\x7d"

/-- One of two entries has no time. -/
def broken : String :=
  "\x7b\"formatVersion\":1,\"a.py\":[7,\x7b\x7d],\"b.py\":[null,\x7b\x7d]\x7d"

theorem load_all_or_nothing_repeated :
    (load (filed repeated) ⟨"/c"⟩).entries.map
      (fun e => (e.1, e.2.modified, e.2.document.classes.map (·.name)))
      = [("a.py", 7, ["A"]), ("b.py", 5, [])] ∧
    (∃ fields, fieldsIn? (filed repeated) ⟨"/c"⟩ = some fields ∧ fields.length = 5 ∧
      Spells fields (load (filed repeated) ⟨"/c"⟩)) ∧
    load (((load (filed repeated) ⟨"/c"⟩).save place).on disk).2 place =
      load (filed repeated) ⟨"/c"⟩ ∧
    load (filed broken) ⟨"/c"⟩ = empty := by
  have hentries : (load (filed repeated) ⟨"/c"⟩).entries.map
      (fun e => (e.1, e.2.modified, e.2.document.classes.map (·.name))) =
      [("a.py", 7, ["A"]), ("b.py", 5, [])] := by
    rw [load_eq, fieldsIn?_filed]
    decide +kernel
  have hwhole : ∀ e ∈ (load (filed repeated) ⟨"/c"⟩).entries,
      ∀ j ∈ e.2.document.freeForm, j.IsWhole := by
    rw [load_eq, fieldsIn?_filed]
    decide +kernel
  have hlength : (fieldsIn? (filed repeated) ⟨"/c"⟩).map (·.length) = some 5 := by
    rw [fieldsIn?_filed]
    decide +kernel
  have hbroken : (load (filed broken) ⟨"/c"⟩).entries.length = 0 := by
    rw [load_eq, fieldsIn?_filed]
    decide +kernel
  -- What holds of every load, with the entries that this one comes to.
  rcases load_all_or_nothing (filed repeated) ⟨"/c"⟩ with ⟨-, hfields, hagain⟩
  refine ⟨hentries, ?_, hagain hwhole _ _ _ (save_on_disk _), eq_empty_iff.2 hbroken⟩
  rcases hfields with ⟨fields, hfields, hspells⟩ | ⟨hempty, -⟩
  · rw [hfields] at hlength
    exact ⟨fields, hfields, Option.some.inj hlength, hspells⟩
  · have hnone := eq_empty_iff.1 hempty
    rw [← List.length_map, hentries] at hnone
    simp at hnone

end Table
end Cache
end Testbench
