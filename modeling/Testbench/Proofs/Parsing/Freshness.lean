import Testbench.Proofs.Cache.Table
import Testbench.Proofs.Parsing.Activity

/-!
# Freshness — a cached document is as new as its file

An entry of a table was put there by a call that had read the time of its file before the run that
printed the document. So when a later call finds the entry under the time that it reads itself, the
file has not been edited since. Nothing is asked of the order in which calls, flushes, evictions and
edits come.

- `Entry.Edits`, `Advancing` : edits, each of which gives a later time;
- `Entry.Harmless`  : what is written is read back, or nothing is;
- `Backed`          : the invariant, where the entries of a table come from;
- `Trace.backed`, `Trace.fetched_of_cached` : it holds after every run, and what it says of a hit;
- `Reached.answered_fresh` : where the document of an answer comes from.
-/

namespace Testbench

open Cache (Table Slot Store onFiles)
open Outline (Document)
open Parsing (Found)
open ProjectFiles (IsAddress modifiedMillis)
open Testbench.Task (Ran Steps)

namespace Cache

theorem Table.exists_of_get? {table : Table} {key : String} {modified : Nat} {d : Document}
    (h : table.get? key modified = some d) : (key, ⟨modified, d⟩) ∈ table.entries := by
  simp only [Table.get?, Option.map_eq_some_iff, Option.filter_eq_some_iff] at h
  rcases h with ⟨e, ⟨hfound, htime⟩, rfl⟩
  rw [Table.find?_eq] at hfound
  rw [← beq_iff_eq.1 htime]
  exact Keyed.mem_of_get? hfound

/-- A document that is found is that of a slot of the folder. -/
theorem Store.exists_of_lookup {δ : Type} {v : Vault δ} {s : Store} {disk : δ} {root : Path}
    {key : String} {modified : Nat} {d : Document}
    (h : (s.lookup v disk root key modified).1 = some d) :
    ∃ slot ∈ (s.open? v disk root).slots, slot.root.same root = true ∧
      (key, ⟨modified, d⟩) ∈ slot.table.entries := by
  rcases Option.bind_eq_some_iff.1 h with ⟨slot, hslot, hget⟩
  exact ⟨slot, Store.mem_of_slot? hslot, Store.root_of_slot? hslot, Table.exists_of_get? hget⟩

end Cache

namespace Activity

/-! ## Edits -/

/-- An entry changes what is read from a file, or its time. -/
def Entry.Edits (e : Entry) (file : Path) : Prop :=
  e.after.files.read file ≠ e.before.files.read file ∨
    modifiedMillis e.after.files file ≠ modifiedMillis e.before.files file

/-- Every edit gives the file a later time than it ever had before. -/
def Advancing (log : List Entry) (file : Path) : Prop :=
  ∀ (i j : Nat) (e e' : Entry) (old new : Nat), log[i]? = some e → log[j]? = some e' → i ≤ j →
    e'.Edits file → modifiedMillis e.before.files file = .ok old →
      modifiedMillis e'.after.files file = .ok new → old < new

/-- A file is not edited from one point of the log up to another. -/
def Unedited (log : List Entry) (file : Path) (j k : Nat) : Prop :=
  ∀ n e, log[n]? = some e → j ≤ n → n < k → ¬ e.Edits file

theorem Entry.modified_of_not_edits {e : Entry} {file : Path} (h : ¬ e.Edits file) :
    modifiedMillis e.after.files file = modifiedMillis e.before.files file := by
  by_contra hne
  exact h (Or.inr hne)

theorem unedited_self (log : List Entry) (file : Path) (k : Nat) : Unedited log file k k :=
  fun _ _ _ hle hlt => absurd hlt (Nat.not_lt.2 hle)

/-- One entry more, before the others. -/
theorem Unedited.cons {log : List Entry} {file : Path} {j k : Nat} {e : Entry}
    (h : Unedited log file (j + 1) k) (he : log[j]? = some e) (hedits : ¬ e.Edits file) :
    Unedited log file j k := by
  intro n e' hn hle hlt
  rcases Nat.eq_or_lt_of_le hle with heq | hgt
  · rw [← heq, he] at hn
    rw [← Option.some.inj hn]
    exact hedits
  · exact h n e' hn hgt hlt

/-- A file that has the same time at two points was not edited in between. -/
theorem unedited_of_time {w w' : World} {log : List Entry} {file : Path} (hlog : Follows w log w')
    (hedits : Advancing log file) {j k time : Nat} {e e' : Entry} (hjk : j ≤ k)
    (he : log[j]? = some e) (he' : log[k]? = some e')
    (htime : modifiedMillis e.before.files file = .ok time)
    (htime' : modifiedMillis e'.before.files file = .ok time) : Unedited log file j k := by
  -- Backwards from the later point: up to there the time is the same and nothing was edited.
  have hlast : Unedited log file k k ∧
      ∃ e'', log[k]? = some e'' ∧ modifiedMillis e''.before.files file = .ok time :=
    ⟨unedited_self log file k, e', he', htime'⟩
  refine (Nat.decreasingInduction' (P := fun n => Unedited log file n k ∧
    ∃ e'', log[n]? = some e'' ∧ modifiedMillis e''.before.files file = .ok time) ?_ hjk hlast).1
  intro n hn hle hnext
  rcases hnext with ⟨hlater, next, hnext, hnexttime⟩
  have hlt : n < log.length := Nat.lt_trans hn (List.getElem?_eq_some_iff.1 he').1
  have hone : log[n]? = some log[n] := List.getElem?_eq_getElem hlt
  rw [hlog.next hone hnext] at hnexttime
  have hkept : ¬ (log[n]).Edits file := by
    intro hedit
    exact Nat.lt_irrefl _ (hedits j n e _ time time he hone hle hedit htime hnexttime)
  refine ⟨hlater.cons hone hkept, _, hone, ?_⟩
  rw [← Entry.modified_of_not_edits hkept]
  exact hnexttime

/-! ## Harmless entries -/

/-- A write of a folder's table has the folder read that table back, or nothing. What is read for
another folder stays the same, unless it becomes nothing; and so it is with all that is no write. -/
structure Entry.Harmless (roots : Path → Prop) (e : Entry) : Prop where
  writes : ∀ w ∈ e.writes, ∀ r, roots r →
    onFiles.load w.after r = onFiles.load w.before r ∨ onFiles.load w.after r = .empty ∨
      w.root.same r = true ∧ onFiles.load w.after r = w.table
  rest : ∀ r, roots r →
    onFiles.load e.after.files r = onFiles.load (Store.diskAfter e.before.files e.writes) r ∨
      onFiles.load e.after.files r = .empty

/-- What is written was in memory. -/
theorem Entry.exists_of_mem_writes {e : Entry} {w : Cache.Write FileTree} (h : w ∈ e.writes) :
    ∃ slot ∈ e.before.cache.slots, slot.root = w.root ∧ slot.table = w.table := by
  have hmemory : ∀ {s : Store} {d : FileTree} {chosen : Path → Bool},
      w ∈ s.writes onFiles d chosen →
        ∃ slot ∈ s.slots, slot.root = w.root ∧ slot.table = w.table := by
    intro s d chosen hw
    rcases Store.exists_of_mem_writes hw with ⟨slot, hslot, _, _, hroot, htable⟩
    exact ⟨slot, hslot, hroot, htable⟩
  cases e with
  | ran i r => simp [Entry.writes] at h
  | flush w' => exact hmemory h
  | flushRoot w' root => exact hmemory h
  | evict w' root => exact hmemory h
  | other w' w'' => simp [Entry.writes] at h

/-- A deed brings no new tables into memory. -/
theorem Entry.IsDeed.exists_of_mem {e : Entry} (h : e.IsDeed) {slot : Slot}
    (hslot : slot ∈ e.after.cache.slots) :
    ∃ old ∈ e.before.cache.slots, old.root = slot.root ∧ old.table = slot.table := by
  cases e with
  | ran i r => exact h.elim
  | flush w =>
      rw [Entry.after_flush] at hslot
      exact Store.exists_of_mem_flush hslot
  | flushRoot w root =>
      rw [Entry.after_flushRoot] at hslot
      exact Store.exists_of_mem_flush hslot
  | evict w root =>
      rw [Entry.after_evict] at hslot
      exact Store.exists_of_mem_flush (List.mem_filter.1 hslot).1
  | other w w' =>
      have hsame : w'.cache = w.cache := h
      have hold : slot ∈ w.cache.slots := by
        rw [← hsame]
        exact hslot
      exact ⟨slot, hold, rfl, rfl⟩

/-- What all writes of an entry preserve holds after them. -/
theorem Entry.diskAfter_induction {e : Entry} {P : FileTree → Prop} (h : P e.before.files)
    (hstep : ∀ w ∈ e.writes, P w.before → P w.after) :
    P (Store.diskAfter e.before.files e.writes) := by
  cases e with
  | ran i r => exact h
  | flush w => exact Store.diskAfter_induction h hstep
  | flushRoot w root => exact Store.diskAfter_induction h hstep
  | evict w root => exact Store.diskAfter_induction h hstep
  | other w w' => exact h

/-! ## Where entries come from -/

/-- Every entry of a table was fetched for the file of its key, under the time it carries. -/
def Backed (log : List Entry) (r : Path) (table : Table) : Prop :=
  ∀ f ∈ table.entries, ∃ file root k j call, file.IsNormal ∧ root.same r = true ∧
    IsAddress file root f.1 ∧ Fetched log k j call file root f.1 f.2.modified f.2.document

theorem Backed.mono {log more : List Entry} {r : Path} {table : Table} (h : Backed log r table)
    (hmore : log <+: more) : Backed more r table := by
  intro f hf
  rcases h f hf with ⟨file, root, k, j, call, hnormal, hsame, haddress, hfetched⟩
  exact ⟨file, root, k, j, call, hnormal, hsame, haddress, hfetched.mono hmore⟩

theorem Backed.congr {log : List Entry} {r r' : Path} {table : Table} (h : Backed log r table)
    (hr : r.same r' = true) : Backed log r' table := by
  intro f hf
  rcases h f hf with ⟨file, root, k, j, call, hnormal, hsame, haddress, hfetched⟩
  exact ⟨file, root, k, j, call, hnormal, Path.same_trans hsame hr, haddress, hfetched⟩

theorem Backed.empty (log : List Entry) (r : Path) : Backed log r .empty := by
  intro f hf
  simp [Table.empty] at hf

theorem Backed.insert {log : List Entry} {r file root : Path} {key : String} {modified : Nat}
    {d : Document} {table : Table} (h : Backed log r table) (hnormal : file.IsNormal)
    (hsame : root.same r = true) (haddress : IsAddress file root key) {k j call : Nat}
    (hfetched : Fetched log k j call file root key modified d) :
    Backed log r (table.insert key modified d) := by
  intro f hf
  rw [Table.insert, Table.insertEntry_eq] at hf
  rcases Keyed.mem_insert hf with heq | hold
  · rw [heq]
    exact ⟨file, root, k, j, call, hnormal, hsame, haddress, hfetched⟩
  · exact h f hold

/-- Every table in memory is backed, and so is every table that can be loaded. -/
structure IsBacked (roots : Path → Prop) (log : List Entry) (w : World) : Prop where
  memory : ∀ slot ∈ w.cache.slots, Backed log slot.root slot.table
  disk : ∀ r, roots r → Backed log r (onFiles.load w.files r)

section

variable {files roots : Path → Prop} {w₀ w : World} {log : List Entry}

/-- Opening a folder brings a table into memory that could be loaded. -/
theorem IsBacked.open? (h : IsBacked roots log w) {root : Path} (hroot : roots root) :
    ∀ slot ∈ (w.cache.open? onFiles w.files root).slots, Backed log slot.root slot.table := by
  intro slot hslot
  rcases Store.mem_open? hslot with hold | hnew
  · exact h.memory slot hold
  · have hslotroot : slot.root = root := by rw [hnew]
    have htable : slot.table = onFiles.load w.files root := by rw [hnew]
    rw [hslotroot, htable]
    exact h.disk root hroot

/-- Tables stay backed on the disk, whatever is done harmlessly. -/
theorem IsBacked.load {e : Entry} (h : IsBacked roots log e.before)
    (hharmless : e.Harmless roots) {r : Path} (hr : roots r) :
    Backed log r (onFiles.load e.after.files r) := by
  have hwritten : Backed log r
      (onFiles.load (Store.diskAfter e.before.files e.writes) r) := by
    -- Write by write: each is read back from memory, which is backed, or as nothing.
    refine Entry.diskAfter_induction (P := fun t => Backed log r (onFiles.load t r)) ?_ ?_
    · exact h.disk r hr
    · intro write hwrite hold
      rcases hharmless.writes write hwrite r hr with hsame | hnone | ⟨hroot, hback⟩
      · rw [hsame]
        exact hold
      · rw [hnone]
        exact Backed.empty log r
      · rcases Entry.exists_of_mem_writes hwrite with ⟨slot, hslot, hslotroot, htable⟩
        have hmemory := h.memory slot hslot
        rw [hslotroot, htable] at hmemory
        rw [hback]
        exact hmemory.congr hroot
  rcases hharmless.rest r hr with hsame | hnone
  · rw [hsame]
    exact hwritten
  · rw [hnone]
    exact Backed.empty log r

/-- What a call does at the address of its file keeps all tables backed. -/
theorem IsBacked.ran {i : Nat} {file : Path} {r : Ran World} (h : IsBacked roots log r.before)
    (hnormal : file.IsNormal)
    (hroots : ∀ root key, Addressed log file root key → roots root)
    (hallowed : Allowed i file log r)
    (hharmless : (Entry.ran i r).Harmless roots) :
    IsBacked roots (log ++ [.ran i r]) r.after := by
  have hlog := List.prefix_append log [.ran i r]
  refine ⟨?_, ?_⟩
  · intro slot hslot
    rcases hallowed.cache_cases with hquiet | ⟨root, key, haddress, hafter⟩ |
      ⟨k, j, root, key, modified, d, haddress, hfetched, hafter⟩
    · rw [hquiet] at hslot
      exact (h.memory slot hslot).mono hlog
    · rw [hafter] at hslot
      exact (h.open? (hroots root key haddress) slot hslot).mono hlog
    · rw [hafter] at hslot
      rcases List.mem_map.1 hslot with ⟨old, hold, rfl⟩
      have hbacked := h.open? (hroots root key haddress) old hold
      by_cases hroot : old.root.same root = true
      · -- The document was fetched for the file whose address it is kept under.
        rw [if_pos hroot]
        refine Backed.mono ?_ hlog
        rcases haddress with ⟨e, _, hin⟩
        exact hbacked.insert hnormal (Path.same_symm hroot) hin.isAddress hfetched
      · rw [if_neg hroot]
        exact hbacked.mono hlog
  · intro root hroot
    exact (IsBacked.load (e := .ran i r) h hharmless hroot).mono hlog

/-- The tables stay backed whatever is done, in whatever order. -/
theorem Trace.isBacked (h : Trace files w₀ log w) (hnormal : ∀ file, files file → file.IsNormal)
    (hroots : ∀ file root key, files file → Addressed log file root key → roots root)
    (hharmless : ∀ e ∈ log, e.Harmless roots) (hstart : IsBacked roots [] w₀) :
    IsBacked roots log w := by
  induction h with
  | start => exact hstart
  | @ran log i file r hold hfile hallowed ih =>
      have hlog := List.prefix_append log [.ran i r]
      have hbacked := ih (fun file root key hf ha => hroots file root key hf (ha.mono hlog))
        fun e he => hharmless e (hlog.subset he)
      exact hbacked.ran (hnormal file hfile)
        (fun root key ha => hroots file root key hfile (ha.mono hlog)) hallowed
        (hharmless _ (List.mem_append_right _ (List.mem_singleton_self _)))
  | @deed log e hold hdeed ih =>
      have hlog := List.prefix_append log [e]
      have hbacked := ih (fun file root key hf ha => hroots file root key hf (ha.mono hlog))
        fun e he => hharmless e (hlog.subset he)
      refine ⟨?_, ?_⟩
      · intro slot hslot
        -- A deed puts nothing into memory.
        rcases hdeed.exists_of_mem hslot with ⟨old, hmem, hroot, htable⟩
        have hmemory := hbacked.memory old hmem
        rw [hroot, htable] at hmemory
        exact hmemory.mono hlog
      · intro root hroot
        exact (hbacked.load (hharmless e (List.mem_append_right _ (List.mem_singleton_self _)))
          hroot).mono hlog

/-- A document that is found was fetched for the same file, under the time that the file has. -/
theorem Trace.fetched_of_cached (h : Trace files w₀ log w)
    (hnormal : ∀ file, files file → file.IsNormal)
    (hroots : ∀ file root key, files file → Addressed log file root key → roots root)
    (hharmless : ∀ e ∈ log, e.Harmless roots) (hstart : IsBacked roots [] w₀)
    {k call : Nat} {file root : Path} {key : String} {d : Document} (hfile : files file)
    (haddress : Addressed log file root key) (hk : LookedUp log k call file root key (.cached d)) :
    ∃ k' j call' root' modified e, Fetched log k' j call' file root' key modified d ∧ j < k ∧
      log[k]? = some e ∧ modifiedMillis e.before.files file = .ok modified := by
  rcases hk with ⟨w', he, hfound⟩
  rcases of_lookUp_cached hfound with ⟨modified, htime, hlookup⟩
  have hpast : log.take k <+: log := List.take_prefix k log
  have hbacked : IsBacked roots (log.take k) w' := by
    refine (h.take he).isBacked hnormal ?_ ?_ hstart
    · intro file root key hf ha
      exact hroots file root key hf (ha.mono hpast)
    · intro e he
      exact hharmless e (hpast.subset he)
  rcases Store.exists_of_lookup hlookup with ⟨slot, hslot, hsame, hentry⟩
  rcases hbacked.open? (hroots file root key hfile haddress) slot hslot _ hentry with
    ⟨file', root', k', j, call', hnormal', hsame', haddress', hfetched⟩
  -- The address that it was kept under is that of one file only.
  have hfile' : file' = file := by
    rcases haddress with ⟨e, _, hin⟩
    have hroot' := haddress'.root_isNormal hnormal'
    have hroot := hin.isAddress.root_isNormal (hnormal file hfile)
    have heq : root' = root :=
      hroot'.eq_of_same hroot (Path.same_iff.1 (Path.same_trans hsame' hsame))
    rw [heq] at haddress'
    exact haddress'.file_eq hnormal' (hnormal file hfile) hin.isAddress
  rw [hfile'] at hfetched
  have horder : j < k := by
    rcases hfetched.2.2 with ⟨_, _, _, hj, _⟩
    have hlt := (List.getElem?_eq_some_iff.1 hj).1
    rw [List.length_take] at hlt
    omega
  exact ⟨k', j, call', root', modified, _, hfetched.mono hpast, horder, he, htime⟩

end

/-! ## Answers -/

/-- Starting without entries, a document from the cache was printed by a run for the same file that
was started after the last edit, and a document that a call had printed itself comes from a run that
was started after the call had read the time under which it kept it. -/
theorem Reached.answered_fresh {w₀ : World} {x : Activity} (h : Reached w₀ x)
    (hmemory : ∀ slot ∈ w₀.cache.slots, slot.table = .empty)
    (hdisk : ∀ root, x.IsRoot root → onFiles.load w₀.files root = .empty)
    (hharmless : ∀ e ∈ x.log, e.Harmless x.IsRoot)
    (hedits : ∀ file, asked x file → Advancing x.log file)
    {i : Nat} {file : Path} {p : Parser} {d : Document}
    (hc : x.calls[i]? = some ⟨file, Option Document, .parse p, .done (some d)⟩) :
    (∃ k root key, LookedUp x.log k i file root key (.cached d) ∧
      ∃ j call, j < k ∧ Launched x.log j call file d ∧ Unedited x.log file j k) ∨
    (∃ k j l root key modified, LookedUp x.log k i file root key (.missing modified) ∧ k < j ∧
      Launched x.log j i file d ∧ j < l ∧ Kept x.log l i file root key modified d) := by
  have hasked : asked x file := ⟨_, List.mem_of_getElem? hc, rfl⟩
  have hpost := (h.obeys hc).2 x.log List.prefix_rfl d rfl
  rcases hpost with ⟨root, key, haddress, ⟨k, hk⟩ | ⟨k, j, l, modified, hf, hjl, hl⟩⟩
  · have hstart : IsBacked x.IsRoot [] w₀ := by
      refine ⟨?_, ?_⟩
      · intro slot hslot
        rw [hmemory slot hslot]
        exact Backed.empty [] slot.root
      · intro root hroot
        rw [hdisk root hroot]
        exact Backed.empty [] root
    have hroots : ∀ file root key, asked x file → Addressed x.log file root key → x.IsRoot root :=
      fun file root key hf ha => ⟨file, key, hf, ha⟩
    rcases h.trace.fetched_of_cached (fun f hf => h.asked_isNormal hf) hroots hharmless hstart
      hasked haddress hk with
      ⟨k', j, call', root', modified, e, hfetched, hjk, he, htime⟩
    refine Or.inl ⟨k, root, key, hk, j, call', hjk, hfetched.2.2, ?_⟩
    -- The file had its time when the run's call looked, and has it still.
    rcases hfetched.2.1 with ⟨w, he', hmissing⟩
    have hbetween : Unedited x.log file k' k :=
      unedited_of_time h.trace.follows (hedits file hasked) (Nat.le_of_lt (hfetched.1.trans hjk))
        he' he (time_of_lookUp_missing hmissing) htime
    intro n e'' hn hle hlt
    exact hbetween n e'' hn (Nat.le_trans (Nat.le_of_lt hfetched.1) hle) hlt
  · exact Or.inr ⟨k, j, l, root, key, modified, hf.2.1, hf.1, hf.2.2, hjl, hl⟩

/-! ## Two folders with one cache file -/

/-- Two folders with files; the settings of the right one are a link to those of the left one. -/
def twins : FileTree where
  cwd := ⟨"/left"⟩
  now := 7000000
  nodes :=
    [(["left"], .dir), (["left", ".vscode"], .dir),
      (["left", "t.py"], .file ⟨⟨#[]⟩, false, false, 7000000⟩), (["right"], .dir),
      (["right", ".vscode"], .link ⟨"/left/.vscode"⟩),
      (["right", "t.py"], .file ⟨⟨#[]⟩, false, false, 7000000⟩),
      (["right", "u.py"], .file ⟨⟨#[]⟩, false, false, 7000000⟩)]

def table : Table := Table.empty.insert "t.py" 7 Table.plain

/-- The tree once the table is written. -/
def filed : FileTree := ((table.save (Cache.fileOf ⟨"/left"⟩)).on twins).2

theorem save_table : (table.save (Cache.fileOf ⟨"/left"⟩)).on twins = (.ok (), filed) := by
  have hsaved : ((table.save (Cache.fileOf ⟨"/left"⟩)).on twins).1 = .ok () := rfl
  rw [filed, ← hsaved]

/-- A tree has a file, last changed at the seventh millisecond, at an address. -/
structure Placed (t : FileTree) (file root : Path) (key : String) : Prop where
  isFile : t.isFile file = true
  time : modifiedMillis t file = .ok 7
  address : Parsing.address? t file = some (root, key)

instance (t : FileTree) (file root : Path) (key : String) : Decidable (Placed t file root key) :=
  decidable_of_iff (t.isFile file = true ∧ modifiedMillis t file = .ok 7 ∧
      Parsing.address? t file = some (root, key))
    ⟨fun h => ⟨h.1, h.2.1, h.2.2⟩, fun h => ⟨h.isFile, h.time, h.address⟩⟩

theorem placed_twins : Placed twins ⟨"/left/t.py"⟩ ⟨"/left"⟩ "t.py" ∧
    Placed twins ⟨"/right/t.py"⟩ ⟨"/right"⟩ "t.py" ∧
    Placed twins ⟨"/right/u.py"⟩ ⟨"/right"⟩ "u.py" := by
  decide +kernel

theorem placed_filed : Placed filed ⟨"/left/t.py"⟩ ⟨"/left"⟩ "t.py" ∧
    Placed filed ⟨"/right/t.py"⟩ ⟨"/right"⟩ "t.py" := by
  decide +kernel

theorem load_left : onFiles.load filed ⟨"/left"⟩ = table := by
  have hkey : ProjectFiles.cacheKey? ⟨"/left"⟩ ⟨"/left/t.py"⟩ = some "t.py" :=
    (isAddressIn_of_address? placed_twins.1.address).2
  have hstored : Table.Stored table := Table.Stored.empty.insert (Table.storable_plain hkey)
  have hkept : table.IsKept := by decide +kernel
  rw [Cache.onFiles_load, Table.load_of_save hstored.sorted hstored.sound save_table, if_pos hkept]

theorem load_right : onFiles.load filed ⟨"/right"⟩ = table := by
  have hplaces : filed.location? (Cache.fileOf ⟨"/left"⟩) =
        some ["left", ".vscode", "python.cache"] ∧
      filed.location? (Cache.fileOf ⟨"/right"⟩) = some ["left", ".vscode", "python.cache"] := by
    decide +kernel
  rw [Cache.onFiles_load, Table.load_congr hplaces.2 hplaces.1, ← Cache.onFiles_load, load_left]

/-- A world where nothing goes on, once some tickets were drawn. -/
def resting (tickets : Nat) : World :=
  { World.start default default default default with nextTicket := tickets }

def parser : Parser := .fixed ⟨"py"⟩ ⟨"/s/outline.py"⟩ 0

/-- A call is in its turn, with the first ticket that was left. -/
def busy (tickets : Nat) : World := queued parser (resting tickets)

/-- A world on a tree, with tables in memory, in which some programs have been started already. -/
def stage (base : World) (files : FileTree) (slots : List Slot) (calls : List Invocation) : World :=
  { base with
    files := files
    runner := .script ⟨[("", .outcome Table.output)], [], calls⟩
    cache := ⟨slots⟩ }

theorem files_stage (base : World) (files : FileTree) (slots : List Slot)
    (calls : List Invocation) : (stage base files slots calls).files = files := rfl

theorem cache_stage (base : World) (files : FileTree) (slots : List Slot)
    (calls : List Invocation) : (stage base files slots calls).cache = ⟨slots⟩ := rfl

/-- Once the call has given up its turn, nobody is left. -/
theorem leave_stage (tickets : Nat) (files : FileTree) (slots : List Slot)
    (calls : List Invocation) :
    Parser.leave parser tickets (stage (busy tickets) files slots calls) =
      stage (resting (tickets + 1)) files slots calls := by
  have hturns : (Parser.leave parser tickets (busy tickets)).turns = (resting tickets).turns :=
    turns_leave_queued rfl
  have hleave : Parser.leave parser tickets (stage (busy tickets) files slots calls) =
      { stage (busy tickets) files slots calls with
        turns := (Parser.leave parser tickets (busy tickets)).turns } := rfl
  rw [hleave, hturns]
  rfl

/-- The run that prints the outline of the left file. -/
def printing : Invocation := .here "py" ["/s/outline.py", "/left/t.py"]

/-- A rule for the empty text is a rule for every command. -/
theorem choose?_empty {α : Type} (x : α) (command : String) :
    Script.choose? [("", x)] command = some x := by
  have hcontains : ∀ cs : List Char, Text.contains cs [] = true := by
    intro cs
    cases cs with
    | nil => rfl
    | cons c rest => simp [Text.contains]
  simp [Script.choose?, hcontains]

/-- With one rule for all, every program is started and answered alike. -/
theorem run_launch_answered {w : World} {o : Outcome} {delays : List (String × Option Nat)}
    {calls : List Invocation} (h : w.runner = .script ⟨[("", .outcome o)], delays, calls⟩)
    (i : Invocation) : (Work.launch i).run w =
      ((.ok o, Script.due ⟨[("", .outcome o)], delays, calls⟩ w.now i),
        { w with runner := .script ⟨[("", .outcome o)], delays, calls ++ [i]⟩ }) := by
  rw [run_launch, h]
  simp only [Script.reply, choose?_empty]
  rfl

/-- Every command is answered with the same outline. -/
theorem run_launch_stage (i : Invocation) (base : World) (files : FileTree) (slots : List Slot)
    (calls : List Invocation) : (Work.launch i).run (stage base files slots calls) =
      ((Table.printed, some base.now), stage base files slots (calls ++ [i])) := by
  have hrunner : (stage base files slots calls).runner =
      .script ⟨[("", .outcome Table.output)], [], calls⟩ := rfl
  rw [run_launch_answered hrunner]
  rfl

/-- What is done to parse a file whose folder is not open yet, as the only call. -/
def stageRuns (tickets : Nat) (slots : List Slot) (calls : List Invocation) (file root : Path)
    (key : String) : List (Ran World) :=
  let opened := slots ++ [⟨root, .empty, false⟩]
  let printed := calls ++ [.here "py" ["/s/outline.py", file.text]]
  turnRuns parser (stage (resting tickets) twins slots calls)
    (missRuns parser (stage (busy tickets) twins slots calls)
      (stage (busy tickets) twins opened calls)
        (stage (busy tickets) twins opened printed) file root
      key 7 (.parsed Table.plain))
    (stage (busy tickets) twins (slots ++ [⟨root, Table.empty.insert key 7 Table.plain, true⟩])
      printed)

section

variable {slots : List Slot} {calls : List Invocation} {file root : Path} {key : String}
  (htime : modifiedMillis twins file = .ok 7) (hload : onFiles.load twins root = .empty)
  (hnew : ∀ slot ∈ slots, slot.root.same root = false)
include hnew

theorem put_stage : Store.put onFiles ⟨slots ++ [⟨root, .empty, false⟩]⟩ twins root key 7
    Table.plain = ⟨slots ++ [⟨root, Table.empty.insert key 7 Table.plain, true⟩]⟩ := by
  have hself : root.same root = true := Path.same_refl root
  have hlast : Store.slot? ⟨slots ++ [⟨root, .empty, false⟩]⟩ root =
      some ⟨root, .empty, false⟩ := by
    have hnone : Store.slot? ⟨slots⟩ root = none := by
      simpa [Store.slot?] using hnew
    rw [Store.slot?_append, hnone]
    simp [Store.slot?, hself]
  have hothers : slots.map (fun slot => if slot.root.same root then
      { slot with table := slot.table.insert key 7 Table.plain, dirty := true } else slot) =
        slots := by
    calc
      _ = slots.map id := List.map_congr_left fun slot hslot => by simp [hnew slot hslot]
      _ = slots := List.map_id slots
  rw [Store.put, Store.open?, hlast]
  simp [Store.modify, hothers, hself]

include hload in
theorem open?_stage : Store.open? onFiles ⟨slots⟩ twins root =
    ⟨slots ++ [⟨root, .empty, false⟩]⟩ := by
  have hnone : Store.slot? ⟨slots⟩ root = none := by
    simpa [Store.slot?] using hnew
  rw [Store.open?, hnone, hload]

include htime hload in
theorem run_lookUp_stage (base : World) :
    (Parsing.lookUp root key file).run (stage base twins slots calls) =
      (.missing 7, stage base twins (slots ++ [⟨root, .empty, false⟩]) calls) := by
  have hnone : Store.slot? ⟨slots⟩ root = none := by
    simpa [Store.slot?] using hnew
  have hmiss : (Store.lookup onFiles ⟨slots⟩ twins root key 7).1 = none := by
    rw [Store.lookup_eq, Store.opened, hnone, Option.getD_none, hload]
    simp [Table.get?, Table.find?, Table.empty]
  have hfiles := files_stage base twins slots calls
  have hcache := cache_stage base twins slots calls
  have htime' : modifiedMillis (stage base twins slots calls).files file = .ok 7 := by
    rw [hfiles, htime]
  rw [run_lookUp_ok htime', hfiles, hcache, hmiss, open?_stage hload hnew]
  rfl

include htime hload in
theorem steps_stage (tickets : Nat)
    (haddress : Parsing.address? twins file = some (root, key)) :
    Steps (Parsing.parse parser file) (stage (resting tickets) twins slots calls)
      (stageRuns tickets slots calls file root key) (.done (some Table.plain))
      (stage (resting (tickets + 1)) twins
        (slots ++ [⟨root, Table.empty.insert key 7 Table.plain, true⟩])
        (calls ++ [.here "py" ["/s/outline.py", file.text]])) := by
  let opened := slots ++ [⟨root, Table.empty, false⟩]
  let printed := calls ++ [Invocation.here "py" ["/s/outline.py", file.text]]
  have hfound : (Parsing.lookUp root key file).run (stage (busy tickets) twins slots calls) =
      (.missing 7, stage (busy tickets) twins opened calls) :=
    run_lookUp_stage htime hload hnew (busy tickets)
  have hlaunch := run_launch_stage (.here "py" ["/s/outline.py", file.text]) (busy tickets) twins
    opened calls
  have hfetch : Steps (Parsing.fetch parser root key file) (stage (busy tickets) twins slots calls)
      (missRuns parser (stage (busy tickets) twins slots calls)
        (stage (busy tickets) twins opened calls) (stage (busy tickets) twins opened printed) file
        root key 7 (.parsed Table.plain)) (.done (some Table.plain))
      { stage (busy tickets) twins opened printed with
        cache := Store.put onFiles ⟨opened⟩ twins root key 7 Table.plain } :=
    steps_miss hfound hlaunch Table.verdict_printed
  rw [put_stage hnew] at hfetch
  rw [← leave_stage]
  exact steps_parse (w := stage (resting tickets) twins slots calls) haddress hfetch

end

/-- What is done to parse the left file first. -/
def firstRuns : List (Ran World) := stageRuns 0 [] [] ⟨"/left/t.py"⟩ ⟨"/left"⟩ "t.py"

theorem load_twins {root : Path} (hroot : root = ⟨"/left"⟩ ∨ root = ⟨"/right"⟩) :
    onFiles.load twins root = .empty := by
  have hnowhere : twins.location? (Cache.fileOf ⟨"/left"⟩) = none ∧
      twins.location? (Cache.fileOf ⟨"/right"⟩) = none := by
    decide +kernel
  have hroot : twins.location? (Cache.fileOf root) = none := by
    rcases hroot with rfl | rfl
    · exact hnowhere.1
    · exact hnowhere.2
  rw [Cache.onFiles_load, Table.load_of_location?_eq_none hroot]

theorem steps_first : Steps (Parsing.parse parser ⟨"/left/t.py"⟩) (stage (resting 0) twins [] [])
    firstRuns (.done (some Table.plain))
    (stage (resting 1) twins [⟨⟨"/left"⟩, table, true⟩] [printing]) :=
  steps_stage placed_twins.1.time (load_twins (Or.inl rfl)) (by simp) 0 placed_twins.1.address

/-- The writing of the table. -/
def writing : Cache.Write FileTree := ⟨twins, ⟨"/left"⟩, table, true, filed⟩

theorem save_left : onFiles.save twins ⟨"/left"⟩ table = (true, filed) := by
  simp only [onFiles, save_table]
  rfl

theorem flush_table {chosen : Path → Bool} (hchosen : chosen ⟨"/left"⟩ = true) :
    Store.flush onFiles ⟨[⟨⟨"/left"⟩, table, true⟩]⟩ twins chosen =
      (1, ⟨[⟨⟨"/left"⟩, table, false⟩]⟩, filed) ∧
    Store.writes onFiles ⟨[⟨⟨"/left"⟩, table, true⟩]⟩ twins chosen = [writing] := by
  refine ⟨?_, ?_⟩
  · simp [Store.flush, Store.takeDirty, Store.writeOut, Store.writeOne, hchosen, save_left]
  · simp [Store.writes, Store.takeDirty, Store.writeLog, writing, hchosen, save_left]

theorem flush_left :
    Store.flush onFiles ⟨[⟨⟨"/left"⟩, table, true⟩]⟩ twins (fun other => other.same ⟨"/left"⟩) =
      (1, ⟨[⟨⟨"/left"⟩, table, false⟩]⟩, filed) ∧
    Store.writes onFiles ⟨[⟨⟨"/left"⟩, table, true⟩]⟩ twins (fun other => other.same ⟨"/left"⟩) =
      [writing] :=
  flush_table (Path.same_refl ⟨"/left"⟩)

/-- The table is written out and forgotten. -/
def forgetting : Entry :=
  .evict (stage (resting 1) twins [⟨⟨"/left"⟩, table, true⟩] [printing]) ⟨"/left"⟩

theorem after_forgetting : forgetting.after = stage (resting 1) filed [] [printing] := by
  have hcache : ((Store.flush onFiles ⟨[⟨⟨"/left"⟩, table, true⟩]⟩ twins
      fun other => other.same ⟨"/left"⟩).2.1.drop ⟨"/left"⟩) = ⟨[]⟩ := by
    rw [flush_left.1]
    simp [Store.drop, Path.same_refl]
  have hfiles : (Store.flush onFiles ⟨[⟨⟨"/left"⟩, table, true⟩]⟩ twins
      fun other => other.same ⟨"/left"⟩).2.2 = filed := by
    rw [flush_left.1]
  have hafter : forgetting.after = { stage (resting 1) twins [] [printing] with
      cache := (Store.flush onFiles ⟨[⟨⟨"/left"⟩, table, true⟩]⟩ twins
        fun other => other.same ⟨"/left"⟩).2.1.drop ⟨"/left"⟩
      files := (Store.flush onFiles ⟨[⟨⟨"/left"⟩, table, true⟩]⟩ twins
        fun other => other.same ⟨"/left"⟩).2.2 } := rfl
  rw [hafter, hcache, hfiles]
  rfl

/-- The left file is parsed and its table is written out and forgotten; then a file is parsed. -/
def twice (file root : Path) : Activity where
  world := Parser.leave parser 1
    ((Parsing.lookUp root "t.py" file).run (stage (busy 1) filed [] [printing])).2
  calls :=
    [⟨⟨"/left/t.py"⟩, _, .parse parser, .done (some Table.plain)⟩,
      ⟨file, _, .parse parser, .done (some Table.plain)⟩]
  log := firstRuns.map (.ran 0) ++ [forgetting] ++
    (turnRuns parser (stage (resting 1) filed [] [printing])
      (hitRuns (stage (busy 1) filed [] [printing]) file root "t.py")
      ((Parsing.lookUp root "t.py" file).run (stage (busy 1) filed [] [printing])).2).map (.ran 1)

theorem reached_twice {file root : Path} (hnormal : file.IsNormal)
    (haddress : Parsing.address? filed file = some (root, "t.py"))
    (hfound : ((Parsing.lookUp root "t.py" file).run (stage (busy 1) filed [] [printing])).1 =
      .cached Table.plain) : Reached (stage (resting 0) twins [] []) (twice file root) := by
  have hfirst : Reached (stage (resting 0) twins [] [])
      ⟨stage (resting 1) twins [⟨⟨"/left"⟩, table, true⟩] [printing],
        [⟨⟨"/left/t.py"⟩, _, .parse parser, .done (some Table.plain)⟩],
        firstRuns.map (.ran 0)⟩ := by
    have hnormal : (⟨"/left/t.py"⟩ : Path).IsNormal := by decide
    have hstart : Reached (stage (resting 0) twins [] [])
      ⟨stage (resting 0) twins [] [], [], []⟩ := .start
    have hasked := hstart.ask (.parse parser) hnormal
    exact hasked.steps (i := 0) rfl steps_first
  have hevicted := hfirst.deed forgetting rfl trivial
  rw [after_forgetting] at hevicted
  have hasked := hevicted.ask (.parse parser) hnormal
  exact hasked.steps (i := 1) rfl (steps_parse haddress (steps_hit hfound))

/-! ## What is in the log -/

/-- The entry that starts the script. -/
def launching : Entry :=
  .ran 0 ⟨stage (busy 0) twins [⟨⟨"/left"⟩, .empty, false⟩] [], _, (Work.launch printing).run⟩

/-- An entry that leaves files and programs alone. -/
structure IsQuiet (e : Entry) : Prop where
  writes : e.writes = []
  files : e.after.files = e.before.files
  tree : e.before.files = twins ∨ e.before.files = filed
  runner : e.after.runner = e.before.runner
  script : ∃ s, e.before.runner = .script s

theorem isQuiet_or_of_mem {file root : Path} {e : Entry} (h : e ∈ (twice file root).log) :
    IsQuiet e ∨ e = launching ∨ e = forgetting := by
  -- The first parse runs the script, then the table is written, then the second parse only looks.
  rcases List.mem_append.1 h with hfront | hhit
  · rcases List.mem_append.1 hfront with hfirst | hforgetting
    · simp only [firstRuns, stageRuns, turnRuns, missRuns, List.map_cons, List.map_nil,
        List.cons_append, List.nil_append, List.mem_cons, List.not_mem_nil,
        or_false] at hfirst
      rcases hfirst with rfl | rfl | rfl | rfl | rfl | rfl | rfl | rfl | rfl
      · exact Or.inl ⟨rfl, rfl, Or.inl rfl, rfl, _, rfl⟩
      · exact Or.inl ⟨rfl, rfl, Or.inl rfl, rfl, _, rfl⟩
      · exact Or.inl ⟨rfl, rfl, Or.inl rfl, rfl, _, rfl⟩
      · have hframe := lookUp_frame ⟨"/left"⟩ "t.py" ⟨"/left/t.py"⟩ (stage (busy 0) twins [] [])
        exact Or.inl ⟨rfl, hframe.1, Or.inl rfl, hframe.2, _, rfl⟩
      · exact Or.inl ⟨rfl, rfl, Or.inl rfl, rfl, _, rfl⟩
      · exact Or.inr (Or.inl rfl)
      · exact Or.inl ⟨rfl, rfl, Or.inl rfl, rfl, _, rfl⟩
      · exact Or.inl ⟨rfl, rfl, Or.inl rfl, rfl, _, rfl⟩
      · exact Or.inl ⟨rfl, rfl, Or.inl rfl, rfl, _, rfl⟩
    · exact Or.inr (Or.inr (List.mem_singleton.1 hforgetting))
  · have hframe := lookUp_frame root "t.py" file (stage (busy 1) filed [] [printing])
    simp only [turnRuns, hitRuns, List.map_cons, List.map_nil, List.cons_append,
      List.nil_append, List.mem_cons, List.not_mem_nil, or_false] at hhit
    rcases hhit with rfl | rfl | rfl | rfl | rfl
    · exact Or.inl ⟨rfl, rfl, Or.inr rfl, rfl, _, rfl⟩
    · exact Or.inl ⟨rfl, rfl, Or.inr rfl, rfl, _, rfl⟩
    · exact Or.inl ⟨rfl, rfl, Or.inr rfl, rfl, _, rfl⟩
    · exact Or.inl ⟨rfl, hframe.1, Or.inr rfl, hframe.2, _, rfl⟩
    · exact Or.inl ⟨rfl, rfl, Or.inr hframe.1, rfl, _, hframe.2⟩

theorem read_filed {file : Path} (hfile : file = ⟨"/left/t.py"⟩ ∨ file = ⟨"/right/t.py"⟩) :
    filed.read file = twins.read file ∧ modifiedMillis filed file = modifiedMillis twins file := by
  have hread : filed.read ⟨"/left/t.py"⟩ = twins.read ⟨"/left/t.py"⟩ ∧
      filed.read ⟨"/right/t.py"⟩ = twins.read ⟨"/right/t.py"⟩ := by
    decide +kernel
  rcases hfile with rfl | rfl
  · exact ⟨hread.1, placed_filed.1.time.trans placed_twins.1.time.symm⟩
  · exact ⟨hread.2, placed_filed.2.time.trans placed_twins.2.1.time.symm⟩

/-- Neither file is edited. -/
theorem not_edits {file root : Path} {e : Entry} (he : e ∈ (twice file root).log) {edited : Path}
    (hedited : edited = ⟨"/left/t.py"⟩ ∨ edited = ⟨"/right/t.py"⟩) : ¬ e.Edits edited := by
  have hkept := read_filed hedited
  rcases isQuiet_or_of_mem he with hquiet | rfl | rfl
  · rw [Entry.Edits, hquiet.files]
    simp
  · rw [Entry.Edits]
    have hfiles : launching.after.files = launching.before.files := rfl
    rw [hfiles]
    simp
  · have hbefore : forgetting.before.files = twins := rfl
    have hafter : forgetting.after.files = filed := by
      rw [after_forgetting]
      rfl
    rw [Entry.Edits, hbefore, hafter, hkept.1, hkept.2]
    simp

/-- The right file is never printed. -/
theorem not_launched {file root : Path} {j call : Nat} {d : Document} :
    ¬ Launched (twice file root).log j call ⟨"/right/t.py"⟩ d := by
  rintro ⟨w, p, w', he, -⟩
  have hmem := List.mem_of_getElem? he
  rcases isQuiet_or_of_mem hmem with hquiet | hlaunching | hforgetting
  · rcases hquiet.script with ⟨s, hs⟩
    -- A run is recorded, so the runner would not be the same.
    have hrecorded := runner_launch hs (p.invocation w' ⟨"/right/t.py"⟩)
    have hsame : Runner.script (s.record (p.invocation w' ⟨"/right/t.py"⟩)) = .script s := by
      rw [← hrecorded, ← hs]
      exact hquiet.runner
    have hcalls := congrArg (fun s => s.calls.length) (Runner.script.inj hsame)
    simp [Script.record] at hcalls
  · have hworld : w = launching.before := congrArg Entry.before hlaunching
    have hscript : w.runner = .script ⟨[("", .outcome Table.output)], [], []⟩ := by
      rw [hworld]
      rfl
    have hrecorded := runner_launch hscript (p.invocation w' ⟨"/right/t.py"⟩)
    have hprinting : launching.after.runner =
        .script ⟨[("", .outcome Table.output)], [], [printing]⟩ := rfl
    have hafter : ((Work.launch (p.invocation w' ⟨"/right/t.py"⟩)).run w).2.runner =
        launching.after.runner := congrArg (fun e => (Entry.after e).runner) hlaunching
    rw [hrecorded, hprinting] at hafter
    have hcalls := congrArg Script.calls (Runner.script.inj hafter)
    simp [Script.record, Parser.invocation, Invocation.here, printing] at hcalls
  · exact absurd hforgetting (by simp [forgetting])

/-- Once the table is written, either file finds the document of the left one. -/
theorem lookUp_filed {file root : Path} (hload : onFiles.load filed root = table)
    (htime : modifiedMillis filed file = .ok 7) :
    ((Parsing.lookUp root "t.py" file).run (stage (busy 1) filed [] [printing])).1 =
      .cached Table.plain := by
  have hself : root.same root = true := Path.same_refl _
  have hhit : (Store.lookup onFiles ⟨[]⟩ filed root "t.py" 7).1 = some Table.plain := by
    simp [Store.lookup, Store.open?, Store.slot?, hload, hself, table, Table.get?, Table.find?,
      Table.empty, Table.insert, Table.insertEntry]
  have hfiles := files_stage (busy 1) filed [] [printing]
  have hcache := cache_stage (busy 1) filed [] [printing]
  have htime' : modifiedMillis (stage (busy 1) filed [] [printing]).files file = .ok 7 := by
    rw [hfiles, htime]
  rw [run_lookUp_ok htime', hfiles, hcache, hhit]

theorem advancing_twice {file root edited : Path}
    (hedited : edited = ⟨"/left/t.py"⟩ ∨ edited = ⟨"/right/t.py"⟩) :
    Advancing (twice file root).log edited := by
  intro i j e e' old new _ he' _ hedit _ _
  exact absurd hedit (not_edits (List.mem_of_getElem? he') hedited)

theorem lookedUp_twice {file root : Path} (hload : onFiles.load filed root = table)
    (htime : modifiedMillis filed file = .ok 7) :
    LookedUp (twice file root).log 13 1 file root "t.py" (.cached Table.plain) :=
  ⟨stage (busy 1) filed [] [printing], rfl, lookUp_filed hload htime⟩

/-- The folders in which the two files are looked for. -/
theorem cacheRoot?_twins {t : FileTree} (ht : t = twins ∨ t = filed) :
    ProjectFiles.cacheRoot? t ⟨"/left/t.py"⟩ = some ⟨"/left"⟩ ∧
      ProjectFiles.cacheRoot? t ⟨"/right/t.py"⟩ = some ⟨"/right"⟩ := by
  have hplaced : Placed t ⟨"/left/t.py"⟩ ⟨"/left"⟩ "t.py" ∧
      Placed t ⟨"/right/t.py"⟩ ⟨"/right"⟩ "t.py" := by
    rcases ht with rfl | rfl
    · exact ⟨placed_twins.1, placed_twins.2.1⟩
    · exact placed_filed
  exact ⟨(isAddressIn_of_address? hplaced.1.address).1,
    (isAddressIn_of_address? hplaced.2.address).1⟩

theorem asked_twice {file root f : Path} (h : asked (twice file root) f) :
    f = ⟨"/left/t.py"⟩ ∨ f = file := by
  rcases h with ⟨c, hc, rfl⟩
  rcases List.mem_cons.1 hc with rfl | hlast
  · exact Or.inl rfl
  · rw [List.mem_singleton.1 hlast]
    exact Or.inr rfl

theorem exists_of_isRoot {file root other : Path} (h : (twice file root).IsRoot other) :
    ∃ f, (f = ⟨"/left/t.py"⟩ ∨ f = file) ∧ ∃ t, (t = twins ∨ t = filed) ∧
      ProjectFiles.cacheRoot? t f = some other := by
  rcases h with ⟨f, key, hf, e, he, hroot, -⟩
  have htree : e.before.files = twins ∨ e.before.files = filed := by
    rcases isQuiet_or_of_mem he with hquiet | rfl | rfl
    · exact hquiet.tree
    · exact Or.inl rfl
    · exact Or.inl rfl
  exact ⟨f, asked_twice hf, _, htree, hroot⟩

/-- The left file alone is answered from the cache the second time. -/
theorem answered_fresh_left :
    let x := twice ⟨"/left/t.py"⟩ ⟨"/left"⟩
    Reached (stage (resting 0) twins [] []) x ∧ (∀ e ∈ x.log, e.Harmless x.IsRoot) ∧
    ((∃ k root key, LookedUp x.log k 1 ⟨"/left/t.py"⟩ root key (.cached Table.plain) ∧
      ∃ j call, j < k ∧ Launched x.log j call ⟨"/left/t.py"⟩ Table.plain ∧
        Unedited x.log ⟨"/left/t.py"⟩ j k) ∨
    (∃ k j l root key modified, LookedUp x.log k 1 ⟨"/left/t.py"⟩ root key (.missing modified) ∧
      k < j ∧ Launched x.log j 1 ⟨"/left/t.py"⟩ Table.plain ∧ j < l ∧
        Kept x.log l 1 ⟨"/left/t.py"⟩ root key modified Table.plain)) := by
  intro x
  have htime : modifiedMillis filed ⟨"/left/t.py"⟩ = .ok 7 := placed_filed.1.time
  have haddress : Parsing.address? filed ⟨"/left/t.py"⟩ = some (⟨"/left"⟩, "t.py") :=
    placed_filed.1.address
  have hreached : Reached (stage (resting 0) twins [] []) x :=
    reached_twice (by decide) haddress (lookUp_filed load_left htime)
  -- The left folder is the only one that is asked for.
  have honly : ∀ root, x.IsRoot root → root = ⟨"/left"⟩ := by
    intro root hroot
    rcases exists_of_isRoot hroot with ⟨f, hf, t, ht, hfound⟩
    rw [or_self_iff.1 hf, (cacheRoot?_twins ht).1] at hfound
    exact (Option.some.inj hfound).symm
  have hharmless : ∀ e ∈ x.log, e.Harmless x.IsRoot := by
    intro e he
    rcases isQuiet_or_of_mem he with hquiet | rfl | rfl
    · refine ⟨?_, ?_⟩
      · intro w hw
        simp [hquiet.writes] at hw
      · intro r _
        rw [hquiet.writes, hquiet.files]
        exact Or.inl rfl
    · exact ⟨fun w hw => by simp [launching, Entry.writes] at hw, fun r _ => Or.inl rfl⟩
    · have hwrites : forgetting.writes = [writing] := flush_left.2
      have hafter : forgetting.after.files = filed := by
        rw [after_forgetting, files_stage]
      refine ⟨?_, ?_⟩
      · intro w hw r hr
        rw [hwrites, List.mem_singleton] at hw
        rw [hw, honly r hr]
        exact Or.inr (Or.inr ⟨Path.same_refl _, load_left⟩)
      · intro r _
        rw [hwrites, hafter]
        exact Or.inl rfl
  refine ⟨hreached, hharmless, ?_⟩
  refine hreached.answered_fresh ?_ ?_ hharmless ?_ (p := parser) rfl
  · intro slot hslot
    simp [stage] at hslot
  · intro root hroot
    exact load_twins (Or.inl (honly root hroot))
  · intro f hf
    exact advancing_twice (Or.inl (or_self_iff.1 (asked_twice hf)))

/-- The right file is answered with the document of the left one, and was never printed: it lies in
another folder, which has the same cache file. -/
theorem not_fresh_right :
    let x := twice ⟨"/right/t.py"⟩ ⟨"/right"⟩
    Reached (stage (resting 0) twins [] []) x ∧ (stage (resting 0) twins [] []).cache.slots = [] ∧
    (∀ root, x.IsRoot root → onFiles.load (stage (resting 0) twins [] []).files root = .empty) ∧
    (∀ e ∈ x.log, ∀ w ∈ e.writes, onFiles.load w.after w.root = w.table) ∧
    (∀ file, asked x file → Advancing x.log file) ∧
    x.calls[1]? = some ⟨⟨"/right/t.py"⟩, _, .parse parser, .done (some Table.plain)⟩ ∧
    LookedUp x.log 13 1 ⟨"/right/t.py"⟩ ⟨"/right"⟩ "t.py" (.cached Table.plain) ∧
    ¬ ∃ j call d, Launched x.log j call ⟨"/right/t.py"⟩ d := by
  intro x
  have htime : modifiedMillis filed ⟨"/right/t.py"⟩ = .ok 7 := placed_filed.2.time
  have haddress : Parsing.address? filed ⟨"/right/t.py"⟩ = some (⟨"/right"⟩, "t.py") :=
    placed_filed.2.address
  refine ⟨reached_twice (by decide) haddress (lookUp_filed load_right htime), rfl, ?_, ?_, ?_, rfl,
    lookedUp_twice load_right htime, ?_⟩
  · intro root hroot
    rw [files_stage]
    refine load_twins ?_
    -- Both folders are asked for, and neither has a table at first.
    rcases exists_of_isRoot hroot with ⟨f, hf, t, ht, hfound⟩
    rcases hf with rfl | rfl
    · rw [(cacheRoot?_twins ht).1] at hfound
      exact Or.inl (Option.some.inj hfound).symm
    · rw [(cacheRoot?_twins ht).2] at hfound
      exact Or.inr (Option.some.inj hfound).symm
  · intro e he w hw
    rcases isQuiet_or_of_mem he with hquiet | rfl | rfl
    · simp [hquiet.writes] at hw
    · simp [launching, Entry.writes] at hw
    · have hwrites : forgetting.writes = [writing] := flush_left.2
      rw [hwrites, List.mem_singleton] at hw
      rw [hw]
      exact load_left
  · intro f hf
    exact advancing_twice (asked_twice hf)
  · rintro ⟨j, call, d, hlaunched⟩
    exact not_launched hlaunched

end Activity
end Testbench
