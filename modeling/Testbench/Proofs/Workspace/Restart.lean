import Testbench.Schedule
import Testbench.Proofs.Cache.Coherence
import Testbench.Proofs.Parsing.Freshness

/-!
# Restart — what was parsed is still known to the next workspace

What a folder's table holds is found in memory, or else in the file of the folder. Lookups, stores,
flushes and evictions do not change what is found, apart from the document that is stored; so the
last parse of a file can be found at its address at any time, and in the file once everything is
written out.

- `Entry.Parses`, `LastParse` : parses that came to a document;
- `Entry.Preserves`  : writes succeed and are read back, and settings stay where they are;
- `Entry.Honest`, `Agrees` : writes do what they tell, and then memory and files agree;
- `tableIn`          : what is found in a folder;
- `Remembers`        : the invariant, with `Trace.remembers`;
- `shutDownEntries`  : the end of a workspace as deeds;
- `Reached.parse_after_restart` : the next workspace finds what was parsed last.
-/

namespace Testbench

open Cache (Table Slot Store Coherent Event onFiles)
open Outline (Document)
open Parsing (Found)
open ProjectFiles (cacheRoot? modifiedMillis)
open Testbench.Task (Ran Steps)

namespace Activity

/-! ## Parses that came to a document -/

/-- An entry finds the document of a file at its address, or keeps one there. -/
def Entry.Parses (e : Entry) (file : Path) (modified : Nat) (d : Document) : Prop :=
  ∃ call root key, IsAddressIn e.before.files file root key ∧
    ((e = .ran call ⟨e.before, Found, (Parsing.lookUp root key file).run⟩ ∧
        ((Parsing.lookUp root key file).run e.before).1 = .cached d ∧
        modifiedMillis e.before.files file = .ok modified) ∨
      e = .ran call ⟨e.before, _, (Parsing.conclude root key file modified (.parsed d)).run⟩)

/-- The last parse of a file that came to a document. -/
def LastParse (log : List Entry) (file : Path) (modified : Nat) (d : Document) : Prop :=
  ∃ front e back, log = front ++ e :: back ∧ e.Parses file modified d ∧
    ∀ e' ∈ back, ∀ modified' d', ¬ e'.Parses file modified' d'

theorem not_lastParse_nil {file : Path} {modified : Nat} {d : Document} :
    ¬ LastParse [] file modified d := by
  rintro ⟨front, e, back, hlog, -⟩
  simp at hlog

/-- The last parse is made by the last entry, or it was the last one already. -/
theorem LastParse.of_append {log : List Entry} {e : Entry} {file : Path} {modified : Nat}
    {d : Document} (h : LastParse (log ++ [e]) file modified d) :
    e.Parses file modified d ∨
      LastParse log file modified d ∧ ∀ modified' d', ¬ e.Parses file modified' d' := by
  rcases h with ⟨front, first, back, hlog, hparses, hlater⟩
  rcases List.eq_nil_or_concat back with rfl | ⟨init, last, rfl⟩
  · rcases List.append_inj' hlog rfl with ⟨_, hlast⟩
    rw [List.singleton_inj.1 hlast]
    exact Or.inl hparses
  · have hassoc : log ++ [e] = (front ++ first :: init) ++ [last] := by simpa using hlog
    rcases List.append_inj' hassoc rfl with ⟨hinit, hlast⟩
    have heq : e = last := List.singleton_inj.1 hlast
    refine Or.inr ⟨⟨front, first, init, hinit, hparses, ?_⟩, ?_⟩
    · intro e' he'
      exact hlater e' (by simp [he'])
    · rw [heq]
      exact hlater last (by simp)

theorem IsAddressIn.unique {t : FileTree} {file root root' : Path} {key key' : String}
    (h : IsAddressIn t file root key) (h' : IsAddressIn t file root' key') :
    root = root' ∧ key = key' := by
  have hroot : root = root' := Option.some.inj (h.1.symm.trans h'.1)
  refine ⟨hroot, ?_⟩
  have hkey := h'.2
  rw [← hroot, h.2] at hkey
  exact Option.some.inj hkey

/-! ## Entries that preserve what is known -/

/-- Every write succeeds, is read back, and changes nothing for other folders; apart from writes
nothing changes what is loaded; and each file is looked for in the same folder as before. -/
structure Entry.Preserves (files roots : Path → Prop) (e : Entry) : Prop where
  written : ∀ w ∈ e.writes, w.written = true
  faithful : ∀ w ∈ e.writes, w.Faithful onFiles roots
  rest : ∀ r, roots r →
    onFiles.load e.after.files r = onFiles.load (Store.diskAfter e.before.files e.writes) r
  settings : ∀ file, files file → cacheRoot? e.after.files file = cacheRoot? e.before.files file

/-- Writes do to the files what they tell, and apart from writes nothing changes what is loaded. A
write may fail. -/
structure Entry.Honest (roots : Path → Prop) (e : Entry) : Prop where
  faithful : ∀ w ∈ e.writes, w.Faithful onFiles roots
  rest : ∀ r, roots r →
    onFiles.load e.after.files r = onFiles.load (Store.diskAfter e.before.files e.writes) r

theorem Entry.Preserves.honest {files roots : Path → Prop} {e : Entry}
    (h : e.Preserves files roots) : e.Honest roots :=
  ⟨h.faithful, h.rest⟩

theorem isAddressIn_congr {t t' : FileTree} {file root : Path} {key : String}
    (h : cacheRoot? t' file = cacheRoot? t file) :
    IsAddressIn t' file root key ↔ IsAddressIn t file root key := by
  rw [IsAddressIn, IsAddressIn, h]

/-! ## What is found -/

/-- The table of a folder, from memory or else from its file. -/
def tableIn (w : World) (root : Path) : Table := (w.cache.opened onFiles w.files root).table

theorem tableIn_congr {w w' : World} {root : Path} (hcache : w'.cache = w.cache)
    (hload : onFiles.load w'.files root = onFiles.load w.files root) :
    tableIn w' root = tableIn w root := by
  simp only [tableIn, Store.opened, hcache, hload]

/-- Settings stay, so a file stays at its address. -/
theorem Entry.Preserves.isAddressIn {files roots : Path → Prop} {e : Entry}
    (h : e.Preserves files roots) {file root : Path} {key : String} (hfile : files file) :
    IsAddressIn e.after.files file root key ↔ IsAddressIn e.before.files file root key :=
  isAddressIn_congr (h.settings file hfile)

/-- What is loaded stays if nothing is written. -/
theorem Entry.Honest.load {roots : Path → Prop} {e : Entry} (h : e.Honest roots)
    (hwrites : e.writes = []) {r : Path} (hr : roots r) :
    onFiles.load e.after.files r = onFiles.load e.before.files r := by
  have hrest := h.rest r hr
  rw [hwrites] at hrest
  exact hrest

theorem Entry.Preserves.load {files roots : Path → Prop} {e : Entry} (h : e.Preserves files roots)
    (hwrites : e.writes = []) {r : Path} (hr : roots r) :
    onFiles.load e.after.files r = onFiles.load e.before.files r :=
  h.honest.load hwrites hr

/-- A lookup does not change what is found. -/
theorem tableIn_lookUp {w : World} {root : Path} (key : String) (file : Path) {r : Path}
    (hr : root.same r = true → root = r) :
    tableIn ((Parsing.lookUp root key file).run w).2 r = tableIn w r := by
  cases htime : modifiedMillis w.files file with
  | error cause => rw [run_lookUp_error htime]
  | ok modified =>
      rw [run_lookUp_ok htime]
      exact congrArg Slot.table (Store.opened_open? onFiles w.cache w.files hr)

/-- A document that is kept is found from then on. -/
theorem tableIn_keep {w : World} {root : Path} (key : String) (file : Path) (modified : Nat)
    (d : Document) {r : Path} (hr : root.same r = true → root = r) :
    tableIn ((Parsing.conclude root key file modified (.parsed d)).run w).2 r =
      if root.same r then (tableIn w r).insert key modified d else tableIn w r := by
  rw [run_keep]
  exact Store.table_opened_put onFiles w.cache w.files key modified d hr

/-- The document of a parse is found afterwards. -/
theorem Entry.Parses.found {e : Entry} {file : Path} {modified : Nat} {d : Document}
    (h : e.Parses file modified d) {root : Path} {key : String}
    (haddress : IsAddressIn e.before.files file root key) :
    (tableIn e.after root).get? key modified = some d := by
  rcases h with ⟨call, root', key', haddress', hparse⟩
  rcases haddress'.unique haddress with ⟨rfl, rfl⟩
  -- It was in the table before, or it has just been put there.
  rcases hparse with ⟨heq, hfound, htime⟩ | heq
  · rcases of_lookUp_cached hfound with ⟨modified', htime', hlookup⟩
    have hsame : modified' = modified := Except.ok.inj (htime'.symm.trans htime)
    have hafter : e.after = ((Parsing.lookUp root' key' file).run e.before).2 := by
      rw [heq]
      rfl
    rw [Store.lookup_eq, hsame] at hlookup
    rw [hafter, tableIn_lookUp key' file fun _ => rfl]
    exact hlookup
  · have hafter : e.after =
        ((Parsing.conclude root' key' file modified (.parsed d)).run e.before).2 := by
      rw [heq]
      rfl
    rw [hafter, tableIn_keep key' file modified d fun _ => rfl, if_pos (Path.same_refl root'),
      Table.get?_insert, if_pos rfl, if_pos rfl]

/-! ## The invariant -/

/-- What is in memory and not marked agrees with the files, and only some folders were opened. -/
def Agrees (roots : Path → Prop) (w : World) : Prop :=
  ∃ past, Coherent onFiles ⟨w.cache, w.files, past⟩ ∧ ∀ r, .opened r ∈ past → roots r

/-- Memory and files agree, every file is still at its address, and the last parse of every file is
found there. -/
structure Remembers (files roots : Path → Prop) (log : List Entry) (w : World) : Prop where
  coherent : ∃ past, Coherent onFiles ⟨w.cache, w.files, past⟩ ∧ ∀ r, .opened r ∈ past → roots r
  address : ∀ file root key, files file → Addressed log file root key →
    IsAddressIn w.files file root key
  last : ∀ file root key modified d, files file → LastParse log file modified d →
    IsAddressIn w.files file root key → (tableIn w root).get? key modified = some d

section

variable {files roots : Path → Prop} {w₀ w : World} {log : List Entry}

theorem Agrees.start (hempty : w.cache = .empty) : Agrees roots w := by
  refine ⟨[], ?_, by simp⟩
  rw [hempty]
  exact Coherent.start onFiles w.files

/-- With nothing in memory and nothing done there is nothing to remember. -/
theorem Remembers.start (hempty : w.cache = .empty) : Remembers files roots [] w := by
  refine ⟨Agrees.start hempty, ?_, ?_⟩
  · rintro file root key _ ⟨e, he, _⟩
    simp at he
  · intro file root key modified d _ hlast
    exact absurd hlast not_lastParse_nil

/-- An entry that leaves every table as it was, but for the documents that it parses. -/
theorem Remembers.append {e : Entry} (h : Remembers files roots log e.before)
    (hkept : e.Preserves files roots)
    (hcoherent : ∃ past, Coherent onFiles ⟨e.after.cache, e.after.files, past⟩ ∧
      ∀ r, .opened r ∈ past → roots r)
    (hfound : ∀ file root key, files file → IsAddressIn e.before.files file root key →
      (∀ modified d, ¬ e.Parses file modified d) → ∀ modified,
        (tableIn e.after root).get? key modified = (tableIn e.before root).get? key modified) :
    Remembers files roots (log ++ [e]) e.after := by
  refine ⟨hcoherent, ?_, ?_⟩
  · intro file root key hfile haddressed
    rw [hkept.isAddressIn hfile]
    rcases haddressed with ⟨e', he', hin⟩
    rcases List.mem_append.1 he' with hold | hnew
    · exact h.address file root key hfile ⟨e', hold, hin⟩
    · rw [List.mem_singleton.1 hnew] at hin
      exact hin
  · intro file root key modified d hfile hlast hafter
    have hbefore := (hkept.isAddressIn hfile).1 hafter
    rcases hlast.of_append with hparses | ⟨hold, hnone⟩
    · exact hparses.found hbefore
    · rw [hfound file root key hfile hbefore hnone]
      exact h.last file root key modified d hfile hold hbefore

/-! ## One entry -/

/-- Folders are spelled in one way. -/
def SpelledOnce (roots : Path → Prop) : Prop :=
  ∀ r r', roots r → roots r' → r.same r' = true → r = r'

theorem mem_opening {s : Store} {root r : Path}
    (h : (Event.opened r : Event FileTree) ∈ s.opening root) : r = root := by
  rw [Store.opening] at h
  split at h
  · simp at h
  · simpa using h

/-- Memory and files agree after a step of a call. -/
theorem Agrees.ran {i : Nat} {file : Path} {r : Ran World} (h : Agrees roots r.before)
    (hroots : ∀ root key, Addressed log file root key → roots root)
    (hallowed : Allowed i file log r) (hhonest : (Entry.ran i r).Honest roots) :
    Agrees roots r.after := by
  rcases h with ⟨past, hcoherent, hopened⟩
  have hopening : ∀ {s : Store} {root : Path}, roots root →
      ∀ other, .opened other ∈ past ++ s.opening root → roots other := by
    intro s root hroot other hother
    rcases List.mem_append.1 hother with hpast | hnew
    · exact hopened other hpast
    · rw [mem_opening hnew]
      exact hroot
  rcases hallowed.cache_cases with hquiet | ⟨root, key, haddressed, hafter⟩ |
    ⟨k, j, root, key, modified, d, haddressed, -, hafter⟩
  · refine ⟨past, ?_, hopened⟩
    rw [hquiet]
    exact hcoherent.congr_disk fun root hroot =>
      Entry.Honest.load (e := .ran i r) hhonest rfl (hopened root hroot)
  · rw [hafter]
    exact ⟨_, hcoherent.opening root, hopening (hroots root key haddressed)⟩
  · rw [hafter]
    refine ⟨_, (hcoherent.opening root).storing root fun t => t.insert key modified d, ?_⟩
    intro other hother
    rcases List.mem_append.1 hother with hpast | hstored
    · exact hopening (hroots root key haddressed) other hpast
    · simp at hstored

/-- A step of a call changes nothing of what is found for a file that it does not parse. -/
theorem Remembers.tableIn_ran {i : Nat} {file : Path} {r : Ran World}
    (h : Remembers files roots log r.before) (hnormal : ∀ file, files file → file.IsNormal)
    (hroots : ∀ root key, Addressed log file root key → roots root) (honce : SpelledOnce roots)
    (hfile : files file) (hallowed : Allowed i file log r)
    (hkept : (Entry.ran i r).Preserves files roots) {f root : Path} {key : String} (hf : files f)
    (hroot : roots root) (hin : IsAddressIn r.before.files f root key)
    (hnone : ∀ modified d, ¬ (Entry.ran i r).Parses f modified d) (time : Nat) :
    (tableIn r.after root).get? key time = (tableIn r.before root).get? key time := by
  cases hallowed with
  | quiet hquiet =>
      have hload := Entry.Preserves.load (e := .ran i r) hkept rfl hroot
      rw [tableIn_congr hquiet hload]
  | @lookUp w root' key' haddressed =>
      have hroot' : roots root' := hroots root' key' haddressed
      have hsame := tableIn_lookUp (w := w) key' file (honce root' root hroot' hroot)
      exact congrArg (fun t => Table.get? t key time) hsame
  | @keep w k j root' key' modified d haddressed hfetched =>
      have hroot' : roots root' := hroots root' key' haddressed
      have htable := tableIn_keep (w := w) key' file modified d (honce root' root hroot' hroot)
      refine Eq.trans (congrArg (fun t => Table.get? t key time) htable) ?_
      by_cases hsame : root'.same root = true
      · have hrooteq : root' = root := honce root' root hroot' hroot hsame
        rw [if_pos hsame, Table.get?_insert]
        by_cases hkey : key' = key
        · -- The same address is that of the same file, which is not parsed here.
          have hin' := h.address file root' key' hfile haddressed
          rw [hrooteq, hkey] at hin'
          have hfeq : file = f :=
            hin'.isAddress.file_eq (hnormal file hfile) (hnormal f hf) hin.isAddress
          have hparses : (Entry.ran i ⟨w, _, (Parsing.conclude root' key' file modified
              (.parsed d)).run⟩).Parses f modified d := by
            refine ⟨i, root', key', ?_, Or.inr ?_⟩
            · rw [hrooteq, hkey]
              exact hin
            · rw [hfeq]
              rfl
          exact absurd hparses (hnone modified d)
        · rw [if_neg hkey]
      · rw [if_neg hsame]

/-- Memory and files agree after a deed. -/
theorem Agrees.deed {e : Entry} (h : Agrees roots e.before) (hdeed : e.IsDeed)
    (hhonest : e.Honest roots) : Agrees roots e.after := by
  rcases h with ⟨past, hcoherent, hopened⟩
  have hsaved : ∀ {writes : List (Cache.Write FileTree)} (root : Path),
      .opened root ∈ past ++ writes.map Event.saved → roots root := by
    intro writes root hroot
    rcases List.mem_append.1 hroot with hpast | hnew
    · exact hopened root hpast
    · simp at hnew
  -- A deed writes tables and forgets one at most, or leaves them alone.
  cases e with
  | ran i r => exact hdeed.elim
  | flush w =>
      rw [Entry.after_flush]
      exact ⟨_, hcoherent.flushing (fun _ => true) hopened hhonest.faithful, hsaved⟩
  | flushRoot w root =>
      rw [Entry.after_flushRoot]
      exact ⟨_, hcoherent.flushing (fun other => other.same root) hopened hhonest.faithful, hsaved⟩
  | evict w root =>
      rw [Entry.after_evict]
      have hflushed := hcoherent.flushing (fun other => other.same root) hopened hhonest.faithful
      exact ⟨_, hflushed.dropping root, hsaved⟩
  | other w w' =>
      have hcache : (Entry.other w w').after.cache = (Entry.other w w').before.cache := hdeed
      refine ⟨past, ?_, hopened⟩
      rw [hcache]
      exact hcoherent.congr_disk fun root hroot => hhonest.load rfl (hopened root hroot)

/-- A deed changes nothing of what is found. -/
theorem Remembers.tableIn_deed {e : Entry} (h : Remembers files roots log e.before)
    (honce : SpelledOnce roots) (hdeed : e.IsDeed) (hkept : e.Preserves files roots) {root : Path}
    (hroot : roots root) : tableIn e.after root = tableIn e.before root := by
  rcases h.coherent with ⟨past, hcoherent, hopened⟩
  -- What is written is read back, so a table that was forgotten is loaded as it was.
  cases e with
  | ran i r => exact hdeed.elim
  | flush w =>
      rw [Entry.after_flush]
      exact hcoherent.table_opened_flush (fun _ => true) hroot hkept.faithful
  | flushRoot w other =>
      rw [Entry.after_flushRoot]
      exact hcoherent.table_opened_flush (fun r => r.same other) hroot hkept.faithful
  | evict w other =>
      rw [Entry.after_evict]
      have hflushed := hcoherent.flushing (fun r => r.same other) hopened hkept.faithful
      have hdropped := @Coherent.table_opened_drop _ _ _ _ _ hflushed other root ?_ ?_
      · exact hdropped.trans
          (hcoherent.table_opened_flush (fun r => r.same other) hroot hkept.faithful)
      · intro slot hslot hsame
        exact Store.clean_flush hcoherent.proper hkept.written hslot hsame
      · intro slot hslot hsame
        rcases List.mem_append.1 (hflushed.opened slot hslot) with hpast | hnew
        · exact honce slot.root root (hopened slot.root hpast) hroot hsame
        · simp at hnew
  | other w w' =>
      have hcache : w'.cache = w.cache := hdeed
      exact tableIn_congr hcache (hkept.load rfl hroot)

/-! ## Everything that is done -/

theorem Trace.remembers (h : Trace files w₀ log w) (hempty : w₀.cache = .empty)
    (hnormal : ∀ file, files file → file.IsNormal)
    (hroots : ∀ file root key, files file → Addressed log file root key → roots root)
    (honce : SpelledOnce roots) (hkept : ∀ e ∈ log, e.Preserves files roots) :
    Remembers files roots log w := by
  -- Along the log: what is known of a file outlasts every entry that does not parse it.
  induction h with
  | start => exact Remembers.start hempty
  | @ran log i file r hold hfile hallowed ih =>
      have hpast := List.prefix_append log [.ran i r]
      have hlast := List.mem_append_right log (List.mem_singleton_self (Entry.ran i r))
      have h := ih (fun file root key hf ha => hroots file root key hf (ha.mono hpast))
        fun e he => hkept e (hpast.subset he)
      have hhere : ∀ root key, Addressed log file root key → roots root :=
        fun root key ha => hroots file root key hfile (ha.mono hpast)
      have hnow := hkept _ hlast
      refine Remembers.append (e := .ran i r) h hnow
        (Agrees.ran h.coherent hhere hallowed hnow.honest) ?_
      intro f root key hf hin hnone time
      exact h.tableIn_ran hnormal hhere honce hfile hallowed hnow hf
        (hroots f root key hf ⟨_, hlast, hin⟩) hin hnone time
  | @deed log e hold hdeed ih =>
      have hpast := List.prefix_append log [e]
      have hlast := List.mem_append_right log (List.mem_singleton_self e)
      have h := ih (fun file root key hf ha => hroots file root key hf (ha.mono hpast))
        fun e he => hkept e (hpast.subset he)
      have hnow := hkept e hlast
      refine h.append hnow (Agrees.deed h.coherent hdeed hnow.honest) ?_
      intro f root key hf hin _ time
      rw [h.tableIn_deed honce hdeed hnow (hroots f root key hf ⟨e, hlast, hin⟩)]

/-- Memory and files agree as long as writes do what they tell, whether they succeed or not. -/
theorem Trace.agrees (h : Trace files w₀ log w) (hempty : w₀.cache = .empty)
    (hroots : ∀ file root key, files file → Addressed log file root key → roots root)
    (hhonest : ∀ e ∈ log, e.Honest roots) : Agrees roots w := by
  induction h with
  | start => exact Agrees.start hempty
  | @ran log i file r hold hfile hallowed ih =>
      have hpast := List.prefix_append log [.ran i r]
      have hlast := List.mem_append_right log (List.mem_singleton_self (Entry.ran i r))
      have hbefore := ih (fun file root key hf ha => hroots file root key hf (ha.mono hpast))
        fun e he => hhonest e (hpast.subset he)
      exact hbefore.ran (fun root key ha => hroots file root key hfile (ha.mono hpast)) hallowed
        (hhonest _ hlast)
  | @deed log e hold hdeed ih =>
      have hpast := List.prefix_append log [e]
      have hlast := List.mem_append_right log (List.mem_singleton_self e)
      have hbefore := ih (fun file root key hf ha => hroots file root key hf (ha.mono hpast))
        fun e he => hhonest e (hpast.subset he)
      exact hbefore.deed hdeed (hhonest e hlast)

end

/-! ## Deeds in a row -/

/-- Deeds that lead from one world to another. -/
structure Deeds (w : World) (es : List Entry) (w' : World) : Prop where
  follows : Follows w es w'
  deeds : ∀ e ∈ es, e.IsDeed

namespace Deeds

variable {w w' w'' : World} {es es' : List Entry}

theorem none (w : World) : Deeds w [] w := ⟨rfl, by simp⟩

theorem single (e : Entry) (h : e.IsDeed) : Deeds e.before [e] e.after :=
  ⟨⟨rfl, rfl⟩, by simpa using h⟩

theorem append (h : Deeds w es w') (h' : Deeds w' es' w'') : Deeds w (es ++ es') w'' := by
  refine ⟨h.follows.append h'.follows, ?_⟩
  intro e he
  rcases List.mem_append.1 he with hfirst | hsecond
  · exact h.deeds e hfirst
  · exact h'.deeds e hsecond

end Deeds

/-- What deeds lead to can be reached. -/
theorem Reached.deeds {w₀ w : World} {x : Activity} (h : Reached w₀ x) {es : List Entry}
    (hes : Deeds x.world es w) : Reached w₀ ⟨w, x.calls, x.log ++ es⟩ := by
  rcases x with ⟨w', calls, log⟩
  induction es generalizing w' log with
  | nil =>
      have hsame : w = w' := hes.follows
      rw [hsame, List.append_nil]
      exact h
  | cons e rest ih =>
      have hbefore : e.before = w' := hes.follows.1
      have hone := h.deed e hbefore (hes.deeds e (List.mem_cons_self ..))
      have hrest : Deeds e.after rest w :=
        ⟨hes.follows.2, fun e' he' => hes.deeds e' (List.mem_cons_of_mem e he')⟩
      have hmore := ih _ _ hone hrest
      rw [List.append_assoc] at hmore
      exact hmore

/-! ## The end of a workspace -/

/-- A project is disposed of: it is watched no longer, its table is written out and forgotten, and
its terminal is closed. -/
def disposal (id : ProjectId) (w : World) : List Entry :=
  let unwatched := w.updateProject id fun p => { p with watching := false }
  let evicted := Entry.evict unwatched (unwatched.root id)
  [.other w unwatched, evicted,
    .other evicted.after ((Terminal.close (unwatched.root id)).run evicted.after).2]

theorem deeds_dispose (id : ProjectId) (w : World) :
    Deeds w (disposal id w) ((Project.dispose id).run w).2 := by
  refine ⟨⟨rfl, rfl, rfl, rfl⟩, ?_⟩
  intro e he
  simp only [disposal, List.mem_cons, List.not_mem_nil, or_false] at he
  rcases he with rfl | rfl | rfl
  · exact rfl
  · exact trivial
  · exact rfl

def disposals : List ProjectId → World → List Entry
  | [], _ => []
  | id :: rest, w => disposal id w ++ disposals rest ((Project.dispose id).run w).2

theorem deeds_disposeEach (ids : List ProjectId) (w : World) :
    Deeds w (disposals ids w) ((Registry.disposeEach ids).run w).2 := by
  induction ids generalizing w with
  | nil => exact Deeds.none w
  | cons id rest ih => exact (deeds_dispose id w).append (ih _)

/-- The world once all projects are disposed of and the clock is stopped. -/
def stopped (w : World) : World :=
  { ((Registry.disposeEach w.registry).run { w with registry := [] }).2 with flusher := none }

def stopping (w : World) : List Entry :=
  let cleared := { w with registry := [] }
  .other w cleared :: disposals w.registry cleared ++
    [.other ((Registry.disposeEach w.registry).run cleared).2 (stopped w)]

theorem deeds_stopped (w : World) : Deeds w (stopping w) (stopped w) := by
  let cleared := { w with registry := [] }
  let disposed := ((Registry.disposeEach w.registry).run cleared).2
  have hclear : Deeds w [.other w cleared] cleared := Deeds.single (.other w cleared) rfl
  have hdispose : Deeds cleared (disposals w.registry cleared) disposed :=
    deeds_disposeEach w.registry cleared
  have hstop : Deeds disposed [.other disposed (stopped w)] (stopped w) :=
    Deeds.single (.other disposed (stopped w)) rfl
  exact (hclear.append hdispose).append hstop

/-- All projects are disposed of, the clock is stopped and everything is written out. -/
def shutDownEntries (w : World) : List Entry := stopping w ++ [.flush (stopped w)]

theorem deeds_shutDown (w : World) :
    Deeds w (shutDownEntries w) (Workspace.shutDown.run w).2 := by
  have hflush : Deeds (stopped w) [.flush (stopped w)] (Entry.flush (stopped w)).after :=
    Deeds.single (.flush (stopped w)) trivial
  exact (deeds_stopped w).append hflush

/-! ## Folders and the clock -/

/-- An act that consists of deeds. -/
def ByDeeds {α : Type} (m : Act α) : Prop := ∀ w, ∃ es, Deeds w es (m.run w).2

namespace ByDeeds

variable {α β : Type}

theorem done (a : α) : ByDeeds (pure a) := fun w => ⟨[], Deeds.none w⟩

theorem bind {m : Act α} {f : α → Act β} (hm : ByDeeds m) (hf : ∀ a, ByDeeds (f a)) :
    ByDeeds (m >>= f) := by
  intro w
  rcases hm w with ⟨es, hes⟩
  rcases hf (m.run w).1 (m.run w).2 with ⟨es', hes'⟩
  exact ⟨es ++ es', hes.append hes'⟩

/-- A change that leaves the cache alone is a deed. -/
theorem change {f : World → World} (h : ∀ w, (f w).cache = w.cache) :
    ByDeeds (modify f : Act Unit) :=
  fun w => ⟨_, Deeds.single (.other w (f w)) (h w)⟩

theorem world : ByDeeds Act.world := fun w => ⟨[], Deeds.none w⟩

theorem flush : ByDeeds Caching.flush := fun w => ⟨_, Deeds.single (.flush w) trivial⟩

end ByDeeds

theorem byDeeds_create (root : Path) : ByDeeds (Project.create root) := by
  refine ByDeeds.world.bind fun w => ?_
  refine ByDeeds.bind (ByDeeds.change fun _ => rfl) fun _ => ?_
  refine ByDeeds.bind (ByDeeds.change fun _ => rfl) fun _ => ?_
  exact ByDeeds.bind (ByDeeds.change fun _ => rfl) fun _ => ByDeeds.done _

theorem byDeeds_add (root : Path) : ByDeeds (Registry.add root) := by
  refine ByDeeds.world.bind fun w => ?_
  simp only
  split
  · exact ByDeeds.done none
  · split
    · exact ByDeeds.done _
    · refine (byDeeds_create _).bind fun id => ?_
      refine ByDeeds.bind (ByDeeds.change fun _ => rfl) fun _ => ?_
      split
      · exact ByDeeds.bind (ByDeeds.change fun _ => rfl) fun _ => ByDeeds.done _
      · exact ByDeeds.done _

theorem byDeeds_openFolders (folders : List Path) : ByDeeds (Workspace.openFolders folders) := by
  induction folders with
  | nil => exact ByDeeds.done []
  | cons folder rest ih =>
      refine (byDeeds_add folder).bind fun opened => ?_
      exact ih.bind fun others => ByDeeds.done _

theorem byDeeds_remove (root : Path) : ByDeeds (Registry.remove root) := by
  refine ByDeeds.world.bind fun w => ?_
  split
  · rename_i id _
    have hdispose : ByDeeds (Project.dispose id) := fun w => ⟨_, deeds_dispose id w⟩
    refine ByDeeds.bind (ByDeeds.change fun _ => rfl) fun _ => ?_
    exact hdispose.bind fun _ => ByDeeds.done true
  · exact ByDeeds.done false

theorem byDeeds_removeFolders (folders : List Path) :
    ByDeeds (Workspace.removeFolders folders) := by
  induction folders with
  | nil => exact ByDeeds.done ()
  | cons folder rest ih => exact (byDeeds_remove folder).bind fun _ => ih

theorem byDeeds_foldersChanged (added removed : List Path) :
    ByDeeds (Workspace.foldersChanged added removed) :=
  (byDeeds_openFolders added).bind fun _ => byDeeds_removeFolders removed

theorem byDeeds_setClock (time : Nat) : ByDeeds (Schedule.setClock time) := by
  refine ByDeeds.bind (ByDeeds.change fun _ => rfl) fun _ => ?_
  refine ByDeeds.world.bind fun w => ?_
  split
  · split
    · exact ByDeeds.flush.bind fun _ => ByDeeds.change fun _ => rfl
    · exact ByDeeds.done ()
  · exact ByDeeds.done ()

/-- Whenever folders come and go or the clock is set, what follows can be reached. -/
theorem Reached.byDeeds {w₀ : World} {x : Activity} (h : Reached w₀ x) {α : Type} {m : Act α}
    (hm : ByDeeds m) :
    ∃ es : List Entry, Reached w₀ ⟨(m.run x.world).2, x.calls, x.log ++ es⟩ := by
  rcases hm x.world with ⟨es, hes⟩
  exact ⟨es, h.deeds hes⟩

/-! ## A parse that finds its document -/

/-- Nobody has the parser or waits for it. -/
def IsFree (w : World) (p : Parser) : Prop := w.turns p = []

theorem poll_lift {α β : Type} (m : Act β) (next : β → Work α) (w : World) :
    ((Task.lift m : Work β).bind next).poll World.isReady w =
      (next (m.run w).1).poll World.isReady (m.run w).2 := rfl

theorem address?_of_isFile {t : FileTree} {file root : Path} {key : String}
    (hfile : t.isFile file = true) (h : IsAddressIn t file root key) :
    Parsing.address? t file = some (root, key) := by
  simp [Parsing.address?, hfile, h.1, h.2]

/-- What a fetch goes on with, once it has looked in the cache. -/
def fetchAfter (p : Parser) (root : Path) (key : String) (file : Path) :
    Found → Work (Option Document)
  | .unreadable => .done none
  | .cached d => .done (some d)
  | .missing modified => (Task.lift Act.world).bind fun now =>
    (Work.run (p.invocation now file)).bind fun outcome =>
      Task.lift (Parsing.conclude root key file modified (Parsing.verdict outcome))

theorem poll_fetch (p : Parser) {w : World} {file root : Path} {key : String} {d : Document}
    (hfound : ((Parsing.lookUp root key file).run w).1 = .cached d) :
    (Parsing.fetch p root key file).poll World.isReady w =
      (.done (some d), ((Parsing.lookUp root key file).run w).2) := by
  have hfetch := poll_lift (Parsing.lookUp root key file) (fetchAfter p root key file) w
  rw [hfound] at hfetch
  exact hfetch

section

variable {p : Parser} {w : World} {α : Type} {body : Work α}

/-- Who is alone with a parser gets its turn at once. -/
theorem poll_inTurn_eq (hfree : IsFree w p) : (p.inTurn body).poll World.isReady w =
    (Task.guarded body (Parser.leave p w.nextTicket) .done).poll World.isReady (queued p w) := by
  have hrun : (p.inTurn body).poll World.isReady w = (Task.guarded
    (.await (.turn p w.nextTicket) body) (Parser.leave p w.nextTicket) .done).poll World.isReady
      (queued p w) := rfl
  -- Its ticket is the only one, and so the first.
  have hready : World.isReady (.turn p w.nextTicket) (queued p w) = true := by
    rw [World.isReady, turns_queued, if_pos rfl, hfree]
    simp
  rw [hrun]
  simp only [Task.poll, hready, if_true]

theorem poll_inTurn (hfree : IsFree w p) {a : α}
    (hbody : ∀ w', w'.cache = w.cache → w'.files = w.files → w'.runner = w.runner →
      ∃ w'', body.poll World.isReady w' = (.done a, w'') ∧ w''.files = w'.files ∧
        w''.runner = w'.runner) :
    ∃ w', (p.inTurn body).poll World.isReady w = (.done a, w') ∧ w'.files = w.files ∧
      w'.runner = w.runner := by
  rcases hbody (queued p w) rfl rfl rfl with ⟨w', hpoll, hfiles, hrunner⟩
  refine ⟨Parser.leave p w.nextTicket w', ?_, hfiles, hrunner⟩
  rw [poll_inTurn_eq hfree]
  simp only [Task.poll, hpoll, Task.result?]

/-- What was started in the turn is what was started. -/
theorem runner_poll_inTurn (hfree : IsFree w p) : ((p.inTurn body).poll World.isReady w).2.runner =
    (body.poll World.isReady (queued p w)).2.runner := by
  rw [poll_inTurn_eq hfree]
  rcases Task.poll_guarded_cases World.isReady body (Parser.leave p w.nextTicket) .done (queued p w)
    with ⟨a, -, hpoll⟩ | ⟨-, hpoll⟩
  · rw [hpoll]
    rfl
  · rw [hpoll]

end

theorem poll_address {p : Parser} {w : World} {file root : Path} {key : String}
    (haddress : Parsing.address? w.files file = some (root, key)) :
    (Parsing.parse p file).poll World.isReady w =
      (p.inTurn (Parsing.fetch p root key file)).poll World.isReady w := by
  have hlift := poll_lift Act.world (fun now => parseIn p file now.files) w
  have hnow : Act.world.run w = (w, w) := rfl
  rw [hnow] at hlift
  simp only [parseIn_some haddress] at hlift
  exact hlift

/-- A parse with nothing in memory, of a file whose document can be loaded. -/
theorem poll_parse {p : Parser} {w : World} {file root : Path} {key : String} {modified : Nat}
    {d : Document} (haddress : Parsing.address? w.files file = some (root, key))
    (htime : modifiedMillis w.files file = .ok modified) (hcache : w.cache = .empty)
    (hfound : (onFiles.load w.files root).get? key modified = some d) (hfree : IsFree w p) :
    ∃ w', (Parsing.parse p file).poll World.isReady w = (.done (some d), w') ∧
      w'.files = w.files ∧ w'.runner = w.runner := by
  rw [poll_address haddress]
  refine poll_inTurn hfree ?_
  intro w' hcache' hfiles' _
  have htime' : modifiedMillis w'.files file = .ok modified := by
    rw [hfiles']
    exact htime
  have hhit : (w'.cache.lookup onFiles w'.files root key modified).1 = some d := by
    rw [Store.lookup_eq, hcache', hcache, hfiles', Store.opened_empty]
    exact hfound
  have hcached : ((Parsing.lookUp root key file).run w').1 = .cached d := by
    rw [run_lookUp_ok htime', hhit]
  have hframe := lookUp_frame root key file w'
  exact ⟨_, poll_fetch p hcached, hframe.1, hframe.2⟩

/-! ## After a restart -/

/-- The activity once the workspace is shut down. -/
def ended (x : Activity) : Activity :=
  ⟨(Workspace.shutDown.run x.world).2, x.calls, x.log ++ shutDownEntries x.world⟩

theorem Reached.ended {w₀ : World} {x : Activity} (h : Reached w₀ x) : Reached w₀ x.ended :=
  h.deeds (deeds_shutDown x.world)

theorem not_parses_of_isDeed {e : Entry} (h : e.IsDeed) {file : Path} {modified : Nat}
    {d : Document} : ¬ e.Parses file modified d := by
  rintro ⟨call, root, key, -, ⟨heq, -⟩ | heq⟩
  · rw [heq] at h
    exact h
  · rw [heq] at h
    exact h

/-- Deeds parse nothing. -/
theorem LastParse.append {log es : List Entry} {file : Path} {modified : Nat} {d : Document}
    (h : LastParse log file modified d) (hes : ∀ e ∈ es, e.IsDeed) :
    LastParse (log ++ es) file modified d := by
  rcases h with ⟨front, e, back, rfl, hparses, hlater⟩
  refine ⟨front, e, back ++ es, by simp, hparses, ?_⟩
  intro e' he'
  rcases List.mem_append.1 he' with hback | hdeed
  · exact hlater e' hback
  · intro modified' d'
    exact not_parses_of_isDeed (hes e' hdeed)

theorem IsRoot.isNormal {w₀ : World} {x : Activity} (h : Reached w₀ x) {root : Path}
    (hroot : x.IsRoot root) : root.IsNormal := by
  rcases hroot with ⟨file, key, hfile, e, _, hin⟩
  exact hin.isAddress.root_isNormal (h.asked_isNormal hfile)

theorem IsRoot.spelledOnce {w₀ : World} {x : Activity} (h : Reached w₀ x) :
    SpelledOnce x.IsRoot := fun _ _ hr hr' hsame =>
  (IsRoot.isNormal h hr).eq_of_same (IsRoot.isNormal h hr') (Path.same_iff.1 hsame)

/-- Where nothing is marked, files hold what is found. -/
theorem Remembers.load_eq {files roots : Path → Prop} {log : List Entry} {w : World}
    (h : Remembers files roots log w) (honce : SpelledOnce roots)
    (hclean : ∀ slot ∈ w.cache.slots, slot.dirty = false) {root : Path} (hroot : roots root) :
    onFiles.load w.files root = tableIn w root := by
  rcases h.coherent with ⟨past, hcoherent, hopened⟩
  cases hfound : w.cache.slot? root with
  | none => rw [tableIn, Store.opened, hfound, Option.getD_none]
  | some slot =>
      have hmem := Store.mem_of_slot? hfound
      have hload := hcoherent.clean slot hmem (hclean slot hmem)
      have heq : slot.root = root :=
        honce slot.root root (hopened slot.root (hcoherent.opened slot hmem)) hroot
          (Store.root_of_slot? hfound)
      rw [heq] at hload
      rw [tableIn, Store.opened, hfound, Option.getD_some]
      exact hload

/-- The end leaves nothing marked. -/
theorem Reached.clean_ended {w₀ : World} {x : Activity} (h : Reached w₀ x)
    (hempty : w₀.cache = .empty) (hkept : ∀ e ∈ x.ended.log, e.Preserves (asked x) x.ended.IsRoot) :
    ∀ slot ∈ x.ended.world.cache.slots, slot.dirty = false := by
  have hlog : x.ended.log = (x.log ++ stopping x.world) ++ [.flush (stopped x.world)] :=
    (List.append_assoc _ _ _).symm
  have hpast : x.log ++ stopping x.world <+: x.ended.log := by
    rw [hlog]
    exact List.prefix_append _ _
  have hflush : Entry.flush (stopped x.world) ∈ x.ended.log := by
    rw [hlog]
    exact List.mem_append_right _ (List.mem_singleton_self _)
  have hstopped := (h.deeds (deeds_stopped x.world)).trace
  have hroots : ∀ file root key, asked x file →
      Addressed (x.log ++ stopping x.world) file root key →
      x.ended.IsRoot root := fun file root key hfile ha => ⟨file, key, hfile, ha.mono hpast⟩
  have hremembers := hstopped.remembers hempty (fun file hfile => h.asked_isNormal hfile) hroots
    (IsRoot.spelledOnce h.ended) fun e he => hkept e (hpast.subset he)
  rcases hremembers.coherent with ⟨past, hcoherent, _⟩
  intro slot hslot
  exact Store.clean_flush hcoherent.proper (hkept _ hflush).written hslot rfl

/-- When a workspace was shut down, the next one finds what was parsed last under the time that the
file still has, and starts no program for it. -/
theorem Reached.parse_after_restart {w₀ : World} {x : Activity} (h : Reached w₀ x)
    (hempty : w₀.cache = .empty) (hkept : ∀ e ∈ x.ended.log, e.Preserves (asked x) x.ended.IsRoot)
    {file : Path} {modified : Nat} {d : Document} (hasked : asked x file)
    (hlast : LastParse x.log file modified d) {w : World} (hcache : w.cache = .empty)
    (hfiles : w.files = (Workspace.shutDown.run x.world).2.files)
    (hfile : w.files.isFile file = true) (htime : modifiedMillis w.files file = .ok modified)
    {p : Parser} (hfree : IsFree w p) :
    ∃ w', (Parsing.parse p file).poll World.isReady w = (.done (some d), w') ∧
      w'.files = w.files ∧ w'.runner = w.runner := by
  have hremembers : Remembers (asked x) x.ended.IsRoot x.ended.log x.ended.world := by
    refine h.ended.trace.remembers hempty (fun f hf => h.asked_isNormal hf) ?_
      (IsRoot.spelledOnce h.ended) hkept
    intro f root key hf ha
    exact ⟨f, key, hf, ha⟩
  -- The file has an address, since it was parsed.
  have haddress : ∃ root key, Addressed x.ended.log file root key := by
    rcases hlast with ⟨front, e, back, hlog, ⟨call, root, key, hin, _⟩, _⟩
    refine ⟨root, key, e, ?_, hin⟩
    exact List.mem_append_left _ (by simp [hlog])
  rcases haddress with ⟨root, key, haddressed⟩
  have hroot : x.ended.IsRoot root := ⟨file, key, hasked, haddressed⟩
  have hin : IsAddressIn x.ended.world.files file root key :=
    hremembers.address file root key hasked haddressed
  have hfound : (onFiles.load w.files root).get? key modified = some d := by
    have hload := hremembers.load_eq (IsRoot.spelledOnce h.ended) (h.clean_ended hempty hkept) hroot
    have hworld : w.files = x.ended.world.files := hfiles
    rw [hworld, hload]
    exact hremembers.last file root key modified d hasked
      (hlast.append (deeds_shutDown x.world).deeds) hin
  have hin' : IsAddressIn w.files file root key := by
    rw [hfiles]
    exact hin
  exact poll_parse (address?_of_isFile hfile hin') htime hcache hfound hfree

/-! ## Two folders with one cache file -/

/-- The left file is parsed. -/
def once : Activity where
  world := stage (resting 1) twins [⟨⟨"/left"⟩, table, true⟩] [printing]
  calls := [⟨⟨"/left/t.py"⟩, _, .parse parser, .done (some Table.plain)⟩]
  log := firstRuns.map (.ran 0)

theorem reached_once : Reached (stage (resting 0) twins [] []) once := by
  have hnormal : (⟨"/left/t.py"⟩ : Path).IsNormal := by decide
  have hstart : Reached (stage (resting 0) twins [] [])
    ⟨stage (resting 0) twins [] [], [], []⟩ := .start
  have hasked := hstart.ask (.parse parser) hnormal
  have hsteps := hasked.steps (i := 0) rfl steps_first
  exact hsteps

/-- The run that prints the outline of the other right file, and its table. -/
def printingOther : Invocation := .here "py" ["/s/outline.py", "/right/u.py"]

def otherTable : Table := Table.empty.insert "u.py" 7 Table.plain

def otherRuns : List (Ran World) :=
  stageRuns 1 [⟨⟨"/left"⟩, table, true⟩] [printing] ⟨"/right/u.py"⟩ ⟨"/right"⟩ "u.py"

theorem steps_other : Steps (Parsing.parse parser ⟨"/right/u.py"⟩)
    (stage (resting 1) twins [⟨⟨"/left"⟩, table, true⟩] [printing]) otherRuns
    (.done (some Table.plain))
    (stage (resting 2) twins [⟨⟨"/left"⟩, table, true⟩, ⟨⟨"/right"⟩, otherTable, true⟩]
      [printing, printingOther]) := by
  refine steps_stage placed_twins.2.2.time (load_twins (Or.inr rfl)) ?_ 1 placed_twins.2.2.address
  intro slot hslot
  rw [List.mem_singleton.1 hslot]
  decide

/-- Then the other right file is parsed. -/
def both : Activity where
  world := stage (resting 2) twins [⟨⟨"/left"⟩, table, true⟩, ⟨⟨"/right"⟩, otherTable, true⟩]
    [printing, printingOther]
  calls :=
    [⟨⟨"/left/t.py"⟩, _, .parse parser, .done (some Table.plain)⟩,
      ⟨⟨"/right/u.py"⟩, _, .parse parser, .done (some Table.plain)⟩]
  log := firstRuns.map (.ran 0) ++ otherRuns.map (.ran 1)

theorem reached_both : Reached (stage (resting 0) twins [] []) both := by
  have hnormal : (⟨"/right/u.py"⟩ : Path).IsNormal := by decide
  have hasked := reached_once.ask (.parse parser) hnormal
  have hsteps := hasked.steps (i := 1) rfl steps_other
  exact hsteps

/-- A parse writes nothing. -/
theorem files_stageRuns {tickets : Nat} {slots : List Slot} {calls : List Invocation}
    {file root : Path} {key : String} {i : Nat} {e : Entry}
    (he : e ∈ (stageRuns tickets slots calls file root key).map (.ran i)) :
    e.writes = [] ∧ e.before.files = twins ∧ e.after.files = twins := by
  simp only [stageRuns, turnRuns, missRuns, List.map_cons, List.map_nil, List.cons_append,
    List.nil_append, List.mem_cons, List.not_mem_nil, or_false] at he
  rcases he with rfl | rfl | rfl | rfl | rfl | rfl | rfl | rfl | rfl
  · exact ⟨rfl, rfl, rfl⟩
  · exact ⟨rfl, rfl, rfl⟩
  · exact ⟨rfl, rfl, rfl⟩
  · exact ⟨rfl, rfl, (lookUp_frame root key file (stage (busy tickets) twins slots calls)).1⟩
  · exact ⟨rfl, rfl, rfl⟩
  · have hlaunch := run_launch_stage (.here "py" ["/s/outline.py", file.text]) (busy tickets) twins
      (slots ++ [⟨root, .empty, false⟩]) calls
    exact ⟨rfl, rfl, congrArg (fun ran => ran.2.files) hlaunch⟩
  · exact ⟨rfl, rfl, rfl⟩
  · exact ⟨rfl, rfl, rfl⟩
  · exact ⟨rfl, rfl, rfl⟩

theorem runner_stage (base : World) (files : FileTree) (slots : List Slot)
    (calls : List Invocation) : (stage base files slots calls).runner =
      .script ⟨[("", .outcome Table.output)], [], calls⟩ := rfl

/-- The clock is stopped. -/
def halted (tickets : Nat) (files : FileTree) (slots : List Slot) (calls : List Invocation) :
    World :=
  { stage (resting tickets) files slots calls with flusher := none }

section

variable (tickets : Nat) (files : FileTree) (slots : List Slot) (calls : List Invocation)

theorem shutDownEntries_stage : shutDownEntries (stage (resting tickets) files slots calls) =
    [.other (stage (resting tickets) files slots calls) (stage (resting tickets) files slots calls),
      .other (stage (resting tickets) files slots calls) (halted tickets files slots calls),
      .flush (halted tickets files slots calls)] := rfl

theorem files_shutDown_stage :
    (Workspace.shutDown.run (stage (resting tickets) files slots calls)).2.files =
      (Store.flush onFiles ⟨slots⟩ files fun _ => true).2.2 := rfl

theorem files_flush_halted : (Entry.flush (halted tickets files slots calls)).after.files =
    (Store.flush onFiles ⟨slots⟩ files fun _ => true).2.2 := rfl

theorem writes_flush_halted : (Entry.flush (halted tickets files slots calls)).writes =
    Store.writes onFiles ⟨slots⟩ files fun _ => true := rfl

end

/-- Nothing is written before the last flush. -/
theorem mem_ended {tickets : Nat} {slots : List Slot} {calls : List Invocation} {asks : List Call}
    {log : List Entry} (hlog : ∀ e ∈ log,
      e.writes = [] ∧ e.before.files = twins ∧ e.after.files = twins) {e : Entry}
    (he : e ∈ (ended ⟨stage (resting tickets) twins slots calls, asks, log⟩).log) :
    (e.writes = [] ∧ e.before.files = twins ∧ e.after.files = twins) ∨
      e = .flush (halted tickets twins slots calls) := by
  rcases List.mem_append.1 he with hran | hend
  · exact Or.inl (hlog e hran)
  · rw [shutDownEntries_stage] at hend
    simp only [List.mem_cons, List.not_mem_nil, or_false] at hend
    rcases hend with rfl | rfl | rfl
    · exact Or.inl ⟨rfl, rfl, rfl⟩
    · exact Or.inl ⟨rfl, rfl, rfl⟩
    · exact Or.inr rfl

/-- The folders whose tables an entry would open in an empty memory. -/
def opens : Entry → List Path
  | .ran _ r => (r.act (stage (resting 0) twins [] [])).2.cache.slots.map (·.root)
  | _ => []

theorem opens_lookUp {file root : Path} {key : String} (htime : modifiedMillis twins file = .ok 7)
    (hload : onFiles.load twins root = .empty) :
    ((Parsing.lookUp root key file).run
        (stage (resting 0) twins [] [])).2.cache.slots.map (·.root) =
      [root] := by
  rw [run_lookUp_stage htime hload (by simp), cache_stage]
  rfl

theorem opens_put (root : Path) (key : String) (modified : Nat) (d : Document) :
    (Store.put onFiles ⟨[]⟩ twins root key modified d).slots.map (·.root) = [root] := by
  simp [Store.put, Store.open?, Store.slot?, Store.modify, Path.same_refl]

theorem opens_of_parses {e : Entry} (hbefore : e.before.files = twins) {modified : Nat}
    {d : Document} (h : e.Parses ⟨"/left/t.py"⟩ modified d) : opens e = [⟨"/left"⟩] := by
  rcases h with ⟨call, root, key, hin, hparse⟩
  have hroot : root = ⟨"/left"⟩ := by
    have hfound := hin.1
    rw [hbefore, (cacheRoot?_twins (Or.inl rfl)).1] at hfound
    exact (Option.some.inj hfound).symm
  rw [hroot] at hparse
  rcases hparse with ⟨heq, -⟩ | heq
  · rw [heq]
    exact opens_lookUp placed_twins.1.time (load_twins (Or.inl rfl))
  · rw [heq]
    exact opens_put ⟨"/left"⟩ key modified d

theorem parses_left : (Entry.ran 0
    ⟨stage (busy 0) twins [⟨⟨"/left"⟩, .empty, false⟩] [printing], _,
      (Parsing.conclude ⟨"/left"⟩ "t.py" ⟨"/left/t.py"⟩ 7 (.parsed Table.plain)).run⟩).Parses
        ⟨"/left/t.py"⟩ 7 Table.plain :=
  ⟨0, ⟨"/left"⟩, "t.py", isAddressIn_of_address? placed_twins.1.address, Or.inr rfl⟩

/-- The call for the left file gives up its turn. -/
def leaving : Entry :=
  .ran 0 (.change (stage (busy 0) twins [⟨⟨"/left"⟩, table, true⟩] [printing])
    (Parser.leave parser 0))

theorem not_parses_leaving {modified : Nat} {d : Document} :
    ¬ leaving.Parses ⟨"/left/t.py"⟩ modified d := by
  intro hparses
  have hnone : opens leaving = [] := rfl
  rw [opens_of_parses rfl hparses] at hnone
  exact absurd hnone (by simp)

theorem lastParse_once : LastParse once.log ⟨"/left/t.py"⟩ 7 Table.plain := by
  refine ⟨(firstRuns.take 7).map (.ran 0), _, [leaving], rfl, parses_left, ?_⟩
  intro e he modified d
  rw [List.mem_singleton.1 he]
  exact not_parses_leaving

theorem once_asked {file : Path} (h : once.asked file) : file = ⟨"/left/t.py"⟩ := by
  rcases h with ⟨c, hc, rfl⟩
  rw [List.mem_singleton.1 hc]

theorem once_root {root : Path} (h : once.ended.IsRoot root) : root = ⟨"/left"⟩ := by
  rcases h with ⟨file, key, hfile, e, he, hroot, -⟩
  have hleft : file = ⟨"/left/t.py"⟩ := once_asked hfile
  have htree : e.before.files = twins := by
    rcases mem_ended (fun e he => files_stageRuns he) he with hquiet | rfl
    · exact hquiet.2.1
    · rfl
  rw [hleft, htree, (cacheRoot?_twins (Or.inl rfl)).1] at hroot
  exact (Option.some.inj hroot).symm

theorem files_ended_once : (Workspace.shutDown.run once.world).2.files = filed := by
  rw [once, files_shutDown_stage, (flush_table rfl).1]

/-- The left file alone is found after a restart. -/
theorem parse_after_restart_left :
    Reached (stage (resting 0) twins [] []) once ∧
    (∀ e ∈ once.ended.log, e.Preserves once.asked once.ended.IsRoot) ∧
    LastParse once.log ⟨"/left/t.py"⟩ 7 Table.plain ∧
    ∃ w', (Parsing.parse parser ⟨"/left/t.py"⟩).poll World.isReady (stage (resting 0) filed [] []) =
      (.done (some Table.plain), w') ∧ w'.files = (stage (resting 0) filed [] []).files ∧
        w'.runner = (stage (resting 0) filed [] []).runner := by
  have hkept : ∀ e ∈ once.ended.log, e.Preserves once.asked once.ended.IsRoot := by
    intro e he
    rcases mem_ended (fun e he => files_stageRuns he) he with ⟨hwrites, hbefore, hafter⟩ | rfl
    · refine ⟨?_, ?_, ?_, ?_⟩
      · simp [hwrites]
      · simp [hwrites]
      · intro root _
        rw [hwrites, hbefore, hafter]
        rfl
      · intro file _
        rw [hbefore, hafter]
    · have hwrites : (Entry.flush (halted 1 twins [⟨⟨"/left"⟩, table, true⟩]
          [printing])).writes = [writing] := by
        rw [writes_flush_halted, (flush_table rfl).2]
      have hafter : (Entry.flush (halted 1 twins [⟨⟨"/left"⟩, table, true⟩]
          [printing])).after.files = filed := by
        rw [files_flush_halted, (flush_table rfl).1]
      refine ⟨?_, ?_, ?_, ?_⟩
      · intro w hw
        rw [hwrites, List.mem_singleton] at hw
        rw [hw]
        rfl
      · intro w hw
        rw [hwrites, List.mem_singleton] at hw
        rw [hw]
        refine ⟨fun hlost => by simp [writing] at hlost, fun _ => load_left, ?_⟩
        intro r hr hother
        rw [once_root hr] at hother
        exact absurd hother (by decide)
      · intro root _
        rw [hwrites, hafter]
        rfl
      · intro file hfile
        rw [hafter, once_asked hfile, (cacheRoot?_twins (Or.inr rfl)).1]
        exact (cacheRoot?_twins (Or.inl rfl)).1.symm
  refine ⟨reached_once, hkept, lastParse_once, ?_⟩
  exact reached_once.parse_after_restart rfl hkept ⟨_, List.mem_singleton_self _, rfl⟩
    lastParse_once rfl files_ended_once.symm placed_filed.1.isFile placed_filed.1.time rfl

/-! ### The table of the left folder is overwritten -/

/-- The tree once both tables are written. -/
def filedOther : FileTree := ((otherTable.save (Cache.fileOf ⟨"/right"⟩)).on filed).2

theorem save_other :
    (otherTable.save (Cache.fileOf ⟨"/right"⟩)).on filed = (.ok (), filedOther) := by
  have hsaved : ((otherTable.save (Cache.fileOf ⟨"/right"⟩)).on filed).1 = .ok () := by
    decide +kernel
  rw [filedOther, ← hsaved]

theorem onFiles_save_other : onFiles.save filed ⟨"/right"⟩ otherTable = (true, filedOther) := by
  simp only [onFiles, save_other]
  rfl

/-- The dirs of a tree. -/
def dirs (t : FileTree) : List Location :=
  t.nodes.filterMap fun entry => match entry.2 with
    | .dir => some entry.1
    | _ => none

/-- The left file keeps its place, no folder is made, and either folder has the same cache file. -/
theorem placed_filedOther : Placed filedOther ⟨"/left/t.py"⟩ ⟨"/left"⟩ "t.py" ∧
    dirs filedOther = dirs twins ∧
    filedOther.location? (Cache.fileOf ⟨"/left"⟩) = some ["left", ".vscode", "python.cache"] ∧
    filedOther.location? (Cache.fileOf ⟨"/right"⟩) = some ["left", ".vscode", "python.cache"] := by
  decide +kernel

theorem load_right_other : onFiles.load filedOther ⟨"/right"⟩ = otherTable := by
  have hkey : ProjectFiles.cacheKey? ⟨"/right"⟩ ⟨"/right/u.py"⟩ = some "u.py" :=
    (isAddressIn_of_address? placed_twins.2.2.address).2
  have hstored : Table.Stored otherTable := Table.Stored.empty.insert (Table.storable_plain hkey)
  have hkept : otherTable.IsKept := by decide +kernel
  rw [Cache.onFiles_load, Table.load_of_save hstored.sorted hstored.sound save_other, if_pos hkept]

theorem load_left_other : onFiles.load filedOther ⟨"/left"⟩ = otherTable := by
  rcases placed_filedOther with ⟨-, -, hleft, hright⟩
  rw [Cache.onFiles_load, Table.load_congr hleft hright, ← Cache.onFiles_load, load_right_other]

def writingOther : Cache.Write FileTree := ⟨filed, ⟨"/right"⟩, otherTable, true, filedOther⟩

theorem flush_both :
    Store.flush onFiles ⟨[⟨⟨"/left"⟩, table, true⟩, ⟨⟨"/right"⟩, otherTable, true⟩]⟩ twins
        (fun _ => true) =
      (2, ⟨[⟨⟨"/left"⟩, table, false⟩, ⟨⟨"/right"⟩, otherTable, false⟩]⟩, filedOther) ∧
    Store.writes onFiles ⟨[⟨⟨"/left"⟩, table, true⟩, ⟨⟨"/right"⟩, otherTable, true⟩]⟩ twins
        (fun _ => true) = [writing, writingOther] := by
  refine ⟨?_, ?_⟩
  · simp [Store.flush, Store.takeDirty, Store.writeOut, Store.writeOne, save_left,
      onFiles_save_other]
  · simp [Store.writes, Store.takeDirty, Store.writeLog, writing, writingOther, save_left,
      onFiles_save_other]

theorem files_ended_both : (Workspace.shutDown.run both.world).2.files = filedOther := by
  rw [both, files_shutDown_stage, flush_both.1]

theorem opens_stageRuns {tickets : Nat} {slots : List Slot} {calls : List Invocation}
    {file root : Path} {key : String} (htime : modifiedMillis twins file = .ok 7)
    (hload : onFiles.load twins root = .empty) {i : Nat} {e : Entry}
    (he : e ∈ (stageRuns tickets slots calls file root key).map (.ran i)) :
    opens e = [] ∨ opens e = [root] := by
  simp only [stageRuns, turnRuns, missRuns, List.map_cons, List.map_nil, List.cons_append,
    List.nil_append, List.mem_cons, List.not_mem_nil, or_false] at he
  rcases he with rfl | rfl | rfl | rfl | rfl | rfl | rfl | rfl | rfl
  · exact Or.inl rfl
  · exact Or.inl rfl
  · exact Or.inl rfl
  · exact Or.inr (opens_lookUp htime hload)
  · exact Or.inl rfl
  · have hlaunch :=
      run_launch_stage (.here "py" ["/s/outline.py", file.text]) (resting 0) twins [] []
    exact Or.inl (congrArg (fun ran => ran.2.cache.slots.map (·.root)) hlaunch)
  · exact Or.inl rfl
  · exact Or.inr (opens_put root key 7 Table.plain)
  · exact Or.inl rfl

/-- The left file is not parsed again. -/
theorem not_parses_other {e : Entry} (he : e ∈ otherRuns.map (.ran 1)) {modified : Nat}
    {d : Document} : ¬ e.Parses ⟨"/left/t.py"⟩ modified d := by
  intro hparses
  have hleft := opens_of_parses (files_stageRuns he).2.1 hparses
  rcases opens_stageRuns placed_twins.2.2.time (load_twins (Or.inr rfl)) he with hnone | hright
  · rw [hnone] at hleft
    exact absurd hleft (by simp)
  · rw [hright] at hleft
    exact absurd hleft (by decide)

theorem lastParse_both : LastParse both.log ⟨"/left/t.py"⟩ 7 Table.plain := by
  refine ⟨(firstRuns.take 7).map (.ran 0), _, leaving :: otherRuns.map (.ran 1), rfl, parses_left,
    ?_⟩
  intro e he modified d
  rcases List.mem_cons.1 he with rfl | hother
  · exact not_parses_leaving
  · exact not_parses_other hother

/-- A conclusion starts no program. -/
theorem runner_conclude (root : Path) (key : String) (file : Path) (modified : Nat)
    (v : Parsing.Verdict) (w : World) :
    ((Parsing.conclude root key file modified v).run w).2.runner = w.runner := by
  cases v with
  | failed detail => rfl
  | unreadable => rfl
  | syntaxErrors => rfl
  | parsed d => rfl

/-- A parse that does not find its document starts the script. -/
theorem runner_poll_parse {p : Parser} {w w₁ : World} {file root : Path} {key : String}
    {modified : Nat} (hfree : IsFree w p)
    (haddress : Parsing.address? w.files file = some (root, key))
    (hfound : (Parsing.lookUp root key file).run (queued p w) = (.missing modified, w₁)) :
    ((Parsing.parse p file).poll World.isReady w).2.runner =
      ((Work.launch (p.invocation w₁ file)).run w₁).2.runner := by
  let finish (outcome : Except Error Outcome) : Work (Option Document) :=
    Task.lift (Parsing.conclude root key file modified (Parsing.verdict outcome))
  let start (now : World) : Work (Option Document) :=
    (Work.run (p.invocation now file)).bind finish
  have hlookUp : (Parsing.fetch p root key file).poll World.isReady (queued p w) =
      ((Task.lift Act.world).bind start).poll World.isReady w₁ := by
    have hfetch :=
      poll_lift (Parsing.lookUp root key file) (fetchAfter p root key file) (queued p w)
    rw [hfound] at hfetch
    exact hfetch
  have hworld : ((Task.lift Act.world).bind start).poll World.isReady w₁ =
      (start w₁).poll World.isReady w₁ := poll_lift Act.world start w₁
  rcases hlaunch : (Work.launch (p.invocation w₁ file)).run w₁ with ⟨launched, w₂⟩
  have hstart : (start w₁).poll World.isReady w₁ =
      (.await (.until launched.2) (finish launched.1) : Work _).poll World.isReady w₂ := by
    have hlift := poll_lift (Work.launch (p.invocation w₁ file)) (fun launched =>
      .await (.until launched.2) (finish launched.1)) w₁
    rw [hlaunch] at hlift
    exact hlift
  have hfinish : ((finish launched.1).poll World.isReady w₂).2.runner = w₂.runner :=
    runner_conclude root key file modified (Parsing.verdict launched.1) w₂
  have hfetched : (Parsing.fetch p root key file).poll World.isReady (queued p w) =
      (.await (.until launched.2) (finish launched.1) : Work _).poll World.isReady w₂ := by
    calc
      _ = ((Task.lift Act.world).bind start).poll World.isReady w₁ := hlookUp
      _ = (start w₁).poll World.isReady w₁ := hworld
      _ = _ := hstart
  rw [poll_address haddress, runner_poll_inTurn hfree, hfetched, Task.poll]
  -- Whether the run is over already or not, the script has been started.
  by_cases hready : World.isReady (.until launched.2) w₂ = true
  · rw [if_pos hready]
    exact hfinish
  · rw [if_neg hready]

/-- The left file keeps its time, and is printed again. -/
theorem runner_restart_left :
    ((Parsing.parse parser ⟨"/left/t.py"⟩).poll World.isReady
      (stage (resting 0) filedOther [] [])).2.runner ≠
      (stage (resting 0) filedOther [] []).runner := by
  have hplaced : Placed filedOther ⟨"/left/t.py"⟩ ⟨"/left"⟩ "t.py" := placed_filedOther.1
  have hmiss : (Store.lookup onFiles ⟨[]⟩ filedOther ⟨"/left"⟩ "t.py" 7).1 = none := by
    rw [Store.lookup_eq]
    have hopened : (Store.opened onFiles ⟨[]⟩ filedOther ⟨"/left"⟩).table = otherTable :=
      (Store.opened_empty onFiles filedOther ⟨"/left"⟩).trans load_left_other
    rw [hopened]
    simp [otherTable, Table.get?_insert]
    rfl
  have hopen : Store.open? onFiles ⟨[]⟩ filedOther ⟨"/left"⟩ =
      ⟨[⟨⟨"/left"⟩, otherTable, false⟩]⟩ := by
    simp [Store.open?, Store.slot?, load_left_other]
  have hfound : (Parsing.lookUp ⟨"/left"⟩ "t.py" ⟨"/left/t.py"⟩).run
      (stage (busy 0) filedOther [] []) =
        (.missing 7, stage (busy 0) filedOther [⟨⟨"/left"⟩, otherTable, false⟩] []) := by
    have hfiles := files_stage (busy 0) filedOther [] []
    have hcache := cache_stage (busy 0) filedOther [] []
    have htime' :
        modifiedMillis (stage (busy 0) filedOther [] []).files ⟨"/left/t.py"⟩ = .ok 7 := by
      rw [hfiles, hplaced.time]
    rw [run_lookUp_ok htime', hfiles, hcache, hmiss, hopen]
    rfl
  have hrunner : ((Parsing.parse parser ⟨"/left/t.py"⟩).poll World.isReady
      (stage (resting 0) filedOther [] [])).2.runner = ((Work.launch printing).run
        (stage (busy 0) filedOther [⟨⟨"/left"⟩, otherTable, false⟩] [])).2.runner :=
    runner_poll_parse rfl hplaced.address hfound
  rw [run_launch_stage, List.nil_append, runner_stage] at hrunner
  rw [hrunner, runner_stage]
  simp

/-- Both tables are written and read back, and no folder is made; but they are one file, so the left
file is printed again after the restart. -/
theorem parse_again_after_restart_left :
    Reached (stage (resting 0) twins [] []) both ∧ (stage (resting 0) twins [] []).cache = .empty ∧
    (∀ e ∈ both.ended.log, (∀ w ∈ e.writes, w.written = true ∧
      onFiles.load w.after w.root = w.table) ∧ dirs e.after.files = dirs e.before.files) ∧
    both.asked ⟨"/left/t.py"⟩ ∧ LastParse both.log ⟨"/left/t.py"⟩ 7 Table.plain ∧
    (stage (resting 0) filedOther [] []).cache = .empty ∧
    (stage (resting 0) filedOther [] []).files = (Workspace.shutDown.run both.world).2.files ∧
    (stage (resting 0) filedOther [] []).files.isFile ⟨"/left/t.py"⟩ = true ∧
    modifiedMillis (stage (resting 0) filedOther [] []).files ⟨"/left/t.py"⟩ = .ok 7 ∧
    ¬ ∃ w', (Parsing.parse parser ⟨"/left/t.py"⟩).poll World.isReady
      (stage (resting 0) filedOther [] []) =
      (.done (some Table.plain), w') ∧ w'.files = (stage (resting 0) filedOther [] []).files ∧
        w'.runner = (stage (resting 0) filedOther [] []).runner := by
  have hlog : ∀ e ∈ both.log, e.writes = [] ∧ e.before.files = twins ∧ e.after.files = twins := by
    intro e he
    rcases List.mem_append.1 he with hfirst | hother
    · exact files_stageRuns hfirst
    · exact files_stageRuns hother
  have hplaced : Placed filedOther ⟨"/left/t.py"⟩ ⟨"/left"⟩ "t.py" := placed_filedOther.1
  rw [files_stage, files_ended_both]
  refine ⟨reached_both, rfl, ?_, ⟨_, List.mem_cons_self, rfl⟩, lastParse_both, rfl, rfl,
    hplaced.isFile, hplaced.time, ?_⟩
  · intro e he
    rcases mem_ended hlog he with ⟨hwrites, hbefore, hafter⟩ | rfl
    · refine ⟨by simp [hwrites], ?_⟩
      rw [hbefore, hafter]
    · refine ⟨?_, ?_⟩
      · intro w hw
        rw [writes_flush_halted, flush_both.2] at hw
        rcases List.mem_cons.1 hw with hfirst | hlast
        · rw [hfirst]
          exact ⟨rfl, load_left⟩
        · rw [List.mem_singleton.1 hlast]
          exact ⟨rfl, load_right_other⟩
      · rw [files_flush_halted, flush_both.1]
        exact placed_filedOther.2.1
  -- A program is started for it, which would not be so if the document were found.
  · rintro ⟨w', hpoll, -, hrunner⟩
    have hagain := runner_restart_left
    rw [hpoll] at hagain
    exact hagain hrunner

end Activity
end Testbench
