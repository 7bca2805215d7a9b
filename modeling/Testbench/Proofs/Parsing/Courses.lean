import Testbench.Proofs.Task.Plays
import Testbench.Proofs.Parsing.Sharing

/-!
# Courses — all that a parse can do

A parse looks into the cache, may run the script, and keeps what was printed. In between others may
do anything but touch the parse cache. Whatever they do, a parse takes one of few courses, and each
of its steps tells the host the same things in front of every host.

- `Beside`           : others leave the parse cache alone;
- `Notice`, `Tells`  : what the host is told, in front of every host;
- `Idle`             : steps that only look, queue and wait;
- `Fetches`, `Parses` : the courses, step by step;
- `plays_parse`      : there are no others.
-/

namespace Testbench
namespace Parsing

open Activity (parseIn parseIn_none parseIn_some queued run_lookUp_ok run_lookUp_error)
open Cache (onFiles fileOf)
open Outline (Document)
open ProjectFiles (modifiedMillis)
open Sharing (Starts not_starts)
open Testbench.Task (Ran Plays)

/-! ## The others -/

/-- Others leave the cache in memory and the cache files alone. -/
structure Beside (w w' : World) : Prop where
  cache : w'.cache = w.cache
  tables : ∀ root, onFiles.load w'.files root = onFiles.load w.files root

theorem Beside.refl (w : World) : Beside w w := ⟨rfl, fun _ => rfl⟩

theorem Beside.trans {w w' w'' : World} (h : Beside w w') (h' : Beside w' w'') : Beside w w'' :=
  ⟨h'.cache.trans h.cache, fun root => (h'.tables root).trans (h.tables root)⟩

theorem Beside.of_many {w w' : World} (h : Relation.ReflTransGen Beside w w') : Beside w w' := by
  induction h with
  | refl => exact .refl w
  | tail _ hlast ih => exact ih.trans hlast

theorem beside_queued (p : Parser) (w : World) : Beside w (queued p w) := ⟨rfl, fun _ => rfl⟩

theorem beside_leave (p : Parser) (ticket : Nat) (w : World) : Beside w (Parser.leave p ticket w) :=
  ⟨rfl, fun _ => rfl⟩

/-- A step leaves the cache files alone. -/
def LeavesTables (x : Ran World) : Prop :=
  ∀ root, onFiles.load x.after.files root = onFiles.load x.before.files root

/-! ## What steps make, one after another -/

section

variable {α β : Type*} {R : α → List β → Prop} {xs ys : List α} {bs cs : List β}

/-- A list falls into parts, one for each step. -/
def Parted (R : α → List β → Prop) (xs : List α) (bs : List β) : Prop :=
  ∃ parts, List.Forall₂ R xs parts ∧ parts.flatten = bs

theorem Parted.nil : Parted R [] [] := ⟨[], .nil, rfl⟩

theorem Parted.cons {x : α} (hx : R x bs) (h : Parted R xs cs) : Parted R (x :: xs) (bs ++ cs) := by
  rcases h with ⟨parts, hparts, rfl⟩
  exact ⟨bs :: parts, .cons hx hparts, rfl⟩

theorem Parted.append (h : Parted R xs bs) (h' : Parted R ys cs) :
    Parted R (xs ++ ys) (bs ++ cs) := by
  rcases h with ⟨parts, hparts, rfl⟩
  rcases h' with ⟨parts', hparts', rfl⟩
  exact ⟨parts ++ parts', List.rel_append hparts hparts', List.flatten_append⟩

theorem Parted.of_all (h : ∀ x ∈ xs, R x []) : Parted R xs [] := by
  induction xs with
  | nil => exact .nil
  | cons x xs ih =>
      exact .cons (h x List.mem_cons_self) (ih fun y hy => h y (List.mem_cons_of_mem _ hy))

theorem Parted.unique (hR : ∀ x bs cs, R x bs → R x cs → bs = cs) (h : Parted R xs bs)
    (h' : Parted R xs cs) : bs = cs := by
  rcases h with ⟨parts, hparts, rfl⟩
  rcases h' with ⟨parts', hparts', rfl⟩
  congr 1
  induction hparts generalizing parts' with
  | nil =>
      cases hparts'
      rfl
  | cons hx _ ih =>
      cases hparts' with
      | cons hx' hrest => rw [ih _ hrest, hR _ _ _ hx hx']

end

/-! ## What the host is told -/

/-- A line in the status bar, or an error in a dialog. -/
inductive Notice where
  | status (text : String)
  | dialog (text : String)
  deriving DecidableEq

def Notice.on (host : Host) : Notice → Host
  | .status text => host.updateStatus text
  | .dialog text => host.showError text

/-- In front of every host, a step tells it this and does nothing else to it. -/
def Notifies (x : Ran World) (notices : List Notice) : Prop :=
  ∀ host, (x.act { x.before with host := host }).2.host = notices.foldl Notice.on host

/-- Steps tell the host this, one after another. -/
def Tells (log : List (Ran World)) (notices : List Notice) : Prop := Parted Notifies log notices

def Notice.event : Notice → Host.Event
  | .status text => .status text
  | .dialog text => .error text

theorem Notice.event_injective {n m : Notice} (h : n.event = m.event) : n = m := by
  cases n <;> cases m <;> simp_all [Notice.event]

theorem foldl_on_recorder (notices : List Notice) (r : Host.Recorder) :
    notices.foldl Notice.on (.recorder r) =
      .recorder { r with events := r.events ++ notices.map Notice.event } := by
  induction notices generalizing r with
  | nil => simp
  | cons n notices ih =>
      have hn : Notice.on (.recorder r) n = .recorder (r.record n.event) := by cases n <;> rfl
      rw [List.foldl_cons, hn, ih]
      simp [Host.Recorder.record]

/-- A recorder tells what it was told. -/
theorem notices_unique {notices others : List Notice}
    (h : ∀ host, notices.foldl Notice.on host = others.foldl Notice.on host) :
    notices = others := by
  have hfresh := h (.recorder .fresh)
  rw [foldl_on_recorder, foldl_on_recorder] at hfresh
  have hevents : notices.map Notice.event = others.map Notice.event := by simpa using hfresh
  exact (List.map_inj_right fun _ _ => Notice.event_injective).1 hevents

theorem Tells.unique {log : List (Ran World)} {notices others : List Notice} (h : Tells log notices)
    (h' : Tells log others) : notices = others :=
  Parted.unique
    (fun _ _ _ hx hx' => notices_unique fun host => (hx host).symm.trans (hx' host)) h h'

/-- What the host is told about a verdict. -/
def notices (file : Path) : Verdict → List Notice
  | .failed detail => [.status ("Failed to parse " ++ file.text),
      .dialog ("Failed to parse " ++ file.text ++ ": " ++ detail)]
  | .unreadable => [.status ("Failed to read parse result of " ++ file.text)]
  | .syntaxErrors => [.status ("Syntax error in " ++ file.text)]
  | .parsed _ => []

theorem notifies_lookUp (root : Path) (key : String) (file : Path) (w : World) :
    Notifies ⟨w, Found, (lookUp root key file).run⟩ [] := by
  intro host
  change ((lookUp root key file).run { w with host := host }).2.host = host
  cases htime : modifiedMillis w.files file with
  | error cause => rw [run_lookUp_error (w := { w with host := host }) htime]
  | ok modified => rw [run_lookUp_ok (w := { w with host := host }) htime]

theorem notifies_launch (i : Invocation) (w : World) :
    Notifies ⟨w, _, (Work.launch i).run⟩ [] := by
  intro host
  change ((Work.launch i).run { w with host := host }).2.host = host
  rw [Activity.run_launch]
  cases w.runner with
  | script s => rfl
  | files => rfl

theorem notifies_conclude (root : Path) (key : String) (file : Path) (modified : Nat) (v : Verdict)
    (w : World) :
    Notifies ⟨w, _, (conclude root key file modified v).run⟩ (notices file v) := by
  intro host
  cases v with
  | failed detail => rfl
  | unreadable => rfl
  | syntaxErrors => rfl
  | parsed d => rfl

/-! ## Courses -/

/-- A step that leaves the host, the files and the cache alone, and starts nothing. -/
structure Idle (x : Ran World) : Prop where
  silent : Notifies x []
  files : x.after.files = x.before.files
  cache : x.after.cache = x.before.cache
  starts : ¬ Starts x

theorem idle_look (w : World) : Idle ⟨w, World, Act.world.run⟩ :=
  ⟨fun _ => rfl, rfl, rfl, not_starts fun _ => rfl⟩

theorem idle_wait (w : World) : Idle (.change w id) :=
  ⟨fun _ => rfl, rfl, rfl, not_starts fun _ => rfl⟩

theorem idle_queueUp (p : Parser) (w : World) : Idle ⟨w, Nat, (Parser.queueUp p).run⟩ :=
  ⟨fun _ => rfl, rfl, rfl, not_starts fun _ => rfl⟩

theorem idle_leave (p : Parser) (ticket : Nat) (w : World) :
    Idle (.change w (Parser.leave p ticket)) :=
  ⟨fun _ => rfl, rfl, rfl, not_starts fun _ => rfl⟩

/-- The world once the table of a folder is in memory. -/
def opened (w : World) (root : Path) : World :=
  { w with cache := w.cache.open? onFiles w.files root }

/-- The document that is found. -/
def found (w : World) (root : Path) (key : String) (modified : Nat) : Option Document :=
  (w.cache.lookup onFiles w.files root key modified).1

section

variable (p : Parser) (root : Path) (key : String) (file : Path)

/-- The script is started for a file. -/
abbrev launch (w : World) : Act (Except Error Outcome × Option Nat) :=
  Work.launch (p.invocation w file)

/-- What a run that starts in a world comes to. -/
def reply (w : World) : Except Error Outcome := ((launch p file w).run w).1.1

/-- What is done at the end of a run. -/
abbrev finish (modified : Nat) (w : World) : Act (Option Document) :=
  conclude root key file modified (verdict (reply p file w))

/-- The steps of a fetch that runs the script, whose end is looked at in a later world. -/
def fetchRuns (modified : Nat) (w w₁ : World) : List (Ran World) :=
  [⟨w, Found, (lookUp root key file).run⟩, ⟨opened w root, World, Act.world.run⟩,
    ⟨opened w root, _, (launch p file (opened w root)).run⟩, .change w₁ id,
    ⟨w₁, _, (finish p root key file modified (opened w root)).run⟩]

/-- The steps of a fetch from one world to another, and what it comes to. -/
inductive Fetches (w : World) : List (Ran World) → Option Document → World → Prop where
  /-- The file has no time. -/
  | unreadable {cause : FileError} (htime : modifiedMillis w.files file = .error cause) :
      Fetches w [⟨w, Found, (lookUp root key file).run⟩] none w
  /-- The document is there. -/
  | cached {modified : Nat} {d : Document} (htime : modifiedMillis w.files file = .ok modified)
      (hfound : found w root key modified = some d) :
      Fetches w [⟨w, Found, (lookUp root key file).run⟩] (some d) (opened w root)
  /-- The script is run. -/
  | ran {modified : Nat} {w₁ : World} (htime : modifiedMillis w.files file = .ok modified)
      (hmissing : found w root key modified = none)
      (hbeside : Beside ((launch p file (opened w root)).run (opened w root)).2 w₁) :
      Fetches w (fetchRuns p root key file modified w w₁)
        ((finish p root key file modified (opened w root)).run w₁).1
        ((finish p root key file modified (opened w root)).run w₁).2

/-- The steps of a parse from one world to another, and what it comes to. -/
inductive Parses (w : World) : List (Ran World) → Option Document → World → Prop where
  /-- The file is nowhere cached. -/
  | unplaced (haddress : address? w.files file = none) :
      Parses w [⟨w, World, Act.world.run⟩] none w
  /-- The file is cached in a folder. Before and after the fetch, nothing is done but to wait. -/
  | placed {root : Path} {key : String} {before log after : List (Ran World)}
      {d : Option Document} {w₁ w₂ w' : World} (haddress : address? w.files file = some (root, key))
      (hbefore : ∀ x ∈ before, Idle x) (hstart : Beside w w₁)
      (hfetch : Fetches p root key file w₁ log d w₂) (hafter : ∀ x ∈ after, Idle x)
      (hend : Beside w₂ w') : Parses w (before ++ log ++ after) d w'

end

section

variable {p : Parser} {root : Path} {key : String} {file : Path} {w w' : World}
  {log : List (Ran World)} {a : Option Document}

theorem run_lookUp_cached {modified : Nat} {d : Document}
    (htime : modifiedMillis w.files file = .ok modified)
    (hfound : found w root key modified = some d) :
    (lookUp root key file).run w = (.cached d, opened w root) := by
  unfold found at hfound
  rw [run_lookUp_ok htime, hfound]
  rfl

theorem run_lookUp_missing {modified : Nat} (htime : modifiedMillis w.files file = .ok modified)
    (hmissing : found w root key modified = none) :
    (lookUp root key file).run w = (.missing modified, opened w root) := by
  unfold found at hmissing
  rw [run_lookUp_ok htime, hmissing]
  rfl

theorem plays_fetch (h : Plays Beside (fetch p root key file) w log a w') :
    Fetches p root key file w log a w' := by
  rcases Plays.of_act h with ⟨later, rfl, hlater⟩
  change Plays Beside (Activity.fetchAfter p root key file ((lookUp root key file).run w).1)
    ((lookUp root key file).run w).2 later a w' at hlater
  cases htime : modifiedMillis w.files file with
  | error cause =>
      rw [run_lookUp_error htime] at hlater
      rcases Plays.of_done hlater with ⟨rfl, rfl, rfl⟩
      exact .unreadable htime
  | ok modified =>
      cases hfound : found w root key modified with
      | some d =>
          rw [run_lookUp_cached htime hfound] at hlater
          rcases Plays.of_done hlater with ⟨rfl, rfl, rfl⟩
          exact .cached htime hfound
      | none =>
          rw [run_lookUp_missing htime hfound] at hlater
          rcases Plays.of_act hlater with ⟨started, rfl, hstarted⟩
          rcases Plays.of_act hstarted with ⟨waiting, rfl, hwaiting⟩
          rcases Plays.of_await hwaiting with ⟨w₁, ended, hothers, rfl, hended⟩
          rcases Plays.of_act hended with ⟨last, rfl, hlast⟩
          rcases Plays.of_done hlast with ⟨rfl, rfl, rfl⟩
          exact .ran htime hfound (.of_many hothers)

theorem plays_parse (h : Plays Beside (parse p file) w log a w') : Parses p file w log a w' := by
  rcases Plays.of_act h with ⟨rest, rfl, hrest⟩
  change Plays Beside (parseIn p file w.files) w rest a w' at hrest
  cases haddress : address? w.files file with
  | none =>
      rw [parseIn_none haddress] at hrest
      rcases Plays.of_done hrest with ⟨rfl, rfl, rfl⟩
      exact .unplaced haddress
  | some address =>
      rcases address with ⟨root, key⟩
      rw [parseIn_some haddress] at hrest
      -- The fetch is done in a turn, which is waited for before it and given up after it.
      rcases Plays.of_act hrest with ⟨queued, rfl, hqueued⟩
      change Plays Beside (.guarded (.await (.turn p w.nextTicket) (fetch p root key file))
        (Parser.leave p w.nextTicket) .done) _ queued a w' at hqueued
      rcases Plays.of_guarded hqueued with ⟨inner, d, w₂, w₃, last, rfl, hinner, hothers, hlast⟩
      rcases Plays.of_await hinner with ⟨w₁, log, hbeside, rfl, hfetch⟩
      rcases Plays.of_done hlast with ⟨rfl, rfl, rfl⟩
      have hleave := (Beside.of_many hothers).trans (beside_leave p w.nextTicket w₃)
      have hbefore : ∀ x ∈ [⟨w, World, Act.world.run⟩, ⟨w, Nat, (Parser.queueUp p).run⟩,
          Ran.change w₁ id], Idle x := by
        simp [idle_look, idle_queueUp, idle_wait]
      have hafter : ∀ x ∈ [Ran.change w₃ (Parser.leave p w.nextTicket)], Idle x := by
        simp [idle_leave]
      have hcourse := Parses.placed haddress hbefore ((beside_queued p w).trans (.of_many hbeside))
        (plays_fetch hfetch) hafter hleave
      simpa using hcourse

end

end Parsing
end Testbench
