import Testbench.Listing
import Testbench.Proofs.Cache.Store
import Testbench.Proofs.Path
import Testbench.Proofs.Task

/-!
# Activity — parses, flushes and edits in any order

Callers ask for documents and for parts of them. Their work is done in single steps, and between any
two of them others take steps, tables are flushed and forgotten, and anything else in the world may
change except the cache in memory. The log has all that was done, so that an answer can be traced to
the run that it came from.

- `Request`, `Call`  : what may be asked about a file, and the work on it;
- `Entry`, `Reached` : what is done, and what can be reached from a world;
- `LookedUp`, `Launched`, `Kept` : the entries that matter for an answer;
- `Answered`         : where the document of an answer comes from;
- `Reached.obeys`    : every call keeps the law of parses.
-/

namespace Testbench

open Outline (Document Node)
open Parsing (Found)
open Testbench.Task (Ran Step Steps)

namespace Activity

/-! ## Calls -/

/-- What may be asked about a file. -/
inductive Request : Type → Type where
  | parse (p : Parser) : Request (Option Document)
  | classes (p : Parser) : Request (List Outline.Class)
  | functions (p : Parser) (owner : Option String) : Request (List Outline.Function)
  | docstring (p : Parser) (item : Option String) : Request (Option String)
  | list (id : ProjectId) : Request (List Node)

def Request.work {α : Type} (file : Path) : Request α → Work α
  | .parse p => Parsing.parse p file
  | .classes p => Parsing.classes p file
  | .functions p owner => Parsing.functions p file owner
  | .docstring p item => Parsing.docstring p file item
  | .list id => Listing.list id file

/-- A request and what is left to do for it. -/
structure Call : Type 1 where
  file : Path
  answer : Type
  request : Request answer
  task : Work answer

def Call.begin {α : Type} (file : Path) (request : Request α) : Call :=
  ⟨file, α, request, request.work file⟩

/-! ## Entries -/

/-- What is done at one point: a step of a call, a flush, or anything else. -/
inductive Entry : Type 1 where
  | ran (call : Nat) (r : Ran World)
  | flush (w : World)
  | flushRoot (w : World) (root : Path)
  | evict (w : World) (root : Path)
  | other (w w' : World)

namespace Entry

def before : Entry → World
  | .ran _ r => r.before
  | .flush w => w
  | .flushRoot w _ => w
  | .evict w _ => w
  | .other w _ => w

def after : Entry → World
  | .ran _ r => r.after
  | .flush w => (Caching.flush.run w).2
  | .flushRoot w root => ((Caching.flushRoot root).run w).2
  | .evict w root => ((Caching.evict root).run w).2
  | .other _ w' => w'

/-- The tables that are written. -/
def writes : Entry → List (Cache.Write FileTree)
  | .flush w => w.cache.writes Cache.onFiles w.files fun _ => true
  | .flushRoot w root => w.cache.writes Cache.onFiles w.files fun other => other.same root
  | .evict w root => w.cache.writes Cache.onFiles w.files fun other => other.same root
  | .ran .. | .other .. => []

/-- What is done by no call. Only flushes and evictions touch the cache in memory. -/
def IsDeed : Entry → Prop
  | .ran .. => False
  | .other w w' => w'.cache = w.cache
  | .flush .. | .flushRoot .. | .evict .. => True

theorem after_flush (w : World) : (Entry.flush w).after =
    { w with
      cache := (w.cache.flush Cache.onFiles w.files fun _ => true).2.1
      files := (w.cache.flush Cache.onFiles w.files fun _ => true).2.2 } := rfl

theorem after_flushRoot (w : World) (root : Path) : (Entry.flushRoot w root).after =
    { w with
      cache := (w.cache.flush Cache.onFiles w.files fun other => other.same root).2.1
      files := (w.cache.flush Cache.onFiles w.files fun other => other.same root).2.2 } := rfl

theorem after_evict (w : World) (root : Path) : (Entry.evict w root).after =
    { w with
      cache := (w.cache.flush Cache.onFiles w.files fun other => other.same root).2.1.drop root
      files := (w.cache.flush Cache.onFiles w.files fun other => other.same root).2.2 } := rfl

end Entry

end Activity

/-! ## What can be reached -/

/-- A world, the calls in it, and all that was done. -/
structure Activity : Type 1 where
  world : World
  calls : List Activity.Call
  log : List Activity.Entry

namespace Activity

/-- What can be reached from a world, in any order of steps. -/
inductive Reached (w₀ : World) : Activity → Prop where
  | start : Reached w₀ ⟨w₀, [], []⟩
  | ask {x : Activity} {file : Path} {α : Type} (request : Request α) :
      Reached w₀ x → file.IsNormal →
        Reached w₀ ⟨x.world, x.calls ++ [Call.begin file request], x.log⟩
  | step {x : Activity} {i : Nat} {c : Call} {r : Ran World} {rest : Work c.answer} :
      Reached w₀ x → x.calls[i]? = some c → r.before = x.world → Step c.task r rest →
        Reached w₀ ⟨r.after, x.calls.set i { c with task := rest }, x.log ++ [.ran i r]⟩
  | deed {x : Activity} (e : Entry) :
      Reached w₀ x → e.before = x.world → e.IsDeed →
        Reached w₀ ⟨e.after, x.calls, x.log ++ [e]⟩

/-! ## Entries that matter for an answer -/

/-- At a point of the log, a call looked up its file. -/
def LookedUp (log : List Entry) (k call : Nat) (file root : Path) (key : String) (found : Found) :
    Prop :=
  ∃ w, log[k]? = some (.ran call ⟨w, Found, (Parsing.lookUp root key file).run⟩) ∧
    ((Parsing.lookUp root key file).run w).1 = found

/-- At a point of the log, a call started a run that printed a document of a file. -/
def Launched (log : List Entry) (j call : Nat) (file : Path) (d : Document) : Prop :=
  ∃ w p w', log[j]? = some (.ran call ⟨w, _, (Work.launch (Parser.invocation p w' file)).run⟩) ∧
    Parsing.verdict ((Work.launch (Parser.invocation p w' file)).run w).1.1 = .parsed d

/-- At a point of the log, a call kept a document of its file under a time. -/
def Kept (log : List Entry) (l call : Nat) (file root : Path) (key : String) (modified : Nat)
    (d : Document) : Prop :=
  ∃ w, log[l]? =
    some (.ran call ⟨w, _, (Parsing.conclude root key file modified (.parsed d)).run⟩)

/-- A call read the time of a file, and then a run that it started printed a document. -/
def Fetched (log : List Entry) (k j call : Nat) (file root : Path) (key : String) (modified : Nat)
    (d : Document) : Prop :=
  k < j ∧ LookedUp log k call file root key (.missing modified) ∧ Launched log j call file d

/-- The folder and the key under which a file is cached, whether it is there or not. -/
def IsAddressIn (t : FileTree) (file root : Path) (key : String) : Prop :=
  ProjectFiles.cacheRoot? t file = some root ∧ ProjectFiles.cacheKey? root file = some key

/-- The address of a file at some time. -/
def Addressed (log : List Entry) (file root : Path) (key : String) : Prop :=
  ∃ e ∈ log, IsAddressIn e.before.files file root key

/-- Where the document of an answer comes from: the cache, or a run of the call's own. -/
def Answered (log : List Entry) (call : Nat) (file : Path) (d : Document) : Prop :=
  ∃ root key, Addressed log file root key ∧
    ((∃ k, LookedUp log k call file root key (.cached d)) ∨
      ∃ k j l modified, Fetched log k j call file root key modified d ∧ j < l ∧
        Kept log l call file root key modified d)

section

variable {log more : List Entry} (h : log <+: more)
include h

theorem getElem?_of_isPrefix {i : Nat} {e : Entry} (he : log[i]? = some e) : more[i]? = some e := by
  rcases h with ⟨rest, rfl⟩
  have hlt : i < log.length := (List.getElem?_eq_some_iff.1 he).1
  rw [List.getElem?_append_left hlt]
  exact he

theorem LookedUp.mono {k call : Nat} {file root : Path} {key : String} {found : Found}
    (hk : LookedUp log k call file root key found) : LookedUp more k call file root key found := by
  rcases hk with ⟨w, he, hfound⟩
  exact ⟨w, getElem?_of_isPrefix h he, hfound⟩

theorem Launched.mono {j call : Nat} {file : Path} {d : Document}
    (hj : Launched log j call file d) : Launched more j call file d := by
  rcases hj with ⟨w, p, w', he, hd⟩
  exact ⟨w, p, w', getElem?_of_isPrefix h he, hd⟩

theorem Fetched.mono {k j call : Nat} {file root : Path} {key : String} {modified : Nat}
    {d : Document} (hf : Fetched log k j call file root key modified d) :
    Fetched more k j call file root key modified d :=
  ⟨hf.1, hf.2.1.mono h, hf.2.2.mono h⟩

theorem Addressed.mono {file root : Path} {key : String} (ha : Addressed log file root key) :
    Addressed more file root key := by
  rcases ha with ⟨e, he, haddress⟩
  exact ⟨e, h.subset he, haddress⟩

theorem Kept.mono {l call : Nat} {file root : Path} {key : String} {modified : Nat} {d : Document}
    (hl : Kept log l call file root key modified d) :
    Kept more l call file root key modified d := by
  rcases hl with ⟨w, he⟩
  exact ⟨w, getElem?_of_isPrefix h he⟩

theorem Answered.mono {call : Nat} {file : Path} {d : Document}
    (ha : Answered log call file d) : Answered more call file d := by
  rcases ha with ⟨root, key, haddress, ⟨k, hk⟩ | ⟨k, j, l, modified, hf, hjl, hl⟩⟩
  · exact ⟨root, key, haddress.mono h, Or.inl ⟨k, hk.mono h⟩⟩
  · exact ⟨root, key, haddress.mono h, Or.inr ⟨k, j, l, modified, hf.mono h, hjl, hl.mono h⟩⟩

end

theorem isAddressIn_of_address? {t : FileTree} {file root : Path} {key : String}
    (h : Parsing.address? t file = some (root, key)) : IsAddressIn t file root key := by
  rw [Parsing.address?] at h
  by_cases hfile : (!t.isFile file) = true
  · rw [if_pos hfile] at h
    simp at h
  · rw [if_neg hfile] at h
    simp only [Option.bind_eq_bind, Option.bind_eq_some_iff] at h
    rcases h with ⟨root', hroot, key', hkey, heq⟩
    simp only [Option.some.injEq, Prod.mk.injEq] at heq
    rw [← heq.1, ← heq.2]
    exact ⟨hroot, hkey⟩

/-- The folder of an address lies above the file. -/
theorem IsAddressIn.isAddress {t : FileTree} {file root : Path} {key : String}
    (h : IsAddressIn t file root key) : ProjectFiles.IsAddress file root key :=
  ⟨(List.takeWhile_sublist _).subset (List.mem_of_find?_eq_some h.1), h.2⟩

theorem getElem?_append_single (log : List Entry) (e : Entry) {more : List Entry}
    (h : log ++ [e] <+: more) : more[log.length]? = some e :=
  getElem?_of_isPrefix h (by simp)

/-! ## The two acts of a parse on the cache -/

theorem run_lookUp (root : Path) (key : String) (file : Path) (w : World) :
    (Parsing.lookUp root key file).run w =
      (match ProjectFiles.modifiedMillis w.files file with
        | .error _ => pure .unreadable
        | .ok modified => do
          match ← Caching.lookUp root key modified with
          | some d => pure (.cached d)
          | none => pure (.missing modified) : Act Found).run w := rfl

/-- A file whose time can be read is looked up in the table of its folder. -/
theorem run_lookUp_table (root : Path) (key : String) (modified : Nat) (w : World) :
    (do
      match ← Caching.lookUp root key modified with
      | some d => pure (.cached d)
      | none => pure (.missing modified) : Act Found).run w =
      (match (w.cache.lookup Cache.onFiles w.files root key modified).1 with
        | some d => pure (.cached d)
        | none => pure (.missing modified) : Act Found).run
          { w with cache := w.cache.open? Cache.onFiles w.files root } := rfl

theorem run_lookUp_error {root : Path} {key : String} {file : Path} {w : World} {cause : FileError}
    (h : ProjectFiles.modifiedMillis w.files file = .error cause) :
    (Parsing.lookUp root key file).run w = (.unreadable, w) := by
  rw [run_lookUp, h]
  rfl

theorem run_lookUp_ok {root : Path} {key : String} {file : Path} {w : World} {modified : Nat}
    (h : ProjectFiles.modifiedMillis w.files file = .ok modified) :
    (Parsing.lookUp root key file).run w =
      (match (w.cache.lookup Cache.onFiles w.files root key modified).1 with
        | some d => .cached d
        | none => .missing modified,
      { w with cache := w.cache.open? Cache.onFiles w.files root }) := by
  rw [run_lookUp, h]
  refine Eq.trans (run_lookUp_table root key modified w) ?_
  cases (w.cache.lookup Cache.onFiles w.files root key modified).1 with
  | some d => rfl
  | none => rfl

/-- A hit is a document of the table under the time that the file has. -/
theorem of_lookUp_cached {root : Path} {key : String} {file : Path} {w : World} {d : Document}
    (h : ((Parsing.lookUp root key file).run w).1 = .cached d) :
    ∃ modified, ProjectFiles.modifiedMillis w.files file = .ok modified ∧
      (w.cache.lookup Cache.onFiles w.files root key modified).1 = some d := by
  cases htime : ProjectFiles.modifiedMillis w.files file with
  | error cause =>
      rw [run_lookUp_error htime] at h
      simp at h
  | ok modified =>
      rw [run_lookUp_ok htime] at h
      refine ⟨modified, rfl, ?_⟩
      cases hfound : (w.cache.lookup Cache.onFiles w.files root key modified).1 with
      | some d' =>
          rw [hfound] at h
          rw [Found.cached.inj h]
      | none =>
          rw [hfound] at h
          simp at h

/-- A miss tells the time that the file has. -/
theorem time_of_lookUp_missing {root : Path} {key : String} {file : Path} {w : World}
    {modified : Nat} (h : ((Parsing.lookUp root key file).run w).1 = .missing modified) :
    ProjectFiles.modifiedMillis w.files file = .ok modified := by
  cases htime : ProjectFiles.modifiedMillis w.files file with
  | error cause =>
      rw [run_lookUp_error htime] at h
      simp at h
  | ok time =>
      rw [run_lookUp_ok htime] at h
      cases hfound : (w.cache.lookup Cache.onFiles w.files root key time).1 with
      | some d =>
          rw [hfound] at h
          simp at h
      | none =>
          rw [hfound] at h
          rw [Found.missing.inj h]

/-- A lookup changes nothing but the tables in memory. -/
theorem lookUp_frame (root : Path) (key : String) (file : Path) (w : World) :
    ((Parsing.lookUp root key file).run w).2.files = w.files ∧
      ((Parsing.lookUp root key file).run w).2.runner = w.runner := by
  cases htime : ProjectFiles.modifiedMillis w.files file with
  | error cause =>
      rw [run_lookUp_error htime]
      exact ⟨rfl, rfl⟩
  | ok modified =>
      rw [run_lookUp_ok htime]
      exact ⟨rfl, rfl⟩

theorem run_keep (root : Path) (key : String) (file : Path) (modified : Nat) (d : Document)
    (w : World) : (Parsing.conclude root key file modified (.parsed d)).run w =
      (some d, { w with cache := w.cache.put Cache.onFiles w.files root key modified d }) := rfl

/-! ## The law of parses -/

/-- What a call may do after a given past: consult and keep documents of its file at the address of
the file, the latter only after a run of its own, and whatever leaves the cache alone. -/
inductive Allowed (call : Nat) (file : Path) (past : List Entry) : Ran World → Prop where
  | quiet {r : Ran World} : r.after.cache = r.before.cache → Allowed call file past r
  | lookUp (w : World) {root : Path} {key : String} :
      Addressed past file root key →
        Allowed call file past ⟨w, Found, (Parsing.lookUp root key file).run⟩
  | keep (w : World) {k j : Nat} {root : Path} {key : String} {modified : Nat} {d : Document} :
      Addressed past file root key → Fetched past k j call file root key modified d →
        Allowed call file past
          ⟨w, Option Document, (Parsing.conclude root key file modified (.parsed d)).run⟩

/-- What such a step does to the cache: it leaves it alone, opens a table, or keeps a document. -/
theorem Allowed.cache_cases {call : Nat} {file : Path} {past : List Entry} {r : Ran World}
    (h : Allowed call file past r) :
    r.after.cache = r.before.cache ∨
    (∃ root key, Addressed past file root key ∧ r.after = { r.before with
      cache := r.before.cache.open? Cache.onFiles r.before.files root }) ∨
    ∃ k j root key modified d, Addressed past file root key ∧
      Fetched past k j call file root key modified d ∧ r.after = { r.before with
        cache := r.before.cache.put Cache.onFiles r.before.files root key modified d } := by
  cases h with
  | quiet hquiet => exact .inl hquiet
  | @lookUp w root key haddressed =>
      cases htime : ProjectFiles.modifiedMillis w.files file with
      | error cause => exact .inl (congrArg (·.2.cache) (run_lookUp_error htime))
      | ok modified =>
          exact .inr (.inl ⟨root, key, haddressed, congrArg Prod.snd (run_lookUp_ok htime)⟩)
  | keep w haddressed hfetched =>
      exact .inr (.inr ⟨_, _, _, _, _, _, haddressed, hfetched, rfl⟩)

def law (call : Nat) (file : Path) : Law World Entry where
  allows := Allowed call file
  note := .ran call
  mild f := ∀ w, (f w).cache = w.cache
  allows_mild h := .quiet (h _)
  mild_id _ := rfl
  mild_comp hf hg w := (hg _).trans (hf w)

section

variable {call : Nat} {file : Path} {past : List Entry}

theorem run_launch (i : Invocation) (w : World) :
    (Work.launch i).run w = (match w.runner with
      | .script s => do
        set { w with runner := .script (s.record i) }
        let outcome := match s.reply i with
          | .ok o => Except.ok o
          | .error message => Except.error (.tool i.shellCommand message)
        pure (outcome, s.due w.now i)
      | .files =>
        let (outcome, millis, files) := i.run w.files
        do
          set { w with files := files }
          pure (outcome, some (w.now + millis)) : Act _).run w := rfl

theorem cache_launch (i : Invocation) (w : World) : ((Work.launch i).run w).2.cache = w.cache := by
  rw [run_launch]
  cases w.runner with
  | script s => rfl
  | files => rfl

/-- A prepared answer is recorded. -/
theorem runner_launch {w : World} {s : Script} (h : w.runner = .script s) (i : Invocation) :
    ((Work.launch i).run w).2.runner = .script (s.record i) := by
  rw [run_launch, h]
  rfl

/-- A verdict on a run that was started after the time was read. -/
theorem obeys_conclude {root : Path} {key : String} {modified k j : Nat} {v : Parsing.Verdict}
    (haddress : Addressed past file root key)
    (hfetched : ∀ d, v = .parsed d → Fetched past k j call file root key modified d) :
    (Task.lift (Parsing.conclude root key file modified v) : Work _).Obeys (law call file)
      (fun log a => ∀ d, a = some d → Answered log call file d) past := by
  intro more w hmore
  cases v with
  | parsed d =>
      have hran := (hfetched d rfl).mono hmore
      refine ⟨Allowed.keep w (haddress.mono hmore) hran, ?_⟩
      intro later hlater d' hd'
      have heq : d = d' := Option.some.inj hd'
      rw [← heq]
      -- The run was started before its document is kept.
      have horder : j < more.length := by
        rcases hran.2.2 with ⟨w', p, w'', hj, _⟩
        exact (List.getElem?_eq_some_iff.1 hj).1
      have hpast : more <+: later := (List.prefix_append _ _).trans hlater
      exact ⟨root, key, haddress.mono (hmore.trans hpast), Or.inr ⟨k, j, more.length, modified,
        hran.mono hpast, horder, w, getElem?_append_single more _ hlater⟩⟩
  | failed detail =>
      exact ⟨Allowed.quiet rfl, fun later _ d hd => by simp [Parsing.conclude] at hd⟩
  | unreadable =>
      exact ⟨Allowed.quiet rfl, fun later _ d hd => by simp [Parsing.conclude] at hd⟩
  | syntaxErrors =>
      exact ⟨Allowed.quiet rfl, fun later _ d hd => by simp [Parsing.conclude] at hd⟩

theorem obeys_fetch (p : Parser) {root : Path} {key : String}
    (haddress : Addressed past file root key) :
    (Parsing.fetch p root key file).Obeys (law call file)
      (fun log a => ∀ d, a = some d → Answered log call file d) past := by
  intro past₁ w₁ hpast₁
  refine ⟨Allowed.lookUp w₁ (haddress.mono hpast₁), ?_⟩
  have hentry : ∀ more,
      past₁ ++ [.ran call ⟨w₁, Found, (Parsing.lookUp root key file).run⟩] <+: more →
      LookedUp more past₁.length call file root key ((Parsing.lookUp root key file).run w₁).1 :=
    fun more hmore => ⟨w₁, getElem?_append_single past₁ _ hmore, rfl⟩
  have hfound : ∃ found, ((Parsing.lookUp root key file).run w₁).1 = found := ⟨_, rfl⟩
  rcases hfound with ⟨found, hfound⟩
  rw [hfound] at hentry
  change Task.Obeys _ (Task.bind (.done ((Parsing.lookUp root key file).run w₁).1) _) _ _
  rw [hfound]
  cases found with
  | unreadable =>
      intro more _ d hd
      simp at hd
  | cached d' =>
      intro more hmore d hd
      have heq : d' = d := by simpa using hd
      rw [← heq]
      exact ⟨root, key, haddress.mono (hpast₁.trans ((List.prefix_append _ _).trans hmore)),
        Or.inl ⟨_, hentry more hmore⟩⟩
  | missing modified =>
      intro past₂ w₂ hpast₂
      refine ⟨Allowed.quiet rfl, ?_⟩
      intro past₃ w₃ hpast₃
      refine ⟨Allowed.quiet (cache_launch _ w₃), ?_⟩
      -- The run has started after the lookup, whatever came in between.
      have hpast : past₁ ++ [.ran call ⟨w₁, Found, (Parsing.lookUp root key file).run⟩] <+: past₃ :=
        hpast₂.trans ((List.prefix_append _ _).trans hpast₃)
      have horder : past₁.length < past₃.length := by
        have hlength := hpast.length_le
        rw [List.length_append, List.length_singleton] at hlength
        omega
      have hnow := List.prefix_append past₃
        [.ran call ⟨w₃, _, (Work.launch (p.invocation w₂ file)).run⟩]
      refine obeys_conclude (k := past₁.length) (j := past₃.length)
        (v := Parsing.verdict ((Work.launch (p.invocation w₂ file)).run w₃).1.1) ?_ ?_
      · exact haddress.mono
          (hpast₁.trans ((List.prefix_append past₁ _).trans (hpast.trans hnow)))
      · intro d hd
        refine ⟨horder, hentry _ (hpast.trans hnow), w₃, p, w₂, ?_, hd⟩
        exact getElem?_append_single past₃ _ List.prefix_rfl

/-- Waiting for one's turn leaves the cache alone. -/
theorem obeys_inTurn (p : Parser) {α : Type} {body : Work α} {post : List Entry → α → Prop}
    (hbody : ∀ more, past <+: more → body.Obeys (law call file) post more)
    (hpost : ∀ log more a, log <+: more → post log a → post more a) :
    (p.inTurn body).Obeys (law call file) post past := by
  intro past₁ w₁ hpast₁
  refine ⟨Allowed.quiet rfl, post, ?_, fun w => rfl, ?_⟩
  · exact hbody _ (hpast₁.trans (List.prefix_append _ _))
  · intro more a _ ha later hlater
    exact hpost more later a hlater ha

/-- What a parse goes on with, once it has seen the files. -/
def parseIn (p : Parser) (file : Path) (files : FileTree) : Work (Option Document) :=
  match Parsing.address? files file with
  | none => .done none
  | some (root, key) => p.inTurn (Parsing.fetch p root key file)

theorem parseIn_none {p : Parser} {files : FileTree} (h : Parsing.address? files file = none) :
    parseIn p file files = .done none := by
  rw [parseIn, h]

theorem parseIn_some {p : Parser} {files : FileTree} {root : Path} {key : String}
    (h : Parsing.address? files file = some (root, key)) :
    parseIn p file files = p.inTurn (Parsing.fetch p root key file) := by
  rw [parseIn, h]

theorem obeys_parse (p : Parser) (past : List Entry) :
    (Parsing.parse p file).Obeys (law call file)
      (fun log a => ∀ d, a = some d → Answered log call file d) past := by
  intro past₁ w₁ _
  refine ⟨Allowed.quiet rfl, ?_⟩
  change Task.Obeys _ (parseIn p file w₁.files) _ _
  -- Without an address there is no answer. With one, it is what the turn comes to.
  cases haddress : Parsing.address? w₁.files file with
  | none =>
      rw [parseIn_none haddress]
      intro more _ d hd
      simp at hd
  | some address =>
      rcases address with ⟨root, key⟩
      have hnow : Addressed (past₁ ++ [.ran call ⟨w₁, World, Act.world.run⟩]) file root key :=
        ⟨_, List.mem_append_right _ (List.mem_singleton_self _), isAddressIn_of_address? haddress⟩
      rw [parseIn_some haddress]
      refine obeys_inTurn p ?_ ?_
      · intro more hmore
        exact obeys_fetch p (hnow.mono hmore)
      · intro log more a hmore ha d hd
        exact (ha d hd).mono hmore

/-- What is made of a document does not matter. -/
theorem obeys_of_parse (p : Parser) {α : Type} (f : Option Document → α) (past : List Entry) :
    ((Parsing.parse p file).bind fun d => .done (f d)).Obeys (law call file) (fun _ _ => True)
      past :=
  (obeys_parse p past).bind fun _ _ _ _ _ _ => trivial

theorem cache_enrich (nodes : List Node) (w : World) :
    ((Listing.enrich nodes).run w).2.cache = w.cache := by
  cases nodes with
  | nil => rfl
  | cons n rest => rfl

theorem cache_store (root : Path)
    (fetched : Option (List Outline.Class × List Outline.Function)) (w : World) :
    ((Listing.store root file fetched).run w).2.cache = w.cache := by
  cases fetched with
  | none => rfl
  | some parts =>
      rcases parts with ⟨classes, functions⟩
      have hstore : ((Listing.store root file (some (classes, functions))).run w).2 =
          ((Listing.enrich
            ((Listing.number (Node.ofModule root file classes functions)).run w).1).run
            ((Listing.update fun s => { s with last := some ⟨file,
              ((Listing.number (Node.ofModule root file classes functions)).run w).1⟩ }).run
              ((Listing.number (Node.ofModule root file classes functions)).run w).2).2).2 := rfl
      rw [hstore, cache_enrich]
      rfl

theorem obeys_listing (id : ProjectId) (past : List Entry) :
    (Listing.fetch id file).Obeys (law call file) (fun _ _ => True) past := by
  intro past₁ w₁ _
  refine ⟨Allowed.quiet rfl, fun _ _ => True, fun _ _ => True, ?_, ?_, ?_, ?_⟩
  · exact obeys_of_parse (.ofProject id) (fun d => (d.map (·.classes)).getD []) _
  · exact obeys_of_parse (.ofProject id) (fun d => (d.map (·.functionsOf none)).getD []) _
  · intro _ _ _ _ _ _ _ _
    trivial
  · intro _ _ _ _
    trivial

theorem obeys_list (id : ProjectId) (past : List Entry) :
    (Listing.list id file).Obeys (law call file) (fun _ _ => True) past := by
  intro past₁ w₁ _
  refine ⟨Allowed.quiet rfl, fun _ _ => True, ?_, fun w => rfl, fun _ _ _ _ _ _ => trivial⟩
  refine (obeys_listing id _).bind ?_
  intro past₂ fetched _ _ past₃ w₃ _
  refine ⟨Allowed.quiet rfl, ?_⟩
  intro past₄ w₄ _
  exact ⟨Allowed.quiet (cache_store _ _ w₄), fun _ _ => trivial⟩

end

/-- What the answer to a request tells. -/
def Request.Post (call : Nat) (file : Path) : {α : Type} → Request α → List Entry → α → Prop
  | _, .parse _, log, a => ∀ d, a = some d → Answered log call file d
  | _, .classes _, _, _ => True
  | _, .functions _ _, _, _ => True
  | _, .docstring _ _, _, _ => True
  | _, .list _, _, _ => True

theorem obeys_request {call : Nat} {file : Path} {α : Type} (request : Request α)
    (past : List Entry) :
    (request.work file).Obeys (law call file) (request.Post call file) past := by
  cases request with
  | parse p => exact obeys_parse p past
  | classes p => exact obeys_of_parse p _ past
  | functions p owner => exact obeys_of_parse p _ past
  | docstring p item => exact obeys_of_parse p _ past
  | list id => exact obeys_list id past

/-! ## What holds of everything that can be reached -/

/-- Every call is on a normal path and keeps the law. -/
theorem Reached.obeys {w₀ : World} {x : Activity} (h : Reached w₀ x) {i : Nat} {c : Call}
    (hc : x.calls[i]? = some c) :
    c.file.IsNormal ∧ c.task.Obeys (law i c.file) (c.request.Post i c.file) x.log := by
  induction h generalizing i c with
  | start => simp at hc
  | @ask x file α request _ hnormal ih =>
      rcases Nat.lt_or_ge i x.calls.length with hlt | hge
      · rw [List.getElem?_append_left hlt] at hc
        exact ih hc
      · rw [List.getElem?_append_right hge] at hc
        rcases List.getElem?_eq_some_iff.1 hc with ⟨hone, heq⟩
        have hnew : Call.begin file request = c := by simpa using heq
        rw [← hnew]
        exact ⟨hnormal, obeys_request request _⟩
  | @step x n c' r rest _ hcall hbefore hstep ih =>
      have hpast := List.prefix_append x.log [.ran n r]
      by_cases hin : n = i
      -- The call itself has taken the step, and the others have seen more of the log.
      · have hlt : i < x.calls.length := by
          rw [← hin]
          exact (List.getElem?_eq_some_iff.1 hcall).1
        have heq : { c' with task := rest } = c := by simpa [hin, hlt] using hc
        have hobeys := ih hcall
        rw [← heq, ← hin]
        exact ⟨hobeys.1, (Task.Obeys.step hstep hobeys.2).2⟩
      · rw [List.getElem?_set_ne hin] at hc
        exact ⟨(ih hc).1, (ih hc).2.mono hpast⟩
  | @deed x e _ hbefore hdeed ih => exact ⟨(ih hc).1, (ih hc).2.mono (List.prefix_append _ _)⟩

/-- Entries that follow each other from one world to another. -/
def Follows (w : World) : List Entry → World → Prop
  | [], w' => w' = w
  | e :: rest, w' => e.before = w ∧ Follows e.after rest w'

theorem Follows.append {w w' w'' : World} {es es' : List Entry} (h : Follows w es w')
    (h' : Follows w' es' w'') : Follows w (es ++ es') w'' := by
  induction es generalizing w with
  | nil =>
      have heq : w' = w := h
      rw [← heq]
      exact h'
  | cons e rest ih => exact ⟨h.1, ih h.2⟩

/-- Between two entries in a row nothing happens. -/
theorem Follows.next {w w' : World} {es : List Entry} (h : Follows w es w') {i : Nat} {e e' : Entry}
    (he : es[i]? = some e) (he' : es[i + 1]? = some e') : e'.before = e.after := by
  induction es generalizing w i with
  | nil => simp at he
  | cons first rest ih =>
      cases i with
      | zero =>
          have hfirst : first = e := by simpa using he
          cases rest with
          | nil => simp at he'
          | cons second more =>
              have hsecond : second = e' := by simpa using he'
              rw [← hfirst, ← hsecond]
              exact h.2.1
      | succ i => exact ih h.2 (by simpa using he) (by simpa using he')

/-! ## The log as a whole -/

/-- What was done to a world, oldest first: steps of calls on some files, each as the law of its
file has it, and deeds. -/
inductive Trace (files : Path → Prop) (w₀ : World) : List Entry → World → Prop where
  | start : Trace files w₀ [] w₀
  | ran {log : List Entry} {i : Nat} {file : Path} {r : Ran World} :
      Trace files w₀ log r.before → files file → Allowed i file log r →
        Trace files w₀ (log ++ [.ran i r]) r.after
  | deed {log : List Entry} (e : Entry) :
      Trace files w₀ log e.before → e.IsDeed → Trace files w₀ (log ++ [e]) e.after

namespace Trace

variable {files : Path → Prop} {w₀ w : World} {log : List Entry}

theorem mono {more : Path → Prop} (h : Trace files w₀ log w) (hmore : ∀ f, files f → more f) :
    Trace more w₀ log w := by
  induction h with
  | start => exact .start
  | ran _ hfile hallowed ih => exact .ran ih (hmore _ hfile) hallowed
  | deed e _ hdeed ih => exact .deed e ih hdeed

theorem follows (h : Trace files w₀ log w) : Follows w₀ log w := by
  induction h with
  | start => exact rfl
  | ran _ _ _ ih => exact ih.append ⟨rfl, rfl⟩
  | deed e _ _ ih => exact ih.append ⟨rfl, rfl⟩

/-- An entry of a log that has grown by one is an old one, or the last with all others before it. -/
theorem take_concat {log : List Entry} {last e : Entry} {k : Nat}
    (he : (log ++ [last])[k]? = some e) :
    log[k]? = some e ∧ (log ++ [last]).take k = log.take k ∨
      last = e ∧ (log ++ [last]).take k = log := by
  rcases Nat.lt_or_ge k log.length with hlt | hge
  · rw [List.getElem?_append_left hlt] at he
    exact .inl ⟨he, List.take_append_of_le_length (Nat.le_of_lt hlt)⟩
  · rw [List.getElem?_append_right hge] at he
    have hk : k = log.length := by
      have hone := (List.getElem?_eq_some_iff.1 he).1
      simp at hone
      omega
    subst hk
    exact .inr ⟨by simpa using he, List.take_left⟩

/-- What was done before an entry. -/
theorem take (h : Trace files w₀ log w) {k : Nat} {e : Entry} (he : log[k]? = some e) :
    Trace files w₀ (log.take k) e.before := by
  induction h with
  | start => simp at he
  | ran hold _ _ ih =>
      rcases take_concat he with ⟨hbefore, htake⟩ | ⟨rfl, htake⟩
      · rw [htake]
        exact ih hbefore
      · rw [htake]
        exact hold
  | deed e' hold _ ih =>
      rcases take_concat he with ⟨hbefore, htake⟩ | ⟨rfl, htake⟩
      · rw [htake]
        exact ih hbefore
      · rw [htake]
        exact hold

end Trace

/-- The files that calls were made on. -/
def asked (x : Activity) (file : Path) : Prop := ∃ c ∈ x.calls, c.file = file

/-- The folders in which calls have looked for caches. -/
def IsRoot (x : Activity) (root : Path) : Prop :=
  ∃ file key, asked x file ∧ Addressed x.log file root key

theorem Reached.asked_isNormal {w₀ : World} {x : Activity} (h : Reached w₀ x) {file : Path}
    (hfile : asked x file) : file.IsNormal := by
  rcases hfile with ⟨c, hc, rfl⟩
  rcases List.getElem?_of_mem hc with ⟨i, hi⟩
  exact (h.obeys hi).1

theorem Reached.trace {w₀ : World} {x : Activity} (h : Reached w₀ x) :
    Trace (asked x) w₀ x.log x.world := by
  induction h with
  | start => exact .start
  | ask request _ _ ih =>
      refine ih.mono ?_
      intro f hf
      rcases hf with ⟨c, hc, hfile⟩
      exact ⟨c, List.mem_append_left _ hc, hfile⟩
  | @step x i c r rest hold hc hbefore hstep ih =>
      have hallowed := (Task.Obeys.step hstep (hold.obeys hc).2).1
      rw [← hbefore] at ih
      refine (Trace.ran ih ⟨c, List.mem_of_getElem? hc, rfl⟩ hallowed).mono ?_
      intro f hf
      rcases hf with ⟨c', hc', hfile⟩
      rcases List.getElem?_of_mem hc' with ⟨n, hn⟩
      -- The step is one of this call, and the files that were asked for are the same.
      by_cases hin : i = n
      · have hlt := (List.getElem?_eq_some_iff.1 hc).1
        have heq : c = c' := by
          rw [hin, hn] at hc
          exact (Option.some.inj hc).symm
        refine ⟨{ c with task := rest }, List.mem_of_getElem? (i := i) (by simp [hlt]), ?_⟩
        rw [← hfile, ← heq]
      · have hset : (x.calls.set i { c with task := rest })[n]? = some c' := by
          rw [List.getElem?_set_ne hin, hn]
        exact ⟨c', List.mem_of_getElem? hset, hfile⟩
  | deed e hold hbefore hdeed ih =>
      rw [← hbefore] at ih
      exact .deed e ih hdeed

/-! ## Calls that are polled -/

/-- Several steps of one call. -/
theorem Reached.steps {w₀ : World} {x : Activity} (h : Reached w₀ x) {i : Nat} {c : Call}
    (hc : x.calls[i]? = some c) {rest : Work c.answer} {w : World} {rs : List (Ran World)}
    (hsteps : Task.Steps c.task x.world rs rest w) :
    Reached w₀ ⟨w, x.calls.set i { c with task := rest }, x.log ++ rs.map (.ran i)⟩ := by
  rcases c with ⟨file, answer, request, task⟩
  rcases x with ⟨w', calls, log⟩
  simp only at hsteps hc ⊢
  induction hsteps generalizing calls log with
  | none t s =>
      -- Without a step the call stays as it is.
      have hsame : calls.set i ⟨file, answer, request, t⟩ = calls := by
        refine List.ext_getElem? fun n => ?_
        by_cases hin : i = n
        · rw [← hin, hc]
          have hlt := (List.getElem?_eq_some_iff.1 hc).1
          simp [hlt]
        · rw [List.getElem?_set_ne hin]
      simpa [hsame] using h
  | @more t t' t'' r rs s hstep _ ih =>
      have hone := Reached.step h hc rfl hstep
      have hlt := (List.getElem?_eq_some_iff.1 hc).1
      have hmore := ih _ _ hone (by simp [hlt])
      simpa using hmore

/-- A call that is polled takes steps, so what a scheduler does can be reached. -/
theorem Reached.poll {w₀ : World} {x : Activity} (h : Reached w₀ x) {i : Nat} {c : Call}
    (hc : x.calls[i]? = some c) :
    ∃ rs : List (Ran World), Reached w₀ ⟨(c.task.poll World.isReady x.world).2,
      x.calls.set i { c with task := (c.task.poll World.isReady x.world).1 },
      x.log ++ rs.map (.ran i)⟩ := by
  rcases Task.steps_poll World.isReady c.task x.world with ⟨rs, hrs⟩
  exact ⟨rs, h.steps hc hrs⟩

/-! ## Calls that nobody comes between -/

theorem step_lift {α β : Type} (m : Act β) (next : β → Work α) (w : World) {rest : Work α}
    (h : next (m.run w).1 = rest) :
    Step ((Task.lift m : Work β).bind next) ⟨w, β, m.run⟩ rest := by
  rw [← h]
  exact Step.act m.run (fun x => (Task.done x : Work β).bind next) w

section

variable {p : Parser} {w : World} {file root : Path} {key : String}

/-- Somebody has queued up for a parser. -/
def queued (p : Parser) (w : World) : World := ((Parser.queueUp p).run w).2

theorem turns_queued (q : Parser) : (queued p w).turns q =
    if q = p then w.turns q ++ [w.nextTicket] else w.turns q := rfl

/-- Who comes and goes while nobody else waits leaves nothing behind. -/
theorem turns_leave_queued (hfree : w.turns p = []) :
    (Parser.leave p w.nextTicket (queued p w)).turns = w.turns := by
  funext q
  change (if q = p then ((queued p w).turns q).filter (· != w.nextTicket)
    else (queued p w).turns q) =
    w.turns q
  by_cases hq : q = p
  · rw [if_pos hq, turns_queued, if_pos hq, hq, hfree]
    simp
  · rw [if_neg hq, turns_queued, if_neg hq]

/-- What a call does that nobody comes between: it looks at the files, waits for its turn, fetches,
and gives up its turn. -/
def turnRuns (p : Parser) (w : World) (runs : List (Ran World)) (w' : World) :
    List (Ran World) :=
  [⟨w, World, Act.world.run⟩, ⟨w, Nat, (Parser.queueUp p).run⟩, .change (queued p w) id] ++ runs
    ++ [.change w' (Parser.leave p w.nextTicket)]

theorem steps_parse {a : Option Document} {runs : List (Ran World)} {w' : World}
    (haddress : Parsing.address? w.files file = some (root, key))
    (hfetch : Steps (Parsing.fetch p root key file) (queued p w) runs (.done a) w') :
    Steps (Parsing.parse p file) w (turnRuns p w runs w') (.done a)
      (Parser.leave p w.nextTicket w') := by
  let holding (body : Work (Option Document)) : Work (Option Document) :=
    .guarded body (Parser.leave p w.nextTicket) .done
  have hlook : Step (Parsing.parse p file) ⟨w, World, Act.world.run⟩
      (p.inTurn (Parsing.fetch p root key file)) :=
    step_lift Act.world _ w (parseIn_some haddress)
  have hqueue : Step (p.inTurn (Parsing.fetch p root key file)) ⟨w, Nat, (Parser.queueUp p).run⟩
      (holding (.await (.turn p w.nextTicket) (Parsing.fetch p root key file))) :=
    step_lift (Parser.queueUp p) (fun ticket => .guarded (.await (.turn p ticket)
      (Parsing.fetch p root key file)) (Parser.leave p ticket) .done) w rfl
  have hwait : Step (holding (.await (.turn p w.nextTicket) (Parsing.fetch p root key file)))
      (.change (queued p w) id) (holding (Parsing.fetch p root key file)) :=
    .inside (.await _ _ _)
  have hleave : Step (holding (.done a)) (.change w' (Parser.leave p w.nextTicket)) (.done a) :=
    .release a _ .done w'
  exact .more hlook (.more hqueue (.more hwait (hfetch.inside.trans (.single hleave))))

/-- What a call does in its turn that finds its document in the cache. -/
def hitRuns (w : World) (file root : Path) (key : String) : List (Ran World) :=
  [⟨w, Found, (Parsing.lookUp root key file).run⟩]

theorem steps_hit {d : Document}
    (hfound : ((Parsing.lookUp root key file).run w).1 = .cached d) :
    Steps (Parsing.fetch p root key file) w (hitRuns w file root key) (.done (some d))
      ((Parsing.lookUp root key file).run w).2 := by
  refine .single (step_lift (Parsing.lookUp root key file) _ w ?_)
  rw [hfound]
  rfl

/-- What a call does in its turn that runs the script, with the worlds that it leaves. -/
def missRuns (p : Parser) (w w₁ w₂ : World) (file root : Path) (key : String) (modified : Nat)
    (v : Parsing.Verdict) : List (Ran World) :=
  [⟨w, Found, (Parsing.lookUp root key file).run⟩, ⟨w₁, World, Act.world.run⟩,
    ⟨w₁, _, (Work.launch (p.invocation w₁ file)).run⟩, .change w₂ id,
    ⟨w₂, _, (Parsing.conclude root key file modified v).run⟩]

theorem steps_miss {modified : Nat} {w₁ w₂ : World} {launched : Except Error Outcome × Option Nat}
    {v : Parsing.Verdict} (hfound : (Parsing.lookUp root key file).run w = (.missing modified, w₁))
    (hlaunch : (Work.launch (p.invocation w₁ file)).run w₁ = (launched, w₂))
    (hverdict : Parsing.verdict launched.1 = v) :
    Steps (Parsing.fetch p root key file) w (missRuns p w w₁ w₂ file root key modified v)
      (.done ((Parsing.conclude root key file modified v).run w₂).1)
      ((Parsing.conclude root key file modified v).run w₂).2 := by
  let finish (outcome : Except Error Outcome) : Work (Option Document) :=
    Task.lift (Parsing.conclude root key file modified (Parsing.verdict outcome))
  let start (now : World) : Work (Option Document) :=
    (Work.run (p.invocation now file)).bind finish
  have hlookUp : Step (Parsing.fetch p root key file)
      ⟨w, Found, (Parsing.lookUp root key file).run⟩ ((Task.lift Act.world).bind start) := by
    refine step_lift (Parsing.lookUp root key file) _ w ?_
    rw [hfound]
    rfl
  have hworld : Step ((Task.lift Act.world).bind start) ⟨w₁, World, Act.world.run⟩ (start w₁) :=
    step_lift Act.world start w₁ rfl
  have hstart : Step (start w₁) ⟨w₁, _, (Work.launch (p.invocation w₁ file)).run⟩
      (.await (.until launched.2) (finish launched.1)) := by
    refine step_lift (Work.launch (p.invocation w₁ file)) (fun launched =>
      .await (.until launched.2) (finish launched.1)) w₁ ?_
    rw [hlaunch]
  have hkeep : Step (finish launched.1)
      ⟨w₂, _, (Parsing.conclude root key file modified v).run⟩
      (.done ((Parsing.conclude root key file modified v).run w₂).1) := by
    have hfinish : finish launched.1 =
        (Task.lift (Parsing.conclude root key file modified v) : Work _).bind .done := by
      simp only [finish, hverdict]
      rfl
    rw [hfinish]
    exact step_lift _ .done w₂ rfl
  have hfoundAfter : Ran.after ⟨w, Found, (Parsing.lookUp root key file).run⟩ = w₁ :=
    congrArg Prod.snd hfound
  have hlaunchAfter : Ran.after ⟨w₁, _, (Work.launch (p.invocation w₁ file)).run⟩ = w₂ :=
    congrArg Prod.snd hlaunch
  refine .more hlookUp ?_
  rw [hfoundAfter]
  refine .more hworld (.more hstart ?_)
  rw [hlaunchAfter]
  exact .more (.await _ _ w₂) (.more hkeep (.none _ _))

end

end Activity
end Testbench
