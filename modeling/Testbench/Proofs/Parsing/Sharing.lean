import Testbench.Proofs.Workspace.Restart

/-!
# Sharing — overlapping parses of one file share one run

Any number of calls ask one parser for the same file. They wait for their turns, and the first whose
turn comes looks into the cache; if there is nothing there it runs the script and keeps what was
printed, before it gives up its turn. So those after it find the document.

- `Aim`, `Serves`     : the file that is asked for, and what holds of it all the time;
- `Delivers`          : steps that start no program in vain;
- `Runs`              : what the calls and others around them can do;
- `Stage`, `Moves`    : how far a call has come, and its next step;
- `goes_work` to `goes_conclude` : the one step that is left to a call, shared with other modules;
- `Queued`            : the invariant of the queue, whose first alone goes on;
- `Kept`, `Memory`    : the invariant of the cache, and what the calls know about it;
- `Starts`, `Tracks`  : which steps start a program, and what a call has done so far;
- `Staged`            : all of it, with one lemma for a step and one for what others do;
- `Settled`, `Runs.shared` : what all calls come to.
-/

namespace Testbench
namespace Sharing

open Activity (IsFree fetchAfter parseIn parseIn_some tableIn run_lookUp_ok)
open Cache (Table Slot Store onFiles)
open Outline (Document)
open Parsing (Found)
open ProjectFiles (modifiedMillis)
open Testbench.Task (Ran Goes GoesOn goesOn_poll)

/-! ## What is asked for -/

/-- A file with its address and its time, and the parser that is asked. -/
structure Aim where
  parser : Parser
  file : Path
  root : Path
  key : String
  modified : Nat

namespace Aim

def work (a : Aim) : Work (Option Document) := Parsing.parse a.parser a.file

def fetch (a : Aim) : Work (Option Document) := Parsing.fetch a.parser a.root a.key a.file

/-- The end of a fetch, once the script has run. -/
def conclude (a : Aim) (outcome : Except Error Outcome) : Work (Option Document) :=
  Task.lift (Parsing.conclude a.root a.key a.file a.modified (Parsing.verdict outcome))

/-- The start of the script, as it was decided on in a world. -/
def launch (a : Aim) (w : World) : Act (Except Error Outcome × Option Nat) :=
  Work.launch (a.parser.invocation w a.file)

/-- A part of a call that has a ticket. -/
def holding (a : Aim) (ticket : Nat) (body : Work (Option Document)) : Work (Option Document) :=
  .guarded body (Parser.leave a.parser ticket) .done

/-- The document that is found for the file. -/
def found (a : Aim) (w : World) : Option Document := (tableIn w a.root).get? a.key a.modified

end Aim

/-- The file is there with its address and its time, and its cache file holds a table. -/
structure Serves (a : Aim) (table : Table) (w : World) : Prop where
  address : Parsing.address? w.files a.file = some (a.root, a.key)
  time : modifiedMillis w.files a.file = .ok a.modified
  load : onFiles.load w.files a.root = table

/-- A program that was started ends, and prints a document without errors. -/
def Prints (launched : Except Error Outcome × Option Nat) : Prop :=
  ∃ d due, Parsing.verdict launched.1 = .parsed d ∧ launched.2 = some due

/-- If a step starts a program, that prints a document. -/
def Delivers (r : Ran World) : Prop :=
  ∀ i, r = ⟨r.before, _, (Work.launch i).run⟩ → Prints ((Work.launch i).run r.before).1

/-! ## Runs -/

/-- What is left of a call, and what it has done. -/
structure Call : Type 1 where
  task : Work (Option Document)
  steps : List (Ran World)

/-- What others do leaves the cache and the queue of the parser alone. -/
structure Beside (a : Aim) (w w' : World) : Prop where
  cache : w'.cache = w.cache
  turns : w'.turns a.parser = w.turns a.parser
  ticket : w.nextTicket ≤ w'.nextTicket

/-- What so many calls can come to, in any order of their steps, if what they start prints a
document. -/
inductive Runs (a : Aim) (table : Table) (count : Nat) (w₀ : World) : World → List Call → Prop where
  | start : Runs a table count w₀ w₀ (List.replicate count ⟨a.work, []⟩)
  | goes {w : World} {calls : List Call} {i : Nat} {c : Call} {r : Ran World}
      {t : Work (Option Document)} :
      Runs a table count w₀ w calls → calls[i]? = some c → r.before = w →
        Goes World.isReady c.task r t → Delivers r → Serves a table r.after →
          Runs a table count w₀ r.after (calls.set i ⟨t, c.steps ++ [r]⟩)
  | beside {w w' : World} {calls : List Call} :
      Runs a table count w₀ w calls → Beside a w w' → Serves a table w' →
        Runs a table count w₀ w' calls

/-! ## Stages of a call -/

/-- How far a call has come. The last two tell whether the script was run for it. -/
inductive Stage where
  | fresh
  | located
  | waiting (ticket : Nat)
  | chosen (ticket : Nat)
  | missed (ticket : Nat)
  | launching (ticket : Nat) (w : World)
  | running (ticket : Nat) (launched : Except Error Outcome × Option Nat)
  | ended (ticket : Nat) (outcome : Except Error Outcome)
  | leaving (ticket : Nat) (d : Document) (ran : Bool)
  | closed (d : Document) (ran : Bool)

namespace Stage

/-- What is left to do. -/
def task (a : Aim) : Stage → Work (Option Document)
  | .fresh => a.work
  | .located => a.parser.inTurn a.fetch
  | .waiting ticket => a.holding ticket (.await (.turn a.parser ticket) a.fetch)
  | .chosen ticket => a.holding ticket a.fetch
  | .missed ticket =>
    a.holding ticket (fetchAfter a.parser a.root a.key a.file (.missing a.modified))
  | .launching ticket w =>
    a.holding ticket ((Work.run (a.parser.invocation w a.file)).bind a.conclude)
  | .running ticket launched =>
    a.holding ticket (.await (.until launched.2) (a.conclude launched.1))
  | .ended ticket outcome => a.holding ticket (a.conclude outcome)
  | .leaving ticket d _ => a.holding ticket (.done (some d))
  | .closed d _ => .done (some d)

def ticket? : Stage → Option Nat
  | .fresh | .located | .closed .. => none
  | .waiting ticket | .chosen ticket | .missed ticket | .launching ticket _ | .running ticket _
  | .ended ticket _ | .leaving ticket .. => some ticket

/-- Whether the turn of a call has come and is not given up. -/
def isActive : Stage → Bool
  | .fresh | .located | .waiting _ | .closed .. => false
  | .chosen _ | .missed _ | .launching .. | .running .. | .ended .. | .leaving .. => true

/-- Whether the script was run for a call and what it printed was kept. -/
def hasKept : Stage → Bool
  | .leaving _ _ ran | .closed _ ran => ran
  | _ => false

end Stage

/-- One step of a call. -/
inductive Moves (a : Aim) : Stage → Ran World → Stage → Prop where
  | locate (w : World) : Moves a .fresh ⟨w, World, Act.world.run⟩ .located
  | queue (w : World) :
      Moves a .located ⟨w, Nat, (Parser.queueUp a.parser).run⟩ (.waiting w.nextTicket)
  | enter {ticket : Nat} {w : World} :
      World.isReady (.turn a.parser ticket) w = true →
        Moves a (.waiting ticket) (.change w id) (.chosen ticket)
  | hit {ticket : Nat} {w : World} {d : Document} :
      ((Parsing.lookUp a.root a.key a.file).run w).1 = .cached d →
        Moves a (.chosen ticket) ⟨w, Found, (Parsing.lookUp a.root a.key a.file).run⟩
          (.leaving ticket d false)
  | miss {ticket : Nat} {w : World} :
      ((Parsing.lookUp a.root a.key a.file).run w).1 = .missing a.modified →
        Moves a (.chosen ticket) ⟨w, Found, (Parsing.lookUp a.root a.key a.file).run⟩
          (.missed ticket)
  | decide (ticket : Nat) (w : World) :
      Moves a (.missed ticket) ⟨w, World, Act.world.run⟩ (.launching ticket w)
  | launch (ticket : Nat) (w w' : World) :
      Moves a (.launching ticket w') ⟨w, _, (a.launch w').run⟩
        (.running ticket ((a.launch w').run w).1)
  | finish {ticket : Nat} {w : World} {launched : Except Error Outcome × Option Nat} :
      World.isReady (.until launched.2) w = true →
        Moves a (.running ticket launched) (.change w id) (.ended ticket launched.1)
  | keep {ticket : Nat} (w : World) {outcome : Except Error Outcome} {d : Document} :
      Parsing.verdict outcome = .parsed d →
        Moves a (.ended ticket outcome)
          ⟨w, _, (Parsing.conclude a.root a.key a.file a.modified (.parsed d)).run⟩
          (.leaving ticket d true)
  | leave (ticket : Nat) (d : Document) (ran : Bool) (w : World) :
      Moves a (.leaving ticket d ran) (.change w (Parser.leave a.parser ticket)) (.closed d ran)

/-! ### Stages and tasks -/

section

variable {ready : Wait → World → Bool} {α β : Type} {r : Ran World} {t : Work α}

/-- A part that is not done goes on; one that is done gives its ticket back. -/
theorem goes_holding {a : Aim} {ticket : Nat} {body t : Work (Option Document)}
    (h : Goes ready (a.holding ticket body) r t) (hopen : body.isDone = false) :
    ∃ body', Goes ready body r body' ∧ t = a.holding ticket body' := by
  have hguarded : Goes ready (.guarded body (Parser.leave a.parser ticket) .done) r t := h
  cases hguarded with
  | inside hbody => exact ⟨_, hbody, rfl⟩
  | release x _ _ w => exact absurd hopen (by simp [Task.isDone])

theorem goes_holding_done {a : Aim} {ticket : Nat} {x : Option Document}
    {t : Work (Option Document)} (h : Goes ready (a.holding ticket (.done x)) r t) :
    ∃ w, r = .change w (Parser.leave a.parser ticket) ∧ t = .done x := by
  have hguarded : Goes ready (.guarded (.done x) (Parser.leave a.parser ticket) .done) r t := h
  cases hguarded with
  | inside hbody => exact absurd hbody Goes.not_done
  | release x _ _ w => exact ⟨w, rfl, rfl⟩

end

/-! The one step that is left to a call, by what it does next. -/

section

variable {a : Aim} {ticket : Nat} {r : Ran World} {t : Work (Option Document)}

theorem goes_work (h : Goes World.isReady a.work r t) :
    ∃ w, r = ⟨w, World, Act.world.run⟩ ∧ t = parseIn a.parser a.file w.files := by
  have hlift : Goes World.isReady ((Task.lift Act.world : Work World).bind fun now =>
    parseIn a.parser a.file now.files) r t := h
  exact hlift.of_lift

theorem goes_inTurn (h : Goes World.isReady (a.parser.inTurn a.fetch) r t) :
    ∃ w, r = ⟨w, Nat, (Parser.queueUp a.parser).run⟩ ∧
      t = a.holding w.nextTicket (.await (.turn a.parser w.nextTicket) a.fetch) := by
  have hlift : Goes World.isReady ((Task.lift (Parser.queueUp a.parser) : Work Nat).bind
    fun ticket => a.holding ticket (.await (.turn a.parser ticket) a.fetch)) r t := h
  exact hlift.of_lift

/-- A call with a ticket waits for something. -/
theorem goes_waiting {v : Wait} {next : Work (Option Document)}
    (h : Goes World.isReady (a.holding ticket (.await v next)) r t) :
    ∃ w, World.isReady v w = true ∧ r = .change w id ∧ t = a.holding ticket next := by
  rcases goes_holding h rfl with ⟨body, hbody, rfl⟩
  rcases hbody.of_await with ⟨w, hready, rfl, rfl⟩
  exact ⟨w, hready, rfl, rfl⟩

theorem goes_fetch (h : Goes World.isReady (a.holding ticket a.fetch) r t) :
    ∃ w, r = ⟨w, Found, (Parsing.lookUp a.root a.key a.file).run⟩ ∧
      t = a.holding ticket (fetchAfter a.parser a.root a.key a.file
        ((Parsing.lookUp a.root a.key a.file).run w).1) := by
  rcases goes_holding h rfl with ⟨body, hbody, rfl⟩
  have hlift : Goes World.isReady
    ((Task.lift (Parsing.lookUp a.root a.key a.file) : Work Found).bind
      (fetchAfter a.parser a.root a.key a.file)) r body := hbody
  rcases hlift.of_lift with ⟨w, rfl, rfl⟩
  exact ⟨w, rfl, rfl⟩

theorem goes_missed (h : Goes World.isReady
      (a.holding ticket (fetchAfter a.parser a.root a.key a.file (.missing a.modified))) r t) :
    ∃ w, r = ⟨w, World, Act.world.run⟩ ∧
      t = a.holding ticket ((Work.run (a.parser.invocation w a.file)).bind a.conclude) := by
  rcases goes_holding h rfl with ⟨body, hbody, rfl⟩
  have hlift : Goes World.isReady ((Task.lift Act.world : Work World).bind fun now =>
    (Work.run (a.parser.invocation now a.file)).bind a.conclude) r body := hbody
  rcases hlift.of_lift with ⟨w, rfl, rfl⟩
  exact ⟨w, rfl, rfl⟩

theorem goes_launching {v : World} (h : Goes World.isReady
      (a.holding ticket ((Work.run (a.parser.invocation v a.file)).bind a.conclude)) r t) :
    ∃ w, r = ⟨w, _, (a.launch v).run⟩ ∧
      t = a.holding ticket (.await (.until ((a.launch v).run w).1.2)
        (a.conclude ((a.launch v).run w).1.1)) := by
  rcases goes_holding h rfl with ⟨body, hbody, rfl⟩
  have hlift : Goes World.isReady
    ((Task.lift (a.launch v) : Work _).bind fun launched =>
      .await (.until launched.2) (a.conclude launched.1)) r body := hbody
  rcases hlift.of_lift with ⟨w, rfl, rfl⟩
  exact ⟨w, rfl, rfl⟩

theorem goes_conclude {outcome : Except Error Outcome}
    (h : Goes World.isReady (a.holding ticket (a.conclude outcome)) r t) :
    ∃ w, r = ⟨w, _,
        (Parsing.conclude a.root a.key a.file a.modified (Parsing.verdict outcome)).run⟩ ∧
      t = a.holding ticket (.done ((Parsing.conclude a.root a.key a.file a.modified
        (Parsing.verdict outcome)).run w).1) := by
  rcases goes_holding h rfl with ⟨body, hbody, rfl⟩
  rw [Aim.conclude, ← Task.bind_done (Task.lift _)] at hbody
  rcases hbody.of_lift with ⟨w, rfl, rfl⟩
  exact ⟨w, rfl, rfl⟩

end

theorem lift_goes (ready : Wait → World → Bool) {α β : Type} (m : Act β) (next : β → Work α)
    (w : World) {rest : Work α} (h : next (m.run w).1 = rest) :
    Goes ready ((Task.lift m : Work β).bind next) ⟨w, β, m.run⟩ rest := by
  rw [← h]
  exact Goes.act m.run (fun x => (Task.done x : Work β).bind next) w

/-- What the cache answers to a call. -/
theorem Serves.answer_lookUp {a : Aim} {table : Table} {w : World} (h : Serves a table w) :
    ((Parsing.lookUp a.root a.key a.file).run w).1 =
      match (w.cache.lookup onFiles w.files a.root a.key a.modified).1 with
      | some d => .cached d
      | none => .missing a.modified :=
  congrArg Prod.fst (run_lookUp_ok h.time)

/-- What the cache has after it. -/
theorem Serves.after_lookUp {a : Aim} {table : Table} {w : World} (h : Serves a table w) :
    ((Parsing.lookUp a.root a.key a.file).run w).2 =
      { w with cache := w.cache.open? onFiles w.files a.root } :=
  congrArg Prod.snd (run_lookUp_ok h.time)

/-- A step of a call takes it to the next stage. -/
theorem moves_of_goes {a : Aim} {table : Table} {s : Stage} {r : Ran World}
    {t : Work (Option Document)} (h : Goes World.isReady (s.task a) r t)
    (hserves : Serves a table r.before)
    (hprinted : ∀ ticket outcome, s = .ended ticket outcome →
      ∃ d, Parsing.verdict outcome = .parsed d) :
    ∃ s', Moves a s r s' ∧ t = s'.task a := by
  -- The stage says what the task does next.
  cases s with
  | fresh =>
      rcases goes_work h with ⟨w, rfl, ht⟩
      rw [parseIn_some hserves.address] at ht
      exact ⟨_, .locate w, ht⟩
  | located =>
      rcases goes_inTurn h with ⟨w, rfl, ht⟩
      exact ⟨_, .queue w, ht⟩
  | waiting ticket =>
      rcases goes_waiting h with ⟨w, hready, rfl, ht⟩
      exact ⟨_, .enter hready, ht⟩
  | chosen ticket =>
      rcases goes_fetch h with ⟨w, rfl, ht⟩
      have hanswer := hserves.answer_lookUp
      cases hfound : (w.cache.lookup onFiles w.files a.root a.key a.modified).1 with
      | some d =>
          simp only [hfound] at hanswer
          rw [hanswer] at ht
          exact ⟨_, .hit hanswer, ht⟩
      | none =>
          simp only [hfound] at hanswer
          rw [hanswer] at ht
          exact ⟨_, .miss hanswer, ht⟩
  | missed ticket =>
      rcases goes_missed h with ⟨w, rfl, ht⟩
      exact ⟨_, .decide ticket w, ht⟩
  | launching ticket v =>
      rcases goes_launching h with ⟨w, rfl, ht⟩
      exact ⟨_, .launch ticket w v, ht⟩
  | running ticket launched =>
      rcases goes_waiting h with ⟨w, hready, rfl, ht⟩
      exact ⟨_, .finish hready, ht⟩
  | ended ticket outcome =>
      rcases hprinted ticket outcome rfl with ⟨d, hd⟩
      rcases goes_conclude h with ⟨w, rfl, ht⟩
      rw [hd] at ht ⊢
      exact ⟨_, .keep w hd, ht⟩
  | leaving ticket d ran =>
      rcases goes_holding_done h with ⟨w, rfl, rfl⟩
      exact ⟨_, .leave ticket d ran w, rfl⟩
  | closed d ran => exact absurd h Goes.not_done

/-- Each such step can be taken. -/
theorem goes_of_moves {a : Aim} {s s' : Stage} {r : Ran World} (h : Moves a s r s')
    (haddress : Parsing.address? r.before.files a.file = some (a.root, a.key)) :
    Goes World.isReady (s.task a) r (s'.task a) := by
  -- Each way to go on is a step of the task, inside of what gives the turn back.
  cases h with
  | locate w =>
      refine lift_goes World.isReady Act.world (fun now => parseIn a.parser a.file now.files) w ?_
      exact parseIn_some haddress
  | queue w =>
      exact lift_goes World.isReady (Parser.queueUp a.parser) (fun ticket =>
        a.holding ticket (.await (.turn a.parser ticket) a.fetch)) w rfl
  | enter hready => exact .inside (.await _ hready)
  | @hit ticket w d hcached =>
      refine .inside (lift_goes World.isReady (Parsing.lookUp a.root a.key a.file)
        (fetchAfter a.parser a.root a.key a.file) w ?_)
      rw [hcached]
      rfl
  | @miss ticket w hmissing =>
      refine .inside (lift_goes World.isReady (Parsing.lookUp a.root a.key a.file)
        (fetchAfter a.parser a.root a.key a.file) w ?_)
      rw [hmissing]
  | decide ticket w =>
      exact .inside (lift_goes World.isReady Act.world
        (fun now => (Work.run (a.parser.invocation now a.file)).bind a.conclude) w rfl)
  | launch ticket w v =>
      exact .inside (lift_goes World.isReady (a.launch v) (fun launched =>
        .await (.until launched.2) (a.conclude launched.1)) w rfl)
  | finish hready => exact .inside (.await _ hready)
  | @keep ticket w outcome d hd =>
      refine .inside ?_
      rw [Aim.conclude, hd, ← Task.bind_done (Task.lift _)]
      exact lift_goes World.isReady
        (Parsing.conclude a.root a.key a.file a.modified (.parsed d)) .done w rfl
  | leave ticket d ran w => exact .release (some d) (Parser.leave a.parser ticket) .done w

/-! ## The queue -/

/-- Tickets are given back by those that have them, the first alone goes on, and new tickets come
last. -/
structure Queued (turns : List Nat) (next : Nat) (stages : List Stage) : Prop where
  below : ∀ ticket ∈ turns, ticket < next
  nodup : turns.Nodup
  mem : ∀ ticket, ticket ∈ turns ↔
    ∃ (i : Nat) (s : Stage), stages[i]? = some s ∧ s.ticket? = some ticket
  unique : ∀ (i j : Nat) (s s' : Stage) (ticket : Nat), stages[i]? = some s →
    stages[j]? = some s' → s.ticket? = some ticket → s'.ticket? = some ticket → i = j
  front : ∀ (i : Nat) (s : Stage), stages[i]? = some s → s.isActive = true →
    s.ticket? = turns.head?

theorem Stage.ticket?_of_isActive {s : Stage} (h : s.isActive = true) :
    ∃ ticket, s.ticket? = some ticket := by
  cases s <;> first | exact ⟨_, rfl⟩ | exact absurd h Bool.false_ne_true

section

universe u

variable {α : Type u} {l : List α} {i j : Nat} {x y z : α}

/-- What is found in a list with one thing replaced. -/
theorem getElem?_set_cases (hx : l[i]? = some x) :
    (l.set i y)[j]? = some z ↔ (i = j ∧ y = z) ∨ (i ≠ j ∧ l[j]? = some z) := by
  have hlt : i < l.length := (List.getElem?_eq_some_iff.1 hx).1
  by_cases hij : i = j
  · subst hij
    simp [hlt]
  · simp [List.getElem?_set_ne hij, hij]

end

namespace Queued

variable {turns : List Nat} {next : Nat} {stages : List Stage} {i : Nat} {s s' : Stage}

/-- The call at a place has a ticket. -/
def Holds (stages : List Stage) (i ticket : Nat) : Prop :=
  ∃ s : Stage, stages[i]? = some s ∧ s.ticket? = some ticket

theorem holds_iff (hi : stages[i]? = some s) {ticket : Nat} :
    Holds stages i ticket ↔ s.ticket? = some ticket := by
  simp [Holds, hi]

/-- Who has a ticket once a call has gone on. -/
theorem holds_set (hi : stages[i]? = some s) {j ticket : Nat} :
    Holds (stages.set i s') j ticket ↔
      i = j ∧ s'.ticket? = some ticket ∨ i ≠ j ∧ Holds stages j ticket := by
  constructor
  · rintro ⟨x, hx, hxt⟩
    rcases (getElem?_set_cases hi).1 hx with ⟨rfl, rfl⟩ | ⟨hij, hold⟩
    · exact .inl ⟨rfl, hxt⟩
    · exact .inr ⟨hij, x, hold, hxt⟩
  · rintro (⟨rfl, hticket⟩ | ⟨hij, x, hx, hxt⟩)
    · exact ⟨s', (getElem?_set_cases hi).2 (.inl ⟨rfl, rfl⟩), hticket⟩
    · exact ⟨x, (getElem?_set_cases hi).2 (.inr ⟨hij, hx⟩), hxt⟩

theorem mem_iff (h : Queued turns next stages) {ticket : Nat} :
    ticket ∈ turns ↔ ∃ i, Holds stages i ticket := h.mem ticket

theorem holder_unique (h : Queued turns next stages) {j ticket : Nat} (hi : Holds stages i ticket)
    (hj : Holds stages j ticket) : i = j := by
  rcases hi with ⟨s, hi, hs⟩
  rcases hj with ⟨s', hj, hs'⟩
  exact h.unique i j s s' ticket hi hj hs hs'

/-- The invariant, told by who has which ticket. -/
theorem of_holds (hbelow : ∀ ticket ∈ turns, ticket < next) (hnodup : turns.Nodup)
    (hmem : ∀ ticket, ticket ∈ turns ↔ ∃ i, Holds stages i ticket)
    (hunique : ∀ i j ticket, Holds stages i ticket → Holds stages j ticket → i = j)
    (hfront : ∀ (i : Nat) (s : Stage), stages[i]? = some s → s.isActive = true →
      s.ticket? = turns.head?) : Queued turns next stages where
  below := hbelow
  nodup := hnodup
  mem := hmem
  unique := fun i j s s' ticket hi hj hs hs' => hunique i j ticket ⟨s, hi, hs⟩ ⟨s', hj, hs'⟩
  front := hfront

/-- There is one call at most whose turn it is. -/
theorem active_unique (h : Queued turns next stages) {j : Nat} (hi : stages[i]? = some s)
    (hj : stages[j]? = some s') (hs : s.isActive = true) (hs' : s'.isActive = true) : i = j := by
  rcases Stage.ticket?_of_isActive hs with ⟨ticket, hticket⟩
  refine h.unique i j s s' ticket hi hj hticket ?_
  rw [h.front j s' hj hs', ← h.front i s hi hs]
  exact hticket

theorem start (next count : Nat) : Queued [] next (List.replicate count .fresh) := by
  have hfresh : ∀ (i : Nat) (s : Stage),
      (List.replicate count Stage.fresh)[i]? = some s → s = .fresh := by
    intro i s hs
    exact List.eq_of_mem_replicate (List.mem_of_getElem? hs)
  refine ⟨by simp, List.nodup_nil, ?_, ?_, ?_⟩
  · intro ticket
    simp only [List.not_mem_nil, false_iff]
    rintro ⟨i, s, hs, hticket⟩
    rw [hfresh i s hs] at hticket
    simp [Stage.ticket?] at hticket
  · intro i j s s' ticket hs _ hticket _
    rw [hfresh i s hs] at hticket
    simp [Stage.ticket?] at hticket
  · intro i s hs hactive
    rw [hfresh i s hs] at hactive
    simp [Stage.isActive] at hactive

theorem mono (h : Queued turns next stages) {later : Nat} (hlater : next ≤ later) :
    Queued turns later stages :=
  ⟨fun ticket hticket => Nat.lt_of_lt_of_le (h.below ticket hticket) hlater, h.nodup, h.mem,
    h.unique, h.front⟩

/-- A call goes on without giving up its ticket. -/
theorem stay (h : Queued turns next stages) (hi : stages[i]? = some s)
    (hticket : s'.ticket? = s.ticket?)
    (hfront : s'.isActive = true → s'.ticket? = turns.head?) :
    Queued turns next (stages.set i s') := by
  have hholds : ∀ j ticket, Holds (stages.set i s') j ticket ↔ Holds stages j ticket := by
    intro j ticket
    rw [holds_set hi, hticket, ← holds_iff hi]
    by_cases hij : i = j
    · simp [hij]
    · simp [hij]
  refine .of_holds h.below h.nodup ?_ ?_ ?_
  · intro ticket
    simp only [h.mem_iff, hholds]
  · intro j k ticket hj hk
    exact h.holder_unique ((hholds j ticket).1 hj) ((hholds k ticket).1 hk)
  · intro j x hx hactive
    rcases (getElem?_set_cases hi).1 hx with ⟨rfl, rfl⟩ | ⟨-, hold⟩
    · exact hfront hactive
    · exact h.front j x hold hactive

/-- A call takes a ticket. -/
theorem join (h : Queued turns next stages) (hi : stages[i]? = some s) (hnone : s.ticket? = none)
    (hticket : s'.ticket? = some next) (hwaits : s'.isActive = false) :
    Queued (turns ++ [next]) (next + 1) (stages.set i s') := by
  -- Tickets are given out in order, so nobody has this one yet.
  have hnew : next ∉ turns := fun hmem => Nat.lt_irrefl _ (h.below next hmem)
  have hnobody : ∀ j, ¬Holds stages j next := fun j hj => hnew (h.mem_iff.2 ⟨j, hj⟩)
  have hbare : ∀ ticket, ¬Holds stages i ticket := by
    intro ticket
    simp [holds_iff hi, hnone]
  have hholds : ∀ j ticket, Holds (stages.set i s') j ticket ↔
      i = j ∧ next = ticket ∨ Holds stages j ticket := by
    intro j ticket
    rw [holds_set hi, hticket, Option.some.injEq]
    by_cases hij : i = j
    · subst hij
      simp [hbare ticket]
    · simp [hij]
  refine .of_holds ?_ ?_ ?_ ?_ ?_
  · intro ticket hmem
    rcases List.mem_append.1 hmem with hold | hlast
    · exact Nat.lt_succ_of_lt (h.below ticket hold)
    · rw [List.mem_singleton.1 hlast]
      exact Nat.lt_succ_self next
  · rw [List.nodup_append]
    refine ⟨h.nodup, by simp, ?_⟩
    intro x hx y hy
    rw [List.mem_singleton.1 hy]
    rintro rfl
    exact hnew hx
  · intro ticket
    simp only [List.mem_append, List.mem_singleton, h.mem_iff, hholds]
    constructor
    · rintro (⟨j, hj⟩ | rfl)
      · exact ⟨j, .inr hj⟩
      · exact ⟨i, .inl ⟨rfl, rfl⟩⟩
    · rintro ⟨j, ⟨-, rfl⟩ | hj⟩
      · exact .inr rfl
      · exact .inl ⟨j, hj⟩
  · intro j k ticket hj hk
    rw [hholds] at hj hk
    rcases hj with ⟨rfl, rfl⟩ | hj <;> rcases hk with ⟨rfl, hsame⟩ | hk
    · rfl
    · exact absurd hk (hnobody k)
    · exact absurd (hsame ▸ hj) (hnobody j)
    · exact h.holder_unique hj hk
  · intro j x hx hactive
    rcases (getElem?_set_cases hi).1 hx with ⟨rfl, rfl⟩ | ⟨-, hold⟩
    · rw [hwaits] at hactive
      exact absurd hactive Bool.false_ne_true
    · have hfront := h.front j x hold hactive
      rcases Stage.ticket?_of_isActive hactive with ⟨ticket, hxt⟩
      rw [hfront] at hxt ⊢
      simp [List.head?_append, hxt]

/-- The call whose turn it is gives its ticket back. -/
theorem leave (h : Queued turns next stages) (hi : stages[i]? = some s) {ticket : Nat}
    (hticket : s.ticket? = some ticket) (hactive : s.isActive = true) (hnone : s'.ticket? = none)
    (hgone : s'.isActive = false) :
    Queued (turns.filter (· != ticket)) next (stages.set i s') := by
  have hown : ∀ other, Holds stages i other ↔ ticket = other := by
    intro other
    rw [holds_iff hi, hticket, Option.some.injEq]
  have hholds : ∀ j other, Holds (stages.set i s') j other ↔ i ≠ j ∧ Holds stages j other := by
    intro j other
    simp [holds_set hi, hnone]
  refine .of_holds ?_ (h.nodup.filter _) ?_ ?_ ?_
  · intro other hmem
    exact h.below other (List.mem_filter.1 hmem).1
  · intro other
    simp only [List.mem_filter, bne_iff_ne, h.mem_iff, hholds]
    constructor
    · rintro ⟨⟨j, hj⟩, hne⟩
      refine ⟨j, ?_, hj⟩
      rintro rfl
      exact hne ((hown other).1 hj).symm
    · rintro ⟨j, hij, hj⟩
      refine ⟨⟨j, hj⟩, ?_⟩
      -- Nobody else has this ticket.
      rintro rfl
      exact hij (h.holder_unique ((hown other).2 rfl) hj)
  · intro j k other hj hk
    exact h.holder_unique ((hholds j other).1 hj).2 ((hholds k other).1 hk).2
  · intro j x hx hxactive
    rcases (getElem?_set_cases hi).1 hx with ⟨rfl, rfl⟩ | ⟨hij, hold⟩
    · rw [hgone] at hxactive
      exact absurd hxactive Bool.false_ne_true
    · exact absurd (h.active_unique hi hold hactive hxactive) hij

end Queued

/-! ### Turns in the world -/

section

variable {a : Aim} {w : World}

theorem isReady_turn (ticket : Nat) : World.isReady (.turn a.parser ticket) w = true ↔
    (w.turns a.parser).head? = some ticket := by
  simp [World.isReady]

/-- A program that is started leaves turns and tickets alone. -/
theorem launch_frame (i : Invocation) (w : World) :
    ((Work.launch i).run w).2.turns = w.turns ∧
      ((Work.launch i).run w).2.nextTicket = w.nextTicket := by
  rw [Activity.run_launch]
  cases w.runner with
  | script s => exact ⟨rfl, rfl⟩
  | files => exact ⟨rfl, rfl⟩

end

/-- The queue after a step of a call. -/
theorem Queued.moves {a : Aim} {table : Table} {stages : List Stage} {i : Nat} {s s' : Stage}
    {r : Ran World} (h : Queued (r.before.turns a.parser) r.before.nextTicket stages)
    (hi : stages[i]? = some s) (hm : Moves a s r s') (hserves : Serves a table r.before) :
    Queued (r.after.turns a.parser) r.after.nextTicket (stages.set i s') := by
  -- The call whose turn it is keeps the first ticket.
  have hfront := h.front i s hi
  cases hm with
  | locate w => exact h.stay hi rfl fun hactive => nomatch hactive
  | queue w =>
      have hafter : (Ran.after ⟨w, Nat, (Parser.queueUp a.parser).run⟩).turns a.parser =
          w.turns a.parser ++ [w.nextTicket] :=
        World.turns_updateTurns a.parser (· ++ [w.nextTicket])
          { w with nextTicket := w.nextTicket + 1 }
      rw [hafter]
      exact h.join hi rfl rfl rfl
  | enter hready => exact h.stay hi rfl fun _ => ((isReady_turn _).1 hready).symm
  | @hit ticket w d hcached =>
      have hafter : Ran.after ⟨w, Found, (Parsing.lookUp a.root a.key a.file).run⟩ = _ :=
        hserves.after_lookUp
      rw [hafter]
      exact h.stay hi rfl fun _ => hfront rfl
  | @miss ticket w hmissing =>
      have hafter : Ran.after ⟨w, Found, (Parsing.lookUp a.root a.key a.file).run⟩ = _ :=
        hserves.after_lookUp
      rw [hafter]
      exact h.stay hi rfl fun _ => hfront rfl
  | decide ticket w => exact h.stay hi rfl fun _ => hfront rfl
  | launch ticket w v =>
      have hframe := launch_frame (a.parser.invocation v a.file) w
      have hturns : (Ran.after ⟨w, _, (a.launch v).run⟩).turns = w.turns := hframe.1
      have hnext : (Ran.after ⟨w, _, (a.launch v).run⟩).nextTicket = w.nextTicket := hframe.2
      rw [hturns, hnext]
      exact h.stay hi rfl fun _ => hfront rfl
  | finish hready => exact h.stay hi rfl fun _ => hfront rfl
  | keep w hd => exact h.stay hi rfl fun _ => hfront rfl
  | leave ticket d ran w =>
      have hafter : (Ran.after (.change w (Parser.leave a.parser ticket))).turns a.parser =
          (w.turns a.parser).filter (· != ticket) :=
        World.turns_updateTurns a.parser (·.filter (· != ticket)) w
      rw [hafter]
      exact h.leave hi rfl rfl rfl rfl

/-! ## The cache -/

/-- The cache once the folder was opened, and once a document was put there besides. -/
def Aim.cacheWith (a : Aim) (w₀ : World) : Option Document → Store
  | none => w₀.cache.open? onFiles w₀.files a.root
  | some d => w₀.cache.put onFiles w₀.files a.root a.key a.modified d

/-- What the calls have made of the cache, when they have kept a document or none. -/
def Kept (a : Aim) (w₀ w : World) (kept : Option Document) : Prop :=
  (w.cache = w₀.cache ∧ kept = none) ∨ w.cache = a.cacheWith w₀ kept

section

variable {a : Aim} {w₀ w : World} {kept : Option Document}

theorem open?_cacheWith (files : FileTree) :
    (a.cacheWith w₀ kept).open? onFiles files a.root = a.cacheWith w₀ kept := by
  cases kept with
  | none => exact Store.open?_open? onFiles w₀.cache w₀.files files a.root
  | some d => exact Store.open?_put onFiles w₀.cache w₀.files files a.root a.key a.modified d

/-- What has become of the slot of the folder. -/
theorem slot?_cacheWith : (a.cacheWith w₀ kept).slot? a.root =
    some (match kept with
      | none => w₀.cache.opened onFiles w₀.files a.root
      | some d => { w₀.cache.opened onFiles w₀.files a.root with
          table := (tableIn w₀ a.root).insert a.key a.modified d, dirty := true }) := by
  cases kept with
  | none =>
      have hslot := Store.slot?_open? onFiles w₀.cache w₀.files a.root a.root
      rw [if_pos (Path.same_refl a.root)] at hslot
      exact hslot
  | some d =>
      have hslot := Store.slot?_put onFiles w₀.cache w₀.files a.root a.key a.modified d a.root
      rw [if_pos (Path.same_refl a.root)] at hslot
      exact hslot

namespace Kept

variable (h : Kept a w₀ w kept)
include h

theorem slot?_other {root : Path} (hroot : a.root.same root = false) :
    w.cache.slot? root = w₀.cache.slot? root := by
  have hne : ¬ a.root.same root = true := Bool.eq_false_iff.1 hroot
  rcases h with ⟨hcache, -⟩ | hcache
  · rw [hcache]
  · rw [hcache]
    cases kept with
    | none => rw [Aim.cacheWith, Store.slot?_open?, if_neg hne]
    | some d => rw [Aim.cacheWith, Store.slot?_put, if_neg hne]

theorem isDirty_eq : w.cache.isDirty a.root = (kept.isSome || w₀.cache.isDirty a.root) := by
  rcases h with ⟨hcache, rfl⟩ | hcache
  · rw [hcache]
    rfl
  · rw [hcache, Store.isDirty, slot?_cacheWith]
    cases kept with
    | none =>
        cases hslot : w₀.cache.slot? a.root <;> simp [Store.opened, Store.isDirty, hslot]
    | some d => rfl

variable (hload : onFiles.load w.files a.root = onFiles.load w₀.files a.root)
include hload

theorem open?_eq : w.cache.open? onFiles w.files a.root = a.cacheWith w₀ kept := by
  rcases h with ⟨hcache, rfl⟩ | hcache
  · rw [hcache]
    exact Store.open?_congr w₀.cache hload
  · rw [hcache]
    exact open?_cacheWith w.files

/-- What is found in the folder. -/
theorem tableIn_eq : tableIn w a.root =
    match kept with
    | none => tableIn w₀ a.root
    | some d => (tableIn w₀ a.root).insert a.key a.modified d := by
  have hopened : w.cache.opened onFiles w.files a.root =
      (a.cacheWith w₀ kept).opened onFiles w.files a.root := by
    rw [← h.open?_eq hload, Store.opened_open? onFiles w.cache w.files fun _ => rfl]
  rw [tableIn, hopened, Store.opened, slot?_cacheWith, Option.getD_some]
  cases kept with
  | none => rfl
  | some d => rfl

/-- The document that was kept is found, or else the one that was there. -/
theorem get?_eq : (tableIn w a.root).get? a.key a.modified = kept.or (a.found w₀) := by
  rw [h.tableIn_eq hload]
  cases kept with
  | none => rfl
  | some d => simp only [Table.get?_insert, if_true, Option.some_or]

theorem find?_other {key : String} (hkey : key ≠ a.key) :
    (tableIn w a.root).find? key = (tableIn w₀ a.root).find? key := by
  rw [h.tableIn_eq hload]
  cases kept with
  | none => rfl
  | some d => simp only [Table.find?_insert, if_neg hkey.symm]

theorem put_eq (hnone : kept = none) (d : Document) :
    w.cache.put onFiles w.files a.root a.key a.modified d = a.cacheWith w₀ (some d) := by
  rw [← Store.put_open? onFiles w.cache w.files w.files, h.open?_eq hload, hnone, Aim.cacheWith,
    Store.put_open?, Aim.cacheWith]

end Kept

end

/-! ## What the calls know -/

/-- What a call knows, given the document that was kept and the one that was there before. -/
def Stage.Holds (kept found : Option Document) : Stage → Prop
  | .fresh | .located | .waiting _ | .chosen _ => True
  | .missed _ | .launching .. => kept.or found = none
  | .running _ launched => kept.or found = none ∧ Prints launched
  | .ended _ outcome => kept.or found = none ∧ ∃ d, Parsing.verdict outcome = .parsed d
  | .leaving _ d _ | .closed d _ => kept.or found = some d

/-- The cache and the calls, when a document was kept by one of them or by none. -/
structure Memory (a : Aim) (w₀ w : World) (stages : List Stage) (kept : Option (Nat × Document)) :
    Prop where
  cache : Kept a w₀ w (kept.map (·.2))
  holds : ∀ (i : Nat) (s : Stage), stages[i]? = some s → s.Holds (kept.map (·.2)) (a.found w₀)
  keeper : ∀ (i : Nat) (s : Stage), stages[i]? = some s →
    (s.hasKept = true ↔ ∃ d, kept = some (i, d))
  missing : ∀ (i : Nat) (d : Document), kept = some (i, d) →
    a.found w₀ = none ∧ i < stages.length

namespace Memory

variable {a : Aim} {w₀ w w' : World} {stages : List Stage} {kept : Option (Nat × Document)}
  {i : Nat} {s s' : Stage}

theorem start (a : Aim) (w₀ : World) (count : Nat) :
    Memory a w₀ w₀ (List.replicate count .fresh) none := by
  refine ⟨Or.inl ⟨rfl, rfl⟩, ?_, ?_, ?_⟩
  · intro i s hs
    rw [List.eq_of_mem_replicate (List.mem_of_getElem? hs)]
    trivial
  · intro i s hs
    rw [List.eq_of_mem_replicate (List.mem_of_getElem? hs)]
    simp [Stage.hasKept]
  · intro i d hkept
    simp at hkept

/-- A call goes on and keeps nothing. -/
theorem go (h : Memory a w₀ w stages kept) (hi : stages[i]? = some s)
    (hcache : Kept a w₀ w' (kept.map (·.2))) (hsame : s'.hasKept = s.hasKept)
    (hholds : s'.Holds (kept.map (·.2)) (a.found w₀)) :
    Memory a w₀ w' (stages.set i s') kept := by
  refine ⟨hcache, ?_, ?_, ?_⟩
  · intro j x hx
    rcases (getElem?_set_cases hi).1 hx with ⟨rfl, rfl⟩ | ⟨-, hold⟩
    · exact hholds
    · exact h.holds j x hold
  · intro j x hx
    rcases (getElem?_set_cases hi).1 hx with ⟨rfl, rfl⟩ | ⟨-, hold⟩
    · rw [hsame]
      exact h.keeper i s hi
    · exact h.keeper j x hold
  · intro j d hkept
    rw [List.length_set]
    exact h.missing j d hkept

/-- A call keeps its document, when nothing was kept or there before. -/
theorem keep (h : Memory a w₀ w stages none) {ticket : Nat} {d : Document}
    (hi : stages[i]? = some s) (hfound : a.found w₀ = none)
    (hcache : Kept a w₀ w' (some d))
    (hothers : ∀ (j : Nat) (x : Stage), stages[j]? = some x → i ≠ j → x.isActive = false) :
    Memory a w₀ w' (stages.set i (.leaving ticket d true)) (some (i, d)) := by
  refine ⟨hcache, ?_, ?_, ?_⟩
  · intro j x hx
    rcases (getElem?_set_cases hi).1 hx with ⟨rfl, rfl⟩ | ⟨hij, hold⟩
    · exact rfl
    -- Nobody else has looked yet, or it would have found a document.
    · have hquiet := hothers j x hold hij
      have hbefore := h.holds j x hold
      cases x with
      | fresh => trivial
      | located => trivial
      | waiting other => trivial
      | closed d' ran =>
          have hsome : a.found w₀ = some d' := hbefore
          rw [hfound] at hsome
          simp at hsome
      | _ => simp [Stage.isActive] at hquiet
  · intro j x hx
    rcases (getElem?_set_cases hi).1 hx with ⟨rfl, rfl⟩ | ⟨hij, hold⟩
    · simp [Stage.hasKept]
    · rw [h.keeper j x hold]
      simp [hij]
  · intro j d' hkept
    have hfirst : i = j := congrArg Prod.fst (Option.some.inj hkept)
    rw [List.length_set, ← hfirst]
    exact ⟨hfound, (List.getElem?_eq_some_iff.1 hi).1⟩

end Memory

section

variable {a : Aim} {table : Table} {w₀ w : World} {kept : Option Document}

theorem Serves.load_eq (h₀ : Serves a table w₀) (h : Serves a table w) :
    onFiles.load w.files a.root = onFiles.load w₀.files a.root := by
  rw [h.load, h₀.load]

/-- The answer of the cache to a call. -/
theorem Kept.run_lookUp (h : Kept a w₀ w kept) (hserves₀ : Serves a table w₀)
    (hserves : Serves a table w) :
    ((Parsing.lookUp a.root a.key a.file).run w).1 =
      match kept.or (a.found w₀) with
      | some d => .cached d
      | none => .missing a.modified := by
  rw [hserves.answer_lookUp, Store.lookup_eq, ← h.get?_eq (hserves₀.load_eq hserves)]
  rfl

theorem Kept.lookUp (h : Kept a w₀ w kept) (hserves₀ : Serves a table w₀)
    (hserves : Serves a table w) :
    Kept a w₀ ((Parsing.lookUp a.root a.key a.file).run w).2 kept := by
  rw [hserves.after_lookUp]
  exact Or.inr (h.open?_eq (hserves₀.load_eq hserves))

end

/-- The cache after a step of a call. -/
theorem Memory.moves {a : Aim} {table : Table} {w₀ : World} {turns : List Nat}
    {stages : List Stage} {kept : Option (Nat × Document)} {i : Nat} {s s' : Stage} {r : Ran World}
    (h : Memory a w₀ r.before stages kept) (hqueued : Queued turns r.before.nextTicket stages)
    (hi : stages[i]? = some s) (hm : Moves a s r s') (hdelivers : Delivers r)
    (hserves₀ : Serves a table w₀) (hserves : Serves a table r.before) :
    ∃ kept', Memory a w₀ r.after (stages.set i s') kept' := by
  have hholds := h.holds i s hi
  -- A lookup answers with what was kept or was there before, so a miss tells that there is neither;
  -- and from then on until the call gives up its turn nobody else keeps anything.
  cases hm with
  | locate w => exact ⟨kept, h.go hi h.cache rfl trivial⟩
  | queue w => exact ⟨kept, h.go hi h.cache rfl trivial⟩
  | enter hready => exact ⟨kept, h.go hi h.cache rfl trivial⟩
  | @hit ticket w d hcached =>
      have hanswer := h.cache.run_lookUp hserves₀ hserves
      refine ⟨kept, h.go hi (h.cache.lookUp hserves₀ hserves) rfl ?_⟩
      rw [hcached] at hanswer
      cases hfound : (kept.map (·.2)).or (a.found w₀) with
      | some d' =>
          rw [hfound] at hanswer
          rw [Stage.Holds, hfound, Found.cached.inj hanswer]
      | none =>
          rw [hfound] at hanswer
          simp at hanswer
  | @miss ticket w hmissing =>
      have hanswer := h.cache.run_lookUp hserves₀ hserves
      refine ⟨kept, h.go hi (h.cache.lookUp hserves₀ hserves) rfl ?_⟩
      rw [hmissing] at hanswer
      cases hfound : (kept.map (·.2)).or (a.found w₀) with
      | some d =>
          rw [hfound] at hanswer
          simp at hanswer
      | none => exact hfound
  | decide ticket w => exact ⟨kept, h.go hi h.cache rfl hholds⟩
  | launch ticket w v =>
      have hcache : (Ran.after ⟨w, _, (a.launch v).run⟩).cache = w.cache :=
        Activity.cache_launch (a.parser.invocation v a.file) w
      refine ⟨kept, h.go hi ?_ rfl ⟨hholds, hdelivers (a.parser.invocation v a.file) rfl⟩⟩
      rw [Kept, hcache]
      exact h.cache
  | finish hready =>
      rcases hholds with ⟨hnone, d, due, hd, -⟩
      exact ⟨kept, h.go hi h.cache rfl ⟨hnone, d, hd⟩⟩
  | @keep ticket w outcome d hd =>
      rcases Option.or_eq_none_iff.1 hholds.1 with ⟨hnone, hfound⟩
      obtain rfl : kept = none := Option.map_eq_none_iff.1 hnone
      have hput := h.cache.put_eq (hserves₀.load_eq hserves) rfl d
      refine ⟨some (i, d), h.keep hi hfound (Or.inr hput) ?_⟩
      intro j x hx hij
      refine Bool.eq_false_iff.2 fun hactive => hij ?_
      exact hqueued.active_unique hi hx rfl hactive
  | leave ticket d ran w => exact ⟨kept, h.go hi h.cache rfl hholds⟩

/-! ## What the calls have done -/

/-- A step that starts a program. -/
def Starts (r : Ran World) : Prop := ∃ i, r = ⟨r.before, _, (Work.launch i).run⟩

/-- Among some steps one starts the script on the file, and no other starts a program. -/
def StartsOnce (a : Aim) (steps : List (Ran World)) : Prop :=
  ∃ front w v back, steps = front ++ ⟨w, _, (a.launch v).run⟩ :: back ∧
    ∀ r ∈ front ++ back, ¬ Starts r

/-- A program that is started is noticed by a prepared runner. -/
theorem not_starts {r : Ran World} (h : ∀ w, (r.act w).2.runner = w.runner) : ¬ Starts r := by
  rintro ⟨i, heq⟩
  let prepared : World := { r.before with runner := .script ⟨[], [], []⟩ }
  have hrecorded :
      ((Work.launch i).run prepared).2.runner = .script (Script.record ⟨[], [], []⟩ i) :=
    Activity.runner_launch rfl i
  have hkept : ((Work.launch i).run prepared).2.runner = .script ⟨[], [], []⟩ := by
    rw [heq] at h
    exact h prepared
  rw [hrecorded] at hkept
  simp [Script.record] at hkept

namespace Stage

/-- How many steps a call has taken. -/
def depth : Stage → Nat
  | .fresh => 0
  | .located => 1
  | .waiting _ => 2
  | .chosen _ => 3
  | .missed _ => 4
  | .launching .. => 5
  | .running .. => 6
  | .ended .. => 7
  | .leaving _ _ ran => if ran then 8 else 4
  | .closed _ ran => if ran then 9 else 5

/-- Whether the script was started for a call. -/
def hasStarted : Stage → Bool
  | .running .. | .ended .. => true
  | .leaving _ _ ran | .closed _ ran => ran
  | _ => false

theorem depth_le (s : Stage) : s.depth ≤ 9 := by
  cases s with
  | leaving _ _ ran => cases ran <;> simp [depth]
  | closed _ ran => cases ran <;> simp [depth]
  | _ => simp [depth]

end Stage

/-- A call is at a stage. -/
structure Tracks (a : Aim) (c : Call) (s : Stage) : Prop where
  task : c.task = s.task a
  length : c.steps.length = s.depth
  starts : if s.hasStarted then StartsOnce a c.steps else ∀ r ∈ c.steps, ¬ Starts r

namespace Tracks

variable {a : Aim} {c : Call} {s s' : Stage} {r : Ran World}

/-- A step that starts nothing. -/
theorem quiet (h : Tracks a c s) (hdepth : s'.depth = s.depth + 1)
    (hsame : s'.hasStarted = s.hasStarted) (hquiet : ¬ Starts r) :
    Tracks a ⟨s'.task a, c.steps ++ [r]⟩ s' := by
  refine ⟨rfl, ?_, ?_⟩
  · rw [List.length_append, List.length_singleton, h.length, hdepth]
  · have hstarts := h.starts
    rw [hsame]
    -- Where nothing was started no step starts anything. Otherwise one does, and not this one.
    cases hstarted : s.hasStarted with
    | false =>
        rw [hstarted] at hstarts
        intro x hx
        rcases List.mem_append.1 hx with hold | hlast
        · exact hstarts x hold
        · rw [List.mem_singleton.1 hlast]
          exact hquiet
    | true =>
        rw [hstarted] at hstarts
        rcases hstarts with ⟨front, w, v, back, hsteps, hothers⟩
        refine ⟨front, w, v, back ++ [r], ?_, ?_⟩
        · rw [hsteps, List.append_assoc, List.cons_append]
        · intro x hx
          rw [← List.append_assoc] at hx
          rcases List.mem_append.1 hx with hold | hlast
          · exact hothers x hold
          · rw [List.mem_singleton.1 hlast]
            exact hquiet

theorem moves (h : Tracks a c s) (hm : Moves a s r s') :
    Tracks a ⟨s'.task a, c.steps ++ [r]⟩ s' := by
  cases hm with
  | locate w => exact h.quiet rfl rfl (not_starts fun _ => rfl)
  | queue w => exact h.quiet rfl rfl (not_starts fun _ => rfl)
  | enter hready => exact h.quiet rfl rfl (not_starts fun _ => rfl)
  | hit hcached =>
      exact h.quiet rfl rfl (not_starts fun w => (Activity.lookUp_frame _ _ _ w).2)
  | miss hmissing =>
      exact h.quiet rfl rfl (not_starts fun w => (Activity.lookUp_frame _ _ _ w).2)
  | decide ticket w => exact h.quiet rfl rfl (not_starts fun _ => rfl)
  | launch ticket w v =>
      refine ⟨rfl, ?_, c.steps, w, v, [], rfl, ?_⟩
      · rw [List.length_append, List.length_singleton, h.length]
        rfl
      · rw [List.append_nil]
        exact h.starts
  | finish hready => exact h.quiet rfl rfl (not_starts fun _ => rfl)
  | keep w hd => exact h.quiet rfl rfl (not_starts fun _ => rfl)
  | leave ticket d ran w => exact h.quiet (by cases ran <;> rfl) rfl (not_starts fun _ => rfl)

end Tracks

/-! ## All together -/

theorem Stage.isDone_task {a : Aim} {s : Stage} (h : (s.task a).isDone = true) :
    ∃ d ran, s = .closed d ran := by
  cases s with
  | closed d ran => exact ⟨d, ran, rfl⟩
  | _ => exact absurd h Bool.false_ne_true

/-- Every call is at a stage, and the stages fit with the queue and with the cache. -/
structure Staged (a : Aim) (table : Table) (w₀ w : World) (calls : List Call)
    (stages : List Stage) (kept : Option (Nat × Document)) : Prop where
  serves : Serves a table w
  queued : Queued (w.turns a.parser) w.nextTicket stages
  memory : Memory a w₀ w stages kept
  length : stages.length = calls.length
  tracks : ∀ (i : Nat) (c : Call) (s : Stage), calls[i]? = some c → stages[i]? = some s →
    Tracks a c s

section

variable {a : Aim} {table : Table} {count : Nat} {w₀ w : World} {calls : List Call}
  {stages : List Stage} {kept : Option (Nat × Document)}

theorem Staged.start (hfree : IsFree w₀ a.parser) (hserves : Serves a table w₀) :
    Staged a table w₀ w₀ (List.replicate count ⟨a.work, []⟩) (List.replicate count .fresh)
      none := by
  refine ⟨hserves, ?_, Memory.start a w₀ count, by simp, ?_⟩
  · rw [show w₀.turns a.parser = [] from hfree]
    exact Queued.start w₀.nextTicket count
  · intro i c s hc hs
    rw [List.eq_of_mem_replicate (List.mem_of_getElem? hc),
      List.eq_of_mem_replicate (List.mem_of_getElem? hs)]
    exact ⟨rfl, rfl, by simp [Stage.hasStarted]⟩

/-- The stage of a call. -/
theorem Staged.exists_stage (h : Staged a table w₀ w calls stages kept) {i : Nat} {c : Call}
    (hc : calls[i]? = some c) : ∃ s, stages[i]? = some s ∧ Tracks a c s := by
  have hlt : i < stages.length := by
    rw [h.length]
    exact (List.getElem?_eq_some_iff.1 hc).1
  have hs : stages[i]? = some stages[i] := List.getElem?_eq_getElem hlt
  exact ⟨_, hs, h.tracks i c _ hc hs⟩

/-- A step takes the call to its next stage. -/
theorem Staged.moves {i : Nat} {c : Call} {r : Ran World} {t : Work (Option Document)}
    (h : Staged a table w₀ r.before calls stages kept) (hc : calls[i]? = some c)
    (hgoes : Goes World.isReady c.task r t) :
    ∃ s s', stages[i]? = some s ∧ Tracks a c s ∧ Moves a s r s' ∧ t = s'.task a := by
  rcases h.exists_stage hc with ⟨s, hs, htracks⟩
  rw [htracks.task] at hgoes
  have hprinted : ∀ ticket outcome, s = .ended ticket outcome →
      ∃ d, Parsing.verdict outcome = .parsed d := by
    intro ticket outcome hended
    have hholds := h.memory.holds i s hs
    rw [hended] at hholds
    exact hholds.2
  rcases moves_of_goes hgoes h.serves hprinted with ⟨s', hmoves, ht⟩
  exact ⟨s, s', hs, htracks, hmoves, ht⟩

theorem Staged.goes {i : Nat} {c : Call} {r : Ran World} {t : Work (Option Document)}
    (h : Staged a table w₀ r.before calls stages kept) (hserves₀ : Serves a table w₀)
    (hc : calls[i]? = some c) (hgoes : Goes World.isReady c.task r t) (hdelivers : Delivers r)
    (hafter : Serves a table r.after) :
    ∃ stages' kept', Staged a table w₀ r.after (calls.set i ⟨t, c.steps ++ [r]⟩) stages' kept' := by
  rcases h.moves hc hgoes with ⟨s, s', hs, htracks, hmoves, rfl⟩
  rcases h.memory.moves h.queued hs hmoves hdelivers hserves₀ h.serves with ⟨kept', hmemory⟩
  refine ⟨stages.set i s', kept', hafter, h.queued.moves hs hmoves h.serves, hmemory, ?_, ?_⟩
  · rw [List.length_set, List.length_set, h.length]
  · intro j c' x hc' hx
    rcases (getElem?_set_cases hs).1 hx with ⟨rfl, rfl⟩ | ⟨hij, hold⟩
    · rcases (getElem?_set_cases hc).1 hc' with ⟨-, rfl⟩ | ⟨hne, -⟩
      · exact htracks.moves hmoves
      · exact absurd rfl hne
    · rw [List.getElem?_set_ne hij] at hc'
      exact h.tracks j c' x hc' hold

theorem Staged.beside {w' : World} (h : Staged a table w₀ w calls stages kept)
    (hbeside : Beside a w w') (hserves : Serves a table w') :
    Staged a table w₀ w' calls stages kept := by
  refine ⟨hserves, ?_, ?_, h.length, h.tracks⟩
  · rw [hbeside.turns]
    exact h.queued.mono hbeside.ticket
  refine ⟨?_, h.memory.holds, h.memory.keeper, h.memory.missing⟩
  rw [Kept, hbeside.cache]
  exact h.memory.cache

theorem Runs.staged (h : Runs a table count w₀ w calls) (hfree : IsFree w₀ a.parser)
    (hserves : Serves a table w₀) :
    calls.length = count ∧ ∃ stages kept, Staged a table w₀ w calls stages kept := by
  induction h with
  | start => exact ⟨by simp, _, _, Staged.start hfree hserves⟩
  | goes _ hc hbefore hgoes hdelivers hafter ih =>
      rcases ih with ⟨hlength, stages, kept, hstaged⟩
      subst hbefore
      refine ⟨?_, hstaged.goes hserves hc hgoes hdelivers hafter⟩
      rw [List.length_set, hlength]
  | beside _ hbeside hafter ih =>
      rcases ih with ⟨hlength, stages, kept, hstaged⟩
      exact ⟨hlength, stages, kept, hstaged.beside hbeside hafter⟩

/-! ### Nobody waits for ever -/

/-- A call that has no ticket, or the first, can go on, at the latest when its run has ended. -/
theorem Staged.exists_moves {i : Nat} {s : Stage} (h : Staged a table w₀ w calls stages kept)
    (hserves₀ : Serves a table w₀) (hs : stages[i]? = some s) (hopen : (s.task a).isDone = false)
    (hfirst : ∀ ticket, s.ticket? = some ticket → (w.turns a.parser).head? = some ticket) :
    ∃ time, w.now ≤ time ∧ ∃ r s', r.before = { w with now := time } ∧ Moves a s r s' := by
  cases s with
  | fresh => exact ⟨w.now, Nat.le_refl _, _, _, rfl, .locate w⟩
  | located => exact ⟨w.now, Nat.le_refl _, _, _, rfl, .queue w⟩
  | waiting ticket =>
      have hready := (isReady_turn ticket).2 (hfirst ticket rfl)
      exact ⟨w.now, Nat.le_refl _, _, _, rfl, .enter hready⟩
  | chosen ticket =>
      have hanswer := h.memory.cache.run_lookUp hserves₀ h.serves
      cases hfound : (kept.map (·.2)).or (a.found w₀) with
      | some d =>
          rw [hfound] at hanswer
          exact ⟨w.now, Nat.le_refl _, _, _, rfl, .hit hanswer⟩
      | none =>
          rw [hfound] at hanswer
          exact ⟨w.now, Nat.le_refl _, _, _, rfl, .miss hanswer⟩
  | missed ticket => exact ⟨w.now, Nat.le_refl _, _, _, rfl, .decide ticket w⟩
  | launching ticket v => exact ⟨w.now, Nat.le_refl _, _, _, rfl, .launch ticket w v⟩
  | running ticket launched =>
      rcases (h.memory.holds i _ hs).2 with ⟨d, due, -, hdue⟩
      -- The run ends when it is due, if that has not passed.
      refine ⟨max w.now due, Nat.le_max_left _ _, .change { w with now := max w.now due } id, _,
        rfl, .finish ?_⟩
      simp [World.isReady, hdue]
  | ended ticket outcome =>
      rcases (h.memory.holds i _ hs).2 with ⟨d, hd⟩
      exact ⟨w.now, Nat.le_refl _, _, _, rfl, .keep w hd⟩
  | leaving ticket d ran => exact ⟨w.now, Nat.le_refl _, _, _, rfl, .leave ticket d ran w⟩
  | closed d ran => simp [Stage.task, Task.isDone] at hopen

theorem Staged.exists_goes (h : Staged a table w₀ w calls stages kept)
    (hserves₀ : Serves a table w₀) (hopen : ∃ c ∈ calls, c.task.isDone = false) :
    ∃ time, w.now ≤ time ∧ ∃ (i : Nat) (c : Call) (r : Ran World) (t : Work (Option Document)),
      calls[i]? = some c ∧ r.before = { w with now := time } ∧ Goes World.isReady c.task r t := by
  -- Somebody has no ticket, or else there is one who has the first.
  have hfirst : ∃ (i : Nat) (s : Stage), stages[i]? = some s ∧ (s.task a).isDone = false ∧
      ∀ ticket, s.ticket? = some ticket → (w.turns a.parser).head? = some ticket := by
    rcases hopen with ⟨c, hmem, hundone⟩
    rcases List.mem_iff_getElem?.1 hmem with ⟨i, hc⟩
    rcases h.exists_stage hc with ⟨s, hs, htracks⟩
    rw [htracks.task] at hundone
    cases hticket : s.ticket? with
    | none => exact ⟨i, s, hs, hundone, by simp [hticket]⟩
    | some ticket =>
        have hin := (h.queued.mem ticket).2 ⟨i, s, hs, hticket⟩
        rcases List.exists_cons_of_ne_nil (List.ne_nil_of_mem hin) with ⟨first, rest, hcons⟩
        have hin' : first ∈ w.turns a.parser := by simp [hcons]
        rcases (h.queued.mem first).1 hin' with ⟨j, x, hx, hxticket⟩
        refine ⟨j, x, hx, ?_, ?_⟩
        · refine Bool.eq_false_iff.2 fun hdone => ?_
          rcases Stage.isDone_task hdone with ⟨d, ran, rfl⟩
          simp [Stage.ticket?] at hxticket
        · intro other hother
          rw [hcons, List.head?_cons, ← hxticket, hother]
  rcases hfirst with ⟨i, s, hs, hundone, hhead⟩
  rcases h.exists_moves hserves₀ hs hundone hhead with ⟨time, htime, r, s', hbefore, hmoves⟩
  have hlt : i < calls.length := by
    rw [← h.length]
    exact (List.getElem?_eq_some_iff.1 hs).1
  have hc : calls[i]? = some calls[i] := List.getElem?_eq_getElem hlt
  have haddress : Parsing.address? r.before.files a.file = some (a.root, a.key) := by
    rw [hbefore]
    exact h.serves.address
  refine ⟨time, htime, i, calls[i], r, s'.task a, hc, hbefore, ?_⟩
  rw [(h.tracks i _ s hc hs).task]
  exact goes_of_moves hmoves haddress

end

/-! ## What all calls come to -/

/-- What so many calls that are done have come to. -/
structure Settled (a : Aim) (w₀ w : World) (calls : List Call) (d : Document) : Prop where
  answers : ∀ c ∈ calls, c.task = .done (some d)
  cached : ∀ d₀, a.found w₀ = some d₀ → d = d₀ ∧ ∀ c ∈ calls, ∀ r ∈ c.steps, ¬ Starts r
  missing : a.found w₀ = none → ∃ (i : Nat) (c : Call), calls[i]? = some c ∧
    StartsOnce a c.steps ∧ ∀ (j : Nat) (c' : Call), calls[j]? = some c' → i ≠ j →
      ∀ r ∈ c'.steps, ¬ Starts r
  found : a.found w = some d
  dirty : w.cache.isDirty a.root = true ↔
    (∃ c ∈ calls, ∃ r ∈ c.steps, Starts r) ∨ w₀.cache.isDirty a.root = true
  others : ∀ key, key ≠ a.key → (tableIn w a.root).find? key = (tableIn w₀ a.root).find? key
  slots : ∀ root, a.root.same root = false → w.cache.slot? root = w₀.cache.slot? root

theorem StartsOnce.exists_starts {a : Aim} {steps : List (Ran World)} (h : StartsOnce a steps) :
    ∃ r ∈ steps, Starts r := by
  rcases h with ⟨front, w, v, back, rfl, -⟩
  exact ⟨_, List.mem_append_right _ (List.mem_cons_self), _, rfl⟩

section

variable {a : Aim} {table : Table} {count : Nat} {w₀ w : World} {calls : List Call}
  {stages : List Stage} {kept : Option (Nat × Document)}

/-- A call that is done has the document, and has started the script if it has kept it. -/
theorem Staged.closed (h : Staged a table w₀ w calls stages kept)
    (hdone : ∀ c ∈ calls, c.task.isDone = true) {i : Nat} {c : Call} (hc : calls[i]? = some c) :
    ∃ d ran, c.task = .done (some d) ∧ (kept.map (·.2)).or (a.found w₀) = some d ∧
      (ran = true ↔ ∃ d', kept = some (i, d')) ∧
      if ran then StartsOnce a c.steps else ∀ r ∈ c.steps, ¬ Starts r := by
  rcases h.exists_stage hc with ⟨s, hs, htracks⟩
  have hclosed := hdone c (List.mem_of_getElem? hc)
  rw [htracks.task] at hclosed
  rcases Stage.isDone_task hclosed with ⟨d, ran, rfl⟩
  exact ⟨d, ran, htracks.task, h.memory.holds i _ hs, h.memory.keeper i _ hs, htracks.starts⟩

/-- All calls that are done have the same document. -/
theorem Staged.answers (h : Staged a table w₀ w calls stages kept)
    (hdone : ∀ c ∈ calls, c.task.isDone = true) {d : Document}
    (hd : (kept.map (·.2)).or (a.found w₀) = some d) : ∀ c ∈ calls, c.task = .done (some d) := by
  intro c hmem
  rcases List.mem_iff_getElem?.1 hmem with ⟨i, hc⟩
  rcases h.closed hdone hc with ⟨d', -, htask, hd', -, -⟩
  rw [hd] at hd'
  rw [htask, Option.some.inj hd']

/-- Who has not kept a document has started nothing. -/
theorem Staged.not_starts (h : Staged a table w₀ w calls stages kept)
    (hdone : ∀ c ∈ calls, c.task.isDone = true) {i : Nat} {c : Call} (hc : calls[i]? = some c)
    (hnot : ∀ d, kept ≠ some (i, d)) : ∀ r ∈ c.steps, ¬ Starts r := by
  rcases h.closed hdone hc with ⟨-, ran, -, -, hran, hstarts⟩
  have hfalse : ran = false := by
    refine Bool.eq_false_iff.2 fun htrue => ?_
    rcases hran.1 htrue with ⟨d, hkept⟩
    exact hnot d hkept
  rw [hfalse] at hstarts
  exact hstarts

/-- Who has kept a document has started the script. -/
theorem Staged.startsOnce {i : Nat} {d : Document}
    (h : Staged a table w₀ w calls stages (some (i, d)))
    (hdone : ∀ c ∈ calls, c.task.isDone = true) {c : Call} (hc : calls[i]? = some c) :
    StartsOnce a c.steps := by
  rcases h.closed hdone hc with ⟨-, ran, -, -, hran, hstarts⟩
  rw [if_pos (hran.2 ⟨d, rfl⟩)] at hstarts
  exact hstarts

/-- The document was there before. -/
theorem Staged.settled_of_found (h : Staged a table w₀ w calls stages none)
    (hserves₀ : Serves a table w₀) (hdone : ∀ c ∈ calls, c.task.isDone = true) {d : Document}
    (hd : a.found w₀ = some d) : Settled a w₀ w calls d := by
  have hload := hserves₀.load_eq h.serves
  have hnobody : ∀ c ∈ calls, ∀ r ∈ c.steps, ¬ Starts r := by
    intro c hmem
    rcases List.mem_iff_getElem?.1 hmem with ⟨i, hc⟩
    exact h.not_starts hdone hc (by simp)
  refine ⟨h.answers hdone hd, ?_, ?_, (h.memory.cache.get?_eq hload).trans hd, ?_,
    fun key => h.memory.cache.find?_other hload, fun root => h.memory.cache.slot?_other⟩
  · intro d₀ hd₀
    rw [hd] at hd₀
    exact ⟨Option.some.inj hd₀, hnobody⟩
  · intro hnone
    rw [hd] at hnone
    simp at hnone
  · have hsame : w.cache.isDirty a.root = w₀.cache.isDirty a.root := h.memory.cache.isDirty_eq
    rw [hsame]
    refine ⟨Or.inr, ?_⟩
    rintro (⟨c, hmem, r, hr, hstarts⟩ | hbefore)
    · exact absurd hstarts (hnobody c hmem r hr)
    · exact hbefore

/-- One of the calls has kept the document. -/
theorem Staged.settled_of_kept {i : Nat} {d : Document}
    (h : Staged a table w₀ w calls stages (some (i, d))) (hserves₀ : Serves a table w₀)
    (hdone : ∀ c ∈ calls, c.task.isDone = true) : Settled a w₀ w calls d := by
  have hload := hserves₀.load_eq h.serves
  rcases h.memory.missing i d rfl with ⟨hmissing, hlt⟩
  have hlt' : i < calls.length := h.length ▸ hlt
  have hc : calls[i]? = some calls[i] := List.getElem?_eq_getElem hlt'
  -- The call that has kept the document has started the script, and no other one has.
  have honce := h.startsOnce hdone hc
  refine ⟨h.answers hdone rfl, ?_, ?_, h.memory.cache.get?_eq hload, ?_,
    fun key => h.memory.cache.find?_other hload, fun root => h.memory.cache.slot?_other⟩
  · intro d₀ hd₀
    rw [hmissing] at hd₀
    simp at hd₀
  · intro _
    refine ⟨i, calls[i], hc, honce, ?_⟩
    intro j c' hc' hij
    refine h.not_starts hdone hc' fun d' hkept => hij ?_
    exact congrArg Prod.fst (Option.some.inj hkept)
  · have htrue : w.cache.isDirty a.root = true := h.memory.cache.isDirty_eq
    exact ⟨fun _ => Or.inl ⟨_, List.getElem_mem hlt', honce.exists_starts⟩, fun _ => htrue⟩

theorem Staged.settled (h : Staged a table w₀ w calls stages kept) (hserves₀ : Serves a table w₀)
    (hsome : 0 < calls.length) (hdone : ∀ c ∈ calls, c.task.isDone = true) :
    ∃ d, Settled a w₀ w calls d := by
  cases kept with
  | none =>
      -- There is a call, and it has nothing but what was there before.
      have hcall : calls[0]? = some calls[0] := List.getElem?_eq_getElem hsome
      rcases h.closed hdone hcall with ⟨d, -, -, hd, -, -⟩
      exact ⟨d, h.settled_of_found hserves₀ hdone hd⟩
  | some keeper =>
      rcases keeper with ⟨i, d⟩
      exact ⟨d, h.settled_of_kept hserves₀ hdone⟩

/-- Calls for one file that overlap come to one document. No call takes more than nine steps, and as
long as one is not done some call can go on. Once all are done, they have the document that was in
the cache, and none has started a program; or there was none, and one call alone has started the
script, once. The folder is marked if the script was started or if it was marked before, and nothing
else in the cache has changed. -/
theorem Runs.shared (h : Runs a table count w₀ w calls) (hcount : 0 < count)
    (hfree : IsFree w₀ a.parser) (hserves : Serves a table w₀) :
    calls.length = count ∧ (∀ c ∈ calls, c.steps.length ≤ 9) ∧
    ((∃ c ∈ calls, c.task.isDone = false) →
      ∃ time, w.now ≤ time ∧ ∃ (i : Nat) (c : Call) (r : Ran World) (t : Work (Option Document)),
        calls[i]? = some c ∧ r.before = { w with now := time } ∧
          Goes World.isReady c.task r t) ∧
    ((∀ c ∈ calls, c.task.isDone = true) → ∃ d, Settled a w₀ w calls d) := by
  rcases h.staged hfree hserves with ⟨hlength, stages, kept, hstaged⟩
  refine ⟨hlength, ?_, hstaged.exists_goes hserves, hstaged.settled hserves (hlength ▸ hcount)⟩
  intro c hmem
  rcases List.mem_iff_getElem?.1 hmem with ⟨i, hc⟩
  rcases hstaged.exists_stage hc with ⟨s, -, htracks⟩
  rw [htracks.length]
  exact s.depth_le

end

/-! ## Two calls at once -/

/-- A runner that answers the outline script alone, and takes its time. -/
def slow (started : List Invocation) : Runner :=
  .script ⟨[("parse_file.py", .outcome Table.output)], [("parse_file.py", some 50)], started⟩

def pairStart : World := World.start Activity.twins default (slow []) default

/-- A parser with an interpreter of its own is asked for the left file. -/
def pairAim : Aim :=
  ⟨.fixed ⟨"python"⟩ ⟨"/scripts/parse_file.py"⟩ 0, ⟨"/left/t.py"⟩, ⟨"/left"⟩, "t.py", 7⟩

/-- A world in which the file is served. -/
structure Prepared (w : World) : Prop where
  files : w.files = Activity.twins
  runner : ∃ started, w.runner = slow started

theorem run_launch_slow {w : World} {started : List Invocation} (h : w.runner = slow started)
    (v : World) : (pairAim.launch v).run w = ((Table.printed, some (w.now + 50)),
      { w with runner := slow (started ++ [pairAim.parser.invocation v pairAim.file]) }) := by
  have hchosen : ∀ {α : Type} (x : α), Script.choose? [("parse_file.py", x)]
      (pairAim.parser.invocation v pairAim.file).shellCommand = some x := fun x => by
    have hpart : Text.contains
        (pairAim.parser.invocation v pairAim.file).shellCommand.toList "parse_file.py".toList =
          true := by
      change Text.contains (Invocation.here "python" ["/scripts/parse_file.py",
        "/left/t.py"]).shellCommand.toList "parse_file.py".toList = true
      decide +kernel
    rw [Script.choose?, List.find?_cons]
    simp only [hpart, Option.map_some]
  rw [Aim.launch, Activity.run_launch, h]
  simp only [slow, Script.reply, Script.due, hchosen]
  rfl

theorem Prepared.serves {w : World} (h : Prepared w) : Serves pairAim .empty w := by
  refine ⟨?_, ?_, ?_⟩
  · rw [h.files]
    exact Activity.placed_twins.1.address
  · rw [h.files]
    exact Activity.placed_twins.1.time
  · rw [h.files]
    exact Activity.load_twins (Or.inl rfl)

/-- The only program that a call starts is the outline script. -/
theorem Moves.launch_of_starts {a : Aim} {s s' : Stage} {r : Ran World} (hm : Moves a s r s')
    (hstarts : Starts r) : ∃ v, r = ⟨r.before, _, (a.launch v).run⟩ := by
  cases hm with
  | launch ticket w v => exact ⟨v, rfl⟩
  | hit _ | miss _ =>
      exact absurd hstarts (not_starts fun w => (Activity.lookUp_frame _ _ _ w).2)
  | _ => exact absurd hstarts (not_starts fun _ => rfl)

/-- What a call starts prints a document. -/
theorem Prepared.delivers {s s' : Stage} {r : Ran World} (h : Prepared r.before)
    (hm : Moves pairAim s r s') : Delivers r := by
  intro i hr
  rcases hm.launch_of_starts ⟨i, hr⟩ with ⟨v, hv⟩
  rcases h.runner with ⟨started, hrunner⟩
  have hsame : (Work.launch i).run = (pairAim.launch v).run := by
    simpa using hr.symm.trans hv
  rw [hsame, run_launch_slow hrunner]
  exact ⟨_, _, Table.verdict_printed, rfl⟩

theorem Prepared.moves {s s' : Stage} {r : Ran World} (h : Prepared r.before)
    (hm : Moves pairAim s r s') : Prepared r.after := by
  cases hm with
  | hit hcached =>
      have hframe := Activity.lookUp_frame pairAim.root pairAim.key pairAim.file
      exact ⟨(hframe _).1.trans h.files, (hframe _).2.symm ▸ h.runner⟩
  | miss hmissing =>
      have hframe := Activity.lookUp_frame pairAim.root pairAim.key pairAim.file
      exact ⟨(hframe _).1.trans h.files, (hframe _).2.symm ▸ h.runner⟩
  | launch ticket w v =>
      rcases h.runner with ⟨started, hrunner⟩
      have hafter : Ran.after ⟨w, _, (pairAim.launch v).run⟩ = _ :=
        congrArg Prod.snd (run_launch_slow hrunner v)
      rw [hafter]
      exact ⟨h.files, _, rfl⟩
  | _ => exact ⟨h.files, h.runner⟩

/-- A call may go on for some steps. -/
theorem Runs.goesOn {count : Nat} {w w' : World} {calls : List Call} {i : Nat} {c : Call}
    {xs : List (Ran World)} {t : Work (Option Document)}
    (h : Runs pairAim .empty count pairStart w calls) (hprepared : Prepared w)
    (hc : calls[i]? = some c) (hgoes : GoesOn World.isReady c.task w xs t w') :
    Prepared w' ∧ Runs pairAim .empty count pairStart w' (calls.set i ⟨t, c.steps ++ xs⟩) := by
  have hstart : Prepared pairStart := ⟨rfl, [], rfl⟩
  rcases c with ⟨task, steps⟩
  change GoesOn World.isReady task w xs t w' at hgoes
  induction hgoes generalizing calls steps with
  | none t w =>
      -- Without a step the call stays as it is.
      have hsame : calls.set i ⟨t, steps ++ []⟩ = calls := by
        rcases List.getElem?_eq_some_iff.1 hc with ⟨hlt, heq⟩
        rw [List.append_nil, ← heq]
        exact List.set_getElem_self hlt
      rw [hsame]
      exact ⟨hprepared, h⟩
  | @more t t' t'' x xs w' hstep _ ih =>
      have hfree : IsFree pairStart pairAim.parser := rfl
      rcases h.staged hfree hstart.serves with ⟨-, stages, kept, hstaged⟩
      rcases hstaged.moves hc hstep with ⟨s, s', -, -, hmoves, -⟩
      have hafter := hprepared.moves hmoves
      have hrun := h.goes hc rfl hstep (hprepared.delivers hmoves) hafter.serves
      have hc' : (calls.set i ⟨t', steps ++ [x]⟩)[i]? = some ⟨t', steps ++ [x]⟩ :=
        (getElem?_set_cases hc).2 (Or.inl ⟨rfl, rfl⟩)
      have hrest := ih hrun hafter _ hc'
      rw [List.set_set, List.append_assoc] at hrest
      exact hrest

theorem Runs.polled {count : Nat} {w : World} {calls : List Call} {i : Nat}
    {t : Work (Option Document)} {steps : List (Ran World)}
    (h : Runs pairAim .empty count pairStart w calls) (hprepared : Prepared w)
    (hc : calls[i]? = some ⟨t, steps⟩) :
    Prepared (t.poll World.isReady w).2 ∧ ∃ steps', Runs pairAim .empty count pairStart
      (t.poll World.isReady w).2 (calls.set i ⟨(t.poll World.isReady w).1, steps'⟩) := by
  rcases goesOn_poll World.isReady t w with ⟨xs, hxs⟩
  rcases h.goesOn hprepared hc hxs with ⟨hprepared', hruns⟩
  exact ⟨hprepared', _, hruns⟩

theorem Runs.later {count : Nat} {w : World} {calls : List Call}
    (h : Runs pairAim .empty count pairStart w calls) (hprepared : Prepared w) (time : Nat) :
    Prepared { w with now := time } ∧
      Runs pairAim .empty count pairStart { w with now := time } calls := by
  have hlater : Prepared { w with now := time } := ⟨hprepared.files, hprepared.runner⟩
  exact ⟨hlater, h.beside ⟨rfl, rfl, Nat.le_refl _⟩ hlater.serves⟩

/-- The first call has started its run and the second waits for its turn. -/
def pairFirst : Work (Option Document) × World := pairAim.work.poll World.isReady pairStart

def pairSecond : Work (Option Document) × World := pairAim.work.poll World.isReady pairFirst.2

/-- Time passes until the run has ended. -/
def pairLater : World := { pairSecond.2 with now := 50 }

def pairThird : Work (Option Document) × World := pairFirst.1.poll World.isReady pairLater

def pairFourth : Work (Option Document) × World := pairSecond.1.poll World.isReady pairThird.2

theorem runs_pair : ∃ steps steps', Runs pairAim .empty 2 pairStart pairFourth.2
    [⟨pairThird.1, steps⟩, ⟨pairFourth.1, steps'⟩] := by
  have hstart : Runs pairAim .empty 2 pairStart pairStart
    [⟨pairAim.work, []⟩, ⟨pairAim.work, []⟩] := .start
  rcases hstart.polled (i := 0) ⟨rfl, [], rfl⟩ rfl with ⟨hprepared₁, steps₁, hfirst⟩
  rcases hfirst.polled (i := 1) hprepared₁ rfl with ⟨hprepared₂, steps₂, hsecond⟩
  rcases hsecond.later hprepared₂ 50 with ⟨hprepared, hlater⟩
  rcases hlater.polled (i := 0) hprepared rfl with ⟨hprepared₃, steps₃, hthird⟩
  rcases hthird.polled (i := 1) hprepared₃ rfl with ⟨-, steps₄, hfourth⟩
  exact ⟨steps₃, steps₄, hfourth⟩

theorem isDone_pair {t t' : Work (Option Document)} (steps steps' : List (Ran World))
    (h : t.isDone = true) (h' : t'.isDone = true) :
    ∀ c ∈ [Call.mk t steps, ⟨t', steps'⟩], c.task.isDone = true := by
  intro c hc
  rcases List.mem_cons.1 hc with rfl | hrest
  · exact h
  · rw [List.mem_singleton.1 hrest]
    exact h'

/-- The second call comes while the script runs for the first. Only one of them has started it. -/
theorem shared_pair : IsFree pairStart pairAim.parser ∧ Serves pairAim .empty pairStart ∧
    ∃ calls d, Runs pairAim .empty 2 pairStart pairFourth.2 calls ∧ calls.length = 2 ∧
      Settled pairAim pairStart pairFourth.2 calls d ∧ ∃ c ∈ calls, StartsOnce pairAim c.steps := by
  have hfree : IsFree pairStart pairAim.parser := rfl
  have hserves : Serves pairAim .empty pairStart := Prepared.serves ⟨rfl, [], rfl⟩
  have hmissing : pairAim.found pairStart = none := by
    have hload : tableIn pairStart pairAim.root = .empty := hserves.load
    rw [Aim.found, hload]
    rfl
  have hended : pairThird.1.isDone = true ∧ pairFourth.1.isDone = true := by decide +kernel
  rcases runs_pair with ⟨steps, steps', hruns⟩
  have hdone := isDone_pair steps steps' hended.1 hended.2
  rcases hruns.shared (by decide) hfree hserves with ⟨hlength, -, -, hsettled⟩
  rcases hsettled hdone with ⟨d, hd⟩
  rcases hd.missing hmissing with ⟨i, c, hc, honce, -⟩
  exact ⟨hfree, hserves, _, d, hruns, hlength, hd, c, List.mem_of_getElem? hc, honce⟩

end Sharing
end Testbench
