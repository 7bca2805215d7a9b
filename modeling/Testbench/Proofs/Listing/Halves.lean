import Testbench.Proofs.Parsing.Failure

/-!
# Halves — two fetches of one file, side by side

A listing asks twice for the document of one file, once for its classes and once for its functions.
Each half waits for its turn, so at any time at most one of the two looks into the cache or runs the
script. A document that one half has come to is found by the other, but a half that comes to nothing
leaves nothing to be found.

- `Still`, `Aims`      : the file, and what is known of it throughout;
- `Stage`, `Moves`     : how far a half has come, and its next step, whatever the script comes to;
- `Replies`            : what the runs of the script have come to, in the order of their starts;
- `Half`, `Apart`      : what holds of one half, and of two;
- `InOrder`            : runs and messages of both halves, the earlier ones first;
- `Halved`             : all of it, with one lemma for a step and one for what others do;
- `Fair`, `Halved.agree` : what the two halves come to.
-/

namespace Testbench
namespace Halves

open Activity (fetchAfter parseIn parseIn_none parseIn_some run_lookUp_error)
open Outline (Document)
open Parsing
  (Found LeavesTables Notice Notifies Parted Prints Tells Verdict found launch notices opened
  verdict)
open ProjectFiles (modifiedMillis)
open Sharing (Aim Starts goes_conclude goes_fetch goes_holding_done goes_inTurn goes_launching
  goes_missed goes_waiting goes_work not_starts)
open Testbench.Task (Ran Goes)

/-! ## The file -/

/-- The address and the time of a file, if it has them, are what they were. -/
structure Still (file : Path) (w₀ w : World) : Prop where
  address : Parsing.address? w.files file = Parsing.address? w₀.files file
  time : modifiedMillis w.files file = modifiedMillis w₀.files file

/-- An aim has the address and the time of its file, if there are any. -/
structure Aims (a : Aim) (w₀ : World) : Prop where
  address : ∀ root key, Parsing.address? w₀.files a.file = some (root, key) →
    a.root = root ∧ a.key = key
  time : ∀ modified, modifiedMillis w₀.files a.file = .ok modified → a.modified = modified

theorem exists_aims (p : Parser) (file : Path) (w₀ : World) :
    ∃ a : Aim, a.parser = p ∧ a.file = file ∧ Aims a w₀ := by
  let place := (Parsing.address? w₀.files file).getD default
  let modified := (modifiedMillis w₀.files file).toOption.getD 0
  refine ⟨⟨p, file, place.1, place.2, modified⟩, rfl, rfl, ⟨fun root key h => ?_, fun m h => ?_⟩⟩
  · simp [place, h]
  · simp [modified, h, Except.toOption]

/-- The document of the file that is found. -/
def kept? (a : Aim) (w : World) : Option Document := found w a.root a.key a.modified

/-- The ticket of the one whose turn it is at the parser. -/
def first? (a : Aim) (w : World) : Option Nat := (w.turns a.parser).head?

/-! ## Stages of a half -/

/-- The document of a verdict. -/
def document? : Verdict → Option Document
  | .parsed d => some d
  | .failed _ | .unreadable | .syntaxErrors => none

/-- How far a half has come. The last two tell what its run came to, if there was one. -/
inductive Stage where
  | fresh
  | located
  | waiting (ticket : Nat)
  | chosen (ticket : Nat)
  | missed (ticket : Nat)
  | launching (ticket : Nat) (w : World)
  | running (ticket : Nat) (launched : Except Error Outcome × Option Nat)
  | ended (ticket : Nat) (outcome : Except Error Outcome)
  | leaving (ticket : Nat) (d : Option Document) (run : Option (Except Error Outcome))
  | closed (d : Option Document) (run : Option (Except Error Outcome))

namespace Stage

/-- What is left to do. -/
def task (a : Aim) : Stage → Work (Option Document)
  | .fresh => a.work
  | .located => a.parser.inTurn a.fetch
  | .waiting ticket => a.holding ticket (.await (.turn a.parser ticket) a.fetch)
  | .chosen ticket => a.holding ticket a.fetch
  | .missed ticket =>
      a.holding ticket (fetchAfter a.parser a.root a.key a.file (.missing a.modified))
  | .launching ticket w =>
    a.holding ticket ((Work.run (a.parser.invocation w a.file)).bind a.conclude)
  | .running ticket launched =>
    a.holding ticket (.await (.until launched.2) (a.conclude launched.1))
  | .ended ticket outcome => a.holding ticket (a.conclude outcome)
  | .leaving ticket d _ => a.holding ticket (.done d)
  | .closed d _ => .done d

def ticket? : Stage → Option Nat
  | .fresh | .located | .closed .. => none
  | .waiting ticket | .chosen ticket | .missed ticket | .launching ticket _ | .running ticket _
  | .ended ticket _ | .leaving ticket .. => some ticket

/-- Whether the turn of a half has come and is not given up. -/
def isActive : Stage → Bool
  | .fresh | .located | .waiting _ | .closed .. => false
  | .chosen _ | .missed _ | .launching .. | .running .. | .ended .. | .leaving .. => true

/-- Whether a half has found nothing and is about to run the script, or has run it. -/
def hasMissed : Stage → Bool
  | .missed _ | .launching .. | .running .. | .ended .. => true
  | .fresh | .located | .waiting _ | .chosen _ | .leaving .. | .closed .. => false

def result? : Stage → Option (Option Document)
  | .leaving _ d _ | .closed d _ => some d
  | _ => none

/-- What the run of a half comes to, once it is started. -/
def runs : Stage → List (Except Error Outcome)
  | .running _ launched => [launched.1]
  | .ended _ outcome => [outcome]
  | .leaving _ _ run | .closed _ run => run.toList
  | _ => []

/-- What a half has told the host. -/
def told (file : Path) : Stage → List Notice
  | .leaving _ _ run | .closed _ run => run.toList.flatMap fun o => notices file (verdict o)
  | _ => []

theorem isActive_of_hasMissed {s : Stage} (h : s.hasMissed = true) : s.isActive = true := by
  cases s <;> first | rfl | exact absurd h Bool.false_ne_true

theorem exists_ticket {s : Stage} (h : s.isActive = true) : ∃ ticket, s.ticket? = some ticket := by
  cases s <;> first | exact ⟨_, rfl⟩ | exact absurd h Bool.false_ne_true

theorem told_of_runs {s : Stage} (h : s.runs = []) (file : Path) : s.told file = [] := by
  cases s with
  | leaving ticket d run | closed d run =>
      rw [runs, Option.toList_eq_nil_iff] at h
      rw [told, h]
      rfl
  | _ => rfl

/-- A half that has run the script and whose turn is over is closed. -/
theorem closed_of_runs {s : Stage} (hruns : s.runs ≠ []) (h : s.isActive = false) :
    ∃ d o, s = .closed d (some o) := by
  cases s with
  | closed d run =>
      cases run with
      | none => exact absurd rfl hruns
      | some o => exact ⟨d, o, rfl⟩
  | fresh | located | waiting _ => exact absurd rfl hruns
  | _ => exact absurd h.symm Bool.false_ne_true

end Stage

/-- One step of a half. -/
inductive Moves (a : Aim) : Stage → Ran World → Stage → Prop where
  | unplaced {w : World} (haddress : Parsing.address? w.files a.file = none) :
      Moves a .fresh ⟨w, World, Act.world.run⟩ (.closed none none)
  | locate {w : World} (haddress : Parsing.address? w.files a.file = some (a.root, a.key)) :
      Moves a .fresh ⟨w, World, Act.world.run⟩ .located
  | queue (w : World) :
      Moves a .located ⟨w, Nat, (Parser.queueUp a.parser).run⟩ (.waiting w.nextTicket)
  | enter {ticket : Nat} {w : World} (hready : first? a w = some ticket) :
      Moves a (.waiting ticket) (.change w id) (.chosen ticket)
  | unreadable {ticket : Nat} {w : World} {cause : FileError}
      (htime : modifiedMillis w.files a.file = .error cause) :
      Moves a (.chosen ticket) ⟨w, Found, (Parsing.lookUp a.root a.key a.file).run⟩
        (.leaving ticket none none)
  | hit {ticket : Nat} {w : World} {d : Document}
      (htime : modifiedMillis w.files a.file = .ok a.modified) (hkept : kept? a w = some d) :
      Moves a (.chosen ticket) ⟨w, Found, (Parsing.lookUp a.root a.key a.file).run⟩
        (.leaving ticket (some d) none)
  | miss {ticket : Nat} {w : World} (htime : modifiedMillis w.files a.file = .ok a.modified)
      (hkept : kept? a w = none) :
      Moves a (.chosen ticket) ⟨w, Found, (Parsing.lookUp a.root a.key a.file).run⟩ (.missed ticket)
  | decide (ticket : Nat) (w : World) :
      Moves a (.missed ticket) ⟨w, World, Act.world.run⟩ (.launching ticket w)
  | launch (ticket : Nat) (w v : World) :
      Moves a (.launching ticket v) ⟨w, _, (launch a.parser a.file v).run⟩
        (.running ticket ((launch a.parser a.file v).run w).1)
  | finish (ticket : Nat) (w : World) (launched : Except Error Outcome × Option Nat) :
      Moves a (.running ticket launched) (.change w id) (.ended ticket launched.1)
  | conclude (ticket : Nat) (w : World) (outcome : Except Error Outcome) :
      Moves a (.ended ticket outcome)
        ⟨w, _, (Parsing.conclude a.root a.key a.file a.modified (verdict outcome)).run⟩
        (.leaving ticket (document? (verdict outcome)) (some outcome))
  | leave (ticket : Nat) (d : Option Document) (run : Option (Except Error Outcome)) (w : World) :
      Moves a (.leaving ticket d run) (.change w (Parser.leave a.parser ticket)) (.closed d run)

section

variable {a : Aim} {w₀ : World} {s s' : Stage} {r : Ran World}

theorem run_conclude (root : Path) (key : String) (file : Path) (modified : Nat) (v : Verdict)
    (w : World) : ((Parsing.conclude root key file modified v).run w).1 = document? v := by
  cases v <;> rfl

/-- A half whose turn has come finds its document, or misses it. -/
theorem moves_chosen {ticket : Nat} {t : Work (Option Document)}
    (h : Goes World.isReady ((Stage.chosen ticket).task a) r t)
    (haims : Aims a w₀) (hstill : Still a.file w₀ r.before) :
    ∃ s', Moves a (.chosen ticket) r s' ∧ t = s'.task a := by
  rcases goes_fetch h with ⟨w, rfl, ht⟩
  cases htime : modifiedMillis w.files a.file with
  | error cause =>
      rw [run_lookUp_error htime] at ht
      exact ⟨_, .unreadable htime, ht⟩
  | ok modified =>
      have haimed := haims.time modified (hstill.time.symm.trans htime)
      rw [← haimed] at htime
      cases hkept : kept? a w with
      | some d =>
          rw [Parsing.run_lookUp_cached htime hkept] at ht
          exact ⟨_, .hit htime hkept, ht⟩
      | none =>
          rw [Parsing.run_lookUp_missing htime hkept] at ht
          exact ⟨_, .miss htime hkept, ht⟩

/-- A step of a half takes it to the next stage. -/
theorem moves_of_goes {t : Work (Option Document)} (h : Goes World.isReady (s.task a) r t)
    (haims : Aims a w₀) (hstill : Still a.file w₀ r.before) :
    ∃ s', Moves a s r s' ∧ t = s'.task a := by
  -- The stage says what the task does next.
  cases s with
  | fresh =>
      rcases goes_work h with ⟨w, rfl, ht⟩
      cases haddress : Parsing.address? w.files a.file with
      | none =>
          rw [parseIn_none haddress] at ht
          exact ⟨_, .unplaced haddress, ht⟩
      | some place =>
          rcases haims.address place.1 place.2 (hstill.address.symm.trans haddress)
            with ⟨hroot, hkey⟩
          have hplace : Parsing.address? w.files a.file = some (a.root, a.key) := by
            rw [haddress, hroot, hkey]
          rw [parseIn_some hplace] at ht
          exact ⟨_, .locate hplace, ht⟩
  | located =>
      rcases goes_inTurn h with ⟨w, rfl, ht⟩
      exact ⟨_, .queue w, ht⟩
  | waiting ticket =>
      rcases goes_waiting h with ⟨w, hready, rfl, ht⟩
      exact ⟨_, .enter (beq_iff_eq.1 hready), ht⟩
  | chosen ticket => exact moves_chosen h haims hstill
  | missed ticket =>
      rcases goes_missed h with ⟨w, rfl, ht⟩
      exact ⟨_, .decide ticket w, ht⟩
  | launching ticket v =>
      rcases goes_launching h with ⟨w, rfl, ht⟩
      exact ⟨_, .launch ticket w v, ht⟩
  | running ticket launched =>
      rcases goes_waiting h with ⟨w, -, rfl, ht⟩
      exact ⟨_, .finish ticket w launched, ht⟩
  | ended ticket outcome =>
      rcases goes_conclude h with ⟨w, rfl, ht⟩
      rw [run_conclude] at ht
      exact ⟨_, .conclude ticket w outcome, ht⟩
  | leaving ticket d run =>
      rcases goes_holding_done h with ⟨w, rfl, rfl⟩
      exact ⟨_, .leave ticket d run w, rfl⟩
  | closed d run => exact absurd h Goes.not_done

/-! ### What a step does to the queue -/

theorem after_lookUp (root : Path) (key : String) (file : Path) (w : World) :
    ((Parsing.lookUp root key file).run w).2 = w ∨
      ((Parsing.lookUp root key file).run w).2 = opened w root := by
  cases htime : modifiedMillis w.files file with
  | error cause => exact .inl (congrArg Prod.snd (run_lookUp_error htime))
  | ok modified => exact .inr (congrArg Prod.snd (Activity.run_lookUp_ok htime))

/-- A half whose turn it is and stays leaves turns and tickets alone. -/
theorem Moves.frame (hm : Moves a s r s') (hs : s.isActive = true) (hs' : s'.isActive = true) :
    r.after.turns = r.before.turns ∧ r.after.nextTicket = r.before.nextTicket := by
  have hlookUp : ∀ w, ((Parsing.lookUp a.root a.key a.file).run w).2.turns = w.turns ∧
      ((Parsing.lookUp a.root a.key a.file).run w).2.nextTicket = w.nextTicket := by
    intro w
    rcases after_lookUp a.root a.key a.file w with hafter | hafter <;> rw [hafter] <;>
      exact ⟨rfl, rfl⟩
  cases hm with
  | unreadable | hit | miss => exact hlookUp _
  | decide | finish => exact ⟨rfl, rfl⟩
  | launch ticket w v => exact Sharing.launch_frame _ w
  | conclude ticket w outcome =>
      change ((Parsing.conclude a.root a.key a.file a.modified (verdict outcome)).run w).2.turns =
        w.turns ∧ ((Parsing.conclude a.root a.key a.file a.modified
          (verdict outcome)).run w).2.nextTicket = w.nextTicket
      cases verdict outcome <;> exact ⟨rfl, rfl⟩
  | unplaced | locate | queue | enter => exact absurd hs Bool.false_ne_true
  | leave => exact absurd hs' Bool.false_ne_true

/-- A half whose turn has not come leaves the turn to whose it is. -/
theorem Moves.first?_of_inactive (hm : Moves a s r s') (hs : s.isActive = false) {ticket : Nat}
    (h : first? a r.before = some ticket) : first? a r.after = some ticket := by
  cases hm with
  | unplaced | locate | enter => exact h
  | queue w =>
      change first? a w = some ticket at h
      change first? a ((Parser.queueUp a.parser).run w).2 = some ticket
      have hafter : ((Parser.queueUp a.parser).run w).2.turns a.parser =
          w.turns a.parser ++ [w.nextTicket] := (Activity.turns_queued a.parser).trans (if_pos rfl)
      rw [first?] at h
      rw [first?, hafter, List.head?_append, h]
      rfl
  | _ => exact absurd hs.symm Bool.false_ne_true

/-- A half whose turn it is has the first ticket. -/
theorem Moves.front (hm : Moves a s r s')
    (hfront : s.isActive = true → first? a r.before = s.ticket?) (hs' : s'.isActive = true) :
    first? a r.after = s'.ticket? := by
  rcases Bool.eq_false_or_eq_true s.isActive with hs | hs
  · have hticket : s'.ticket? = s.ticket? := by
      cases hm <;>
        first | rfl | exact absurd hs Bool.false_ne_true | exact absurd hs' Bool.false_ne_true
    rw [hticket, ← hfront hs, first?, (hm.frame hs hs').1]
    rfl
  · cases hm with
    | enter hready => exact hready
    | unplaced | locate | queue => exact absurd hs' Bool.false_ne_true
    | _ => exact absurd hs.symm Bool.false_ne_true

theorem Moves.nextTicket_le (hm : Moves a s r s') : r.before.nextTicket ≤ r.after.nextTicket := by
  rcases Bool.eq_false_or_eq_true s.isActive with hs | hs
  · rcases Bool.eq_false_or_eq_true s'.isActive with hs' | hs'
    · exact Nat.le_of_eq (hm.frame hs hs').2.symm
    · cases hm with
      | leave => exact Nat.le_refl _
      | unplaced | locate | queue | enter => exact absurd hs Bool.false_ne_true
      | _ => exact absurd hs'.symm Bool.false_ne_true
  · cases hm with
    | unplaced | locate | enter => exact Nat.le_refl _
    | queue w => exact Nat.le_succ _
    | _ => exact absurd hs.symm Bool.false_ne_true

/-- A ticket is an old one, or it has just been drawn. -/
theorem Moves.ticket? (hm : Moves a s r s') {ticket : Nat} (h : s'.ticket? = some ticket) :
    s.ticket? = some ticket ∨
      r = ⟨r.before, Nat, (Parser.queueUp a.parser).run⟩ ∧ ticket = r.before.nextTicket := by
  cases hm with
  | unplaced | locate | leave => exact absurd h.symm (Option.some_ne_none _)
  | queue w => exact .inr ⟨rfl, (Option.some.inj h).symm⟩
  | _ => exact .inl h

/-! ### What a step does to the cache -/

theorem kept?_opened (w : World) : kept? a (opened w a.root) = kept? a w := by
  rw [kept?, Parsing.found_opened, ite_self]
  rfl

/-- A document that was printed is found. -/
theorem kept?_conclude {v : Verdict} {d : Document} (hd : document? v = some d) (w : World) :
    kept? a ((Parsing.conclude a.root a.key a.file a.modified v).run w).2 = some d := by
  cases v with
  | parsed d' =>
      rw [Activity.run_keep, kept?, Parsing.found_put, if_pos (Path.same_refl a.root), if_pos rfl,
        if_pos rfl]
      exact hd
  | failed | unreadable | syntaxErrors => exact absurd hd.symm (Option.some_ne_none d)

/-- A half changes what is found only when it keeps what its run has printed. -/
theorem Moves.kept? (hm : Moves a s r s') (htables : LeavesTables r) :
    Halves.kept? a r.after = Halves.kept? a r.before ∨
      s.hasMissed = true ∧ ∃ d, s'.result? = some (some d) ∧ Halves.kept? a r.after = some d := by
  have hlookUp : ∀ w, Halves.kept? a ((Parsing.lookUp a.root a.key a.file).run w).2 =
      Halves.kept? a w := by
    intro w
    rcases after_lookUp a.root a.key a.file w with hafter | hafter
    · rw [hafter]
    · rw [hafter, kept?_opened]
  -- Looking up only opens a table, and of the other steps only the last one stores.
  cases hm with
  | unreadable | hit | miss => exact .inl (hlookUp _)
  | launch ticket w v =>
      refine .inl (Parsing.found_of_beside (w := w) ⟨Activity.cache_launch _ w, htables⟩ _ _ _)
  | conclude ticket w outcome =>
      cases hd : document? (verdict outcome) with
      | some d => exact .inr ⟨rfl, d, rfl, kept?_conclude hd w⟩
      | none =>
          have hv : ∀ d, verdict outcome ≠ .parsed d := by
            intro d h
            rw [h] at hd
            exact absurd hd (Option.some_ne_none d)
          refine .inl (Parsing.found_of_beside (w := w) ?_ _ _ _)
          exact (Parsing.conclude_unparsed hv a.root a.key a.file a.modified w).2
  | _ => exact .inl rfl

end

/-! ### What a step shows -/

/-- A step starts the script on a file, and this is what comes of it, or it starts nothing. -/
inductive Comes (p : Parser) (file : Path) : Ran World → List (Except Error Outcome) → Prop where
  | nothing {x : Ran World} (h : ¬ Starts x) : Comes p file x []
  | run (v w : World) :
      Comes p file ⟨w, _, (launch p file v).run⟩ [((launch p file v).run w).1.1]

/-- What the runs that were started come to, one after another. -/
def Replies (p : Parser) (file : Path) (log : List (Ran World)) (os : List (Except Error Outcome)) :
    Prop := Parted (Comes p file) log os

section

variable {a : Aim} {w₀ : World} {s s' : Stage} {r : Ran World}

/-- A step shows nothing, or it starts the script, or it tells what came of a run. -/
theorem Moves.shows (hm : Moves a s r s') :
    (Comes a.parser a.file r [] ∧ Notifies r [] ∧ s'.runs = s.runs ∧
      s'.told a.file = s.told a.file) ∨
    (∃ o, s.hasMissed = true ∧ s.runs = [] ∧ s'.runs = [o] ∧ s'.told a.file = [] ∧
      Comes a.parser a.file r [o] ∧ Notifies r []) ∨
    (∃ ticket o, s = .ended ticket o ∧ s'.runs = [o] ∧
      s'.told a.file = notices a.file (verdict o) ∧ Comes a.parser a.file r [] ∧
      Notifies r (notices a.file (verdict o))) := by
  have hlookUp : ∀ w, Comes a.parser a.file
      ⟨w, Found, (Parsing.lookUp a.root a.key a.file).run⟩ [] := fun w =>
    .nothing (Parsing.not_starts_lookUp a.root a.key a.file w)
  have hlook : ∀ w, Comes a.parser a.file ⟨w, World, Act.world.run⟩ [] := fun w =>
    .nothing (Parsing.idle_look w).starts
  have hwait : ∀ w, Comes a.parser a.file (.change w id) [] := fun w =>
    .nothing (Parsing.idle_wait w).starts
  -- The script is started by one step and told of by another, and the rest do neither.
  cases hm with
  | unplaced | locate | decide =>
      exact .inl ⟨hlook _, (Parsing.idle_look _).silent, rfl, rfl⟩
  | queue w =>
      have hidle := Parsing.idle_queueUp a.parser w
      exact .inl ⟨.nothing hidle.starts, hidle.silent, rfl, rfl⟩
  | enter => exact .inl ⟨hwait _, (Parsing.idle_wait _).silent, rfl, rfl⟩
  | finish => exact .inl ⟨hwait _, (Parsing.idle_wait _).silent, rfl, rfl⟩
  | unreadable | hit | miss => exact .inl ⟨hlookUp _, Parsing.notifies_lookUp _ _ _ _, rfl, rfl⟩
  | launch ticket w v =>
      exact .inr (.inl ⟨_, rfl, rfl, rfl, rfl, .run v w, Parsing.notifies_launch _ w⟩)
  | conclude ticket w outcome =>
      refine .inr (.inr ⟨ticket, outcome, rfl, rfl, by simp [Stage.told], .nothing ?_, ?_⟩)
      · exact Parsing.not_starts_conclude _ _ _ _ _ w
      · exact Parsing.notifies_conclude _ _ _ _ _ w
  | leave ticket d run w =>
      have hidle := Parsing.idle_leave a.parser ticket w
      exact .inl ⟨.nothing hidle.starts, hidle.silent, rfl, rfl⟩

/-! ## One half -/

/-- A file without an address or without a time. -/
def Lacks (a : Aim) (w₀ : World) : Prop :=
  Parsing.address? w₀.files a.file = none ∨ ∃ cause, modifiedMillis w₀.files a.file = .error cause

/-- What a half has found out about the file, and where its result comes from. -/
def Stage.Sound (a : Aim) (w₀ : World) : Stage → Prop
  | .fresh => True
  | .located | .waiting _ | .chosen _ => Parsing.address? w₀.files a.file ≠ none
  | .missed _ | .launching .. | .running .. | .ended .. => ¬ Lacks a w₀
  | .leaving _ d none | .closed d none => d = none ↔ Lacks a w₀
  | .leaving _ d (some o) | .closed d (some o) => ¬ Lacks a w₀ ∧ d = document? (verdict o)

theorem not_lacks {w : World} {modified : Nat} (hstill : Still a.file w₀ w)
    (haddress : Parsing.address? w₀.files a.file ≠ none)
    (htime : modifiedMillis w.files a.file = .ok modified) : ¬ Lacks a w₀ := by
  rintro (hnone | ⟨cause, herror⟩)
  · exact haddress hnone
  · rw [← hstill.time, htime] at herror
    exact nomatch herror

theorem Moves.sound (hm : Moves a s r s') (hstill : Still a.file w₀ r.before)
    (h : s.Sound a w₀) : s'.Sound a w₀ := by
  cases hm with
  | unplaced haddress =>
      exact iff_of_true rfl (.inl (hstill.address.symm.trans haddress))
  | locate haddress =>
      change Parsing.address? w₀.files a.file ≠ none
      rw [← hstill.address]
      exact fun hnone => Option.some_ne_none _ (haddress.symm.trans hnone)
  | queue | enter | decide | launch | finish => exact h
  | unreadable htime => exact iff_of_true rfl (.inr ⟨_, hstill.time.symm.trans htime⟩)
  | hit htime hkept => exact iff_of_false (Option.some_ne_none _) (not_lacks hstill h htime)
  | miss htime hkept => exact not_lacks hstill h htime
  | conclude ticket w outcome => exact ⟨h, rfl⟩
  | leave ticket d run w =>
      cases run with
      | none => exact h
      | some o => exact h

/-- A ticket was drawn by one of some steps. -/
def Drew (log : List (Ran World)) (p : Parser) (ticket : Nat) : Prop :=
  ∃ v : World, ⟨v, Nat, (Parser.queueUp p).run⟩ ∈ log ∧ v.nextTicket = ticket

theorem Drew.mono {log more : List (Ran World)} {p : Parser} {ticket : Nat}
    (h : Drew log p ticket) : Drew (log ++ more) p ticket := by
  rcases h with ⟨v, hv, hticket⟩
  exact ⟨v, List.mem_append_left _ hv, hticket⟩

/-- What holds of one half all the time: it knows where its result comes from, has drawn its ticket,
has the first ticket in its turn, and finds the document it has come to. -/
structure Half (a : Aim) (w₀ w : World) (log : List (Ran World)) (s : Stage) : Prop where
  sound : s.Sound a w₀
  below : ∀ ticket, s.ticket? = some ticket → ticket < w.nextTicket
  drew : ∀ ticket, s.ticket? = some ticket → Drew log a.parser ticket
  front : s.isActive = true → first? a w = s.ticket?
  kept : ∀ d, s.result? = some (some d) → kept? a w = some d

theorem Half.fresh (a : Aim) (w₀ w : World) (log : List (Ran World)) : Half a w₀ w log .fresh :=
  ⟨trivial, nofun, nofun, nofun, nofun⟩

/-- A half after a step of its own. -/
theorem Half.moves {log : List (Ran World)} (h : Half a w₀ r.before log s) (hm : Moves a s r s')
    (hstill : Still a.file w₀ r.before) (htables : LeavesTables r) :
    Half a w₀ r.after (log ++ [r]) s' where
  sound := hm.sound hstill h.sound
  below ticket hticket := by
    rcases hm.ticket? hticket with hold | ⟨hr, rfl⟩
    · exact Nat.lt_of_lt_of_le (h.below ticket hold) hm.nextTicket_le
    · rw [hr]
      exact Nat.lt_succ_self _
  drew ticket hticket := by
    rcases hm.ticket? hticket with hold | ⟨hr, rfl⟩
    · exact (h.drew ticket hold).mono
    · exact ⟨r.before, List.mem_append_right _ (List.mem_singleton.2 hr.symm), rfl⟩
  front := hm.front h.front
  kept d hresult := by
    -- Either the table is as before, or it has what this half comes to.
    rcases hm.kept? htables with hsame | ⟨-, d', hresult', hkept⟩
    · rw [hsame]
      cases hm with
      | hit htime hkept => exact hkept.trans (Option.some.inj hresult)
      | conclude ticket w outcome =>
          have hd : document? (verdict outcome) = some d := Option.some.inj hresult
          exact hsame.symm.trans (kept?_conclude hd w)
      | leave ticket d' run w => exact h.kept d hresult
      | unplaced | unreadable => exact absurd (Option.some.inj hresult).symm (Option.some_ne_none d)
      | _ => exact absurd hresult.symm (Option.some_ne_none _)
    · rw [hkept, Option.some.inj (hresult'.symm.trans hresult)]

/-- A half after a step of the other. -/
theorem Half.aside {log : List (Ran World)} {q q' : Stage} (h : Half a w₀ r.before log s)
    (hm : Moves a q r q') (htables : LeavesTables r)
    (hturn : s.isActive = true → q.isActive = false)
    (hmissed : ∀ d, s.result? = some (some d) → q.hasMissed = false) :
    Half a w₀ r.after (log ++ [r]) s where
  sound := h.sound
  below ticket hticket := Nat.lt_of_lt_of_le (h.below ticket hticket) hm.nextTicket_le
  drew ticket hticket := (h.drew ticket hticket).mono
  front hactive := by
    rcases Stage.exists_ticket hactive with ⟨ticket, hticket⟩
    have hfirst := (h.front hactive).trans hticket
    exact (hm.first?_of_inactive (hturn hactive) hfirst).trans hticket.symm
  kept d hresult := by
    rcases hm.kept? htables with hsame | ⟨hq, -⟩
    · exact hsame.trans (h.kept d hresult)
    · exact absurd (hq.symm.trans (hmissed d hresult)) Bool.noConfusion

end

/-! ## Two halves -/

/-- What holds between two halves: a ticket is drawn for one of them, and where one has come to a
document the other does not miss it. -/
structure Apart (s q : Stage) : Prop where
  tickets : ∀ ticket, s.ticket? = some ticket → q.ticket? ≠ some ticket
  kept : ∀ d, s.result? = some (some d) → q.hasMissed = false

/-- Runs and messages of one half come before those of another. If there are any of both, the first
is closed and has come to nothing. -/
structure InOrder (file : Path) (os : List (Except Error Outcome)) (ns : List Notice)
    (s q : Stage) : Prop where
  runs : os = s.runs ++ q.runs
  told : ns = s.told file ++ q.told file
  after : s.runs = [] ∨ q.runs = [] ∨ ∃ o, s = .closed none (some o)

/-- Two halves of a listing, with what they have shown. -/
structure Halved (a : Aim) (w₀ w : World) (log : List (Ran World))
    (os : List (Except Error Outcome))
    (ns : List Notice) (s q : Stage) : Prop where
  left : Half a w₀ w log s
  right : Half a w₀ w log q
  apart : Apart s q
  apart' : Apart q s
  order : InOrder a.file os ns s q ∨ InOrder a.file os ns q s

section

variable {a : Aim} {w₀ w : World} {s s' q : Stage} {r : Ran World} {log : List (Ran World)}
  {os : List (Except Error Outcome)} {ns : List Notice}

theorem Halved.fresh (a : Aim) (w₀ w : World) (log : List (Ran World)) :
    Halved a w₀ w log [] [] .fresh .fresh :=
  ⟨.fresh a w₀ w log, .fresh a w₀ w log, ⟨nofun, nofun⟩, ⟨nofun, nofun⟩, .inl ⟨rfl, rfl, .inl rfl⟩⟩

theorem Halved.symm (h : Halved a w₀ w log os ns s q) : Halved a w₀ w log os ns q s :=
  ⟨h.right, h.left, h.apart', h.apart, h.order.symm⟩

/-- It is the turn of one half at most. -/
theorem Halved.exclusive (h : Halved a w₀ w log os ns s q) (hs : s.isActive = true) :
    q.isActive = false := by
  refine Bool.eq_false_iff.2 fun hq => ?_
  rcases Stage.exists_ticket hs with ⟨ticket, hticket⟩
  refine h.apart.tickets ticket hticket ?_
  rw [← h.right.front hq, h.left.front hs, hticket]

/-- Who has run nothing may as well come last. -/
theorem InOrder.swap {file : Path} (h : InOrder file os ns s q) (hruns : s.runs = []) :
    InOrder file os ns q s := by
  refine ⟨?_, ?_, .inr (.inl hruns)⟩
  · rw [h.runs, hruns, List.nil_append, List.append_nil]
  · rw [h.told, Stage.told_of_runs hruns, List.nil_append, List.append_nil]

/-- The other half has run nothing, or is closed and has come to nothing. -/
theorem Halved.idle_or_closed (h : Halved a w₀ w log os ns s q) (hs : s.hasMissed = true) :
    q.runs = [] ∨ ∃ o, q = .closed none (some o) := by
  rcases Classical.em (q.runs = []) with hruns | hruns
  · exact .inl hruns
  · rcases Stage.closed_of_runs hruns (h.exclusive (Stage.isActive_of_hasMissed hs))
      with ⟨d, o, rfl⟩
    cases d with
    | none => exact .inr ⟨o, rfl⟩
    | some d => exact absurd (hs.symm.trans (h.apart'.kept d rfl)) Bool.noConfusion

/-- A step of the left half keeps the two halves apart. -/
theorem Halved.apart_moves (h : Halved a w₀ r.before log os ns s q) (hm : Moves a s r s') :
    Apart s' q ∧ Apart q s' := by
  have htickets : ∀ ticket, s'.ticket? = some ticket → q.ticket? ≠ some ticket := by
    intro ticket hticket hq
    rcases hm.ticket? hticket with hold | ⟨-, rfl⟩
    · exact h.apart.tickets ticket hold hq
    · exact Nat.lt_irrefl _ (h.right.below _ hq)
  refine ⟨⟨htickets, fun d hresult => ?_⟩, ⟨fun ticket hq hticket => htickets ticket hticket hq,
    fun d hresult => ?_⟩⟩
  · -- A half that comes to a result has its turn, so the other is not about to run.
    rcases Bool.eq_false_or_eq_true s.isActive with hs | hs
    · refine Bool.eq_false_iff.2 fun hq => ?_
      exact absurd ((Stage.isActive_of_hasMissed hq).symm.trans (h.exclusive hs)) Bool.noConfusion
    · cases hm with
      | unplaced => exact absurd (Option.some.inj hresult).symm (Option.some_ne_none d)
      | locate | queue | enter => exact absurd hresult.symm (Option.some_ne_none _)
      | _ => exact absurd hs.symm Bool.false_ne_true
  · -- What the other has come to is found.
    have hold := h.apart'.kept d hresult
    cases hm with
    | miss htime hkept =>
        have hfound := h.right.kept d hresult
        exact absurd (hkept.symm.trans hfound) (Option.some_ne_none d).symm
    | decide | launch | finish => exact hold
    | _ => rfl

/-- What is shown by a step of the left half comes last. -/
theorem Halved.order_moves (h : Halved a w₀ r.before log os ns s q) (hm : Moves a s r s') :
    ∃ more others, Comes a.parser a.file r more ∧ Notifies r others ∧
      (InOrder a.file (os ++ more) (ns ++ others) s' q ∨
        InOrder a.file (os ++ more) (ns ++ others) q s') := by
  rcases hm.shows with ⟨hcomes, hsilent, hruns, htold⟩ |
    ⟨o, hmissed, hnone, hruns, htold, hcomes, hsilent⟩ |
    ⟨ticket, o, rfl, hruns, htold, hcomes, hnotifies⟩
  · -- Nothing is shown, so the order is what it was.
    refine ⟨[], [], hcomes, hsilent, ?_⟩
    rw [List.append_nil, List.append_nil]
    rcases h.order with horder | horder
    · refine .inl ⟨by rw [horder.runs, hruns], by rw [horder.told, htold], ?_⟩
      rcases horder.after with hs | hq | ⟨o, rfl⟩
      · exact .inl (hruns.trans hs)
      · exact .inr (.inl hq)
      · exact nomatch hm
    · refine .inr ⟨by rw [horder.runs, hruns], by rw [horder.told, htold], ?_⟩
      rw [hruns]
      exact horder.after
  · -- The left half starts the script, and comes last from now on: the other has run nothing or
    -- failed.
    refine ⟨[o], [], hcomes, hsilent, .inr ?_⟩
    have horder : InOrder a.file os ns q s := h.order.elim (·.swap hnone) id
    refine ⟨?_, ?_, ?_⟩
    · rw [horder.runs, hnone, hruns, List.append_nil]
    · rw [horder.told, Stage.told_of_runs hnone, htold, List.append_nil, List.append_nil]
    · exact (h.idle_or_closed hmissed).imp id .inr
  · -- The left half tells what came of its run. Where the other comes last, it has not run yet.
    refine ⟨[], notices a.file (verdict o), hcomes, hnotifies, ?_⟩
    have hbefore : Stage.runs (.ended ticket o) = [o] ∧ Stage.told a.file (.ended ticket o) = [] :=
      ⟨rfl, rfl⟩
    rw [List.append_nil]
    rcases h.order with horder | horder
    · have hq : q.runs = [] := by
        rcases horder.after with hs | hq | ⟨o, heq⟩
        · exact absurd hs (List.cons_ne_nil o [])
        · exact hq
        · exact nomatch heq
      refine .inl ⟨by rw [horder.runs, hbefore.1, hruns], ?_, .inr (.inl hq)⟩
      rw [horder.told, hbefore.2, htold, Stage.told_of_runs hq, List.append_nil, List.append_nil,
        List.nil_append]
    · refine .inr ⟨by rw [horder.runs, hbefore.1, hruns], ?_, ?_⟩
      · rw [horder.told, hbefore.2, htold, List.append_nil]
      · exact horder.after.imp id (.imp (fun hs => absurd hs (List.cons_ne_nil o [])) id)

/-- A step of the left half. -/
theorem Halved.moves (h : Halved a w₀ r.before log os ns s q) (hm : Moves a s r s')
    (hstill : Still a.file w₀ r.before) (htables : LeavesTables r) :
    ∃ more others, Comes a.parser a.file r more ∧ Notifies r others ∧
      Halved a w₀ r.after (log ++ [r]) (os ++ more) (ns ++ others) s' q := by
  rcases h.order_moves hm with ⟨more, others, hcomes, hnotifies, horder⟩
  have happart := h.apart_moves hm
  refine ⟨more, others, hcomes, hnotifies, h.left.moves hm hstill htables, ?_, happart.1, happart.2,
    horder⟩
  refine h.right.aside hm htables (fun hq => h.symm.exclusive hq) fun d hresult => ?_
  exact h.apart'.kept d hresult

/-! ### What others do -/

/-- What others do: who has a ticket keeps its place at the front, and what is found of the file
stays to be found. -/
structure Beside (file : Path) (log : List (Ran World)) (w w' : World) : Prop where
  tickets : w.nextTicket ≤ w'.nextTicket
  turns : ∀ p ticket, Drew log p ticket → (w.turns p).head? = some ticket →
    (w'.turns p).head? = some ticket
  found : ∀ root key modified d, Parsing.address? w.files file = some (root, key) →
    modifiedMillis w.files file = .ok modified → found w root key modified = some d →
      found w' root key modified = some d

/-- A half whose file has an address and a time. -/
theorem Half.not_lacks (h : Half a w₀ w log s) {d : Document} (hd : s.result? = some (some d)) :
    ¬ Lacks a w₀ := by
  have hsound := h.sound
  cases s with
  | leaving ticket result run | closed result run =>
      have hresult : result = some d := Option.some.inj hd
      subst hresult
      cases run with
      | none => exact fun hlacks => Option.some_ne_none d (Iff.mpr hsound hlacks)
      | some o => exact hsound.1
  | _ => exact absurd hd.symm (Option.some_ne_none _)

theorem Half.beside {w' : World} (h : Half a w₀ w log s) (haims : Aims a w₀)
    (hstill : Still a.file w₀ w) (hbeside : Beside a.file log w w') : Half a w₀ w' log s where
  sound := h.sound
  below ticket hticket := Nat.lt_of_lt_of_le (h.below ticket hticket) hbeside.tickets
  drew := h.drew
  front hactive := by
    rcases Stage.exists_ticket hactive with ⟨ticket, hticket⟩
    have hfirst := (h.front hactive).trans hticket
    exact (hbeside.turns a.parser ticket (h.drew ticket hticket) hfirst).trans hticket.symm
  kept d hresult := by
    have hlacks := h.not_lacks hresult
    have hkept := h.kept d hresult
    cases haddress : Parsing.address? w.files a.file with
    | none => exact absurd (.inl (hstill.address.symm.trans haddress)) hlacks
    | some place =>
        cases htime : modifiedMillis w.files a.file with
        | error cause => exact absurd (.inr ⟨cause, hstill.time.symm.trans htime⟩) hlacks
        | ok modified =>
            have hplace := haims.address place.1 place.2 (hstill.address.symm.trans haddress)
            have hmodified := haims.time modified (hstill.time.symm.trans htime)
            rw [kept?, hplace.1, hplace.2, hmodified] at hkept ⊢
            exact hbeside.found _ _ _ d haddress htime hkept

theorem Halved.beside {w' : World} (h : Halved a w₀ w log os ns s q) (haims : Aims a w₀)
    (hstill : Still a.file w₀ w) (hbeside : Beside a.file log w w') :
    Halved a w₀ w' log os ns s q :=
  ⟨h.left.beside haims hstill hbeside, h.right.beside haims hstill hbeside, h.apart,
    h.apart', h.order⟩

/-! ## What two halves come to -/

/-- The script is started twice at most, and then the first run has come to nothing. What a run
comes to is told once. -/
structure Fair (file : Path) (os : List (Except Error Outcome)) (ns : List Notice) : Prop where
  twice : os.length ≤ 2
  second : ∀ o o', os = [o, o'] → ∀ d, ¬ Prints o d
  told : ∃ k, ns = (os.take k).flatMap fun o => notices file (verdict o)

theorem document?_eq_some {o : Except Error Outcome} {d : Document} :
    document? (verdict o) = some d ↔ Prints o d := by
  rw [← Parsing.verdict_eq_parsed_iff]
  cases verdict o with
  | parsed d' => rw [document?, Option.some.injEq, Verdict.parsed.injEq]
  | failed | unreadable | syntaxErrors => exact ⟨nofun, nofun⟩

theorem not_prints_of_closed {o : Except Error Outcome}
    (h : Half a w₀ w log (.closed none (some o))) (d : Document) : ¬ Prints o d := by
  intro hd
  rw [← document?_eq_some, ← h.sound.2] at hd
  exact nomatch hd

/-- The messages of a half are those of its run, or it has told nothing yet. -/
theorem Stage.told_eq (s : Stage) (file : Path) :
    s.runs.length ≤ 1 ∧ (s.told file = [] ∨
      s.told file = s.runs.flatMap fun o => notices file (verdict o)) := by
  cases s with
  | leaving ticket d run | closed d run =>
      refine ⟨?_, .inr rfl⟩
      cases run <;> simp [runs]
  | _ => exact ⟨by simp [runs], .inl rfl⟩

theorem InOrder.fair {file : Path} (h : InOrder file os ns s q) (hs : Half a w₀ w log s) :
    Fair file os ns := by
  have hsruns := s.told_eq file
  have hqruns := q.told_eq file
  refine ⟨?_, fun o o' heq d => ?_, ?_⟩
  · rw [h.runs, List.length_append]
    omega
  · have hlengths : s.runs.length + q.runs.length = 2 := by
      rw [← List.length_append, ← h.runs, heq]
      rfl
    rcases h.after with hnone | hnone | ⟨first, rfl⟩
    · rw [hnone, List.length_nil] at hlengths
      omega
    · rw [hnone, List.length_nil] at hlengths
      omega
    · have hfirst : first = o := (List.cons.inj (h.runs.symm.trans heq)).1
      rw [← hfirst]
      exact not_prints_of_closed hs d
  -- The messages of the later half come after those of the one before it.
  · have hall : os.take os.length = os := List.take_length
    rcases h.after with hnone | hnone | ⟨first, rfl⟩
    · rw [h.told, h.runs, hnone, Stage.told_of_runs hnone]
      rcases hqruns.2 with htold | htold
      · exact ⟨0, by rw [htold]; rfl⟩
      · exact ⟨q.runs.length, by rw [htold, List.nil_append, List.nil_append, List.take_length]⟩
    · rw [h.told, h.runs, hnone, Stage.told_of_runs hnone, List.append_nil, List.append_nil]
      rcases hsruns.2 with htold | htold
      · exact ⟨0, by rw [htold]; rfl⟩
      · exact ⟨s.runs.length, by rw [htold, List.take_length]⟩
    · rcases hqruns.2 with htold | htold
      · exact ⟨1, by rw [h.told, h.runs, htold]; simp [Stage.runs, Stage.told]⟩
      · exact ⟨os.length, by rw [hall, h.told, h.runs, htold, List.flatMap_append]; rfl⟩

theorem Halved.fair (h : Halved a w₀ w log os ns s q) : Fair a.file os ns :=
  h.order.elim (·.fair h.left) (·.fair h.right)

/-- Two halves do not come to different documents. -/
theorem Halved.eq_of_closed {d d' : Document} {run run' : Option (Except Error Outcome)}
    (h : Halved a w₀ w log os ns (.closed (some d) run) (.closed (some d') run')) : d = d' :=
  Option.some.inj ((h.left.kept d rfl).symm.trans (h.right.kept d' rfl))

/-- A half comes to nothing when the file lacks something or its run prints nothing. -/
theorem Half.lacks_or_run {run : Option (Except Error Outcome)}
    (h : Half a w₀ w log (.closed none run)) :
    run = none ∧ Lacks a w₀ ∨ ∃ o, run = some o ∧ ∀ d, ¬ Prints o d := by
  cases run with
  | none => exact .inl ⟨rfl, Iff.mp h.sound rfl⟩
  | some o => exact .inr ⟨o, rfl, not_prints_of_closed h⟩

/-- If the first run prints a document, or nothing is run, both halves come to the same. -/
theorem Halved.agree_of_inOrder {d d' : Option Document} {run run' : Option (Except Error Outcome)}
    (h : Halved a w₀ w log os ns (.closed d run) (.closed d' run'))
    (horder : InOrder a.file os ns (.closed d run) (.closed d' run'))
    (hfirst : ∀ o, os.head? = some o → ∃ d, Prints o d) : d = d' := by
  have hruns : os = run.toList ++ run'.toList := horder.runs
  cases d with
  | some d =>
      cases d' with
      | some d' => rw [h.eq_of_closed]
      | none =>
          rcases h.right.lacks_or_run with ⟨-, hlacks⟩ | ⟨o', rfl, hnothing⟩
          · exact absurd hlacks (h.left.not_lacks rfl)
          · -- The second run prints nothing, so it is not the first.
            cases run with
            | none =>
                rw [hruns] at hfirst
                rcases hfirst o' rfl with ⟨d', hd'⟩
                exact absurd hd' (hnothing d')
            | some o =>
                rcases horder.after with hs | hq | ⟨_, heq⟩
                · exact absurd hs (List.cons_ne_nil o [])
                · exact absurd hq (List.cons_ne_nil o' [])
                · exact nomatch heq
  | none =>
      rcases h.left.lacks_or_run with ⟨-, hlacks⟩ | ⟨o, rfl, hnothing⟩
      · cases d' with
        | none => rfl
        | some d' => exact absurd hlacks (h.right.not_lacks rfl)
      · rw [hruns] at hfirst
        rcases hfirst o rfl with ⟨d, hd⟩
        exact absurd hd (hnothing d)

theorem Halved.agree {d d' : Option Document} {run run' : Option (Except Error Outcome)}
    (h : Halved a w₀ w log os ns (.closed d run) (.closed d' run'))
    (hfirst : ∀ o, os.head? = some o → ∃ d, Prints o d) : d = d' := by
  rcases h.order with horder | horder
  · exact h.agree_of_inOrder horder hfirst
  · exact (h.symm.agree_of_inOrder horder hfirst).symm

/-- If the first run prints a document, it is the only one and the host is told nothing. -/
theorem Fair.single {file : Path} (h : Fair file os ns)
    (hfirst : ∀ o, os.head? = some o → ∃ d, Prints o d) : os.length ≤ 1 ∧ ns = [] := by
  rcases os with _ | ⟨o, _ | ⟨o', _ | ⟨_, _⟩⟩⟩
  · rcases h.told with ⟨k, hk⟩
    exact ⟨Nat.zero_le 1, by rw [hk, List.take_nil]; rfl⟩
  · rcases hfirst o rfl with ⟨d, hd⟩
    have hsilent : notices file (verdict o) = [] := by
      rw [Parsing.verdict_eq_parsed_iff.2 hd]
      rfl
    rcases h.told with ⟨_ | k, hk⟩
    · exact ⟨Nat.le_refl 1, hk⟩
    · exact ⟨Nat.le_refl 1, by rw [hk]; simp [hsilent]⟩
  · rcases hfirst o rfl with ⟨d, hd⟩
    exact absurd hd (h.second o o' rfl d)
  · have hlong := h.twice
    simp only [List.length_cons] at hlong
    omega

end

end Halves
end Testbench
