import Mathlib.Data.List.TakeWhile
import Testbench.Proofs.Host.Terminals

/-!
# Delivery — which lines a terminal of a console writes

A line that is sent to a terminal of a console is written once and in its turn, or it is lost. Why
it is lost can be read off the calls before it and after it: it waited, and the terminal was closed
or never shown; or it was for a shell that could not be started, was gone, or did not take it.

- `Call`, `runs`       : calls, with what fails of them, and what they write;
- `Sent`, `sentAmong`  : the lines that are sent, each between the calls around it;
- `Lost`, `Settled`    : why a line is not written, and what is written of some lines;
- `Waiting`            : the lines that wait, and those that were forgotten, before the first
  showing;
- `Up`                 : a terminal some calls after the first showing;
- `Waiting.settled_appear`, `Up.settled` : what the first showing writes, and later calls;
- `Tends`, `Orderly`   : what calls do with the shell;
- `lines_in_turn`      : every run of calls.
-/

namespace Testbench
namespace Host
namespace ConsoleTerminal

/-! ## Calls -/

inductive Call where
  /-- A line is sent, and a shell takes it or not. -/
  | send (works : Bool) (line : String)
  /-- A shell can be started or not, and takes each of the lines that have waited or not. -/
  | appear (starts : Bool) (works : List Bool)
  | close
  deriving DecidableEq, Repr

namespace Call

def isSend : Call → Bool
  | .send .. => true
  | _ => false

def isAppear : Call → Bool
  | .appear .. => true
  | _ => false

end Call

/-- What a call writes, and the terminal after it. -/
def perform (t : ConsoleTerminal) : Call → List String × ConsoleTerminal
  | .send works line => t.send works line
  | .appear starts works => t.appear starts works
  | .close => ([], t.close.2)

/-- What calls write, one after another. -/
def runs (t : ConsoleTerminal) : List Call → List String × ConsoleTerminal
  | [] => ([], t)
  | c :: rest =>
    let (first, t') := t.perform c
    let (others, t'') := runs t' rest
    (first ++ others, t'')

theorem runs_cons (t : ConsoleTerminal) (c : Call) (rest : List Call) :
    t.runs (c :: rest) =
      ((t.perform c).1 ++ ((t.perform c).2.runs rest).1, ((t.perform c).2.runs rest).2) := rfl

theorem runs_append (t : ConsoleTerminal) (calls more : List Call) :
    t.runs (calls ++ more) =
      ((t.runs calls).1 ++ ((t.runs calls).2.runs more).1, ((t.runs calls).2.runs more).2) := by
  induction calls generalizing t with
  | nil => rfl
  | cons c rest ih => rw [List.cons_append, runs_cons, ih, runs_cons, List.append_assoc]

/-! ## Lines -/

/-- A line that was sent, with the calls before and after it. -/
structure Sent where
  before : List Call
  works : Bool
  line : String
  after : List Call

/-- The lines among some calls, which come after others. -/
def sentAmong (before : List Call) : List Call → List Sent
  | [] => []
  | .send works line :: rest =>
    ⟨before, works, line, rest⟩ :: sentAmong (before ++ [.send works line]) rest
  | c :: rest => sentAmong (before ++ [c]) rest

/-- The lines that were sent since the terminal was last closed. -/
def sinceClose (calls : List Call) : List String :=
  calls.foldl (fun lines c => match c with
    | .send _ line => lines ++ [line]
    | .appear .. => lines
    | .close => []) []

namespace Sent

/-- The calls before the line, from the first showing on. -/
def seen (s : Sent) : List Call := s.before.dropWhile fun c => !c.isAppear

/-- The calls after the line, from the first on that sends none. -/
def next (s : Sent) : List Call := s.after.dropWhile Call.isSend

/-- How many lines wait in front of a line that has to wait. -/
def rank (s : Sent) : Nat := (sinceClose s.before).length

/-- The same line, with more calls after it. -/
def further (more : List Call) (s : Sent) : Sent := { s with after := s.after ++ more }

end Sent

/-- Why a line is not written. -/
inductive Lost (mode : TerminalMode) (s : Sent) : Prop where
  /-- It waits to this day. -/
  | waits (hseen : s.seen = []) (hnext : s.next = [])
  /-- It waited when the terminal was closed. -/
  | forgotten {rest : List Call} (hseen : s.seen = []) (hnext : s.next = .close :: rest)
  /-- It waited when a shell could not be started. -/
  | unstarted {works : List Bool} {rest : List Call} (hmode : mode = .shell) (hseen : s.seen = [])
      (hnext : s.next = .appear false works :: rest)
  /-- It waited for a shell that did not take it. -/
  | refused {works : List Bool} {rest : List Call} (hmode : mode = .shell) (hseen : s.seen = [])
      (hnext : s.next = .appear true works :: rest) (hworks : works[s.rank]?.getD true = false)
  /-- It was sent after a shell could not be started. -/
  | shellless {works : List Bool} {since : List Call} (hmode : mode = .shell)
      (hseen : s.seen = .appear false works :: since)
  /-- It was sent to a shown terminal after that was closed. -/
  | late {starts : Bool} {works : List Bool} {since : List Call} (hmode : mode = .shell)
      (hseen : s.seen = .appear starts works :: since) (hclosed : .close ∈ since)
  /-- It was sent to a shell that did not take it. -/
  | broken {works : List Bool} {since : List Call} (hmode : mode = .shell)
      (hseen : s.seen = .appear true works :: since) (hworks : s.works = false)

/-- Of some lines these are written, in their order, and the others are lost. -/
inductive Settled (mode : TerminalMode) : List Sent → List String → Prop where
  | none : Settled mode [] []
  | written {s : Sent} {rest : List Sent} {lines : List String} (hkept : ¬ Lost mode s)
      (h : Settled mode rest lines) : Settled mode (s :: rest) (s.line :: lines)
  | lost {s : Sent} {rest : List Sent} {lines : List String} (hlost : Lost mode s)
      (h : Settled mode rest lines) : Settled mode (s :: rest) lines

namespace Settled

variable {mode : TerminalMode} {sent more : List Sent} {lines others : List String}

theorem append (h : Settled mode sent lines) (h' : Settled mode more others) :
    Settled mode (sent ++ more) (lines ++ others) := by
  induction h with
  | none => exact h'
  | written hkept _ ih => exact .written hkept ih
  | lost hlost _ ih => exact .lost hlost ih

theorem of_lost (h : ∀ s ∈ sent, Lost mode s) : Settled mode sent [] := by
  induction sent with
  | nil => exact .none
  | cons s rest ih =>
      exact .lost (h s List.mem_cons_self) (ih fun r hr => h r (List.mem_cons_of_mem _ hr))

theorem of_kept (h : ∀ s ∈ sent, ¬ Lost mode s) : Settled mode sent (sent.map Sent.line) := by
  induction sent with
  | nil => exact .none
  | cons s rest ih =>
      exact .written (h s List.mem_cons_self) (ih fun r hr => h r (List.mem_cons_of_mem _ hr))

theorem eq_of_kept (h : Settled mode sent lines) (hkept : ∀ s ∈ sent, ¬ Lost mode s) :
    lines = sent.map Sent.line := by
  induction h with
  | none => rfl
  | written _ _ ih => exact congrArg (_ :: ·) (ih fun r hr => hkept r (List.mem_cons_of_mem _ hr))
  | lost hlost _ _ => exact absurd hlost (hkept _ List.mem_cons_self)

theorem sublist (h : Settled mode sent lines) : lines.Sublist (sent.map Sent.line) := by
  induction h with
  | none => exact .slnil
  | written _ _ ih => exact .cons_cons _ ih
  | lost _ _ ih => exact .cons _ ih

end Settled

theorem sentAmong_append (before calls more : List Call) :
    sentAmong before (calls ++ more) =
      (sentAmong before calls).map (Sent.further more) ++ sentAmong (before ++ calls) more := by
  induction calls generalizing before with
  | nil => rw [List.append_nil]; rfl
  | cons c rest ih =>
      rw [List.cons_append, List.append_cons before c rest]
      cases c with
      | send works line => exact congrArg (_ :: ·) (ih _)
      | appear starts works => exact ih _
      | close => exact ih _

theorem exists_of_mem_sentAmong {before calls : List Call} {s : Sent}
    (hs : s ∈ sentAmong before calls) :
    ∃ since, s.before = before ++ since ∧ calls = since ++ .send s.works s.line :: s.after := by
  induction calls generalizing before with
  | nil => exact nomatch hs
  | cons c rest ih =>
      have hlater (h : s ∈ sentAmong (before ++ [c]) rest) :
          ∃ since, s.before = before ++ since ∧
            c :: rest = since ++ .send s.works s.line :: s.after := by
        rcases ih h with ⟨since, hbefore, hrest⟩
        exact ⟨c :: since, by simp [hbefore], congrArg (c :: ·) hrest⟩
      cases c with
      | send works line =>
          rcases List.mem_cons.1 hs with rfl | hrest
          · exact ⟨[], by simp, rfl⟩
          · exact hlater hrest
      | appear starts works => exact hlater hs
      | close => exact hlater hs

theorem sinceClose_concat (calls : List Call) (c : Call) : sinceClose (calls ++ [c]) =
    match c with
    | .send _ line => sinceClose calls ++ [line]
    | .appear .. => sinceClose calls
    | .close => [] := by
  rw [sinceClose, List.foldl_append]
  cases c <;> rfl

/-- Unless the terminal is closed, more lines come to those that were sent since it last was. -/
theorem sinceClose_append {more : List Call} (h : .close ∉ more) (calls before : List Call) :
    sinceClose (calls ++ more) = sinceClose calls ++ (sentAmong before more).map Sent.line := by
  induction more generalizing calls before with
  | nil => simp [sentAmong]
  | cons c rest ih =>
      have hrest := ih (List.not_mem_of_not_mem_cons h) (calls ++ [c]) (before ++ [c])
      rw [List.append_cons, hrest, sinceClose_concat]
      cases c with
      | send works line => exact List.append_assoc _ _ _
      | appear starts works => rfl
      | close => exact absurd List.mem_cons_self h

/-! ## Up to the first showing -/

section

variable {name : String} {cwd : Path} {mode : TerminalMode} {calls : List Call}

/-- A terminal that was not shown yet keeps what was sent since the last closing. -/
def hidden (name : String) (cwd : Path) (mode : TerminalMode) (calls : List Call) :
    ConsoleTerminal :=
  { fresh name cwd mode with pending := sinceClose calls }

theorem runs_hidden (hcalls : ∀ c ∈ calls, c.isAppear = false) :
    (fresh name cwd mode).runs calls = ([], hidden name cwd mode calls) := by
  induction calls using List.reverseRecOn with
  | nil => rfl
  | append_singleton calls c ih =>
      have hinit := ih fun d hd => hcalls d (List.mem_append_left _ hd)
      have hlast := hcalls c (List.mem_append_right _ List.mem_cons_self)
      rw [runs_append, hinit, hidden, hidden, sinceClose_concat]
      cases c with
      | send works line => rfl
      | appear starts works => exact nomatch hlast
      | close => rfl

/-- Before the first showing, a line waits, or it has waited up to a closing. The lines that wait
are in the order of their ranks. -/
structure Waiting (calls : List Call) (gone kept : List Sent) : Prop where
  sent : sentAmong [] calls = gone ++ kept
  lines : kept.map Sent.line = sinceClose calls
  ranks : kept.map Sent.rank = List.range kept.length
  unseen : ∀ s ∈ gone ++ kept, s.seen = []
  gone : ∀ s ∈ gone, ∃ rest, s.next = .close :: rest
  kept : ∀ s ∈ kept, ∀ c ∈ s.after, c.isSend = true

theorem next_further {s : Sent} (h : ∀ c ∈ s.after, c.isSend = true) (more : List Call) :
    (s.further more).next = more.dropWhile Call.isSend :=
  List.dropWhile_append_of_pos h

theorem next_further_of_cons {s : Sent} {c : Call} {rest : List Call} (h : s.next = c :: rest)
    (more : List Call) : (s.further more).next = c :: (rest ++ more) := by
  rw [Sent.next] at h
  rw [Sent.next, Sent.further, List.dropWhile_append, h]
  rfl

theorem seen_eq_nil {before : List Call} (h : ∀ c ∈ before, c.isAppear = false) (works : Bool)
    (line : String) (after : List Call) : (Sent.mk before works line after).seen = [] := by
  rw [Sent.seen, List.dropWhile_eq_nil_iff]
  intro c hc
  simp [h c hc]

theorem exists_waiting (hcalls : ∀ c ∈ calls, c.isAppear = false) :
    ∃ gone kept, Waiting calls gone kept := by
  induction calls using List.reverseRecOn with
  | nil => exact ⟨[], [], rfl, rfl, rfl, by simp, by simp, by simp⟩
  | append_singleton calls c ih =>
      have hinit : ∀ d ∈ calls, d.isAppear = false :=
        fun d hd => hcalls d (List.mem_append_left _ hd)
      have hlast := hcalls c (List.mem_append_right _ List.mem_cons_self)
      rcases ih hinit with ⟨gone, kept, h⟩
      have hunseen : ∀ s ∈ gone.map (Sent.further [c]) ++ kept.map (Sent.further [c]),
          s.seen = [] := by
        rw [← List.map_append, List.forall_mem_map]
        exact h.unseen
      have hgone : ∀ s ∈ gone.map (Sent.further [c]), ∃ rest, s.next = .close :: rest := by
        rw [List.forall_mem_map]
        intro s hs
        rcases h.gone s hs with ⟨rest, hrest⟩
        exact ⟨_, next_further_of_cons hrest [c]⟩
      cases c with
      | send works line =>
          -- One more line waits, behind all others.
          let s : Sent := ⟨calls, works, line, []⟩
          refine ⟨gone.map (Sent.further [.send works line]),
            kept.map (Sent.further [.send works line]) ++ [s], ?_, ?_, ?_, ?_, hgone, ?_⟩
          · rw [sentAmong_append, h.sent, List.map_append, List.append_assoc]
            rfl
          · rw [sinceClose_concat, ← h.lines, List.map_append, List.map_map]
            rfl
          · have hrank : s.rank = kept.length := by
              rw [Sent.rank, ← h.lines, List.length_map]
            rw [List.map_append, List.map_map, List.length_append, List.length_map,
              List.length_singleton, List.range_succ, ← h.ranks, List.map_singleton, hrank]
            rfl
          · rw [← List.append_assoc]
            exact List.forall_mem_append.2 ⟨hunseen,
              List.forall_mem_singleton.2 (seen_eq_nil hinit works line [])⟩
          · refine List.forall_mem_append.2 ⟨List.forall_mem_map.2 fun r hr => ?_, by simp [s]⟩
            exact List.forall_mem_append.2 ⟨h.kept r hr, List.forall_mem_singleton.2 rfl⟩
      | appear starts works => exact nomatch hlast
      | close =>
          -- What waits is forgotten.
          refine ⟨gone.map (Sent.further [.close]) ++ kept.map (Sent.further [.close]),
            [], ?_, ?_, rfl, ?_, ?_, by simp⟩
          · rw [sentAmong_append, h.sent, List.map_append, List.append_nil]
            exact List.append_nil _
          · rw [sinceClose_concat]
            rfl
          · rw [List.append_nil]
            exact hunseen
          · refine List.forall_mem_append.2 ⟨hgone, List.forall_mem_map.2 fun s hs => ⟨[], ?_⟩⟩
            exact next_further (h.kept s hs) [.close]

/-- Whatever comes after, what was forgotten is lost. -/
theorem Waiting.lost_gone {gone kept : List Sent} (h : Waiting calls gone kept)
    (mode : TerminalMode)
    (more : List Call) : ∀ s ∈ gone.map (Sent.further more), Lost mode s := by
  rw [List.forall_mem_map]
  intro s hs
  rcases h.gone s hs with ⟨rest, hrest⟩
  exact .forgotten (h.unseen s (List.mem_append_left _ hs)) (next_further_of_cons hrest more)

/-- A terminal that is never shown. -/
theorem settled_hidden (hcalls : ∀ c ∈ calls, c.isAppear = false) :
    Settled mode (sentAmong [] calls) [] := by
  rcases exists_waiting hcalls with ⟨gone, kept, h⟩
  refine .of_lost ?_
  rw [h.sent]
  refine List.forall_mem_append.2 ⟨fun s hs => ?_, fun s hs => ?_⟩
  · rcases h.gone s hs with ⟨rest, hrest⟩
    exact .forgotten (h.unseen s (List.mem_append_left _ hs)) hrest
  · exact .waits (h.unseen s (List.mem_append_right _ hs))
      (List.dropWhile_eq_nil_iff.2 (h.kept s hs))

end

/-! ## The first showing -/

section

theorem deliverAll_cons (t : ConsoleTerminal) (works : List Bool) (line : String)
    (rest : List String) : t.deliverAll works (line :: rest) =
      ((t.deliver (works.headD true) line).1 ++
        ((t.deliver (works.headD true) line).2.deliverAll works.tail rest).1,
        ((t.deliver (works.headD true) line).2.deliverAll works.tail rest).2) := rfl

variable {t : ConsoleTerminal} {mode : TerminalMode} {lines : List String} {works : List Bool}

theorem deliverAll_echo (h : t.mode = .echo) (works : List Bool) (lines : List String) :
    t.deliverAll works lines = (lines, t) := by
  induction lines generalizing works with
  | nil => rfl
  | cons line rest ih =>
      have hfirst (b : Bool) : t.deliver b line = ([line], t) := by simp [deliver, h]
      rw [deliverAll_cons, hfirst, ih]
      rfl

theorem deliverAll_shellless (h : t.mode = .shell) (hshell : t.shell = none) (works : List Bool)
    (lines : List String) : t.deliverAll works lines = ([], t) := by
  induction lines generalizing works with
  | nil => rfl
  | cons line rest ih =>
      have hfirst (b : Bool) : t.deliver b line = ([], t) := by simp [deliver, h, hshell]
      rw [deliverAll_cons, hfirst, ih]
      rfl

/-- Lines that wait for a shell, from some rank on. -/
theorem settled_deliverAll (h : t.mode = .shell) (hshell : t.shell.isSome = true) {sent : List Sent}
    {all : List Bool} {first : Nat} (hranks : sent.map Sent.rank = List.range' first sent.length)
    (hworks : works = all.drop first)
    (hlost : ∀ s ∈ sent, Lost .shell s ↔ all[s.rank]?.getD true = false) :
    Settled .shell sent (t.deliverAll works (sent.map Sent.line)).1 := by
  -- On the lines that wait: the rank of the first one says how many results are used up.
  induction sent generalizing t works first with
  | nil => exact .none
  | cons s rest ih =>
      rw [List.map_cons, List.length_cons, List.range'_succ, List.cons.injEq] at hranks
      have hhead : works.headD true = all[s.rank]?.getD true := by
        rw [hworks, hranks.1, List.headD_eq_head?_getD, List.head?_drop]
      have htail : works.tail = all.drop (first + 1) := by rw [hworks, List.tail_drop]
      have hsteady := t.steady_deliver (works.headD true) s.line
      have hrest := ih (hsteady.mode.trans h) (hsteady.runs.trans hshell) hranks.2 htail
        fun r hr => hlost r (List.mem_cons_of_mem _ hr)
      rcases Option.isSome_iff_exists.1 hshell with ⟨fed, hfed⟩
      have hs := hlost s List.mem_cons_self
      rw [← hhead] at hs
      cases htaken : works.headD true with
      | true =>
          have hfirst : (t.deliver (works.headD true) s.line).1 = [s.line] := by
            simp only [deliver, h, hfed, htaken, if_true]
          rw [List.map_cons, deliverAll_cons, hfirst]
          exact .written (by rw [hs, htaken]; simp) hrest
      | false =>
          have hfirst : (t.deliver (works.headD true) s.line).1 = [] := by
            simp only [deliver, h, hfed, htaken, Bool.false_eq_true, if_false]
          rw [List.map_cons, deliverAll_cons, hfirst]
          exact .lost (hs.2 htaken) hrest

/-- Of lines that have waited up to the first showing, only a shell loses some. -/
theorem lost_iff_of_waited {s : Sent} {starts : Bool} {rest : List Call} (hseen : s.seen = [])
    (hnext : s.next = .appear starts works :: rest) :
    Lost mode s ↔ mode = .shell ∧ (starts = true → works[s.rank]?.getD true = false) := by
  constructor
  · intro h
    cases h with
    | waits _ h' => cases hnext.symm.trans h'
    | forgotten _ h' => cases hnext.symm.trans h'
    | unstarted hmode _ h' =>
        cases hnext.symm.trans h'
        exact ⟨hmode, nofun⟩
    | refused hmode _ h' hworks =>
        cases hnext.symm.trans h'
        exact ⟨hmode, fun _ => hworks⟩
    | shellless _ h' => cases hseen.symm.trans h'
    | late _ h' => cases hseen.symm.trans h'
    | broken _ h' => cases hseen.symm.trans h'
  · rintro ⟨rfl, hlost⟩
    cases starts with
    | false => exact .unstarted rfl hseen hnext
    | true => exact .refused rfl hseen hnext (hlost rfl)

namespace Waiting

variable {calls : List Call} {gone kept : List Sent}

theorem lost_kept_iff (h : Waiting calls gone kept) (mode : TerminalMode) (starts : Bool)
    (works : List Bool) (after : List Call) :
    ∀ s ∈ kept.map (Sent.further (.appear starts works :: after)),
      Lost mode s ↔ mode = .shell ∧ (starts = true → works[s.rank]?.getD true = false) := by
  rw [List.forall_mem_map]
  intro s hs
  exact lost_iff_of_waited (h.unseen s (List.mem_append_right _ hs)) (next_further (h.kept s hs) _)

theorem rank_lt (h : Waiting calls gone kept) {more : List Call} :
    ∀ s ∈ kept.map (Sent.further more), s.rank < (sinceClose calls).length := by
  rw [List.forall_mem_map, ← h.lines, List.length_map]
  intro s hs
  have hrank : s.rank ∈ kept.map Sent.rank := List.mem_map_of_mem hs
  rwa [h.ranks, List.mem_range] at hrank

theorem kept_of_taken (h : Waiting calls gone kept) {starts : Bool} (after : List Call)
    (hshell : mode = .shell →
      starts = true ∧ ∀ b ∈ works.take (sinceClose calls).length, b = true) :
    ∀ s ∈ kept.map (Sent.further (.appear starts works :: after)), ¬ Lost mode s := by
  intro s hs hlost
  rcases (h.lost_kept_iff mode starts works after s hs).1 hlost with ⟨hmode, hrefused⟩
  rcases hshell hmode with ⟨hstarts, hworks⟩
  have hfalse := hrefused hstarts
  have htaken := List.getElem?_take_of_lt (l := works) (h.rank_lt s hs)
  cases hb : works[s.rank]? with
  | none => simp [hb] at hfalse
  | some b => simp [hb, hworks b (List.mem_of_getElem? (htaken.trans hb))] at hfalse

/-- What has waited is delivered when the terminal is shown. -/
theorem settled_appear (h : Waiting calls gone kept) (name : String) (cwd : Path)
    (mode : TerminalMode) (starts : Bool) (works : List Bool) (after : List Call) :
    Settled mode (kept.map (Sent.further (.appear starts works :: after)))
      ((hidden name cwd mode calls).appear starts works).1 := by
  have hlost := h.lost_kept_iff mode starts works after
  have hlines : (hidden name cwd mode calls).pending =
      (kept.map (Sent.further (.appear starts works :: after))).map Sent.line := by
    rw [hidden, ← h.lines, List.map_map]
    rfl
  have hranks : (kept.map (Sent.further (.appear starts works :: after))).map Sent.rank =
      List.range' 0 (kept.map (Sent.further (.appear starts works :: after))).length := by
    rw [List.map_map, List.length_map, ← List.range_eq_range', ← h.ranks]
    rfl
  rw [appear_of_hidden rfl, hlines]
  -- An echo takes every line, and a shell that does not start takes none.
  cases mode with
  | echo =>
      rw [deliverAll_echo rfl]
      exact .of_kept fun s hs hgone => nomatch ((hlost s hs).1 hgone).1
  | shell =>
      cases starts with
      | false =>
          rw [deliverAll_shellless rfl rfl]
          exact .of_lost fun s hs => (hlost s hs).2 ⟨rfl, nofun⟩
      | true =>
          refine settled_deliverAll rfl rfl hranks rfl fun s hs => ?_
          rw [hlost s hs]
          simp

end Waiting

end

/-! ## After the first showing -/

section

variable {t : ConsoleTerminal} {mode : TerminalMode} {starts : Bool} {works : List Bool}
  {before since : List Call}

/-- A shown terminal, some calls after the first showing. -/
structure Up (mode : TerminalMode) (starts : Bool) (since : List Call) (t : ConsoleTerminal) :
    Prop where
  kind : t.mode = mode
  shown : t.shown = true
  shell : mode = .shell → (t.shell.isSome = true ↔ starts = true ∧ .close ∉ since)

theorem up_appear (name : String) (cwd : Path) (mode : TerminalMode) (calls : List Call)
    (starts : Bool) (works : List Bool) :
    Up mode starts [] ((hidden name cwd mode calls).appear starts works).2 := by
  have hsteady := steady_appear (t := hidden name cwd mode calls) rfl starts works
  refine ⟨hsteady.mode, hsteady.shown, fun hmode => ?_⟩
  rw [hsteady.runs]
  cases starts <;> simp [risen, hidden, fresh, hmode]

theorem Up.perform (h : Up mode starts since t) (c : Call) :
    Up mode starts (since ++ [c]) (t.perform c).2 := by
  cases c with
  | send taken line =>
      have hsteady := t.steady_send taken line
      refine ⟨hsteady.mode.trans h.kind, hsteady.shown.trans h.shown, fun hmode => ?_⟩
      rw [ConsoleTerminal.perform, hsteady.runs, h.shell hmode]
      simp
  | appear again others =>
      rw [ConsoleTerminal.perform, appear_of_shown h.shown]
      exact ⟨h.kind, h.shown, fun hmode => by rw [h.shell hmode]; simp⟩
  | close => exact ⟨h.kind, h.shown, fun _ => by simp [ConsoleTerminal.perform, close]⟩

/-- Of lines to a shown terminal, only a shell loses some. -/
theorem lost_iff_of_shown (mode : TerminalMode) {s : Sent}
    (hseen : s.seen = .appear starts works :: since) :
    Lost mode s ↔ mode = .shell ∧ (starts = true ∧ .close ∉ since → s.works = false) := by
  constructor
  · intro h
    cases h with
    | waits h' => cases hseen.symm.trans h'
    | forgotten h' => cases hseen.symm.trans h'
    | unstarted _ h' => cases hseen.symm.trans h'
    | refused _ h' => cases hseen.symm.trans h'
    | shellless hmode h' =>
        cases hseen.symm.trans h'
        exact ⟨hmode, fun h => nomatch h.1⟩
    | late hmode h' hclosed =>
        cases hseen.symm.trans h'
        exact ⟨hmode, fun h => absurd hclosed h.2⟩
    | broken hmode h' hworks =>
        cases hseen.symm.trans h'
        exact ⟨hmode, fun _ => hworks⟩
  · rintro ⟨rfl, hlost⟩
    cases starts with
    | false => exact .shellless rfl hseen
    | true =>
        by_cases hclosed : .close ∈ since
        · exact .late rfl hseen hclosed
        · exact .broken rfl hseen (hlost ⟨rfl, hclosed⟩)

theorem Up.settled_send (h : Up mode starts since t) {s : Sent}
    (hseen : s.seen = .appear starts works :: since) :
    Settled mode [s] (t.send s.works s.line).1 := by
  have hlost := lost_iff_of_shown mode hseen
  rw [send, if_pos h.shown, deliver, h.kind]
  cases mode with
  | echo => exact .written (fun hgone => by simpa using (hlost.1 hgone).1) .none
  | shell =>
      have hruns := h.shell rfl
      rw [← hruns] at hlost
      cases hshell : t.shell with
      | none => exact .lost (hlost.2 ⟨rfl, fun hsome => by simp [hshell] at hsome⟩) .none
      | some fed =>
          rw [hshell] at hlost
          cases htaken : s.works with
          | true =>
              exact .written (fun hgone => by simpa [htaken] using (hlost.1 hgone).2 rfl) .none
          | false => exact .lost (hlost.2 ⟨rfl, fun _ => htaken⟩) .none

theorem seen_of_first (hbefore : ∀ c ∈ before, c.isAppear = false) (starts : Bool)
    (works : List Bool) (since : List Call) (taken : Bool) (line : String) (after : List Call) :
    (Sent.mk (before ++ .appear starts works :: since) taken line after).seen =
      .appear starts works :: since := by
  rw [Sent.seen, List.dropWhile_append_of_pos fun c hc => by simp [hbefore c hc]]
  rfl

theorem kept_of_open (hbefore : ∀ c ∈ before, c.isAppear = false) {after : List Call}
    (hclose : .close ∉ after)
    (hshell : mode = .shell → starts = true ∧ ∀ line, .send false line ∉ after) :
    ∀ s ∈ sentAmong (before ++ [.appear starts works]) after, ¬ Lost mode s := by
  intro s hs hlost
  rcases exists_of_mem_sentAmong hs with ⟨since, hpast, rfl⟩
  have hseen : s.seen = .appear starts works :: since := by
    have hfirst := seen_of_first hbefore starts works since s.works s.line s.after
    rwa [Sent.seen, hpast, List.append_assoc]
  rcases (lost_iff_of_shown mode hseen).1 hlost with ⟨hmode, hbroken⟩
  rcases hshell hmode with ⟨hstarts, hsent⟩
  have hfalse := hbroken ⟨hstarts, fun hc => hclose (List.mem_append_left _ hc)⟩
  exact hsent s.line (by simp [hfalse])

theorem Up.settled (h : Up mode starts since t) (hbefore : ∀ c ∈ before, c.isAppear = false)
    (works : List Bool) (after : List Call) :
    Settled mode (sentAmong (before ++ .appear starts works :: since) after) (t.runs after).1 := by
  induction after generalizing t since with
  | nil => exact .none
  | cons c rest ih =>
      have hrest := ih (h.perform c)
      have hpast : before ++ .appear starts works :: (since ++ [c]) =
          (before ++ .appear starts works :: since) ++ [c] := by simp
      rw [hpast] at hrest
      rw [runs_cons]
      cases c with
      | send taken line =>
          exact (h.settled_send (seen_of_first hbefore starts works since taken line rest)).append
            hrest
      | appear again others =>
          rw [ConsoleTerminal.perform, appear_of_shown h.shown] at hrest ⊢
          exact hrest
      | close => exact hrest

end

/-! ## Shells -/

section

variable {t t' : ConsoleTerminal}

/-- What a call does with the shell. One that runs is fed whatever is written, until it is ended;
before that none is started. -/
inductive Tends (t : ConsoleTerminal) : Call → List String → Option (List String) → Prop where
  | started {works : List Bool} {lines : List String} (hmode : t.mode = .shell)
      (hhidden : t.shown = false) (hshell : t.shell = none) :
      Tends t (.appear true works) lines (some lines)
  | fed {c : Call} {lines fed : List String} (hcall : c ≠ .close) (hshell : t.shell = some fed) :
      Tends t c lines (some (fed ++ lines))
  | ended {fed : List String} (hshell : t.shell = some fed) : Tends t .close [] none
  | idle {c : Call} {lines : List String} (hshell : t.shell = none) : Tends t c lines none

/-- No shell runs for a terminal that only echoes or that was not shown. -/
structure Orderly (t : ConsoleTerminal) : Prop where
  echo : t.mode = .echo → t.shell = none
  hidden : t.shown = false → t.shell = none

theorem Orderly.of_steady (h : Orderly t) (hsteady : Steady t t') : Orderly t' := by
  have hnone : t.shell = none → t'.shell = none := fun hshell => by
    simpa [hshell] using hsteady.runs
  exact ⟨fun hmode => hnone (h.echo (hsteady.mode.symm.trans hmode)),
    fun hshown => hnone (h.hidden (hsteady.shown.symm.trans hshown))⟩

theorem Orderly.risen (h : Orderly t) (hhidden : t.shown = false) (starts : Bool) :
    Orderly (t.risen starts) := by
  refine ⟨fun hmode => ?_, fun hshown => nomatch hshown⟩
  have hecho : t.mode = .echo := hmode
  simp [ConsoleTerminal.risen, hecho, h.hidden hhidden]

theorem Orderly.perform (h : Orderly t) (c : Call) : Orderly (t.perform c).2 := by
  cases c with
  | send works line => exact h.of_steady (t.steady_send works line)
  | appear starts works =>
      rw [ConsoleTerminal.perform]
      cases hshown : t.shown with
      | true => rwa [appear_of_shown hshown]
      | false => exact (h.risen hshown starts).of_steady (steady_appear hshown starts works)
  | close => exact ⟨fun _ => rfl, fun _ => rfl⟩

theorem orderly_runs (h : Orderly t) (calls : List Call) : Orderly (t.runs calls).2 := by
  induction calls generalizing t with
  | nil => exact h
  | cons c rest ih => exact ih (h.perform c)

theorem shell_deliver (h : Orderly t) (works : Bool) (line : String) :
    (t.deliver works line).2.shell = t.shell.map (· ++ (t.deliver works line).1) := by
  unfold deliver
  split
  · rename_i hmode
    rw [h.echo hmode]
    rfl
  · rename_i hshell
    split <;> simp [hshell]
  · rename_i hshell
    rw [hshell]
    rfl

theorem shell_deliverAll (h : Orderly t) (works : List Bool) (lines : List String) :
    (t.deliverAll works lines).2.shell = t.shell.map (· ++ (t.deliverAll works lines).1) := by
  induction lines generalizing t works with
  | nil => simp [deliverAll]
  | cons line rest ih =>
      rw [deliverAll_cons, ih (h.of_steady (t.steady_deliver _ line)),
        shell_deliver h, Option.map_map]
      simp [Function.comp_def]

theorem tends_perform (h : Orderly t) (c : Call) :
    Tends t c (t.perform c).1 (t.perform c).2.shell := by
  cases c with
  | send works line =>
      rw [perform, send]
      split
      · rw [shell_deliver h]
        cases hshell : t.shell with
        | none => exact .idle hshell
        | some fed => exact .fed (by simp) hshell
      · rename_i hshown
        rw [h.hidden (by simpa using hshown)]
        exact .idle (h.hidden (by simpa using hshown))
  | appear starts works =>
      rw [perform]
      cases hshown : t.shown with
      | true =>
          rw [appear_of_shown hshown]
          cases hshell : t.shell with
          | none => exact .idle hshell
          | some fed =>
              have hsame : Tends t (.appear starts works) [] (some (fed ++ [])) :=
                .fed (by simp) hshell
              rwa [List.append_nil] at hsame
      | false =>
          have hnone := h.hidden hshown
          rw [appear_of_hidden hshown, shell_deliverAll (h.risen hshown starts)]
          -- A shell is started the first time the terminal is shown, and only if it can be.
          by_cases hstarts : t.mode = .shell ∧ starts = true
          · rcases hstarts with ⟨hmode, rfl⟩
            have hrisen : (t.risen true).shell = some [] := by simp [risen, hmode]
            rw [hrisen]
            exact .started hmode hshown hnone
          · have hrisen : (t.risen starts).shell = none := by
              rw [risen, hnone]
              exact if_neg (by simpa using hstarts)
            rw [hrisen]
            exact .idle hnone
  | close =>
      cases hshell : t.shell with
      | none => exact .idle hshell
      | some fed => exact .ended hshell

end

/-! ## Every run -/

section

variable {name : String} {cwd : Path} {mode : TerminalMode} {before : List Call} {starts : Bool}
  {works : List Bool}

theorem hidden_or_first (calls : List Call) :
    (∀ c ∈ calls, c.isAppear = false) ∨ ∃ before starts works after,
      calls = before ++ .appear starts works :: after ∧ ∀ c ∈ before, c.isAppear = false := by
  induction calls with
  | nil => exact Or.inl (by simp)
  | cons c rest ih =>
      by_cases hc : c.isAppear = true
      · cases c with
        | appear starts works => exact Or.inr ⟨[], starts, works, rest, rfl, by simp⟩
        | send works line => exact nomatch hc
        | close => exact nomatch hc
      · rw [Bool.not_eq_true] at hc
        rcases ih with hnone | ⟨before, starts, works, after, rfl, hbefore⟩
        · exact Or.inl (List.forall_mem_cons.2 ⟨hc, hnone⟩)
        · exact Or.inr
            ⟨c :: before, starts, works, after, rfl, List.forall_mem_cons.2 ⟨hc, hbefore⟩⟩

theorem runs_first (hbefore : ∀ c ∈ before, c.isAppear = false) (after : List Call) :
    ((fresh name cwd mode).runs (before ++ .appear starts works :: after)).1 =
      ((hidden name cwd mode before).appear starts works).1 ++
        (((hidden name cwd mode before).appear starts works).2.runs after).1 := by
  rw [runs_append, runs_hidden hbefore]
  rfl

theorem settled_runs (name : String) (cwd : Path) (mode : TerminalMode) (calls : List Call) :
    Settled mode (sentAmong [] calls) ((fresh name cwd mode).runs calls).1 := by
  rcases hidden_or_first calls with hcalls | ⟨before, starts, works, after, rfl, hbefore⟩
  · rw [runs_hidden hcalls]
    exact settled_hidden hcalls
  · rcases exists_waiting hbefore with ⟨gone, kept, h⟩
    have hgone := Settled.of_lost (h.lost_gone mode (.appear starts works :: after))
    have hkept := h.settled_appear name cwd mode starts works after
    have hafter := (up_appear name cwd mode before starts works).settled hbefore works after
    rw [runs_first hbefore, sentAmong_append, h.sent, List.map_append]
    exact (hgone.append hkept).append hafter

/-- While the terminal is open and its shell takes what it is fed, nothing is lost. -/
theorem runs_of_open (hbefore : ∀ c ∈ before, c.isAppear = false) {after : List Call}
    (hclose : .close ∉ after)
    (hshell : mode = .shell →
      starts = true ∧ (∀ b ∈ works.take (sinceClose before).length, b = true) ∧
        ∀ line, .send false line ∉ after) :
    ((fresh name cwd mode).runs (before ++ .appear starts works :: after)).1 =
      sinceClose (before ++ .appear starts works :: after) := by
  rcases exists_waiting hbefore with ⟨gone, kept, h⟩
  have hwaited := (h.settled_appear name cwd mode starts works after).eq_of_kept <|
    h.kept_of_taken after fun hmode => ⟨(hshell hmode).1, (hshell hmode).2.1⟩
  have hlater :=
    ((up_appear name cwd mode before starts works).settled hbefore works after).eq_of_kept <|
      kept_of_open hbefore hclose fun hmode => ⟨(hshell hmode).1, (hshell hmode).2.2⟩
  have hsince := sinceClose_append hclose (before ++ [.appear starts works])
    (before ++ [.appear starts works])
  rw [runs_first hbefore, hwaited, hlater, List.append_cons before _ after, hsince,
    sinceClose_concat, ← h.lines, List.map_map]
  rfl

/-- What a terminal writes in any run of calls, whatever fails. Every line is written in its turn or
is lost for one of the reasons above; so what is written is some of what was sent. Nothing is
written, and no shell runs, unless the terminal is shown. From a first showing on, until the
terminal is closed and while no shell fails it, it has written all lines since the last closing. One
shell runs at most. -/
theorem lines_in_turn (name : String) (cwd : Path) (mode : TerminalMode) (calls : List Call) :
    Settled mode (sentAmong [] calls) ((fresh name cwd mode).runs calls).1 ∧
      ((fresh name cwd mode).runs calls).1.Sublist ((sentAmong [] calls).map Sent.line) ∧
      ((∀ c ∈ calls, c.isAppear = false) → ((fresh name cwd mode).runs calls).1 = [] ∧
        ((fresh name cwd mode).runs calls).2.shell = none) ∧
      (∀ before starts works after, calls = before ++ .appear starts works :: after →
        (∀ c ∈ before, c.isAppear = false) → .close ∉ after →
        (mode = .shell →
          starts = true ∧ (∀ b ∈ works.take (sinceClose before).length, b = true) ∧
            ∀ line, .send false line ∉ after) →
        ((fresh name cwd mode).runs calls).1 = sinceClose calls) ∧
      ∀ c, Tends ((fresh name cwd mode).runs calls).2 c
        (((fresh name cwd mode).runs calls).2.perform c).1
        (((fresh name cwd mode).runs calls).2.perform c).2.shell := by
  have hsettled := settled_runs name cwd mode calls
  have horderly : Orderly ((fresh name cwd mode).runs calls).2 :=
    orderly_runs ⟨fun _ => rfl, fun _ => rfl⟩ calls
  refine ⟨hsettled, hsettled.sublist, fun hcalls => ?_, ?_, tends_perform horderly⟩
  · rw [runs_hidden hcalls]
    exact ⟨rfl, rfl⟩
  · rintro before starts works after rfl hbefore hclose hshell
    exact runs_of_open hbefore hclose hshell

/-- A line that is forgotten, one that waits, and one for the running shell. -/
theorem lines_in_turn_reused :
    ((fresh "QTA" ⟨"/srv/app"⟩ .shell).runs
      [.send true "cd", .close, .send true "activate", .appear true [], .send true "qta"]).1 =
        ["activate", "qta"] :=
  (lines_in_turn "QTA" ⟨"/srv/app"⟩ .shell _).2.2.2.1
    [.send true "cd", .close, .send true "activate"]
    true [] [.send true "qta"] rfl (by decide) (by decide) fun _ => ⟨rfl, by decide, by simp⟩

end

end ConsoleTerminal
end Host
end Testbench
