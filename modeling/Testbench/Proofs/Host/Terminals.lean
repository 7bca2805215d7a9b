import Mathlib.Data.List.Induction
import Testbench.Host

/-!
# Terminals — what a host does to its terminals, by name

Either host keeps its terminals for good and finds them by name. Each operation changes the terminal
of one name; so what became of a terminal is what was done to it, in order.

- `Host.AnyTerminal`   : a terminal of either host, with its operations;
- `Host.terminal?`     : the terminal of a name;
- `Host.blank`         : the terminal that a host makes;
- `terminal?_openTerminal`, `…_send`, `…_showTerminal`, `…_closeTerminal` : the operations by name;
- `Deed`, `AnyTerminal.replay` : what was done to a terminal, and what it came to;
- `Deed.Runs`          : the deeds after which a shell runs;
- `RecordedTerminal.closed_replay`, `ConsoleTerminal.replay_fresh` : what became of it;
- `closed_of_replay_blank`, `send_of_replay_blank` : the same of a terminal that the host made.
-/

namespace Testbench
namespace Host

/-! ## Terminals of either host -/

/-- A terminal of a recorder or of a console. -/
inductive AnyTerminal where
  | recorded (t : RecordedTerminal)
  | console (t : ConsoleTerminal)
  deriving Repr, Inhabited

namespace AnyTerminal

def cwd : AnyTerminal → Path
  | .recorded t => t.cwd
  | .console t => t.cwd

def send (line : String) : AnyTerminal → AnyTerminal
  | .recorded t => .recorded { t with lines := t.lines ++ [line] }
  | .console t => .console (t.send true line).2

/-- `starts` tells whether a shell can be started. -/
def appear (starts : Bool) : AnyTerminal → AnyTerminal
  | .recorded t => .recorded { t with shown := t.shown + 1 }
  | .console t => .console (t.appear starts []).2

def close : AnyTerminal → AnyTerminal
  | .recorded t => .recorded { t with closed := true }
  | .console t => .console t.close.2

end AnyTerminal

def terminal? (h : Host) (name : String) : Option AnyTerminal :=
  match h with
  | .recorder r => (r.terminal? name).map .recorded
  | .console c => (c.terminal? name).map .console

/-- The terminal that a host makes for a name it does not know. -/
def blank (h : Host) (name : String) (cwd : Path) : AnyTerminal :=
  match h with
  | .recorder _ => .recorded ⟨name, cwd, [], 0, false⟩
  | .console c => .console (.fresh name cwd c.mode)

/-! ## Lists of named things -/

section Named

variable {α : Type} {name : α → String}

/-- Changing what goes by one name, where the name stays. -/
theorem find?_update {f : α → α} {m : String} (hf : ∀ a, name a = m → name (f a) = m)
    (l : List α) (n : String) :
    ((l.map fun a => if name a == m then f a else a).find? fun a => name a == n) =
      (l.find? fun a => name a == n).map fun a => if n = m then f a else a := by
  induction l with
  | nil => rfl
  | cons a rest ih =>
      rw [List.map_cons, List.find?_cons, List.find?_cons]
      -- The change keeps the names, so the search ends at the same place.
      by_cases hm : name a = m
      · have hkept : name (if name a == m then f a else a) = name a := by
          rw [if_pos (beq_iff_eq.2 hm), hf a hm, hm]
        rw [hkept]
        by_cases hn : name a = n
        · rw [beq_iff_eq.2 hn, Option.map_some, if_pos (beq_iff_eq.2 hm), if_pos (hn.symm.trans hm)]
        · rw [beq_eq_false_iff_ne.2 hn]
          exact ih
      · rw [if_neg (by simpa using hm)]
        by_cases hn : name a = n
        · rw [beq_iff_eq.2 hn, Option.map_some, if_neg (fun h => hm (hn.trans h))]
        · rw [beq_eq_false_iff_ne.2 hn]
          exact ih

/-- A thing with a new name comes last. -/
theorem find?_concat {a : α} {l : List α} (h : (l.find? fun b => name b == name a) = none)
    (n : String) :
    ((l ++ [a]).find? fun b => name b == n) =
      if n = name a then some a else l.find? fun b => name b == n := by
  rw [List.find?_append]
  by_cases hn : n = name a
  · rw [if_pos hn, hn, h]
    simp
  · rw [if_neg hn, List.find?_cons, beq_eq_false_iff_ne.2 (Ne.symm hn)]
    simp

end Named

/-! ## Operations by name -/

/-! ### Consoles -/

namespace ConsoleTerminal

/-- Lines come and go, but the terminal stays what it is. -/
structure Steady (t t' : ConsoleTerminal) : Prop where
  name : t'.name = t.name
  cwd : t'.cwd = t.cwd
  mode : t'.mode = t.mode
  shown : t'.shown = t.shown
  runs : t'.shell.isSome = t.shell.isSome

theorem Steady.trans {t t' t'' : ConsoleTerminal} (h : Steady t t') (h' : Steady t' t'') :
    Steady t t'' :=
  ⟨h'.name.trans h.name, h'.cwd.trans h.cwd, h'.mode.trans h.mode, h'.shown.trans h.shown,
    h'.runs.trans h.runs⟩

theorem steady_deliver (t : ConsoleTerminal) (works : Bool) (line : String) :
    Steady t (t.deliver works line).2 := by
  unfold deliver
  split
  · exact ⟨rfl, rfl, rfl, rfl, rfl⟩
  · rename_i fed _ hshell
    split
    · exact ⟨rfl, rfl, rfl, rfl, by simp [hshell]⟩
    · exact ⟨rfl, rfl, rfl, rfl, rfl⟩
  · exact ⟨rfl, rfl, rfl, rfl, rfl⟩

theorem steady_deliverAll (t : ConsoleTerminal) (works : List Bool) (lines : List String) :
    Steady t (t.deliverAll works lines).2 := by
  induction lines generalizing t works with
  | nil => exact ⟨rfl, rfl, rfl, rfl, rfl⟩
  | cons line rest ih => exact (t.steady_deliver (works.headD true) line).trans (ih _ _)

theorem steady_send (t : ConsoleTerminal) (works : Bool) (line : String) :
    Steady t (t.send works line).2 := by
  rw [send]
  split
  · exact t.steady_deliver works line
  · exact ⟨rfl, rfl, rfl, rfl, rfl⟩

/-- A terminal is shown once. -/
theorem appear_of_shown {t : ConsoleTerminal} (h : t.shown = true) (starts : Bool)
    (works : List Bool) : t.appear starts works = ([], t) :=
  if_pos h

/-- A terminal that comes up for the first time. Its shell starts, if that can be. -/
def risen (t : ConsoleTerminal) (starts : Bool) : ConsoleTerminal :=
  { t with
    shown := true
    pending := []
    shell := if t.mode == .shell && starts then some [] else t.shell }

theorem appear_of_hidden {t : ConsoleTerminal} (h : t.shown = false) (starts : Bool)
    (works : List Bool) :
    t.appear starts works = (t.risen starts).deliverAll works t.pending :=
  if_neg (by rw [h]; exact Bool.false_ne_true)

theorem steady_appear {t : ConsoleTerminal} (h : t.shown = false) (starts : Bool)
    (works : List Bool) : Steady (t.risen starts) (t.appear starts works).2 := by
  rw [appear_of_hidden h]
  exact steady_deliverAll _ works t.pending

theorem name_appear (t : ConsoleTerminal) (starts : Bool) (works : List Bool) :
    (t.appear starts works).2.name = t.name := by
  cases h : t.shown with
  | true => rw [appear_of_shown h]
  | false => exact (steady_appear h starts works).name

theorem cwd_appear (t : ConsoleTerminal) (starts : Bool) (works : List Bool) :
    (t.appear starts works).2.cwd = t.cwd := by
  cases h : t.shown with
  | true => rw [appear_of_shown h]
  | false => exact (steady_appear h starts works).cwd

/-- A line to a shown terminal is delivered if it is to be seen, or a shell runs. -/
theorem send_of_shown {t : ConsoleTerminal} (h : t.shown = true) (line : String) :
    (t.send true line).1 = if t.mode = .echo ∨ t.shell.isSome = true then [line] else [] := by
  rw [send, if_pos h, deliver]
  cases hmode : t.mode with
  | echo => rw [if_pos (Or.inl rfl)]
  | shell =>
      cases hshell : t.shell with
      | none => simp
      | some fed => simp

end ConsoleTerminal

namespace Console

theorem terminal?_setTerminal {c : Console} {t t' : ConsoleTerminal} {name : String}
    (h : c.terminal? name = some t) (hname : t'.name = t.name) (n : String) :
    (c.setTerminal t').terminal? n =
      (c.terminal? n).map fun other => if n = name then t' else other := by
  have hfound : t.name = name := by simpa using List.find?_some h
  rw [terminal?, setTerminal, hname, hfound]
  exact find?_update (fun _ _ => hname.trans hfound) c.terminals n

/-- The terminal of a name is replaced by what a change makes of it. -/
theorem terminal?_setTerminal_map {c : Console} {t : ConsoleTerminal} {name : String}
    {f : ConsoleTerminal → ConsoleTerminal} (h : c.terminal? name = some t)
    (hname : (f t).name = t.name) (n : String) :
    (c.setTerminal (f t)).terminal? n =
      (c.terminal? n).map fun other => if n = name then f other else other := by
  rw [terminal?_setTerminal h hname]
  by_cases hn : n = name
  · rw [hn, h]
    simp
  · simp only [if_neg hn]

theorem map_of_terminal?_eq_none {c : Console} {name : String} (h : c.terminal? name = none)
    (f : ConsoleTerminal → ConsoleTerminal) (n : String) :
    c.terminal? n = (c.terminal? n).map fun other => if n = name then f other else other := by
  by_cases hn : n = name
  · rw [hn, h, Option.map_none]
  · simp [hn]

theorem foldl_print_frame (c : Console) (lines : List String) :
    (lines.foldl print c).terminals = c.terminals ∧ (lines.foldl print c).mode = c.mode := by
  induction lines generalizing c with
  | nil => exact ⟨rfl, rfl⟩
  | cons line rest ih => exact ih (c.print line)

/-- Printing leaves the terminals alone. -/
theorem printDelivered_frame (c : Console) (lines : List String) :
    (c.printDelivered lines).terminals = c.terminals ∧ (c.printDelivered lines).mode = c.mode := by
  rw [printDelivered]
  split
  · exact c.foldl_print_frame lines
  · exact ⟨rfl, rfl⟩

theorem terminal?_printDelivered (c : Console) (lines : List String) (n : String) :
    (c.printDelivered lines).terminal? n = c.terminal? n := by
  rw [terminal?, (c.printDelivered_frame lines).1, terminal?]

theorem terminal?_openTerminal (c : Console) (name : String) (cwd : Path) (n : String) :
    (c.openTerminal name cwd).terminal? n =
      if n = name then some ((c.terminal? name).getD (.fresh name cwd c.mode))
      else c.terminal? n := by
  unfold openTerminal
  cases h : c.terminal? name with
  | some t =>
      -- A terminal that is there stays as it is.
      by_cases hn : n = name
      · simp [hn, h]
      · simp [hn]
  | none => exact find?_concat (a := ConsoleTerminal.fresh name cwd c.mode) h n

theorem terminal?_send (c : Console) (name line n : String) :
    (c.send name line).terminal? n =
      (c.terminal? n).map fun t => if n = name then (t.send true line).2 else t := by
  unfold send
  cases h : c.terminal? name with
  | none => exact map_of_terminal?_eq_none h _ n
  | some t =>
      dsimp only
      rw [terminal?_printDelivered]
      exact terminal?_setTerminal_map (f := fun t => (t.send true line).2) h
        (t.steady_send true line).name n

theorem terminal?_showTerminal (c : Console) (files : FileTree) (name n : String) :
    (c.showTerminal files name).terminal? n =
      (c.terminal? n).map fun t =>
        if n = name then (t.appear (files.isDir t.cwd) []).2 else t := by
  unfold showTerminal
  cases h : c.terminal? name with
  | none => exact map_of_terminal?_eq_none h _ n
  | some t =>
      dsimp only
      rw [terminal?_printDelivered]
      exact terminal?_setTerminal_map (f := fun t => (t.appear (files.isDir t.cwd) []).2) h
        (t.name_appear _ _) n

theorem terminal?_closeTerminal (c : Console) (files : FileTree) (name n : String) :
    (c.closeTerminal files name).1.terminal? n =
      (c.terminal? n).map fun t => if n = name then t.close.2 else t := by
  unfold closeTerminal
  cases h : c.terminal? name with
  | none => exact map_of_terminal?_eq_none h _ n
  | some t =>
      have hset := terminal?_setTerminal_map (f := fun t => t.close.2) h rfl n
      dsimp only [ConsoleTerminal.close] at hset ⊢
      cases t.shell with
      | none => exact hset
      | some fed => exact hset

theorem mode_closeTerminal (c : Console) (files : FileTree) (name : String) :
    (c.closeTerminal files name).1.mode = c.mode := by
  unfold closeTerminal
  cases c.terminal? name with
  | none => rfl
  | some t =>
      dsimp only [ConsoleTerminal.close]
      cases t.shell with
      | none => rfl
      | some fed => rfl

end Console

/-! ### Recorders -/

namespace Recorder

theorem terminal?_openTerminal (r : Recorder) (name : String) (cwd : Path) (n : String) :
    (r.openTerminal name cwd).terminal? n =
      if n = name then some ((r.terminal? name).getD ⟨name, cwd, [], 0, false⟩)
      else r.terminal? n := by
  unfold openTerminal
  cases h : r.terminal? name with
  | some t =>
      by_cases hn : n = name
      · simp [hn, h]
      · simp [hn]
  | none => exact find?_concat (a := RecordedTerminal.mk name cwd [] 0 false) h n

theorem terminal?_updateTerminal (r : Recorder) (name : String)
    {f : RecordedTerminal → RecordedTerminal} (hf : ∀ t, (f t).name = t.name) (n : String) :
    (r.updateTerminal name f).terminal? n =
      (r.terminal? n).map fun t => if n = name then f t else t :=
  find?_update (fun t ht => (hf t).trans ht) r.terminals n

end Recorder

/-! ### Hosts -/

/-- What is found once one terminal of a host has changed, told of terminals of either host. -/
theorem map_ite {α : Type} (either : α → AnyTerminal) (o : Option α) (p : Prop) [Decidable p]
    (f : α → α) (g : AnyTerminal → AnyTerminal) (h : ∀ t, g (either t) = either (f t)) :
    (o.map fun t => if p then f t else t).map either =
      (o.map either).map fun t => if p then g t else t := by
  cases o with
  | none => rfl
  | some t => by_cases hp : p <;> simp [hp, h]

theorem terminal?_openTerminal (h : Host) (name : String) (cwd : Path) (n : String) :
    (h.openTerminal name cwd).terminal? n =
      if n = name then some ((h.terminal? name).getD (h.blank name cwd)) else h.terminal? n := by
  cases h with
  | recorder r =>
      have hopen := congrArg (Option.map AnyTerminal.recorded) (r.terminal?_openTerminal name cwd n)
      refine hopen.trans ?_
      by_cases hn : n = name
      · rw [if_pos hn, if_pos hn]
        cases hr : r.terminal? name <;> simp [terminal?, blank, hr]
      · rw [if_neg hn, if_neg hn]
        rfl
  | console c =>
      have hopen := congrArg (Option.map AnyTerminal.console) (c.terminal?_openTerminal name cwd n)
      refine hopen.trans ?_
      by_cases hn : n = name
      · rw [if_pos hn, if_pos hn]
        cases hc : c.terminal? name <;> simp [terminal?, blank, hc]
      · rw [if_neg hn, if_neg hn]
        rfl

theorem terminal?_send (h : Host) (name line n : String) :
    (h.send name line).terminal? n =
      (h.terminal? n).map fun t => if n = name then t.send line else t := by
  cases h with
  | recorder r =>
      have hsend := r.terminal?_updateTerminal name
        (f := fun t => { t with lines := t.lines ++ [line] }) (fun _ => rfl) n
      exact (congrArg (Option.map AnyTerminal.recorded) hsend).trans
        (map_ite _ _ _ _ _ fun _ => rfl)
  | console c =>
      exact (congrArg (Option.map AnyTerminal.console) (c.terminal?_send name line n)).trans
        (map_ite _ _ _ _ _ fun _ => rfl)

theorem terminal?_showTerminal (h : Host) (files : FileTree) (name n : String) :
    (h.showTerminal files name).terminal? n =
      (h.terminal? n).map fun t => if n = name then t.appear (files.isDir t.cwd) else t := by
  cases h with
  | recorder r =>
      have hshow := r.terminal?_updateTerminal name
        (f := fun t => { t with shown := t.shown + 1 }) (fun _ => rfl) n
      exact (congrArg (Option.map AnyTerminal.recorded) hshow).trans
        (map_ite _ _ _ _ _ fun _ => rfl)
  | console c =>
      exact (congrArg (Option.map AnyTerminal.console)
        (c.terminal?_showTerminal files name n)).trans
        (map_ite _ _ _ _ _ fun _ => rfl)

theorem terminal?_closeTerminal (h : Host) (files : FileTree) (name n : String) :
    (h.closeTerminal name files).1.terminal? n =
      (h.terminal? n).map fun t => if n = name then t.close else t := by
  cases h with
  | recorder r =>
      have hclose := r.terminal?_updateTerminal name
        (f := fun t => { t with closed := true }) (fun _ => rfl) n
      exact (congrArg (Option.map AnyTerminal.recorded) hclose).trans
        (map_ite _ _ _ _ _ fun _ => rfl)
  | console c =>
      exact (congrArg (Option.map AnyTerminal.console)
        (c.terminal?_closeTerminal files name n)).trans (map_ite _ _ _ _ _ fun _ => rfl)

/-- A host goes on making the same terminals. -/
theorem blank_openTerminal (h : Host) (name : String) (cwd : Path) :
    (h.openTerminal name cwd).blank = h.blank := by
  cases h with
  | recorder r => rfl
  | console c =>
      funext n q
      simp only [openTerminal, blank, Console.openTerminal]
      split <;> rfl

theorem blank_send (h : Host) (name line : String) : (h.send name line).blank = h.blank := by
  cases h with
  | recorder r => rfl
  | console c =>
      funext n q
      simp only [send, blank, Console.send]
      split
      · rw [(Console.printDelivered_frame _ _).2]
        rfl
      · rfl

theorem blank_showTerminal (h : Host) (files : FileTree) (name : String) :
    (h.showTerminal files name).blank = h.blank := by
  cases h with
  | recorder r => rfl
  | console c =>
      funext n q
      simp only [showTerminal, blank, Console.showTerminal]
      split
      · rw [(Console.printDelivered_frame _ _).2]
        rfl
      · rfl

theorem blank_closeTerminal (h : Host) (name : String) (files : FileTree) :
    (h.closeTerminal name files).1.blank = h.blank := by
  cases h with
  | recorder r => rfl
  | console c =>
      funext n q
      simp only [closeTerminal, blank, Console.mode_closeTerminal]

/-! ## What was done to a terminal -/

inductive Deed where
  | sent (line : String)
  /-- It was brought up where a shell could or could not be started. -/
  | shown (starts : Bool)
  | closed
  deriving DecidableEq, Repr

namespace AnyTerminal

def after (t : AnyTerminal) : Deed → AnyTerminal
  | .sent line => t.send line
  | .shown starts => t.appear starts
  | .closed => t.close

def replay (t : AnyTerminal) (deeds : List Deed) : AnyTerminal := deeds.foldl after t

theorem replay_concat (t : AnyTerminal) (deeds : List Deed) (d : Deed) :
    t.replay (deeds ++ [d]) = (t.replay deeds).after d := by
  rw [replay, List.foldl_append]
  rfl

theorem cwd_after (t : AnyTerminal) (d : Deed) : (t.after d).cwd = t.cwd := by
  cases t with
  | recorded t => cases d <;> rfl
  | console t =>
      cases d with
      | sent line => exact (t.steady_send true line).cwd
      | shown starts => exact t.cwd_appear starts []
      | closed => rfl

theorem cwd_replay (t : AnyTerminal) (deeds : List Deed) : (t.replay deeds).cwd = t.cwd := by
  induction deeds generalizing t with
  | nil => rfl
  | cons d rest ih => exact (ih (t.after d)).trans (t.cwd_after d)

end AnyTerminal

/-- A recorded terminal is closed once and for all. -/
theorem RecordedTerminal.closed_replay (t : RecordedTerminal) (deeds : List Deed) :
    ∃ t', (AnyTerminal.recorded t).replay deeds = .recorded t' ∧
      (t'.closed = true ↔ t.closed = true ∨ .closed ∈ deeds) := by
  induction deeds generalizing t with
  | nil => exact ⟨t, rfl, by simp⟩
  | cons d rest ih =>
      cases d with
      | sent line =>
          rcases ih { t with lines := t.lines ++ [line] } with ⟨t', ht', hclosed⟩
          exact ⟨t', ht', by simpa using hclosed⟩
      | shown starts =>
          rcases ih { t with shown := t.shown + 1 } with ⟨t', ht', hclosed⟩
          exact ⟨t', ht', by simpa using hclosed⟩
      | closed =>
          rcases ih { t with closed := true } with ⟨t', ht', hclosed⟩
          exact ⟨t', ht', by simpa using hclosed⟩

/-- A shell runs for whoever brought the terminal up first, until the terminal is closed. -/
def Deed.Runs (deeds : List Deed) : Prop :=
  ∃ before later, deeds = before ++ .shown true :: later ∧ (∀ starts, .shown starts ∉ before) ∧
    .closed ∉ later

namespace Deed

theorem not_runs_nil : ¬ Runs [] := by
  rintro ⟨before, later, heq, -⟩
  simp at heq

/-- The last deed is the showing that starts the shell, or a shell ran before it. -/
theorem runs_concat_iff (deeds : List Deed) (d : Deed) :
    Runs (deeds ++ [d]) ↔
      (d = .shown true ∧ ∀ starts, .shown starts ∉ deeds) ∨ (Runs deeds ∧ d ≠ .closed) := by
  constructor
  · rintro ⟨before, later, heq, hfirst, hopen⟩
    rcases List.eq_nil_or_concat later with rfl | ⟨init, last, rfl⟩
    · rcases List.append_inj' heq rfl with ⟨hinit, hlast⟩
      exact Or.inl ⟨List.singleton_inj.1 hlast, by rwa [hinit]⟩
    · have hassoc : deeds ++ [d] = (before ++ .shown true :: init) ++ [last] := by simpa using heq
      rcases List.append_inj' hassoc rfl with ⟨hinit, hlast⟩
      have hd : d = last := List.singleton_inj.1 hlast
      refine Or.inr ⟨⟨before, init, hinit, hfirst, fun h => hopen (by simp [h])⟩, ?_⟩
      rintro rfl
      exact hopen (by simp [← hd])
  · rintro (⟨rfl, hfirst⟩ | ⟨⟨before, later, rfl, hfirst, hopen⟩, hd⟩)
    · exact ⟨deeds, [], rfl, hfirst, by simp⟩
    · refine ⟨before, later ++ [d], by simp, hfirst, ?_⟩
      simp [hopen, Ne.symm hd]

theorem Runs.shown {deeds : List Deed} (h : Runs deeds) : ∃ starts, .shown starts ∈ deeds := by
  rcases h with ⟨before, later, rfl, -, -⟩
  exact ⟨true, by simp⟩

end Deed

/-- What became of a new terminal of a console. -/
theorem ConsoleTerminal.replay_fresh (name : String) (cwd : Path) (mode : TerminalMode)
    (deeds : List Deed) :
    ∃ t, (AnyTerminal.console (.fresh name cwd mode)).replay deeds = .console t ∧ t.mode = mode ∧
      (t.shown = true ↔ ∃ starts, .shown starts ∈ deeds) ∧
      (t.shell.isSome = true ↔ mode = .shell ∧ Deed.Runs deeds) := by
  -- What a deed does depends on those before it, so the induction takes the last one away.
  induction deeds using List.reverseRecOn with
  | nil => exact ⟨_, rfl, rfl, by simp [fresh], by simp [fresh, Deed.not_runs_nil]⟩
  | append_singleton deeds d ih =>
      rcases ih with ⟨t, ht, hmode, hshown, hshell⟩
      rw [AnyTerminal.replay_concat, ht]
      cases d with
      | sent line =>
          have hsteady := t.steady_send true line
          refine ⟨_, rfl, hsteady.mode.trans hmode, ?_, ?_⟩
          · rw [hsteady.shown, hshown]
            simp
          · rw [hsteady.runs, hshell, Deed.runs_concat_iff]
            simp
      | shown starts =>
          -- A terminal that is up stays as it is; one that is not starts its shell.
          cases hup : t.shown with
          | true =>
              have hsame : (AnyTerminal.console t).after (.shown starts) = .console t := by
                simp only [AnyTerminal.after, AnyTerminal.appear, appear_of_shown hup]
              have hseen := hshown.1 hup
              refine ⟨t, hsame, hmode, ?_, ?_⟩
              · rw [hup]
                simp
              · have hrest : Deed.Runs (deeds ++ [.shown starts]) ↔ Deed.Runs deeds := by
                  rw [Deed.runs_concat_iff]
                  refine ⟨?_, fun h => Or.inr ⟨h, by simp⟩⟩
                  rintro (⟨-, hfirst⟩ | ⟨h, -⟩)
                  · exact hseen.elim fun s hs => absurd hs (hfirst s)
                  · exact h
                rw [hshell, hrest]
          | false =>
              have hsteady := steady_appear hup starts []
              have hunseen : ∀ starts, Deed.shown starts ∉ deeds := fun s hs =>
                Bool.false_ne_true (hup.symm.trans (hshown.2 ⟨s, hs⟩))
              have hidle : ¬ Deed.Runs deeds := fun h => h.shown.elim hunseen
              have hnone : t.shell = none := by
                rw [← Option.not_isSome_iff_eq_none, hshell]
                exact fun h => hidle h.2
              refine ⟨_, rfl, hsteady.mode.trans hmode, ?_, ?_⟩
              · rw [hsteady.shown]
                simp [risen]
              · rw [hsteady.runs, Deed.runs_concat_iff]
                cases mode <;> cases starts <;> simp [risen, hmode, hnone, hidle, hunseen]
      | closed =>
          refine ⟨_, rfl, hmode, ?_, ?_⟩
          · simpa [close] using hshown
          · rw [Deed.runs_concat_iff]
            simp [close]

section

variable {host : Host} {name : String} {cwd : Path} {deeds : List Deed}

theorem closed_of_replay_blank {t : RecordedTerminal}
    (h : (host.blank name cwd).replay deeds = .recorded t) :
    t.closed = true ↔ .closed ∈ deeds := by
  cases host with
  | recorder r =>
      rcases RecordedTerminal.closed_replay ⟨name, cwd, [], 0, false⟩ deeds with ⟨t', ht', hclosed⟩
      have heq : t' = t := AnyTerminal.recorded.inj (ht'.symm.trans h)
      rw [← heq, hclosed]
      simp
  | console c =>
      rcases ConsoleTerminal.replay_fresh name cwd c.mode deeds with ⟨t', ht', -⟩
      exact AnyTerminal.noConfusion (ht'.symm.trans h)

theorem send_of_replay_blank {t : ConsoleTerminal}
    (h : (host.blank name cwd).replay deeds = .console t) (hshown : t.shown = true)
    (line : String) : (t.send true line).1 = [line] ↔ t.mode = .echo ∨ Deed.Runs deeds := by
  cases host with
  | recorder r =>
      rcases RecordedTerminal.closed_replay ⟨name, cwd, [], 0, false⟩ deeds with ⟨t', ht', -⟩
      exact AnyTerminal.noConfusion (ht'.symm.trans h)
  | console c =>
      rcases ConsoleTerminal.replay_fresh name cwd c.mode deeds with ⟨t', ht', hmode, -, hruns⟩
      obtain rfl : t' = t := AnyTerminal.console.inj (ht'.symm.trans h)
      -- A terminal that only echoes has no shell, whatever was done to it.
      have hreached : (c.mode = .echo ∨ t'.shell.isSome = true) ↔
          (c.mode = .echo ∨ Deed.Runs deeds) := by
        rw [hruns]
        cases c.mode <;> simp
      rw [t'.send_of_shown hshown, hmode, ← hreached]
      split <;> simp_all

end

end Host
end Testbench
