import Mathlib.Data.List.TakeWhile
import Mathlib.Data.Nat.Digits.Defs
import Testbench.Proofs.Environment.Requirements
import Testbench.Proofs.Parsing.Courses
import Testbench.Proofs.Text.Count

/-!
# Checking — asking for the tool that makes environments, again and again

A check runs the interpreter once, and what the run comes to decides about everything: what the
check answers, and what a person is told. That the tool is too old is told each time. That it is
missing is told once, by the first check that misses it, unless a check before it found it.

- `FirstRun`, `Recent` : the number in what the tool prints, and versions that will do;
- `Concludes`          : what comes of a run;
- `Says`               : what an act tells, in front of every host;
- `Trial`, `Trials`    : a check, and checks one after another;
- `Trial.Course`, `plays_checkTool` : the course of a check;
- `Trials.exists_course`, `exists_tells` : each check, and all checks, in a run of checks;
- `missing_tool_told_once` : what each check answers and tells.
-/

namespace Testbench
namespace Environment

open Parsing (Notice Notifies Tells Parted)
open Sharing (Starts not_starts)
open Testbench.Task (Plays Ran)

/-! ## Versions -/

/-- The first longest run of decimal digits, of whatever script. -/
def FirstRun (printed : String) (digits : List Char) : Prop :=
  ∃ before after, printed.toList = before ++ (digits ++ after) ∧ digits ≠ [] ∧
    (∀ c ∈ before, Text.isDecimalDigit c = false) ∧ (∀ c ∈ digits, Text.isDecimalDigit c = true) ∧
    ∀ c ∈ after.head?, Text.isDecimalDigit c = false

/-- The number that is written with some digits. -/
def numeral (digits : List Char) : Nat := Nat.ofDigits 10 (digits.reverse.map Text.digitValue)

/-- What is printed names a version that will do. -/
def Recent (printed : String) : Prop :=
  ∃ digits, FirstRun printed digits ∧ (∀ c ∈ digits, c.isDigit = true) ∧ 13 < numeral digits ∧
    numeral digits < 2 ^ 32

theorem digitRun_of_firstRun {printed : String} {digits : List Char} (h : FirstRun printed digits) :
    Text.digitRun printed = digits := by
  rcases h with ⟨before, after, hprinted, hne, hbefore, hdigits, hafter⟩
  have hstart : (digits ++ after).dropWhile (fun c => !Text.isDecimalDigit c) =
      digits ++ after := by
    rcases List.exists_cons_of_ne_nil hne with ⟨c, rest, rfl⟩
    simp [hdigits c List.mem_cons_self]
  have hend : after.takeWhile Text.isDecimalDigit = [] := by
    cases after with
    | nil => rfl
    | cons c rest => simp [hafter c rfl]
  rw [Text.digitRun, hprinted, List.dropWhile_append_of_pos fun c hc => by simp [hbefore c hc],
    hstart, List.takeWhile_append_of_pos hdigits, hend, List.append_nil]

theorem firstRun_digitRun {printed : String} (h : Text.digitRun printed ≠ []) :
    FirstRun printed (Text.digitRun printed) := by
  refine ⟨printed.toList.takeWhile fun c => !Text.isDecimalDigit c,
    (printed.toList.dropWhile fun c => !Text.isDecimalDigit c).dropWhile Text.isDecimalDigit,
    ?_, h, ?_, ?_, ?_⟩
  · rw [Text.digitRun, List.takeWhile_append_dropWhile, List.takeWhile_append_dropWhile]
  · intro c hc
    simpa using List.mem_takeWhile_imp hc
  · exact fun c hc => List.mem_takeWhile_imp hc
  · intro c hc
    have hhead := List.head?_dropWhile_not Text.isDecimalDigit
      (printed.toList.dropWhile fun c => !Text.isDecimalDigit c)
    rw [hc] at hhead
    simpa using hhead

theorem numeral_eq_ofDigitChars (digits : List Char) :
    numeral digits = Nat.ofDigitChars 10 digits 0 := by
  induction digits using List.reverseRecOn with
  | nil => rfl
  | append_singleton digits c ih =>
      rw [numeral, List.reverse_concat, List.map_cons, Nat.ofDigits_cons, ← numeral, ih,
        Nat.ofDigitChars_append, Nat.ofDigitChars_cons, Nat.ofDigitChars_nil, Nat.add_comm]
      rfl

theorem readCount?_run {bound : Nat} {digits : List Char} (hne : digits ≠ [])
    (hdigits : ∀ c ∈ digits, Text.isDecimalDigit c = true) (n : Nat) :
    Text.readCount? bound digits = some n ↔
      (∀ c ∈ digits, c.isDigit = true) ∧ numeral digits = n ∧ n < bound := by
  rw [Text.readCount?_eq_some_iff, numeral_eq_ofDigitChars, ← and_assoc]
  refine and_congr_left fun _ => ⟨fun h => ?_, fun h => .plain ⟨hne, h⟩⟩
  cases h with
  | plain h => exact h.2
  | signed _ => exact absurd (hdigits '+' List.mem_cons_self) (by decide)

theorem isRecent_iff (printed : String) : isRecent printed = true ↔ Recent printed := by
  rw [isRecent, Option.any_eq_true]
  constructor
  · rintro ⟨n, hn, hrecent⟩
    have hrun : Text.digitRun printed ≠ [] := by
      intro hempty
      rw [virtualenvMajor?, hempty] at hn
      exact nomatch hn
    have hfirst := firstRun_digitRun hrun
    have ⟨_, _, _, hne, _, hdigits, _⟩ := hfirst
    rcases (readCount?_run hne hdigits n).1 hn with ⟨hascii, rfl, hbound⟩
    exact ⟨_, hfirst, hascii, of_decide_eq_true hrecent, hbound⟩
  · rintro ⟨digits, hfirst, hascii, hrecent, hbound⟩
    have hrun := digitRun_of_firstRun hfirst
    have ⟨_, _, _, hne, _, hdigits, _⟩ := hfirst
    refine ⟨numeral digits, ?_, decide_eq_true hrecent⟩
    rw [virtualenvMajor?, hrun]
    exact (readCount?_run hne hdigits _).2 ⟨hascii, rfl, hbound⟩

/-! ## What comes of a run -/

/-- A run that did not come to a good end. -/
def Missed (outcome : Except Error Outcome) : Prop := ∀ o, outcome = .ok o → o.code ≠ some 0

/-- What a run comes to, where it is known or not whether the tool is there: what the check answers,
what a person is told, and whether it is known from now on. -/
inductive Concludes (command : String) (checked : Bool) :
    Except Error Outcome → Except Error Unit → List Notice → Bool → Prop where
  | recent {o : Outcome} (hcode : o.code = some 0) (hrecent : Recent o.stdoutText) :
      Concludes command checked (.ok o) (.ok ()) [.status "Check virtualenv status ok"] true
  | old {o : Outcome} (hcode : o.code = some 0) (hold : ¬ Recent o.stdoutText) :
      Concludes command checked (.ok o)
        (.error (.tool command ("unsupported version: " ++ Text.trim o.stdoutText)))
        [.dialog tooOldMessage] checked
  | missing {outcome : Except Error Outcome} {failure : String} (hmissed : Missed outcome) :
      Concludes command checked outcome (.error (.tool command failure))
        (.status ("virtualenv not installed: " ++ failure) ::
          if checked then [] else [.dialog notInstalledMessage]) true

theorem tooOldMessage_ne : tooOldMessage ≠ notInstalledMessage := by decide +kernel

namespace Concludes

variable {command : String} {checked checked' : Bool} {outcome : Except Error Outcome}
  {r : Except Error Unit} {notices : List Notice}

theorem ok_iff (h : Concludes command checked outcome r notices checked') :
    r = .ok () ↔ ∃ o, outcome = .ok o ∧ o.code = some 0 ∧ Recent o.stdoutText := by
  cases h with
  | recent hcode hrecent => exact iff_of_true rfl ⟨_, rfl, hcode, hrecent⟩
  | old _ hold =>
      refine iff_of_false nofun ?_
      rintro ⟨o, heq, -, hrecent⟩
      exact hold (Except.ok.inj heq ▸ hrecent)
  | missing hmissed =>
      refine iff_of_false nofun ?_
      rintro ⟨o, heq, hcode, -⟩
      exact hmissed o heq hcode

theorem tool_of_ne (h : Concludes command checked outcome r notices checked') (hne : r ≠ .ok ()) :
    ∃ detail, r = .error (.tool command detail) := by
  cases h with
  | recent _ _ => exact absurd rfl hne
  | old _ _ => exact ⟨_, rfl⟩
  | missing _ => exact ⟨_, rfl⟩

theorem tooOld_iff (h : Concludes command checked outcome r notices checked') :
    .dialog tooOldMessage ∈ notices ↔
      ∃ o, outcome = .ok o ∧ o.code = some 0 ∧ ¬ Recent o.stdoutText := by
  cases h with
  | recent _ hrecent =>
      refine iff_of_false (by simp) ?_
      rintro ⟨o, heq, -, hold⟩
      exact hold (Except.ok.inj heq ▸ hrecent)
  | old hcode hold => exact iff_of_true List.mem_cons_self ⟨_, rfl, hcode, hold⟩
  | missing hmissed =>
      refine iff_of_false ?_ ?_
      · cases checked <;> simp [tooOldMessage_ne]
      · rintro ⟨o, heq, hcode, -⟩
        exact hmissed o heq hcode

theorem notInstalled_iff (h : Concludes command checked outcome r notices checked') :
    .dialog notInstalledMessage ∈ notices ↔ checked = false ∧ Missed outcome := by
  cases h with
  | recent hcode _ => exact iff_of_false (by simp) fun h => h.2 _ rfl hcode
  | old hcode _ => exact iff_of_false (by simp [tooOldMessage_ne.symm]) fun h => h.2 _ rfl hcode
  | missing hmissed => cases checked <;> simp [hmissed]

theorem checked_iff (h : Concludes command checked outcome r notices checked') :
    checked' = true ↔ checked = true ∨ r = .ok () ∨ Missed outcome := by
  cases h with
  | recent _ _ => simp
  | old hcode _ =>
      have hran : ¬ Missed _ := fun h => h _ rfl hcode
      simp [hran]
  | missing hmissed => simp [hmissed]

/-- What is told once is told while it is not known, and then it is. -/
theorem count_notInstalled (h : Concludes command checked outcome r notices checked') :
    notices.count (.dialog notInstalledMessage) + (!checked').toNat ≤ (!checked).toNat := by
  cases h with
  | recent _ _ => simp
  | old _ _ => simp [tooOldMessage_ne]
  | missing _ => cases checked <;> simp

end Concludes

/-- What is known of a project, but for whether its tool is there. -/
def View.knowing (v : View) (checked : Bool) : View :=
  { v with state := { v.state with toolChecked := checked } }

section

variable {id : ProjectId} {v : View} {α β : Type} {w w' w'' : World} {a : α} {b : β}
  {notices more : List Notice}

/-- In front of every host, an act tells it this; besides it answers and leaves the same. -/
def Says (m : Act α) (w : World) (a : α) (w' : World) (notices : List Notice) : Prop :=
  ∀ host, m.run (w.withHost host) = (a, w'.withHost (notices.foldl Notice.on host))

namespace Says

theorem pure (a : α) (w : World) : Says (Pure.pure a) w a w [] := fun _ => rfl

theorem bind {m : Act α} {f : α → Act β} (hm : Says m w a w' notices)
    (hf : Says (f a) w' b w'' more) : Says (m >>= f) w b w'' (notices ++ more) := by
  intro host
  rw [StateT.run_bind, hm host, List.foldl_append]
  exact hf _

theorem state (h : view? id w = some v) : Says (state id) w v.state w [] := by
  rw [← state_eq h]
  exact fun _ => rfl

theorem update (f : State → State) (w : World) :
    Says (update id f) w () (w.updateEnv id f) [] := fun _ => rfl

theorem status (text : String) (w : World) :
    Says (Act.tell (Host.updateStatus text)) w () w [.status text] := fun _ => rfl

theorem dialog (text : String) (w : World) :
    Says (Act.tell (Host.showError text)) w () w [.dialog text] := fun _ => rfl

theorem run {m : Act α} (h : Says m w a w' notices) :
    m.run w = (a, w'.withHost (notices.foldl Notice.on w.host)) := h w.host

theorem notifies {m : Act α} (h : Says m w a w' notices) : Notifies ⟨w, α, m.run⟩ notices :=
  fun host => congrArg (·.2.host) (h host)

end Says

theorem says_concludeTool (hview : view? id w = some v) (command : String)
    (outcome : Except Error Outcome) :
    ∃ a notices checked w', Concludes command v.state.toolChecked outcome a notices checked ∧
      Says (concludeTool id command outcome) w a w' notices ∧
      view? id w' = some (v.knowing checked) := by
  unfold concludeTool
  extract_lets missing
  have hnoted := view?_updateEnv_some hview fun s => { s with toolChecked := true }
  -- That the tool is missing is told unless it was known.
  have hmissing : ∀ failure, Says (missing failure) w (.error (.tool command (Text.trim failure)))
      (w.updateEnv id fun s => { s with toolChecked := true })
      (.status ("virtualenv not installed: " ++ Text.trim failure) ::
        if v.state.toolChecked then [] else [.dialog notInstalledMessage]) := by
    intro failure
    refine (Says.status _ w).bind ((Says.state hview).bind ?_)
    dsimp only
    cases hchecked : v.state.toolChecked with
    | true => exact (Says.update _ w).bind (.pure _ _)
    | false => exact (Says.update _ w).bind ((Says.dialog _ _).bind (.pure _ _))
  cases outcome with
  | error cause => exact ⟨_, _, _, _, .missing nofun, hmissing cause.message, hnoted⟩
  | ok o =>
      dsimp only
      by_cases hcode : o.code = some 0
      · have hsuccess : o.success = true := beq_iff_eq.2 hcode
        rw [hsuccess, Bool.not_true, if_neg Bool.false_ne_true]
        by_cases hrecent : Recent o.stdoutText
        · rw [if_pos ((isRecent_iff _).2 hrecent)]
          exact ⟨_, _, _, _, .recent hcode hrecent,
            (Says.update _ w).bind ((Says.status _ _).bind (.pure _ _)), hnoted⟩
        · rw [if_neg fun h => hrecent ((isRecent_iff _).1 h)]
          exact ⟨_, _, _, _, .old hcode hrecent, (Says.dialog _ w).bind (.pure _ _), hview⟩
      · have hfailure : o.success = false := beq_eq_false_iff_ne.2 hcode
        rw [hfailure, Bool.not_false, if_pos rfl]
        have hmissed : Missed (.ok o) := fun _ heq => Except.ok.inj heq ▸ hcode
        exact ⟨_, _, _, _, .missing hmissed, hmissing o.stderrText, hnoted⟩

end

/-! ## Checks -/

/-- A check, from its beginning to its end. -/
structure Trial where
  start : World
  log : List (Ran World)
  result : Except Error Unit

/-- Checks of a project, one after another. Others leave what is known of the project alone. -/
inductive Trials (id : ProjectId) : World → List Trial → World → Prop where
  | none {w w' : World} (hothers : Leaves id w w') : Trials id w [] w'
  | more {w w₁ w₂ w' : World} {log : List (Ran World)} {result : Except Error Unit}
      {rest : List Trial} (hothers : Leaves id w w₁)
      (hcheck : Plays (Leaves id) (checkTool id).run w₁ log result w₂)
      (hrest : Trials id w₂ rest w') : Trials id w (⟨w₁, log, result⟩ :: rest) w'

namespace Trial

variable (t : Trial) (v : View)

def invocation : Invocation := versionInvocation (interpreter t.start v.root)

/-- The step that runs the interpreter. -/
def run : Ran World := ⟨t.start, _, (Work.launch (t.invocation v)).run⟩

/-- What the run comes to. -/
def outcome : Except Error Outcome := ((Work.launch (t.invocation v)).run t.start).1.1

/-- A person is shown an error. -/
def Shows (text : String) : Prop := ∃ notices, Tells t.log notices ∧ .dialog text ∈ notices

/-- The course of a check, what is told in it, and whether the tool is known of at its end. -/
structure Course (id : ProjectId) (notices : List Notice) (checked : Bool) : Prop where
  concludes : Concludes (t.invocation v).shellCommand v.state.toolChecked (t.outcome v) t.result
    notices checked
  tells : Tells t.log notices
  ran : t.run v ∈ t.log
  alone : ∀ x ∈ t.log, Starts x → x = t.run v
  knows : ∀ x ∈ t.log, view? id x.before = some v

variable {t v}

theorem Course.shows_iff {id : ProjectId} {notices : List Notice} {checked : Bool}
    (h : t.Course v id notices checked) (text : String) :
    t.Shows text ↔ .dialog text ∈ notices := by
  constructor
  · rintro ⟨others, htells, hmem⟩
    rwa [h.tells.unique htells]
  · exact fun hmem => ⟨notices, h.tells, hmem⟩

end Trial

section

variable {id : ProjectId} {v : View} {w w' : World} {log : List (Ran World)}
  {r : Except Error Unit}

theorem leaves_of_many (h : Relation.ReflTransGen (Leaves id) w w') : Leaves id w w' := by
  induction h with
  | refl => rfl
  | tail _ hlast ih => exact hlast.trans ih

/-- What comes of a run is told without running anything. -/
theorem keeps_concludeTool (command : String) (outcome : Except Error Outcome) :
    Act.Keeps World.runner (concludeTool id command outcome) := by
  unfold concludeTool
  extract_lets missing
  have hmissing : ∀ failure, Act.Keeps World.runner (missing failure) := by
    intro failure
    refine .bind (.tell fun _ => rfl) fun _ => .bind (.bind .world fun _ => .pure _) fun s => ?_
    refine .bind (.change fun _ => rfl) fun _ => ?_
    split
    · exact .bind (.tell fun _ => rfl) fun _ => .pure _
    · exact .pure _
  -- A run that could not be started and one that failed end in the same message.
  cases outcome with
  | error cause => exact hmissing cause.message
  | ok o =>
      dsimp only
      split
      · exact hmissing o.stderrText
      · split
        · exact .bind (.change fun _ => rfl) fun _ => .bind (.tell fun _ => rfl) fun _ => .pure _
        · exact .bind (.tell fun _ => rfl) fun _ => .pure _

theorem plays_checkTool (hview : view? id w = some v)
    (h : Plays (Leaves id) (checkTool id).run w log r w') :
    ∃ notices checked, (⟨w, log, r⟩ : Trial).Course v id notices checked ∧
      view? id w' = some (v.knowing checked) := by
  unfold checkTool at h
  rcases Attempt.plays_look h with ⟨rest, rfl, hrest⟩
  rw [root_eq hview] at hrest
  rcases Attempt.plays_ofWork hrest with ⟨first, second, outcome, w₁, rfl, hrun, hconclude⟩
  rcases Plays.of_act hrun with ⟨waits, rfl, hwaits⟩
  rcases Plays.of_await hwaits with ⟨w₂, ended, hothers, rfl, hended⟩
  rcases Plays.of_done hended with ⟨rfl, rfl, rfl⟩
  rcases Plays.of_act hconclude with ⟨last, rfl, hlast⟩
  rcases Plays.of_done hlast with ⟨rfl, rfl, rfl⟩
  have hview₁ : view? id w₁ = some v :=
    (leaves_of_many hothers).trans (((mute_launch _).view w).trans hview)
  rcases says_concludeTool hview₁ (versionInvocation (interpreter w v.root)).shellCommand
    ((Work.launch (versionInvocation (interpreter w v.root))).run w).1.1 with
    ⟨a, notices, checked, w₂, hconcludes, hsays, hview₂⟩
  refine ⟨notices, checked, ⟨?_, ?_, ?_, ?_, ?_⟩, ?_⟩
  · have hanswer := congrArg Prod.fst hsays.run
    exact hanswer ▸ hconcludes
  · -- Of the four steps only the last one tells anything.
    have htells := Parted.cons (Parsing.idle_look w).silent
      (.cons (Parsing.notifies_launch (versionInvocation (interpreter w v.root)) w)
        (.cons (Parsing.idle_wait w₁).silent (.cons hsays.notifies .nil)))
    rwa [List.append_nil] at htells
  · exact List.mem_cons_of_mem _ List.mem_cons_self
  · refine List.forall_mem_cons.2 ⟨fun h => absurd h (not_starts fun _ => rfl),
      List.forall_mem_cons.2 ⟨fun _ => rfl, List.forall_mem_cons.2
        ⟨fun h => absurd h (not_starts fun _ => rfl), List.forall_mem_singleton.2 fun h => ?_⟩⟩⟩
    exact absurd h (not_starts (keeps_concludeTool _ _))
  · exact List.forall_mem_cons.2 ⟨hview, List.forall_mem_cons.2 ⟨hview, List.forall_mem_cons.2
      ⟨hview₁, List.forall_mem_singleton.2 hview₁⟩⟩⟩
  · exact (congrArg (view? id) (congrArg Prod.snd hsays.run)).trans hview₂

namespace Trials

variable {trials before after : List Trial} {t : Trial}

/-- Each check takes its course, and the tool is known of if a check before it found or missed
it. -/
theorem exists_course (hview : view? id w = some v) (h : Trials id w (before ++ t :: after) w') :
    ∃ known notices checked, t.Course (v.knowing known) id notices checked ∧
      (known = true ↔ v.state.toolChecked = true ∨
        ∃ t' ∈ before, t'.result = .ok () ∨ Missed (t'.outcome v)) := by
  -- On the checks that came before. The first of them settles whether the tool is known of in the
  -- others.
  induction before generalizing w v with
  | nil =>
      cases h with
      | more hothers hcheck hrest =>
          rcases plays_checkTool (hothers.trans hview) hcheck with ⟨notices, checked, hcourse, -⟩
          exact ⟨v.state.toolChecked, notices, checked, hcourse, by simp⟩
  | cons first before ih =>
      cases h with
      | more hothers hcheck hrest =>
          rcases plays_checkTool (hothers.trans hview) hcheck with
            ⟨notices, checked, hcourse, hview'⟩
          rcases ih hview' hrest with ⟨known, others, checked', hcourse', hknown⟩
          refine ⟨known, others, checked', hcourse', hknown.trans ?_⟩
          have hfirst := hcourse.concludes.checked_iff
          simp only [List.mem_cons, exists_eq_or_imp, ← or_assoc] at hfirst ⊢
          exact or_congr_left hfirst

/-- Whatever is told in checks, that the tool is missing is told once at most. -/
theorem exists_tells (hview : view? id w = some v) (h : Trials id w trials w') :
    ∃ notices checked, Tells (trials.flatMap Trial.log) notices ∧
      notices.count (.dialog notInstalledMessage) ≤ (!v.state.toolChecked).toNat ∧
      view? id w' = some (v.knowing checked) := by
  induction h generalizing v with
  | none hothers => exact ⟨[], v.state.toolChecked, .nil, Nat.zero_le _, hothers.trans hview⟩
  | more hothers hcheck hrest ih =>
      rcases plays_checkTool (hothers.trans hview) hcheck with ⟨notices, checked, hcourse, hview'⟩
      rcases ih hview' with ⟨more, known, htells, hcount, hlast⟩
      have hfirst := hcourse.concludes.count_notInstalled
      refine ⟨notices ++ more, known, hcourse.tells.append htells, ?_, hlast⟩
      rw [List.count_append]
      exact (Nat.add_le_add_left hcount _).trans hfirst

end Trials

/-- Checks of a project one after another, whatever the runs come to and whatever others do who
leave what is known of the project alone. Each check runs the interpreter once. It succeeds exactly
if the run does and the first number that is printed, in ASCII digits, is above 13 and below 2³²;
else it fails with the command. That the tool is too old is told exactly if the run succeeds and the
number is another. That it is missing is told exactly by the first check that misses it, unless it
was known or one before it succeeded; so it is told once at most. Nothing but whether the tool is
known of ever changes. -/
theorem missing_tool_told_once {trials : List Trial} (hview : view? id w = some v)
    (h : Trials id w trials w') :
    (∀ t ∈ trials, ∃ notices, Tells t.log notices ∧
      t.run v ∈ t.log ∧ (∀ x ∈ t.log, Starts x → x = t.run v) ∧
      (t.result = .ok () ↔
        ∃ o, t.outcome v = .ok o ∧ o.code = some 0 ∧ Recent o.stdoutText) ∧
      (t.result ≠ .ok () →
        ∃ detail, t.result = .error (.tool (t.invocation v).shellCommand detail)) ∧
      (.dialog tooOldMessage ∈ notices ↔
        ∃ o, t.outcome v = .ok o ∧ o.code = some 0 ∧ ¬ Recent o.stdoutText) ∧
      ∀ x ∈ t.log, ∃ known, view? id x.before = some (v.knowing known)) ∧
    (∀ before t after, trials = before ++ t :: after →
      (t.Shows notInstalledMessage ↔ v.state.toolChecked = false ∧ Missed (t.outcome v) ∧
        ∀ t' ∈ before, t'.result ≠ .ok () ∧ ¬ Missed (t'.outcome v))) ∧
    (∃ notices, Tells (trials.flatMap Trial.log) notices ∧
      notices.count (.dialog notInstalledMessage) ≤ 1) ∧
    ∃ known, view? id w' = some (v.knowing known) := by
  rcases h.exists_tells hview with ⟨notices, checked, htells, hcount, hlast⟩
  refine ⟨fun t ht => ?_, ?_, ⟨notices, htells, hcount.trans (Bool.toNat_le _)⟩, checked, hlast⟩
  · rcases List.append_of_mem ht with ⟨before, after, rfl⟩
    rcases h.exists_course hview with ⟨known, notices, checked, hcourse, -⟩
    exact ⟨notices, hcourse.tells, hcourse.ran, hcourse.alone, hcourse.concludes.ok_iff,
      hcourse.concludes.tool_of_ne, hcourse.concludes.tooOld_iff,
      fun x hx => ⟨known, hcourse.knows x hx⟩⟩
  · rintro before t after rfl
    rcases h.exists_course hview with ⟨known, notices, checked, hcourse, hknown⟩
    have hhidden : known = false ↔ v.state.toolChecked = false ∧
        ∀ t' ∈ before, t'.result ≠ .ok () ∧ ¬ Missed (t'.outcome v) := by
      rw [← Bool.not_eq_true, hknown, not_or, Bool.not_eq_true]
      simp only [not_exists, not_and, not_or]
    rw [hcourse.shows_iff, hcourse.concludes.notInstalled_iff]
    exact (and_congr_left' hhidden).trans
      ⟨fun h => ⟨h.1.1, h.2, h.1.2⟩, fun h => ⟨⟨h.1, h.2.2⟩, h.2.1⟩⟩

end

/-! ### Checks that miss the tool -/

namespace Checking

/-- A project where every program fails. -/
def failing : World :=
  { Placement.asked [(["p"], .dir)] "" with
    runner :=
      .script ⟨[("", .outcome ⟨some 1, ⟨#[]⟩, "No module named virtualenv".toUTF8⟩)], [], []⟩ }

theorem missed_failing (log : List (Ran World)) (r : Except Error Unit) :
    Missed ((⟨failing, log, r⟩ : Trial).outcome ⟨⟨"/p"⟩, .unix, .initial⟩) := by
  have hcode : ((Work.launch (versionInvocation (interpreter failing ⟨"/p"⟩))).run
      failing).1.1.toOption.bind Outcome.code = some 1 := by
    decide +kernel
  intro o heq hsuccess
  unfold Trial.outcome Trial.invocation at heq
  dsimp only at heq
  rw [heq] at hcode
  exact absurd (hsuccess.symm.trans hcode) (by decide)

/-- The first check is told to a person, and the next is not. -/
theorem missing_tool_told_once_failing :
    view? 0 failing = some ⟨⟨"/p"⟩, .unix, .initial⟩ ∧
    ∃ t t' w', Trials 0 failing [t, t'] w' ∧ t.Shows notInstalledMessage ∧
      ¬ t'.Shows notInstalledMessage := by
  have hview : view? 0 failing = some ⟨⟨"/p"⟩, .unix, .initial⟩ := rfl
  rcases Task.exists_result?_poll (checkTool 0).run failing with ⟨r, hr⟩
  rcases Requirements.plays_alone hr (Leaves 0) with ⟨log, hplays⟩
  rcases Task.exists_plays (Leaves 0) (checkTool 0).run (alone (checkTool 0).run failing).2 with
    ⟨log', r', w', hplays'⟩
  have htrials := Trials.more rfl hplays (.more rfl hplays' (.none rfl))
  rcases missing_tool_told_once hview htrials with ⟨-, hshows, -, -⟩
  refine ⟨hview, _, _, w', htrials, (hshows [] _ _ rfl).2 ⟨rfl, missed_failing log r, by simp⟩,
    fun h => ?_⟩
  exact (((hshows [_] _ _ rfl).1 h).2.2 _ List.mem_cons_self).2 (missed_failing log r)

end Checking

end Environment
end Testbench
