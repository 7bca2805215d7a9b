import Testbench.Proofs.Environment.Taking

/-!
# Requirements — what a check says, and what is offered after it

Whether the requirements of a project are met is what a script prints, and the file that lists them
decides whether the script is run at all. How the run ends otherwise does not matter. The offer to
install them is made once after a check that says no, and the answer alone decides about the line.

- `Launches`, `Reports` : a run of the script, and a report that the requirements are met;
- `Checks`              : the steps of a check;
- `Answers`             : the steps after it;
- `Apart`               : steps that have nothing to do with the requirements;
- `requirements_follow_report` : what a check says, and what seeing to an environment makes of it;
- `satisfied_by_failure` : a run that fails and says yes.
-/

namespace Testbench
namespace Environment

open Sharing (Starts)
open Testbench.Task (Plays Ran)

/-! ## Runs of the script -/

/-- A program was started, and this is what it comes to. -/
inductive Launches (i : Invocation) (outcome : Except Error Outcome) : Ran World → Prop where
  | intro (w : World) : ((Work.launch i).run w).1.1 = outcome →
      Launches i outcome ⟨w, _, (Work.launch i).run⟩

theorem Launches.starts {i : Invocation} {outcome : Except Error Outcome} {x : Ran World}
    (h : Launches i outcome x) : Starts x := by
  cases h with
  | intro w => exact ⟨i, rfl⟩

theorem Launches.unique {i : Invocation} {outcome outcome' : Except Error Outcome} {x : Ran World}
    (h : Launches i outcome x) (h' : Launches i outcome' x) : outcome = outcome' := by
  cases h with
  | intro w hw =>
      cases h' with
      | intro _ hw' => exact hw.symm.trans hw'

/-- A run of the script printed that the requirements are met. -/
def Reports (o : Outcome) : Prop :=
  ∃ report, Report.ofText? (Text.trim o.stdoutText) = some report ∧ report.result = true

theorem statusOf_eq_satisfied {outcome : Except Error Outcome} :
    statusOf outcome = .satisfied ↔ ∃ o, outcome = .ok o ∧ Reports o := by
  unfold statusOf
  cases outcome with
  | error cause => simp
  | ok o =>
      cases hreport : Report.ofText? (Text.trim o.stdoutText) with
      | none => simp [Reports, hreport]
      | some report => cases hresult : report.result <;> simp [Reports, hreport, hresult]

theorem statusOf_ne_unknown (outcome : Except Error Outcome) : statusOf outcome ≠ .unknown := by
  unfold statusOf
  split
  · simp
  · split
    · split <;> simp
    · simp

/-! ## A check -/

/-- What a check says is noted. -/
def record (id : ProjectId) (status : RequirementsStatus) : Act Unit :=
  update id fun s => { s with requirements := some status }

/-- The steps of a check. The script is run if there is a file that lists the requirements. -/
inductive Checks (id : ProjectId) (v : View) (w : World) :
    RequirementsStatus → List (Ran World) → Prop where
  | absent {w' : World} : w.files.isFile (requirementsFile v.root) = false →
      Checks id v w .unknown [⟨w, World, Act.world.run⟩, ⟨w', Unit, (record id .unknown).run⟩]
  | ran {x : Ran World} {outcome : Except Error Outcome} {w₁ w' : World} :
      w.files.isFile (requirementsFile v.root) = true →
      Launches (requirementsInvocation w v.root) outcome x →
        Checks id v w (statusOf outcome)
          [⟨w, World, Act.world.run⟩, x, waited w₁, ⟨w', Unit, (record id (statusOf outcome)).run⟩]

section

variable {id : ProjectId} {v : View} {w w' : World} {log : List (Ran World)}
  {status : RequirementsStatus} {others : World → World → Prop} {α : Type}

theorem quiet_queryRequirements : (queryRequirements id).All (Quiet id) := by
  refine all_act (quiet_mute mute_world) fun w => ?_
  dsimp only [Task.bind]
  split
  · trivial
  · refine Task.All.bind (all_act (quiet_mute (mute_launch _)) fun started => ?_) fun _ => trivial
    exact (quiet_pause (.until started.2)).bind fun _ => trivial

theorem plays_checkRequirements (hview : view? id w = some v)
    (h : Plays (Abides id) (checkRequirements id) w log status w') :
    Checks id v w status log ∧
      ∃ s, view? id w' = some { v with state := s } ∧ s.requirements = some status := by
  unfold checkRequirements at h
  rcases Plays.bind h with ⟨queried, answer, w₁, rest, rfl, hquery, hrest⟩
  rcases Plays.quiet hquery quiet_queryRequirements hview with ⟨-, s, hview₁⟩
  rcases Plays.of_act hrest with ⟨last, rfl, hdone⟩
  rcases Plays.of_done hdone with ⟨rfl, rfl, rfl⟩
  refine ⟨?_, _, view?_updateEnv_some hview₁ _, rfl⟩
  unfold queryRequirements at hquery
  rcases Plays.of_act hquery with ⟨run, rfl, hrun⟩
  -- Without the file nothing is run. With it, the status is that of the run which ends last.
  replace hrun : Plays (Abides id)
      (if !w.files.isFile (requirementsFile (w.root id)) then pure .unknown
        else do
          let outcome ← Work.run (requirementsInvocation w (w.root id))
          pure (statusOf outcome)) w run status w₁ := hrun
  rw [root_eq hview] at hrun
  cases hfile : w.files.isFile (requirementsFile v.root) with
  | false =>
      rw [hfile, Bool.not_false, if_pos rfl] at hrun
      rcases Plays.of_done hrun with ⟨rfl, rfl, rfl⟩
      exact .absent hfile
  | true =>
      rw [hfile, Bool.not_true, if_neg Bool.false_ne_true] at hrun
      rcases Plays.bind hrun with ⟨launched, outcome, w₂, answered, rfl, hlaunch, hanswer⟩
      rcases Plays.of_done hanswer with ⟨rfl, rfl, rfl⟩
      rcases Plays.of_act hlaunch with ⟨waits, rfl, hwaits⟩
      rcases Plays.of_await hwaits with ⟨w₃, ended, -, rfl, hended⟩
      rcases Plays.of_done hended with ⟨rfl, rfl, rfl⟩
      exact .ran hfile (.intro w rfl)

namespace Checks

theorem unknown_iff (h : Checks id v w status log) :
    status = .unknown ↔ w.files.isFile (requirementsFile v.root) = false := by
  cases h with
  | absent hfile => exact iff_of_true rfl hfile
  | ran hfile _ => exact iff_of_false (statusOf_ne_unknown _) (by simp [hfile])

/-- Where there is nothing to check, nothing is run. -/
theorem not_starts (h : Checks id v w .unknown log) : ∀ x ∈ log, ¬Starts x := by
  generalize hunknown : RequirementsStatus.unknown = status at h
  cases h with
  | absent _ =>
      exact List.forall_mem_cons.2 ⟨Sharing.not_starts fun _ => rfl,
        List.forall_mem_singleton.2 (Sharing.not_starts fun _ => rfl)⟩
  | ran _ _ => exact absurd hunknown.symm (statusOf_ne_unknown _)

theorem exists_launches (h : Checks id v w status log) (hknown : status ≠ .unknown) :
    ∃ x ∈ log, ∃ outcome, Launches (requirementsInvocation w v.root) outcome x ∧
      status = statusOf outcome := by
  cases h with
  | absent _ => exact absurd rfl hknown
  | @ran x outcome _ _ _ hlaunches => exact ⟨x, by simp, outcome, hlaunches, rfl⟩

/-- The run of the script decides. -/
theorem eq_statusOf (h : Checks id v w status log) {x : Ran World} {outcome : Except Error Outcome}
    (hx : x ∈ log) (hlaunches : Launches (requirementsInvocation w v.root) outcome x) :
    status = statusOf outcome := by
  have hstarts := hlaunches.starts
  -- No other step of a check starts a program.
  cases h with
  | absent hfile => exact absurd hstarts (not_starts (.absent hfile) x hx)
  | @ran y outcome' w₁ w' _ hran =>
      rcases List.mem_cons.1 hx with rfl | hx
      · exact absurd hstarts (Sharing.not_starts fun _ => rfl)
      rcases List.mem_cons.1 hx with rfl | hx
      · rw [hran.unique hlaunches]
      rcases List.mem_cons.1 hx with rfl | hx
      · exact absurd hstarts (Sharing.not_starts fun _ => rfl)
      · rw [List.mem_singleton.1 hx] at hstarts
        exact absurd hstarts (Sharing.not_starts fun _ => rfl)

theorem satisfied_iff (h : Checks id v w status log) :
    status = .satisfied ↔
      ∃ x ∈ log, ∃ o, Launches (requirementsInvocation w v.root) (.ok o) x ∧ Reports o := by
  constructor
  · rintro rfl
    rcases h.exists_launches (by simp) with ⟨x, hx, outcome, hlaunches, hstatus⟩
    rcases statusOf_eq_satisfied.1 hstatus.symm with ⟨o, rfl, hreports⟩
    exact ⟨x, hx, o, hlaunches, hreports⟩
  · rintro ⟨x, hx, o, hlaunches, hreports⟩
    rw [h.eq_statusOf hx hlaunches]
    exact statusOf_eq_satisfied.2 ⟨o, rfl, hreports⟩

end Checks

/-! ## What follows a check -/

/-- The steps after a check. Only after a no is there an offer to install, and only a yes sends the
line. -/
inductive Answers (v : View) : RequirementsStatus → List (Ran World) → Prop where
  | settled {status : RequirementsStatus} : status ≠ .unsatisfied → Answers v status []
  | refused {answer : Host.Answer} {x : Ran World} {w : World} {rest : List (Ran World)} :
      Asks installMessage answer x → answer ≠ .yes → (∀ y ∈ rest, Sends v y []) →
        (∀ y ∈ rest, y.prompts = []) → Answers v .unsatisfied (x :: waited w :: rest)
  | agreed {x y : Ran World} {w : World} : Asks installMessage .yes x →
      Sends v y (installed y.before v.root) → y.prompts = [] →
        Answers v .unsatisfied [x, waited w, y]

theorem quiet_prompt (message : String) (choices : Host.Choices) :
    (Work.prompt message choices).All (Quiet id) :=
  all_act (quiet_mute (mute_prompt message choices)) fun _ =>
    (quiet_pause .dialog).bind fun _ => trivial

namespace Answers

variable {back : List (Ran World)}

theorem unsatisfied_iff (h : Answers v status back) :
    status = .unsatisfied ↔ ∃ x ∈ back, installMessage ∈ x.prompts := by
  cases h with
  | settled hstatus => exact iff_of_false hstatus (by simp)
  | @refused _ x _ _ hasks _ _ _ =>
      exact iff_of_true rfl ⟨x, List.mem_cons_self, hasks.prompts ▸ List.mem_singleton_self _⟩
  | @agreed x _ _ hasks _ _ =>
      exact iff_of_true rfl ⟨x, List.mem_cons_self, hasks.prompts ▸ List.mem_singleton_self _⟩

/-- After a yes exactly the line that installs the requirements is sent, if they are still there. -/
theorem sent_of_yes (h : Answers v status back) (hyes : ∃ x ∈ back, Asks installMessage .yes x) :
    ∃ y ∈ back, Sent v back (installed y.before v.root) := by
  rcases hyes with ⟨x, hx, hyes⟩
  cases h with
  | settled _ => exact absurd hx List.not_mem_nil
  | refused hasks hno _ hsilent =>
      exfalso
      rcases List.mem_cons.1 hx with rfl | hx
      · exact hno (hasks.answer_eq hyes)
      rcases List.mem_cons.1 hx with rfl | hx
      · exact nomatch hyes.prompts
      · exact nomatch (hsilent x hx).symm.trans hyes.prompts
  | @agreed x' y w hasks hsends hsilent =>
      have hidle : ∀ z ∈ [x', waited w], Sends v z [] :=
        List.forall_mem_cons.2
          ⟨(hasks.idle v).sends, List.forall_mem_singleton.2 (idle_waited v w).sends⟩
      exact ⟨y, by simp, .of_last hidle hsends⟩

/-- Without one nothing is. -/
theorem sent_of_not_yes (h : Answers v status back)
    (hno : ∀ x ∈ back, ¬Asks installMessage .yes x) :
    Sent v back [] := by
  cases h with
  | settled _ => exact .of_quiet (by simp)
  | @refused _ x w _ hasks _ hquiet _ =>
      refine .of_quiet (List.forall_mem_cons.2 ⟨(hasks.idle v).sends, ?_⟩)
      exact List.forall_mem_cons.2 ⟨(idle_waited v w).sends, hquiet⟩
  | agreed hasks _ _ => exact absurd hasks (hno _ List.mem_cons_self)

end Answers

theorem plays_ensureRequirements (hview : view? id w = some v)
    (h : Plays (Abides id) (ensureRequirements id) w log () w') :
    ∃ check back status w₁, log = check ++ back ∧
      Plays (Abides id) (checkRequirements id) w check status w₁ ∧ Answers v status back := by
  unfold ensureRequirements at h
  rcases Plays.bind h with ⟨check, status, w₁, back, rfl, hcheck, hback⟩
  refine ⟨check, back, status, w₁, rfl, hcheck, ?_⟩
  rcases (plays_checkRequirements hview hcheck).2 with ⟨s, hview₁, -⟩
  -- What the check says decides whether there is anything more.
  cases status with
  | satisfied =>
      rcases Plays.of_done hback with ⟨rfl, -, -⟩
      exact .settled (by simp)
  | unknown =>
      rcases Plays.of_done hback with ⟨rfl, -, -⟩
      exact .settled (by simp)
  | unsatisfied =>
      rcases Plays.bind hback with ⟨asked, answer, w₂, rest, rfl, hasked, hrest⟩
      rcases Plays.quiet hasked (quiet_prompt _ _) hview₁ with ⟨-, s', hview₂⟩
      rcases Plays.of_act hasked with ⟨waits, rfl, hwaits⟩
      rcases Plays.of_await hwaits with ⟨w₃, ended, -, rfl, hended⟩
      rcases Plays.of_done hended with ⟨rfl, hanswer, rfl⟩
      have hasks : Asks installMessage answer
          ⟨w₁, _, (Act.ask (Host.prompt installMessage .yesNoSuppress)).run⟩ :=
        .intro w₁ .yesNoSuppress hanswer.symm
      cases answer with
      | yes =>
          rcases Plays.of_act hrest with ⟨last, rfl, hdone⟩
          rcases Plays.of_done hdone with ⟨rfl, -, -⟩
          have hinstall := (does_install hview₂).of_state
          exact .agreed hasks hinstall.sends ((plain_install id).prompts_eq_nil _)
      | suppress =>
          rcases Plays.of_act hrest with ⟨last, rfl, hdone⟩
          rcases Plays.of_done hdone with ⟨rfl, -, -⟩
          have hquiet : Sends v ⟨w₂, Unit, suppress.run⟩ [] := (idle_suppress v w₂).sends
          have hsilent : (⟨w₂, Unit, suppress.run⟩ : Ran World).prompts = [] := rfl
          exact .refused hasks (by simp) (List.forall_mem_singleton.2 hquiet)
            (List.forall_mem_singleton.2 hsilent)
      | no =>
          rcases Plays.of_done hrest with ⟨rfl, -, -⟩
          exact .refused hasks (by simp) (by simp) (by simp)
      | dismissed =>
          rcases Plays.of_done hrest with ⟨rfl, -, -⟩
          exact .refused hasks (by simp) (by simp) (by simp)

/-! ## Until a check -/

/-- A line that installs the requirements. -/
def Line.Installs : Line → Prop
  | .install .. => True
  | _ => False

/-- A step has nothing to do with the requirements: it neither offers to install them nor does. -/
structure Apart (v : View) (x : Ran World) : Prop where
  unasked : installMessage ∉ x.prompts
  sends : ∃ lines, Sends v x lines ∧ ∀ l ∈ lines, ¬l.Installs

theorem all_unasked {t : Work α} (h : t.OffersAtMost 0) :
    t.All fun x => installMessage ∉ x.prompts := by
  induction t with
  | done a => trivial
  | act f next ih =>
      intro w
      rcases h w with ⟨-, k, hprompts, hk, hnext⟩
      obtain rfl : k = 0 := Nat.le_zero.1 hk
      have hnone : installMessage ∉ (⟨w, _, f⟩ : Ran World).prompts := by
        rw [hprompts]
        exact List.not_mem_nil
      exact ⟨hnone, ih _ hnext⟩
  | await wait next ih => exact ⟨fun _ => List.not_mem_nil, ih h⟩
  | both l r limit next _ _ _ => exact h.elim
  | guarded body release next _ _ => exact h.elim

/-- The offer to switch is another one. -/
theorem switchMessage_ne (root : Path) (names : List String) :
    installMessage ≠ switchMessage root names := by
  intro h
  have hfirst := congrArg (fun s => s.toList.head?) h
  unfold switchMessage at hfirst
  split at hfirst <;> simp [installMessage] at hfirst

theorem unasked_switch : (switch id).run.All fun x => installMessage ∉ x.prompts := by
  refine all_first (fun w => ?_) fun w => all_bind (all_liftM ?_) fun answer => ?_
  · rw [Act.IsPlain.world.prompts_eq_nil w]
    exact List.not_mem_nil
  · refine all_act (fun w' => ?_) fun _ => ⟨fun _ => List.not_mem_nil, trivial⟩
    exact fun hmem => switchMessage_ne _ _ (List.mem_singleton.1 hmem)
  · exact all_unasked (offers_choice id _ answer)

theorem Ends.sends {offered : List (Ran World) → Path → Prop} {s s' : State} {r : Except Error Bool}
    (h : Ends v offered s r log s') :
    ∀ x ∈ log, ∃ lines, Sends v x lines ∧ ∀ l ∈ lines, ¬l.Installs := by
  have hidle : ∀ {x}, Idle v x → ∃ lines, Sends v x lines ∧ ∀ l ∈ lines, ¬l.Installs :=
    fun hx => ⟨[], hx.sends, by simp⟩
  cases h with
  | kept hall _ _ _ => exact fun x hx => hidle (hall x hx)
  | @takes front y env s' hall _ _ htaken =>
      refine List.forall_mem_append.2
        ⟨fun x hx => hidle (hall x hx), List.forall_mem_singleton.2 ?_⟩
      cases htaken with
      | adopted _ hsends => exact ⟨_, hsends, by simp [Line.Installs]⟩
      | made _ hsends => exact ⟨_, hsends, by simp [Line.Installs]⟩
      | refused _ hsends => exact ⟨_, hsends, by simp⟩
      | inVain _ hsends _ _ => exact ⟨_, hsends, by simp [Line.Installs]⟩

theorem Idle.apart {m : Act α} (h : Idle v ⟨w, α, m.run⟩) (hm : m.IsPlain) :
    Apart v ⟨w, α, m.run⟩ :=
  ⟨by rw [hm.prompts_eq_nil w]; exact List.not_mem_nil, [], h.sends, by simp⟩

theorem Apart.of_state {s : State} {x : Ran World} (h : Apart { v with state := s } x) :
    Apart v x :=
  ⟨h.unasked, h.sends⟩

theorem apart_update (f : State → State) (w : World) : Apart v ⟨w, Unit, (update id f).run⟩ :=
  (idle_update f v w).apart (plain_update id f)

/-- A check only looks. -/
theorem Checks.apart (h : Checks id v w status log) : ∀ x ∈ log, Apart v x := by
  have hlook : Apart v ⟨w, World, Act.world.run⟩ := (idle_world v w).apart .world
  cases h with
  | absent _ => exact List.forall_mem_cons.2 ⟨hlook, List.forall_mem_singleton.2 (apart_update _ _)⟩
  | @ran x _ w₁ _ _ hlaunches =>
      have hran : Apart v x := by
        cases hlaunches with
        | intro w₂ => exact (idle_launch _ v w₂).apart (.launch _)
      have hwaited : Apart v (waited w₁) := (idle_waited v w₁).apart (.pure ())
      exact List.forall_mem_cons.2 ⟨hlook, List.forall_mem_cons.2 ⟨hran, List.forall_mem_cons.2
        ⟨hwaited, List.forall_mem_singleton.2 (apart_update _ _)⟩⟩⟩

/-- Whatever comes of it, switching has nothing to do with the requirements. -/
theorem apart_switch {r : Except Error Bool} (hview : view? id w = some v)
    (h : Plays (Leaves id) (switch id).run w log r w') :
    (∀ x ∈ log, Apart v x) ∧ ∃ s, view? id w' = some { v with state := s } := by
  have hends : Comes id v (switch id).run (fun r log' s' => Ends v (Offered v) v.state r log' s')
      [] v.state := (comes_switch_ends (by simp)).mono fun _ _ _ hend => hend.1
  rcases hends.of_completes (.of_plays h) hview with ⟨s, hview', hend⟩
  have hunasked : ∀ x ∈ log, installMessage ∉ x.prompts := h.all unasked_switch
  exact ⟨fun x hx => ⟨hunasked x hx, hend.sends x hx⟩, s, hview'⟩

/-- Work that is the last part of an attempt. -/
theorem plays_liftM {work : Work α} {r : Except Error α}
    (h : Plays others (liftM work : Attempt α).run w log r w') :
    ∃ a, r = .ok a ∧ Plays others work w log a w' := by
  rcases Plays.bind (t := work) h with ⟨played, a, w₁, rest, rfl, hwork, hrest⟩
  rcases Plays.of_done hrest with ⟨rfl, rfl, rfl⟩
  exact ⟨a, rfl, by rwa [List.append_nil]⟩

/-- An operation comes to the requirements, after steps that have nothing to do with them. -/
def Reaches (id : ProjectId) (v : View) (log : List (Ran World))
    (r : Except Error Unit) (w' : World) :
    Prop :=
  ∃ front rest w₁ s, log = front ++ rest ∧ r = .ok () ∧ (∀ x ∈ front, Apart v x) ∧
    view? id w₁ = some { v with state := s } ∧
      Plays (Leaves id) (ensureRequirements id) w₁ rest () w'

theorem reaches_of_update {front rest : List (Ran World)} {f : State → State}
    {w₁ : World} {s : State}
    {r : Except Error Unit} (hfront : ∀ x ∈ front, Apart v x)
    (hview : view? id w₁ = some { v with state := s })
    (h : Plays (Leaves id) (do
      liftM (update id f)
      liftM (ensureRequirements id) : Attempt Unit).run w₁ rest r w') :
    Reaches id v (front ++ rest) r w' := by
  rcases Attempt.plays_first h with ⟨rest, rfl, hensured⟩
  rcases plays_liftM hensured with ⟨⟨⟩, hr, hrequirements⟩
  refine ⟨front ++ [⟨w₁, Unit, (update id f).run⟩], rest, _, _, List.append_cons _ _ _, hr, ?_,
    view?_updateEnv_some hview f, hrequirements⟩
  exact List.forall_mem_append.2 ⟨hfront, List.forall_mem_singleton.2 (apart_update f w₁)⟩

theorem plays_ensure {r : Except Error Unit} (hview : view? id w = some v)
    (h : Plays (Leaves id) (ensure id).run w log r w') :
    (∀ x ∈ log, Apart v x) ∨ Reaches id v log r w' := by
  unfold ensure at h
  rcases Attempt.plays_look h with ⟨rest, rfl, hrest⟩
  have hlook : Apart v ⟨w, World, Act.world.run⟩ := (idle_world v w).apart .world
  split at hrest
  · rcases Plays.of_done hrest with ⟨rfl, -, -⟩
    exact .inl (List.forall_mem_singleton.2 hlook)
  · split at hrest
    · exact .inr (reaches_of_update (List.forall_mem_singleton.2 hlook) hview hrest)
    · rcases Attempt.plays_bind hrest with ⟨first, second, o, w₁, rfl, hswitch, hsecond⟩
      rcases apart_switch hview hswitch with ⟨hfirst, s, hview₁⟩
      have hfront : ∀ x ∈ ⟨w, World, Act.world.run⟩ :: first, Apart v x :=
        List.forall_mem_cons.2 ⟨hlook, hfirst⟩
      -- A switch that fails is the end of it. One that has switched goes on to the requirements.
      cases o with
      | error cause =>
          rcases hsecond with ⟨rfl, -, -⟩
          exact .inl (by rwa [List.append_nil])
      | ok switched =>
          cases switched with
          | true => exact .inr (reaches_of_update hfront hview₁ hsecond)
          | false =>
              rcases Plays.of_act hsecond with ⟨rest, rfl, hdone⟩
              rcases Plays.of_done hdone with ⟨rfl, -, -⟩
              exact .inl
                (List.forall_mem_append.2 ⟨hfront, List.forall_mem_singleton.2 (apart_update _ w₁)⟩)

/-! ## What a check says -/

/-- Whatever programs print and others do meanwhile: a check says that nothing is known exactly if
there is no file that lists the requirements, and then it runs nothing. Else it runs the script, and
says that they are met exactly if that run printed so: how it ended does not matter. What it says is
noted. While others leave what is known of the project, seeing to an environment has nothing to do
with the requirements, or it ends with a check: then it offers to install them exactly if the check
says that they are not met, and after a yes exactly the line that installs them is sent, if they are
still there. -/
theorem requirements_follow_report (hview : view? id w = some v) :
    (∀ log status w', Plays (Abides id) (checkRequirements id) w log status w' →
      (status = .unknown ↔ w.files.isFile (requirementsFile v.root) = false) ∧
      (status = .unknown → ∀ x ∈ log, ¬Starts x) ∧
      (status ≠ .unknown → ∃ x ∈ log, ∃ outcome,
        Launches (requirementsInvocation w v.root) outcome x ∧ status = statusOf outcome) ∧
      (status = .satisfied ↔
        ∃ x ∈ log, ∃ o, Launches (requirementsInvocation w v.root) (.ok o) x ∧ Reports o) ∧
      ∃ s, view? id w' = some { v with state := s } ∧ s.requirements = some status) ∧
    ∀ log r w', Plays (Leaves id) (ensure id).run w log r w' →
      (∀ x ∈ log, Apart v x) ∨
      ∃ front check back status w₁ w₂ s, log = front ++ (check ++ back) ∧ r = .ok () ∧
        (∀ x ∈ front ++ check, Apart v x) ∧ view? id w₁ = some { v with state := s } ∧
        Plays (Abides id) (checkRequirements id) w₁ check status w₂ ∧
        (status = .unsatisfied ↔ ∃ x ∈ back, installMessage ∈ x.prompts) ∧
        ((∃ x ∈ back, Asks installMessage .yes x) →
          ∃ y ∈ back, Sent v back (installed y.before v.root)) ∧
        ((∀ x ∈ back, ¬Asks installMessage .yes x) → Sent v back []) := by
  refine ⟨fun log status w' h => ?_, fun log r w' h => ?_⟩
  · rcases plays_checkRequirements hview h with ⟨hchecks, hnoted⟩
    exact ⟨hchecks.unknown_iff, fun hunknown => Checks.not_starts (hunknown ▸ hchecks),
      hchecks.exists_launches, hchecks.satisfied_iff, hnoted⟩
  · refine (plays_ensure hview h).imp_right ?_
    rintro ⟨front, rest, w₁, s, rfl, hr, hfront, hview₁, hrest⟩
    rcases plays_ensureRequirements hview₁ (hrest.mono fun _ _ => Leaves.abides) with
      ⟨check, back, status, w₂, rfl, hcheck, hanswers⟩
    have hchecks := (plays_checkRequirements hview₁ hcheck).1
    have hapart : ∀ x ∈ check, Apart v x := fun x hx => (hchecks.apart x hx).of_state
    exact ⟨front, check, back, status, w₁, w₂, s, rfl, hr,
      List.forall_mem_append.2 ⟨hfront, hapart⟩, hview₁, hcheck, hanswers.unsatisfied_iff,
      hanswers.sent_of_yes, hanswers.sent_of_not_yes⟩

end

/-! ### Runs of the script that say yes -/

namespace Requirements

/-- A project with a list of requirements, where every program prints that they are met. -/
def agreeing (code : Int) : World :=
  { Placement.asked
      [(["p"], .dir), (["p", "requirements.txt"], .file ⟨⟨#[]⟩, false, false, 0⟩)] "" with
    runner := .script
      ⟨[("", .outcome ⟨some code, "\x7b\"result\": true\x7d".toUTF8, ⟨#[]⟩⟩)], [], []⟩ }

theorem plays_alone {α : Type} {t : Work α} {w : World} {a : α} (h : (alone t w).1.result? = some a)
    (others : World → World → Prop) : ∃ log, Plays others t w log a (alone t w).2 :=
  Plays.last (fun _ _ => true) h

/-- A run that succeeds. -/
theorem requirements_follow_report_met :
    view? 0 (agreeing 0) = some ⟨⟨"/p"⟩, .unix, .initial⟩ ∧
    ∃ log, Plays (Abides 0) (checkRequirements 0) (agreeing 0) log .satisfied
        (alone (checkRequirements 0) (agreeing 0)).2 ∧
      ∃ x ∈ log, ∃ o, Launches (requirementsInvocation (agreeing 0) ⟨"/p"⟩) (.ok o) x ∧
        Reports o := by
  have hview : view? 0 (agreeing 0) = some ⟨⟨"/p"⟩, .unix, .initial⟩ := rfl
  have hsays : (alone (checkRequirements 0) (agreeing 0)).1.result? = some .satisfied := by
    decide +kernel
  rcases plays_alone hsays (Abides 0) with ⟨log, hplays⟩
  rcases (requirements_follow_report hview).1 _ _ _ hplays with ⟨-, -, -, hsatisfied, -⟩
  exact ⟨hview, log, hplays, hsatisfied.1 rfl⟩

/-- A run that fails. -/
theorem satisfied_by_failure :
    (∃ log, Plays (Abides 0) (checkRequirements 0) (agreeing 1) log .satisfied
      (alone (checkRequirements 0) (agreeing 1)).2) ∧
    ∃ o, ((Work.launch (requirementsInvocation (agreeing 1) ⟨"/p"⟩)).run (agreeing 1)).1.1 = .ok o ∧
      o.success = false := by
  have hsays : (alone (checkRequirements 0) (agreeing 1)).1.result? = some .satisfied := by
    decide +kernel
  exact ⟨plays_alone hsays (Abides 0), _, rfl, rfl⟩

end Requirements

end Environment
end Testbench
