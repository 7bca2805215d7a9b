import Testbench.Project
import Testbench.Proofs.Task

/-!
# Prompts — which questions the work on an environment can come to

Whether questions are suppressed is looked at once, when the work begins. Up to its first waiting
point nobody else comes between, so what was seen still holds; from then on it may not. What can be
asked from then on is bounded, whatever the others do.

- `Task.Ran.prompts`     : the prompts that a change shows;
- `Act.IsPlain`          : an act that shows none and leaves the suppression alone;
- `Task.OffersAtMost`    : from here on so many offers to install, and no other prompt;
- `Task.OpensTurn`       : the same from the first waiting point on, and no suppression before;
- `Task.SkipsTurn`       : no prompt and no waiting point, if questions are suppressed;
- `Environment.opens_ensure`, `Environment.skips_ensure` : seeing to an environment;
- `Project.opens_setUp`, `Project.skips_setUp` : setting a project up.
-/

namespace Testbench

/-! ## What is shown -/

/-- The prompts that a recorder has noted. -/
def Host.asked : Host → List String
  | .recorder r => r.events.filterMap fun e =>
    match e with
    | .prompt message => some message
    | _ => none
  | .console _ => []

/-- The prompts that a change shows, which is what a fresh recorder notes of them in its place. -/
def Task.Ran.prompts (x : Task.Ran World) : List String :=
  (x.act { x.before with host := .recorder .fresh }).2.host.asked

/-! ## Plain acts -/

/-- An act shows no prompt and leaves alone whether questions are suppressed. -/
def Act.IsPlain {α : Type} (m : Act α) : Prop :=
  ∀ w : World, (m.run w).2.suppressed = w.suppressed ∧
    ∀ r, w.host = .recorder r → ∃ r', (m.run w).2.host = .recorder r' ∧
      (Host.recorder r').asked = (Host.recorder r).asked

namespace Act
namespace IsPlain

variable {α β : Type}

theorem prompts_eq_nil {m : Act α} (h : m.IsPlain) (w : World) :
    (⟨w, α, m.run⟩ : Task.Ran World).prompts = [] := by
  rcases (h { w with host := .recorder .fresh }).2 .fresh rfl with ⟨r', hhost, hasked⟩
  rw [Task.Ran.prompts, hhost, hasked]
  rfl

theorem pure (a : α) : (Pure.pure a : Act α).IsPlain := fun _ => ⟨rfl, fun r hr => ⟨r, hr, rfl⟩⟩

theorem bind {m : Act α} {f : α → Act β} (hm : m.IsPlain) (hf : ∀ a, (f a).IsPlain) :
    (m >>= f).IsPlain := by
  intro w
  rcases hm w with ⟨hflag, hhost⟩
  rcases hf (m.run w).1 (m.run w).2 with ⟨hflag', hhost'⟩
  refine ⟨hflag'.trans hflag, ?_⟩
  intro r hr
  rcases hhost r hr with ⟨r₁, hr₁, hasked₁⟩
  rcases hhost' r₁ hr₁ with ⟨r₂, hr₂, hasked₂⟩
  exact ⟨r₂, hr₂, hasked₂.trans hasked₁⟩

theorem world : Act.world.IsPlain := fun _ => ⟨rfl, fun r hr => ⟨r, hr, rfl⟩⟩

/-- A change that concerns neither the host nor the suppression. -/
theorem modify {f : World → World} :
    (∀ w, (f w).suppressed = w.suppressed) → (∀ w, (f w).host = w.host) →
      (modify f : Act Unit).IsPlain := by
  intro hflag hhost w
  refine ⟨hflag w, ?_⟩
  intro r hr
  exact ⟨r, (hhost w).trans hr, rfl⟩

theorem onFiles (change : FileTree → α × FileTree) : (Act.onFiles change).IsPlain :=
  fun _ => ⟨rfl, fun r hr => ⟨r, hr, rfl⟩⟩

/-- A message that is no prompt. -/
theorem tell {message : Host → Host} :
    (∀ r, ∃ r', message (.recorder r) = .recorder r' ∧
      (Host.recorder r').asked = (Host.recorder r).asked) → (Act.tell message).IsPlain := by
  intro hmessage w
  refine ⟨rfl, ?_⟩
  intro r hr
  rcases hmessage r with ⟨r', hr', hasked⟩
  refine ⟨r', ?_, hasked⟩
  rw [← hr', ← hr]
  rfl

/-- A question that is no prompt. -/
theorem ask {question : Host → α × Host} :
    (∀ r, ∃ r', (question (.recorder r)).2 = .recorder r' ∧
      (Host.recorder r').asked = (Host.recorder r).asked) → (Act.ask question).IsPlain := by
  intro hquestion w
  refine ⟨rfl, ?_⟩
  intro r hr
  rcases hquestion r with ⟨r', hr', hasked⟩
  refine ⟨r', ?_, hasked⟩
  rw [← hr', ← hr]
  rfl

theorem launch (i : Invocation) : (Work.launch i).IsPlain := by
  intro w
  -- Only the processes and the files are touched.
  rcases w with ⟨files, now, host, runner, setup, cache, suppressed, projects, registry, listing,
    lenses, jobs, nextTicket, flusher⟩
  cases runner with
  | script s => exact ⟨rfl, fun r hr => ⟨r, hr, rfl⟩⟩
  | files => exact ⟨rfl, fun r hr => ⟨r, hr, rfl⟩⟩

end IsPlain
end Act

/-! ## Messages and questions that are no prompts -/

namespace Host

theorem asked_record (r : Recorder) (e : Event) :
    (Host.recorder (r.record e)).asked = (Host.recorder r).asked ++
      match e with
      | .prompt message => [message]
      | _ => [] := by
  cases e <;> simp [asked, Recorder.record]

theorem asked_tell {event : Event} (change : Console → Console) (r : Recorder)
    (h : ∀ message, event ≠ .prompt message) :
    ∃ r', Host.tell event change (.recorder r) = .recorder r' ∧
      (Host.recorder r').asked = (Host.recorder r).asked := by
  refine ⟨r.record event, rfl, ?_⟩
  rw [asked_record]
  cases event with
  | prompt message => exact absurd rfl (h message)
  | _ => simp

/-- A picker is no prompt. -/
theorem asked_pick (message : String) (items : List String) (r : Recorder) :
    ∃ r', (Host.pick message items (.recorder r)).2 = .recorder r' ∧
      (Host.recorder r').asked = (Host.recorder r).asked := by
  refine ⟨(r.record (.pick items)).takePick.2, rfl, ?_⟩
  have hrecord := asked_record r (.pick items)
  rw [List.append_nil] at hrecord
  rw [← hrecord, Recorder.takePick]
  cases (r.record (.pick items)).picks <;> rfl

/-- Nor is an input box, with or without a complaint. -/
theorem asked_input (message default : String) (complaint : String → Option String)
    (r : Recorder) :
    ∃ r', (Host.input message default complaint (.recorder r)).2 = .recorder r' ∧
      (Host.recorder r').asked = (Host.recorder r).asked := by
  have hrecord := asked_record r (.input message)
  rw [List.append_nil] at hrecord
  -- Neither the record of the box nor taking the answer is a question.
  have htaken : (Host.recorder (r.record (.input message)).takeInput.2).asked =
      (Host.recorder r).asked := by
    rw [← hrecord, Recorder.takeInput]
    cases (r.record (.input message)).inputs <;> rfl
  rcases hinput : (r.record (.input message)).takeInput with ⟨answer, r₁⟩
  rw [hinput] at htaken
  simp only [Host.input, hinput]
  cases answer.bind complaint with
  | none => exact ⟨r₁, rfl, htaken⟩
  | some text =>
      refine ⟨r₁.record (.error text), rfl, ?_⟩
      have herror := asked_record r₁ (.error text)
      rw [List.append_nil] at herror
      exact herror.trans htaken

end Host

namespace Environment

theorem plain_showError (message : String) : (Act.tell (Host.showError message)).IsPlain :=
  .tell fun r => Host.asked_tell _ r (by simp)

theorem plain_updateStatus (text : String) : (Act.tell (Host.updateStatus text)).IsPlain :=
  .tell fun r => Host.asked_tell _ r (by simp)

theorem plain_update (id : ProjectId) (f : State → State) : (update id f).IsPlain :=
  .modify (fun _ => rfl) fun _ => rfl

theorem plain_setPhase (id : ProjectId) (phase : Phase) : (setPhase id phase).IsPlain :=
  plain_update id _

theorem plain_state (id : ProjectId) : (state id).IsPlain :=
  Act.IsPlain.world.bind fun _ => .pure _

theorem plain_rootOf (id : ProjectId) : (rootOf id).IsPlain :=
  Act.IsPlain.world.bind fun _ => .pure _

theorem plain_send (id : ProjectId) (line : String) : (send id line).IsPlain :=
  (plain_rootOf id).bind fun _ => .tell fun _ => ⟨_, rfl, rfl⟩

theorem plain_enter (id : ProjectId) (env : Path) : (enter id env).IsPlain := by
  refine (plain_update id _).bind fun _ => ?_
  refine (plain_state id).bind fun s => ?_
  cases s.env with
  | none => exact .pure _
  | some dir => exact Act.IsPlain.world.bind fun _ => plain_send id _

theorem plain_install (id : ProjectId) : (install id).IsPlain := by
  refine Act.IsPlain.world.bind fun w => ?_
  dsimp only
  split
  · exact plain_send id _
  · exact .pure _

theorem plain_nameInterpreter (id : ProjectId) (env : Path) : (nameInterpreter id env).IsPlain :=
  Act.IsPlain.world.bind fun _ => .onFiles _

theorem plain_adopt (id : ProjectId) (name : String) : (adopt id name).IsPlain := by
  refine (plain_rootOf id).bind fun root => ?_
  refine (plain_nameInterpreter id _).bind fun outcome => ?_
  cases outcome with
  | error cause => exact .pure _
  | ok _ => exact (plain_enter id _).bind fun _ => .pure _

theorem plain_makeEnv (id : ProjectId) (folder : String) : (makeEnv id folder).IsPlain := by
  refine Act.IsPlain.world.bind fun w => ?_
  refine (plain_send id _).bind fun _ => ?_
  refine (plain_nameInterpreter id _).bind fun outcome => ?_
  cases outcome with
  | error cause =>
      refine (plain_showError _).bind fun _ => ?_
      exact (plain_update id _).bind fun _ => .pure _
  | ok _ => exact (plain_enter id _).bind fun _ => .pure _

theorem plain_concludeTool (id : ProjectId) (command : String) (outcome : Except Error Outcome) :
    (concludeTool id command outcome).IsPlain := by
  unfold concludeTool
  extract_lets missing
  -- That the tool is missing is told by an error message and not by a prompt.
  have hmissing : ∀ failure, (missing failure).IsPlain := by
    intro failure
    refine (plain_updateStatus _).bind fun _ => ?_
    refine (plain_state id).bind fun s => ?_
    dsimp only
    refine (plain_update id _).bind fun _ => ?_
    split
    · exact (plain_showError _).bind fun _ => .pure _
    · exact .pure _
  cases outcome with
  | error cause => exact hmissing cause.message
  | ok o =>
      dsimp only
      split
      · exact hmissing o.stderrText
      · split
        · refine (plain_update id _).bind fun _ => ?_
          exact (plain_updateStatus _).bind fun _ => .pure _
        · exact (plain_showError _).bind fun _ => .pure _

end Environment

/-! ## Tasks that offer at most so much -/

namespace Task

open Environment (installMessage)

/-- From here on a task shows at most `n` prompts, each the offer to install the requirements, and
never takes back that questions are suppressed, whatever happens between its steps. Tasks that split
are not considered. -/
def OffersAtMost : {α : Type} → Work α → Nat → Prop
  | _, .done _, _ => True
  | _, .act (β := β) f next, n => ∀ w : World,
      (w.suppressed = true → (f w).2.suppressed = true) ∧
        ∃ k, (⟨w, β, f⟩ : Ran World).prompts = List.replicate k installMessage ∧ k ≤ n ∧
          OffersAtMost (next (f w).1) (n - k)
  | _, .await _ next, n => OffersAtMost next n
  | _, .both .., _ => False
  | _, .guarded .., _ => False

/-- A task that goes on while questions are not suppressed leaves it so up to its first waiting
point, and offers at most `n` installations from there on. -/
def OpensTurn : {α : Type} → Work α → Nat → Prop
  | _, .done _, _ => True
  | _, .act f next, n => ∀ w : World, w.suppressed = false →
      (f w).2.suppressed = false ∧ OpensTurn (next (f w).1) n
  | _, .await _ next, n => OffersAtMost next n
  | _, .both .., _ => False
  | _, .guarded .., _ => False

/-- A task that goes on while questions are suppressed shows no prompt and does not wait. -/
def SkipsTurn : {α : Type} → Work α → Prop
  | _, .done _ => True
  | _, .act (β := β) f next => ∀ w : World, w.suppressed = true →
      (f w).2.suppressed = true ∧ (⟨w, β, f⟩ : Ran World).prompts = [] ∧ SkipsTurn (next (f w).1)
  | _, .await .. => False
  | _, .both .. => False
  | _, .guarded .. => False

variable {α β : Type}

namespace OffersAtMost

theorem mono {t : Work α} {n m : Nat} (h : t.OffersAtMost n) (hle : n ≤ m) : t.OffersAtMost m := by
  induction t generalizing n m with
  | done a => trivial
  | act f next ih =>
      intro w
      rcases h w with ⟨hflag, k, hprompts, hk, hnext⟩
      exact ⟨hflag, k, hprompts, Nat.le_trans hk hle, ih _ hnext (Nat.sub_le_sub_right hle k)⟩
  | await w next ih =>
      have hnext : next.OffersAtMost n := h
      exact ih hnext hle
  | both l r limit next _ _ _ => exact h.elim
  | guarded body release next _ _ => exact h.elim

/-- One task after another: the offers add up. -/
theorem bind {t : Work α} {f : α → Work β} {n k : Nat} (h : t.OffersAtMost n)
    (hf : ∀ a, (f a).OffersAtMost k) : (t.bind f).OffersAtMost (n + k) := by
  induction t generalizing n with
  | done a => exact (hf a).mono (Nat.le_add_left k n)
  | act g next ih =>
      intro w
      rcases h w with ⟨hflag, j, hprompts, hj, hnext⟩
      refine ⟨hflag, j, hprompts, Nat.le_trans hj (Nat.le_add_right n k), ?_⟩
      -- What was offered counts against what both may offer.
      have hrest : (n - j) + k = n + k - j := by omega
      rw [← hrest]
      exact ih _ hnext hf
  | await w next ih =>
      have hnext : next.OffersAtMost n := h
      exact ih hnext hf
  | both l r limit next _ _ _ => exact h.elim
  | guarded body release next _ _ => exact h.elim

theorem act {m : Act α} {next : α → Work β} {n : Nat} (hm : m.IsPlain)
    (hnext : ∀ a, (next a).OffersAtMost n) : OffersAtMost (.act m.run next) n := by
  intro w
  refine ⟨fun hflag => (hm w).1.trans hflag, 0, hm.prompts_eq_nil w, Nat.zero_le n, ?_⟩
  exact hnext _

end OffersAtMost

namespace OpensTurn

theorem bind {t : Work α} {f : α → Work β} {n k : Nat} (h : t.OpensTurn n)
    (hf : ∀ a, (f a).OpensTurn (n + k)) (hf' : ∀ a, (f a).OffersAtMost k) :
    (t.bind f).OpensTurn (n + k) := by
  induction t with
  | done a => exact hf a
  | act g next ih =>
      intro w hflag
      rcases h w hflag with ⟨hkept, hnext⟩
      exact ⟨hkept, ih _ hnext hf hf'⟩
  | await w next ih =>
      have hnext : next.OffersAtMost n := h
      exact hnext.bind hf'
  | both l r limit next _ _ _ => exact h.elim
  | guarded body release next _ _ => exact h.elim

theorem act {m : Act α} {next : α → Work β} {n : Nat} (hm : m.IsPlain)
    (hnext : ∀ a, (next a).OpensTurn n) : OpensTurn (.act m.run next) n := by
  intro w hflag
  exact ⟨(hm w).1.trans hflag, hnext _⟩

end OpensTurn

theorem SkipsTurn.act {m : Act α} {next : α → Work β} (hm : m.IsPlain)
    (hnext : ∀ a, (next a).SkipsTurn) : SkipsTurn (.act m.run next) := by
  intro w hflag
  exact ⟨(hm w).1.trans hflag, hm.prompts_eq_nil w, hnext _⟩

/-! ## Steps -/

/-- Whether a task is done or has to wait. -/
def isSuspended (t : Work α) (w : World) : Bool := !t.canRun (fun _ _ => false) w

variable {t t' : Work α} {r : Ran World} {n : Nat}

theorem OffersAtMost.step (h : t.OffersAtMost n) (hstep : Step t r t') :
    (r.before.suppressed = true → r.after.suppressed = true) ∧
      ∃ k, r.prompts = List.replicate k installMessage ∧ k ≤ n ∧ t'.OffersAtMost (n - k) := by
  cases hstep with
  | act f next w => exact h w
  | await w next v => exact ⟨fun hflag => hflag, 0, rfl, Nat.zero_le n, h⟩
  | left _ => exact h.elim
  | right _ => exact h.elim
  | joined a b limit next v => exact h.elim
  | limit l r w next v => exact h.elim
  | inside _ => exact h.elim
  | release a release next v => exact h.elim

theorem OpensTurn.step (h : t.OpensTurn n) (hstep : Step t r t') :
    r.before.suppressed = false →
      r.after.suppressed = false ∧ (t'.OpensTurn n ∨ t'.OffersAtMost n) := by
  intro hflag
  cases hstep with
  | act f next w =>
      rcases h w hflag with ⟨hkept, hnext⟩
      exact ⟨hkept, Or.inl hnext⟩
  | await w next v => exact ⟨hflag, Or.inr h⟩
  | left _ => exact h.elim
  | right _ => exact h.elim
  | joined a b limit next v => exact h.elim
  | limit l r w next v => exact h.elim
  | inside _ => exact h.elim
  | release a release next v => exact h.elim

theorem SkipsTurn.step (h : t.SkipsTurn) (hstep : Step t r t') :
    r.before.suppressed = true → r.after.suppressed = true ∧ r.prompts = [] ∧ t'.SkipsTurn := by
  intro hflag
  cases hstep with
  | act f next w => exact h w hflag
  | await w next v => exact h.elim
  | left _ => exact h.elim
  | right _ => exact h.elim
  | joined a b limit next v => exact h.elim
  | limit l r w next v => exact h.elim
  | inside _ => exact h.elim
  | release a release next v => exact h.elim

/-- A turn that is over leaves what may be offered in later ones. -/
theorem OpensTurn.offers {w : World} (h : t.OpensTurn n) :
    isSuspended t w = true → t.OffersAtMost n := by
  intro hsuspended
  cases t with
  | done a => trivial
  | act f next => simp [isSuspended, canRun] at hsuspended
  | await v next => exact h
  | both l r limit next => exact h.elim
  | guarded body release next => exact h.elim

theorem SkipsTurn.offers {w : World} (h : t.SkipsTurn) :
    isSuspended t w = true → t.OffersAtMost 0 := by
  intro hsuspended
  cases t with
  | done a => trivial
  | act f next => simp [isSuspended, canRun] at hsuspended
  | await v next => exact h.elim
  | both l r limit next => exact h.elim
  | guarded body release next => exact h.elim

end Task

/-! ## Attempts -/

namespace Attempt

variable {α β : Type}

theorem offers_bind {x : Attempt α} {f : α → Attempt β} {n k : Nat} (hx : x.run.OffersAtMost n)
    (hf : ∀ a, (f a).run.OffersAtMost k) : (x >>= f).run.OffersAtMost (n + k) := by
  have hcont : ∀ outcome, Task.OffersAtMost (ExceptT.bindCont f outcome) k := by
    intro outcome
    cases outcome with
    | ok a => exact hf a
    | error cause => trivial
  exact hx.bind hcont

theorem opens_bind {x : Attempt α} {f : α → Attempt β} {n k : Nat} (hx : x.run.OpensTurn n)
    (hf : ∀ a, (f a).run.OpensTurn (n + k)) (hf' : ∀ a, (f a).run.OffersAtMost k) :
    (x >>= f).run.OpensTurn (n + k) := by
  refine Task.OpensTurn.bind hx ?_ ?_
  · intro outcome
    cases outcome with
    | ok a => exact hf a
    | error cause => trivial
  · intro outcome
    cases outcome with
    | ok a => exact hf' a
    | error cause => trivial

/-- What comes after may offer nothing. -/
theorem offers_then {x : Attempt α} {f : α → Attempt β} {n : Nat} (hx : x.run.OffersAtMost n)
    (hf : ∀ a, (f a).run.OffersAtMost 0) : (x >>= f).run.OffersAtMost n :=
  offers_bind hx hf

/-- What is done about a failure is done after it. -/
theorem offers_catch {x : Attempt α} {handle : Error → Attempt α} {n : Nat}
    (hx : x.run.OffersAtMost n) (hhandle : ∀ cause, (handle cause).run.OffersAtMost 0) :
    (tryCatch x handle).run.OffersAtMost n := by
  refine Task.OffersAtMost.bind (k := 0) hx ?_
  intro outcome
  cases outcome with
  | ok a => trivial
  | error cause => exact hhandle cause

theorem offers_ofAct {m : Act (Except Error α)} (hm : m.IsPlain) : (ofAct m).run.OffersAtMost 0 :=
  Task.OffersAtMost.act hm fun _ => trivial

/-- An act that is done first. -/
theorem offers_act {m : Act α} {f : α → Attempt β} {n : Nat} (hm : m.IsPlain)
    (hf : ∀ a, (f a).run.OffersAtMost n) : ((liftM m : Attempt α) >>= f).run.OffersAtMost n :=
  Task.OffersAtMost.act hm hf

theorem opens_act {m : Act α} {f : α → Attempt β} {n : Nat} (hm : m.IsPlain)
    (hf : ∀ a, (f a).run.OpensTurn n) : ((liftM m : Attempt α) >>= f).run.OpensTurn n :=
  Task.OpensTurn.act hm hf

/-- A look at the world. -/
theorem skips_world {f : World → Attempt β} :
    (∀ w : World, w.suppressed = true → (f w).run.SkipsTurn) →
      ((liftM Act.world : Attempt World) >>= f).run.SkipsTurn := by
  intro hf w hflag
  exact ⟨hflag, Act.IsPlain.world.prompts_eq_nil w, hf w hflag⟩

theorem world_step (f : World → Attempt β) (w : World) :
    Task.Step ((liftM Act.world : Attempt World) >>= f).run ⟨w, World, Act.world.run⟩ (f w).run :=
  .act Act.world.run (fun w => (f w).run) w

theorem step_world {f : World → Attempt β} {x : Task.Ran World} {t : Work (Except Error β)} :
    Task.Step ((liftM Act.world : Attempt World) >>= f).run x t →
      x.after = x.before ∧ t = (f x.before).run := by
  intro h
  have hact : Task.Step (.act Act.world.run fun w => (f w).run) x t := h
  cases hact with
  | act _ _ w => exact ⟨rfl, rfl⟩

theorem offers_ofWork {work : Work α} {n : Nat} (h : work.OffersAtMost n) :
    (ofWork work).run.OffersAtMost n := by
  have hdone : ∀ a : α, Task.OffersAtMost (.done (Except.ok a) : Work (Except Error α)) 0 :=
    fun _ => trivial
  exact h.bind hdone

theorem offers_liftM {work : Work α} {n : Nat} (h : work.OffersAtMost n) :
    (liftM work : Attempt α).run.OffersAtMost n :=
  offers_ofWork h

theorem opens_liftM {work : Work α} {n : Nat} (h : work.OpensTurn n) :
    (liftM work : Attempt α).run.OpensTurn n := by
  have hdone : ∀ a : α, Task.OpensTurn (.done (Except.ok a) : Work (Except Error α)) (n + 0) :=
    fun _ => trivial
  have hdone' : ∀ a : α, Task.OffersAtMost (.done (Except.ok a) : Work (Except Error α)) 0 :=
    fun _ => trivial
  exact h.bind hdone hdone'

end Attempt

/-! ## Waiting for a person or a process -/

namespace Work

open Environment (installMessage)

theorem offers_pick (message : String) (items : List String) :
    (pick message items).OffersAtMost 0 :=
  Task.OffersAtMost.act (.ask (Host.asked_pick message items)) fun _ => trivial

theorem offers_input (message default : String) (complaint : FileTree → String → Option String) :
    (input message default complaint).OffersAtMost 0 :=
  Task.OffersAtMost.act .world fun w =>
    Task.OffersAtMost.act (.ask (Host.asked_input message default (complaint w.files)))
      fun _ => trivial

theorem offers_selectInterpreter : selectInterpreter.OffersAtMost 0 :=
  Task.OffersAtMost.act (.tell fun r => Host.asked_tell _ r (by simp)) fun _ => trivial

theorem offers_run (i : Invocation) : (run i).OffersAtMost 0 :=
  Task.OffersAtMost.act (.launch i) fun _ => trivial

theorem opens_run (i : Invocation) : (run i).OpensTurn 0 :=
  Task.OpensTurn.act (.launch i) fun _ => trivial

theorem offers_prompt (choices : Host.Choices) :
    (prompt installMessage choices).OffersAtMost 1 := by
  intro w
  exact ⟨fun hflag => hflag, 1, rfl, Nat.le_refl 1, trivial⟩

end Work

/-! ## The calls -/

namespace Environment

open Testbench.Task (OffersAtMost OpensTurn SkipsTurn)

theorem offers_suppress : OffersAtMost (Task.lift suppress) 0 := by
  intro w
  exact ⟨fun _ => rfl, 0, rfl, Nat.le_refl 0, trivial⟩

theorem offers_checkTool (id : ProjectId) : (checkTool id).run.OffersAtMost 0 := by
  refine Attempt.offers_act .world fun w => ?_
  refine Attempt.offers_then (Attempt.offers_ofWork (Work.offers_run _)) ?_
  intro outcome
  exact Attempt.offers_ofAct (plain_concludeTool id _ outcome)

theorem offers_create (id : ProjectId) : (create id).run.OffersAtMost 0 := by
  refine Attempt.offers_act (plain_state id) fun s => ?_
  split
  · trivial
  · refine Attempt.offers_act .world fun w => ?_
    refine Attempt.offers_then (Attempt.offers_liftM (Work.offers_input _ _ _)) ?_
    intro answer
    cases answer with
    | none => trivial
    | some folder =>
        refine Attempt.offers_act (plain_update id _) fun _ => ?_
        refine Attempt.offers_then
          (Attempt.offers_liftM Work.offers_selectInterpreter) fun _ => ?_
        refine Attempt.offers_then
          -- What fails meanwhile only puts the phase back.
          (Attempt.offers_catch (offers_checkTool id) fun cause => ?_) fun _ => ?_
        · exact Attempt.offers_act (plain_update id _) fun _ => trivial
        · exact Attempt.offers_then
            (Attempt.offers_ofAct (plain_makeEnv id folder)) fun _ => trivial

theorem offers_switchTo (id : ProjectId) (names : List String) :
    (switchTo id names).run.OffersAtMost 0 := by
  unfold switchTo
  split
  · exact offers_create id
  · exact Attempt.offers_then (Attempt.offers_ofAct (plain_adopt id _))
      fun _ => trivial
  · refine Attempt.offers_then (Attempt.offers_liftM (Work.offers_pick _ _)) ?_
    intro picked
    cases picked with
    | none => trivial
    | some name =>
        dsimp only
        split
        · exact Attempt.offers_then (Attempt.offers_ofAct (plain_adopt id name))
            fun _ => trivial
        · trivial

theorem offers_choice (id : ProjectId) (names : List String) (answer : Host.Answer) :
    (match answer with
      | .yes => switchTo id names
      | .suppress => do
        suppress
        pure false
      | .no | .dismissed => pure false : Attempt Bool).run.OffersAtMost 0 := by
  cases answer with
  | yes => exact offers_switchTo id names
  | suppress => exact Attempt.offers_then (Attempt.offers_liftM offers_suppress) fun _ => trivial
  | no => trivial
  | dismissed => trivial

/-- The offer to switch is made in the turn in which the call begins; nothing is offered after
it. -/
theorem opens_switch (id : ProjectId) : (switch id).run.OpensTurn 0 := by
  refine Attempt.opens_act .world fun w => ?_
  intro v hflag
  -- The answer is looked at after the first waiting point.
  exact ⟨hflag, offers_choice id (candidates w (w.root id)) _⟩

theorem opens_checkRequirements (id : ProjectId) : (checkRequirements id).OpensTurn 0 := by
  have hquery : (queryRequirements id).OpensTurn 0 := by
    refine OpensTurn.act .world fun w => ?_
    dsimp only [Task.bind]
    split
    · trivial
    · exact (Work.opens_run _).bind (k := 0) (fun _ => trivial) fun _ => trivial
  refine hquery.bind (k := 0) (fun status => ?_) fun status => ?_
  · exact OpensTurn.act (plain_update id _) fun _ => trivial
  · exact OffersAtMost.act (plain_update id _) fun _ => trivial

theorem offers_checkRequirements (id : ProjectId) : (checkRequirements id).OffersAtMost 0 := by
  have hquery : (queryRequirements id).OffersAtMost 0 := by
    refine OffersAtMost.act .world fun w => ?_
    dsimp only [Task.bind]
    split
    · trivial
    · exact (Work.offers_run _).bind (k := 0) fun _ => trivial
  refine hquery.bind (k := 0) fun status => ?_
  exact OffersAtMost.act (plain_update id _) fun _ => trivial

theorem offers_reply (id : ProjectId) (answer : Host.Answer) :
    OffersAtMost (match answer with
      | .yes => install id
      | .suppress => suppress
      | .no | .dismissed => pure () : Work Unit) 0 := by
  cases answer with
  | yes => exact OffersAtMost.act (plain_install id) fun _ => trivial
  | suppress => exact offers_suppress
  | no => trivial
  | dismissed => trivial

theorem offers_ensureRequirements (id : ProjectId) : (ensureRequirements id).OffersAtMost 1 := by
  refine (offers_checkRequirements id).bind (k := 1) fun status => ?_
  cases status with
  | unsatisfied => exact (Work.offers_prompt _).bind (k := 0) (offers_reply id)
  | satisfied => trivial
  | unknown => trivial

theorem opens_ensureRequirements (id : ProjectId) : (ensureRequirements id).OpensTurn 1 := by
  refine (opens_checkRequirements id).bind (k := 1) (fun status => ?_) fun status => ?_
  · cases status with
    | unsatisfied =>
        intro w hflag
        exact ⟨hflag, (offers_reply id _).mono (Nat.zero_le 1)⟩
    | satisfied => trivial
    | unknown => trivial
  · cases status with
    | unsatisfied => exact (Work.offers_prompt _).bind (k := 0) (offers_reply id)
    | satisfied => trivial
    | unknown => trivial

theorem opens_ensure (id : ProjectId) : (ensure id).run.OpensTurn 1 := by
  unfold ensure
  apply Attempt.opens_act Act.IsPlain.world
  intro w
  cases hflag : w.suppressed with
  | true => trivial
  | false =>
      rw [if_neg Bool.false_ne_true]
      cases hinside : isInside w (w.root id) with
      | true =>
          -- Only the requirements are asked about.
          rw [if_pos rfl]
          apply Attempt.opens_act (plain_setPhase id .inside)
          intro _
          exact Attempt.opens_liftM (opens_ensureRequirements id)
      | false =>
          -- The offer to switch is made in this turn, the one to install in a later one.
          rw [if_neg Bool.false_ne_true]
          apply Attempt.opens_bind (n := 0) (k := 1) (opens_switch id)
          · intro switched
            cases switched with
            | true => exact Attempt.opens_act (plain_update id _) fun _ =>
                Attempt.opens_liftM (opens_ensureRequirements id)
            | false => exact OpensTurn.act (plain_setPhase id .outside) fun _ => trivial
          · intro switched
            cases switched with
            | true => exact Attempt.offers_act (plain_update id _) fun _ =>
                Attempt.offers_liftM (offers_ensureRequirements id)
            | false => exact OffersAtMost.act (plain_setPhase id .outside) fun _ => trivial

/-- Where questions are suppressed nothing is done. -/
theorem skips_ensure (id : ProjectId) : (ensure id).run.SkipsTurn := by
  unfold ensure
  refine Attempt.skips_world fun w hflag => ?_
  rw [if_pos hflag]
  trivial

theorem step_ensure {id : ProjectId} {x : Task.Ran World} {t : Work (Except Error Unit)}
    (h : Task.Step (ensure id).run x t) :
    x.before.suppressed = true → x.after = x.before ∧ t = .done (.ok ()) := by
  intro hflag
  unfold ensure at h
  rcases Attempt.step_world h with ⟨hafter, hrest⟩
  rw [if_pos hflag] at hrest
  exact ⟨hafter, hrest⟩

end Environment

/-! ## Setting a project up -/

namespace Project

theorem plain_startWatching (id : ProjectId) : (startWatching id).IsPlain := by
  refine Act.IsPlain.world.bind fun w => ?_
  split
  · exact .modify (fun _ => rfl) fun _ => rfl
  · exact .pure _

theorem opens_setUp (id : ProjectId) : (setUp id).run.OpensTurn 1 := by
  refine Attempt.opens_act .world fun w => ?_
  dsimp only
  split
  · exact Attempt.opens_act (plain_startWatching id) fun _ => Environment.opens_ensure id
  · trivial

theorem skips_setUp (id : ProjectId) : (setUp id).run.SkipsTurn := by
  refine Attempt.skips_world fun w hflag => ?_
  dsimp only
  split
  · exact Task.SkipsTurn.act (plain_startWatching id) fun _ => Environment.skips_ensure id
  · trivial

end Project
end Testbench
