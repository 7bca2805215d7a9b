import Mathlib.Logic.Relation
import Testbench.Proofs.Task

/-!
# Plays — a task from its beginning to its end

A task is played step by step. Others may change the state whenever the task waits, and not between
two acts in a row. What was played of one task after another falls into what was played of each.

- `Task.acts`       : whether an act comes next;
- `Task.Plays`      : the steps of a task to its result;
- `exists_plays`    : every task can be played;
- `Plays.of_act`, `of_await`, `of_guarded`, `bind` : how a task is played, part by part;
- `acts_poll`, `Plays.poll` : a poll goes on until no act comes next.
-/

namespace Testbench
namespace Task

variable {ω σ : Type} {α β : Type}

/-- Whether an act comes next, in the task or in one of its parts. -/
def acts {α : Type} : Task ω σ α → Bool
  | .done _ | .await .. => false
  | .act .. => true
  | .both left right _ _ => left.acts || right.acts
  | .guarded body _ _ => body.acts

/-- The steps of a task up to its result. In between others do what `beside` allows them. -/
inductive Plays (beside : σ → σ → Prop) {α : Type} :
    Task ω σ α → σ → List (Ran σ) → α → σ → Prop where
  | done (a : α) (s : σ) : Plays beside (.done a) s [] a s
  | step {t t' : Task ω σ α} {x : Ran σ} {xs : List (Ran σ)} {a : α} {s : σ} (hstep : Step t x t')
      (hrest : Plays beside t' x.after xs a s) : Plays beside t x.before (x :: xs) a s
  | aside {t : Task ω σ α} {s s' s'' : σ} {xs : List (Ran σ)} {a : α} (hacts : t.acts = false)
      (hopen : t.isDone = false) (hbeside : beside s s') (hrest : Plays beside t s' xs a s'') :
      Plays beside t s xs a s''

/-! ## One task after another -/

/-- A step of one task after another belongs to the first as long as that is not done. -/
theorem Step.of_bind {t : Task ω σ β} {f : β → Task ω σ α} {u : Task ω σ α} {x : Ran σ}
    (h : Step (t.bind f) x u) : (∃ b, t = .done b) ∨ ∃ t', Step t x t' ∧ u = t'.bind f := by
  cases t with
  | done b => exact .inl ⟨b, rfl⟩
  | act g next =>
      right
      cases h with
      | act _ _ s => exact ⟨_, .act g next s, rfl⟩
  | await w next =>
      right
      cases h with
      | await _ _ s => exact ⟨_, .await w next s, rfl⟩
  | both left right limit next =>
      right
      cases h with
      | left hstep => exact ⟨_, .left hstep, rfl⟩
      | right hstep => exact ⟨_, .right hstep, rfl⟩
      | joined a b _ _ s => exact ⟨_, .joined a b limit next s, rfl⟩
      | limit _ _ w _ s => exact ⟨_, .limit left right w next s, rfl⟩
  | guarded body release next =>
      right
      cases h with
      | inside hstep => exact ⟨_, .inside hstep, rfl⟩
      | release a _ _ s => exact ⟨_, .release a release next s, rfl⟩

/-- The same of a step that waits. -/
theorem Goes.of_bind {ready : ω → σ → Bool} {t : Task ω σ β} {f : β → Task ω σ α} {u : Task ω σ α}
    {x : Ran σ} (h : Goes ready (t.bind f) x u) :
    (∃ b, t = .done b) ∨ ∃ t', Goes ready t x t' ∧ u = t'.bind f := by
  cases t with
  | done b => exact .inl ⟨b, rfl⟩
  | act g next =>
      right
      cases h with
      | act _ _ s => exact ⟨_, .act g next s, rfl⟩
  | await w next =>
      right
      cases h with
      | await _ hready => exact ⟨_, .await next hready, rfl⟩
  | both left right limit next =>
      right
      cases h with
      | left hgoes => exact ⟨_, .left hgoes, rfl⟩
      | right hgoes => exact ⟨_, .right hgoes, rfl⟩
      | joined a b _ _ s => exact ⟨_, .joined a b limit next s, rfl⟩
      | limit _ _ _ hready => exact ⟨_, .limit left right next hready, rfl⟩
  | guarded body release next =>
      right
      cases h with
      | inside hgoes => exact ⟨_, .inside hgoes, rfl⟩
      | release a _ _ s => exact ⟨_, .release a release next s, rfl⟩

/-- Work on the result of a task has to wait for the task. -/
theorem Goes.of_map {ready : ω → σ → Bool} {t : Task ω σ β} {f : β → α} {u : Task ω σ α} {x : Ran σ}
    (h : Goes ready (t.bind fun b => .done (f b)) x u) :
    ∃ t', Goes ready t x t' ∧ u = t'.bind fun b => .done (f b) := by
  rcases h.of_bind with ⟨b, rfl⟩ | hrest
  · exact nomatch h
  · exact hrest

/-- A part that is not done goes on inside its scope. -/
theorem Goes.of_guarded {ready : ω → σ → Bool} {body : Task ω σ β} {release : σ → σ}
    {next : β → Task ω σ α} {u : Task ω σ α} {x : Ran σ}
    (h : Goes ready (.guarded body release next) x u) (hopen : body.isDone = false) :
    ∃ body', Goes ready body x body' ∧ u = .guarded body' release next := by
  cases h with
  | inside hbody => exact ⟨_, hbody, rfl⟩
  | release b _ _ s => exact nomatch hopen

theorem acts_bind {t : Task ω σ β} (f : β → Task ω σ α) (h : t.isDone = false) :
    (t.bind f).acts = t.acts ∧ (t.bind f).isDone = false := by
  cases t with
  | done b => cases h
  | act _ _ | await _ _ | both _ _ _ _ | guarded _ _ _ => exact ⟨rfl, rfl⟩

namespace Plays

variable {beside : σ → σ → Prop} {s s' : σ} {xs : List (Ran σ)} {a : α}

theorem of_done {b : α} (h : Plays beside (.done b : Task ω σ α) s xs a s') :
    xs = [] ∧ a = b ∧ s' = s := by
  cases h with
  | done => exact ⟨rfl, rfl, rfl⟩
  | step hstep => cases hstep
  | aside _ hopen => cases hopen

/-- Nobody comes before an act. -/
theorem of_act {f : σ → β × σ} {next : β → Task ω σ α}
    (h : Plays beside (.act f next) s xs a s') :
    ∃ ys, xs = ⟨s, β, f⟩ :: ys ∧ Plays beside (next (f s).1) (f s).2 ys a s' := by
  cases h with
  | step hstep hrest =>
      cases hstep with
      | act => exact ⟨_, rfl, hrest⟩
  | aside hacts => cases hacts

/-- Others may come before a wait is over. -/
theorem of_await {v : ω} {next : Task ω σ α} (h : Plays beside (.await v next) s xs a s') :
    ∃ s₁ ys, Relation.ReflTransGen beside s s₁ ∧ xs = .change s₁ id :: ys ∧
      Plays beside next s₁ ys a s' := by
  generalize ht : (Task.await v next : Task ω σ α) = t at h
  induction h with
  | done => cases ht
  | step hstep hrest _ =>
      subst ht
      cases hstep with
      | await _ _ s => exact ⟨s, _, .refl, rfl, hrest⟩
  | aside _ _ hother _ ih =>
      obtain ⟨s₁, ys, hothers, rfl, hrest⟩ := ih ht
      exact ⟨s₁, ys, .head hother hothers, rfl, hrest⟩

/-- A part is played to its end, and others may come before what it holds is released. -/
theorem of_guarded {body : Task ω σ β} {release : σ → σ} {next : β → Task ω σ α}
    (h : Plays beside (.guarded body release next) s xs a s') :
    ∃ ys b s₁ s₂ zs, xs = ys ++ .change s₂ release :: zs ∧ Plays beside body s ys b s₁ ∧
      Relation.ReflTransGen beside s₁ s₂ ∧ Plays beside (next b) (release s₂) zs a s' := by
  generalize ht : (Task.guarded body release next : Task ω σ α) = t at h
  induction h generalizing body with
  | done => cases ht
  | step hstep hrest ih =>
      subst ht
      cases hstep with
      | inside hbody =>
          obtain ⟨ys, b, s₁, s₂, zs, rfl, hplays, hothers, hnext⟩ := ih rfl
          exact ⟨_ :: ys, b, s₁, s₂, zs, rfl, .step hbody hplays, hothers, hnext⟩
      | release b _ _ s => exact ⟨[], b, s, s, _, rfl, .done b s, .refl, hrest⟩
  | aside hacts hopen hother hrest ih =>
      subst ht
      obtain ⟨ys, b, s₁, s₂, zs, rfl, hplays, hothers, hnext⟩ := ih rfl
      -- Others that come once the part is done do not belong to it any more.
      cases hdone : body.isDone with
      | true =>
          cases body with
          | done c =>
              obtain ⟨rfl, rfl, rfl⟩ := hplays.of_done
              exact ⟨[], _, _, s₂, zs, rfl, .done _ _, .head hother hothers, hnext⟩
          | act _ _ | await _ _ | both _ _ _ _ | guarded _ _ _ => cases hdone
      | false => exact ⟨ys, b, s₁, s₂, zs, rfl, .aside hacts hdone hother hplays, hothers, hnext⟩

/-- What was played of one task after another falls into two parts. -/
theorem bind {t : Task ω σ β} {f : β → Task ω σ α} (h : Plays beside (t.bind f) s xs a s') :
    ∃ ys b s₁ zs, xs = ys ++ zs ∧ Plays beside t s ys b s₁ ∧ Plays beside (f b) s₁ zs a s' := by
  -- The induction is on the whole run: where the first task is done shows only on the way.
  generalize hu : t.bind f = u at h
  induction h generalizing t with
  | done a s =>
      cases t with
      | done b =>
          have hlast : f b = .done a := hu
          exact ⟨[], b, s, [], rfl, .done b s, hlast ▸ .done a s⟩
      | act _ _ | await _ _ | both _ _ _ _ | guarded _ _ _ => cases hu
  | step hstep hrest ih =>
      subst hu
      rcases hstep.of_bind with ⟨b, rfl⟩ | ⟨t', hstep', rfl⟩
      · exact ⟨[], b, _, _, rfl, .done b _, .step hstep hrest⟩
      · obtain ⟨ys, b, s₁, zs, rfl, hfirst, hsecond⟩ := ih rfl
        exact ⟨_ :: ys, b, s₁, zs, rfl, .step hstep' hfirst, hsecond⟩
  | aside hacts hopen hbeside hrest ih =>
      subst hu
      -- Others may come right between the two tasks; this counts to the second.
      cases hdone : t.isDone with
      | true =>
          cases t with
          | done b => exact ⟨[], b, _, _, rfl, .done b _, .aside hacts hopen hbeside hrest⟩
          | act _ _ | await _ _ | both _ _ _ _ | guarded _ _ _ => cases hdone
      | false =>
          obtain ⟨ys, b, s₁, zs, rfl, hfirst, hsecond⟩ := ih rfl
          have hsame := (acts_bind f hdone).1
          exact ⟨ys, b, s₁, zs, rfl, .aside (hsame ▸ hacts) hdone hbeside hfirst, hsecond⟩

/-! ## What holds throughout -/

/-- Others who do less are allowed to. -/
theorem mono {other : σ → σ → Prop} (hother : ∀ s s', beside s s' → other s s') {t : Task ω σ α}
    (h : Plays beside t s xs a s') : Plays other t s xs a s' := by
  induction h with
  | done a s => exact .done a s
  | step hstep _ ih => exact .step hstep ih
  | aside hacts hopen hbeside _ ih => exact .aside hacts hopen (hother _ _ hbeside) ih

/-- What every step and everybody else preserves holds before every step and at the end. -/
theorem invariant {t : Task ω σ α} (h : Plays beside t s xs a s') {P : σ → Prop}
    (hstep : ∀ x ∈ xs, P x.before → P x.after) (hbeside : ∀ s s', beside s s' → P s → P s')
    (hs : P s) : P s' ∧ ∀ x ∈ xs, P x.before := by
  induction h with
  | done => exact ⟨hs, fun _ hx => absurd hx List.not_mem_nil⟩
  | step _ _ ih =>
      obtain ⟨hlast, hrest⟩ := ih (fun y hy => hstep y (List.mem_cons_of_mem _ hy))
        (hstep _ List.mem_cons_self hs)
      exact ⟨hlast, List.forall_mem_cons.mpr ⟨hs, hrest⟩⟩
  | aside _ _ hother _ ih => exact ih hstep (hbeside _ _ hother hs)

/-- A task of which every step satisfies a predicate. -/
theorem all {t : Task ω σ α} (h : Plays beside t s xs a s') {P : Ran σ → Prop} (ht : t.All P) :
    ∀ x ∈ xs, P x := by
  induction h with
  | done => exact fun _ hx => absurd hx List.not_mem_nil
  | step hstep _ ih =>
      exact List.forall_mem_cons.mpr ⟨(ht.step hstep).1, ih (ht.step hstep).2⟩
  | aside _ _ _ _ ih => exact ih ht

/-- A task that keeps a law under which the past does not matter. -/
theorem obeys {ε : Type 1} {law : Law σ ε} {P : Ran σ → Prop}
    (hlaw : ∀ past x, law.allows past x → P x)
    {t : Task ω σ α} (h : Plays beside t s xs a s') {post : List ε → α → Prop} {past : List ε}
    (ht : t.Obeys law post past) : ∀ x ∈ xs, P x := by
  induction h generalizing past with
  | done => exact fun _ hx => absurd hx List.not_mem_nil
  | step hstep _ ih =>
      obtain ⟨hallowed, hnext⟩ := Obeys.step hstep ht
      exact List.forall_mem_cons.mpr ⟨hlaw _ _ hallowed, ih hnext⟩
  | aside _ _ _ _ ih => exact ih ht

/-! ## Polls -/

theorem of_steps {t t' : Task ω σ α} {s s' s'' : σ} {xs ys : List (Ran σ)} {a : α}
    (h : Steps t s xs t' s') (h' : Plays beside t' s' ys a s'') :
    Plays beside t s (xs ++ ys) a s'' := by
  induction h with
  | none => exact h'
  | more hstep _ ih => exact .step hstep (ih h')

end Plays

/-- After a poll no act comes next. -/
theorem acts_poll (ready : ω → σ → Bool) (t : Task ω σ α) (s : σ) :
    (t.poll ready s).1.acts = false := by
  -- A poll stops only where something is waited for.
  induction t generalizing s with
  | done a => rfl
  | act f next ih => exact ih (f s).1 (f s).2
  | await w next ih =>
      unfold poll
      split
      · exact ih s
      · rfl
  | both left right limit next ihl ihr ih =>
      rcases poll_both_cases ready left right limit next s with
        ⟨a, b, -, -, hpoll⟩ | ⟨w, -, -, hpoll⟩ | ⟨-, -, hpoll⟩
      · rw [hpoll]
        exact ih _ _
      · rw [hpoll]
        exact ih none _
      · rw [hpoll]
        exact Bool.or_eq_false_iff.mpr ⟨ihl s, ihr (left.poll ready s).2⟩
  | guarded body release next ihbody ih =>
      rcases poll_guarded_cases ready body release next s with ⟨a, -, hpoll⟩ | ⟨-, hpoll⟩
      · rw [hpoll]
        exact ih _ _
      · rw [hpoll]
        exact ihbody s

/-- A poll after which others go on, if the task is not done. -/
theorem Plays.poll {beside : σ → σ → Prop} (ready : ω → σ → Bool) {t : Task ω σ α} {s s' s'' : σ}
    {ys : List (Ran σ)} {a : α} (hopen : (t.poll ready s).1.isDone = false)
    (hbeside : beside (t.poll ready s).2 s') (h : Plays beside (t.poll ready s).1 s' ys a s'') :
    ∃ xs, Plays beside t s (xs ++ ys) a s'' := by
  obtain ⟨xs, hsteps⟩ := steps_poll ready t s
  exact ⟨xs, .of_steps hsteps (.aside (acts_poll ready t s) hopen hbeside h)⟩

/-- A poll that finishes the task. -/
theorem Plays.last {beside : σ → σ → Prop} (ready : ω → σ → Bool) {t : Task ω σ α} {s : σ} {a : α}
    (h : (t.poll ready s).1.result? = some a) :
    ∃ xs, Plays beside t s xs a (t.poll ready s).2 := by
  obtain ⟨xs, hsteps⟩ := steps_poll ready t s
  rw [eq_done_of_result? h] at hsteps
  have hplays := Plays.of_steps hsteps (.done a _ : Plays beside _ _ _ _ _)
  exact ⟨xs ++ [], hplays⟩

/-- A poll that waits for nothing comes to the end. -/
theorem exists_result?_poll (t : Task ω σ α) (s : σ) :
    ∃ a, (t.poll (fun _ _ => true) s).1.result? = some a := by
  induction t generalizing s with
  | done a => exact ⟨a, rfl⟩
  | act f next ih => exact ih (f s).1 (f s).2
  | await w next ih => exact ih s
  | both left right limit next ihl ihr ih =>
      obtain ⟨b, hb⟩ := ihl s
      obtain ⟨c, hc⟩ := ihr (left.poll (fun _ _ => true) s).2
      simp only [poll, hb, hc]
      exact ih _ _
  | guarded body release next ihbody ih =>
      obtain ⟨b, hb⟩ := ihbody s
      simp only [poll, hb]
      exact ih _ _

/-- Every task can be played to its end. -/
theorem exists_plays (beside : σ → σ → Prop) (t : Task ω σ α) (s : σ) :
    ∃ xs a s', Plays beside t s xs a s' := by
  obtain ⟨a, ha⟩ := exists_result?_poll t s
  obtain ⟨xs, hplays⟩ := Plays.last (fun _ _ => true) ha
  exact ⟨xs, a, _, hplays⟩

end Task
end Testbench
