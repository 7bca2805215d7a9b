import Testbench.Task

/-!
# Task — single steps, and what they may rely on

A task moves by steps, each of which changes the state at one point of the tree. Between two steps
of a task anybody else may take theirs, so a task can rely on its own past only. This file has the
steps, and predicates on tasks that survive every interleaving.

- `Task.Ran`, `Task.Step` : a change that was made, and the steps of a task;
- `Task.Goes`, `Task.GoesOn` : the steps that do not go on before what they wait for has come;
- `Task.poll_both_cases`, `Task.poll_guarded_cases` : what a poll makes of a task with parts;
- `Task.goesOn_poll`, `Task.steps_poll` : a poll takes steps;
- `Task.All`              : every step of the task satisfies a predicate;
- `Law`                   : what may be done after a given past;
- `Task.Obeys`            : the task keeps the law, and its results satisfy a postcondition;
- `Obeys.step`, `Obeys.bind` : one step, and one task after another.
-/

namespace Testbench

namespace Task

variable {ω σ : Type}

/-! ## Steps -/

/-- An act and the state on which it was run. -/
structure Ran (σ : Type) : Type 1 where
  before : σ
  answer : Type
  act : σ → answer × σ

def Ran.after (r : Ran σ) : σ := (r.act r.before).2

/-- A change that answers nothing. -/
def Ran.change (s : σ) (f : σ → σ) : Ran σ := ⟨s, Unit, fun s => ((), f s)⟩

/-- One step. A wait and a limit may be over at any time. -/
inductive Step : {α : Type} → Task ω σ α → Ran σ → Task ω σ α → Prop where
  | act {α β : Type} (f : σ → β × σ) (next : β → Task ω σ α) (s : σ) :
      Step (.act f next) ⟨s, β, f⟩ (next (f s).1)
  | await {α : Type} (w : ω) (next : Task ω σ α) (s : σ) :
      Step (.await w next) (.change s id) next
  | left {α β γ : Type} {l l' : Task ω σ β} {r : Task ω σ γ} {limit : Option ω}
      {next : Option (β × γ) → Task ω σ α} {x : Ran σ} :
      Step l x l' → Step (.both l r limit next) x (.both l' r limit next)
  | right {α β γ : Type} {l : Task ω σ β} {r r' : Task ω σ γ} {limit : Option ω}
      {next : Option (β × γ) → Task ω σ α} {x : Ran σ} :
      Step r x r' → Step (.both l r limit next) x (.both l r' limit next)
  | joined {α β γ : Type} (a : β) (b : γ) (limit : Option ω)
      (next : Option (β × γ) → Task ω σ α) (s : σ) :
      Step (.both (.done a) (.done b) limit next) (.change s id) (next (some (a, b)))
  | limit {α β γ : Type} (l : Task ω σ β) (r : Task ω σ γ) (w : ω)
      (next : Option (β × γ) → Task ω σ α) (s : σ) :
      Step (.both l r (some w) next) (.change s fun s => r.abandon (l.abandon s)) (next none)
  | inside {α β : Type} {body body' : Task ω σ β} {release : σ → σ} {next : β → Task ω σ α}
      {x : Ran σ} :
      Step body x body' → Step (.guarded body release next) x (.guarded body' release next)
  | release {α β : Type} (a : β) (release : σ → σ) (next : β → Task ω σ α) (s : σ) :
      Step (.guarded (.done a) release next) (.change s release) (next a)

/-- Steps in a row, with what was done. -/
inductive Steps {α : Type} : Task ω σ α → σ → List (Ran σ) → Task ω σ α → σ → Prop where
  | none (t : Task ω σ α) (s : σ) : Steps t s [] t s
  | more {t t' t'' : Task ω σ α} {x : Ran σ} {xs : List (Ran σ)} {s : σ} :
      Step t x t' → Steps t' x.after xs t'' s → Steps t x.before (x :: xs) t'' s

theorem Steps.trans {α : Type} {t t' t'' : Task ω σ α} {s s' s'' : σ} {xs ys : List (Ran σ)}
    (h : Steps t s xs t' s') (h' : Steps t' s' ys t'' s'') : Steps t s (xs ++ ys) t'' s'' := by
  induction h with
  | none => exact h'
  | more hstep _ ih => exact .more hstep (ih h')

theorem Steps.single {α : Type} {t t' : Task ω σ α} {x : Ran σ} (h : Step t x t') :
    Steps t x.before [x] t' x.after :=
  .more h (.none _ _)

/-- A guarded task takes the steps of its body. -/
theorem Steps.inside {α β : Type} {body body' : Task ω σ β} {release : σ → σ}
    {next : β → Task ω σ α}
    {xs : List (Ran σ)} {s s' : σ} (h : Steps body s xs body' s') :
    Steps (.guarded body release next) s xs (.guarded body' release next) s' := by
  induction h with
  | none => exact .none _ _
  | more hstep _ ih => exact .more hstep.inside ih

theorem eq_done_of_result? {α : Type} {t : Task ω σ α} {a : α} (h : t.result? = some a) :
    t = .done a := by
  cases t <;> simp [result?] at h
  rw [h]

theorem isDone_iff_result? {α : Type} {t : Task ω σ α} :
    t.isDone = true ↔ ∃ a, t.result? = some a := by
  constructor
  · intro h
    cases t with
    | done a => exact ⟨a, rfl⟩
    | act _ _ | await _ _ | both _ _ _ _ | guarded _ _ _ => cases h
  · rintro ⟨a, ha⟩
    rw [eq_done_of_result? ha]
    rfl

/-! ## Polls of a task with parts -/

section

variable {α β γ : Type} (ready : ω → σ → Bool)

/-- After both parts were polled, either both are done, or their limit has come, or the task
waits. -/
theorem poll_both_cases (l : Task ω σ β) (r : Task ω σ γ) (limit : Option ω)
    (next : Option (β × γ) → Task ω σ α) (s : σ) :
    let left := l.poll ready s
    let right := r.poll ready left.2
    (∃ a b, left.1 = .done a ∧ right.1 = .done b ∧
      (both l r limit next).poll ready s = (next (some (a, b))).poll ready right.2) ∨
    (∃ w, limit = some w ∧ ready w right.2 = true ∧ (both l r limit next).poll ready s =
      (next none).poll ready (right.1.abandon (left.1.abandon right.2))) ∨
    ((limit.any fun w => ready w right.2) = false ∧ (left.1.isDone && right.1.isDone) = false ∧
      (both l r limit next).poll ready s = (.both left.1 right.1 limit next, right.2)) := by
  dsimp only
  rw [poll]
  dsimp only
  split
  · rename_i a b ha hb
    exact .inl ⟨a, b, eq_done_of_result? ha, eq_done_of_result? hb, rfl⟩
  · rename_i hopen
    split
    · rename_i hany
      cases limit with
      | none => cases hany
      | some w => exact .inr (.inl ⟨w, rfl, hany, rfl⟩)
    · rename_i hany
      refine .inr (.inr ⟨Bool.eq_false_iff.2 hany, ?_, rfl⟩)
      -- If both parts were done, their results would have been taken.
      rw [Bool.eq_false_iff]
      intro hboth
      rw [Bool.and_eq_true] at hboth
      rcases isDone_iff_result?.1 hboth.1 with ⟨a, ha⟩
      rcases isDone_iff_result?.1 hboth.2 with ⟨b, hb⟩
      exact hopen a b ha hb

/-- After its body was polled, a guarded task releases what it holds if the body is done. -/
theorem poll_guarded_cases (body : Task ω σ β) (release : σ → σ) (next : β → Task ω σ α) (s : σ) :
    let inner := body.poll ready s
    (∃ a, inner.1 = .done a ∧
      (guarded body release next).poll ready s = (next a).poll ready (release inner.2)) ∨
    (inner.1.isDone = false ∧
      (guarded body release next).poll ready s = (.guarded inner.1 release next, inner.2)) := by
  dsimp only
  rw [poll]
  dsimp only
  split
  · rename_i a ha
    exact .inl ⟨a, eq_done_of_result? ha, rfl⟩
  · rename_i hopen
    refine .inr ⟨Bool.eq_false_iff.2 fun hdone => ?_, rfl⟩
    rcases isDone_iff_result?.1 hdone with ⟨a, ha⟩
    exact absurd (ha.symm.trans hopen) (Option.some_ne_none a)

end

/-! ## Steps that wait -/

/-- One step, where a wait or a limit is over only when what it waits for has come. -/
inductive Goes (ready : ω → σ → Bool) : {α : Type} → Task ω σ α → Ran σ → Task ω σ α → Prop where
  | act {α β : Type} (f : σ → β × σ) (next : β → Task ω σ α) (s : σ) :
      Goes ready (.act f next) ⟨s, β, f⟩ (next (f s).1)
  | await {α : Type} {w : ω} {s : σ} (next : Task ω σ α) :
      ready w s = true → Goes ready (.await w next) (.change s id) next
  | left {α β γ : Type} {l l' : Task ω σ β} {r : Task ω σ γ} {limit : Option ω}
      {next : Option (β × γ) → Task ω σ α} {x : Ran σ} :
      Goes ready l x l' → Goes ready (.both l r limit next) x (.both l' r limit next)
  | right {α β γ : Type} {l : Task ω σ β} {r r' : Task ω σ γ} {limit : Option ω}
      {next : Option (β × γ) → Task ω σ α} {x : Ran σ} :
      Goes ready r x r' → Goes ready (.both l r limit next) x (.both l r' limit next)
  | joined {α β γ : Type} (a : β) (b : γ) (limit : Option ω)
      (next : Option (β × γ) → Task ω σ α) (s : σ) :
      Goes ready (.both (.done a) (.done b) limit next) (.change s id) (next (some (a, b)))
  | limit {α β γ : Type} (l : Task ω σ β) (r : Task ω σ γ) {w : ω} {s : σ}
      (next : Option (β × γ) → Task ω σ α) :
      ready w s = true →
        Goes ready (.both l r (some w) next)
          (.change s fun s => r.abandon (l.abandon s)) (next none)
  | inside {α β : Type} {body body' : Task ω σ β} {release : σ → σ} {next : β → Task ω σ α}
      {x : Ran σ} :
      Goes ready body x body' →
        Goes ready (.guarded body release next) x (.guarded body' release next)
  | release {α β : Type} (a : β) (release : σ → σ) (next : β → Task ω σ α) (s : σ) :
      Goes ready (.guarded (.done a) release next) (.change s release) (next a)

theorem Goes.step {ready : ω → σ → Bool} {α : Type} {t t' : Task ω σ α} {x : Ran σ}
    (h : Goes ready t x t') : Step t x t' := by
  induction h with
  | act f next s => exact .act f next s
  | await next _ => exact .await _ next _
  | left _ ih => exact .left ih
  | right _ ih => exact .right ih
  | joined a b limit next s => exact .joined a b limit next s
  | limit l r next _ => exact .limit l r _ next _
  | inside _ ih => exact .inside ih
  | release a release next s => exact .release a release next s

theorem Goes.not_done {ready : ω → σ → Bool} {α : Type} {a : α} {u : Task ω σ α} {x : Ran σ} :
    ¬ Goes ready (.done a) x u := fun h => nomatch h

theorem Goes.of_lift {ready : ω → σ → Bool} {α β : Type} {m : StateM σ β} {next : β → Task ω σ α}
    {u : Task ω σ α} {x : Ran σ} (h : Goes ready ((Task.lift m).bind next) x u) :
    ∃ s, x = ⟨s, β, m.run⟩ ∧ u = next (m.run s).1 := by
  have hact : Goes ready (.act m.run fun b => (Task.done b : Task ω σ β).bind next) x u := h
  cases hact with
  | act _ _ s => exact ⟨s, rfl, rfl⟩

theorem Goes.of_await {ready : ω → σ → Bool} {α : Type} {v : ω} {next u : Task ω σ α} {x : Ran σ}
    (h : Goes ready (.await v next) x u) : ∃ s, ready v s = true ∧ x = .change s id ∧ u = next := by
  cases h with
  | await _ hready => exact ⟨_, hready, rfl, rfl⟩

/-- Such steps in a row. -/
inductive GoesOn (ready : ω → σ → Bool) {α : Type} :
    Task ω σ α → σ → List (Ran σ) → Task ω σ α → σ → Prop where
  | none (t : Task ω σ α) (s : σ) : GoesOn ready t s [] t s
  | more {t t' t'' : Task ω σ α} {x : Ran σ} {xs : List (Ran σ)} {s : σ} :
      Goes ready t x t' → GoesOn ready t' x.after xs t'' s →
        GoesOn ready t x.before (x :: xs) t'' s

section

variable {ready : ω → σ → Bool} {α : Type}

theorem GoesOn.steps {t t' : Task ω σ α} {s s' : σ} {xs : List (Ran σ)}
    (h : GoesOn ready t s xs t' s') : Steps t s xs t' s' := by
  induction h with
  | none t s => exact .none t s
  | more hgoes _ ih => exact .more hgoes.step ih

theorem GoesOn.trans {t t' t'' : Task ω σ α} {s s' s'' : σ} {xs ys : List (Ran σ)}
    (h : GoesOn ready t s xs t' s') (h' : GoesOn ready t' s' ys t'' s'') :
    GoesOn ready t s (xs ++ ys) t'' s'' := by
  induction h with
  | none => exact h'
  | more hgoes _ ih => exact .more hgoes (ih h')

theorem GoesOn.map {β : Type} (g : Task ω σ α → Task ω σ β)
    (hg : ∀ t x t', Goes ready t x t' → Goes ready (g t) x (g t')) {t t' : Task ω σ α} {s s' : σ}
    {xs : List (Ran σ)} (h : GoesOn ready t s xs t' s') : GoesOn ready (g t) s xs (g t') s' := by
  induction h with
  | none t s => exact .none _ s
  | more hgoes _ ih => exact .more (hg _ _ _ hgoes) ih

end

/-- A poll takes such steps. -/
theorem goesOn_poll {α : Type} (ready : ω → σ → Bool) (t : Task ω σ α) (s : σ) :
    ∃ xs, GoesOn ready t s xs (t.poll ready s).1 (t.poll ready s).2 := by
  induction t generalizing s with
  | done a => exact ⟨[], .none _ s⟩
  | act f next ih =>
      rcases ih (f s).1 (f s).2 with ⟨xs, hxs⟩
      exact ⟨_, .more (.act f next s) hxs⟩
  | await w next ih =>
      by_cases hw : ready w s = true
      · rcases ih s with ⟨xs, hxs⟩
        have hover : GoesOn ready (.await w next) s (.change s id :: xs) _ _ :=
          .more (.await next hw) hxs
        refine ⟨.change s id :: xs, ?_⟩
        simpa only [poll, if_pos hw] using hover
      · refine ⟨[], ?_⟩
        simpa only [poll, if_neg hw] using GoesOn.none _ s
  | both l r limit next ihl ihr ihnext =>
      rcases ihl s with ⟨xs, hxs⟩
      rcases ihr (l.poll ready s).2 with ⟨ys, hys⟩
      have hleft := hxs.map (fun t => .both t r limit next) fun _ _ _ => Goes.left
      have hright :=
        hys.map (fun t => .both (l.poll ready s).1 t limit next) fun _ _ _ => Goes.right
      -- The left part first, then the right one, and then what comes after both or after the time
      -- is up.
      have hparts := hleft.trans hright
      rcases poll_both_cases ready l r limit next s with
        ⟨a, b, hl, hr, hpoll⟩ | ⟨w, rfl, hw, hpoll⟩ | ⟨-, -, hpoll⟩
      · rcases ihnext (some (a, b)) (r.poll ready (l.poll ready s).2).2 with ⟨zs, hzs⟩
        rw [hl, hr] at hparts
        rw [hpoll]
        exact ⟨_, hparts.trans (.more (.joined a b limit next _) hzs)⟩
      · rcases ihnext none _ with ⟨zs, hzs⟩
        rw [hpoll]
        exact ⟨_, hparts.trans (.more (.limit _ _ next hw) hzs)⟩
      · rw [hpoll]
        exact ⟨_, hparts⟩
  | guarded body release next ihbody ihnext =>
      rcases ihbody s with ⟨xs, hxs⟩
      have hinside := hxs.map (fun t => .guarded t release next) fun _ _ _ => Goes.inside
      rcases poll_guarded_cases ready body release next s with ⟨a, ha, hpoll⟩ | ⟨-, hpoll⟩
      · rcases ihnext a (release (body.poll ready s).2) with ⟨ys, hys⟩
        rw [ha] at hinside
        rw [hpoll]
        exact ⟨_, hinside.trans (.more (.release a release next _) hys)⟩
      · rw [hpoll]
        exact ⟨_, hinside⟩

theorem steps_poll {α : Type} (ready : ω → σ → Bool) (t : Task ω σ α) (s : σ) :
    ∃ xs, Steps t s xs (t.poll ready s).1 (t.poll ready s).2 := by
  rcases goesOn_poll ready t s with ⟨xs, hxs⟩
  exact ⟨xs, hxs.steps⟩

/-! ## Every step -/

/-- Every step of a task satisfies a predicate, whatever happens between the steps. Tasks that split
are not considered. -/
def All (P : Ran σ → Prop) : {α : Type} → Task ω σ α → Prop
  | _, .done _ => True
  | _, .act (β := β) f next => ∀ s, P ⟨s, β, f⟩ ∧ All P (next (f s).1)
  | _, .await _ next => (∀ s, P (.change s id)) ∧ All P next
  | _, .both .. => False
  | _, .guarded .. => False

namespace All

variable {P Q : Ran σ → Prop} {α β : Type}

theorem bind {t : Task ω σ α} {f : α → Task ω σ β} (h : t.All P) (hf : ∀ a, (f a).All P) :
    (t.bind f).All P := by
  induction t with
  | done a => exact hf a
  | act g next ih => exact fun s => ⟨(h s).1, ih _ (h s).2 hf⟩
  | await w next ih =>
      have hnext : next.All P := h.2
      exact ⟨h.1, ih hnext hf⟩
  | both l r limit next _ _ _ => exact h.elim
  | guarded body release next _ _ => exact h.elim

theorem mono {t : Task ω σ α} (h : t.All P) (hPQ : ∀ x, P x → Q x) : t.All Q := by
  induction t with
  | done a => trivial
  | act g next ih => exact fun s => ⟨hPQ _ (h s).1, ih _ (h s).2⟩
  | await w next ih =>
      have hnext : next.All P := h.2
      exact ⟨fun s => hPQ _ (h.1 s), ih hnext⟩
  | both l r limit next _ _ _ => exact h.elim
  | guarded body release next _ _ => exact h.elim

theorem step {t t' : Task ω σ α} {x : Ran σ} (h : t.All P) (hstep : Step t x t') :
    P x ∧ t'.All P := by
  cases hstep with
  | act f next s => exact h s
  | await w next s => exact ⟨h.1 s, h.2⟩
  | left _ => exact h.elim
  | right _ => exact h.elim
  | joined a b limit next s => exact h.elim
  | limit l r w next s => exact h.elim
  | inside _ => exact h.elim
  | release a release next s => exact h.elim

end All

end Task

/-! ## Laws -/

/-- What may be done after a given past, which is a list of entries. Some changes may be made at any
time. -/
structure Law (σ : Type) (ε : Type 1) where
  allows : List ε → Task.Ran σ → Prop
  note : Task.Ran σ → ε
  mild : (σ → σ) → Prop
  allows_mild : ∀ {past f s}, mild f → allows past (.change s f)
  mild_id : mild id
  mild_comp : ∀ {f g}, mild f → mild g → mild fun s => g (f s)

namespace Task

variable {ω σ : Type} {ε : Type 1}

/-- A task keeps a law from some past on, whatever others do between its steps, and each result
satisfies a postcondition. -/
def Obeys (law : Law σ ε) :
    {α : Type} → Task ω σ α → (List ε → α → Prop) → List ε → Prop
  | _, .done a, post, past => ∀ more, past <+: more → post more a
  | _, .act (β := β) f next, post, past => ∀ more s, past <+: more →
      law.allows more ⟨s, β, f⟩ ∧ Obeys law (next (f s).1) post (more ++ [law.note ⟨s, β, f⟩])
  | _, .await _ next, post, past => Obeys law next post past
  | _, .both l r _ next, post, past =>
      ∃ left right, Obeys law l left past ∧ Obeys law r right past ∧
      (∀ more a b, past <+: more → left more a → right more b →
        Obeys law (next (some (a, b))) post more) ∧
      ∀ more, past <+: more → Obeys law (next none) post more
  | _, .guarded body release next, post, past => ∃ inner, Obeys law body inner past ∧
      law.mild release ∧ ∀ more b, past <+: more → inner more b → Obeys law (next b) post more

namespace Obeys

variable {law : Law σ ε}

/-- What others do in between does not matter. -/
theorem mono {α : Type} {t : Task ω σ α} {post : List ε → α → Prop} {past more : List ε}
    (h : t.Obeys law post past) (hmore : past <+: more) : t.Obeys law post more := by
  induction t generalizing past more with
  | done a =>
      intro later hlater
      exact h later (hmore.trans hlater)
  | act f next ih =>
      intro later s hlater
      exact h later s (hmore.trans hlater)
  | await w next ih =>
      have hnext : next.Obeys law post past := h
      exact ih hnext hmore
  | both l r limit next ihl ihr ih =>
      rcases h with ⟨left, right, hl, hr, hjoin, hlimit⟩
      refine ⟨left, right, ihl hl hmore, ihr hr hmore, ?_, ?_⟩
      · intro later a b hlater ha hb
        exact hjoin later a b (hmore.trans hlater) ha hb
      · intro later hlater
        exact hlimit later (hmore.trans hlater)
  | guarded body release next ihbody ih =>
      rcases h with ⟨inner, hbody, hrelease, hnext⟩
      refine ⟨inner, ihbody hbody hmore, hrelease, ?_⟩
      intro later b hlater hb
      exact hnext later b (hmore.trans hlater) hb

/-- One task after another. -/
theorem bind {α β : Type} {t : Task ω σ α} {f : α → Task ω σ β} {mid : List ε → α → Prop}
    {post : List ε → β → Prop} {past : List ε} (h : t.Obeys law mid past)
    (hf : ∀ more a, past <+: more → mid more a → (f a).Obeys law post more) :
    (t.bind f).Obeys law post past := by
  -- On the first task. What others do in between is put after what is known.
  induction t generalizing past with
  | done a => exact hf past a List.prefix_rfl (h past List.prefix_rfl)
  | act g next ih =>
      intro more s hmore
      refine ⟨(h more s hmore).1, ih _ (h more s hmore).2 ?_⟩
      intro later a hlater
      exact hf later a (hmore.trans ((List.prefix_append _ _).trans hlater))
  | await w next ih =>
      have hnext : next.Obeys law mid past := h
      exact ih hnext hf
  | both l r limit next ihl ihr ih =>
      rcases h with ⟨left, right, hl, hr, hjoin, hlimit⟩
      refine ⟨left, right, hl, hr, ?_, ?_⟩
      · intro more a b hmore ha hb
        refine ih _ (hjoin more a b hmore ha hb) ?_
        intro later c hlater
        exact hf later c (hmore.trans hlater)
      · intro more hmore
        refine ih _ (hlimit more hmore) ?_
        intro later c hlater
        exact hf later c (hmore.trans hlater)
  | guarded body release next ihbody ih =>
      rcases h with ⟨inner, hbody, hrelease, hnext⟩
      refine ⟨inner, hbody, hrelease, ?_⟩
      intro more b hmore hb
      refine ih _ (hnext more b hmore hb) ?_
      intro later c hlater
      exact hf later c (hmore.trans hlater)

/-- Giving the task up is mild. -/
theorem abandon {α : Type} {t : Task ω σ α} {post : List ε → α → Prop} {past : List ε}
    (h : t.Obeys law post past) : law.mild t.abandon := by
  induction t generalizing past with
  | done a => exact law.mild_id
  | act f next ih => exact law.mild_id
  | await w next ih => exact law.mild_id
  | both l r limit next ihl ihr ih =>
      rcases h with ⟨left, right, hl, hr, -, -⟩
      have hboth : law.mild fun s => r.abandon (l.abandon s) := law.mild_comp (ihl hl) (ihr hr)
      exact hboth
  | guarded body release next ihbody ih =>
      rcases h with ⟨inner, hbody, hrelease, -⟩
      have hboth : law.mild fun s => release (body.abandon s) :=
        law.mild_comp (ihbody hbody) hrelease
      exact hboth

/-- A step is allowed, and the task keeps the law afterwards. -/
theorem step {α : Type} {t t' : Task ω σ α} {x : Ran σ} (hstep : Step t x t')
    {post : List ε → α → Prop} {past : List ε} (h : t.Obeys law post past) :
    law.allows past x ∧ t'.Obeys law post (past ++ [law.note x]) := by
  induction hstep generalizing past with
  | act f next s => exact h past s List.prefix_rfl
  | await w next s =>
      have hnext : next.Obeys law post past := h
      exact ⟨law.allows_mild law.mild_id, hnext.mono (List.prefix_append _ _)⟩
  | @left _ _ _ _ _ _ _ _ x _ ih =>
      rcases h with ⟨left, right, hl, hr, hjoin, hlimit⟩
      have hpast := List.prefix_append past [law.note x]
      refine ⟨(ih hl).1, left, right, (ih hl).2, hr.mono hpast, ?_, ?_⟩
      · intro more a b hmore
        exact hjoin more a b (hpast.trans hmore)
      · intro more hmore
        exact hlimit more (hpast.trans hmore)
  | @right _ _ _ _ _ _ _ _ x _ ih =>
      rcases h with ⟨left, right, hl, hr, hjoin, hlimit⟩
      have hpast := List.prefix_append past [law.note x]
      refine ⟨(ih hr).1, left, right, hl.mono hpast, (ih hr).2, ?_, ?_⟩
      · intro more a b hmore
        exact hjoin more a b (hpast.trans hmore)
      · intro more hmore
        exact hlimit more (hpast.trans hmore)
  | joined a b limit next s =>
      rcases h with ⟨left, right, hl, hr, hjoin, -⟩
      refine ⟨law.allows_mild law.mild_id, ?_⟩
      have hpast := List.prefix_append past [law.note (.change s id)]
      exact hjoin _ a b hpast (hl _ hpast) (hr _ hpast)
  | limit l r w next s =>
      have hgiven := h.abandon
      rcases h with ⟨left, right, -, -, -, hlimit⟩
      exact ⟨law.allows_mild hgiven, hlimit _ (List.prefix_append _ _)⟩
  | @inside _ _ _ _ _ _ x _ ih =>
      rcases h with ⟨inner, hbody, hrelease, hnext⟩
      have hpast := List.prefix_append past [law.note x]
      refine ⟨(ih hbody).1, inner, (ih hbody).2, hrelease, ?_⟩
      intro more b hmore
      exact hnext more b (hpast.trans hmore)
  | release a release next s =>
      rcases h with ⟨inner, hbody, hrelease, hnext⟩
      have hpast := List.prefix_append past [law.note (.change s release)]
      exact ⟨law.allows_mild hrelease, hnext _ a hpast (hbody _ hpast)⟩

end Obeys
end Task
end Testbench
