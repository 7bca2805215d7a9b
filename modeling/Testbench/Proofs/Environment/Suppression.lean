import Testbench.Proofs.Environment.Prompts

/-!
# Suppression — what is still asked once a person asked not to be asked

Calls that see to the environments of projects run side by side and take turns: a call goes on until
it waits for a person or a process, and then anybody may. Whether questions are suppressed is looked
at in the first turn of a call. A call that was past it when somebody suppressed questions can still
come to the offer to install the requirements, once.

- `Call`, `Calls`       : calls, and what is left of each;
- `Move`, `Reached`     : turns, in any interleaving, with anything else that others do;
- `Standing`            : what one call can still do, preserved by every step;
- `Calls.Sound`         : the invariant of all of them, preserved by every move;
- `Reached.after_suppression` : what is asked and done after questions were suppressed;
- `reached_pair`, `reached_offer` : a question that comes too late.
-/

namespace Testbench
namespace Environment

open Testbench.Task (Ran Step Steps isSuspended steps_poll)

/-! ## Calls -/

/-- A call that sees to the environment of a project. -/
inductive Call where
  | ensure (id : ProjectId)
  | setUp (id : ProjectId)

def Call.work : Call → Work (Except Error Unit)
  | .ensure id => (Environment.ensure id).run
  | .setUp id => (Project.setUp id).run

/-- A world with the calls that were made and what is left of each. A call that can go on without
waiting has the turn. -/
structure Calls where
  world : World
  made : List (Call × Work (Except Error Unit))
  turn : Option Nat

/-- One step of anybody. A wait may be over at any time; while nobody has the turn, others may
change everything, but they do not take back that questions are suppressed. -/
inductive Move : Calls → Option (Nat × Ran World) → Calls → Prop where
  | make (x : Calls) (c : Call) : Move x none { x with made := x.made ++ [(c, c.work)] }
  | step {x : Calls} {i : Nat} {c : Call} {t t' : Work (Except Error Unit)} {r : Ran World} :
      x.made[i]? = some (c, t) → x.turn = none ∨ x.turn = some i → Step t r t' →
      r.before = x.world →
      Move x (some (i, r))
        ⟨r.after, x.made.set i (c, t'), if isSuspended t' r.after then none else some i⟩
  | other {x : Calls} {w : World} :
      x.turn = none → (x.world.suppressed = true → w.suppressed = true) →
      Move x none { x with world := w }

/-- What can be reached from a world, with the steps of the calls so far. -/
inductive Reached (w : World) : List (Nat × Ran World) → Calls → Prop where
  | start : Reached w [] ⟨w, [], none⟩
  | quiet {past : List (Nat × Ran World)} {x y : Calls} :
      Reached w past x → Move x none y → Reached w past y
  | ran {past : List (Nat × Ran World)} {x y : Calls} {e : Nat × Ran World} :
      Reached w past x → Move x (some e) y → Reached w (past ++ [e]) y

/-- The steps of one call. -/
def stepsOf (i : Nat) (past : List (Nat × Ran World)) : List (Ran World) :=
  (past.filter fun e => e.1 == i).map (·.2)

/-- The prompts that were shown in some steps while questions were suppressed. -/
def lateOf (steps : List (Ran World)) : List String :=
  (steps.filter fun r => r.before.suppressed).flatMap (·.prompts)

/-- Whether questions were suppressed at the first of some steps. -/
def begunSuppressed? (steps : List (Ran World)) : Option Bool :=
  steps.head?.map fun r => r.before.suppressed

theorem stepsOf_append_self (i : Nat) (past : List (Nat × Ran World)) (r : Ran World) :
    stepsOf i (past ++ [(i, r)]) = stepsOf i past ++ [r] := by
  simp [stepsOf]

theorem stepsOf_append_other {i j : Nat} (h : j ≠ i) (past : List (Nat × Ran World))
    (r : Ran World) : stepsOf i (past ++ [(j, r)]) = stepsOf i past := by
  simp [stepsOf, h]

theorem lateOf_append (steps : List (Ran World)) (r : Ran World) :
    lateOf (steps ++ [r]) = lateOf steps ++ if r.before.suppressed then r.prompts else [] := by
  cases h : r.before.suppressed <;> simp [lateOf, h]

theorem begunSuppressed?_append {steps : List (Ran World)} {b : Bool} (r : Ran World) :
    begunSuppressed? steps = some b → begunSuppressed? (steps ++ [r]) = some b := by
  cases steps with
  | nil =>
      intro h
      cases h
  | cons first rest =>
      intro h
      exact h

/-! ## The invariant -/

/-- What a call can still do in a world in which somebody has the turn. Before its first step and
during its first turn it goes by whether questions are suppressed; from then on it may offer to
install, unless it has done so. -/
inductive Standing (w : World) (turn : Option Nat) (i : Nat) (c : Call)
    (t : Work (Except Error Unit)) (steps : List (Ran World)) : Prop where
  | new : steps = [] → t = c.work → Standing w turn i c t steps
  | opening : turn = some i → w.suppressed = false → t.OpensTurn 1 → lateOf steps = [] →
      begunSuppressed? steps = some false → Standing w turn i c t steps
  | skipping : turn = some i → w.suppressed = true → t.SkipsTurn → lateOf steps = [] →
      begunSuppressed? steps = some true → Standing w turn i c t steps
  | later (n k : Nat) (begun : Bool) : t.OffersAtMost n →
      lateOf steps = List.replicate k installMessage → begunSuppressed? steps = some begun →
      n + k ≤ (if begun then 0 else 1) → Standing w turn i c t steps

theorem Call.opens (c : Call) : c.work.OpensTurn 1 := by
  cases c with
  | ensure id => exact opens_ensure id
  | setUp id => exact Project.opens_setUp id

theorem Call.skips (c : Call) : c.work.SkipsTurn := by
  cases c with
  | ensure id => exact skips_ensure id
  | setUp id => exact Project.skips_setUp id

variable {w v v' : World} {turn turn' : Option Nat} {i : Nat} {c : Call}
  {t t' : Work (Except Error Unit)} {r : Ran World}

namespace Standing

variable {steps : List (Ran World)}

/-- A call that opened its turn unsuppressed goes on so, or its turn is over. -/
theorem of_opens (hstep : t.OpensTurn 1 ∨ t.OffersAtMost 1) (hflag : w.suppressed = false)
    (hlate : lateOf steps = []) (hbegun : begunSuppressed? steps = some false) :
    Standing w (if isSuspended t w then none else some i) i c t steps := by
  rcases hstep with hopens | hoffers
  · cases hsuspended : isSuspended t w with
    | true => exact .later 1 0 false (hopens.offers hsuspended) hlate hbegun (Nat.le_refl 1)
    | false => exact .opening rfl hflag hopens hlate hbegun
  · exact .later 1 0 false hoffers hlate hbegun (Nat.le_refl 1)

theorem of_skips (hskips : t.SkipsTurn) (hflag : w.suppressed = true) (hlate : lateOf steps = [])
    (hbegun : begunSuppressed? steps = some true) :
    Standing w (if isSuspended t w then none else some i) i c t steps := by
  cases hsuspended : isSuspended t w with
  | true => exact .later 0 0 true (hskips.offers hsuspended) hlate hbegun (Nat.le_refl 0)
  | false => exact .skipping rfl hflag hskips hlate hbegun

/-- The first step decides which of the two turns it is. -/
theorem step_new (hnone : steps = []) (hstep : Step c.work r t') :
    (r.before.suppressed = true → r.after.suppressed = true) ∧
      Standing r.after (if isSuspended t' r.after then none else some i) i c t' (steps ++ [r]) := by
  subst hnone
  have hlate : lateOf ([] ++ [r]) = if r.before.suppressed then r.prompts else [] := by
    simpa [lateOf] using lateOf_append [] r
  have hbegun : begunSuppressed? ([] ++ [r]) = some r.before.suppressed := rfl
  cases hflag : r.before.suppressed with
  | false =>
      rcases c.opens.step hstep hflag with ⟨hkept, hrest⟩
      rw [hflag] at hbegun hlate
      exact ⟨fun h => Bool.noConfusion h, of_opens hrest hkept hlate hbegun⟩
  | true =>
      rcases c.skips.step hstep hflag with ⟨hkept, hprompts, hrest⟩
      rw [hflag] at hbegun
      refine ⟨fun _ => hkept, of_skips hrest hkept ?_ hbegun⟩
      rw [hlate, hprompts, ite_self]

/-- Later on only what is offered while questions are suppressed counts; any other offer is used up
all the same. -/
theorem step_later {n k : Nat} {begun : Bool} (hoffers : t.OffersAtMost n)
    (hshown : lateOf steps = List.replicate k installMessage)
    (hbegun : begunSuppressed? steps = some begun) (hle : n + k ≤ if begun then 0 else 1)
    (hstep : Step t r t') :
    (r.before.suppressed = true → r.after.suppressed = true) ∧
      Standing r.after turn' i c t' (steps ++ [r]) := by
  have hlate := lateOf_append steps r
  rcases hoffers.step hstep with ⟨hkept, j, hprompts, hj, hrest⟩
  have hsince := begunSuppressed?_append r hbegun
  refine ⟨hkept, ?_⟩
  cases hflag : r.before.suppressed with
  | false =>
      have hsame : lateOf (steps ++ [r]) = List.replicate k installMessage := by
        simpa [hflag, hshown] using hlate
      exact .later (n - j) k begun hrest hsame hsince (by omega)
  | true =>
      have hmore : lateOf (steps ++ [r]) = List.replicate (k + j) installMessage := by
        rw [hlate, hflag, hshown, hprompts, if_pos rfl, List.replicate_append_replicate]
      exact .later (n - j) (k + j) begun hrest hmore hsince (by omega)

/-- The step of a call, as the call sees it. -/
theorem step (h : Standing r.before turn i c t steps) (hstep : Step t r t') :
    (r.before.suppressed = true → r.after.suppressed = true) ∧
      Standing r.after (if isSuspended t' r.after then none else some i) i c t' (steps ++ [r]) := by
  have hlate := lateOf_append steps r
  cases h with
  | new hnone hwork => exact step_new hnone (hwork ▸ hstep)
  | opening _ hflag hopens hnothing hbegun =>
      rcases hopens.step hstep hflag with ⟨hkept, hrest⟩
      refine ⟨fun h => ?_, of_opens hrest hkept ?_ (begunSuppressed?_append r hbegun)⟩
      · rw [hflag] at h
        exact Bool.noConfusion h
      · simpa [hnothing, hflag] using hlate
  | skipping _ hflag hskips hnothing hbegun =>
      rcases hskips.step hstep hflag with ⟨hkept, hprompts, hrest⟩
      refine ⟨fun _ => hkept, of_skips hrest hkept ?_ (begunSuppressed?_append r hbegun)⟩
      simpa [hnothing, hprompts] using hlate
  | later n k begun hoffers hshown hbegun hle => exact step_later hoffers hshown hbegun hle hstep

/-- What others do while the call has not the turn changes nothing about it. -/
theorem others (h : Standing w turn i c t steps) (hturn : turn ≠ some i) :
    Standing v turn' i c t steps := by
  cases h with
  | new hnone hwork => exact .new hnone hwork
  | opening hmine _ _ _ _ => exact absurd hmine hturn
  | skipping hmine _ _ _ _ => exact absurd hmine hturn
  | later n k begun hoffers hshown hbegun hle => exact .later n k begun hoffers hshown hbegun hle

/-- A call that has made no step yet is as it was made. -/
theorem eq_work (h : Standing w turn i c t []) : t = c.work := by
  cases h with
  | new _ hwork => exact hwork
  | opening _ _ _ _ hbegun => cases hbegun
  | skipping _ _ _ _ hbegun => cases hbegun
  | later n k begun _ _ hbegun _ => cases hbegun

/-- A call that only sees to the environment and began while questions were suppressed is over after
one step, which did nothing. -/
theorem silent {id : ProjectId} (h : Standing r.before turn i (.ensure id) t steps)
    (hsofar : begunSuppressed? steps = some true →
      ∃ first, steps = [first] ∧ first.after = first.before ∧ t = .done (.ok ()))
    (hstep : Step t r t') (hbegun : begunSuppressed? (steps ++ [r]) = some true) :
    ∃ first, steps ++ [r] = [first] ∧ first.after = first.before ∧ t' = .done (.ok ()) := by
  cases steps with
  | nil =>
      -- The first step of the call.
      have hset : r.before.suppressed = true := Option.some.inj hbegun
      rw [h.eq_work] at hstep
      rcases step_ensure hstep hset with ⟨hafter, hdone⟩
      exact ⟨r, rfl, hafter, hdone⟩
  | cons first rest =>
      -- A call that is over takes no step.
      rcases hsofar hbegun with ⟨_, _, _, rfl⟩
      cases hstep

/-- What a call has shown since questions were suppressed. -/
theorem late (h : Standing w turn i c t steps) :
    lateOf steps = [] ∨ lateOf steps = [installMessage] ∧ begunSuppressed? steps = some false := by
  cases h with
  | new hnone _ =>
      rw [hnone]
      exact Or.inl rfl
  | opening _ _ _ hnothing _ => exact Or.inl hnothing
  | skipping _ _ _ hnothing _ => exact Or.inl hnothing
  -- At most one message is left to a call, and none to a call that began suppressed.
  | later n k begun _ hshown hbegun hle =>
      cases k with
      | zero => exact Or.inl hshown
      | succ k =>
          cases begun with
          | true =>
              rw [if_pos rfl] at hle
              omega
          | false =>
              have hk : k = 0 := by
                rw [if_neg Bool.false_ne_true] at hle
                omega
              rw [hk] at hshown
              exact Or.inr ⟨hshown, hbegun⟩

end Standing

/-- Every call stands as described, a call that began while questions were suppressed is over and
did nothing if it only sees to the environment, and nobody takes back that questions are
suppressed. -/
structure Calls.Sound (x : Calls) (past : List (Nat × Ran World)) : Prop where
  standing : ∀ i c t, x.made[i]? = some (c, t) →
    Standing x.world x.turn i c t (stepsOf i past)
  unmade : ∀ i, x.made[i]? = none → stepsOf i past = []
  kept : ∀ e ∈ past, e.2.before.suppressed = true ∨ e.2.after.suppressed = true →
    x.world.suppressed = true
  silent : ∀ i id t, x.made[i]? = some (.ensure id, t) →
    begunSuppressed? (stepsOf i past) = some true →
      ∃ r, stepsOf i past = [r] ∧ r.after = r.before ∧ t = .done (.ok ())

namespace Calls.Sound

variable {x : Calls} {past : List (Nat × Ran World)}

theorem start (w : World) : Sound ⟨w, [], none⟩ [] := by
  refine ⟨?_, fun _ _ => rfl, ?_, ?_⟩
  · intro i c t hmade
    simp at hmade
  · intro e he
    cases he
  · intro i id t hmade
    simp at hmade

/-- A call that is made changes nothing about the others. -/
theorem make (h : x.Sound past) (c : Call) :
    Sound { x with made := x.made ++ [(c, c.work)] } past := by
  -- It is the last of all, and has made no step.
  have hcases : ∀ (i : Nat) (c' : Call) (t : Work (Except Error Unit)),
      (x.made ++ [(c, c.work)])[i]? = some (c', t) →
        x.made[i]? = some (c', t) ∨ (x.made[i]? = none ∧ c' = c ∧ t = c.work) := by
    intro i c' t hmade
    by_cases hi : i < x.made.length
    · rw [List.getElem?_append_left hi] at hmade
      exact Or.inl hmade
    · have hlast : i = x.made.length := by
        have hbound := (List.getElem?_eq_some_iff.1 hmade).1
        simp at hbound
        omega
      rw [hlast] at hmade ⊢
      simp at hmade
      exact Or.inr ⟨by simp, hmade.1.symm, hmade.2.symm⟩
  refine ⟨?_, ?_, h.kept, ?_⟩
  · intro i c' t hmade
    rcases hcases i c' t hmade with hold | ⟨hnone, rfl, rfl⟩
    · exact h.standing i c' t hold
    · exact .new (h.unmade i hnone) rfl
  · intro i hnone
    refine h.unmade i ?_
    rw [List.getElem?_eq_none_iff] at hnone ⊢
    simp at hnone
    omega
  · intro i id t hmade hbegun
    rcases hcases i _ t hmade with hold | ⟨hnone, _, _⟩
    · exact h.silent i id t hold hbegun
    · rw [h.unmade i hnone] at hbegun
      cases hbegun

/-- Neither does what others do while nobody has the turn. -/
theorem other (h : x.Sound past) (w : World) (hturn : x.turn = none)
    (hkept : x.world.suppressed = true → w.suppressed = true) :
    Sound { x with world := w } past := by
  refine ⟨?_, h.unmade, fun e he hset => hkept (h.kept e he hset), h.silent⟩
  intro i c t hmade
  refine (h.standing i c t hmade).others ?_
  intro hmine
  rw [hturn] at hmine
  cases hmine

theorem step {i : Nat} {c : Call} {t t' : Work (Except Error Unit)} {r : Ran World}
    (h : x.Sound past) (hmade : x.made[i]? = some (c, t)) (hturn : x.turn = none ∨ x.turn = some i)
    (hstep : Step t r t') (hbefore : r.before = x.world) :
    Sound ⟨r.after, x.made.set i (c, t'), if isSuspended t' r.after then none else some i⟩
      (past ++ [(i, r)]) := by
  have hi : i < x.made.length := (List.getElem?_eq_some_iff.1 hmade).1
  have hself : (x.made.set i (c, t'))[i]? = some (c, t') := List.getElem?_set_self hi
  have hothers : ∀ j, j ≠ i → (x.made.set i (c, t'))[j]? = x.made[j]? := by
    intro j hj
    exact List.getElem?_set_ne (Ne.symm hj)
  have hstanding := h.standing i c t hmade
  rw [← hbefore] at hstanding
  have hmine := hstanding.step hstep
  refine ⟨?_, ?_, ?_, ?_⟩
  · intro j c' t'' hj
    by_cases hij : j = i
    · rw [hij, hself] at hj
      cases hj
      rw [hij, stepsOf_append_self]
      exact hmine.2
    · rw [hothers j hij] at hj
      rw [stepsOf_append_other (Ne.symm hij)]
      refine (h.standing j c' t'' hj).others ?_
      -- Nobody else has the turn.
      intro htheirs
      rcases hturn with hnone | hsome
      · rw [hnone] at htheirs
        cases htheirs
      · rw [hsome] at htheirs
        exact hij (Option.some.inj htheirs).symm
  · intro j hnone
    have hij : j ≠ i := by
      intro hij
      rw [hij, hself] at hnone
      cases hnone
    rw [hothers j hij] at hnone
    rw [stepsOf_append_other (Ne.symm hij)]
    exact h.unmade j hnone
  · intro e he hset
    rcases List.mem_append.1 he with hold | hnew
    · have hsofar := h.kept e hold hset
      rw [← hbefore] at hsofar
      exact hmine.1 hsofar
    · rw [List.mem_singleton.1 hnew] at hset
      rcases hset with hearlier | hnow
      · exact hmine.1 hearlier
      · exact hnow
  · intro j id t'' hj hbegun
    by_cases hij : j = i
    · rw [hij, hself] at hj
      cases hj
      rw [hij, stepsOf_append_self] at hbegun ⊢
      exact hstanding.silent (h.silent i id t hmade) hstep hbegun
    · rw [hothers j hij] at hj
      rw [stepsOf_append_other (Ne.symm hij)] at hbegun ⊢
      exact h.silent j id t'' hj hbegun

end Calls.Sound

theorem Reached.sound {past : List (Nat × Ran World)} {x : Calls} (h : Reached w past x) :
    x.Sound past := by
  induction h with
  | start => exact .start w
  | quiet _ hmove ih =>
      cases hmove with
      | make c => exact ih.make c
      | other hturn hkept => exact ih.other _ hturn hkept
  | ran _ hmove ih =>
      cases hmove with
      | step hmade hturn hstep hbefore => exact ih.step hmade hturn hstep hbefore

/-- Once questions are suppressed they stay so. A call that began before that may still show one
prompt, which offers to install the requirements; a call that only sees to the environment and
begins after it succeeds in one step and changes nothing. -/
theorem Reached.after_suppression {past : List (Nat × Ran World)} {x : Calls}
    (h : Reached w past x) :
    (∀ e ∈ past, e.2.before.suppressed = true ∨ e.2.after.suppressed = true →
      x.world.suppressed = true) ∧
    (∀ i, lateOf (stepsOf i past) = [] ∨ lateOf (stepsOf i past) = [installMessage] ∧
      begunSuppressed? (stepsOf i past) = some false) ∧
    ∀ i id t, x.made[i]? = some (.ensure id, t) → begunSuppressed? (stepsOf i past) = some true →
      ∃ r, stepsOf i past = [r] ∧ r.after = r.before ∧ t = .done (.ok ()) := by
  have hsound := h.sound
  refine ⟨hsound.kept, ?_, hsound.silent⟩
  intro i
  cases hmade : x.made[i]? with
  | none =>
      rw [hsound.unmade i hmade]
      exact Or.inl rfl
  | some made => exact (hsound.standing i made.1 made.2 hmade).late

/-! ## A question that comes too late -/

/-- A call takes its steps in a row. -/
theorem Reached.row {runs : List (Ran World)} (hsteps : Steps t v runs t' v') :
    ∀ {past : List (Nat × Ran World)} {made : List (Call × Work (Except Error Unit))}
      {turn : Option Nat}, Reached w past ⟨v, made, turn⟩ → made[i]? = some (c, t) →
      turn = none ∨ turn = (if isSuspended t v then none else some i) →
      ∃ turn', (turn' = none ∨ turn' = if isSuspended t' v' then none else some i) ∧
        Reached w (past ++ runs.map (i, ·)) ⟨v', made.set i (c, t'), turn'⟩ := by
  induction hsteps with
  | none t v =>
      intro past made turn h hmade hturn
      have hsame : made.set i (c, t) = made := by
        rcases List.getElem?_eq_some_iff.1 hmade with ⟨hi, hget⟩
        rw [← hget, List.set_getElem_self]
      rw [hsame, List.map_nil, List.append_nil]
      exact ⟨turn, hturn, h⟩
  | @more t t₁ t₂ r runs v hstep _ ih =>
      intro past made turn h hmade hturn
      -- The turn is free, or the call has kept it by going on.
      have hallowed : turn = none ∨ turn = some i := by
        rcases hturn with hnone | hmine
        · exact Or.inl hnone
        · cases hsuspended : isSuspended t r.before with
          | true => exact Or.inl (by simpa [hsuspended] using hmine)
          | false => exact Or.inr (by simpa [hsuspended] using hmine)
      have hone := Reached.ran h (.step hmade hallowed hstep rfl)
      have hi : i < made.length := (List.getElem?_eq_some_iff.1 hmade).1
      rcases ih hone (List.getElem?_set_self hi) (Or.inr rfl) with ⟨turn', hturn', hreached⟩
      refine ⟨turn', hturn', ?_⟩
      simpa using hreached

/-- A call takes its steps up to a waiting point. -/
theorem Reached.upTo {past : List (Nat × Ran World)} {runs : List (Ran World)}
    {made : List (Call × Work (Except Error Unit))} (h : Reached w past ⟨v, made, none⟩)
    (hmade : made[i]? = some (c, t)) (hsteps : Steps t v runs t' v') :
    isSuspended t' v' = true →
      Reached w (past ++ runs.map (i, ·)) ⟨v', made.set i (c, t'), none⟩ := by
  intro hsuspended
  rcases Reached.row hsteps h hmade (Or.inl rfl) with ⟨turn', hturn', hreached⟩
  rw [hsuspended, if_pos rfl, or_self] at hturn'
  rwa [hturn'] at hreached

/-! A call that finds its project inside an environment asks the interpreter about the requirements,
and goes on with what it answers. -/

/-- What a call goes on with once the interpreter has answered. -/
def offering (id : ProjectId) (status : RequirementsStatus) : Work (Except Error Unit) :=
  (Attempt.ofWork do
    update id fun s => { s with requirements := some status }
    match status with
    | .unsatisfied => do
      match ← Work.prompt installMessage .yesNoSuppress with
      | .yes => install id
      | .suppress => suppress
      | .no | .dismissed => pure ()
    | .satisfied | .unknown => pure ()).run

/-- The world in which a project is known to be inside an environment. -/
def entered (id : ProjectId) (w : World) : World := ((setPhase id .inside).run w).2

/-- The run that is started then. -/
def asking (id : ProjectId) (w : World) : Invocation :=
  requirementsInvocation (entered id w) ((entered id w).root id)

/-- What it will come to, and when. -/
def pending (id : ProjectId) (w : World) : Except Error Outcome × Option Nat :=
  ((Work.launch (asking id w)).run (entered id w)).1

/-- The world in which it was started. -/
def launched (id : ProjectId) (w : World) : World :=
  ((Work.launch (asking id w)).run (entered id w)).2

theorem steps_launched (id : ProjectId) (hflag : w.suppressed = false)
    (hinside : isInside w (w.root id) = true)
    (hfile : (entered id w).files.isFile (requirementsFile ((entered id w).root id)) = true) :
    ∃ runs, Steps (ensure id).run w runs
      (.await (.until (pending id w).2) (offering id (statusOf (pending id w).1)))
      (launched id w) := by
  -- It looks, notes that it is inside, looks again for the file, and starts the run.
  have hlook : ∃ t, Step (ensure id).run ⟨w, World, Act.world.run⟩ t ∧
      t = .act (setPhase id .inside).run fun _ => (Attempt.ofWork (ensureRequirements id)).run := by
    refine ⟨_, Attempt.world_step _ w, ?_⟩
    rw [hflag, if_neg Bool.false_ne_true, hinside, if_pos rfl]
    rfl
  have hread : ∃ t, Step (Attempt.ofWork (ensureRequirements id)).run
      ⟨entered id w, World, Act.world.run⟩ t ∧
      t = .act (Work.launch (asking id w)).run fun started =>
        .await (.until started.2) (offering id (statusOf started.1)) := by
    refine ⟨_, Step.act Act.world.run _ _, ?_⟩
    have hself : (Act.world.run (entered id w)).1 = entered id w := rfl
    rw [hself]
    dsimp only [Task.bind]
    rw [hfile]
    rfl
  rcases hlook with ⟨_, hlook, rfl⟩
  rcases hread with ⟨_, hread, rfl⟩
  have hlaunch := Steps.single (Step.act (Work.launch (asking id w)).run (fun started =>
    .await (.until started.2) (offering id (statusOf started.1))) (entered id w))
  exact ⟨_, .more hlook (.more (.act _ _ w) (.more hread hlaunch))⟩

/-- What it goes on with after the offer. -/
def replying (id : ProjectId) (answer : Host.Answer) : Work (Except Error Unit) :=
  (Attempt.ofWork (match answer with
    | .yes => install id
    | .suppress => suppress
    | .no | .dismissed => pure () : Work Unit)).run

/-- The world in which it makes the offer, and the world after it. -/
def noted (id : ProjectId) (w : World) : World :=
  ((update id fun s => { s with requirements := some .unsatisfied }).run w).2

def offered (id : ProjectId) (w : World) : World :=
  ((Act.ask (Host.prompt installMessage .yesNoSuppress)).run (noted id w)).2

/-- Where the requirements are not met, the offer is made whatever became of the suppression. -/
theorem steps_offering (id : ProjectId) (wait : Wait) (w : World) :
    ∃ runs r, Steps (.await wait (offering id .unsatisfied)) w (runs ++ [r])
        (.await .dialog (replying id (Host.prompt installMessage .yesNoSuppress w.host).1))
        (offered id w) ∧
      r.before.suppressed = w.suppressed ∧ r.prompts = [installMessage] := by
  let note := (update id fun s => { s with requirements := some .unsatisfied }).run
  let offer := (Act.ask (Host.prompt installMessage .yesNoSuppress)).run
  refine ⟨[.change w fun w => w, ⟨w, Unit, note⟩], ⟨noted id w, Host.Answer, offer⟩, ?_, rfl, rfl⟩
  refine .more (.await wait _ w) (.more (.act note _ w) ?_)
  exact .more
    (.act offer (fun answer => .await .dialog (replying id answer)) (noted id w)) (.none _ _)

/-- Two projects with requirements, an interpreter in an environment, and a person who wants no more
questions. -/
def pair : World :=
  { World.start
      { cwd := ⟨"/"⟩
        now := 0
        nodes :=
          [(["v"], .dir), (["v", "activate_this.py"], .file ⟨⟨#[]⟩, false, false, 0⟩),
            (["one"], .dir), (["one", "requirements.txt"], .file ⟨⟨#[]⟩, false, false, 0⟩),
            (["two"], .dir), (["two", "requirements.txt"], .file ⟨⟨#[]⟩, false, false, 0⟩)] }
      (.recorder { Host.Recorder.fresh with prompts := [.suppress] }) (.script .empty)
      { config := { Config.default with python := some "/v/python" }
        platform := .unix
        scripts := ⟨⟨"/s/parse_file.py"⟩, ⟨"/s/parse_requirements.py"⟩⟩
        initOnOpen := false } with
    projects := [Project.fresh ⟨"/one"⟩, Project.fresh ⟨"/two"⟩]
    registry := [0, 1] }

/-- Both calls start the interpreter, the first one is answered, and then the second one asks. -/
theorem reached_pair : ∃ past x r, Reached pair past x ∧ (1, r) ∈ past ∧
    r.before.suppressed = true ∧ r.prompts = [installMessage] := by
  let both := launched 1 (launched 0 pair)
  let silenced := (suppress.run (offered 0 both)).2
  -- Both calls find that questions are not suppressed.
  have hfirst := steps_launched 0 (w := pair) rfl (by decide +kernel) (by decide +kernel)
  have hsecond :=
    steps_launched 1 (w := launched 0 pair) rfl (by decide +kernel) (by decide +kernel)
  rcases hfirst with ⟨runs₀, hfirst⟩
  rcases hsecond with ⟨runs₁, hsecond⟩
  -- The first one makes its offer, and the answer suppresses questions.
  rcases steps_offering 0 (.until (pending 0 pair).2) both with ⟨runs₂, r₂, hoffer, _, _⟩
  have hreply : Steps (.await .dialog (replying 0 .suppress)) (offered 0 both)
      [.change (offered 0 both) fun w => w, ⟨offered 0 both, Unit, suppress.run⟩] (.done (.ok ()))
      silenced :=
    .more (.await _ _ _) (.more (.act _ _ _) (.none _ _))
  -- The second one makes its offer after that.
  rcases steps_offering 1 (.until (pending 1 (launched 0 pair)).2) silenced with
    ⟨runs₃, r₃, hlate, hflag, hprompts⟩
  have hmade := Reached.quiet (.quiet (.start (w := pair)) (.make _ (.ensure 0)))
    (.make _ (.ensure 1))
  have hone := hmade.upTo (i := 0) rfl hfirst rfl
  have htwo := hone.upTo (i := 1) rfl hsecond rfl
  have hanswered := htwo.upTo (i := 0) rfl (hoffer.trans hreply) rfl
  have hend := hanswered.upTo (i := 1) rfl hlate rfl
  exact ⟨_, _, r₃, hend, by simp, hflag, hprompts⟩

/-- What a call shows while questions are suppressed counts as late. -/
theorem mem_lateOf {past : List (Nat × Ran World)} {message : String} :
    (i, r) ∈ past → r.before.suppressed = true → message ∈ r.prompts →
      message ∈ lateOf (stepsOf i past) := by
  intro hmem hflag hmessage
  have hstep : r ∈ stepsOf i past := by
    refine List.mem_map.2 ⟨(i, r), ?_, rfl⟩
    simp [hmem]
  exact List.mem_flatMap.2 ⟨r, List.mem_filter.2 ⟨hstep, hflag⟩, hmessage⟩

/-- It was past its look at the suppression, and shows no more than that. -/
theorem after_suppression_pair : ∃ past x, Reached pair past x ∧ x.world.suppressed = true ∧
    lateOf (stepsOf 1 past) = [installMessage] ∧
    begunSuppressed? (stepsOf 1 past) = some false := by
  rcases reached_pair with ⟨past, x, r, hreached, hmem, hflag, hprompts⟩
  rcases hreached.after_suppression with ⟨hkept, hlate, _⟩
  refine ⟨past, x, hreached, hkept _ hmem (Or.inl hflag), ?_⟩
  rcases hlate 1 with hnone | hone
  · have hshown : installMessage ∈ lateOf (stepsOf 1 past) :=
      mem_lateOf hmem hflag (by simp [hprompts])
    rw [hnone] at hshown
    cases hshown
  · exact hone

/-- So that questions are suppressed does not mean that none is shown any more. -/
theorem reached_offer : ¬ ∀ past x, Reached pair past x →
    ∀ e ∈ past, e.2.before.suppressed = true → e.2.prompts = [] := by
  intro hsilent
  rcases reached_pair with ⟨past, x, r, hreached, hmem, hflag, hprompts⟩
  have hnone := hsilent past x hreached _ hmem hflag
  rw [hprompts] at hnone
  cases hnone

end Environment
end Testbench
