import Testbench.Proofs.Dispatch.Cursor
import Testbench.Proofs.Lens.Sessions
import Testbench.Proofs.Listing.Single
import Testbench.Proofs.Task.Resting

/-!
# Idle — what it means that no listing is being made

Any number of listings may be made at once. Each of them takes its steps between those of the
others, and ends because it is done, because its time is up, or because it is given up while it
waits. The counter is the number of those that are under way, and so it never runs below zero; the
mark that listings are being made is set exactly while there is one. Whoever waits for the mark to
go finds no listing under way, and as the last listing the one that was stored last.

- `Call`, `Session`, `Reached`  : listings and others in any order;
- `Course`                      : how far a listing has come;
- `Effect`                      : what a step or the end of a listing changes;
- `Sound`, `Reached.sound`      : the invariant;
- `Reached.idle_means_idle`     : the counter, the mark, those who wait, and the last listing.
-/

namespace Testbench
namespace Listing

open Outline (Node)
open Testbench.Task (Goes GoesOn Obeys Ran)

/-! ## Calls -/

/-- A call for the top level: what is left of it, and the world in which it looked for the editor
and the project, once it did. -/
inductive Call : Type 1 where
  | live (seen : Option World) (task : Work (List Node))
  | dropped

namespace Call

/-- A listing was begun and has not ended. -/
def isUnderWay : Call → Bool
  | .live _ (.guarded ..) => true
  | _ => false

/-- The project was looked up, and there is no result. -/
def isOpen : Call → Bool
  | .live (some _) t => !t.isDone
  | _ => false

/-- It has not begun, or waits, or has ended. -/
def isSettled : Call → Bool
  | .live (some _) t => t.isDone || t.rests
  | _ => true

/-- The listing of a call that found a project, once it is known. -/
def ending? : Call → Option RootListing
  | .live (some seen) t => do
    let editor ← seen.host.editor?
    let _ ← Registry.find? seen editor.file
    let nodes ← t.outcome?
    some ⟨editor.file, nodes⟩
  | _ => none

end Call

/-- Worlds with the same listings, as far as others see them. -/
structure Alike (w w' : World) : Prop where
  active : w'.listing.active = w.listing.active
  refreshing : w'.listing.refreshing = w.listing.refreshing
  last : w'.listing.last = w.listing.last

structure Session : Type 1 where
  world : World
  calls : List Call
  /-- The listings of calls that were done or whose time was up, in that order. -/
  endings : List (Nat × RootListing)

/-- What a change of one call adds to them. -/
def newEnding (i : Nat) (call call' : Call) : List (Nat × RootListing) :=
  match call.ending?, call'.ending? with
  | none, some l => [(i, l)]
  | _, _ => []

def Session.put (s : Session) (i : Nat) (call call' : Call) (w : World) : Session :=
  ⟨w, s.calls.set i call', s.endings ++ newEnding i call call'⟩

/-- What can be reached when calls take steps in any order, are dropped before they begin or while
they wait, and others leave the listings alone. -/
inductive Reached (w₀ : World) : Session → Prop where
  | start : Reached w₀ ⟨w₀, [], []⟩
  | ask {s : Session} (h : Reached w₀ s) :
      Reached w₀ { s with calls := s.calls ++ [.live none topLevel] }
  | goes {s : Session} {i : Nat} {seen : Option World} {t t' : Work (List Node)} {r : Ran World}
      (h : Reached w₀ s) (hcall : s.calls[i]? = some (.live seen t))
      (hgoes : Goes World.isReady t r t') (hbefore : r.before = s.world) :
      Reached w₀ (s.put i (.live seen t) (.live (some (seen.getD s.world)) t') r.after)
  | drop {s : Session} {i : Nat} {seen : Option World} {t : Work (List Node)} (h : Reached w₀ s)
      (hcall : s.calls[i]? = some (.live seen t)) (hrests : seen = none ∨ t.rests = true) :
      Reached w₀ (s.put i (.live seen t) .dropped (t.abandon s.world))
  | other {s : Session} {w : World} (h : Reached w₀ s) (halike : Alike s.world w) :
      Reached w₀ { s with world := w }

/-! ## How far a listing has come -/

/-- While its parts are fetched, a listing leaves all listings alone. -/
def quiet : Law World PUnit where
  allows _ r := r.after.listing = r.before.listing
  note _ := ⟨⟩
  mild f := ∀ w, (f w).listing = w.listing
  allows_mild hf := hf _
  mild_id _ := rfl
  mild_comp hf hg w := (hg _).trans (hf w)

theorem admitsFetch_quiet : AdmitsFetch quiet where
  look _ _ := rfl
  queueUp _ _ _ := rfl
  lookUp _ root key file w := by
    change ((Parsing.lookUp root key file).run w).2.listing = w.listing
    cases htime : ProjectFiles.modifiedMillis w.files file with
    | error cause => rw [Activity.run_lookUp_error htime]
    | ok modified => rw [Activity.run_lookUp_ok htime]
  launch _ p v w file := by
    change ((Work.launch (p.invocation v file)).run w).2.listing = w.listing
    rw [Activity.run_launch]
    cases w.runner <;> rfl
  conclude _ _ _ _ _ v _ := by cases v <;> rfl
  turn _ _ _ := rfl

/-- What is left of the listing of a file. -/
inductive Course (id : ProjectId) (file : Path) : Work (List Node) → Prop where
  | begun : Course id file (list id file)
  | fetching {body : Work (Option (List Outline.Class × List Outline.Function))} {past : List PUnit}
      (h : body.Obeys quiet anyhow past) :
      Course id file (.guarded (body.bind (keeping id file)) leave .done)
  | storing (root : Path) (fetched : Option (List Outline.Class × List Outline.Function)) :
      Course id file (.guarded (Task.lift (store root file fetched)) leave .done)
  | stored (nodes : List Node) : Course id file (.guarded (.done nodes) leave .done)
  | closed (nodes : List Node) : Course id file (.done nodes)

/-- What may be left of a call. -/
def Call.IsSound : Call → Prop
  | .live none t => t = topLevel
  | .live (some seen) t =>
    (t = .done [] ∧ ∀ editor, seen.host.editor? = some editor →
      Registry.find? seen editor.file = none) ∨
    ∃ editor id, seen.host.editor? = some editor ∧ Registry.find? seen editor.file = some id ∧
      Course id editor.file t
  | .dropped => True

/-! ## What a step changes -/

/-- A step or the end of a call, as far as listings are concerned. -/
inductive Effect (call call' : Call) (w w' : World) : Prop where
  | nothing (hway : call'.isUnderWay = call.isUnderWay) (hending : call'.ending? = call.ending?)
      (h : Alike w w')
  | begins (hway : call.isUnderWay = false) (hway' : call'.isUnderWay = true)
      (hending : call'.ending? = call.ending?) (h : Alike (enter.run w).2 w')
  | stores {l : RootListing} (hway : call.isUnderWay = true) (hway' : call'.isUnderWay = true)
      (hending : call.ending? = none) (hending' : call'.ending? = some l)
      (h : Alike { w with listing := { w.listing with last := some l } } w')
  | ends (hway : call.isUnderWay = true) (hway' : call'.isUnderWay = false)
      (hending : call'.ending? = call.ending?) (h : Alike (leave w) w')

theorem Alike.of_listing {w w' : World} (h : w'.listing = w.listing) : Alike w w' :=
  ⟨by rw [h], by rw [h], by rw [h]⟩

theorem isDone_keeping (id : ProjectId) (file : Path)
    (fetched : Option (List Outline.Class × List Outline.Function)) :
    (keeping id file fetched).isDone = false := rfl

section

variable {seen : World} {editor : Host.Editor} {id : ProjectId} {t t' : Work (List Node)}
  {r : Ran World}

theorem ending?_live (heditor : seen.host.editor? = some editor)
    (hid : Registry.find? seen editor.file = some id) (t : Work (List Node)) :
    (Call.live (some seen) t).ending? = t.outcome?.map fun nodes => ⟨editor.file, nodes⟩ := by
  rw [Call.ending?, heditor]
  change ((Registry.find? seen editor.file).bind fun _ => t.outcome?.bind fun nodes =>
    some (⟨editor.file, nodes⟩ : RootListing)) = _
  rw [hid]
  cases t.outcome? <;> rfl

theorem outcome?_fetching (body : Work (Option (List Outline.Class × List Outline.Function)))
    (id : ProjectId) (file : Path) :
    (Task.guarded (body.bind (keeping id file)) leave .done : Work (List Node)).outcome? = none :=
  Task.outcome?_guarded (Task.isDone_bind (isDone_keeping id file)) _ _

/-- A step of a listing that is being made. -/
theorem Course.effect (heditor : seen.host.editor? = some editor)
    (hid : Registry.find? seen editor.file = some id) (h : Course id editor.file t)
    (hgoes : Goes World.isReady t r t') : Course id editor.file t' ∧
      Effect (.live (some seen) t) (.live (some seen) t') r.before r.after := by
  have hending := ending?_live heditor hid
  cases h with
  | begun =>
      have hlift : Goes World.isReady ((Task.lift enter : Work Unit).bind fun _ =>
        .guarded ((fetch id editor.file).bind (keeping id editor.file)) leave .done) r t' := hgoes
      rcases hlift.of_lift with ⟨w, rfl, rfl⟩
      refine ⟨.fetching (admitsFetch_quiet.obeys_fetchOf id editor.file []),
        .begins rfl rfl ?_ ⟨rfl, rfl, rfl⟩⟩
      rw [hending, hending, outcome?_fetching]
      rfl
  | @fetching body past hobeys =>
      rcases Goes.of_guarded hgoes (Task.isDone_bind (isDone_keeping id editor.file)) with
        ⟨body', hbody, rfl⟩
      -- Either the parts are there, or fetching them goes on, which no listing can tell.
      rcases hbody.of_bind with ⟨fetched, rfl⟩ | ⟨rest, hrest, rfl⟩
      · have hlift : Goes World.isReady (keeping id editor.file fetched) r body' := hbody
        rcases hlift.of_lift with ⟨w, rfl, rfl⟩
        refine ⟨.storing (w.root id) fetched, .nothing rfl ?_ ⟨rfl, rfl, rfl⟩⟩
        rw [hending, hending, outcome?_fetching]
        rfl
      · rcases Obeys.step hrest.step hobeys with ⟨hquiet, hobeys'⟩
        refine ⟨.fetching hobeys', .nothing rfl ?_ (.of_listing hquiet)⟩
        rw [hending, hending, outcome?_fetching, outcome?_fetching]
  | storing root fetched =>
      rcases Goes.of_guarded hgoes rfl with ⟨body', hbody, rfl⟩
      rw [← Task.bind_done (Task.lift _)] at hbody
      rcases hbody.of_lift with ⟨w, rfl, rfl⟩
      rcases run_store root editor.file fetched w with ⟨nodes, jobs, next, -, hrun⟩
      refine ⟨.stored _, .stores (l := ⟨editor.file, nodes⟩) rfl rfl ?_ ?_ ?_⟩
      · rw [hending]
        rfl
      · rw [hending, hrun]
        rfl
      · change Alike _ ((store root editor.file fetched).run w).2
        rw [hrun]
        exact ⟨rfl, rfl, rfl⟩
  | stored nodes =>
      cases hgoes with
      | inside hbody => exact nomatch hbody
      | release _ _ _ w =>
          refine ⟨.closed nodes, .ends rfl rfl ?_ ⟨rfl, rfl, rfl⟩⟩
          rw [hending, hending]
          rfl
  | closed nodes => exact nomatch hgoes

/-- A listing that is given up while it waits. -/
theorem Course.effect_drop (heditor : seen.host.editor? = some editor)
    (hid : Registry.find? seen editor.file = some id) (h : Course id editor.file t)
    (hrests : t.rests = true) (w : World) :
    Effect (.live (some seen) t) .dropped w (t.abandon w) := by
  -- A listing waits only while its parts are fetched, and then it has nothing to store.
  cases h with
  | @fetching body past hobeys =>
      have hopen : body.isDone = false := by
        cases body with
        | done fetched => cases hrests
        | act _ _ | await _ _ | both _ _ _ _ | guarded _ _ _ => rfl
      have hquiet : (body.abandon w).listing = w.listing := hobeys.abandon w
      refine .ends rfl rfl ?_ ?_
      · rw [ending?_live heditor hid, outcome?_fetching]
        rfl
      · rw [Task.abandon, Task.abandon_bind hopen]
        refine .of_listing ?_
        rw [leave, leave, hquiet]
  | begun | storing | stored | closed => cases hrests

end

theorem ending?_of_none {seen : World} (h : ∀ editor, seen.host.editor? = some editor →
    Registry.find? seen editor.file = none) (t : Work (List Node)) :
    (Call.live (some seen) t).ending? = none := by
  rw [Call.ending?]
  cases heditor : seen.host.editor? with
  | none => rfl
  | some editor =>
      change ((Registry.find? seen editor.file).bind fun _ => _) = none
      rw [h editor heditor]
      rfl

theorem listIn_cases (w : World) :
    (listIn w = .done [] ∧ ∀ editor, w.host.editor? = some editor →
      Registry.find? w editor.file = none) ∨
    ∃ editor id, w.host.editor? = some editor ∧ Registry.find? w editor.file = some id ∧
      listIn w = list id editor.file := by
  unfold listIn
  cases heditor : w.host.editor? with
  | none => exact .inl ⟨rfl, fun _ hsome => nomatch hsome⟩
  | some editor =>
      cases hid : Registry.find? w editor.file with
      | none => exact .inl ⟨by simp only [hid]; rfl, fun _ hsome => Option.some.inj hsome ▸ hid⟩
      | some id => exact .inr ⟨editor, id, rfl, hid, by simp only [hid]⟩

namespace Call.IsSound

variable {seen : Option World} {t t' : Work (List Node)} {r : Ran World}

/-- A step of a call. -/
theorem goes (h : (Call.live seen t).IsSound) (hgoes : Goes World.isReady t r t') :
    (Call.live (some (seen.getD r.before)) t').IsSound ∧
      Effect (.live seen t) (.live (some (seen.getD r.before)) t') r.before r.after := by
  cases seen with
  | none =>
      rcases h with rfl
      have hlift : Goes World.isReady ((Task.lift Act.world : Work World).bind listIn) r t' := hgoes
      rcases hlift.of_lift with ⟨w, rfl, rfl⟩
      change (Call.live (some w) (listIn w)).IsSound ∧ Effect _ (.live (some w) (listIn w)) w w
      -- With nothing to list the call is done. Otherwise a listing is begun.
      rcases listIn_cases w with ⟨hlist, hnone⟩ | ⟨editor, id, heditor, hid, hlist⟩
      · rw [hlist]
        exact ⟨.inl ⟨rfl, hnone⟩, .nothing rfl (ending?_of_none hnone _) (.of_listing rfl)⟩
      · rw [hlist]
        exact ⟨.inr ⟨editor, id, heditor, hid, .begun⟩,
          .nothing rfl (ending?_live heditor hid _) (.of_listing rfl)⟩
  | some seen =>
      rcases h with ⟨rfl, -⟩ | ⟨editor, id, heditor, hid, hcourse⟩
      · exact nomatch hgoes
      · rcases hcourse.effect heditor hid hgoes with ⟨hcourse', heffect⟩
        exact ⟨.inr ⟨editor, id, heditor, hid, hcourse'⟩, heffect⟩

theorem drop (h : (Call.live seen t).IsSound) (hrests : seen = none ∨ t.rests = true) (w : World) :
    Effect (.live seen t) .dropped w (t.abandon w) := by
  cases seen with
  | none =>
      rcases h with rfl
      exact .nothing rfl rfl (.of_listing rfl)
  | some seen =>
      have hrests := hrests.resolve_left (Option.some_ne_none seen)
      rcases h with ⟨rfl, -⟩ | ⟨editor, id, heditor, hid, hcourse⟩
      · cases hrests
      · exact hcourse.effect_drop heditor hid hrests w

end Call.IsSound

/-! ## The invariant -/

/-- One element counts as it did, or as it does now. -/
theorem countP_set_add {α : Type*} {l : List α} {i : Nat} {a : α} (h : l[i]? = some a) (b : α)
    (P : α → Bool) : (l.set i b).countP P + (if P a = true then 1 else 0) =
      l.countP P + (if P b = true then 1 else 0) := by
  rcases List.getElem?_eq_some_iff.1 h with ⟨hi, rfl⟩
  rw [List.countP_set hi]
  by_cases hold : P l[i] = true
  · have hpos : 0 < l.countP P := List.countP_pos_iff.2 ⟨_, List.getElem_mem hi, hold⟩
    rw [if_pos hold]
    omega
  · rw [if_neg hold]
    omega

structure Sound (w₀ : World) (s : Session) : Prop where
  calls : ∀ call ∈ s.calls, call.IsSound
  active : s.world.listing.active = s.calls.countP Call.isUnderWay
  refreshing : s.world.listing.refreshing = decide (0 < s.world.listing.active)
  last : s.world.listing.last = (s.endings.getLast?.map (·.2)).or w₀.listing.last
  endings : ∀ i l, (i, l) ∈ s.endings ↔ s.calls[i]?.bind Call.ending? = some l
  once : (s.endings.map (·.1)).Nodup

section

variable {w₀ w : World} {s : Session} {i : Nat} {call call' : Call}

theorem newEnding_of_eq (h : call'.ending? = call.ending?) : newEnding i call call' = [] := by
  rw [newEnding, h]
  cases call.ending? <;> rfl

theorem newEnding_of_none {l : RootListing} (h : call.ending? = none)
    (h' : call'.ending? = some l) : newEnding i call call' = [(i, l)] := by
  rw [newEnding, h, h']

theorem mem_newEnding {j : Nat} {l : RootListing} : (j, l) ∈ newEnding i call call' ↔
    j = i ∧ call.ending? = none ∧ call'.ending? = some l := by
  rw [newEnding]
  cases call.ending? <;> cases call'.ending? <;> simp [eq_comm]

theorem Effect.ending (h : Effect call call' s.world w) :
    call'.ending? = call.ending? ∨ call.ending? = none := by
  cases h with
  | nothing _ hending _ | begins _ _ hending _ | ends _ _ hending _ => exact .inl hending
  | stores _ _ hending _ _ => exact .inr hending

namespace Sound

theorem start (hactive : w₀.listing.active = 0) (hrefreshing : w₀.listing.refreshing = false) :
    Sound w₀ ⟨w₀, [], []⟩ where
  calls _ hcall := absurd hcall List.not_mem_nil
  active := hactive
  refreshing := by rw [hrefreshing, hactive]; rfl
  last := rfl
  endings _ _ := by simp
  once := List.nodup_nil

theorem ask (h : Sound w₀ s) : Sound w₀ { s with calls := s.calls ++ [.live none topLevel] } where
  calls call hcall := by
    rcases List.mem_append.1 hcall with hold | hnew
    · exact h.calls call hold
    · rw [List.mem_singleton.1 hnew]
      rfl
  active := by
    rw [List.countP_append, h.active]
    rfl
  refreshing := h.refreshing
  last := h.last
  endings i l := by
    rw [h.endings i l, List.getElem?_append]
    split
    · rfl
    -- A call that has just been made has come to nothing yet.
    · rename_i hi
      rw [List.getElem?_eq_none (Nat.le_of_not_lt hi)]
      cases (i - s.calls.length) <;> simp [Call.ending?]
  once := h.once

theorem other (h : Sound w₀ s) (halike : Alike s.world w) : Sound w₀ { s with world := w } where
  calls := h.calls
  active := halike.active.trans h.active
  refreshing := by
    rw [halike.refreshing, halike.active]
    exact h.refreshing
  last := halike.last.trans h.last
  endings := h.endings
  once := h.once

/-- The endings of the calls after a change of one of them. -/
theorem endings_put (h : Sound w₀ s) (hcall : s.calls[i]? = some call)
    (hending : call'.ending? = call.ending? ∨ call.ending? = none) (j : Nat) (l : RootListing) :
    (j, l) ∈ s.endings ++ newEnding i call call' ↔
      (s.calls.set i call')[j]?.bind Call.ending? = some l := by
  rw [List.mem_append, h.endings j l, mem_newEnding]
  by_cases hj : j = i
  · rw [hj, hcall, List.getElem?_set_self (List.getElem?_eq_some_iff.1 hcall).1, Option.bind_some,
      Option.bind_some]
    rcases hending with hsame | hnone
    · rw [hsame]
      constructor
      · rintro (hold | ⟨-, -, hnew⟩)
        · exact hold
        · exact hnew
      · exact .inl
    · rw [hnone]
      simp
  · rw [List.getElem?_set_ne (Ne.symm hj)]
    simp [hj]

theorem once_put (h : Sound w₀ s) (hcall : s.calls[i]? = some call) :
    ((s.endings ++ newEnding i call call').map (·.1)).Nodup := by
  rcases hnew : newEnding i call call' with _ | ⟨⟨j, l⟩, rest⟩
  · rw [List.append_nil]
    exact h.once
  · -- A call without an ending is not among those that have one.
    have hmem : (j, l) ∈ newEnding i call call' := hnew ▸ List.mem_cons_self
    rcases mem_newEnding.1 hmem with ⟨rfl, hnone, hsome⟩
    rw [← hnew, newEnding_of_none hnone hsome, List.map_append, List.nodup_append]
    refine ⟨h.once, List.nodup_singleton j, fun k hk k' hk' heq => ?_⟩
    rcases List.mem_map.1 hk with ⟨⟨_, l'⟩, hold, rfl⟩
    have hsame : _ = j := heq.trans (List.mem_singleton.1 hk')
    have hending := (h.endings j l').1 (hsame ▸ hold)
    rw [hcall, Option.bind_some, hnone] at hending
    cases hending

/-- The invariant is kept when one call changes. -/
theorem put (h : Sound w₀ s) (hcall : s.calls[i]? = some call) (hsound : call'.IsSound)
    (heffect : Effect call call' s.world w) : Sound w₀ (s.put i call call' w) := by
  have hcount := countP_set_add hcall call' Call.isUnderWay
  have hcalls : ∀ c ∈ s.calls.set i call', c.IsSound := by
    intro c hc
    rcases List.mem_or_eq_of_mem_set hc with hold | rfl
    · exact h.calls c hold
    · exact hsound
  -- Without a new ending, the last listing is the one that it was.
  have hlast : call'.ending? = call.ending? → w.listing.last = s.world.listing.last →
      w.listing.last =
        ((s.endings ++ newEnding i call call').getLast?.map (·.2)).or w₀.listing.last := by
    intro hending hsame
    rw [newEnding_of_eq hending, List.append_nil, hsame]
    exact h.last
  suffices hworld : w.listing.active = (s.calls.set i call').countP Call.isUnderWay ∧
      w.listing.refreshing = decide (0 < w.listing.active) ∧ w.listing.last =
        ((s.endings ++ newEnding i call call').getLast?.map (·.2)).or w₀.listing.last from
    ⟨hcalls, hworld.1, hworld.2.1, hworld.2.2, h.endings_put hcall heffect.ending,
      h.once_put hcall⟩
  have hactive := h.active
  have hrefreshing := h.refreshing
  cases heffect with
  | nothing hway hending halike =>
      rw [hway, Nat.add_right_cancel_iff] at hcount
      rw [halike.active, halike.refreshing, hcount]
      exact ⟨hactive, hrefreshing, hlast hending halike.last⟩
  | begins hway hway' hending halike =>
      rw [hway, hway', if_neg Bool.false_ne_true, if_pos rfl] at hcount
      have hmore : w.listing.active = s.world.listing.active + 1 := halike.active
      have hset : w.listing.refreshing = true := halike.refreshing
      rw [hmore, hset]
      exact ⟨by omega, by simp, hlast hending halike.last⟩
  | @stores l hway hway' hending hending' halike =>
      rw [hway, hway', Nat.add_right_cancel_iff] at hcount
      have hsame : w.listing.active = s.world.listing.active := halike.active
      have hset : w.listing.refreshing = s.world.listing.refreshing := halike.refreshing
      have hnew : w.listing.last = some l := halike.last
      rw [hsame, hset, hnew, newEnding_of_none hending hending', hcount]
      exact ⟨hactive, hrefreshing, by simp⟩
  | ends hway hway' hending halike =>
      -- The mark goes with the last one, which is the one that finds the counter at one.
      rw [hway, hway', if_pos rfl, if_neg Bool.false_ne_true] at hcount
      have hless : w.listing.active = s.world.listing.active - 1 := halike.active
      have hset : w.listing.refreshing =
        (s.world.listing.refreshing && s.world.listing.active != 1) := halike.refreshing
      rw [hset, hrefreshing, hless]
      refine ⟨by omega, ?_, hlast hending halike.last⟩
      rw [Bool.eq_iff_iff, Bool.and_eq_true, decide_eq_true_iff, decide_eq_true_iff, bne_iff_ne]
      omega

end Sound

end

/-! ## What others see -/

section

variable {w₀ : World} {s : Session}

theorem Reached.sound (h : Reached w₀ s) (hactive : w₀.listing.active = 0)
    (hrefreshing : w₀.listing.refreshing = false) : Sound w₀ s := by
  induction h with
  | start => exact .start hactive hrefreshing
  | ask _ ih => exact ih.ask
  | goes _ hcall hgoes hbefore ih =>
      have hgone := Call.IsSound.goes (ih.calls _ (List.mem_of_getElem? hcall)) hgoes
      rw [hbefore] at hgone
      exact ih.put hcall hgone.1 hgone.2
  | drop _ hcall hrests ih =>
      have hcalls := ih.calls _ (List.mem_of_getElem? hcall)
      exact ih.put hcall trivial (hcalls.drop hrests _)
  | other _ halike ih => exact ih.other halike

namespace Sound

theorem refreshing_iff (h : Sound w₀ s) :
    s.world.listing.refreshing = true ↔ ∃ call ∈ s.calls, call.isUnderWay = true := by
  rw [h.refreshing, decide_eq_true_iff, h.active, List.countP_pos_iff]

/-- A listing that waits is under way. -/
theorem isUnderWay_iff_isOpen (h : Sound w₀ s) {call : Call} (hcall : call ∈ s.calls)
    (hsettled : call.isSettled = true) : call.isUnderWay = true ↔ call.isOpen = true := by
  have hsound := h.calls call hcall
  cases call with
  | dropped => exact Iff.rfl
  | live seen t =>
      cases seen with
      | none =>
          rcases hsound with rfl
          exact Iff.rfl
      | some seen =>
          rcases hsound with ⟨rfl, -⟩ | ⟨editor, id, -, -, hcourse⟩
          · exact Iff.rfl
          -- Between the lookup and its beginning a listing does not wait.
          · cases hcourse with
            | begun => cases hsettled
            | fetching | storing | stored | closed => exact Iff.rfl

end Sound

/-! ### Those who wait -/

theorem goes_idle {α : Type} {next : Work α} {r : Ran World} {t : Work α}
    (h : Goes World.isReady (.await .idle next) r t) : r.before.listing.refreshing = false := by
  cases h with
  | await _ hready => exact (Bool.not_eq_true' _).mp hready

/-- A request for lenses looks at the settings, and then it waits. -/
theorem goes_provide {document : Path} {r : Ran World} {t : Work (List Lens)}
    (h : Goes World.isReady (Lens.provide document) r t) :
    t = .done [] ∨ t = Lens.waiting document := by
  have hlift : Goes World.isReady ((Task.lift Act.world : Work World).bind fun w =>
    if !w.setup.config.lenses then .done [] else Lens.waiting document) r t := h
  rcases hlift.of_lift with ⟨w, rfl, rfl⟩
  change (if _ then _ else _) = _ ∨ (if _ then _ else _) = _
  split
  · exact .inl rfl
  · exact .inr rfl

/-- The command for the class at the cursor looks at the editor, and then it waits. -/
theorem goes_runTestcaseHere {r : Ran World} {t : Work (Except Error (Option String))}
    (h : Goes World.isReady Dispatch.runTestcaseHere.run r t) {editor : Host.Editor}
    (heditor : r.before.host.editor? = some editor) : t = Dispatch.seek editor := by
  rw [Dispatch.runTestcaseHere_eq] at h
  rcases Attempt.goes_look h with ⟨w, rfl, rfl⟩
  have hseen : w.host.editor? = some editor := heditor
  rw [Dispatch.seek_eq, hseen]

/-- What is dropped leaves the last listing as it is. -/
theorem Sound.last_abandon (h : Sound w₀ s) {i : Nat} {seen : Option World} {t : Work (List Node)}
    (hcall : s.calls[i]? = some (.live seen t)) (hrests : seen = none ∨ t.rests = true) :
    (t.abandon s.world).listing.last = s.world.listing.last := by
  have hsound := h.calls _ (List.mem_of_getElem? hcall)
  cases hsound.drop hrests s.world with
  | nothing _ _ halike => exact halike.last
  | begins _ hway _ _ => cases hway
  | stores _ hway _ _ _ => cases hway
  | ends _ _ _ halike => exact halike.last

/-- The counter counts the listings under way, so there is something to count down whenever one of
them ends, and listings are marked as being made exactly while one is under way. These are those
that found a project and have no result, whenever every call has not begun, waits or has ended. The
last listing is the one that was stored last, by a call that was done or whose time was up. One who
waits until no listing is being made goes on when none is under way, and finds the last listing;
requests for lenses and the command for the class at the cursor wait like this. -/
theorem Reached.idle_means_idle (h : Reached w₀ s) (hactive : w₀.listing.active = 0)
    (hrefreshing : w₀.listing.refreshing = false) :
    (s.world.listing.active = s.calls.countP Call.isUnderWay ∧
      ∀ call ∈ s.calls, call.isUnderWay = true → 0 < s.world.listing.active) ∧
    (s.world.listing.refreshing = true ↔ ∃ call ∈ s.calls, call.isUnderWay = true) ∧
    ((∀ call ∈ s.calls, call.isSettled = true) →
      (s.world.listing.refreshing = true ↔ ∃ call ∈ s.calls, call.isOpen = true)) ∧
    (s.world.listing.last = (s.endings.getLast?.map (·.2)).or w₀.listing.last ∧
      (∀ i l, (i, l) ∈ s.endings ↔ s.calls[i]?.bind Call.ending? = some l) ∧
      (s.endings.map (·.1)).Nodup) ∧
    (∀ (i : Nat) (seen : Option World) (t : Work (List Node)),
      s.calls[i]? = some (.live seen t) → (seen = none ∨ t.rests = true) →
        (t.abandon s.world).listing.last = s.world.listing.last) ∧
    (∀ (α : Type) (next : Work α) (r : Ran World) (t : Work α),
      Goes World.isReady (.await .idle next) r t → r.before = s.world →
        (∀ call ∈ s.calls, call.isUnderWay = false) ∧
          r.before.listing.last = (s.endings.getLast?.map (·.2)).or w₀.listing.last) ∧
    (∀ (document : Path) (r : Ran World) (t : Work (List Lens)),
      Goes World.isReady (Lens.provide document) r t → t = .done [] ∨ t = Lens.waiting document) ∧
    ∀ (editor : Host.Editor) (r : Ran World) (t : Work (Except Error (Option String))),
      r.before.host.editor? = some editor → Goes World.isReady Dispatch.runTestcaseHere.run r t →
        t = Dispatch.seek editor := by
  have hsound := h.sound hactive hrefreshing
  have hiff := hsound.refreshing_iff
  refine ⟨⟨hsound.active, fun call hcall hway => ?_⟩, hiff, fun hsettled => ?_,
    ⟨hsound.last, hsound.endings, hsound.once⟩, fun _ _ _ => hsound.last_abandon,
    fun α next r t hgoes hbefore => ?_, fun _ _ _ => goes_provide,
    fun _ _ _ heditor hgoes => goes_runTestcaseHere hgoes heditor⟩
  · rw [hsound.active]
    exact List.countP_pos_iff.2 ⟨call, hcall, hway⟩
  · rw [hiff]
    exact exists_congr fun call => and_congr_right fun hcall =>
      hsound.isUnderWay_iff_isOpen hcall (hsettled call hcall)
  -- Whoever waits for it goes on only when nothing is marked.
  · have hidle := goes_idle hgoes
    rw [hbefore] at hidle ⊢
    refine ⟨fun call hcall => ?_, hsound.last⟩
    rw [Bool.eq_false_iff]
    intro hway
    rw [hiff.2 ⟨call, hcall, hway⟩] at hidle
    cases hidle

end

/-! ### A listing that is done, and one that is given up -/

section

variable {w₀ w' : World} {s : Session} {i : Nat} {t t' : Work (List Node)}

/-- A call takes some steps. -/
theorem Reached.goesOn {seen : World} {xs : List (Ran World)} (h : Reached w₀ s)
    (hcall : s.calls[i]? = some (.live (some seen) t))
    (hgoes : GoesOn World.isReady t s.world xs t' w') :
    ∃ endings, Reached w₀ ⟨w', s.calls.set i (.live (some seen) t'), endings⟩ := by
  generalize hw : s.world = w at hgoes
  induction hgoes generalizing s with
  | none t w =>
      refine ⟨s.endings, ?_⟩
      rcases List.getElem?_eq_some_iff.1 hcall with ⟨hi, hcall⟩
      rw [← hcall, List.set_getElem_self, ← hw]
      exact h
  | more hstep _ ih =>
      have hi := (List.getElem?_eq_some_iff.1 hcall).1
      have hnext := ih (h.goes hcall hstep hw.symm) (List.getElem?_set_self hi) rfl
      rw [Session.put, List.set_set] at hnext
      exact hnext

/-- A call begins, and takes some steps. -/
theorem Reached.begins {xs : List (Ran World)} (h : Reached w₀ s)
    (hcall : s.calls[i]? = some (.live none topLevel))
    (hgoes : GoesOn World.isReady (listIn s.world) s.world xs t' w') :
    ∃ endings, Reached w₀ ⟨w', s.calls.set i (.live (some s.world) t'), endings⟩ := by
  have hlook : Goes World.isReady topLevel ⟨s.world, World, Act.world.run⟩ (listIn s.world) :=
    .act _ _ s.world
  have hi := (List.getElem?_eq_some_iff.1 hcall).1
  rcases (h.goes hcall hlook rfl).goesOn (List.getElem?_set_self hi) hgoes with ⟨endings, hnext⟩
  rw [Session.put, List.set_set] at hnext
  exact ⟨endings, hnext⟩

end

/-- A call takes some steps, and another one is asked for and takes some. -/
theorem reached_pair {w₀ w₁ w₂ : World} {t₁ t₂ : Work (List Node)} {xs ys : List (Ran World)}
    (hfirst : GoesOn World.isReady (listIn w₀) w₀ xs t₁ w₁)
    (hsecond : GoesOn World.isReady (listIn w₁) w₁ ys t₂ w₂) :
    ∃ endings, Reached w₀ ⟨w₂, [.live (some w₀) t₁, .live (some w₁) t₂], endings⟩ := by
  rcases (Reached.ask .start).begins (i := 0) rfl hfirst with ⟨_, hfirst⟩
  exact hfirst.ask.begins (i := 1) rfl hsecond

/-- A listing as far as it comes while nothing is ready. -/
def begun (w : World) : Work (List Node) × World := (listIn w).poll (fun _ _ => false) w

theorem goesOn_begun (w : World) :
    ∃ xs, GoesOn World.isReady (listIn w) w xs (begun w).1 (begun w).2 := by
  rcases Task.goesOn_poll (fun _ _ => false) (listIn w) w with ⟨xs, hxs⟩
  exact ⟨xs, hxs.mono fun _ _ hready => absurd hready Bool.false_ne_true⟩

theorem rests_begun {w : World} (h : (begun w).1.isDone = false) : (begun w).1.rests = true := by
  refine (Task.isDone_or_rests_poll (fun _ _ => false) (listIn w) w).resolve_left fun hdone => ?_
  exact Bool.false_ne_true (h.symm.trans hdone)

theorem goesOn_shown (o : Outcome) : ∃ xs, GoesOn World.isReady (listIn (showing o)) (showing o) xs
    (shown o).1 (shown o).2 :=
  Task.goesOn_poll World.isReady (listIn (showing o)) (showing o)

/-- One listing is done, and another is begun and dropped. While the second one waits, listings are
being made; when it was dropped none is, and the last listing is the first one. -/
theorem idle_means_idle_showing : ∃ (busy idle : Session) (nodes : List Node),
    Reached (showing Cache.Table.output) busy ∧ busy.world.listing.refreshing = true ∧
      Reached (showing Cache.Table.output) idle ∧ idle.world.listing.refreshing = false ∧
      idle.world.listing.last = some ⟨leftEditor.file, nodes⟩ ∧ nodes.length = 1 := by
  have hlength := length_shown
  have hopen : (begun (shown Cache.Table.output).2).1.isDone = false := by decide +kernel
  rcases goesOn_shown Cache.Table.output with ⟨xs, hxs⟩
  generalize shown Cache.Table.output = first at hlength hopen hxs
  have hrests := rests_begun hopen
  rcases goesOn_begun first.2 with ⟨ys, hys⟩
  generalize begun first.2 = second at hopen hrests hys
  rcases Option.map_eq_some_iff.1 hlength with ⟨nodes, hnodes, hcount⟩
  rw [Task.eq_done_of_result? hnodes] at hxs
  rcases reached_pair hxs hys with ⟨endings, hbusy⟩
  have hidle := hbusy.drop (i := 1) rfl (.inr hrests)
  refine ⟨_, _, nodes, hbusy, ?_, hidle, ?_, ?_, hcount⟩
  · rcases hbusy.idle_means_idle rfl rfl with ⟨-, -, hopens, -⟩
    refine (hopens fun call hcall => ?_).2 ⟨_, List.mem_cons_of_mem _ List.mem_cons_self, ?_⟩
    · rcases List.mem_pair.1 hcall with rfl | rfl
      · rfl
      · rw [Call.isSettled, hrests, Bool.or_true]
    · rw [Call.isOpen, hopen, Bool.not_false]
  · rcases hidle.idle_means_idle rfl rfl with ⟨-, hways, -⟩
    rw [Bool.eq_false_iff]
    intro hset
    rcases hways.1 hset with ⟨call, hcall, hway⟩
    rcases List.mem_pair.1 hcall with rfl | rfl <;> cases hway
  · rcases hidle.idle_means_idle rfl rfl with ⟨-, -, -, ⟨hlast, hendings, -⟩, -⟩
    have hfirst := ending?_live (editor?_showing Cache.Table.output)
      (find?_showing Cache.Table.output) (.done nodes)
    have hmem := (hendings 0 ⟨leftEditor.file, nodes⟩).2 hfirst
    rw [hlast]
    generalize Session.endings _ = all at hendings hmem
    -- The call that was dropped has no ending, so there is no other.
    rcases hends : all.getLast? with _ | ⟨i, l⟩
    · rw [List.getLast?_eq_none_iff.1 hends] at hmem
      exact absurd hmem List.not_mem_nil
    · have hl := (hendings i l).1 (List.mem_of_getLast? hends)
      rcases i with _ | _ | i
      · rw [← Option.some.inj (hfirst.symm.trans hl)]
        rfl
      · cases hl
      · cases hl

end Listing
end Testbench
