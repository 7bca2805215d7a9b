import Testbench.Proofs.Lens.Numbers
import Testbench.Proofs.Listing.Steps
import Testbench.Proofs.World
import Mathlib.Algebra.Group.Nat.Defs

/-!
# Sessions — which lenses are the same

However listings, openings and removals of projects and requests for lenses mix, a number stands for
one line of one document, and a line that keeps its lens keeps its number.

- `Session`, `Reached` : calls under way, and the answers they have given;
- `poll_open`          : what comes of a request when it goes on;
- `keeps_add`, `keeps_remove` : opening and removing a project leaves lenses and settings alone;
- `Session.Sound`      : what every step keeps;
- `Reached.identity`   : the lenses of all answers.
-/

namespace Testbench
namespace Lens

open Outline (Node)

/-! ## Sessions -/

/-- A call under way. -/
inductive Call : Type 1 where
  | listing (task : Work (List Node))
  | lenses (document : Path) (task : Work (List Lens))

structure Session : Type 1 where
  world : World
  calls : List Call
  answers : List Answer

/-- What can be reached when listings and requests for lenses take turns, projects come and go, and
others leave the lenses and the settings of the workspace alone. -/
inductive Reached (w₀ : World) : Session → Prop where
  | start : Reached w₀ ⟨w₀, [], []⟩
  | list {s : Session} (h : Reached w₀ s) :
      Reached w₀ { s with calls := s.calls ++ [.listing Listing.topLevel] }
  | ask {s : Session} (document : Path) (h : Reached w₀ s) :
      Reached w₀ { s with calls := s.calls ++ [.lenses document (provide document)] }
  /-- A listing goes on as far as it can. -/
  | pollListing {s : Session} {i : Nat} {t : Work (List Node)} (h : Reached w₀ s)
      (hcall : s.calls[i]? = some (.listing t)) :
      Reached w₀ { s with
        world := (t.poll World.isReady s.world).2
        calls := s.calls.set i (.listing (t.poll World.isReady s.world).1) }
  /-- A request goes on as far as it can, and may be answered. -/
  | pollLenses {s : Session} {i : Nat} {document : Path} {t : Work (List Lens)} (h : Reached w₀ s)
      (hcall : s.calls[i]? = some (.lenses document t)) (hopen : t.isDone = false) :
      Reached w₀
        ⟨(t.poll World.isReady s.world).2,
          s.calls.set i (.lenses document (t.poll World.isReady s.world).1),
          s.answers ++ ((t.poll World.isReady s.world).1.result?.map fun lenses =>
            ⟨document, s.world, lenses⟩).toList⟩
  | openProject {s : Session} (root : Path) (h : Reached w₀ s) :
      Reached w₀ { s with world := ((Registry.add root).run s.world).2 }
  | removeProject {s : Session} (root : Path) (h : Reached w₀ s) :
      Reached w₀ { s with world := ((Registry.remove root).run s.world).2 }
  | other {s : Session} {w : World} (h : Reached w₀ s) (hsetup : w.setup = s.world.setup)
      (hlenses : w.lenses = s.world.lenses) : Reached w₀ { s with world := w }

/-! ### Requests -/

/-- What is left of a request once it waits. -/
def answering (document : Path) : Work (List Lens) := do
  match Registry.find? (← Act.world) document with
  | none => pure []
  | some _ => renew document

def waiting (document : Path) : Work (List Lens) := .await .idle (answering document)

theorem poll_answering (document : Path) (w : World) :
    (answering document).poll World.isReady w =
      (.done (given document w).1, (given document w).2) := by
  change (match Registry.find? w document with
    | none => (pure [] : Work (List Lens))
    | some _ => Task.lift (renew document)).poll World.isReady w = _
  cases hfind : Registry.find? w document with
  | none => rw [given_of_none hfind]; rfl
  | some id => rw [given_of_some hfind]; rfl

theorem poll_waiting (document : Path) (w : World) :
    (waiting document).poll World.isReady w =
      if w.listing.refreshing = true then (waiting document, w)
      else (.done (given document w).1, (given document w).2) := by
  rw [waiting, Task.poll, poll_answering, World.isReady]
  cases w.listing.refreshing <;> rfl

theorem poll_provide (document : Path) {w : World} (h : w.setup.config.lenses = true) :
    (provide document).poll World.isReady w = (waiting document).poll World.isReady w := by
  change (if !w.setup.config.lenses then (pure [] : Work (List Lens))
    else waiting document).poll World.isReady w = _
  rw [h]
  rfl

/-- A request that was not answered yet. -/
theorem poll_open {document : Path} {t : Work (List Lens)} {w : World}
    (ht : t = provide document ∨ t = waiting document) (h : w.setup.config.lenses = true) :
    t.poll World.isReady w =
      if w.listing.refreshing = true then (waiting document, w)
      else (.done (given document w).1, (given document w).2) := by
  rcases ht with rfl | rfl
  · rw [poll_provide document h, poll_waiting]
  · exact poll_waiting document w

/-! ### Listings and projects -/

theorem setup_given (document : Path) (w : World) : (given document w).2.setup = w.setup := by
  unfold given
  split <;> rfl

/-- What lenses are made from besides listings. -/
def groundwork (w : World) : Setup × LensState := (w.setup, w.lenses)

section

open Act.Keeps (pure bind world change tell)

theorem keeps_add (root : Path) : (Registry.add root).Keeps groundwork := by
  refine world.bind fun w => ?_
  dsimp only
  split
  · exact pure none
  · split
    · exact pure _
    · have hcreate (root : Path) : (Project.create root).Keeps groundwork :=
        world.bind fun w => bind (tell fun _ => rfl) fun _ => bind (tell fun _ => rfl) fun _ =>
          bind (change fun _ => rfl) fun _ => pure w.projects.length
      refine (hcreate _).bind fun id => bind (change fun _ => rfl) fun _ => ?_
      split
      · exact bind (change fun _ => rfl) fun _ => pure (some id)
      · exact pure (some id)

theorem keeps_remove (root : Path) : (Registry.remove root).Keeps groundwork := by
  refine world.bind fun w => ?_
  split
  · rename_i id _
    have hdispose : (Project.dispose id).Keeps groundwork :=
      bind (change fun _ => rfl) fun _ =>
        bind (world.bind fun w => pure (w.root id)) fun root =>
          bind (change fun _ => rfl) fun _ => change fun _ => rfl
    exact bind (change fun _ => rfl) fun _ => hdispose.bind fun _ => pure true
  · exact pure false

end

/-! ### What every step keeps -/

/-- No two test cases of the listing that an answer was made from share a line. -/
def IsSpaced (answers : List Answer) : Prop := ∀ a ∈ answers, (a.due.map lineOf).Nodup

/-- A listing does what listings do, and a request that is open has not begun or is waiting. -/
def Call.IsSound : Call → Prop
  | .listing t => ∃ past, t.Obeys Listing.law Listing.anyhow past
  | .lenses document t => t.isDone = false → t = provide document ∨ t = waiting document

structure Session.Sound (s : Session) : Prop where
  enabled : s.world.setup.config.lenses = true
  calls : ∀ c ∈ s.calls, c.IsSound
  answered : ∀ a ∈ s.answers, a.lenses = (given a.document a.world).1
  numbered : Numbered s.world.lenses s.answers
  kept : ∀ a b, Consecutive s.answers a b → ∀ l ∈ a.lenses, ∀ l' ∈ b.lenses, l.line = l'.line →
    l.id = l'.id

namespace Session.Sound

variable {s : Session}

theorem start {w : World} (henabled : w.setup.config.lenses = true) (hstart : w.lenses = .initial) :
    (⟨w, [], []⟩ : Session).Sound := by
  refine ⟨henabled, fun _ hc => absurd hc List.not_mem_nil, fun _ ha => absurd ha List.not_mem_nil,
    hstart ▸ Numbered.initial, fun a b hab => ?_⟩
  obtain ⟨before, between, after, heq, -⟩ := hab
  simp at heq

/-- Steps that do not touch lenses and settings. -/
theorem aside (h : s.Sound) {w : World} (hkept : groundwork w = groundwork s.world) :
    ({ s with world := w } : Session).Sound := by
  obtain ⟨hsetup, hlenses⟩ := Prod.mk.inj hkept
  exact ⟨hsetup ▸ h.enabled, h.calls, h.answered, hlenses ▸ h.numbered, h.kept⟩

theorem begin (h : s.Sound) {c : Call} (hc : c.IsSound) :
    ({ s with calls := s.calls ++ [c] } : Session).Sound := by
  refine ⟨h.enabled, fun c' hc' => ?_, h.answered, h.numbered, h.kept⟩
  rcases List.mem_append.mp hc' with hold | hnew
  · exact h.calls c' hold
  · exact List.mem_singleton.mp hnew ▸ hc

theorem goOn (h : s.Sound) (i : Nat) {c : Call} (hc : c.IsSound) :
    ({ s with calls := s.calls.set i c } : Session).Sound := by
  refine ⟨h.enabled, fun c' hc' => ?_, h.answered, h.numbered, h.kept⟩
  rcases List.mem_or_eq_of_mem_set hc' with hold | rfl
  · exact h.calls c' hold
  · exact hc

/-- A request that was not answered yet is still open, or it is answered. -/
theorem poll (h : s.Sound) {i : Nat} {document : Path} {t : Work (List Lens)}
    (hcall : s.calls[i]? = some (.lenses document t)) (hopen : t.isDone = false) :
    t.poll World.isReady s.world =
      if s.world.listing.refreshing = true then (waiting document, s.world)
      else (.done (given document s.world).1, (given document s.world).2) :=
  poll_open (h.calls _ (List.mem_of_getElem? hcall) hopen) h.enabled

/-- A line that had a lens in the answer before has its number. -/
theorem answer (h : s.Sound) (document : Path)
    (hspaced : ((answerIn document s.world).due.map lineOf).Nodup) :
    ({ s with
      world := (given document s.world).2
      answers := s.answers ++ [answerIn document s.world] } : Session).Sound := by
  have hnumbered := h.numbered.concat document hspaced
  refine ⟨(congrArg (·.config.lenses) (setup_given document s.world)).trans h.enabled, h.calls,
    fun a ha => ?_, hnumbered, fun a b hab l hl l' hl' hline => ?_⟩
  · rcases List.mem_append.mp ha with ha | ha
    · exact h.answered a ha
    · rw [List.mem_singleton.mp ha]
      rfl
  · rcases consecutive_concat hab with hab | ⟨rfl, hlast⟩
    · exact h.kept a b hab l hl l' hl' hline
    · have hknown := h.numbered.latest document a hlast l hl
      unfold answerIn at hl'
      -- Without a project there is no lens in the answer.
      cases hfind : Registry.find? s.world document with
      | none =>
          rw [given_of_none hfind] at hl'
          exact absurd hl' List.not_mem_nil
      | some id =>
          rw [given_of_some hfind] at hl'
          rw [hline] at hknown
          rcases id_of_mem_assign hl' with hid | ⟨hnone, -⟩
          · exact Option.some.inj (hknown.symm.trans hid)
          · exact absurd (hknown.symm.trans hnone) (Option.some_ne_none _)

end Session.Sound

theorem Reached.sound {w₀ : World} {s : Session} (h : Reached w₀ s)
    (henabled : w₀.setup.config.lenses = true) (hstart : w₀.lenses = .initial)
    (hspaced : IsSpaced s.answers) : s.Sound := by
  induction h with
  | start => exact .start henabled hstart
  | list _ ih => exact (ih hspaced).begin ⟨[], Listing.obeys_topLevel []⟩
  | ask document _ ih => exact (ih hspaced).begin fun _ => .inl rfl
  | @pollListing s i t _ hcall ih =>
      have hs := ih hspaced
      obtain ⟨past, hobeys⟩ := hs.calls _ (List.mem_of_getElem? hcall)
      obtain ⟨xs, hsteps⟩ := Task.steps_poll World.isReady t s.world
      obtain ⟨haside, hrest⟩ := Listing.aside_of_steps hsteps hobeys
      exact (hs.aside (Prod.ext haside.setup haside.lenses)).goOn i hrest
  | @pollLenses s i document t _ hcall hopen ih =>
      -- The lines of the new answer are known to differ only if there is one.
      have hs := ih fun a ha => hspaced a (List.mem_append_left _ ha)
      have hpoll := hs.poll hcall hopen
      by_cases hrefreshing : s.world.listing.refreshing = true
      · rw [if_pos hrefreshing] at hpoll
        rw [hpoll]
        have hnone : (waiting document).result? = none := rfl
        simp only [hnone, Option.map_none, Option.toList_none, List.append_nil]
        exact hs.goOn i fun _ => .inr rfl
      · rw [if_neg hrefreshing] at hpoll
        rw [hpoll] at hspaced ⊢
        have hanswer := hs.answer document
          (hspaced _ (List.mem_append_right _ (List.mem_singleton_self _)))
        exact hanswer.goOn i fun hdone => Bool.noConfusion hdone
  | openProject root _ ih => exact (ih hspaced).aside (keeps_add root _)
  | removeProject root _ ih => exact (ih hspaced).aside (keeps_remove root _)
  | other _ hsetup hlenses ih => exact (ih hspaced).aside (Prod.ext hsetup hlenses)

/-- A request that nobody comes between. -/
theorem Reached.answer {w₀ : World} {s : Session} (h : Reached w₀ s) (document : Path)
    (henabled : s.world.setup.config.lenses = true) (hidle : s.world.listing.refreshing = false) :
    ∃ calls, Reached w₀
      ⟨(given document s.world).2, calls, s.answers ++ [answerIn document s.world]⟩ := by
  have hcall : (s.calls ++ [Call.lenses document (provide document)])[s.calls.length]? =
      some (.lenses document (provide document)) := by simp
  have hpoll := poll_open (Or.inl (Eq.refl (provide document))) henabled
  rw [hidle, if_neg Bool.false_ne_true] at hpoll
  have hreached := (h.ask document).pollLenses hcall rfl
  rw [hpoll] at hreached
  exact ⟨_, hreached⟩

/-- Each answer has one lens for each test case of the last listing of its document, in order. Its
numbers are all different; a line that had a lens in the last answer for the document keeps the
number; and no number is ever given to two lines, or to lines of two documents. Counted from 1,
lines stay within 32 bits, and a request is answered as soon as no listing is being made. -/
theorem Reached.identity {w₀ : World} {s : Session} (h : Reached w₀ s)
    (henabled : w₀.setup.config.lenses = true) (hstart : w₀.lenses = .initial)
    (hspaced : IsSpaced s.answers) :
    (∀ a ∈ s.answers, a.lenses.map (fun l => (l.testcase, l.line)) =
      a.due.map fun n => (n, max n.lines.first 1 - 1)) ∧
    (∀ a ∈ s.answers, (a.lenses.map Lens.id).Nodup) ∧
    (∀ a b, Consecutive s.answers a b → ∀ l ∈ a.lenses, ∀ l' ∈ b.lenses, l.line = l'.line →
      l.id = l'.id) ∧
    (∀ a ∈ s.answers, ∀ b ∈ s.answers, ∀ l ∈ a.lenses, ∀ l' ∈ b.lenses, l.id = l'.id →
      a.document.same b.document = true ∧ l.line = l'.line) ∧
    (∀ a ∈ s.answers, (∀ n ∈ a.due, n.lines.first < 2 ^ 32) → ∀ l ∈ a.lenses,
      l.line + 1 < 2 ^ 32) ∧
    ∀ document t, Call.lenses document t ∈ s.calls → t.isDone = false →
      s.world.listing.refreshing = false →
      ∃ lenses, (t.poll World.isReady s.world).1.result? = some lenses := by
  have hs := h.sound henabled hstart hspaced
  have hnodes : ∀ a ∈ s.answers, a.lenses.map (fun l => (l.testcase, l.line)) =
      a.due.map fun n => (n, lineOf n) := fun a ha => by
    rw [hs.answered a ha]
    exact nodes_given a.document a.world
  have hlineOf : ∀ n : Node, lineOf n = max n.lines.first 1 - 1 := fun n => by
    rw [lineOf]
    omega
  refine ⟨fun a ha => ?_, fun a ha => ?_, hs.kept, hs.numbered.unique, fun a ha hfirst l hl => ?_,
    fun document t ht hopen hidle => ?_⟩
  · simp only [hnodes a ha, hlineOf]
  · refine hs.numbered.nodup ha ?_
    rw [hs.answered a ha, lines_given]
    exact hspaced a ha
  -- The lens has a node of the listing, which gives it its line.
  · have hmem : (l.testcase, l.line) ∈ a.due.map fun n => (n, lineOf n) :=
      hnodes a ha ▸ List.mem_map_of_mem (f := fun l : Lens => (l.testcase, l.line)) hl
    obtain ⟨n, hn, heq⟩ := List.mem_map.mp hmem
    have hline : l.line = n.lines.first - 1 := (congrArg Prod.snd heq).symm
    have hbound := hfirst n hn
    omega
  · rw [poll_open (hs.calls _ ht hopen) hs.enabled, hidle]
    exact ⟨_, rfl⟩

/-- A test case on a line. -/
def standing (line : Nat) : Node :=
  ⟨line, ⟨"/p"⟩, ⟨"/p/a.py"⟩, "T", "", .single line, true, .class true [] [] []⟩

/-- A world with one project and a listing of one of its files. -/
def listedWith (lenses : LensState) (lines : List Nat) : World :=
  { (default : World) with
    setup := { (default : Setup) with config := { (default : Config) with lenses := true } }
    projects := [.fresh ⟨"/p"⟩]
    registry := [0]
    listing := { ListingState.initial with last := some ⟨⟨"/p/a.py"⟩, lines.map standing⟩ }
    lenses := lenses }

/-- The answer for a file with one test case, and the one after another was put below it. -/
def firstAnswer : Answer := answerIn ⟨"/p/a.py"⟩ (listedWith .initial [3])

def secondAnswer : Answer :=
  answerIn ⟨"/p/a.py"⟩ (listedWith (given ⟨"/p/a.py"⟩ firstAnswer.world).2.lenses [3, 7])

theorem identity_grown : ∃ s : Session,
    Reached firstAnswer.world s ∧ s.answers = [firstAnswer, secondAnswer] ∧ IsSpaced s.answers ∧
      firstAnswer.lenses.map Lens.line = [2] ∧ secondAnswer.lenses.map Lens.line = [2, 6] ∧
      ∀ l ∈ firstAnswer.lenses, ∀ l' ∈ secondAnswer.lenses, l.line = l'.line → l.id = l'.id := by
  have hstart : Reached firstAnswer.world ⟨firstAnswer.world, [], []⟩ := .start
  obtain ⟨_, hfirst⟩ := hstart.answer ⟨"/p/a.py"⟩ rfl rfl
  have hsetup := (setup_given ⟨"/p/a.py"⟩ firstAnswer.world).symm
  obtain ⟨_, hboth⟩ :=
    (hfirst.other (w := secondAnswer.world) hsetup rfl).answer ⟨"/p/a.py"⟩ rfl rfl
  have hspaced : IsSpaced [firstAnswer, secondAnswer] := by
    intro a ha
    rcases List.mem_pair.mp ha with rfl | rfl
    · decide
    · decide
  refine ⟨_, hboth, rfl, hspaced, by decide, by decide, ?_⟩
  obtain ⟨-, -, hkept, -⟩ := hboth.identity rfl rfl hspaced
  exact hkept firstAnswer secondAnswer
    ⟨[], [], [], rfl, by decide, fun _ h => absurd h List.not_mem_nil⟩

end Lens
end Testbench
