import Testbench.Proofs.Dispatch.Sending
import Testbench.Proofs.Listing.Drawn

/-!
# Cursor — the class that is run at a line

The class at the cursor is the first one in order whose lines contain it, among the entries of the
last listing if that was made for the file in the editor, and of a new one if not. If it is a test
case it is run like any other. If it is not, or there is none, a person is told so, and nothing else
is done: finding the entries touches no environment, and they are found in the time of a listing.

- `IsFirst`, `Spans`, `Covers`     : the first class that contains a line;
- `Consults`                       : the entries that are looked at;
- `Harmless`                       : what is done while they are found;
- `isFirst_iff_of_drawn`           : entries and the classes that they depict;
- `told_runTestcase`               : the line of a test case;
- `Decided`, `decided_seek`        : the time until a class is found;
- `runs_class_at_cursor`           : all of it.
-/

namespace Testbench
namespace Dispatch

open Listing (Drawn DrawnFor Reads Spares)
open Outline (Depicts Document Item Node)
open Testbench.Task (Plays Ran)

/-! ## The first class at a line -/

/-- The first in a list for which something holds. -/
def IsFirst {α : Type} (P : α → Prop) (xs : List α) (a : α) : Prop :=
  P a ∧ ∃ before after, xs = before ++ a :: after ∧ ∀ b ∈ before, ¬ P b

theorem isFirst_iff_find? {α : Type} {p : α → Bool} {P : α → Prop} (hp : ∀ a, p a = true ↔ P a)
    {xs : List α} {a : α} : IsFirst P xs a ↔ xs.find? p = some a := by
  have hnot : ∀ b, (!p b) = true ↔ ¬ P b := fun b => by rw [← hp b, Bool.not_eq_true']; simp
  rw [List.find?_eq_some_iff_append, IsFirst, hp a]
  simp only [hnot]

/-- The lines of a class contain a line, from its first to its last, which is not before its
first. -/
def Covers (line : Nat) (c : Outline.Class) : Prop := c.line ≤ line ∧ line ≤ max c.line c.endline

/-- The entry of a class whose lines contain a line. -/
def Spans (line : Nat) (n : Node) : Prop :=
  n.isClass = true ∧ n.lines.first ≤ line ∧ line ≤ n.lines.last

theorem isFirst_iff_classAt? {nodes : List Node} {line : Nat} {n : Node} :
    IsFirst (Spans line) nodes n ↔ classAt? nodes line = some n :=
  isFirst_iff_find? fun m => by simp [Spans, Outline.LineRange.contains]

/-- The item of a class whose lines contain a line. -/
def itemSpans (line : Nat) : Item → Bool
  | .class c => c.range.contains line
  | _ => false

theorem contains_range (c : Outline.Class) (line : Nat) :
    c.range.contains line = true ↔ Covers line c := by
  rw [Outline.Class.range, Outline.LineRange.ofItem, Outline.LineRange.contains, Bool.and_eq_true,
    decide_eq_true_iff, decide_eq_true_iff, Covers]

/-- What is true of related members alike is found at the same place. -/
theorem find?_of_forall₂ {α β : Type} {R : α → β → Prop} {p : α → Bool} {q : β → Bool}
    (hpq : ∀ a b, R a b → p a = q b) {xs : List α} {ys : List β} (h : List.Forall₂ R xs ys) :
    (xs.find? p = none ∧ ys.find? q = none) ∨
      ∃ a b, xs.find? p = some a ∧ ys.find? q = some b ∧ R a b := by
  induction h with
  | nil => exact .inl ⟨rfl, rfl⟩
  | @cons a b xs ys hab _ ih =>
      cases hq : q b with
      | true => exact .inr ⟨a, b, by rw [List.find?_cons_of_pos ((hpq a b hab).trans hq)],
          by rw [List.find?_cons_of_pos hq], hab⟩
      | false =>
          have hp : ¬ p a = true := by rw [hpq a b hab, hq]; exact Bool.false_ne_true
          rw [List.find?_cons_of_neg hp, List.find?_cons_of_neg (by simp [hq])]
          exact ih

theorem find?_tops (d : Document) (line : Nat) : d.tops.find? (itemSpans line) =
    (d.classes.find? (·.range.contains line)).map .class := by
  have hfunctions : (d.functions.map (Item.function none)).find? (itemSpans line) = none := by
    rw [List.find?_map, Option.map_eq_none_iff, List.find?_eq_none]
    exact fun _ _ => Bool.false_ne_true
  rw [Document.tops, List.find?_append, hfunctions, Option.or_none, List.find?_map]
  rfl

/-- No function is found, and a class where its entry is. -/
theorem isFirst_iff_of_drawn {root file : Path} {d : Document} {nodes : List Node} (line : Nat)
    (h : List.Forall₂ (Depicts root file) d.tops nodes) :
    (∀ n, IsFirst (Spans line) nodes n → ∃ c, IsFirst (Covers line) d.classes c ∧
      Depicts root file (.class c) n) ∧
    ∀ c, IsFirst (Covers line) d.classes c → ∃ n, IsFirst (Spans line) nodes n ∧
      Depicts root file (.class c) n := by
  -- An entry is found where its item is, and items of functions are not looked for.
  have hspans : ∀ x n, Depicts root file x n →
      itemSpans line x = (n.isClass && n.lines.contains line) := by
    intro x n hn
    rw [Node.isClass, hn.kind, Outline.LineRange.contains, hn.first, hn.last]
    cases x <;> rfl
  have hclasses : ∀ c, IsFirst (Covers line) d.classes c ↔
      d.classes.find? (·.range.contains line) = some c := fun c =>
    isFirst_iff_find? fun b => contains_range b line
  have hboth := find?_of_forall₂ hspans h
  rw [find?_tops] at hboth
  simp only [isFirst_iff_classAt?, hclasses]
  rcases hboth with ⟨hnone, hnodes⟩ | ⟨x, n, hsome, hnode, hdepicts⟩
  · have hclass := Option.map_eq_none_iff.1 hnone
    refine ⟨fun n hn => ?_, fun c hc => ?_⟩
    · exact absurd (hnodes.symm.trans hn) (Option.some_ne_none n).symm
    · exact absurd (hclass.symm.trans hc) (Option.some_ne_none c).symm
  · obtain ⟨c, hc, rfl⟩ := Option.map_eq_some_iff.1 hsome
    refine ⟨fun m hm => ?_, fun b hb => ?_⟩
    · rw [Option.some.inj (hm.symm.trans hnode)]
      exact ⟨c, hc, hdepicts⟩
    · rw [Option.some.inj (hb.symm.trans hc)]
      exact ⟨n, hnode, hdepicts⟩

/-! ## Finding the entries -/

/-- Others may do what they like, but projects stay where they are, and the last listing is one of
the file that it was made for. -/
structure Nearby (w w' : World) : Prop where
  beside : Beside w w'
  drawn : Drawn w → Drawn w'

/-- The entries that are looked at, for the file in an editor: those of the last listing if it was
made for the file, else those of a new one, which is made for the file that is in the editor
then. -/
inductive Consults (e : Host.Editor) (w : World) : Path → List Node → World → Prop where
  | last {l : RootListing} (hlast : w.listing.last = some l) (hsame : l.file.same e.file = true) :
      Consults e w l.file l.nodes w
  | fresh {file : Path} {nodes : List Node} {log : List (Ran World)} {w' : World}
      (hother : ∀ l, w.listing.last = some l → l.file.same e.file = false)
      (hplays : Plays Nearby Listing.topLevel w log nodes w')
      (hfile : ∀ e', w.host.editor? = some e' → file = e'.file) : Consults e w file nodes w'

theorem dottedPath?_congr {file file' : Path} (h : file.same file' = true) (root : Path)
    (className : String) : dottedPath? root file className = dottedPath? root file' className := by
  have hsame : file.components = file'.components := beq_iff_eq.1 h
  rw [dottedPath?, dottedPath?, Path.below?, Path.below?, hsame]

/-- The classes are named as those of the file in the editor, if that is still there. -/
theorem Consults.dottedPath?_eq {e : Host.Editor} {w w' : World} {file : Path} {nodes : List Node}
    (h : Consults e w file nodes w') (hstill : w.host.editor?.map (·.file) = some e.file)
    (root : Path) (className : String) :
    dottedPath? root file className = dottedPath? root e.file className := by
  cases h with
  | last _ hsame => exact dottedPath?_congr hsame root className
  | fresh _ _ hfile =>
      obtain ⟨e', he, heq⟩ := Option.map_eq_some_iff.1 hstill
      rw [hfile e' he, heq]

/-- A step that asks a person nothing and tells of nothing but failures, that does nothing to any
terminal and to any environment, and that starts no program but the one that prints outlines. -/
structure Harmless (x : Ran World) : Prop where
  notified : x.before.host.Notified x.after.host
  silent : Silent x
  spares : Spares x.before x.after
  reads : Reads x

theorem harmless_of_deed {x : Ran World} (h : Listing.Deed x) (hreads : Reads x) : Harmless x :=
  ⟨h.aside.notified, silent_of_deed h, h.spares, hreads⟩

section

variable {w w' : World} {log : List (Ran World)}

theorem harmless_look (w : World) : Harmless ⟨w, World, Act.world.run⟩ :=
  harmless_of_deed (.look w) (.inl ⟨rfl, rfl⟩)

theorem harmless_wait (w : World) : Harmless (.change w id) :=
  harmless_of_deed (.release .nothing w) (.inl ⟨rfl, rfl⟩)

theorem harmless_topLevel {nodes : List Node} (h : Plays Nearby Listing.topLevel w log nodes w') :
    ∀ x ∈ log, Harmless x := fun x hx => by
  obtain ⟨hdeed, hreads⟩ := h.obeys (P := fun x => Listing.Deed x ∧ Reads x) (fun _ _ hall => hall)
    (Listing.admits_reading.obeys_topLevel []) x hx
  exact harmless_of_deed hdeed hreads

theorem consults_of_plays {e : Host.Editor} {nodes : List Node}
    (hdrawn : Drawn w) (h : Plays Nearby (nodesFor e.file) w log nodes w') :
    (∃ file, Consults e w file nodes w' ∧ DrawnFor file nodes) ∧ ∀ x ∈ log, Harmless x := by
  obtain ⟨rest, rfl, hrest⟩ := Plays.of_act h
  change Plays Nearby (nodesIn e.file w) w rest nodes w' at hrest
  have hnew : Plays Nearby Listing.topLevel w rest nodes w' →
      (∀ l, w.listing.last = some l → l.file.same e.file = false) →
      (∃ file, Consults e w file nodes w' ∧ DrawnFor file nodes) ∧
        ∀ x ∈ ⟨w, World, Act.world.run⟩ :: rest, Harmless x := by
    intro hplays hother
    refine ⟨?_, List.forall_mem_cons.2 ⟨harmless_look w, harmless_topLevel hplays⟩⟩
    -- A listing is made for whatever file is in the editor when it begins. Without one it is empty.
    obtain ⟨hnew, hnone⟩ := Listing.drawn_of_plays hplays
    cases heditor : w.host.editor? with
    | none =>
        refine ⟨e.file, .fresh hother hplays fun e' he => (nomatch heditor.symm.trans he),
          ?_⟩
        rw [hnone heditor]
        exact Listing.drawnFor_nil _
    | some e' =>
        refine ⟨e'.file, .fresh hother hplays fun e'' he => ?_, hnew e' heditor⟩
        rw [Option.some.inj (heditor.symm.trans he)]
  unfold nodesIn at hrest
  cases hlast : w.listing.last with
  | none =>
      simp only [hlast] at hrest
      exact hnew hrest fun l hl => nomatch hlast.symm.trans hl
  | some l =>
      simp only [hlast] at hrest
      cases hsame : l.file.same e.file with
      | false =>
          rw [hsame] at hrest
          refine hnew hrest fun l' hl => ?_
          rw [← Option.some.inj (hlast.symm.trans hl), hsame]
      | true =>
          rw [hsame, if_pos rfl] at hrest
          obtain ⟨rfl, rfl, rfl⟩ := Plays.of_done hrest
          refine ⟨⟨l.file, .last hlast hsame, hdrawn l hlast⟩, fun x hx => ?_⟩
          rw [List.mem_singleton.1 hx]
          exact harmless_look _

/-! ## Running the class -/

/-- The line that is told for a test case ends in the name of its class. -/
theorem told_runTestcase {n : Node} {l : String} (hlive : IsLive w)
    (h : Plays Beside (runTestcase n).run w log (.ok (some l)) w') :
    ∃ id dotted, projectOf? w n = some id ∧ dottedPath? (w.root id) n.file n.label = some dotted ∧
      l = TerminalLine.runTestcase (Environment.interpreter w' (w.root id)) dotted := by
  rw [runTestcase_eq] at h
  cases hclass : n.isClass with
  | false =>
      rw [hclass] at h
      obtain ⟨_, -, hrest⟩ := Attempt.plays_first h
      exact nomatch (Plays.of_done hrest).2.1
  | true =>
      rw [hclass] at h
      obtain ⟨_, -, hfound⟩ := Attempt.plays_look h
      cases hproject : projectOf? w n with
      | none =>
          rw [hproject] at hfound
          exact nomatch (Plays.of_done hfound).2.1
      | some id =>
          rw [hproject] at hfound
          obtain ⟨v, hview⟩ := exists_view hlive (mem_of_projectOf? hproject)
          obtain ⟨_, _, o, w₁, -, hensure, hafter⟩ := Attempt.plays_bind hfound
          -- Neither the check of the environment nor anybody else moves the root of the project.
          have hroot : w₁.root id = w.root id :=
            (asks_ensure hview hensure).1.root.trans (Environment.root_eq hview).symm
          cases o with
          | error cause => exact nomatch hafter.2.1
          | ok _ =>
              obtain ⟨_, -, hline⟩ := Attempt.plays_look hafter
              cases hmade : testcaseLine n id w₁ with
              | error cause =>
                  simp only [hmade] at hline
                  exact nomatch (Plays.of_done hline).2.1
              | ok line =>
                  simp only [hmade] at hline
                  obtain ⟨_, -, hsent⟩ := Attempt.plays_first hline
                  obtain ⟨host, hrun⟩ := run_send id line w₁
                  rw [hrun] at hsent
                  obtain ⟨-, hresult, rfl⟩ := Plays.of_done hsent
                  obtain rfl := Option.some.inj (Except.ok.inj hresult)
                  unfold testcaseLine at hmade
                  rw [hroot] at hmade
                  refine ⟨id, ?_⟩
                  cases hdotted : dottedPath? (w.root id) n.file n.label with
                  | none => simp [hdotted] at hmade
                  | some dotted =>
                      rw [hdotted] at hmade
                      refine ⟨dotted, rfl, rfl, ?_⟩
                      rw [Environment.interpreter_withHost]
                      exact (Except.ok.inj hmade).symm

/-- Told that there is no test case at the line. -/
def refusal (w : World) : Ran World := ⟨w, Unit, (Act.tell (Host.showInfo notTestcaseMessage)).run⟩

theorem runAmong_eq {nodes : List Node} {line : Nat}
    (h : ∀ n, IsFirst (Spans line) nodes n → n.isTestcase = false) : runAmong nodes line = (do
      Act.tell (Host.showInfo notTestcaseMessage)
      pure none) := by
  have hfilter : (classAt? nodes line).filter Node.isTestcase = none := by
    rw [Option.filter_eq_none_iff]
    intro n hn
    rw [h n (isFirst_iff_classAt?.2 hn)]
    exact Bool.false_ne_true
  rw [runAmong, hfilter]

theorem plays_runAmong {others : World → World → Prop} {nodes : List Node} {line : Nat}
    {r : Except Error (Option String)} (h : Plays others (runAmong nodes line).run w log r w') :
    (∀ n, IsFirst (Spans line) nodes n → n.isTestcase = true →
      Plays others (runTestcase n).run w log r w') ∧
    ((∀ n, IsFirst (Spans line) nodes n → n.isTestcase = false) →
      log = [refusal w] ∧ r = .ok none) := by
  refine ⟨fun n hn htest => ?_, fun hnone => ?_⟩
  · rw [runAmong, isFirst_iff_classAt?.1 hn, Option.filter_some_pos htest] at h
    exact h
  · rw [runAmong_eq hnone] at h
    obtain ⟨rest, rfl, hrest⟩ := Attempt.plays_first h
    obtain ⟨rfl, rfl, -⟩ := Plays.of_done hrest
    exact ⟨rfl, rfl⟩

/-- Among the entries of a document, the first class at the line is run like any other if it is a
test case. If it is not, or there is none, nothing is run. -/
theorem runs_first {root file : Path} {d : Document} {nodes : List Node} {line : Nat}
    {r : Except Error (Option String)} (hlive : IsLive w)
    (hdepicts : List.Forall₂ (Depicts root file) d.tops nodes)
    (h : Plays Nearby (runAmong nodes line).run w log r w') :
    (∀ c, IsFirst (Covers line) d.classes c → c.isTestcase = true → ∃ n,
      IsFirst (Spans line) nodes n ∧ Depicts root file (.class c) n ∧
      Plays Nearby (runTestcase n).run w log r w' ∧ ∀ l, r = .ok (some l) → ∃ id dotted,
        projectOf? w n = some id ∧ dottedPath? (w.root id) file c.name = some dotted ∧
        l = TerminalLine.runTestcase (Environment.interpreter w' (w.root id)) dotted) ∧
    ((∀ c, IsFirst (Covers line) d.classes c → c.isTestcase = false) →
      log = [refusal w] ∧ r = .ok none) := by
  have htest : ∀ {c n}, Depicts root file (.class c) n → n.isTestcase = c.isTestcase := by
    intro c n hn
    rw [Node.isTestcase, hn.kind]
    rfl
  obtain ⟨hclass, hentry⟩ := isFirst_iff_of_drawn line hdepicts
  obtain ⟨hruns, hrefuses⟩ := plays_runAmong h
  -- The first entry at the line is drawn from the first class there, and the other way round.
  refine ⟨fun c hc hyes => ?_, fun hno => hrefuses fun n hn => ?_⟩
  · obtain ⟨n, hn, hdepicted⟩ := hentry c hc
    have hplays := hruns n hn ((htest hdepicted).trans hyes)
    have hbeside := hplays.mono fun _ _ (hnear : Nearby _ _) => hnear.beside
    refine ⟨n, hn, hdepicted, hplays, fun l hl => ?_⟩
    obtain ⟨id, dotted, hproject, hdotted, hline⟩ := told_runTestcase hlive (hl ▸ hbeside)
    rw [hdepicted.file, hdepicted.label] at hdotted
    exact ⟨id, dotted, hproject, hdotted, hline⟩
  · obtain ⟨c, hc, hdepicted⟩ := hclass n hn
    exact (htest hdepicted).trans (hno c hc)

/-! ## The command -/

/-- What others do leaves everything live, and the last listing drawn. -/
theorem live_drawn_of_others (hlive : IsLive w) (hdrawn : Drawn w)
    (h : Relation.ReflTransGen Nearby w w') : IsLive w' ∧ Drawn w' := by
  induction h with
  | refl => exact ⟨hlive, hdrawn⟩
  | tail _ hnear ih => exact ⟨hnear.beside.live, hnear.drawn ih.2⟩

/-- The entries are found once no listing is being made, and then one of them is run or none is.
Others come before the wait is over. -/
theorem plays_seek {e : Host.Editor} {r : Except Error (Option String)}
    (heditor : w.host.editor? = some e) (h : Plays Nearby runTestcaseHere.run w log r w') :
    ∃ listed rest w₁ nodes w₂,
      log = (⟨w, World, Act.world.run⟩ :: .change w₁ id :: listed) ++ rest ∧
      Relation.ReflTransGen Nearby w w₁ ∧ Plays Nearby (nodesFor e.file) w₁ listed nodes w₂ ∧
      Plays Nearby (runAmong nodes e.line).run w₂ rest r w' := by
  rw [runTestcaseHere_eq] at h
  obtain ⟨rest, rfl, hseen⟩ := Attempt.plays_look h
  simp only [heditor] at hseen
  obtain ⟨idle, rest, _, w₁, rfl, hidle, hfound⟩ := Attempt.plays_ofWork hseen
  obtain ⟨listed, rest, nodes, w₂, rfl, hlisted, hrest⟩ := Attempt.plays_ofWork hfound
  obtain ⟨w₁, _, hothers, rfl, hwaited⟩ := Plays.of_await hidle
  obtain ⟨rfl, -, rfl⟩ := Plays.of_done hwaited
  exact ⟨listed, rest, w₁, nodes, w₂, rfl, hothers, hlisted, hrest⟩

end

/-! ## The time until a class is found -/

/-- What is done for an editor once it was looked at. -/
def seek (e : Host.Editor) : Work (Except Error (Option String)) :=
  .await .idle ((nodesFor e.file).bind fun nodes => (runAmong nodes e.line).run)

/-- The entries are there, and one of them is run or none is. -/
def Decided (e : Host.Editor) (x : Work (Except Error (Option String)) × World) : Prop :=
  ∃ nodes w, x = (runAmong nodes e.line).run.poll World.isReady w

section

variable {w : World} {e : Host.Editor}

theorem seek_eq (e : Host.Editor) : seek e = (do
    Attempt.ofWork Listing.awaitIdle
    let nodes ← Attempt.ofWork (nodesFor e.file)
    runAmong nodes e.line : Attempt (Option String)).run := by
  have hfound : ((nodesFor e.file).bind fun nodes => .done (.ok nodes)).bind
      (ExceptT.bindCont fun nodes => runAmong nodes e.line) =
        (nodesFor e.file).bind fun nodes => (runAmong nodes e.line).run := Task.bind_assoc _ _ _
  rw [seek, ← hfound]
  rfl

theorem poll_here (heditor : w.host.editor? = some e) :
    runTestcaseHere.run.poll World.isReady w = (seek e).poll World.isReady w := by
  rw [runTestcaseHere_eq, Attempt.poll_look, seek_eq]
  simp only [heditor]

theorem decided_bind {t : Work (List Node)} (h : (t.poll World.isReady w).1.isDone = true) :
    Decided e ((t.bind fun nodes => (runAmong nodes e.line).run).poll World.isReady w) := by
  rw [Task.poll_bind]
  cases hresult : (t.poll World.isReady w).1 with
  | done nodes => exact ⟨nodes, _, rfl⟩
  | _ => rw [hresult] at h; cases h

/-- As soon as no listing is being made, the entries are found in the time of one. -/
theorem decided_seek (hidle : w.listing.refreshing = false) :
    Decided e ((seek e).poll World.isReady w) ∨
      ∀ w', w.now + w.setup.config.listingMillis ≤ w'.now →
        Decided e (((seek e).poll World.isReady w).1.poll World.isReady w') := by
  have hready : World.isReady .idle w = true := by simp [World.isReady, hidle]
  have hdone : ((nodesFor e.file).poll World.isReady w).1.isDone = true ∨
      ∀ w', w.now + w.setup.config.listingMillis ≤ w'.now →
        (((nodesFor e.file).poll World.isReady w).1.poll World.isReady w').1.isDone = true := by
    change ((nodesIn e.file w).poll World.isReady w).1.isDone = true ∨ ∀ w', _ →
      (((nodesIn e.file w).poll World.isReady w).1.poll World.isReady w').1.isDone = true
    unfold nodesIn
    split
    · split
      · exact .inl rfl
      · exact Listing.isDone_topLevel w
    · exact Listing.isDone_topLevel w
  rw [seek, Task.poll, if_pos hready]
  rcases hdone with hdone | hlate
  · exact .inl (decided_bind hdone)
  -- A listing that goes on is at its end when it is polled after its time.
  · cases hresult : ((nodesFor e.file).poll World.isReady w).1.result? with
    | some nodes => exact .inl (decided_bind (Task.isDone_iff_result?.2 ⟨nodes, hresult⟩))
    | none =>
        refine .inr fun w' hw' => ?_
        rw [Task.poll_bind, hresult]
        exact decided_bind (hlate w' hw')

end

/-- A command for the class at the cursor, with an editor there. Before anything is run it does
nothing but find the entries; then it runs the first class at the line, if that is a test case, and
is done with a message else. -/
theorem runs_class_at_cursor {w : World} {e : Host.Editor} (heditor : w.host.editor? = some e)
    (hlive : IsLive w) (hdrawn : Drawn w) :
    (∀ log r w', Plays Nearby runTestcaseHere.run w log r w' →
      ∃ front rest w₁ w₂ root file d nodes,
        log = front ++ rest ∧ (∀ x ∈ front, Harmless x) ∧
        Relation.ReflTransGen Nearby w w₁ ∧ Consults e w₁ file nodes w₂ ∧ Drawn w₂ ∧
        (w₁.host.editor?.map (·.file) = some e.file → ∀ root className,
          dottedPath? root file className = dottedPath? root e.file className) ∧
        List.Forall₂ (Depicts root file) (Document.tops d) nodes ∧
        (∀ c, IsFirst (Covers e.line) d.classes c → c.isTestcase = true → ∃ n,
          IsFirst (Spans e.line) nodes n ∧ Depicts root file (.class c) n ∧
          Plays Nearby (runTestcase n).run w₂ rest r w' ∧ ∀ l, r = .ok (some l) → ∃ id dotted,
            projectOf? w₂ n = some id ∧ dottedPath? (w₂.root id) file c.name = some dotted ∧
            l = TerminalLine.runTestcase (Environment.interpreter w' (w₂.root id)) dotted) ∧
        ((∀ c, IsFirst (Covers e.line) d.classes c → c.isTestcase = false) →
          rest = [refusal w₂] ∧ r = .ok none)) ∧
    (w.listing.refreshing = true → runTestcaseHere.run.poll World.isReady w = (seek e, w)) ∧
    runTestcaseHere.run.poll World.isReady w = (seek e).poll World.isReady w ∧
    (∀ w₁, w₁.listing.refreshing = false → Decided e ((seek e).poll World.isReady w₁) ∨
      ∀ w₂, w₁.now + w₁.setup.config.listingMillis ≤ w₂.now →
        Decided e (((seek e).poll World.isReady w₁).1.poll World.isReady w₂)) ∧
    ∀ nodes w₁, (∀ n, IsFirst (Spans e.line) nodes n → n.isTestcase = false) →
      (runAmong nodes e.line).run.poll World.isReady w₁ =
        (.done (.ok none), (refusal w₁).after) := by
  refine ⟨fun log r w' h => ?_, fun hbusy => ?_, poll_here heditor, fun w₁ => decided_seek,
    fun nodes w₁ hnone => ?_⟩
  -- Others have their turn, then the entries are listed, then the first one is run.
  · obtain ⟨listed, rest, w₁, nodes, w₂, rfl, hothers, hlisted, hrest⟩ := plays_seek heditor h
    obtain ⟨hlive₁, hdrawn₁⟩ := live_drawn_of_others hlive hdrawn hothers
    obtain ⟨⟨file, hconsults, root, d, hdepicts⟩, hharmless⟩ := consults_of_plays hdrawn₁ hlisted
    obtain ⟨hlive₂, -⟩ := quiet_of_obeys hlive₁ (obeys_nodesFor e.file [])
      (hlisted.mono fun _ _ hnear => hnear.beside)
    have hdrawn₂ := (hlisted.invariant (P := Drawn) (fun x hx => (hharmless x hx).spares.drawn)
      (fun _ _ hnear => hnear.drawn) hdrawn₁).1
    obtain ⟨hruns, hrefuses⟩ := runs_first hlive₂ hdepicts hrest
    have hfront : ∀ x ∈ ⟨w, World, Act.world.run⟩ :: .change w₁ id :: listed, Harmless x :=
      List.forall_mem_cons.2 ⟨harmless_look w, List.forall_mem_cons.2 ⟨harmless_wait w₁, hharmless⟩⟩
    exact ⟨_, rest, w₁, w₂, root, file, d, nodes, rfl, hfront, hothers, hconsults, hdrawn₂,
      hconsults.dottedPath?_eq, hdepicts, hruns, hrefuses⟩
  · have hwait : World.isReady .idle w = false := by simp [World.isReady, hbusy]
    rw [poll_here heditor, seek, Task.poll, if_neg (by rw [hwait]; exact Bool.false_ne_true)]
  · rw [runAmong_eq hnone]
    rfl

/-- A test case that is declared to end before it begins, a class around it, and a function. -/
def overlapping : Document :=
  ⟨none, [⟨"T", "", 7, 3, true, [], [], [], []⟩, ⟨"U", "", 5, 9, false, [], [], [], []⟩],
    [⟨"f", "", 12, 12, []⟩], []⟩

/-- The file in the editor was listed under another spelling, and nothing is asked of
environments. -/
def outlined (line : Nat) : World :=
  { World.start ⟨⟨"/"⟩, 0, [(["p"], .dir)]⟩
      (.recorder { Host.Recorder.fresh with editor := some ⟨⟨"/p/./a.py"⟩, line⟩ }) .files
      default with
    suppressed := true
    projects := [.fresh ⟨"/p"⟩]
    registry := [0]
    listing := { ListingState.initial with
      last := some ⟨⟨"/p/a.py"⟩, ((Node.ofModule ⟨"/p"⟩ ⟨"/p/a.py"⟩ overlapping.classes
        overlapping.functions).run 1).1⟩ } }

/-- At its only line the test case is run. Around it, and at the function, nothing is. -/
theorem runs_class_at_cursor_outlined :
    (∃ log w', Plays Nearby runTestcaseHere.run (outlined 7) log
      (.ok (some "python manage.py runtest a.T")) w' ∧
      ∃ d c, IsFirst (Covers 7) (Document.classes d) c ∧ c.isTestcase = true) ∧
    (∃ log w', Plays Nearby runTestcaseHere.run (outlined 8) log (.ok none) w') ∧
    ∃ log w', Plays Nearby runTestcaseHere.run (outlined 12) log (.ok none) w' := by
  have hlive : ∀ line, IsLive (outlined line) := fun line id hid => by
    rw [List.mem_singleton.mp hid]
    exact Nat.zero_lt_one
  have hdrawn : ∀ line, Drawn (outlined line) := by
    intro line l hl
    have hdraws : Outline.Draws ⟨"/p"⟩ ⟨"/p/a.py"⟩ overlapping.tops
        (Node.ofModule ⟨"/p"⟩ ⟨"/p/a.py"⟩ overlapping.classes overlapping.functions) :=
      Outline.draws_ofModule overlapping
    obtain ⟨nodes, hbuild, hdepicts, -⟩ := hdraws 1
    obtain rfl := Option.some.inj hl
    refine ⟨⟨"/p"⟩, overlapping, ?_⟩
    change List.Forall₂ _ _ ((Node.ofModule ⟨"/p"⟩ ⟨"/p/a.py"⟩ overlapping.classes
      overlapping.functions).run 1).1
    rw [hbuild]
    exact hdepicts
  have hrun : (runTestcaseHere.run.poll World.isReady (outlined 7)).1.result? =
      some (.ok (some "python manage.py runtest a.T")) := by decide +kernel
  have haround : (runTestcaseHere.run.poll World.isReady (outlined 8)).1.result? =
      some (.ok none) := by decide +kernel
  have hfunction : (runTestcaseHere.run.poll World.isReady (outlined 12)).1.result? =
      some (.ok none) := by decide +kernel
  obtain ⟨log, hplays⟩ : ∃ log, Plays Nearby _ _ log _ _ := Plays.last World.isReady hrun
  obtain ⟨log₁, hplays₁⟩ : ∃ log, Plays Nearby _ _ log _ _ := Plays.last World.isReady haround
  obtain ⟨log₂, hplays₂⟩ : ∃ log, Plays Nearby _ _ log _ _ := Plays.last World.isReady hfunction
  refine ⟨⟨log, _, hplays, ?_⟩, ⟨log₁, _, hplays₁⟩, log₂, _, hplays₂⟩
  obtain ⟨_, _, _, _, _, _, d, _, -, -, -, -, -, -, -, -, hrefused⟩ :=
    (runs_class_at_cursor rfl (hlive 7) (hdrawn 7)).1 log _ _ hplays
  -- A line was told, so the command was not refused.
  refine ⟨d, ?_⟩
  by_contra hnone
  have hno : ∀ c, IsFirst (Covers 7) d.classes c → c.isTestcase = false := fun c hc =>
    Bool.eq_false_iff.2 fun htest => hnone ⟨c, hc, htest⟩
  exact nomatch (hrefused hno).2

end Dispatch
end Testbench
