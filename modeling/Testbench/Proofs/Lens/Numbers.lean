import Testbench.Lens
import Testbench.Proofs.Cache.Store
import Mathlib.Data.List.Nodup

/-!
# Numbers — what a number says of a lens

Lenses are numbered as long as a workspace lives. Those of one answer get the numbers that their
lines had before, and fresh ones where there was none.

- `assign_nodes`, `id_of_mem_assign`, `eq_of_fresh` : the lenses of one answer;
- `number?_numbersOf`, `known_replaced` : what is known of a document;
- `Answer`, `Answer.due` : an answer, and the test cases that it owes;
- `Consecutive`          : two answers for one document with none in between;
- `Numbered`             : the state of the lenses against the answers given so far;
- `Numbered.concat`      : one more answer.
-/

namespace Testbench
namespace Lens

open Outline (Node)

/-! ## Numbers of one answer -/

section

variable {known : List (Nat × Nat)} {next : Nat} {nodes : List Node}

theorem assign_nodes (known : List (Nat × Nat)) (next : Nat) (nodes : List Node) :
    (assign known next nodes).1.map (fun l => (l.testcase, l.line)) =
      nodes.map fun n => (n, lineOf n) := by
  induction nodes generalizing next with
  | nil => rfl
  | cons n nodes ih =>
      unfold assign
      cases number? known (lineOf n) with
      | some id => exact congrArg (_ :: ·) (ih next)
      | none => exact congrArg (_ :: ·) (ih (next + 1))

theorem next_le_assign (known : List (Nat × Nat)) (next : Nat) (nodes : List Node) :
    next ≤ (assign known next nodes).2 := by
  induction nodes generalizing next with
  | nil => exact Nat.le_refl _
  | cons n nodes ih =>
      unfold assign
      cases number? known (lineOf n) with
      | some id => exact ih next
      | none => exact Nat.le_of_succ_le (ih (next + 1))

/-- A lens has the number that its line had before, else one of the next numbers. -/
theorem id_of_mem_assign {l : Lens} (h : l ∈ (assign known next nodes).1) :
    number? known l.line = some l.id ∨
      number? known l.line = none ∧ next ≤ l.id ∧ l.id < (assign known next nodes).2 := by
  induction nodes generalizing next with
  | nil => cases h
  | cons n nodes ih =>
      unfold assign at h ⊢
      cases hnumber : number? known (lineOf n) with
      | some id =>
          rw [hnumber] at h
          rcases List.mem_cons.mp h with rfl | h
          · exact .inl hnumber
          · exact ih h
      | none =>
          rw [hnumber] at h
          rcases List.mem_cons.mp h with rfl | h
          · exact .inr ⟨hnumber, Nat.le_refl _, next_le_assign known (next + 1) nodes⟩
          · exact (ih h).imp_right fun ⟨hnone, hle, hlt⟩ => ⟨hnone, Nat.le_of_succ_le hle, hlt⟩

/-- Fresh numbers are all different. -/
theorem eq_of_fresh {l l' : Lens} (h : l ∈ (assign known next nodes).1)
    (h' : l' ∈ (assign known next nodes).1) (hid : l.id = l'.id)
    (hnone : number? known l.line = none) (hnone' : number? known l'.line = none) : l = l' := by
  induction nodes generalizing next with
  | nil => cases h
  | cons n nodes ih =>
      unfold assign at h h'
      cases hnumber : number? known (lineOf n) with
      | some id =>
          rw [hnumber] at h h'
          rcases List.mem_cons.mp h with rfl | h
          · exact absurd (hnumber.symm.trans hnone) (Option.some_ne_none id)
          · rcases List.mem_cons.mp h' with rfl | h'
            · exact absurd (hnumber.symm.trans hnone') (Option.some_ne_none id)
            · exact ih h h'
      | none =>
          rw [hnumber] at h h'
          -- the numbers of the lenses that follow are larger
          have hlarger : ∀ m ∈ (assign known (next + 1) nodes).1, number? known m.line = none →
              next < m.id := by
            intro m hm hm'
            rcases id_of_mem_assign hm with hknown | ⟨-, hle, -⟩
            · exact absurd (hknown.symm.trans hm') (Option.some_ne_none _)
            · exact hle
          rcases List.mem_cons.mp h with rfl | h
          · rcases List.mem_cons.mp h' with rfl | h'
            · rfl
            · exact absurd hid (Nat.ne_of_lt (hlarger l' h' hnone'))
          · rcases List.mem_cons.mp h' with rfl | h'
            · exact absurd hid.symm (Nat.ne_of_lt (hlarger l h hnone))
            · exact ih h h'

end

/-! ## Numbers that are known -/

theorem mem_of_number?_numbersOf {lenses : List Lens} {line id : Nat}
    (h : number? (numbersOf lenses) line = some id) : ∃ l ∈ lenses, l.line = line ∧ l.id = id := by
  obtain ⟨entry, hfind, rfl⟩ := Option.map_eq_some_iff.mp h
  obtain ⟨l, hl, rfl⟩ := List.mem_map.mp (List.mem_of_find?_eq_some hfind)
  exact ⟨l, List.mem_reverse.mp hl, by simpa using List.find?_some hfind, rfl⟩

/-- If lenses stand on different lines, the number of each is known by its line. -/
theorem number?_numbersOf {lenses : List Lens} (hlines : (lenses.map Lens.line).Nodup) {l : Lens}
    (hl : l ∈ lenses) : number? (numbersOf lenses) l.line = some l.id := by
  have hentry : (l.line, l.id) ∈ numbersOf lenses :=
    List.mem_map_of_mem (List.mem_reverse.mpr hl)
  have hsome : (number? (numbersOf lenses) l.line).isSome := by
    rw [number?, Option.isSome_map, List.find?_isSome]
    exact ⟨_, hentry, beq_self_eq_true _⟩
  obtain ⟨id, hid⟩ := Option.isSome_iff_exists.mp hsome
  obtain ⟨l', hl', hline, rfl⟩ := mem_of_number?_numbersOf hid
  rw [hid, List.inj_on_of_nodup_map hlines hl' hl hline]

/-- The entry of another document stays. -/
theorem find?_others (documents : List (Path × List (Nat × Nat))) {document other : Path}
    (h : document.same other = false) :
    (documents.filter fun e => !e.1.same document).find? (fun e => e.1.same other) =
      documents.find? fun e => e.1.same other := by
  rw [List.find?_filter]
  congr 1
  funext e
  by_cases he : e.1.same other = true
  · have hne : e.1.same document = false := by
      refine Bool.eq_false_iff.2 fun hdocument => Bool.eq_false_iff.1 h ?_
      exact Path.same_trans (Path.same_symm hdocument) he
    simp [he, hne]
  · simp [he]

/-- What is known after the numbers of a document were replaced. -/
theorem known_replaced (s : LensState) (next : Nat) (document : Path) (numbers : List (Nat × Nat))
    (other : Path) :
    known ⟨next, (document, numbers) :: s.documents.filter fun e => !e.1.same document⟩ other =
      if document.same other = true then numbers else known s other := by
  unfold known
  rw [List.find?_cons]
  cases hsame : document.same other with
  | true => rfl
  | false => simp [find?_others s.documents hsame]

/-! ## Answers -/

/-- Lenses that were asked for, and the world in which they were given. -/
structure Answer where
  document : Path
  world : World
  lenses : List Lens

/-- The test cases of the last listing, if it is one of this document and a project is live
there. -/
def Answer.due (a : Answer) : List Node :=
  match a.world.listing.last with
  | some listing =>
    if listing.file.same a.document && (Registry.find? a.world a.document).isSome then
      listing.nodes.filter Node.isTestcase
    else []
  | none => []

/-- What is given for a document as soon as no listing is being made. -/
def given (document : Path) (w : World) : List Lens × World :=
  match Registry.find? w document with
  | none => ([], w)
  | some _ => (renew document).run w

def answerIn (document : Path) (w : World) : Answer := ⟨document, w, (given document w).1⟩

/-- The last answer for a document. -/
def IsLast (answers : List Answer) (document : Path) (a : Answer) : Prop :=
  ∃ before after, answers = before ++ a :: after ∧ a.document.same document = true ∧
    ∀ b ∈ after, b.document.same document = false

/-- Two answers for one document with none in between. -/
def Consecutive (answers : List Answer) (a b : Answer) : Prop :=
  ∃ before between after, answers = before ++ a :: (between ++ b :: after) ∧
    a.document.same b.document = true ∧ ∀ c ∈ between, c.document.same b.document = false

section

variable {answers : List Answer} {a b c : Answer} {document : Path}

theorem isLast_concat (h : IsLast (answers ++ [c]) document a) :
    a = c ∧ c.document.same document = true ∨
      c.document.same document = false ∧ IsLast answers document a := by
  obtain ⟨before, after, heq, hsame, hafter⟩ := h
  rcases List.eq_nil_or_concat after with rfl | ⟨after, last, rfl⟩
  · obtain rfl : c = a := by simpa using (List.append_inj' heq rfl).2
    exact .inl ⟨rfl, hsame⟩
  · rw [List.concat_eq_append, ← List.cons_append, ← List.append_assoc] at heq
    obtain ⟨hanswers, hlast⟩ := List.append_inj' heq rfl
    obtain rfl : c = last := by simpa using hlast
    refine .inr ⟨hafter c (by simp), before, after, hanswers, hsame, fun b hb => hafter b ?_⟩
    simp [hb]

theorem consecutive_concat (h : Consecutive (answers ++ [c]) a b) :
    Consecutive answers a b ∨ b = c ∧ IsLast answers c.document a := by
  obtain ⟨before, between, after, heq, hsame, hbetween⟩ := h
  rcases List.eq_nil_or_concat after with rfl | ⟨after, last, rfl⟩
  · rw [← List.cons_append, ← List.append_assoc] at heq
    obtain ⟨hanswers, hlast⟩ := List.append_inj' heq rfl
    obtain rfl : c = b := by simpa using hlast
    exact .inr ⟨rfl, before, between, hanswers, hsame, hbetween⟩
  · rw [List.concat_eq_append, ← List.cons_append, ← List.append_assoc, ← List.cons_append,
      ← List.append_assoc] at heq
    refine .inl ⟨before, between, after, ?_, hsame, hbetween⟩
    rw [(List.append_inj' heq rfl).1, List.append_assoc, List.cons_append]

end

/-! ### What is given -/

theorem given_of_none {document : Path} {w : World} (h : Registry.find? w document = none) :
    given document w = ([], w) := by
  rw [given, h]

theorem given_of_some {document : Path} {w : World} {id : ProjectId}
    (h : Registry.find? w document = some id) : given document w = (renew document).run w := by
  rw [given, h]

theorem nodes_given (document : Path) (w : World) :
    (given document w).1.map (fun l => (l.testcase, l.line)) =
      (answerIn document w).due.map fun n => (n, lineOf n) := by
  unfold Answer.due answerIn
  cases hfind : Registry.find? w document with
  | none =>
      rw [given_of_none hfind]
      cases w.listing.last <;> simp
  | some id =>
      rw [given_of_some hfind]
      refine (assign_nodes _ _ _).trans ?_
      unfold testcases
      cases w.listing.last <;> simp

theorem lines_given (document : Path) (w : World) :
    (given document w).1.map Lens.line = (answerIn document w).due.map lineOf := by
  have h := congrArg (List.map Prod.snd) (nodes_given document w)
  simpa only [List.map_map, Function.comp_def] using h

/-! ## What the numbers say -/

/-- The state of the lenses against the answers given so far. -/
structure Numbered (s : LensState) (answers : List Answer) : Prop where
  below : ∀ a ∈ answers, ∀ l ∈ a.lenses, l.id < s.nextId
  unique : ∀ a ∈ answers, ∀ b ∈ answers, ∀ l ∈ a.lenses, ∀ l' ∈ b.lenses, l.id = l'.id →
    a.document.same b.document = true ∧ l.line = l'.line
  given : ∀ document line id, number? (known s document) line = some id →
    ∃ a ∈ answers, a.document.same document = true ∧ ∃ l ∈ a.lenses, l.line = line ∧ l.id = id
  latest : ∀ document a, IsLast answers document a → ∀ l ∈ a.lenses,
    number? (known s document) l.line = some l.id

namespace Numbered

variable {s : LensState} {answers : List Answer}

theorem initial : Numbered .initial [] := by
  refine ⟨fun _ ha => absurd ha List.not_mem_nil, fun _ ha => absurd ha List.not_mem_nil,
    fun document line id h => ?_, fun document a h => ?_⟩
  · cases h
  · obtain ⟨before, after, heq, -⟩ := h
    simp at heq

/-- An answer without lenses changes nothing. -/
theorem concat_nil (h : Numbered s answers) (document : Path) (w : World) :
    Numbered s (answers ++ [⟨document, w, []⟩]) := by
  have hmem : ∀ {a : Answer} {l : Lens}, a ∈ answers ++ [⟨document, w, []⟩] → l ∈ a.lenses →
      a ∈ answers := by
    intro a l ha hl
    rcases List.mem_append.mp ha with ha | ha
    · exact ha
    · rw [List.mem_singleton.mp ha] at hl
      exact absurd hl List.not_mem_nil
  refine ⟨fun a ha l hl => h.below a (hmem ha hl) l hl,
    fun a ha b hb l hl l' hl' => h.unique a (hmem ha hl) b (hmem hb hl') l hl l' hl',
    fun other line id hknown => ?_, fun other a hlast l hl => ?_⟩
  · obtain ⟨a, ha, hgiven⟩ := h.given other line id hknown
    exact ⟨a, List.mem_append_left _ ha, hgiven⟩
  · rcases isLast_concat hlast with ⟨rfl, -⟩ | ⟨-, hlast⟩
    · exact absurd hl List.not_mem_nil
    · exact h.latest other a hlast l hl

section

variable (h : Numbered s answers) {document : Path} {nodes : List Node} {w : World} {l l' : Lens}
include h

/-- A number that was given before belongs to the same line of the same document. -/
theorem unique_assign (hl : l ∈ (assign (known s document) s.nextId nodes).1) {a : Answer}
    (ha : a ∈ answers) (hl' : l' ∈ a.lenses) (hid : l.id = l'.id) :
    document.same a.document = true ∧ l.line = l'.line := by
  rcases id_of_mem_assign hl with hknown | ⟨-, hle, -⟩
  · obtain ⟨b, hb, hdocument, m, hm, hline, hmid⟩ := h.given document l.line l.id hknown
    obtain ⟨hsame, hlines⟩ := h.unique b hb a ha m hm l' hl' (hmid.trans hid)
    exact ⟨Path.same_trans (Path.same_symm hdocument) hsame, hline.symm.trans hlines⟩
  · -- a fresh number is larger than all that were given
    have hlt := h.below a ha l' hl'
    omega

theorem unique_within (hl : l ∈ (assign (known s document) s.nextId nodes).1)
    (hl' : l' ∈ (assign (known s document) s.nextId nodes).1) (hid : l.id = l'.id) :
    l.line = l'.line := by
  rcases id_of_mem_assign hl with hknown | ⟨hnone, -⟩
  · obtain ⟨b, hb, -, m, hm, hline, hmid⟩ := h.given document l.line l.id hknown
    rw [(h.unique_assign hl' hb hm (hid.symm.trans hmid.symm)).2, hline]
  · rcases id_of_mem_assign hl' with hknown' | ⟨hnone', -⟩
    · obtain ⟨b, hb, -, m, hm, hline, hmid⟩ := h.given document l'.line l'.id hknown'
      rw [(h.unique_assign hl hb hm (hid.trans hmid.symm)).2, hline]
    · rw [eq_of_fresh hl hl' hid hnone hnone']

/-- An answer whose lenses stand on different lines. -/
theorem concat_renewed
    (hlines : ((assign (known s document) s.nextId nodes).1.map Lens.line).Nodup) :
    let lenses := (assign (known s document) s.nextId nodes).1
    Numbered
      ⟨(assign (known s document) s.nextId nodes).2,
        (document, numbersOf lenses) :: s.documents.filter fun e => !e.1.same document⟩
      (answers ++ [⟨document, w, lenses⟩]) := by
  intro lenses
  refine ⟨?_, ?_, ?_, ?_⟩
  -- A number is an old one or a fresh one, and both are below the next.
  · intro a ha l hl
    have hle := next_le_assign (known s document) s.nextId nodes
    rcases List.mem_append.mp ha with ha | ha
    · exact Nat.lt_of_lt_of_le (h.below a ha l hl) hle
    · rw [List.mem_singleton.mp ha] at hl
      rcases id_of_mem_assign hl with hknown | ⟨-, -, hlt⟩
      · obtain ⟨b, hb, -, m, hm, -, hmid⟩ := h.given document l.line l.id hknown
        exact hmid ▸ Nat.lt_of_lt_of_le (h.below b hb m hm) hle
      · exact hlt
  · intro a ha b hb l hl l' hl' hid
    rcases List.mem_append.mp ha with ha | ha
    · rcases List.mem_append.mp hb with hb | hb
      · exact h.unique a ha b hb l hl l' hl' hid
      · rw [List.mem_singleton.mp hb] at hl' ⊢
        obtain ⟨hsame, hline⟩ := h.unique_assign hl' ha hl hid.symm
        exact ⟨Path.same_symm hsame, hline.symm⟩
    · rw [List.mem_singleton.mp ha] at hl ⊢
      rcases List.mem_append.mp hb with hb | hb
      · exact h.unique_assign hl hb hl' hid
      · rw [List.mem_singleton.mp hb] at hl' ⊢
        exact ⟨Path.same_refl _, h.unique_within hl hl' hid⟩
  · intro other line id hknown
    rw [known_replaced] at hknown
    split at hknown
    · rename_i hsame
      exact ⟨_, List.mem_append_right _ (List.mem_singleton_self _), hsame,
        mem_of_number?_numbersOf hknown⟩
    · obtain ⟨a, ha, hgiven⟩ := h.given other line id hknown
      exact ⟨a, List.mem_append_left _ ha, hgiven⟩
  · intro other a hlast l hl
    rw [known_replaced]
    rcases isLast_concat hlast with ⟨rfl, hsame⟩ | ⟨hsame, hlast⟩
    · rw [if_pos hsame]
      exact number?_numbersOf hlines hl
    · rw [if_neg (Bool.eq_false_iff.1 hsame)]
      exact h.latest other a hlast l hl

end

/-- One more answer. -/
theorem concat {w : World} (h : Numbered w.lenses answers) (document : Path)
    (hspaced : ((answerIn document w).due.map lineOf).Nodup) :
    Numbered (Lens.given document w).2.lenses (answers ++ [answerIn document w]) := by
  rw [← lines_given] at hspaced
  unfold answerIn
  cases hfind : Registry.find? w document with
  | none =>
      rw [given_of_none hfind]
      exact h.concat_nil document w
  | some id =>
      rw [given_of_some hfind] at hspaced ⊢
      exact h.concat_renewed hspaced

/-- All numbers of an answer are different. -/
theorem nodup (h : Numbered s answers) {a : Answer} (ha : a ∈ answers)
    (hlines : (a.lenses.map Lens.line).Nodup) : (a.lenses.map Lens.id).Nodup := by
  rw [List.Nodup, List.pairwise_map] at hlines ⊢
  refine hlines.imp_of_mem fun {l l'} hl hl' hne hid => hne ?_
  exact (h.unique a ha a ha l hl l' hl' hid).2

end Numbered

end Lens
end Testbench
