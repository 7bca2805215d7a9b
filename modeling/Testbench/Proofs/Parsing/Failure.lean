import Testbench.Proofs.Files.Spelling
import Testbench.Proofs.Parsing.Courses
import Testbench.Proofs.Parsing.Freshness

/-!
# Failure — a parse that comes to nothing leaves nothing behind

If a parse comes to nothing, all that it has done to the cache is that the table of the folder may
have been loaded, which shows in no answer, unless the folder is asked for in a second spelling that
is too long for its cache file to be found. The host was told why, unless nothing was run. If the
script printed a document, it is found from then on under the time that the file had before the run,
and no other answer changes.

- `found`                  : the document that is found in a world;
- `SameAnswers`, `Stores`  : what can be found after a parse;
- `Prints`, `HasFailed`    : what a run comes to;
- `Parses.course`          : what each course does to answers, marks and host;
- `failed_parse_keeps_all` : failures and successes.
-/

namespace Testbench
namespace Parsing

open Activity (queued steps_miss steps_parse turnRuns)
open Cache (onFiles fileOf)
open Outline (Document)
open ProjectFiles (modifiedMillis)
open Sharing (Starts not_starts)
open Testbench.Task (Ran Plays)

/-! ## What is found -/

section

variable {root : Path} {key : String} {w w' : World}

theorem found_of_beside (h : Beside w w') (r : Path) (k : String) (modified : Nat) :
    found w' r k modified = found w r k modified := by
  unfold found
  rw [Cache.Store.lookup_eq, Cache.Store.lookup_eq, h.cache, Cache.Store.opened,
    Cache.Store.opened, h.tables]

theorem isDirty_of_beside (h : Beside w w') (r : Path) :
    w'.cache.isDirty r = w.cache.isDirty r := by
  rw [h.cache]

/-- A folder that is in memory answers under each of its spellings. -/
theorem found_opened (w : World) (root r : Path) (k : String) (modified : Nat) :
    found (opened w root) r k modified = found w (if root.same r then root else r) k modified := by
  unfold found opened
  rw [Cache.Store.lookup_eq, Cache.Store.lookup_eq, Cache.Store.opened, Cache.Store.slot?_open?]
  split
  · rfl
  · rfl

theorem isDirty_opened (w : World) (root r : Path) :
    (opened w root).cache.isDirty r = w.cache.isDirty r := by
  unfold opened Cache.Store.isDirty
  rw [Cache.Store.slot?_open?]
  split
  · rename_i hsame
    rw [← Cache.Store.slot?_congr w.cache hsame, Cache.Store.opened]
    cases w.cache.slot? root <;> rfl
  · rfl

/-- Two spellings of one folder, one of which is too long for its cache file to be found. -/
def IsOverlong (root r : Path) : Prop :=
  root.same r = true ∧ root ≠ r ∧
    (FileTree.pathLimit < (fileOf root).size ∨ FileTree.pathLimit < (fileOf r).size)

theorem found_same {root r : Path} (h : root.same r = true) (hshort : ¬ IsOverlong root r)
    (k : String) (modified : Nat) : found w root k modified = found w r k modified := by
  by_cases heq : root = r
  · rw [heq]
  · have hfits : (fileOf root).size ≤ FileTree.pathLimit ∧
        (fileOf r).size ≤ FileTree.pathLimit := by
      refine ⟨Nat.not_lt.1 fun hlong => hshort ⟨h, heq, .inl hlong⟩,
        Nat.not_lt.1 fun hlong => hshort ⟨h, heq, .inr hlong⟩⟩
    unfold found
    rw [Cache.Store.lookup_eq, Cache.Store.lookup_eq, Cache.Store.opened, Cache.Store.opened,
      Cache.Store.slot?_congr w.cache h, Cache.load_of_same w.files h hfits.1 hfits.2]
    cases w.cache.slot? r <;> rfl

theorem found_opened_eq {r : Path} (hshort : ¬ IsOverlong root r) (k : String) (modified : Nat) :
    found (opened w root) r k modified = found w r k modified := by
  rw [found_opened]
  split
  · rename_i hsame
    exact found_same hsame hshort k modified
  · rfl

theorem found_put (w : World) (root : Path) (key : String) (modified : Nat)
    (d : Document) (r : Path)
    (k : String) (m : Nat) :
    found { w with cache := w.cache.put onFiles w.files root key modified d } r k m =
      if root.same r then
        if key = k then if modified = m then some d else none else found w root k m
      else found w r k m := by
  unfold found
  rw [Cache.Store.lookup_eq, Cache.Store.opened, Cache.Store.slot?_put]
  split
  · rw [Option.getD_some, Cache.Table.get?_insert, Cache.Store.lookup_eq]
  · rw [Cache.Store.lookup_eq]
    rfl

theorem isDirty_put (w : World) (root : Path) (key : String) (modified : Nat) (d : Document)
    (r : Path) : (w.cache.put onFiles w.files root key modified d).isDirty r =
      (root.same r || w.cache.isDirty r) := by
  unfold Cache.Store.isDirty
  rw [Cache.Store.slot?_put]
  cases root.same r with
  | true => rfl
  | false => rfl

end

/-! ## What a parse comes to -/

/-- Every folder answers as before, except under a second spelling that is too long, and no mark has
changed. -/
structure SameAnswers (file : Path) (w w' : World) : Prop where
  found : ∀ r, (∀ root key, address? w.files file = some (root, key) → ¬ IsOverlong root r) →
    ∀ key modified, found w' r key modified = found w r key modified
  dirty : ∀ r, w'.cache.isDirty r = w.cache.isDirty r

/-- A document is found under its key and time, in place of what was there. All else is as before,
but that the folder is marked. -/
structure Stores (root : Path) (key : String) (modified : Nat) (d : Document) (w w' : World) :
    Prop where
  fresh : ∀ r, root.same r = true → ∀ m, found w' r key m = if modified = m then some d else none
  others : ∀ r k, root.same r = false ∨ k ≠ key → ¬ IsOverlong root r →
    ∀ m, found w' r k m = found w r k m
  dirty : ∀ r, w'.cache.isDirty r = (root.same r || w.cache.isDirty r)

/-- One step starts the script, right in this world, and no other step starts a program. -/
def RunsOnce (p : Parser) (file : Path) (log : List (Ran World)) (v : World) : Prop :=
  ∃ before after, log = before ++ ⟨v, _, (launch p file v).run⟩ :: after ∧
    ∀ x ∈ before ++ after, ¬ Starts x

/-- A process could not be started, was killed, or has told that it failed. -/
def HasFailed : Except Error Outcome → Prop
  | .error _ => True
  | .ok o => o.code ≠ some 0

/-- A process has succeeded and printed a document without errors. -/
def Prints (outcome : Except Error Outcome) (d : Document) : Prop :=
  ∃ o, outcome = .ok o ∧ o.code = some 0 ∧
    Document.ofText? (Text.trim o.stdoutText) = some d ∧ d.hasErrors = false

theorem verdict_of_hasFailed {outcome : Except Error Outcome} (h : HasFailed outcome) :
    ∃ detail, verdict outcome = .failed detail := by
  cases outcome with
  | error cause => exact ⟨_, rfl⟩
  | ok o =>
      have hcode : o.success = false := beq_eq_false_iff_ne.2 h
      exact ⟨_, by rw [verdict, hcode]; rfl⟩

theorem verdict_of_success {o : Outcome} (h : o.code = some 0) : verdict (.ok o) =
    match Document.ofText? (Text.trim o.stdoutText) with
    | none => .unreadable
    | some d => if d.hasErrors then .syntaxErrors else .parsed d := by
  have hcode : o.success = true := beq_iff_eq.2 h
  cases hread : Document.ofText? (Text.trim o.stdoutText) with
  | none => simp [verdict, hcode, hread]
  | some d => simp [verdict, hcode, hread]

theorem verdict_eq_parsed_iff {outcome : Except Error Outcome} {d : Document} :
    verdict outcome = .parsed d ↔ Prints outcome d := by
  constructor
  · intro h
    -- A document comes of a run that has not failed, where the text is one without errors.
    by_cases hfailed : HasFailed outcome
    · rcases verdict_of_hasFailed hfailed with ⟨detail, hdetail⟩
      rw [hdetail] at h
      exact nomatch h
    · cases outcome with
      | error cause => exact absurd trivial hfailed
      | ok o =>
          have hcode : o.code = some 0 := Classical.not_not.1 hfailed
          rw [verdict_of_success hcode] at h
          refine ⟨o, rfl, hcode, ?_⟩
          split at h
          · exact nomatch h
          · rename_i d' hread
            split at h
            · exact nomatch h
            · rename_i herrors
              rw [← Verdict.parsed.inj h]
              exact ⟨hread, Bool.eq_false_iff.2 herrors⟩
  · rintro ⟨o, rfl, hcode, hread, herrors⟩
    rw [verdict_of_success hcode, hread]
    exact if_neg (Bool.eq_false_iff.1 herrors)

theorem notices_of_hasFailed {outcome : Except Error Outcome}
    (h : HasFailed outcome) (file : Path) :
    ∃ status dialog, notices file (verdict outcome) = [.status status, .dialog dialog] := by
  rcases verdict_of_hasFailed h with ⟨detail, hdetail⟩
  exact ⟨_, _, by rw [hdetail]; rfl⟩

theorem notices_of_unusable {outcome : Except Error Outcome} (h : ¬ HasFailed outcome)
    (hprints : ∀ d, ¬ Prints outcome d) (file : Path) :
    ∃ status, notices file (verdict outcome) = [.status status] := by
  cases hverdict : verdict outcome with
  | failed detail =>
      cases outcome with
      | error cause => exact absurd trivial h
      | ok o =>
          have hcode : o.code = some 0 := Classical.not_not.1 h
          rw [verdict_of_success hcode] at hverdict
          split at hverdict
          · exact nomatch hverdict
          · split at hverdict <;> exact nomatch hverdict
  | unreadable => exact ⟨_, rfl⟩
  | syntaxErrors => exact ⟨_, rfl⟩
  | parsed d => exact absurd (verdict_eq_parsed_iff.1 hverdict) (hprints d)

/-! ### All steps of a parse -/

section

variable {p : Parser} {root : Path} {key : String} {file : Path} {w w' : World}
  {log : List (Ran World)} {a : Option Document}

theorem not_starts_lookUp (root : Path) (key : String) (file : Path) (w : World) :
    ¬ Starts ⟨w, Found, (lookUp root key file).run⟩ :=
  not_starts fun v => (Activity.lookUp_frame root key file v).2

theorem starts_launch (p : Parser) (file : Path) (w : World) :
    Starts ⟨w, _, (launch p file w).run⟩ := ⟨_, rfl⟩

theorem not_starts_conclude (root : Path) (key : String) (file : Path)
    (modified : Nat) (v : Verdict)
    (w : World) : ¬ Starts ⟨w, _, (conclude root key file modified v).run⟩ := by
  refine not_starts fun v' => ?_
  cases v with
  | _ => rfl

/-- The script is started by no more than one step. -/
theorem RunsOnce.unique {v v' : World} (h : RunsOnce p file log v) (h' : RunsOnce p file log v') :
    v = v' := by
  rcases h with ⟨before, after, rfl, -⟩
  rcases h' with ⟨before', after', heq, hquiet⟩
  have hmem : (⟨v, _, (launch p file v).run⟩ : Ran World) ∈
      before' ++ ⟨v', _, (launch p file v').run⟩ :: after' := by
    rw [← heq]
    exact List.mem_append_right _ List.mem_cons_self
  rcases List.mem_append.1 hmem with hbefore | hmem
  · exact absurd (starts_launch p file v) (hquiet _ (List.mem_append_left _ hbefore))
  · rcases List.mem_cons.1 hmem with hsame | hafter
    · exact congrArg Ran.before hsame
    · exact absurd (starts_launch p file v) (hquiet _ (List.mem_append_right _ hafter))

theorem RunsOnce.exists_starts {v : World} (h : RunsOnce p file log v) : ∃ x ∈ log, Starts x := by
  rcases h with ⟨before, after, rfl, -⟩
  exact ⟨_, List.mem_append_right _ List.mem_cons_self, starts_launch p file v⟩

theorem tells_placed {before after : List (Ran World)} {ns : List Notice}
    (hbefore : ∀ x ∈ before, Idle x) (h : Tells log ns) (hafter : ∀ x ∈ after, Idle x) :
    Tells (before ++ log ++ after) ns := by
  have hfront := Parted.of_all fun x hx => (hbefore x hx).silent
  have hback := Parted.of_all fun x hx => (hafter x hx).silent
  have hall := (hfront.append h).append hback
  rwa [List.nil_append, List.append_nil] at hall

theorem conclude_unparsed {v : Verdict} (hv : ∀ d, v ≠ .parsed d) (root : Path) (key : String)
    (file : Path) (modified : Nat) (w : World) :
    ((conclude root key file modified v).run w).1 = none ∧
      Beside w ((conclude root key file modified v).run w).2 := by
  cases v with
  | failed detail => exact ⟨rfl, rfl, fun _ => rfl⟩
  | unreadable => exact ⟨rfl, rfl, fun _ => rfl⟩
  | syntaxErrors => exact ⟨rfl, rfl, fun _ => rfl⟩
  | parsed d => exact absurd rfl (hv d)

theorem sameAnswers_of_beside (h : Beside w w') : SameAnswers file w w' :=
  ⟨fun r _ k modified => found_of_beside h r k modified, isDirty_of_beside h⟩

/-- That the table of the folder was loaded shows in no answer. -/
theorem sameAnswers_of_opened {w₁ : World} (haddress : address? w.files file = some (root, key))
    (hstart : Beside w w₁) (hend : Beside (opened w₁ root) w') : SameAnswers file w w' where
  found r hshort k modified := by
    rw [found_of_beside hend, found_opened_eq (hshort root key haddress), found_of_beside hstart]
  dirty r := by rw [isDirty_of_beside hend, isDirty_opened, isDirty_of_beside hstart]

theorem stores_of_put {w₁ w₂ : World} {modified : Nat} {d : Document} (hstart : Beside w w₁)
    (hrun : Beside (opened w₁ root) w₂)
    (hend : Beside { w₂ with cache := w₂.cache.put onFiles w₂.files root key modified d } w') :
    Stores root key modified d w w' where
  fresh r hsame m := by
    rw [found_of_beside hend, found_put, if_pos hsame, if_pos rfl]
  others r k hother hshort m := by
    have hopened : ∀ q k, ¬ IsOverlong root q → found w₂ q k m = found w q k m := fun q k hq => by
      rw [found_of_beside hrun, found_opened_eq hq, found_of_beside hstart]
    rw [found_of_beside hend, found_put]
    split
    · -- Another key of the folder, perhaps under another spelling of it.
      rename_i hsame
      have hkey : key ≠ k := fun heq => hother.elim (fun h => by simp [hsame] at h) (· heq.symm)
      rw [if_neg hkey, hopened root k fun h => h.2.1 rfl, found_same hsame hshort]
    · exact hopened r k hshort
  dirty r := by
    rw [isDirty_of_beside hend, isDirty_put, isDirty_of_beside hrun, isDirty_opened,
      isDirty_of_beside hstart]

/-- A parse may run nothing. -/
structure IsQuiet (file : Path) (w : World) (log : List (Ran World)) (w' : World) : Prop where
  starts : ∀ x ∈ log, ¬ Starts x
  tells : Tells log []
  same : SameAnswers file w w'

/-- A parse may run the script once, and tells what came of it. -/
structure Runs (p : Parser) (file : Path) (w : World) (log : List (Ran World)) (a : Option Document)
    (w' v : World) : Prop where
  once : RunsOnce p file log v
  tells : Tells log (notices file (verdict (reply p file v)))
  failed : (∀ d, ¬ Prints (reply p file v) d) → a = none ∧ SameAnswers file w w'
  printed : ∀ d, Prints (reply p file v) d → a = some d ∧
    ∃ root key modified, address? w.files file = some (root, key) ∧
      modifiedMillis v.files file = .ok modified ∧ Stores root key modified d w w'

theorem tells_fetchRuns (root : Path) (key : String) (modified : Nat) (w₁ w₂ : World) :
    Tells (fetchRuns p root key file modified w₁ w₂)
      (notices file (verdict (reply p file (opened w₁ root)))) := by
  have hlast := Parted.cons (notifies_conclude root key file modified
    (verdict (reply p file (opened w₁ root))) w₂) .nil
  have hrest := Parted.cons (notifies_launch (p.invocation (opened w₁ root) file) (opened w₁ root))
    (.cons (idle_wait w₂).silent hlast)
  have hall := Parted.cons (notifies_lookUp root key file w₁)
    (.cons (idle_look (opened w₁ root)).silent hrest)
  rwa [List.append_nil] at hall

/-- The script runs from the world in which the file was looked up, with the table of its folder. -/
theorem runsOnce_fetchRuns {before after : List (Ran World)} (root : Path) (key : String)
    (modified : Nat) (w₁ w₂ : World) (hbefore : ∀ x ∈ before, Idle x)
    (hafter : ∀ x ∈ after, Idle x) :
    RunsOnce p file (before ++ fetchRuns p root key file modified w₁ w₂ ++ after)
      (opened w₁ root) := by
  refine ⟨before ++
      [⟨w₁, Found, (lookUp root key file).run⟩, ⟨opened w₁ root, World, Act.world.run⟩],
    [.change w₂ id, ⟨w₂, _, (finish p root key file modified (opened w₁ root)).run⟩] ++ after,
    by simp [fetchRuns], List.forall_mem_append.2 ⟨List.forall_mem_append.2 ⟨?_, ?_⟩,
      List.forall_mem_append.2 ⟨?_, ?_⟩⟩⟩
  · exact fun x hx => (hbefore x hx).starts
  · simp [not_starts_lookUp, (idle_look _).starts]
  · simp [not_starts_conclude, (idle_wait _).starts]
  · exact fun x hx => (hafter x hx).starts

theorem runs_of_ran {before after : List (Ran World)} {w₁ w₂ : World} {modified : Nat}
    (haddress : address? w.files file = some (root, key)) (hbefore : ∀ x ∈ before, Idle x)
    (hstart : Beside w w₁) (htime : modifiedMillis w₁.files file = .ok modified)
    (hbeside : Beside ((launch p file (opened w₁ root)).run (opened w₁ root)).2 w₂)
    (hafter : ∀ x ∈ after, Idle x)
    (hend : Beside ((finish p root key file modified (opened w₁ root)).run w₂).2 w')
    (hlog : ∀ x ∈ before ++ fetchRuns p root key file modified w₁ w₂ ++ after, LeavesTables x) :
    Runs p file w (before ++ fetchRuns p root key file modified w₁ w₂ ++ after)
      ((finish p root key file modified (opened w₁ root)).run w₂).1 w' (opened w₁ root) := by
  have hlaunch :
      Beside (opened w₁ root) ((launch p file (opened w₁ root)).run (opened w₁ root)).2 := by
    refine ⟨Activity.cache_launch _ _,
      hlog ⟨opened w₁ root, _, (launch p file (opened w₁ root)).run⟩ ?_⟩
    simp [fetchRuns]
  have hrun := hlaunch.trans hbeside
  refine ⟨runsOnce_fetchRuns root key modified w₁ w₂ hbefore hafter,
    tells_placed hbefore (tells_fetchRuns root key modified w₁ w₂) hafter, fun hprints => ?_,
    fun d hprints => ?_⟩
  · have hv : ∀ d, verdict (reply p file (opened w₁ root)) ≠ .parsed d := fun d hd =>
      hprints d (verdict_eq_parsed_iff.1 hd)
    have hconclude := conclude_unparsed hv root key file modified w₂
    exact ⟨hconclude.1, sameAnswers_of_opened haddress hstart (hrun.trans (hconclude.2.trans hend))⟩
  -- A document that is printed is kept.
  · have hfinish : (finish p root key file modified (opened w₁ root)).run w₂ =
        (some d, { w₂ with cache := w₂.cache.put onFiles w₂.files root key modified d }) := by
      unfold finish
      rw [verdict_eq_parsed_iff.2 hprints]
      exact Activity.run_keep root key file modified d w₂
    rw [hfinish] at hend ⊢
    exact ⟨rfl, root, key, modified, haddress, htime, stores_of_put hstart hrun hend⟩

theorem Parses.course (h : Parses p file w log a w') (hlog : ∀ x ∈ log, LeavesTables x) :
    IsQuiet file w log w' ∨ ∃ v, Runs p file w log a w' v := by
  cases h with
  | unplaced haddress =>
      refine .inl ⟨?_, Parted.of_all ?_, sameAnswers_of_beside (.refl w)⟩
      · simpa using (idle_look w).starts
      · simpa using (idle_look w).silent
  | @placed root key before inner after _ w₁ w₂ _ haddress hbefore hstart hfetch hafter hend =>
      -- What stands around the turn starts nothing, so it depends on what is done in it.
      have hquiet : (∀ x ∈ inner, ¬ Starts x) → ∀ x ∈ before ++ inner ++ after, ¬ Starts x := by
        intro hinner
        refine List.forall_mem_append.2 ⟨List.forall_mem_append.2 ⟨?_, hinner⟩, ?_⟩
        · exact fun x hx => (hbefore x hx).starts
        · exact fun x hx => (hafter x hx).starts
      have hlookUp : Tells [⟨w₁, Found, (lookUp root key file).run⟩] [] :=
        Parted.of_all (by simpa using notifies_lookUp root key file w₁)
      cases hfetch with
      | unreadable htime =>
          refine .inl ⟨hquiet ?_, tells_placed hbefore hlookUp hafter,
            sameAnswers_of_beside (hstart.trans hend)⟩
          simpa using not_starts_lookUp root key file w₁
      | cached htime hfound =>
          refine .inl ⟨hquiet ?_, tells_placed hbefore hlookUp hafter,
            sameAnswers_of_opened haddress hstart hend⟩
          simpa using not_starts_lookUp root key file w₁
      | @ran modified w₃ htime hmissing hbeside =>
          exact .inr ⟨_, runs_of_ran haddress hbefore hstart htime hbeside hafter hend hlog⟩

/-- Nothing but the script itself touches a file. -/
theorem Parses.files (h : Parses p file w log a w') :
    ∀ x ∈ log, ¬ Starts x → x.after.files = x.before.files := by
  have hfetched : ∀ {root key w₁ inner d w₂}, Fetches p root key file w₁ inner d w₂ →
      ∀ x ∈ inner, ¬ Starts x → x.after.files = x.before.files := by
    intro root key w₁ inner d w₂ hfetch
    have hlookUp := (Activity.lookUp_frame root key file w₁).1
    cases hfetch with
    | unreadable htime =>
        intro x hx _
        rw [List.mem_singleton.1 hx]
        exact hlookUp
    | cached htime hfound =>
        intro x hx _
        rw [List.mem_singleton.1 hx]
        exact hlookUp
    | @ran modified w₃ htime hmissing hbeside =>
        intro x hx hstarts
        simp only [fetchRuns, List.mem_cons, List.not_mem_nil, or_false] at hx
        rcases hx with rfl | rfl | rfl | rfl | rfl
        · exact hlookUp
        · rfl
        -- Of the acts in the turn only the start of the script counts.
        · exact absurd (starts_launch p file _) hstarts
        · rfl
        · change ((finish p root key file modified (opened w₁ root)).run w₃).2.files = w₃.files
          unfold finish
          cases verdict (reply p file (opened w₁ root)) <;> rfl
  cases h with
  | unplaced haddress => simp [(idle_look w).files]
  | placed haddress hbefore hstart hfetch hafter hend =>
      intro x hx hstarts
      rcases List.mem_append.1 hx with hx | hx
      · rcases List.mem_append.1 hx with hx | hx
        · exact (hbefore x hx).files
        · exact hfetched hfetch x hx hstarts
      · exact (hafter x hx).files

/-- A prepared answer touches no file. -/
theorem Parses.leavesTables {v : World} {s : Script} (h : Parses p file w log a w')
    (honce : RunsOnce p file log v) (hrunner : v.runner = .script s) :
    ∀ x ∈ log, LeavesTables x := by
  intro x hx r
  rcases Classical.em (Starts x) with hstarts | hstarts
  · rcases honce with ⟨before, after, rfl, hquiet⟩
    have hlaunch : x = ⟨v, _, (launch p file v).run⟩ := by
      rcases List.mem_append.1 hx with hx | hx
      · exact absurd hstarts (hquiet x (List.mem_append_left _ hx))
      · rcases List.mem_cons.1 hx with heq | hx
        · exact heq
        · exact absurd hstarts (hquiet x (List.mem_append_right _ hx))
    rw [hlaunch]
    change onFiles.load ((launch p file v).run v).2.files r = onFiles.load v.files r
    rw [Activity.run_launch, hrunner]
    rfl
  · rw [h.files x hx hstarts]

/-- A parse that comes to nothing changes no answer and no mark. If nothing was run the host is told
nothing, if a process has failed it gets one status line and one dialog, and one status line alone
if what was printed cannot be used. If the script has printed a document without errors, that is the
answer, and it is stored under the time that the file had when the script was started; the host is
told nothing. Nothing but the script writes a file. -/
theorem failed_parse_keeps_all (h : Plays Beside (parse p file) w log a w')
    (hlog : ∀ x ∈ log, LeavesTables x) :
    (a = none → SameAnswers file w w' ∧
      ((∀ x ∈ log, ¬ Starts x) ∧ Tells log [] ∨
        ∃ v, RunsOnce p file log v ∧ (∀ d, ¬ Prints (reply p file v) d) ∧
          Tells log (notices file (verdict (reply p file v))) ∧
          (HasFailed (reply p file v) →
            ∃ status dialog, Tells log [.status status, .dialog dialog]) ∧
          (¬ HasFailed (reply p file v) → ∃ status, Tells log [.status status]))) ∧
    (∀ v, RunsOnce p file log v → ((∀ d, ¬ Prints (reply p file v) d) → a = none) ∧
      ∀ d, Prints (reply p file v) d → a = some d ∧ Tells log [] ∧
        ∃ root key modified, address? w.files file = some (root, key) ∧
          modifiedMillis v.files file = .ok modified ∧ Stores root key modified d w w') ∧
    ∀ x ∈ log, ¬ Starts x → x.after.files = x.before.files := by
  have hparses := plays_parse h
  refine ⟨fun hnone => ?_, fun v honce => ?_, hparses.files⟩
  · rcases hparses.course hlog with hquiet | ⟨v, hruns⟩
    · exact ⟨hquiet.same, .inl ⟨hquiet.starts, hquiet.tells⟩⟩
    · have hprints : ∀ d, ¬ Prints (reply p file v) d := by
        intro d hd
        have hsome := (hruns.printed d hd).1
        rw [hnone] at hsome
        simp at hsome
      refine ⟨(hruns.failed hprints).2, .inr ⟨v, hruns.once, hprints, hruns.tells, ?_, ?_⟩⟩
      · intro hfailed
        rcases notices_of_hasFailed hfailed file with ⟨status, dialog, heq⟩
        exact ⟨status, dialog, heq ▸ hruns.tells⟩
      · intro hended
        rcases notices_of_unusable hended hprints file with ⟨status, heq⟩
        exact ⟨status, heq ▸ hruns.tells⟩
  · rcases hparses.course hlog with hquiet | ⟨v', hruns⟩
    -- A quiet parse does not start the script, and one that runs it does so once.
    · rcases honce.exists_starts with ⟨x, hx, hstarts⟩
      exact absurd hstarts (hquiet.starts x hx)
    · rw [hruns.once.unique honce] at hruns
      refine ⟨fun hprints => (hruns.failed hprints).1, fun d hprints => ?_⟩
      rcases hruns.printed d hprints with ⟨hsome, hstores⟩
      have htells := hruns.tells
      rw [verdict_eq_parsed_iff.2 hprints] at htells
      exact ⟨hsome, htells, hstores⟩

end

/-! ### A failure and a success -/

/-- A world on a tree, with nothing in the cache, where every script is answered like this. -/
def answering (files : FileTree) (o : Outcome) : World :=
  World.start files default (.script ⟨[("", .outcome o)], [], []⟩) default

theorem found_answering (files : FileTree) (o : Outcome) (root : Path) (key : String)
    (modified : Nat) :
    found (answering files o) root key modified = (onFiles.load files root).get? key modified := by
  unfold found
  rw [Cache.Store.lookup_eq]
  rfl

section

variable (p : Parser) (root : Path) (key : String) (file : Path) (modified : Nat) (w : World)

/-- The world in which the script is started, when nobody comes between. -/
def aloneStart : World := opened (queued p w) root

/-- What the run comes to at its end. -/
def aloneEnd : Option Document × World :=
  (finish p root key file modified (aloneStart p root w)).run
    ((launch p file (aloneStart p root w)).run (aloneStart p root w)).2

/-- The steps of a parse that nobody comes between. -/
def aloneRuns : List (Ran World) :=
  turnRuns p w (fetchRuns p root key file modified (queued p w)
    ((launch p file (aloneStart p root w)).run (aloneStart p root w)).2)
    (aloneEnd p root key file modified w).2

theorem runsOnce_alone : RunsOnce p file (aloneRuns p root key file modified w)
    (aloneStart p root w) := by
  refine ⟨[⟨w, World, Act.world.run⟩, ⟨w, Nat, (Parser.queueUp p).run⟩, .change (queued p w) id,
    ⟨queued p w, Found, (lookUp root key file).run⟩, ⟨aloneStart p root w, World, Act.world.run⟩],
    _, rfl, ?_⟩
  simp [not_starts_lookUp, not_starts_conclude, (idle_look _).starts, (idle_queueUp _ _).starts,
    (idle_wait _).starts, (idle_leave _ _ _).starts]

variable {p root key file modified w}

theorem plays_alone (haddress : address? w.files file = some (root, key))
    (htime : modifiedMillis w.files file = .ok modified)
    (hmissing : found w root key modified = none) :
    Plays Beside (parse p file) w (aloneRuns p root key file modified w)
      (aloneEnd p root key file modified w).1
      (Parser.leave p w.nextTicket (aloneEnd p root key file modified w).2) := by
  have hlookUp : (lookUp root key file).run (queued p w) =
      (.missing modified, aloneStart p root w) :=
    run_lookUp_missing htime hmissing
  have hfetch := steps_miss (p := p) hlookUp rfl rfl
  have hplays : Plays Beside (parse p file) w (aloneRuns p root key file modified w ++ [])
      (aloneEnd p root key file modified w).1 _ :=
    .of_steps (steps_parse haddress hfetch) (.done _ _)
  rwa [List.append_nil] at hplays

end

theorem reply_answering (p : Parser) (file root : Path) (files : FileTree) (o : Outcome) :
    reply p file (aloneStart p root (answering files o)) = .ok o := by
  have hrunner : (aloneStart p root (answering files o)).runner =
      .script ⟨[("", .outcome o)], [], []⟩ := rfl
  rw [reply, launch, Activity.run_launch_answered hrunner]

/-- A run that fails and prints nothing. -/
def failure : Outcome := ⟨some 1, ⟨#[]⟩, ⟨#[]⟩⟩

theorem not_prints_failure (d : Document) : ¬ Prints (.ok failure) d := by
  rintro ⟨o, heq, hcode, -⟩
  rw [← Except.ok.inj heq] at hcode
  simp [failure] at hcode

/-- The left file is parsed twice, each time with nothing in the cache. -/
theorem failed_parse_keeps_all_twins :
    (∃ log a w', Plays Beside (parse Activity.parser ⟨"/left/t.py"⟩)
        (answering Activity.twins failure) log a w' ∧
      a = none ∧ SameAnswers ⟨"/left/t.py"⟩ (answering Activity.twins failure) w' ∧
      ∃ status dialog, Tells log [.status status, .dialog dialog]) ∧
    ∃ log a w', Plays Beside (parse Activity.parser ⟨"/left/t.py"⟩)
        (answering Activity.twins Cache.Table.output) log a w' ∧
      a = some Cache.Table.plain ∧ Tells log [] ∧
      Stores ⟨"/left"⟩ "t.py" 7 Cache.Table.plain
        (answering Activity.twins Cache.Table.output) w' := by
  have hplaced := Activity.placed_twins.1
  have hmissing : ∀ o, found (answering Activity.twins o) ⟨"/left"⟩ "t.py" 7 = none := fun o => by
    rw [found_answering, Activity.load_twins (.inl rfl)]
    rfl
  have honce : ∀ o, RunsOnce Activity.parser ⟨"/left/t.py"⟩
      (aloneRuns Activity.parser ⟨"/left"⟩ "t.py" ⟨"/left/t.py"⟩ 7 (answering Activity.twins o))
      (aloneStart Activity.parser ⟨"/left"⟩ (answering Activity.twins o)) :=
    fun o => runsOnce_alone _ _ _ _ _ _
  have hplays : ∀ o,
      Plays Beside (parse Activity.parser ⟨"/left/t.py"⟩) (answering Activity.twins o)
        (aloneRuns Activity.parser ⟨"/left"⟩ "t.py" ⟨"/left/t.py"⟩ 7
          (answering Activity.twins o)) _ _ :=
    fun o => plays_alone hplaced.address hplaced.time (hmissing o)
  -- What holds of every parse, with the two replies.
  have hlaw := fun o => failed_parse_keeps_all (hplays o)
    ((plays_parse (hplays o)).leavesTables (honce o) rfl)
  have hreply := reply_answering Activity.parser ⟨"/left/t.py"⟩ ⟨"/left"⟩ Activity.twins
  refine ⟨⟨_, _, _, hplays failure, ?_⟩, ⟨_, _, _, hplays Cache.Table.output, ?_⟩⟩
  · have hnone := ((hlaw failure).2.1 _ (honce failure)).1 fun d hprints =>
      not_prints_failure d (hreply failure ▸ hprints)
    have hkept := (hlaw failure).1 hnone
    refine ⟨hnone, hkept.1, ?_⟩
    rcases hkept.2 with ⟨hquiet, -⟩ | ⟨v, hv, -, -, hfailed, -⟩
    · rcases (honce failure).exists_starts with ⟨x, hx, hstarts⟩
      exact absurd hstarts (hquiet x hx)
    · rw [hv.unique (honce failure), hreply] at hfailed
      exact hfailed (by simp [HasFailed, failure])
  · have hprints : Prints (reply Activity.parser ⟨"/left/t.py"⟩
        (aloneStart Activity.parser ⟨"/left"⟩ (answering Activity.twins Cache.Table.output)))
        Cache.Table.plain := by
      rw [hreply]
      exact verdict_eq_parsed_iff.1 Cache.Table.verdict_printed
    rcases ((hlaw _).2.1 _ (honce _)).2 _ hprints with
      ⟨hsome, htells, root, key, modified, haddress, htime, hstores⟩
    have hwhere := hplaced.address.symm.trans haddress
    have hwhen := hplaced.time.symm.trans htime
    simp only [Option.some.injEq, Prod.mk.injEq, Except.ok.injEq] at hwhere hwhen
    rw [← hwhere.1, ← hwhere.2, ← hwhen] at hstores
    exact ⟨hsome, htells, hstores⟩

/-! ### A spelling that is too long -/

/-- Slashes that do not fit into a path. -/
def slashes (count : Nat) : String := String.ofList (List.replicate count '/')

/-- The right folder, with slashes at the end. -/
def overlong : Path := ⟨"/right" ++ slashes FileTree.pathLimit⟩

theorem utf8ByteSize_slashes (count : Nat) : (slashes count).utf8ByteSize = count := by
  induction count with
  | zero => rfl
  | succ count ih =>
      have hmore : slashes (count + 1) = "/" ++ slashes count := by
        refine String.toList_injective ?_
        simp only [slashes, String.toList_append, String.toList_ofList]
        exact List.replicate_succ
      rw [hmore, String.utf8ByteSize_append, ih]
      exact Nat.add_comm 1 count

theorem bodyComponents_slashes (count : Nat) : Path.bodyComponents (slashes count).toList = [] := by
  induction count with
  | zero => rfl
  | succ count ih =>
      rw [slashes, String.toList_ofList] at ih ⊢
      have hfront := Path.bodyComponents_append [] (List.replicate count '/')
      rw [ih] at hfront
      exact hfront

/-- Slashes at the end make no difference to the components. -/
theorem same_overlong : Path.same ⟨"/right"⟩ overlong = true := by
  rw [Path.same_iff]
  have hchars :
      overlong.chars = '/' :: ("right".toList ++ (slashes FileTree.pathLimit).toList) := by
    rw [Path.chars, overlong, String.toList_append]
    rfl
  have hslashes : (slashes FileTree.pathLimit).toList = '/' :: (slashes 4094).toList := by
    rw [slashes, slashes, String.toList_ofList, String.toList_ofList]
    rfl
  rw [(Path.components_of_chars hchars).2, hslashes, Path.bodyComponents_append,
    bodyComponents_slashes, List.append_nil]
  rfl

theorem load_overlong (t : FileTree) : onFiles.load t overlong = .empty := by
  have hoverlong : FileTree.pathLimit < overlong.size := by
    rw [Path.size, overlong, String.utf8ByteSize_append, utf8ByteSize_slashes]
    have hname : ("/right" : String).utf8ByteSize = 6 := rfl
    omega
  have hsettings := Path.size_joinText overlong ProjectFiles.isName_settingsDirName.noSlash
  have hfile := Path.size_joinText (overlong.joinText ProjectFiles.settingsDirName)
    Cache.isName_fileName.noSlash
  have hlong : FileTree.pathLimit < (fileOf overlong).size := by
    rw [fileOf]
    omega
  rw [Cache.onFiles_load, Cache.Table.load_of_location?_eq_none (FileTree.location?_of_size hlong)]

/-- A failed parse of a right file makes an entry of its folder show under the long spelling: before
the parse the cache file is not found there, and afterwards its table is in memory. -/
theorem found_after_failure :
    ∃ log a w', Plays Beside (parse Activity.parser ⟨"/right/u.py"⟩)
        (answering Activity.filed failure) log a w' ∧
      (∀ x ∈ log, LeavesTables x) ∧ a = none ∧
      found (answering Activity.filed failure) overlong "t.py" 7 = none ∧
      found w' overlong "t.py" 7 = some Cache.Table.plain := by
  let w := answering Activity.filed failure
  let p := Activity.parser
  let started := aloneStart p ⟨"/right"⟩ w
  let launched := ((launch p ⟨"/right/u.py"⟩ started).run started).2
  have hplaced : Activity.Placed Activity.filed ⟨"/right/u.py"⟩ ⟨"/right"⟩ "u.py" := by
    decide +kernel
  have hmissing : found w ⟨"/right"⟩ "u.py" 7 = none := by
    rw [found_answering, Activity.load_right]
    decide +kernel
  have hplays : Plays Beside (parse p ⟨"/right/u.py"⟩) w
      (aloneRuns p ⟨"/right"⟩ "u.py" ⟨"/right/u.py"⟩ 7 w) _ _ :=
    plays_alone hplaced.address hplaced.time hmissing
  have htables := (plays_parse hplays).leavesTables (runsOnce_alone _ _ _ _ _ _) rfl
  have hlaunched : Beside started launched := by
    refine ⟨Activity.cache_launch _ _,
      htables ⟨started, _, (launch p ⟨"/right/u.py"⟩ started).run⟩ ?_⟩
    simp [aloneRuns, turnRuns, fetchRuns, started, aloneStart]
  have hfailed : ∀ d, verdict (reply p ⟨"/right/u.py"⟩ started) ≠ .parsed d := by
    intro d hd
    rw [reply_answering] at hd
    exact not_prints_failure d (verdict_eq_parsed_iff.1 hd)
  have hend := conclude_unparsed hfailed ⟨"/right"⟩ "u.py" ⟨"/right/u.py"⟩ 7 launched
  have hended := (hlaunched.trans hend.2).trans (beside_leave p w.nextTicket _)
  refine ⟨_, _, _, hplays, htables, hend.1, ?_, ?_⟩
  · rw [found_answering, load_overlong]
    rfl
  · have hqueued := found_of_beside (beside_queued p w) ⟨"/right"⟩ "t.py" 7
    refine (found_of_beside hended overlong "t.py" 7).trans ?_
    change found (opened (queued p w) ⟨"/right"⟩) overlong "t.py" 7 = some Cache.Table.plain
    rw [found_opened, if_pos same_overlong, hqueued, found_answering, Activity.load_right,
      Activity.table, Cache.Table.get?_insert, if_pos rfl, if_pos rfl]

end Parsing
end Testbench
