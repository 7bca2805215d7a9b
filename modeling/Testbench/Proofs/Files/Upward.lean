import Mathlib.Logic.Relation
import Testbench.Config
import Testbench.Proofs.Parsing.Address

/-!
# Upward — what is found above a path

The settings of a file, the project of a path and the configuration of a folder are looked for in
the same way: in one folder after the other, each the parent of the one before, up to a path that
has no parent. So the walk ends, it passes every beginning of the components once, and what it finds
first is the deepest that there is.

- `Path.AtOrAbove`, `Path.ProperlyAbove` : the folders above a path;
- `Path.Climb`, `climb_ancestors`        : the walk from a path to the last of them;
- `Path.IsDeepest`, `Climb.isDeepest_iff` : what is found first;
- `upward_searches`                      : the three searches.
-/

namespace Testbench
namespace Path

/-! ## The folders above a path -/

def IsParent (q p : Path) : Prop := p.parent? = some q

/-- The path itself, its parent, and so on. -/
def AtOrAbove : Path → Path → Prop := Relation.ReflTransGen IsParent

/-- The parent, and so on. -/
def ProperlyAbove : Path → Path → Prop := Relation.TransGen IsParent

section

variable {p q d : Path} {folders : List Path}

theorem AtOrAbove.exists_above (hp : p.isAbsolute = true) (h : AtOrAbove q p) :
    ∃ below, Above q p below := by
  induction h using Relation.ReflTransGen.head_induction_on with
  | refl => exact ⟨[], Above.refl hp⟩
  | head hparent _ ih =>
      rcases ih with ⟨below, hbelow⟩
      rcases above_parent? hbelow.absolute hparent with ⟨c, hc⟩
      exact ⟨c :: below, hc.trans hbelow⟩

/-- A parent is spelled with fewer characters. -/
theorem IsParent.length_lt (hp : p.isAbsolute = true) (h : IsParent q p) :
    q.chars.length < p.chars.length := by
  rcases above_parent? hp h with ⟨c, habove⟩
  refine Nat.lt_of_le_of_ne habove.spelled.length_le fun hlength => ?_
  have heq : q = p := eq_of_chars (habove.spelled.eq_of_length hlength)
  have hcomponents := habove.components
  rw [heq] at hcomponents
  exact List.cons_ne_nil c [] (List.self_eq_append_right.1 hcomponents)

theorem ProperlyAbove.length_lt (hp : p.isAbsolute = true) (h : ProperlyAbove q p) :
    q.chars.length < p.chars.length := by
  rcases Relation.TransGen.tail'_iff.1 h with ⟨up, hq, hup⟩
  rcases above_parent? hp hup with ⟨c, habove⟩
  rcases AtOrAbove.exists_above habove.absolute hq with ⟨below, hbelow⟩
  exact Nat.lt_of_le_of_lt hbelow.spelled.length_le (hup.length_lt hp)

theorem atOrAbove_iff_of_isParent {up : Path} (h : IsParent up p) :
    AtOrAbove q p ↔ q = p ∨ AtOrAbove q up := by
  constructor
  · intro hq
    rcases Relation.ReflTransGen.cases_tail hq with heq | ⟨up', hq', hup'⟩
    · exact .inl heq.symm
    · have hsame : up' = up := Option.some.inj (hup'.symm.trans h)
      exact .inr (hsame ▸ hq')
  · rintro (rfl | hq)
    · exact .refl
    · exact hq.tail h

theorem properlyAbove_iff_of_isParent {up : Path} (h : IsParent up p) :
    ProperlyAbove q p ↔ AtOrAbove q up := by
  constructor
  · intro hq
    rcases Relation.TransGen.tail'_iff.1 hq with ⟨up', hq', hup'⟩
    have hsame : up' = up := Option.some.inj (hup'.symm.trans h)
    exact hsame ▸ hq'
  · exact fun hq => Relation.TransGen.tail' hq h

theorem atOrAbove_iff_of_none (h : p.parent? = none) : AtOrAbove q p ↔ q = p := by
  constructor
  · intro hq
    rcases Relation.ReflTransGen.cases_tail hq with heq | ⟨up, -, hup⟩
    · exact heq.symm
    · exact absurd (hup.symm.trans h) (Option.some_ne_none up)
  · rintro rfl
    exact .refl

theorem not_properlyAbove_of_none (h : p.parent? = none) : ¬ProperlyAbove q p := by
  intro hq
  rcases Relation.TransGen.tail'_iff.1 hq with ⟨up, -, hup⟩
  exact absurd (hup.symm.trans h) (Option.some_ne_none up)

/-! ## The walk -/

/-- The walk from a path to its parents, until there is none. -/
inductive Climb : Path → List Path → Prop where
  | last {p : Path} (h : p.parent? = none) : Climb p [p]
  | up {p q : Path} {folders : List Path} (h : IsParent q p) (hrest : Climb q folders) :
      Climb p (p :: folders)

/-- The walk ends before the bound does. -/
theorem climb_chain (hp : p.isAbsolute = true) {count : Nat} (hcount : p.chars.length ≤ count + 1) :
    Climb p (p.chain count) := by
  induction count generalizing p with
  | zero =>
      cases hparent : p.parent? with
      | none => exact .last hparent
      | some q =>
          -- Nothing absolute is shorter than a slash.
          have hshorter := IsParent.length_lt hp hparent
          rcases above_parent? hp hparent with ⟨c, habove⟩
          rcases components_of_isAbsolute habove.absolute with ⟨body, hbody, -⟩
          rw [hbody, List.length_cons] at hshorter
          omega
  | succ count ih =>
      rw [chain]
      cases hparent : p.parent? with
      | none => exact .last hparent
      | some q =>
          have hshorter := IsParent.length_lt hp hparent
          rcases above_parent? hp hparent with ⟨c, habove⟩
          exact .up hparent (ih habove.absolute (by omega))

theorem climb_ancestors (hp : p.isAbsolute = true) : Climb p p.ancestors :=
  climb_chain hp (Nat.le_succ _)

namespace Climb

theorem mem_iff (h : Climb p folders) : q ∈ folders ↔ AtOrAbove q p := by
  induction h with
  | last hnone => rw [List.mem_singleton, atOrAbove_iff_of_none hnone]
  | up hparent _ ih => rw [List.mem_cons, ih, atOrAbove_iff_of_isParent hparent]

/-- Every folder that is passed lies properly above those that were passed before. -/
theorem pairwise (h : Climb p folders) :
    folders.Pairwise fun below above => ProperlyAbove above below := by
  induction h with
  | last => exact List.pairwise_singleton _ _
  | up hparent hrest ih =>
      refine List.pairwise_cons.2 ⟨fun q hq => ?_, ih⟩
      exact (properlyAbove_iff_of_isParent hparent).2 (hrest.mem_iff.1 hq)

/-- The walk from any of its folders is what is left of it. -/
theorem of_append {front back : List Path} (h : Climb p (front ++ d :: back)) :
    Climb d (d :: back) := by
  generalize hsplit : front ++ d :: back = folders at h
  induction h generalizing front with
  | @last p hnone =>
      rcases List.append_eq_singleton_iff.1 hsplit with ⟨-, htail⟩ | ⟨-, htail⟩
      · rw [htail, (List.cons.inj htail).1]
        exact .last hnone
      · exact absurd htail (List.cons_ne_nil d back)
  | @up p q folders hparent hrest ih =>
      cases front with
      | nil =>
          rcases List.cons.inj hsplit with ⟨rfl, rfl⟩
          exact .up hparent hrest
      | cons c front => exact ih (List.cons.inj hsplit).2

end Climb

/-- Every beginning of the components is a folder above. -/
theorem isPrefix_components_iff (hp : p.isAbsolute = true) {front : List Component}
    (hfront : front ≠ []) : front <+: p.components ↔ ∃ q, AtOrAbove q p ∧ q.components = front := by
  constructor
  · intro hstart
    have hclimb := climb_ancestors hp
    generalize p.ancestors = folders at hclimb
    -- A beginning is all the components, or it ends before the last one and belongs to the parent.
    induction hclimb with
    | @last p hnone =>
        rcases List.eq_nil_or_concat p.components with hnil | ⟨cs, c, hsplit⟩
        · exact absurd (List.prefix_nil.1 (hnil ▸ hstart)) hfront
        · rw [List.concat_eq_append] at hsplit
          rw [hsplit] at hstart
          rcases List.prefix_concat_iff.1 hstart with heq | hshorter
          · exact ⟨p, .refl, hsplit.trans heq.symm⟩
          · have hcs : cs ≠ [] := fun hnil => hfront (List.prefix_nil.1 (hnil ▸ hshorter))
            rcases exists_parent? hp hcs hsplit with ⟨q, hq, -⟩
            exact absurd (hq.symm.trans hnone) (Option.some_ne_none q)
    | @up p q _ hparent _ ih =>
        rcases above_parent? hp hparent with ⟨c, habove⟩
        rw [habove.components] at hstart
        rcases List.prefix_concat_iff.1 hstart with heq | hshorter
        · exact ⟨p, .refl, habove.components.trans heq.symm⟩
        · rcases ih habove.absolute hshorter with ⟨d, hd, hcomponents⟩
          exact ⟨d, hd.tail hparent, hcomponents⟩
  · rintro ⟨q, hq, rfl⟩
    rcases hq.exists_above hp with ⟨below, habove⟩
    rw [habove.components]
    exact List.prefix_append _ _

/-! ## What is found first -/

/-- A folder to which all others with a property are at or above. -/
structure IsDeepest (P : Path → Prop) (d : Path) : Prop where
  holds : P d
  deepest : ∀ q, P q → AtOrAbove q d

variable {P : Path → Prop}

/-- The deepest folder with a property is the first one on the walk. -/
theorem Climb.isDeepest_iff (hp : p.isAbsolute = true) (h : Climb p folders) :
    IsDeepest (fun q => AtOrAbove q p ∧ P q) d ↔
      ∃ front back, folders = front ++ d :: back ∧ P d ∧ ∀ q ∈ front, ¬P q := by
  constructor
  · rintro ⟨⟨hd, hholds⟩, hdeepest⟩
    rcases List.append_of_mem (h.mem_iff.2 hd) with ⟨front, back, rfl⟩
    refine ⟨front, back, rfl, hholds, fun q hq hPq => ?_⟩
    -- A folder that was passed before lies below, and cannot be above as well.
    have hbelow : ProperlyAbove d q :=
      (List.pairwise_append.1 h.pairwise).2.2 q hq d List.mem_cons_self
    have hatOrAbove := h.mem_iff.1 (List.mem_append_left _ hq)
    rcases hd.exists_above hp with ⟨below, habove⟩
    have hself : ProperlyAbove d d := hbelow.trans_left (hdeepest q ⟨hatOrAbove, hPq⟩)
    exact Nat.lt_irrefl _ (hself.length_lt habove.absolute)
  · rintro ⟨front, back, rfl, hholds, hfront⟩
    refine ⟨⟨h.mem_iff.1 (List.mem_append_right _ List.mem_cons_self), hholds⟩, ?_⟩
    rintro q ⟨hq, hPq⟩
    rcases List.mem_append.1 (h.mem_iff.2 hq) with hpassed | hrest
    · exact absurd hPq (hfront q hpassed)
    · exact h.of_append.mem_iff.1 hrest

end

/-- What is found is spelled as a beginning of the path. -/
theorem AtOrAbove.spelled {p q : Path} (hp : p.isAbsolute = true) (h : AtOrAbove q p) :
    q.chars <+: p.chars := by
  rcases h.exists_above hp with ⟨below, habove⟩
  exact habove.spelled

theorem AtOrAbove.size_le {p q : Path} (hp : p.isAbsolute = true) (h : AtOrAbove q p) :
    q.size ≤ p.size := by
  rcases h.spelled hp with ⟨rest, hrest⟩
  rw [size_of_chars hrest.symm]
  exact Nat.le_add_right _ _

/-! ## Looking through the walk -/

section

variable {p d : Path} {folders : List Path}

theorem Climb.find?_eq_some_iff (hp : p.isAbsolute = true) (h : Climb p folders) (P : Path → Bool) :
    folders.find? P = some d ↔ IsDeepest (fun q => AtOrAbove q p ∧ P q = true) d := by
  rw [h.isDeepest_iff hp, List.find?_eq_some_iff_append]
  constructor
  · rintro ⟨hd, front, back, hsplit, hfront⟩
    exact ⟨front, back, hsplit, hd, fun q hq => by simpa using hfront q hq⟩
  · rintro ⟨front, back, hsplit, hd, hfront⟩
    exact ⟨hd, front, back, hsplit, fun q hq => by simpa using hfront q hq⟩

theorem Climb.find?_eq_none_iff (h : Climb p folders) (P : Path → Bool) :
    folders.find? P = none ↔ ∀ q, AtOrAbove q p → P q = false := by
  rw [List.find?_eq_none]
  constructor
  · intro hnone q hq
    simpa using hnone q (h.mem_iff.2 hq)
  · intro hnone q hq
    simpa using hnone q (h.mem_iff.1 hq)

/-- A bound on the size ends the walk where the folders get too short, and they stay so. -/
theorem Climb.find?_takeWhile (hp : p.isAbsolute = true) (h : Climb p folders) (bound : Nat)
    (P : Path → Bool) : (folders.takeWhile fun q => q.size > bound).find? P =
      folders.find? fun q => decide (q.size > bound) && P q := by
  induction h with
  | @last p _ =>
      by_cases hlong : p.size > bound <;> simp [hlong]
  | @up p q folders hparent hrest ih =>
      rcases above_parent? hp hparent with ⟨c, habove⟩
      by_cases hlong : p.size > bound
      · rw [List.takeWhile_cons_of_pos (by simpa using hlong), List.find?_cons, List.find?_cons,
          ih habove.absolute]
        simp [hlong]
      · -- The folders that are left are no longer than this one.
        have hshort : ∀ r ∈ p :: folders, r.size ≤ bound := by
          intro r hr
          have hle := ((Climb.up hparent hrest).mem_iff.1 hr).size_le hp
          omega
        rw [List.takeWhile_cons_of_neg (by simpa using hlong), List.find?_nil, eq_comm,
          List.find?_eq_none]
        intro r hr
        have hle := hshort r hr
        simp
        omega

end
end Path

/-! ## The three searches -/

namespace ProjectFiles

open Testbench.Path (ProperlyAbove AtOrAbove IsParent IsDeepest Climb climb_ancestors)

/-- A folder above a file that holds settings, and is no root of a drive. -/
def HoldsSettings (t : FileTree) (file q : Path) : Prop :=
  ProperlyAbove q file ∧ 3 < q.size ∧ t.isDir (q.joinText ".vscode") = true

/-- A folder at or above a path that holds both markers. -/
def HoldsMarkers (t : FileTree) (p q : Path) : Prop :=
  AtOrAbove q p ∧ t.isFile (q.joinText "manage.py") = true ∧
    t.isFile (q.joinText "settings.py") = true

section

variable {t : FileTree} {p d : Path}

/-- Above a path that has a parent the walk is that of the parent. -/
theorem climb_drop (hp : p.isAbsolute = true) :
    (p.parent? = none ∧ p.ancestors.drop 1 = []) ∨
      ∃ up, IsParent up p ∧ up.isAbsolute = true ∧ Climb up (p.ancestors.drop 1) := by
  have hclimb := climb_ancestors hp
  generalize p.ancestors = folders at hclimb
  cases hclimb with
  | last hnone => exact .inl ⟨hnone, rfl⟩
  | up hparent hrest =>
      rcases Path.above_parent? hp hparent with ⟨c, habove⟩
      exact .inr ⟨_, hparent, habove.absolute, hrest⟩

/-- Whether a folder is taken for the folder of a cache. -/
theorem isCacheRoot_iff {up q : Path} (hparent : IsParent up p) :
    (AtOrAbove q up ∧ (decide (q.size > shortestCacheRoot) &&
      t.isDir (q.joinText settingsDirName)) = true) ↔ HoldsSettings t p q := by
  rw [HoldsSettings, Path.properlyAbove_iff_of_isParent hparent, Bool.and_eq_true,
    decide_eq_true_iff]
  rfl

theorem cacheRoot?_eq_some_iff (hp : p.isAbsolute = true) :
    cacheRoot? t p = some d ↔ IsDeepest (HoldsSettings t p) d := by
  rcases climb_drop hp with ⟨hnone, hdrop⟩ | ⟨up, hparent, hup, hclimb⟩
  · rw [cacheRoot?, hdrop]
    constructor
    · intro h
      cases h
    · exact fun h => absurd h.holds.1 (Path.not_properlyAbove_of_none hnone)
  · rw [cacheRoot?, hclimb.find?_takeWhile hup, hclimb.find?_eq_some_iff hup]
    simp only [isCacheRoot_iff hparent]

theorem cacheRoot?_eq_none_iff (hp : p.isAbsolute = true) :
    cacheRoot? t p = none ↔ ∀ q, ¬HoldsSettings t p q := by
  rcases climb_drop hp with ⟨hnone, hdrop⟩ | ⟨up, hparent, hup, hclimb⟩
  · rw [cacheRoot?, hdrop]
    exact ⟨fun _ q h => Path.not_properlyAbove_of_none hnone h.1, fun _ => rfl⟩
  · rw [cacheRoot?, hclimb.find?_takeWhile hup, hclimb.find?_eq_none_iff]
    simp only [← isCacheRoot_iff hparent, not_and, Bool.not_eq_true]

theorem isTestProject_iff {q : Path} :
    (AtOrAbove q p ∧ isTestProject t q = true) ↔ HoldsMarkers t p q := by
  simp [HoldsMarkers, isTestProject, markers]

theorem projectRoot?_eq_some_iff (hp : p.isAbsolute = true) :
    projectRoot? t p = some d ↔ IsDeepest (HoldsMarkers t p) d := by
  rw [projectRoot?, (climb_ancestors hp).find?_eq_some_iff hp]
  simp only [isTestProject_iff]

theorem projectRoot?_eq_none_iff (hp : p.isAbsolute = true) :
    projectRoot? t p = none ↔ ∀ q, ¬HoldsMarkers t p q := by
  rw [projectRoot?, (climb_ancestors hp).find?_eq_none_iff]
  simp only [← isTestProject_iff, not_and, Bool.not_eq_true]

end
end ProjectFiles

namespace Config

open Testbench.Path (AtOrAbove IsDeepest climb_ancestors)

/-- A configuration of either name is there. -/
def IsConfigured (t : FileTree) (dir : Path) : Prop :=
  t.exists? (dir.joinText ".qta-runner.json") = true ∨
    t.exists? (dir.joinText "qta-runner.json") = true

/-- The preferred name, if it is there. -/
def preferred (t : FileTree) (dir : Path) : Path :=
  if t.exists? (dir.joinText ".qta-runner.json") then dir.joinText ".qta-runner.json"
  else dir.joinText "qta-runner.json"

section

variable {t : FileTree} {p d f : Path}

theorem inFolder?_eq_some_iff : inFolder? t d = some f ↔ IsConfigured t d ∧ f = preferred t d := by
  unfold inFolder? fileNames IsConfigured preferred
  rw [List.map_cons, List.map_cons, List.map_nil, List.find?_cons, List.find?_cons, List.find?_nil]
  cases t.exists? (d.joinText ".qta-runner.json") <;>
    cases t.exists? (d.joinText "qta-runner.json") <;> simp [eq_comm]

theorem inFolder?_eq_none_iff : inFolder? t d = none ↔ ¬IsConfigured t d := by
  rw [Option.eq_none_iff_forall_ne_some]
  constructor
  · exact fun h hd => h (preferred t d) (inFolder?_eq_some_iff.2 ⟨hd, rfl⟩)
  · exact fun h f hf => h (inFolder?_eq_some_iff.1 hf).1

theorem find?_eq_some_iff (hp : p.isAbsolute = true) : find? t p = some f ↔
    ∃ d, IsDeepest (fun q => AtOrAbove q p ∧ IsConfigured t q) d ∧ f = preferred t d := by
  simp only [find?, List.findSome?_eq_some_iff, (climb_ancestors hp).isDeepest_iff hp,
    inFolder?_eq_some_iff, inFolder?_eq_none_iff]
  constructor
  · rintro ⟨front, d, back, hsplit, ⟨hd, hf⟩, hfront⟩
    exact ⟨d, ⟨front, back, hsplit, hd, hfront⟩, hf⟩
  · rintro ⟨d, ⟨front, back, hsplit, hd, hfront⟩, hf⟩
    exact ⟨front, d, back, hsplit, ⟨hd, hf⟩, hfront⟩

theorem find?_eq_none_iff (hp : p.isAbsolute = true) :
    find? t p = none ↔ ∀ q, AtOrAbove q p → ¬IsConfigured t q := by
  simp only [find?, List.findSome?_eq_none_iff, (climb_ancestors hp).mem_iff, inFolder?_eq_none_iff]

end
end Config

open Testbench.Path ProjectFiles in
/-- The walk above a path ends, and passes one folder for every beginning of its components, each
spelled as a beginning of the path. On it the three searches find the deepest folder that they are
after, and nothing if there is none. -/
theorem upward_searches (t : FileTree) {p : Path} (hp : p.isAbsolute = true) :
    (Climb p p.ancestors ∧ (∀ q, q ∈ p.ancestors ↔ AtOrAbove q p) ∧
      (∀ front, front ≠ [] →
        (front <+: p.components ↔ ∃ q, AtOrAbove q p ∧ q.components = front)) ∧
      ∀ q, AtOrAbove q p → q.chars <+: p.chars) ∧
    ((∀ d, cacheRoot? t p = some d ↔ IsDeepest (HoldsSettings t p) d) ∧
      (cacheRoot? t p = none ↔ ∀ q, ¬HoldsSettings t p q)) ∧
    ((∀ d, projectRoot? t p = some d ↔ IsDeepest (HoldsMarkers t p) d) ∧
      (projectRoot? t p = none ↔ ∀ q, ¬HoldsMarkers t p q)) ∧
    (∀ f, Config.find? t p = some f ↔
      ∃ d, IsDeepest (fun q => AtOrAbove q p ∧ Config.IsConfigured t q) d ∧
        f = Config.preferred t d) ∧
    (Config.find? t p = none ↔ ∀ q, AtOrAbove q p → ¬Config.IsConfigured t q) :=
  ⟨⟨climb_ancestors hp, fun _ => (climb_ancestors hp).mem_iff,
      fun _ hfront => isPrefix_components_iff hp hfront, fun _ hq => hq.spelled hp⟩,
    ⟨fun _ => cacheRoot?_eq_some_iff hp, cacheRoot?_eq_none_iff hp⟩,
    ⟨fun _ => projectRoot?_eq_some_iff hp, projectRoot?_eq_none_iff hp⟩,
    fun _ => Config.find?_eq_some_iff hp, Config.find?_eq_none_iff hp⟩

/-- A project with its settings and a configuration, and a file in a folder of it. -/
def FileTree.nested : FileTree where
  cwd := ⟨"/work"⟩
  now := 7000000
  nodes :=
    [(["work"], .dir), (["work", ".vscode"], .dir),
      (["work", "manage.py"], .file ⟨⟨#[]⟩, false, false, 7000000⟩),
      (["work", "settings.py"], .file ⟨⟨#[]⟩, false, false, 7000000⟩),
      (["work", "qta-runner.json"], .file ⟨⟨#[]⟩, false, false, 7000000⟩), (["work", "a"], .dir),
      (["work", "a", "t.py"], .file ⟨⟨#[]⟩, false, false, 7000000⟩)]

open Testbench.Path ProjectFiles in
theorem upward_searches_nested : (⟨"/work/a/t.py"⟩ : Path).isAbsolute = true ∧
    IsDeepest (HoldsSettings .nested ⟨"/work/a/t.py"⟩) ⟨"/work"⟩ ∧
    IsDeepest (HoldsMarkers .nested ⟨"/work/a/t.py"⟩) ⟨"/work"⟩ ∧
    ∃ d, IsDeepest (fun q => AtOrAbove q ⟨"/work/a/t.py"⟩ ∧ Config.IsConfigured .nested q) d ∧
      ⟨"/work/qta-runner.json"⟩ = Config.preferred .nested d := by
  have habsolute : (⟨"/work/a/t.py"⟩ : Path).isAbsolute = true := by decide
  rcases upward_searches .nested habsolute with ⟨-, ⟨hcache, -⟩, ⟨hproject, -⟩, hconfig, -⟩
  exact ⟨habsolute, (hcache _).1 (by decide +kernel), (hproject _).1 (by decide +kernel),
    (hconfig _).1 (by decide +kernel)⟩

end Testbench
