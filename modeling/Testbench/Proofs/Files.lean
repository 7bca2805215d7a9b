import Testbench.Files

/-!
# Files — what a write leaves in a tree

A successful write changes one location, which was free or held a file. A walk that ended there ends
there again, now at the new file.

- `node?_setNode`  : the nodes after one of them was put;
- `Leads`          : where a leg of a walk leads, rule by rule;
- `leg_eq_ok_iff`  : the rules are those of `leg`;
- `Refiled.walk`   : a walk to the location that was written;
- `read_write`     : what was written is read;
- `FileM.Moves`    : how a tree is related to what changes make of it;
- `FileM.Stays`    : changes that leave the working directory.
-/

namespace Testbench
namespace FileTree

/-! ## Nodes -/

theorem find?_replace (nodes : List (Location × FileNode)) (here other : Location)
    (node : FileNode) :
    ((nodes.map fun entry => if entry.1 == here then (here, node) else entry).find?
      fun entry => entry.1 == other).map (·.2) =
      if other = here then (nodes.find? fun entry => entry.1 == here).map fun _ => node
      else (nodes.find? fun entry => entry.1 == other).map (·.2) := by
  induction nodes with
  | nil => simp
  | cons entry rest ih =>
      by_cases hentry : entry.1 = here
      · by_cases hother : other = here
        · simp [hentry, hother]
        · have hne : ¬ here = other := fun h => hother h.symm
          simp [hentry, hother, hne] at ih ⊢
          exact ih
      · by_cases hsame : entry.1 = other
        · have hother : ¬ other = here := fun h => hentry (hsame.trans h)
          simp [hsame, hother]
        · simp [hentry, hsame] at ih ⊢
          exact ih

/-- Putting a node changes what is at its own location only. -/
theorem node?_setNode (t : FileTree) {here : Location} (h : here ≠ []) (node : FileNode)
    (other : Location) :
    (t.setNode here node).node? other = if other = here then some node else t.node? other := by
  by_cases hroot : other = []
  · have hne : ¬ other = here := fun heq => h (heq.symm.trans hroot)
    simp [node?, hroot, Ne.symm h]
  have hempty : other.isEmpty = false := by simpa using hroot
  -- A node that is there is replaced in its place, and a new one comes last.
  by_cases hany : (t.nodes.any fun entry => entry.1 == here) = true
  · have hfound : ∃ entry, t.nodes.find? (fun entry => entry.1 == here) = some entry := by
      rcases List.any_eq_true.1 hany with ⟨entry, hmem, heq⟩
      exact Option.isSome_iff_exists.1 (List.find?_isSome.2 ⟨entry, hmem, heq⟩)
    rcases hfound with ⟨entry, hentry⟩
    rw [node?, hempty, setNode]
    simp only [hany, if_true]
    rw [find?_replace, hentry]
    simp [node?, hempty]
  · have hnone : t.nodes.find? (fun entry => entry.1 == here) = none := by
      rw [List.find?_eq_none]
      intro entry hmem heq
      exact hany (List.any_eq_true.2 ⟨entry, hmem, heq⟩)
    rw [node?, hempty, setNode]
    simp only [hany]
    by_cases hother : other = here
    · simp [hother, hnone]
    · have hne : ¬ here = other := fun heq => hother heq.symm
      simp [node?, hempty, hother, hne, List.find?_append]

/-! ## Where legs lead -/

/-- Names that leave a walk where it is. -/
def isIdle (segment : String) : Bool := segment == "" || segment == "."

/-- Names that lead from a directory to one of its entries. -/
structure IsEntry (segment : String) : Prop where
  sound : isIdle segment = false
  down : segment ≠ ".."
  short : segment.utf8ByteSize ≤ nameLimit

/-- Where a leg leads, with one rule for each thing that a walk does at a segment. -/
inductive Leads (t : FileTree) (through : Bool) : Location → List String → Leg → Prop where
  | here {here : Location} {node : FileNode} (hnode : t.node? here = some node) :
      Leads t through here [] (.done (.found here node))
  | idle {here : Location} {segment : String} {rest : List String} {l : Leg}
      (hdir : t.node? here = some .dir) (hidle : isIdle segment = true)
      (htail : Leads t through here rest l) : Leads t through here (segment :: rest) l
  | up {here : Location} {rest : List String} {l : Leg} (hdir : t.node? here = some .dir)
      (htail : Leads t through here.dropLast rest l) : Leads t through here (".." :: rest) l
  | free {here : Location} {segment : String} {rest : List String}
      (hdir : t.node? here = some .dir) (hentry : IsEntry segment)
      (hnext : t.node? (here ++ [segment]) = none) (hblank : rest.all (· == "") = true) :
      Leads t through here (segment :: rest) (.done (.free here segment (!rest.isEmpty)))
  | stop {here : Location} {segment : String} {rest : List String} {target : Path}
      (hdir : t.node? here = some .dir) (hentry : IsEntry segment)
      (hnext : t.node? (here ++ [segment]) = some (.link target))
      (hlast : (rest.isEmpty && !through) = true) :
      Leads t through here (segment :: rest) (.done (.found (here ++ [segment]) (.link target)))
  | follow {here : Location} {segment : String} {rest : List String} {target : Path}
      (hdir : t.node? here = some .dir) (hentry : IsEntry segment)
      (hnext : t.node? (here ++ [segment]) = some (.link target))
      (hlast : (rest.isEmpty && !through) = false) :
      Leads t through here (segment :: rest)
        (.follow (if target.isAbsolute then [] else here) (segmentsOf target ++ rest))
  | enter {here : Location} {segment : String} {rest : List String} {node : FileNode} {l : Leg}
      (hdir : t.node? here = some .dir) (hentry : IsEntry segment)
      (hnext : t.node? (here ++ [segment]) = some node) (hplain : ∀ target, node ≠ .link target)
      (htail : Leads t through (here ++ [segment]) rest l) :
      Leads t through here (segment :: rest) l

section

variable {t : FileTree} {through : Bool} {here : Location} {segment : String} {rest : List String}
  {l : Leg}

theorem leg_idle (hdir : t.node? here = some .dir) (hidle : isIdle segment = true) :
    t.leg through here (segment :: rest) = t.leg through here rest := by
  have hsilent : (segment == "" || segment == ".") = true := hidle
  rw [leg]
  simp only [hdir, hsilent, if_true]

/-- What a leg does at a segment that counts. -/
theorem leg_sound (hdir : t.node? here = some .dir) (hidle : isIdle segment = false) :
    t.leg through here (segment :: rest) =
      if segment == ".." then t.leg through here.dropLast rest
      else if segment.utf8ByteSize > nameLimit then .error .nameTooLong
      else match t.node? (here ++ [segment]) with
        | none =>
          if rest.all (· == "") then .ok (.done (.free here segment (!rest.isEmpty)))
          else .error .notFound
        | some (.link target) =>
          if rest.isEmpty && !through then .ok (.done (.found (here ++ [segment]) (.link target)))
          else .ok (.follow (if target.isAbsolute then [] else here) (segmentsOf target ++ rest))
        | some _ => t.leg through (here ++ [segment]) rest := by
  have hsound : (segment == "" || segment == ".") = false := hidle
  rw [leg]
  cases hnode : t.node? (here ++ [segment]) with
  | none => simp only [hdir, hsound, hnode, Bool.false_eq_true, if_false]
  | some node =>
    cases node <;> simp only [hdir, hsound, hnode, Bool.false_eq_true, if_false]

theorem leg_up (hdir : t.node? here = some .dir) :
    t.leg through here (".." :: rest) = t.leg through here.dropLast rest := by
  rw [leg_sound hdir (by decide), if_pos (beq_self_eq_true _)]

theorem leg_entry (hdir : t.node? here = some .dir) (hentry : IsEntry segment) :
    t.leg through here (segment :: rest) = match t.node? (here ++ [segment]) with
      | none =>
        if rest.all (· == "") then .ok (.done (.free here segment (!rest.isEmpty)))
        else .error .notFound
      | some (.link target) =>
        if rest.isEmpty && !through then .ok (.done (.found (here ++ [segment]) (.link target)))
        else .ok (.follow (if target.isAbsolute then [] else here) (segmentsOf target ++ rest))
      | some _ => t.leg through (here ++ [segment]) rest := by
  rw [leg_sound hdir hentry.sound, if_neg (by simpa using hentry.down),
    if_neg (Nat.not_lt.2 hentry.short)]

theorem Leads.leg (h : Leads t through here segments l) : t.leg through here segments = .ok l := by
  induction h with
  | here hnode => rw [FileTree.leg, hnode]
  | idle hdir hidle _ ih => rw [leg_idle hdir hidle, ih]
  | up hdir _ ih => rw [leg_up hdir, ih]
  | free hdir hentry hnext hblank => simp only [leg_entry hdir hentry, hnext, hblank, if_true]
  | stop hdir hentry hnext hlast => simp only [leg_entry hdir hentry, hnext, hlast, if_true]
  | follow hdir hentry hnext hlast =>
      simp only [leg_entry hdir hentry, hnext, hlast, Bool.false_eq_true, if_false]
  | @enter _ _ _ node _ hdir hentry hnext hplain _ ih =>
      rw [leg_entry hdir hentry, hnext, ← ih]
      cases node with
      | link target => exact absurd rfl (hplain target)
      | file data => rfl
      | dir => rfl

theorem leads_of_leg {segments : List String} (h : t.leg through here segments = .ok l) :
    Leads t through here segments l := by
  induction segments generalizing here with
  | nil =>
      cases hnode : t.node? here with
      | none => simp [FileTree.leg, hnode] at h
      | some node =>
          have hl : Leg.done (.found here node) = l := by simpa [FileTree.leg, hnode] using h
          exact hl ▸ .here hnode
  | cons segment rest ih =>
      -- Only a directory has entries.
      have hdir : t.node? here = some .dir := by
        cases hnode : t.node? here with
        | none => simp [FileTree.leg, hnode] at h
        | some node => cases node <;> simp [FileTree.leg, hnode] at h ⊢
      cases hidle : isIdle segment with
      | true =>
          rw [leg_idle hdir hidle] at h
          exact .idle hdir hidle (ih h)
      | false =>
          by_cases hup : segment = ".."
          · subst hup
            rw [leg_up hdir] at h
            exact .up hdir (ih h)
          · by_cases hshort : segment.utf8ByteSize ≤ nameLimit
            · have hentry : IsEntry segment := ⟨hidle, hup, hshort⟩
              rw [leg_entry hdir hentry] at h
              cases hnext : t.node? (here ++ [segment]) with
              | none =>
                  simp only [hnext] at h
                  split at h
                  · rename_i hblank
                    exact Except.ok.inj h ▸ .free hdir hentry hnext hblank
                  · cases h
              | some node =>
                  rw [hnext] at h
                  cases node with
                  | link target =>
                      simp only at h
                      split at h
                      · rename_i hlast
                        exact Except.ok.inj h ▸ .stop hdir hentry hnext hlast
                      · rename_i hlast
                        exact Except.ok.inj h ▸
                          .follow hdir hentry hnext (Bool.eq_false_iff.2 hlast)
                  | file data => exact .enter hdir hentry hnext (by simp) (ih h)
                  | dir => exact .enter hdir hentry hnext (by simp) (ih h)
            · have hsound : (segment == "" || segment == ".") = false := hidle
              simp [FileTree.leg, hdir, hsound, hup, Nat.lt_of_not_le hshort] at h

/-- A leg is what the rules say. -/
theorem leg_eq_ok_iff {segments : List String} :
    t.leg through here segments = .ok l ↔ Leads t through here segments l :=
  ⟨leads_of_leg, Leads.leg⟩

/-- A walk is over after its first leg, or it goes on from a link. -/
theorem walkFrom_eq_ok_iff {links : Nat} {segments : List String} {place : Place} :
    t.walkFrom through (links + 1) here segments = .ok place ↔
      Leads t through here segments (.done place) ∨
        ∃ next more, Leads t through here segments (.follow next more) ∧
          t.walkFrom through links next more = .ok place := by
  simp only [← leg_eq_ok_iff]
  rw [walkFrom]
  cases t.leg through here segments with
  | error cause => simp [bind, Except.bind]
  | ok l => cases l <;> simp [bind, Except.bind, and_assoc]

/-- A path that a walk takes is no longer than that, and then the walk starts with its segments. -/
theorem walk_eq_ok_iff {p : Path} {place : Place} :
    t.walk through p = .ok place ↔
      p.chars.contains '\x00' = false ∧ p.isEmpty = false ∧ p.size ≤ pathLimit ∧
        t.walkFrom through (linkLimit + 1) []
          (if p.isAbsolute then segmentsOf p else segmentsOf t.cwd ++ segmentsOf p) =
            .ok place := by
  unfold walk
  cases p.chars.contains '\x00' with
  | true => simp
  | false =>
      cases p.isEmpty with
      | true => simp
      | false =>
          by_cases hshort : p.size ≤ pathLimit
          · simp [hshort, Nat.not_lt.2 hshort]
          · simp [hshort, Nat.lt_of_not_le hshort]

end

/-! ## Walking to what was written -/

/-- What a walk has found: the node at its end is there, and a free name is free. -/
def Place.IsIn (t : FileTree) : Place → Prop
  | .found here node => t.node? here = some node
  | .free dir name _ => t.node? (dir ++ [name]) = none

/-- Where a walk ends once a location holds a file. -/
def Place.refile (here : Location) (data : FileData) : Place → Place
  | .found there node => if there = here then .found here (.file data) else .found there node
  | .free dir name slashed =>
    if dir ++ [name] = here then .found here (.file data) else .free dir name slashed

/-- Whether a place leaves the location to a file; one that ends in a slash does not. -/
def Place.IsOpen (here : Location) : Place → Prop
  | .free dir name slashed => dir ++ [name] = here → slashed = false
  | .found .. => True

def Leg.refile (here : Location) (data : FileData) : Leg → Leg
  | .done place => .done (place.refile here data)
  | .follow start segments => .follow start segments

def Leg.IsOpen (here : Location) : Leg → Prop
  | .done place => place.IsOpen here
  | .follow .. => True

section

variable {t t' : FileTree} {here : Location} {data : FileData}

/-- The location was free or held a file, and holds a file now; all others are as they were. -/
structure Refiled (t t' : FileTree) (here : Location) (data : FileData) : Prop where
  before : ∀ node, t.node? here = some node → ∃ old, node = .file old
  after : t'.node? here = some (.file data)
  others : ∀ other, other ≠ here → t'.node? other = t.node? other

namespace Refiled

variable (h : Refiled t t' here data)
include h

/-- No other kind of node is lost. -/
theorem keeps {other : Location} {node : FileNode} (hnode : t.node? other = some node)
    (hother : ∀ old, node ≠ .file old) : other ≠ here ∧ t'.node? other = some node := by
  have hne : other ≠ here := by
    rintro rfl
    rcases h.before node hnode with ⟨old, hold⟩
    exact hother old hold
  exact ⟨hne, (h.others other hne).trans hnode⟩

theorem keeps_dir {other : Location} (hdir : t.node? other = some .dir) :
    t'.node? other = some .dir := (h.keeps hdir (by simp)).2

theorem leads {through : Bool} {start : Location} {segments : List String} {l : Leg}
    (hl : Leads t through start segments l) (hopen : l.IsOpen here) :
    Leads t' through start segments (l.refile here data) := by
  induction hl with
  | @here start node hnode =>
      by_cases heq : start = here
      · subst heq
        simpa [Leg.refile, Place.refile] using Leads.here h.after
      · simpa [Leg.refile, Place.refile, heq] using Leads.here ((h.others start heq).trans hnode)
  | idle hdir hidle _ ih => exact .idle (h.keeps_dir hdir) hidle (ih hopen)
  | up hdir _ ih => exact .up (h.keeps_dir hdir) (ih hopen)
  | @free start segment rest hdir hentry hnext hblank =>
      by_cases heq : start ++ [segment] = here
      · -- The name was free, and nothing may follow it: the leg ends at the new file.
        have hrest : rest = [] := by simpa using hopen heq
        subst hrest heq
        simpa [Leg.refile, Place.refile] using
          Leads.enter (h.keeps_dir hdir) hentry h.after (by simp) (.here h.after)
      · have hnext' := (h.others _ heq).trans hnext
        simpa [Leg.refile, Place.refile, heq] using
          Leads.free (h.keeps_dir hdir) hentry hnext' hblank
  | stop hdir hentry hnext hlast =>
      rcases h.keeps hnext (by simp) with ⟨hne, hnext'⟩
      simpa [Leg.refile, Place.refile, hne] using
        Leads.stop (h.keeps_dir hdir) hentry hnext' hlast
  | follow hdir hentry hnext hlast =>
      exact .follow (h.keeps_dir hdir) hentry (h.keeps hnext (by simp)).2 hlast
  | @enter start segment _ node _ hdir hentry hnext hplain _ ih =>
      by_cases heq : start ++ [segment] = here
      · exact .enter (h.keeps_dir hdir) hentry (heq ▸ h.after) (by simp) (ih hopen)
      · exact .enter (h.keeps_dir hdir) hentry ((h.others _ heq).trans hnext) hplain (ih hopen)

theorem walkFrom (through : Bool) (links : Nat)
    (start : Location) (segments : List String) {place : Place}
    (hw : t.walkFrom through links start segments = .ok place) (hopen : place.IsOpen here) :
    t'.walkFrom through links start segments = .ok (place.refile here data) := by
  induction links generalizing start segments with
  | zero => simp [FileTree.walkFrom] at hw
  | succ links ih =>
      rcases walkFrom_eq_ok_iff.1 hw with hdone | ⟨next, more, hfollow, hmore⟩
      · exact walkFrom_eq_ok_iff.2 (.inl (h.leads hdone hopen))
      · exact walkFrom_eq_ok_iff.2 (.inr ⟨next, more, h.leads hfollow trivial, ih next more hmore⟩)

/-- A walk that may end at the new file does. -/
theorem walk (hcwd : t'.cwd = t.cwd) (through : Bool) (p : Path)
    {place : Place} (hw : t.walk through p = .ok place) (hopen : place.IsOpen here) :
    t'.walk through p = .ok (place.refile here data) := by
  rcases walk_eq_ok_iff.1 hw with ⟨hnul, hnonempty, hshort, hfrom⟩
  rw [← hcwd] at hfrom
  exact walk_eq_ok_iff.2 ⟨hnul, hnonempty, hshort, h.walkFrom through _ _ _ hfrom hopen⟩

end Refiled

end

theorem isIn_of_leads {t : FileTree} {through : Bool} {start : Location} {segments : List String}
    {l : Leg} (hl : Leads t through start segments l) {place : Place} (hplace : l = .done place) :
    place.IsIn t := by
  induction hl with
  | here hnode => exact Leg.done.inj hplace ▸ hnode
  | idle _ _ _ ih => exact ih hplace
  | up _ _ ih => exact ih hplace
  | free _ _ hnext _ => exact Leg.done.inj hplace ▸ hnext
  | stop _ _ hnext _ => exact Leg.done.inj hplace ▸ hnext
  | follow _ _ _ _ => cases hplace
  | enter _ _ _ _ _ ih => exact ih hplace

theorem isIn_of_walkFrom {t : FileTree} {through : Bool} {place : Place} (links : Nat)
    (start : Location) (segments : List String)
    (hw : t.walkFrom through links start segments = .ok place) : place.IsIn t := by
  induction links generalizing start segments with
  | zero => simp [walkFrom] at hw
  | succ links ih =>
      rcases walkFrom_eq_ok_iff.1 hw with hdone | ⟨next, more, -, hmore⟩
      · exact isIn_of_leads hdone rfl
      · exact ih next more hmore

theorem isIn_of_walk {t : FileTree} {through : Bool} {p : Path} {place : Place}
    (hw : t.walk through p = .ok place) : place.IsIn t := by
  rcases walk_eq_ok_iff.1 hw with ⟨-, -, -, hfrom⟩
  exact isIn_of_walkFrom _ _ _ hfrom

/-! ## Reading what was written -/

theorem ne_nil_of_file {t : FileTree} {here : Location} {data : FileData}
    (h : t.node? here = some (.file data)) : here ≠ [] := by
  rintro rfl
  simp [node?] at h

theorem refiled_setNode {t : FileTree} {here : Location} (hne : here ≠ [])
    (hbefore : ∀ node, t.node? here = some node → ∃ old, node = .file old) (data : FileData) :
    Refiled t (t.setNode here (.file data)) here data where
  before := hbefore
  after := by simp [node?_setNode t hne]
  others := by
    intro other hother
    simp [node?_setNode t hne, hother]

theorem write_cases {t t' : FileTree} {p : Path} {content : ByteArray}
    (h : t.write p content = .ok t') :
    ∃ here data place, (data.content = content ∧ data.readOnly = false) ∧
      t' = t.setNode here (.file data) ∧ t.walk true p = .ok place ∧ place.IsOpen here ∧
      place.refile here data = .found here (.file data) ∧ here ≠ [] ∧
      ∀ node, t.node? here = some node → ∃ old, node = .file old := by
  unfold write at h
  cases hwalk : t.walk true p with
  | error cause => simp [hwalk, bind, Except.bind] at h
  | ok place =>
      have hin := isIn_of_walk hwalk
      -- A file is written over, a free name becomes one, and everything else is refused.
      cases place with
      | found here node =>
          cases node with
          | file old =>
              cases hlocked : old.readOnly with
              | true => simp [hwalk, hlocked, bind, Except.bind] at h
              | false =>
                  simp only [hwalk, hlocked, bind, Except.bind, Bool.false_eq_true, if_false,
                    Except.ok.injEq] at h
                  refine ⟨here, _, _, ⟨rfl, rfl⟩, h.symm, rfl, trivial, by simp [Place.refile],
                    ne_nil_of_file hin, ?_⟩
                  intro node hnode
                  exact ⟨old, (Option.some.inj (hin.symm.trans hnode)).symm⟩
          | dir => simp [hwalk, bind, Except.bind] at h
          | link target => simp [hwalk, bind, Except.bind] at h
      | free dir name slashed =>
          cases slashed with
          | true => simp [hwalk, bind, Except.bind] at h
          | false =>
              simp only [hwalk, bind, Except.bind, Bool.false_eq_true, if_false,
                Except.ok.injEq] at h
              refine ⟨dir ++ [name], _, _, ⟨rfl, rfl⟩, h.symm, rfl, fun _ => rfl,
                by simp [Place.refile], by simp, ?_⟩
              intro node hnode
              have hnone : t.node? (dir ++ [name]) = none := hin
              rw [hnone] at hnode
              cases hnode

/-- What was written to a file is read from it. -/
theorem read_write {t t' : FileTree} {p : Path} {content : ByteArray}
    (h : t.write p content = .ok t') : t'.read p = .ok content := by
  rcases write_cases h with
    ⟨here, data, place, ⟨hcontent, -⟩, rfl, hwalk, hopen, hrefile, hne, hbefore⟩
  have hwalk' := (refiled_setNode hne hbefore data).walk rfl true p hwalk hopen
  simp [read, stat, hwalk', hrefile, hcontent, bind, Except.bind]

theorem fromUTF8?_toUTF8 (s : String) : String.fromUTF8? s.toUTF8 = some s := by
  have hvalid : s.toUTF8.IsValidUTF8 := by simpa using s.isValidUTF8
  rw [String.fromUTF8?, dif_pos hvalid]
  rfl

/-- A text that was written to a file is read from it. -/
theorem readText_writeText {t t' : FileTree} {p : Path} {s : String}
    (h : t.writeText p s = .ok t') : t'.readText p = .ok s := by
  simp only [readText, read_write h, fromUTF8?_toUTF8, bind, Except.bind]

/-- A directory is made at a free name. -/
theorem createDir_cases {t t' : FileTree} {p : Path} (h : t.createDir p = .ok t') :
    ∃ dir name slashed, t.walk false p = .ok (.free dir name slashed) ∧
      t' = t.setNode (dir ++ [name]) .dir := by
  unfold createDir at h
  cases hw : t.walk false p with
  | error cause => simp [hw, bind, Except.bind] at h
  | ok place =>
      cases place with
      | found here node => simp [hw, bind, Except.bind] at h
      | free dir name slashed =>
          simp only [hw, bind, Except.bind, Except.ok.injEq] at h
          exact ⟨dir, name, slashed, rfl, h.symm⟩

/-! ## Reading at a location -/

theorem walk_of_location? {t : FileTree} {p : Path} {here : Location}
    (h : t.location? p = some here) :
    ∃ node, t.walk true p = .ok (.found here node) ∧ t.node? here = some node := by
  unfold location? at h
  cases hw : t.walk true p with
  | error cause => simp [hw] at h
  | ok place =>
      cases place with
      | free dir name slashed => simp [hw] at h
      | found there node =>
          have hthere : there = here := by simpa [hw] using h
          rw [← hthere]
          exact ⟨node, rfl, isIn_of_walk hw⟩

theorem isDir_iff_found {t : FileTree} {p : Path} :
    t.isDir p = true ↔ ∃ here, t.walk true p = .ok (.found here .dir) := by
  rw [isDir, stat]
  cases hw : t.walk true p with
  | error cause => simp [bind, Except.bind]
  | ok place =>
      cases place with
      | free dir name slashed => simp [bind, Except.bind]
      | found here node => cases node <;> simp [bind, Except.bind]

theorem read_congr {t : FileTree} {p q : Path} {here : Location}
    (hp : t.location? p = some here) (hq : t.location? q = some here) : t.read p = t.read q := by
  rcases walk_of_location? hp with ⟨node, hwp, hnode⟩
  rcases walk_of_location? hq with ⟨node', hwq, hnode'⟩
  have heq : node = node' := Option.some.inj (hnode.symm.trans hnode')
  simp only [read, stat, hwp, hwq, heq]

/-- A path that is too long leads nowhere. -/
theorem location?_of_size {t : FileTree} {p : Path} (h : pathLimit < p.size) :
    t.location? p = none := by
  have hwalk : ∃ cause, t.walk true p = .error cause := by
    unfold walk
    split
    · exact ⟨_, rfl⟩
    · split
      · exact ⟨_, rfl⟩
      · exact ⟨_, rfl⟩
  rcases hwalk with ⟨cause, hwalk⟩
  rw [location?, hwalk]

theorem read_of_location?_eq_none {t : FileTree} {p : Path} (h : t.location? p = none) :
    ∃ cause, t.read p = .error cause := by
  unfold location? at h
  cases hw : t.walk true p with
  | error cause => exact ⟨cause, by simp [read, stat, hw, bind, Except.bind]⟩
  | ok place =>
      cases place with
      | found here node => simp [hw] at h
      | free dir name slashed => exact ⟨.notFound, by simp [read, stat, hw, bind, Except.bind]⟩

end FileTree

/-! ## Several changes in a row -/

namespace FileM

theorem on_bind {α β : Type} (m : FileM α) (f : α → FileM β) (t : FileTree) :
    (m >>= f).on t = match m.on t with
      | (.ok a, t₁) => (f a).on t₁
      | (.error cause, t₁) => (.error cause, t₁) := by
  have hrun : (m >>= f).on t = ExceptT.bindCont f (m.on t).1 (m.on t).2 := rfl
  rw [hrun]
  rcases m.on t with ⟨outcome, t₁⟩
  cases outcome with
  | ok a => rfl
  | error cause => rfl

theorem on_change (f : FileTree → Except FileError FileTree) (t : FileTree) :
    (change f).on t = match f t with
      | .ok t₁ => (.ok (), t₁)
      | .error cause => (.error cause, t) := by
  have hrun : (change f).on t = FileM.on (match f t with
      | .ok t₁ => set t₁
      | .error cause => throw cause) t := rfl
  rw [hrun]
  cases f t with
  | ok t₁ => rfl
  | error cause => rfl

/-- Two changes that succeed both did, one after the other. -/
theorem on_bind_ok {α β : Type} {m : FileM α} {f : α → FileM β} {t t' : FileTree} {b : β}
    (h : (m >>= f).on t = (.ok b, t')) :
    ∃ a t₁, m.on t = (.ok a, t₁) ∧ (f a).on t₁ = (.ok b, t') := by
  rw [on_bind] at h
  rcases hm : m.on t with ⟨outcome, t₁⟩
  rw [hm] at h
  cases outcome with
  | ok a => exact ⟨a, t₁, rfl, h⟩
  | error cause => simp at h

theorem on_change_ok {f : FileTree → Except FileError FileTree} {t t' : FileTree}
    (h : (change f).on t = (.ok (), t')) : f t = .ok t' := by
  rw [on_change] at h
  cases hf : f t with
  | ok t₁ =>
      rw [hf] at h
      simp only [Prod.mk.injEq, true_and] at h
      rw [h]
  | error cause => simp [hf] at h

/-! ## What changes make of a tree -/

/-- A tree is related to what changes make of it. -/
def Moves (r : FileTree → FileTree → Prop) {α : Type} (m : FileM α) : Prop := ∀ t, r t (m.on t).2

section

variable {r : FileTree → FileTree → Prop} (hrefl : ∀ t, r t t)
  (htrans : ∀ t₁ t₂ t₃, r t₁ t₂ → r t₂ t₃ → r t₁ t₃)

namespace Moves

variable {α β : Type}

/-- What is done with the tree as it is now. -/
theorem look {f : FileTree → FileM α} (h : ∀ t, r t ((f t).on t).2) :
    Moves r (get >>= f : FileM α) := h

include htrans in
theorem bind {m : FileM α} {f : α → FileM β} (hm : Moves r m) (hf : ∀ a, Moves r (f a)) :
    Moves r (m >>= f) := by
  intro t
  have hfirst := hm t
  rw [on_bind]
  rcases hran : m.on t with ⟨outcome, t₁⟩
  rw [hran] at hfirst
  cases outcome with
  | ok a => exact htrans _ _ _ hfirst (hf a t₁)
  | error cause => exact hfirst

include hrefl in
theorem change {f : FileTree → Except FileError FileTree} (h : ∀ t t', f t = .ok t' → r t t') :
    Moves r (FileM.change f) := by
  intro t
  rw [on_change]
  cases hf : f t with
  | ok t₁ => exact h t t₁ hf
  | error cause => exact hrefl t

end Moves

include hrefl in
theorem moves_orIsDir (p : Path) (cause : FileError) :
    Moves r (do if (← get).isDir p then pure () else throw cause : FileM Unit) := by
  refine .look fun t => ?_
  split
  · exact hrefl t
  · exact hrefl t

variable (hmade : ∀ t t' p, FileTree.createDir t p = .ok t' → r t t')
include hrefl hmade

theorem moves_ensureDir (p : Path) : Moves r (ensureDir p) := by
  refine .look fun t => ?_
  split
  · rename_i t₁ hdir
    exact hmade t t₁ p hdir
  · exact moves_orIsDir hrefl p _ t

include htrans

theorem moves_createChain (paths : List Path) : Moves r (createChain paths) := by
  induction paths with
  | nil => exact hrefl
  | cons p parents ih =>
      rw [createChain]
      split
      · exact hrefl
      · refine .look fun t => ?_
        split
        · rename_i t₁ hdir
          exact hmade t t₁ p hdir
        · split
          · exact hrefl t
          · exact (ih.bind htrans fun _ => moves_ensureDir hrefl hmade p) t
        · exact moves_orIsDir hrefl p _ t

/-- Making directories comes down to making them one by one. -/
theorem moves_createDirs (p : Path) : Moves r (createDirs p) :=
  moves_createChain hrefl htrans hmade p.ancestors

end

/-! ### The working directory -/

/-- Changes to files do not change the directory that the tool works in. -/
def Stays {α : Type} (m : FileM α) : Prop := ∀ t, (m.on t).2.cwd = t.cwd

theorem Stays.bind {α β : Type} {m : FileM α} {f : α → FileM β} (hm : Stays m)
    (hf : ∀ a, Stays (f a)) : Stays (m >>= f) :=
  Moves.bind (r := fun t t' => t'.cwd = t.cwd) (fun _ _ _ h h' => h'.trans h) hm hf

theorem cwd_setNode (t : FileTree) (here : Location) (node : FileNode) :
    (t.setNode here node).cwd = t.cwd := rfl

theorem stays_write (p : Path) (content : ByteArray) : Stays (write p content) := by
  refine Moves.change (r := fun t t' => t'.cwd = t.cwd) (fun _ => rfl) fun t t' h => ?_
  rcases FileTree.write_cases h with ⟨here, data, -, -, rfl, -⟩
  exact cwd_setNode t here _

theorem cwd_createDir {t t' : FileTree} {p : Path} (h : t.createDir p = .ok t') :
    t'.cwd = t.cwd := by
  rcases FileTree.createDir_cases h with ⟨dir, name, -, -, rfl⟩
  exact cwd_setNode t _ _

theorem stays_createDirs (p : Path) : Stays (createDirs p) :=
  moves_createDirs (r := fun t t' => t'.cwd = t.cwd) (fun _ => rfl) (fun _ _ _ h h' => h'.trans h)
    (fun _ _ _ h => cwd_createDir h) p

theorem stays_writeText (p : Path) (s : String) : Stays (writeText p s) := stays_write p s.toUTF8

end FileM
end Testbench
