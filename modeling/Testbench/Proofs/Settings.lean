import Testbench.Proofs.Files
import Testbench.Proofs.Json.Pretty
import Testbench.Settings

/-!
# Settings — what a setting is after it was set

Settings are read back after they were written: the fields are those that were written, in the same
order, with doubles as they are read back. So a text that was set successfully is the setting from
then on, whatever else the file holds.

- `Kept`         : fields as a reader gives them;
- `read_written` : the fields after they were written;
- `text?_set`    : a setting after it was set;
- `HasVariable`, `expand_eq_self` : texts with nothing to expand;
- `pythonPath?_of_text?` : the interpreter that a setting names.
-/

namespace Testbench

namespace FileTree

theorem exists?_of_readText {t : FileTree} {p : Path} {s : String} (h : t.readText p = .ok s) :
    t.exists? p = true := by
  unfold exists?
  cases hstat : t.stat p with
  | error cause => simp [readText, read, hstat, bind, Except.bind] at h
  | ok node => rfl

end FileTree

namespace Settings

/-- Fields as a reader gives them. -/
structure Kept (fields : Json.Fields) : Prop where
  sorted : Keyed.Sorted fields
  ordered : Json.AreOrderedFields fields
  readable : Json.AreReadableFields fields
  shallow : Json.depthFields fields + 1 ≤ Json.maxLevels

section

variable {t t' : FileTree} {root : Path} {fields : Json.Fields} {key : String}

theorem kept_nil : Kept [] := ⟨List.Pairwise.nil, trivial, trivial, by decide⟩

theorem kept_of_read (h : read t root = .ok fields) : Kept fields := by
  unfold read at h
  split at h
  · rw [← Except.ok.inj h]
    exact kept_nil
  · split at h
    · simp at h
    · split at h
      · simp at h
      · rename_i hread
        rw [← Except.ok.inj h]
        rcases Option.bind_eq_some_iff.1 hread with ⟨d, -, hvalue⟩
        have hordered := Json.Draft.isOrdered_of_value? d _ _ hvalue
        exact ⟨hordered.1, hordered.2, Json.Draft.isReadable_of_value? d _ _ hvalue,
          Json.Draft.depth_le_of_value? d _ _ hvalue⟩
      · simp at h

theorem Kept.insert (h : Kept fields) (key s : String) : Kept (fields.insert key (.text s)) := by
  have hmem : ∀ f ∈ fields.insert key (.text s), f = (key, .text s) ∨ f ∈ fields := by
    rw [Json.Fields.insert_eq]
    exact fun f hf => Keyed.mem_insert hf
  -- What is kept is said of each field, and the new one is a text.
  have hall : ∀ P : String × Json → Prop, P (key, .text s) → (∀ f ∈ fields, P f) →
      ∀ f ∈ fields.insert key (.text s), P f := by
    intro P hnew hold f hf
    rcases hmem f hf with rfl | hin
    · exact hnew
    · exact hold f hin
  refine ⟨?_, ?_, ?_, ?_⟩
  · rw [Json.Fields.insert_eq]
    exact Keyed.sorted_insert key _ h.sorted
  · exact (Json.areOrderedFields_iff _).2
      (hall (·.2.IsOrdered) trivial ((Json.areOrderedFields_iff _).1 h.ordered))
  · exact (Json.areReadableFields_iff _).2
      (hall (·.2.IsReadable) trivial ((Json.areReadableFields_iff _).1 h.readable))
  · have hshallow : Json.depthFields fields ≤ 126 := Nat.le_of_succ_le_succ h.shallow
    exact Nat.succ_le_succ ((Json.depthFields_le_iff _).2
      (hall (·.2.depth ≤ 126) (Nat.zero_le _) ((Json.depthFields_le_iff _).1 hshallow)))

/-- Reading the file after the fields were written to it. -/
theorem read_written (h : Kept fields) (hwrite : (write root fields).on t = (.ok (), t')) :
    ∃ fields', read t' root = .ok fields' ∧
      ∀ key, fields'.get? key = (fields.get? key).map fun j => j.reread.arrange := by
  rcases FileM.on_bind_ok hwrite with ⟨_, t₁, _, hrest⟩
  have hok : t₁.writeText (path root) ((Json.object fields).pretty indentation) = .ok t' :=
    FileM.on_change_ok hrest
  have htext := FileTree.readText_writeText hok
  have hback := Json.read?_pretty indentation (show (Json.object fields).IsReadable from h.readable)
  have hsorted : Keyed.Sorted (fields.map fun f => (f.1, f.2.reread.arrange)) :=
    List.pairwise_map.2 h.sorted
  -- The fields were sorted by key when they were written, so arranging them does nothing.
  have harranged : (Json.object fields).reread.arrange =
      .object (fields.map fun f => (f.1, f.2.reread.arrange)) := by
    rw [Json.reread, Json.arrange, Json.rereadFields_eq_map, Json.arrangeFields_eq_map,
      List.map_map, Json.Fields.ofList_eq]
    exact congrArg Json.object (Keyed.ofList_eq_self hsorted)
  rw [Json.depth, if_pos h.shallow, harranged] at hback
  refine ⟨fields.map fun f => (f.1, f.2.reread.arrange), ?_, fun key => ?_⟩
  · rw [read, FileTree.exists?_of_readText htext, htext]
    simp only [Bool.not_true, Bool.false_eq_true, if_false, hback]
  · exact Keyed.get?_map (fun j => j.reread.arrange) fields key

/-- A text that was set is the setting from then on. -/
theorem text?_set {s : String} (hs : s.isEmpty = false)
    (h : (set t root key (.text s)).1 = .ok ()) :
    text? (set t root key (.text s)).2 root key = some s := by
  unfold set merge at h ⊢
  cases hread : read t root with
  | error cause => simp [hread] at h
  | ok fields =>
      rcases hwrite : (write root (fields.insert key (.text s))).on t with ⟨outcome, t'⟩
      have hextend : fields.extend [(key, .text s)] = fields.insert key (.text s) := rfl
      simp only [hread, hextend, hwrite] at h ⊢
      cases outcome with
      | error cause => simp [liftFile] at h
      | ok u =>
          cases u
          -- The other fields are those that were read, so they can be written and read again.
          have hkept := (kept_of_read hread).insert key s
          rcases read_written hkept hwrite with ⟨fields', hback, hget⟩
          have hkey : fields'.get? key = some (.text s) := by
            rw [hget, Json.Fields.get?_eq, Json.Fields.insert_eq, Keyed.get?_insert, if_pos rfl]
            simp [Json.reread, Json.arrange]
          have hnonempty : (!s.isEmpty) = true := by rw [hs, Bool.not_false]
          unfold text?
          rw [hback]
          dsimp only
          rw [hkey, Option.bind_some, Json.text?]
          exact if_pos hnonempty

end

/-! ## The interpreter that is named -/

/-- An editor variable stands somewhere: a dollar sign and braces around a name on one line. -/
def HasVariable (cs : List Char) : Prop :=
  ∃ front name rest, cs = front ++ '$' :: '\x7b' :: (name ++ '\x7d' :: rest) ∧ '\n' ∉ name

theorem HasVariable.cons {cs : List Char} (h : HasVariable cs) (c : Char) :
    HasVariable (c :: cs) := by
  rcases h with ⟨front, name, rest, rfl, hname⟩
  exact ⟨c :: front, name, rest, rfl, hname⟩

theorem eq_of_variableName? {cs name after : List Char}
    (h : variableName? cs = some (name, after)) : cs = name ++ '\x7d' :: after ∧ '\n' ∉ name := by
  induction cs generalizing name with
  | nil => cases h
  | cons c rest ih =>
      rw [variableName?] at h
      split at h
      · rename_i hclose
        cases h
        exact ⟨by rw [beq_iff_eq.1 hclose]; rfl, List.not_mem_nil⟩
      · split at h
        · cases h
        · rename_i hline
          rcases Option.map_eq_some_iff.1 h with ⟨⟨front, after'⟩, hrest, heq⟩
          cases heq
          rcases ih hrest with ⟨rfl, hfront⟩
          refine ⟨rfl, fun hmem => ?_⟩
          rcases List.mem_cons.1 hmem with rfl | hin
          · exact hline (beq_self_eq_true _)
          · exact hfront hin

/-- What is not an editor variable is left alone. -/
theorem expandChars_eq_self (root : Path) {cs : List Char} (h : ¬HasVariable cs) :
    expandChars root cs = cs := by
  -- The cases are those of the expansion.
  induction cs using expandChars.induct with
  | case1 => rw [expandChars]
  | case2 rest name after hname _ _ =>
      rcases eq_of_variableName? hname with ⟨rfl, hline⟩
      exact absurd ⟨[], name, after, rfl, hline⟩ h
  | case3 rest hname ih =>
      rw [expandChars]
      split
      · rename_i hsome
        rw [hname] at hsome
        cases hsome
      · rw [ih fun hrest => h (hrest.cons '$')]
  | case4 c rest hplain ih =>
      rw [expandChars, ih fun hrest => h (hrest.cons c)]
      exact hplain

theorem expand_eq_self (root : Path) {value : String} (h : ¬HasVariable value.toList) :
    expand root value = value := by
  rw [expand, expandChars_eq_self root h, String.ofList_toList]

theorem not_hasVariable {cs : List Char} (h : '$' ∉ cs) : ¬HasVariable cs := by
  rintro ⟨front, name, rest, rfl, -⟩
  exact h (by simp)

/-- What a path starts with is no variable. -/
theorem isAbsolute_expand (root : Path) {value : String} (h : (⟨value⟩ : Path).isAbsolute = true) :
    (⟨expand root value⟩ : Path).isAbsolute = true := by
  rcases List.head?_eq_some_iff.1 (eq_of_beq h) with ⟨rest, hchars⟩
  have htext : value.toList = '/' :: rest := hchars
  have hexpand : expandChars root ('/' :: rest) = '/' :: expandChars root rest := by
    rw [expandChars]
    intro tail heq
    simp at heq
  rw [Path.isAbsolute, Path.chars, expand, htext, hexpand, String.toList_ofList]
  rfl

theorem pythonPath?_of_text? {t : FileTree} {root : Path} {value : String}
    (h : text? t root pythonPathKey = some value)
    (habsolute : (⟨expand root value⟩ : Path).isAbsolute = true) :
    pythonPath? t root = some ⟨expand root value⟩ := by
  unfold pythonPath?
  rw [h]
  exact congrArg some (if_pos habsolute)

end Settings
end Testbench
