import Testbench.Proofs.Json.Shortest

/-!
# Pretty — what is read from an indented value

The indented text of a value that a reader could have built is read back. Only its doubles may have
changed, since each is printed as its shortest decimal and that is scaled by a rounded power of ten.

- `Json.IsReadable`        : all numbers are such as a reader comes to;
- `isReadable_of_value?`   : what a reader builds is readable;
- `Json.reread`            : the value with each double as it is read back;
- `readDraft_pretty`       : whole values, by recursion on the value;
- `read?_pretty`           : the text as a whole.
-/

namespace Testbench
namespace Json

/-! ## Readable values -/

mutual

/-- Every number in the value is an integer of 64 bits or a double. -/
def IsReadable : Json → Prop
  | .number n => n.IsReadable
  | .array items => AreReadableItems items
  | .object fields => AreReadableFields fields
  | _ => True

def AreReadableItems : List Json → Prop
  | [] => True
  | j :: rest => IsReadable j ∧ AreReadableItems rest

def AreReadableFields : List (String × Json) → Prop
  | [] => True
  | (_, j) :: rest => IsReadable j ∧ AreReadableFields rest

end

theorem areReadableItems_iff (items : List Json) :
    AreReadableItems items ↔ ∀ j ∈ items, j.IsReadable := by
  induction items with
  | nil => simp [AreReadableItems]
  | cons j rest ih => simp [AreReadableItems, ih]

theorem areReadableFields_iff (fields : List (String × Json)) :
    AreReadableFields fields ↔ ∀ f ∈ fields, f.2.IsReadable := by
  induction fields with
  | nil => simp [AreReadableFields]
  | cons f rest ih => simp [AreReadableFields, ih]

/-- The value of a draft is readable. -/
theorem Draft.isReadable_of_value? (d : Draft) (levels : Nat) (j : Json)
    (h : d.value? levels = some j) : j.IsReadable := by
  have hgrows : Grows fun _ j => j.IsReadable :=
    { null := fun _ => trivial
      bool := fun _ _ => trivial
      number := fun _ _ _ hx => Numeral.isReadable_of_value? hx
      text := fun _ _ => trivial
      array := fun _ items hall => (areReadableItems_iff items).2 hall
      object := fun _ fields _ hall => (areReadableFields_iff fields).2 hall }
  exact hgrows.of_value? d levels j h

/-! ## Reading again -/

/-- A number as it is read back. -/
def Number.reread : Number → Number
  | .int i => .int i
  | .double x => x.numeral.value?.getD (.double x)

mutual

/-- The value with all numbers as they are read back. -/
def reread : Json → Json
  | .number n => .number n.reread
  | .array items => .array (rereadItems items)
  | .object fields => .object (rereadFields fields)
  | j => j

def rereadItems : List Json → List Json
  | [] => []
  | j :: rest => reread j :: rereadItems rest

def rereadFields : List (String × Json) → List (String × Json)
  | [] => []
  | (key, j) :: rest => (key, reread j) :: rereadFields rest

end

theorem rereadFields_eq_map (fields : List (String × Json)) :
    rereadFields fields = fields.map fun f => (f.1, reread f.2) := by
  induction fields with
  | nil => rfl
  | cons f rest ih => simp [rereadFields, ih]

mutual

theorem depth_reread : ∀ (j : Json), j.reread.depth = j.depth
  | .null => rfl
  | .bool _ => rfl
  | .number _ => rfl
  | .text _ => rfl
  | .array items => by rw [reread, depth, depth, depthItems_reread items]
  | .object fields => by rw [reread, depth, depth, depthFields_reread fields]

theorem depthItems_reread : ∀ (items : List Json), depthItems (rereadItems items) = depthItems items
  | [] => rfl
  | j :: rest => by
      rw [rereadItems, depthItems, depthItems, depth_reread j, depthItems_reread rest]

theorem depthFields_reread : ∀ (fields : List (String × Json)),
    depthFields (rereadFields fields) = depthFields fields
  | [] => rfl
  | (key, j) :: rest => by
      rw [rereadFields, depthFields, depthFields, depth_reread j, depthFields_reread rest]

end

namespace Draft

/-! ## Blanks -/

theorem skipSpace_newline (step level : Nat) (cs : List Char) :
    skipSpace (newline step level ++ cs) = skipSpace cs := by
  have hall : ∀ c ∈ newline step level, isSpace c = true := by
    intro c hc
    rcases List.mem_cons.1 hc with rfl | hblank
    · rfl
    · rw [List.eq_of_mem_replicate hblank]
      rfl
  exact List.dropWhile_append_of_pos hall

theorem Opens.afterNewline {cs : List Char} (h : Opens cs) (step level : Nat) :
    Draft.skipSpace (newline step level ++ cs) = cs := by
  rw [skipSpace_newline, h.skipSpace]

theorem readDraft_afterBlank {cs : List Char} (h : Opens cs) (fuel : Nat) :
    readDraft fuel (' ' :: cs) = readDraft fuel cs :=
  readDraft_of_skipSpace (show skipSpace (' ' :: cs) = cs from h.skipSpace) h fuel

/-! ## Numbers -/

/-- A number is printed as a numeral, with the value that is read back. -/
theorem exists_numeral {x : Number} (h : x.IsReadable) :
    ∃ n, IsProper n ∧ numeralChars n = x.print ∧ n.value? = some x.reread := by
  cases x with
  | int i =>
      exact ⟨numeralOf i, isProper_numeralOf i, numeralChars_numeralOf i,
        Numeral.value?_numeralOf h⟩
  | double x =>
      rcases Double.value?_numeral h with ⟨r, hr⟩
      refine ⟨x.numeral, Double.isProper_numeral h, Double.numeralChars_numeral x, ?_⟩
      rw [Number.reread, hr, Option.getD_some]

/-! ## Whole values -/

section

variable {step level : Nat}

theorem opens_prettyChars {j : Json} (h : j.IsReadable) : Opens (prettyChars step level j) := by
  cases j with
  | null => exact ⟨'n', _, rfl, by decide⟩
  | bool b => cases b <;> exact ⟨_, _, rfl, by decide⟩
  | number x =>
      rcases exists_numeral h with ⟨n, hproper, htext, -⟩
      rw [prettyChars, ← htext]
      exact opens_numeralChars hproper
  | text s => exact opens_printText s
  | array items =>
      cases items with
      | nil => exact ⟨'[', _, rfl, by decide⟩
      | cons j rest => exact ⟨'[', _, rfl, by decide⟩
  | object fields =>
      cases fields with
      | nil => exact ⟨'\x7b', _, rfl, by decide⟩
      | cons f rest => exact ⟨'\x7b', _, rfl, by decide⟩

/-- After an item a printed array goes on with a comma or a line break. -/
theorem severs_prettyItems (items : List Json) (rest : List Char) :
    Severs (prettyItems step level items ++ rest) := by
  cases items with
  | nil => exact severs_cons (by decide) _
  | cons j items => exact severs_cons (by decide) _

theorem severs_prettyFields (fields : List (String × Json)) (rest : List Char) :
    Severs (prettyFields step level fields ++ rest) := by
  cases fields with
  | nil => exact severs_cons (by decide) _
  | cons f fields => exact severs_cons (by decide) _

theorem length_newline_pos : 0 < (newline step level).length := Nat.succ_pos _

end

section

variable (step : Nat)

mutual

theorem readDraft_pretty : ∀ (j : Json) (level fuel : Nat) (rest : List Char), j.IsReadable →
    (prettyChars step level j).length ≤ fuel → Severs rest →
    ∃ d, readDraft fuel (prettyChars step level j ++ rest) = some (d, rest) ∧ Spells d j.reread
  | j, level, 0, _, h, hf, _ => by
      have hpos := (@opens_prettyChars step level j h).length_pos
      omega
  | .null, _, fuel + 1, rest, _, _, _ => ⟨_, readDraft_printNull fuel rest, spells_null⟩
  | .bool b, _, fuel + 1, rest, _, _, _ => ⟨_, readDraft_printBool b fuel rest, spells_bool b⟩
  | .number x, _, fuel + 1, rest, h, _, hr => by
      rcases exists_numeral h with ⟨n, hproper, htext, hvalue⟩
      refine ⟨.numeral n, ?_, fun levels => by simp [reread, value?, hvalue, depth, arrange]⟩
      rw [prettyChars, ← htext]
      exact readDraft_numeralChars hproper fuel hr
  | .text s, _, fuel + 1, rest, _, _, _ => ⟨_, readDraft_printText s fuel rest, spells_text s⟩
  | .array [], _, fuel + 1, rest, _, _, _ =>
      ⟨_, readDraft_noItems fuel rest, spells_array spellsItems_nil⟩
  | .array (j :: items), level, fuel + 1, rest, h, hf, _ => by
      have htext : prettyChars step level (.array (j :: items)) ++ rest =
          '[' :: (newline step (level + 1) ++
            (prettyChars step (level + 1) j ++ (prettyItems step level items ++ rest))) := by
        simp [prettyChars]
      have hbreak := @length_newline_pos step (level + 1)
      simp only [prettyChars, List.length_append, List.length_cons] at hf
      obtain ⟨less, rfl⟩ : ∃ less, fuel = less + 1 := ⟨fuel - 1, by omega⟩
      -- The line break in front of the first item is passed over.
      have hopens := (@opens_prettyChars step (level + 1) j h.1).append
        (prettyItems step level items ++ rest)
      have hskip := hopens.afterNewline step (level + 1)
      rcases readDraft_pretty j (level + 1) less (prettyItems step level items ++ rest) h.1
        (by omega) (severs_prettyItems items rest) with ⟨d, hread, hd⟩
      rw [← readDraft_of_skipSpace hskip hopens] at hread
      rcases readItems_pretty items level less rest h.2 (by omega) d _ hread with ⟨ds, hitems, hds⟩
      refine ⟨.array (d :: ds), ?_, spells_array (spellsItems_cons hd hds)⟩
      rw [htext, readDraft_bracket (hskip.symm ▸ hopens), hitems]
      rfl
  | .object [], _, fuel + 1, rest, _, _, _ =>
      ⟨_, readDraft_noFields fuel rest, spells_object spellsFields_nil⟩
  | .object ((key, j) :: fields), level, fuel + 1, rest, h, hf, _ => by
      have htext : prettyChars step level (.object ((key, j) :: fields)) ++ rest =
          '\x7b' :: (newline step (level + 1) ++ (printText key ++ ':' :: ' ' ::
            (prettyChars step (level + 1) j ++ (prettyFields step level fields ++ rest)))) := by
        simp [prettyChars]
      have hbreak := @length_newline_pos step (level + 1)
      simp only [prettyChars, List.length_append, List.length_cons] at hf
      obtain ⟨less, rfl⟩ : ∃ less, fuel = less + 1 := ⟨fuel - 1, by omega⟩
      have hopens := (opens_printText key).append (':' :: ' ' ::
        (prettyChars step (level + 1) j ++ (prettyFields step level fields ++ rest)))
      have hskip := hopens.afterNewline step (level + 1)
      rcases readDraft_pretty j (level + 1) less (prettyFields step level fields ++ rest) h.1
        (by omega) (severs_prettyFields fields rest) with ⟨d, hread, hd⟩
      rw [← readDraft_afterBlank ((opens_prettyChars h.1).append _)] at hread
      rcases readFields_pretty fields level less rest h.2 (by omega) key d _ _ hskip hread
        with ⟨ds, hfields, hds⟩
      refine ⟨.object ((some key, d) :: ds), ?_, spells_object (spellsFields_cons hd hds)⟩
      rw [htext, readDraft_brace (hskip.symm ▸ hopens), hfields]
      rfl

/-- Once an item is read, so are the ones after it. -/
theorem readItems_pretty : ∀ (items : List Json) (level fuel : Nat) (rest : List Char),
    AreReadableItems items → (prettyItems step level items).length ≤ fuel →
    ∀ (d : Draft) (cs : List Char),
      readDraft fuel cs = some (d, prettyItems step level items ++ rest) →
      ∃ ds, readItems (fuel + 1) cs = some (d :: ds, rest) ∧ SpellsItems ds (rereadItems items)
  | [], level, fuel, rest, _, _, d, cs, h => by
      refine ⟨[], readItems_last h ?_, spellsItems_nil⟩
      rw [prettyItems, List.append_assoc, skipSpace_newline]
      exact skipSpace_cons (by decide) rest
  | j :: items, level, fuel, rest, hj, hf, d, cs, h => by
      have htext : prettyItems step level (j :: items) ++ rest =
          ',' :: (newline step (level + 1) ++
            (prettyChars step (level + 1) j ++ (prettyItems step level items ++ rest))) := by
        simp [prettyItems]
      simp only [prettyItems, List.length_append, List.length_cons] at hf
      obtain ⟨less, rfl⟩ : ∃ less, fuel = less + 1 := ⟨fuel - 1, by omega⟩
      have hopens := (@opens_prettyChars step (level + 1) j hj.1).append
        (prettyItems step level items ++ rest)
      have hskip := hopens.afterNewline step (level + 1)
      rcases readDraft_pretty j (level + 1) less (prettyItems step level items ++ rest) hj.1
        (by omega) (severs_prettyItems items rest) with ⟨d', hread, hd'⟩
      rw [← readDraft_of_skipSpace hskip hopens] at hread
      rcases readItems_pretty items level less rest hj.2 (by omega) d' _ hread with
        ⟨ds, hitems, hds⟩
      rw [htext] at h
      exact ⟨d' :: ds, readItems_more h (skipSpace_cons (by decide) _) hitems,
        spellsItems_cons hd' hds⟩

theorem readFields_pretty : ∀ (fields : List (String × Json)) (level fuel : Nat)
    (rest : List Char), AreReadableFields fields → (prettyFields step level fields).length ≤ fuel →
    ∀ (key : String) (d : Draft) (line cs : List Char),
      skipSpace line = printText key ++ ':' :: cs →
      readDraft fuel cs = some (d, prettyFields step level fields ++ rest) →
      ∃ ds, readFields (fuel + 1) line = some ((some key, d) :: ds, rest) ∧
        SpellsFields ds (rereadFields fields)
  | [], level, fuel, rest, _, _, key, d, line, cs, hkey, h => by
      refine ⟨[], readFields_last hkey h ?_, spellsFields_nil⟩
      rw [prettyFields, List.append_assoc, skipSpace_newline]
      exact skipSpace_cons (by decide) rest
  | (next, j) :: fields, level, fuel, rest, hj, hf, key, d, line, cs, hkey, h => by
      have htext : prettyFields step level ((next, j) :: fields) ++ rest =
          ',' :: (newline step (level + 1) ++ (printText next ++ ':' :: ' ' ::
            (prettyChars step (level + 1) j ++ (prettyFields step level fields ++ rest)))) := by
        simp [prettyFields]
      simp only [prettyFields, List.length_append, List.length_cons] at hf
      obtain ⟨less, rfl⟩ : ∃ less, fuel = less + 1 := ⟨fuel - 1, by omega⟩
      have hopens := (opens_printText next).append (':' :: ' ' ::
        (prettyChars step (level + 1) j ++ (prettyFields step level fields ++ rest)))
      have hskip := hopens.afterNewline step (level + 1)
      rcases readDraft_pretty j (level + 1) less (prettyFields step level fields ++ rest) hj.1
        (by omega) (severs_prettyFields fields rest) with ⟨d', hread, hd'⟩
      rw [← readDraft_afterBlank ((opens_prettyChars hj.1).append _)] at hread
      rcases readFields_pretty fields level less rest hj.2 (by omega) next d' _ _ hskip hread
        with ⟨ds, hfields, hds⟩
      rw [htext] at h
      exact ⟨(some next, d') :: ds, readFields_more hkey h (skipSpace_cons (by decide) _) hfields,
        spellsFields_cons hd' hds⟩

end

theorem read?_pretty_spells {j : Json} (h : j.IsReadable) :
    ∃ d, Draft.read? (j.pretty step) = some d ∧ Spells d j.reread := by
  rcases readDraft_pretty step j 0 ((prettyChars step 0 j).length + 1) [] h (by omega) severs_nil
    with ⟨d, hread, hd⟩
  refine ⟨d, ?_, hd⟩
  rw [List.append_nil] at hread
  simp [Draft.read?, pretty, hread, skipSpace]

end

end Draft

/-- Reading the indented text of a value gives the arranged value with its doubles read back, unless
it nests too deep. -/
theorem read?_pretty (step : Nat) {j : Json} (h : j.IsReadable) :
    Json.read? (j.pretty step) = if j.depth ≤ maxLevels then some j.reread.arrange else none := by
  rcases Draft.read?_pretty_spells step h with ⟨d, hread, hd⟩
  simp [Json.read?, hread, hd maxLevels, depth_reread]

end Json
end Testbench
