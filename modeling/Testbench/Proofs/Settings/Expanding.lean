import Testbench.Proofs.Path.Spelling
import Testbench.Proofs.Settings

/-!
# Expanding — variables of a setting, from the left

A value is cut from the left into variables and characters that stand for themselves: where a dollar
sign and an opening brace are followed by a closing one on the same line, a variable reaches to the
first such brace. Expanding replaces the variables and nothing else. It is the same as replacing the
first match of the pattern of a variable, which is the leftmost one and there the shortest, and then
those in what follows it.

- `Piece`, `Scans`         : a value as a row of pieces, cut from the left;
- `Scans.unique`, `exists_scans` : there is one way to cut it;
- `FirstMatch`, `Replaces` : one match after the other;
- `expand_one_pass`        : what expanding a value comes to.
-/

namespace Testbench

namespace Path

/-- The file name is the last component, if that is a name. -/
theorem fileName?_eq (p : Path) : p.fileName? = match p.components.getLast? with
    | some (.name s) => some s
    | _ => none := by
  rcases hcut : cut p.chars with ⟨lead, body⟩
  rw [components_eq_append]
  simp only [fileName?, hcut]
  cases hends : soundFromEnd (Text.splitOn '/' body).reverse with
  | nil =>
      -- No segment counts, so the lead is all there is.
      have hbody : bodyComponents body = [] := by
        rw [bodyComponents, ← List.reverse_reverse (Text.splitOn '/' body), List.filter_reverse,
          ← filter_soundFromEnd, hends]
        rfl
      rw [hbody, List.append_nil]
      dsimp only
      split
      · rename_i hname
        exact absurd (List.mem_of_getLast? hname) (name_not_mem_leadComponents lead _)
      · rfl
  | cons last rest =>
      have hbody := (exists_of_soundFromEnd hends).2
      rw [bodyComponents, hbody, List.map_append, List.map_singleton, ← List.append_assoc,
        List.getLast?_concat, segmentComponent]
      by_cases hup : (last == ['.', '.']) = true
      · simp [hup]
      · simp [hup]

end Path

namespace Settings

/-! ## Pieces -/

/-- A character that stands for itself, or a variable. -/
inductive Piece where
  | plain (c : Char)
  | named (name : List Char)

/-- The text of a variable, and what follows. -/
def spelled (name rest : List Char) : List Char := '$' :: '\x7b' :: (name ++ '\x7d' :: rest)

/-- Two variables stand for the last component of the root, if that is a name, all others for the
whole root. -/
def meaning (root : Path) (name : String) : String :=
  if name = "workspaceRootFolderName" ∨ name = "workspaceFolderBasename" then
    match root.components.getLast? with
    | some (.name s) => s
    | _ => ""
  else root.text

namespace Piece

def chars : Piece → List Char
  | .plain c => [c]
  | .named name => spelled name []

def filled (root : Path) : Piece → List Char
  | .plain c => [c]
  | .named name => (meaning root (String.ofList name)).toList

end Piece

/-- A variable begins here: its braces are on one line. -/
def Opens (cs : List Char) : Prop := ∃ name rest, cs = spelled name rest ∧ '\n' ∉ name

/-- A text, cut from the left. A variable reaches to the first closing brace. -/
inductive Scans : List Char → List Piece → Prop where
  | nil : Scans [] []
  | named {name rest : List Char} {pieces : List Piece} (hline : '\n' ∉ name)
      (hfirst : '\x7d' ∉ name) (hrest : Scans rest pieces) :
      Scans (spelled name rest) (.named name :: pieces)
  | plain {c : Char} {rest : List Char} {pieces : List Piece} (hplain : ¬Opens (c :: rest))
      (hrest : Scans rest pieces) : Scans (c :: rest) (.plain c :: pieces)

/-! ## Matches -/

/-- The first match in a text, between what stands before it and after it. -/
structure FirstMatch (before name after : List Char) : Prop where
  line : '\n' ∉ name
  /-- Nothing matches further to the left. -/
  leftmost : ∀ front back, before = front ++ back → back ≠ [] → ¬Opens (back ++ spelled name after)
  /-- Nothing shorter matches at the same place. -/
  shortest : ∀ name' after', spelled name after = spelled name' after' → '\n' ∉ name' →
    name.length ≤ name'.length

/-- A text with its matches replaced, one after the other. -/
inductive Replaces (root : Path) : List Char → List Char → Prop where
  | rest {cs : List Char} (h : ¬HasVariable cs) : Replaces root cs cs
  | next {before name after out : List Char} (h : FirstMatch before name after)
      (hrest : Replaces root after out) :
      Replaces root (before ++ spelled name after)
        (before ++ ((meaning root (String.ofList name)).toList ++ out))

/-! ## What is put in -/

theorem variableValue_eq (root : Path) (name : String) :
    variableValue root name = meaning root name := by
  unfold variableValue meaning folderName
  rw [Path.fileName?_eq]
  by_cases hname : name = "workspaceRootFolderName" ∨ name = "workspaceFolderBasename"
  · rw [if_pos hname, if_pos (by simpa using hname)]
    cases root.components.getLast? with
    | none => rfl
    | some c => cases c <;> rfl
  · rw [if_neg hname, if_neg (by simpa using hname)]

/-! ## Where a variable begins -/

section

variable {cs name rest : List Char} {c : Char}

/-- A name on one line is read up to the first closing brace. -/
theorem variableName?_append (hline : '\n' ∉ name) (hfirst : '\x7d' ∉ name) (rest : List Char) :
    variableName? (name ++ '\x7d' :: rest) = some (name, rest) := by
  induction name with
  | nil => rfl
  | cons c name ih =>
      have hclose : ¬(c == '\x7d') = true := by
        simpa using (List.ne_of_not_mem_cons hfirst).symm
      have hbreak : ¬(c == '\n') = true := by
        simpa using (List.ne_of_not_mem_cons hline).symm
      rw [List.cons_append, variableName?, if_neg hclose, if_neg hbreak,
        ih (List.not_mem_of_not_mem_cons hline) (List.not_mem_of_not_mem_cons hfirst)]
      rfl

theorem not_mem_of_variableName? {after : List Char} (h : variableName? cs = some (name, after)) :
    '\x7d' ∉ name := by
  induction cs generalizing name with
  | nil => cases h
  | cons c rest ih =>
      rw [variableName?] at h
      split at h
      · cases h
        exact List.not_mem_nil
      · rename_i hclose
        split at h
        · cases h
        · rcases Option.map_eq_some_iff.1 h with ⟨⟨front, after'⟩, hrest, heq⟩
          cases heq
          refine fun hmem => ?_
          rcases List.mem_cons.1 hmem with hc | hin
          · exact hclose (beq_iff_eq.2 hc.symm)
          · exact ih hrest hin

/-- Wherever a name is closed on its line, one can be read. -/
theorem exists_of_variableName? (hline : '\n' ∉ name) (rest : List Char) :
    ∃ found after, variableName? (name ++ '\x7d' :: rest) = some (found, after) := by
  induction name with
  | nil => exact ⟨[], rest, rfl⟩
  | cons c name ih =>
      rcases ih (List.not_mem_of_not_mem_cons hline) with ⟨found, after, hrest⟩
      have hbreak : ¬(c == '\n') = true := by
        simpa using (List.ne_of_not_mem_cons hline).symm
      rw [List.cons_append, variableName?, if_neg hbreak, hrest]
      split
      · exact ⟨[], _, rfl⟩
      · exact ⟨c :: found, after, rfl⟩

theorem spelled_injective {name' rest' : List Char} (hline : '\n' ∉ name) (hfirst : '\x7d' ∉ name)
    (hline' : '\n' ∉ name') (hfirst' : '\x7d' ∉ name')
    (h : spelled name rest = spelled name' rest') : name = name' ∧ rest = rest' := by
  have htails := (List.cons.inj (List.cons.inj h).2).2
  have hread := variableName?_append hline hfirst rest
  rw [htails, variableName?_append hline' hfirst' rest', Option.some.injEq, Prod.mk.injEq] at hread
  exact ⟨hread.1.symm, hread.2.symm⟩

theorem opens_iff : Opens cs ↔
    ∃ name rest, cs = spelled name rest ∧ '\n' ∉ name ∧ '\x7d' ∉ name := by
  constructor
  · rintro ⟨name, rest, rfl, hline⟩
    rcases exists_of_variableName? hline rest with ⟨found, after, hread⟩
    rcases eq_of_variableName? hread with ⟨hspelled, hfound⟩
    exact ⟨found, after, by rw [spelled, hspelled, spelled], hfound, not_mem_of_variableName? hread⟩
  · rintro ⟨name, rest, rfl, hline, -⟩
    exact ⟨name, rest, rfl, hline⟩

/-- A variable stands somewhere in a text if it stands at its beginning or after that. -/
theorem hasVariable_cons : HasVariable (c :: rest) ↔ Opens (c :: rest) ∨ HasVariable rest := by
  constructor
  · rintro ⟨front, name, after, heq, hline⟩
    cases front with
    | nil => exact .inl ⟨name, after, heq, hline⟩
    | cons d front =>
        rcases List.cons.inj heq with ⟨-, rfl⟩
        exact .inr ⟨front, name, after, rfl, hline⟩
  · rintro (⟨name, after, heq, hline⟩ | hrest)
    · exact ⟨[], name, after, heq, hline⟩
    · exact hrest.cons c

/-! ## Expanding, piece by piece -/

theorem expandChars_named (root : Path) (hline : '\n' ∉ name) (hfirst : '\x7d' ∉ name)
    (rest : List Char) : expandChars root (spelled name rest) =
      (meaning root (String.ofList name)).toList ++ expandChars root rest := by
  rw [spelled, expandChars]
  split
  · rename_i found after hread
    rcases Prod.mk.inj (Option.some.inj ((variableName?_append hline hfirst rest).symm.trans hread))
      with ⟨rfl, rfl⟩
    rw [← variableValue_eq]
  · rename_i hnone
    rw [variableName?_append hline hfirst] at hnone
    cases hnone

theorem expandChars_plain (root : Path) (h : ¬Opens (c :: rest)) :
    expandChars root (c :: rest) = c :: expandChars root rest := by
  rw [expandChars.eq_def]
  split
  · rename_i hempty
    cases hempty
  · rename_i tail hcons
    rcases List.cons.inj hcons with ⟨rfl, rfl⟩
    split
    · rename_i name after hread
      rcases eq_of_variableName? hread with ⟨rfl, hline⟩
      exact absurd ⟨name, after, rfl, hline⟩ h
    · rfl
  · rename_i hcons
    rcases List.cons.inj hcons with ⟨rfl, rfl⟩
    rfl

end

/-! ## Cutting a value -/

section

variable {cs : List Char} {pieces : List Piece}

theorem exists_scans (cs : List Char) : ∃ pieces, Scans cs pieces := by
  -- Every piece takes a character at least.
  induction hlength : cs.length using Nat.strong_induction_on generalizing cs with
  | _ n ih =>
      cases cs with
      | nil => exact ⟨[], .nil⟩
      | cons c rest =>
          by_cases hopens : Opens (c :: rest)
          · rcases opens_iff.1 hopens with ⟨name, after, hspelled, hline, hfirst⟩
            have hshorter : after.length < n := by
              rw [← hlength, hspelled]
              simp [spelled]
              omega
            rcases ih after.length hshorter after rfl with ⟨pieces, hscans⟩
            exact ⟨.named name :: pieces, hspelled ▸ .named hline hfirst hscans⟩
          · have hshorter : rest.length < n := by
              rw [← hlength]
              exact Nat.lt_succ_self _
            rcases ih rest.length hshorter rest rfl with ⟨pieces, hscans⟩
            exact ⟨.plain c :: pieces, .plain hopens hscans⟩

namespace Scans

/-- The pieces are the value, in order. -/
theorem chars_eq (h : Scans cs pieces) : cs = pieces.flatMap Piece.chars := by
  induction h with
  | nil => rfl
  | @named name rest pieces _ _ _ ih =>
      rw [List.flatMap_cons, ← ih, Piece.chars, spelled, spelled]
      simp
  | plain _ _ ih =>
      rw [List.flatMap_cons, ← ih]
      rfl

theorem expandChars_eq (root : Path) (h : Scans cs pieces) :
    expandChars root cs = pieces.flatMap (Piece.filled root) := by
  induction h with
  | nil => rw [expandChars, List.flatMap_nil]
  | named hline hfirst _ ih =>
      rw [expandChars_named root hline hfirst, ih, List.flatMap_cons, Piece.filled]
  | plain hplain _ ih =>
      rw [expandChars_plain root hplain, ih, List.flatMap_cons, Piece.filled, List.singleton_append]

/-- Where a variable begins, it is the first piece. -/
theorem of_spelled {name rest : List Char} (hline : '\n' ∉ name) (hfirst : '\x7d' ∉ name)
    (h : Scans (spelled name rest) pieces) :
    ∃ tail, pieces = .named name :: tail ∧ Scans rest tail := by
  generalize hread : spelled name rest = cs at h
  cases h with
  | nil => cases hread
  | named hline' hfirst' hrest =>
      rcases spelled_injective hline hfirst hline' hfirst' hread with ⟨rfl, rfl⟩
      exact ⟨_, rfl, hrest⟩
  | plain hplain => exact absurd ⟨name, rest, hread.symm, hline⟩ hplain

theorem unique {other : List Piece} (h : Scans cs pieces) (hother : Scans cs other) :
    other = pieces := by
  induction h generalizing other with
  | nil =>
      cases hother
      rfl
  | named hline hfirst _ ih =>
      rcases hother.of_spelled hline hfirst with ⟨tail, rfl, htail⟩
      rw [ih htail]
  | plain hplain _ ih =>
      cases hother with
      | named hline => exact absurd ⟨_, _, rfl, hline⟩ hplain
      | plain _ hrest => rw [ih hrest]

end Scans

end

/-! ## One match after the other -/

section

variable {root : Path} {cs before name after out : List Char} {pieces : List Piece} {c : Char}

/-- The shortest name is the one that ends at the first closing brace. -/
theorem FirstMatch.not_mem (h : FirstMatch before name after) : '\x7d' ∉ name := by
  rcases exists_of_variableName? h.line after with ⟨found, rest, hread⟩
  rcases eq_of_variableName? hread with ⟨hspelled, hfound⟩
  have hshort : name.length ≤ found.length :=
    h.shortest found rest (by rw [spelled, hspelled, spelled]) hfound
  have hbegin : name <+: found :=
    List.prefix_of_prefix_length_le (List.prefix_append name _)
      (hspelled ▸ List.prefix_append found _) hshort
  exact fun hmem => not_mem_of_variableName? hread (hbegin.subset hmem)

theorem FirstMatch.here (hline : '\n' ∉ name) (hfirst : '\x7d' ∉ name) (after : List Char) :
    FirstMatch [] name after where
  line := hline
  leftmost front back hsplit hback := absurd (List.append_eq_nil_iff.1 hsplit.symm).2 hback
  shortest name' after' heq _ := by
    have htails : name ++ '\x7d' :: after = (name' ++ ['\x7d']) ++ after' := by
      rw [List.append_assoc]
      exact (List.cons.inj (List.cons.inj heq).2).2
    by_contra hlonger
    have hlength : (name' ++ ['\x7d']).length ≤ name.length := by
      rw [List.length_append]
      exact Nat.not_le.1 hlonger
    have hbegin : name' ++ ['\x7d'] <+: name :=
      List.prefix_of_prefix_length_le (htails ▸ List.prefix_append _ after')
        (List.prefix_append name _) hlength
    exact hfirst (hbegin.subset (List.mem_append_right _ List.mem_cons_self))

theorem FirstMatch.cons (h : FirstMatch before name after)
    (hplain : ¬Opens (c :: before ++ spelled name after)) :
    FirstMatch (c :: before) name after where
  line := h.line
  leftmost front back hsplit hback := by
    cases front with
    | nil =>
        rw [List.nil_append] at hsplit
        exact hsplit ▸ hplain
    | cons d front => exact h.leftmost front back (List.cons.inj hsplit).2 hback
  shortest := h.shortest

theorem Replaces.cons (hplain : ¬Opens (c :: cs)) (h : Replaces root cs out) :
    Replaces root (c :: cs) (c :: out) := by
  cases h with
  | rest hnone =>
      exact .rest fun hvariable => (hasVariable_cons.1 hvariable).elim hplain hnone
  | next hmatch hrest => exact .next (hmatch.cons hplain) hrest

theorem Scans.replaces (root : Path) (h : Scans cs pieces) :
    Replaces root cs (pieces.flatMap (Piece.filled root)) := by
  induction h with
  | nil => exact .rest (not_hasVariable List.not_mem_nil)
  | named hline hfirst _ ih => exact .next (FirstMatch.here hline hfirst _) ih
  | plain hplain _ ih => exact ih.cons hplain

/-- Nothing is replaced where no variable begins. -/
theorem expandChars_append (root : Path) {tail : List Char}
    (h : ∀ front back, before = front ++ back → back ≠ [] → ¬Opens (back ++ tail)) :
    expandChars root (before ++ tail) = before ++ expandChars root tail := by
  induction before with
  | nil => rfl
  | cons c before ih =>
      have hbegin : ¬Opens (c :: (before ++ tail)) :=
        h [] (c :: before) rfl (List.cons_ne_nil c before)
      rw [List.cons_append, expandChars_plain root hbegin, ih, List.cons_append]
      exact fun front back hsplit => h (c :: front) back (congrArg (c :: ·) hsplit)

theorem Replaces.eq_expandChars (h : Replaces root cs out) : out = expandChars root cs := by
  induction h with
  | rest hnone => exact (expandChars_eq_self root hnone).symm
  | next hmatch _ ih =>
      rw [expandChars_append root hmatch.leftmost,
        expandChars_named root hmatch.line hmatch.not_mem, ih]

end

/-- A value is cut from the left in one way, into pieces that are the value again when they are put
together, and it is expanded by putting in what each piece stands for. This comes to replacing one
match after the other, and nothing is replaced where there is none. -/
theorem expand_one_pass (root : Path) (value : String) :
    (∃ pieces, Scans value.toList pieces ∧ (∀ other, Scans value.toList other → other = pieces) ∧
      value.toList = pieces.flatMap Piece.chars ∧
      (expand root value).toList = pieces.flatMap (Piece.filled root)) ∧
    (∀ out, Replaces root value.toList out ↔ out = (expand root value).toList) ∧
    (¬HasVariable value.toList → expand root value = value) := by
  rcases exists_scans value.toList with ⟨pieces, hscans⟩
  have hexpand : (expand root value).toList = expandChars root value.toList := String.toList_ofList
  have hfilled : (expand root value).toList = pieces.flatMap (Piece.filled root) :=
    hexpand.trans (hscans.expandChars_eq root)
  refine ⟨⟨pieces, hscans, fun _ => hscans.unique, hscans.chars_eq, hfilled⟩, fun out => ?_,
    expand_eq_self root⟩
  constructor
  · exact fun h => h.eq_expandChars.trans hexpand.symm
  · rintro rfl
    exact hfilled ▸ hscans.replaces root

/-- The root's own dollar signs and braces are not looked at again, and a brace that is not closed
on its line stands for itself. -/
example : expand ⟨"/w/$\x7bx\x7d"⟩
    "$\x7ba\n\x7d$\x7bworkspaceFolderBasename\x7d/$\x7b$\x7ba\x7d\x7d" =
      "$\x7ba\n\x7d$\x7bx\x7d//w/$\x7bx\x7d\x7d" := by
  decide +kernel

end Settings
end Testbench
