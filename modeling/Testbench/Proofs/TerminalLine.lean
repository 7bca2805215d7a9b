import Testbench.Dispatch
import Testbench.Proofs.Path.Spelling
import Testbench.Proofs.Words

/-!
# TerminalLine — what a shell makes of the lines

A path without double quotes is one word of a line wherever it is quoted. Two lines put a path down
as it is, and the line of a test case does so with the name of the test, so that white space in them
cuts them. The name of a test holds the names of the folders it is in.

- `activate_words`, `createVirtualenv_words`   : lines that keep every path whole;
- `pipInstall_words`, `runScript_words_iff`    : lines that keep every path but the empty one;
- `exportPythonPath_words_iff`, `prependPath_words_iff`, `runTestcase_words_iff` : lines that keep
  what has no white space;
- `forall_mem_dottedPath?` : the characters in the name of a test;
- `words_of_lines`         : all lines.
-/

namespace Testbench

namespace Text

/-- What holds of all characters of some texts, and of those between them. -/
theorem forall_mem_intercalate {P : Char → Prop} {sep : String} (hsep : ∀ c ∈ sep.toList, P c)
    (texts : List String) :
    (∀ c ∈ (sep.intercalate texts).toList, P c) ↔ ∀ s ∈ texts, ∀ c ∈ s.toList, P c := by
  induction texts with
  | nil => simp
  | cons s rest ih =>
      cases rest with
      | nil => simp
      | cons next more =>
          rw [List.forall_mem_cons, ← ih, String.intercalate_cons_cons, String.toList_append,
            String.toList_append, List.forall_mem_append, List.forall_mem_append]
          exact ⟨fun h => ⟨h.1.1, h.2⟩, fun h => ⟨⟨h.1, hsep⟩, h.2⟩⟩

theorem forall_mem_dropEnding? {P : Char → Prop} {ending : String}
    (hending : ∀ c ∈ ending.toList, P c) (s : String) :
    (∀ c ∈ (((dropEnding? ending.toList s.toList).map String.ofList).getD s).toList, P c) ↔
      ∀ c ∈ s.toList, P c := by
  unfold dropEnding?
  split
  · rename_i hsuffix
    rcases List.isSuffixOf_iff_suffix.1 hsuffix with ⟨front, hfront⟩
    rw [Option.map_some, Option.getD_some, String.toList_ofList, ← hfront, List.length_append,
      Nat.add_sub_cancel, List.take_left, List.forall_mem_append]
    exact ⟨fun h => ⟨h, hending⟩, fun h => h.1⟩
  · rfl

end Text

namespace Path

/-! ## The characters of a path -/

theorem forall_mem_joinText {P : Char → Prop} {p : Path} {s : String} (hp : ∀ c ∈ p.chars, P c)
    (hs : '/' ∉ s.toList) (hall : ∀ c ∈ '/' :: s.toList, P c) :
    ∀ c ∈ (p.joinText s).chars, P c := by
  rcases chars_joinText_cases p hs with ⟨-, heq⟩ | ⟨front, hfront, heq⟩ | ⟨-, heq⟩
  · rw [heq]
    exact fun c hc => hall c (List.mem_cons_of_mem _ hc)
  · rw [hfront, List.forall_mem_append] at hp
    rw [heq, List.forall_mem_append]
    exact ⟨hp.1, hall⟩
  · rw [heq, List.forall_mem_append]
    exact ⟨hp, hall⟩

theorem isPrefix_joinText (p : Path) {s : String} (hs : '/' ∉ s.toList) :
    p.chars <+: (p.joinText s).chars := by
  rcases chars_joinText_cases p hs with ⟨hnil, -⟩ | ⟨front, hfront, heq⟩ | ⟨-, heq⟩
  · rw [hnil]
    exact List.nil_prefix
  · rw [hfront, heq]
    exact ⟨s.toList, by simp⟩
  · exact ⟨_, heq.symm⟩

theorem joinText_ne_empty (p : Path) {s : String} (hs : '/' ∉ s.toList) (hne : s ≠ "") :
    (p.joinText s).text ≠ "" := by
  intro hempty
  have hnil : (p.joinText s).chars = [] := String.toList_eq_nil_iff.2 hempty
  rcases chars_joinText_cases p hs with ⟨-, heq⟩ | ⟨front, -, heq⟩ | ⟨-, heq⟩
  · exact Words.toList_ne_nil hne (heq.symm.trans hnil)
  · simp [heq] at hnil
  · simp [heq] at hnil

theorem mem_chars_of_mem_components {p : Path} {name : String} (h : .name name ∈ p.components)
    {c : Char} (hc : c ∈ name.toList) : c ∈ p.chars := by
  have hbody : ∀ {body : List Char}, .name name ∈ bodyComponents body → c ∈ body := by
    intro body hmem
    rcases List.mem_map.1 hmem with ⟨segment, hsegment, heq⟩
    unfold segmentComponent at heq
    split at heq
    · simp at heq
    · rw [← Component.name.inj heq, String.toList_ofList] at hc
      exact Text.mem_of_mem_splitOn (List.mem_filter.1 hsegment).1 hc
  have hcut : .name name ∈ bodyComponents (cut p.chars).2 :=
    (List.mem_append.1 h).resolve_left (name_not_mem_leadComponents _ name)
  simp only [cut] at hcut
  split at hcut
  · rename_i hchars
    exact hchars ▸ List.mem_cons_of_mem _ (hbody hcut)
  · exact absurd (hbody hcut) List.not_mem_nil
  · rename_i hchars
    exact hchars ▸ List.mem_cons_of_mem _ (hbody hcut)
  · exact hbody hcut

theorem mem_of_afterStart? {α : Type} [DecidableEq α] {start cs below : List α}
    (h : afterStart? start cs = some below) {a : α} (ha : a ∈ below) : a ∈ cs := by
  induction start generalizing cs with
  | nil =>
      rw [afterStart?, Option.some.injEq] at h
      exact h ▸ ha
  | cons b start ih =>
      cases cs with
      | nil => simp [afterStart?] at h
      | cons d cs =>
          rw [afterStart?] at h
          split at h
          · exact List.mem_cons_of_mem _ (ih h)
          · simp at h

theorem mem_chars_of_mem_names {root file : Path} {below : List Component}
    (h : root.below? file = some below) {name : String} (hname : name ∈ names below) {c : Char}
    (hc : c ∈ name.toList) : c ∈ file.chars := by
  rcases List.mem_filterMap.1 hname with ⟨component, hmem, heq⟩
  split at heq
  · rw [Option.some.injEq] at heq
    subst heq
    exact mem_chars_of_mem_components (mem_of_afterStart? h hmem) hc
  · simp at heq

end Path

namespace Dispatch

/-! ## The characters in the name of a test -/

section

variable {root file : Path} {className dotted : String}

/-- A property of the dot and of the ending of modules holds throughout the name of a test exactly
if it does throughout the names below the root and the name of the class. -/
theorem forall_mem_dottedPath? {P : Char → Prop} (hdot : P '.') (hending : ∀ c ∈ ".py".toList, P c)
    (h : dottedPath? root file className = some dotted) :
    ∃ below, root.below? file = some below ∧ ((∀ c ∈ dotted.toList, P c) ↔
      (∀ name ∈ Path.names below, ∀ c ∈ name.toList, P c) ∧ ∀ c ∈ className.toList, P c) := by
  rcases Option.bind_eq_some_iff.1 h with ⟨below, hbelow, h⟩
  refine ⟨below, hbelow, ?_⟩
  have hdots : ∀ c ∈ ".".toList, P c := by
    intro c hc
    rw [List.mem_singleton.1 hc]
    exact hdot
  split at h
  · simp at h
  · rename_i last folders hreverse
    have hnames : Path.names below = folders.reverse ++ [last] := by
      rw [← List.reverse_reverse (Path.names below), hreverse, List.reverse_cons]
    rw [← Option.some.inj h, Text.forall_mem_intercalate hdots, hnames, List.forall_mem_append,
      List.forall_mem_append, List.forall_mem_cons, List.forall_mem_singleton,
      List.forall_mem_singleton, Text.forall_mem_dropEnding? hending, and_assoc]

theorem dottedPath?_ne_empty (h : dottedPath? root file className = some dotted) : dotted ≠ "" := by
  rcases Option.bind_eq_some_iff.1 h with ⟨below, -, h⟩
  split at h
  · simp at h
  · rename_i last folders hreverse
    -- There is a dot between any two parts.
    have hne : ∀ {first second : String} {more : List String},
        ".".intercalate (first :: second :: more) ≠ "" := by
      intro first second more hempty
      have hnil := String.toList_eq_nil_iff.2 hempty
      rw [String.intercalate_cons_cons, String.toList_append, String.toList_append] at hnil
      simp at hnil
    rw [← Option.some.inj h]
    cases folders.reverse with
    | nil => exact hne
    | cons first more =>
        cases more with
        | nil => exact hne
        | cons second more => exact hne

theorem quote_not_mem_dottedPath? (h : dottedPath? root file className = some dotted)
    (hfile : '"' ∉ file.chars) (hclass : '"' ∉ className.toList) : '"' ∉ dotted.toList := by
  rcases forall_mem_dottedPath? (P := fun c => c ≠ '"') (by decide)
    (List.forall_mem_ne'.2 (by decide)) h with ⟨below, hbelow, hiff⟩
  intro hmem
  refine hiff.2 ⟨fun name hname c hc heq => ?_, fun c hc heq => ?_⟩ _ hmem rfl
  · exact hfile (heq ▸ Path.mem_chars_of_mem_names hbelow hname hc)
  · exact hclass (heq ▸ hc)

end

end Dispatch
namespace TerminalLine

open Words

/-! ## The words of the lines -/

/-- The script that enters an environment. -/
abbrev entrance (env : Path) : Path := (env.joinText "bin").joinText "activate"

theorem entrance_ne_empty (env : Path) : (entrance env).text ≠ "" :=
  Path.joinText_ne_empty _ (by decide) (by decide)

theorem isPrefix_entrance (env : Path) : env.chars <+: (entrance env).chars :=
  (Path.isPrefix_joinText env (by decide)).trans (Path.isPrefix_joinText _ (by decide))

theorem quote_not_mem_entrance {env : Path} (h : '"' ∉ env.chars) : '"' ∉ (entrance env).chars := by
  have hchars : ∀ c ∈ (entrance env).chars, c ≠ '"' := by
    refine Path.forall_mem_joinText
      (Path.forall_mem_joinText (List.forall_mem_ne'.2 h) (by decide) ?_)
      (by decide) ?_
    · exact List.forall_mem_ne'.2 (by decide)
    · exact List.forall_mem_ne'.2 (by decide)
  exact fun hmem => hchars _ hmem rfl

/-- The words that name a package index, and its host if it has one. -/
def indexWords (index : String) : List String :=
  ["-i", index] ++ match Url.hostAndPort? index with
    | some host => ["--trusted-host", host]
    | none => []

section

variable {isSpace : Char → Bool} (hsep : Separates isSpace)
include hsep

theorem activate_words {env : Path} (henv : '"' ∉ env.chars) :
    words? isSpace (activate .unix env) = some ["source", (entrance env).text ++ ";"] := by
  have hline : activate .unix env = "source" ++ " " ++ (quote (entrance env).text ++ ";") := by
    rw [← String.append_assoc]
    rfl
  have hsource := (isWord_of_isPlain hsep (by decide : IsPlain "source")).spells
  have hend := (isWord_of_isPlain hsep (by decide : IsPlain ";")).spells
  have hscript := spells_quote hsep (entrance_ne_empty env) (quote_not_mem_entrance henv)
  rw [hline, words?_cons hsep hsource, words?_last (hscript.append hend)]
  rfl

/-- A word that starts with a plain one is put together, even if nothing is added to it. -/
theorem spells_append_quote {front : String} (hfront : IsPlain front) {s : String}
    (hquote : '"' ∉ s.toList) : Spells isSpace (front ++ quote s) (front ++ s) := by
  have hspells := (isWord_of_isPlain hsep hfront).spells
  by_cases hempty : s = ""
  · have hnothing : quote s = "" := by
      rw [hempty]
      rfl
    rw [hnothing, hempty, String.append_empty]
    exact hspells
  · exact hspells.append (spells_quote hsep hempty hquote)

theorem createVirtualenv_words {python env : Path} (hpython : '"' ∉ python.chars)
    (henv : '"' ∉ env.chars) : words? isSpace (createVirtualenv python env) =
      some [python.text, "-m", "virtualenv", env.text, "--python=" ++ python.text] := by
  have hmiddle :
      "\" -m virtualenv \"" = "\"" ++ " " ++ "-m" ++ " " ++ "virtualenv" ++ " " ++ "\"" := rfl
  have hend : "\" --python=" = "\"" ++ " " ++ "--python=" := rfl
  have hline : createVirtualenv python env = ("\"" ++ python.text ++ "\"") ++ " " ++ ("-m" ++ " " ++
      ("virtualenv" ++ " " ++ (("\"" ++ env.text ++ "\"") ++ " " ++
        ("--python=" ++ quote python.text)))) := by
    simp only [createVirtualenv, hmiddle, hend, String.append_assoc]
  have hmodule := (isWord_of_isPlain hsep (by decide : IsPlain "-m")).spells
  have hname := (isWord_of_isPlain hsep (by decide : IsPlain "virtualenv")).spells
  have hoption := spells_append_quote hsep (by decide : IsPlain "--python=") hpython
  rw [hline, words?_cons hsep (spells_quoted hpython), words?_cons hsep hmodule,
    words?_cons hsep hname, words?_cons hsep (spells_quoted henv), words?_last hoption]
  rfl

theorem indexOptions_words {index : String} (hindex : IsWord isSpace index)
    (hhost : ∀ host, Url.hostAndPort? index = some host → IsWord isSpace host) :
    words? isSpace (indexOptions index) = some (indexWords index) := by
  have hi : " -i " = " " ++ ("-i" ++ " ") := rfl
  have htrusted : " --trusted-host " = " " ++ ("--trusted-host" ++ " ") := rfl
  have hname := (isWord_of_isPlain hsep (by decide : IsPlain "-i")).spells
  have hoption := (isWord_of_isPlain hsep (by decide : IsPlain "--trusted-host")).spells
  unfold indexOptions indexWords
  cases hurl : Url.hostAndPort? index with
  | none =>
      simp only [hi, String.append_empty, String.append_assoc]
      rw [words?_space hsep, ← String.append_assoc, words?_cons hsep hname,
        words?_last hindex.spells]
      rfl
  | some host =>
      simp only [hi, htrusted, String.append_assoc]
      rw [words?_space hsep, ← String.append_assoc, words?_cons hsep hname, ← String.append_assoc,
        words?_cons hsep hindex.spells, ← String.append_assoc, words?_cons hsep hoption,
        words?_last (hhost host hurl).spells]
      rfl

/-- Whatever index is named, its options stand behind the words for both paths. -/
theorem pipInstall_words {python requirements : Path} (hpython : '"' ∉ python.chars)
    (hrequirements : '"' ∉ requirements.chars) (index : Option String) :
    words? isSpace (pipInstall python requirements index) =
      (words? isSpace ((index.map indexOptions).getD "")).map fun options =>
        kept python.text ++ ["-m", "pip", "install", "-r"] ++
          kept requirements.text ++ options := by
  have hmiddle : " -m pip install -r " =
      " " ++ ("-m" ++ " " ++ ("pip" ++ " " ++ ("install" ++ " " ++ ("-r" ++ " ")))) := rfl
  have hmodule := (isWord_of_isPlain hsep (by decide : IsPlain "-m")).spells
  have hname := (isWord_of_isPlain hsep (by decide : IsPlain "pip")).spells
  have hcommand := (isWord_of_isPlain hsep (by decide : IsPlain "install")).spells
  have hoption := (isWord_of_isPlain hsep (by decide : IsPlain "-r")).spells
  -- The options are empty, or start with a space.
  have hlast : words? isSpace (quote requirements.text ++ (index.map indexOptions).getD "") =
      (words? isSpace ((index.map indexOptions).getD "")).map (kept requirements.text ++ ·) := by
    cases index with
    | none =>
        rw [Option.map_none, Option.getD_none, String.append_empty, words?_quote hsep hrequirements]
        simp [words?_empty]
    | some index =>
        have hi : " -i " = " " ++ "-i " := rfl
        simp only [Option.map_some, Option.getD_some, indexOptions, hi, String.append_assoc]
        rw [words?_space hsep, ← String.append_assoc, words?_quote_cons hsep hrequirements]
  have hline : pipInstall python requirements index = quote python.text ++ " " ++ ("-m" ++ " " ++
      ("pip" ++ " " ++ ("install" ++ " " ++ ("-r" ++ " " ++
        (quote requirements.text ++ (index.map indexOptions).getD ""))))) := by
    simp only [pipInstall, hmiddle, String.append_assoc]
  rw [hline, words?_quote_cons hsep hpython, words?_cons hsep hmodule, words?_cons hsep hname,
    words?_cons hsep hcommand, words?_cons hsep hoption, hlast]
  simp [Function.comp_def]

theorem runScript_words {python script : Path} (hpython : '"' ∉ python.chars)
    (hscript : '"' ∉ script.chars) :
    words? isSpace (runScript python script) = some (kept python.text ++ kept script.text) := by
  rw [runScript, words?_quote_cons hsep hpython, words?_quote hsep hscript]
  rfl

theorem runTestcase_words {python : Path} (hpython : '"' ∉ python.chars) (dotted : String) :
    words? isSpace (runTestcase python dotted) = (words? isSpace dotted).map fun ws =>
      kept python.text ++ ["manage.py", "runtest"] ++ ws := by
  have hmiddle : " manage.py runtest " = " " ++ ("manage.py" ++ " " ++ ("runtest" ++ " ")) := rfl
  have hname := (isWord_of_isPlain hsep (by decide : IsPlain "manage.py")).spells
  have hcommand := (isWord_of_isPlain hsep (by decide : IsPlain "runtest")).spells
  have hline : runTestcase python dotted =
      quote python.text ++ " " ++ ("manage.py" ++ " " ++ ("runtest" ++ " " ++ dotted)) := by
    simp only [runTestcase, hmiddle, String.append_assoc]
  rw [hline, words?_quote_cons hsep hpython, words?_cons hsep hname, words?_cons hsep hcommand]
  simp [Function.comp_def]

/-- A path that is put down as it is, between plain texts. -/
theorem export_words_iff {front back : String} (hfront : IsPlain front) (hback : '"' ∉ back.toList)
    (hsolid : Solid isSpace back) {p : Path} (hp : '"' ∉ p.chars) :
    words? isSpace ("export " ++ front ++ p.text ++ back) =
      some ["export", front ++ p.text ++ back] ↔
      Solid isSpace p.text := by
  have hexport : "export " = "export" ++ " " := rfl
  have hname := (isWord_of_isPlain hsep (by decide : IsPlain "export")).spells
  have hword := isWord_of_isPlain hsep hfront
  have hquote : '"' ∉ (front ++ p.text ++ back).toList := by
    rw [String.toList_append, String.toList_append, List.mem_append, List.mem_append]
    rintro ((h | h) | h)
    · exact hword.noQuote h
    · exact hp h
    · exact hback h
  have hne : front ++ p.text ++ back ≠ "" := by
    intro hempty
    have hnil := String.toList_eq_nil_iff.2 hempty
    rw [String.toList_append, String.toList_append, List.append_assoc, List.append_eq_nil_iff]
      at hnil
    exact toList_ne_nil hfront.1 hnil.1
  -- The plain texts around it hold no space.
  have hparts : Solid isSpace (front ++ p.text ++ back) ↔ Solid isSpace p.text := by
    unfold Solid
    rw [String.toList_append, String.toList_append, List.forall_mem_append, List.forall_mem_append]
    exact ⟨fun h => h.1.2, fun h => ⟨⟨hword.solid, h⟩, hsolid⟩⟩
  have hsingle : words? isSpace (front ++ p.text ++ back) = some [front ++ p.text ++ back] ↔
      Solid isSpace p.text := by
    rw [words?_single_iff hquote, hparts]
    exact and_iff_right hne
  have hline :
      "export " ++ front ++ p.text ++ back = "export" ++ " " ++ (front ++ p.text ++ back) := by
    simp only [hexport, String.append_assoc]
  rw [← hsingle, hline, words?_cons hsep hname]
  cases words? isSpace (front ++ p.text ++ back) <;> simp

theorem exportPythonPath_words_iff {root : Path} (hroot : '"' ∉ root.chars) :
    words? isSpace (exportPythonPath .unix root) = some ["export", "PYTHONPATH=" ++ root.text] ↔
      Solid isSpace root.text := by
  have h := export_words_iff hsep (by decide : IsPlain "PYTHONPATH=")
    (by decide : '"' ∉ "".toList) (fun c hc => absurd hc List.not_mem_nil) hroot
  rwa [String.append_empty, String.append_empty] at h

theorem prependPath_words_iff {dir : Path} (hdir : '"' ∉ dir.chars) :
    words? isSpace (prependPath .unix dir) = some ["export", "PATH=" ++ dir.text ++ ":$PATH"] ↔
      Solid isSpace dir.text :=
  export_words_iff hsep (by decide : IsPlain "PATH=") (by decide)
    (isWord_of_isPlain hsep (by decide : IsPlain ":$PATH")).solid hdir

theorem runScript_words_iff {python script : Path} (hpython : '"' ∉ python.chars)
    (hscript : '"' ∉ script.chars) :
    words? isSpace (runScript python script) = some [python.text, script.text] ↔
      python.text ≠ "" ∧ script.text ≠ "" := by
  rw [runScript_words hsep hpython hscript]
  by_cases hp : python.text = "" <;> by_cases hs : script.text = "" <;> simp [kept, hp, hs]

theorem runTestcase_words_iff {python : Path} (hpython : '"' ∉ python.chars) {dotted : String}
    (hdotted : '"' ∉ dotted.toList) :
    words? isSpace (runTestcase python dotted) =
        some [python.text, "manage.py", "runtest", dotted] ↔
      python.text ≠ "" ∧ dotted ≠ "" ∧ Solid isSpace dotted := by
  rw [runTestcase_words hsep hpython, ← words?_single_iff hdotted]
  by_cases hp : python.text = ""
  · cases words? isSpace dotted <;> simp [kept, hp]
  · cases words? isSpace dotted <;> simp [kept, hp]

/-- Every line for paths without double quotes, read with any white space. The path of an
environment is whole in its word, and both paths are when an environment is made. The empty path is
lost where words are quoted at need; behind both paths, the options of an index are read as they
are. What is put down without quotes is whole exactly if it has no white space, and for the name of
a test that comes from a file this is so exactly if no name below the root and not the name of the
class has any. -/
theorem words_of_lines {python root env dir requirements script file : Path}
    (hpython : '"' ∉ python.chars) (hroot : '"' ∉ root.chars) (henv : '"' ∉ env.chars)
    (hdir : '"' ∉ dir.chars) (hrequirements : '"' ∉ requirements.chars)
    (hscript : '"' ∉ script.chars) (hfile : '"' ∉ file.chars) :
    (words? isSpace (activate .unix env) = some ["source", (entrance env).text ++ ";"] ∧
      env.chars <+: (entrance env).chars) ∧
    words? isSpace (createVirtualenv python env) =
      some [python.text, "-m", "virtualenv", env.text, "--python=" ++ python.text] ∧
    (words? isSpace (runScript python script) = some [python.text, script.text] ↔
      python.text ≠ "" ∧ script.text ≠ "") ∧
    (python.text ≠ "" → requirements.text ≠ "" → ∀ index,
      words? isSpace (pipInstall python requirements index) =
        (words? isSpace ((index.map indexOptions).getD "")).map fun options =>
          [python.text, "-m", "pip", "install", "-r", requirements.text] ++ options) ∧
    (∀ index, IsWord isSpace index →
      (∀ host, Url.hostAndPort? index = some host → IsWord isSpace host) →
      words? isSpace (indexOptions index) = some (indexWords index)) ∧
    (words? isSpace (exportPythonPath .unix root) = some ["export", "PYTHONPATH=" ++ root.text] ↔
      Solid isSpace root.text) ∧
    (words? isSpace (prependPath .unix dir) = some ["export", "PATH=" ++ dir.text ++ ":$PATH"] ↔
      Solid isSpace dir.text) ∧
    (∀ dotted, '"' ∉ dotted.toList →
      (words? isSpace (runTestcase python dotted) =
          some [python.text, "manage.py", "runtest", dotted] ↔
        python.text ≠ "" ∧ dotted ≠ "" ∧ Solid isSpace dotted)) ∧
    (∀ className dotted, '"' ∉ className.toList →
      Dispatch.dottedPath? root file className = some dotted →
      dotted ≠ "" ∧ '"' ∉ dotted.toList ∧ ∃ below, root.below? file = some below ∧
        (Solid isSpace dotted ↔
          (∀ name ∈ Path.names below, Solid isSpace name) ∧ Solid isSpace className)) := by
  have hplain : ∀ {s : String}, IsPlain s → Solid isSpace s := fun h =>
    (isWord_of_isPlain hsep h).solid
  refine ⟨⟨activate_words hsep henv, isPrefix_entrance env⟩,
    createVirtualenv_words hsep hpython henv, runScript_words_iff hsep hpython hscript,
    fun hpne hrne index => ?_, fun index hindex hhost => indexOptions_words hsep hindex hhost,
    exportPythonPath_words_iff hsep hroot, prependPath_words_iff hsep hdir,
    fun dotted hdotted => runTestcase_words_iff hsep hpython hdotted,
    fun className dotted hclass hname => ?_⟩
  · rw [pipInstall_words hsep hpython hrequirements, kept_of_ne hpne, kept_of_ne hrne]
    rfl
  · exact ⟨Dispatch.dottedPath?_ne_empty hname,
      Dispatch.quote_not_mem_dottedPath? hname hfile hclass,
      Dispatch.forall_mem_dottedPath? (hplain (by decide : IsPlain ".") '.' List.mem_cons_self)
        (hplain (by decide)) hname⟩

end

/-- Lines for paths with spaces that are read as they should be. -/
theorem words_of_lines_spaced :
    words? Text.isBlank (activate .unix ⟨"/my env"⟩) = some ["source", "/my env/bin/activate;"] ∧
    words? Text.isBlank (createVirtualenv ⟨"/my bin/python"⟩ ⟨"/my env"⟩) =
      some ["/my bin/python", "-m", "virtualenv", "/my env", "--python=/my bin/python"] ∧
    words? Text.isBlank (runScript ⟨"/my bin/python"⟩ ⟨"/w/a b.py"⟩) =
      some ["/my bin/python", "/w/a b.py"] ∧
    words? Text.isBlank (pipInstall ⟨"/my bin/python"⟩ ⟨"/w/needed now"⟩ none) =
      some ["/my bin/python", "-m", "pip", "install", "-r", "/w/needed now"] ∧
    words? Text.isBlank (runTestcase ⟨"/my bin/python"⟩ "a.b.T") =
      some ["/my bin/python", "manage.py", "runtest", "a.b.T"] := by
  rcases words_of_lines separates_isBlank (by decide : '"' ∉ (⟨"/my bin/python"⟩ : Path).chars)
    (by decide : '"' ∉ (⟨"/w"⟩ : Path).chars) (by decide : '"' ∉ (⟨"/my env"⟩ : Path).chars)
    (by decide : '"' ∉ (⟨"/bin"⟩ : Path).chars) (by decide : '"' ∉ (⟨"/w/needed now"⟩ : Path).chars)
    (by decide : '"' ∉ (⟨"/w/a b.py"⟩ : Path).chars)
      (by decide : '"' ∉ (⟨"/w/a/b.py"⟩ : Path).chars)
    with ⟨⟨hactivate, -⟩, hcreate, hscript, hpip, -, -, -, htest, hname⟩
  have hdotted : Dispatch.dottedPath? ⟨"/w"⟩ ⟨"/w/a/b.py"⟩ "T" = some "a.b.T" := by decide
  rcases hname "T" "a.b.T" (by decide) hdotted with ⟨hne, hquote, -⟩
  exact ⟨hactivate, hcreate, hscript.2 (by decide), hpip (by decide) (by decide) none,
    (htest "a.b.T" hquote).2 ⟨by decide, hne,
      (isWord_of_isPlain separates_isBlank (by decide : IsPlain "a.b.T")).solid⟩⟩

/-- Lines for paths with a space that are cut there. -/
theorem words_cut_at_space :
    words? Text.isBlank (exportPythonPath .unix ⟨"/a b"⟩) = some ["export", "PYTHONPATH=/a", "b"] ∧
    words? Text.isBlank (prependPath .unix ⟨"/a b"⟩) = some ["export", "PATH=/a", "b:$PATH"] ∧
    Dispatch.dottedPath? ⟨"/w"⟩ ⟨"/w/a b/test_x.py"⟩ "T" = some "a b.test_x.T" ∧
    words? Text.isBlank (runTestcase ⟨"/bin/python"⟩ "a b.test_x.T") =
      some ["/bin/python", "manage.py", "runtest", "a", "b.test_x.T"] := by
  decide +kernel

end TerminalLine
end Testbench
