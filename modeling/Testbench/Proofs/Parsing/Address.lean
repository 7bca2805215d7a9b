import Testbench.Proofs.Files.Walk
import Testbench.Proofs.Parsing.Activity

/-!
# Address — one cache entry per file

The address of a file is the nearest folder with settings, as the path of the file spells it, and
the names below that folder. Two spellings without `..` have one address exactly when they are
spellings of one file. With `..` this fails both ways: a folder can be spelled in two ways, and the
key drops every step up.

- `LeavesRoom`            : spellings that do not come near the length limit;
- `nearest_of_cacheRoot?` : no folder nearer than the one that is found has settings;
- `components_cacheRoot?` : spellings of one file find one folder;
- `names_eq_of_key_eq`    : a key tells the names below the folder;
- `one_address_per_file`  : when two files have one address;
- `address_clash`         : what steps up lead to.
-/

namespace Testbench

open Testbench.Path (Above IsName IsStraight IsStep)
open FileTree (IsWalkable)

namespace Path

theorem size_of_chars {p q : Path} {rest : List Char} (h : p.chars = q.chars ++ rest) :
    p.size = q.size + (String.ofList rest).utf8ByteSize := by
  have htext : p.text = q.text ++ String.ofList rest := by
    refine String.toList_inj.1 ?_
    rw [String.toList_append, String.toList_ofList]
    exact h
  rw [size, htext, String.utf8ByteSize_append]
  rfl

/-- A name and a slash are all that joining adds. -/
theorem size_joinText_le {p : Path} (h : p.isAbsolute = true) {name : String}
    (hname : IsName name) :
    (p.joinText name).size ≤ p.size + ("/" ++ name).utf8ByteSize := by
  have hslash : ("/" ++ name).utf8ByteSize = ("/" : String).utf8ByteSize + name.utf8ByteSize :=
    String.utf8ByteSize_append
  rcases chars_joinText h hname with ⟨_, hjoined⟩ | hjoined
  · have hsize := size_of_chars hjoined
    rw [String.ofList_toList] at hsize
    omega
  · have hsize := size_of_chars hjoined
    have hwhole : String.ofList ('/' :: name.toList) = "/" ++ name := by
      refine String.toList_inj.1 ?_
      rw [String.toList_ofList, String.toList_append]
      rfl
    rw [hwhole] at hsize
    omega

end Path

namespace ProjectFiles

theorem isName_settingsDirName : IsName settingsDirName := by
  refine ⟨?_, ?_, ?_⟩ <;> decide

/-- A spelling to which the name of the settings can be added. -/
def LeavesRoom (file : Path) : Prop :=
  file.size + ("/" ++ settingsDirName).utf8ByteSize ≤ FileTree.pathLimit

instance (file : Path) : Decidable (LeavesRoom file) :=
  inferInstanceAs (Decidable (_ ≤ _))

/-- The settings of a folder above can be asked for. -/
theorem isWalkable_settings {q file : Path} {below : List Path.Component} (h : Above q file below)
    (hnul : '\x00' ∉ file.chars) (hroom : LeavesRoom file) :
    IsWalkable (q.joinText settingsDirName) := by
  have hjoined := Path.components_joinText h.absolute isName_settingsDirName
  refine ⟨hjoined.1, ?_, ?_⟩
  · intro hmem
    have hq : '\x00' ∉ q.chars := fun hin => hnul (h.spelled.subset hin)
    have hname : '\x00' ∉ settingsDirName.toList := by decide
    -- The joined text has the characters of the folder, of the name, and a slash.
    rcases Path.chars_joinText h.absolute isName_settingsDirName with ⟨_, hchars⟩ | hchars
    · rw [hchars] at hmem
      rcases List.mem_append.1 hmem with hin | hin
      · exact hq hin
      · exact hname hin
    · rw [hchars] at hmem
      rcases List.mem_append.1 hmem with hin | hin
      · exact hq hin
      · rcases List.mem_cons.1 hin with heq | hrest
        · exact absurd heq (by decide)
        · exact hname hrest
  · rcases h.spelled with ⟨rest, hrest⟩
    have hlonger := Path.size_of_chars hrest.symm
    have hjoin := Path.size_joinText_le h.absolute isName_settingsDirName
    have hfile : file.size + ("/" ++ settingsDirName).utf8ByteSize ≤ FileTree.pathLimit := hroom
    omega

/-! ## The nearest folder -/

section

variable {t : FileTree} {file root : Path}

theorem above_of_cacheRoot? (hfile : file.isAbsolute = true) (h : cacheRoot? t file = some root) :
    ∃ below, below ≠ [] ∧ Above root file below := by
  have hmem := (List.takeWhile_sublist _).subset (List.mem_of_find?_eq_some h)
  exact Path.above_of_mem_ancestors hfile hmem

theorem isDir_of_cacheRoot? (h : cacheRoot? t file = some root) :
    t.isDir (root.joinText settingsDirName) = true := by
  have hfound := List.find?_some h
  exact hfound

/-- The first folder with settings in a chain of folders. -/
def nearest? (t : FileTree) (folders : List Path) : Option Path :=
  (folders.takeWhile fun dir => dir.size > shortestCacheRoot).find? fun dir =>
    t.isDir (dir.joinText settingsDirName)

theorem nearest?_cons {p : Path} {rest : List Path} (h : nearest? t (p :: rest) = some root) :
    root = p ∨ t.isDir (p.joinText settingsDirName) = false ∧ nearest? t rest = some root := by
  rw [nearest?] at h
  by_cases hlong : p.size > shortestCacheRoot
  · rw [List.takeWhile_cons_of_pos (by simpa using hlong)] at h
    cases hdir : t.isDir (p.joinText settingsDirName) with
    | true =>
        rw [List.find?_cons_of_pos (by simpa using hdir)] at h
        exact Or.inl (Option.some.inj h).symm
    | false =>
        rw [List.find?_cons_of_neg (by simp [hdir])] at h
        exact Or.inr ⟨rfl, h⟩
  · rw [List.takeWhile_cons_of_neg (by simpa using hlong)] at h
    simp at h

theorem eq_of_isPrefix {cs ds : List Path.Component} (h : cs <+: ds) (h' : ds <+: cs) : cs = ds :=
  h.eq_of_length (Nat.le_antisymm h.length_le h'.length_le)

/-- Between the folder that is found and the start of the chain no folder has settings. -/
theorem nearest_of_chain {p : Path} (hp : p.isAbsolute = true) {count : Nat}
    (h : nearest? t (p.chain count) = some root) {front : List Path.Component}
    (hroot : root.components <+: front) (hne : front ≠ root.components)
    (hfront : front <+: p.components) :
    ∃ q below, Above q p below ∧ q.components = front ∧
      t.isDir (q.joinText settingsDirName) = false := by
  induction count generalizing p with
  | zero =>
      have hlast : nearest? t [p] = some root := h
      rcases nearest?_cons hlast with rfl | ⟨_, hrest⟩
      · exact absurd (eq_of_isPrefix hfront hroot) hne
      · simp [nearest?] at hrest
  | succ count ih =>
      rw [Path.chain] at h
      cases hparent : p.parent? with
      | none =>
          rw [hparent] at h
          rcases nearest?_cons h with rfl | ⟨_, hrest⟩
          · exact absurd (eq_of_isPrefix hfront hroot) hne
          · simp [nearest?] at hrest
      | some up =>
          rw [hparent] at h
          rcases nearest?_cons h with rfl | ⟨hdir, hrest⟩
          · exact absurd (eq_of_isPrefix hfront hroot) hne
          · rcases Path.above_parent? hp hparent with ⟨c, habove⟩
            -- Either the folder is `p` itself, which was passed over, or it is further up.
            by_cases hself : front = p.components
            · exact ⟨p, [], Path.Above.refl hp, hself.symm, hdir⟩
            · have hup : front <+: up.components := by
                rw [habove.components] at hfront hself
                rcases List.prefix_concat_iff.1 hfront with heq | hshorter
                · exact absurd heq hself
                · exact hshorter
              rcases ih habove.absolute hrest hup with ⟨q, below, hq, hcomponents, hnone⟩
              exact ⟨q, below ++ [c], hq.trans habove, hcomponents, hnone⟩

/-- No folder between a file and the folder of its cache has settings. -/
theorem nearest_of_cacheRoot? (hfile : file.isAbsolute = true)
    (h : cacheRoot? t file = some root) {front : List Path.Component}
    (hroot : root.components <+: front) (hne : front ≠ root.components)
    (hfront : front <+: file.components) (hproper : front ≠ file.components) :
    ∃ q below, Above q file below ∧ q.components = front ∧
      t.isDir (q.joinText settingsDirName) = false := by
  have hnearest : nearest? t (file.ancestors.drop 1) = some root := h
  rw [Path.drop_ancestors hfile] at hnearest
  cases hparent : file.parent? with
  | none => simp [hparent, nearest?] at hnearest
  | some up =>
      rw [hparent] at hnearest
      rcases Path.above_parent? hfile hparent with ⟨c, habove⟩
      have hup : front <+: up.components := by
        rw [habove.components] at hfront hproper
        rcases List.prefix_concat_iff.1 hfront with heq | hshorter
        · exact absurd heq hproper
        · exact hshorter
      rcases nearest_of_chain habove.absolute hnearest hroot hne hup with
        ⟨q, below, hq, hcomponents, hnone⟩
      exact ⟨q, below ++ [c], hq.trans habove, hcomponents, hnone⟩

end

/-! ## Two spellings of one file -/

/-- What is asked of the spelling of a file, apart from steps up. -/
structure IsPlainSpelling (file : Path) : Prop where
  absolute : file.isAbsolute = true
  noNul : '\x00' ∉ file.chars
  room : LeavesRoom file

section

variable {t : FileTree} (hplain : t.isLinkless = true) {f g rf rg : Path}
include hplain

/-- The folder of one spelling is not above the folder of another. -/
theorem not_above_cacheRoot? (hf : IsPlainSpelling f) (hg : IsPlainSpelling g)
    (hsame : f.components = g.components) (hrf : cacheRoot? t f = some rf)
    (hrg : cacheRoot? t g = some rg) (hwithin : rf.components <+: rg.components) :
    rf.components = rg.components := by
  -- Else the second folder lies between the first one and the file, so it was passed over.
  refine Classical.byContradiction fun hne => ?_
  rcases above_of_cacheRoot? hg.absolute hrg with ⟨below, hbelow, habove⟩
  have hfront : rg.components <+: f.components := by
    rw [hsame, habove.components]
    exact List.prefix_append _ _
  have hproper : rg.components ≠ f.components := by
    intro heq
    rw [hsame, habove.components] at heq
    exact hbelow (List.self_eq_append_right.1 heq)
  rcases nearest_of_cacheRoot? hf.absolute hrf hwithin (Ne.symm hne) hfront hproper with
    ⟨q, more, hq, hcomponents, hnone⟩
  -- The same directory is found for one spelling and not for the other.
  have hjoined : (q.joinText settingsDirName).components =
      (rg.joinText settingsDirName).components := by
    rw [(Path.components_joinText hq.absolute isName_settingsDirName).2,
      (Path.components_joinText habove.absolute isName_settingsDirName).2, hcomponents]
  have hdir := FileTree.isDir_congr hplain (isWalkable_settings hq hf.noNul hf.room)
    (isWalkable_settings habove hg.noNul hg.room) hjoined
  rw [hnone, isDir_of_cacheRoot? hrg] at hdir
  exact Bool.noConfusion hdir

/-- Spellings of one file find one folder. -/
theorem components_cacheRoot? (hf : IsPlainSpelling f) (hg : IsPlainSpelling g)
    (hsame : f.components = g.components) (hrf : cacheRoot? t f = some rf)
    (hrg : cacheRoot? t g = some rg) : rf.components = rg.components := by
  rcases above_of_cacheRoot? hf.absolute hrf with ⟨below, _, habove⟩
  rcases above_of_cacheRoot? hg.absolute hrg with ⟨below', _, habove'⟩
  have hwithin : rf.components <+: f.components := ⟨below, habove.components.symm⟩
  have hwithin' : rg.components <+: f.components := ⟨below', by rw [hsame, habove'.components]⟩
  -- Both are above the file, so one of them is above the other.
  rcases List.prefix_or_prefix_of_prefix hwithin hwithin' with hshorter | hlonger
  · exact not_above_cacheRoot? hplain hf hg hsame hrf hrg hshorter
  · exact (not_above_cacheRoot? hplain hg hf hsame.symm hrg hrf hlonger).symm

end

/-! ## Keys -/

theorem cacheKey?_of_above {root file : Path} {below : List Path.Component}
    (h : Above root file below) :
    cacheKey? root file = some ("/".intercalate (Path.names below)) := by
  rw [cacheKey?, Path.below?, h.components, afterStart?_append]
  rfl

theorem intercalate_eq_empty_iff {names : List String} (h : ∀ n ∈ names, IsName n) :
    "/".intercalate names = "" ↔ names = [] := by
  constructor
  · intro hempty
    cases names with
    | nil => rfl
    | cons name rest =>
        have hchars := toList_intercalate_eq (name :: rest)
        rw [hempty] at hchars
        have hname := (h name (List.mem_cons_self ..)).ne_nil
        cases rest with
        | nil => exact absurd hchars.symm (by simpa [Text.joinWith] using hname)
        | cons next more => simp [Text.joinWith] at hchars
  · rintro rfl
    rfl

/-- A key tells the names below the folder, however few. -/
theorem names_eq_of_key_eq {names names' : List String} (h : ∀ n ∈ names, IsName n)
    (h' : ∀ n ∈ names', IsName n) (heq : "/".intercalate names = "/".intercalate names') :
    names = names' := by
  -- No name and one name that is empty would have one key, but names are not empty.
  by_cases hnames : names = []
  · have hempty := (intercalate_eq_empty_iff h).2 hnames
    rw [heq] at hempty
    rw [hnames, (intercalate_eq_empty_iff h').1 hempty]
  · have hne : names' ≠ [] := by
      intro hempty
      have hkey := (intercalate_eq_empty_iff h').2 hempty
      rw [← heq] at hkey
      exact hnames ((intercalate_eq_empty_iff h).1 hkey)
    exact intercalate_injective hnames hne h h' heq

end ProjectFiles

namespace Parsing

open ProjectFiles (IsPlainSpelling LeavesRoom settingsDirName cacheRoot? cacheKey?)
open Activity (IsAddressIn)

/-! ## Addresses -/

theorem isFile_of_address? {t : FileTree} {file root : Path} {key : String}
    (h : address? t file = some (root, key)) : t.isFile file = true := by
  refine Classical.byContradiction fun hfile => ?_
  have hnone : t.isFile file = false := Bool.eq_false_iff.2 hfile
  simp [address?, hnone] at h

theorem location?_of_isFile {t : FileTree} {file : Path} (h : t.isFile file = true) :
    '\x00' ∉ file.chars ∧ ∃ here, t.location? file = some here := by
  rw [FileTree.isFile, FileTree.stat] at h
  cases hw : t.walk true file with
  | error cause => simp [hw, bind, Except.bind] at h
  | ok place =>
      refine ⟨?_, ?_⟩
      · intro hnul
        have hcontains : file.chars.contains '\x00' = true := by simpa using hnul
        rw [FileTree.walk, hcontains, if_pos rfl] at hw
        simp at hw
      · cases place with
        | free dir name slashed => simp [hw, bind, Except.bind] at h
        | found here node => exact ⟨here, by rw [FileTree.location?, hw]⟩

theorem location?_of_isDir {t : FileTree} {p : Path} (h : t.isDir p = true) :
    ∃ here, t.location? p = some here := by
  rw [FileTree.isDir, FileTree.stat] at h
  cases hw : t.walk true p with
  | error cause => simp [hw, bind, Except.bind] at h
  | ok place =>
      cases place with
      | free dir name slashed => simp [hw, bind, Except.bind] at h
      | found here node => exact ⟨here, by rw [FileTree.location?, hw]⟩

/-- Two folders have their settings in one place when they are spellings of one folder. -/
theorem same_iff_location?_settings {t : FileTree} (hplain : t.isLinkless = true) {p q : Path}
    (hp : p.IsStraight) (hq : q.IsStraight) (hdir : t.isDir (p.joinText settingsDirName) = true)
    (hdir' : t.isDir (q.joinText settingsDirName) = true) :
    p.same q = true ↔
      t.location? (p.joinText settingsDirName) = t.location? (q.joinText settingsDirName) := by
  have hname := ProjectFiles.isName_settingsDirName
  rcases Path.components_joinText hp.absolute hname with ⟨habsolute, hcomponents⟩
  rcases Path.components_joinText hq.absolute hname with ⟨habsolute', hcomponents'⟩
  rcases location?_of_isDir hdir with ⟨here, hhere⟩
  rcases location?_of_isDir hdir' with ⟨there, hthere⟩
  have hstraight : (p.joinText settingsDirName).IsStraight :=
    ⟨habsolute, by simp [hcomponents, hp.noUp]⟩
  have hstraight' : (q.joinText settingsDirName).IsStraight :=
    ⟨habsolute', by simp [hcomponents', hq.noUp]⟩
  calc
    p.same q = true ↔ p.components = q.components := Path.same_iff
    _ ↔ (p.joinText settingsDirName).components = (q.joinText settingsDirName).components := by
      rw [hcomponents, hcomponents', List.append_left_inj]
    _ ↔ (p.joinText settingsDirName).fold = (q.joinText settingsDirName).fold :=
      (Path.fold_eq_iff hstraight hstraight').symm
    _ ↔ _ := FileTree.fold_eq_iff_location? hplain habsolute habsolute' hhere hthere

section

variable {t : FileTree} {f g rf rg : Path} {kf kg : String}

/-- One address is one folder and the same names below it. -/
theorem address_eq_iff (hf : f.isAbsolute = true) (hg : g.isAbsolute = true)
    (haf : address? t f = some (rf, kf)) (hag : address? t g = some (rg, kg)) :
    ∃ below below', Above rf f below ∧ Above rg g below' ∧
      (rf.same rg = true ∧ kf = kg ↔
        rf.components = rg.components ∧ Path.names below = Path.names below') := by
  have hin := Activity.isAddressIn_of_address? haf
  have hin' := Activity.isAddressIn_of_address? hag
  rcases ProjectFiles.above_of_cacheRoot? hf hin.1 with ⟨below, _, habove⟩
  rcases ProjectFiles.above_of_cacheRoot? hg hin'.1 with ⟨below', _, habove'⟩
  refine ⟨below, below', habove, habove', ?_⟩
  have hkey : "/".intercalate (Path.names below) = kf :=
    Option.some.inj ((ProjectFiles.cacheKey?_of_above habove).symm.trans hin.2)
  have hkey' : "/".intercalate (Path.names below') = kg :=
    Option.some.inj ((ProjectFiles.cacheKey?_of_above habove').symm.trans hin'.2)
  rw [Path.same_iff, ← hkey, ← hkey']
  refine and_congr_right fun _ => ⟨?_, fun heq => by rw [heq]⟩
  exact ProjectFiles.names_eq_of_key_eq
    (fun n hn => Path.isName_of_mem_names (fun c hc => habove.isStep hc) hn)
    (fun n hn => Path.isName_of_mem_names (fun c hc => habove'.isStep hc) hn)

/-- In a tree without links, two spellings without `..` have one address exactly when they fold to
one path, which is when they lead to one file; and their folders keep their caches in one place
exactly when they are one folder of the cache. -/
theorem one_address_per_file (hplain : t.isLinkless = true) (hf : f.IsStraight) (hg : g.IsStraight)
    (hroom : LeavesRoom f) (hroom' : LeavesRoom g) (haf : address? t f = some (rf, kf))
    (hag : address? t g = some (rg, kg)) :
    (rf.same rg = true ∧ kf = kg ↔ f.fold = g.fold) ∧
      (f.fold = g.fold ↔ t.location? f = t.location? g) ∧
      (rf.same rg = true ↔
        t.location? (rf.joinText settingsDirName) = t.location? (rg.joinText settingsDirName)) := by
  have hin := Activity.isAddressIn_of_address? haf
  have hin' := Activity.isAddressIn_of_address? hag
  rcases location?_of_isFile (isFile_of_address? haf) with ⟨hnul, here, hhere⟩
  rcases location?_of_isFile (isFile_of_address? hag) with ⟨hnul', there, hthere⟩
  rcases address_eq_iff hf.absolute hg.absolute haf hag with
    ⟨below, below', habove, habove', haddress⟩
  refine ⟨?_, FileTree.fold_eq_iff_location? hplain hf.absolute hg.absolute hhere hthere, ?_⟩
  · rw [haddress, Path.fold_eq_iff hf hg]
    constructor
    · rintro ⟨hroots, hnames⟩
      rw [habove.components, habove'.components, hroots, habove.eq_map_names hf,
        habove'.eq_map_names hg, hnames]
    · intro hsame
      -- Spellings of one file find one folder, and what is left of them is the same too.
      have hroots := ProjectFiles.components_cacheRoot? hplain ⟨hf.absolute, hnul, hroom⟩
        ⟨hg.absolute, hnul', hroom'⟩ hsame hin.1 hin'.1
      rw [habove.components, habove'.components, hroots, List.append_cancel_left_eq] at hsame
      exact ⟨hroots, by rw [hsame]⟩
  · exact same_iff_location?_settings hplain (habove.isStraight hf) (habove'.isStraight hg)
      (ProjectFiles.isDir_of_cacheRoot? hin.1) (ProjectFiles.isDir_of_cacheRoot? hin'.1)

end

/-! ## Two folders -/

/-- A folder with settings, and one beside it without; each has a file `q/a.py`, seen from the
folder or from the root. -/
def sites : FileTree where
  cwd := ⟨"/"⟩
  now := 0
  nodes := [(["site"], .dir), (["site", ".vscode"], .dir), (["site", "q"], .dir),
    (["site", "q", "a.py"], .file ⟨"x = 1\n".toUTF8, false, false, 7000000⟩), (["q"], .dir),
    (["q", "a.py"], .file ⟨"y = 2\n".toUTF8, false, false, 7000000⟩)]

/-- A slash too many and a `.` make no difference. -/
theorem one_address_per_file_sites :
    let f : Path := ⟨"/site//./q/a.py"⟩
    let g : Path := ⟨"/site/q/a.py"⟩
    (sites.isLinkless = true ∧ f.IsStraight ∧ g.IsStraight ∧ LeavesRoom f ∧ LeavesRoom g) ∧
      address? sites f = some (⟨"/site"⟩, "q/a.py") ∧
      address? sites g = some (⟨"/site"⟩, "q/a.py") ∧ f ≠ g ∧ f.fold = g.fold := by
  have hf : (⟨"/site//./q/a.py"⟩ : Path).IsStraight := ⟨by decide, by decide⟩
  have hg : (⟨"/site/q/a.py"⟩ : Path).IsStraight := ⟨by decide, by decide⟩
  have hplain : sites.isLinkless = true := by decide
  have hroom : LeavesRoom ⟨"/site//./q/a.py"⟩ := by decide
  have hroom' : LeavesRoom ⟨"/site/q/a.py"⟩ := by decide
  have haf : address? sites ⟨"/site//./q/a.py"⟩ = some (⟨"/site"⟩, "q/a.py") := by decide +kernel
  have hag : address? sites ⟨"/site/q/a.py"⟩ = some (⟨"/site"⟩, "q/a.py") := by decide +kernel
  refine ⟨⟨hplain, hf, hg, hroom, hroom'⟩, haf, hag, by decide, ?_⟩
  exact (one_address_per_file hplain hf hg hroom hroom' haf hag).1.1 ⟨Path.same_refl _, rfl⟩

/-- Two files with one address, as the key drops the step up; and one file with two addresses, as
the step up stays in the spelling of the folder. -/
theorem address_clash :
    sites.isLinkless = true ∧
    (address? sites ⟨"/site/q/a.py"⟩ = some (⟨"/site"⟩, "q/a.py") ∧
      address? sites ⟨"/site/../q/a.py"⟩ = some (⟨"/site"⟩, "q/a.py") ∧
      (⟨"/site/q/a.py"⟩ : Path).fold ≠ (⟨"/site/../q/a.py"⟩ : Path).fold) ∧
    (address? sites ⟨"/q/../site/q/a.py"⟩ = some (⟨"/q/../site"⟩, "q/a.py") ∧
      (⟨"/q/../site"⟩ : Path).same ⟨"/site"⟩ = false ∧
      (⟨"/q/../site/q/a.py"⟩ : Path).fold = (⟨"/site/q/a.py"⟩ : Path).fold) := by
  refine ⟨by decide, ⟨?_, ?_, ?_⟩, ?_, ?_, ?_⟩ <;> decide +kernel

end Parsing
end Testbench
