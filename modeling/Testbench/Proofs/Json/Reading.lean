import Testbench.Json.Printer
import Testbench.Proofs.Json.Shape

/-!
# Reading — what is read from a printed value

The compact text of a value is read back as the arranged value, if all its numbers are integers of
64 bits and it nests no deeper than a reader goes.

- `readText_printText`    : texts with their escapes;
- `readNumeral?_append`   : numerals;
- `readDraft_compact`     : whole values, by recursion on the value;
- `read?_compact`         : the text as a whole.
-/

namespace Testbench
namespace Json
namespace Draft

/-! ## Texts -/

/-- The piece that an escaped character is read as. -/
def pieceOf (c : Char) : Piece :=
  if c == '"' || c == '\\' || c == '\n' || c == '\r' || c == '\t' || c == '\x08' || c == '\x0c' then
    .char c
  else if c.toNat < 0x20 then .unit c.toNat
  else .char c

theorem hexValue?_hexDigit {n : Nat} (h : n < 16) : hexValue? (hexDigit n) = some n := by
  have hall : ∀ k : Fin 16, hexValue? (hexDigit k.1) = some k.1 := by decide
  exact hall ⟨n, h⟩

theorem readHex?_control {n : Nat} (h : n < 0x20) (rest : List Char) :
    readHex? ('0' :: '0' :: hexDigit (n / 16) :: hexDigit (n % 16) :: rest) = some (n, rest) := by
  have hzero : hexValue? '0' = some 0 := by decide
  have hhigh : hexValue? (hexDigit (n / 16)) = some (n / 16) := hexValue?_hexDigit (by omega)
  have hlow : hexValue? (hexDigit (n % 16)) = some (n % 16) := hexValue?_hexDigit (by omega)
  have hsum : n / 16 * 16 + n % 16 = n := by omega
  simp [readHex?, hzero, hhigh, hlow, hsum]

/-- The characters that are escaped by a letter or by themselves. -/
def named : List Char := ['"', '\\', '\n', '\r', '\t', '\x08', '\x0c']

theorem readPieces_escape (c : Char) (fuel : Nat) (tail : List Char) :
    readPieces (fuel + 1) (escape c ++ tail) =
      (readPieces fuel tail).map fun (pieces, rest) => (pieceOf c :: pieces, rest) := by
  have hbind : ∀ (x : Option (List Piece × List Char)) (p : Piece),
      (x.bind fun (pieces, rest) => some (p :: pieces, rest)) =
        x.map fun (pieces, rest) => (p :: pieces, rest) := by
    intro x p
    cases x <;> rfl
  by_cases hnamed : c ∈ named
  · simp only [named, List.mem_cons, List.not_mem_nil, or_false] at hnamed
    rcases hnamed with rfl | rfl | rfl | rfl | rfl | rfl | rfl <;>
      simp [escape, readPieces, pieceOf, plainEscape?, hbind]
  · simp only [named, List.mem_cons, List.not_mem_nil, or_false, not_or] at hnamed
    rcases hnamed with ⟨hq, hb, hn, hr, ht, h8, hc⟩
    -- Another control character is escaped by its number, and all others are left.
    by_cases hctl : c.toNat < 0x20
    · simp [escape, readPieces, pieceOf, hq, hb, hn, hr, ht, h8, hc, hctl, readHex?_control hctl,
        hbind]
    · simp [escape, readPieces, pieceOf, hq, hb, hn, hr, ht, h8, hc, hctl, hbind]

theorem readPieces_flatMap_escape (cs : List Char) (fuel : Nat) (h : cs.length < fuel)
    (rest : List Char) :
    readPieces fuel (cs.flatMap escape ++ '"' :: rest) = some (cs.map pieceOf, rest) := by
  induction cs generalizing fuel with
  | nil =>
      rcases fuel with _ | fuel
      · simp at h
      · simp [readPieces]
  | cons c cs ih =>
      rcases fuel with _ | fuel
      · simp at h
      · have hlen : cs.length < fuel := by simpa using h
        rw [List.flatMap_cons, List.append_assoc, readPieces_escape, ih fuel hlen]
        simp

/-- The piece of a character is joined to what follows, whatever that is. -/
theorem joinPieces?_pieceOf (c : Char) (ps : List Piece) :
    joinPieces? (pieceOf c :: ps) = (joinPieces? ps).map (c :: ·) := by
  unfold pieceOf
  split
  · simp [joinPieces?]
  · split
    · rename_i hctl
      have hhigh : isHighSurrogate c.toNat = false := by
        simp [isHighSurrogate]
        omega
      have hlow : isLowSurrogate c.toNat = false := by
        simp [isLowSurrogate]
        omega
      -- A unit is looked at together with a unit that follows it.
      rcases ps with _ | ⟨p, ps⟩
      · simp [joinPieces?, hhigh, hlow, Char.ofNat_toNat]
      · cases p <;> simp [joinPieces?, hhigh, hlow, Char.ofNat_toNat]
    · simp [joinPieces?]

theorem joinPieces?_map_pieceOf (cs : List Char) : joinPieces? (cs.map pieceOf) = some cs := by
  induction cs with
  | nil => rfl
  | cons c cs ih => rw [List.map_cons, joinPieces?_pieceOf, ih]; rfl

theorem length_escape_pos (c : Char) : 1 ≤ (escape c).length := by
  unfold escape
  repeat' split
  all_goals simp

/-- Escaping makes no text shorter. -/
theorem length_le_flatMap_escape (cs : List Char) : cs.length ≤ (cs.flatMap escape).length := by
  induction cs with
  | nil => simp
  | cons c cs ih =>
      have hc := length_escape_pos c
      simp only [List.flatMap_cons, List.length_append, List.length_cons]
      omega

theorem readText_flatMap_escape (s : String) (rest : List Char) :
    readText (s.toList.flatMap escape ++ '"' :: rest) = some (some s, rest) := by
  have hlen : s.toList.length < (s.toList.flatMap escape ++ '"' :: rest).length + 1 := by
    have h := length_le_flatMap_escape s.toList
    simp only [List.length_append, List.length_cons]
    omega
  rw [readText, readPieces_flatMap_escape s.toList _ hlen rest]
  simp [joinPieces?_map_pieceOf]

/-! ## Numerals -/

/-- No digit comes next. -/
def NoDigit (rest : List Char) : Prop := ∀ c tail, rest = c :: tail → c.isDigit = false

/-- Nothing comes next that would go on with a number. -/
def Severs (rest : List Char) : Prop :=
  ∀ c tail, rest = c :: tail → c.isDigit = false ∧ c ≠ '.' ∧ c ≠ 'e' ∧ c ≠ 'E'

theorem severs_nil : Severs [] := by simp [Severs]

theorem severs_cons {c : Char} (h : c.isDigit = false ∧ c ≠ '.' ∧ c ≠ 'e' ∧ c ≠ 'E')
    (tail : List Char) : Severs (c :: tail) := by
  intro d ds heq
  rw [← (List.cons.inj heq).1]
  exact h

theorem noDigit_cons {c : Char} (h : c.isDigit = false) (tail : List Char) :
    NoDigit (c :: tail) := by
  intro d ds heq
  rw [← (List.cons.inj heq).1]
  exact h

theorem Severs.noDigit {rest : List Char} (h : Severs rest) : NoDigit rest :=
  fun c tail heq => (h c tail heq).1

/-- At least one digit, and nothing else. -/
def AreDigits (digits : List Char) : Prop := digits ≠ [] ∧ ∀ c ∈ digits, c.isDigit = true

theorem areDigits_toDigits (n : Nat) : AreDigits (Nat.toDigits 10 n) :=
  ⟨Nat.toDigits_ne_nil, fun _ hc => Nat.isDigit_of_mem_toDigits (by decide) (by decide) hc⟩

section

variable {digits rest : List Char}

theorem takeDigits_append (hd : ∀ c ∈ digits, c.isDigit = true) (hr : NoDigit rest) :
    takeDigits (digits ++ rest) = (digits, rest) := by
  have htake : rest.takeWhile Char.isDigit = [] ∧ rest.dropWhile Char.isDigit = rest := by
    cases rest with
    | nil => simp
    | cons c tail => simp [hr c tail rfl]
  rw [takeDigits, List.takeWhile_append_of_pos hd, List.dropWhile_append_of_pos hd, htake.1,
    htake.2, List.append_nil]

theorem readDigits?_append (hd : AreDigits digits) (hr : NoDigit rest) :
    readDigits? (digits ++ rest) = some (digits, rest) := by
  rw [readDigits?, takeDigits_append hd.2 hr]
  cases digits with
  | nil => exact absurd rfl hd.1
  | cons d ds => rfl

/-- A zero in front stands alone. -/
def IsWholePart (digits : List Char) : Prop :=
  AreDigits digits ∧ (digits = ['0'] ∨ digits.head? ≠ some '0')

theorem readWhole?_append (hd : IsWholePart digits) (hr : NoDigit rest) :
    readWhole? (digits ++ rest) = some (digits, rest) := by
  rw [readWhole?, readDigits?_append hd.1 hr]
  rcases hd.2 with rfl | hhead
  · rfl
  · cases digits with
    | nil => exact absurd rfl hd.1.1
    | cons d ds =>
        have hne : d ≠ '0' := by simpa using hhead
        split
        · rename_i heq
          simp at heq
          exact absurd heq.1.1 hne
        · rfl

end

theorem head_toDigits_ne_zero (n : Nat) (h : 0 < n) : (Nat.toDigits 10 n).head? ≠ some '0' := by
  induction n using Nat.strongRecOn with
  | _ n ih =>
      by_cases hlt : n < 10
      · rw [Nat.toDigits_of_lt_base hlt]
        have hall : ∀ k : Fin 10, 0 < k.1 → k.1.digitChar ≠ '0' := by decide
        simpa using hall ⟨n, hlt⟩ h
      · have hbase : 10 ≤ n := by omega
        rw [Nat.toDigits_of_base_le (by decide) hbase, List.head?_append_of_ne_nil _
          Nat.toDigits_ne_nil]
        exact ih (n / 10) (by omega) (by omega)

theorem isWholePart_toDigits (n : Nat) : IsWholePart (Nat.toDigits 10 n) := by
  refine ⟨areDigits_toDigits n, ?_⟩
  rcases Nat.eq_zero_or_pos n with rfl | hpos
  · exact Or.inl (Nat.toDigits_zero 10)
  · exact Or.inr (head_toDigits_ne_zero n hpos)

/-- The text of a fraction. -/
def fractionChars : Option (List Char) → List Char
  | none => []
  | some digits => '.' :: digits

/-- The text of an exponent, with its sign. -/
def exponentChars : Option (Bool × List Char) → List Char
  | none => []
  | some (down, digits) => 'e' :: (if down then '-' else '+') :: digits

/-- The text of a numeral. -/
def numeralChars (n : Numeral) : List Char :=
  (if n.negative then ['-'] else []) ++
    (n.whole ++ (fractionChars n.fraction ++ exponentChars n.exponent))

/-- All parts have their digits. -/
structure IsProper (n : Numeral) : Prop where
  whole : IsWholePart n.whole
  fraction : ∀ digits, n.fraction = some digits → AreDigits digits
  exponent : ∀ down digits, n.exponent = some (down, digits) → AreDigits digits

section

variable {n : Numeral} {rest : List Char}

theorem readExponent?_append (h : IsProper n) (hr : Severs rest) :
    readExponent? (exponentChars n.exponent ++ rest) = some (n.exponent, rest) := by
  cases hexponent : n.exponent with
  | none =>
      rw [exponentChars, List.nil_append]
      cases rest with
      | nil => rfl
      | cons c tail =>
          rcases hr c tail rfl with ⟨-, -, he, hE⟩
          simp [readExponent?, he, hE]
  | some part =>
      rcases part with ⟨down, digits⟩
      have hread := readDigits?_append (h.exponent down digits hexponent) hr.noDigit
      cases down <;> simp [exponentChars, readExponent?, hread]

theorem readFraction?_append (h : IsProper n) (hr : Severs rest) :
    readFraction? (fractionChars n.fraction ++ (exponentChars n.exponent ++ rest)) =
      some (n.fraction, exponentChars n.exponent ++ rest) := by
  -- Without a fraction the reader stops at the exponent, or at what severs the number.
  cases hfraction : n.fraction with
  | none =>
      rw [fractionChars, List.nil_append]
      cases hexponent : n.exponent with
      | none =>
          rw [exponentChars, List.nil_append]
          cases rest with
          | nil => rfl
          | cons c tail =>
              rcases hr c tail rfl with ⟨-, hdot, -⟩
              unfold readFraction?
              split
              · rename_i heq
                exact absurd (List.cons.inj heq).1 hdot
              · rfl
      | some part => rfl
  | some digits =>
      have hnext : NoDigit (exponentChars n.exponent ++ rest) := by
        cases hexponent : n.exponent with
        | none => exact hr.noDigit
        | some part => exact noDigit_cons (by decide) _
      simp [fractionChars, readFraction?, readDigits?_append (h.fraction digits hfraction) hnext]

/-- A numeral that is followed by something else is read back. -/
theorem readNumeral?_append (h : IsProper n) (hr : Severs rest) :
    readNumeral? (numeralChars n ++ rest) = some (n, rest) := by
  have hnext : NoDigit (fractionChars n.fraction ++ (exponentChars n.exponent ++ rest)) := by
    cases hfraction : n.fraction with
    | none =>
        cases hexponent : n.exponent with
        | none => exact hr.noDigit
        | some part => exact noDigit_cons (by decide) _
    | some digits => exact noDigit_cons (by decide) _
  have hwhole := readWhole?_append h.whole hnext
  rcases n with ⟨negative, whole, fraction, exponent⟩
  cases negative with
  | true =>
      simp only [numeralChars, if_true, List.append_assoc, List.cons_append, List.nil_append]
      simp [readNumeral?, hwhole, readFraction?_append h hr, readExponent?_append h hr]
  | false =>
      simp only [numeralChars, Bool.false_eq_true, if_false, List.append_assoc, List.nil_append]
      -- The first digit is no sign.
      have hminus : ∀ tail, whole ++ (fractionChars fraction ++ (exponentChars exponent ++ rest)) ≠
          '-' :: tail := by
        intro tail heq
        cases hd : whole with
        | nil => exact h.whole.1.1 hd
        | cons d ds =>
            have hdigit : d.isDigit = true := h.whole.1.2 d (by simp [hd])
            rw [hd] at heq
            have hd' : d = '-' := by simpa using (List.cons.inj heq).1
            simp [hd'] at hdigit
      unfold readNumeral?
      split
      rename_i negative cs hcs
      have hsame : negative = false ∧
          cs = whole ++ (fractionChars fraction ++ (exponentChars exponent ++ rest)) := by
        split at hcs
        · rename_i tail heq
          exact absurd heq (hminus tail)
        · simpa [eq_comm] using hcs
      rw [hsame.1, hsame.2]
      simp [hwhole, readFraction?_append h hr, readExponent?_append h hr]

end

/-- The numeral of an integer. -/
def numeralOf (i : Int) : Numeral := ⟨decide (i < 0), Nat.toDigits 10 i.natAbs, none, none⟩

theorem isProper_numeralOf (i : Int) : IsProper (numeralOf i) :=
  ⟨isWholePart_toDigits i.natAbs, by simp [numeralOf], by simp [numeralOf]⟩

theorem numeralChars_numeralOf (i : Int) : numeralChars (numeralOf i) = printInt i := by
  by_cases hneg : i < 0 <;>
    simp [numeralChars, numeralOf, printInt, fractionChars, exponentChars, hneg]

end Draft

namespace Numeral

theorem le_ofDigitChars (cs : List Char) (acc : Nat) : acc ≤ Nat.ofDigitChars 10 cs acc := by
  induction cs generalizing acc with
  | nil => simp
  | cons c cs ih =>
      rw [Nat.ofDigitChars_cons]
      exact Nat.le_trans (by omega) (ih _)

/-- Digits whose value stays within the limit are all taken. -/
theorem accumulate_eq (limit : Nat) (cs : List Char) (acc : Nat)
    (h : Nat.ofDigitChars 10 cs acc ≤ limit) :
    accumulate limit acc cs = (Nat.ofDigitChars 10 cs acc, []) := by
  induction cs generalizing acc with
  | nil => simp [accumulate]
  | cons c cs ih =>
      have hnext : acc * 10 + Text.digitValue c = 10 * acc + (c.toNat - '0'.toNat) := by
        rw [Nat.mul_comm, Text.digitValue]
      rw [Nat.ofDigitChars_cons] at h ⊢
      have hle := le_ofDigitChars cs (10 * acc + (c.toNat - '0'.toNat))
      have hlimit : ¬ 10 * acc + (c.toNat - '0'.toNat) > limit := by omega
      rw [accumulate, hnext, if_neg hlimit]
      exact ih _ h

theorem value?_numeralOf {i : Int} (h : (Number.int i).IsWord) :
    (Draft.numeralOf i).value? = some (.int i) := by
  rcases h with ⟨hlow, hhigh⟩
  have hmax : i.natAbs ≤ significandMax := by
    have : significandMax = 2 ^ 64 - 1 := by decide
    omega
  -- An integer of 64 bits is read digit by digit, with none left over.
  have haccumulate : accumulate significandMax 0 (Nat.toDigits 10 i.natAbs) = (i.natAbs, []) := by
    rw [accumulate_eq]
    · simp
    · simpa using hmax
  simp only [value?, Draft.numeralOf, haccumulate]
  by_cases hneg : i < 0
  · have hone : 1 ≤ i.natAbs := by omega
    have hbound : i.natAbs ≤ Nat.pow 2 63 := by
      have : Nat.pow 2 63 = 2 ^ 63 := rfl
      omega
    have habs : -(i.natAbs : Int) = i := by omega
    simp only [List.isEmpty_nil, Option.isNone_none, Bool.and_self, if_true, integer?, hneg,
      decide_true, Bool.not_true, Bool.false_eq_true, if_false, hone, hbound, habs]
  · have habs : (i.natAbs : Int) = i := by omega
    simp only [List.isEmpty_nil, Option.isNone_none, Bool.and_self, if_true, integer?, hneg,
      decide_false, Bool.not_false, habs]

end Numeral
namespace Draft

/-! ## Values -/

/-- The draft has the arranged value wherever a reader may nest deep enough for it. -/
def Spells (d : Draft) (j : Json) : Prop :=
  ∀ levels, d.value? levels = if j.depth ≤ levels then some j.arrange else none

def SpellsItems (ds : List Draft) (items : List Json) : Prop :=
  ∀ levels, itemValues? levels ds =
    if depthItems items ≤ levels then some (arrangeItems items) else none

def SpellsFields (ds : List (Option String × Draft)) (fields : List (String × Json)) : Prop :=
  ∀ levels, fieldValues? levels ds =
    if depthFields fields ≤ levels then some (arrangeFields fields) else none

theorem spells_array {ds : List Draft} {items : List Json} (h : SpellsItems ds items) :
    Spells (.array ds) (.array items) := by
  intro levels
  rcases levels with _ | levels
  · simp [value?, depth]
  · rw [value?, h levels]
    by_cases hd : depthItems items ≤ levels <;> simp [depth, arrange, hd]

theorem spells_object {ds : List (Option String × Draft)} {fields : List (String × Json)}
    (h : SpellsFields ds fields) : Spells (.object ds) (.object fields) := by
  intro levels
  rcases levels with _ | levels
  · simp [value?, depth]
  · rw [value?, h levels]
    by_cases hd : depthFields fields ≤ levels <;> simp [depth, arrange, hd]

theorem spells_null : Spells .null .null := fun levels => by simp [value?, depth, arrange]

theorem spells_bool (b : Bool) : Spells (.bool b) (.bool b) :=
  fun levels => by simp [value?, depth, arrange]

theorem spells_text (s : String) : Spells (.text (some s)) (.text s) :=
  fun levels => by simp [value?, depth, arrange]

theorem spellsItems_nil : SpellsItems [] [] := by
  intro levels
  simp [itemValues?, depthItems, arrangeItems]

theorem spellsItems_cons {d : Draft} {j : Json} {ds : List Draft} {items : List Json}
    (h : Spells d j) (hrest : SpellsItems ds items) : SpellsItems (d :: ds) (j :: items) := by
  intro levels
  rw [itemValues?, h levels, hrest levels]
  by_cases hj : j.depth ≤ levels <;> by_cases hi : depthItems items ≤ levels <;>
    simp [depthItems, arrangeItems, hj, hi]

theorem spellsFields_nil : SpellsFields [] [] := by
  intro levels
  simp [fieldValues?, depthFields, arrangeFields]

theorem spellsFields_cons {d : Draft} {key : String} {j : Json}
    {ds : List (Option String × Draft)} {fields : List (String × Json)} (h : Spells d j)
    (hrest : SpellsFields ds fields) : SpellsFields ((some key, d) :: ds) ((key, j) :: fields) := by
  intro levels
  rw [fieldValues?, h levels, hrest levels]
  by_cases hj : j.depth ≤ levels <;> by_cases hi : depthFields fields ≤ levels <;>
    simp [depthFields, arrangeFields, hj, hi]

/-- A printed value starts with a character that no reader passes over. -/
def Opens (cs : List Char) : Prop :=
  ∃ c tail, cs = c :: tail ∧ isSpace c = false ∧ c ≠ ']' ∧ c ≠ '\x7d'

theorem Opens.append {cs : List Char} (h : Opens cs) (rest : List Char) : Opens (cs ++ rest) := by
  rcases h with ⟨c, tail, rfl, hc⟩
  exact ⟨c, tail ++ rest, rfl, hc⟩

theorem Opens.skipSpace {cs : List Char} (h : Opens cs) : skipSpace cs = cs := by
  rcases h with ⟨c, tail, rfl, hc, _⟩
  simp [Draft.skipSpace, hc]

theorem Opens.length_pos {cs : List Char} (h : Opens cs) : 0 < cs.length := by
  rcases h with ⟨c, tail, rfl, _⟩
  simp

/-- A numeral starts with its sign or with a digit. -/
theorem numeralChars_eq_cons {n : Numeral} (h : IsProper n) :
    ∃ c tail, numeralChars n = c :: tail ∧ (c = '-' ∨ c.isDigit = true) := by
  rcases n with ⟨negative, whole, fraction, exponent⟩
  cases negative with
  | true => exact ⟨'-', _, rfl, Or.inl rfl⟩
  | false =>
      cases hd : whole with
      | nil => exact absurd hd h.whole.1.1
      | cons d ds => exact ⟨d, _, rfl, Or.inr (h.whole.1.2 d (by simp [hd]))⟩

theorem ne_of_isDigit {c x : Char} (hc : c = '-' ∨ c.isDigit = true) (hx : x ≠ '-')
    (hdigit : x.isDigit = false) : c ≠ x := by
  rintro rfl
  rcases hc with hc | hc
  · exact hx hc
  · rw [hdigit] at hc
    exact absurd hc (by decide)

theorem opens_numeralChars {n : Numeral} (h : IsProper n) : Opens (numeralChars n) := by
  rcases numeralChars_eq_cons h with ⟨c, tail, htext, hc⟩
  have hne : ∀ x : Char, x ≠ '-' → x.isDigit = false → c ≠ x := by
    intro x hx hdigit
    exact ne_of_isDigit hc hx hdigit
  refine ⟨c, tail, htext, ?_, hne ']' (by decide) (by decide), hne '\x7d' (by decide) (by decide)⟩
  simp [isSpace, hne ' ' (by decide) (by decide), hne '\n' (by decide) (by decide),
    hne '\t' (by decide) (by decide), hne '\r' (by decide) (by decide)]

theorem opens_printText (s : String) : Opens (printText s) := ⟨'"', _, rfl, by decide⟩

theorem opens_compactChars (j : Json) (h : j.IsWhole) : Opens (compactChars j) := by
  cases j with
  | null => exact ⟨'n', _, rfl, by decide⟩
  | bool b => cases b <;> exact ⟨_, _, rfl, by decide⟩
  | number n =>
      cases n with
      | int i =>
          rw [compactChars, Number.print, ← numeralChars_numeralOf]
          exact opens_numeralChars (isProper_numeralOf i)
      | double x => exact absurd h id
  | text s => exact opens_printText s
  | array items => exact ⟨'[', compactItems items ++ [']'], by simp [compactChars], by decide⟩
  | object fields =>
      exact ⟨'\x7b', compactFields fields ++ ['\x7d'], by simp [compactChars], by decide⟩

theorem opens_compactItems (j : Json) (rest : List Json) (h : j.IsWhole) :
    Opens (compactItems (j :: rest)) := by
  have hj := opens_compactChars j h
  cases rest with
  | nil => simpa [compactItems] using hj
  | cons k rest => simpa [compactItems] using hj.append _

theorem opens_compactFields (key : String) (j : Json) (rest : List (String × Json)) :
    Opens (compactFields ((key, j) :: rest)) := by
  have hkey := opens_printText key
  cases rest with
  | nil => simpa [compactFields] using hkey.append _
  | cons f rest => simpa [compactFields] using hkey.append _

/-! ## One step of the reader -/

theorem readDraft_printNull (fuel : Nat) (rest : List Char) :
    readDraft (fuel + 1) (printNull ++ rest) = some (.null, rest) := rfl

theorem readDraft_printBool (b : Bool) (fuel : Nat) (rest : List Char) :
    readDraft (fuel + 1) (printBool b ++ rest) = some (.bool b, rest) := by
  cases b <;> rfl

theorem readDraft_noItems (fuel : Nat) (rest : List Char) :
    readDraft (fuel + 1) ('[' :: ']' :: rest) = some (.array [], rest) := rfl

theorem readDraft_noFields (fuel : Nat) (rest : List Char) :
    readDraft (fuel + 1) ('\x7b' :: '\x7d' :: rest) = some (.object [], rest) := rfl

theorem readDraft_printText (s : String) (fuel : Nat) (rest : List Char) :
    readDraft (fuel + 1) (printText s ++ rest) = some (.text (some s), rest) := by
  have htext : printText s ++ rest = '"' :: (s.toList.flatMap escape ++ '"' :: rest) := by
    simp [printText]
  rw [htext, readDraft]
  simp [skipSpace, isSpace, readText_flatMap_escape]

theorem readDraft_numeralChars {n : Numeral} (h : IsProper n) (fuel : Nat) {rest : List Char}
    (hr : Severs rest) :
    readDraft (fuel + 1) (numeralChars n ++ rest) = some (.numeral n, rest) := by
  rcases numeralChars_eq_cons h with ⟨c, tail, htext, hc⟩
  have hread := readNumeral?_append h hr
  have hopens : Opens (numeralChars n ++ rest) := (opens_numeralChars h).append rest
  have hquote : c ≠ '"' := ne_of_isDigit hc (by decide) (by decide)
  have hbracket : c ≠ '[' := ne_of_isDigit hc (by decide) (by decide)
  have hbrace : c ≠ '\x7b' := ne_of_isDigit hc (by decide) (by decide)
  have hn : c ≠ 'n' := ne_of_isDigit hc (by decide) (by decide)
  have ht : c ≠ 't' := ne_of_isDigit hc (by decide) (by decide)
  have hf : c ≠ 'f' := ne_of_isDigit hc (by decide) (by decide)
  rw [readDraft, hopens.skipSpace]
  rw [htext, List.cons_append] at hread ⊢
  simp [hquote, hbracket, hbrace, hn, ht, hf, hread]

/-- Blanks in front of a value are passed over. -/
theorem readDraft_of_skipSpace {cs text : List Char} (h : skipSpace cs = text) (hopens : Opens text)
    (fuel : Nat) : readDraft fuel cs = readDraft fuel text := by
  cases fuel with
  | zero => rw [readDraft_zero, readDraft_zero]
  | succ fuel => rw [readDraft, readDraft, h, hopens.skipSpace]

/-- Blanks may stand between an opening bracket and the first item. -/
theorem readDraft_bracket {cs : List Char} (h : Opens (skipSpace cs)) (fuel : Nat) :
    readDraft (fuel + 1) ('[' :: cs) =
      (readItems fuel cs).map fun (items, rest) => (.array items, rest) := by
  have hspace : skipSpace ('[' :: cs) = '[' :: cs := by simp [skipSpace, isSpace]
  rw [readDraft, hspace]
  rcases h with ⟨c, tail, hcs, _, hc, _⟩
  simp [hcs]
  split
  · rename_i heq
    exact absurd (List.cons.inj heq).1 hc
  · rfl

theorem readDraft_brace {cs : List Char} (h : Opens (skipSpace cs)) (fuel : Nat) :
    readDraft (fuel + 1) ('\x7b' :: cs) =
      (readFields fuel cs).map fun (fields, rest) => (.object fields, rest) := by
  have hspace : skipSpace ('\x7b' :: cs) = '\x7b' :: cs := by simp [skipSpace, isSpace]
  rw [readDraft, hspace]
  rcases h with ⟨c, tail, hcs, _, _, hc⟩
  simp [hcs]
  split
  · rename_i heq
    exact absurd (List.cons.inj heq).1 hc
  · rfl

theorem skipSpace_cons {c : Char} (h : isSpace c = false) (rest : List Char) :
    skipSpace (c :: rest) = c :: rest := by
  simp [skipSpace, h]

section

variable {fuel : Nat} {cs after more rest : List Char} {d : Draft} {key : String}

theorem readItems_last (h : readDraft fuel cs = some (d, after))
    (hafter : skipSpace after = ']' :: rest) : readItems (fuel + 1) cs = some ([d], rest) := by
  rw [readItems, h]
  simp [hafter]

theorem readItems_more {ds : List Draft} (h : readDraft fuel cs = some (d, after))
    (hafter : skipSpace after = ',' :: more) (hrest : readItems fuel more = some (ds, rest)) :
    readItems (fuel + 1) cs = some (d :: ds, rest) := by
  rw [readItems, h]
  simp [hafter, hrest]

theorem printText_append (key : String) (cs : List Char) :
    printText key ++ ':' :: cs = '"' :: (key.toList.flatMap escape ++ '"' :: ':' :: cs) := by
  simp [printText]

theorem readFields_last {text : List Char} (htext : skipSpace text = printText key ++ ':' :: cs)
    (h : readDraft fuel cs = some (d, after)) (hafter : skipSpace after = '\x7d' :: rest) :
    readFields (fuel + 1) text = some ([(some key, d)], rest) := by
  rw [readFields, htext, printText_append]
  simp [readText_flatMap_escape, skipSpace_cons (show isSpace ':' = false by decide), h, hafter]

theorem readFields_more {text : List Char} {ds : List (Option String × Draft)}
    (htext : skipSpace text = printText key ++ ':' :: cs)
    (h : readDraft fuel cs = some (d, after)) (hafter : skipSpace after = ',' :: more)
    (hrest : readFields fuel more = some (ds, rest)) :
    readFields (fuel + 1) text = some ((some key, d) :: ds, rest) := by
  rw [readFields, htext, printText_append]
  simp [readText_flatMap_escape, skipSpace_cons (show isSpace ':' = false by decide), h, hafter,
    hrest]

end

/-! ## Whole values -/

mutual

theorem readDraft_compact : ∀ (j : Json) (fuel : Nat) (rest : List Char), j.IsWhole →
    (compactChars j).length ≤ fuel → Severs rest →
    ∃ d, readDraft fuel (compactChars j ++ rest) = some (d, rest) ∧ Spells d j
  | j, 0, _, h, hf, _ => by
      have hpos := (opens_compactChars j h).length_pos
      omega
  | .null, fuel + 1, rest, _, _, _ => ⟨_, readDraft_printNull fuel rest, spells_null⟩
  | .bool b, fuel + 1, rest, _, _, _ => ⟨_, readDraft_printBool b fuel rest, spells_bool b⟩
  | .number (.int i), fuel + 1, rest, h, _, hr => by
      refine ⟨.numeral (numeralOf i), ?_, fun levels => ?_⟩
      · rw [compactChars, Number.print, ← numeralChars_numeralOf]
        exact readDraft_numeralChars (isProper_numeralOf i) fuel hr
      · simp [value?, Numeral.value?_numeralOf h, depth, arrange]
  | .number (.double _), _ + 1, _, h, _, _ => absurd h id
  | .text s, fuel + 1, rest, _, _, _ => ⟨_, readDraft_printText s fuel rest, spells_text s⟩
  | .array [], fuel + 1, rest, _, _, _ =>
      ⟨_, readDraft_noItems fuel rest, spells_array spellsItems_nil⟩
  | .array (j :: items), fuel + 1, rest, h, hf, _ => by
      have htext : compactChars (.array (j :: items)) ++ rest =
          '[' :: (compactItems (j :: items) ++ ']' :: rest) := by
        simp [compactChars]
      -- What stands between the brackets is shorter, and that is the fuel the reader has left.
      have hfuel : (compactItems (j :: items)).length < fuel := by
        simp only [compactChars, List.length_append, List.length_cons, List.length_nil] at hf
        omega
      rcases readItems_compact (j :: items) fuel rest (by simp) h hfuel with ⟨ds, hread, hds⟩
      refine ⟨.array ds, ?_, spells_array hds⟩
      have hopens := (opens_compactItems j items h.1).append (']' :: rest)
      rw [htext, readDraft_bracket (hopens.skipSpace.symm ▸ hopens), hread]
      rfl
  | .object [], fuel + 1, rest, _, _, _ =>
      ⟨_, readDraft_noFields fuel rest, spells_object spellsFields_nil⟩
  | .object ((key, j) :: fields), fuel + 1, rest, h, hf, _ => by
      have htext : compactChars (.object ((key, j) :: fields)) ++ rest =
          '\x7b' :: (compactFields ((key, j) :: fields) ++ '\x7d' :: rest) := by
        simp [compactChars]
      have hfuel : (compactFields ((key, j) :: fields)).length < fuel := by
        simp only [compactChars, List.length_append, List.length_cons, List.length_nil] at hf
        omega
      rcases readFields_compact ((key, j) :: fields) fuel rest (by simp) h hfuel
        with ⟨ds, hread, hds⟩
      refine ⟨.object ds, ?_, spells_object hds⟩
      have hopens := (opens_compactFields key j fields).append ('\x7d' :: rest)
      rw [htext, readDraft_brace (hopens.skipSpace.symm ▸ hopens), hread]
      rfl

theorem readItems_compact : ∀ (items : List Json) (fuel : Nat) (rest : List Char), items ≠ [] →
    AreWholeItems items → (compactItems items).length < fuel →
    ∃ ds, readItems fuel (compactItems items ++ ']' :: rest) = some (ds, rest) ∧
      SpellsItems ds items
  | [], _, _, hne, _, _ => absurd rfl hne
  | [j], fuel, rest, _, h, hf => by
      rcases fuel with _ | fuel
      · omega
      have hlen : (compactChars j).length ≤ fuel := by
        simp only [compactItems] at hf
        omega
      rcases readDraft_compact j fuel (']' :: rest) h.1 hlen (severs_cons (by decide) rest)
        with ⟨d, hread, hd⟩
      exact ⟨[d], readItems_last hread (skipSpace_cons (by decide) rest),
        spellsItems_cons hd spellsItems_nil⟩
  | j :: k :: items, fuel, rest, _, h, hf => by
      rcases fuel with _ | fuel
      · omega
      have hsum : (compactChars j).length + (compactItems (k :: items)).length + 1 < fuel + 1 := by
        simpa [compactItems, Nat.add_assoc] using hf
      have hpos := (opens_compactChars j h.1).length_pos
      rcases readDraft_compact j fuel (',' :: (compactItems (k :: items) ++ ']' :: rest)) h.1
        (by omega) (severs_cons (by decide) _) with ⟨d, hread, hd⟩
      rcases readItems_compact (k :: items) fuel rest (by simp) h.2 (by omega) with ⟨ds, hmore, hds⟩
      refine ⟨d :: ds, ?_, spellsItems_cons hd hds⟩
      have htext : compactItems (j :: k :: items) ++ ']' :: rest =
          compactChars j ++ ',' :: (compactItems (k :: items) ++ ']' :: rest) := by
        simp [compactItems]
      rw [htext]
      exact readItems_more hread (skipSpace_cons (by decide) _) hmore

theorem readFields_compact : ∀ (fields : List (String × Json)) (fuel : Nat) (rest : List Char),
    fields ≠ [] → AreWholeFields fields → (compactFields fields).length < fuel →
    ∃ ds, readFields fuel (compactFields fields ++ '\x7d' :: rest) = some (ds, rest) ∧
      SpellsFields ds fields
  | [], _, _, hne, _, _ => absurd rfl hne
  | [(key, j)], fuel, rest, _, h, hf => by
      rcases fuel with _ | fuel
      · omega
      have hlen : (compactChars j).length ≤ fuel := by
        simp only [compactFields, List.length_append, List.length_cons] at hf
        omega
      rcases readDraft_compact j fuel ('\x7d' :: rest) h.1 hlen
        (severs_cons (by decide) rest) with ⟨d, hread, hd⟩
      refine ⟨[(some key, d)], ?_, spellsFields_cons hd spellsFields_nil⟩
      have htext : compactFields [(key, j)] ++ '\x7d' :: rest =
          printText key ++ ':' :: (compactChars j ++ '\x7d' :: rest) := by
        simp [compactFields]
      rw [htext]
      exact readFields_last ((opens_printText key).append _).skipSpace hread
        (skipSpace_cons (by decide) rest)
  | (key, j) :: (next, k) :: fields, fuel, rest, _, h, hf => by
      rcases fuel with _ | fuel
      · omega
      -- The field takes its part of the fuel, and the comma leaves enough for the others.
      have hsum : (printText key).length + (compactChars j).length +
          (compactFields ((next, k) :: fields)).length + 2 < fuel + 1 := by
        simp only [compactFields, List.length_append, List.length_cons] at hf ⊢
        omega
      rcases readDraft_compact j fuel
        (',' :: (compactFields ((next, k) :: fields) ++ '\x7d' :: rest)) h.1
        (by omega) (severs_cons (by decide) _) with ⟨d, hread, hd⟩
      rcases readFields_compact ((next, k) :: fields) fuel rest (by simp) h.2 (by omega)
        with ⟨ds, hmore, hds⟩
      refine ⟨(some key, d) :: ds, ?_, spellsFields_cons hd hds⟩
      have htext : compactFields ((key, j) :: (next, k) :: fields) ++ '\x7d' :: rest =
          printText key ++ ':' :: (compactChars j ++
            ',' :: (compactFields ((next, k) :: fields) ++ '\x7d' :: rest)) := by
        simp [compactFields]
      rw [htext]
      exact readFields_more ((opens_printText key).append _).skipSpace hread
        (skipSpace_cons (by decide) _) hmore

end

theorem read?_compact_spells (j : Json) (h : j.IsWhole) :
    ∃ d, Draft.read? j.compact = some d ∧ Spells d j := by
  rcases readDraft_compact j ((compactChars j).length + 1) [] h (by omega) severs_nil
    with ⟨d, hread, hd⟩
  refine ⟨d, ?_, hd⟩
  rw [List.append_nil] at hread
  simp [Draft.read?, compact, hread, skipSpace]

end Draft

/-- Reading the compact text of a value gives the arranged value, unless it nests too deep. -/
theorem read?_compact (j : Json) (h : j.IsWhole) :
    Json.read? j.compact = if j.depth ≤ maxLevels then some j.arrange else none := by
  rcases Draft.read?_compact_spells j h with ⟨d, hread, hd⟩
  simp [Json.read?, hread, hd maxLevels]

end Json
end Testbench
