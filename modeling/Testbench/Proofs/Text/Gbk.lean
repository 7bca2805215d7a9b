import Mathlib.Tactic.Common
import Testbench.Text.Gbk

/-!
# Gbk — the decoder as a machine, and UTF-8 that is read with it

The decoder of GB 18030 is defined as a machine that takes one byte after another and holds up to
three bytes of a code that has begun. A byte that breaks a code is put back, behind all that was
held but the first byte. The machine puts out what `decode` says.

Text in UTF-8 that is read so is never short of characters: only a code of four bytes could take up
two characters in one, and such a code has a digit between two bytes that are not ASCII.

- `Held`, `react`, `Reads` : the machine;
- `decode_react`, `reads_iff` : what one byte comes to, and all bytes;
- `Head`, `Tail`           : the bytes of a character in UTF-8;
- `decode_char`, `decode_tail_char` : what comes of the first bytes;
- `length_decode`          : how many characters come of a text;
- `decode_utf8_ne`         : a text with a replacement character does not come out as it was.
-/

namespace Testbench
namespace Text
namespace Gbk

/-! ## The machine -/

/-- The bytes of a code that has begun. -/
inductive Held where
  | none
  | one (first : UInt8)
  | two (first second : UInt8)
  | three (first second third : UInt8)

namespace Held

def bytes : Held → List UInt8
  | none => []
  | one a => [a]
  | two a b => [a, b]
  | three a b c => [a, b, c]

/-- Each byte is one that such a code can begin with. -/
def Begun : Held → Prop
  | none => True
  | one a => isLead a = true
  | two a b => isLead a = true ∧ isQuadDigit b = true
  | three a b c => isLead a = true ∧ isQuadDigit b = true ∧ isLead c = true

end Held

/-- What a byte comes to. -/
structure Reaction where
  held : Held
  /-- The bytes that are to be read again. -/
  back : List UInt8
  out : Option Char

def react : Held → UInt8 → Reaction
  | .three first second third, b =>
    if isQuadDigit b then ⟨.none, [], some ((quad? first second third b).getD replacement)⟩
    else ⟨.none, [second, third, b], some replacement⟩
  | .two first second, b =>
    if isLead b then ⟨.three first second b, [], none⟩
    else ⟨.none, [second, b], some replacement⟩
  | .one first, b =>
    if isQuadDigit b then ⟨.two first b, [], none⟩
    else match pair? first b with
      | some c => ⟨.none, [], some c⟩
      | none => ⟨.none, if isAscii b then [b] else [], some replacement⟩
  | .none, b =>
    if isAscii b then ⟨.none, [], some (Char.ofNat b.toNat)⟩
    else if b == 0x80 then ⟨.none, [], some '€'⟩
    else if isLead b then ⟨.one b, [], none⟩
    else ⟨.none, [], some replacement⟩

/-- What the machine makes of bytes. A code that is cut off at the end encodes nothing. -/
inductive Reads : Held → List UInt8 → List Char → Prop where
  | finished : Reads .none [] []
  | cut {held : Held} (hheld : held ≠ .none) : Reads held [] [replacement]
  | byte {held : Held} {b : UInt8} {rest : List UInt8} {cs : List Char}
      (h : Reads (react held b).held ((react held b).back ++ rest) cs) :
      Reads held (b :: rest) ((react held b).out.toList ++ cs)

section

variable {held : Held} {bytes : List UInt8} {cs : List Char}

theorem isAscii_of_isLead {b : UInt8} (h : isLead b = true) : isAscii b = false := by
  simp only [isLead, isAscii, Bool.and_eq_true, decide_eq_true_eq, decide_eq_false_iff_not,
    UInt8.le_iff_toNat_le, UInt8.lt_iff_toNat_lt] at h ⊢
  have h1 : (0x81 : UInt8).toNat = 0x81 := rfl
  have h2 : (0x80 : UInt8).toNat = 0x80 := rfl
  omega

theorem ne_of_isLead {b : UInt8} (h : isLead b = true) : (b == 0x80) = false := by
  rw [beq_eq_false_iff_ne]
  rintro rfl
  exact absurd h (by decide)

/-! ### Codes -/

variable {a b c d : UInt8} {after : List UInt8}

theorem decode_ascii (h : isAscii a = true) :
    decode (a :: after) = Char.ofNat a.toNat :: decode after := by
  rw [decode.eq_def]
  simp [h]

theorem decode_euro (after : List UInt8) : decode (0x80 :: after) = '€' :: decode after := by
  have hascii : isAscii 0x80 = false := by decide
  rw [decode.eq_def]
  simp [hascii]

theorem decode_stray (hascii : isAscii a = false) (heuro : (a == 0x80) = false)
    (hlead : isLead a = false) : decode (a :: after) = replacement :: decode after := by
  rw [decode.eq_def]
  simp [hascii, heuro, hlead]

section

variable (ha : isLead a = true)

include ha

theorem decode_lead : decode [a] = [replacement] := by
  rw [decode.eq_def]
  simp [isAscii_of_isLead ha, ne_of_isLead ha, ha]

/-- The second byte of a code of two is read again if it is ASCII and there is no such code. -/
theorem decode_pair (hb : isQuadDigit b = false) (after : List UInt8) :
    decode (a :: b :: after) =
      match pair? a b with
      | some c => c :: decode after
      | none => replacement :: decode ((if isAscii b then [b] else []) ++ after) := by
  rw [decode.eq_def]
  cases hpair : pair? a b with
  | some c => simp [isAscii_of_isLead ha, ne_of_isLead ha, ha, hb, hpair]
  | none =>
      cases hascii : isAscii b with
      | true => simp [isAscii_of_isLead ha, ne_of_isLead ha, ha, hb, hpair, hascii]
      | false => simp [isAscii_of_isLead ha, ne_of_isLead ha, ha, hb, hpair, hascii]

variable (hb : isQuadDigit b = true)

include hb

theorem decode_digit : decode [a, b] = [replacement] := by
  rw [decode.eq_def]
  simp [isAscii_of_isLead ha, ne_of_isLead ha, ha, hb]

theorem decode_digit_broken (hc : isLead c = false) :
    decode (a :: b :: c :: after) = replacement :: decode (b :: c :: after) := by
  rw [decode.eq_def]
  simp [isAscii_of_isLead ha, ne_of_isLead ha, ha, hb, hc]

variable (hc : isLead c = true)

include hc

theorem decode_three : decode [a, b, c] = [replacement] := by
  rw [decode.eq_def]
  simp [isAscii_of_isLead ha, ne_of_isLead ha, ha, hb, hc]

theorem decode_three_broken (hd : isQuadDigit d = false) :
    decode (a :: b :: c :: d :: after) = replacement :: decode (b :: c :: d :: after) := by
  rw [decode.eq_def]
  simp [isAscii_of_isLead ha, ne_of_isLead ha, ha, hb, hc, hd]

theorem decode_quad (hd : isQuadDigit d = true) :
    decode (a :: b :: c :: d :: after) = (quad? a b c d).getD replacement :: decode after := by
  rw [decode.eq_def]
  simp [isAscii_of_isLead ha, ne_of_isLead ha, ha, hb, hc, hd]

end

/-! ### The output -/

/-- One byte leads from what is to be read to what is to be read after it. -/
theorem decode_react (hheld : held.Begun) (b : UInt8) (rest : List UInt8) :
    (react held b).held.Begun ∧
      decode (held.bytes ++ b :: rest) = (react held b).out.toList ++
        decode ((react held b).held.bytes ++ ((react held b).back ++ rest)) := by
  -- What is held says which bytes of a code have come, and the next one goes on with it or breaks
  -- it off.
  cases held with
  | none =>
      rw [react]
      cases hascii : isAscii b with
      | true => exact ⟨trivial, decode_ascii hascii⟩
      | false =>
          cases heuro : b == 0x80 with
          | true =>
              rw [beq_iff_eq.1 heuro]
              exact ⟨trivial, decode_euro rest⟩
          | false =>
              cases hlead : isLead b with
              | true => exact ⟨hlead, rfl⟩
              | false => exact ⟨trivial, decode_stray hascii heuro hlead⟩
  | one first =>
      rw [react]
      cases hdigit : isQuadDigit b with
      | true => exact ⟨⟨hheld, hdigit⟩, rfl⟩
      | false =>
          have hpair := decode_pair hheld hdigit rest
          cases hcode : pair? first b with
          | some c => exact ⟨trivial, by rw [hcode] at hpair; exact hpair⟩
          | none => exact ⟨trivial, by rw [hcode] at hpair; exact hpair⟩
  | two first second =>
      rw [react]
      cases hlead : isLead b with
      | true => exact ⟨⟨hheld.1, hheld.2, hlead⟩, rfl⟩
      | false => exact ⟨trivial, decode_digit_broken hheld.1 hheld.2 hlead⟩
  | three first second third =>
      rw [react]
      cases hdigit : isQuadDigit b with
      | true => exact ⟨trivial, decode_quad hheld.1 hheld.2.1 hheld.2.2 hdigit⟩
      | false => exact ⟨trivial, decode_three_broken hheld.1 hheld.2.1 hheld.2.2 hdigit⟩

theorem Reads.eq_decode (h : Reads held bytes cs) (hheld : held.Begun) :
    cs = decode (held.bytes ++ bytes) := by
  induction h with
  | finished => exact decode_nil.symm
  | @cut held hne =>
      cases held with
      | none => exact absurd rfl hne
      | one first => exact (decode_lead hheld).symm
      | two first second => exact (decode_digit hheld.1 hheld.2).symm
      | three first second third => exact (decode_three hheld.1 hheld.2.1 hheld.2.2).symm
  | @byte held b rest cs h ih =>
      have hreact := decode_react hheld b rest
      rw [hreact.2, ← ih hreact.1]

/-- A byte is put out with what was held, or it is held too and nothing is put back. -/
theorem react_shrinks (held : Held) (b : UInt8) :
    (react held b).held.bytes.length + (react held b).back.length ≤ held.bytes.length ∨
      ((react held b).held.bytes.length = held.bytes.length + 1 ∧ (react held b).back = []) := by
  cases held with
  | none =>
      rw [react]
      split
      · exact .inl (Nat.le_refl _)
      · split
        · exact .inl (Nat.le_refl _)
        · split
          · exact .inr ⟨rfl, rfl⟩
          · exact .inl (Nat.le_refl _)
  | one first =>
      rw [react]
      split
      · exact .inr ⟨rfl, rfl⟩
      · split
        · exact .inl (Nat.zero_le _)
        · split
          · exact .inl (Nat.le_refl _)
          · exact .inl (Nat.zero_le _)
  | two first second =>
      rw [react]
      split
      · exact .inr ⟨rfl, rfl⟩
      · exact .inl (Nat.le_refl _)
  | three first second third =>
      rw [react]
      split
      · exact .inl (Nat.zero_le _)
      · exact .inl (Nat.le_refl _)

theorem exists_reads (held : Held) : ∀ bytes, ∃ cs, Reads held bytes cs
  | [] => by
      cases held with
      | none => exact ⟨_, .finished⟩
      | one _ | two _ _ | three _ _ _ => exact ⟨_, .cut nofun⟩
  | b :: rest => by
      rcases exists_reads (react held b).held ((react held b).back ++ rest) with ⟨cs, h⟩
      exact ⟨_, .byte h⟩
termination_by bytes => (held.bytes.length + bytes.length, bytes.length)
decreasing_by
  rcases react_shrinks held b with hless | ⟨hmore, hback⟩
  · refine Prod.Lex.left _ _ ?_
    simp only [List.length_append, List.length_cons]
    omega
  · have hsum : (react held b).held.bytes.length + ((react held b).back ++ rest).length =
        held.bytes.length + (b :: rest).length := by
      rw [hmore, hback, List.nil_append, List.length_cons]
      omega
    rw [hsum, hback]
    exact Prod.Lex.right _ (Nat.lt_succ_self _)

theorem reads_iff : Reads .none bytes cs ↔ decode bytes = cs := by
  constructor
  · exact fun h => (h.eq_decode trivial).symm
  · rintro rfl
    rcases exists_reads .none bytes with ⟨cs, h⟩
    rwa [h.eq_decode trivial] at h

end

/-! ## UTF-8 -/

def utf8 (cs : List Char) : List UInt8 := cs.flatMap String.utf8EncodeChar

/-- The first byte of a character that takes up several. -/
def Head (b : UInt8) : Prop := 0xC0 ≤ b.toNat ∧ b.toNat < 0xF8

/-- Any other byte of such a character. -/
def Tail (b : UInt8) : Prop := 0x80 ≤ b.toNat ∧ b.toNat < 0xC0

section

variable {a b t : UInt8} {after : List UInt8}

theorem utf8_cons (c : Char) (cs : List Char) :
    utf8 (c :: cs) = String.utf8EncodeChar c ++ utf8 cs :=
  rfl

theorem tail_ofNat (n : Nat) : Tail (UInt8.ofNat (n % 64 + 128)) := by
  rw [Tail, UInt8.toNat_ofNat']
  omega

theorem head_ofNat {n : Nat} (h : 0xC0 ≤ n) (h' : n < 0xF8) : Head (UInt8.ofNat n) := by
  rw [Head, UInt8.toNat_ofNat']
  omega

/-- A character is one ASCII byte, or a head and tails. -/
theorem utf8EncodeChar_cases (c : Char) :
    (∃ b, String.utf8EncodeChar c = [b] ∧ isAscii b = true) ∨
      ∃ a b tails, String.utf8EncodeChar c = a :: b :: tails ∧ Head a ∧ Tail b ∧
        ∀ t ∈ tails, Tail t := by
  unfold String.utf8EncodeChar
  dsimp only
  split
  · rename_i hsmall
    refine .inl ⟨_, rfl, ?_⟩
    rw [isAscii, decide_eq_true_iff, UInt8.lt_iff_toNat_lt, UInt8.toNat_ofNat']
    exact Nat.lt_of_le_of_lt (Nat.mod_le _ _) (Nat.lt_succ_of_le hsmall)
  · refine .inr ?_
    split
    · exact ⟨_, _, _, rfl, head_ofNat (by omega) (by omega), tail_ofNat _, by simp⟩
    · split
      · exact ⟨_, _, _, rfl, head_ofNat (by omega) (by omega), tail_ofNat _,
          List.forall_mem_singleton.2 (tail_ofNat _)⟩
      · exact ⟨_, _, _, rfl, head_ofNat (by omega) (by omega), tail_ofNat _,
          List.forall_mem_cons.2 ⟨tail_ofNat _, List.forall_mem_singleton.2 (tail_ofNat _)⟩⟩

namespace Head

theorem isLead (h : Head a) : isLead a = true := by
  rw [Gbk.isLead, Bool.and_eq_true, decide_eq_true_iff, decide_eq_true_iff, UInt8.le_iff_toNat_le,
    UInt8.le_iff_toNat_le]
  exact ⟨Nat.le_trans (by decide) h.1, Nat.le_trans (Nat.le_of_lt_succ h.2) (by decide)⟩

theorem isAscii_eq_false (h : Head a) : isAscii a = false := isAscii_of_isLead h.isLead

theorem isQuadDigit_eq_false (h : Head a) : isQuadDigit a = false := by
  have hlarge : ¬ a ≤ 0x39 := by
    rw [UInt8.le_iff_toNat_le, Nat.not_le]
    exact Nat.lt_of_lt_of_le (by decide) h.1
  rw [isQuadDigit, decide_eq_false hlarge, Bool.and_false]

end Head

namespace Tail

theorem isAscii_eq_false (h : Tail t) : isAscii t = false := by
  rw [isAscii, decide_eq_false_iff_not, UInt8.lt_iff_toNat_lt, Nat.not_lt]
  exact h.1

theorem isQuadDigit_eq_false (h : Tail t) : isQuadDigit t = false := by
  have hlarge : ¬ t ≤ 0x39 := by
    rw [UInt8.le_iff_toNat_le, Nat.not_le]
    exact Nat.lt_of_lt_of_le (by decide) h.1
  rw [isQuadDigit, decide_eq_false hlarge, Bool.and_false]

theorem euro_or_isLead (h : Tail t) : t = 0x80 ∨ isLead t = true := by
  rcases Nat.eq_or_lt_of_le h.1 with heq | hlt
  · exact .inl (UInt8.toNat_inj.1 heq.symm)
  · refine .inr ?_
    rw [isLead, Bool.and_eq_true, decide_eq_true_iff, decide_eq_true_iff, UInt8.le_iff_toNat_le,
      UInt8.le_iff_toNat_le]
    exact ⟨hlt, Nat.le_trans (Nat.le_of_lt_succ h.2) (by decide)⟩

end Tail

/-- A byte that is not ASCII ends a code of two, whether there is such a code or not. -/
theorem decode_wide (ha : isLead a = true) (hascii : isAscii b = false)
    (hdigit : isQuadDigit b = false) (after : List UInt8) :
    decode (a :: b :: after) = (pair? a b).getD replacement :: decode after := by
  rw [decode_pair ha hdigit after, hascii]
  cases pair? a b with
  | none => rfl
  | some c => rfl

/-- What comes of a tail takes up the next byte, or leaves it. -/
theorem decode_tail_wide (ht : Tail t) (hascii : isAscii b = false) (hdigit : isQuadDigit b = false)
    (after : List UInt8) : ∃ x, decode (t :: b :: after) = x :: decode (b :: after) ∨
      decode (t :: b :: after) = x :: decode after := by
  rcases ht.euro_or_isLead with rfl | hlead
  · exact ⟨_, .inl (decode_euro _)⟩
  · exact ⟨_, .inr (decode_wide hlead hascii hdigit after)⟩

/-- A digit does not begin the second half of a code of four, as no digit comes two bytes later. -/
theorem decode_tail_ascii (ht : Tail t) (hascii : isAscii b = true) (cs : List Char) :
    ∃ x, decode (t :: b :: utf8 cs) = x :: decode (b :: utf8 cs) ∨
      decode (t :: b :: utf8 cs) = x :: decode (utf8 cs) := by
  rcases ht.euro_or_isLead with rfl | hlead
  · exact ⟨_, .inl (decode_euro _)⟩
  -- Unless the byte is a digit the two are a code of two bytes, or none.
  · cases hdigit : isQuadDigit b with
    | false =>
        rw [decode_pair hlead hdigit, hascii]
        cases pair? t b with
        | none => exact ⟨_, .inl rfl⟩
        | some c => exact ⟨_, .inr rfl⟩
    | true =>
        cases cs with
        | nil => exact ⟨replacement, .inr (decode_digit hlead hdigit)⟩
        | cons c cs =>
            refine ⟨replacement, .inl ?_⟩
            rw [utf8_cons]
            rcases utf8EncodeChar_cases c
              with ⟨b', hc, hascii'⟩ | ⟨a', b', tails, hc, hhead, htail, -⟩
            · rw [hc]
              have hnone : isLead b' = false := by
                rw [Bool.eq_false_iff]
                intro hlead'
                rw [isAscii_of_isLead hlead'] at hascii'
                exact nomatch hascii'
              exact decode_digit_broken hlead hdigit hnone
            · rw [hc]
              exact decode_three_broken hlead hdigit hhead.isLead htail.isQuadDigit_eq_false

theorem utf8EncodeChar_replacement : String.utf8EncodeChar replacement = [0xEF, 0xBF, 0xBD] := by
  decide

/-- A code of two bytes is looked up in a row. -/
theorem pair?_of_row {lead trail : UInt8} {row : List Char}
    (hcode : (isLead lead && isPairTrail trail) = true)
    (hrow : pairRows[lead.toNat - 0x81]? = some (String.ofList row)) :
    pair? lead trail = row[trail.toNat - (if trail < 0x7F then 0x40 else 0x41)]? := by
  rw [pair?, if_pos hcode, pairTable, Array.getElem?_map, hrow, Option.map_some, Option.bind_some,
    String.toList_ofList, List.getElem?_toArray]

set_option maxRecDepth 4000 in
/-- Two bytes of a replacement character are a code of their own. -/
theorem pair?_replacement : pair? 0xEF 0xBF = some '锟' := by
  have hrow : ∃ row, pairRows[110]? = some (String.ofList row) ∧ row[126]? = some '锟' :=
    ⟨_, rfl, rfl⟩
  rcases hrow with ⟨row, hrow, hchar⟩
  have hcode : (isLead 0xEF && isPairTrail 0xBF) = true := by decide
  exact (pair?_of_row hcode hrow).trans hchar

/-- A character comes to one character and the tails that are left of it. -/
theorem decode_char (c : Char) (cs : List Char) :
    ∃ x tails, decode (utf8 (c :: cs)) = x :: decode (tails ++ utf8 cs) ∧ (∀ t ∈ tails, Tail t) ∧
      (c = replacement → x ≠ c) := by
  rw [utf8_cons]
  rcases utf8EncodeChar_cases c with ⟨b, hc, hascii⟩ | ⟨a, b, tails, hc, hhead, htail, htails⟩
  · refine ⟨_, [], by rw [hc]; exact decode_ascii hascii, by simp, ?_⟩
    rintro rfl
    exact absurd (hc.symm.trans utf8EncodeChar_replacement) (by simp)
  · have hwide := decode_wide hhead.isLead htail.isAscii_eq_false htail.isQuadDigit_eq_false
      (tails ++ utf8 cs)
    refine ⟨_, tails, by rw [hc]; exact hwide, htails, ?_⟩
    rintro rfl
    have hbytes := hc.symm.trans utf8EncodeChar_replacement
    simp only [List.cons.injEq] at hbytes
    rw [hbytes.1, hbytes.2.1, pair?_replacement]
    decide

/-- A tail in front of a character leaves it as it is, or takes up its first byte. -/
theorem decode_tail_char (ht : Tail t) (c : Char) (cs : List Char) :
    ∃ x, decode (t :: utf8 (c :: cs)) = x :: decode (utf8 (c :: cs)) ∨
      ∃ tails, decode (t :: utf8 (c :: cs)) = x :: decode (tails ++ utf8 cs) ∧
        (∀ t ∈ tails, Tail t) ∧
        (c = replacement → tails.length = 2) := by
  rw [utf8_cons]
  rcases utf8EncodeChar_cases c with ⟨b, hc, hascii⟩ | ⟨a, b, tails, hc, hhead, htail, htails⟩
  · rcases decode_tail_ascii ht hascii cs with ⟨x, hx | hx⟩
    · exact ⟨x, .inl (by rw [hc]; exact hx)⟩
    · refine ⟨x, .inr ⟨[], by rw [hc]; exact hx, by simp, ?_⟩⟩
      rintro rfl
      exact absurd (hc.symm.trans utf8EncodeChar_replacement) (by simp)
  -- The tail and the first byte of the character are a code, and the others are left.
  · rw [hc]
    rcases ht.euro_or_isLead with rfl | hlead
    · exact ⟨_, .inl (decode_euro _)⟩
    · refine ⟨_,
        .inr ⟨b :: tails, decode_wide hlead hhead.isAscii_eq_false hhead.isQuadDigit_eq_false _,
          List.forall_mem_cons.2 ⟨htail, htails⟩, ?_⟩⟩
      rintro rfl
      have hbytes := hc.symm.trans utf8EncodeChar_replacement
      simp only [List.cons.injEq] at hbytes
      rw [hbytes.2.2]
      rfl

/-- Half of the tails in front come to characters of their own. -/
theorem length_decode : ∀ (tails : List UInt8) (cs : List Char), (∀ t ∈ tails, Tail t) →
    cs.length + tails.length / 2 ≤ (decode (tails ++ utf8 cs)).length
  | [], [], _ => Nat.zero_le _
  | [t], [], _ => by
      rw [List.length_singleton, List.length_nil]
      exact Nat.zero_le _
  | [], c :: cs, _ => by
      rcases decode_char c cs with ⟨x, tails, hx, htails, -⟩
      have hrest := length_decode tails cs htails
      rw [List.nil_append, hx, List.length_cons, List.length_cons, List.length_nil]
      omega
  | [t], c :: cs, ht => by
      have hhalf : ([t] : List UInt8).length / 2 = 0 := Nat.div_eq_of_lt (Nat.lt_succ_self 1)
      rcases decode_tail_char (ht t List.mem_cons_self) c cs with ⟨x, hx | ⟨tails, hx, htails, -⟩⟩
      · have hrest := length_decode [] (c :: cs) (by simp)
        rw [List.nil_append, List.length_nil] at hrest
        rw [hhalf, List.singleton_append, hx, List.length_cons (a := x)]
        omega
      · have hrest := length_decode tails cs htails
        rw [hhalf, List.singleton_append, hx, List.length_cons, List.length_cons]
        omega
  | t :: t' :: more, cs, ht => by
      -- The first tail is read alone or with the second one, and is one character either way.
      have ht' := ht t' (List.mem_cons_of_mem _ List.mem_cons_self)
      have hmore : ∀ u ∈ more, Tail u := fun u hu =>
        ht u (List.mem_cons_of_mem _ (List.mem_cons_of_mem _ hu))
      rcases decode_tail_wide (ht t List.mem_cons_self) ht'.isAscii_eq_false
        ht'.isQuadDigit_eq_false (more ++ utf8 cs) with ⟨x, hx | hx⟩
      · have hrest := length_decode (t' :: more) cs (List.forall_mem_cons.2 ⟨ht', hmore⟩)
        rw [List.cons_append, List.cons_append, hx, List.length_cons (a := x), List.length_cons,
          List.length_cons]
        rw [List.cons_append, List.length_cons] at hrest
        omega
      · have hrest := length_decode more cs hmore
        rw [List.cons_append, List.cons_append, hx, List.length_cons, List.length_cons,
          List.length_cons]
        omega
termination_by tails cs => (cs.length, tails.length)

/-- A text with a replacement character never comes out as it was, not even behind one tail. -/
theorem decode_utf8_ne : ∀ (cs : List Char) (tails : List UInt8), (∀ t ∈ tails, Tail t) →
    tails.length ≤ 1 → replacement ∈ cs → decode (tails ++ utf8 cs) ≠ cs
  | [], _, _, _, hmem => nomatch hmem
  | c :: cs, [], _, _, hmem => by
      intro heq
      rcases decode_char c cs with ⟨x, tails, hx, htails, hother⟩
      rw [List.nil_append, hx, List.cons.injEq] at heq
      have hlength := length_decode tails cs htails
      rw [heq.2] at hlength
      rcases List.mem_cons.1 hmem with hc | hrest
      · exact hother hc.symm heq.1
      · exact decode_utf8_ne cs tails htails (by omega) hrest heq.2
  | c :: cs, [t], ht, _, hmem => by
      intro heq
      rcases decode_tail_char (ht t List.mem_cons_self) c cs
        with ⟨x, hx | ⟨tails, hx, htails, hwide⟩⟩
      · have hlength := length_decode [] (c :: cs) (by simp)
        rw [List.singleton_append, hx, List.cons.injEq] at heq
        rw [List.nil_append, heq.2, List.length_cons] at hlength
        omega
      · have hlength := length_decode tails cs htails
        rw [List.singleton_append, hx, List.cons.injEq] at heq
        rw [heq.2] at hlength
        rcases List.mem_cons.1 hmem with hc | hrest
        · have htwo := hwide hc.symm
          omega
        · exact decode_utf8_ne cs tails htails (by omega) hrest heq.2
  | _ :: _, _ :: _ :: _, _, hone, _ => absurd hone (by simp)

end

end Gbk
end Text
end Testbench
