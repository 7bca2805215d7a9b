import Testbench.Proofs.Files
import Testbench.Proofs.Parsing.Failure
import Testbench.Proofs.Text.Gbk

/-!
# Output — the characters that were printed, and those that are read

What a process prints in UTF-8 is read as it was printed, unless it holds a replacement character:
that is taken for a sign that the bytes are not UTF-8, and then they are read as GB 18030, which
never gives the text that was printed.

- `decodeOutput_toUTF8_eq_iff` : text in UTF-8;
- `decodeOutput_toList`        : all other bytes;
- `Answers`, `plays_parse_answers` : a parse runs the script once at most, and answers what it
  printed;
- `output_read_as_printed`     : all of it together;
- `output_misread`             : a text that is not read as it was printed.
-/

namespace Testbench
namespace Text

theorem toList_loop (bytes : ByteArray) (i : Nat) (front : List UInt8) :
    ByteArray.toList.loop bytes i front = front.reverse ++ bytes.data.toList.drop i := by
  induction i, front using ByteArray.toList.loop.induct bytes with
  | case1 i front hi ih =>
      have hrest : bytes.data.toList.drop i = bytes.data[i] :: bytes.data.toList.drop (i + 1) := by
        rw [List.drop_eq_getElem_cons (by simpa using hi)]
        rfl
      rw [ByteArray.toList.loop, if_pos hi, ih, hrest]
      simp [ByteArray.get!, hi]
  | case2 i front hi =>
      rw [ByteArray.toList.loop, if_neg hi, List.drop_of_length_le (by simpa using hi),
        List.append_nil]

theorem toList_eq_data (bytes : ByteArray) : bytes.toList = bytes.data.toList := by
  rw [ByteArray.toList, toList_loop]
  rfl

theorem toList_toUTF8 (s : String) : s.toUTF8.toList = Gbk.utf8 s.toList := by
  rw [toList_eq_data, String.toUTF8_eq_toByteArray, ← String.utf8Encode_toList, List.utf8Encode,
    List.toList_data_toByteArray]
  rfl

theorem decodeOutput_toUTF8 (s : String) : decodeOutput s.toUTF8 =
    if Gbk.replacement ∈ s.toList then String.ofList (Gbk.decode (Gbk.utf8 s.toList)) else s := by
  rw [decodeOutput, FileTree.fromUTF8?_toUTF8, ← toList_toUTF8]
  simp [isMarred]

/-- Text in UTF-8 is read as it was printed exactly if it holds no replacement character. -/
theorem decodeOutput_toUTF8_eq_iff (s : String) :
    decodeOutput s.toUTF8 = s ↔ Gbk.replacement ∉ s.toList := by
  rw [decodeOutput_toUTF8]
  by_cases hmarred : Gbk.replacement ∈ s.toList
  · rw [if_pos hmarred]
    refine iff_of_false (fun heq => ?_) (not_not_intro hmarred)
    have hsame := congrArg String.toList heq
    rw [String.toList_ofList] at hsame
    exact Gbk.decode_utf8_ne s.toList [] (by simp) (Nat.zero_le _) hmarred hsame
  · rw [if_neg hmarred]
    exact iff_of_true rfl hmarred

/-- Bytes that are no text in UTF-8, or one with a replacement character. -/
theorem decodeOutput_toList {bytes : ByteArray}
    (h : ∀ s : String, bytes = s.toUTF8 → Gbk.replacement ∈ s.toList) :
    (decodeOutput bytes).toList = Gbk.decode bytes.toList := by
  unfold decodeOutput
  split
  · rename_i s hs
    have hbytes : bytes = s.toUTF8 := by
      rw [String.fromUTF8?] at hs
      split at hs
      · exact congrArg String.toUTF8 (Option.some.inj hs)
      · cases hs
    have hmarred : isMarred s = true := by simpa [isMarred] using h s hbytes
    rw [if_pos hmarred, String.toList_ofList]
  · exact String.toList_ofList

end Text

namespace Parsing

open Activity (parseIn parseIn_none parseIn_some)
open Cache.Table (printed?)
open Outline (Document)
open Sharing (Starts not_starts)
open Testbench.Task (Ran Plays)
open Text (decodeOutput)

/-! ## The answer of a parse -/

/-- Nothing is run, or the script is run once and the answer is what comes of that. -/
def Answers (p : Parser) (file : Path) (log : List (Ran World)) (a : Option Document) : Prop :=
  (∀ x ∈ log, ¬ Starts x) ∨
    ∃ v, RunsOnce p file log v ∧ a = printed? (reply p file v)

section

variable {p : Parser} {root : Path} {key : String} {file : Path} {w w' : World}
  {log before after : List (Ran World)} {a : Option Document} {others : World → World → Prop}

theorem answer_conclude (root : Path) (key : String) (file : Path) (modified : Nat)
    (outcome : Except Error Outcome) (w : World) :
    ((conclude root key file modified (verdict outcome)).run w).1 = printed? outcome := by
  unfold printed?
  cases verdict outcome with
  | _ => rfl

theorem Answers.around (hbefore : ∀ x ∈ before, ¬ Starts x) (h : Answers p file log a)
    (hafter : ∀ x ∈ after, ¬ Starts x) : Answers p file (before ++ log ++ after) a := by
  rcases h with hlog | ⟨v, ⟨front, back, rfl, hquiet⟩, ha⟩
  · exact .inl (List.forall_mem_append.2 ⟨List.forall_mem_append.2 ⟨hbefore, hlog⟩, hafter⟩)
  · rcases List.forall_mem_append.1 hquiet with ⟨hfront, hback⟩
    exact .inr ⟨v, ⟨before ++ front, back ++ after, by simp, List.forall_mem_append.2
      ⟨List.forall_mem_append.2 ⟨hbefore, hfront⟩, List.forall_mem_append.2 ⟨hback, hafter⟩⟩⟩, ha⟩

theorem plays_fetch_answers (h : Plays others (fetch p root key file) w log a w') :
    Answers p file log a := by
  rcases Plays.of_act h with ⟨later, rfl, hlater⟩
  change Plays others (Activity.fetchAfter p root key file ((lookUp root key file).run w).1)
    ((lookUp root key file).run w).2 later a w' at hlater
  have hlookUp := not_starts_lookUp root key file w
  -- Only with nothing kept is the script started, and then once.
  cases hfound : ((lookUp root key file).run w).1 with
  | unreadable =>
      rw [hfound] at hlater
      rcases Plays.of_done hlater with ⟨rfl, -, -⟩
      exact .inl (List.forall_mem_singleton.2 hlookUp)
  | cached d =>
      rw [hfound] at hlater
      rcases Plays.of_done hlater with ⟨rfl, -, -⟩
      exact .inl (List.forall_mem_singleton.2 hlookUp)
  | missing modified =>
      rw [hfound] at hlater
      rcases Plays.of_act hlater with ⟨started, rfl, hstarted⟩
      rcases Plays.of_act hstarted with ⟨waiting, rfl, hwaiting⟩
      rcases Plays.of_await hwaiting with ⟨w₁, ended, -, rfl, hended⟩
      rcases Plays.of_act hended with ⟨last, rfl, hlast⟩
      rcases Plays.of_done hlast with ⟨rfl, rfl, rfl⟩
      refine .inr ⟨((lookUp root key file).run w).2, ⟨[_, _], [_, _], rfl, ?_⟩,
        answer_conclude root key file modified _ w₁⟩
      refine List.forall_mem_append.2 ⟨List.forall_mem_cons.2 ⟨hlookUp, ?_⟩,
        List.forall_mem_cons.2 ⟨(idle_wait w₁).starts, ?_⟩⟩
      · exact List.forall_mem_singleton.2 (idle_look _).starts
      · exact List.forall_mem_singleton.2 (not_starts_conclude root key file modified _ w₁)

theorem plays_parse_answers (h : Plays others (parse p file) w log a w') :
    Answers p file log a := by
  rcases Plays.of_act h with ⟨rest, rfl, hrest⟩
  change Plays others (parseIn p file w.files) w rest a w' at hrest
  have hlook := (idle_look w).starts
  cases haddress : address? w.files file with
  | none =>
      rw [parseIn_none haddress] at hrest
      rcases Plays.of_done hrest with ⟨rfl, -, -⟩
      exact .inl (List.forall_mem_singleton.2 hlook)
  | some address =>
      rw [parseIn_some haddress] at hrest
      -- The fetch is done in a turn, which is waited for before it and given up after it.
      rcases Plays.of_act hrest with ⟨queued, rfl, hqueued⟩
      change Plays others (.guarded (.await (.turn p w.nextTicket)
        (fetch p address.1 address.2 file)) (Parser.leave p w.nextTicket) .done) _ queued a w'
        at hqueued
      rcases Plays.of_guarded hqueued with ⟨inner, d, w₂, w₃, last, rfl, hinner, -, hlast⟩
      rcases Plays.of_await hinner with ⟨w₁, log, -, rfl, hfetch⟩
      rcases Plays.of_done hlast with ⟨rfl, rfl, -⟩
      have hqueue := (idle_queueUp p w).starts
      have hleave := (idle_leave p w.nextTicket w₃).starts
      exact (plays_fetch_answers hfetch).around
        (List.forall_mem_cons.2 ⟨hlook, List.forall_mem_cons.2 ⟨hqueue,
          List.forall_mem_singleton.2 (idle_wait w₁).starts⟩⟩)
        (List.forall_mem_singleton.2 hleave)

end

/-! ## What was printed, and what is read -/

/-- What becomes of bytes that were printed. If they are text in UTF-8, they are read as that text
exactly if it holds no replacement character. If they are not, or the text holds one, they are read
as the decoder of GB 18030 reads them. If a script that succeeds has printed text without one, a
parse answers with the document of just that text, unless it has errors; whatever others do
meanwhile. -/
theorem output_read_as_printed (bytes : ByteArray) :
    (∀ s : String, bytes = s.toUTF8 → (decodeOutput bytes = s ↔ Text.Gbk.replacement ∉ s.toList)) ∧
    ((∀ s : String, bytes = s.toUTF8 → Text.Gbk.replacement ∈ s.toList) →
      ∀ cs, Text.Gbk.Reads .none bytes.toList cs ↔ (decodeOutput bytes).toList = cs) ∧
    ∀ (s : String) (others : World → World → Prop) (p : Parser) (file : Path) (w w' v : World)
      (log : List (Ran World)) (a : Option Document) (o : Outcome),
      bytes = s.toUTF8 → Text.Gbk.replacement ∉ s.toList →
      Plays others (parse p file) w log a w' → RunsOnce p file log v → reply p file v = .ok o →
      o.code = some 0 → o.stdout = bytes →
      a = (Document.ofText? (Text.trim s)).filter fun d => !d.hasErrors := by
  refine ⟨?_, fun h cs => ?_, ?_⟩
  · rintro s rfl
    exact Text.decodeOutput_toUTF8_eq_iff s
  · rw [Text.Gbk.reads_iff, Text.decodeOutput_toList h]
  · rintro s others p file w w' v log a o rfl hplain hplays honce hreply hcode hprinted
    rcases plays_parse_answers hplays with hquiet | ⟨v', honce', rfl⟩
    · rcases honce.exists_starts with ⟨x, hx, hstarts⟩
      exact absurd hstarts (hquiet x hx)
    · have hread : o.stdoutText = s := by
        rw [Outcome.stdoutText, hprinted]
        exact (Text.decodeOutput_toUTF8_eq_iff s).2 hplain
      rw [honce'.unique honce, hreply, printed?, verdict_of_success hcode, hread]
      cases Document.ofText? (Text.trim s) with
      | none => rfl
      | some d => cases herrors : d.hasErrors <;> simp [Option.filter, herrors]

/-- What a script prints about a module with one class. -/
def outline : String := "\x7b\"classes\":[\x7b\"name\":\"A\",\"line\":1\x7d]\x7d"

/-- The left file is parsed, and the script prints text without a replacement character. -/
theorem output_read_as_printed_outline :
    decodeOutput outline.toUTF8 = outline ∧
    ∃ log a w', Plays Beside (parse Activity.parser ⟨"/left/t.py"⟩)
        (answering Activity.twins Cache.Table.output) log a w' ∧ a = some Cache.Table.plain := by
  have hplain : Text.Gbk.replacement ∉ outline.toList := by decide
  have hplaced := Activity.placed_twins.1
  have hmissing :
      found (answering Activity.twins Cache.Table.output) ⟨"/left"⟩ "t.py" 7 = none := by
    rw [found_answering, Activity.load_twins (.inl rfl)]
    rfl
  have hplays := plays_alone (p := Activity.parser) hplaced.address hplaced.time hmissing
  have honce := runsOnce_alone Activity.parser ⟨"/left"⟩ "t.py" ⟨"/left/t.py"⟩ 7
    (answering Activity.twins Cache.Table.output)
  have hreply := reply_answering Activity.parser ⟨"/left/t.py"⟩ ⟨"/left"⟩ Activity.twins
    Cache.Table.output
  rcases output_read_as_printed outline.toUTF8 with ⟨hreads, -, hanswers⟩
  have hread := (hreads outline rfl).2 hplain
  refine ⟨hread, _, _, _, hplays, ?_⟩
  rw [hanswers outline Beside _ _ _ _ _ _ _ _ rfl hplain hplays honce hreply rfl rfl]
  rcases verdict_eq_parsed_iff.1 Cache.Table.verdict_printed with ⟨o, heq, -, hdocument, herrors⟩
  have htext : o.stdoutText = outline :=
    (congrArg Outcome.stdoutText (Except.ok.inj heq)).symm.trans hread
  rw [← htext, hdocument]
  simp [Option.filter, herrors]

/-- A replacement character that was printed is read as another character, and one for the last
byte. -/
theorem output_misread :
    decodeOutput "\ufffd".toUTF8 = "锟\ufffd" ∧ "锟\ufffd" ≠ "\ufffd" := by
  have hbytes : Text.Gbk.utf8 ("\ufffd" : String).toList = [0xEF, 0xBF, 0xBD] := by decide
  have hfirst : Text.Gbk.decode [0xEF, 0xBF, 0xBD] =
      (Text.Gbk.pair? 0xEF 0xBF).getD Text.Gbk.replacement :: Text.Gbk.decode [0xBD] :=
    Text.Gbk.decode_wide rfl rfl rfl [0xBD]
  have hlast : Text.Gbk.decode [0xBD] = [Text.Gbk.replacement] := Text.Gbk.decode_lead rfl
  have hmarred : Text.Gbk.replacement ∈ ("\ufffd" : String).toList := by decide
  refine ⟨?_, by decide⟩
  rw [Text.decodeOutput_toUTF8, if_pos hmarred, hbytes, hfirst, hlast, Text.Gbk.pair?_replacement]
  decide

end Parsing
end Testbench
