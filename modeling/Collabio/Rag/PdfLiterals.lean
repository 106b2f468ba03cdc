import Mathlib.Tactic
import Collabio.Library.BracketedText
import Collabio.Rag.PdfParser

/-!
# Literal strings of PDF streams

The two loops that read the literals of a stream are the scanner of bracketed text, with
parentheses and the backslash.

* `pdf_literal_strings` — what the loops return, and when they raise;
* `parsePdf_eq_ok`      — the text of a file is that of the literals of its streams.
-/

namespace Collabio

theorem parentheses_distinct : (40 : UInt8) ≠ 41 ∧ (40 : UInt8) ≠ 92 ∧ (41 : UInt8) ≠ 92 := by
  decide

/-- Parentheses, and the backslash. -/
def pdfBrackets : Brackets UInt8 where
  opening := 40
  closing := 41
  escape := 92
  opening_ne_closing := parentheses_distinct.1
  opening_ne_escape := parentheses_distinct.2.1
  closing_ne_escape := parentheses_distinct.2.2

def unterminated : ParserExn := .workerError "PDF literal string is unterminated"

/-- A result of the scanner, as the loops give it. -/
def ofScan {α : Type} : Option α → Except ParserExn α
  | some a => .ok a
  | none => .error unterminated

/-- The code counts the outermost parenthesis too. -/
theorem readPdfLiteralString_eq (depth : Nat) (value stream : Bytes) :
    readPdfLiteralString (depth + 1) value stream = ofScan (pdfBrackets.read depth value stream) := by
  fun_induction pdfBrackets.read depth value stream with
  | case1 => rfl
  | case2 => rfl
  | case3 depth value escaped stream ih => exact ih
  | case4 depth value stream _ ih =>
    conv_lhs => unfold readPdfLiteralString
    rw [if_neg (by decide), if_pos (show pdfBrackets.opening = 40 from rfl)]
    exact ih
  | case5 value stream =>
    -- the outermost parenthesis is the one that takes the count to zero
    conv_lhs => unfold readPdfLiteralString
    rw [if_neg (by decide), if_neg (by decide), if_pos (show pdfBrackets.closing = 41 from rfl),
      if_pos rfl]
    rfl
  | case6 value stream depth _ _ ih =>
    conv_lhs => unfold readPdfLiteralString
    rw [if_neg (by decide), if_neg (by decide), if_pos (show pdfBrackets.closing = 41 from rfl),
      if_neg (by omega)]
    exact ih
  | case7 depth value byte stream hescape hopening hclosing ih =>
    conv_lhs => unfold readPdfLiteralString
    rw [if_neg (show ¬ byte = 92 from hescape), if_neg (show ¬ byte = 40 from hopening),
      if_neg (show ¬ byte = 41 from hclosing)]
    exact ih

/-- The texts of literals, stripped; those with nothing left are passed over. -/
def literalTexts (literals : List Bytes) : List String :=
  (literals.map fun literal => Text.strip (decodeLatin1 literal)).filter (· ≠ "")

theorem pdfLiteralStringsFrom_eq (values : List String) (stream : Bytes) :
    pdfLiteralStringsFrom values stream =
      (ofScan (pdfBrackets.literals stream)).map fun literals => values ++ literalTexts literals := by
  fun_induction pdfLiteralStringsFrom values stream with
  | case1 values =>
    -- the stream is over
    rw [Brackets.literals]
    exact congrArg Except.ok (List.append_nil values).symm
  | case2 values byte stream hbyte ih => rw [ih, Brackets.literals_skip hbyte]
  | case3 values byte stream hbyte exn hread =>
    rw [not_not] at hbyte
    subst hbyte
    rw [readPdfLiteralString_eq 0] at hread
    cases hscan : pdfBrackets.read 0 [] stream with
    -- the literal is not closed, and the scan fails with the reader
    | none =>
      rw [hscan] at hread
      cases hread
      rw [show (40 : UInt8) = pdfBrackets.opening from rfl, Brackets.literals_of_not_read hscan]
      rfl
    | some found =>
      rw [hscan] at hread
      cases hread
  | case4 values byte stream hbyte value behind hread _ decoded ih =>
    rw [not_not] at hbyte
    subst hbyte
    -- the literal is read, and the loop goes on behind it
    have hscan : pdfBrackets.read 0 [] stream = some (value, behind) := by
      rw [readPdfLiteralString_eq 0] at hread
      cases hscan : pdfBrackets.read 0 [] stream with
      | none =>
        rw [hscan] at hread
        cases hread
      | some found =>
        rw [hscan] at hread
        cases hread
        rfl
    rw [show (40 : UInt8) = pdfBrackets.opening from rfl, Brackets.literals_of_read hscan]
    refine Eq.trans ih ?_
    cases pdfBrackets.literals behind with
    | none => rfl
    | some literals =>
      refine congrArg Except.ok ?_
      show (if decoded = "" then values else values ++ [decoded]) ++ literalTexts literals =
        values ++ literalTexts (value :: literals)
      unfold literalTexts
      rw [List.map_cons]
      -- an empty text is not kept
      by_cases hempty : decoded = ""
      · rw [if_pos hempty, List.filter_cons_of_neg (by simpa using hempty)]
      · rw [if_neg hempty, List.filter_cons_of_pos (by simpa using hempty), List.append_assoc]
        rfl

theorem pdfLiteralStrings_eq (stream : Bytes) :
    pdfLiteralStrings stream = (ofScan (pdfBrackets.literals stream)).map literalTexts := by
  unfold pdfLiteralStrings
  rw [pdfLiteralStringsFrom_eq]
  rfl

theorem pdfLiteralStrings_eq_ok {stream : Bytes} {texts : List String} :
    pdfLiteralStrings stream = .ok texts ↔
      ∃ literals, pdfBrackets.Literals stream literals ∧ texts = literalTexts literals := by
  rw [pdfLiteralStrings_eq]
  constructor
  · intro h
    cases hscan : pdfBrackets.literals stream with
    | none =>
      rw [hscan] at h
      cases h
    | some literals =>
      rw [hscan] at h
      cases h
      exact ⟨literals, Brackets.literals_eq_some.mp hscan, rfl⟩
  · rintro ⟨literals, hliterals, rfl⟩
    rw [Brackets.literals_eq_some.mpr hliterals]
    rfl

theorem decodeLatin1_eq_empty {s : Bytes} : decodeLatin1 s = "" ↔ s = [] := by
  unfold decodeLatin1
  rw [String.ofList_eq_empty_iff, List.map_eq_nil_iff]

/-- **Literal strings.** The loops raise exactly if one of the outermost literals is not closed,
and otherwise return the stripped texts of exactly the outermost literals. A literal whose
parentheses and backslashes are escaped gives its text back. -/
theorem pdf_literal_strings (stream : Bytes) :
    (pdfLiteralStrings stream = .error unterminated ↔ pdfBrackets.Unclosed stream) ∧
    (¬ pdfBrackets.Unclosed stream → ∃ literals, pdfBrackets.Literals stream literals) ∧
    (∀ literals, pdfBrackets.Literals stream literals →
      pdfLiteralStrings stream = .ok (literalTexts literals)) ∧
    ∀ s, s ≠ [] → Text.strip (decodeLatin1 s) = decodeLatin1 s →
      pdfLiteralStrings (40 :: (pdfBrackets.escaped s ++ [41])) = .ok [decodeLatin1 s] := by
  refine ⟨?_, ?_, ?_, ?_⟩
  · rw [← Brackets.literals_eq_none, pdfLiteralStrings_eq]
    -- the loops raise where the scan finds no literals
    cases pdfBrackets.literals stream with
    | none => exact ⟨fun _ => rfl, fun _ => rfl⟩
    | some literals =>
      constructor
      · intro h
        cases h
      · intro h
        cases h
  · intro hclosed
    rw [← Brackets.literals_eq_none] at hclosed
    obtain ⟨literals, hliterals⟩ := Option.ne_none_iff_exists'.mp hclosed
    exact ⟨literals, Brackets.literals_eq_some.mp hliterals⟩
  · intro literals hliterals
    exact pdfLiteralStrings_eq_ok.mpr ⟨literals, hliterals, rfl⟩
  · intro s hs hstripped
    -- a single literal, whose escapes are taken back
    have hscan : pdfBrackets.literals (40 :: (pdfBrackets.escaped s ++ [41])) = some [s] :=
      Brackets.literals_escaped s
    have htext : decodeLatin1 s ≠ "" := fun hempty => hs (decodeLatin1_eq_empty.mp hempty)
    rw [pdfLiteralStrings_eq, hscan]
    show Except.ok (literalTexts [s]) = _
    unfold literalTexts
    rw [List.map_singleton, hstripped, List.filter_cons_of_pos (by simpa using htext)]
    rfl

/-- The parentheses of a text are its own. -/
theorem sample_literal_string :
    pdfLiteralStrings (40 :: (pdfBrackets.escaped (asciiBytes "f(x) \\ y") ++ [41])) =
      .ok [decodeLatin1 (asciiBytes "f(x) \\ y")] :=
  (pdf_literal_strings []).2.2.2 (asciiBytes "f(x) \\ y") (by decide) (by decide)

namespace RichDocumentParserWorker

/-- The text of a file that is read: the texts of the literals of its streams, line by line. -/
theorem parsePdf_eq_ok {worker : RichDocumentParserWorker} {content : Bytes} {text : String}
    (h : worker.parsePdf content = .ok text) :
    ∃ streams literals, worker.pdfStreams content = .ok streams ∧
      List.Forall₂ pdfBrackets.Literals streams literals ∧
      text = "\n".intercalate (literals.flatMap literalTexts) := by
  unfold parsePdf at h
  rw [Except.bind_eq_ok] at h
  obtain ⟨streams, hstreams, h⟩ := h
  rw [Except.bind_eq_ok] at h
  obtain ⟨texts, htexts, h⟩ := h
  cases h
  have hliterals : ∃ literals, List.Forall₂ pdfBrackets.Literals streams literals ∧
      texts.flatten = literals.flatMap literalTexts := by
    have hall := Except.mapM_eq_ok.mp htexts
    clear hstreams htexts
    induction hall with
    | nil => exact ⟨[], .nil, rfl⟩
    | cons hstream _ ih =>
      obtain ⟨first, hfirst, rfl⟩ := pdfLiteralStrings_eq_ok.mp hstream
      obtain ⟨rest, hrest, hflatten⟩ := ih
      refine ⟨first :: rest, .cons hfirst hrest, ?_⟩
      rw [List.flatten_cons, List.flatMap_cons, hflatten]
  obtain ⟨literals, hall, hflatten⟩ := hliterals
  exact ⟨streams, literals, hstreams, hall, by rw [hflatten]⟩

end RichDocumentParserWorker

end Collabio
