import Mathlib.Tactic
import Collabio.Storage.ContentHash

/-!
# Text of PDF files

The part of `RichDocumentParserWorker` that reads the text of a PDF file: the content streams of
the file, and the literal strings of a stream. `zlib.decompress` is a parameter.
-/

namespace Collabio

/-- `ParserWorkerError`, and the error of it for inputs that are too large. -/
inductive ParserExn where
  | workerError (text : String)
  | inputTooLarge (text : String)
  deriving DecidableEq, Repr

/-- The bytes of a literal `b"..."`. -/
def asciiBytes (text : String) : Bytes := text.toList.map fun c => UInt8.ofNat c.toNat

/-! ## Content streams -/

/-- What comes before the first marker in the content, and what comes behind it. Where two markers
begin, the earlier one of the list is taken. -/
def cutAt (markers : List Bytes) : Bytes → Option (Bytes × Bytes)
  | [] => none
  | byte :: rest =>
    match markers.find? fun marker => marker.isPrefixOf (byte :: rest) with
    | some marker => some ([], (byte :: rest).drop marker.length)
    | none => (cutAt markers rest).map fun cut => (byte :: cut.1, cut.2)

/-- `stream\r?\n`. -/
def streamMarkers : List Bytes := [asciiBytes "stream\r\n", asciiBytes "stream\n"]

/-- `\r?\nendstream`. -/
def endMarkers : List Bytes := [asciiBytes "\r\nendstream", asciiBytes "\nendstream"]

theorem length_lt_of_cutAt {markers : List Bytes} (hmarkers : ∀ marker ∈ markers, marker ≠ [])
    {content before after : Bytes} (h : cutAt markers content = some (before, after)) :
    after.length < content.length := by
  induction content generalizing before with
  | nil => cases h
  | cons byte rest ih =>
    unfold cutAt at h
    split at h
    · rename_i marker hfound
      cases h
      have hlength := List.length_pos_iff.mpr (hmarkers marker (List.mem_of_find?_eq_some hfound))
      rw [List.length_drop, List.length_cons]
      omega
    · obtain ⟨cut, hcut, hsame⟩ := Option.map_eq_some_iff.mp h
      cases hsame
      have hshorter := ih hcut
      rw [List.length_cons]
      omega

theorem streamMarkers_ne_nil : ∀ marker ∈ streamMarkers, marker ≠ [] := by decide

theorem endMarkers_ne_nil : ∀ marker ∈ endMarkers, marker ≠ [] := by decide

/-- The matches of `(?s)(.*?)stream\r?\n(.*?)\r?\nendstream`, by their two groups. Both groups are
as short as they can be; a stream that no end follows leaves nothing more to be found. -/
def pdfSections (content : Bytes) : List (Bytes × Bytes) :=
  match hheader : cutAt streamMarkers content with
  | none => []
  | some (header, rest) =>
    match hstream : cutAt endMarkers rest with
    | none => []
    | some (stream, after) =>
      have := length_lt_of_cutAt streamMarkers_ne_nil hheader
      have := length_lt_of_cutAt endMarkers_ne_nil hstream
      (header, stream) :: pdfSections after
termination_by content.length

structure RichDocumentParserWorker where
  maxPdfStreamBytes : Int := 10000000
  /-- `zlib.decompress`; `none` where it raises `zlib.error`. -/
  decompress        : Bytes → Option Bytes

namespace RichDocumentParserWorker

variable (worker : RichDocumentParserWorker)

/-- The last 500 bytes before the stream name its filter. -/
def isFlate (header : Bytes) : Prop :=
  asciiBytes "/FlateDecode" <:+: header.drop (header.length - 500)

instance (header : Bytes) : Decidable (isFlate header) :=
  inferInstanceAs (Decidable (_ <:+: _))

/-- One turn of the loop over the matches. -/
def pdfStream (sectionGroups : Bytes × Bytes) : Except ParserExn Bytes :=
  let (header, stream) := sectionGroups
  if worker.maxPdfStreamBytes < stream.length then
    .error (.inputTooLarge "PDF stream exceeds configured byte limit")
  else if isFlate header then
    match worker.decompress stream with
    | some stream => .ok stream
    | none => .error (.workerError "failed to decompress PDF FlateDecode stream")
  else .ok stream

/-- `_pdf_streams`. -/
def pdfStreams (content : Bytes) : Except ParserExn (List Bytes) := do
  let streams ← (pdfSections content).mapM worker.pdfStream
  if streams = [] then .error (.workerError "PDF contains no extractable content streams")
  else return streams

end RichDocumentParserWorker

/-! ## Literal strings -/

/-- `_read_pdf_literal_string` from a place in the stream on: the value, and what is left of the
stream behind the literal. -/
def readPdfLiteralString (depth : Nat) (value : Bytes) :
    Bytes → Except ParserExn (Bytes × Bytes)
  | [] => .error (.workerError "PDF literal string is unterminated")
  | byte :: rest =>
    if byte = 92 then
      match rest with
      | [] => .error (.workerError "PDF literal string is unterminated")
      | escaped :: rest => readPdfLiteralString depth (value ++ [escaped]) rest
    else if byte = 40 then readPdfLiteralString (depth + 1) (value ++ [byte]) rest
    else if byte = 41 then
      if depth - 1 = 0 then .ok (value, rest)
      else readPdfLiteralString (depth - 1) (value ++ [byte]) rest
    else readPdfLiteralString depth (value ++ [byte]) rest

theorem length_lt_of_readPdfLiteralString {depth : Nat} {value stream text rest : Bytes}
    (h : readPdfLiteralString depth value stream = .ok (text, rest)) :
    rest.length < stream.length := by
  fun_induction readPdfLiteralString depth value stream with
  | case1 => cases h
  | case2 => cases h
  | case3 depth value escaped stream ih =>
    -- an escape is two bytes long
    have hshorter := ih h
    simp only [List.length_cons]
    omega
  | case4 depth value stream _ ih =>
    have hshorter := ih h
    rw [List.length_cons]
    omega
  | case5 =>
    cases h
    exact Nat.lt_succ_self _
  | case6 depth value stream _ _ _ ih =>
    have hshorter := ih h
    rw [List.length_cons]
    omega
  | case7 depth value byte stream _ _ _ ih =>
    have hshorter := ih h
    rw [List.length_cons]
    omega

/-- `value.decode("latin-1")`. -/
def decodeLatin1 (value : Bytes) : String :=
  String.ofList (value.map fun byte => Char.ofNat byte.toNat)

/-- The loop of `_pdf_literal_strings`, from a place in the stream on. -/
def pdfLiteralStringsFrom (values : List String) (stream : Bytes) :
    Except ParserExn (List String) :=
  match stream with
  | [] => .ok values
  | byte :: rest =>
    if byte ≠ 40 then pdfLiteralStringsFrom values rest
    else
      match h : readPdfLiteralString 1 [] rest with
      | .error exn => .error exn
      | .ok (value, behind) =>
        have := length_lt_of_readPdfLiteralString h
        let decoded := Text.strip (decodeLatin1 value)
        pdfLiteralStringsFrom (if decoded = "" then values else values ++ [decoded]) behind
termination_by stream.length
decreasing_by
  · simp only [List.length_cons]
    omega
  · simp only [List.length_cons]
    omega

def pdfLiteralStrings (stream : Bytes) : Except ParserExn (List String) :=
  pdfLiteralStringsFrom [] stream

/-- `_parse_pdf`. -/
def RichDocumentParserWorker.parsePdf (worker : RichDocumentParserWorker) (content : Bytes) :
    Except ParserExn String := do
  let streams ← worker.pdfStreams content
  let textChunks ← streams.mapM pdfLiteralStrings
  return "\n".intercalate textChunks.flatten

end Collabio
