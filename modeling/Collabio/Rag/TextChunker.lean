import Mathlib.Tactic
import Collabio.Library.TrimmedWindows
import Collabio.Rag.SourceIndexing

/-!
# Fixed-size chunks

`FixedSizeTextChunker` reads a text in windows and keeps what is left of each without the
whitespace at its ends.

* `chunkLoop_eq`      — the loop makes the chunks of the trimmed windows, numbered;
* `nodup_chunkIds`    — the numbers are read off the ids again;
* `fixed_size_chunks` — when it raises, and what the chunks are otherwise.
-/

namespace Collabio

open TrimmedWindows (Piece pieces piece)

/-- `sha256_text`. -/
def sha256Text (H : HashFunctions) (value : String) : String :=
  computeContentHash H (Text.encodeUtf8 value)

/-- The overlap is smaller than a chunk. -/
structure FixedSizeTextChunker where
  maxCharacters     : ℕ := 1200
  overlapCharacters : ℕ := 0
  chunkIdPrefix     : String := "chunk"
  positive          : 1 ≤ maxCharacters
  smaller           : overlapCharacters < maxCharacters
  nonEmpty          : chunkIdPrefix ≠ ""

namespace FixedSizeTextChunker

/-- The constructor. -/
def make (maxCharacters overlapCharacters : ℤ) (chunkIdPrefix : String) :
    Except Exn FixedSizeTextChunker :=
  if hmax : maxCharacters < 1 then
    .error (.valueError (.message "max_characters must be greater than or equal to 1"))
  else if hoverlap : overlapCharacters < 0 ∨ overlapCharacters ≥ maxCharacters then
    .error (.valueError
      (.message "overlap_characters must be non-negative and smaller than max_characters"))
  else if hprefix : chunkIdPrefix = "" then
    .error (.valueError (.message "chunk_id_prefix must not be empty"))
  else
    .ok {
      maxCharacters := maxCharacters.toNat
      overlapCharacters := overlapCharacters.toNat
      chunkIdPrefix
      positive := by omega
      smaller := by omega
      nonEmpty := hprefix }

variable (chunker : FixedSizeTextChunker) (H : HashFunctions)

def step : ℕ := chunker.maxCharacters - chunker.overlapCharacters

theorem step_pos : 0 < chunker.step := Nat.sub_pos_of_lt chunker.smaller

/-- `f"{prefix}-{index:04d}"`. -/
def chunkId (index : ℕ) : String :=
  chunker.chunkIdPrefix ++ "-" ++ String.ofList (Datetime.padded 4 index)

def extractedChunk (index : ℕ) (segment : List Char) : ExtractedChunk where
  chunkId := chunker.chunkId index
  text := String.ofList segment
  contentHash := sha256Text H (String.ofList segment)
  contentByteLength := (Text.encodeUtf8 (String.ofList segment)).length

/-- The loop, from a start on and with the chunks so far. -/
def chunkLoop (normalized : List Char) (start : ℕ) (chunks : List ExtractedChunk) :
    List ExtractedChunk :=
  if start < normalized.length then
    let segment := Text.stripChars ((normalized.drop start).take chunker.maxCharacters)
    chunkLoop normalized (start + chunker.step)
      (if segment = [] then chunks
        else chunks ++ [chunker.extractedChunk H chunks.length segment])
  else chunks
termination_by normalized.length - start
decreasing_by
  have := chunker.step_pos
  omega

/-- The source is not read. -/
def chunk (_source : ResolvedSource) (text : String) : Except Exn (List ExtractedChunk) := do
  let normalized := Text.strip text
  require (normalized ≠ "") (.valueError (.message "extracted source text is empty"))
  let chunks := chunker.chunkLoop H normalized.toList 0 []
  require (chunks ≠ []) (.valueError (.message "source text produced no chunks"))
  return chunks

/-! ## The loop -/

/-- The trimmed windows of a text. -/
def places (normalized : List Char) (start : ℕ) : List (Piece Char) :=
  pieces Text.isSpace normalized chunker.maxCharacters chunker.step start

variable {chunker H}

theorem chunkLoop_eq {normalized : List Char} {start : ℕ} {chunks : List ExtractedChunk} :
    chunker.chunkLoop H normalized start chunks =
      chunks ++ ((chunker.places normalized start).zipIdx chunks.length).map fun place =>
        chunker.extractedChunk H place.2 place.1.items := by
  induction start using TrimmedWindows.windows_induction normalized chunker.step
    generalizing chunks with
  | inside start hinside ih =>
    rw [chunkLoop, if_pos hinside.1, places, pieces, if_pos hinside]
    dsimp only
    rw [ih]
    have hitems : (piece Text.isSpace normalized chunker.maxCharacters start).items =
        Text.stripChars ((normalized.drop start).take chunker.maxCharacters) := rfl
    rw [hitems]
    split
    · rfl
    · simp [places, hitems, List.zipIdx_cons]
  | outside start houtside =>
    have hend : ¬ start < normalized.length := fun h => houtside ⟨h, chunker.step_pos⟩
    rw [chunkLoop, if_neg hend, places, pieces, if_neg houtside]
    simp

/-! ## Chunk ids -/

theorem padded_injective (width : ℕ) : Function.Injective (Datetime.padded width) := by
  have hvalue : ∀ index, Nat.ofDigitChars 10 (Datetime.padded width index) 0 = index := by
    intro index
    rw [Datetime.padded, Nat.ofDigitChars_append, Nat.ofDigitChars_replicate_zero, Nat.mul_zero,
      Text.natChars, Nat.ofDigitChars_ten_toDigits]
  exact Function.LeftInverse.injective hvalue

theorem chunkId_injective : Function.Injective chunker.chunkId := by
  intro index index' h
  have hchars := congrArg String.toList h
  simp only [chunkId, String.toList_append, String.toList_ofList, List.append_cancel_left_eq]
    at hchars
  exact padded_injective 4 hchars

theorem nodup_chunkIds (normalized : List Char) (start : ℕ) :
    ((chunker.chunkLoop H normalized start []).map (·.chunkId)).Nodup := by
  rw [chunkLoop_eq, List.nil_append, List.map_map]
  have hids : ((ExtractedChunk.chunkId) ∘ fun place : Piece Char × ℕ =>
      chunker.extractedChunk H place.2 place.1.items) = chunker.chunkId ∘ Prod.snd := rfl
  rw [hids, ← List.map_map, List.zipIdx_map_snd]
  exact List.Nodup.map chunkId_injective List.nodup_range'

/-! ## What the chunks are -/

/-- The chunks are parts of the text, in its order, and have all of it but whitespace. -/
structure ChunkPlaces (chunker : FixedSizeTextChunker) (normalized : List Char)
    (chunks : List ExtractedChunk) (places : List (Piece Char)) : Prop where
  texts        : chunks.map (fun chunk => chunk.text.toList) = places.map (·.items)
  parts        : ∀ place ∈ places, place.stop ≤ normalized.length ∧
                   place.items = (normalized.drop place.start).take place.items.length
  order        : places.Pairwise fun a b => a.start ≤ b.start ∧ a.stop ≤ b.stop
  covered      : ∀ position c, normalized[position]? = some c → Text.isSpace c = false →
                   ∃ place ∈ places, place.Covers position
  multiplicity : ∀ position, places.countP (fun place => place.Covers position) ≤
                   (chunker.maxCharacters + chunker.step - 1) / chunker.step
  once         : chunker.overlapCharacters = 0 → ∀ position c, normalized[position]? = some c →
                   Text.isSpace c = false →
                     places.countP (fun place => place.Covers position) = 1

theorem chunkPlaces (normalized : List Char) : ChunkPlaces chunker normalized
    (chunker.chunkLoop H normalized 0 []) (chunker.places normalized 0) := by
  have hcovered : ∀ position c, normalized[position]? = some c → Text.isSpace c = false →
      ∃ place ∈ chunker.places normalized 0, place.Covers position := by
    intro position c hget hspace
    exact TrimmedWindows.covered (Nat.sub_le _ _) chunker.step_pos (Nat.zero_le _) hget hspace
  refine ⟨?_, ?_, TrimmedWindows.pieces_sorted 0, hcovered, ?_, ?_⟩
  · rw [chunkLoop_eq, List.nil_append, List.map_map]
    have htext : ((fun chunk : ExtractedChunk => chunk.text.toList) ∘ fun place : Piece Char × ℕ =>
        chunker.extractedChunk H place.2 place.1.items) = Piece.items ∘ Prod.fst := by
      funext place
      exact String.toList_ofList
    rw [htext, ← List.map_map, List.zipIdx_map_fst]
  · intro place hplace
    obtain ⟨start, -, hwindow⟩ := TrimmedWindows.mem_pieces hplace
    exact ⟨hwindow.inside, hwindow.items⟩
  · exact fun position => TrimmedWindows.countP_covers_le 0 position chunker.step_pos
  · intro hoverlap position c hget hspace
    -- without overlap a step is a whole window
    have hstep : chunker.step = chunker.maxCharacters := by
      rw [step, hoverlap, Nat.sub_zero]
    have hmany := @TrimmedWindows.countP_covers_le _ Text.isSpace normalized
      chunker.maxCharacters _ 0 position chunker.step_pos
    have hsome : 0 < (chunker.places normalized 0).countP (fun place => place.Covers position) := by
      obtain ⟨place, hplace, hcovers⟩ := hcovered position c hget hspace
      exact List.countP_pos_iff.mpr ⟨place, hplace, decide_eq_true hcovers⟩
    have hone : (chunker.maxCharacters + chunker.step - 1) / chunker.step = 1 := by
      have hpositive := chunker.positive
      rw [hstep]
      refine Nat.div_eq_of_lt_le ?_ ?_ <;> omega
    rw [hone] at hmany
    exact le_antisymm hmany hsome

/-- A chunk is a trimmed window that is not blank. -/
theorem chunk_text {normalized : List Char} {chunk : ExtractedChunk}
    (h : chunk ∈ chunker.chunkLoop H normalized 0 []) :
    chunk.text ≠ "" ∧ Text.strip chunk.text = chunk.text ∧
      chunk.text.toList.length ≤ chunker.maxCharacters := by
  rw [chunkLoop_eq, List.nil_append, List.mem_map] at h
  obtain ⟨⟨place, index⟩, hplace, rfl⟩ := h
  obtain ⟨start, -, hwindow⟩ := TrimmedWindows.mem_pieces (List.fst_mem_of_mem_zipIdx hplace)
  obtain ⟨hne, hhead, hlast⟩ := hwindow.trimmed
  have htext : (chunker.extractedChunk H index place.items).text.toList = place.items :=
    String.toList_ofList
  refine ⟨?_, Text.strip_eq_self ?_, ?_⟩
  · intro hempty
    rw [hempty] at htext
    exact hne htext.symm
  · rw [htext]
    exact ⟨hhead, hlast⟩
  · have hfirst : start ≤ place.start := hwindow.first
    have hstop : place.start + place.items.length ≤ start + chunker.maxCharacters := hwindow.last
    rw [htext]
    omega

/-- **Chunks.** A text raises exactly if it is blank. Otherwise its chunks are texts of at most
the size asked for, not empty, stripped and with ids of their own; they are parts of the
stripped text, in its order, and have all of it but whitespace. -/
theorem fixed_size_chunks (chunker : FixedSizeTextChunker) (H : HashFunctions)
    (source : ResolvedSource) (text : String) :
    ((∃ exn, chunker.chunk H source text = .error exn) ↔ Text.strip text = "") ∧
    ∀ chunks, chunker.chunk H source text = .ok chunks →
      (∀ chunk ∈ chunks, chunk.text ≠ "" ∧ Text.strip chunk.text = chunk.text ∧
        chunk.text.toList.length ≤ chunker.maxCharacters) ∧
      (chunks.map (·.chunkId)).Nodup ∧
      ∃ places, ChunkPlaces chunker (Text.strip text).toList chunks places := by
  by_cases hblank : Text.strip text = ""
  · have hraises : chunker.chunk H source text =
        .error (.valueError (.message "extracted source text is empty")) := by
      rw [chunk, require_of_not _ (not_not.mpr hblank)]
      rfl
    refine ⟨iff_of_true ⟨_, hraises⟩ hblank, fun chunks h => ?_⟩
    rw [hraises] at h
    cases h
  · have hsome : chunker.chunkLoop H (Text.strip text).toList 0 [] ≠ [] := by
      -- the text begins with a character that is not whitespace, and some chunk has it
      obtain ⟨c, hc⟩ : ∃ c, (Text.strip text).toList.head? = some c :=
        Option.isSome_iff_exists.mp (by simpa using hblank)
      have hspace : Text.isSpace c = false := (Text.trimmed_of_strip rfl).1 c hc
      rw [List.head?_eq_getElem?] at hc
      have hplaces := @chunkPlaces chunker H (Text.strip text).toList
      obtain ⟨place, hplace, -⟩ := hplaces.covered 0 c hc hspace
      intro hnil
      have htexts := hplaces.texts
      rw [hnil] at htexts
      rw [List.map_nil, eq_comm, List.map_eq_nil_iff] at htexts
      rw [htexts] at hplace
      cases hplace
    have hreturns : chunker.chunk H source text =
        .ok (chunker.chunkLoop H (Text.strip text).toList 0 []) := by
      rw [chunk, require_of _ hblank]
      exact require_bind_eq_ok.mpr ⟨hsome, rfl⟩
    refine ⟨iff_of_false ?_ hblank, fun chunks h => ?_⟩
    · rintro ⟨exn, h⟩
      rw [hreturns] at h
      cases h
    · rw [hreturns] at h
      cases h
      exact ⟨fun chunk hchunk => chunk_text hchunk, nodup_chunkIds _ 0, _, chunkPlaces _⟩

end FixedSizeTextChunker

end Collabio
