import Mathlib.Tactic
import Collabio.Library.Effect
import Collabio.Rag.PdfParser

/-!
# The size limit of PDF streams

The limit is compared with the stream as it stands in the file, before its filter.

* `pdfStreams_eq_ok` — what is returned, and when;
* `stream_limit_iff` — when the limit holds of what is returned;
* `inflated_stream_exceeds_limit` — a compressed stream beyond it.
-/

namespace Collabio

namespace RichDocumentParserWorker

variable {worker : RichDocumentParserWorker} {content : Bytes}

/-- The matched stream is within the limit, and can be decompressed if it has to be. -/
def Readable (worker : RichDocumentParserWorker) (groups : Bytes × Bytes) : Prop :=
  groups.2.length ≤ worker.maxPdfStreamBytes ∧
    (isFlate groups.1 → ∃ inflated, worker.decompress groups.2 = some inflated)

/-- Decompression keeps within the limit. -/
def InflatesWithin (worker : RichDocumentParserWorker) (groups : Bytes × Bytes) : Prop :=
  isFlate groups.1 → ∀ inflated, worker.decompress groups.2 = some inflated →
    inflated.length ≤ worker.maxPdfStreamBytes

theorem pdfStream_eq_ok {groups : Bytes × Bytes} {stream : Bytes} :
    worker.pdfStream groups = .ok stream ↔ groups.2.length ≤ worker.maxPdfStreamBytes ∧
      (isFlate groups.1 ∧ worker.decompress groups.2 = some stream ∨
        ¬ isFlate groups.1 ∧ stream = groups.2) := by
  obtain ⟨header, raw⟩ := groups
  unfold pdfStream
  dsimp only
  by_cases hlimit : worker.maxPdfStreamBytes < raw.length
  · rw [if_pos hlimit]
    constructor
    · intro h
      cases h
    · intro h
      omega
  · rw [if_neg hlimit]
    have hwithin : (raw.length : Int) ≤ worker.maxPdfStreamBytes := not_lt.mp hlimit
    by_cases hflate : isFlate header
    · rw [if_pos hflate]
      cases hinflated : worker.decompress raw <;> simp [hwithin, hflate]
    · rw [if_neg hflate]
      simp [hwithin, hflate, eq_comm]

theorem pdfStream_isOk {groups : Bytes × Bytes} :
    (∃ stream, worker.pdfStream groups = .ok stream) ↔ worker.Readable groups := by
  constructor
  · rintro ⟨stream, h⟩
    obtain ⟨hlimit, hfilter⟩ := pdfStream_eq_ok.mp h
    refine ⟨hlimit, fun hflate => ?_⟩
    rcases hfilter with ⟨-, hinflated⟩ | ⟨hraw, -⟩
    · exact ⟨stream, hinflated⟩
    · exact absurd hflate hraw
  · rintro ⟨hlimit, hinflates⟩
    by_cases hflate : isFlate groups.1
    · obtain ⟨inflated, hinflated⟩ := hinflates hflate
      exact ⟨inflated, pdfStream_eq_ok.mpr ⟨hlimit, .inl ⟨hflate, hinflated⟩⟩⟩
    · exact ⟨groups.2, pdfStream_eq_ok.mpr ⟨hlimit, .inr ⟨hflate, rfl⟩⟩⟩

/-- The streams of a file are those of its matches, if it has any. -/
theorem pdfStreams_eq_ok {streams : List Bytes} :
    worker.pdfStreams content = .ok streams ↔
      (pdfSections content).mapM worker.pdfStream = .ok streams ∧ streams ≠ [] := by
  unfold pdfStreams
  rw [Except.bind_eq_ok]
  constructor
  · rintro ⟨found, hfound, h⟩
    by_cases hnone : found = []
    · rw [if_pos hnone] at h
      cases h
    · rw [if_neg hnone] at h
      cases h
      exact ⟨hfound, hnone⟩
  · rintro ⟨hfound, hsome⟩
    refine ⟨streams, hfound, ?_⟩
    rw [if_neg hsome]
    rfl

/-- What a match gives is within the limit exactly if decompression keeps within it. -/
theorem pdfStream_within_iff {groups : Bytes × Bytes} (h : worker.Readable groups) :
    (∀ stream, worker.pdfStream groups = .ok stream →
      (stream.length : Int) ≤ worker.maxPdfStreamBytes) ↔ worker.InflatesWithin groups := by
  constructor
  · intro hwithin hflate inflated hinflated
    exact hwithin inflated (pdfStream_eq_ok.mpr ⟨h.1, .inl ⟨hflate, hinflated⟩⟩)
  · intro hinflates stream hstream
    rcases (pdfStream_eq_ok.mp hstream).2 with ⟨hflate, hinflated⟩ | ⟨-, rfl⟩
    · exact hinflates hflate stream hinflated
    · exact h.1

/-- **The size limit.** Every stream that is returned is within the limit exactly if no
`FlateDecode` stream of the file decompresses to more than that, or the file is refused because
another stream is too long or cannot be decompressed. -/
theorem stream_limit_iff (worker : RichDocumentParserWorker) (content : Bytes) :
    (∀ streams, worker.pdfStreams content = .ok streams →
      ∀ stream ∈ streams, (stream.length : Int) ≤ worker.maxPdfStreamBytes) ↔
    ((∀ groups ∈ pdfSections content, worker.Readable groups) →
      ∀ groups ∈ pdfSections content, worker.InflatesWithin groups) := by
  constructor
  · intro hwithin hreadable groups hgroups
    obtain ⟨streams, hstreams⟩ := Except.mapM_isOk fun groups hgroups =>
      pdfStream_isOk.mpr (hreadable groups hgroups)
    refine (pdfStream_within_iff (hreadable groups hgroups)).mp fun stream hstream => ?_
    obtain ⟨found, hmem, hfound⟩ := Except.mem_mapM_of_mem hstreams hgroups
    rw [hstream] at hfound
    cases hfound
    exact hwithin streams (pdfStreams_eq_ok.mpr ⟨hstreams, List.ne_nil_of_mem hmem⟩) stream hmem
  · intro hinflates streams hstreams stream hmem
    obtain ⟨hstreams, -⟩ := pdfStreams_eq_ok.mp hstreams
    have hreadable : ∀ groups ∈ pdfSections content, worker.Readable groups := by
      intro groups hgroups
      exact pdfStream_isOk.mp (Except.isOk_of_mapM hstreams groups hgroups)
    obtain ⟨groups, hgroups, hstream⟩ := Except.mem_of_mem_mapM hstreams hmem
    exact (pdfStream_within_iff (hreadable groups hgroups)).mpr
      (hinflates hreadable groups hgroups) stream hstream

/-! ## A compressed stream -/

theorem pdfSections_of_cut {header rest stream after : Bytes}
    (hheader : cutAt streamMarkers content = some (header, rest))
    (hstream : cutAt endMarkers rest = some (stream, after)) :
    pdfSections content = (header, stream) :: pdfSections after := by
  conv_lhs => unfold pdfSections
  split
  · simp_all
  · rename_i header' rest' hheader'
    rw [hheader] at hheader'
    cases hheader'
    split
    · simp_all
    · rename_i stream' after' hstream'
      rw [hstream] at hstream'
      cases hstream'
      rfl

theorem pdfSections_of_no_cut (h : cutAt streamMarkers content = none) :
    pdfSections content = [] := by
  unfold pdfSections
  split
  · rfl
  · simp_all

/-- Streams of one byte at most, and a decompressor that doubles its input. -/
def sampleWorker : RichDocumentParserWorker where
  maxPdfStreamBytes := 1
  decompress := fun stream => some (stream ++ stream)

def sampleFile : Bytes := asciiBytes "/FlateDecode stream\nx\nendstream"

/-- One byte in the file, two in what is returned. -/
theorem inflated_stream_exceeds_limit :
    ¬ ∀ streams, sampleWorker.pdfStreams sampleFile = .ok streams →
      ∀ stream ∈ streams, (stream.length : Int) ≤ sampleWorker.maxPdfStreamBytes := by
  have hsections : pdfSections sampleFile = [(asciiBytes "/FlateDecode ", asciiBytes "x")] := by
    have hheader : cutAt streamMarkers sampleFile =
        some (asciiBytes "/FlateDecode ", asciiBytes "x\nendstream") := by decide
    have hstream : cutAt endMarkers (asciiBytes "x\nendstream") = some (asciiBytes "x", []) := by
      decide
    rw [pdfSections_of_cut hheader hstream, pdfSections_of_no_cut rfl]
  have hstreams : sampleWorker.pdfStreams sampleFile = .ok [asciiBytes "xx"] := by
    rw [pdfStreams_eq_ok, hsections]
    exact ⟨by decide, List.cons_ne_nil _ _⟩
  intro hwithin
  exact absurd (hwithin _ hstreams _ List.mem_cons_self) (by decide)

end RichDocumentParserWorker

end Collabio
