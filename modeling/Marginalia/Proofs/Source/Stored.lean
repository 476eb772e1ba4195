/-
Module: Marginalia.Proofs.Source.Stored
Purpose: Offsets into a file as it is stored. A file becomes a source exactly if its octets are well-formed, and
  the content of the source then has these very octets as its octet form: nothing is dropped, translated or
  put in front. So an offset into the file is an offset into the content, and its cell can be counted in the
  octets of the file, by line feeds and by lead octets.
Main exports: Source.cellAt?_of_isBoundary, Source.ofFile_offsets
-/

import Marginalia.Proofs.Files
import Marginalia.Proofs.Source.Offsets

namespace Marginalia

open CodePoint (newline)
open Utf8 (isContinuation)

/-- The cell of a boundary, counted in the octets in front of it. -/
theorem Source.cellAt?_of_isBoundary (name : Text) {content : Text} {n : Nat} (bound : content.IsBoundary n) :
    ∃ cell, (ofText name content).cellAt? n = some cell ∧
      cell.line = 1 + (content.encode.take n).count 0x0A ∧
      cell.column = 1 + ((content.encode.take n).rtakeWhile fun octet => octet ≠ 0x0A).countP
        fun octet => !isContinuation octet := by
  rcases bound with ⟨p, start, rfl⟩
  have front : content.encode.take p.encode.length = p.encode := by
    rcases start with ⟨rest, rfl⟩
    rw [Text.encode_append, List.take_left]
  refine ⟨Cell.after p, cellAt?_length_encode name start, ?_, ?_⟩
  · rw [front, Text.count_newline_encode, Cell.line_after]
  · rw [front, Text.rtakeWhile_encode, Text.countP_lead_encode, Cell.column_after]

/-- Offsets refer to a file as it is stored. A file that is there becomes a source unless its octets are not
    well-formed, which is the only fault left; well-formed are exactly the octet forms of texts without
    surrogates. The source has the name of the file and its octets, as many as are stored, and the cell of an
    offset at a lead octet or at the end is counted in the octets in front: the line by line feeds, the column
    by lead octets behind the last of them. -/
theorem Source.ofFile_offsets (view : FileView) (name : Text) {stored : Octets}
    (there : view.read (FilePath.parse name) = .ok stored) :
    ((∃ fault, ofFile view name = .error (.decode fault)) ↔ ¬ Utf8.WellFormed stored) ∧
    (Utf8.WellFormed stored ↔ ∃ t : Text, (∀ c ∈ t, c.isSurrogate = false) ∧ t.encode = stored) ∧
    (Utf8.WellFormed stored → ∃ source, ofFile view name = .ok source ∧ source.name = name ∧
      source.octets = some stored ∧ source.octetLength = some stored.length ∧
      ∀ s : Nat, (s = stored.length ∨ ∃ octet, stored[s]? = some octet ∧ isContinuation octet = false) →
        ∃ cell, source.cellAt? s = some cell ∧ cell.line = 1 + (stored.take s).count 0x0A ∧
          cell.column = 1 + ((stored.take s).rtakeWhile fun octet => octet ≠ 0x0A).countP
            fun octet => !isContinuation octet) := by
  have read : ofFile view name = ((Utf8.decode stored).mapError ReadFault.decode).map (ofText name) := by
    rw [ofFile, FileView.readText_of_read there]
  refine ⟨?_, Utf8.wellFormed_iff_exists_encode, ?_⟩
  · rw [← Utf8.succeeds_decode, read]
    cases Utf8.decode stored with
    | error fault => exact iff_of_true ⟨fault, rfl⟩ (not_succeeds_error fault)
    | ok t =>
        refine iff_of_false ?_ (not_not_intro (succeeds_ok t))
        rintro ⟨fault, same⟩
        cases same
  · intro well_formed
    rcases Utf8.succeeds_decode.2 well_formed with ⟨t, decoded⟩
    rcases Utf8.decode_eq_ok_iff.1 decoded with ⟨-, rfl⟩
    refine ⟨ofText name t, by rw [read, decoded]; rfl, rfl, rfl, rfl, fun s leads => ?_⟩
    exact cellAt?_of_isBoundary name ((t.isBoundary_iff_octet s).2 leads)

/-- A byte order mark, a null, a carriage return and a line feed, and a letter of two octets. -/
def Source.storedSample : Text :=
  [CodePoint.ofNat 0xFEFF, CodePoint.ofNat 0, CodePoint.ofNat 0x0D, newline, CodePoint.ofNat 0xE9]

theorem Source.ofFile_offsets_byte_order_mark :
    ∃ source, ofFile (fun _ => .file storedSample.encode) ['s'] = .ok source ∧
      source.octetLength = some 8 ∧ (∃ cell, source.cellAt? 5 = some cell ∧ cell.line = 1 ∧ cell.column = 4) ∧
      ∃ cell, source.cellAt? 8 = some cell ∧ cell.line = 2 ∧ cell.column = 2 := by
  have there : FileView.read (fun _ => .file storedSample.encode) (FilePath.parse ['s']) =
      .ok storedSample.encode := rfl
  obtain ⟨-, syntax_iff, offsets⟩ := ofFile_offsets (fun _ => .file storedSample.encode) ['s'] there
  rcases offsets (syntax_iff.2 ⟨storedSample, by decide, rfl⟩) with ⟨source, found, -, -, length, cells⟩
  refine ⟨source, found, length, ?_, ?_⟩
  · exact cells 5 (.inr ⟨0x0A, by decide, by decide⟩)
  · exact cells 8 (.inl (by decide))

end Marginalia
