/-
Module: Marginalia.Proofs.Files
Purpose: What can be learnt of a path. A file that is there is read unless its octets are not well-formed or it may
  not be read, and what cannot be read is else no file, apart from the places where the question is refused. So a
  path leads to a text, to nothing, to a file that has no text, or nowhere that may be asked about.
Main exports: FileView.readText_of_read, FileView.readText_of_encode, FileView.readText_eq_form_iff,
  FileView.isFile_eq_true_iff, FileView.NotText, FileView.not_succeeds_readText_iff,
  FileView.notText_or_not_succeeds_isFile_iff, FileView.isFile_eq_false_or_readText_iff
-/

import Marginalia.Files.View
import Marginalia.Proofs.Text.Decoding

namespace Marginalia

namespace FileView

variable {view : FileView} {path : FilePath} {form : FilePath.FormFault} {stored : Octets} {t : Text}

/-!
### Reading
-/

/-- A text that names no file is found out before anything is looked up. -/
theorem read_eq_form_iff : view.read path = .error (.form form) ↔ FilePath.octets path.text = .error form := by
  rw [read]
  cases FilePath.octets path.text with
  | error other => simp
  | ok octets => cases view path <;> simp

/-- Of a file that is there only the octets can be at fault. -/
theorem readText_of_read (there : view.read path = .ok stored) :
    view.readText path = (Utf8.decode stored).mapError ReadFault.decode := by
  simp only [readText, there]
  cases Utf8.decode stored with
  | error fault => rfl
  | ok t => rfl

theorem readText_eq_file_iff {fault : FileFault} :
    view.readText path = .error (.file fault) ↔ view.read path = .error fault := by
  cases there : view.read path with
  | error other => simp [readText, there]
  | ok stored =>
      rw [readText_of_read there, mapError_eq_error_iff]
      simp

theorem readText_eq_form_iff :
    view.readText path = .error (.file (.form form)) ↔ FilePath.octets path.text = .error form := by
  rw [readText_eq_file_iff, read_eq_form_iff]

/-- A file that holds the octets of a text without surrogates is read as that text. -/
theorem readText_of_encode (scalar : ∀ c ∈ t, c.isSurrogate = false) (there : view.read path = .ok t.encode) :
    view.readText path = .ok t := by
  rw [readText_of_read there, Utf8.decode_eq_ok_iff.2 ⟨scalar, rfl⟩]
  rfl

/-- A file is there and has no text: its octets are not well-formed, or it may not be read. -/
inductive NotText (view : FileView) (path : FilePath) : Prop where
  | malformed {stored : Octets} (there : view.read path = .ok stored) (ill_formed : ¬ Utf8.WellFormed stored) :
      NotText view path
  | unreadable (named : Succeeds (FilePath.octets path.text)) (there : view path = .unreadable) : NotText view path

theorem not_succeeds_read_of_unreadable (there : view path = .unreadable) : ¬ Succeeds (view.read path) := by
  rw [read, there]
  cases FilePath.octets path.text with
  | error form => exact not_succeeds_error _
  | ok octets => exact not_succeeds_error _

theorem not_succeeds_readText_iff :
    ¬ Succeeds (view.readText path) ↔ ¬ Succeeds (view.read path) ∨ view.NotText path := by
  cases there : view.read path with
  | error fault =>
      have unread := readText_eq_file_iff.2 there
      simp [unread]
  | ok stored =>
      rw [readText_of_read there, succeeds_mapError, Utf8.succeeds_decode]
      constructor
      · exact fun ill_formed => .inr (.malformed there ill_formed)
      · rintro (unread | no_text)
        · exact absurd ⟨stored, rfl⟩ unread
        · cases no_text with
          | malformed also ill_formed =>
              obtain rfl := Except.ok.inj (there.symm.trans also)
              exact ill_formed
          | unreadable _ unreadable => exact absurd ⟨stored, there⟩ (not_succeeds_read_of_unreadable unreadable)

/-!
### Asking
-/

/-- Where a file stands it can be read, unless that is not permitted. -/
theorem isFile_eq_true_iff : view.isFile path = .ok true ↔
    Succeeds (view.read path) ∨ Succeeds (FilePath.octets path.text) ∧ view path = .unreadable := by
  rw [isFile, read]
  cases FilePath.octets path.text with
  | error form => simp
  | ok octets => cases view path <;> simp

theorem isFile_of_readText (text : view.readText path = .ok t) : view.isFile path = .ok true := by
  rw [isFile_eq_true_iff]
  by_contra missing
  exact not_succeeds_readText_iff.2 (.inl (not_or.1 missing).1) ⟨t, text⟩

theorem NotText.isFile_eq (no_text : view.NotText path) : view.isFile path = .ok true := by
  rw [isFile_eq_true_iff]
  cases no_text with
  | malformed there => exact .inl ⟨_, there⟩
  | unreadable named there => exact .inr ⟨named, there⟩

/-- Whether a text names a file can always be asked. -/
theorem isFile_ne_form : view.isFile path ≠ .error (.form form) := by
  rw [isFile]
  cases FilePath.octets path.text with
  | error other => simp
  | ok octets => cases view path <;> simp

/-- Where a file stands the path is possible. -/
theorem read_ne_form_of_isFile (is_file : view.isFile path = .ok true) : view.read path ≠ .error (.form form) := by
  rw [Ne, read_eq_form_iff]
  intro nameless
  rw [isFile, nameless] at is_file
  cases is_file

/-- A file has no text, or the question is refused for a name that is too long or for a place that may not be looked
    at, where reading ends in the same fault. -/
theorem notText_or_not_succeeds_isFile_iff : view.NotText path ∨ ¬ Succeeds (view.isFile path) ↔
    view.NotText path ∨ view.read path = .error (.nameTooLong path) ∨ view.read path = .error (.forbidden path) := by
  have unreadable := @NotText.unreadable view path
  rw [isFile, read]
  cases named : FilePath.octets path.text with
  | error form => simp
  | ok octets =>
      rw [named] at unreadable
      cases there : view path <;> simp_all

/-- A path is no file, or one with a text, unless it is a file that is no text or cannot be asked about. -/
theorem isFile_eq_false_or_readText_iff :
    view.isFile path = .ok false ∨ Succeeds (view.readText path) ↔
      ¬ (view.NotText path ∨ ¬ Succeeds (view.isFile path)) := by
  have readable : Succeeds (view.readText path) ↔ view.isFile path = .ok true ∧ ¬ view.NotText path := by
    constructor
    · rintro ⟨t, text⟩
      exact ⟨isFile_of_readText text, fun no_text => not_succeeds_readText_iff.2 (.inr no_text) ⟨t, text⟩⟩
    · rintro ⟨is_file, has_text⟩
      by_contra unread
      rcases not_succeeds_readText_iff.1 unread with missing | no_text
      · rcases isFile_eq_true_iff.1 is_file with there | ⟨named, there⟩
        · exact missing there
        · exact has_text (.unreadable named there)
      · exact has_text no_text
  have of_notText : view.NotText path → view.isFile path = .ok true := NotText.isFile_eq
  rw [readable]
  cases asked : view.isFile path with
  | error fault => simp
  | ok answer =>
      rw [asked] at of_notText
      cases answer with
      | false => simpa using of_notText
      | true => simp

end FileView

/-- What is no file brings no source. -/
theorem Source.toOption_ofFile_eq_none {view : FileView} {name : Text}
    (no_file : view.isFile (FilePath.parse name) ≠ .ok true) : (ofFile view name).toOption = none := by
  have unread : ¬ Succeeds (ofFile view name) := by
    rw [ofFile, succeeds_map]
    exact fun ⟨t, text⟩ => no_file (FileView.isFile_of_readText text)
  rcases not_succeeds_iff.1 unread with ⟨fault, failed⟩
  rw [failed]
  rfl

end Marginalia
