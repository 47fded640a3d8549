import SecretAccess.Proofs.Numeric.Overflow
import SecretAccess.Proofs.Failure
import SecretAccess.Value

/-!
# Which values have a text

A value is shown with all that it holds. The only thing that can be in the way is a whole number
beyond the digit limit, wherever it stands in the value, so there is one fault only
(`Value.eq_tooManyDigits_of_display`).
-/

namespace SecretAccess.Value

/-- The fault of a number without a text. -/
theorem eq_tooManyDigits_of_text {n : Number} {fault : Fault} (h : n.text = .error fault) :
    fault = .tooManyDigits := by
  obtain ⟨_, -, -, hfault⟩ := Number.text_eq_error_iff.mp h
  exact hfault

mutual

/-- A value that cannot be written inside another one holds too long a number. -/
theorem eq_tooManyDigits_of_written {value : Value} {fault : Fault}
    (h : value.written = .error fault) : fault = .tooManyDigits := by
  cases value with
  | null => cases h
  | bool b => cases h
  | text s => cases h
  | number n => exact eq_tooManyDigits_of_text h
  | list items => exact eq_tooManyDigits_of_writtenItems (bind_ok_eq_error_iff.mp h)
  | map entries => exact eq_tooManyDigits_of_writtenEntries (bind_ok_eq_error_iff.mp h)

/-- Items that cannot be written hold too long a number. -/
theorem eq_tooManyDigits_of_writtenItems {items : List Value} {fault : Fault}
    (h : writtenItems items = .error fault) : fault = .tooManyDigits := by
  cases items with
  | nil => cases h
  | cons item rest =>
    rcases bind_eq_error_iff.mp h with hitem | ⟨_, -, hrest⟩
    · exact eq_tooManyDigits_of_written hitem
    · exact eq_tooManyDigits_of_writtenItems (bind_ok_eq_error_iff.mp hrest)

/-- Entries that cannot be written hold too long a number. -/
theorem eq_tooManyDigits_of_writtenEntries {entries : List (Value × Value)} {fault : Fault}
    (h : writtenEntries entries = .error fault) : fault = .tooManyDigits := by
  cases entries with
  | nil => cases h
  | cons entry rest =>
    obtain ⟨key, value⟩ := entry
    rcases bind_eq_error_iff.mp h with hkey | ⟨_, -, hmore⟩
    · exact eq_tooManyDigits_of_written hkey
    rcases bind_eq_error_iff.mp hmore with hvalue | ⟨_, -, hrest⟩
    · exact eq_tooManyDigits_of_written hvalue
    · exact eq_tooManyDigits_of_writtenEntries (bind_ok_eq_error_iff.mp hrest)

end

/-- **The one fault of showing a value** is that a number in it has too many digits. -/
theorem eq_tooManyDigits_of_display {value : Value} {fault : Fault}
    (h : value.display = .error fault) : fault = .tooManyDigits := by
  cases value with
  | text s => cases h
  | null => exact eq_tooManyDigits_of_written h
  | bool b => exact eq_tooManyDigits_of_written h
  | number n => exact eq_tooManyDigits_of_written h
  | list items => exact eq_tooManyDigits_of_written h
  | map entries => exact eq_tooManyDigits_of_written h

end SecretAccess.Value
