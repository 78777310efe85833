import TxTemplate.Proofs.Fault.Codec
import TxTemplate.Settings.Basic

set_option autoImplicit false

/-! The stray faults of settings: what a reader finds malformed, and a path of a file of assignments
that is no text. Whatever else is wrong with settings is refused. -/

namespace TxTemplate

open Outcome Fault

variable {origins : List Origin}

theorem Fault.within_settings (document : .document ∈ origins) (cause : SettingsFault) :
    (settings cause).Within origins := by
  cases refusal : cause.isRefusal with
  | true => exact within_of_origin?_eq_none (by rw [origin?, refusal]; rfl)
  | false => exact within_of_mem (by rw [origin?, refusal]; rfl) document

namespace Environment

variable (environment : Environment)

theorem confined_withFile (document : .document ∈ origins) (readers : Readers)
    (directory : Directory) (path : String) :
    Confined origins (environment.withFile readers directory path) := by
  unfold withFile
  split
  · refine (Directory.confined_readText directory path).bind fun text _ => ?_
    cases readers.assignments environment text with
    | ok environment => exact confined_ok environment
    | error cause => exact confined_error.mpr (within_settings document _)
  · exact confined_ok _

theorem confined_resolveText (document : .document ∈ origins) (text : String) :
    Confined origins (environment.resolveText text) := by
  unfold resolveText
  split
  · exact confined_ok _
  · split
    · exact confined_ok _
    · exact confined_error.mpr (within_settings document _)

mutual
theorem confined_resolve (document : .document ∈ origins) (cells : Cells) (written : Written) :
    Confined origins (environment.resolve cells written) := by
  cases written with
  | null | bool _ | int _ | float _ | list _ => exact confined_ok _
  | text cell =>
      rw [resolve]
      exact (confined_resolveText environment document _).map _
  | mapping fields =>
      rw [resolve]
      exact confined_resolveWritten document cells fields

theorem confined_resolveWritten (document : .document ∈ origins) (cells : Cells)
    (fields : WrittenFields) : Confined origins (environment.resolveWritten cells fields) := by
  cases fields with
  | nil => exact confined_ok cells
  | cons field rest =>
      obtain ⟨key, written⟩ := field
      rw [resolveWritten]
      exact (confined_resolve document cells written).bind fun after _ =>
        confined_resolveWritten document after rest
end

end Environment

namespace Settings

theorem confined_check (document : .document ∈ origins) (fields : Fields) :
    Confined origins (check fields) := by
  have refused := within_settings document
  have endpoint (key : String) : Confined origins (checkEndpoint fields key) := by
    unfold checkEndpoint
    split
    · split <;> simp [refused]
    · simp [refused]
  have retries : Confined origins (checkRetries fields) := by
    unfold checkRetries
    split
    · split <;> simp [refused]
    · simp [refused]
  have commitment : Confined origins (checkCommitment fields) := by
    unfold checkCommitment
    dsimp only
    split
    · split <;> simp [refused]
    · simp [refused]
  have level : Confined origins (checkLevel fields) := by
    unfold checkLevel
    dsimp only
    split
    · split <;> simp [refused]
    · simp [refused]
  exact (endpoint _).bind fun _ _ => (endpoint _).bind fun _ _ => retries.bind fun _ _ =>
    commitment.bind fun _ _ => level.bind fun _ _ => confined_ok _

variable (readers : Readers)

theorem confined_mappingIn (document : .document ∈ origins) (directory : Directory)
    (path : String) :
    Confined origins (mappingIn readers directory path) := by
  refine (Directory.confined_readText directory path).bind fun text _ => ?_
  cases readers.document text with
  | error cause => exact confined_error.mpr (within_settings document _)
  | ok found =>
      cases found with
      | mapping fields cells => exact confined_ok (fields, cells)
      | other filled =>
          cases filled with
          | true => exact confined_error.mpr (within_settings document _)
          | false => exact confined_ok ([], Sheet.empty.cells)

theorem confined_fromFile (document : .document ∈ origins) (shape : .shape ∈ origins)
    (directory : Directory) (environment : Environment) (path : String) :
    Confined origins (fromFile readers directory environment path) := by
  refine (confined_mappingIn readers document directory path).bind fun found _ =>
    Confined.bind ?_ fun environment _ =>
      (environment.confined_resolveWritten document _ _).bind fun _ _ => confined_ok _
  unfold environmentFor
  dsimp only
  split
  · split
    · exact environment.confined_withFile document readers directory _
    · exact confined_error.mpr (within_shape shape _)
  · exact confined_ok _

theorem confined_load (document : .document ∈ origins) (shape : .shape ∈ origins)
    (directory : Directory) (environment : Environment) (path : Option String) :
    Confined origins (loadWith readers directory environment path) := by
  refine Confined.bind ?_ fun fields _ => confined_check document fields
  refine Confined.bind ?_ fun _ _ => confined_ok _
  unfold own
  split
  · split
    · exact confined_ok _
    · exact confined_fromFile readers document shape directory environment _
  · exact confined_ok _

end Settings

end TxTemplate
