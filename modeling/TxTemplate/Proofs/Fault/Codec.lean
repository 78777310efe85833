import TxTemplate.Proofs.Fault.Families
import TxTemplate.Proofs.Fault.Stray
import TxTemplate.Proofs.Template

set_option autoImplicit false

/-! The stray faults of templates and their data. Documents can have parts of the wrong kind, counts
can be out of range, lists can be nested too deeply in texts, and some pairs of addresses derive no
account; everything else that can go wrong is a refusal. -/

namespace TxTemplate

open Outcome Fault

variable {origins : List Origin}

/-- Of the faults of the codec only those that leak can be stray. -/
theorem Outcome.confined_of_leaks {α : Type} {outcome : Except Fault α}
    (each : ∀ fault, Leaks outcome fault → fault.Within origins) : Confined origins outcome := by
  intro fault fails
  by_cases foreign : fault.IsForeign
  · subst fails
    exact each fault ((leaks_foreign foreign).mpr rfl)
  · simp only [IsForeign, not_forall, not_not] at foreign
    obtain ⟨cause, rfl⟩ := foreign
    exact within_codec cause

theorem Placeholder.within_of_overlong {text : String} {fault : Fault}
    (overlong : Overlong text fault) :
    fault.Within origins := by
  obtain ⟨digits, -, -, rfl⟩ := overlong
  exact within_numeral _ _

theorem Scalar.within_of_isLeaky {value : Json} {fault : Fault} (leaky : IsLeaky value fault) :
    fault.Within origins := by
  obtain ⟨text, -, overlong⟩ | ⟨-, rfl⟩ := leaky
  · exact Placeholder.within_of_overlong overlong
  · exact within_numeral _ _

theorem Json.within_of_namesNothing (shape : .shape ∈ origins) {member : Json} {fault : Fault}
    (nothing : member.NamesNothing fault) : fault.Within origins := by
  obtain ⟨-, rfl⟩ | ⟨n, -, -, rfl⟩ := nothing
  · exact within_shape shape _
  · exact within_numeral _ _

theorem Placeholder.confined_resolve (params : Params) (value : Json) :
    Confined origins (resolve params value) := by
  refine confined_of_leaks fun fault leaks => ?_
  obtain ⟨text, -, overlong⟩ := leaks_resolve.mp leaks
  exact within_of_overlong overlong

theorem Address.confined_parse (text : String) : Confined origins (parse text) := by
  unfold parse
  split <;> simp

theorem Address.confined_ofValue (shape : .shape ∈ origins) (value : Json) :
    Confined origins (ofValue value) := by
  unfold ofValue
  split
  · exact confined_parse _
  · exact confined_error.mpr (within_shape shape _)

theorem Address.confined_associated (derivation : .derivation ∈ origins) (owner mint : Address) :
    Confined origins (associated owner mint) := by
  refine confined_of_leaks fun fault leaks => ?_
  obtain ⟨-, rfl⟩ := Descriptor.leaks_associated.mp leaks
  exact within_of_mem rfl derivation

namespace Descriptor

theorem confined_resolve_str (params : Params) (text : String) :
    Confined origins (resolve params (.str text)) :=
  confined_of_leaks fun _ leaks => Placeholder.within_of_overlong (leaks_resolve_text.mp leaks)

theorem confined_resolve_associated (derivation : .derivation ∈ origins) {params : Params}
    {owner mint : Json} (ownerConfined : Confined origins (resolve params owner))
    (mintConfined : Confined origins (resolve params mint)) :
    Confined origins (resolve params (associated owner mint)) := by
  rw [associated, resolve_derived rfl rfl rfl]
  exact ownerConfined.bind fun ownerAddress _ => mintConfined.bind fun mintAddress _ =>
    Address.confined_associated derivation ownerAddress mintAddress

theorem within_of_isLeaky (shape : .shape ∈ origins) (derivation : .derivation ∈ origins)
    {params : Params} {descriptor : Json} {fault : Fault}
    (leaky : IsLeaky params descriptor fault) : fault.Within origins := by
  induction leaky with
  | placeholder overlong => exact Placeholder.within_of_overlong overlong
  | shape => exact within_numeral _ _
  | kind nothing => exact Json.within_of_namesNothing shape nothing
  | owner _ _ _ _ ih | mint _ _ _ _ _ ih => exact ih
  | underived => exact within_of_mem rfl derivation

theorem confined_resolve (shape : .shape ∈ origins) (derivation : .derivation ∈ origins)
    (params : Params) (descriptor : Json) : Confined origins (resolve params descriptor) :=
  confined_of_leaks fun _ leaks => within_of_isLeaky shape derivation (leaks_resolve_iff.mp leaks)

end Descriptor

namespace TypedData

theorem within_of_isLeaky (shape : .shape ∈ origins) (count : .count ∈ origins)
    (depth : .depth ∈ origins) (derivation : .derivation ∈ origins) {params : Params}
    {levels : Nat} {value : Json} {fault : Fault} (leaky : IsLeaky params levels value fault) :
    fault.Within origins := by
  induction leaky with
  | placeholder overlong | parameter _ _ overlong => exact Placeholder.within_of_overlong overlong
  | item _ leaky => exact Scalar.within_of_isLeaky leaky
  | negative | literal => exact within_numeral _ _
  | letters => exact within_nonAscii
  | count | size | length => exact within_of_mem rfl count
  | kind _ nothing => exact Json.within_of_namesNothing shape nothing
  | address _ _ leaky => exact Descriptor.within_of_isLeaky shape derivation leaky
  | bytes _ _ _ ih | string _ _ _ _ ih | entry _ _ _ _ ih | listed _ _ _ _ _ _ ih => exact ih
  | numeral _ _ _ overlong =>
      obtain ⟨_, _, digits, -, -, -, rfl⟩ := overlong
      exact within_numeral _ _
  | depth => exact within_of_mem rfl depth

theorem confined_pack (shape : .shape ∈ origins) (count : .count ∈ origins)
    (depth : .depth ∈ origins) (derivation : .derivation ∈ origins) (params : Params)
    (value : Json) :
    Confined origins (pack params value).outcome :=
  confined_of_leaks fun _ leaks =>
    within_of_isLeaky shape count depth derivation (leaks_packNested_iff.mp leaks)

theorem confined_unpack (shape : .shape ∈ origins) (buffer : Bytes) (schema : Json) (offset : Int) :
    Confined origins (unpack buffer schema offset) := by
  refine confined_of_leaks fun fault leaks => ?_
  obtain ⟨rfl, -⟩ | ⟨rfl, -⟩ := readLeaks_of_leaks schema offset leaks
  · exact within_shape shape _
  · exact within_numeral _ _

end TypedData

namespace Json

theorem confined_field? (shape : .shape ∈ origins) (value : Json) (key : String) :
    Confined origins (value.field? key) := by
  unfold field?
  split
  · exact confined_ok _
  · exact confined_error.mpr (within_shape shape _)

theorem confined_fieldOrNull (shape : .shape ∈ origins) (value : Json) (key : String) :
    Confined origins (value.fieldOrNull key) := by
  unfold fieldOrNull
  split
  · exact confined_ok _
  · exact confined_error.mpr (within_shape shape _)

theorem confined_member (shape : .shape ∈ origins) (value : Json) (key : String) :
    Confined origins (value.member key) := by
  unfold member
  split
  · split
    · exact confined_ok _
    · exact confined_error.mpr (within_shape shape _)
  · exact confined_error.mpr (within_shape shape _)

theorem confined_itemAt (shape : .shape ∈ origins) (value : Json) (index : Nat) :
    Confined origins (value.itemAt index) := by
  unfold itemAt
  split
  · split
    · exact confined_ok _
    · exact confined_error.mpr (within_shape shape _)
  · split
    · exact confined_ok _
    · exact confined_error.mpr (within_shape shape _)
  · exact confined_error.mpr (within_shape shape _)
  · exact confined_error.mpr (within_shape shape _)

theorem confined_elements (shape : .shape ∈ origins) (value : Json) :
    Confined origins value.elements := by
  cases value with
  | arr _ | str _ | obj _ => exact confined_ok _
  | null | bool _ | int _ | float _ => exact confined_error.mpr (within_shape shape _)

theorem confined_size (shape : .shape ∈ origins) (value : Json) : Confined origins value.size := by
  cases value with
  | arr _ | str _ | obj _ => exact confined_ok _
  | null | bool _ | int _ | float _ => exact confined_error.mpr (within_shape shape _)

theorem confined_contains (shape : .shape ∈ origins) (value : Json) (text : String) :
    Confined origins (value.contains text) := by
  cases value with
  | arr _ | str _ | obj _ => exact confined_ok _
  | null | bool _ | int _ | float _ => exact confined_error.mpr (within_shape shape _)

end Json

namespace Directory

theorem confined_readText (directory : Directory) (path : String) :
    Confined origins (directory.readText path) := by
  unfold readText
  split
  · simp
  · simp
  · split <;> simp

theorem confined_readDocument (directory : Directory) (path : String) :
    Confined origins (directory.readDocument path) := (confined_readText directory path).map _

theorem confined_write (directory : Directory) (path : String) (content : Content) :
    Confined origins (directory.write path content) := by
  unfold write
  split
  · simp
  · split <;> simp

theorem confined_makeFolders (directory : Directory) (path : String) :
    Confined origins (directory.makeFolders path).1 := by
  unfold makeFolders
  rcases makeFoldersUpTo path.length directory path.toList with ⟨fault | made, reached⟩
  · exact confined_error.mpr (within_storage fault)
  · exact confined_ok _

end Directory

namespace Keypair

theorem confined_ofBytes (bytes : Bytes) : Confined origins (ofBytes bytes) := by
  unfold ofBytes
  split
  · simp
  · split <;> simp

theorem confined_ofItems (items : List Json) : Confined origins (ofItems items) := by
  unfold ofItems
  split
  · simp
  · exact confined_ofBytes _

theorem confined_ofFile (directory : Directory) (path : String) :
    Confined origins (ofFile directory path) := by
  unfold ofFile
  split
  · rename_i failed
    exact confined_error.mpr (Directory.confined_readDocument _ _ _ failed)
  · exact confined_ofItems _
  · simp
  · simp

theorem confined_load (directory : Directory) (source : Json) :
    Confined origins (load directory source) := by
  unfold load
  split
  · exact confined_ofItems _
  · split
    · exact confined_ofFile _ _
    · split
      · exact confined_ofBytes _
      · simp
  · simp

theorem confined_resolve (directory : Directory) (params : Params) (source : Json) :
    Confined origins (resolve directory params source) :=
  (Placeholder.confined_resolve params source).bind fun _ _ => confined_load _ _

end Keypair

end TxTemplate
