import TxTemplate.Job.Reformat
import TxTemplate.Proofs.Fault.Codec

set_option autoImplicit false

/-! The stray faults of templates in files: reading them, compiling them, and storing them
reformatted. An instruction that is given in full adds none of its own to those of its addresses and
its data. -/

namespace TxTemplate

open Outcome Fault Json

variable {origins : List Origin}

theorem AccountTemplate.confined_ofJson (shape : .shape ∈ origins) (document : Json) :
    Confined origins (ofJson document) := by
  refine (confined_contains shape document _).bind fun _ _ => ?_
  split
  · exact confined_error.mpr (within_codec _)
  · exact (confined_member shape document _).bind fun _ _ =>
      (confined_fieldOrNull shape document _).bind fun _ _ =>
      (confined_fieldOrNull shape document _).bind fun _ _ => confined_ok _

namespace InstructionTemplate

theorem confined_ofJson (shape : .shape ∈ origins) (document : Json) :
    Confined origins (ofJson document) := by
  refine (confined_contains shape document _).bind fun named _ => ?_
  cases named with
  | false => exact confined_error.mpr (within_codec _)
  | true =>
      cases document with
      | obj fields =>
          exact (confined_elements shape _).bind fun _ _ =>
            (Confined.mapM fun account _ => AccountTemplate.confined_ofJson shape account).bind
                fun _ _ =>
              confined_ok _
      | null | bool _ | int _ | float _ | str _ | arr _ =>
          exact confined_error.mpr (within_shape shape _)

theorem confined_compileFull {params : Params} {template : InstructionTemplate}
    (program : Confined origins (Descriptor.resolve params template.program))
    (accounts : ∀ account ∈ template.accounts,
      Confined origins (Descriptor.resolve params account.address))
    (data : Confined origins (TypedData.pack params template.data).outcome) :
    Confined origins (compileFull params template).outcome := by
  refine Traced.confined_bind program fun _ => ?_
  refine Traced.confined_bind (Confined.mapM fun account member => ?_) fun _ => ?_
  · exact (accounts account member).bind fun _ _ => confined_ok _
  · exact Traced.confined_bind data fun _ => confined_ok _

/-- A template whose program is the text of an address is no shorthand. -/
theorem confined_compile_of_program {params : Params} {template : InstructionTemplate}
    {address : Address} (program : template.program = .str address.text)
    (accounts : ∀ account ∈ template.accounts,
      Confined origins (Descriptor.resolve params account.address))
    (data : Confined origins (TypedData.pack params template.data).outcome) :
    Confined origins (compile params template).outcome := by
  have resolved := Address.resolve_of_read params (Address.read_text address)
  rw [compile, expand_eq_none program (Address.read_text address)]
  refine confined_compileFull ?_ accounts data
  rw [program]
  exact confined_of_eq_ok resolved

theorem confined_compile (shape : .shape ∈ origins) (count : .count ∈ origins)
    (depth : .depth ∈ origins) (derivation : .derivation ∈ origins) (params : Params)
    (template : InstructionTemplate) :
    Confined origins (compile params template).outcome := by
  refine confined_of_leaks fun fault leaks => ?_
  obtain ⟨expanded, -, leaky⟩ := leaks_compile_iff.mp leaks
  cases leaky with
  | program leaky | account _ _ _ leaky => exact Descriptor.within_of_isLeaky shape derivation leaky
  | data _ _ leaky => exact TypedData.within_of_isLeaky shape count depth derivation leaky

end InstructionTemplate

namespace TransactionTemplate

theorem confined_ofJson (shape : .shape ∈ origins) (document : Json) :
    Confined origins (ofJson document) := by
  refine (confined_contains shape document _).bind fun _ _ => ?_
  split
  · exact confined_error.mpr (within_codec _)
  · exact (confined_member shape document _).bind fun _ _ =>
      (confined_elements shape _).bind fun _ _ =>
      (Confined.mapM fun instruction _ =>
          InstructionTemplate.confined_ofJson shape instruction).bind fun _ _ =>
        (confined_fieldOrNull shape document _).bind fun _ _ =>
            (confined_elements shape _).bind fun _ _ =>
          (confined_fieldOrNull shape document _).bind fun _ _ => confined_ok _

theorem confined_resolveSigners (directory : Directory) (params : Params)
    (template : TransactionTemplate) :
    Confined origins (resolveSigners directory params template) :=
  Confined.mapM fun signer _ => Keypair.confined_resolve directory params signer

theorem confined_resolveTables (shape : .shape ∈ origins) (derivation : .derivation ∈ origins)
    (params : Params) (template : TransactionTemplate) :
    Confined origins (resolveTables params template) :=
  (confined_elements shape _).bind fun _ _ =>
    Confined.mapM fun table _ => Descriptor.confined_resolve shape derivation params table

theorem confined_compile (shape : .shape ∈ origins) (count : .count ∈ origins)
    (depth : .depth ∈ origins) (derivation : .derivation ∈ origins) (directory : Directory)
    (params : Params) (template : TransactionTemplate) :
    Confined origins (compile directory params template).outcome :=
  Traced.confined_bind (Traced.confined_mapM fun instruction _ =>
      InstructionTemplate.confined_compile shape count depth derivation params instruction) fun _ =>
    Traced.confined_bind (confined_resolveSigners directory params template) fun _ =>
      Traced.confined_bind (confined_resolveTables shape derivation params template) fun _ =>
        confined_ok _

theorem confined_load (shape : .shape ∈ origins) (directory : Directory) (path : String) :
    Confined origins (load directory path) := by
  refine (Directory.confined_readDocument directory path).bind fun document _ => ?_
  split
  · exact confined_ofJson shape _
  · exact confined_error.mpr (within_document _ _)

theorem confined_compileFile (shape : .shape ∈ origins) (count : .count ∈ origins)
    (depth : .depth ∈ origins) (derivation : .derivation ∈ origins) (directory : Directory)
    (path : String) (params : Params) :
    Confined origins (compileFile directory path params).outcome :=
  Traced.confined_bind (confined_load shape directory path) fun template =>
    confined_compile shape count depth derivation directory params template

end TransactionTemplate

namespace Reformat

theorem confined_schemaIn (directory : Directory) (path : String) :
    Confined origins (schemaIn directory path) := by
  refine (Directory.confined_readDocument directory path).bind fun document _ => ?_
  split
  · exact confined_ok _
  · exact confined_error.mpr (within_document _ _)

theorem confined_templateWhere (shape : .shape ∈ origins) (count : .count ∈ origins)
    (depth : .depth ∈ origins) (derivation : .derivation ∈ origins)
    (wanted : InstructionTemplate → Bool) (shown : String) (schema : Json)
    (stored : TransactionTemplate) :
    Confined origins (templateWhere wanted shown schema stored).outcome := by
  unfold templateWhere
  dsimp only
  split
  · exact confined_error.mpr (within_job _)
  · refine Traced.confined_bind ?_ fun _ => confined_ok _
    exact Traced.confined_bind (TypedData.confined_pack shape count depth derivation [] _)
        fun bytes =>
      TypedData.confined_unpack shape bytes schema 0

end Reformat

end TxTemplate
