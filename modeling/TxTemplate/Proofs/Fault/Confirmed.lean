import TxTemplate.Confirmed.Report
import TxTemplate.Confirmed.Touched
import TxTemplate.Proofs.Fault.Codec
import TxTemplate.Slot

set_option autoImplicit false

/-! The stray faults of what is read from a node. A transaction or a block can have parts of the
wrong kind, and its counts are compared and subtracted as the node gives them; a transaction that is
turned into a template also derives the accounts of all pairs of its addresses. -/

namespace TxTemplate

open Outcome Fault Json

variable {origins : List Origin}

theorem Number.confined_ofJson (shape : .shape ∈ origins) (value : Json) :
    Confined origins (Number.ofJson value) := by
  unfold Number.ofJson
  split
  · exact confined_ok _
  · exact confined_error.mpr (within_shape shape _)

theorem Number.confined_toFloat (count : .count ∈ origins) (n : Int) :
    Confined origins (toFloat n) := by
  unfold toFloat
  dsimp only
  split
  · exact confined_ok _
  · exact confined_error.mpr (within_of_mem rfl count)

theorem Number.confined_minus (count : .count ∈ origins) (x y : Number) :
    Confined origins (x.minus y) := by
  cases x with
  | int a =>
      cases y with
      | int b => exact confined_ok _
      | float b => exact (confined_toFloat count a).bind fun _ _ => confined_ok _
  | float a =>
      cases y with
      | int b => exact (confined_toFloat count b).bind fun _ _ => confined_ok _
      | float b => exact confined_ok _

theorem Json.confined_isBelow (shape : .shape ∈ origins) (a b : Json) :
    Confined origins (a.isBelow b) :=
  (Number.confined_ofJson shape a).bind fun _ _ => (Number.confined_ofJson shape b).bind fun _ _ =>
    confined_ok _

theorem Json.confined_minus (shape : .shape ∈ origins) (count : .count ∈ origins) (a b : Json) :
    Confined origins (a.minus b) :=
  (Number.confined_ofJson shape a).bind fun x _ => (Number.confined_ofJson shape b).bind fun y _ =>
    (Number.confined_minus count x y).bind fun _ _ => confined_ok _

theorem Slot.confined_parse_str (text : String) : Confined origins (parse (.str text)) := by
  refine Confined.bind (confined_ok (Decimal.read text.toList).toOption) fun read _ => ?_
  split
  · exact confined_ok _
  · exact confined_error.mpr (within_job _)

theorem confined_messageOf? (shape : .shape ∈ origins) (transaction : Json) :
    Confined origins (messageOf? transaction) := by
  refine (confined_fieldOrNull shape transaction _).bind fun inner _ => ?_
  split
  · split <;> exact confined_ok _
  · exact confined_ok _

theorem confined_recordOf (shape : .shape ∈ origins) (transaction : Json) :
    Confined origins (recordOf transaction) :=
  (confined_fieldOrNull shape transaction _).bind fun _ _ => confined_ok _

namespace Roster

theorem confined_entryOfParsed (shape : .shape ∈ origins) (key : Json) :
    Confined origins (entryOfParsed key) :=
  (confined_member shape key _).bind fun _ _ => (confined_fieldOrNull shape key _).bind fun _ _ =>
    (confined_fieldOrNull shape key _).bind fun _ _ => confined_ok _

theorem confined_ofParsed (shape : .shape ∈ origins) (message : Json) :
    Confined origins (ofParsed message) :=
  (confined_field? shape message _).bind fun _ _ => (confined_elements shape _).bind fun _ _ =>
    Confined.mapM fun key _ => confined_entryOfParsed shape key

theorem Header.confined_ofMessage (shape : .shape ∈ origins) (message : Json) :
    Confined origins (Header.ofMessage message) := by
  refine (confined_field? shape message _).bind fun header _ => ?_
  have counted (key : String) : Confined origins (do
      pure ((← (header.getD (.obj [])).field? key).getD (.int 0)) : Except Fault Json) :=
    (confined_field? shape _ key).bind fun _ _ => confined_ok _
  exact (counted _).bind fun _ _ => (counted _).bind fun _ _ => (counted _).bind fun _ _ =>
    confined_ok _

theorem confined_entryOfKey (shape : .shape ∈ origins) (count : .count ∈ origins)
    (header : Header) (total position : Nat) (key : Json) :
    Confined origins (entryOfKey header total position key) := by
  refine (confined_isBelow shape _ _).bind fun signer _ => ?_
  have entry (bound : Json) : Confined origins (do
      pure ⟨key.display, signer, ← (Json.int position).isBelow bound⟩ : Except Fault RosterEntry) :=
    (confined_isBelow shape _ bound).bind fun _ _ => confined_ok _
  dsimp only
  split
  · exact (confined_minus shape count _ _).bind fun bound _ => entry bound
  · exact (confined_minus shape count _ _).bind fun bound _ => entry bound

theorem confined_entriesOfKeys (shape : .shape ∈ origins) (count : .count ∈ origins)
    (header : Header) (total position : Nat) (keys : List Json) :
    Confined origins (entriesOfKeys header total position keys) := by
  induction keys generalizing position with
  | nil => exact confined_ok []
  | cons key rest ih =>
      exact (confined_entryOfKey shape count header total position key).bind fun _ _ =>
        (ih (position + 1)).bind fun _ _ => confined_ok _

theorem confined_loaded (shape : .shape ∈ origins) (addresses : Json) (kind : String)
    (writable : Bool) :
    Confined origins (loaded addresses kind writable) :=
  (confined_field? shape addresses _).bind fun _ _ => (confined_elements shape _).bind fun _ _ =>
    confined_ok _

theorem confined_ofRaw (shape : .shape ∈ origins) (count : .count ∈ origins)
    (message addresses : Json) :
    Confined origins (ofRaw message addresses) := by
  refine (Header.confined_ofMessage shape message).bind fun header _ => ?_
  refine (confined_field? shape message _).bind fun keys _ => ?_
  refine (confined_elements shape _).bind fun items _ => ?_
  refine (confined_entriesOfKeys shape count header _ _ items).bind fun own _ => ?_
  split
  · exact (confined_loaded shape addresses _ _).bind fun _ _ =>
      (confined_loaded shape addresses _ _).bind fun _ _ => confined_ok _
  · exact confined_ok _

theorem confined_isParsed (shape : .shape ∈ origins) (keys : Json) :
    Confined origins (isParsed keys) := by
  unfold isParsed
  split
  · refine (confined_itemAt shape keys 0).bind fun first _ => ?_
    split <;> exact confined_ok _
  · exact confined_ok _

theorem confined_ofMessage (shape : .shape ∈ origins) (count : .count ∈ origins) (message : Fields)
    (outcome : Json) : Confined origins (ofMessage message outcome) := by
  refine (confined_isParsed shape _).bind fun parsed _ => ?_
  split
  · exact confined_ofParsed shape _
  · exact (confined_fieldOrNull shape outcome _).bind fun _ _ => confined_ofRaw shape count _ _

end Roster

theorem NativeReading.confined_read (shape : .shape ∈ origins) (program : String) (parsed : Json) :
    Confined origins (read program parsed) := by
  cases parsed with
  | null | bool _ | int _ | float _ | str _ | arr _ => exact confined_ok _
  | obj fields =>
      rw [read]
      split
      · split <;> exact confined_ok _
      · split
        · refine Confined.bind ?_ fun _ _ => confined_ok _
          unfold creationData
          split
          · exact confined_error.mpr (within_shape shape _)
          · exact confined_error.mpr (within_shape shape _)
          · exact confined_ok _
          · exact confined_ok _
          · exact confined_ok _
        · exact confined_ok _

theorem confined_dataOfJson (data : Json) : Confined origins (dataOfJson data) := by
  unfold dataOfJson
  split
  · refine Confined.map ?_ _
    unfold dataAsHex
    split
    · exact confined_ok _
    · dsimp only
      split
      · exact confined_ok _
      · split
        · exact confined_error.mpr within_nonAscii
        · split <;> exact confined_ok _
  · exact confined_ok _

namespace AssociatedAccount

theorem confined_takeAll (derivation : .derivation ∈ origins) (accounts : List String)
    (found : List AssociatedAccount) (pairs : List ((String × Address) × (String × Address))) :
    Confined origins (takeAll accounts found pairs).outcome := by
  induction pairs generalizing found with
  | nil => exact confined_ok found
  | cons pair rest ih =>
      refine Traced.confined_bind ?_ ih
      refine Traced.confined_bind
        (Traced.confined_quiet (Address.confined_associated derivation _ _)) fun derived => ?_
      dsimp only
      split
      · exact Traced.confined_bind (confined_ok ()) fun _ => confined_ok _
      · exact confined_ok _

theorem confined_find (derivation : .derivation ∈ origins) (accounts : List String) :
    Confined origins (find accounts).outcome :=
  Traced.confined_bind (confined_ok ()) fun _ =>
    confined_takeAll derivation accounts [] (pairs (keys accounts))

end AssociatedAccount

namespace Decompiler

theorem confined_ofRoster (derivation : .derivation ∈ origins) (roster : Roster) :
    Confined origins (ofRoster roster).outcome :=
  Traced.confined_bind (confined_ok ()) fun _ =>
    Traced.confined_bind
        (AssociatedAccount.confined_find derivation (roster.map fun entry => entry.account))
        fun _ =>
      confined_ok _

theorem confined_parts (shape : .shape ∈ origins) (decompiler : Decompiler) (instruction : Json) :
    Confined origins (decompiler.parts instruction) := by
  refine (confined_contains shape instruction _).bind fun indexed _ => ?_
  split
  · exact (confined_member shape instruction _).bind fun _ _ =>
      (confined_field? shape instruction _).bind fun _ _ =>
      (confined_elements shape _).bind fun _ _ =>
        (confined_field? shape instruction _).bind fun _ _ => confined_ok _
  · refine (confined_field? shape instruction _).bind fun _ _ => ?_
    refine (confined_field? shape instruction _).bind fun parsed _ => ?_
    cases parsed with
    | some value => exact (NativeReading.confined_read shape _ value).bind fun _ _ => confined_ok _
    | none =>
        exact (confined_field? shape instruction _).bind fun _ _ =>
            (confined_elements shape _).bind fun _ _ =>
          (confined_field? shape instruction _).bind fun _ _ => confined_ok _

theorem confined_decompile (shape : .shape ∈ origins) (decompiler : Decompiler)
    (instruction : Json) :
    Confined origins (decompiler.decompile instruction).outcome :=
  Traced.confined_bind (confined_parts shape decompiler instruction) fun _ =>
    Traced.confined_bind (confined_ok ()) fun _ =>
      Traced.confined_bind (confined_dataOfJson _) fun _ => confined_ok _

end Decompiler

theorem confined_decompileTransaction (shape : .shape ∈ origins) (count : .count ∈ origins)
    (derivation : .derivation ∈ origins) (transaction : Json) :
    Confined origins (decompileTransaction transaction).outcome := by
  refine Traced.confined_bind (confined_messageOf? shape transaction) fun message => ?_
  cases message with
  | none => exact confined_error.mpr (within_job _)
  | some message =>
      refine Traced.confined_bind (confined_recordOf shape transaction) fun outcome => ?_
      refine Traced.confined_bind (Roster.confined_ofMessage shape count message outcome)
        fun roster => ?_
      refine Traced.confined_bind (Decompiler.confined_ofRoster derivation roster)
        fun decompiler => ?_
      refine Traced.confined_bind (confined_elements shape _) fun instructions => ?_
      exact Traced.confined_bind (Traced.confined_mapM fun instruction _ =>
        Decompiler.confined_decompile shape decompiler instruction) fun _ => confined_ok _

namespace Report

theorem confined_entryAt (shape : .shape ∈ origins) (roster : Roster) (index : Json) :
    Confined origins (entryAt roster index) := by
  unfold entryAt
  split
  · exact confined_error.mpr (within_shape shape _)
  · exact confined_ok _
  · split
    · exact confined_error.mpr (within_shape shape _)
    · exact confined_ok _

theorem confined_partsOf (shape : .shape ∈ origins) (roster : Roster) (instruction : Json) :
    Confined origins (partsOf roster instruction) := by
  refine (confined_contains shape instruction _).bind fun indexed _ => ?_
  split
  · exact (confined_member shape instruction _).bind fun _ _ =>
      (confined_entryAt shape roster _).bind fun _ _ =>
      (confined_field? shape instruction _).bind fun _ _ =>
          (confined_elements shape _).bind fun _ _ =>
        (Confined.mapM fun index _ => confined_entryAt shape roster index).bind fun _ _ =>
          confined_ok _
  · exact (confined_field? shape instruction _).bind fun _ _ =>
      (confined_field? shape instruction _).bind fun _ _ =>
      (confined_elements shape _).bind fun _ _ => confined_ok _

theorem confined_instructionLine (shape : .shape ∈ origins) (roster : Roster) (instruction : Json) :
    Confined origins (instructionLine roster instruction) := by
  refine Confined.bind ?_ fun reading _ => (confined_dataOfJson _).bind fun _ _ => confined_ok _
  refine (confined_partsOf shape roster instruction).bind fun named _ => ?_
  refine (confined_fieldOrNull shape instruction _).bind fun data _ => ?_
  refine (confined_field? shape instruction _).bind fun parsed _ => ?_
  cases parsed with
  | none => exact confined_ok _
  | some value => exact (NativeReading.confined_read shape _ value).bind fun _ _ => confined_ok _

theorem confined_balanceAt (shape : .shape ∈ origins) (balances : Json) (position : Nat) :
    Confined origins (balanceAt balances position) := by
  refine (confined_size shape balances).bind fun total _ => ?_
  split
  · exact confined_itemAt shape balances position
  · exact confined_ok _

theorem confined_balanceLine (shape : .shape ∈ origins) (count : .count ∈ origins)
    (earlier later : Json) (position : Nat) (entry : RosterEntry) :
    Confined origins (balanceLine earlier later position entry) := by
  refine (confined_balanceAt shape earlier position).bind fun old _ => ?_
  refine (confined_balanceAt shape later position).bind fun new _ => ?_
  dsimp only
  split
  · exact confined_ok _
  · exact confined_ok _
  · exact (confined_minus shape count _ _).bind fun _ _ => confined_ok _

theorem confined_balanceLines (shape : .shape ∈ origins) (count : .count ∈ origins)
    (earlier later : Json) (position : Nat) (roster : Roster) :
    Confined origins (balanceLines earlier later position roster) := by
  induction roster generalizing position with
  | nil => exact confined_ok []
  | cons entry rest ih =>
      exact (confined_balanceLine shape count earlier later position entry).bind fun _ _ =>
        (ih (position + 1)).bind fun _ _ => confined_ok _

theorem confined_transactionLine (shape : .shape ∈ origins) (count : .count ∈ origins)
    (transaction : Json) :
    Confined origins (transactionLine transaction) := by
  refine (confined_messageOf? shape transaction).bind fun message _ => ?_
  cases message with
  | none => exact confined_ok none
  | some message =>
      refine (confined_recordOf shape transaction).bind fun record _ => ?_
      refine (Roster.confined_ofMessage shape count message record).bind fun roster _ => ?_
      refine (confined_fieldOrNull shape record _).bind fun earlier _ => ?_
      refine (confined_fieldOrNull shape record _).bind fun later _ => ?_
      refine (confined_balanceLines shape count _ _ 0 roster).bind fun accounts _ => ?_
      refine (confined_fieldOrNull shape transaction _).bind fun inner _ => ?_
      refine (confined_fieldOrNull shape inner _).bind fun signatures _ => ?_
      refine (confined_itemAt shape _ 0).bind fun signature _ => ?_
      refine (confined_elements shape _).bind fun instructions _ => ?_
      refine (Confined.mapM fun instruction _ =>
        confined_instructionLine shape roster instruction).bind fun lines _ => ?_
      exact (confined_fieldOrNull shape record _).bind fun _ _ => confined_ok _

theorem confined_transactionLines (shape : .shape ∈ origins) (count : .count ∈ origins)
    (transactions : List Json) :
    Confined origins (transactionLines transactions).outcome := by
  induction transactions with
  | nil => exact confined_ok []
  | cons transaction rest ih =>
      refine Traced.confined_bind (confined_transactionLine shape count transaction) fun line => ?_
      cases line with
      | some line => exact Traced.confined_bind ih fun _ => confined_ok _
      | none => exact Traced.confined_bind (confined_ok ()) fun _ => ih

theorem confined_ofBlock (shape : .shape ∈ origins) (count : .count ∈ origins) (block slot : Json) :
    Confined origins (ofBlock block slot).outcome :=
  Traced.confined_bind (confined_fieldOrNull shape block _) fun _ =>
    Traced.confined_bind (confined_elements shape _) fun transactions =>
      Traced.confined_bind (confined_transactionLines shape count transactions) fun _ =>
        confined_ok _

end Report

theorem Touched.confined_joined (shape : .shape ∈ origins) (first second : Json) :
    Confined origins (joined first second) := by
  unfold joined
  split
  · exact confined_ok _
  · exact confined_error.mpr (within_shape shape _)
  · exact confined_error.mpr (within_shape shape _)

theorem Touched.confined_addresses (shape : .shape ∈ origins) (transaction : Json) :
    Confined origins (addresses transaction) := by
  refine Confined.bind ?_ fun _ _ => confined_ok _
  refine (confined_messageOf? shape transaction).bind fun message _ => ?_
  cases message with
  | none => exact confined_error.mpr (within_job _)
  | some message =>
      refine (confined_elements shape _).bind fun keys _ => ?_
      refine (confined_recordOf shape transaction).bind fun record _ => ?_
      refine (confined_fieldOrNull shape record _).bind fun loaded _ => ?_
      refine (confined_field? shape _ _).bind fun writable _ =>
        (confined_elements shape _).bind fun _ _ => ?_
      refine (confined_field? shape _ _).bind fun readonly _ =>
        (confined_elements shape _).bind fun _ _ => ?_
      refine (confined_fieldOrNull shape record _).bind fun earlier _ => ?_
      refine (confined_fieldOrNull shape record _).bind fun later _ => ?_
      refine (confined_joined shape _ _).bind fun balances _ => ?_
      refine (Confined.mapM fun balance _ => ?_).bind fun _ _ => confined_ok _
      exact (confined_fieldOrNull shape balance _).bind fun _ _ =>
        (confined_fieldOrNull shape balance _).bind fun _ _ => confined_ok _

end TxTemplate
