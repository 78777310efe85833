import TxTemplate.Proofs.Bytes.Base58
import TxTemplate.Proofs.Bytes.Base64
import TxTemplate.Proofs.Confirmed.Decompile
import TxTemplate.Proofs.TypedData.Places

set_option autoImplicit false

/-! The data of decompiled instructions. Text that holds bytes becomes hexadecimal text, which is no
placeholder; any other data stays as the transaction has it. So the parameters count for the data of
an entry only where the transaction itself brings in a placeholder. -/

namespace TxTemplate

open Placeholder

/-! ### Texts -/

/-- A text becomes the hexadecimal text of some bytes or stays. One that begins like a placeholder
holds no bytes, so it stays. -/
theorem dataAsHex_cases {text hex : String} (done : dataAsHex text = .ok hex) :
    hex = text ∨ text.toList.head? ≠ some '$' ∧ ∃ bytes, hex = "0x" ++ Hex.text bytes := by
  unfold dataAsHex at done
  by_cases empty : text.isEmpty = true
  · rw [if_pos empty] at done
    exact .inl (Except.ok.inj done).symm
  · rw [if_neg empty] at done
    have written : ∀ {bytes : Bytes},
        (if bytes.isEmpty = true then text else "0x" ++ Hex.text bytes) = hex →
          hex = text ∨ ∃ bytes, hex = "0x" ++ Hex.text bytes := by
      intro bytes same
      split at same
      · exact .inl same.symm
      · exact .inr ⟨bytes, same.symm⟩
    -- A dollar stands in neither alphabet, so a text that starts with one is kept as it is.
    by_cases dollar : text.toList.head? = some '$'
    · obtain ⟨rest, chars⟩ := List.head?_eq_some_iff.mp dollar
      simp only [chars, Base58.decodeTrimmed_of_dollar, Base64.decode_of_dollar] at done
      split at done
      · cases done
      · exact .inl (Except.ok.inj done).symm
    · have outcome : hex = text ∨ ∃ bytes, hex = "0x" ++ Hex.text bytes := by
        cases base58 : Base58.decodeTrimmed text.toList with
        | some bytes =>
            simp only [base58] at done
            exact written (Except.ok.inj done)
        | none =>
            simp only [base58] at done
            split at done
            · cases done
            · cases base64 : Base64.decode text.toList with
              | some bytes =>
                  simp only [base64] at done
                  exact written (Except.ok.inj done)
              | none =>
                  simp only [base64] at done
                  exact .inl (Except.ok.inj done).symm
      rcases outcome with same | bytes
      · exact .inl same
      · exact .inr ⟨dollar, bytes⟩

theorem head?_hex (bytes : Bytes) : ("0x" ++ Hex.text bytes).toList.head? ≠ some '$' := by
  rw [String.toList_append]
  exact fun same => absurd (Option.some.inj same) (by decide)

theorem isLive_dataAsHex {text hex : String} (done : dataAsHex text = .ok hex) :
    IsLive hex ↔ IsLive text := by
  rcases dataAsHex_cases done with rfl | ⟨other, bytes, rfl⟩
  · rfl
  · constructor
    · exact fun live => absurd (head?_of_isLive live) (head?_hex bytes)
    · exact fun live => absurd (head?_of_isLive live) other

theorem isPlain_dataAsHex {text hex : String} (done : dataAsHex text = .ok hex)
    (plain : IsPlain text) :
    IsPlain hex := by
  rcases dataAsHex_cases done with rfl | ⟨-, bytes, rfl⟩
  · exact plain
  · exact digits?_eq_none_of_head? (head?_hex bytes)

/-! ### Data and parameters -/

/-- Packing the data comes out the same whatever the parameters are: the same bytes or the same
fault, with the same notes. -/
def ParameterFree (data : Json) : Prop :=
  ∀ first second : Params, TypedData.pack first data = TypedData.pack second data

theorem bytesOfText_of_isLive {text : String} (live : IsLive text) :
    ∃ fault, Scalar.bytesOfText text = .error fault := by
  obtain ⟨rest, chars⟩ := List.head?_eq_some_iff.mp (head?_of_isLive live)
  unfold Scalar.bytesOfText
  rw [chars]
  split
  · rename_i same
    cases same
  · rw [Base64.decode_of_dollar]
    split
    · exact ⟨_, rfl⟩
    · exact ⟨_, rfl⟩

theorem pack_text (params : Params) (text : String) :
    (TypedData.pack params (.str text)).outcome =
      resolve params (.str text) >>= fun resolved => Scalar.bytesOfText resolved.display := by
  rw [TypedData.pack_eq, TypedData.packWith, Traced.outcome_bind]
  rfl

/-- The data that is a text depends on the parameters exactly when it is a live placeholder: one
parameter makes it a byte, and without any it is refused. -/
theorem parameterFree_text_iff (text : String) : ParameterFree (.str text) ↔ ¬ IsLive text := by
  constructor
  · intro free live
    obtain ⟨params, resolved⟩ := exists_resolve_of_isLive live "0x01"
    obtain ⟨fault, refused⟩ := bytesOfText_of_isLive live
    have readable : ¬ IsOversized text := by
      rintro ⟨digits, found, long⟩
      obtain ⟨index, short⟩ := live
      simp only [index?, found, if_pos long] at short
      cases short
    have given : (TypedData.pack params (.str text)).outcome = .ok [1] := by
      rw [pack_text, resolved]
      rfl
    have missing : (TypedData.pack [] (.str text)).outcome = .error fault := by
      rw [pack_text, resolve_nil readable]
      exact refused
    rw [free params [], missing] at given
    cases given
  · intro dead first second
    rw [TypedData.pack_eq, TypedData.pack_eq, TypedData.packWith, TypedData.packWith,
      resolve_of_not_isLive first second dead]

/-! ### Instructions -/

/-- What an instruction of a transaction brings in as its data. The accounts do not matter for
it. -/
def contentOf (instruction : Json) : Except Fault Json :=
  (Decompiler.parts ⟨[], [], []⟩ instruction).map Decompiler.Parts.data

theorem contentOf_of_parts {decompiler : Decompiler} {instruction : Json}
    {parts : Decompiler.Parts} (taken : decompiler.parts instruction = .ok parts) :
    contentOf instruction = .ok parts.data := by
  unfold Decompiler.parts at taken
  unfold contentOf Decompiler.parts
  obtain ⟨indexed, known, rest⟩ := Outcome.bind_eq_ok.mp taken
  rw [known, Outcome.ok_bind]
  cases indexed with
  | false =>
      rw [if_neg Bool.false_ne_true] at rest
      rw [if_neg Bool.false_ne_true, rest]
      rfl
  | true =>
      rw [if_pos rfl] at rest
      rw [if_pos rfl]
      simp only [Decompiler.indexedParts, Outcome.bind_eq_ok] at rest
      obtain ⟨index, given, accounts, listed, items, each, data, found, same⟩ := rest
      obtain rfl := Except.ok.inj same
      simp only [Decompiler.indexedParts, given, listed, each, found, Outcome.ok_bind]
      rfl

/-- Data without a placeholder at any of the places where packing looks for one is data that does
not depend on the parameters, and what is a text depends on them exactly when it is a live
placeholder. -/
def FollowsContent (instruction : Json) (entry : InstructionTemplate) : Prop :=
  ∃ content, contentOf instruction = .ok content ∧
    ((∀ text ∈ TypedData.places content, IsPlain text) → ParameterFree entry.data) ∧
    ∀ text, content = .str text → (ParameterFree entry.data ↔ ¬ IsLive text)

theorem followsContent_of_decompile {decompiler : Decompiler} {instruction : Json}
    {entry : InstructionTemplate} (done : (decompiler.decompile instruction).outcome = .ok entry) :
    FollowsContent instruction entry := by
  obtain ⟨parts, data, taken, read, rfl⟩ := Decompiler.decompile_eq_ok.mp done
  refine ⟨parts.data, contentOf_of_parts taken, ?_⟩
  cases content : parts.data with
  | str text =>
      rw [content] at read
      cases converted : dataAsHex text with
      | error fault =>
          rw [dataOfJson, converted] at read
          cases read
      | ok hex =>
          rw [dataOfJson, converted] at read
          obtain rfl : .str hex = data := Except.ok.inj read
          constructor
          · intro plain first second
            apply TypedData.pack_congr
            intro other member
            obtain rfl := List.mem_singleton.mp member
            exact isPlain_dataAsHex converted (plain text (List.mem_singleton.mpr rfl))
          · intro other same
            obtain rfl := Json.str.inj same
            rw [parameterFree_text_iff, isLive_dataAsHex converted]
  | null | bool _ | int _ | float _ | arr _ | obj _ =>
      rw [content] at read
      obtain rfl := Except.ok.inj read
      refine ⟨fun plain first second => TypedData.pack_congr first second plain,
        fun text same => ?_⟩
      cases same

/-- The parameters count for the data of a decompiled instruction only where the transaction itself
has a placeholder: each entry packs the same bytes, or fails in the same way, whatever the
parameters are, unless a placeholder stands where packing looks for one in what the instruction
brought in. -/
theorem followsContent_of_decompileTransaction {transaction : Json}
    {template : DecompiledTransaction}
    (done : (decompileTransaction transaction).outcome = .ok template) :
    ∃ message instructions, messageOf? transaction = .ok (some message) ∧
      instructionsOf message = .ok instructions ∧
      List.Forall₂ FollowsContent instructions template.instructions := by
  obtain ⟨message, record, roster, decompiler, instructions, encoded, -, -, -, given, each, -⟩ :=
    decompileTransaction_eq_ok.mp done
  exact ⟨message, instructions, encoded, given, each.imp fun _ _ => followsContent_of_decompile⟩

/-- A memo that reads as a placeholder, and one that holds bytes. -/
def memoTransaction : Json :=
  .obj [("transaction", .obj [("message", .obj [("instructions", .arr
    [.obj [("programId", .str "MemoSq4gqABAXKb96qnH8TysNcWxMyWCqXgDLGmfcHr"),
      ("parsed", .str "$1")],
      .obj [("programId", .str "MemoSq4gqABAXKb96qnH8TysNcWxMyWCqXgDLGmfcHr"),
        ("data", .str "2g")]])])])]

theorem followsContent_memoTransaction :
    ∃ template, (decompileTransaction memoTransaction).outcome = .ok template ∧
      ∃ message instructions, messageOf? memoTransaction = .ok (some message) ∧
        instructionsOf message = .ok instructions ∧
        List.Forall₂ FollowsContent instructions template.instructions :=
  ⟨_, rfl, followsContent_of_decompileTransaction rfl⟩

/-- The first memo packs to the bytes that the caller's parameter stands for. -/
theorem memoTransaction_not_parameterFree :
    ∃ template entry, (decompileTransaction memoTransaction).outcome = .ok template ∧
      template.instructions.head? = some entry ∧
      (TypedData.pack ["0x0102"] entry.data).outcome = .ok [1, 2] ∧
      ∃ fault, (TypedData.pack [] entry.data).outcome = .error fault := by
  exact ⟨_, _, rfl, rfl, rfl, _, rfl⟩

end TxTemplate
