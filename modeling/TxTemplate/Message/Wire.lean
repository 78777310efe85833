import TxTemplate.Bytes.CompactCount
import TxTemplate.Keypair
import TxTemplate.Message.Basic

set_option autoImplicit false

/-! Messages and signed transactions as bytes. Every list is written behind its count. A versioned
message starts with a byte of its own and ends with its lookups. -/

namespace TxTemplate

def counted {α : Type} (write : α → Bytes) (parts : List α) : Bytes :=
  CompactCount.encode parts.length ++ parts.flatMap write

def IndexedInstruction.wire (instruction : IndexedInstruction) : Bytes :=
  instruction.program :: counted (fun place => [place]) instruction.accounts ++
    counted (fun byte => [byte]) instruction.data

def TableLookup.wire (lookup : TableLookup) : Bytes :=
  lookup.table.bytes ++ counted (fun place => [place]) lookup.writable ++
    counted (fun place => [place]) lookup.readonly

def MessageHeader.wire (header : MessageHeader) : Bytes :=
  [UInt8.ofNat header.signers, UInt8.ofNat header.readonlySigners,
    UInt8.ofNat header.readonlyOthers]

namespace Message

def body (message : Message) : Bytes :=
  message.header.wire ++ counted Address.bytes message.keys ++ message.blockhash.bytes ++
    counted IndexedInstruction.wire message.instructions

def versionMark : UInt8 := 0x80

def wire (message : Message) : Bytes :=
  match message.lookups with
  | none => message.body
  | some lookups => versionMark :: message.body ++ counted TableLookup.wire lookups

def isWritable (message : Message) : Bool :=
  message.keys.length < CompactCount.limit && message.instructions.length < CompactCount.limit &&
    message.instructions.all fun instruction =>
      instruction.accounts.length < CompactCount.limit &&
        instruction.data.length < CompactCount.limit

end Message

structure SignedTransaction where
  signatures : List Bytes
  message : Message
  deriving DecidableEq, Repr

namespace SignedTransaction

def wire (transaction : SignedTransaction) : Bytes :=
  counted id transaction.signatures ++ transaction.message.wire

def keypairOf? (keypairs : List Keypair) (address : Address) : Option Keypair :=
  keypairs.find? fun keypair => keypair.address == address

def signatures? (keypairs : List Keypair) (message : Message) : Option (List Bytes) :=
  let signed := message.wire
  message.signers.mapM fun signer =>
    (keypairOf? keypairs signer).map fun keypair => keypair.sign signed

def allAsked (keypairs : List Keypair) (message : Message) : Bool :=
  keypairs.all fun keypair => message.signers.contains keypair.address

/-- A plain message takes keypairs that it asks for, in any number; a versioned message takes as
many keypairs as it has signers. Every signer needs one. -/
def sign (keypairs : List Keypair) (message : Message) : Except Fault SignedTransaction :=
  match message.lookups with
  | none =>
    if !message.isWritable || !allAsked keypairs message then .error (.signing .plain)
    else
      match signatures? keypairs message with
      | some signatures => .ok ⟨signatures, message⟩
      | none => .error (.signing .plain)
  | some _ =>
    if keypairs.length ≠ message.signers.length then .error (.signing .versioned)
    else if !message.isWritable then .error (.signing .plain)
    else
      match signatures? keypairs message with
      | some signatures => .ok ⟨signatures, message⟩
      | none => .error (.signing .versioned)

end SignedTransaction

end TxTemplate
