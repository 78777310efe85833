import TxTemplate.Json.Reader

set_option autoImplicit false

/-! Everything that can go wrong, by cause, and the wording of each cause. The faults of the codec
form six families; the faults of shape are values of a kind that a step cannot work on, and have no
wording of their own. -/

namespace TxTemplate

inductive AddressFlaw where
  | wrongSize
  | notBase58
  deriving Repr, DecidableEq

inductive AddressFault where
  | text (text : String) (flaw : AddressFlaw)
  | shape (descriptor : Json)

inductive EncodingFault where
  | numeral (value : Json)
  | number (value : Json)
  | negative (value : Json)
  | tooWide (value : Int) (kind : String)
  | boolean (value : Json)
  | hex (text : String)
  | base64 (text : String)
  | entryNumeral (text : String)
  | entry (value : Json)

inductive KindFault where
  | packed (kind : Json)
  | unpacked (kind : Json)
  | measured (kind : Json)
  | notTyped (value : Json)
  | schemaShape
  | objectText (text : String)
  | objectShape

inductive MissingFault where
  | inValue (key : String) (kind : Json)
  | inSchema (key : String) (kind : Json)
  | schemaKind
  | kind
  | objectData
  | inDescriptor (key : String)
  | inShorthand (key : String) (program : Json)
  | accountAddress
  | program
  | instructions

inductive CodecFault where
  | invalidAddress (cause : AddressFault)
  | invalidEncoding (cause : EncodingFault)
  | unsupportedKind (cause : KindFault)
  | unsupportedDescriptor (kind : Json)
  | outOfBounds (size offset length : Int)
  | missing (cause : MissingFault)

inductive CodecFamily where
  | invalidAddress
  | invalidEncoding
  | unsupportedKind
  | unsupportedDescriptor
  | outOfBounds
  | missing
  deriving Repr, DecidableEq

def CodecFault.family : CodecFault → CodecFamily
  | .invalidAddress _ => .invalidAddress
  | .invalidEncoding _ => .invalidEncoding
  | .unsupportedKind _ => .unsupportedKind
  | .unsupportedDescriptor _ => .unsupportedDescriptor
  | .outOfBounds _ _ _ => .outOfBounds
  | .missing _ => .missing

inductive KeypairFault where
  | unsupported (source : Json)
  | document (path : String)
  | text (source : String)
  | array
  | length (count : Nat)
  | signature

inductive AmountFault where
  | empty
  | negative
  | points
  | digits (text : String)
  | places

/-- Why a reader gives nothing for a text: it refuses the text, or finds it malformed. -/
inductive ReaderFault where
  | refused (text : String)
  | malformed (text : String)

inductive SettingsFault where
  | unread (cause : ReaderFault)
  | mapping (path : String)
  | variable (name : String)
  | scheme (key : String)
  | retriesKind
  | retriesRange
  | choice (key : String) (allowed : List String)

inductive AnswerFault where
  | accountAbsent (address : String)
  | tableInactive (address : String)
  | tableMalformed
  | tableUninitialized
  | transactionAbsent (signature : String)
  | blockAbsent (slot : Json)
  | refused (method : String) (cause : Json)

inductive JobFault where
  | retries
  | notSent
  | noSigner
  | signerMismatch
  | notJsonEncoded
  | programAbsent (program : String)
  | notElf (address : String)
  | slot (text : String)
  | accountLimit
  | tableLimit

inductive StorageFault where
  | absent (path : String)
  | directory (path : String)
  | notDirectory (path : String)
  | present (path : String)
  | longName (path : String)
  | nulInPath

/-- How the node refuses a transaction: it rejects it, it cannot be reached, the system fails, the
value cannot be used, or something else happens. Where the kind is open it carries a name. -/
inductive NodeFaultKind where
  | rejected
  | transport
  | value
  | system (name : String)
  | other (name : String)
  deriving Repr, DecidableEq

structure NodeFault where
  kind : NodeFaultKind
  text : String

/-- Why a message cannot be signed: it is too large, or the keypairs are not
those that a plain or a versioned message asks for. -/
inductive SigningFault where
  | tooLarge
  | plain
  | versioned
  deriving Repr, DecidableEq

inductive ShapeFault where
  | wrongKind
  | noFields
  | absentKey
  | notText
  deriving Repr, DecidableEq

inductive Fault where
  | codec (cause : CodecFault)
  | numeral (text : String) (flaw : Decimal.Flaw)
  | nonAscii
  | document (path : String) (cause : Json.ReadFault)
  | keypair (cause : KeypairFault)
  | amount (cause : AmountFault)
  | settings (cause : SettingsFault)
  | answer (cause : AnswerFault)
  | job (cause : JobFault)
  | storage (cause : StorageFault)
  | disconnected (method : String)
  | node (cause : NodeFault)
  | signing (cause : SigningFault)
  | shape (cause : ShapeFault)
  | countTooLarge
  | nestedTooDeeply
  | derivation

def AddressFlaw.message : AddressFlaw → String
  | .wrongSize => "String is the wrong size"
  | .notBase58 => "Invalid Base58 string"

def AddressFault.message : AddressFault → String
  | .text given flaw => "Invalid pubkey " ++ Text.quoted given ++ ": " ++ flaw.message
  | .shape descriptor => "Unsupported pubkey value: " ++ descriptor.inspect

def EncodingFault.message : EncodingFault → String
  | .numeral value => "Invalid numeric string: " ++ value.inspect
  | .number value => "Unsupported numeric value: " ++ value.inspect
  | .negative value => "Negative value not allowed: " ++ value.inspect
  | .tooWide value kind => "Value " ++ Decimal.intText value ++ " does not fit in " ++ kind
  | .boolean value => "Unsupported boolean value: " ++ value.inspect
  | .hex text => "Invalid hex string: " ++ Text.quoted text
  | .base64 text => "Invalid base64 string: " ++ Text.quoted text
  | .entryNumeral text => "Invalid array entry: " ++ Text.quoted text
  | .entry value => "Unsupported array entry: " ++ value.inspect

def KindFault.message : KindFault → String
  | .packed kind => "Unsupported data object type: " ++ kind.display
  | .unpacked kind => "Unknown type: " ++ kind.display
  | .measured kind => "Unknown type for byte length: " ++ kind.display
  | .notTyped value => "Invalid entry: " ++ value.inspect
  | .schemaShape => "Schema must be object or array"
  | .objectText text => "Object data is not a JSON array: " ++ Text.quoted text
  | .objectShape => "Object data must be array"

def MissingFault.message : MissingFault → String
  | .inValue key owner => "Missing " ++ key ++ " in " ++ owner.display ++ " object"
  | .inSchema key owner => "Missing " ++ key ++ " in " ++ owner.display ++ " schema"
  | .schemaKind => "Missing type in schema"
  | .kind => "Missing type"
  | .objectData => "Missing object data"
  | .inDescriptor key => "Missing " ++ key ++ " for ata"
  | .inShorthand key owner => "Missing " ++ key ++ " for " ++ owner.display
  | .accountAddress => "Missing pubkey in account"
  | .program => "Missing program_id in instruction"
  | .instructions => "Missing instructions in transaction"

def CodecFault.message : CodecFault → String
  | .invalidAddress cause => cause.message
  | .invalidEncoding cause => cause.message
  | .unsupportedKind cause => cause.message
  | .unsupportedDescriptor kind => "Unsupported pubkey type: " ++ kind.display
  | .outOfBounds size offset length =>
    "Out of bounds: need " ++ Decimal.intText size ++ " bytes at offset " ++
      Decimal.intText offset ++ ", buffer has " ++ Decimal.intText length
  | .missing cause => cause.message

@[simp] def AddressFault.isWritable : AddressFault → Bool
  | .text _ _ => true
  | .shape descriptor => descriptor.isWritable

@[simp] def EncodingFault.isWritable : EncodingFault → Bool
  | .numeral value | .number value | .negative value | .boolean value | .entry value =>
    value.isWritable
  | .tooWide value _ => Decimal.isWritable value
  | .hex _ | .base64 _ | .entryNumeral _ => true

def KindFault.isWritable : KindFault → Bool
  | .packed kind | .unpacked kind | .measured kind => kind.isWritable
  | .notTyped value => value.isWritable
  | .schemaShape | .objectText _ | .objectShape => true

@[simp] def MissingFault.isWritable : MissingFault → Bool
  | .inValue _ owner | .inSchema _ owner | .inShorthand _ owner => owner.isWritable
  | .schemaKind | .kind | .objectData | .inDescriptor _ | .accountAddress | .program
  | .instructions => true

/-- The message can be written, with all numbers that it shows. -/
@[simp] def CodecFault.isWritable : CodecFault → Bool
  | .invalidAddress cause => cause.isWritable
  | .invalidEncoding cause => cause.isWritable
  | .unsupportedKind cause => cause.isWritable
  | .unsupportedDescriptor kind => kind.isWritable
  | .outOfBounds size offset length =>
    Decimal.isWritable size && Decimal.isWritable offset && Decimal.isWritable length
  | .missing cause => cause.isWritable

def longNumeralMessage (digits : Nat) : String :=
  "Exceeds the limit (4300 digits) for integer string conversion: value has " ++
    Decimal.natText digits ++
    " digits; use sys.set_int_max_str_digits() to increase the limit"

def shownNumeral : Nat := 200

/-- A malformed numeral is shown in quotes and cut off where it is too long to show. -/
def numeralMessage (text : String) : Decimal.Flaw → String
  | .malformed =>
    "invalid literal for int() with base 10: " ++
      String.ofList ((Text.quoted text).toList.take shownNumeral)
  | .tooLong digits => longNumeralMessage digits
  | .unwritable =>
    "Exceeds the limit (4300 digits) for integer string conversion; " ++
      "use sys.set_int_max_str_digits() to increase the limit"

def Json.ReadFault.message : Json.ReadFault → String
  | .problem what line column offset =>
    what.text ++ ": line " ++ Decimal.natText line ++ " column " ++ Decimal.natText column ++
      " (char " ++ Decimal.natText offset ++ ")"
  | .longNumeral digits => longNumeralMessage digits
  | .halfPair unit => "Half of a surrogate pair: code unit " ++ Decimal.natText unit

/-- A numeral that is too long is refused before the document is. -/
def documentMessage (path : String) : Json.ReadFault → String
  | .longNumeral digits => longNumeralMessage digits
  | cause => "Invalid JSON in " ++ path ++ ": " ++ cause.message

def KeypairFault.message : KeypairFault → String
  | .unsupported source => "Unsupported keypair value: " ++ source.inspect
  | .document path => "Invalid keypair JSON in " ++ path
  | .text source => "Keypair file not found and not a base58 secret: " ++ source
  | .array => "Invalid keypair array"
  | .length count => "Invalid keypair: expected 64 bytes, got " ++ Decimal.natText count
  | .signature => "Invalid keypair: signature error"

def AmountFault.message : AmountFault → String
  | .empty => "Invalid amount: empty string"
  | .negative => "Amount must be non-negative"
  | .points => "Invalid amount: too many decimal points"
  | .digits text => "Invalid amount: " ++ text
  | .places => "Invalid amount: max 9 decimal places"

def ReaderFault.message : ReaderFault → String
  | .refused text | .malformed text => text

def SettingsFault.message : SettingsFault → String
  | .unread cause => cause.message
  | .mapping path => "Configuration in " ++ path ++ " must be a mapping"
  | .variable name => "Environment variable '" ++ name ++ "' not found"
  | .scheme key => key ++ " must start with http:// or https://"
  | .retriesKind => "Type error: max_retries must be between 1 and 10"
  | .retriesRange => "Range error: max_retries must be between 1 and 10"
  | .choice key allowed =>
    key ++ " must be one of [" ++ String.intercalate ", " (allowed.map Text.quoted) ++ "]"

def AnswerFault.message : AnswerFault → String
  | .accountAbsent address => "Account " ++ address ++ " not found"
  | .tableInactive address => "ALT " ++ address ++ " not found / not active"
  | .tableMalformed => "invalid account data for instruction"
  | .tableUninitialized => "instruction requires an initialized account"
  | .transactionAbsent signature => "Transaction not found: " ++ signature
  | .blockAbsent slot => "Block not found: " ++ slot.display
  | .refused method cause => "RPC error in " ++ method ++ ": " ++ cause.display

def JobFault.message : JobFault → String
  | .retries => "max_retries must be at least 1"
  | .notSent => "Transaction was not sent"
  | .noSigner => "Missing transaction signer"
  | .signerMismatch => "Signer does not match from pubkey"
  | .notJsonEncoded => "Transaction encoding is not JSON"
  | .programAbsent program => "Program ID " ++ program ++ " not found in transaction instructions."
  | .notElf address => "Program data not found or not ELF for: " ++ address
  | .slot text => "Invalid slot: " ++ text
  | .accountLimit => "account index overflowed during compilation"
  | .tableLimit => "address lookup table index overflowed during compilation"

def StorageFault.message : StorageFault → String
  | .absent path => "[Errno 2] No such file or directory: " ++ Text.quoted path
  | .directory path => "[Errno 21] Is a directory: " ++ Text.quoted path
  | .notDirectory path => "[Errno 20] Not a directory: " ++ Text.quoted path
  | .present path => "[Errno 17] File exists: " ++ Text.quoted path
  | .longName path => "[Errno 36] File name too long: " ++ Text.quoted path
  | .nulInPath => "embedded null byte"

/-- A text of settings that is malformed is no refusal; one that is refused is. -/
def SettingsFault.isRefusal : SettingsFault → Bool
  | .unread (.malformed _) => false
  | _ => true

namespace Fault

def message : Fault → String
  | .codec cause => cause.message
  | .numeral text flaw => numeralMessage text flaw
  | .nonAscii => "string argument should contain only ASCII characters"
  | .document path cause => documentMessage path cause
  | .keypair cause => cause.message
  | .amount cause => cause.message
  | .settings cause => cause.message
  | .answer cause => cause.message
  | .job cause => cause.message
  | .storage cause => cause.message
  | .disconnected method => "RPC request " ++ method ++ " failed"
  | .node cause => cause.text
  | .signing _ => "transaction signing failed"
  | .shape _ => "value of an unsuitable kind"
  | .countTooLarge => "count too large"
  | .nestedTooDeeply => "data nested too deeply"
  | .derivation => "no derived address exists"

/-- A number that was to be written in a text has too many digits. -/
def unwritable : Fault := .numeral "" .unwritable

/-- The fault that a caller gets: where its message cannot be written, that comes in its place. -/
def told : Fault → Fault
  | .codec cause => if cause.isWritable then .codec cause else unwritable
  | other => other

def isRefusal : Fault → Bool
  | .codec _ | .numeral _ _ | .nonAscii | .document _ _ | .keypair _ | .amount _ | .answer _
  | .job _ => true
  | .settings cause => cause.isRefusal
  | .storage .nulInPath => true
  | .node cause => cause.kind = .value
  | .shape .notText => true
  | _ => false

def isSystem : Fault → Bool
  | .storage .nulInPath => false
  | .storage _ | .disconnected _ => true
  | .node ⟨.system _, _⟩ => true
  | _ => false

/-- Faults that a command reports; any other ends the program as it is. -/
def isReported (fault : Fault) : Bool :=
  fault.isRefusal || fault.isSystem ||
    match fault with
    | .node cause => cause.kind = .rejected || cause.kind = .transport
    | _ => false

end Fault

end TxTemplate
