import TxTemplate.CommandLine.Word
import TxTemplate.Json.Basic

set_option autoImplicit false

/-! The arguments of commands. A command takes its arguments in their order: first those that it
needs, then at most one that may be left out or repeated. -/

namespace TxTemplate.CommandLine

inductive Arity where
  | one
  | optional (fallback : Json)
  | many

structure Parameter where
  key : String
  arity : Arity

def needed (keys : List String) : List Parameter := keys.map fun key => ⟨key, .one⟩

def folderParameter : Parameter := ⟨"output_path", .optional .null⟩

def templateParameters : Parameter := ⟨"params", .many⟩

def commands : List (String × List Parameter) :=
  [("exec-tx", needed ["tx_json"] ++ [templateParameters]),
   ("balance", needed ["pubkey"]),
   ("airdrop", needed ["pubkey"] ++ [⟨"amount_sol", .optional (.str "1")⟩]),
   ("send-sol", needed ["from_pubkey", "to_pubkey", "amount_lamports", "signer_keypair"]),
   ("create-ata", needed ["owner", "mint", "signer_keypair"]),
   ("close-ata", needed ["owner", "mint", "signer_keypair"]),
   ("token-balance", needed ["owner", "mint"]),
   ("dump", needed ["pubkey"] ++ [folderParameter]),
   ("dump-from-tx", needed ["signature"] ++ [folderParameter]),
   ("dump-for-tx", needed ["tx_json", "output_path"] ++ [templateParameters]),
   ("dump-tx", needed ["signature"] ++ [folderParameter]),
   ("dump-block", needed ["slot"] ++ [folderParameter]),
   ("parse-tx", needed ["signature"] ++ [folderParameter]),
   ("parse-block", needed ["slot"] ++ [folderParameter]),
   ("set-data-format", needed ["tx_json", "format_json", "program_id"])]

structure Invocation where
  command : String
  config : Option String
  arguments : Fields

def Invocation.toJson (invocation : Invocation) : Json :=
  .obj ([("command", .str invocation.command),
    ("config", match invocation.config with
      | some path => .str path
      | none => .null)] ++ invocation.arguments)

def isSeparator : Word → Bool
  | .separator => true
  | _ => false

def Word.text : Word → String
  | .plain text => text
  | _ => "--"

def values (words : List Word) : List String := (words.map Word.text).erase "--"

def takeWord (words : List Word) : Option (List Word × List Word) :=
  let lead := words.takeWhile isSeparator
  match words.dropWhile isSeparator with
  | .plain text :: rest =>
    some (lead ++ .plain text :: rest.takeWhile isSeparator, rest.dropWhile isSeparator)
  | _ => none

def single : List String → Json
  | [value] => .str value
  | values => .arr (values.map .str)

/-- Give arguments their words; every word has to find its argument. -/
def bind : List Parameter → List Word → Except Refusal Fields
  | [], [] => .ok []
  | [], _ :: _ => .error .usage
  | parameter :: rest, words =>
    match parameter.arity with
    | .one =>
      match takeWord words with
      | none => .error .usage
      | some (taken, left) => do
        let more ← bind rest left
        pure ((parameter.key, single (values taken)) :: more)
    | .optional fallback => do
      let (taken, left) := (takeWord words).getD
        (words.takeWhile isSeparator, words.dropWhile isSeparator)
      let more ← bind rest left
      let value := match values taken with
        | [] => fallback
        | given => single given
      pure ((parameter.key, value) :: more)
    | .many => do
      let more ← bind rest []
      pure ((parameter.key, .arr ((values words).map .str)) :: more)

def firstHelp? (words : List Word) : Option Bool :=
  words.findSome? fun word =>
    match word with
    | .help wellFormed => some wellFormed
    | _ => none

def helpRefusal (wellFormed : Bool) : Refusal := if wellFormed then .help else .usage

def isOption : Word → Bool
  | .plain _ | .separator => false
  | _ => true

/-- The arguments of a command. Help comes before anything that is missing or not understood. -/
def argumentsOf (parameters : List Parameter) (texts : List String) : Except Refusal Fields := do
  let words ← wordsOf commandOptions texts
  match firstHelp? words with
  | some wellFormed => throw (helpRefusal wellFormed)
  | none => if words.any isOption then throw .usage else bind parameters words

def commandOf (config : Option String) : List String → Except Refusal Invocation
  | [] => .error .usage
  | name :: texts =>
    match commands.lookup name with
    | none => .error .usage
    | some parameters => do
      let arguments ← argumentsOf parameters texts
      pure ⟨name, config, arguments⟩

/-- Read the options of the program up to its command; the texts are those of the words. An option
that is not known is passed over, and refused in the end. -/
def invocationOf (config : Option String) (known : Bool) :
    List Word → List String → Except Refusal Invocation
  | .help wellFormed :: _, _ => .error (helpRefusal wellFormed)
  | .config (some path) :: words, _ :: texts => invocationOf (some path) known words texts
  | .config none :: .plain path :: words, _ :: _ :: texts =>
    invocationOf (some path) known words texts
  | .unknown :: words, _ :: texts => invocationOf config false words texts
  | .plain _ :: _, texts => do
    let invocation ← commandOf config texts
    if known then pure invocation else throw .usage
  | _, _ => .error .usage

def parse (texts : List String) : Except Refusal Invocation := do
  let words ← wordsOf programOptions texts
  invocationOf none true words texts

end TxTemplate.CommandLine
