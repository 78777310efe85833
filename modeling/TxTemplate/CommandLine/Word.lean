import TxTemplate.Decimal.Digit

set_option autoImplicit false

/-! Words of a command line. A word that starts with a dash is an option, an unknown option, or,
where it spells a negative number or holds a space, plain after all. Long options may be cut short
where that leaves one of them, and their value may follow an equals sign. Behind the separator
every word is plain. -/

namespace TxTemplate.CommandLine

inductive Purpose where
  | help
  | config
  deriving Repr, DecidableEq

/-- What a word is. A call for help holds whether it is well formed, and the option for the
settings its attached value. -/
inductive Word where
  | plain (text : String)
  | separator
  | help (wellFormed : Bool)
  | config (attached : Option String)
  | unknown
  deriving Repr, DecidableEq

/-- Why the words are not carried out: they ask for help, or they are not understood. -/
inductive Refusal where
  | help
  | usage
  deriving Repr, DecidableEq

def Refusal.code : Refusal → Nat
  | .help => 0
  | .usage => 2

def programOptions : List (String × Purpose) :=
  [("-h", .help), ("--help", .help), ("--config", .config)]

def commandOptions : List (String × Purpose) := [("-h", .help), ("--help", .help)]

/-- Whether letters behind the short call for help leave it well formed. Another call may follow;
any other letter ends the word. -/
def shortHelpTail : List Char → Bool
  | [] => true
  | 'h' :: rest => shortHelpTail rest
  | c :: _ => c != '=' && c != '-'

def optionWord (purpose : Purpose) (attached : Option String) : Word :=
  match purpose with
  | .help => .help attached.isNone
  | .config => .config attached

/-- The part before an equals sign and, where there is one, the part behind it. -/
def splitValue (text : List Char) : String × Option String :=
  match text.dropWhile fun c => c != '=' with
  | [] => (String.ofList text, none)
  | _ :: value => (String.ofList (text.takeWhile fun c => c != '='), some (String.ofList value))

def isNumeralDigit (c : Char) : Bool := (Decimal.value? c).isSome

/-- Whether characters are digits, with at most one point and a digit behind it. -/
def isUnsigned (text : List Char) : Bool :=
  let whole := text.takeWhile isNumeralDigit
  match text.dropWhile isNumeralDigit with
  | [] => !whole.isEmpty
  | '.' :: places => !places.isEmpty && places.all isNumeralDigit
  | _ => false

/-- Whether a word spells a negative number; a line end may follow it. -/
def isNegative : List Char → Bool
  | '-' :: rest => isUnsigned (if rest.getLast? = some '\n' then rest.dropLast else rest)
  | _ => false

def abbreviated (options : List (String × Purpose)) (name : String) :
    Except Refusal (Option Purpose) :=
  match options.filter fun option => name.toList.isPrefixOf option.1.toList with
  | [] => .ok none
  | [option] => .ok (some option.2)
  | _ => .error .usage

def dashedWord (text : String) : Word :=
  if isNegative text.toList || text.toList.contains ' ' then .plain text else .unknown

def wordOf (options : List (String × Purpose)) (text : String) : Except Refusal Word :=
  match text.toList with
  | '-' :: second :: rest =>
    let (name, attached) := splitValue text.toList
    match options.lookup text with
    | some purpose => .ok (optionWord purpose none)
    | none =>
      match options.lookup name with
      | some purpose => .ok (optionWord purpose attached)
      | none =>
        if second = '-' then do
          match ← abbreviated options name with
          | some purpose => pure (optionWord purpose attached)
          | none => pure (dashedWord text)
        else if second = 'h' then .ok (.help (shortHelpTail rest))
        else .ok (dashedWord text)
  | _ => .ok (.plain text)

def wordsOf (options : List (String × Purpose)) : List String → Except Refusal (List Word)
  | [] => .ok []
  | text :: rest =>
    if text = "--" then .ok (.separator :: rest.map .plain)
    else do
      let word ← wordOf options text
      let more ← wordsOf options rest
      pure (word :: more)

end TxTemplate.CommandLine
