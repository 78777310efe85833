import TxTemplate.Json.Reader
import TxTemplate.Settings.Readers
import TxTemplate.Text.Blank

set_option autoImplicit false

/-! Plain readers of settings. Documents are JSON texts in which a value may be given a name, and be
referred to by it; assignments stand one in a line, a name before a value. -/

namespace TxTemplate.Plain

open Json

/-- A real number has a point, and a sign in its exponent. -/
def dialect : Dialect where
  isReal := fun lexeme =>
    lexeme.contains '.' &&
      match lexeme.dropWhile fun c => c != 'e' && c != 'E' with
      | [] => true
      | _ :: sign :: _ => sign = '+' || sign = '-'
      | [_] => false
  namesDoubles := false

def isNamed (c : Char) : Bool := c.isAlphanum || c = '-' || c = '_'

mutual
def writtenAt : Nat → Sheet → List Char → Except Stop (Written × Sheet × List Char)
  | 0, _, text => .error (.problem .value text.length)
  | _ + 1, _, [] => .error (.problem .value 0)
  | steps + 1, sheet, c :: rest =>
    if c = '"' then
      (quotedRest (rest.length + 1) [] rest).map fun (text, rest) =>
        let (written, sheet) := sheet.addText text
        (written, sheet, rest)
    else if c = '[' then
      match skipSpace rest with
      | ']' :: after => .ok (.list [], sheet, after)
      | items => itemsAt steps sheet [] items
    else if c = '\x7b' then
      match skipSpace rest with
      | '\x7d' :: after => .ok (.mapping [], sheet, after)
      | fields => fieldsAt steps sheet [] fields
    else if c = '&' then
      let name := String.ofList (rest.takeWhile isNamed)
      (writtenAt steps sheet (skipSpace (rest.dropWhile isNamed))).map fun (written, sheet,
          after) =>
        (written, { sheet with anchors := (name, written) :: sheet.anchors }, after)
    else if c = '*' then
      match sheet.anchors.lookup (String.ofList (rest.takeWhile isNamed)) with
      | none => .error (.problem .value (rest.length + 1))
      | some named =>
        let (written, sheet) := sheet.again named
        .ok (written, sheet, rest.dropWhile isNamed)
    else
      let found : Except Stop (Json × List Char) := match constant? dialect (c :: rest) with
        | some found => .ok found
        | none => numeral dialect (c :: rest)
      found.map fun (value, rest) =>
        let (written, sheet) := sheet.add value
        (written, sheet, rest)

def itemsAt : Nat → Sheet → List Written → List Char → Except Stop (Written × Sheet × List Char)
  | 0, _, _, text => .error (.problem .value text.length)
  | steps + 1, sheet, done, text =>
    match writtenAt steps sheet text with
    | .error stop => .error stop
    | .ok (item, sheet, rest) =>
      match skipSpace rest with
      | ']' :: after => .ok (.list (item :: done).reverse, sheet, after)
      | ',' :: after => itemsAt steps sheet (item :: done) (skipSpace after)
      | after => .error (.problem .comma after.length)

def fieldsAt : Nat → Sheet → WrittenFields → List Char → Except Stop (Written × Sheet × List Char)
  | 0, _, _, text => .error (.problem .value text.length)
  | steps + 1, sheet, done, text =>
    match text with
    | '"' :: rest =>
      match quotedRest text.length [] rest with
      | .error stop => .error stop
      | .ok (key, rest) =>
        match skipSpace rest with
        | ':' :: rest =>
          match writtenAt steps sheet (skipSpace rest) with
          | .error stop => .error stop
          | .ok (value, sheet, rest) =>
            let fields := setField key value done
            match skipSpace rest with
            | '\x7d' :: after => .ok (.mapping fields, sheet, after)
            | ',' :: after => fieldsAt steps sheet fields (skipSpace after)
            | after => .error (.problem .comma after.length)
        | rest => .error (.problem .colon rest.length)
    | _ => .error (.problem .propertyName text.length)
end

def faultOf : ReadFault → ReaderFault
  | .longNumeral digits => .refused (longNumeralMessage digits)
  | cause => .malformed cause.message

def document (text : String) : Except ReaderFault Document :=
  let start := skipSpace text.toList
  let stopped (stop : Stop) : Except ReaderFault Document :=
    .error (faultOf (stop.inText text.toList))
  if start.isEmpty then .ok (.other false)
  else
    match writtenAt (2 * start.length + 2) Sheet.empty start with
    | .error stop => stopped stop
    | .ok (written, sheet, rest) =>
      match skipSpace rest, written with
      | [], .mapping fields => .ok (.mapping fields sheet.cells)
      | [], other => .ok (.other (other.value sheet.cells).isTruthy)
      | extra, _ => stopped (.problem .extraData extra.length)

def assignment? (line : List Char) : Option (String × String) :=
  let trimmed := Text.strip line
  let name := Text.strip (trimmed.takeWhile fun c => c != '=')
  match trimmed.dropWhile fun c => c != '=' with
  | [] => none
  | _ :: value =>
    if name.isEmpty || name.head? = some '#' then none
    else some (String.ofList name, String.ofList (Text.strip value))

def lines : List Char → List (List Char)
  | [] => [[]]
  | c :: rest =>
    match lines rest with
    | [] => [[c]]
    | first :: more => if c = '\n' then [] :: first :: more else (c :: first) :: more

def assignments (environment : Environment) (text : String) : Environment :=
  ((lines text.toList).filterMap assignment?).foldl
    (fun environment assigned => setField assigned.1 assigned.2 environment) environment

end TxTemplate.Plain

namespace TxTemplate

def Readers.plain : Readers :=
  ⟨Plain.document, fun environment text => .ok (Plain.assignments environment text)⟩

end TxTemplate
