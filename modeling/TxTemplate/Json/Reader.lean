import TxTemplate.Json.Basic
import TxTemplate.Bytes.Utf8

set_option autoImplicit false

/-! Reading JSON text. Beside the standard grammar the names of the doubles that are not finite are
numbers. Of fields with one key the last value stands, in the place of the first. A text that is no
document is refused with the place where reading stopped. Texts are made of characters, so reading
stops too at an escape of half a surrogate pair, which other readers put into a text as it is. -/

namespace TxTemplate.Json

inductive Problem where
  | byteOrderMark
  | value
  | propertyName
  | colon
  | comma
  | controlCharacter
  | unterminated
  | escape
  | unicodeEscape
  | extraData
  deriving Repr, DecidableEq

def Problem.text : Problem → String
  | .byteOrderMark => "Unexpected UTF-8 BOM (decode using utf-8-sig)"
  | .value => "Expecting value"
  | .propertyName => "Expecting property name enclosed in double quotes"
  | .colon => "Expecting ':' delimiter"
  | .comma => "Expecting ',' delimiter"
  | .controlCharacter => "Invalid control character at"
  | .unterminated => "Unterminated string starting at"
  | .escape => "Invalid \\escape"
  | .unicodeEscape => "Invalid \\uXXXX escape"
  | .extraData => "Extra data"

/-- Why reading stopped: a problem with so many characters left, a numeral that is too long, or half
of a surrogate pair. -/
inductive Stop where
  | problem (problem : Problem) (left : Nat)
  | longNumeral (digits : Nat)
  | halfPair (unit : Nat)
  deriving Repr, DecidableEq

/-- Which spellings of numbers are numbers; the others are texts. -/
structure Dialect where
  isReal : List Char → Bool
  namesDoubles : Bool

def Dialect.data : Dialect := ⟨fun _ => true, true⟩

def isSpace (c : Char) : Bool := c = ' ' || c = '\t' || c = '\n' || c = '\r'

def skipSpace (text : List Char) : List Char := text.dropWhile isSpace

def isDigit (c : Char) : Bool := '0' ≤ c && c ≤ '9'

def afterWord? : List Char → List Char → Option (List Char)
  | [], text => some text
  | _ :: _, [] => none
  | w :: word, c :: text => if w = c then afterWord? word text else none

def fourHex? (a b c d : Char) : Option Nat :=
  match Hex.value? a, Hex.value? b, Hex.value? c, Hex.value? d with
  | some a, some b, some c, some d => some (((a * 16 + b) * 16 + c) * 16 + d)
  | _, _, _, _ => none

def isHighSurrogate (unit : Nat) : Bool := 0xD800 ≤ unit && unit ≤ 0xDBFF

def isLowSurrogate (unit : Nat) : Bool := 0xDC00 ≤ unit && unit ≤ 0xDFFF

/-- The character of a code unit. Half of a pair on its own is none. -/
def unitChar (unit : Nat) : Except Stop Char :=
  if isHighSurrogate unit || isLowSurrogate unit then .error (.halfPair unit)
  else .ok (Char.ofNat unit)

def pairChar (high low : Nat) : Char :=
  Char.ofNat (0x10000 + (high - 0xD800) * 0x400 + (low - 0xDC00))

def shortEscape? : Char → Option Char
  | '"' => some '"'
  | '\\' => some '\\'
  | '/' => some '/'
  | 'b' => some (Char.ofNat 8)
  | 'f' => some (Char.ofNat 12)
  | 'n' => some '\n'
  | 'r' => some '\r'
  | 't' => some '\t'
  | _ => none

/-- The rest of a quoted text. `opened` counts the characters from its opening quote on, and
`done` holds what was read, latest first. -/
def quotedRest (opened : Nat) : List Char → List Char → Except Stop (String × List Char)
  | _, [] => .error (.problem .unterminated opened)
  | done, '"' :: rest => .ok (String.ofList done.reverse, rest)
  | _, ['\\'] => .error (.problem .unterminated opened)
  | done, '\\' :: 'u' :: a :: b :: c :: d :: '\\' :: 'u' :: e :: f :: g :: h :: next :: rest =>
    match fourHex? a b c d with
    | none => .error (.problem .unicodeEscape (rest.length + 12))
    | some first =>
      if isHighSurrogate first then
        match fourHex? e f g h with
        | none => .error (.problem .unicodeEscape (rest.length + 6))
        | some second =>
          if isLowSurrogate second then
            quotedRest opened (pairChar first second :: done) (next :: rest)
          else .error (.halfPair first)
      else
        match unitChar first with
        | .error stop => .error stop
        | .ok c => quotedRest opened (c :: done) ('\\' :: 'u' :: e :: f :: g :: h :: next :: rest)
  | done, '\\' :: 'u' :: a :: b :: c :: d :: next :: rest =>
    match fourHex? a b c d with
    | none => .error (.problem .unicodeEscape (rest.length + 6))
    | some unit =>
      match unitChar unit with
      | .error stop => .error stop
      | .ok c => quotedRest opened (c :: done) (next :: rest)
  | done, '\\' :: c :: rest =>
    if c = 'u' then .error (.problem .unicodeEscape (rest.length + 1))
    else
      match shortEscape? c with
      | none => .error (.problem .escape (rest.length + 2))
      | some meant => quotedRest opened (meant :: done) rest
  | done, c :: rest =>
    if c.toNat < 0x20 then .error (.problem .controlCharacter (rest.length + 1))
    else quotedRest opened (c :: done) rest
  termination_by _ text => text.length

def digits (text : List Char) : List Char × List Char :=
  (text.takeWhile isDigit, text.dropWhile isDigit)

def digitsValue (run : List Char) : Nat :=
  Decimal.valueOf (run.map fun c => c.toNat - 48)

def fractionOf : List Char → List Char × List Char
  | '.' :: c :: rest =>
    if isDigit c then ('.' :: c :: rest.takeWhile isDigit, rest.dropWhile isDigit)
    else ([], '.' :: c :: rest)
  | text => ([], text)

def exponentOf (text : List Char) : List Char × List Char :=
  match text with
  | mark :: rest =>
    if mark = 'e' || mark = 'E' then
      let (sign, rest) := match rest with
        | '+' :: more => (['+'], more)
        | '-' :: more => (['-'], more)
        | _ => ([], rest)
      match digits rest with
      | ([], _) => ([], text)
      | (run, rest) => (mark :: sign ++ run, rest)
    else ([], text)
  | [] => ([], text)

def realOf (negative : Bool) (whole fraction exponent : List Char) : Float :=
  let places := fraction.drop 1
  let power : Int := match exponent.drop 1 with
    | '-' :: run => -(digitsValue run : Int)
    | '+' :: run => digitsValue run
    | run => digitsValue run
  Binary64.ofDecimal negative (digitsValue (whole ++ places)) (power - places.length)

def numeral (dialect : Dialect) (text : List Char) : Except Stop (Json × List Char) :=
  let stop : Except Stop (Json × List Char) := .error (.problem .value text.length)
  let (negative, unsigned) := match text with
    | '-' :: rest => (true, rest)
    | _ => (false, text)
  match unsigned with
  | [] => stop
  | c :: rest =>
    if !isDigit c then stop
    else
      let (more, rest) := if c = '0' then ([], rest) else digits rest
      let whole := c :: more
      let (fraction, rest) := fractionOf rest
      let (exponent, rest) := exponentOf rest
      if fraction.isEmpty && exponent.isEmpty then
        if Decimal.digitLimit < whole.length then .error (.longNumeral whole.length)
        else
          let n := digitsValue whole
          .ok (.int (if negative then -(n : Int) else n), rest)
      else
        let lexeme := (if negative then ['-'] else []) ++ whole ++ fraction ++ exponent
        if dialect.isReal lexeme then .ok (.float (realOf negative whole fraction exponent), rest)
        else .ok (.str (String.ofList lexeme), rest)

def constant? (dialect : Dialect) (text : List Char) : Option (Json × List Char) :=
  let word (name : String) (value : Json) : Option (Json × List Char) :=
    (afterWord? name.toList text).map fun rest => (value, rest)
  let double (name : String) (value : Float) : Option (Json × List Char) :=
    word name (if dialect.namesDoubles then .float value else .str name)
  match text with
  | 'n' :: _ => word "null" .null
  | 't' :: _ => word "true" (.bool true)
  | 'f' :: _ => word "false" (.bool false)
  | 'N' :: _ => double "NaN" (0.0 / 0.0)
  | 'I' :: _ => double "Infinity" (1.0 / 0.0)
  | '-' :: _ => double "-Infinity" (-1.0 / 0.0)
  | _ => none

mutual
def valueAt : Nat → List Char → Except Stop (Json × List Char)
  | 0, text => .error (.problem .value text.length)
  | _ + 1, [] => .error (.problem .value 0)
  | steps + 1, c :: rest =>
    if c = '"' then
      (quotedRest (rest.length + 1) [] rest).map fun read => (.str read.1, read.2)
    else if c = '[' then
      match skipSpace rest with
      | ']' :: after => .ok (.arr [], after)
      | items => itemsAt steps [] items
    else if c = '\x7b' then
      match skipSpace rest with
      | '\x7d' :: after => .ok (.obj [], after)
      | fields => fieldsAt steps [] fields
    else
      match constant? .data (c :: rest) with
      | some read => .ok read
      | none => numeral .data (c :: rest)

def itemsAt : Nat → List Json → List Char → Except Stop (Json × List Char)
  | 0, _, text => .error (.problem .value text.length)
  | steps + 1, done, text =>
    match valueAt steps text with
    | .error stop => .error stop
    | .ok (item, rest) =>
      match skipSpace rest with
      | ']' :: after => .ok (.arr (item :: done).reverse, after)
      | ',' :: after => itemsAt steps (item :: done) (skipSpace after)
      | after => .error (.problem .comma after.length)

def fieldsAt : Nat → Fields → List Char → Except Stop (Json × List Char)
  | 0, _, text => .error (.problem .value text.length)
  | steps + 1, done, text =>
    match text with
    | '"' :: rest =>
      match quotedRest text.length [] rest with
      | .error stop => .error stop
      | .ok (key, rest) =>
        match skipSpace rest with
        | ':' :: rest =>
          match valueAt steps (skipSpace rest) with
          | .error stop => .error stop
          | .ok (value, rest) =>
            let fields := setField key value done
            match skipSpace rest with
            | '\x7d' :: after => .ok (.obj fields, after)
            | ',' :: after => fieldsAt steps fields (skipSpace after)
            | after => .error (.problem .comma after.length)
        | rest => .error (.problem .colon rest.length)
    | _ => .error (.problem .propertyName text.length)
end

/-- Why a text is no document, with the place in lines, columns and characters. -/
inductive ReadFault where
  | problem (problem : Problem) (line column offset : Nat)
  | longNumeral (digits : Nat)
  | halfPair (unit : Nat)
  deriving Repr, DecidableEq

/-- The place that has so many characters left after it. Lines and columns count from one. -/
def place (text : List Char) (left : Nat) : Nat × Nat × Nat :=
  let offset := text.length - left
  let before := text.take offset
  let line := before.count '\n' + 1
  let column := (before.reverse.takeWhile (· != '\n')).length + 1
  (line, column, offset)

def Stop.inText (text : List Char) : Stop → ReadFault
  | .longNumeral digits => .longNumeral digits
  | .halfPair unit => .halfPair unit
  | .problem what left =>
    let (line, column, offset) := place text left
    .problem what line column offset

/-- Read a document. Every call of the value readers that does not end the text takes a character
from it or opens a list or object, so twice its length bounds them. -/
def readChars (text : List Char) : Except ReadFault Json :=
  let whole : Except Stop Json :=
    match text with
    | '\uFEFF' :: _ => .error (.problem .byteOrderMark text.length)
    | _ =>
      match valueAt (2 * text.length + 2) (skipSpace text) with
      | .error stop => .error stop
      | .ok (value, rest) =>
        match skipSpace rest with
        | [] => .ok value
        | extra => .error (.problem .extraData extra.length)
  match whole with
  | .ok value => .ok value
  | .error stop => .error (stop.inText text)

def read (text : String) : Except ReadFault Json := readChars text.toList

end TxTemplate.Json
