import TxTemplate.Bytes.Hex
import TxTemplate.Text.Printable

set_option autoImplicit false

/-! Quoted text, as messages show it. The quote is the single one unless the text holds a single
and no double quote. The quote in use, the backslash and every character without a visible form are
written as escapes. -/

namespace TxTemplate.Text

def hexDigits : Nat → Nat → List Char
  | 0, _ => []
  | width + 1, n => Hex.digit (n / Nat.pow 16 width % 16) :: hexDigits width n

def escaped (quote c : Char) : List Char :=
  if c = quote ∨ c = '\\' then ['\\', c]
  else if c = '\n' then ['\\', 'n']
  else if c = '\r' then ['\\', 'r']
  else if c = '\t' then ['\\', 't']
  else if isPrintable c then [c]
  else if c.toNat < 0x100 then '\\' :: 'x' :: hexDigits 2 c.toNat
  else if c.toNat < 0x10000 then '\\' :: 'u' :: hexDigits 4 c.toNat
  else '\\' :: 'U' :: hexDigits 8 c.toNat

def quoteFor (text : List Char) : Char :=
  if text.contains '\'' && !text.contains '"' then '"' else '\''

def quotedChars (text : List Char) : List Char :=
  let quote := quoteFor text
  quote :: (text.flatMap (escaped quote) ++ [quote])

def quoted (text : String) : String := String.ofList (quotedChars text.toList)

end TxTemplate.Text
