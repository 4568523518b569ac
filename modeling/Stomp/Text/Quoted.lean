import Stomp.Text.Hex
import Stomp.Text.Printable
import Stomp.Text.Utf8

/-!
# Quoted texts

How texts and bytes are shown in messages. The quote is single, or double where the text holds
single quotes and no double one; the quote, the backslash and what is not printable are escaped.
-/

namespace Stomp.Quoted

def quoteOf (text : List Char) : Char :=
  if text.contains '\'' && !text.contains '"' then '"' else '\''

def escapeCommon (quote : Char) (c : Char) : Option (List Char) :=
  if c = quote ∨ c = '\\' then some ['\\', c]
  else if c = '\n' then some ['\\', 'n']
  else if c = '\r' then some ['\\', 'r']
  else if c = '\t' then some ['\\', 't']
  else none

/-- A character by its number, in two, four or eight digits. -/
def escapeNumber (c : Char) : List Char :=
  let n := c.toNat
  if n < 0x100 then '\\' :: 'x' :: Hex.digits 2 n
  else if n < 0x10000 then '\\' :: 'u' :: Hex.digits 4 n
  else '\\' :: 'U' :: Hex.digits 8 n

def escapeChar (quote : Char) (c : Char) : List Char :=
  (escapeCommon quote c).getD (if isPrintable c then [c] else escapeNumber c)

def text (s : String) : String :=
  let quote := quoteOf s.toList
  String.ofList (quote :: s.toList.flatMap (escapeChar quote) ++ [quote])

private def escapeByte (quote : Char) (b : UInt8) : List Char :=
  let c := Char.ofNat b.toNat
  (escapeCommon quote c).getD
    (if 0x20 ≤ b.toNat ∧ b.toNat < 0x7F then [c] else escapeNumber c)

def bytes (bs : Bytes) : String :=
  let quote := quoteOf (bs.map fun b => Char.ofNat b.toNat)
  String.ofList ('b' :: quote :: bs.flatMap (escapeByte quote) ++ [quote])

/-- The items of a list between brackets. -/
def list (items : List String) : String := "[" ++ ", ".intercalate items ++ "]"

end Stomp.Quoted
