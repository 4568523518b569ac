import Stomp.Decimal.Shortest
import Stomp.Json.Basic
import Stomp.Text.Hex
import Stomp.Text.Numeral

/-!
# Writing JSON

ASCII text with a blank after each comma and colon. A real that is no finite number has no written
form.
-/

namespace Stomp.Json

def codeUnit (n : Nat) : List Char := '\\' :: 'u' :: Hex.digits 4 n

def escapeChar (c : Char) : List Char :=
  let n := c.toNat
  if c = '"' ∨ c = '\\' then ['\\', c]
  else if n = 0x8 then ['\\', 'b']
  else if n = 0x9 then ['\\', 't']
  else if n = 0xA then ['\\', 'n']
  else if n = 0xC then ['\\', 'f']
  else if n = 0xD then ['\\', 'r']
  else if 0x20 ≤ n ∧ n ≤ 0x7E then [c]
  else if n < 0x10000 then codeUnit n
  else codeUnit (0xD800 + (n - 0x10000) / 1024) ++ codeUnit (0xDC00 + (n - 0x10000) % 1024)

def writeText (s : String) : List Char := '"' :: s.toList.flatMap escapeChar ++ ['"']

def isFinite (x : Float) : Bool :=
  match Double.ofFloat x with
  | .finite _ => true
  | _ => false

mutual

/-- The text of a value, or the real in it that has none. -/
def writeChars : Json → Except Float (List Char)
  | .null => .ok "null".toList
  | .bool true => .ok "true".toList
  | .bool false => .ok "false".toList
  | .int n => .ok (Numeral.write n)
  | .real x => if isFinite x then .ok (shortestText x).toList else .error x
  | .text s => .ok (writeText s)
  | .list [] => .ok ['[', ']']
  | .list (x :: xs) => do
    let head ← writeChars x
    let tail ← writeItems xs
    return '[' :: head ++ tail
  | .object [] => .ok ['\x7b', '\x7d']
  | .object ((name, x) :: ms) => do
    let head ← writeChars x
    let tail ← writeMembers ms
    return '\x7b' :: writeText name ++ ':' :: ' ' :: head ++ tail

/-- The items after the first, and the closing bracket. -/
def writeItems : List Json → Except Float (List Char)
  | [] => .ok [']']
  | x :: xs => do
    let head ← writeChars x
    let tail ← writeItems xs
    return ',' :: ' ' :: head ++ tail

/-- The members after the first, and the closing brace. -/
def writeMembers : List (String × Json) → Except Float (List Char)
  | [] => .ok ['\x7d']
  | (name, x) :: ms => do
    let head ← writeChars x
    let tail ← writeMembers ms
    return ',' :: ' ' :: writeText name ++ ':' :: ' ' :: head ++ tail

end

def write (j : Json) : Except Float String :=
  match j.writeChars with
  | .ok cs => .ok (String.ofList cs)
  | .error x => .error x

end Stomp.Json
