/-!
# Header escapes

In headers a backslash, carriage return, line feed and colon are written as two characters; the
legacy form escapes line feeds alone. Reading takes backslashes in pairs with the character after
them, and leaves a pair that stands for nothing as it is.
-/

namespace Stomp.Escape

/-- What is written for which character, in the order in which the replacements are made. -/
def replacements (legacy : Bool) : List (Char × List Char) :=
  if legacy then [('\n', ['\\', 'n'])]
  else [('\\', ['\\', '\\']), ('\r', ['\\', 'r']), ('\n', ['\\', 'n']), (':', ['\\', 'c'])]

def replace (c : Char) (written text : List Char) : List Char :=
  text.flatMap fun x => if x = c then written else [x]

def encode (legacy : Bool) (text : List Char) : List Char :=
  (replacements legacy).foldl (fun text r => replace r.1 r.2 text) text

/-- The character that a backslash and `c` stand for. -/
def meaning? (legacy : Bool) (c : Char) : Option Char :=
  if c = 'n' then some '\n'
  else if legacy then none
  else if c = '\\' then some '\\'
  else if c = 'r' then some '\r'
  else if c = 'c' then some ':'
  else none

def decode (legacy : Bool) : List Char → List Char
  | '\\' :: c :: rest =>
    match meaning? legacy c with
    | some x => x :: decode legacy rest
    | none => '\\' :: c :: decode legacy rest
  | c :: rest => c :: decode legacy rest
  | [] => []

def encodeString (legacy : Bool) (s : String) : String := String.ofList (encode legacy s.toList)

def decodeString (legacy : Bool) (s : String) : String := String.ofList (decode legacy s.toList)

end Stomp.Escape
