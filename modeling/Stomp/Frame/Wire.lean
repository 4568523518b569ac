import Stomp.Frame.Basic
import Stomp.Header.Escape
import Stomp.Json.Writer

/-!
# The wire form of a frame

The command and the headers, one a line, then a blank line, the body and a NUL. Outside the legacy
form the length of the body is announced where the body holds a NUL or the frame asks for it. A
number that was stored as it is has no wire form.
-/

namespace Stomp

/-- Why a frame cannot be written. -/
inductive Unwritable where
  /-- There is a real in the structure that has no JSON form. -/
  | real (x : Float)
  /-- A number was stored for a header as it is. -/
  | number (n : Int)

namespace Frame

/-- The frame with the body that is written. For a map frame it is rendered from the structure; a
real that has no JSON form is handed back. -/
def filled (f : Frame) : Except Float Frame :=
  match f.map? with
  | none => .ok f
  | some j =>
    match j.writeChars with
    | .ok cs => .ok { f with body := Utf8.encode cs }
    | .error x => .error x

def announcesLength (f : Frame) : Bool :=
  !f.legacy && !f.body.isEmpty && (f.lengthHint || f.body.contains 0)

def wireHeaders (f : Frame) : Headers :=
  if f.announcesLength then
    f.headers.insert Name.contentLength (.text (String.ofList (Numeral.digits f.body.length)))
  else f.headers

/-- The first number among the headers, which has no wire form. -/
def number? (f : Frame) : Option Int := f.wireHeaders.entries.findSome? fun e => e.2.number?

/-- The frame as it is written, or why it cannot be. The body is rendered before the headers. -/
def rendered (f : Frame) : Except Unwritable Frame :=
  match f.filled with
  | .error x => .error (.real x)
  | .ok g =>
    match g.number? with
    | some n => .error (.number n)
    | none => .ok g

def headerLine (legacy : Bool) (name : String) : HeaderValue → List Char
  | .bare => Escape.encode legacy name.toList
  | .text s => Escape.encode legacy name.toList ++ ':' :: Escape.encode legacy s.toList
  | .number n => Escape.encode legacy name.toList ++ ':' :: Numeral.write n

def headText (f : Frame) : List Char :=
  f.command.toList ++
    f.wireHeaders.entries.flatMap fun e => '\n' :: headerLine f.legacy e.1 e.2

/-- The bytes of a rendered frame. -/
def wire (f : Frame) : Bytes := Utf8.encode f.headText ++ [10, 10] ++ f.body ++ [0]

end Frame

end Stomp
