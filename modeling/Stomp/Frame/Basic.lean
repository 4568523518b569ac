import Stomp.Header.Name
import Stomp.Header.Table
import Stomp.Json.Reader

/-!
# Frames

A frame has a command, headers and a body. A map frame also holds the structure that its body
spells as JSON; its body is rendered from the structure when the frame is written.
-/

namespace Stomp

structure Frame where
  command : String := ""
  headers : Headers := {}
  body : Bytes := []
  /-- The structure of a map frame. -/
  map? : Option Json := none
  legacy : Bool := false
  /-- Announce the length of every body that is not empty. -/
  lengthHint : Bool := false

/-- Fresh identifiers. -/
structure IdSupply where
  issued : Nat := 0
deriving DecidableEq, Repr

namespace IdSupply

def next (ids : IdSupply) : String × IdSupply :=
  ("uid-" ++ String.ofList (Numeral.digits (ids.issued + 1)), ⟨ids.issued + 1⟩)

end IdSupply

/-- Why a body is no map. -/
inductive MapFault where
  | encoding (fault : Utf8.Fault)
  | json (fault : Json.Fault)

namespace Frame

def get? (f : Frame) (name : String) : Option HeaderValue := f.headers.get? name

def set (f : Frame) (name : String) (g : Given) : Frame :=
  { f with headers := f.headers.set name g }

def add (f : Frame) (pairs : List (String × Given)) : Frame :=
  { f with headers := f.headers.addAll pairs }

def isMap (f : Frame) : Bool := f.map?.isSome

def isError (f : Frame) : Bool := f.command == Verb.error

/-- The message id of a frame that has one; otherwise a fresh id becomes its message id. -/
def ensureMessageId (f : Frame) (ids : IdSupply) : HeaderValue × Frame × IdSupply :=
  match HeaderValue.nonempty? (f.get? Name.messageId) with
  | some v => (v, f, ids)
  | none =>
    let (id, ids) := ids.next
    (.text id, f.set Name.messageId (.text id), ids)

/-- The structure of a body; an empty body is an empty object. -/
def readMap (body : Bytes) : Except MapFault Json :=
  if body = [] then .ok (.object [])
  else
    match Utf8.decode body with
    | .error e => .error (.encoding e)
    | .ok text =>
      match Json.read text with
      | .error e => .error (.json e)
      | .ok j => .ok j

/-- The frame as a map frame with this body. -/
def withMapBody (f : Frame) (body : Bytes) : Except MapFault Frame :=
  match readMap body with
  | .ok j => .ok { f with body := body, map? := some j }
  | .error e => .error e

/-- The frame as a map frame with this structure. A text is taken as the body of the map. -/
def withMap (f : Frame) : Json → Except MapFault Frame
  | .text s => f.withMapBody (Bytes.ofString s)
  | j => .ok ({ f with body := [], map? := some j }.set Name.transformation
      (.text mapTransformation))

end Frame

end Stomp
