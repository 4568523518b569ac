import Stomp.Frame.Basic
import Stomp.Header.Escape

/-!
# Reading frames from a stream

A parser holds the bytes that are not yet used, and the head of a frame whose body is not complete.
Line ends before a frame (and stray NULs, outside the legacy mode) are skipped. A head ends at the
first blank line. The body ends where the announced length says, or else at the first NUL.
-/

namespace Stomp

/-- A command line and header lines as they came: a line without a colon has no value. -/
structure Head where
  command : Bytes
  lines : List (Bytes × Option Bytes)
deriving DecidableEq, Repr

namespace Head

/-- What the content-length line announces. -/
inductive Announced where
  | nothing
  | invalid (value? : Option Bytes)
  | length (n : Int)
deriving DecidableEq, Repr

/-- Lines are parted by runs of line feeds, each with or without a carriage return before it. -/
def splitLines : Bool → Bytes → List Bytes
  | _, [] => [[]]
  | afterEnd, 13 :: 10 :: rest =>
    if afterEnd then splitLines true rest else [] :: splitLines true rest
  | afterEnd, 10 :: rest =>
    if afterEnd then splitLines true rest else [] :: splitLines true rest
  | _, b :: rest =>
    match splitLines false rest with
    | line :: lines => (b :: line) :: lines
    | [] => [[b]]

def splitHeader (line : Bytes) : Bytes × Option Bytes :=
  match line.span (· ≠ 58) with
  | (name, _ :: value) => (name, some value)
  | (name, []) => (name, none)

/-- The lines whose names did not occur before, `seen` being the names so far. -/
def firstOfEachName (seen : List Bytes) :
    List (Bytes × Option Bytes) → List (Bytes × Option Bytes)
  | [] => []
  | l :: rest =>
    if l.1 ∈ seen then firstOfEachName seen rest
    else l :: firstOfEachName (l.1 :: seen) rest

def ofBlock (block : Bytes) : Head :=
  match splitLines false block with
  | command :: lines => ⟨command, firstOfEachName [] (lines.map splitHeader)⟩
  | [] => ⟨[], []⟩

def contentLength : Bytes := Bytes.ofString Name.contentLength

/-- Bytes read as the characters of the same numbers. -/
def latin (bs : Bytes) : List Char := bs.map fun b => Char.ofNat b.toNat

def announced (h : Head) : Announced :=
  match h.lines.find? (fun l => l.1 == contentLength) with
  | none => .nothing
  | some (_, none) => .invalid none
  | some (_, some value) =>
    match Numeral.read .ascii (latin value) with
    | .ok n => .length n
    | .error _ => .invalid (some value)

/-- The length of the body, if a positive one is announced. -/
def bodyLength? (h : Head) : Option Nat :=
  match h.announced with
  | .length n => if 0 < n then some n.toNat else none
  | _ => none

/-- The value of a content-length line that is ignored because it is no number. -/
def ignored? (h : Head) : Option (Option Bytes) :=
  match h.announced with
  | .invalid value? => some value?
  | _ => none

/-- The header lines; one that announces no number keeps its name alone. -/
def headers (h : Head) : List (Bytes × Option Bytes) :=
  if h.ignored?.isSome then
    h.lines.map fun l => if l.1 = contentLength then (l.1, none) else l
  else h.lines

end Head

/-- Why a complete frame is refused. -/
inductive Malformed where
  | headers (fault : Utf8.Fault)
  | map (fault : MapFault)

namespace Head

/-- A header name or value as text. -/
def decodePart (legacy : Bool) (bs : Bytes) : Except Utf8.Fault String :=
  match Utf8.decode bs with
  | .ok cs => .ok (String.ofList (Escape.decode legacy cs))
  | .error e => .error e

def decodeHeaders (legacy : Bool) :
    List (Bytes × Option Bytes) → Except Utf8.Fault (List (String × HeaderValue))
  | [] => .ok []
  | (name, value?) :: rest => do
    let name ← decodePart legacy name
    let value ← match value? with
      | none => pure HeaderValue.bare
      | some value => HeaderValue.text <$> decodePart legacy value
    let rest ← decodeHeaders legacy rest
    return (name, value) :: rest

/-- Whether the last of the transformation headers asks for a map. -/
def asksForMap (pairs : List (String × HeaderValue)) : Bool :=
  decide (Assoc.get? pairs.reverse Name.transformation = some (.text mapTransformation))

def frame (h : Head) (legacy : Bool) (body : Bytes) : Except Malformed Frame :=
  match Bytes.toString? h.command with
  | .error e => .error (.headers e)
  | .ok command =>
    match decodeHeaders legacy h.headers with
    | .error e => .error (.headers e)
    | .ok pairs =>
      let headers := Headers.ofList (pairs.map fun p => (p.1, p.2.given))
      let f : Frame := { command, headers, body, legacy }
      if asksForMap pairs then
        match f.withMapBody body with
        | .ok f => .ok f
        | .error e => .error (.map e)
      else .ok f

end Head

structure Parser where
  legacy : Bool := false
  buffer : Bytes := []
  /-- The head of the frame in progress. -/
  head? : Option Head := none

namespace Parser

def feed (p : Parser) (data : Bytes) : Parser := { p with buffer := p.buffer ++ data }

def isEmpty (p : Parser) : Bool := p.buffer.isEmpty && p.head?.isNone

/-- The bytes that are not yet used, and the parser without them and without a frame in progress. -/
def flush (p : Parser) : Bytes × Parser := (p.buffer, { legacy := p.legacy })

def isSkipped (legacy : Bool) (b : UInt8) : Bool := b == 13 || b == 10 || (!legacy && b == 0)

/-- Drops what may stand before a frame; true if there was anything. -/
def skip (p : Parser) : Bool × Parser :=
  let rest := p.buffer.dropWhile (isSkipped p.legacy)
  (decide (rest.length < p.buffer.length), { p with buffer := rest })

/-- The bytes before the first blank line, and those after it. -/
def splitHead? : Bytes → Option (Bytes × Bytes)
  | 13 :: 10 :: 13 :: 10 :: rest => some ([], rest)
  | 10 :: 10 :: rest => some ([], rest)
  | [] => none
  | b :: rest =>
    match splitHead? rest with
    | some (block, after) => some (b :: block, after)
    | none => none

/-- Takes the head of a frame off the buffer if it is complete. -/
def takeHead (p : Parser) : Parser :=
  match splitHead? p.buffer with
  | some (block, after) => { p with buffer := after, head? := some (Head.ofBlock block) }
  | none => p

def splitBody? (length? : Option Nat) (buffer : Bytes) : Option (Bytes × Bytes) :=
  match length? with
  | some n => if n < buffer.length then some (buffer.take n, buffer.drop (n + 1)) else none
  | none =>
    match buffer.span (· ≠ 0) with
    | (body, _ :: after) => some (body, after)
    | (_, []) => none

/-- Completes the frame in progress if its body is there; nothing of the frame stays behind, also
when it is refused. -/
def takeFrame (p : Parser) : Option (Except Malformed Frame) × Parser :=
  match p.head? with
  | none => (none, p)
  | some head =>
    match splitBody? head.bodyLength? p.buffer with
    | none => (none, p)
    | some (body, after) =>
      (some (head.frame p.legacy body), { legacy := p.legacy, buffer := after })

/-- What one attempt at the next frame did. -/
structure Attempt where
  skipped : Bool := false
  ignoredLength? : Option (Option Bytes) := none
  result? : Option (Except Malformed Frame) := none

/-- Skips to the next head and takes it; the parser stays as it is within a frame. -/
def prepare (p : Parser) : Bool × Option (Option Bytes) × Parser :=
  match p.head? with
  | some _ => (false, none, p)
  | none =>
    let (skipped, p) := p.skip
    let p := p.takeHead
    (skipped, p.head?.bind Head.ignored?, p)

def next (p : Parser) : Attempt × Parser :=
  if p.buffer.isEmpty then ({}, p)
  else
    let (skipped, ignoredLength?, p) := p.prepare
    let (result?, p) := p.takeFrame
    ({ skipped, ignoredLength?, result? }, p)

/-- Attempts until one gives nothing, at most `steps` of them. -/
def drainWithin : Nat → Parser → List Attempt × Parser
  | 0, p => ([], p)
  | steps + 1, p =>
    let (a, p) := p.next
    match a.result? with
    | none => ([a], p)
    | some _ =>
      let (as, p) := drainWithin steps p
      (a :: as, p)

/-- Each result uses up a byte, so this ends with an attempt that gives nothing. -/
def drain (p : Parser) : List Attempt × Parser := drainWithin (p.buffer.length + 1) p

end Parser

end Stomp
