import Stomp.Frame.Wire
import Stomp.Observers

/-!
# Transports

Frames over a link: written ones are rendered, read ones are parsed from what arrives, and the
observers are told of both. An ERROR frame of the broker is an error.
-/

namespace Stomp

structure Transport (κ R : Type) where
  link : Link κ R
  parser : Parser := {}
  observers : Observers R := {}

namespace Transport

variable {κ R α : Type}

def readSize : Nat := 8192

/-- An action of the link; its faults are errors of the connection. -/
def onLink (x : EStateM ConnectionFault (Link κ R) α) : EStateM (Error R) (Transport κ R) α :=
  Action.mapError .connection (Action.on link (fun t l => { t with link := l }) x)

def logNotice (n : Notice R) : EStateM (Error R) (Transport κ R) Unit :=
  modify fun t => { t with link := t.link.notify n }

def setParser (p : Parser) : EStateM (Error R) (Transport κ R) Unit :=
  modify fun t => { t with parser := p }

variable [Scale R] [Channel κ R]

def label (t : Transport κ R) : String :=
  "StompFrameTransport(" ++ Channel.label t.link.channel ++ ")"

def now (t : Transport κ R) : R := t.link.now

def isConnected (t : Transport κ R) : Bool := Channel.isConnected t.link.channel

def isBufferEmpty (t : Transport κ R) : Bool := t.parser.isEmpty

def notify (e : Event) : EStateM (Error R) (Transport κ R) Unit :=
  Action.on (fun t => (t.observers, t.link))
    (fun t p => { t with observers := p.1, link := p.2 }) (Observers.notify e)

def canRead (timeout : Option (Quantity R)) : EStateM (Error R) (Transport κ R) Bool :=
  onLink (Link.canRead timeout)

def sendAlive (timeout : Option (Quantity R)) : EStateM (Error R) (Transport κ R) Unit :=
  onLink (Link.sendAlive timeout)

/-- Renders the frame in hand; the body of a map frame is stored in it. -/
def renderFrame : InHand (Error R) (Transport κ R) Frame := fun (f, t) =>
  match f.rendered with
  | .ok g => .ok g (g, t)
  | .error cause => .error (.unwritable cause) (f.filled.toOption.getD f, t)

/-- Writes the frame in hand. -/
def writeFrame : InHand (Error R) (Transport κ R) Unit := do
  Action.beside (onLink Link.requireConnected)
  Action.beside (logNotice (.sending (← get).1))
  let f ← renderFrame
  Action.beside (onLink (Link.write f.wire))
  Action.beside (notify (.sent f))

/-- Skips to the next head and takes it, unless a frame is in progress. -/
def prepare : EStateM (Error R) (Transport κ R) Unit := do
  let p := (← get).parser
  if p.head?.isNone then
    let (skipped, p) := p.skip
    setParser p
    if skipped then notify .emptyLine
    let p := p.takeHead
    setParser p
    match p.head?.bind Head.ignored? with
    | some value? => logNotice (.ignoredLength value?)
    | none => return ()

/-- The next frame among the bytes that have arrived. -/
def nextFrame : EStateM (Error R) (Transport κ R) (Option Frame) := do
  if (← get).parser.buffer.isEmpty then return none
  prepare
  let (result?, p) := (← get).parser.takeFrame
  setParser p
  match result? with
  | none => return none
  | some (.error fault) => throw (.malformed fault)
  | some (.ok f) =>
    notify (.received f)
    return some f

def accept (f : Frame) : EStateM (Error R) (Transport κ R) Frame := do
  logNotice (.received f)
  if f.isError then throw (.broker f)
  return f

/-- Reads until a frame is complete or no more data comes, at most `steps` times. -/
def readFrameWithin : Nat → Bool → EStateM (Error R) (Transport κ R) (Option Frame)
  | 0, _ => throw .stalled
  | steps + 1, fed => do
    match ← nextFrame with
    | some f => return some (← accept f)
    | none =>
      if fed then notify .emptyBuffer
      let data ← onLink (Link.read readSize)
      if data.isEmpty then
        notify .emptyRead
        return none
      modify fun t => { t with parser := t.parser.feed data }
      readFrameWithin steps true

/-- The next frame, or none if no more data comes for now. -/
def readFrame : EStateM (Error R) (Transport κ R) (Option Frame) := do
  readFrameWithin (Channel.patience (← get).link.channel + 2) false

/-- Closes the channel; what was not read is dropped in any case. -/
def close : EStateM (Error R) (Transport κ R) Unit := fun t =>
  let drop (t : Transport κ R) : Transport κ R :=
    let (rest, p) := t.parser.flush
    { t with
      parser := p
      link := if rest = [] then t.link else t.link.notify (.dropped rest.length) }
  match onLink Link.close t with
  | .ok _ t => .ok () (drop t)
  | .error e t => .error e (drop t)

end Transport

end Stomp
