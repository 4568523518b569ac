import Stomp.Client.Config
import Stomp.Protocol
import Stomp.Transport

/-!
# Clients

A client connects over a transport, sends frames, with a receipt if asked to, and reads frames.
Frames that arrive while it waits for a receipt are queued and read first.
-/

namespace Stomp

structure Client (κ R : Type) where
  config : Config R
  transport : Transport κ R
  protocol? : Option Protocol := none
  session : Option HeaderValue := none
  /-- Frames that arrived while a receipt was waited for. -/
  queue : List Frame := []
  ids : IdSupply := {}

abbrev ClientAction (κ R α : Type) := EStateM (Error R) (Client κ R) α

namespace Client

variable {κ R α : Type} [Scale R] [Channel κ R]

def onTransport (x : EStateM (Error R) (Transport κ R) α) : ClientAction κ R α :=
  Action.on transport (fun c t => { c with transport := t }) x

def logNotice (n : Notice R) : ClientAction κ R Unit := onTransport (Transport.logNotice n)

def raise (x : Except Command.Fault α) : ClientAction κ R α :=
  Action.mapError .command (Action.ofExcept x)

def freshId : ClientAction κ R String := modifyGet fun c =>
  let (id, ids) := c.ids.next
  (id, { c with ids })

/-- The protocol of a connected client. -/
def protocol : ClientAction κ R Protocol := do
  match (← get).protocol? with
  | some p => return p
  | none => throw (.connection .notConnected)

def setLegacy (legacy : Bool) : ClientAction κ R Unit :=
  modify fun c => { c with transport :=
    { c.transport with parser := { c.transport.parser with legacy } } }

/-- The time at which a wait that begins now ends. -/
def deadline (timeout : Quantity R) : ClientAction κ R R := do
  match timeout.toScale? with
  | some t => return (← get).transport.now + t
  | none => throw .beyondScale

/-- Waits for data until the deadline, or fails if it has passed. -/
def waitForData (deadline : R) (late : Error R) : ClientAction κ R Unit := do
  let remaining := deadline - (← get).transport.now
  if Scale.le remaining Scale.zero then throw late
  discard <| onTransport (Transport.canRead (some (.real remaining)))

/-- A bound for the steps of a wait: each uses up data that is there or to come, or brings the
deadline nearer. -/
def waitSteps (c : Client κ R) : Nat :=
  2 * Channel.patience c.transport.link.channel + c.transport.parser.buffer.length + 16

def writeFrame : InHand (Error R) (Client κ R) Unit := fun (f, c) =>
  match Transport.writeFrame (f, c.transport) with
  | .ok _ (f, t) => .ok () (f, { c with transport := t })
  | .error e (f, t) => .error e (f, { c with transport := t })

def awaitConnected (deadline : R) (late : Error R) : Nat → ClientAction κ R Frame
  | 0 => throw .stalled
  | steps + 1 => do
    match ← onTransport Transport.readFrame with
    | some f =>
      if f.command = Verb.connected then return f
      throw (.command (.unexpectedFrame s!"Expected a {Verb.connected} frame." f))
    | none =>
      waitForData deadline late
      awaitConnected deadline late steps

/-- Connects: offers the versions of the configuration, and takes up the one that the broker
chose. Until the version is known, frames are read in the legacy form. -/
def connect : ClientAction κ R Unit := do
  let c ← get
  let config := c.config
  if c.protocol?.isSome then
    throw (.connection (.alreadyConnected c.transport.label))
  setLegacy true
  let clientId ← raise (Command.givenOf config.clientId)
  let p ← raise (Protocol.ofBanner clientId .v10 none)
  let f ← raise
    (p.connect config.login config.passcode (some config.versions) config.host config.beats)
  Action.withFrame f writeFrame
  let limit ← deadline config.connectTimeout
  let answer ← awaitConnected limit (.connectTimeout config.connectTimeout) (← get).waitSteps
  let hello ← raise (Command.connected answer (some config.versions))
  unless hello.version.isLegacy do setLegacy false
  modify fun c => { c with session := hello.session }
  let p ← raise (hello.protocol clientId)
  logNotice (.dialectChosen p.dialect hello.version hello.server)
  modify fun c => { c with protocol? := some p }
  logNotice (.established (← get).transport.label hello.version hello.session)

def awaitReceipt (id : String) (deadline : R) : Nat → ClientAction κ R Unit
  | 0 => throw .stalled
  | steps + 1 => do
    match ← onTransport Transport.readFrame with
    | some f =>
      if f.command = Verb.receipt then
        if f.get? Name.receiptId = some (.text id) then return ()
        throw (.command (.unexpectedFrame s!"Expected receipt id {id}." f))
      modify fun c => { c with queue := c.queue ++ [f] }
    | none => pure ()
    waitForData deadline (.missingReceipt id)
    awaitReceipt id deadline steps

/-- Sends the frame in hand; with a receipt if `sync?` or else the configuration says so. -/
def sendFrame (sync? : Option Bool) : InHand (Error R) (Client κ R) Unit := do
  let _ ← Action.beside protocol
  let config := (← get).2.config
  if sync?.getD config.sync then
    let id ← Action.beside freshId
    modify fun (f, c) => (f.set Name.receipt (.text id), c)
    writeFrame
    Action.beside do
      let limit ← deadline config.receiptTimeout
      awaitReceipt id limit (← get).waitSteps
  else writeFrame

/-- Sends a message with this body. -/
def sendBody (destination : Given) (body : Bytes) (headers : List (String × Given))
    (sync? : Option Bool) : ClientAction κ R Unit := do
  let p ← protocol
  Action.withFrame (p.send destination body headers .absent) (sendFrame sync?)

/-- Sends the frame in hand as a message; it keeps the headers it has. -/
def sendPrepared (destination : Given) (headers : List (String × Given)) (sync? : Option Bool) :
    InHand (Error R) (Client κ R) Unit := do
  let _ ← Action.beside protocol
  modify fun (f, c) => ((f.add headers).set Name.destination destination, c)
  sendFrame sync?

def readFrame : ClientAction κ R (Option Frame) := do
  match (← get).queue with
  | f :: rest =>
    modify fun c => { c with queue := rest }
    return some f
  | [] => onTransport Transport.readFrame

/-- Whether there is a frame or at least data. A frame that is found is queued. -/
def canRead (timeout : Option (Quantity R)) : ClientAction κ R Bool := do
  if !(← get).queue.isEmpty then return true
  match ← onTransport Transport.readFrame with
  | some f =>
    modify fun c => { c with queue := c.queue ++ [f] }
    return true
  | none => onTransport (Transport.canRead timeout)

def isBufferEmpty (c : Client κ R) : Bool := c.queue.isEmpty && c.transport.isBufferEmpty

def reset (c : Client κ R) : Client κ R :=
  { c with protocol? := none, session := none, queue := [] }

/-- Says good-bye as well as it can, closes the channel, and is unconnected afterwards. -/
def disconnect (sync? : Option Bool) : ClientAction κ R Unit := do
  let p ← protocol
  match Action.withFrame p.disconnect (sendFrame sync?) (← get) with
  | .ok _ c => set c
  | .error e c =>
    set c
    unless e.isOperational do throw e
    logNotice (.notDisconnected e)
  match onTransport Transport.close (← get) with
  | .ok _ c =>
    set c
    finish
  | .error e c =>
    set c
    finish
    throw e
where
  finish : ClientAction κ R Unit := do
    logNotice (.disconnected (← get).transport.label)
    modify reset

end Client

end Stomp
