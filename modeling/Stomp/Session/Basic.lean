import Stomp.Action
import Stomp.Notice
import Stomp.Protocol
import Stomp.Session.State

/-!
# Sessions

A session allows the commands that are legal in its state, and keeps track of its subscriptions and
its transaction. It works with any client that can send and read frames. A command that fails
leaves the state as it was.
-/

namespace Stomp

/-- What a session asks of its client. -/
class Session.Client (σ : Type) (R : outParam Type) where
  protocol : EStateM (Error R) σ Protocol
  /-- Sends the frame in hand; whether with a receipt, the client decides if not told. -/
  sendFrame : Option Bool → InHand (Error R) σ Unit
  sendBody : Given → Bytes → List (String × Given) → Option Bool → EStateM (Error R) σ Unit
  sendPrepared : Given → List (String × Given) → Option Bool → InHand (Error R) σ Unit
  readFrame : EStateM (Error R) σ (Option Frame)
  isBufferEmpty : σ → Bool
  ids : σ → IdSupply
  setIds : σ → IdSupply → σ
  logNotice : Notice R → σ → σ

structure Session (σ : Type) where
  client : σ
  state : Session.State := .producer
  /-- How many subscriptions there have been. -/
  subscribed : Nat := 0

abbrev SessionAction (R σ α : Type) := EStateM (Error R) (Session σ) α

namespace Session

variable {R σ α : Type} [Session.Client σ R]

def transaction? (s : Session σ) : Option String := s.state.transaction?

/-- The open transaction as a header. -/
def transactionHeader (s : Session σ) : Given :=
  match s.transaction? with
  | some t => .text t
  | none => .absent

def onClient (x : EStateM (Error R) σ α) : SessionAction R σ α :=
  Action.on client (fun s c => { s with client := c }) x

/-- An action of the client on the frame in hand. -/
def onClientInHand (x : InHand (Error R) σ α) : InHand (Error R) (Session σ) α :=
  Action.on (fun p => (p.1, p.2.client)) (fun p q => (q.1, { p.2 with client := q.2 })) x

def raise (x : Except Command.Fault α) : SessionAction R σ α :=
  Action.mapError .command (Action.ofExcept x)

def check (operation : String) (allowed : Mode → Bool) : SessionAction R σ Unit := do
  let mode := (← get).state.mode
  if allowed mode then return ()
  if mode.isDraining then throw (.draining mode operation)
  throw (.illegal mode operation)

def moveTo (state : State) : SessionAction R σ Unit := modify fun s =>
  { s with state, client := Client.logNotice (.transition s.state.mode state.mode) s.client }

def sendNew (f : Frame) (sync? : Option Bool) : SessionAction R σ Unit :=
  onClient (Action.withFrame f (Client.sendFrame sync?))

/-- The additional headers of a message within a transaction name it. -/
def stamped (transaction : String) (headers : List (String × Given)) : List (String × Given) :=
  Assoc.insert headers Name.transaction (.text transaction)

/-- Sends a message with this body; within a transaction without waiting for a receipt. -/
def sendBody (destination : Given) (body : Bytes) (headers : List (String × Given)) :
    SessionAction R σ Unit := do
  match (← get).transaction? with
  | none => onClient (Client.sendBody destination body headers none)
  | some t => onClient (Client.sendBody destination body (stamped t headers) (some false))

/-- Sends the frame in hand as a message; within a transaction without waiting for a receipt. -/
def sendPrepared (destination : Given) (headers : List (String × Given)) :
    InHand (Error R) (Session σ) Unit := do
  match (← get).2.transaction? with
  | none => onClientInHand (Client.sendPrepared destination headers none)
  | some t => onClientInHand (Client.sendPrepared destination (stamped t headers) (some false))

/-- The additional headers do not replace those of the protocol. -/
def subscribe (destination selector ack : Given) (headers : List (String × Given)) :
    SessionAction R σ String := do
  check "subscribe" fun m => m.isProducer || m.isConsumer
  let id ← modifyGet fun s =>
    (String.ofList (Numeral.digits s.subscribed), { s with subscribed := s.subscribed + 1 })
  let p ← onClient Client.protocol
  let f ← raise (p.subscribe destination (.text id) ack selector false)
  sendNew (f.add headers) none
  let s ← get
  moveTo (.consuming (s.state.subscriptions ++ [⟨destination, selector, ack, id, headers⟩])
    s.transaction?)
  return id

/-- The subscription with this id; where no id is given, the latest one. -/
def select? (subscriptions : List Subscription) : Given → Option Subscription
  | .absent => subscriptions.getLast?
  | .text id => subscriptions.find? fun s => s.id == id
  | _ => none

/-- After its last subscription a session drains the frames that the client still holds. -/
def afterUnsubscribe (remaining : List Subscription) (transaction? : Option String)
    (bufferEmpty : Bool) : State :=
  if remaining ≠ [] then .consuming remaining transaction?
  else if bufferEmpty then .producing transaction?
  else .emptying transaction?

def unsubscribe (id : Given) : SessionAction R σ Unit := do
  check "unsubscribe" Mode.isConsumer
  let state := (← get).state
  match select? state.subscriptions id with
  | none => throw (.noSubscription state.mode id)
  | some subscription =>
    let p ← onClient Client.protocol
    let f ← raise (p.unsubscribe subscription.destination (.text subscription.id) false)
    sendNew f none
    let s ← get
    moveTo (afterUnsubscribe (state.subscriptions.filter fun t => t.id ≠ subscription.id)
      state.transaction? (Client.isBufferEmpty s.client))

def freshId : SessionAction R σ String := modifyGet fun s =>
  let (id, ids) := (Client.ids s.client).next
  (id, { s with client := Client.setIds s.client ids })

def begin : SessionAction R σ String := do
  check "begin" fun m => m == .producer || m == .consumer
  let t ← freshId
  let p ← onClient Client.protocol
  sendNew (p.begin (.text t)) none
  let s ← get
  moveTo (if s.state.mode = .producer then .producerTransaction t
    else .consumerTransaction t s.state.subscriptions)
  return t

/-- Ends the transaction with the frame that the protocol has for it. -/
def endTransaction (operation : String) (frame : Protocol → Given → Frame) :
    SessionAction R σ Unit := do
  check operation fun m => m == .producerTransaction || m == .consumerTransaction
  let p ← onClient Client.protocol
  sendNew (frame p (← get).transactionHeader) none
  let s ← get
  moveTo (if s.state.mode = .consumerTransaction then .consumer s.state.subscriptions
    else .producer)

def commit : SessionAction R σ Unit := endTransaction "commit" Protocol.commit

def abort : SessionAction R σ Unit := endTransaction "abort" Protocol.abort

/-- Builds an answer to the message in hand, which may receive an id by it. -/
def buildAnswer (x : InHand Command.Fault IdSupply Frame) :
    InHand (Error R) (Session σ) Frame :=
  Action.on (fun p => (p.1, Client.ids p.2.client))
    (fun p q => (q.1, { p.2 with client := Client.setIds p.2.client q.2 }))
    (Action.mapError .command x)

/-- Answers the message in hand, without waiting for a receipt. -/
def answer (operation : String)
    (build : Protocol → Given → InHand Command.Fault IdSupply Frame) :
    InHand (Error R) (Session σ) Unit := do
  Action.beside (check operation fun m => m.isConsumer || m.isDraining)
  let p ← Action.beside (onClient Client.protocol)
  let f ← buildAnswer (build p (← get).2.transactionHeader)
  Action.beside (sendNew f (some false))

def ack : InHand (Error R) (Session σ) Unit := answer "ack" Protocol.ack

def nack (requeue : Option Bool) : InHand (Error R) (Session σ) Unit :=
  answer "nack" fun p t => p.nack t requeue

/-- The next frame, or none if there is none; then a session that drains has drained. -/
def read : SessionAction R σ (Option Frame) := do
  check "read" fun m => m.isConsumer || m.isDraining
  let f? ← onClient Client.readFrame
  let s ← get
  if f?.isNone && s.state.mode.isDraining then moveTo (.producing s.transaction?)
  return f?

end Session

end Stomp
