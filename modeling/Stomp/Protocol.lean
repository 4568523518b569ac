import Stomp.Command.Basic

/-!
# The protocol of a connection

The frames of a client once version and broker are known. Some brokers ask for further headers on
subscriptions and on acknowledgements.
-/

namespace Stomp

structure Protocol where
  clientId : Given
  version : Version
  server : Option HeaderValue
  dialect : Dialect
  prefetchSize : Given := .number 1 Numeral.hasText_one
  prefetchCount : Given := .number 1 Numeral.hasText_one

namespace Protocol

open Command (Fault)

def dialectOf : Option HeaderValue → Except Fault Dialect
  | none => .ok .generic
  | some (.text banner) => .ok (.detect banner)
  | some v => if v.offer.isSet then .error .bannerWithoutText else .ok .generic

def ofBanner (clientId : Given) (version : Version) (server : Option HeaderValue) :
    Except Fault Protocol :=
  match dialectOf server with
  | .ok dialect => .ok { clientId, version, server, dialect }
  | .error e => .error e

def connect (p : Protocol) (login passcode : Offer) (versions : Option (List Offer))
    (host : Offer) (beats : List BeatOffer) : Except Fault Frame :=
  Command.connect login passcode versions host beats p.clientId

/-- Names a durable subscription after the client. -/
def nameDurable (p : Protocol) (f : Frame) : Except Fault Frame :=
  if p.clientId.isSet then
    .ok ((f.set Name.subscriptionName p.clientId).set Name.subscriberName p.clientId)
  else .error (.clientIdNeeded p.server)

def persistent (f : Frame) : Frame := f.set Name.persistent (.text "true")

def subscribe (p : Protocol) (destination id ack selector : Given) (durable : Bool) :
    Except Fault Frame := do
  let f ← Command.subscribe p.version destination id ack selector
  match p.dialect with
  | .activemq =>
    let f := f.set Name.prefetchSize p.prefetchSize
    if durable then p.nameDurable f else return f
  | .rabbitmq =>
    let f := f.set Name.prefetchCount p.prefetchCount
    return if durable then persistent f else f
  | .apollo => return if durable && p.clientId.isSet then persistent f else f
  | _ => return f

def unsubscribe (p : Protocol) (destination id : Given) (durable : Bool) : Except Fault Frame :=
  let f := Command.unsubscribe p.version destination id
  if durable then
    match p.dialect with
    | .activemq => p.nameDurable f
    | .rabbitmq | .apollo => .ok (persistent f)
    | _ => .ok f
  else .ok f

def send (p : Protocol) (destination : Given) (body : Bytes) (headers : List (String × Given))
    (transaction : Given) : Frame :=
  Command.send p.version destination body headers transaction

def ack (p : Protocol) (transaction : Given) : InHand Fault IdSupply Frame := do
  let f ← Command.ack p.version transaction
  let (message, _) ← get
  if p.dialect = .openmq then
    let g ← Action.ofExcept (Command.givenOf (.ofHeader (message.get? Name.subscription)))
    return f.set Name.subscription g
  return f

/-- Only one dialect lets the client ask whether the message is to be queued again. -/
def nack (p : Protocol) (transaction : Given) (requeue : Option Bool) :
    InHand Fault IdSupply Frame :=
  match requeue with
  | none => Command.nack p.version transaction
  | some again =>
    if p.dialect = .rabbitmq then do
      let f ← Command.nack p.version transaction
      return f.set Name.requeue (.text (if again then "true" else "false"))
    else throw (.requeueUnsupported p.dialect p.server)

def begin (p : Protocol) (transaction : Given) : Frame := Command.begin p.version transaction

def commit (p : Protocol) (transaction : Given) : Frame := Command.commit p.version transaction

def abort (p : Protocol) (transaction : Given) : Frame := Command.abort p.version transaction

def disconnect (p : Protocol) : Frame := Command.disconnect p.version p.clientId

def shown (p : Protocol) : String :=
  s!"StompProtocol(clientId={p.clientId.quoted}, version={Quoted.text p.version.text}, " ++
    s!"server={(Offer.ofHeader p.server).quoted})"

end Protocol

namespace Command.Handshake

def protocol (h : Handshake) (clientId : Given) : Except Fault Protocol :=
  Protocol.ofBanner clientId h.version h.server

end Command.Handshake

end Stomp
