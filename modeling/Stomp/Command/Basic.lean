import Stomp.Action
import Stomp.Command.Fault
import Stomp.Decimal.Double

/-!
# The frames of a client

What each command sends in each version, and what is read from the frames that answer them. The
CONNECT frame is in the legacy form, since no version is agreed on yet.
-/

namespace Stomp

/-- An interval of heart-beats as an application offers it. -/
inductive BeatOffer where
  | whole (n : Int)
  | real (x : Float)
  | flag (b : Bool)
  | text (s : String)

namespace Command

def givenOf (o : Offer) : Except Fault Given :=
  match o.given? with
  | some g => .ok g
  | none => .error .integerWithoutText

/-- An unsupported version is named in the error, if it can be written. -/
def versionOf (o : Offer) : Except Fault Version :=
  match Version.ofOffer? o with
  | some v => .ok v
  | none => do throw (.unsupportedVersion (← givenOf o))

def versionsOf : Option (List Offer) → Except Fault (List Version)
  | none => .ok Version.all
  | some os => os.mapM versionOf

/-- Whether the version is the minimum or a later one. The minimum must be named. -/
def hasVersion (version : Version) (minimum : Given) : Except Fault Bool :=
  match minimum with
  | .text s =>
    match Version.ofText? s with
    | some m => .ok (decide (m ≤ version))
    | none => .error (.unknownMinimum minimum)
  | _ => .error (.unknownMinimum minimum)

/-- A fraction is cut off, and a flag counts as one or zero. -/
def milliseconds : BeatOffer → Except Fault Int
  | .whole n => .ok n
  | .flag b => .ok (if b then 1 else 0)
  | .real x =>
    match Double.ofFloat x with
    | .finite d => .ok d.truncate
    | .infinite _ => .error .boundlessInterval
    | .undefined => .error .undefinedInterval
  | .text s =>
    match Numeral.read .unicode s.toList with
    | .ok n => .ok n
    | .error .malformed => .error (.invalidInteger s)
    | .error (.tooLong n) => .error (.integerTooLong n)

def beatText (beat : BeatOffer) : Except Fault String := do
  let n ← milliseconds beat
  if Numeral.HasText n then return String.ofList (Numeral.write n)
  throw .integerWithoutText

/-- A login or a passcode is stored as it is, also a number. -/
def credential : Offer → HeaderValue
  | .text s => .text s
  | .number n => if n = 0 then .text "" else .number n
  | .flag true => .bare
  | .flag false | .absent => .text ""

/-- Credentials are sent if there is a login or a passcode; then both are, even if empty. -/
def credentials (login passcode : Offer) : Headers :=
  if login.isSet || passcode.isSet then
    (Headers.empty.insert Name.login (credential login)).insert Name.passcode (credential passcode)
  else .empty

def connect (login passcode : Offer) (versions : Option (List Offer)) (host : Offer)
    (beats : List BeatOffer) (clientId : Given) : Except Fault Frame := do
  let versions ← versionsOf versions
  let host ← givenOf host
  let beats ← beats.mapM beatText
  let headers := credentials login passcode
  let f : Frame := { command := Verb.connect, headers, legacy := true }
  return ((f.set Name.clientId clientId).set Name.acceptVersion
    (.text (",".intercalate (versions.map Version.text)))).set Name.host host
    |>.set Name.heartBeat (.text (",".intercalate beats))

def frame (command : String) (v : Version) : Frame :=
  { command, headers := .empty, legacy := v.isLegacy }

def disconnect (v : Version) (clientId : Given) : Frame :=
  (frame Verb.disconnect v).set Name.clientId clientId

/-- The destination and the transaction replace headers of these names, and an absent one removes
them. -/
def send (v : Version) (destination : Given) (body : Bytes) (headers : List (String × Given))
    (transaction : Given) : Frame :=
  let f := { frame Verb.send v with body }
  ((f.add headers).set Name.destination destination).set Name.transaction transaction

def subscribe (v : Version) (destination id ack selector : Given) : Except Fault Frame :=
  match ack with
  | .text mode =>
    if mode ∈ v.ackModes then
      .ok <| ((frame Verb.subscribe v).set Name.destination destination).set Name.ack ack
        |>.set Name.id id |>.set Name.selector selector
    else .error (.invalidAck ack v)
  | _ => .error (.invalidAck ack v)

def unsubscribe (v : Version) (destination id : Given) : Frame :=
  ((frame Verb.unsubscribe v).set Name.destination destination).set Name.id id

def ofTransaction (command : String) (v : Version) (transaction : Given) : Frame :=
  (frame command v).set Name.transaction transaction

def begin (v : Version) (transaction : Given) : Frame := ofTransaction Verb.begin v transaction

def commit (v : Version) (transaction : Given) : Frame := ofTransaction Verb.commit v transaction

def abort (v : Version) (transaction : Given) : Frame := ofTransaction Verb.abort v transaction

/-- What identifies a message: its ack header, or else its message id, which is made up if need
be. -/
def identify (message : Frame) (ids : IdSupply) : HeaderValue × Frame × IdSupply :=
  match HeaderValue.nonempty? (message.get? Name.ack) with
  | some v => (v, message, ids)
  | none => message.ensureMessageId ids

def acknowledgement (command : String) (v : Version) (transaction : Given) (id : HeaderValue)
    (subscription : Option HeaderValue) : Except Fault Frame := do
  let f := ofTransaction command v transaction
  let id ← givenOf id.offer
  match v with
  | .v12 => return f.set Name.id id
  | .v11 =>
    return (f.set Name.messageId id).set Name.subscription (← givenOf (.ofHeader subscription))
  | .v10 => return f.set Name.messageId id

/-- The answer to the message in hand. -/
def answer (command : String) (v : Version) (transaction : Given) :
    InHand Fault IdSupply Frame := fun (message, ids) =>
  let (id, message, ids) := identify message ids
  Action.ofExcept (acknowledgement command v transaction id (message.get? Name.subscription))
    (message, ids)

def ack (v : Version) (transaction : Given) : InHand Fault IdSupply Frame :=
  answer Verb.ack v transaction

def nack (v : Version) (transaction : Given) : InHand Fault IdSupply Frame :=
  if v = .v10 then throw (.nackUnsupported v) else answer Verb.nack v transaction

def expect (command : String) (f : Frame) : Except Fault Unit :=
  if f.command = command then .ok ()
  else .error (.unexpectedFrame s!"Expected {command}." f)

/-- What a broker tells on connecting. -/
structure Handshake where
  version : Version
  server : Option HeaderValue
  session : Option HeaderValue

/-- A CONNECTED frame without a version means the oldest one. -/
def negotiated? (f : Frame) : Option Version :=
  match HeaderValue.nonempty? (f.get? Name.version) with
  | none => some .v10
  | some (.text s) => Version.ofText? s
  | some _ => none

def connected (f : Frame) (versions : Option (List Offer)) : Except Fault Handshake := do
  expect Verb.connected f
  let offered ← versionsOf versions
  match negotiated? f with
  | some v =>
    if v ∈ offered then return ⟨v, f.get? Name.server, f.get? Name.session⟩
    else throw (.incompatibleVersion offered f.headers)
  | none => throw (.incompatibleVersion offered f.headers)

def receipt (f : Frame) : Except Fault HeaderValue := do
  expect Verb.receipt f
  match f.get? Name.receiptId with
  | some id => return id
  | none => throw (.missingHeader f.command Name.receiptId f.headers)

end Command

end Stomp
