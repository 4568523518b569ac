import Stomp.Link

/-!
# Heart-beats

Both sides of a connection offer how often they send heart-beats and how often they want them. An
observer of heart-beats learns the offers from the CONNECT and the CONNECTED frame, and is enabled
once there is one from each side. The emitter writes a beat when the client has been silent for a
part of the interval. The detector gives the connection up when the broker has been silent for a
multiple of it.
-/

namespace Stomp

inductive Heartbeat.Role where
  /-- Learns nothing and watches nothing. -/
  | plain
  | emitter
  | detector
deriving DecidableEq, Repr

def Heartbeat.Role.observerName : Heartbeat.Role → String
  | .plain => "StompHeartbeat"
  | .emitter => "StompHeartbeatEmitter"
  | .detector => "StompLivenessDetector"

structure Heartbeat (R : Type) where
  role : Heartbeat.Role
  /-- The part or multiple of the agreed interval. -/
  usage : Quantity R
  /-- Whether an emitter beats on every read without data. -/
  pessimistic : Bool := false
  client? : Option Int := none
  server? : Option Int := none
  /-- Seconds. -/
  interval? : Option R := none
  enabled : Bool := false
  lastBeat? : Option R := none

/-- Actions of an observer of heart-beats on a link. -/
abbrev Beating (κ R α : Type) := EStateM (Error R) (Heartbeat R × Link κ R) α

namespace Heartbeat

variable {κ R : Type} [Scale R]

/-- Between 0.05 and 0.95. -/
def emitterUsage (usage : Quantity R) : R :=
  let least : R := Scale.decimal 5 2
  let most : R := Scale.decimal 95 2
  match usage with
  | .whole n => if 0 < n then most else least
  | .real x =>
    let x := if Scale.lt most x then most else x
    if Scale.lt least x then x else least

/-- At least one. -/
def detectorUsage (usage : Quantity R) : Quantity R :=
  match usage with
  | .whole n => if 1 < n then usage else .whole 1
  | .real x => if Scale.lt (Scale.decimal 1 0) x then usage else .whole 1

def plain : Heartbeat R := { role := .plain, usage := .whole 1 }

def emitter (usage : Quantity R := .real (Scale.decimal 65 2)) : Heartbeat R :=
  { role := .emitter, usage := .real (emitterUsage usage) }

def detector (usage : Quantity R := .real (Scale.decimal 15 1)) : Heartbeat R :=
  { role := .detector, usage := detectorUsage usage }

/-- Whether more than the interval has passed since the activity remembered last. -/
def isDelayed (h : Heartbeat R) (now : R) : Bool :=
  match h.enabled, h.lastBeat?, h.interval? with
  | true, some last, some interval => Scale.lt interval (now - last)
  | _, _, _ => false

/-- The two numbers of a heart-beat header; zeros if there is none. -/
def offers? (f : Frame) : Except HeaderValue (Int × Int) :=
  match HeaderValue.nonempty? (f.get? Name.heartBeat) with
  | none => .ok (0, 0)
  | some (.text s) =>
    match s.toList.span (· ≠ ',') with
    | (send, _ :: receive) =>
      match Numeral.read .unicode send, Numeral.read .unicode receive with
      | .ok m, .ok n => .ok (m, n)
      | _, _ => .error (.text s)
    | (_, []) => .error (.text s)
  | some v => .error v

/-- The detector and the emitter each note what concerns them of the offers in a frame. -/
def learn (h : Heartbeat R) (now : R) (f : Frame) (offer : Int × Int) : Heartbeat R :=
  match h.role with
  | .plain => h
  | .emitter =>
    if f.command = Verb.connected then
      { h with server? := some offer.2, client? := some (h.client?.getD offer.2) }
    else { h with client? := some offer.1, lastBeat? := some now }
  | .detector =>
    if f.command = Verb.connect then { h with client? := some offer.2 }
    else { h with server? := some offer.1, lastBeat? := some now }

/-- The larger of two offers, if both sides made one. -/
def agreed? (h : Heartbeat R) : Option Int :=
  match h.client?, h.server? with
  | some c, some s => if c = 0 ∨ s = 0 then none else some (max c s)
  | _, _ => none

variable [Channel κ R]

def now : Beating κ R R := do return (← get).2.now

def logNotice (n : Notice R) : Beating κ R Unit := modify fun (h, l) => (h, l.notify n)

def rememberActivity : Beating κ R Unit :=
  modify fun (h, l) => ({ h with lastBeat? := some l.now }, l)

/-- A beat must not be due before a read may end. -/
def checkReadTimeout (interval : R) : Beating κ R Unit := do
  let (secs, micros) := Channel.readTimeout (← get).2.channel
  match (secs.times? 1000).bind Quantity.toScale?, micros.toScale? with
  | some s, some m =>
    let timeout := s + m / Scale.decimal 1000 0
    if Scale.lt interval timeout then throw (.intervalTooShort interval timeout)
  | _, _ => throw .beyondScale

/-- The interval in milliseconds after which the observer acts, for the agreed one. -/
def calculateInterval (agreed : Int) : Beating κ R (Quantity R) := do
  let (h, _) ← get
  match h.role with
  | .plain => throw .unimplemented
  | .detector =>
    match h.usage.times? agreed with
    | some interval => return interval
    | none => throw .beyondScale
  | .emitter =>
    match (h.usage.times? agreed).bind Quantity.toScale? with
    | some interval =>
      checkReadTimeout interval
      return .real interval
    | none => throw .beyondScale

def readOffers (f : Frame) : Beating κ R (Int × Int) :=
  match offers? f with
  | .ok offer => return offer
  | .error value => do
    logNotice (.ignoredBeats value)
    return (0, 0)

/-- Learns from the frames of a handshake. -/
def handshake (f : Frame) : Beating κ R Unit := do
  let offer ← readOffers f
  let (h, l) ← get
  if h.role = .plain then throw .unimplemented
  set (h.learn l.now f offer, l)
  match (h.learn l.now f offer).agreed? with
  | none => return ()
  | some agreed =>
    let interval ← calculateInterval agreed
    match interval.toScale? with
    | none => throw .beyondScale
    | some milliseconds =>
      let interval := seconds milliseconds
      modify fun (h, l) => ({ h with interval? := some interval, enabled := true }, l)
      logNotice (.beatsEnabled h.role.observerName interval)
      rememberActivity

/-- What the observer does when too much time has passed. -/
def onDelay : Beating κ R Unit := do
  let (h, _) ← get
  match h.role with
  | .plain => throw .unimplemented
  | .detector =>
    match h.interval? with
    | none => throw .intervalUnknown
    | some interval =>
      logNotice (.serverSilent interval)
      throw (.serverSilent interval)
  | .emitter =>
    logNotice .sendingBeat
    match h.client? with
    | none => throw .intervalUnknown
    | some n =>
      match Scale.ofInt? n with
      | none => throw .beyondScale
      | some milliseconds =>
        match Link.sendAlive (some (.real (seconds milliseconds))) (← get).2 with
        | .ok _ l => set (h, l)
        | .error fault l =>
          set (h, l.notify (.beatNotSent fault))
          throw (.beatFailed fault)
        rememberActivity

def checkDelayed : Beating κ R Unit := do
  let (h, l) ← get
  if h.isDelayed l.now then onDelay

def onServerActivity : Beating κ R Unit := do
  match (← get).1.role with
  | .plain => return ()
  | .emitter => checkDelayed
  | .detector => rememberActivity

def onClientActivity : Beating κ R Unit := do
  if (← get).1.role = .emitter then rememberActivity

/-- A read without data tells that the connection may be gone. -/
def onSilence : Beating κ R Unit := do
  let (h, _) ← get
  match h.role with
  | .plain => return ()
  | .detector => checkDelayed
  | .emitter => if h.pessimistic && h.enabled then onDelay else checkDelayed

def observe (e : Event) : Beating κ R Unit := do
  let (h, _) ← get
  match e with
  | .emptyLine | .emptyBuffer => onServerActivity
  | .emptyRead => onSilence
  | .received f =>
    if h.enabled then onServerActivity
    else if f.command = Verb.connected then handshake f
  | .sent f =>
    if h.enabled then onClientActivity
    else if f.command = Verb.connect then handshake f

end Heartbeat

end Stomp
