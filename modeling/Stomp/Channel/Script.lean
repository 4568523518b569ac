import Stomp.Channel.Basic

/-!
# Scripted channels

A channel whose arrivals are known beforehand. Reading takes a fixed time. Waiting lasts as long as
it may when nothing is to come, and no time otherwise. Operations can be made to fail.
-/

namespace Stomp

/-- What a read meets. -/
inductive Arrival where
  | data (bytes : Bytes)
  | failure (text : String)

structure Script (R : Type) where
  label : String := "channel"
  incoming : List Arrival := []
  connected : Bool := true
  alive : Bool := true
  clock : R
  /-- The time that a read takes. -/
  step : R
  readTimeout : Quantity R × Quantity R
  /-- The texts with which operations fail. -/
  failures : List (Operation × String) := []

namespace Script

variable {R α : Type} [Scale R]

def guarded (op : Operation) (x : EStateM String (Script R) α) : EStateM String (Script R) α :=
  fun s =>
    match s.failures.find? (fun f => f.1 == op) with
    | some f => .error f.2 s
    | none => x s

def advance (s : Script R) (time : R) : Script R := { s with clock := s.clock + time }

/-- Takes a read's time, then what arrived next; what exceeds the limit stays first. -/
def take (limit : Nat) : EStateM String (Script R) Bytes := fun s =>
  let s := s.advance s.step
  match s.incoming with
  | [] => .ok [] s
  | .failure text :: rest => .error text { s with incoming := rest }
  | .data bytes :: rest =>
    if limit < bytes.length then
      .ok (bytes.take limit) { s with incoming := .data (bytes.drop limit) :: rest }
    else .ok bytes { s with incoming := rest }

/-- Waits in vain for the whole time if nothing is to come, and not at all otherwise. -/
def wait (timeout : Option (Quantity R)) : EStateM String (Script R) Bool := fun s =>
  if s.incoming.isEmpty then
    .ok false (s.advance ((timeout.bind Quantity.toScale?).getD Scale.zero))
  else .ok true s

def patience (s : Script R) : Nat :=
  s.incoming.foldr (fun
    | .data bytes, n => bytes.length + 1 + n
    | .failure _, n => 1 + n) 0

instance : Channel (Script R) R where
  label := Script.label
  isConnected := Script.connected
  readTimeout := Script.readTimeout
  now := Script.clock
  read limit := guarded .read (take limit)
  canRead timeout := guarded .canRead (wait timeout)
  write _ := guarded .write (pure ())
  sendAlive _ := guarded .sendAlive do return (← get).alive
  close := guarded .close (pure ())
  patience := patience

end Script

end Stomp
