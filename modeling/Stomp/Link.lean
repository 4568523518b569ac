import Stomp.Action
import Stomp.Channel.Basic
import Stomp.Event
import Stomp.Notice

/-!
# Links

A channel together with a journal of what went over it and the notices given meanwhile. Failures of
the channel become errors of the connection.
-/

namespace Stomp

/-- An entry of the journal. -/
inductive Traffic (R : Type) where
  | read (size : Nat)
  | canRead (timeout : Option (Quantity R))
  | write (data : Bytes)
  | sendAlive (timeout : Option (Quantity R))
  | close
  | failed (operation : Operation)
  | observed (observer : String) (event : Event)

structure Link (κ R : Type) where
  channel : κ
  journal : List (Traffic R) := []
  notices : List (Notice R) := []

namespace Link

variable {κ R α : Type}

def enter (l : Link κ R) (t : Traffic R) : Link κ R := { l with journal := l.journal ++ [t] }

def notify (l : Link κ R) (n : Notice R) : Link κ R := { l with notices := l.notices ++ [n] }

/-- Performs an operation and enters what became of it. -/
def perform (op : Operation) (entry : α → Traffic R) (fault : String → ConnectionFault)
    (x : EStateM String κ α) : EStateM ConnectionFault (Link κ R) α := fun l =>
  match x l.channel with
  | .ok a c => .ok a ({ l with channel := c }.enter (entry a))
  | .error text c => .error (fault text) ({ l with channel := c }.enter (.failed op))

variable [Channel κ R]

def now (l : Link κ R) : R := Channel.now l.channel

def requireConnected : EStateM ConnectionFault (Link κ R) Unit := fun l =>
  if Channel.isConnected l.channel then .ok () l else .error .notConnected l

def read (limit : Nat) : EStateM ConnectionFault (Link κ R) Bytes := do
  requireConnected
  perform .read (fun bytes => .read bytes.length) .closed (Channel.read limit)

def canRead (timeout : Option (Quantity R)) : EStateM ConnectionFault (Link κ R) Bool := do
  requireConnected
  perform .canRead (fun _ => .canRead timeout) .closed (Channel.canRead timeout)

def write (data : Bytes) : EStateM ConnectionFault (Link κ R) Unit :=
  perform .write (fun _ => .write data) .notWritten (Channel.write data)

def sendAlive (timeout : Option (Quantity R)) : EStateM ConnectionFault (Link κ R) Unit := do
  requireConnected
  let alive ← perform .sendAlive (fun _ => .sendAlive timeout)
    (fun text => .beatNotWritten (some text)) (Channel.sendAlive timeout)
  unless alive do throw (.beatNotWritten none)

def close : EStateM ConnectionFault (Link κ R) Unit :=
  perform .close (fun _ => .close) .notClosed Channel.close

end Link

end Stomp
