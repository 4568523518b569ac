import Stomp.Heartbeat

/-!
# Observers

The observers of a connection are known by name; those that watch it are told of each event, in the
order in which they joined. One that fails keeps the event from those after it.
-/

namespace Stomp

inductive Observer (R : Type) where
  | silent
  /-- Enters what it is told into the journal, under a label. -/
  | recorder (label : String)
  | heartbeat (h : Heartbeat R)

structure Observers (R : Type) where
  known : List (String × Observer R) := []
  watching : List String := []

namespace Observers

variable {κ R : Type}

/-- Joining twice has no effect. -/
def add (os : Observers R) (name : String) : Observers R :=
  if name ∈ os.watching then os else { os with watching := os.watching ++ [name] }

def remove (os : Observers R) (name : String) : Observers R :=
  { os with watching := os.watching.filter (· ≠ name) }

def introduce (os : Observers R) (name : String) (o : Observer R) : Observers R :=
  { os with known := Assoc.insert os.known name o }

def get? (os : Observers R) (name : String) : Option (Observer R) := Assoc.get? os.known name

variable [Scale R] [Channel κ R]

/-- Lets an observer of heart-beats act. -/
def withHeartbeat {α : Type} (name : String) (h : Heartbeat R) (x : Beating κ R α) :
    EStateM (Error R) (Observers R × Link κ R) α := fun (os, l) =>
  match x (h, l) with
  | .ok a (h, l) => .ok a (os.introduce name (.heartbeat h), l)
  | .error e (h, l) => .error e (os.introduce name (.heartbeat h), l)

def tell (e : Event) (name : String) : EStateM (Error R) (Observers R × Link κ R) Unit := do
  match (← get).1.get? name with
  | some (.recorder label) => modify fun (os, l) => (os, l.enter (.observed label e))
  | some (.heartbeat h) => withHeartbeat name h (Heartbeat.observe e)
  | some .silent | none => return ()

def notify (e : Event) : EStateM (Error R) (Observers R × Link κ R) Unit := do
  (← get).1.watching.forM (tell e)

end Observers

end Stomp
