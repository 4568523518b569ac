import Stomp.Proofs.Action.Outcome
import Stomp.Session.Basic

/-!
# Calls of a session

The commands of an application with their arguments, so that what an application does with a
session is a list of calls. A call that fails leaves a session too, with which the next call works.
-/

namespace Stomp.Session

inductive Call where
  | sendBody (destination : Given) (body : Bytes) (headers : List (String × Given))
  | sendPrepared (frame : Frame) (destination : Given) (headers : List (String × Given))
  | subscribe (destination selector ackMode : Given) (headers : List (String × Given))
  | unsubscribe (id : Given)
  | begin
  | commit
  | abort
  | ack (message : Frame)
  | nack (message : Frame) (requeue : Option Bool)
  | read

variable {R σ : Type} [Session.Client σ R]

namespace Call

def isSend : Call → Bool
  | .sendBody _ _ _ | .sendPrepared _ _ _ => true
  | _ => false

/-- The action of a call, without the value that it returns. -/
def perform : Call → SessionAction R σ Unit
  | .sendBody destination body headers => Session.sendBody destination body headers
  | .sendPrepared frame destination headers =>
    Action.withFrame frame (Session.sendPrepared destination headers)
  | .subscribe destination selector ackMode headers =>
    discard (Session.subscribe destination selector ackMode headers)
  | .unsubscribe id => Session.unsubscribe id
  | .begin => discard Session.begin
  | .commit => Session.commit
  | .abort => Session.abort
  | .ack message => Action.withFrame message Session.ack
  | .nack message requeue => Action.withFrame message (Session.nack requeue)
  | .read => discard Session.read

def next (c : Call) (s : Session σ) : Session σ :=
  Action.after (c.perform : SessionAction R σ Unit) s

end Call

def run (s : Session σ) (calls : List Call) : Session σ := calls.foldl (fun s c => c.next s) s

/-- The sessions that there may be: between the calls anything may happen to the client. -/
inductive Reachable : Session σ → Prop
  | new (client : σ) : Reachable { client }
  | call (c : Call) {s : Session σ} : Reachable s → Reachable (c.next s)
  | client (client : σ) {s : Session σ} : Reachable s → Reachable { s with client }

end Stomp.Session
