import Stomp.Channel.Script
import Stomp.Client.Basic
import Stomp.Proofs.Action.Outcome

/-!
# Calls of a client

What an application does with a connected client, as a list of calls, and what it gets for them. A
call that fails leaves a client too, with which the next call works.
-/

namespace Stomp.Client

inductive Call (R : Type) where
  | sendFrame (frame : Frame) (sync? : Option Bool)
  | sendBody (destination : Given) (body : Bytes) (headers : List (String × Given))
    (sync? : Option Bool)
  | sendPrepared (frame : Frame) (destination : Given) (headers : List (String × Given))
    (sync? : Option Bool)
  | readFrame
  | canRead (timeout : Option (Quantity R))

inductive Answer where
  | sent
  | frame (frame? : Option Frame)
  | readable (ready : Bool)

variable {κ R : Type}

/-- The id of the receipt that a frame is sent with, if it is to be sent with one. -/
def receipt? (c : Client κ R) (sync? : Option Bool) : Option String :=
  if sync?.getD c.config.sync then some c.ids.next.1 else none

variable [Scale R] [Channel κ R]

namespace Call

def perform : Call R → ClientAction κ R Answer
  | .sendFrame frame sync? => do
    Action.withFrame frame (Client.sendFrame sync?)
    return .sent
  | .sendBody destination body headers sync? => do
    Client.sendBody destination body headers sync?
    return .sent
  | .sendPrepared frame destination headers sync? => do
    Action.withFrame frame (Client.sendPrepared destination headers sync?)
    return .sent
  | .readFrame => return .frame (← Client.readFrame)
  | .canRead timeout => return .readable (← Client.canRead timeout)

/-- The id of the receipt that the call waits for. -/
def awaited? (call : Call R) (c : Client κ R) : Option String :=
  match call with
  | .sendFrame _ sync? | .sendBody _ _ _ sync? | .sendPrepared _ _ _ sync? => c.receipt? sync?
  | .readFrame | .canRead _ => none

def next (call : Call R) (c : Client κ R) : Client κ R := Action.after call.perform c

end Call

/-- A call as it went. -/
structure Record (R : Type) where
  /-- The receipt that was waited for. -/
  awaited? : Option String
  result : Except (Error R) Answer

def Record.returned? (r : Record R) : Option Frame :=
  match r.result with
  | .ok (.frame frame?) => frame?
  | _ => none

def Call.record (call : Call R) (c : Client κ R) : Record R :=
  ⟨call.awaited? c, Action.result call.perform c⟩

def run (c : Client κ R) (calls : List (Call R)) : Client κ R :=
  calls.foldl (fun c call => call.next c) c

def history (c : Client κ R) : List (Call R) → List (Record R)
  | [] => []
  | call :: calls => call.record c :: history (call.next c) calls

def returned (records : List (Record R)) : List Frame := records.filterMap Record.returned?

/-- A connected client over a channel that takes no time to read, on which the bytes arrive piece by
piece. -/
def hearing (incoming : List Bytes) : Client (Script Rat) Rat where
  config := { connectTimeout := .whole 1, receiptTimeout := .whole 2 }
  transport :=
    { link :=
        { channel :=
            { clock := 0, step := 0, readTimeout := (.whole 0, .whole 0),
              incoming := incoming.map .data } } }
  protocol? := some
    { clientId := .absent, version := .v12, server := none, dialect := .generic }

end Stomp.Client
