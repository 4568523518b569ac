import Stomp.Frame.Basic
import Stomp.Session.Mode

/-!
# States of a session

The state holds the open transaction and the subscriptions, each where there is one.
-/

namespace Stomp.Session

structure Subscription where
  destination : Given
  selector : Given
  ack : Given
  id : String
  headers : List (String × Given)
deriving DecidableEq

/-- Whether a message was delivered to the subscription. -/
def Subscription.owns (s : Subscription) (message : Frame) : Bool :=
  decide (message.get? Name.subscription = some (.text s.id))

inductive State where
  | producer
  | producerTransaction (transaction : String)
  | consumer (subscriptions : List Subscription)
  | consumerTransaction (transaction : String) (subscriptions : List Subscription)
  | draining
  | drainingTransaction (transaction : String)
deriving DecidableEq

namespace State

def mode : State → Mode
  | .producer => .producer
  | .producerTransaction _ => .producerTransaction
  | .consumer _ => .consumer
  | .consumerTransaction _ _ => .consumerTransaction
  | .draining => .draining
  | .drainingTransaction _ => .drainingTransaction

def transaction? : State → Option String
  | .producerTransaction t | .consumerTransaction t _ | .drainingTransaction t => some t
  | _ => none

def subscriptions : State → List Subscription
  | .consumer ss | .consumerTransaction _ ss => ss
  | _ => []

def consuming (ss : List Subscription) : Option String → State
  | none => .consumer ss
  | some t => .consumerTransaction t ss

def producing : Option String → State
  | none => .producer
  | some t => .producerTransaction t

def emptying : Option String → State
  | none => .draining
  | some t => .drainingTransaction t

end State

end Stomp.Session
