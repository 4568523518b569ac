/-!
# Modes of a session

Which commands a session allows depends on whether it has subscriptions, whether it drains the
frames left over after the last one ended, and whether a transaction is open.
-/

namespace Stomp.Session

inductive Mode where
  | producer
  | producerTransaction
  | consumer
  | consumerTransaction
  | draining
  | drainingTransaction
deriving DecidableEq, Repr

namespace Mode

def name : Mode → String
  | .producer => "Producer"
  | .producerTransaction => "ProducerTransaction"
  | .consumer => "Consumer"
  | .consumerTransaction => "ConsumerTransaction"
  | .draining => "Draining"
  | .drainingTransaction => "DrainingTransaction"

def isProducer (m : Mode) : Bool := m == .producer || m == .producerTransaction

def isConsumer (m : Mode) : Bool := m == .consumer || m == .consumerTransaction

def isDraining (m : Mode) : Bool := m == .draining || m == .drainingTransaction

end Mode

end Stomp.Session
