/-!
# Broker dialects

A broker is known by a word in its banner, in any case; of several words the first in the list
counts. Words and case are those of ASCII: no other letter has a lower-case form in these words.
-/

namespace Stomp

inductive Dialect where
  | generic
  | activemq
  | apollo
  | openmq
  | rabbitmq
deriving DecidableEq, Repr

namespace Dialect

def name : Dialect → String
  | .generic => "generic"
  | .activemq => "activemq"
  | .apollo => "apollo"
  | .openmq => "openmq"
  | .rabbitmq => "rabbitmq"

def banners : List (String × Dialect) := [
  ("rabbitmq", .rabbitmq), ("apache-apollo", .apollo), ("activemq", .activemq),
  ("open message queue", .openmq)]

/-- Whether the word stands anywhere in the text. -/
def occurs (word : List Char) : List Char → Bool
  | [] => word.isEmpty
  | c :: rest => word.isPrefixOf (c :: rest) || occurs word rest

def detect (banner : String) : Dialect :=
  let text := banner.toList.map Char.toLower
  match banners.find? (fun b => occurs b.1.toList text) with
  | some b => b.2
  | none => .generic

end Dialect

end Stomp
