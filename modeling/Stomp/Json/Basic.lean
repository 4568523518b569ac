import Stomp.Assoc

/-!
# JSON values

Integers and reals are told apart. Objects keep the order of their members; a repeated name keeps
its first place and its last value.
-/

namespace Stomp

inductive Json where
  | null
  | bool (b : Bool)
  | int (n : Int)
  | real (x : Float)
  | text (s : String)
  | list (items : List Json)
  | object (members : List (String × Json))

namespace Json

def get? (j : Json) (name : String) : Option Json :=
  match j with
  | .object members => Assoc.get? members name
  | _ => none

end Json

end Stomp
