import Stomp.Header.Value

/-!
# Protocol versions

The three versions of the protocol, in order. Where none is given, the oldest is meant.
-/

namespace Stomp

inductive Version where
  | v10
  | v11
  | v12
deriving DecidableEq, Repr

namespace Version

def all : List Version := [.v10, .v11, .v12]

def text : Version → String
  | .v10 => "1.0"
  | .v11 => "1.1"
  | .v12 => "1.2"

def rank : Version → Nat
  | .v10 => 0
  | .v11 => 1
  | .v12 => 2

def ofText? (s : String) : Option Version := all.find? fun v => v.text == s

def ofOffer? : Offer → Option Version
  | .absent => some .v10
  | .text s => ofText? s
  | _ => none

instance : LE Version := ⟨fun v w => v.rank ≤ w.rank⟩

instance (v w : Version) : Decidable (v ≤ w) := inferInstanceAs (Decidable (v.rank ≤ w.rank))

/-- Only the oldest version is written in the legacy form. -/
def isLegacy (v : Version) : Bool := v == .v10

def ackModes (v : Version) : List String :=
  if v = .v10 then ["auto", "client"] else ["auto", "client", "client-individual"]

end Version

end Stomp
