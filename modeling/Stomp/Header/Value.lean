import Stomp.Text.Numeral
import Stomp.Text.Quoted

/-!
# Header values

A stored header holds a text, or nothing but its presence; credentials may be stored as numbers. An
application may hand over numbers, flags, or nothing at all; what is absent or empty is not stored.
-/

namespace Stomp

inductive HeaderValue where
  | text (s : String)
  | bare
  /-- A number that was stored as it is. It cannot be written. -/
  | number (n : Int)
deriving DecidableEq, Repr

/-- A value as an application hands it over. Its number is one that can be written. -/
inductive Given where
  | absent
  | text (s : String)
  | number (n : Int) (hasText : Numeral.HasText n)
  | flag (b : Bool)
deriving DecidableEq, Repr

/-- A value as an application configures it. Its number may be one that cannot be written. -/
inductive Offer where
  | absent
  | text (s : String)
  | number (n : Int)
  | flag (b : Bool)
deriving DecidableEq, Repr

namespace Offer

def given? : Offer → Option Given
  | .absent => some .absent
  | .text s => some (.text s)
  | .number n => if h : Numeral.HasText n then some (.number n h) else none
  | .flag b => some (.flag b)

/-- The text of a value inside a message. -/
def shown : Offer → String
  | .absent => "None"
  | .text s => s
  | .number n => String.ofList (Numeral.write n)
  | .flag b => if b then "True" else "False"

def quoted : Offer → String
  | .text s => Quoted.text s
  | o => o.shown

/-- Whether there is a value other than zero, false and the empty text. -/
def isSet : Offer → Bool
  | .absent => false
  | .text s => s ≠ ""
  | .number n => n ≠ 0
  | .flag b => b

end Offer

namespace HeaderValue

def offer : HeaderValue → Offer
  | .text s => .text s
  | .bare => .flag true
  | .number n => .number n

/-- The value as it is handed on, a number as its text. -/
def given : HeaderValue → Given
  | .text s => .text s
  | .bare => .flag true
  | .number n => .text (String.ofList (Numeral.write n))

def shown (v : HeaderValue) : String := v.offer.shown

def quoted (v : HeaderValue) : String := v.offer.quoted

/-- An empty text and a zero count as no value where a value is looked for. -/
def nonempty? : Option HeaderValue → Option HeaderValue
  | some v => if v.offer.isSet then some v else none
  | none => none

def number? : HeaderValue → Option Int
  | .number n => some n
  | _ => none

/-- A value with which those compare that are equal to it: presence is equal to one. -/
def norm : HeaderValue → HeaderValue
  | .bare => .number 1
  | v => v

end HeaderValue

def Offer.ofHeader : Option HeaderValue → Offer
  | some v => v.offer
  | none => .absent

namespace Given

def offer : Given → Offer
  | .absent => .absent
  | .text s => .text s
  | .number n _ => .number n
  | .flag b => .flag b

def shown (g : Given) : String := g.offer.shown

def quoted (g : Given) : String := g.offer.quoted

def isSet (g : Given) : Bool := g.offer.isSet

/-- What is stored for the value, if anything. -/
def stored? : Given → Option HeaderValue
  | .absent => none
  | .text s => if s = "" then none else some (.text s)
  | .number n _ => some (.text (String.ofList (Numeral.write n)))
  | .flag true => some .bare
  | .flag false => some (.text "False")

end Given

end Stomp
