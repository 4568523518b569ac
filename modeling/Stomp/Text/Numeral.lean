/-!
# Integers as texts

An integer is written as blanks, an optional sign, decimal digits with single underscores between
them, and blanks. Which characters are blanks and digits depends on the alphabet. Texts with more
than 4300 digits are refused, and an integer with more digits has no text.
-/

namespace Stomp.Numeral

structure Alphabet where
  isBlank : Char → Bool
  digit? : Char → Option Nat

def asciiDigit? (c : Char) : Option Nat :=
  if 0x30 ≤ c.toNat ∧ c.toNat ≤ 0x39 then some (c.toNat - 0x30) else none

def Alphabet.ascii : Alphabet where
  isBlank c := decide (0x9 ≤ c.toNat ∧ c.toNat ≤ 0xD) || c == ' '
  digit? := asciiDigit?

/-- The code points of the digits zero of general category Nd in version 14 of the standard; nine
digits follow each. -/
def zeros : List Nat := [
  0x30, 0x660, 0x6F0, 0x7C0, 0x966, 0x9E6, 0xA66, 0xAE6, 0xB66, 0xBE6, 0xC66, 0xCE6, 0xD66, 0xDE6,
  0xE50, 0xED0, 0xF20, 0x1040, 0x1090, 0x17E0, 0x1810, 0x1946, 0x19D0, 0x1A80, 0x1A90, 0x1B50,
  0x1BB0, 0x1C40, 0x1C50, 0xA620, 0xA8D0, 0xA900, 0xA9D0, 0xA9F0, 0xAA50, 0xABF0, 0xFF10, 0x104A0,
  0x10D30, 0x11066, 0x110F0, 0x11136, 0x111D0, 0x112F0, 0x11450, 0x114D0, 0x11650, 0x116C0, 0x11730,
  0x118E0, 0x11950, 0x11C50, 0x11D50, 0x11DA0, 0x16A60, 0x16AC0, 0x16B50, 0x1D7CE, 0x1D7D8, 0x1D7E2,
  0x1D7EC, 0x1D7F6, 0x1E140, 0x1E2F0, 0x1E950, 0x1FBF0]

/-- Blanks beyond the ASCII ones: the next-line control and the separators. -/
def wideBlanks : List Nat := [
  0x85, 0xA0, 0x1680, 0x2000, 0x2001, 0x2002, 0x2003, 0x2004, 0x2005, 0x2006, 0x2007, 0x2008,
  0x2009, 0x200A, 0x2028, 0x2029, 0x202F, 0x205F, 0x3000]

/-- Digits of any script. -/
def Alphabet.unicode : Alphabet where
  isBlank c := Alphabet.ascii.isBlank c || wideBlanks.contains c.toNat
  digit? c :=
    match zeros.find? (fun z => decide (z ≤ c.toNat ∧ c.toNat < z + 10)) with
    | some z => some (c.toNat - z)
    | none => none

inductive Fault where
  | malformed
  | tooLong (digits : Nat)
deriving DecidableEq, Repr

def digitLimit : Nat := 4300

/-- Whether underscores stand only between two digits. -/
def separated (afterDigit : Bool) : List Char → Bool
  | [] => afterDigit
  | '_' :: cs => afterDigit && separated false cs
  | _ :: cs => separated true cs

def ofDigits (ds : List Nat) : Nat := ds.foldl (fun n d => 10 * n + d) 0

/-- Whether there is a minus sign, and the text after the sign. -/
def splitSign : List Char → Bool × List Char
  | '-' :: cs => (true, cs)
  | '+' :: cs => (false, cs)
  | cs => (false, cs)

def read (a : Alphabet) (text : List Char) : Except Fault Int :=
  let (negative, body) := splitSign (text.dropWhile a.isBlank)
  let (figures, rest) := body.span fun c => (a.digit? c).isSome || c == '_'
  let digits := figures.filterMap a.digit?
  if !separated false figures then .error .malformed
  else if digitLimit < digits.length then .error (.tooLong digits.length)
  else if !rest.all a.isBlank then .error .malformed
  else
    let n := ofDigits digits
    .ok (if negative then -(n : Int) else n)

/-- The digits of `n`, the most significant first. -/
def digits (n : Nat) : List Char := Nat.toDigits 10 n

def write (n : Int) : List Char :=
  if n < 0 then '-' :: digits n.natAbs else digits n.natAbs

/-- Whether the integer can be written. -/
def HasText (n : Int) : Prop := (digits n.natAbs).length ≤ digitLimit

instance (n : Int) : Decidable (HasText n) := Nat.decLe _ _

theorem hasText_one : HasText 1 := by decide

end Stomp.Numeral
