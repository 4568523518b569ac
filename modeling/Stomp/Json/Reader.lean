import Stomp.Decimal.Double
import Stomp.Json.Basic
import Stomp.Json.Fault
import Stomp.Text.Numeral

/-!
# Reading JSON

Each step takes the text that is left and gives a value and the text after it. A fault carries the
text that was left where it lies, from which its place is counted.
-/

namespace Stomp.Json

/-- A cause and the text left where it lies. -/
inductive Stuck where
  | malformed (cause : Cause) (rest : List Char)
  | tooManyDigits (digits : Nat)

def isBlank (c : Char) : Bool := c == ' ' || c == '\t' || c == '\n' || c == '\r'

def skipBlanks (input : List Char) : List Char := input.dropWhile isBlank

def escaped? : Char → Option Char
  | '"' => some '"'
  | '\\' => some '\\'
  | '/' => some '/'
  | 'b' => some '\x08'
  | 'f' => some '\x0c'
  | 'n' => some '\n'
  | 'r' => some '\r'
  | 't' => some '\t'
  | _ => none

/-- The characters of a list of code points. Two halves of a pair that follow each other make one
character, and a lone half is replaced. -/
def joinHalves : List Nat → List Char
  | [] => []
  | [n] => [if 0xD800 ≤ n ∧ n ≤ 0xDFFF then '\uFFFD' else Char.ofNat n]
  | high :: low :: rest =>
    if 0xD800 ≤ high ∧ high ≤ 0xDBFF ∧ 0xDC00 ≤ low ∧ low ≤ 0xDFFF then
      Char.ofNat (0x10000 + (high - 0xD800) * 1024 + (low - 0xDC00)) :: joinHalves rest
    else
      (if 0xD800 ≤ high ∧ high ≤ 0xDFFF then '\uFFFD' else Char.ofNat high) ::
        joinHalves (low :: rest)

def consCode (n : Nat) (r : Except Stuck (List Nat × List Char)) :
    Except Stuck (List Nat × List Char) :=
  match r with
  | .ok (codes, rest) => .ok (n :: codes, rest)
  | .error e => .error e

/-- The code points up to the closing quote; `start` is the text at the opening quote. -/
def readCodes (start : List Char) : List Char → Except Stuck (List Nat × List Char)
  | [] => .error (.malformed .unterminatedText start)
  | '"' :: rest => .ok ([], rest)
  | ['\\'] => .error (.malformed .unterminatedText start)
  | '\\' :: 'u' :: a :: b :: c :: d :: rest =>
    match Hex.value4? a b c d with
    | some n => consCode n (readCodes start rest)
    | none => .error (.malformed .badCodeUnit ('\\' :: 'u' :: a :: b :: c :: d :: rest))
  | '\\' :: 'u' :: rest => .error (.malformed .badCodeUnit ('\\' :: 'u' :: rest))
  | '\\' :: c :: rest =>
    match escaped? c with
    | some x => consCode x.toNat (readCodes start rest)
    | none => .error (.malformed (.unknownEscape c) (c :: rest))
  | c :: rest =>
    if c.toNat < 0x20 then .error (.malformed (.controlCharacter c) (c :: rest))
    else consCode c.toNat (readCodes start rest)

/-- The rest of a text after its opening quote. -/
def readText (start rest : List Char) : Except Stuck (String × List Char) :=
  match readCodes start rest with
  | .ok (codes, after) => .ok (String.ofList (joinHalves codes), after)
  | .error e => .error e

def isDigit (c : Char) : Bool := decide (0x30 ≤ c.toNat ∧ c.toNat ≤ 0x39)

def digitsOf (cs : List Char) : List Nat := cs.map fun c => c.toNat - 0x30

/-- The digits after a point; a point without digits belongs to what follows. -/
def splitFraction (input : List Char) : Option (List Char) × List Char :=
  match input with
  | '.' :: rest =>
    match rest.span isDigit with
    | ([], _) => (none, input)
    | (ds, after) => (some ds, after)
  | _ => (none, input)

/-- The power of ten after a mark; a mark without digits belongs to what follows. -/
def splitExponent (input : List Char) : Option Int × List Char :=
  match input with
  | mark :: rest =>
    if mark = 'e' ∨ mark = 'E' then
      let (negative, body) := match rest with
        | '-' :: r => (true, r)
        | '+' :: r => (false, r)
        | r => (false, r)
      match body.span isDigit with
      | ([], _) => (none, input)
      | (ds, after) =>
        let n := Numeral.ofDigits (digitsOf ds)
        (some (if negative then -(n : Int) else (n : Int)), after)
    else (none, input)
  | [] => (none, input)

/-- The digits before the point: a lone zero, or digits of which the first is not zero. -/
def splitWhole : List Char → List Char × List Char
  | '0' :: rest => (['0'], rest)
  | input => input.span isDigit

def readNumber (input : List Char) : Except Stuck (Json × List Char) :=
  let (negative, body) := match input with
    | '-' :: r => (true, r)
    | r => (false, r)
  match splitWhole body with
  | ([], _) => .error (.malformed .expectingValue input)
  | (whole, r₁) =>
    let (fraction, r₂) := splitFraction r₁
    let (exponent, r₃) := splitExponent r₂
    match fraction, exponent with
    | none, none =>
      if Numeral.digitLimit < whole.length then .error (.tooManyDigits whole.length)
      else
        let n := Numeral.ofDigits (digitsOf whole)
        .ok (.int (if negative then -(n : Int) else (n : Int)), r₃)
    | _, _ =>
      let ds := fraction.getD []
      let n := Numeral.ofDigits (digitsOf (whole ++ ds))
      .ok (.real (Double.ofDecimal negative n (exponent.getD 0 - ds.length)), r₃)

mutual

def readValue : Nat → List Char → Except Stuck (Json × List Char)
  | 0, input => .error (.malformed .stepsExhausted input)
  | steps + 1, input =>
    match input with
    | '"' :: rest =>
      match readText input rest with
      | .ok (s, after) => .ok (.text s, after)
      | .error e => .error e
    | '[' :: rest =>
      match skipBlanks rest with
      | ']' :: after => .ok (.list [], after)
      | [] => .error (.malformed .expectingValueOrClose [])
      | body =>
        match readItems steps body with
        | .ok (xs, after) => .ok (.list xs, after)
        | .error e => .error e
    | '\x7b' :: rest =>
      match skipBlanks rest with
      | '\x7d' :: after => .ok (.object [], after)
      | '"' :: body =>
        match readMembers steps ('"' :: body) with
        | .ok (ms, after) => .ok (.object (Assoc.ofList ms), after)
        | .error e => .error e
      | body => .error (.malformed .expectingNameOrClose body)
    | 'n' :: 'u' :: 'l' :: 'l' :: after => .ok (.null, after)
    | 't' :: 'r' :: 'u' :: 'e' :: after => .ok (.bool true, after)
    | 'f' :: 'a' :: 'l' :: 's' :: 'e' :: after => .ok (.bool false, after)
    | input => readNumber input

/-- The items of a list from its first one on, through the closing bracket. -/
def readItems : Nat → List Char → Except Stuck (List Json × List Char)
  | 0, input => .error (.malformed .stepsExhausted input)
  | steps + 1, input =>
    match readValue steps input with
    | .error e => .error e
    | .ok (x, r) =>
      match skipBlanks r with
      | ']' :: after => .ok ([x], after)
      | ',' :: r₁ =>
        match skipBlanks r₁ with
        | ']' :: _ => .error (.malformed (.trailingComma "array") (',' :: r₁))
        | next =>
          match readItems steps next with
          | .ok (xs, after) => .ok (x :: xs, after)
          | .error e => .error e
      | r => .error (.malformed (.expectingCommaOrClose ']') r)

/-- The members of an object from its first name on, through the closing brace. -/
def readMembers : Nat → List Char → Except Stuck (List (String × Json) × List Char)
  | 0, input => .error (.malformed .stepsExhausted input)
  | steps + 1, input =>
    match input with
    | '"' :: rest =>
      match readText input rest with
      | .error e => .error e
      | .ok (name, r₁) =>
        match skipBlanks r₁ with
        | ':' :: r₂ =>
          match readValue steps (skipBlanks r₂) with
          | .error e => .error e
          | .ok (x, r₃) =>
            match skipBlanks r₃ with
            | '\x7d' :: after => .ok ([(name, x)], after)
            | ',' :: r₄ =>
              match skipBlanks r₄ with
              | '\x7d' :: _ => .error (.malformed (.trailingComma "object") (',' :: r₄))
              | next =>
                match readMembers steps next with
                | .ok (ms, after) => .ok ((name, x) :: ms, after)
                | .error e => .error e
            | r => .error (.malformed (.expectingCommaOrClose '\x7d') r)
        | r => .error (.malformed .expectingColon r)
    | input => .error (.malformed .expectingName input)

end

/-- A byte order mark, as one character or as the three its bytes would be. -/
def skipMark : List Char → List Char
  | '\uFEFF' :: rest => rest
  | '\xEF' :: '\xBB' :: '\xBF' :: rest => rest
  | input => input

def Stuck.fault (input : List Char) : Stuck → Fault
  | .malformed .extraData rest =>
    .malformed .extraData (Place.at input (input.length - rest.length))
      (some (Place.at input input.length))
  | .malformed cause rest => .malformed cause (Place.at input (input.length - rest.length)) none
  | .tooManyDigits digits => .tooManyDigits digits

def read (input : List Char) : Except Fault Json :=
  match readValue (2 * input.length + 2) (skipBlanks (skipMark input)) with
  | .error e => .error (e.fault input)
  | .ok (x, rest) =>
    match skipBlanks rest with
    | [] => .ok x
    | rest => .error (Stuck.fault input (.malformed .extraData rest))

end Stomp.Json
