/-!
# UTF-8

Texts as bytes. Reading splits the bytes into characters and faults, where a fault is the longest
start of a character that cannot be completed, or a byte that starts none. The strict reader stops
at the first fault, the lenient one puts the replacement character in its place.
-/

namespace Stomp

abbrev Bytes := List UInt8

namespace Utf8

def octet (n : Nat) : UInt8 := UInt8.ofNat n

def encodeChar (c : Char) : Bytes :=
  let n := c.toNat
  if n < 0x80 then [octet n]
  else if n < 0x800 then [octet (0xC0 + n / 64), octet (0x80 + n % 64)]
  else if n < 0x10000 then
    [octet (0xE0 + n / 4096), octet (0x80 + n / 64 % 64), octet (0x80 + n % 64)]
  else
    [octet (0xF0 + n / 262144), octet (0x80 + n / 4096 % 64), octet (0x80 + n / 64 % 64),
      octet (0x80 + n % 64)]

def encode (text : List Char) : Bytes := text.flatMap encodeChar

inductive Reason where
  | badStart
  | badContinuation
  | truncated
deriving DecidableEq, Repr

/-- A character of which `missing` bytes are still to come; the next one lies between `low` and
`high`, the others between 0x80 and 0xBF. -/
structure Unfinished where
  missing : Nat
  low : Nat
  high : Nat
  value : Nat

inductive Lead where
  | whole (c : Char)
  | unfinished (u : Unfinished)
  | invalid

/-- What a byte starts. The bounds after 0xE0, 0xED, 0xF0 and 0xF4 keep out overlong forms,
surrogates and values beyond U+10FFFF. -/
def lead (b : UInt8) : Lead :=
  let n := b.toNat
  if n < 0x80 then .whole (Char.ofNat n)
  else if n < 0xC2 then .invalid
  else if n < 0xE0 then .unfinished ⟨1, 0x80, 0xBF, n - 0xC0⟩
  else if n < 0xF0 then
    .unfinished ⟨2, if n = 0xE0 then 0xA0 else 0x80, if n = 0xED then 0x9F else 0xBF, n - 0xE0⟩
  else if n < 0xF5 then
    .unfinished ⟨3, if n = 0xF0 then 0x90 else 0x80, if n = 0xF4 then 0x8F else 0xBF, n - 0xF0⟩
  else .invalid

namespace Unfinished

def accepts (u : Unfinished) (b : UInt8) : Bool :=
  decide (u.low ≤ b.toNat ∧ b.toNat ≤ u.high)

def valueWith (u : Unfinished) (b : UInt8) : Nat := u.value * 64 + (b.toNat - 0x80)

def extend (u : Unfinished) (b : UInt8) : Unfinished :=
  ⟨u.missing - 1, 0x80, 0xBF, u.valueWith b⟩

end Unfinished

inductive Piece where
  | char (c : Char)
  | fault (bytes : Bytes) (reason : Reason)

/-- Goes on after the first byte of a character. -/
def begin (b : UInt8) (next : Option (Bytes × Unfinished) → List Piece) : List Piece :=
  match lead b with
  | .whole c => .char c :: next none
  | .unfinished u => next (some ([b], u))
  | .invalid => .fault [b] .badStart :: next none

/-- The pieces of the bytes; first the bytes of a character in progress, if there is one. -/
def scan : Option (Bytes × Unfinished) → Bytes → List Piece
  | none, [] => []
  | some (seen, _), [] => [.fault seen .truncated]
  | none, b :: bs => begin b (fun s => scan s bs)
  | some (seen, u), b :: bs =>
    if u.accepts b then
      if u.missing ≤ 1 then .char (Char.ofNat (u.valueWith b)) :: scan none bs
      else scan (some (seen ++ [b], u.extend b)) bs
    else .fault seen .badContinuation :: begin b (fun s => scan s bs)

def pieces (bs : Bytes) : List Piece := scan none bs

/-- The bytes at fault, where they start, and what is wrong with them. -/
structure Fault where
  bytes : Bytes
  position : Nat
  reason : Reason
deriving DecidableEq, Repr

/-- The characters up to the first fault, at this position of the bytes. -/
def chars (position : Nat) : List Piece → Except Fault (List Char)
  | [] => .ok []
  | .char c :: rest =>
    match chars (position + (encodeChar c).length) rest with
    | .ok cs => .ok (c :: cs)
    | .error e => .error e
  | .fault bytes reason :: _ => .error ⟨bytes, position, reason⟩

def decode (bs : Bytes) : Except Fault (List Char) := chars 0 (pieces bs)

def decodeLossy (bs : Bytes) : List Char :=
  (pieces bs).map fun
    | .char c => c
    | .fault _ _ => '\uFFFD'

end Utf8

namespace Bytes

def ofString (s : String) : Bytes := Utf8.encode s.toList

def toString? (bs : Bytes) : Except Utf8.Fault String :=
  match Utf8.decode bs with
  | .ok cs => .ok (String.ofList cs)
  | .error e => .error e

end Bytes

end Stomp
