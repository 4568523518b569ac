import Stomp.Text.Quoted

/-!
# Faults in JSON texts

What is wrong with a text, and where: lines and columns count from one, offsets from zero, all in
characters.
-/

namespace Stomp.Json

inductive Cause where
  | expectingValue
  | expectingValueOrClose
  | expectingCommaOrClose (bracket : Char)
  | trailingComma (container : String)
  | expectingName
  | expectingNameOrClose
  | expectingColon
  | unterminatedText
  | controlCharacter (c : Char)
  | unknownEscape (c : Char)
  | badCodeUnit
  | extraData
  | stepsExhausted
deriving DecidableEq, Repr

structure Place where
  line : Nat
  column : Nat
  offset : Nat
deriving DecidableEq, Repr

def Place.at (text : List Char) (offset : Nat) : Place :=
  let before := text.take offset
  let lastLine := before.reverse.takeWhile (· ≠ '\n')
  ⟨before.count '\n' + 1, lastLine.length + 1, offset⟩

inductive Fault where
  | malformed (cause : Cause) (place : Place) (stop : Option Place)
  | tooManyDigits (digits : Nat)
deriving DecidableEq, Repr

namespace Cause

def message : Cause → String
  | .expectingValue => "Expecting value"
  | .expectingValueOrClose => "Expecting value or ']'"
  | .expectingCommaOrClose bracket => s!"Expecting ',' delimiter or '{bracket}'"
  | .trailingComma container => s!"Illegal trailing comma before end of {container}"
  | .expectingName => "Expecting property name enclosed in double quotes"
  | .expectingNameOrClose => "Expecting property name enclosed in double quotes or '\x7d'"
  | .expectingColon => "Expecting ':' delimiter"
  | .unterminatedText => "Unterminated string starting at"
  | .controlCharacter c => s!"Invalid control character {Quoted.text (String.singleton c)} at"
  | .unknownEscape c => "Invalid \\X escape sequence " ++ Quoted.text (String.singleton c)
  | .badCodeUnit => "Invalid \\uXXXX escape sequence"
  | .extraData => "Extra data"
  | .stepsExhausted => "Steps exhausted"

end Cause

def malformedMessage (cause : Cause) (place : Place) : Option Place → String
  | none => s!"{cause.message}: line {place.line} column {place.column} (char {place.offset})"
  | some stop =>
    s!"{cause.message}: line {place.line} column {place.column} - " ++
      s!"line {stop.line} column {stop.column} (char {place.offset} - {stop.offset})"

end Stomp.Json
