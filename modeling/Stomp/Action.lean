import Stomp.Frame.Basic

/-!
# Actions

Actions change a state and may fail; what they changed before they failed stays changed. An action
on a part of a state acts on the whole, and some actions have a frame in hand beside their state.
-/

namespace Stomp

/-- Actions on a frame in hand, beside a state. -/
abbrev InHand (ε σ α : Type) := EStateM ε (Frame × σ) α

namespace Action

variable {ε δ σ τ α : Type}

def on (part : σ → τ) (put : σ → τ → σ) (x : EStateM ε τ α) : EStateM ε σ α := fun s =>
  match x (part s) with
  | .ok a t => .ok a (put s t)
  | .error e t => .error e (put s t)

def mapError (f : ε → δ) (x : EStateM ε σ α) : EStateM δ σ α := fun s =>
  match x s with
  | .ok a t => .ok a t
  | .error e t => .error (f e) t

/-- A computation without state. -/
def ofExcept (x : Except ε α) : EStateM ε σ α := fun s =>
  match x with
  | .ok a => .ok a s
  | .error e => .error e s

/-- An action that leaves the frame in hand alone. -/
def beside (x : EStateM ε σ α) : InHand ε σ α := on Prod.snd (fun p s => (p.1, s)) x

/-- An action with a frame in hand that is new to it and dropped after it. -/
def withFrame (f : Frame) (x : InHand ε σ α) : EStateM ε σ α := fun s =>
  match x (f, s) with
  | .ok a p => .ok a p.2
  | .error e p => .error e p.2

end Action

end Stomp
