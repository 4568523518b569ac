import Stomp.Channel.Basic
import Stomp.Proofs.Action.Outcome

/-!
# The data that a channel serves

What a channel does over time, as far as its readers are concerned: the bytes that its reads
brought, one after the other, whatever else was done with it and whatever failed (`Served`), or by
reads alone that brought something each (`Pours`).
-/

namespace Stomp.Channel

open Stomp.Action

variable {κ R : Type} [Channel κ R]

/-- The later channel comes of the earlier one by use, and the reads on the way brought the
bytes. -/
inductive Served : κ → Bytes → κ → Prop
  | refl (c : κ) : Served c [] c
  | read {limit : Nat} {c d e : κ} {bytes more : Bytes} :
      Channel.read limit c = .ok bytes d → Served d more e → Served c (bytes ++ more) e
  | readFailed {limit : Nat} {text : String} {c d e : κ} {more : Bytes} :
      Channel.read limit c = .error text d → Served d more e → Served c more e
  | canRead (timeout : Option (Quantity R)) {c e : κ} {more : Bytes} :
      Served (after (Channel.canRead timeout) c) more e → Served c more e
  | write (data : Bytes) {c e : κ} {more : Bytes} :
      Served (after (Channel.write data) c) more e → Served c more e

theorem Served.trans {c d e : κ} {bytes more : Bytes} (hcd : Served c bytes d)
    (hde : Served d more e) : Served c (bytes ++ more) e := by
  induction hcd with
  | refl c => exact hde
  | read h _ ih =>
      rw [List.append_assoc]
      exact .read h (ih hde)
  | readFailed h _ ih => exact .readFailed h (ih hde)
  | canRead timeout _ ih => exact .canRead timeout (ih hde)
  | write data _ ih => exact .write data (ih hde)

/-- A read of a connected channel brought the bytes. -/
structure Brought (limit : Nat) (c : κ) (bytes : Bytes) (d : κ) : Prop where
  connected : isConnected c = true
  read : Channel.read limit c = .ok bytes d

/-- A read failed, or was not made since the channel is not connected. -/
def Unread (limit : Nat) (c d : κ) : Prop :=
  (isConnected c = false ∧ d = c) ∨ ∃ text, Channel.read limit c = .error text d

/-- Reads, one after the other, that brought something each. -/
inductive Pours (limit : Nat) : κ → List Bytes → κ → Prop
  | nil (c : κ) : Pours limit c [] c
  | cons {c d e : κ} {bytes : Bytes} {chunks : List Bytes} :
      Brought limit c bytes d → bytes ≠ [] → Pours limit d chunks e →
      Pours limit c (bytes :: chunks) e

variable {limit : Nat} {c d e : κ} {bytes : Bytes} {chunks more : List Bytes}

theorem Brought.served (h : Brought limit c bytes d) : Served c bytes d := by
  have hserved := Served.read h.read (.refl d)
  rwa [List.append_nil] at hserved

theorem Unread.served (h : Unread limit c d) : Served c [] d := by
  rcases h with ⟨-, rfl⟩ | ⟨text, h⟩
  · exact .refl d
  · exact .readFailed h (.refl d)

theorem Pours.served (h : Pours limit c chunks d) : Served c chunks.flatten d := by
  induction h with
  | nil c => exact .refl c
  | cons hbrought _ _ ih => exact .read hbrought.read ih

theorem Pours.eq_of_nil (h : Pours limit c [] d) : d = c := by
  cases h with
  | nil => rfl

theorem Pours.trans (hcd : Pours limit c chunks d) (hde : Pours limit d more e) :
    Pours limit c (chunks ++ more) e := by
  induction hcd with
  | nil c => exact hde
  | cons hbrought hbytes _ ih => exact .cons hbrought hbytes (ih hde)

end Stomp.Channel
