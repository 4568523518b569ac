import Stomp.Channel.Script

/-!
# Scripted channels that only wait

A scripted channel on which nothing fails and a read takes no time. Its clock moves only while one
waits in vain.
-/

namespace Stomp.Script

/-- Reads take no time, and nothing fails. -/
structure Prompt (s : Script Rat) : Prop where
  connected : s.connected = true
  step : s.step = 0
  failures : s.failures = []

namespace Prompt

variable {s : Script Rat}

theorem guarded_eq (h : s.Prompt) (op : Operation) {α : Type} (x : EStateM String (Script Rat) α) :
    guarded op x s = x s := by
  rw [guarded, h.failures]
  rfl

theorem advance_step (h : s.Prompt) : s.advance s.step = s := by
  have hclock : s.clock + s.step = s.clock := by rw [h.step, Rat.add_zero]
  rw [advance]
  change { s with clock := s.clock + s.step } = s
  rw [hclock]

theorem write_eq (h : s.Prompt) (data : Bytes) : Channel.write data s = .ok () s :=
  h.guarded_eq .write _

theorem read_eq (h : s.Prompt) {bytes : Bytes} {later : List Arrival}
    (hincoming : s.incoming = .data bytes :: later) {limit : Nat} (hlimit : bytes.length ≤ limit) :
    Channel.read limit s = .ok bytes { s with incoming := later } := by
  refine (h.guarded_eq .read _).trans ?_
  unfold take
  dsimp only
  rw [h.advance_step, hincoming]
  exact if_neg (by omega)

theorem canRead_of_arrival (h : s.Prompt) (hincoming : s.incoming ≠ [])
    (timeout : Option (Quantity Rat)) : Channel.canRead timeout s = .ok true s := by
  refine (h.guarded_eq .canRead _).trans ?_
  rw [wait, if_neg]
  simpa using hincoming

theorem canRead_of_silence (h : s.Prompt) (hincoming : s.incoming = []) (time : Rat) :
    Channel.canRead (some (.real time)) s = .ok false { s with clock := s.clock + time } := by
  refine (h.guarded_eq .canRead _).trans ?_
  rw [wait, if_pos (by simp [hincoming])]
  rfl

end Prompt

end Stomp.Script
