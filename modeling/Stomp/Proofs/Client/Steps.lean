import Stomp.Proofs.Client.Termination

/-!
# Waits that are not cut short

A wait, and a search for a frame, is given so many steps. With more steps it does the same unless it
has run out of them (`extends_awaitReceipt`, `extends_awaitConnected`, `extends_readFrameWithin`).
So on a channel that keeps its promises it goes as if it had no limit (`uncut_of_metered`).
-/

namespace Stomp

variable {ε σ α β : Type}

namespace Action

/-- The second action does what the first one does, unless that ends with the fault. -/
def Extends (fault : ε) (x y : EStateM ε σ α) : Prop :=
  ∀ s, (∃ t, x s = .error fault t) ∨ y s = x s

namespace Extends

variable {fault : ε}

theorem refl (x : EStateM ε σ α) : Extends fault x x := fun _ => Or.inr rfl

theorem throw (y : EStateM ε σ α) : Extends fault (MonadExcept.throw fault) y :=
  fun s => Or.inl ⟨s, rfl⟩

theorem bind (x : EStateM ε σ α) {f g : α → EStateM ε σ β} (h : ∀ a, Extends fault (f a) (g a)) :
    Extends fault (x >>= f) (x >>= g) := by
  intro s
  change (∃ t, EStateM.bind x f s = .error fault t) ∨ EStateM.bind x g s = EStateM.bind x f s
  unfold EStateM.bind
  cases x s with
  | ok a t => exact h a t
  | error e t => exact Or.inr rfl

theorem ite {c : Prop} [Decidable c] {x y x' y' : EStateM ε σ α} (h : Extends fault x y)
    (h' : Extends fault x' y') : Extends fault (if c then x else x') (if c then y else y') := by
  split
  · exact h
  · exact h'

theorem eq_of_outcome {x y : EStateM ε σ α} (h : Extends fault x y) {ok : α → σ → Prop}
    {failed : ε → σ → Prop} {s : σ} (hx : Outcome ok failed (x s))
    (hfailed : ∀ t, ¬ failed fault t) : y s = x s := by
  rcases h s with ⟨t, ht⟩ | heq
  · exact absurd (hx.of_eq_error ht) (hfailed t)
  · exact heq

end Extends

end Action

open Stomp.Action

variable {κ R : Type} [Channel κ R] [Scale R]

namespace Transport

theorem extends_readFrameWithin (steps more : Nat) (fed : Bool) :
    Extends .stalled
      (readFrameWithin steps fed : EStateM (Error R) (Transport κ R) (Option Frame))
      (readFrameWithin (steps + more) fed) := by
  induction steps generalizing fed with
  | zero =>
      unfold readFrameWithin
      exact .throw _
  | succ steps ih =>
      rw [Nat.add_right_comm]
      unfold readFrameWithin
      refine .bind _ fun f? => ?_
      split
      · exact .refl _
      · refine .ite (.bind _ fun _ => ?_) ?_
        all_goals exact .bind _ fun _ => .ite (.refl _) (.bind _ fun _ => ih true)

end Transport

namespace Client

theorem extends_awaitReceipt (id : String) (limit : R) (steps more : Nat) :
    Extends .stalled (awaitReceipt id limit steps : ClientAction κ R Unit)
      (awaitReceipt id limit (steps + more)) := by
  induction steps with
  | zero =>
      rw [awaitReceipt]
      exact .throw _
  | succ steps ih =>
      rw [Nat.add_right_comm]
      unfold awaitReceipt
      refine .bind _ fun f? => ?_
      have hwait : Extends .stalled
          (do
            waitForData limit (.missingReceipt id)
            awaitReceipt id limit steps : ClientAction κ R Unit)
          (do
            waitForData limit (.missingReceipt id)
            awaitReceipt id limit (steps + more)) :=
        .bind _ fun _ => ih
      cases f? with
      | none => exact hwait
      | some f =>
          refine .ite (.ite (.refl _) (.bind _ fun _ => ?_)) ?_
          all_goals exact .bind _ fun _ => hwait

theorem extends_awaitConnected (limit : R) (late : Error R) (steps more : Nat) :
    Extends .stalled (awaitConnected limit late steps : ClientAction κ R Frame)
      (awaitConnected limit late (steps + more)) := by
  induction steps with
  | zero =>
      rw [awaitConnected]
      exact .throw _
  | succ steps ih =>
      rw [Nat.add_right_comm]
      unfold awaitConnected
      refine .bind _ fun f? => ?_
      split
      · exact .refl _
      · exact .bind _ fun _ => ih

/-- More steps make no difference to a search for a frame or a wait of `c`. -/
structure Uncut (c : Client κ R) : Prop where
  search (more : Nat) :
    (Transport.readFrameWithin (Channel.patience c.transport.link.channel + 2 + more) false :
        EStateM (Error R) (Transport κ R) (Option Frame)) c.transport =
      Transport.readFrame c.transport
  greeting (limit : R) (timeout : Quantity R) (more : Nat) :
    (awaitConnected limit (.connectTimeout timeout) (c.waitSteps + more) :
        ClientAction κ R Frame) c =
      awaitConnected limit (.connectTimeout timeout) c.waitSteps c
  receipt (id : String) (limit : R) (more : Nat) :
    (awaitReceipt id limit (c.waitSteps + more) : ClientAction κ R Unit) c =
      awaitReceipt id limit c.waitSteps c

theorem uncut_of_metered {c : Client κ R} (hc : c.transport.Unwatched)
    (hchannel : Channel.IsMetered c.transport.link.channel) : c.Uncut := by
  obtain ⟨usable, h, husable⟩ := hchannel
  refine ⟨fun more => ?_, fun limit timeout more => ?_, fun id limit more => ?_⟩
  · refine (Transport.extends_readFrameWithin _ more false).eq_of_outcome
      (Transport.search_readFrame hc) fun t ht => ?_
    have hends : Error.Ends (Scale.zero : R) .stalled t := ht.ends h.toPatient husable
    exact hends.ne_stalled rfl
  · have hgreeting := ends_awaitConnected h.toOrderly hc husable limit timeout
    refine (extends_awaitConnected limit _ c.waitSteps more).eq_of_outcome hgreeting ?_
    rintro d ⟨t, hends, -⟩
    exact hends.ne_stalled rfl
  · have hreceipt := ends_awaitReceipt h hc husable id limit
    exact (extends_awaitReceipt id limit c.waitSteps more).eq_of_outcome hreceipt
      fun _ hends => hends.ne_stalled rfl

end Client

end Stomp
