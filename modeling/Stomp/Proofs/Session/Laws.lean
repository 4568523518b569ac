import Stomp.Proofs.Session.Step

/-!
# What a session relies on

The ids that a client makes up are new ones (`NewIds`). A client that is `Faithful` writes the frame
that it is asked to send and returns, or fails and writes nothing.
-/

namespace Stomp

/-- Nothing but what may be added for a receipt sets the frames apart. -/
structure Frame.Carries (f g : Frame) : Prop where
  command : g.command = f.command
  headers : ∀ name, name ≠ Name.receipt → g.get? name = f.get? name

theorem Frame.Carries.refl (f : Frame) : f.Carries f := ⟨rfl, fun _ _ => rfl⟩

namespace Session.Client

open Stomp.Action

variable {R σ : Type}

/-- An id is never made up twice, whatever the client does. -/
class NewIds (σ : Type) {R : outParam Type} [Session.Client σ R] : Prop where
  setIds (c : σ) (ids : IdSupply) : Client.ids (Client.setIds c ids) = ids
  logNotice (n : Notice R) (c : σ) : Client.ids (Client.logNotice n c) = Client.ids c
  protocol (c : σ) : (Client.ids c).issued ≤ (Client.ids (after Client.protocol c)).issued
  readFrame (c : σ) : (Client.ids c).issued ≤ (Client.ids (after Client.readFrame c)).issued
  sendFrame (sync? : Option Bool) (f : Frame) (c : σ) :
    (Client.ids c).issued ≤ (Client.ids (after (Client.sendFrame sync?) (f, c)).2).issued
  sendBody (destination : Given) (body : Bytes) (headers : List (String × Given))
    (sync? : Option Bool) (c : σ) :
    (Client.ids c).issued ≤
      (Client.ids (after (Client.sendBody destination body headers sync?) c)).issued
  sendPrepared (destination : Given) (headers : List (String × Given)) (sync? : Option Bool)
    (f : Frame) (c : σ) :
    (Client.ids c).issued ≤
      (Client.ids (after (Client.sendPrepared destination headers sync?) (f, c)).2).issued

/-- A frame to be sent is written once if the client returns, and not at all if it fails. -/
class Faithful (σ : Type) {R : outParam Type} [Session.Client σ R] where
  /-- The frames that were written so far. -/
  written : σ → List Frame
  setIds (c : σ) (ids : IdSupply) : written (Client.setIds c ids) = written c
  logNotice (n : Notice R) (c : σ) : written (Client.logNotice n c) = written c
  protocol (c : σ) : written (after Client.protocol c) = written c
  readFrame (c : σ) : written (after Client.readFrame c) = written c
  sent {sync? : Option Bool} {f g : Frame} {c d : σ} :
    Client.sendFrame sync? (f, c) = .ok () (g, d) →
      ∃ h, f.Carries h ∧ written d = written c ++ [h]
  failed {sync? : Option Bool} {f g : Frame} {e : Error R} {c d : σ} :
    Client.sendFrame sync? (f, c) = .error e (g, d) → written d = written c

variable [Session.Client σ R]

/-! ## Ids -/

section NewIds

variable [NewIds σ]

theorem issued_le_of_result {sync? : Option Bool} {f : Frame} {c : σ}
    {r : EStateM.Result (Error R) (Frame × σ) Unit} (h : Client.sendFrame sync? (f, c) = r) :
    Leaves (fun p => (Client.ids c).issued ≤ (Client.ids p.2).issued) r :=
  h ▸ leaves_iff.2 (NewIds.sendFrame sync? f c)

theorem Unsent.issued_le {c d : σ} (h : Unsent c d) :
    (Client.ids c).issued ≤ (Client.ids d).issued := by
  induction h with
  | refl c => exact Nat.le_refl _
  | trans _ _ ih₁ ih₂ => exact Nat.le_trans ih₁ ih₂
  | protocol c => exact NewIds.protocol c
  | readFrame c => exact NewIds.readFrame c
  | failed h => exact issued_le_of_result h
  | setIds h =>
      rw [NewIds.setIds]
      exact h
  | logNotice n c => rw [NewIds.logNotice]

theorem Exchange.issued_le {f : Frame} {c d : σ} (h : Exchange f c d) :
    (Client.ids c).issued ≤ (Client.ids d).issued := by
  obtain ⟨c', d', hbefore, ⟨sync?, g, hsent⟩, hafter⟩ := h
  have hsend : (Client.ids c').issued ≤ (Client.ids d').issued := issued_le_of_result hsent
  exact Nat.le_trans hbefore.issued_le (Nat.le_trans hsend hafter.issued_le)

end NewIds

/-! ## Frames -/

section Faithful

variable [Faithful σ]

theorem Unsent.written_eq {c d : σ} (h : Unsent c d) :
    Faithful.written d = Faithful.written c := by
  induction h with
  | refl c => rfl
  | trans _ _ ih₁ ih₂ => exact ih₂.trans ih₁
  | protocol c => exact Faithful.protocol c
  | readFrame c => exact Faithful.readFrame c
  | failed h => exact Faithful.failed h
  | setIds _ => exact Faithful.setIds _ _
  | logNotice n c => exact Faithful.logNotice n c

theorem Exchange.written_eq {f : Frame} {c d : σ} (h : Exchange f c d) :
    ∃ g, f.Carries g ∧ Faithful.written d = Faithful.written c ++ [g] := by
  obtain ⟨c', d', hbefore, ⟨sync?, g, hsent⟩, hafter⟩ := h
  obtain ⟨h, hcarries, hwritten⟩ := Faithful.sent hsent
  refine ⟨h, hcarries, ?_⟩
  rw [hafter.written_eq, hwritten, hbefore.written_eq]

end Faithful

end Session.Client

end Stomp
