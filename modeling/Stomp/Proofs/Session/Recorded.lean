import Stomp.Proofs.Session.Laws

/-!
# Clients with an account

Any client becomes a faithful one when an account is kept of the frames that it has sent: a frame
that it fails to send is not entered.
-/

namespace Stomp.Session.Client

open Stomp.Action

variable {R σ : Type}

/-- A client with the frames that it has sent. -/
structure Recorded (σ : Type) where
  client : σ
  sent : List Frame := []

namespace Recorded

def onClient {α : Type} (x : EStateM (Error R) σ α) : EStateM (Error R) (Recorded σ) α :=
  Action.on client (fun r c => { r with client := c }) x

def onClientInHand (x : InHand (Error R) σ Unit) : InHand (Error R) (Recorded σ) Unit :=
  Action.on (fun p => (p.1, p.2.client)) (fun p q => (q.1, { p.2 with client := q.2 })) x

theorem after_onClient {α : Type} (x : EStateM (Error R) σ α) (r : Recorded σ) :
    after (onClient x) r = { r with client := after x r.client } := by
  unfold after onClient Action.on
  cases x r.client <;> rfl

theorem after_onClientInHand (x : InHand (Error R) σ Unit) (f : Frame) (r : Recorded σ) :
    (after (onClientInHand x) (f, r)).2 =
      { r with client := (after x (f, r.client)).2 } := by
  unfold after onClientInHand Action.on
  cases x (f, r.client) <;> rfl

variable [Session.Client σ R]

def sendFrame (sync? : Option Bool) : InHand (Error R) (Recorded σ) Unit := fun (f, r) =>
  match Client.sendFrame sync? (f, r.client) with
  | .ok _ (g, c) => .ok () (g, { client := c, sent := r.sent ++ [f] })
  | .error e (g, c) => .error e (g, { r with client := c })

instance : Session.Client (Recorded σ) R where
  protocol := onClient Client.protocol
  sendFrame := sendFrame
  sendBody destination body headers sync? :=
    onClient (Client.sendBody destination body headers sync?)
  sendPrepared destination headers sync? :=
    onClientInHand (Client.sendPrepared destination headers sync?)
  readFrame := onClient Client.readFrame
  isBufferEmpty r := Client.isBufferEmpty r.client
  ids r := Client.ids r.client
  setIds r ids := { r with client := Client.setIds r.client ids }
  logNotice n r := { r with client := Client.logNotice n r.client }

theorem client_after_sendFrame (sync? : Option Bool) (f : Frame) (r : Recorded σ) :
    (after (sendFrame sync?) (f, r)).2.client =
      (after (Client.sendFrame sync?) (f, r.client)).2 := by
  unfold after sendFrame
  cases h : Client.sendFrame sync? (f, r.client) <;> simp [h]

instance [NewIds σ] : NewIds (Recorded σ) where
  setIds r ids := NewIds.setIds r.client ids
  logNotice n r := NewIds.logNotice n r.client
  protocol r := by
    change _ ≤ (Client.ids (after (onClient Client.protocol) r).client).issued
    rw [after_onClient]
    exact NewIds.protocol r.client
  readFrame r := by
    change _ ≤ (Client.ids (after (onClient Client.readFrame) r).client).issued
    rw [after_onClient]
    exact NewIds.readFrame r.client
  sendFrame sync? f r := by
    change _ ≤ (Client.ids (after (sendFrame sync?) (f, r)).2.client).issued
    rw [client_after_sendFrame]
    exact NewIds.sendFrame sync? f r.client
  sendBody destination body headers sync? r := by
    change _ ≤ (Client.ids (after (onClient _) r).client).issued
    rw [after_onClient]
    exact NewIds.sendBody destination body headers sync? r.client
  sendPrepared destination headers sync? f r := by
    change _ ≤ (Client.ids (after (onClientInHand _) (f, r)).2.client).issued
    rw [after_onClientInHand]
    exact NewIds.sendPrepared destination headers sync? f r.client

instance : Faithful (Recorded σ) where
  written := sent
  setIds _ _ := rfl
  logNotice _ _ := rfl
  protocol r := by
    change (after (onClient Client.protocol) r).sent = r.sent
    rw [after_onClient]
  readFrame r := by
    change (after (onClient Client.readFrame) r).sent = r.sent
    rw [after_onClient]
  sent := by
    intro sync? f g r q h
    change sendFrame sync? (f, r) = _ at h
    unfold sendFrame at h
    cases hc : Client.sendFrame sync? (f, r.client) with
    | ok a p =>
        simp only [hc] at h
        cases h
        exact ⟨f, .refl f, rfl⟩
    | error e p =>
        simp only [hc] at h
        cases h
  failed := by
    intro sync? f g e r q h
    change sendFrame sync? (f, r) = _ at h
    unfold sendFrame at h
    cases hc : Client.sendFrame sync? (f, r.client) with
    | ok a p =>
        simp only [hc] at h
        cases h
    | error e p =>
        simp only [hc] at h
        cases h
        rfl

end Recorded

end Stomp.Session.Client
