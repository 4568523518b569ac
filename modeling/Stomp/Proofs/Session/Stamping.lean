import Stomp.Proofs.Client.Ids
import Stomp.Proofs.Client.Writing
import Stomp.Proofs.Session.Step

/-!
# The transaction of a message

Within a transaction the messages that a session sends and answers are to name it. Answers do, and
so do prepared frames that did not come with another transaction. A message that is sent by its
body does not (`stamped_iff`): the client hands over the transaction among the additional headers,
and when the frame is made, the transaction that the client did not name takes it away again.
-/

namespace Stomp.Session

open Stomp.Action
open Link (Wrote Sends)

namespace Call

def isMessage : Call → Bool
  | .sendBody _ _ _ | .sendPrepared _ _ _ | .ack _ | .nack _ _ => true
  | _ => false

/-- The calls whose frame names the transaction that is open. -/
def stamps (t : String) : Call → Prop
  | .sendPrepared f _ _ =>
    f.get? Name.transaction = none ∨ f.get? Name.transaction = some (.text t)
  | .ack _ | .nack _ _ => True
  | _ => False

end Call

/-! ## The frames -/

/-- A frame made of a body has lost the transaction. -/
theorem get?_transaction_send (p : Protocol) (destination : Given) (body : Bytes)
    (headers : List (String × Given)) :
    (p.send destination body headers .absent).get? Name.transaction = none :=
  Frame.get?_set_self _ _ _

theorem get?_transaction_prepared (f : Frame) (destination : Given)
    (headers : List (String × Given)) {t : String} (ht : t ≠ "") :
    ((f.add (stamped t headers)).set Name.destination destination).get? Name.transaction =
      (f.get? Name.transaction).or (some (.text t)) := by
  have hdestination : Name.destination ≠ Name.transaction := by decide
  have hstored := Given.stored?_text ht
  have hoffered : Headers.offered? (stamped t headers) Name.transaction = some (.text t) := by
    rw [stamped, Headers.offered?_insert _ _ (by rw [hstored]; rfl), hstored]
  rw [Frame.get?_set_of_ne _ hdestination, Frame.get?_add, hoffered]

variable {κ R : Type} [Scale R] [Channel κ R]

/-! ## The calls -/

/-- A session may have written one of the frames as described, and nothing else. -/
abbrev MayWrite (P : Frame → Prop) (s t : Session (Stomp.Client κ R)) : Prop :=
  Sends P s.client.transport.link t.client.transport.link

theorem mayWrite_sendBody {s : Session (Stomp.Client κ R)} {t : String}
    (ht : s.transaction? = some t) (destination : Given) (body : Bytes)
    (headers : List (String × Given)) :
    MayWrite (fun f => f.get? Name.transaction = none) s
      ((Call.sendBody destination body headers).next s) := by
  apply leaves_iff.1
  change Leaves _ (sendBody destination body headers s)
  unfold sendBody
  rw [get_bind, ht]
  have hsend := Client.sends_sendBody destination body (stamped t headers) s.client
  refine Outcome.on (hsend.mono fun d h => h.mono ?_)
  rintro f ⟨p, rfl⟩
  exact get?_transaction_send p destination body _

theorem mayWrite_sendPrepared {s : Session (Stomp.Client κ R)} {t : String}
    (ht : s.transaction? = some t) (hne : t ≠ "") (f : Frame) (destination : Given)
    (headers : List (String × Given)) :
    MayWrite
      (fun g => g.get? Name.transaction = (f.get? Name.transaction).or (some (.text t))) s
      ((Call.sendPrepared f destination headers).next s) := by
  apply leaves_iff.1
  change Leaves _ (withFrame f (sendPrepared destination headers) s)
  apply Outcome.withFrame
  unfold sendPrepared
  rw [get_bind]
  have hin : (f, s).2.transaction? = some t := ht
  rw [hin]
  have hsend := Client.sends_sendPrepared destination (stamped t headers) f s.client
  refine Outcome.on (hsend.mono fun q h => h.mono ?_)
  rintro g rfl
  exact get?_transaction_prepared f destination headers hne

theorem leaves_protocol (s : Session (Stomp.Client κ R)) :
    Leaves (s = ·)
      ((onClient Client.protocol : SessionAction R (Stomp.Client κ R) Protocol) s) := by
  refine Outcome.on ((Stomp.Client.outcome_protocol s.client).mono ?_ ?_)
  · rintro p c ⟨-, rfl⟩
    exact rfl
  · rintro e c ⟨-, rfl⟩
    exact rfl

theorem mayWrite_answer {s : Session (Stomp.Client κ R)} {t command : String}
    (ht : s.transaction? = some t) (hne : t ≠ "") (operation : String)
    {build : Protocol → Given → InHand Command.Fault IdSupply Frame}
    (hbuild : ∀ p t q, Outcome (Command.Answers command t q.2)
      (fun _ r => q.2.issued ≤ r.2.issued) (build p t q))
    (message : Frame) :
    Leaves (fun q => MayWrite (fun f => f.get? Name.transaction = some (.text t)) s q.2)
      ((answer operation build : InHand (Error R) (Session (Stomp.Client κ R)) Unit)
        (message, s)) := by
  have hheader : s.transactionHeader.stored? = some (.text t) := by
    rw [transactionHeader, ht]
    exact Given.stored?_text hne
  unfold answer
  apply (Outcome.beside (outcome_check _ _ s)).bind (fun _ q hq => hq.1 ▸ Or.inl rfl)
  rintro - ⟨message, s⟩ ⟨⟨-, rfl⟩, -⟩
  apply (Outcome.beside (leaves_protocol s)).bind (fun _ q hq => hq.1 ▸ Or.inl rfl)
  rintro p ⟨message, s⟩ ⟨rfl, -⟩
  rw [get_bind]
  have hbuilt : Outcome
      (fun f q => f.get? Name.transaction = some (.text t) ∧
        q.2.client.transport = s.client.transport)
      (fun _ q => q.2.client.transport = s.client.transport)
      ((buildAnswer (build p s.transactionHeader) :
        InHand (Error R) (Session (Stomp.Client κ R)) Frame) (message, s)) := by
    refine Outcome.on (Outcome.mapError ((hbuild p s.transactionHeader _).mono ?_ ?_))
    · rintro f q ⟨-, htransaction, -⟩
      exact ⟨htransaction.trans hheader, rfl⟩
    · intro _ q _
      exact rfl
  apply hbuilt.bind (fun _ q hq => Or.inl (by rw [hq]))
  rintro f q ⟨hf, hq⟩
  have hsend : Leaves (fun u => MayWrite (· = f) q.2 u)
      ((sendNew f (some false) : SessionAction R (Stomp.Client κ R) Unit) q.2) := by
    unfold sendNew
    exact Outcome.on (Outcome.withFrame (Client.sends_sendFrame f q.2.client))
  apply Leaves.mono (Outcome.beside hsend)
  rintro u ⟨hu, -⟩
  rw [MayWrite, hq] at hu
  apply hu.mono
  rintro g rfl
  exact hf

/-- In every session that there may be, with a transaction open: a call that sends or answers a
message writes one frame at most, and this frame names the transaction just where the call is one
that stamps it. A message that is sent by its body is therefore never part of the transaction. -/
theorem stamped_iff {s : Session (Stomp.Client κ R)} (hs : Reachable s) {t : String}
    (ht : s.transaction? = some t) {c : Call} (hc : c.isMessage = true) :
    let l := s.client.transport.link
    let m := (c.next s).client.transport.link
    m.written = l.written ∨
      ∃ f g, f.rendered = .ok g ∧ m.offered = l.offered ++ [f] ∧
        m.written = l.written ++ [g.wire] ∧
        (g.get? Name.transaction = some (.text t) ↔ c.stamps t) := by
  intro l m
  have hne : t ≠ "" := named_of_reachable hs t ht
  have hframe : MayWrite (fun f => f.get? Name.transaction = some (.text t) ↔ c.stamps t) s
      (c.next s) := by
    cases c
    case sendBody destination body headers =>
      apply (mayWrite_sendBody ht destination body headers).mono
      intro f hf
      simp [hf, Call.stamps]
    case sendPrepared f destination headers =>
      apply (mayWrite_sendPrepared ht hne f destination headers).mono
      intro g hg
      rw [hg, Call.stamps]
      cases f.get? Name.transaction <;> simp
    case ack message =>
      have hanswer := mayWrite_answer ht hne "ack" Protocol.outcome_ack message
      have hleaves : Leaves (MayWrite (fun f => f.get? Name.transaction = some (.text t)) s)
          (withFrame message ack s) := Outcome.withFrame hanswer
      apply (leaves_iff.1 hleaves).mono
      intro f hf
      simp [hf, Call.stamps]
    case nack message requeue =>
      have hanswer := mayWrite_answer ht hne "nack"
        (fun p t q => p.outcome_nack t requeue q) message
      have hleaves : Leaves (MayWrite (fun f => f.get? Name.transaction = some (.text t)) s)
          (withFrame message (nack requeue) s) := Outcome.withFrame hanswer
      apply (leaves_iff.1 hleaves).mono
      intro f hf
      simp [hf, Call.stamps]
    all_goals cases hc
  rcases hframe with hsilent | ⟨f, hf, g, hg, hoffered, hwritten⟩
  · exact Or.inl hsilent
  · refine Or.inr ⟨f, g, hg, hoffered, hwritten, ?_⟩
    rw [Frame.get?_of_rendered hg]
    exact hf

/-- A prepared frame without a transaction, sent after the session began one. -/
theorem stamped_iff_prepared :
    let s : Session (Stomp.Client (Script Rat) Rat) := Call.begin.next { client := .unanswered }
    let c : Call := .sendPrepared { command := Verb.send, body := [104, 105] } (.text "/q") []
    let l := s.client.transport.link
    let m := (c.next s).client.transport.link
    m.written = l.written ∨
      ∃ f g, f.rendered = .ok g ∧ m.offered = l.offered ++ [f] ∧
        m.written = l.written ++ [g.wire] ∧
        (g.get? Name.transaction = some (.text "uid-1") ↔ c.stamps "uid-1") := by
  intro s c
  have hs : Reachable s := .call .begin (.new _)
  have ht : s.transaction? = some "uid-1" := by decide +kernel
  exact stamped_iff hs ht (c := c) rfl

/-- The same message by its body: after the frame that begins the transaction and names it, one is
written that does not. -/
theorem sendBody_unstamped :
    let s : Session (Stomp.Client (Script Rat) Rat) := Call.begin.next { client := .unanswered }
    let l := ((Call.sendBody (.text "/q") [104, 105] []).next s).client.transport.link
    Reachable s ∧ s.transaction? = some "uid-1" ∧
      l.written = [Bytes.ofString "BEGIN\ntransaction:uid-1\n\n\x00",
        Bytes.ofString "SEND\ndestination:/q\n\nhi\x00"] ∧
      l.offered.map (fun f => f.get? Name.transaction) = [some (.text "uid-1"), none] := by
  intro s l
  have hs : Reachable s := .call .begin (.new _)
  refine ⟨hs, ?_, ?_, ?_⟩ <;> decide +kernel

end Stomp.Session
