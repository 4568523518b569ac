import Stomp.Proofs.Action.Outcome
import Stomp.Proofs.Frame.Headers
import Stomp.Protocol

/-!
# The frames of a protocol

Whatever version and dialect were agreed on, a subscription is opened and ended under its id, and
the frames that open and end a transaction or answer a message name that transaction.
-/

namespace Stomp

open Stomp.Action

namespace Command

theorem get?_ofTransaction (command : String) (v : Version) (t : Given) :
    (ofTransaction command v t).get? Name.transaction = t.stored? :=
  Frame.get?_set_self _ _ _

theorem subscribe_ok {v : Version} {destination id ack selector : Given} {f : Frame}
    (h : subscribe v destination id ack selector = .ok f) :
    f.command = Verb.subscribe ∧ f.get? Name.id = id.stored? := by
  unfold subscribe at h
  split at h
  · split at h
    · cases h
      have hselector : Name.selector ≠ Name.id := by decide
      refine ⟨rfl, ?_⟩
      rw [Frame.get?_set_of_ne _ hselector, Frame.get?_set_self]
    · cases h
  · cases h

theorem issued_identify (message : Frame) (ids : IdSupply) :
    ids.issued ≤ (identify message ids).2.2.issued := by
  unfold identify Frame.ensureMessageId
  split
  · exact Nat.le_refl _
  · split
    · exact Nat.le_refl _
    · exact Nat.le_succ _

theorem acknowledgement_ok {command : String} {v : Version} {t : Given} {id : HeaderValue}
    {subscription : Option HeaderValue} {f : Frame}
    (h : acknowledgement command v t id subscription = .ok f) :
    f.command = command ∧ f.get? Name.transaction = t.stored? := by
  have hid : Name.id ≠ Name.transaction := by decide
  have hmessage : Name.messageId ≠ Name.transaction := by decide
  have hsubscription : Name.subscription ≠ Name.transaction := by decide
  obtain ⟨g, -, h⟩ := exists_of_bind_eq_ok h
  cases v with
  | v10 =>
      cases h
      exact ⟨rfl, by rw [Frame.get?_set_of_ne _ hmessage, get?_ofTransaction]⟩
  | v11 =>
      obtain ⟨s, -, h⟩ := exists_of_bind_eq_ok h
      cases h
      exact ⟨rfl, by rw [Frame.get?_set_of_ne _ hsubscription, Frame.get?_set_of_ne _ hmessage,
        get?_ofTransaction]⟩
  | v12 =>
      cases h
      exact ⟨rfl, by rw [Frame.get?_set_of_ne _ hid, get?_ofTransaction]⟩

/-- An answer to a message: its command, its transaction, and the ids that are left. -/
def Answers (command : String) (t : Given) (ids : IdSupply) (f : Frame) (q : Frame × IdSupply) :
    Prop :=
  f.command = command ∧ f.get? Name.transaction = t.stored? ∧ ids.issued ≤ q.2.issued

theorem outcome_answer (command : String) (v : Version) (t : Given) (p : Frame × IdSupply) :
    Outcome (Answers command t p.2) (fun _ q => p.2.issued ≤ q.2.issued)
      (answer command v t p) := by
  have hids := issued_identify p.1 p.2
  refine (outcome_ofExcept _ _).mono ?_ ?_
  · rintro f q ⟨hf, rfl⟩
    obtain ⟨hcommand, htransaction⟩ := acknowledgement_ok hf
    exact ⟨hcommand, htransaction, hids⟩
  · rintro e q ⟨-, rfl⟩
    exact hids

theorem outcome_nack (v : Version) (t : Given) (p : Frame × IdSupply) :
    Outcome (Answers Verb.nack t p.2) (fun _ q => p.2.issued ≤ q.2.issued) (nack v t p) := by
  unfold nack
  split
  · exact Nat.le_refl _
  · exact outcome_answer Verb.nack v t p

end Command

namespace Protocol

open Command (Answers)

theorem subscribe_ok {p : Protocol} {destination id ack selector : Given} {f : Frame}
    (h : p.subscribe destination id ack selector false = .ok f) :
    f.command = Verb.subscribe ∧ f.get? Name.id = id.stored? := by
  unfold subscribe at h
  cases hf : Command.subscribe p.version destination id ack selector with
  | error e =>
      rw [hf] at h
      cases h
  | ok g =>
      rw [hf] at h
      obtain ⟨hcommand, hid⟩ := Command.subscribe_ok hf
      have hsize : Name.prefetchSize ≠ Name.id := by decide
      have hcount : Name.prefetchCount ≠ Name.id := by decide
      cases hd : p.dialect with
      | activemq =>
          rw [hd] at h
          cases h
          exact ⟨hcommand, (Frame.get?_set_of_ne g hsize _).trans hid⟩
      | rabbitmq =>
          rw [hd] at h
          cases h
          exact ⟨hcommand, (Frame.get?_set_of_ne g hcount _).trans hid⟩
      | generic | apollo | openmq =>
          rw [hd] at h
          cases h
          exact ⟨hcommand, hid⟩

theorem unsubscribe_ok {p : Protocol} {destination id : Given} {f : Frame}
    (h : p.unsubscribe destination id false = .ok f) :
    f.command = Verb.unsubscribe ∧ f.get? Name.id = id.stored? := by
  cases h
  exact ⟨rfl, Frame.get?_set_self _ _ _⟩

theorem get?_begin (p : Protocol) (t : Given) :
    (p.begin t).get? Name.transaction = t.stored? :=
  Command.get?_ofTransaction _ _ _

theorem get?_commit (p : Protocol) (t : Given) :
    (p.commit t).get? Name.transaction = t.stored? :=
  Command.get?_ofTransaction _ _ _

theorem get?_abort (p : Protocol) (t : Given) :
    (p.abort t).get? Name.transaction = t.stored? :=
  Command.get?_ofTransaction _ _ _

theorem outcome_ack (p : Protocol) (t : Given) (q : Frame × IdSupply) :
    Outcome (Answers Verb.ack t q.2) (fun _ r => q.2.issued ≤ r.2.issued) (p.ack t q) := by
  have hsubscription : Name.subscription ≠ Name.transaction := by decide
  apply Outcome.bind (Command.outcome_answer Verb.ack p.version t q) (fun _ _ h => h)
  intro f r hf
  rw [get_bind]
  split
  split
  · apply (outcome_ofExcept _ _).bind
    · rintro e r ⟨-, rfl⟩
      exact hf.2.2
    · rintro g r ⟨-, rfl⟩
      exact ⟨hf.1, (Frame.get?_set_of_ne f hsubscription _).trans hf.2.1, hf.2.2⟩
  · exact hf

theorem outcome_nack (p : Protocol) (t : Given) (requeue : Option Bool) (q : Frame × IdSupply) :
    Outcome (Answers Verb.nack t q.2) (fun _ r => q.2.issued ≤ r.2.issued)
      (p.nack t requeue q) := by
  have hrequeue : Name.requeue ≠ Name.transaction := by decide
  unfold nack
  split
  · exact Command.outcome_nack p.version t q
  · split
    · apply Outcome.bind (Command.outcome_nack p.version t q) (fun _ _ h => h)
      intro f r hf
      obtain ⟨hcommand, htransaction, hids⟩ := hf
      exact ⟨hcommand, (Frame.get?_set_of_ne f hrequeue _).trans htransaction, hids⟩
    · exact Nat.le_refl _

end Protocol

end Stomp
