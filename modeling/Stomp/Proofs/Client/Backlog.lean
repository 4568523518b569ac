import Stomp.Proofs.Client.Quiet

/-!
# The backlog of a client

What reads give before the channel is read again: the queued frames, and after them what the parser
makes of the bytes that it holds. A read takes the first of the backlog while there is one
(`gave_readFrame`), and what reads nothing leaves it alone (`Quiet.backlog_eq`).
-/

namespace Stomp.Client

open Stomp.Action

variable {κ R : Type}

/-- What a read gives for a result of the parser; an ERROR frame is raised. -/
def reading : Except Malformed Frame → Except (Error R) (Option Frame)
  | .ok f => if f.isError then .error (.broker f) else .ok (some f)
  | .error fault => .error (.malformed fault)

def backlog (c : Client κ R) : List (Except (Error R) (Option Frame)) :=
  c.queue.map (fun f => .ok (some f)) ++ c.transport.parser.drained.1.map reading

theorem reading_of_reports {e : Error R} {result : Except Malformed Frame}
    (h : e.Reports result) : reading result = .error e := by
  cases h with
  | malformed fault => rfl
  | broker herror => exact if_pos herror

theorem reading_of_frame {f : Frame} (h : f.isError = false) :
    reading (.ok f) = (.ok (some f) : Except (Error R) (Option Frame)) :=
  if_neg (by simp [h])

theorem none_not_mem_backlog (c : Client κ R) : .ok none ∉ c.backlog := by
  intro h
  rcases List.mem_append.1 h with h | h
  · obtain ⟨f, -, hf⟩ := List.mem_map.1 h
    cases hf
  · obtain ⟨result, -, hresult⟩ := List.mem_map.1 h
    cases result with
    | error fault => cases hresult
    | ok f =>
        cases hf : f.isError with
        | false =>
            rw [reading_of_frame hf] at hresult
            cases hresult
        | true =>
            rw [reading_of_reports (.broker hf)] at hresult
            cases hresult

theorem settled_of_isBufferEmpty {c : Client κ R} (h : c.isBufferEmpty = true) :
    c.queue = [] ∧ c.transport.parser.Settled := by
  simp only [isBufferEmpty, Transport.isBufferEmpty, Parser.isEmpty, Bool.and_eq_true,
    List.isEmpty_iff, Option.isNone_iff_eq_none] at h
  obtain ⟨hqueue, hbuffer, hhead⟩ := h
  have hnext : c.transport.parser.next = ({}, c.transport.parser) := by
    rw [Parser.next, if_pos (by simp [hbuffer])]
  refine ⟨hqueue, ?_, ?_⟩ <;> rw [hnext]

/-- A read took the first of the backlog; or there was none, and then nothing is left if it found
nothing. -/
structure Gave (c : Client κ R) (result : Except (Error R) (Option Frame)) (d : Client κ R) :
    Prop where
  observers : d.transport.observers = c.transport.observers
  config : d.config = c.config
  backlog : c.backlog = result :: d.backlog ∨
    c.backlog = [] ∧ (result = .ok none → d.queue = [] ∧ d.transport.parser.Settled)

theorem Gave.settled {c d : Client κ R} (h : c.Gave (.ok none) d) :
    d.queue = [] ∧ d.transport.parser.Settled := by
  rcases h.backlog with hbacklog | ⟨-, hsettled⟩
  · exact absurd (hbacklog ▸ List.mem_cons_self) (none_not_mem_backlog c)
  · exact hsettled rfl

variable [Channel κ R]

theorem Quiet.backlog_eq {c d : Client κ R} (h : c.Quiet d) : d.backlog = c.backlog := by
  rw [Client.backlog, Client.backlog, h.queue, h.transport.parser]

theorem Gave.quiet {c d e : Client κ R} {result : Except (Error R) (Option Frame)}
    (hcd : c.Gave result d) (hde : d.Quiet e) : c.Gave result e where
  observers := hde.transport.observers.trans hcd.observers
  config := hde.config.trans hcd.config
  backlog := by
    rw [hde.backlog_eq, hde.queue, hde.transport.parser]
    exact hcd.backlog

variable [Scale R]

theorem gave_readFrame {c : Client κ R} (hc : c.transport.Unwatched) :
    Outcome (fun f? d => c.Gave (.ok f?) d) (fun e d => c.Gave (.error e) d)
      ((readFrame : ClientAction κ R (Option Frame)) c) := by
  unfold readFrame
  rw [get_bind]
  cases hqueue : c.queue with
  | cons f rest =>
      refine ⟨rfl, rfl, Or.inl ?_⟩
      rw [Client.backlog, hqueue]
      rfl
  | nil =>
      cases hresult : c.transport.parser.next.1.result? with
      | some result =>
          have hbacklog : c.backlog =
              reading result :: c.transport.parser.next.2.drained.1.map reading := by
            rw [Client.backlog, hqueue, Parser.drained_of_some hresult]
            rfl
          have hleft : ∀ t : Transport κ R, c.transport.Took result t →
              backlog { c with transport := t } =
                c.transport.parser.next.2.drained.1.map reading := by
            intro t ht
            rw [Client.backlog, ht.parser, hqueue]
            rfl
          refine Outcome.on ((Transport.outcome_readFrame_of_some hc hresult).mono ?_ ?_)
          · rintro f? t ⟨f, rfl, rfl, herror, htook⟩
            refine ⟨htook.observers, rfl, Or.inl ?_⟩
            rw [hbacklog, hleft t htook, reading_of_frame herror]
          · rintro e t ⟨hreports, htook⟩
            refine ⟨htook.observers, rfl, Or.inl ?_⟩
            rw [hbacklog, hleft t htook, reading_of_reports hreports]
      | none =>
          have hbacklog : c.backlog = [] := by
            rw [Client.backlog, hqueue, Parser.drained_of_none hresult]
            rfl
          refine Outcome.on ((Transport.outcome_readFrame hc).mono ?_ ?_)
          · intro f? t hdelivers
            refine ⟨hdelivers.advance.observers, rfl, Or.inr ⟨hbacklog, ?_⟩⟩
            intro hnone
            cases hnone
            exact ⟨hqueue, hdelivers.settled rfl⟩
          · intro e t hfails
            have hobservers : t.observers = c.transport.observers := by
              cases hfails with
              | reported _ hadvance => exact hadvance.observers
              | channel _ hadvance => exact hadvance.observers
            exact ⟨hobservers, rfl, Or.inr ⟨hbacklog, fun h => nomatch h⟩⟩

end Stomp.Client
