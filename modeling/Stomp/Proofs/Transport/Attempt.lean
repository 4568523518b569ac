import Stomp.Proofs.Action.Outcome
import Stomp.Proofs.Parser.Telling
import Stomp.Transport

/-!
# One attempt at the next frame

An attempt of a transport is one of its parser, of which the observers are told. What they make of
it is left open here. Whatever they keep while they are told, and while the parser goes on, holds
after the attempt with the events that the parser tells (`Follows.nextFrame`).
-/

namespace Stomp.Transport

open Stomp.Action

variable {κ R : Type} [Scale R] [Channel κ R]

/-- What is known of a transport during an attempt, by the parser that it has got and the events
that the observers were told of, is kept at each step of the attempt. -/
structure Follows (P : Parser → List Event → Transport κ R → Prop) : Prop where
  parser {p : Parser} {events : List Event} {u : Transport κ R} : P p events u → u.parser = p
  setParser {p : Parser} {events : List Event} {u : Transport κ R} (q : Parser) :
    P p events u → P q events { u with parser := q }
  ignored {p : Parser} {events : List Event} {u : Transport κ R} (value? : Option Bytes) :
    P p events u → P p events { u with link := u.link.notify (.ignoredLength value?) }
  lineEnds {p : Parser} {events : List Event} {u : Transport κ R} : P p events u →
    Outcome (fun _ v => P p (events ++ [.emptyLine]) v) (fun _ _ => False)
      ((notify .emptyLine : EStateM (Error R) (Transport κ R) Unit) u)
  frame {p : Parser} {events : List Event} {u : Transport κ R} (f : Frame) : P p events u →
    Outcome (fun _ v => P p (events ++ [.received f]) v) (fun _ _ => False)
      ((notify (.received f) : EStateM (Error R) (Transport κ R) Unit) u)

namespace Follows

variable {P : Parser → List Event → Transport κ R → Prop} {t u : Transport κ R} {p : Parser}
  {events : List Event}

theorem takeHead (h : Follows P) (hu : P p events u) (q : Parser) :
    Outcome (fun _ v => P q events v) (fun _ _ => False)
      ((do
        Transport.setParser q
        match q.head?.bind Head.ignored? with
        | some value? => Transport.logNotice (.ignoredLength value?)
        | none => return () : EStateM (Error R) (Transport κ R) Unit) u) := by
  have hset : Outcome (fun _ v => P q events v) (fun _ _ => False)
      ((Transport.setParser q : EStateM (Error R) (Transport κ R) Unit) u) := h.setParser q hu
  apply hset.bind (fun _ _ h => h)
  intro _ v hv
  cases q.head?.bind Head.ignored? with
  | some value? => exact h.ignored value? hv
  | none => exact hv

theorem prepare (h : Follows P) (ht : P t.parser [] t) :
    Outcome (fun _ u => P t.parser.ready (Parser.lineEvents t.parser.prepare.1) u)
      (fun _ _ => False) ((prepare : EStateM (Error R) (Transport κ R) Unit) t) := by
  unfold Transport.prepare
  rw [get_bind]
  cases hhead : t.parser.head? with
  | some head =>
      have hskipped : t.parser.prepare.1 = false := by rw [Parser.prepare, hhead]
      simp only [Option.isNone_some, Bool.false_eq_true, if_false]
      rw [Parser.ready_of_head hhead, hskipped]
      exact ht
  | none =>
      have hskipped : t.parser.prepare.1 = t.parser.skip.1 := by rw [Parser.prepare, hhead]
      have hready : t.parser.ready = t.parser.skip.2.takeHead := by
        rw [Parser.ready_of_no_head hhead]
        rfl
      have hset : Outcome (fun _ u => P t.parser.skip.2 [] u) (fun _ _ => False)
          ((Transport.setParser t.parser.skip.2 : EStateM (Error R) (Transport κ R) Unit) t) :=
        h.setParser _ ht
      simp only [Option.isNone_none, if_true]
      rw [hready, hskipped]
      apply hset.bind (fun _ _ h => h)
      intro _ u hu
      split
      · rename_i hskip
        rw [Parser.lineEvents, if_pos hskip]
        apply (h.lineEnds hu).bind (fun _ _ h => h)
        exact fun _ v hv => h.takeHead hv _
      · rename_i hskip
        rw [Parser.lineEvents, if_neg hskip]
        exact h.takeHead hu _

/-- An attempt of the transport is one of its parser, and what that tells is told. -/
theorem nextFrame (h : Follows P) (ht : P t.parser [] t) :
    Outcome
      (fun f? u => t.parser.next.1.result? = f?.map .ok ∧
        P t.parser.next.2 t.parser.next.1.told u)
      (fun e u => ∃ fault, e = .malformed fault ∧
        t.parser.next.1.result? = some (.error fault) ∧
        P t.parser.next.2 t.parser.next.1.told u)
      ((nextFrame : EStateM (Error R) (Transport κ R) (Option Frame)) t) := by
  unfold Transport.nextFrame
  rw [get_bind]
  split
  · rename_i hempty
    have hnext : t.parser.next = ({}, t.parser) := by rw [Parser.next, if_pos hempty]
    rw [hnext]
    exact ⟨rfl, ht⟩
  · rename_i hbuffer
    have hskipped : t.parser.next.1.skipped = t.parser.prepare.1 := by
      rw [Parser.next, if_neg hbuffer]
    have hresult := t.parser.result?_next
    have hleft := t.parser.snd_next
    rw [Parser.Attempt.told, hskipped]
    apply (h.prepare ht).bind (fun _ _ h => h.elim)
    intro _ u hu
    rw [get_bind, h.parser hu]
    cases htake : t.parser.ready.takeFrame with
    | mk result? p =>
        rw [htake] at hresult hleft
        rw [hresult, hleft]
        have hset : Outcome (fun _ v => P p (Parser.lineEvents t.parser.prepare.1) v)
            (fun _ _ => False)
            ((Transport.setParser p : EStateM (Error R) (Transport κ R) Unit) u) :=
          h.setParser p hu
        apply hset.bind (fun _ _ h => h.elim)
        intro _ v hv
        cases result? with
        | none => exact ⟨rfl, (List.append_nil _).symm ▸ hv⟩
        | some result =>
            cases result with
            | error fault => exact ⟨fault, rfl, rfl, (List.append_nil _).symm ▸ hv⟩
            | ok f =>
                apply (h.frame f hv).bind (fun _ _ h => h.elim)
                exact fun _ w hw => ⟨rfl, hw⟩

end Follows

end Stomp.Transport
