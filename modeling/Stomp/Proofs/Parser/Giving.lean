import Stomp.Proofs.Parser.Chunks

/-!
# What a parser gives over time

A parser that is asked for frames now and then, while data arrives, gives its results one by one.
However the asking and the arriving take turns, the results come in the order in which they stand
in the data, and none is passed over (`Gives.trans`).
-/

namespace Stomp.Parser

/-- While the data arrived, `p` gave the results and became `q`, which may have more to give. -/
def Gives (p : Parser) (data : Bytes) (results : List (Except Malformed Frame)) (q : Parser) :
    Prop :=
  p.receive data = (results ++ q.drained.1, q.drained.2)

theorem receive_nil (p : Parser) : p.receive [] = p.drained := by
  rw [receive, feed_nil]

theorem receive_eq (p : Parser) (data : Bytes) :
    p.receive data =
      (p.drained.1 ++ (p.drained.2.receive data).1, (p.drained.2.receive data).2) :=
  p.drained_feed data

namespace Gives

variable {p q r : Parser} {data more : Bytes} {results others : List (Except Malformed Frame)}

theorem refl (p : Parser) : p.Gives [] [] p := p.receive_nil

theorem next_of_some {result : Except Malformed Frame} (h : p.next.1.result? = some result) :
    p.Gives [] [result] p.next.2 := by
  rw [Gives, receive_nil, drained_of_some h]
  rfl

theorem trans (hpq : p.Gives data results q) (hqr : q.Gives more others r) :
    p.Gives (data ++ more) (results ++ others) r := by
  have hq := q.receive_eq more
  rw [hqr] at hq
  obtain ⟨hresults, hleft⟩ := Prod.mk.inj hq
  rw [Gives, receive_append, hpq, List.append_assoc, List.append_assoc, ← hresults, ← hleft]

theorem first {result : Except Malformed Frame} (h : p.Gives data (result :: results) q) :
    (p.feed data).next.1.result? = some result := by
  cases hnext : (p.feed data).next.1.result? with
  | none => cases h.symm.trans (drained_of_none hnext)
  | some other =>
      have hresults := congrArg Prod.fst (h.symm.trans (drained_of_some hnext))
      rw [(List.cons.inj hresults).1]

theorem legacy (h : p.Gives data results q) : q.legacy = p.legacy := by
  calc q.legacy
    _ = q.drained.2.legacy := q.legacy_drained.symm
    _ = (p.receive data).2.legacy := congrArg (·.2.legacy) h.symm
    _ = p.legacy := (p.feed data).legacy_drained

end Gives

end Stomp.Parser
