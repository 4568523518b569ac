import Stomp.Proofs.Parser.Feeding

/-!
# Streams in chunks

A parser that is drained after every chunk of a stream gives the same results and ends in the same
state as one that gets the stream in one piece (`receiveAll_eq_receive`), whatever the bytes are and
wherever they are cut.
-/

namespace Stomp.Parser

/-- The results of a parser until it gives none, and the parser after that. -/
def drained (p : Parser) : List (Except Malformed Frame) × Parser :=
  (p.drain.1.filterMap Attempt.result?, p.drain.2)

/-- What a parser gives when data arrives. -/
def receive (p : Parser) (data : Bytes) : List (Except Malformed Frame) × Parser :=
  (p.feed data).drained

/-- What a parser gives when data arrives in chunks and it is drained after each of them. -/
def receiveAll (p : Parser) : List Bytes → List (Except Malformed Frame) × Parser
  | [] => ([], p)
  | chunk :: chunks =>
    let (results, q) := p.receive chunk
    let (others, q) := q.receiveAll chunks
    (results ++ others, q)

/-- The parser gives nothing, and an attempt changes nothing. -/
def Settled (p : Parser) : Prop := p.next.1.result? = none ∧ p.next.2 = p

/-! ## Draining -/

theorem drainWithin_eq {m n : Nat} {p : Parser} (hm : p.buffer.length < m)
    (hn : p.buffer.length < n) : drainWithin m p = drainWithin n p := by
  induction m generalizing n p with
  | zero => omega
  | succ m ih =>
      obtain ⟨n, rfl⟩ : ∃ k, n = k + 1 := ⟨n - 1, by omega⟩
      simp only [drainWithin]
      cases h : p.next.1.result? with
      | none => rfl
      | some r =>
          have hlt := (next_of_some h).2
          have hrest : drainWithin m p.next.2 = drainWithin n p.next.2 :=
            ih (by omega) (by omega)
          simp only [hrest]

theorem drained_of_none {p : Parser} (h : p.next.1.result? = none) :
    p.drained = ([], p.next.2) := by
  simp [drained, drain, drainWithin, h]

theorem drained_of_some {p : Parser} {r : Except Malformed Frame}
    (h : p.next.1.result? = some r) :
    p.drained = (r :: p.next.2.drained.1, p.next.2.drained.2) := by
  have hlt := (next_of_some h).2
  have hrest : drainWithin p.buffer.length p.next.2 = p.next.2.drain :=
    drainWithin_eq hlt (by omega)
  simp [drained, drain, drainWithin, h, hrest]

theorem drained_eq_of_next {p q : Parser} (hresult : p.next.1.result? = q.next.1.result?)
    (hnext : p.next.2 = q.next.2) : p.drained = q.drained := by
  cases h : q.next.1.result? with
  | none => rw [drained_of_none h, drained_of_none (hresult.trans h), hnext]
  | some r => rw [drained_of_some h, drained_of_some (hresult.trans h), hnext]

theorem ready_ready (p : Parser) : p.ready.ready = p.ready := by
  simpa using p.ready_ready_feed []

theorem settled_of_none {p : Parser} (h : p.next.1.result? = none) : p.next.2.Settled := by
  have htake : p.ready.takeFrame = (none, p.ready) := takeFrame_of_none (by rw [← result?_next, h])
  rw [next_of_none h]
  constructor
  · rw [result?_next, ready_ready, htake]
  · rw [snd_next, ready_ready, htake]

/-- To show something of every parser, follow its attempts up to the one that gives nothing. -/
theorem next_induction {motive : Parser → Prop}
    (idle : ∀ p, p.next.1.result? = none → motive p)
    (giving : ∀ p result, p.next.1.result? = some result → motive p.next.2 → motive p)
    (p : Parser) : motive p := by
  induction hn : p.buffer.length using Nat.strong_induction_on generalizing p with
  | _ n ih =>
      cases h : p.next.1.result? with
      | none => exact idle p h
      | some result => exact giving p result h (ih _ (hn ▸ (next_of_some h).2) _ rfl)

theorem settled_drained (p : Parser) : p.drained.2.Settled := by
  induction p using next_induction with
  | idle p h =>
      rw [drained_of_none h]
      exact settled_of_none h
  | giving p result h ih =>
      rw [drained_of_some h]
      exact ih

theorem drained_of_settled {p : Parser} (h : p.Settled) : p.drained = ([], p) := by
  rw [drained_of_none h.1, h.2]

theorem legacy_next (p : Parser) : p.next.2.legacy = p.legacy := by
  cases h : p.next.1.result? with
  | none => rw [next_of_none h, legacy_ready]
  | some result => rw [(next_of_some h).1]

theorem legacy_drained (p : Parser) : p.drained.2.legacy = p.legacy := by
  induction p using next_induction with
  | idle p h => rw [drained_of_none h, legacy_next]
  | giving p result h ih => rw [drained_of_some h, ih, legacy_next]

/-! ## Chunks -/

/-- To drain a parser before more data arrives brings its results forward and changes nothing
else. -/
theorem drained_feed (p : Parser) (data : Bytes) :
    (p.feed data).drained = (p.drained.1 ++ (p.drained.2.feed data).drained.1,
      (p.drained.2.feed data).drained.2) := by
  induction p using next_induction with
  | idle p h =>
      obtain ⟨hresult, hnext⟩ := next_feed_of_none h data
      rw [drained_of_none h, drained_eq_of_next hresult hnext, List.nil_append]
  | giving p result h ih =>
      obtain ⟨hresult, hnext⟩ := next_feed_of_some h data
      rw [drained_of_some h, drained_of_some hresult, hnext, ih, List.cons_append]

theorem receive_append (p : Parser) (data more : Bytes) :
    p.receive (data ++ more) =
      ((p.receive data).1 ++ ((p.receive data).2.receive more).1,
        ((p.receive data).2.receive more).2) := by
  rw [receive, ← feed_feed, drained_feed]
  rfl

theorem receiveAll_cons (p : Parser) (chunk : Bytes) (chunks : List Bytes) :
    p.receiveAll (chunk :: chunks) =
      ((p.receive chunk).1 ++ ((p.receive chunk).2.receiveAll chunks).1,
        ((p.receive chunk).2.receiveAll chunks).2) := rfl

theorem receiveAll_of_settled {p : Parser} (hp : p.Settled) (chunks : List Bytes) :
    p.receiveAll chunks = p.receive chunks.flatten := by
  induction chunks generalizing p with
  | nil => rw [receiveAll, List.flatten_nil, receive, feed_nil, drained_of_settled hp]
  | cons chunk chunks ih =>
      have hsettled : (p.receive chunk).2.Settled := settled_drained _
      rw [receiveAll_cons, List.flatten_cons, receive_append, ih hsettled]

theorem settled_new (legacy : Bool) : ({ legacy } : Parser).Settled := ⟨rfl, rfl⟩

theorem receive_of_next {bytes : Bytes} {result : Except Malformed Frame}
    (hresult : ({ buffer := bytes } : Parser).next.1.result? = some result)
    (hleft : ({ buffer := bytes } : Parser).next.2 = {}) :
    ({} : Parser).receive bytes = ([result], {}) := by
  have hdrained := drained_of_some hresult
  rw [hleft, drained_of_settled (settled_new false)] at hdrained
  exact hdrained

/-- However a stream is cut into chunks, a new parser that is drained after each of them gives the
results and ends in the state that it would for the whole stream, and then has nothing more to
give. -/
theorem receiveAll_eq_receive (legacy : Bool) (chunks : List Bytes) :
    ({ legacy } : Parser).receiveAll chunks = ({ legacy } : Parser).receive chunks.flatten ∧
      (({ legacy } : Parser).receiveAll chunks).2.Settled := by
  have hall := receiveAll_of_settled (settled_new legacy) chunks
  refine ⟨hall, ?_⟩
  rw [hall]
  exact settled_drained _

end Stomp.Parser
