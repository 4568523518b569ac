import Stomp.Event
import Stomp.Proofs.Parser.Isolation
import Stomp.Proofs.Parser.RoundTrip

/-!
# What a parser tells

A parser tells of the frames that it gives, and of runs of line ends that it skips before them. To
drain it before more data arrives may cut a run in two, and tells of nothing else, whatever the
bytes are (`merged_told_feed`). So chunks do not matter but for that (`merged_toldAll`). Of a stream
in one piece it tells what stands in it, each run and each frame in its place (`told_stream`).
-/

namespace Stomp

namespace Event

/-- An event before others: line ends that more line ends follow are one run with them. -/
def join : Event → List Event → List Event
  | .emptyLine, .emptyLine :: rest => .emptyLine :: rest
  | e, rest => e :: rest

/-- The events, where runs of line ends that follow one another are one. -/
def merged (events : List Event) : List Event := events.foldr join []

theorem merged_cons (e : Event) (events : List Event) :
    merged (e :: events) = e.join (merged events) := rfl

theorem merged_append {events others : List Event} (h : merged events = merged others)
    (before : List Event) : merged (before ++ events) = merged (before ++ others) := by
  simp only [merged] at h
  rw [merged, merged, List.foldr_append, List.foldr_append, h]

theorem merged_emptyLine (events : List Event) :
    merged (.emptyLine :: .emptyLine :: events) = merged (.emptyLine :: events) := by
  rw [merged_cons, merged_cons]
  cases merged events with
  | nil => rfl
  | cons e rest => cases e <;> rfl

end Event

namespace Parser

open Stomp.Event (merged merged_cons merged_append merged_emptyLine)

def lineEvents (skipped : Bool) : List Event := if skipped then [.emptyLine] else []

def frameEvents : Option (Except Malformed Frame) → List Event
  | some (.ok f) => [.received f]
  | _ => []

/-- What one attempt at the next frame tells. -/
def Attempt.told (a : Attempt) : List Event := lineEvents a.skipped ++ frameEvents a.result?

/-- What a parser tells until it gives nothing. -/
def told (p : Parser) : List Event := p.drain.1.flatMap Attempt.told

/-- What a parser tells when data arrives in chunks and it is drained after each of them. -/
def toldAll (p : Parser) : List Bytes → List Event
  | [] => []
  | chunk :: chunks => (p.feed chunk).told ++ (p.receive chunk).2.toldAll chunks

/-! ## Draining -/

theorem told_of_none {p : Parser} (h : p.next.1.result? = none) : p.told = p.next.1.told := by
  simp [told, drain, drainWithin, h]

theorem told_of_some {p : Parser} {r : Except Malformed Frame} (h : p.next.1.result? = some r) :
    p.told = p.next.1.told ++ p.next.2.told := by
  have hlt := (next_of_some h).2
  have hrest : drainWithin p.buffer.length p.next.2 = p.next.2.drain :=
    drainWithin_eq hlt (by omega)
  simp [told, drain, drainWithin, h, hrest]

theorem skipped_next (p : Parser) :
    p.next.1.skipped = (p.head?.isNone && p.buffer.head?.any (isSkipped p.legacy)) := by
  cases hbuffer : p.buffer with
  | nil => simp [next, hbuffer]
  | cons b bs =>
      have hnext : p.next.1.skipped = p.prepare.1 := by
        rw [next, if_neg (by simp [hbuffer])]
      rw [hnext, prepare]
      cases hhead : p.head? with
      | some head => rfl
      | none =>
          have hle := List.length_dropWhile_le (isSkipped p.legacy) bs
          by_cases hb : isSkipped p.legacy b = true
          · simp [skip, hbuffer, hb]
            omega
          · simp [skip, hbuffer, hb]

theorem skipped_feed {p : Parser} (h : p.buffer ≠ []) (data : Bytes) :
    (p.feed data).next.1.skipped = p.next.1.skipped := by
  obtain ⟨b, bs, hbuffer⟩ := List.exists_cons_of_ne_nil h
  rw [skipped_next, skipped_next, feed_head?, feed_buffer, feed_legacy, hbuffer]
  rfl

theorem ne_nil_of_some {p : Parser} {r : Except Malformed Frame}
    (h : p.next.1.result? = some r) : p.buffer ≠ [] := by
  intro hbuffer
  have hlt := (next_of_some h).2
  rw [hbuffer] at hlt
  exact absurd hlt (Nat.not_lt_zero _)

theorem told_next_feed_of_some {p : Parser} {r : Except Malformed Frame}
    (h : p.next.1.result? = some r) (data : Bytes) :
    (p.feed data).next.1.told = p.next.1.told := by
  rw [Attempt.told, Attempt.told, skipped_feed (ne_nil_of_some h), h, (next_feed_of_some h data).1]

theorem skipped_ready_feed {p : Parser} (hbuffer : p.buffer ≠ [])
    (h : p.next.1.skipped = false) (data : Bytes) :
    (p.ready.feed data).next.1.skipped = false := by
  cases hready : p.ready.head? with
  | some head => rw [skipped_next, feed_head?, hready]; rfl
  | none =>
      obtain ⟨hhead, hskipped⟩ := ready_of_ready_head?_none hready
      obtain ⟨b, bs, hcons⟩ := List.exists_cons_of_ne_nil hbuffer
      have hself : p.ready = p := by
        rw [skipped_next, hhead, hcons] at h
        rw [hskipped, hcons, List.dropWhile_cons_of_neg (by simpa using h), ← hcons]
      rw [hself, skipped_feed hbuffer, h]

/-- What is told after an attempt without a result, and would be told without the attempt, differs
in the first run alone. -/
theorem exists_told_feed {p : Parser} (h : p.next.1.result? = none) (data : Bytes) :
    ∃ rest, (p.feed data).told = lineEvents (p.feed data).next.1.skipped ++ rest ∧
      (p.next.2.feed data).told = lineEvents (p.next.2.feed data).next.1.skipped ++ rest := by
  obtain ⟨hresult, hnext⟩ := next_feed_of_none h data
  cases hfed : (p.feed data).next.1.result? with
  | none =>
      refine ⟨[], ?_, ?_⟩
      · rw [told_of_none hfed, Attempt.told, hfed]
        rfl
      · rw [told_of_none (hresult.trans hfed), Attempt.told, hresult, hfed]
        rfl
  | some r =>
      refine ⟨frameEvents (some r) ++ (p.feed data).next.2.told, ?_, ?_⟩
      · rw [told_of_some hfed, Attempt.told, hfed, List.append_assoc]
      · rw [told_of_some (hresult.trans hfed), Attempt.told, hresult, hfed, hnext,
          List.append_assoc]

theorem merged_told_next {p : Parser} (h : p.next.1.result? = none) (data : Bytes) :
    merged (p.next.1.told ++ (p.next.2.feed data).told) = merged (p.feed data).told := by
  have htold : p.next.1.told = lineEvents p.next.1.skipped := by
    rw [Attempt.told, h]
    exact List.append_nil _
  by_cases hbuffer : p.buffer = []
  · have hnext : p.next = ({}, p) := by rw [next, hbuffer]; rfl
    rw [hnext]
    rfl
  · obtain ⟨rest, hfed, hlater⟩ := exists_told_feed h data
    rw [htold, hfed, hlater, skipped_feed hbuffer]
    cases hskipped : p.next.1.skipped with
    | false => rw [next_of_none h, skipped_ready_feed hbuffer hskipped]; rfl
    | true =>
        cases (p.next.2.feed data).next.1.skipped with
        | false => rfl
        | true => exact merged_emptyLine rest

/-- To drain a parser before more data arrives may cut a run of line ends in two. -/
theorem merged_told_feed (p : Parser) (data : Bytes) :
    merged (p.told ++ (p.drained.2.feed data).told) = merged (p.feed data).told := by
  induction p using next_induction with
  | idle p h =>
      rw [told_of_none h, drained_of_none h]
      exact merged_told_next h data
  | giving p result h ih =>
      obtain ⟨hresult, hnext⟩ := next_feed_of_some h data
      rw [told_of_some h, drained_of_some h, told_of_some hresult, hnext,
        told_next_feed_of_some h, List.append_assoc]
      exact merged_append ih _

/-! ## Chunks -/

theorem told_of_settled {p : Parser} (h : p.Settled) : p.told = [] := by
  have hready : p.ready = p := (next_of_none h.1).symm.trans h.2
  have hnext := next_ready_of_none h.1
  rw [hready] at hnext
  rw [told_of_none h.1, hnext]
  rfl

theorem merged_toldAll {p : Parser} (hp : p.Settled) (chunks : List Bytes) :
    merged (p.toldAll chunks) = merged (p.feed chunks.flatten).told := by
  induction chunks generalizing p with
  | nil => rw [toldAll, List.flatten_nil, feed_nil, told_of_settled hp]
  | cons chunk chunks ih =>
      have hsettled : (p.receive chunk).2.Settled := settled_drained _
      have hrest := merged_told_feed (p.feed chunk) chunks.flatten
      rw [feed_feed] at hrest
      rw [toldAll, List.flatten_cons, ← hrest]
      exact merged_append (ih hsettled) _

/-! ## Streams -/

/-- What there is to tell of a stream: each run that is not empty, and each frame. -/
def streamEvents : Bytes → List (Frame × Bytes) → List Event
  | run, [] => lineEvents !run.isEmpty
  | run, (f, after) :: items => lineEvents (!run.isEmpty) ++ .received f :: streamEvents after items

theorem merged_streamEvents (run : Bytes) (items : List (Frame × Bytes)) :
    merged (streamEvents run items) = streamEvents run items := by
  induction items generalizing run with
  | nil => cases run <;> rfl
  | cons item items ih =>
      have hreceived : merged (.received item.1 :: streamEvents item.2 items) =
          .received item.1 :: streamEvents item.2 items := by
        rw [merged_cons, ih]
        rfl
      cases run with
      | nil => exact hreceived
      | cons b bs =>
          rw [streamEvents, List.isEmpty_cons, Bool.not_false, lineEvents, if_pos rfl,
            List.singleton_append, merged_cons, hreceived]
          rfl

variable {run : Bytes} {items : List (Frame × Bytes)}

theorem skipped_next_of_run (hrun : Idle run) (rest : Bytes)
    (hrest : rest.head?.any (isSkipped false) = false) :
    ({ buffer := run ++ rest } : Parser).next.1.skipped = !run.isEmpty := by
  rw [skipped_next]
  cases run with
  | nil => exact hrest
  | cons b bs => exact isSkipped_of_idle hrun b List.mem_cons_self

theorem told_stream (hframes : ∀ i ∈ items, i.1.Writable) (hrun : Idle run)
    (hruns : ∀ i ∈ items, Idle i.2) :
    ∃ received : List Frame, List.Forall₂ Frame.ReadsAs (items.map Prod.fst) received ∧
      ({ buffer := stream run items } : Parser).told =
        streamEvents run (received.zip (items.map Prod.snd)) := by
  induction items generalizing run with
  | nil =>
      obtain ⟨hnone, -⟩ := next_skipped (isSkipped_of_idle hrun)
      have hskipped := skipped_next_of_run hrun [] rfl
      rw [List.append_nil] at hskipped
      refine ⟨[], .nil, ?_⟩
      rw [stream, List.flatMap_nil, List.append_nil, told_of_none hnone, Attempt.told, hskipped,
        hnone]
      exact List.append_nil _
  | cons item items ih =>
      obtain ⟨f, after⟩ := item
      obtain ⟨hf, hframes⟩ := List.forall_mem_cons.1 hframes
      obtain ⟨hafter, hruns⟩ := List.forall_mem_cons.1 hruns
      obtain ⟨received, hreads, htold⟩ := ih hframes hafter hruns
      obtain ⟨hresult, hleft⟩ := next_wire hf (isSkipped_of_idle hrun) (stream after items)
      refine ⟨_ :: received, .cons (readsAs_wireHeaders hf) hreads, ?_⟩
      obtain ⟨b, bytes, hwire, hb⟩ := exists_wire hf.legible.headed
      rw [hf.current] at hb
      have hskipped := skipped_next_of_run hrun (f.wire ++ stream after items)
        (by rw [hwire]; exact hb)
      rw [stream_cons, told_of_some hresult, Attempt.told, hskipped, hresult, hleft, htold]
      simp [streamEvents, frameEvents]

end Parser

end Stomp
