import Stomp.Proofs.Parser.Chunks
import Stomp.Proofs.Parser.Delivery

/-!
# Streams of frames

A stream of frames with line ends and stray NULs around them, as heart-beats leave them, is read
back frame by frame, however it is cut into chunks (`receiveAll_stream`).
-/

namespace Stomp.Parser

/-- Line ends and NULs, which may stand around frames. -/
def Idle (run : Bytes) : Prop := ∀ b ∈ run, b = 13 ∨ b = 10 ∨ b = 0

/-- The bytes of frames on the wire: a first run, and another one after each frame. -/
def stream (run : Bytes) (items : List (Frame × Bytes)) : Bytes :=
  run ++ items.flatMap fun i => i.1.wire ++ i.2

theorem isSkipped_of_idle {run : Bytes} (h : Idle run) : ∀ b ∈ run, isSkipped false b = true := by
  intro b hb
  rcases h b hb with rfl | rfl | rfl <;> rfl

theorem stream_cons (run : Bytes) (f : Frame) (after : Bytes) (items : List (Frame × Bytes)) :
    stream run ((f, after) :: items) = run ++ (f.wire ++ stream after items) := by
  simp [stream]

section Draining

variable {legacy : Bool} {run : Bytes}

theorem next_skipped (h : ∀ b ∈ run, isSkipped legacy b = true) :
    ({ legacy, buffer := run } : Parser).next.1.result? = none ∧
      ({ legacy, buffer := run } : Parser).next.2 = { legacy } := by
  have hskip : run.dropWhile (isSkipped legacy) = [] := List.dropWhile_eq_nil_iff.2 h
  have hready : ready { legacy, buffer := run } = { legacy } := by
    rw [ready_of_no_head rfl]
    simp only [takeHead, hskip]
    rfl
  rw [result?_next, snd_next, hready]
  exact ⟨rfl, rfl⟩

theorem drained_skipped (h : ∀ b ∈ run, isSkipped legacy b = true) :
    ({ legacy, buffer := run } : Parser).drained = ([], { legacy }) := by
  obtain ⟨hnone, hleft⟩ := next_skipped h
  rw [drained_of_none hnone, hleft]

/-- A stream in one piece gives what is read of each frame, and leaves a parser as new. -/
theorem drained_stream_of_next (read : Frame → Frame) {items : List (Frame × Bytes)}
    (hrun : ∀ b ∈ run, isSkipped legacy b = true)
    (hruns : ∀ i ∈ items, ∀ b ∈ i.2, isSkipped legacy b = true)
    (hnext : ∀ i ∈ items, ∀ run : Bytes, (∀ b ∈ run, isSkipped legacy b = true) → ∀ rest,
      let p : Parser := { legacy, buffer := run ++ (i.1.wire ++ rest) }
      p.next.1.result? = some (.ok (read i.1)) ∧ p.next.2 = { legacy, buffer := rest }) :
    ({ legacy, buffer := stream run items } : Parser).drained =
      (items.map fun i => .ok (read i.1), { legacy }) := by
  induction items generalizing run with
  | nil => rw [stream, List.flatMap_nil, List.append_nil, drained_skipped hrun, List.map_nil]
  | cons item items ih =>
      obtain ⟨hitem, hitems⟩ := List.forall_mem_cons.1 hnext
      obtain ⟨hafter, hafters⟩ := List.forall_mem_cons.1 hruns
      obtain ⟨hresult, hleft⟩ := hitem run hrun (stream item.2 items)
      rw [stream_cons, drained_of_some hresult, hleft, ih hafter hafters hitems, List.map_cons]

end Draining

theorem drained_stream {run : Bytes} (hrun : Idle run) {items : List (Frame × Bytes)}
    (hframes : ∀ i ∈ items, i.1.Writable) (hruns : ∀ i ∈ items, Idle i.2) :
    ∃ received : List Frame,
      ({ buffer := stream run items } : Parser).drained = (received.map .ok, {}) ∧
      List.Forall₂ Frame.ReadsAs (items.map Prod.fst) received := by
  let read (f : Frame) : Frame :=
    { command := f.command, headers := f.wireHeaders, body := f.body }
  have hdrained := drained_stream_of_next read (isSkipped_of_idle hrun)
    (fun i hi => isSkipped_of_idle (hruns i hi))
    (fun i hi _ hskipped rest => next_wire (hframes i hi) hskipped rest)
  refine ⟨items.map fun i => read i.1, ?_, ?_⟩
  · rw [hdrained, List.map_map]
    rfl
  · rw [List.forall₂_map_left_iff, List.forall₂_map_right_iff, List.forall₂_same]
    exact fun i hi => readsAs_wireHeaders (hframes i hi)

/-- Frames that are written one after the other, with any line ends and NULs around them, are read
back in order and without an error, whatever the chunks in which they arrive, and nothing is left
over. -/
theorem receiveAll_stream {run : Bytes} {items : List (Frame × Bytes)} {chunks : List Bytes}
    (hframes : ∀ i ∈ items, i.1.Writable) (hrun : Idle run) (hruns : ∀ i ∈ items, Idle i.2)
    (hchunks : chunks.flatten = stream run items) :
    ∃ received : List Frame,
      (({} : Parser).receiveAll chunks).1 = received.map .ok ∧
      List.Forall₂ Frame.ReadsAs (items.map Prod.fst) received ∧
      (({} : Parser).receiveAll chunks).2.isEmpty = true := by
  obtain ⟨received, hdrained, hreads⟩ := drained_stream hrun hframes hruns
  have hfeed : ({} : Parser).feed (stream run items) = { buffer := stream run items } := rfl
  have hall := receiveAll_of_settled (settled_new false) chunks
  rw [hchunks, receive, hfeed, hdrained] at hall
  rw [hall]
  exact ⟨received, rfl, hreads, rfl⟩

/-- A frame with a header that needs escapes, one without a value, and a NUL in its body. -/
def coded : Frame where
  command := "SEND"
  headers := { entries := [("destination", .text "/a:b\nü"), ("persistent", .bare)] }
  body := [104, 0, 105]

theorem writable_coded : coded.Writable := by
  constructor
  case length_lt =>
    have hten : coded.body.length < 10 ^ 1 := by decide
    exact hten.trans_le (Nat.pow_le_pow_right (by decide) (by decide))
  case command_line =>
    rw [← List.forall_iff_forall_mem]
    decide
  all_goals decide +kernel

theorem receiveAll_stream_coded :
    let items := [(coded, [13, 10]), (coded, [0])]
    let bytes := stream [10] items
    ∃ received : List Frame,
      (({} : Parser).receiveAll [bytes.take 30, [], bytes.drop 30]).1 = received.map .ok ∧
      List.Forall₂ Frame.ReadsAs (items.map Prod.fst) received ∧
      (({} : Parser).receiveAll [bytes.take 30, [], bytes.drop 30]).2.isEmpty = true := by
  intro items bytes
  have hframes : ∀ i ∈ items, i.1.Writable := by simp [items, writable_coded]
  have hrun : Idle [10] := by simp [Idle]
  have hruns : ∀ i ∈ items, Idle i.2 := by simp [items, Idle]
  exact receiveAll_stream hframes hrun hruns (by simp [bytes])

end Stomp.Parser
