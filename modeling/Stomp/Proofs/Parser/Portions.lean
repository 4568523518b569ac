import Stomp.Proofs.Parser.Received

/-!
# The portions of a stream

The bytes with which a parser was fed are the portions of its results, one after the other, then the
bytes with which the next portion begins, then the buffer (`Reached.partition`). A portion ends with
a terminator that belongs to no frame. It is a NUL where the body was searched for one; where the
length was announced it is whatever byte stood there, and only that byte decides
(`exists_partition`).
-/

namespace Stomp.Parser

variable {legacy : Bool}

/-! ## The bytes before a body -/

def stops : List Bytes := [[10, 10], [13, 10, 13, 10]]

/-- The bytes before a body: a run that is skipped, a header block, and the first stop. -/
structure Opening (legacy : Bool) (run block stop : Bytes) : Prop where
  skipped : ∀ b ∈ run, isSkipped legacy b = true
  begins : ∃ b rest, block = b :: rest ∧ isSkipped legacy b = false
  stop_mem : stop ∈ stops
  no_stop : ∀ s ∈ stops, ¬ s <:+: block

theorem ne_nil_of_mem_stops {stop : Bytes} (h : stop ∈ stops) : stop ≠ [] := by
  rintro rfl
  exact absurd h (by decide)

theorem exists_stop_of_splitHead? {bs block after : Bytes}
    (h : splitHead? bs = some (block, after)) :
    ∃ stop ∈ stops, bs = block ++ stop ++ after ∧ ∀ s ∈ stops, ¬ s <:+: block := by
  have hnil : ∀ s ∈ stops, ¬ s <:+: ([] : Bytes) := fun s hs hinfix =>
    ne_nil_of_mem_stops hs (List.infix_nil.1 hinfix)
  induction headSplit_of_some h with
  | cr_lf => exact ⟨[13, 10, 13, 10], by decide, rfl, hnil⟩
  | lf => exact ⟨[10, 10], by decide, rfl, hnil⟩
  | @cons b bs block after hcr hlf hrest ih =>
      obtain ⟨stop, hstop, rfl, hfree⟩ := ih hrest.eq_some
      refine ⟨stop, hstop, rfl, fun s hs hinfix => ?_⟩
      rcases List.infix_cons_iff.1 hinfix with ⟨t, ht⟩ | hinfix
      · have hfront : b :: (block ++ stop ++ after) = s ++ (t ++ stop ++ after) := by
          rw [← List.cons_append, ← List.cons_append, ← ht]
          simp only [List.append_assoc]
        rcases List.mem_pair.1 hs with rfl | rfl
        · exact hlf _ hfront
        · exact hcr _ hfront
      · exact hfree s hs hinfix

/-- What was used of a stream since the last result, and the head that was taken from it. -/
inductive Begun (legacy : Bool) : Bytes → Option Head → Prop
  | between {run : Bytes} (h : ∀ b ∈ run, isSkipped legacy b = true) : Begun legacy run none
  | within {run block stop : Bytes} (h : Opening legacy run block stop) :
      Begun legacy (run ++ block ++ stop) (some (Head.ofBlock block))

theorem Begun.append {run used : Bytes} {head? : Option Head} (h : Begun legacy run none)
    (hused : Begun legacy used head?) : Begun legacy (run ++ used) head? := by
  obtain ⟨hrun⟩ := h
  cases hused with
  | between hused => exact .between (List.forall_mem_append.2 ⟨hrun, hused⟩)
  | within hopening =>
      rw [← List.append_assoc, ← List.append_assoc]
      exact .within { hopening with skipped := List.forall_mem_append.2 ⟨hrun, hopening.skipped⟩ }

/-- To get ready a parser between frames uses a run that is skipped, and the block and the stop of a
head if they are there; a parser within a frame uses nothing. -/
inductive Prepares (p : Parser) : Parser → Prop
  | within {head : Head} (h : p.head? = some head) : p.Prepares p
  | between {used rest : Bytes} {head? : Option Head} (h : p.head? = none)
      (hused : Begun p.legacy used head?) (hbuffer : p.buffer = used ++ rest) :
      p.Prepares { legacy := p.legacy, buffer := rest, head? }

theorem prepares_ready (p : Parser) : p.Prepares p.ready := by
  cases hhead : p.head? with
  | some head =>
      rw [ready_of_head hhead]
      exact .within hhead
  | none =>
      have hsplit := List.takeWhile_append_dropWhile (p := isSkipped p.legacy) (l := p.buffer)
      have hrun : ∀ b ∈ p.buffer.takeWhile (isSkipped p.legacy), isSkipped p.legacy b = true :=
        fun b hb => List.mem_takeWhile_imp hb
      rw [ready_of_no_head hhead]
      cases hblock : splitHead? (p.buffer.dropWhile (isSkipped p.legacy)) with
      | none =>
          rw [takeHead_of_none hblock, hhead]
          exact .between hhead (.between hrun) hsplit.symm
      | some pair =>
          obtain ⟨block, after⟩ := pair
          obtain ⟨stop, hstop, hbytes, hfree⟩ := exists_stop_of_splitHead? hblock
          obtain ⟨b, rest, hcons⟩ := List.exists_cons_of_ne_nil (ne_nil_of_splitHead? hblock)
          have hb := List.head?_dropWhile_not (isSkipped p.legacy) p.buffer
          rw [hcons] at hb hblock
          have hskip : isSkipped p.legacy b = false := by simpa using hb
          obtain ⟨hcr, hlf⟩ := Head.not_lineEnd_of_not_isSkipped hskip
          obtain ⟨lines, hlines⟩ := exists_block_cons hcr hlf hblock
          rw [← hcons] at hblock
          rw [takeHead_of_some hblock]
          refine .between hhead (.within ⟨hrun, ⟨b, lines, hlines, hskip⟩, hstop, hfree⟩) ?_
          rw [List.append_assoc, List.append_assoc, ← List.append_assoc block, ← hbytes]
          exact hsplit.symm

/-! ## Portions -/

/-- The bytes of one frame in a stream, with the run that is skipped before it. -/
structure Portion where
  run : Bytes
  block : Bytes
  stop : Bytes
  body : Bytes
  terminator : UInt8

namespace Portion

def head (s : Portion) : Head := Head.ofBlock s.block

def tail (s : Portion) : Bytes := s.body ++ [s.terminator]

def bytes (s : Portion) : Bytes := s.run ++ s.block ++ s.stop ++ s.tail

/-- The portion gives the result: the body is as long as announced, or else ends at the first NUL,
and it is the body of the frame that is returned. -/
structure Yields (legacy : Bool) (s : Portion) (result : Except Malformed Frame) : Prop where
  opening : Opening legacy s.run s.block s.stop
  announced : ∀ n, s.head.bodyLength? = some n → s.body.length = n
  searched : s.head.bodyLength? = none → s.terminator = 0 ∧ 0 ∉ s.body
  result_eq : result = s.head.frame legacy s.body
  body_eq : ∀ f, result = .ok f → f.body = s.body

variable {s : Portion} {result : Except Malformed Frame}

/-- The byte after the announced length decides whether the terminator is a NUL. -/
theorem Yields.terminator_iff (h : s.Yields legacy result) :
    s.terminator = 0 ↔ ∀ n, s.head.bodyLength? = some n → s.tail[n]? = some 0 := by
  constructor
  · intro hzero n hn
    rw [tail, ← h.announced n hn, List.getElem?_concat_length, hzero]
  · intro hall
    cases hlength : s.head.bodyLength? with
    | none => exact (h.searched hlength).1
    | some n =>
        have hn := hall n hlength
        rw [tail, ← h.announced n hlength, List.getElem?_concat_length] at hn
        exact Option.some.inj hn

end Portion

/-- A parser within a frame that began with these bytes completes the portion. -/
theorem exists_portion {p : Parser} {left : Bytes} {result : Except Malformed Frame}
    (hleft : Begun p.legacy left p.head?) (h : p.takeFrame.1 = some result) :
    ∃ (s : Portion) (rest : Bytes), s.Yields p.legacy result ∧
      left ++ p.buffer = s.bytes ++ rest ∧
      p.takeFrame.2 = { legacy := p.legacy, buffer := rest } := by
  obtain ⟨head, body, rest, hhead, hbody, rfl, htake⟩ := takeFrame_of_some h
  rw [hhead] at hleft
  obtain - | @⟨run, block, stop, hopening⟩ := hleft
  have hreturned : ∀ f, (Head.ofBlock block).frame p.legacy body = .ok f → f.body = body :=
    fun f hf => (Head.exists_readAs hf).choose_spec.body
  cases hlength : (Head.ofBlock block).bodyLength? with
  | some n =>
      rw [hlength] at hbody
      obtain ⟨b, hbuffer, hn⟩ := splitBody?_some_iff.1 hbody
      refine ⟨⟨run, block, stop, body, b⟩, rest, ⟨hopening, ?_, ?_, rfl, hreturned⟩, ?_, ?_⟩
      · exact fun m hm => hn.trans (Option.some.inj (hlength.symm.trans hm))
      · exact fun hnone => absurd (hlength.symm.trans hnone) nofun
      · rw [hbuffer]
        simp [Portion.bytes, Portion.tail]
      · rw [htake]
  | none =>
      rw [hlength] at hbody
      obtain ⟨hbuffer, hfree⟩ := splitBody?_none_iff.1 hbody
      refine ⟨⟨run, block, stop, body, 0⟩, rest, ⟨hopening, ?_, ?_, rfl, hreturned⟩, ?_, ?_⟩
      · exact fun m hm => absurd (hlength.symm.trans hm) nofun
      · exact fun _ => ⟨rfl, hfree⟩
      · rw [hbuffer]
        simp [Portion.bytes, Portion.tail]
      · rw [htake]

/-! ## Streams -/

/-- A parser that was new, got the bytes in chunks and was asked for frames now and then, and the
results that it gave. -/
inductive Reached (legacy : Bool) : Bytes → List (Except Malformed Frame) → Parser → Prop
  | new : Reached legacy [] [] { legacy }
  | feed {fed : Bytes} {results : List (Except Malformed Frame)} {p : Parser}
      (h : Reached legacy fed results p) (data : Bytes) :
      Reached legacy (fed ++ data) results (p.feed data)
  | next {fed : Bytes} {results : List (Except Malformed Frame)} {p : Parser}
      (h : Reached legacy fed results p) :
      Reached legacy fed (results ++ p.next.1.result?.toList) p.next.2

/-- The bytes are the portions of the results, those with which a frame began, and the buffer. -/
structure Partition (fed : Bytes) (results : List (Except Malformed Frame)) (p : Parser)
    (portions : List Portion) (left : Bytes) : Prop where
  yields : List.Forall₂ (Portion.Yields p.legacy) portions results
  begun : Begun p.legacy left p.head?
  bytes : fed = portions.flatMap Portion.bytes ++ left ++ p.buffer

namespace Partition

variable {fed left : Bytes} {results : List (Except Malformed Frame)} {p : Parser}
  {portions : List Portion}

theorem new (legacy : Bool) : Partition [] [] { legacy } [] [] where
  yields := .nil
  begun := .between (List.forall_mem_nil _)
  bytes := rfl

theorem feed (h : Partition fed results p portions left) (data : Bytes) :
    Partition (fed ++ data) results (p.feed data) portions left where
  yields := h.yields
  begun := h.begun
  bytes := by
    rw [h.bytes, feed_buffer]
    simp only [List.append_assoc]

theorem ready (h : Partition fed results p portions left) :
    ∃ left, Partition fed results p.ready portions left := by
  have hprepares := p.prepares_ready
  generalize p.ready = q at hprepares ⊢
  cases hprepares with
  | within => exact ⟨left, h⟩
  | @between used rest head? hhead hused hbuffer =>
      have hbegun := h.begun
      rw [hhead] at hbegun
      refine ⟨left ++ used, h.yields, hbegun.append hused, ?_⟩
      rw [h.bytes, hbuffer]
      simp only [List.append_assoc]

theorem next (h : Partition fed results p portions left) :
    ∃ portions left, Partition fed (results ++ p.next.1.result?.toList) p.next.2 portions left := by
  obtain ⟨left, hready⟩ := h.ready
  rw [result?_next, snd_next]
  cases hresult : p.ready.takeFrame.1 with
  | none =>
      rw [takeFrame_of_none hresult, Option.toList_none, List.append_nil]
      exact ⟨portions, left, hready⟩
  | some result =>
      obtain ⟨s, rest, hs, hbytes, htake⟩ := exists_portion hready.begun hresult
      refine ⟨portions ++ [s], [], ?_⟩
      rw [htake, Option.toList_some]
      constructor
      case yields => exact List.rel_append hready.yields (.cons hs .nil)
      case begun => exact .between (List.forall_mem_nil _)
      case bytes =>
        rw [hready.bytes, List.append_assoc, hbytes]
        simp

end Partition

variable {fed : Bytes} {results : List (Except Malformed Frame)} {p : Parser}

theorem Reached.legacy_eq (h : Reached legacy fed results p) : p.legacy = legacy := by
  induction h with
  | new => rfl
  | feed _ _ ih => exact ih
  | next _ ih => rw [legacy_next, ih]

theorem reached_of_next {data : Bytes} {result : Except Malformed Frame} {q : Parser}
    (hresult : (({ legacy } : Parser).feed data).next.1.result? = some result)
    (hleft : (({ legacy } : Parser).feed data).next.2 = q) : Reached legacy data [result] q := by
  have hnew : Reached legacy [] [] { legacy } := .new
  have hnext := (hnew.feed data).next
  rw [hresult, hleft] at hnext
  exact hnext

theorem Reached.partition (h : Reached legacy fed results p) :
    ∃ portions left, Partition fed results p portions left := by
  induction h with
  | new => exact ⟨[], [], .new legacy⟩
  | feed _ data ih =>
      obtain ⟨portions, left, hparts⟩ := ih
      exact ⟨portions, left, hparts.feed data⟩
  | next _ ih =>
      obtain ⟨portions, left, hparts⟩ := ih
      exact hparts.next

/-- However the bytes arrive and whatever they are, none is lost between the portions, and the
terminators are NULs but where an announced body is not followed by one. -/
theorem exists_partition (h : Reached legacy fed results p) :
    p.legacy = legacy ∧ ∃ portions left, Partition fed results p portions left ∧
      ((∀ s ∈ portions, s.terminator = 0) ↔
        ∀ s ∈ portions, ∀ n, s.head.bodyLength? = some n → s.tail[n]? = some 0) := by
  obtain ⟨portions, left, hparts⟩ := h.partition
  refine ⟨h.legacy_eq, portions, left, hparts, forall₂_congr fun s hs => ?_⟩
  obtain ⟨result, -, hyields⟩ := exists_of_mem_left hparts.yields hs
  exact hyields.terminator_iff

/-! ## A terminator that is no NUL -/

/-- A frame that announces one byte less than its body has. -/
def overrun : Bytes := Bytes.ofString "SEND\ncontent-length:1\n\nab\x00"

def shortened : Frame where
  command := "SEND"
  headers := ⟨[(Name.contentLength, .text "1")], by decide⟩
  body := [97]

theorem reached_overrun : Reached false overrun [.ok shortened] { buffer := [0] } :=
  reached_of_next rfl rfl

theorem exists_partition_overrun :
    ∃ portions left, Partition overrun [.ok shortened] { buffer := [0] } portions left ∧
      ((∀ s ∈ portions, s.terminator = 0) ↔
        ∀ s ∈ portions, ∀ n, s.head.bodyLength? = some n → s.tail[n]? = some 0) :=
  (exists_partition reached_overrun).2

/-- The only NUL of the stream is still in the buffer when the frame was given. -/
theorem not_terminated_overrun :
    Reached false overrun [.ok shortened] { buffer := [0] } ∧
      ¬ ∃ portions left, Partition overrun [.ok shortened] { buffer := [0] } portions left ∧
        ∀ s ∈ portions, s.terminator = 0 := by
  refine ⟨reached_overrun, ?_⟩
  rintro ⟨portions, left, hparts, hzero⟩
  have hone : overrun.count 0 = 1 := rfl
  obtain ⟨s, portions, -, -, rfl⟩ := List.forall₂_cons_right_iff.1 hparts.yields
  have hmem : 0 ∈ s.bytes := by
    rw [← hzero s List.mem_cons_self, Portion.bytes, Portion.tail]
    simp
  have hcount := List.count_pos_iff.2 hmem
  rw [hparts.bytes, List.flatMap_cons] at hone
  simp only [List.count_append, List.count_singleton_self] at hone
  omega

end Stomp.Parser
