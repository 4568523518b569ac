import Stomp.Proofs.Parser.Chunks

/-!
# What results are made of

Each result of a parser is made of a head, which was taken off the stream where nothing is skipped,
and of a body as the head announces it (`made_of_mem_receiveAll`).
-/

namespace Stomp

namespace Head

theorem exists_splitLines_cons {b : UInt8} (hcr : b ≠ 13) (hlf : b ≠ 10) (bs : Bytes) :
    ∃ line lines, splitLines false (b :: bs) = (b :: line) :: lines := by
  rw [splitLines]
  · split
    · exact ⟨_, _, rfl⟩
    · exact ⟨[], [], rfl⟩
  · intro rest hb
    exact absurd hb hcr
  · exact hlf

theorem not_lineFeed_of_mem_splitLines (afterEnd : Bool) (bs : Bytes) :
    ∀ line ∈ splitLines afterEnd bs, 10 ∉ line := by
  fun_induction splitLines afterEnd bs with
  | case1 => simp
  | case2 rest ih => exact ih
  | case3 afterEnd rest hend ih => exact List.forall_mem_cons.2 ⟨List.not_mem_nil, ih⟩
  | case4 rest ih => exact ih
  | case5 afterEnd rest hend ih => exact List.forall_mem_cons.2 ⟨List.not_mem_nil, ih⟩
  | case6 afterEnd b rest hcr hlf line lines hrest ih =>
      rw [hrest, List.forall_mem_cons] at ih
      refine List.forall_mem_cons.2 ⟨?_, ih.2⟩
      rw [List.mem_cons, not_or]
      exact ⟨fun hb => hlf hb.symm, ih.1⟩
  | case7 afterEnd b rest hcr hlf hrest ih =>
      rw [List.forall_mem_singleton, List.mem_singleton]
      exact fun hb => hlf hb.symm

theorem nodup_firstOfEachName (seen : List Bytes) (lines : List (Bytes × Option Bytes)) :
    ((firstOfEachName seen lines).map Prod.fst).Nodup ∧
      ∀ l ∈ firstOfEachName seen lines, l.1 ∉ seen := by
  induction lines generalizing seen with
  | nil => simp [firstOfEachName]
  | cons l lines ih =>
      rw [firstOfEachName]
      split
      · exact ih seen
      · rename_i hseen
        obtain ⟨hnodup, hnew⟩ := ih (l.1 :: seen)
        constructor
        · rw [List.map_cons, List.nodup_cons]
          refine ⟨fun hmem => ?_, hnodup⟩
          obtain ⟨m, hm, hname⟩ := List.mem_map.1 hmem
          exact hnew m hm (hname ▸ List.mem_cons_self)
        · refine List.forall_mem_cons.2 ⟨hseen, fun m hm => ?_⟩
          exact fun hmem => hnew m hm (List.mem_cons_of_mem _ hmem)

/-- The head of bytes of which the first is not skipped. -/
def Taken (legacy : Bool) (h : Head) : Prop :=
  ∃ b block, h = ofBlock (b :: block) ∧ Parser.isSkipped legacy b = false

theorem not_lineEnd_of_not_isSkipped {legacy : Bool} {b : UInt8}
    (h : Parser.isSkipped legacy b = false) : b ≠ 13 ∧ b ≠ 10 := by
  simp only [Parser.isSkipped, Bool.or_eq_false_iff, beq_eq_false_iff_ne] at h
  exact h.1

namespace Taken

variable {legacy : Bool} {h : Head}

theorem command (ht : h.Taken legacy) :
    10 ∉ h.command ∧ ∃ b rest, h.command = b :: rest ∧ Parser.isSkipped legacy b = false := by
  obtain ⟨b, block, rfl, hb⟩ := ht
  obtain ⟨hcr, hlf⟩ := not_lineEnd_of_not_isSkipped hb
  obtain ⟨line, lines, hlines⟩ := exists_splitLines_cons hcr hlf block
  have hall := not_lineFeed_of_mem_splitLines false (b :: block)
  rw [hlines] at hall
  rw [ofBlock, hlines]
  exact ⟨hall _ List.mem_cons_self, b, line, rfl, hb⟩

theorem nodup_lines (ht : h.Taken legacy) : (h.lines.map Prod.fst).Nodup := by
  obtain ⟨b, block, rfl, -⟩ := ht
  unfold ofBlock
  split
  · exact (nodup_firstOfEachName [] _).1
  · exact List.nodup_nil

end Taken

end Head

namespace Parser

/-- The result is made of a head and of a body that stood in the stream. -/
def Made (legacy : Bool) (result : Except Malformed Frame) : Prop :=
  ∃ (head : Head) (buffer body after : Bytes), head.Taken legacy ∧
    splitBody? head.bodyLength? buffer = some (body, after) ∧ result = head.frame legacy body

/-- A head that is in progress was taken off the stream. -/
def Sound (p : Parser) : Prop := ∀ h ∈ p.head?, h.Taken p.legacy

theorem sound_new (legacy : Bool) (buffer : Bytes) : ({ legacy, buffer } : Parser).Sound := by
  intro h hh
  cases hh

theorem Sound.feed {p : Parser} (h : p.Sound) (data : Bytes) : (p.feed data).Sound := h

theorem exists_block_cons {b : UInt8} {bs block after : Bytes} (hcr : b ≠ 13) (hlf : b ≠ 10)
    (h : splitHead? (b :: bs) = some (block, after)) : ∃ rest, block = b :: rest := by
  cases headSplit_of_some h with
  | cr_lf => exact absurd rfl hcr
  | lf => exact absurd rfl hlf
  | cons => exact ⟨_, rfl⟩

theorem Sound.ready {p : Parser} (h : p.Sound) : p.ready.Sound := by
  cases hhead : p.head? with
  | some head =>
      rw [ready_of_head hhead]
      exact h
  | none =>
      rw [ready_of_no_head hhead]
      cases hsplit : splitHead? (p.buffer.dropWhile (isSkipped p.legacy)) with
      | none =>
          rw [takeHead_of_none hsplit]
          intro head hh
          rw [hhead] at hh
          cases hh
      | some pair =>
          obtain ⟨block, after⟩ := pair
          rw [takeHead_of_some hsplit]
          intro head hh
          cases hh
          obtain ⟨b, bs, hbs⟩ := List.exists_cons_of_ne_nil (ne_nil_of_splitHead? hsplit)
          have hb := List.head?_dropWhile_not (isSkipped p.legacy) p.buffer
          rw [hbs] at hb hsplit
          have hskip : isSkipped p.legacy b = false := by simpa using hb
          obtain ⟨hcr, hlf⟩ := Head.not_lineEnd_of_not_isSkipped hskip
          obtain ⟨rest, rfl⟩ := exists_block_cons hcr hlf hsplit
          exact ⟨b, rest, rfl, hskip⟩

theorem Sound.made_next {p : Parser} (h : p.Sound) {result : Except Malformed Frame}
    (hresult : p.next.1.result? = some result) : Made p.legacy result := by
  rw [result?_next] at hresult
  obtain ⟨head, body, after, hhead, hbody, rfl, -⟩ := takeFrame_of_some hresult
  have htaken := h.ready head hhead
  rw [legacy_ready] at htaken ⊢
  exact ⟨head, _, body, after, htaken, hbody, rfl⟩

theorem Sound.drained {p : Parser} (h : p.Sound) :
    ∀ result ∈ p.drained.1, Made p.legacy result := by
  induction p using next_induction with
  | idle p hresult =>
      rw [drained_of_none hresult]
      exact nofun
  | giving p result hresult ih =>
      have hsound : p.next.2.Sound := (next_of_some hresult).1 ▸ sound_new _ _
      have hmade := ih hsound
      rw [legacy_next] at hmade
      rw [drained_of_some hresult]
      exact List.forall_mem_cons.2 ⟨h.made_next hresult, hmade⟩

theorem made_of_mem_receiveAll {legacy : Bool} {chunks : List Bytes}
    {result : Except Malformed Frame}
    (h : result ∈ (({ legacy } : Parser).receiveAll chunks).1) : Made legacy result := by
  rw [receiveAll_of_settled (settled_new legacy)] at h
  exact ((sound_new legacy []).feed chunks.flatten).drained result h

end Parser

end Stomp
