import Mathlib.Data.List.TakeWhile
import Mathlib.Tactic
import Stomp.Parser

/-!
# Feeding a parser

What one attempt at the next frame does when more data has arrived. A head or a body that is found
in some bytes is found in every extension of them (`splitHead?_append`, `splitBody?_append`). So an
attempt that gave a result gives it with more data as well (`next_feed_of_some`), and one that gave
none has lost nothing: what it did to the parser does not show in the next attempt
(`next_feed_of_none`).
-/

namespace Stomp.Parser

/-! ## Heads -/

theorem splitHead?_cons {b : UInt8} {bs : Bytes}
    (hcr : ∀ rest, b :: bs ≠ 13 :: 10 :: 13 :: 10 :: rest)
    (hlf : ∀ rest, b :: bs ≠ 10 :: 10 :: rest) :
    splitHead? (b :: bs) = (splitHead? bs).map fun p => (b :: p.1, p.2) := by
  rw [splitHead?]
  · cases splitHead? bs <;> rfl
  · intro rest h hbs
    exact hcr rest (by rw [h, hbs])
  · intro rest h hbs
    exact hlf rest (by rw [h, hbs])

/-- The bytes are a header block, up to the first blank line, and what is after that. -/
inductive HeadSplit : Bytes → Bytes → Bytes → Prop
  | cr_lf (after : Bytes) : HeadSplit (13 :: 10 :: 13 :: 10 :: after) [] after
  | lf (after : Bytes) : HeadSplit (10 :: 10 :: after) [] after
  | cons {b : UInt8} {bs block after : Bytes} (hcr : ∀ rest, b :: bs ≠ 13 :: 10 :: 13 :: 10 :: rest)
      (hlf : ∀ rest, b :: bs ≠ 10 :: 10 :: rest) (hrest : HeadSplit bs block after) :
      HeadSplit (b :: bs) (b :: block) after

theorem headSplit_of_some {bs block after : Bytes} (h : splitHead? bs = some (block, after)) :
    HeadSplit bs block after := by
  fun_induction splitHead? bs generalizing block with
  | case1 rest =>
      cases h
      exact .cr_lf _
  | case2 rest =>
      cases h
      exact .lf _
  | case3 => cases h
  | case4 b rest hcr hlf blk aft heq ih =>
      cases h
      exact .cons (fun r hr => hcr r (List.cons.inj hr).1 (List.cons.inj hr).2)
        (fun r hr => hlf r (List.cons.inj hr).1 (List.cons.inj hr).2) (ih heq)
  | case5 => cases h

theorem HeadSplit.eq_some {bs block after : Bytes} (h : HeadSplit bs block after) :
    splitHead? bs = some (block, after) := by
  induction h with
  | cr_lf => rfl
  | lf => rfl
  | cons hcr hlf _ ih =>
      rw [splitHead?_cons hcr hlf, ih]
      rfl

theorem cr_lf_of_append {b : UInt8} {bs data rest : Bytes} {p : Bytes × Bytes}
    (hp : splitHead? bs = some p) (h : b :: bs ++ data = 13 :: 10 :: 13 :: 10 :: rest) :
    ∃ rest, b :: bs = 13 :: 10 :: 13 :: 10 :: rest := by
  match bs, hp, h with
  | [], hp, _ => simp [splitHead?] at hp
  | [c], hp, h =>
      simp only [List.cons_append, List.nil_append, List.cons.injEq] at h
      rw [h.2.1] at hp
      simp [splitHead?] at hp
  | [c, d], hp, h =>
      simp only [List.cons_append, List.nil_append, List.cons.injEq] at h
      rw [h.2.1, h.2.2.1] at hp
      simp [splitHead?] at hp
  | c :: d :: e :: bs, _, h =>
      simp only [List.cons_append, List.cons.injEq] at h
      obtain ⟨rfl, rfl, rfl, rfl, -⟩ := h
      exact ⟨bs, rfl⟩

theorem lf_of_append {b : UInt8} {bs data rest : Bytes} {p : Bytes × Bytes}
    (hp : splitHead? bs = some p) (h : b :: bs ++ data = 10 :: 10 :: rest) :
    ∃ rest, b :: bs = 10 :: 10 :: rest := by
  match bs, hp, h with
  | [], hp, _ => simp [splitHead?] at hp
  | c :: bs, _, h =>
      simp only [List.cons_append, List.cons.injEq] at h
      obtain ⟨rfl, rfl, -⟩ := h
      exact ⟨bs, rfl⟩

/-- The first blank line of some bytes is the first one of every extension of them. -/
theorem splitHead?_append {bs block after : Bytes} (h : splitHead? bs = some (block, after))
    (data : Bytes) : splitHead? (bs ++ data) = some (block, after ++ data) := by
  induction headSplit_of_some h with
  | cr_lf => rfl
  | lf => rfl
  | @cons b bs block after hcr hlf hrest ih =>
      have hsome := hrest.eq_some
      -- The bytes at hand hold a blank line, so no new byte completes an earlier one.
      have hcr' : ∀ rest, b :: (bs ++ data) ≠ 13 :: 10 :: 13 :: 10 :: rest := by
        intro rest hr
        obtain ⟨rest', hr'⟩ := cr_lf_of_append hsome hr
        exact hcr rest' hr'
      have hlf' : ∀ rest, b :: (bs ++ data) ≠ 10 :: 10 :: rest := by
        intro rest hr
        obtain ⟨rest', hr'⟩ := lf_of_append hsome hr
        exact hlf rest' hr'
      rw [List.cons_append, splitHead?_cons hcr' hlf', ih hsome]
      rfl

theorem ne_nil_of_splitHead? {bs : Bytes} {p : Bytes × Bytes} (h : splitHead? bs = some p) :
    bs ≠ [] := by
  rintro rfl
  simp [splitHead?] at h

theorem length_lt_of_splitHead? {bs block after : Bytes} (h : splitHead? bs = some (block, after)) :
    after.length < bs.length := by
  induction headSplit_of_some h with
  | cr_lf =>
      simp only [List.length_cons]
      omega
  | lf =>
      simp only [List.length_cons]
      omega
  | cons _ _ hrest ih =>
      rw [List.length_cons]
      exact Nat.lt_succ_of_lt (ih hrest.eq_some)

/-! ## Bodies -/

theorem splitBody?_some_iff {n : Nat} {bs body after : Bytes} :
    splitBody? (some n) bs = some (body, after) ↔
      ∃ b, bs = body ++ b :: after ∧ body.length = n := by
  simp only [splitBody?, Option.ite_none_right_eq_some, Option.some.injEq, Prod.mk.injEq]
  constructor
  · rintro ⟨hn, rfl, rfl⟩
    refine ⟨bs[n], ?_, by simp [hn.le]⟩
    rw [List.getElem_cons_drop, List.take_append_drop]
  · rintro ⟨b, rfl, rfl⟩
    refine ⟨by simp, by simp, ?_⟩
    rw [List.drop_append, List.drop_eq_nil_of_le (by omega), List.nil_append,
      Nat.add_sub_cancel_left, List.drop_succ_cons, List.drop_zero]

theorem splitBody?_none_iff {bs body after : Bytes} :
    splitBody? none bs = some (body, after) ↔ bs = body ++ 0 :: after ∧ 0 ∉ body := by
  simp only [splitBody?, List.span_eq_takeWhile_dropWhile]
  constructor
  · intro h
    have hsplit := List.takeWhile_append_dropWhile (p := fun b : UInt8 => decide (b ≠ 0)) (l := bs)
    have hhead := List.head?_dropWhile_not (fun b : UInt8 => decide (b ≠ 0)) bs
    split at h
    · rename_i b rest heq
      simp only [Prod.mk.injEq] at heq
      obtain ⟨rfl, rfl⟩ := Prod.mk.injEq .. ▸ Option.some.inj h
      obtain ⟨htake, hdrop⟩ := heq
      rw [hdrop] at hsplit hhead
      have hb : b = 0 := by simpa using hhead
      refine ⟨by rw [← hsplit, htake, hb], ?_⟩
      rw [← htake]
      intro h0
      simpa using List.mem_takeWhile_imp h0
    · simp at h
  · rintro ⟨rfl, h0⟩
    have hbody : ∀ b ∈ body, decide (b ≠ 0) = true := by
      intro b hb
      simp only [decide_eq_true_eq]
      rintro rfl
      exact h0 hb
    rw [List.takeWhile_append_of_pos hbody, List.dropWhile_append_of_pos hbody]
    simp

theorem splitBody?_append {length? : Option Nat} {bs body after : Bytes}
    (h : splitBody? length? bs = some (body, after)) (data : Bytes) :
    splitBody? length? (bs ++ data) = some (body, after ++ data) := by
  cases length? with
  | some n =>
      obtain ⟨b, rfl, hn⟩ := splitBody?_some_iff.1 h
      exact splitBody?_some_iff.2 ⟨b, by simp, hn⟩
  | none =>
      obtain ⟨rfl, hbody⟩ := splitBody?_none_iff.1 h
      exact splitBody?_none_iff.2 ⟨by simp, hbody⟩

theorem length_lt_of_splitBody? {length? : Option Nat} {bs body after : Bytes}
    (h : splitBody? length? bs = some (body, after)) : after.length < bs.length := by
  cases length? with
  | some n =>
      obtain ⟨b, rfl, -⟩ := splitBody?_some_iff.1 h
      simp only [List.length_append, List.length_cons]
      omega
  | none =>
      obtain ⟨rfl, -⟩ := splitBody?_none_iff.1 h
      simp only [List.length_append, List.length_cons]
      omega

theorem splitBody?_nil (length? : Option Nat) : splitBody? length? [] = none := by
  cases length? <;> simp [splitBody?]

/-! ## Attempts -/

theorem dropWhile_dropWhile_append (f : UInt8 → Bool) (bs cs : Bytes) :
    (bs.dropWhile f ++ cs).dropWhile f = (bs ++ cs).dropWhile f := by
  induction bs with
  | nil => rfl
  | cons b bs ih =>
      by_cases hb : f b = true
      · rw [List.dropWhile_cons_of_pos hb, ih, List.cons_append, List.dropWhile_cons_of_pos hb]
      · rw [List.dropWhile_cons_of_neg hb]

/-- The parser when it has skipped what stands before a frame and taken the head, if it is there. -/
def ready (p : Parser) : Parser := p.prepare.2.2

theorem ready_of_head {p : Parser} {h : Head} (hp : p.head? = some h) : p.ready = p := by
  simp [ready, prepare, hp]

theorem ready_of_no_head {p : Parser} (hp : p.head? = none) :
    p.ready = takeHead { p with buffer := p.buffer.dropWhile (isSkipped p.legacy) } := by
  simp [ready, prepare, hp, skip]

theorem takeHead_of_none {p : Parser} (h : splitHead? p.buffer = none) : p.takeHead = p := by
  simp [takeHead, h]

theorem takeHead_of_some {p : Parser} {block after : Bytes}
    (h : splitHead? p.buffer = some (block, after)) :
    p.takeHead = { p with buffer := after, head? := some (Head.ofBlock block) } := by
  simp [takeHead, h]

@[simp] theorem legacy_takeHead (p : Parser) : p.takeHead.legacy = p.legacy := by
  unfold takeHead
  split <;> rfl

@[simp] theorem legacy_ready (p : Parser) : p.ready.legacy = p.legacy := by
  cases hp : p.head? with
  | none => rw [ready_of_no_head hp, legacy_takeHead]
  | some h => rw [ready_of_head hp]

theorem next_eq (p : Parser) : (p.next.1.result?, p.next.2) = p.ready.takeFrame := by
  by_cases hb : p.buffer = []
  · have hready : p.ready = p := by
      cases hp : p.head? with
      | none =>
          rw [ready_of_no_head hp, hb, List.dropWhile_nil, ← hb]
          exact takeHead_of_none (by rw [hb]; rfl)
      | some h => exact ready_of_head hp
    rw [hready, next, hb, takeFrame]
    cases hp : p.head? with
    | none => rfl
    | some h => simp [hb, splitBody?_nil]
  · rw [next, if_neg (by simpa using hb)]
    rfl

theorem result?_next (p : Parser) : p.next.1.result? = p.ready.takeFrame.1 :=
  congrArg Prod.fst p.next_eq

theorem snd_next (p : Parser) : p.next.2 = p.ready.takeFrame.2 := congrArg Prod.snd p.next_eq

@[simp] theorem feed_buffer (p : Parser) (data : Bytes) :
    (p.feed data).buffer = p.buffer ++ data := rfl

@[simp] theorem feed_head? (p : Parser) (data : Bytes) : (p.feed data).head? = p.head? := rfl

@[simp] theorem feed_legacy (p : Parser) (data : Bytes) : (p.feed data).legacy = p.legacy := rfl

theorem feed_feed (p : Parser) (data more : Bytes) :
    (p.feed data).feed more = p.feed (data ++ more) := by
  simp [feed]

@[simp] theorem feed_nil (p : Parser) : p.feed [] = p := by simp [feed]

theorem ready_feed_of_head {p : Parser} {h : Head} (hp : p.ready.head? = some h) (data : Bytes) :
    (p.feed data).ready = p.ready.feed data := by
  cases hhead : p.head? with
  | some h' =>
      rw [ready_of_head hhead]
      exact ready_of_head (p := p.feed data) hhead
  | none =>
      rw [ready_of_no_head hhead] at hp ⊢
      rw [ready_of_no_head (p := p.feed data) hhead]
      cases hsplit : splitHead? (p.buffer.dropWhile (isSkipped p.legacy)) with
      | none =>
          rw [takeHead_of_none hsplit] at hp
          simp [hhead] at hp
      | some pair =>
          obtain ⟨block, after⟩ := pair
          have hdrop : (p.buffer ++ data).dropWhile (isSkipped p.legacy) =
              p.buffer.dropWhile (isSkipped p.legacy) ++ data := by
            rw [List.dropWhile_append, if_neg]
            simpa using ne_nil_of_splitHead? hsplit
          have hfed := splitHead?_append hsplit data
          rw [← hdrop] at hfed
          simp only [takeHead, feed_buffer, feed_legacy, hsplit, hfed]
          rfl

theorem ready_of_ready_head?_none {p : Parser} (h : p.ready.head? = none) :
    p.head? = none ∧ p.ready = { p with buffer := p.buffer.dropWhile (isSkipped p.legacy) } := by
  have hhead : p.head? = none := by
    by_contra hne
    obtain ⟨head, hh⟩ := Option.ne_none_iff_exists'.1 hne
    rw [ready_of_head hh, hh] at h
    exact absurd h (by simp)
  have hsplit : splitHead? (p.buffer.dropWhile (isSkipped p.legacy)) = none := by
    by_contra hne
    obtain ⟨pair, hpair⟩ := Option.ne_none_iff_exists'.1 hne
    rw [ready_of_no_head hhead, takeHead_of_some hpair] at h
    exact absurd h (by simp)
  refine ⟨hhead, ?_⟩
  rw [ready_of_no_head hhead]
  exact takeHead_of_none hsplit

theorem ready_ready_feed (p : Parser) (data : Bytes) :
    (p.ready.feed data).ready = (p.feed data).ready := by
  cases hready : p.ready.head? with
  | some h =>
      rw [ready_feed_of_head hready]
      exact ready_of_head hready
  | none =>
      obtain ⟨hhead, hskipped⟩ := ready_of_ready_head?_none hready
      rw [ready_of_no_head (p := p.ready.feed data) hready,
        ready_of_no_head (p := p.feed data) hhead, hskipped]
      simp only [feed, dropWhile_dropWhile_append]

theorem takeFrame_of_none {p : Parser} (h : p.takeFrame.1 = none) : p.takeFrame = (none, p) := by
  unfold takeFrame at h ⊢
  split
  · rfl
  · rename_i head hhead
    rw [hhead] at h
    cases hbody : splitBody? head.bodyLength? p.buffer with
    | none => rfl
    | some pair => simp [hbody] at h

theorem takeFrame_of_some {p : Parser} {r : Except Malformed Frame} (h : p.takeFrame.1 = some r) :
    ∃ head body after, p.head? = some head ∧
      splitBody? head.bodyLength? p.buffer = some (body, after) ∧
      r = head.frame p.legacy body ∧
      p.takeFrame = (some r, { legacy := p.legacy, buffer := after }) := by
  unfold takeFrame at h ⊢
  cases hhead : p.head? with
  | none => simp [hhead] at h
  | some head =>
      cases hbody : splitBody? head.bodyLength? p.buffer with
      | none => simp [hhead, hbody] at h
      | some pair =>
          obtain ⟨body, after⟩ := pair
          simp only [hhead, hbody, Option.some.injEq] at h
          exact ⟨head, body, after, rfl, hbody, h.symm, by simp [hbody, h]⟩

theorem length_ready_le (p : Parser) : p.ready.buffer.length ≤ p.buffer.length := by
  cases hp : p.head? with
  | some h => rw [ready_of_head hp]
  | none =>
      have hdrop := List.length_dropWhile_le (isSkipped p.legacy) p.buffer
      rw [ready_of_no_head hp]
      unfold takeHead
      split
      · rename_i block after hsplit
        have := length_lt_of_splitHead? hsplit
        dsimp only at this ⊢
        omega
      · exact hdrop

theorem next_of_some {p : Parser} {r : Except Malformed Frame} (h : p.next.1.result? = some r) :
    p.next.2 = { legacy := p.legacy, buffer := p.next.2.buffer } ∧
      p.next.2.buffer.length < p.buffer.length := by
  rw [result?_next] at h
  obtain ⟨head, body, after, -, hbody, -, htake⟩ := takeFrame_of_some h
  have hle := p.length_ready_le
  have hlt := length_lt_of_splitBody? hbody
  rw [snd_next, htake, legacy_ready]
  exact ⟨rfl, hlt.trans_le hle⟩

theorem next_of_none {p : Parser} (h : p.next.1.result? = none) : p.next.2 = p.ready := by
  rw [result?_next] at h
  rw [snd_next, takeFrame_of_none h]

/-- A result that a parser gives does not depend on the data that arrives after it. -/
theorem next_feed_of_some {p : Parser} {r : Except Malformed Frame}
    (h : p.next.1.result? = some r) (data : Bytes) :
    (p.feed data).next.1.result? = some r ∧ (p.feed data).next.2 = p.next.2.feed data := by
  rw [result?_next] at h
  obtain ⟨head, body, after, hhead, hbody, hr, htake⟩ := takeFrame_of_some h
  have hfed : (p.ready.feed data).takeFrame =
      (some r, { legacy := p.ready.legacy, buffer := after ++ data }) := by
    simp only [takeFrame, feed_head?, hhead, feed_buffer, splitBody?_append hbody data,
      feed_legacy, hr]
  rw [result?_next, snd_next, snd_next, ready_feed_of_head hhead, hfed, htake]
  exact ⟨rfl, rfl⟩

/-- What an attempt without a result did to the parser does not show in the next attempt. -/
theorem next_feed_of_none {p : Parser} (h : p.next.1.result? = none) (data : Bytes) :
    (p.next.2.feed data).next.1.result? = (p.feed data).next.1.result? ∧
      (p.next.2.feed data).next.2 = (p.feed data).next.2 := by
  rw [next_of_none h, result?_next, result?_next, snd_next, snd_next, ready_ready_feed]
  exact ⟨rfl, rfl⟩

end Stomp.Parser
