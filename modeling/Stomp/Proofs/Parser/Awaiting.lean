import Stomp.Proofs.Parser.Giving

/-!
# Parsers that await a frame

Attempts without a result change a parser, but not what it does later: it goes on as one that was
fed with all the data at once (`Awaits`). The bytes of a result end where the parser goes on after
it (`exists_front`): they give the result alone, and a parser that is new then.
-/

namespace Stomp.Parser

/-! ## Waiting -/

/-- The later parser goes on as the earlier one does when it is fed with the data. -/
def Awaits (p : Parser) (data : Bytes) (q : Parser) : Prop := q.ready = (p.feed data).ready

theorem ready_feed_congr {p q : Parser} (h : q.ready = p.ready) (data : Bytes) :
    (q.feed data).ready = (p.feed data).ready := by
  rw [← ready_ready_feed q, h, ready_ready_feed]

namespace Awaits

variable {p q r : Parser} {data more : Bytes}

theorem refl (p : Parser) : p.Awaits [] p := by rw [Awaits, feed_nil]

theorem feed (h : p.Awaits data q) (more : Bytes) : p.Awaits (data ++ more) (q.feed more) := by
  rw [Awaits, ← feed_feed]
  exact ready_feed_congr h more

theorem trans (hpq : p.Awaits data q) (hqr : q.Awaits more r) : p.Awaits (data ++ more) r :=
  Eq.trans hqr (hpq.feed more)

theorem next_of_none (h : p.next.1.result? = none) : p.Awaits [] p.next.2 := by
  rw [Awaits, Parser.next_of_none h, ready_ready, feed_nil]

theorem result?_next (h : p.Awaits data q) :
    q.next.1.result? = (p.feed data).next.1.result? := by
  rw [Parser.result?_next, Parser.result?_next, h]

theorem snd_next (h : p.Awaits data q) : q.next.2 = (p.feed data).next.2 := by
  rw [Parser.snd_next, Parser.snd_next, h]

theorem drained (h : p.Awaits data q) : p.receive data = q.drained :=
  drained_eq_of_next h.result?_next.symm h.snd_next.symm

theorem gives (h : p.Awaits data q) : p.Gives data [] q := h.drained

theorem receive_of_some (h : p.Awaits data q) {result : Except Malformed Frame}
    (hresult : q.next.1.result? = some result) (more : Bytes) :
    (p.receive (data ++ more)).1 = result :: (q.next.2.receive more).1 := by
  have hfed := (h.feed more).drained
  obtain ⟨hnext, hleft⟩ := next_feed_of_some hresult more
  rw [hfed, drained_of_some hnext, hleft]
  rfl

end Awaits

/-! ## The bytes of a result -/

theorem exists_front_of_splitHead? {bs block after : Bytes}
    (h : splitHead? bs = some (block, after)) :
    ∃ front, bs = front ++ after ∧ splitHead? front = some (block, []) := by
  induction headSplit_of_some h with
  | cr_lf => exact ⟨[13, 10, 13, 10], rfl, rfl⟩
  | lf => exact ⟨[10, 10], rfl, rfl⟩
  | @cons b bs block after hcr hlf hrest ih =>
      obtain ⟨front, rfl, hfront⟩ := ih hrest.eq_some
      refine ⟨b :: front, rfl, ?_⟩
      have hcr' : ∀ rest, b :: front ≠ 13 :: 10 :: 13 :: 10 :: rest := fun rest hr =>
        hcr (rest ++ after) (by rw [← List.cons_append, hr]; rfl)
      have hlf' : ∀ rest, b :: front ≠ 10 :: 10 :: rest := fun rest hr =>
        hlf (rest ++ after) (by rw [← List.cons_append, hr]; rfl)
      rw [splitHead?_cons hcr' hlf', hfront]
      rfl

theorem exists_front_of_splitBody? {length? : Option Nat} {bs body after : Bytes}
    (h : splitBody? length? bs = some (body, after)) :
    ∃ front, bs = front ++ after ∧ splitBody? length? front = some (body, []) := by
  cases length? with
  | some n =>
      obtain ⟨b, rfl, hn⟩ := splitBody?_some_iff.1 h
      exact ⟨body ++ [b], by simp, splitBody?_some_iff.2 ⟨b, rfl, hn⟩⟩
  | none =>
      obtain ⟨rfl, hbody⟩ := splitBody?_none_iff.1 h
      exact ⟨body ++ [0], by simp, splitBody?_none_iff.2 ⟨rfl, hbody⟩⟩

theorem next_of_split {legacy : Bool} {data block after body rest : Bytes}
    (hhead : splitHead? (data.dropWhile (isSkipped legacy)) = some (block, after))
    (hbody : splitBody? (Head.ofBlock block).bodyLength? after = some (body, rest)) :
    ({ legacy, buffer := data } : Parser).next.1.result? =
        some ((Head.ofBlock block).frame legacy body) ∧
      ({ legacy, buffer := data } : Parser).next.2 = { legacy, buffer := rest } := by
  have hready : ready { legacy, buffer := data } =
      { legacy, buffer := after, head? := some (Head.ofBlock block) } := by
    rw [ready_of_no_head rfl]
    exact takeHead_of_some hhead
  rw [result?_next, snd_next, hready, takeFrame]
  simp [hbody]

theorem exists_split_of_next {legacy : Bool} {data : Bytes} {result : Except Malformed Frame}
    (h : ({ legacy, buffer := data } : Parser).next.1.result? = some result) :
    ∃ block after body rest,
      splitHead? (data.dropWhile (isSkipped legacy)) = some (block, after) ∧
      splitBody? (Head.ofBlock block).bodyLength? after = some (body, rest) := by
  rw [result?_next, ready_of_no_head rfl] at h
  obtain ⟨head, body, rest, hhead, hbody, -⟩ := takeFrame_of_some h
  cases hsplit : splitHead? (data.dropWhile (isSkipped legacy)) with
  | none =>
      rw [takeHead_of_none hsplit] at hhead
      cases hhead
  | some pair =>
      rw [takeHead_of_some hsplit] at hhead hbody
      obtain rfl := Option.some.inj hhead
      exact ⟨_, _, body, rest, rfl, hbody⟩

/-- A parser between frames gives a result of the front of its buffer, and goes on with the
rest. -/
theorem exists_front {legacy : Bool} {data : Bytes} {result : Except Malformed Frame}
    (h : ({ legacy, buffer := data } : Parser).next.1.result? = some result) :
    ∃ front rest, data = front ++ rest ∧
      ({ legacy, buffer := data } : Parser).next.2 = { legacy, buffer := rest } ∧
      ({ legacy, buffer := front } : Parser).next.1.result? = some result ∧
      ({ legacy, buffer := front } : Parser).next.2 = { legacy } := by
  obtain ⟨block, after, body, rest, hhead, hbody⟩ := exists_split_of_next h
  obtain ⟨hresult, hleft⟩ := next_of_split hhead hbody
  obtain ⟨lines, hlines, hblock⟩ := exists_front_of_splitHead? hhead
  obtain ⟨text, rfl, htext⟩ := exists_front_of_splitBody? hbody
  have hdata := List.takeWhile_append_dropWhile (p := isSkipped legacy) (l := data)
  rw [hlines] at hdata
  have hdrop : (data.takeWhile (isSkipped legacy) ++ (lines ++ text)).dropWhile
      (isSkipped legacy) = lines ++ text := by
    rw [List.dropWhile_append_of_pos fun b hb => List.mem_takeWhile_imp hb]
    obtain ⟨b, bs, rfl⟩ := List.exists_cons_of_ne_nil (ne_nil_of_splitHead? hblock)
    have hb := List.head?_dropWhile_not (isSkipped legacy) data
    rw [hlines] at hb
    exact List.dropWhile_cons_of_neg (by simpa using hb)
  have hfront : splitHead? (lines ++ text) = some (block, text) := splitHead?_append hblock text
  rw [← hdrop] at hfront
  obtain ⟨hresult', hleft'⟩ := next_of_split hfront htext
  refine ⟨_, rest, ?_, hleft, hresult'.trans (hresult.symm.trans h), hleft'⟩
  rw [List.append_assoc, List.append_assoc]
  exact hdata.symm

end Stomp.Parser
