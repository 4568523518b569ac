import Mathlib.Data.List.DropRight
import Stomp.Proofs.Parser.Awaiting
import Stomp.Proofs.Parser.Portions

/-!
# Nothing stays behind

After a result, be it a frame or a refusal, a parser is new but for the rest of its buffer, which is
shorter. An attempt without a result gets the parser ready, and the next one does nothing at all
(`isolated`). So the attempts come to an end, and a parser that is empty then goes on as a new one.
-/

namespace Stomp.Parser

def later (p : Parser) : Nat → Parser
  | 0 => p
  | n + 1 => p.next.2.later n

theorem Prepares.suffix {p q : Parser} (h : p.Prepares q) : q.buffer <:+ p.buffer := by
  cases h with
  | within => exact List.suffix_refl _
  | between hhead hused hbuffer => exact ⟨_, hbuffer.symm⟩

theorem suffix_next (p : Parser) : p.next.2.buffer <:+ p.buffer := by
  have hready := p.prepares_ready.suffix
  cases hresult : p.next.1.result? with
  | none =>
      rw [next_of_none hresult]
      exact hready
  | some result =>
      rw [result?_next] at hresult
      obtain ⟨head, body, after, -, hbody, -, htake⟩ := takeFrame_of_some hresult
      obtain ⟨front, hfront, -⟩ := exists_front_of_splitBody? hbody
      rw [snd_next, htake]
      exact List.IsSuffix.trans ⟨front, hfront.symm⟩ hready

/-- A result uses up some bytes, and leaves a new parser to which the others were fed. -/
theorem exists_used_of_some {p : Parser} {result : Except Malformed Frame}
    (h : p.next.1.result? = some result) :
    ∃ used rest, used ≠ [] ∧ p.buffer = used ++ rest ∧
      p.next.2 = ({ legacy := p.legacy } : Parser).feed rest := by
  obtain ⟨hnew, hlt⟩ := next_of_some h
  obtain ⟨used, hused⟩ := p.suffix_next
  refine ⟨used, p.next.2.buffer, ?_, hused.symm, hnew⟩
  rintro rfl
  rw [← hused] at hlt
  exact absurd hlt (lt_irrefl _)

theorem prepare_ready (p : Parser) : p.ready.prepare = (false, none, p.ready) := by
  cases hhead : p.ready.head? with
  | some head => rw [prepare, hhead]
  | none =>
      obtain ⟨-, hskipped⟩ := ready_of_ready_head?_none hhead
      have hlength : (p.ready.buffer.dropWhile (isSkipped p.ready.legacy)).length =
          p.ready.buffer.length := by
        rw [legacy_ready, hskipped, List.dropWhile_idempotent]
      have hready : p.ready.prepare.2.2 = p.ready := p.ready_ready
      rw [prepare, hhead] at hready ⊢
      dsimp only [skip] at hready ⊢
      rw [hready, hhead, hlength, decide_eq_false (lt_irrefl _)]
      rfl

theorem next_ready_of_none {p : Parser} (h : p.next.1.result? = none) :
    p.ready.next = ({}, p.ready) := by
  have htake : p.ready.takeFrame = (none, p.ready) := takeFrame_of_none (by rw [← result?_next, h])
  unfold next
  split
  · rfl
  · simp only [prepare_ready, htake]

/-- The attempts come to an end, and what they gave until then is what the parser gives. -/
theorem exists_later_eq (p : Parser) :
    ∃ k ≤ p.buffer.length, (∀ i < k, (p.later i).next.1.result?.isSome) ∧
      (p.later k).next.1.result? = none ∧ p.drained.1.length = k ∧
      p.drained.2 = p.later (k + 1) := by
  induction p using next_induction with
  | idle p hresult =>
      refine ⟨0, Nat.zero_le _, nofun, hresult, ?_, ?_⟩
      · rw [drained_of_none hresult, List.length_nil]
      · rw [drained_of_none hresult]
        rfl
  | giving p result hresult ih =>
      have hlt := (next_of_some hresult).2
      obtain ⟨k, hk, hsome, hnone, hlength, hleft⟩ := ih
      refine ⟨k + 1, by omega, ?_, hnone, ?_, ?_⟩
      · intro i hi
        cases i with
        | zero => exact Option.isSome_iff_exists.2 ⟨result, hresult⟩
        | succ i => exact hsome i (by omega)
      · rw [drained_of_some hresult, List.length_cons, hlength]
      · rw [drained_of_some hresult]
        exact hleft

theorem eq_new_of_isEmpty {p : Parser} (h : p.isEmpty = true) : p = { legacy := p.legacy } := by
  rw [isEmpty, Bool.and_eq_true, List.isEmpty_iff, Option.isNone_iff_eq_none] at h
  obtain ⟨legacy, buffer, head?⟩ := p
  obtain ⟨rfl, rfl⟩ := h
  rfl

/-- In whatever state a parser is, a result leaves nothing of its frame behind, and an attempt
without one takes nothing but what stands before a body, and does it once. -/
theorem isolated (p : Parser) :
    (∀ result, p.next.1.result? = some result →
      ∃ used rest, used ≠ [] ∧ p.buffer = used ++ rest ∧
        p.next.2 = ({ legacy := p.legacy } : Parser).feed rest) ∧
    (p.next.1.result? = none → p.Prepares p.next.2 ∧ p.next.2.next = ({}, p.next.2)) ∧
    (∃ k ≤ p.buffer.length, (∀ i < k, (p.later i).next.1.result?.isSome) ∧
      (p.later k).next.1.result? = none ∧ p.drained.1.length = k ∧
      p.drained.2 = p.later (k + 1)) ∧
    (p.drained.2.isEmpty = true → ∀ chunks,
      p.drained.2.receiveAll chunks = ({ legacy := p.legacy } : Parser).receiveAll chunks) := by
  refine ⟨fun result => exists_used_of_some, fun hnone => ?_, p.exists_later_eq, fun hempty => ?_⟩
  · rw [next_of_none hnone]
    exact ⟨p.prepares_ready, next_ready_of_none hnone⟩
  · intro chunks
    rw [eq_new_of_isEmpty hempty, legacy_drained]

end Stomp.Parser
