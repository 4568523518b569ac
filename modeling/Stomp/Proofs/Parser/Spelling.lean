import Stomp.Proofs.Parser.RoundTrip

/-!
# Bytes that spell a frame

A parser that is between frames and meets such bytes gives the frame and goes on after them, in
either mode of reading. The wire form of a frame is of this kind (`spells_wire`).
-/

namespace Stomp.Parser

/-- A parser between frames reads the frame off the front of its buffer. -/
def Spells (legacy : Bool) (bytes : Bytes) (f : Frame) : Prop :=
  ∀ rest, ({ legacy, buffer := bytes ++ rest } : Parser).next.1.result? = some (.ok f) ∧
    ({ legacy, buffer := bytes ++ rest } : Parser).next.2 = { legacy, buffer := rest }

theorem spells_wire {f : Frame} (hf : f.Writable) {run : Bytes} (hrun : Idle run) :
    Spells false (run ++ f.wire)
      { command := f.command, headers := f.wireHeaders, body := f.body } := by
  intro rest
  rw [List.append_assoc]
  exact next_wire hf (isSkipped_of_idle hrun) rest

theorem spells_of_measured {f g : Frame} (hf : f.Legible) (hm : f.Measured)
    (hg : f.wireHead.frame f.legacy f.body = .ok g) : Spells f.legacy f.wire g := by
  intro rest
  have hnext := next_measured hf hm (List.forall_mem_nil _) rest
  rw [hg] at hnext
  exact hnext

variable {legacy : Bool}

theorem Spells.ne_nil {bytes : Bytes} {f : Frame} (h : Spells legacy bytes f) : bytes ≠ [] := by
  rintro rfl
  have hnone : ({ legacy } : Parser).next.1.result? = none := rfl
  exact absurd (hnone.symm.trans (h []).1) (by simp)

theorem Spells.result?_next {bytes : Bytes} {f : Frame} (h : Spells legacy bytes f) :
    ({ legacy, buffer := bytes } : Parser).next.1.result? = some (.ok f) := by
  simpa using (h []).1

theorem Spells.drained_eq {bytes : Bytes} {f : Frame} (h : Spells legacy bytes f) (rest : Bytes) :
    ({ legacy, buffer := bytes ++ rest } : Parser).drained =
      (.ok f :: ({ legacy, buffer := rest } : Parser).drained.1,
        ({ legacy, buffer := rest } : Parser).drained.2) := by
  obtain ⟨hresult, hleft⟩ := h rest
  rw [drained_of_some hresult, hleft]

theorem Spells.receiveAll_eq {bytes : Bytes} {f : Frame} (h : Spells legacy bytes f)
    {chunks : List Bytes} (hchunks : chunks.flatten = bytes) :
    ({ legacy } : Parser).receiveAll chunks = ([.ok f], { legacy }) := by
  have hdrained := h.drained_eq []
  rw [List.append_nil, drained_of_settled (settled_new legacy)] at hdrained
  rw [receiveAll_of_settled (settled_new legacy), hchunks]
  exact hdrained

end Stomp.Parser
