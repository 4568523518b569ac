import Stomp.Proofs.Parser.Heads

/-!
# A frame read back

A parser outside the legacy mode that meets the wire form of a frame gives the frame: its command,
its headers in order with the announced length among them, and its body byte for byte
(`next_wire`). What a frame must be for this is said by `Frame.Writable`, and what is read by
`Frame.ReadsAs`.
-/

namespace Stomp

namespace Frame

/-- A plain frame in the current form whose parts can be told apart on the wire. The command stands
on a line of its own and is not taken for what a parser skips, each header fills a line, and a
length is stated only where it is the one of the body. -/
structure Writable (f : Frame) : Prop where
  plain : f.map? = none
  current : f.legacy = false
  command_ne : f.command ≠ ""
  command_line : ∀ c ∈ f.command.toList, c ≠ '\r' ∧ c ≠ '\n'
  command_head : f.command.toList.head? ≠ some '\x00'
  values_proper : ∀ e ∈ f.headers.entries, e.2.Proper
  names_ne : ("", .bare) ∉ f.headers.entries
  not_map : f.get? Name.transformation ≠ some (.text mapTransformation)
  length_stated : (f.get? Name.contentLength).isSome →
    f.body ≠ [] ∧ (f.lengthHint = true ∨ 0 ∈ f.body)
  /-- Numerals are written and read up to a limit, which no body in a memory reaches. -/
  length_lt : f.body.length < 10 ^ Numeral.digitLimit

/-- The headers of a frame as they are read. A body that holds a NUL, or is not empty and asked to
be announced, has its decimal length among them, in place of a stated one or else last. -/
def readEntries (f : Frame) : List (String × HeaderValue) :=
  if f.body ≠ [] ∧ (f.lengthHint = true ∨ 0 ∈ f.body) then
    if Name.contentLength ∈ f.headers.names then
      f.headers.entries.map fun e => if e.1 = Name.contentLength then f.lengthEntry else e
    else f.headers.entries ++ [f.lengthEntry]
  else f.headers.entries

structure ReadsAs (f g : Frame) : Prop where
  command : g.command = f.command
  headers : g.headers.entries = f.readEntries
  body : g.body = f.body
  plain : g.map? = none
  current : g.legacy = false

theorem announcesLength_iff {f : Frame} (h : f.legacy = false) :
    f.announcesLength = true ↔ f.body ≠ [] ∧ (f.lengthHint = true ∨ 0 ∈ f.body) := by
  simp [announcesLength, h]

theorem entries_wireHeaders {f : Frame} (h : f.legacy = false) :
    f.wireHeaders.entries = f.readEntries := by
  unfold wireHeaders readEntries
  simp only [announcesLength_iff h]
  split
  · rw [Headers.entries_insert]
    rfl
  · rfl

theorem Writable.legible {f : Frame} (hf : f.Writable) : f.Legible where
  command_ne := hf.command_ne
  command_line := hf.command_line
  command_head _ := hf.command_head
  headers e he := by
    have hne : e ≠ ("", .bare) := fun h => hf.names_ne (h ▸ he)
    exact hf.current ▸ legibleHeader_false (hf.values_proper e he) hne

theorem Writable.measured {f : Frame} (hf : f.Writable) : f.Measured where
  length_stated h := (announcesLength_iff hf.current).2 (hf.length_stated h)
  length_lt _ := hf.length_lt
  no_nul h h0 := by
    have hannounced := (announcesLength_iff hf.current).2 ⟨List.ne_nil_of_mem h0, Or.inr h0⟩
    rw [h] at hannounced
    cases hannounced

end Frame

namespace Parser

theorem readsAs_wireHeaders {f : Frame} (hf : f.Writable) :
    f.ReadsAs { command := f.command, headers := f.wireHeaders, body := f.body } where
  command := rfl
  headers := Frame.entries_wireHeaders hf.current
  body := rfl
  plain := rfl
  current := rfl

theorem next_wire {f : Frame} (hf : f.Writable) {run : Bytes}
    (hrun : ∀ b ∈ run, isSkipped false b = true) (rest : Bytes) :
    let p : Parser := { buffer := run ++ (f.wire ++ rest) }
    p.next.1.result? =
        some (.ok { command := f.command, headers := f.wireHeaders, body := f.body }) ∧
      p.next.2 = { buffer := rest } := by
  have hnext := next_measured hf.legible hf.measured (hf.current ▸ hrun) rest
  rw [Head.frame_wireHead_of_plain hf.legible hf.not_map,
    Head.heard_of_measured hf.legible hf.measured, hf.current] at hnext
  exact hnext

end Parser

end Stomp
