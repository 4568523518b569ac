import Stomp.Proofs.Parser.RoundTrip

/-!
# Streams of legacy frames

The legacy form escapes line feeds alone, and neither announces a length nor skips a NUL. Frames
whose names and values survive that are read back from any stream with line ends around them,
however it is cut into chunks (`receiveAll_stream_legacy`). A frame that is read is the one that was
written, but for the wish for an announced length, which the legacy form ignores.
-/

namespace Stomp

namespace Frame

/-- A plain frame in the legacy form whose parts can be told apart on the wire. The command stands
on a line of its own, the names and values survive the escape of line feeds, and no name holds a
colon. No length is stated, and the body ends at the first NUL. -/
structure LegacyWritable (f : Frame) : Prop where
  plain : f.map? = none
  legacy : f.legacy = true
  command_ne : f.command ≠ ""
  command_line : ∀ c ∈ f.command.toList, c ≠ '\r' ∧ c ≠ '\n'
  names_clean : ∀ e ∈ f.headers.entries, Escape.Clean true e.1.toList ∧ ':' ∉ e.1.toList
  values_proper : ∀ e ∈ f.headers.entries, e.2.Proper
  values_clean : ∀ e ∈ f.headers.entries, ∀ s, e.2 = .text s → Escape.Clean true s.toList
  names_ne : ("", .bare) ∉ f.headers.entries
  no_length : f.get? Name.contentLength = none
  not_map : f.get? Name.transformation ≠ some (.text mapTransformation)
  no_nul : 0 ∉ f.body

variable {f : Frame}

namespace LegacyWritable

theorem legible (hf : f.LegacyWritable) : f.Legible where
  command_ne := hf.command_ne
  command_line := hf.command_line
  command_head h := by
    rw [hf.legacy] at h
    cases h
  headers e he := by
    rw [hf.legacy]
    exact
      { proper := hf.values_proper e he
        ne_nothing := fun h => hf.names_ne (h ▸ he)
        name_clean := (hf.names_clean e he).1
        name_colon := fun _ => (hf.names_clean e he).2
        value_clean := hf.values_clean e he }

theorem measured (hf : f.LegacyWritable) : f.Measured where
  length_stated h := by
    rw [hf.no_length] at h
    cases h
  length_lt h := by
    rw [announcesLength_of_legacy hf.legacy] at h
    cases h
  no_nul _ := hf.no_nul

theorem frame_wireHead (hf : f.LegacyWritable) :
    f.wireHead.frame f.legacy f.body = .ok { f with lengthHint := false } := by
  rw [Head.frame_wireHead_of_plain hf.legible hf.not_map,
    Head.heard_of_measured hf.legible hf.measured, wireHeaders_of_legacy hf.legacy, ← hf.plain]

end LegacyWritable

end Frame

namespace Parser

/-- Line ends, which may stand around legacy frames. -/
def LineEnds (run : Bytes) : Prop := ∀ b ∈ run, b = 13 ∨ b = 10

theorem isSkipped_of_lineEnds {run : Bytes} (h : LineEnds run) :
    ∀ b ∈ run, isSkipped true b = true := by
  intro b hb
  rcases h b hb with rfl | rfl <;> rfl

theorem next_legacy {f : Frame} (hf : f.LegacyWritable) {run : Bytes}
    (hrun : ∀ b ∈ run, isSkipped true b = true) (rest : Bytes) :
    let p : Parser := { legacy := true, buffer := run ++ (f.wire ++ rest) }
    p.next.1.result? = some (.ok { f with lengthHint := false }) ∧
      p.next.2 = { legacy := true, buffer := rest } := by
  have hskipped : ∀ b ∈ run, isSkipped f.legacy b = true := by
    rw [hf.legacy]
    exact hrun
  have hnext := next_measured hf.legible hf.measured hskipped rest
  rw [hf.frame_wireHead, hf.legacy] at hnext
  rw [hf.legacy]
  exact hnext

/-- Legacy frames that are written one after the other, with any line ends around them, are read
back as they are, in order and without an error, whatever the chunks in which they arrive, and
nothing is left over. -/
theorem receiveAll_stream_legacy {run : Bytes} {items : List (Frame × Bytes)} {chunks : List Bytes}
    (hframes : ∀ i ∈ items, i.1.LegacyWritable) (hrun : LineEnds run)
    (hruns : ∀ i ∈ items, LineEnds i.2) (hchunks : chunks.flatten = stream run items) :
    (({ legacy := true } : Parser).receiveAll chunks).1 =
        items.map (fun i => .ok { i.1 with lengthHint := false }) ∧
      (({ legacy := true } : Parser).receiveAll chunks).2.isEmpty = true := by
  let read (f : Frame) : Frame := { f with lengthHint := false }
  have hdrained := drained_stream_of_next read (isSkipped_of_lineEnds hrun)
    (fun i hi => isSkipped_of_lineEnds (hruns i hi))
    (fun i hi _ hskipped rest => next_legacy (hframes i hi) hskipped rest)
  have hfeed : ({ legacy := true } : Parser).feed (stream run items) =
      { legacy := true, buffer := stream run items } := rfl
  have hall := receiveAll_of_settled (settled_new true) chunks
  rw [hchunks, receive, hfeed, hdrained] at hall
  rw [hall]
  exact ⟨rfl, rfl⟩

/-- A legacy frame that begins with a NUL. Backslashes stand before an `n` and a line feed, colons
and NULs in values, and there are a header without a value and one without a name. -/
def gnarled : Frame where
  command := "\x00MESSAGE"
  headers :=
    { entries := [("path\\\\n", .text "\\\\\n:\\a\\"), ("bare\n", .bare), ("", .text "a:b\x00")] }
  body := [13, 10, 13, 10, 92, 110]
  legacy := true
  lengthHint := true

theorem legacyWritable_gnarled : gnarled.LegacyWritable where
  plain := rfl
  legacy := rfl
  command_ne := by decide
  command_line := by
    rw [← List.forall_iff_forall_mem]
    decide
  names_clean := by
    rw [← List.forall_iff_forall_mem]
    decide
  values_proper := by decide
  values_clean := by
    simp only [gnarled, List.forall_mem_cons]
    refine ⟨?_, ?_, ?_, List.forall_mem_nil _⟩
    · rintro s ⟨⟩
      decide
    · rintro s ⟨⟩
    · rintro s ⟨⟩
      decide
  names_ne := by decide
  no_length := by decide
  not_map := by decide
  no_nul := by decide

theorem receiveAll_stream_legacy_gnarled :
    let items := [(gnarled, [13, 10]), (gnarled, [])]
    let bytes := stream [10, 13] items
    (({ legacy := true } : Parser).receiveAll [bytes.take 9, [], bytes.drop 9]).1 =
        [.ok { gnarled with lengthHint := false }, .ok { gnarled with lengthHint := false }] ∧
      (({ legacy := true } : Parser).receiveAll [bytes.take 9, [], bytes.drop 9]).2.isEmpty =
        true := by
  intro items bytes
  have hframes : ∀ i ∈ items, i.1.LegacyWritable := by simp [items, legacyWritable_gnarled]
  have hrun : LineEnds [10, 13] := by simp [LineEnds]
  have hruns : ∀ i ∈ items, LineEnds i.2 := by simp [items, LineEnds]
  exact receiveAll_stream_legacy hframes hrun hruns (by simp [bytes])

end Parser

end Stomp
