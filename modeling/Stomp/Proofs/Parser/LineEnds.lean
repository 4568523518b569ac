import Stomp.Proofs.Parser.RoundTrip

/-!
# Line ends of both kinds

Each line of a head may end with a line feed or with a carriage return and a line feed, and its last
line and the blank line after it with either, so long as both have the same. The frame that is read
is the same for all of them (`receiveAll_restyled`), and its body, which comes after the blank line,
is left alone.
-/

namespace Stomp

inductive LineEnd where
  | lf
  | crlf

namespace LineEnd

def bytes : LineEnd → Bytes
  | .lf => [10]
  | .crlf => [13, 10]

def before : LineEnd → Bytes
  | .lf => []
  | .crlf => [13]

theorem bytes_append (e : LineEnd) (tail : Bytes) : e.bytes ++ tail = e.before ++ 10 :: tail := by
  cases e <;> rfl

end LineEnd

namespace Parser

open Stomp.Head (chomp parted)

/-- The line ends of a head replaced by those that are listed, one after the other; where none is
listed, a line feed stays. The last line and the blank line are given a line end of their own. -/
def restyled (last : LineEnd) : List LineEnd → Bytes → Bytes
  | _, [] => []
  | _, 10 :: 10 :: body => last.bytes ++ (last.bytes ++ body)
  | ends, 10 :: rest => (ends.headD .lf).bytes ++ restyled last ends.tail rest
  | ends, b :: rest => b :: restyled last ends rest

variable {last : LineEnd} {line : Bytes} {lines : List Bytes}

theorem restyled_line (h : 10 ∉ line) (ends : List LineEnd) (tail : Bytes) :
    restyled last ends (line ++ tail) = line ++ restyled last ends tail := by
  induction line with
  | nil => rfl
  | cons b line ih =>
      rw [List.mem_cons, not_or] at h
      rw [List.cons_append, restyled, ih h.2, List.cons_append]
      · exact fun body hb _ => h.1 hb.symm
      · exact fun hb => h.1 hb.symm

theorem restyled_lineFeed {tail : Bytes} (h : ∀ rest, tail ≠ 10 :: rest) (ends : List LineEnd) :
    restyled last ends (10 :: tail) = (ends.headD .lf).bytes ++ restyled last ends.tail tail := by
  rw [restyled]
  exact h

theorem fills_append (h : IsLine line) (e : LineEnd) : Fills (line ++ e.before) where
  ne_nil hnil := h.1 (List.append_eq_nil_iff.1 hnil).1
  ne_return hreturn := by
    obtain ⟨b, bs, hline⟩ := List.exists_cons_of_ne_nil h.1
    rw [hline, List.cons_append] at hreturn
    have hb : b = 13 := (List.cons.inj hreturn).1
    exact (h.2 b (hline ▸ List.mem_cons_self)).1 hb
  no_feed hmem := by
    rcases List.mem_append.1 hmem with hmem | hmem
    · exact (h.2 10 hmem).2 rfl
    · cases e <;> revert hmem <;> decide

theorem chomp_append (h : IsLine line) (e : LineEnd) : chomp (line ++ e.before) = line := by
  cases e with
  | lf => rw [LineEnd.before, List.append_nil, Head.chomp_eq_self h.no_return]
  | crlf => rw [LineEnd.before, chomp, if_pos List.getLast?_concat, List.dropLast_concat]

theorem exists_restyled (h : IsLine line) (hs : ∀ l ∈ lines, IsLine l) (last : LineEnd)
    (ends : List LineEnd) (body : Bytes) :
    ∃ (e : LineEnd) (others : List Bytes),
      restyled last ends (block line lines ++ 10 :: 10 :: body) =
        block (line ++ e.before) others ++ (last.bytes ++ (last.bytes ++ body)) ∧
      (∀ l ∈ others, Fills l) ∧ parted ((line ++ e.before) :: others) = line :: lines := by
  induction lines generalizing line ends with
  | nil =>
      refine ⟨.lf, [], ?_, by simp, ?_⟩
      · simp only [block, List.flatMap_nil, List.append_nil, LineEnd.before]
        rw [restyled_line h.fills.no_feed, restyled]
      · rw [LineEnd.before, List.append_nil, parted]
  | cons next lines ih =>
      obtain ⟨hnext, hlines⟩ := List.forall_mem_cons.1 hs
      obtain ⟨e, others, hrest, hfills, hparted⟩ := ih hnext hlines ends.tail
      have hblank := hnext.fills.block_not_blank lines (10 :: 10 :: body)
      refine ⟨ends.headD .lf, (next ++ e.before) :: others, ?_, ?_, ?_⟩
      · rw [block_cons, List.append_assoc, List.cons_append, restyled_line h.fills.no_feed,
          restyled_lineFeed (fun rest => (hblank rest).2), hrest, LineEnd.bytes_append, block_cons]
        simp only [List.append_assoc, List.cons_append]
      · exact List.forall_mem_cons.2 ⟨fills_append hnext e, hfills⟩
      · rw [parted, chomp_append h, hparted]

theorem splitHead?_blank (e : LineEnd) (rest : Bytes) :
    splitHead? (e.bytes ++ (e.bytes ++ rest)) = some ([], rest) := by
  cases e with
  | lf =>
      change splitHead? (10 :: 10 :: rest) = _
      rw [splitHead?]
  | crlf =>
      change splitHead? (13 :: 10 :: 13 :: 10 :: rest) = _
      rw [splitHead?]

theorem blank_ne (e : LineEnd) (rest tail : Bytes) :
    e.bytes ++ (e.bytes ++ rest) ≠ 10 :: 13 :: 10 :: tail := by
  intro h
  cases e with
  | lf => exact absurd (List.cons.inj (List.cons.inj h).2).1 (by decide)
  | crlf => exact absurd (List.cons.inj h).1 (by decide)

theorem exists_splitHead?_restyled {f : Frame} (hf : f.Legible) (last : LineEnd)
    (ends : List LineEnd) :
    ∃ b bytes head, restyled last ends f.wire = b :: bytes ∧ isSkipped f.legacy b = false ∧
      splitHead? (b :: bytes) = some (head, f.body ++ [0]) ∧ Head.ofBlock head = f.wireHead := by
  have hline := hf.isLine_command
  have hlines := hf.isLine_headers
  have hwire : f.wire = Utf8.encode f.headText ++ 10 :: 10 :: (f.body ++ [0]) := by
    simp [Frame.wire]
  rw [f.encode_headText] at hwire
  obtain ⟨b, bs, hcommand, hb⟩ := exists_encode_command hf.headed
  obtain ⟨e, others, hrestyled, hfills, hparted⟩ :=
    exists_restyled hline hlines last ends (f.body ++ [0])
  have hfirst := (fills_append hline e).no_feed
  have hsplit := splitHead?_block_append hfirst hfills (blank_ne last (f.body ++ [0]))
    (splitHead?_blank last (f.body ++ [0]))
  have hhead : Head.ofBlock (block (Utf8.encode f.command.toList ++ e.before) others) =
      f.wireHead := by
    rw [← hf.ofBlock_headText, f.encode_headText, Head.ofBlock, Head.ofBlock,
      Head.splitLines_block hfirst hfills, hparted, Head.splitLines_lines hline hlines]
  rw [← hwire] at hrestyled
  rw [← hrestyled] at hsplit
  have hstart : ∃ bytes, restyled last ends f.wire = b :: bytes := by
    rw [hrestyled, block, hcommand]
    exact ⟨_, rfl⟩
  obtain ⟨bytes, hbytes⟩ := hstart
  exact ⟨b, bytes, _, hbytes, hb, hbytes ▸ hsplit, hhead⟩

/-- A parser that meets a frame whose head has other line ends gives the frame all the same, and is
left with what follows. -/
theorem next_restyled {f : Frame} (hf : f.Writable) (last : LineEnd) (ends : List LineEnd)
    {run : Bytes} (hrun : ∀ b ∈ run, isSkipped false b = true) (rest : Bytes) :
    let p : Parser := { buffer := run ++ (restyled last ends f.wire ++ rest) }
    p.next.1.result? =
        some (.ok { command := f.command, headers := f.wireHeaders, body := f.body }) ∧
      p.next.2 = { buffer := rest } := by
  intro p
  obtain ⟨b, bytes, head, hbytes, hb, hsplit, hhead⟩ :=
    exists_splitHead?_restyled hf.legible last ends
  rw [hf.current] at hb
  have hready : p.ready =
      { legacy := false, buffer := f.body ++ [0] ++ rest, head? := some f.wireHead } := by
    change ready { buffer := run ++ (restyled last ends f.wire ++ rest) } = _
    rw [hbytes, ← hhead]
    exact ready_of_splitHead? hrun hb (splitHead?_append hsplit rest)
  have hbody := splitBody?_of_measured hf.legible hf.measured rest
  rw [List.append_assoc, List.singleton_append] at hready
  have hframe := Head.frame_wireHead_of_plain hf.legible hf.not_map f.body
  rw [Head.heard_of_measured hf.legible hf.measured, hf.current] at hframe
  have hnext := next_of_ready hready hbody
  rw [hframe] at hnext
  exact hnext

/-- A frame is read as it is written, and nothing is left over, if any lines of its head but the
last one end with a carriage return and a line feed, and if the last line and the blank line both
do or both do not. -/
theorem receiveAll_restyled {f : Frame} (hf : f.Writable) (last : LineEnd) (ends : List LineEnd)
    {chunks : List Bytes} (hchunks : chunks.flatten = restyled last ends f.wire) :
    ∃ g, f.ReadsAs g ∧ ({} : Parser).receive f.wire = ([.ok g], {}) ∧
      ({} : Parser).receiveAll chunks = ([.ok g], {}) := by
  obtain ⟨hresult, hleft⟩ := next_wire hf (List.forall_mem_nil _) []
  obtain ⟨hresult', hleft'⟩ := next_restyled hf last ends (List.forall_mem_nil _) []
  rw [List.nil_append, List.append_nil] at hresult hleft hresult' hleft'
  refine ⟨_, readsAs_wireHeaders hf, receive_of_next hresult hleft, ?_⟩
  rw [receiveAll_of_settled (settled_new false), hchunks]
  exact receive_of_next hresult' hleft'

/-- The body begins as the end of a head does, with line ends of both kinds. -/
def blanks : Frame where
  command := "SEND"
  headers := { entries := [("a", .text "b"), ("flag", .bare)] }
  body := [13, 10, 13, 10, 10, 10]

theorem writable_blanks : blanks.Writable := by
  constructor
  case length_lt =>
    have hten : blanks.body.length < 10 ^ 1 := by decide
    exact hten.trans_le (Nat.pow_le_pow_right (by decide) (by decide))
  case command_line =>
    rw [← List.forall_iff_forall_mem]
    decide
  all_goals decide +kernel

theorem receiveAll_restyled_blanks :
    ∃ g, blanks.ReadsAs g ∧ ({} : Parser).receive blanks.wire = ([.ok g], {}) ∧
      ({} : Parser).receiveAll [Bytes.ofString "SEND\r\na:b\nflag\r", [10, 13, 10],
        blanks.body ++ [0]] = ([.ok g], {}) :=
  receiveAll_restyled writable_blanks .crlf [.crlf] (by decide +kernel)

end Parser

end Stomp
