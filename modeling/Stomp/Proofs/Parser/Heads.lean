import Stomp.Proofs.Frame.Wire

/-!
# Heads read back

A parser that meets a frame on the wire takes its head off first, if no header leaves a blank line
(`ready_headed`). If the head does not lead it to a wrong end of the body, it gives what is made of
head and body, and is left with what follows (`next_headed`). For a legible frame that has the
command and the headers of the frame; only a content-length that is no number is lost
(`Frame.heard`). A frame that is measured announces the length of its body where it has to and no
other length (`next_measured`).
-/

namespace Stomp

namespace Assoc

variable {α : Type}

theorem get?_eq_none {entries : List (String × α)} {name : String} (h : name ∉ names entries) :
    get? entries name = none := by
  rw [mem_names_iff, Bool.not_eq_true, Option.isSome_eq_false_iff, Option.isNone_iff_eq_none] at h
  exact h

theorem get?_reverse {entries : List (String × α)} (h : (names entries).Nodup) (name : String) :
    get? entries.reverse name = get? entries name := by
  have hreverse : (names entries.reverse).Nodup := by
    rw [names, List.map_reverse]
    exact List.nodup_reverse.2 h
  cases hget : get? entries name with
  | some v =>
      have hmem := List.mem_reverse.2 (mem_of_get? hget)
      exact get?_of_mem hreverse hmem
  | none =>
      apply get?_eq_none
      rw [names, List.map_reverse, List.mem_reverse]
      intro hmem
      have hsome := (mem_names_iff entries name).1 hmem
      rw [hget] at hsome
      cases hsome

end Assoc

namespace Frame

/-- The headers as they are read: a content-length that is no number keeps its name alone. -/
def heard (f : Frame) : Headers :=
  if f.wireHead.ignored?.isSome then f.wireHeaders.insert Name.contentLength .bare
  else f.wireHeaders

theorem get?_heard (f : Frame) {name : String} (h : name ≠ Name.contentLength) :
    f.heard.get? name = f.get? name := by
  unfold heard
  split
  · rw [Headers.get?_insert, if_neg (Ne.symm h), f.get?_wireHeaders h]
  · exact f.get?_wireHeaders h

end Frame

namespace Head

open Stomp.Frame (wireText wireLine LegibleHeader)

theorem latin_encode {cs : List Char} (h : ∀ c ∈ cs, c.toNat < 0x80) :
    latin (Utf8.encode cs) = cs := by
  induction cs with
  | nil => rfl
  | cons c cs ih =>
      have hc := h c (by simp)
      rw [Utf8.encode_cons, Utf8.encodeChar_of_lt hc, latin, List.map_append, ← latin,
        ← latin, ih fun d hd => h d (by simp [hd])]
      simp only [latin, List.map_cons, List.map_nil, Utf8.toNat_octet (show c.toNat < 256 by omega),
        Char.ofNat_toNat, List.singleton_append]

theorem announced_of_forall_ne {h : Head} (hl : ∀ l ∈ h.lines, l.1 ≠ contentLength) :
    h.announced = .nothing := by
  have hfind : h.lines.find? (fun l => l.1 == contentLength) = none := by
    rw [List.find?_eq_none]
    intro l hmem hname
    exact hl l hmem (beq_iff_eq.1 hname)
  rw [announced, hfind]

/-! ## Lines of headers -/

section Lines

variable {legacy : Bool} {entries : List (String × HeaderValue)}

theorem contentLength_eq (legacy : Bool) : contentLength = wireText legacy Name.contentLength := by
  cases legacy <;> decide +kernel

theorem clean_contentLength (legacy : Bool) :
    Escape.Clean legacy Name.contentLength.toList := by
  apply Escape.clean_of_not_mem
  rw [← List.forall_iff_forall_mem]
  decide

theorem fst_wireLine_eq_iff {e : String × HeaderValue} (he : LegibleHeader legacy e) :
    (wireLine legacy e).1 = contentLength ↔ e.1 = Name.contentLength := by
  rw [Frame.fst_wireLine, contentLength_eq legacy]
  constructor
  · exact Frame.wireText_inj he.name_clean (clean_contentLength legacy)
  · exact fun h => congrArg (wireText legacy) h

theorem find?_wireLine (h : ∀ e ∈ entries, LegibleHeader legacy e) :
    (entries.map (wireLine legacy)).find? (fun l => l.1 == contentLength) =
      (Assoc.get? entries Name.contentLength).map
        fun v => wireLine legacy (Name.contentLength, v) := by
  induction entries with
  | nil => rfl
  | cons e rest ih =>
      obtain ⟨he, hrest⟩ := List.forall_mem_cons.1 h
      have hiff := fst_wireLine_eq_iff he
      obtain ⟨n, v⟩ := e
      rw [List.map_cons, List.find?_cons, ih hrest, Assoc.get?]
      by_cases hn : n = Name.contentLength
      · have heq := beq_iff_eq.2 (hiff.2 hn)
        rw [heq, if_pos hn, hn]
        rfl
      · have hne : ((wireLine legacy (n, v)).1 == contentLength) = false :=
          beq_eq_false_iff_ne.2 fun heq => hn (hiff.1 heq)
        rw [hne, if_neg hn]

theorem decodePart_wireText {s : String} (h : Escape.Clean legacy s.toList) :
    decodePart legacy (wireText legacy s) = .ok s := by
  rw [decodePart, wireText, Utf8.decode_encode]
  simp only
  rw [h.decode_encode, String.ofList_toList]

theorem decodePart_contentLength : decodePart legacy contentLength = .ok Name.contentLength := by
  rw [contentLength_eq legacy]
  exact decodePart_wireText (clean_contentLength legacy)

theorem decodeHeaders_wireLine (h : ∀ e ∈ entries, LegibleHeader legacy e) :
    decodeHeaders legacy (entries.map (wireLine legacy)) = .ok entries := by
  induction entries with
  | nil => rfl
  | cons e rest ih =>
      obtain ⟨he, hrest⟩ := List.forall_mem_cons.1 h
      have hname := decodePart_wireText he.name_clean
      obtain ⟨name, v⟩ := e
      cases v with
      | number n => exact he.proper.elim
      | bare =>
          rw [List.map_cons, wireLine, decodeHeaders]
          simp only [hname, ih hrest]
          rfl
      | text s =>
          have hvalue := decodePart_wireText (he.value_clean s rfl)
          rw [List.map_cons, wireLine, decodeHeaders]
          simp only [hname, hvalue, ih hrest]
          rfl

end Lines

/-! ## The head of a legible frame -/

variable {f : Frame}

theorem announced_wireHead (hf : f.Legible) :
    f.wireHead.announced =
      match f.wireHeaders.get? Name.contentLength with
      | some .bare => .invalid none
      | some (.text s) =>
        match Numeral.read .ascii (latin (wireText f.legacy s)) with
        | .ok n => .length n
        | .error _ => .invalid (some (wireText f.legacy s))
      | _ => .nothing := by
  have hfind := find?_wireLine hf.wireHeaders
  have hget : f.wireHeaders.get? Name.contentLength =
      Assoc.get? f.wireHeaders.entries Name.contentLength := rfl
  rw [announced, Frame.wireHead, hfind, hget]
  cases hlength : Assoc.get? f.wireHeaders.entries Name.contentLength with
  | none => rfl
  | some v =>
      cases v with
      | number n => exact (hf.wireHeaders _ (Assoc.mem_of_get? hlength)).proper.elim
      | _ => rfl

theorem mem_names_of_ignored (hf : f.Legible) (h : f.wireHead.ignored?.isSome) :
    Name.contentLength ∈ f.wireHeaders.names := by
  rw [Headers.mem_names_iff]
  rw [ignored?, announced_wireHead hf] at h
  cases hget : f.wireHeaders.get? Name.contentLength with
  | some v => rfl
  | none =>
      rw [hget] at h
      cases h

theorem legible_heard (hf : f.Legible) : ∀ e ∈ f.heard.entries, LegibleHeader f.legacy e := by
  have hbare : LegibleHeader f.legacy (Name.contentLength, .bare) :=
    ⟨trivial, by decide, clean_contentLength f.legacy, fun _ => by decide, nofun⟩
  unfold Frame.heard
  split
  · intro e he
    rcases Headers.mem_insert he with ⟨he, -⟩ | rfl
    · exact hf.wireHeaders e he
    · exact hbare
  · exact hf.wireHeaders

theorem headers_wireHead (hf : f.Legible) :
    f.wireHead.headers = f.heard.entries.map (wireLine f.legacy) := by
  unfold headers Frame.heard
  split
  · rename_i hignored
    rw [Headers.entries_insert, if_pos (mem_names_of_ignored hf hignored), Frame.wireHead,
      List.map_map, List.map_map]
    apply List.map_congr_left
    intro e he
    have hiff := fst_wireLine_eq_iff (hf.wireHeaders e he)
    simp only [Function.comp_apply]
    by_cases hn : e.1 = Name.contentLength
    · rw [if_pos (hiff.2 hn), if_pos hn, hiff.2 hn, contentLength_eq f.legacy]
      rfl
    · rw [if_neg fun heq => hn (hiff.1 heq), if_neg hn]
  · rfl

theorem asksForMap_heard (f : Frame) :
    asksForMap f.heard.entries =
      decide (f.get? Name.transformation = some (.text mapTransformation)) := by
  have hget : Assoc.get? f.heard.entries Name.transformation = f.get? Name.transformation :=
    f.get?_heard (by decide)
  rw [asksForMap, Assoc.get?_reverse f.heard.nodup_names, hget]

theorem toString?_wireHead (f : Frame) : Bytes.toString? f.wireHead.command = .ok f.command := by
  rw [Frame.wireHead, Bytes.toString?, Utf8.decode_encode]
  simp only
  rw [String.ofList_toList]

theorem ofList_heard (hf : f.Legible) :
    Headers.ofList (f.heard.entries.map fun e => (e.1, e.2.given)) = f.heard :=
  Headers.ofList_given fun e he => (legible_heard hf e he).proper

theorem frame_wireHead_of_plain (hf : f.Legible)
    (hplain : f.get? Name.transformation ≠ some (.text mapTransformation)) (body : Bytes) :
    f.wireHead.frame f.legacy body =
      .ok { command := f.command, headers := f.heard, body, legacy := f.legacy } := by
  simp only [frame, toString?_wireHead, headers_wireHead hf,
    decodeHeaders_wireLine (legible_heard hf), asksForMap_heard, ofList_heard hf, hplain,
    decide_false, Bool.false_eq_true, if_false]

theorem frame_wireHead_of_map (hf : f.Legible)
    (hmap : f.get? Name.transformation = some (.text mapTransformation)) {body : Bytes} {j : Json}
    (hbody : Frame.readMap body = .ok j) :
    f.wireHead.frame f.legacy body =
      .ok { command := f.command, headers := f.heard, body, map? := some j,
            legacy := f.legacy } := by
  simp only [frame, toString?_wireHead, headers_wireHead hf,
    decodeHeaders_wireLine (legible_heard hf), asksForMap_heard, ofList_heard hf, hmap,
    decide_true, if_true, Frame.withMapBody, hbody]

theorem frame_wireHead_of_unreadable (hf : f.Legible)
    (hmap : f.get? Name.transformation = some (.text mapTransformation)) {body : Bytes}
    {fault : MapFault} (hbody : Frame.readMap body = .error fault) :
    f.wireHead.frame f.legacy body = .error (.map fault) := by
  simp only [frame, toString?_wireHead, headers_wireHead hf,
    decodeHeaders_wireLine (legible_heard hf), asksForMap_heard, ofList_heard hf, hmap,
    decide_true, if_true, Frame.withMapBody, hbody]

end Head

/-! ## Where a head ends -/

/-- A frame whose head ends where it is written to end. The command stands on a line of its own and
is not taken for what a parser skips, and no header leaves a blank line. -/
structure Frame.Headed (f : Frame) : Prop where
  command_ne : f.command ≠ ""
  command_line : ∀ c ∈ f.command.toList, c ≠ '\r' ∧ c ≠ '\n'
  command_head : f.legacy = false → f.command.toList.head? ≠ some '\x00'
  fills : ∀ e ∈ f.wireHeaders.entries,
    Parser.Fills (Utf8.encode (Frame.headerLine f.legacy e.1 e.2))

theorem Frame.Legible.headed {f : Frame} (hf : f.Legible) : f.Headed where
  command_ne := hf.command_ne
  command_line := hf.command_line
  command_head := hf.command_head
  fills e he := (hf.wireHeaders e he).isLine.fills

namespace Parser

variable {f : Frame}

theorem exists_encode_command (hf : f.Headed) :
    ∃ b bs, Utf8.encode f.command.toList = b :: bs ∧ isSkipped f.legacy b = false := by
  have hne : f.command.toList ≠ [] := fun h => hf.command_ne (String.toList_eq_nil_iff.1 h)
  obtain ⟨c, cs, hcs⟩ := List.exists_cons_of_ne_nil hne
  obtain ⟨b, bs, hb⟩ := List.exists_cons_of_ne_nil (Utf8.encodeChar_ne_nil c)
  have henc : Utf8.encode f.command.toList = b :: (bs ++ Utf8.encode cs) := by
    rw [hcs, Utf8.encode_cons, hb, List.cons_append]
  refine ⟨b, _, henc, ?_⟩
  have hmem : b ∈ Utf8.encode f.command.toList := by simp [henc]
  obtain ⟨hcr, hlf⟩ := Utf8.not_lineEnd_of_mem_encode hf.command_line b hmem
  have hnul : f.legacy = false → b ≠ 0 := by
    rintro hlegacy rfl
    by_cases hc : c.toNat < 0x80
    · rw [Utf8.encodeChar_of_lt hc] at hb
      have hzero := congrArg UInt8.toNat (List.cons.inj hb).1
      rw [Utf8.toNat_octet (by omega)] at hzero
      apply hf.command_head hlegacy
      rw [hcs, List.head?_cons, ← Char.ofNat_toNat c, hzero]
      rfl
    · have hmem0 : (0 : UInt8) ∈ Utf8.encodeChar c := by simp [hb]
      have := Utf8.le_of_mem_encodeChar (by omega) hmem0
      exact absurd this (by decide)
  cases hlegacy : f.legacy with
  | true => simp [isSkipped, hcr, hlf]
  | false => simp [isSkipped, hcr, hlf, hnul hlegacy]

theorem exists_wire (hf : f.Headed) :
    ∃ b bytes, f.wire = b :: bytes ∧ isSkipped f.legacy b = false := by
  obtain ⟨b, bs, hcommand, hb⟩ := exists_encode_command hf
  have hwire : ∃ bytes, f.wire = b :: bytes := by
    rw [Frame.wire, f.encode_headText, block, hcommand]
    exact ⟨_, rfl⟩
  obtain ⟨bytes, hbytes⟩ := hwire
  exact ⟨b, bytes, hbytes, hb⟩

theorem ready_of_splitHead? {legacy : Bool} {run bytes block after : Bytes} {b : UInt8}
    (hrun : ∀ b ∈ run, isSkipped legacy b = true) (hb : isSkipped legacy b = false)
    (hsplit : splitHead? (b :: bytes) = some (block, after)) :
    ready { legacy, buffer := run ++ b :: bytes } =
      { legacy, buffer := after, head? := some (Head.ofBlock block) } := by
  have hskip : (run ++ b :: bytes).dropWhile (isSkipped legacy) = b :: bytes := by
    rw [List.dropWhile_append_of_pos hrun]
    exact List.dropWhile_cons_of_neg (by simp [hb])
  rw [ready_of_no_head rfl]
  simp only [takeHead, hskip, hsplit]

/-- A parser that is ready with a head gives what is made of the head and the body, if the head
does not make it look for the end of the body elsewhere. -/
theorem next_of_ready {p : Parser} {legacy : Bool} {head : Head} {buffer body rest : Bytes}
    (hready : p.ready = { legacy, buffer, head? := some head })
    (hbody : splitBody? head.bodyLength? buffer = some (body, rest)) :
    p.next.1.result? = some (head.frame legacy body) ∧ p.next.2 = { legacy, buffer := rest } := by
  have htake : p.ready.takeFrame =
      (some (head.frame legacy body), { legacy, buffer := rest }) := by
    rw [hready, takeFrame]
    simp only [hbody]
  rw [result?_next, snd_next, htake]
  exact ⟨rfl, rfl⟩

theorem ready_headed (hf : f.Headed) {run : Bytes}
    (hrun : ∀ b ∈ run, isSkipped f.legacy b = true) (rest : Bytes) :
    ready { legacy := f.legacy, buffer := run ++ (f.wire ++ rest) } =
      { legacy := f.legacy, buffer := f.body ++ 0 :: rest,
        head? := some (Head.ofBlock (Utf8.encode f.headText)) } := by
  obtain ⟨b, bytes, hbytes, hb⟩ := exists_wire hf
  have hwire : f.wire ++ rest = Utf8.encode f.headText ++ 10 :: 10 :: (f.body ++ 0 :: rest) := by
    simp [Frame.wire]
  have hfeed : 10 ∉ Utf8.encode f.command.toList :=
    fun h => (Utf8.not_lineEnd_of_mem_encode hf.command_line 10 h).2 rfl
  have hsplit : splitHead? (f.wire ++ rest) =
      some (Utf8.encode f.headText, f.body ++ 0 :: rest) := by
    rw [hwire, f.encode_headText]
    exact splitHead?_block hfeed (List.forall_mem_map.2 hf.fills) _
  rw [hbytes] at hsplit ⊢
  exact ready_of_splitHead? hrun hb hsplit

theorem next_headed (hf : f.Headed) {head : Head}
    (hhead : Head.ofBlock (Utf8.encode f.headText) = head) {run : Bytes}
    (hrun : ∀ b ∈ run, isSkipped f.legacy b = true) {rest : Bytes}
    (hbody : splitBody? head.bodyLength? (f.body ++ 0 :: rest) = some (f.body, rest)) :
    let p : Parser := { legacy := f.legacy, buffer := run ++ (f.wire ++ rest) }
    p.next.1.result? = some (head.frame f.legacy f.body) ∧
      p.next.2 = { legacy := f.legacy, buffer := rest } :=
  next_of_ready (hhead ▸ ready_headed hf hrun rest) hbody

theorem ready_legible (hf : f.Legible) {run : Bytes}
    (hrun : ∀ b ∈ run, isSkipped f.legacy b = true) (rest : Bytes) :
    ready { legacy := f.legacy, buffer := run ++ (f.wire ++ rest) } =
      { legacy := f.legacy, buffer := f.body ++ 0 :: rest, head? := some f.wireHead } := by
  rw [ready_headed hf.headed hrun, hf.ofBlock_headText]

theorem next_legible (hf : f.Legible) {run : Bytes}
    (hrun : ∀ b ∈ run, isSkipped f.legacy b = true) {rest : Bytes}
    (hbody : splitBody? f.wireHead.bodyLength? (f.body ++ 0 :: rest) = some (f.body, rest)) :
    let p : Parser := { legacy := f.legacy, buffer := run ++ (f.wire ++ rest) }
    p.next.1.result? = some (f.wireHead.frame f.legacy f.body) ∧
      p.next.2 = { legacy := f.legacy, buffer := rest } :=
  next_headed hf.headed hf.ofBlock_headText hrun hbody

end Parser

/-! ## Measured frames -/

namespace Frame

/-- A length is stated only where it is the one of the body, and a body that is not announced ends
at the first NUL. -/
structure Measured (f : Frame) : Prop where
  length_stated : (f.get? Name.contentLength).isSome → f.announcesLength = true
  /-- Numerals are written and read up to a limit, which no body in a memory reaches. -/
  length_lt : f.announcesLength = true → f.body.length < 10 ^ Numeral.digitLimit
  no_nul : f.announcesLength = false → 0 ∉ f.body

theorem legacy_of_announcesLength {f : Frame} (h : f.announcesLength = true) :
    f.legacy = false := by
  rw [announcesLength, Bool.and_assoc, Bool.and_eq_true, Bool.not_eq_true'] at h
  exact h.1

theorem ne_nil_of_announcesLength {f : Frame} (h : f.announcesLength = true) : f.body ≠ [] := by
  intro hbody
  rw [announcesLength, hbody] at h
  simp at h

theorem Measured.get?_contentLength {f : Frame} (hf : f.Measured) :
    f.wireHeaders.get? Name.contentLength =
      if f.announcesLength then some f.lengthEntry.2 else none := by
  unfold wireHeaders
  split
  · rw [Headers.get?_insert, if_pos rfl]
    rfl
  · rename_i hannounced
    by_contra hne
    exact hannounced (hf.length_stated (Option.isSome_iff_ne_none.2 hne))

end Frame

namespace Head

open Stomp.Frame (wireText)

theorem latin_wireText_digits (n : Nat) :
    latin (wireText false (String.ofList (Numeral.digits n))) = Numeral.digits n := by
  have hdigit : ∀ c ∈ Numeral.digits n, 48 ≤ c.toNat ∧ c.toNat ≤ 57 := fun c hc =>
    Numeral.toNat_of_isDigit (Numeral.isDigit_of_mem_digits hc)
  rw [wireText, String.toList_ofList, Escape.encode_eq_self, latin_encode]
  · intro c hc
    have := hdigit c hc
    omega
  · intro c hc
    have := hdigit c hc
    refine ⟨?_, ?_, ?_, ?_⟩ <;> rintro rfl <;> revert this <;> decide

variable {f : Frame}

theorem announced_of_measured (hf : f.Legible) (hm : f.Measured) :
    f.wireHead.announced = if f.announcesLength then .length f.body.length else .nothing := by
  rw [announced_wireHead hf, hm.get?_contentLength]
  split_ifs with h
  · have hread := Numeral.read_digits (hm.length_lt h)
    simp only [Frame.lengthEntry, Frame.legacy_of_announcesLength h, latin_wireText_digits, hread]
  · rfl

theorem heard_of_measured (hf : f.Legible) (hm : f.Measured) : f.heard = f.wireHeaders := by
  rw [Frame.heard, ignored?, announced_of_measured hf hm]
  cases f.announcesLength <;> rfl

theorem bodyLength?_of_measured (hf : f.Legible) (hm : f.Measured) :
    f.wireHead.bodyLength? = if f.announcesLength then some f.body.length else none := by
  rw [bodyLength?, announced_of_measured hf hm]
  split_ifs with h
  · have hpos := List.length_pos_iff.2 (Frame.ne_nil_of_announcesLength h)
    simp [hpos]
  · rfl

end Head

namespace Parser

variable {f : Frame}

theorem splitBody?_of_measured (hf : f.Legible) (hm : f.Measured) (rest : Bytes) :
    splitBody? f.wireHead.bodyLength? (f.body ++ 0 :: rest) = some (f.body, rest) := by
  rw [Head.bodyLength?_of_measured hf hm]
  split_ifs with h
  · exact splitBody?_some_iff.2 ⟨0, rfl, rfl⟩
  · exact splitBody?_none_iff.2 ⟨rfl, hm.no_nul (by simpa using h)⟩

theorem next_measured (hf : f.Legible) (hm : f.Measured) {run : Bytes}
    (hrun : ∀ b ∈ run, isSkipped f.legacy b = true) (rest : Bytes) :
    let p : Parser := { legacy := f.legacy, buffer := run ++ (f.wire ++ rest) }
    p.next.1.result? = some (f.wireHead.frame f.legacy f.body) ∧
      p.next.2 = { legacy := f.legacy, buffer := rest } :=
  next_legible hf hrun (splitBody?_of_measured hf hm rest)

end Parser

end Stomp
