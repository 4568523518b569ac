import Stomp.Proofs.Json.Reading
import Stomp.Proofs.Parser.MapRoundTrip
import Stomp.Proofs.Parser.Received

/-!
# Map frames that are passed on

A map frame that was received is written with the headers that it came with and a new text of its
structure. It is read as the same map frame if its head announces no length, or the length that the
new text has, and only then (`forwarded_iff`). A length that was announced with the text that came
is not brought up to date, so a text that is spelled with other blanks or escapes loses the frame
and what follows it.
-/

namespace Stomp

/-- The length of the body that the head of the frame announces to its reader. -/
def Frame.announcedLength? (f : Frame) : Option Nat :=
  (Head.ofBlock (Utf8.encode f.headText)).bodyLength?

theorem Frame.names_heard {f : Frame} (hf : f.Legible) : f.heard.names = f.wireHeaders.names := by
  unfold heard
  split
  · rename_i hignored
    have hmem := Head.mem_names_of_ignored hf hignored
    exact (Assoc.names_insert _ _ _).trans (if_pos hmem)
  · rfl

namespace Parser

variable {f : Frame}

theorem Spells.exists_splitBody? (hf : f.Legible) {r : Frame} (h : Spells f.legacy f.wire r)
    (rest : Bytes) :
    ∃ body, splitBody? f.wireHead.bodyLength? (f.body ++ 0 :: rest) = some (body, rest) := by
  have hready : ready { legacy := f.legacy, buffer := f.wire ++ rest } =
      { legacy := f.legacy, buffer := f.body ++ 0 :: rest, head? := some f.wireHead } :=
    ready_legible hf (List.forall_mem_nil _) rest
  obtain ⟨hresult, hleft⟩ := h rest
  rw [Parser.result?_next, hready] at hresult
  rw [snd_next, hready] at hleft
  obtain ⟨head, body, after, hhead, hbody, -, htake⟩ := takeFrame_of_some hresult
  rw [htake] at hleft
  obtain rfl : after = rest := congrArg Parser.buffer hleft
  obtain rfl : f.wireHead = head := Option.some.inj hhead
  exact ⟨body, hbody⟩

theorem bodyLength?_of_spells (hf : f.Legible) {r : Frame} (h : Spells f.legacy f.wire r) :
    f.wireHead.bodyLength? = none ∨ f.wireHead.bodyLength? = some f.body.length := by
  cases hlength : f.wireHead.bodyLength? with
  | none => exact Or.inl rfl
  | some n =>
      obtain ⟨body, hsplit⟩ := h.exists_splitBody? hf []
      rw [hlength, splitBody?_some_iff] at hsplit
      obtain ⟨b, hsame, rfl⟩ := hsplit
      have hlengths := congrArg List.length hsame
      simp only [List.length_append, List.length_singleton] at hlengths
      exact Or.inr (congrArg some (by omega))

theorem spells_of_bodyLength? (hf : f.Legible) (hbody : 0 ∉ f.body)
    (hlength : f.wireHead.bodyLength? = none ∨ f.wireHead.bodyLength? = some f.body.length)
    {g : Frame} (hg : f.wireHead.frame f.legacy f.body = .ok g) : Spells f.legacy f.wire g := by
  intro rest
  have hsplit : splitBody? f.wireHead.bodyLength? (f.body ++ 0 :: rest) =
      some (f.body, rest) := by
    rcases hlength with hlength | hlength
    · rw [hlength, splitBody?_none_iff]
      exact ⟨rfl, hbody⟩
    · rw [hlength, splitBody?_some_iff]
      exact ⟨0, rfl, rfl⟩
  have hnext := next_legible hf (List.forall_mem_nil _) hsplit
  rw [hg] at hnext
  exact hnext

/-- What is written of `h` is read as one map frame that agrees with `g`, but for the text of a
content-length, and what follows it is left alone. -/
def Forwarded (g h : Frame) : Prop :=
  ∃ r, Spells false h.wire r ∧ r.command = g.command ∧ r.headers.names = g.headers.names ∧
    (∀ name, name ≠ Name.contentLength → r.get? name = g.get? name) ∧ r.map? = g.map?

/-- What is made of a map frame with a new text of its structure, and is it again when it is read:
exactly the frames whose head does not announce another length than that of the text. -/
theorem forwarded_iff_of_written {g h : Frame} {j : Json} {cs : List Char} (hh : h.Legible)
    (hcs : j.Written cs) (hbody : h.body = Utf8.encode cs) (hcommand : h.command = g.command)
    (hheaders : h.headers = g.headers) (hlegacy : h.legacy = false) (hhint : h.lengthHint = false)
    (hmap : g.get? Name.transformation = some (.text mapTransformation)) (hj : g.map? = some j) :
    Forwarded g h ↔
      h.wireHead.bodyLength? = none ∨ h.wireHead.bodyLength? = some h.body.length := by
  have hzero : 0 ∉ h.body := hbody ▸ hcs.zero_not_mem_encode
  constructor
  · rintro ⟨r, hr, -⟩
    exact bodyLength?_of_spells hh (hlegacy.symm ▸ hr)
  · intro hfits
    have hread : Frame.readMap h.body = .ok j := hbody ▸ hcs.readMap_encode
    have hmap' : h.get? Name.transformation = some (.text mapTransformation) := by
      rw [← hmap, Frame.get?, Frame.get?, hheaders]
    have hspells := spells_of_bodyLength? hh hzero hfits (Head.frame_wireHead_of_map hh hmap' hread)
    rw [hlegacy] at hspells
    have hannounces : h.announcesLength = false := by simp [Frame.announcesLength, hhint, hzero]
    refine ⟨_, hspells, hcommand, ?_, fun name hname => ?_, hj.symm⟩
    · calc h.heard.names
        _ = h.wireHeaders.names := Frame.names_heard hh
        _ = h.headers.names := by rw [Frame.wireHeaders, if_neg (by simp [hannounces])]
        _ = g.headers.names := by rw [hheaders]
    · calc h.heard.get? name
        _ = h.headers.get? name := h.get?_heard hname
        _ = g.headers.get? name := by rw [hheaders]

/-- A map frame that was received can always be written again. It is read as the same map frame,
whatever follows it, if and only if its head announces no length or the one of the new body. -/
theorem forwarded_iff {chunks : List Bytes} {g : Frame} {j : Json}
    (hg : .ok g ∈ (({} : Parser).receiveAll chunks).1) (hj : g.map? = some j)
    (hreals : j.RealFree) (hcommand : '\r' ∉ g.command.toList) (hnames : "" ∉ g.headers.names) :
    ∃ h, g.rendered = .ok h ∧ (Forwarded g h ↔
      h.announcedLength? = none ∨ h.announcedLength? = some h.body.length) := by
  obtain ⟨head, buffer, body, after, htaken, -, hframe⟩ := made_of_mem_receiveAll hg
  obtain ⟨pairs, hread⟩ := Head.exists_readAs hframe.symm
  obtain ⟨hasks, hmap⟩ := hread.map j hj
  obtain ⟨cs, hcs⟩ := Json.exists_written (Json.proper_of_readMap hmap) hreals
  have hlegible := hread.legible htaken hcommand hnames
  have htransformation := hread.get?_transformation htaken hasks
  let h : Frame := { g with body := Utf8.encode cs, map? := some j }
  have hh : h.Legible :=
    ⟨hlegible.command_ne, hlegible.command_line, hlegible.command_head, hlegible.headers⟩
  have hrendered : g.rendered = .ok h := by
    refine Frame.rendered_of_legible ?_ hh
    simp only [Frame.filled, hj, hcs.writeChars, h]
  refine ⟨h, hrendered, ?_⟩
  rw [Frame.announcedLength?, hh.ofBlock_headText]
  exact forwarded_iff_of_written hh hcs rfl rfl rfl hread.legacy hread.lengthHint htransformation hj

def loose : String := "\x7b\"a\": 1\x7d"

def tight : String := "\x7b\"a\":1\x7d"

/-- A map frame of one member, with a length and a text of its structure. -/
def relay (length : Nat) (text : String) : Frame where
  command := "MESSAGE"
  headers :=
    { entries := [("transformation", .text "jms-map-json"),
        ("content-length", .text (String.ofList (Numeral.digits length)))]
      nodup_names := show ["transformation", "content-length"].Nodup by decide }
  body := Bytes.ofString text
  map? := some (.object [("a", .int 1)])

theorem legible_relay (length : Nat) (text : String) : (relay length text).Legible where
  command_ne := show "MESSAGE" ≠ "" by decide
  command_line := by
    show ∀ c ∈ "MESSAGE".toList, _
    rw [← List.forall_iff_forall_mem]
    decide
  command_head _ := show "MESSAGE".toList.head? ≠ some '\x00' by decide
  headers e he := by
    have hproper : ∀ e ∈ (relay length text).headers.entries, e.2.Proper ∧ e ≠ ("", .bare) := by
      simp only [relay, List.forall_mem_cons]
      exact ⟨⟨by decide, by decide⟩, ⟨Numeral.digits_ne_empty length, by simp⟩,
        List.forall_mem_nil _⟩
    exact Frame.legibleHeader_false (hproper e he).1 (hproper e he).2

theorem mem_receiveAll_relay {length : Nat} {text : String} (hzero : 0 ∉ (relay length text).body)
    (hlength : (relay length text).wireHead.bodyLength? = some (relay length text).body.length)
    (hheard : (relay length text).heard = (relay length text).headers)
    (hread : Frame.readMap (relay length text).body = .ok (.object [("a", .int 1)])) :
    .ok (relay length text) ∈ (({} : Parser).receiveAll [(relay length text).wire]).1 := by
  have hmade := Head.frame_wireHead_of_map (legible_relay length text) rfl hread
  rw [hheard] at hmade
  have hspells : Spells false (relay length text).wire (relay length text) :=
    spells_of_bodyLength? (legible_relay length text) hzero (Or.inr hlength) hmade
  rw [hspells.receiveAll_eq (by simp)]
  exact List.mem_singleton_self _

theorem realFree_relay : (Json.object [("a", .int 1)]).RealFree := by
  apply Json.RealFree.object
  rw [List.forall_mem_singleton]
  exact .int 1

theorem written_loose : Json.Written (.object [("a", .int 1)]) loose.toList := by
  have hone : (1 : Int).natAbs < 10 ^ Numeral.digitLimit := Nat.one_lt_pow (by decide) (by decide)
  have htext : loose.toList = '\x7b' :: (Json.writeText "a" ++
      ':' :: ' ' :: (Numeral.write 1 ++ ['\x7d'])) := by
    decide +kernel
  rw [htext]
  exact Json.written_object (by decide) (Json.written_int hone) Json.writtenMembers_nil

theorem rendered_relay (length : Nat) (text : String) :
    (relay length text).rendered = .ok (relay length loose) := by
  refine Frame.rendered_of_legible ?_ (legible_relay length loose)
  simp only [Frame.filled, relay, written_loose.writeChars]
  rfl

theorem eq_of_single {r : Except MapFault Json}
    (h : (match r with | .ok (.object [("a", .int 1)]) => true | _ => false) = true) :
    r = .ok (.object [("a", .int 1)]) := by
  split at h
  · rfl
  · cases h

theorem readMap_tight : Frame.readMap (relay 7 tight).body = .ok (.object [("a", .int 1)]) :=
  eq_of_single (by decide +kernel)

/-- A text that is as it is written keeps its length. -/
theorem forwarded_relay :
    ∃ h, (relay 8 loose).rendered = .ok h ∧ Forwarded (relay 8 loose) h := by
  have hmem : .ok (relay 8 loose) ∈ (({} : Parser).receiveAll [(relay 8 loose).wire]).1 :=
    mem_receiveAll_relay (by decide) (by decide +kernel) (by decide +kernel)
      written_loose.readMap_encode
  obtain ⟨h, hh, hiff⟩ := forwarded_iff hmem rfl realFree_relay (by decide) (by decide)
  obtain rfl : relay 8 loose = h := Except.ok.inj ((rendered_relay 8 loose).symm.trans hh)
  exact ⟨_, hh, hiff.2 (Or.inr (by decide +kernel))⟩

/-- With another text the frame is received, but not read again from what is written of it. -/
theorem not_forwarded_relay :
    .ok (relay 7 tight) ∈ (({} : Parser).receiveAll [(relay 7 tight).wire]).1 ∧
      (relay 7 tight).rendered = .ok (relay 7 loose) ∧
      ¬ Forwarded (relay 7 tight) (relay 7 loose) := by
  refine ⟨?_, rendered_relay 7 tight, ?_⟩
  · exact mem_receiveAll_relay (by decide) (by decide +kernel) (by decide +kernel) readMap_tight
  · rintro ⟨r, hr, -⟩
    have hlength := bodyLength?_of_spells (legible_relay 7 _) hr
    revert hlength
    decide +kernel

end Parser

end Stomp
