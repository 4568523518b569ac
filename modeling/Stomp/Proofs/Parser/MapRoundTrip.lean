import Stomp.Proofs.Json.RoundTrip
import Stomp.Proofs.Parser.Spelling

/-!
# Map frames read back

A map frame is written with its structure as JSON in its body and read back with an equal structure,
in either form (`receiveAll_map`). What is written of a structure is printable ASCII: the body has
no NUL, so that it needs no announced length to be told from what follows it.
-/

namespace Stomp

namespace Utf8

theorem length_encode_of_lt {cs : List Char} (h : ∀ c ∈ cs, c.toNat < 0x80) :
    (encode cs).length = cs.length := by
  induction cs with
  | nil => rfl
  | cons c cs ih =>
      obtain ⟨hc, hcs⟩ := List.forall_mem_cons.1 h
      rw [encode_cons, encodeChar_of_lt hc, List.singleton_append, List.length_cons, ih hcs,
        List.length_cons]

end Utf8

namespace Json

section Text

variable {cs : List Char}

theorem length_encode_of_printable (h : ∀ c ∈ cs, Printable c) :
    (Utf8.encode cs).length = cs.length := by
  apply Utf8.length_encode_of_lt
  intro c hc
  have := (h c hc).2
  omega

theorem zero_not_mem_encode_of_printable (h : ∀ c ∈ cs, Printable c) : 0 ∉ Utf8.encode cs := by
  intro h0
  have hchar := Utf8.ofNat_mem_of_mem_encode h0 (by decide)
  exact absurd (h _ hchar) (by decide)

theorem Opens.encode_ne_nil (h : Opens cs) : Utf8.encode cs ≠ [] := by
  obtain ⟨c, rest, rfl, -⟩ := h
  rw [Ne, Utf8.encode_eq_nil_iff]
  exact List.cons_ne_nil c rest

end Text

theorem readMap_overlong {n : Int} (h : 10 ^ Numeral.digitLimit ≤ n.natAbs) :
    Frame.readMap (Utf8.encode (Numeral.write n)) =
      .error (.json (.tooManyDigits (Numeral.digits n.natAbs).length)) := by
  rw [Frame.readMap, if_neg (opens_write n).encode_ne_nil, Utf8.decode_encode]
  simp only [read_overlong h]

namespace Written

variable {j : Json} {cs : List Char}

theorem length_encode (h : Written j cs) : (Utf8.encode cs).length = cs.length :=
  length_encode_of_printable h.printable

theorem zero_not_mem_encode (h : Written j cs) : 0 ∉ Utf8.encode cs :=
  zero_not_mem_encode_of_printable h.printable

theorem encode_ne_nil (h : Written j cs) : Utf8.encode cs ≠ [] := h.opens.encode_ne_nil

theorem readMap_encode (h : Written j cs) : Frame.readMap (Utf8.encode cs) = .ok j := by
  rw [Frame.readMap, if_neg h.encode_ne_nil, Utf8.decode_encode]
  simp only [h.read_eq]

end Written

end Json

namespace Frame

def mapped (f : Frame) (j : Json) (cs : List Char) : Frame :=
  { f with
    headers := f.headers.insert Name.transformation (.text mapTransformation)
    body := Utf8.encode cs
    map? := some j }

variable {f : Frame} {j : Json} {cs : List Char}

theorem withMap_of_structure (hj : ∀ s, j ≠ .text s) :
    f.withMap j = .ok ({ f with body := [], map? := some j }.set Name.transformation
      (.text mapTransformation)) := by
  rw [withMap]
  exact hj

theorem legible_mapped (hf : (f.set Name.transformation .absent).Legible) :
    (f.mapped j cs).Legible where
  command_ne := hf.command_ne
  command_line := hf.command_line
  command_head := hf.command_head
  headers e he := by
    have htransformation :
        LegibleHeader f.legacy (Name.transformation, .text mapTransformation) := by
      apply legibleHeader_plain f.legacy (by decide)
      · rw [← List.forall_iff_forall_mem]
        decide
      · rw [← List.forall_iff_forall_mem]
        decide
    rcases Headers.mem_insert he with ⟨he, hname⟩ | rfl
    · exact hf.headers e (List.mem_filter.2 ⟨he, by simpa using hname⟩)
    · exact htransformation

theorem rendered_withMap (hf : (f.set Name.transformation .absent).Legible)
    (h : j.writeChars = .ok cs) :
    ({ f with body := [], map? := some j }.set Name.transformation
      (.text mapTransformation)).rendered = .ok (f.mapped j cs) := by
  refine rendered_of_legible ?_ (legible_mapped hf)
  simp only [filled, set, h]
  rfl

theorem announcesLength_mapped (hcs : j.Written cs) :
    (f.mapped j cs).announcesLength = (f.lengthHint && !f.legacy) := by
  have hbody : (Utf8.encode cs).isEmpty = false := by simpa using hcs.encode_ne_nil
  have hzero : (Utf8.encode cs).contains 0 = false := by simpa using hcs.zero_not_mem_encode
  simp only [announcesLength, mapped, hbody, hzero, Bool.not_false, Bool.and_true, Bool.or_false]
  exact Bool.and_comm _ _

theorem get?_contentLength_mapped :
    (f.mapped j cs).get? Name.contentLength = f.get? Name.contentLength := by
  have hname : Name.transformation ≠ Name.contentLength := by decide
  rw [get?, mapped, Headers.get?_insert, if_neg hname]
  rfl

theorem measured_mapped (hcs : j.Written cs) (hlength : f.get? Name.contentLength = none)
    (hsize : f.legacy = false → f.lengthHint = true → cs.length < 10 ^ Numeral.digitLimit) :
    (f.mapped j cs).Measured where
  length_stated h := by
    rw [get?_contentLength_mapped, hlength] at h
    cases h
  length_lt h := by
    rw [announcesLength_mapped hcs, Bool.and_eq_true, Bool.not_eq_true'] at h
    have hbody : (f.mapped j cs).body.length = cs.length := hcs.length_encode
    rw [hbody]
    exact hsize h.2 h.1
  no_nul _ := hcs.zero_not_mem_encode

theorem entries_wireHeaders_mapped (hcs : j.Written cs)
    (hlength : f.get? Name.contentLength = none) :
    (f.mapped j cs).wireHeaders.entries =
      (f.set Name.transformation (.text mapTransformation)).headers.entries ++
        if f.lengthHint && !f.legacy then [(f.mapped j cs).lengthEntry] else [] := by
  have hset : (f.set Name.transformation (.text mapTransformation)).headers =
      (f.mapped j cs).headers := rfl
  have hname : Name.contentLength ∉ (f.mapped j cs).headers.names := by
    have hget : (f.mapped j cs).headers.get? Name.contentLength = none :=
      get?_contentLength_mapped.trans hlength
    rw [Headers.mem_names_iff, hget]
    nofun
  rw [wireHeaders, announcesLength_mapped hcs, hset]
  split
  · rw [Headers.entries_insert, if_neg hname]
    rfl
  · rw [List.append_nil]

end Frame

namespace Parser

theorem spells_mapped {f : Frame} {j : Json} {cs : List Char}
    (hf : (f.set Name.transformation .absent).Legible) (hcs : j.Written cs)
    (hlength : f.get? Name.contentLength = none)
    (hsize : f.legacy = false → f.lengthHint = true → cs.length < 10 ^ Numeral.digitLimit) :
    Spells f.legacy (f.mapped j cs).wire
      { command := f.command, headers := (f.mapped j cs).wireHeaders, body := Utf8.encode cs,
        map? := some j, legacy := f.legacy } := by
  have hlegible : (f.mapped j cs).Legible := Frame.legible_mapped hf
  have hmeasured := Frame.measured_mapped hcs hlength hsize
  have hmap : (f.mapped j cs).get? Name.transformation = some (.text mapTransformation) := by
    rw [Frame.get?, Frame.mapped, Headers.get?_insert, if_pos rfl]
  have hframe := Head.frame_wireHead_of_map hlegible hmap hcs.readMap_encode
  rw [Head.heard_of_measured hlegible hmeasured] at hframe
  exact spells_of_measured hlegible hmeasured hframe

/-- A frame is given a structure, written, and read back from any chunks, in either form: there is
one frame, with the command, the headers, to which the transformation and maybe the length of the
body are added, and the structure. -/
theorem receiveAll_map {f : Frame} {j : Json} (hj : j.Proper) (hreals : j.RealFree)
    (hstructure : ∀ s, j ≠ .text s) (hf : (f.set Name.transformation .absent).Legible)
    (hlength : f.get? Name.contentLength = none)
    (hsize : f.legacy = false → f.lengthHint = true →
      ∀ cs, j.writeChars = .ok cs → cs.length < 10 ^ Numeral.digitLimit) :
    ∃ m g r, f.withMap j = .ok m ∧ m.rendered = .ok g ∧ 0 ∉ g.body ∧
      (∀ chunks : List Bytes, chunks.flatten = g.wire →
        ({ legacy := f.legacy } : Parser).receiveAll chunks = ([.ok r], { legacy := f.legacy })) ∧
      r.command = f.command ∧
      r.headers.entries = (f.set Name.transformation (.text mapTransformation)).headers.entries ++
        (if f.lengthHint && !f.legacy then [g.lengthEntry] else []) ∧
      r.map? = some j ∧ r.legacy = f.legacy := by
  obtain ⟨cs, hcs⟩ := Json.exists_written hj hreals
  have hsize' : f.legacy = false → f.lengthHint = true → cs.length < 10 ^ Numeral.digitLimit :=
    fun hlegacy hhint => hsize hlegacy hhint cs hcs.writeChars
  have hspells := spells_mapped hf hcs hlength hsize'
  let r : Frame :=
    { command := f.command, headers := (f.mapped j cs).wireHeaders, body := Utf8.encode cs,
      map? := some j, legacy := f.legacy }
  refine ⟨_, f.mapped j cs, r, Frame.withMap_of_structure hstructure,
    Frame.rendered_withMap hf hcs.writeChars, hcs.zero_not_mem_encode, ?_, rfl, ?_, rfl, rfl⟩
  · exact fun chunks hchunks => hspells.receiveAll_eq hchunks
  · exact Frame.entries_wireHeaders_mapped hcs hlength

def letter : Frame where
  command := "SEND"
  headers := { entries := [("transformation", .text "old\r"), ("note", .text "two\nlines")] }
  legacy := true
  lengthHint := true

/-- A structure with a character beyond U+FFFF in a name, and a quote and a NUL in a text. -/
def tree : Json :=
  .object [("😀", .list [.int (-12), .text "\"\x00", .bool true, .null]), ("", .object [])]

theorem legible_letter : (letter.set Name.transformation .absent).Legible where
  command_ne := by decide
  command_line := by
    rw [← List.forall_iff_forall_mem]
    decide
  command_head := nofun
  headers := by
    have hentries : (letter.set Name.transformation .absent).headers.entries =
        [("note", .text "two\nlines")] := by decide
    rw [hentries, List.forall_mem_singleton]
    apply Frame.legibleHeader_plain true (by decide)
    · rw [← List.forall_iff_forall_mem]
      decide
    · rw [← List.forall_iff_forall_mem]
      decide

theorem proper_tree : tree.Proper := by
  have htwelve : (-12 : Int).natAbs < 10 ^ Numeral.digitLimit := by
    have hten : (-12 : Int).natAbs < 10 ^ 2 := by decide
    exact hten.trans_le (Nat.pow_le_pow_right (by decide) (by decide))
  have hitems : (Json.list [.int (-12), .text "\"\x00", .bool true, .null]).Proper := by
    apply Json.Proper.list
    simp only [List.forall_mem_cons]
    exact ⟨.int htwelve, .text _, .bool _, .null, nofun⟩
  apply Json.Proper.object (by decide)
  simp only [List.forall_mem_cons]
  exact ⟨hitems, .object (by decide) nofun, nofun⟩

theorem realFree_tree : tree.RealFree := by
  have hitems : (Json.list [.int (-12), .text "\"\x00", .bool true, .null]).RealFree := by
    apply Json.RealFree.list
    simp only [List.forall_mem_cons]
    exact ⟨.int _, .text _, .bool _, .null, nofun⟩
  apply Json.RealFree.object
  simp only [List.forall_mem_cons]
  exact ⟨hitems, .object nofun, nofun⟩

theorem receiveAll_map_tree :
    ∃ m g r, letter.withMap tree = .ok m ∧ m.rendered = .ok g ∧ 0 ∉ g.body ∧
      (∀ chunks : List Bytes, chunks.flatten = g.wire →
        ({ legacy := true } : Parser).receiveAll chunks = ([.ok r], { legacy := true })) ∧
      r.command = "SEND" ∧
      r.headers.entries =
        [("transformation", .text "jms-map-json"), ("note", .text "two\nlines")] ++ [] ∧
      r.map? = some tree ∧ r.legacy = true :=
  receiveAll_map proper_tree realFree_tree nofun legible_letter (by decide) nofun

end Parser

end Stomp
