import Stomp.Frame.Wire
import Stomp.Proofs.Header.LegacyEscape
import Stomp.Proofs.Header.Table
import Stomp.Proofs.Parser.Lines
import Stomp.Proofs.Text.Numeral
import Stomp.Proofs.Text.Utf8

/-!
# The head of a frame on the wire

Escaped and encoded, the names and values of legible headers hold no line ends, and their names no
colons. So the head of a legible frame is a block of lines (`encode_headText`), each header has one
of them, and what stands on it is the name and the value of the header (`splitHeader_headerLine`).
-/

namespace Stomp

namespace Utf8

theorem ne_of_mem_encode {cs : List Char} {n : UInt8} (hn : n.toNat < 0x80)
    (h : Char.ofNat n.toNat ∉ cs) : ∀ b ∈ encode cs, b ≠ n := by
  rintro b hb rfl
  exact h (ofNat_mem_of_mem_encode hb hn)

theorem not_lineEnd_of_mem_encode {cs : List Char} (h : ∀ c ∈ cs, c ≠ '\r' ∧ c ≠ '\n') :
    ∀ b ∈ encode cs, b ≠ 13 ∧ b ≠ 10 := by
  intro b hb
  constructor
  · exact ne_of_mem_encode (by decide) (fun hc => (h _ hc).1 rfl) b hb
  · exact ne_of_mem_encode (by decide) (fun hc => (h _ hc).2 rfl) b hb

theorem isLine_encode {cs : List Char} (hne : cs ≠ []) (h : ∀ c ∈ cs, c ≠ '\r' ∧ c ≠ '\n') :
    Parser.IsLine (encode cs) :=
  ⟨fun henc => hne ((encode_eq_nil_iff cs).1 henc), not_lineEnd_of_mem_encode h⟩

end Utf8

namespace Frame

/-- A header that fills a line, from which it is read back. -/
structure LegibleHeader (legacy : Bool) (e : String × HeaderValue) : Prop where
  proper : e.2.Proper
  ne_nothing : e ≠ ("", .bare)
  name_clean : Escape.Clean legacy e.1.toList
  name_colon : legacy = true → ':' ∉ e.1.toList
  value_clean (s : String) : e.2 = .text s → Escape.Clean legacy s.toList

/-- A frame whose head can be taken apart. The command stands on a line of its own and is not taken
for what a parser skips, and each header fills a line. -/
structure Legible (f : Frame) : Prop where
  command_ne : f.command ≠ ""
  command_line : ∀ c ∈ f.command.toList, c ≠ '\r' ∧ c ≠ '\n'
  command_head : f.legacy = false → f.command.toList.head? ≠ some '\x00'
  headers : ∀ e ∈ f.headers.entries, LegibleHeader f.legacy e

theorem legibleHeader_false {e : String × HeaderValue} (hproper : e.2.Proper)
    (hne : e ≠ ("", .bare)) : LegibleHeader false e :=
  ⟨hproper, hne, Escape.clean_false _, nofun, fun _ _ => Escape.clean_false _⟩

theorem legibleHeader_plain (legacy : Bool) {name value : String} (hvalue : value ≠ "")
    (hname : ∀ c ∈ name.toList, c ≠ '\\' ∧ c ≠ '\r' ∧ c ≠ ':')
    (hplain : ∀ c ∈ value.toList, c ≠ '\\' ∧ c ≠ '\r') :
    LegibleHeader legacy (name, .text value) where
  proper := hvalue
  ne_nothing h := nomatch congrArg Prod.snd h
  name_clean := Escape.clean_of_not_mem legacy fun c hc => ⟨(hname c hc).1, (hname c hc).2.1⟩
  name_colon _ hc := (hname ':' hc).2.2 rfl
  value_clean s hs := by
    obtain rfl := HeaderValue.text.inj hs
    exact Escape.clean_of_not_mem legacy hplain

/-! ## The headers on the wire -/

def lengthEntry (f : Frame) : String × HeaderValue :=
  (Name.contentLength, .text (String.ofList (Numeral.digits f.body.length)))

theorem legibleHeader_lengthEntry (legacy : Bool) (f : Frame) :
    LegibleHeader legacy f.lengthEntry := by
  apply legibleHeader_plain legacy (Numeral.digits_ne_empty _)
  · rw [← List.forall_iff_forall_mem]
    decide
  · intro c hc
    rw [String.toList_ofList] at hc
    have hdigit := Numeral.toNat_of_isDigit (Numeral.isDigit_of_mem_digits hc)
    constructor <;> rintro rfl <;> revert hdigit <;> decide

theorem mem_wireHeaders {f : Frame} {e : String × HeaderValue} (h : e ∈ f.wireHeaders.entries) :
    e ∈ f.headers.entries ∨ e = f.lengthEntry := by
  rw [wireHeaders] at h
  split at h
  · exact (Headers.mem_insert h).imp_left And.left
  · exact Or.inl h

theorem Legible.wireHeaders {f : Frame} (hf : f.Legible) :
    ∀ e ∈ f.wireHeaders.entries, LegibleHeader f.legacy e := by
  intro e he
  rcases mem_wireHeaders he with he | rfl
  · exact hf.headers e he
  · exact legibleHeader_lengthEntry f.legacy f

theorem Legible.number? {f : Frame} (hf : f.Legible) : f.number? = none := by
  rw [Frame.number?, List.findSome?_eq_none_iff]
  exact fun e he => (hf.wireHeaders e he).proper.number?

theorem rendered_of_legible {f g : Frame} (hfilled : f.filled = .ok g) (hg : g.Legible) :
    f.rendered = .ok g := by
  simp only [rendered, hfilled, hg.number?]

theorem announcesLength_of_legacy {f : Frame} (h : f.legacy = true) :
    f.announcesLength = false := by
  rw [announcesLength, h]
  rfl

theorem wireHeaders_of_legacy {f : Frame} (h : f.legacy = true) : f.wireHeaders = f.headers := by
  rw [wireHeaders, announcesLength_of_legacy h]
  rfl

theorem get?_wireHeaders (f : Frame) {name : String} (h : name ≠ Name.contentLength) :
    f.wireHeaders.get? name = f.get? name := by
  unfold wireHeaders
  split
  · rw [Headers.get?_insert, if_neg (Ne.symm h)]
    rfl
  · rfl

/-! ## Lines -/

def wireText (legacy : Bool) (s : String) : Bytes := Utf8.encode (Escape.encode legacy s.toList)

def wireLine (legacy : Bool) (e : String × HeaderValue) : Bytes × Option Bytes :=
  match e.2 with
  | .bare => (wireText legacy e.1, none)
  | .text s => (wireText legacy e.1, some (wireText legacy s))
  | .number n => (wireText legacy e.1, some (Utf8.encode (Numeral.write n)))

variable {legacy : Bool}

theorem wireText_inj {s t : String} (hs : Escape.Clean legacy s.toList)
    (ht : Escape.Clean legacy t.toList) (h : wireText legacy s = wireText legacy t) : s = t := by
  have henc : Escape.encode legacy s.toList = Escape.encode legacy t.toList :=
    Utf8.encode_injective h
  rw [← String.toList_inj, ← hs.decode_encode, henc, ht.decode_encode]

theorem fst_wireLine (e : String × HeaderValue) : (wireLine legacy e).1 = wireText legacy e.1 := by
  unfold wireLine
  split <;> rfl

theorem colon_not_mem_wireText {s : String} (h : legacy = true → ':' ∉ s.toList) :
    58 ∉ wireText legacy s :=
  fun hc => Utf8.ne_of_mem_encode (by decide) (Escape.colon_not_mem_encode h) 58 hc rfl

namespace LegibleHeader

variable {e : String × HeaderValue}

theorem headerLine_ne_nil (h : LegibleHeader legacy e) : headerLine legacy e.1 e.2 ≠ [] := by
  obtain ⟨name, v⟩ := e
  cases v with
  | text s => simp [headerLine]
  | number n => exact h.proper.elim
  | bare =>
      intro hnil
      have hname : name.toList = [] := Escape.encode_eq_nil legacy hnil
      exact h.ne_nothing (by rw [String.toList_eq_nil_iff.1 hname])

theorem not_lineEnd (h : LegibleHeader legacy e) :
    ∀ c ∈ headerLine legacy e.1 e.2, c ≠ '\r' ∧ c ≠ '\n' := by
  obtain ⟨name, v⟩ := e
  cases v with
  | bare => exact h.name_clean.not_lineEnd
  | number n => exact h.proper.elim
  | text s =>
      have hvalue := (h.value_clean s rfl).not_lineEnd
      exact List.forall_mem_append.2
        ⟨h.name_clean.not_lineEnd, List.forall_mem_cons.2 ⟨by decide, hvalue⟩⟩

theorem isLine (h : LegibleHeader legacy e) :
    Parser.IsLine (Utf8.encode (headerLine legacy e.1 e.2)) :=
  Utf8.isLine_encode h.headerLine_ne_nil h.not_lineEnd

theorem splitHeader_headerLine (h : LegibleHeader legacy e) :
    Head.splitHeader (Utf8.encode (headerLine legacy e.1 e.2)) = wireLine legacy e := by
  have hname := colon_not_mem_wireText h.name_colon
  obtain ⟨name, v⟩ := e
  cases v with
  | bare => exact Head.splitHeader_bare hname
  | number n => exact h.proper.elim
  | text s =>
      rw [headerLine, Utf8.encode_append, Utf8.encode_cons]
      exact Head.splitHeader_colon hname (wireText legacy s)

end LegibleHeader

theorem encode_headText (f : Frame) :
    Utf8.encode f.headText = Parser.block (Utf8.encode f.command.toList)
      (f.wireHeaders.entries.map fun e => Utf8.encode (headerLine f.legacy e.1 e.2)) := by
  rw [headText, Utf8.encode_append, Parser.block]
  congr 1
  induction f.wireHeaders.entries with
  | nil => rfl
  | cons e rest ih =>
      rw [List.flatMap_cons, Utf8.encode_append, ih, Utf8.encode_cons]
      rfl

def wireHead (f : Frame) : Head :=
  ⟨Utf8.encode f.command.toList, f.wireHeaders.entries.map (wireLine f.legacy)⟩

theorem Legible.isLine_command {f : Frame} (hf : f.Legible) :
    Parser.IsLine (Utf8.encode f.command.toList) :=
  Utf8.isLine_encode (fun h => hf.command_ne (String.toList_eq_nil_iff.1 h)) hf.command_line

theorem Legible.isLine_headers {f : Frame} (hf : f.Legible) :
    ∀ l ∈ f.wireHeaders.entries.map fun e => Utf8.encode (headerLine f.legacy e.1 e.2),
      Parser.IsLine l := by
  intro l hl
  obtain ⟨e, he, rfl⟩ := List.mem_map.1 hl
  exact (hf.wireHeaders e he).isLine

theorem Legible.nodup_wireLine {f : Frame} (hf : f.Legible) :
    ((f.wireHeaders.entries.map (wireLine f.legacy)).map Prod.fst).Nodup := by
  rw [List.map_map]
  apply List.Nodup.map_on
  · intro d hd e he h
    simp only [Function.comp_apply, fst_wireLine] at h
    have hname := wireText_inj (hf.wireHeaders d hd).name_clean (hf.wireHeaders e he).name_clean h
    exact f.wireHeaders.eq_of_mem hd he hname
  · exact List.Nodup.of_map Prod.fst f.wireHeaders.nodup_names

theorem Legible.ofBlock_headText {f : Frame} (hf : f.Legible) :
    Head.ofBlock (Utf8.encode f.headText) = f.wireHead := by
  have hlines : f.wireHeaders.entries.map
      (fun e => Head.splitHeader (Utf8.encode (headerLine f.legacy e.1 e.2))) =
        f.wireHeaders.entries.map (wireLine f.legacy) :=
    List.map_congr_left fun e he => (hf.wireHeaders e he).splitHeader_headerLine
  rw [encode_headText, Head.ofBlock, Head.splitLines_lines hf.isLine_command hf.isLine_headers]
  simp only [List.map_map, Function.comp_def, hlines]
  rw [Head.firstOfEachName_eq hf.nodup_wireLine (by simp)]
  rfl

end Frame

end Stomp
