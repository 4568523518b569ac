import Stomp.Proofs.Command.Handshake
import Stomp.Proofs.Parser.Received
import Stomp.Proofs.Parser.Spelling

/-!
# Headers cannot break legacy frames

In the legacy form carriage returns, colons and backslashes of header names and values stand on the
wire as they are. Yet each header fills a line, with a colon on it, so that no blank line can come
up before the one that ends the head; and a line announces a length, or asks for a map, only if the
name of a header begins so. Whatever else names and values hold, the frame is read as one frame with
its command and its body, and what follows it as if it stood alone (`receiveAll_confined`).
-/

namespace Stomp

namespace Utf8

theorem exists_of_getLast?_encode {cs : List Char} (h : (encode cs).getLast? = some 13) :
    ∃ ds, cs = ds ++ ['\r'] := by
  rcases List.eq_nil_or_concat cs with rfl | ⟨ds, c, rfl⟩
  · cases h
  · rw [List.concat_eq_append] at h ⊢
    have hmem : (13 : UInt8) ∈ encodeChar c := by
      rw [encode_append, encode_cons, encode_nil, List.append_nil,
        List.getLast?_append_of_ne_nil _ (encodeChar_ne_nil c)] at h
      exact List.mem_of_getLast? h
    have hlt : c.toNat < 0x80 := by
      by_contra hge
      exact absurd (le_of_mem_encodeChar (by omega) hmem) (by decide)
    rw [encodeChar_of_lt hlt, List.mem_singleton] at hmem
    have hcode := congrArg UInt8.toNat hmem
    rw [toNat_octet (by omega)] at hcode
    exact ⟨ds, by rw [← Char.ofNat_toNat c, ← hcode]; rfl⟩

end Utf8

namespace Escape

theorem isPrefix_of_encode {p s : List Char} (h : p <+: encode true s) (hp : '\\' ∉ p) :
    p <+: s := by
  induction p generalizing s with
  | nil => exact List.nil_prefix
  | cons d p ih =>
      rw [List.mem_cons, not_or] at hp
      cases s with
      | nil => exact h
      | cons c s =>
          rw [encode_legacy_cons] at h
          split at h
          · exact absurd (List.cons_prefix_cons.1 h).1.symm hp.1
          · obtain ⟨hd, hrest⟩ := List.cons_prefix_cons.1 h
            exact List.cons_prefix_cons.2 ⟨hd, ih hrest hp.2⟩

theorem eq_of_decode_legacy {s t : List Char} (h : decode true s = t) (ht : '\n' ∉ t) : s = t := by
  fun_induction decode true s generalizing t with
  | case1 c rest x hx ih =>
      have hfeed : x = '\n' := by
        simp only [meaning?, if_true] at hx
        split at hx
        · exact (Option.some.inj hx).symm
        · cases hx
      subst h
      exact absurd (hfeed ▸ List.mem_cons_self) ht
  | case2 c rest hx ih =>
      subst h
      rw [List.mem_cons, List.mem_cons, not_or, not_or] at ht
      rw [← ih rfl ht.2.2]
  | case3 c rest hc ih =>
      subst h
      rw [← ih rfl fun hd => ht (List.mem_cons_of_mem c hd)]
  | case4 => exact h

end Escape

/-! ## Lines that begin with a header name -/

namespace Head

open Stomp.Frame (headerLine)

def Labelled (name : String) (line : Bytes) : Prop :=
  ∃ rest, line = Utf8.encode (Escape.encode true name.toList ++ ':' :: rest)

/-- What is read from the line: a part of the name, and some text as the value. -/
def Heads (name : String) (l : Bytes × Option Bytes) : Prop :=
  ∃ part value, part <+: Escape.encode true name.toList ∧
    l = (Utf8.encode part, some (Utf8.encode value))

theorem labelled_headerLine {e : String × HeaderValue} (he : ∃ s, e.2 = .text s) :
    Labelled e.1 (Utf8.encode (headerLine true e.1 e.2)) := by
  obtain ⟨s, hs⟩ := he
  rw [hs]
  exact ⟨Escape.encode true s.toList, rfl⟩

namespace Labelled

variable {name : String} {line : Bytes}

theorem colon_mem (h : Labelled name line) : 58 ∈ line := by
  obtain ⟨rest, rfl⟩ := h
  rw [Utf8.encode_append, Utf8.encode_cons]
  exact List.mem_append_right _ (List.mem_append_left _ (by decide))

theorem chomp (h : Labelled name line) : Labelled name (chomp line) := by
  unfold Head.chomp
  split
  · rename_i hlast
    obtain ⟨rest, rfl⟩ := h
    obtain ⟨ds, hds⟩ := Utf8.exists_of_getLast?_encode hlast
    rcases List.eq_nil_or_concat rest with rfl | ⟨rest, c, rfl⟩
    · have hcolon := List.append_inj_right' hds rfl
      exact absurd hcolon (by decide)
    · rw [List.concat_eq_append, ← List.cons_append, ← List.append_assoc] at hds ⊢
      have hc : [c] = ['\r'] := List.append_inj_right' hds rfl
      refine ⟨rest, ?_⟩
      rw [hc, Utf8.encode_append]
      exact List.dropLast_concat
  · exact h

theorem heads (h : Labelled name line) : Heads name (splitHeader line) := by
  obtain ⟨rest, rfl⟩ := h
  have hcolon : ':' ∈ Escape.encode true name.toList ++ ':' :: rest := by simp
  obtain ⟨part, value, hparts, hpart⟩ := List.eq_append_cons_of_mem hcolon
  refine ⟨part, value, ?_, ?_⟩
  · have hname : Escape.encode true name.toList <+: Escape.encode true name.toList ++ ':' :: rest :=
      List.prefix_append _ _
    rw [hparts] at hname
    rcases List.prefix_or_prefix_of_prefix (List.prefix_append part (':' :: value)) hname with
      hshort | ⟨more, hlong⟩
    · exact hshort
    · rw [← hlong, List.append_assoc] at hparts
      have hmore := List.append_cancel_left hparts
      cases more with
      | nil => rw [← hlong, List.append_nil]
      | cons c more =>
          have hc : ':' = c := (List.cons.inj hmore).1
          rw [← hlong, hc] at hpart
          simp at hpart
  · have hbyte : 58 ∉ Utf8.encode part :=
      fun hb => Utf8.ne_of_mem_encode (by decide) hpart 58 hb rfl
    rw [hparts, Utf8.encode_append, Utf8.encode_cons]
    exact splitHeader_colon hbyte (Utf8.encode value)

end Labelled

namespace Heads

variable {name : String} {l : Bytes × Option Bytes}

theorem isPrefix_of_eq (h : Heads name l) {key : String} (hkey : '\\' ∉ key.toList)
    (hl : l.1 = Bytes.ofString key) : key.toList <+: name.toList := by
  obtain ⟨part, value, hpart, rfl⟩ := h
  have hname : part = key.toList := Utf8.encode_injective hl
  exact Escape.isPrefix_of_encode (hname ▸ hpart) hkey

theorem isPrefix_of_decodePart (h : Heads name l) {key : String}
    (hkey : '\\' ∉ key.toList ∧ '\n' ∉ key.toList) (hl : decodePart true l.1 = .ok key) :
    key.toList <+: name.toList := by
  apply h.isPrefix_of_eq hkey.1
  obtain ⟨part, value, -, rfl⟩ := h
  rw [decodePart, Utf8.decode_encode] at hl
  have hdecoded : Escape.decode true part = key.toList := by
    rw [← Except.ok.inj hl, String.toList_ofList]
  rw [Escape.eq_of_decode_legacy hdecoded hkey.2]
  rfl

end Heads

/-! ## Heads of such lines -/

theorem length_parted (lines : List Bytes) : (parted lines).length = lines.length := by
  fun_induction parted lines with
  | case1 => rfl
  | case2 line => rfl
  | case3 line next lines ih => simp only [List.length_cons, ih]

theorem parted_cons {line : Bytes} (h : 13 ∉ line) (lines : List Bytes) :
    parted (line :: lines) = line :: parted lines := by
  cases lines with
  | nil => rfl
  | cons next lines => rw [parted, chomp_eq_self h]

/-- Each line that is read is one that was written, but for a carriage return. -/
theorem exists_of_mem_parted {lines : List Bytes} {l : Bytes} (h : l ∈ parted lines) :
    ∃ line ∈ lines, l = line ∨ l = chomp line := by
  fun_induction parted lines with
  | case1 => cases h
  | case2 line => exact ⟨line, List.mem_cons_self, Or.inl (List.mem_singleton.1 h)⟩
  | case3 line next lines ih =>
      rcases List.mem_cons.1 h with rfl | h
      · exact ⟨line, List.mem_cons_self, Or.inr rfl⟩
      · obtain ⟨m, hm, hl⟩ := ih h
        exact ⟨m, List.mem_cons_of_mem line hm, hl⟩

theorem exists_decodeHeaders {lines : List (Bytes × Option Bytes)}
    (hl : ∀ l ∈ lines, ∃ name, Heads name l) :
    ∃ pairs, decodeHeaders true lines = .ok pairs ∧ pairs.length = lines.length := by
  induction lines with
  | nil => exact ⟨[], rfl, rfl⟩
  | cons l lines ih =>
      obtain ⟨⟨name, part, value, -, rfl⟩, hlines⟩ := List.forall_mem_cons.1 hl
      obtain ⟨pairs, hpairs, hlength⟩ := ih hlines
      refine ⟨(String.ofList (Escape.decode true part),
        .text (String.ofList (Escape.decode true value))) :: pairs, ?_, ?_⟩
      · simp only [decodeHeaders, decodePart, Utf8.decode_encode, hpairs]
        rfl
      · rw [List.length_cons, hlength, List.length_cons]

end Head

/-! ## Tables made of lists -/

namespace Headers

theorem length_set_le (hs : Headers) (name : String) (g : Given) :
    (hs.set name g).entries.length ≤ hs.entries.length + 1 := by
  unfold set
  split
  · rw [entries_insert]
    split
    · rw [List.length_map]
      exact Nat.le_succ _
    · rw [List.length_append, List.length_singleton]
  · exact (List.length_filter_le _ _).trans (Nat.le_succ _)

theorem length_addAll_le (hs : Headers) (pairs : List (String × Given)) :
    (hs.addAll pairs).entries.length ≤ hs.entries.length + pairs.length := by
  induction pairs generalizing hs with
  | nil => exact le_rfl
  | cons p pairs ih =>
      have hadd : (hs.add p.1 p.2).entries.length ≤ hs.entries.length + 1 := by
        unfold add
        split
        · exact Nat.le_succ _
        · exact hs.length_set_le p.1 p.2
      calc ((hs.add p.1 p.2).addAll pairs).entries.length
          ≤ (hs.add p.1 p.2).entries.length + pairs.length := ih _
        _ ≤ hs.entries.length + 1 + pairs.length := by omega
        _ = hs.entries.length + (p :: pairs).length := by rw [List.length_cons]; omega

end Headers

/-! ## Confined frames -/

namespace Frame

/-- A header name that does not begin as the two do which a reader of frames acts upon. -/
def Inert (name : String) : Prop :=
  ¬ Name.contentLength.toList <+: name.toList ∧ ¬ Name.transformation.toList <+: name.toList

instance (name : String) : Decidable (Inert name) := instDecidableAnd

/-- A plain frame in the legacy form whose header values are texts. The command stands on a line of
its own and the body has no NUL; values are any texts, and names are any inert ones. -/
structure Confined (f : Frame) : Prop where
  plain : f.map? = none
  legacy : f.legacy = true
  command_ne : f.command ≠ ""
  command_line : ∀ c ∈ f.command.toList, c ≠ '\r' ∧ c ≠ '\n'
  values : ∀ e ∈ f.headers.entries, ∃ s, e.2 = .text s
  names : ∀ e ∈ f.headers.entries, Inert e.1
  no_nul : 0 ∉ f.body

namespace Confined

variable {f : Frame}

theorem fills (hf : f.Confined) :
    ∀ e ∈ f.headers.entries, Parser.Fills (Utf8.encode (headerLine true e.1 e.2)) := by
  intro e he
  have hcolon := (Head.labelled_headerLine (hf.values e he)).colon_mem
  constructor
  case ne_nil =>
    exact List.ne_nil_of_mem hcolon
  case ne_return =>
    intro hreturn
    rw [hreturn] at hcolon
    exact absurd hcolon (by decide)
  case no_feed =>
    obtain ⟨s, hs⟩ := hf.values e he
    have hescaped (s : String) : '\n' ∉ Escape.encode true s.toList :=
      fun h => (Escape.not_mem_encode_legacy s.toList '\n' h).1 rfl
    have hline : '\n' ∉ headerLine true e.1 e.2 := by
      rw [hs]
      simp [headerLine, hescaped]
    exact fun h => Utf8.ne_of_mem_encode (by decide) hline 10 h rfl

theorem headed (hf : f.Confined) : f.Headed where
  command_ne := hf.command_ne
  command_line := hf.command_line
  command_head h := by
    rw [hf.legacy] at h
    cases h
  fills := by
    rw [wireHeaders_of_legacy hf.legacy, hf.legacy]
    exact hf.fills

def writtenLines (f : Frame) : List Bytes :=
  f.headers.entries.map fun e => Utf8.encode (headerLine true e.1 e.2)

theorem ofBlock_headText (hf : f.Confined) :
    Head.ofBlock (Utf8.encode f.headText) = ⟨Utf8.encode f.command.toList,
      Head.firstOfEachName [] ((Head.parted (writtenLines f)).map Head.splitHeader)⟩ := by
  have hcommand := Utf8.not_lineEnd_of_mem_encode hf.command_line
  have hreturn : 13 ∉ Utf8.encode f.command.toList := fun h => (hcommand 13 h).1 rfl
  have hfeed : 10 ∉ Utf8.encode f.command.toList := fun h => (hcommand 10 h).2 rfl
  have hfills : ∀ l ∈ writtenLines f, Parser.Fills l := List.forall_mem_map.2 hf.fills
  rw [encode_headText, wireHeaders_of_legacy hf.legacy, hf.legacy, ← writtenLines, Head.ofBlock,
    Head.splitLines_block hfeed hfills, Head.parted_cons hreturn]

theorem heads (hf : f.Confined) {head : Head}
    (h : Head.ofBlock (Utf8.encode f.headText) = head) :
    (∀ l ∈ head.lines, ∃ e ∈ f.headers.entries, Head.Heads e.1 l) ∧
      head.lines.length ≤ f.headers.entries.length := by
  have hsublist := Head.firstOfEachName_sublist [] ((Head.parted (writtenLines f)).map
    Head.splitHeader)
  rw [hf.ofBlock_headText] at h
  subst h
  constructor
  · intro l hl
    obtain ⟨line, hline, rfl⟩ := List.mem_map.1 (hsublist.subset hl)
    obtain ⟨written, hwritten, hread⟩ := Head.exists_of_mem_parted hline
    obtain ⟨e, he, rfl⟩ := List.mem_map.1 hwritten
    have hlabelled := Head.labelled_headerLine (hf.values e he)
    rcases hread with rfl | rfl
    · exact ⟨e, he, hlabelled.heads⟩
    · exact ⟨e, he, hlabelled.chomp.heads⟩
  · calc (Head.firstOfEachName [] ((Head.parted (writtenLines f)).map Head.splitHeader)).length
        ≤ ((Head.parted (writtenLines f)).map Head.splitHeader).length := hsublist.length_le
      _ = f.headers.entries.length := by
          rw [List.length_map, Head.length_parted, writtenLines, List.length_map]

theorem announced (hf : f.Confined) {head : Head}
    (h : Head.ofBlock (Utf8.encode f.headText) = head) : head.announced = .nothing := by
  apply Head.announced_of_forall_ne
  intro l hl hname
  obtain ⟨e, he, hheads⟩ := (hf.heads h).1 l hl
  exact (hf.names e he).1 (hheads.isPrefix_of_eq (by decide) hname)

theorem exists_frame (hf : f.Confined) {head : Head}
    (h : Head.ofBlock (Utf8.encode f.headText) = head) :
    ∃ g : Frame, head.frame true f.body = .ok g ∧ g.command = f.command ∧ g.body = f.body ∧
      g.headers.entries.length ≤ f.headers.entries.length := by
  have hannounced := hf.announced h
  obtain ⟨hheads, hlength⟩ := hf.heads h
  have hheaders : head.headers = head.lines := by
    rw [Head.headers, Head.ignored?, hannounced]
    rfl
  have hcommand : Bytes.toString? head.command = .ok f.command := by
    rw [← h, hf.ofBlock_headText]
    exact Head.toString?_wireHead f
  have hnamed : ∀ l ∈ head.lines, ∃ name, Head.Heads name l := by
    intro l hl
    obtain ⟨e, -, he⟩ := hheads l hl
    exact ⟨e.1, he⟩
  obtain ⟨pairs, hpairs, hcount⟩ := Head.exists_decodeHeaders hnamed
  have hasks : Head.asksForMap pairs = false := by
    rw [Head.asksForMap, decide_eq_false_iff_not]
    intro hget
    have hmem := List.mem_reverse.1 (Assoc.mem_of_get? hget)
    obtain ⟨l, hl, hdecoded⟩ := exists_of_mem_right (Head.forall₂_of_decodeHeaders hpairs) hmem
    obtain ⟨e, he, hhead⟩ := hheads l hl
    exact (hf.names e he).2 (hhead.isPrefix_of_decodePart (by decide) hdecoded.name)
  let g : Frame :=
    { command := f.command, headers := Headers.ofList (pairs.map fun p => (p.1, p.2.given)),
      body := f.body, legacy := true }
  refine ⟨g, ?_, rfl, rfl, ?_⟩
  · simp only [Head.frame, hcommand, hheaders, hpairs, hasks]
    rfl
  · calc g.headers.entries.length
        ≤ Headers.empty.entries.length + (pairs.map fun p => (p.1, p.2.given)).length :=
          Headers.length_addAll_le _ _
      _ = pairs.length := by rw [List.length_map]; exact Nat.zero_add _
      _ ≤ f.headers.entries.length := hcount ▸ hlength

end Confined

end Frame

namespace Parser

variable {f : Frame}

theorem exists_spells (hf : f.Confined) :
    ∃ g : Frame, Spells true f.wire g ∧ g.command = f.command ∧ g.body = f.body ∧
      g.headers.entries.length ≤ f.headers.entries.length := by
  obtain ⟨g, hframe, hg⟩ := hf.exists_frame rfl
  refine ⟨g, fun rest => ?_, hg⟩
  have hlength : (Head.ofBlock (Utf8.encode f.headText)).bodyLength? = none := by
    rw [Head.bodyLength?, hf.announced rfl]
  have hbody : splitBody? (Head.ofBlock (Utf8.encode f.headText)).bodyLength?
      (f.body ++ 0 :: rest) = some (f.body, rest) := by
    rw [hlength]
    exact splitBody?_none_iff.2 ⟨rfl, hf.no_nul⟩
  have hnext := next_headed hf.headed rfl (List.forall_mem_nil _) hbody
  rw [hf.legacy, hframe] at hnext
  exact hnext

/-- Whatever the names and values of a frame hold and whatever follows it on the wire, however that
is cut into chunks, a new parser gives one frame with the command and the body and no more headers,
and after it what a new parser gives for the rest. -/
theorem receiveAll_confined (hf : f.Confined) :
    ∃ g : Frame, g.command = f.command ∧ g.body = f.body ∧
      g.headers.entries.length ≤ f.headers.entries.length ∧
      ∀ (chunks : List Bytes) (rest : Bytes), chunks.flatten = f.wire ++ rest →
        ({ legacy := true } : Parser).receiveAll chunks =
          (.ok g :: (({ legacy := true } : Parser).receive rest).1,
            (({ legacy := true } : Parser).receive rest).2) := by
  obtain ⟨g, hspells, hcommand, hbody, hlength⟩ := exists_spells hf
  refine ⟨g, hcommand, hbody, hlength, fun chunks rest hchunks => ?_⟩
  rw [receiveAll_of_settled (settled_new true), hchunks]
  exact hspells.drained_eq rest

end Parser

/-! ## The first frame of a client -/

theorem Given.exists_text_of_stored? {g : Given} (hg : g ≠ .flag true) {v : HeaderValue}
    (h : g.stored? = some v) : ∃ s, v = .text s := by
  unfold stored? at h
  split at h
  · cases h
  · split at h
    · cases h
    · exact ⟨_, (Option.some.inj h).symm⟩
  · exact ⟨_, (Option.some.inj h).symm⟩
  · exact absurd rfl hg
  · exact ⟨_, (Option.some.inj h).symm⟩

theorem Offer.given?_ne_flag {o : Offer} (ho : o ≠ .flag true) {g : Given}
    (h : o.given? = some g) : g ≠ .flag true := by
  rintro rfl
  unfold given? at h
  split at h
  · cases h
  · cases h
  · split at h <;> cases h
  · cases h
    exact ho rfl

namespace Command

open Stomp.Frame (Inert)

theorem confined_connect {login passcode host : Offer} {clientId : Given}
    {versions : Option (List Offer)} {beats : List BeatOffer} {f : Frame}
    (h : connect login passcode versions host beats clientId = .ok f)
    (hlogin : ∃ s, credential login = .text s) (hpasscode : ∃ s, credential passcode = .text s)
    (hhost : host ≠ .flag true) (hclientId : clientId ≠ .flag true) : f.Confined := by
  obtain ⟨hcommand, hlegacy, hbody, hplain, hentries⟩ := introduced_of_connect h
  have hconfined : ∀ e ∈ f.headers.entries, (∃ s, e.2 = .text s) ∧ Inert e.1 := by
    intro e he
    cases hentries e he with
    | login => exact ⟨hlogin, show Inert Name.login by decide⟩
    | passcode => exact ⟨hpasscode, show Inert Name.passcode by decide⟩
    | clientId hv =>
        exact ⟨Given.exists_text_of_stored? hclientId hv, show Inert Name.clientId by decide⟩
    | host hgiven hv =>
        have hhost := Offer.given?_ne_flag hhost hgiven
        exact ⟨Given.exists_text_of_stored? hhost hv, show Inert Name.host by decide⟩
    | versions s => exact ⟨⟨s, rfl⟩, show Inert Name.acceptVersion by decide⟩
    | beats s => exact ⟨⟨s, rfl⟩, show Inert Name.heartBeat by decide⟩
  constructor
  case plain => exact hplain
  case legacy => exact hlegacy
  case command_ne =>
    rw [hcommand]
    decide
  case command_line =>
    rw [hcommand, ← List.forall_iff_forall_mem]
    decide
  case values => exact fun e he => (hconfined e he).1
  case names => exact fun e he => (hconfined e he).2
  case no_nul =>
    rw [hbody]
    exact List.not_mem_nil

end Command

/-- Credentials that try to end the head, to announce a length and to send a frame of their own. -/
theorem Parser.receiveAll_confined_intruder :
    let login := "guest\r\n\r\n"
    let passcode := "\x00\nSEND\ndestination:/queue/a\n\n\x00"
    let host := "host\ncontent-length:7\r"
    ∃ f : Frame,
      Command.connect (.text login) (.text passcode) none (.text host) [] .absent = .ok f ∧
      ∃ g : Frame, g.command = f.command ∧ g.body = f.body ∧
        g.headers.entries.length ≤ f.headers.entries.length ∧
        ∀ (chunks : List Bytes) (rest : Bytes), chunks.flatten = f.wire ++ rest →
          ({ legacy := true } : Parser).receiveAll chunks =
            (.ok g :: (({ legacy := true } : Parser).receive rest).1,
              (({ legacy := true } : Parser).receive rest).2) := by
  intro login passcode host
  obtain ⟨f, hf⟩ : ∃ f,
      Command.connect (.text login) (.text passcode) none (.text host) [] .absent = .ok f :=
    ⟨_, rfl⟩
  exact ⟨f, hf, receiveAll_confined (Command.confined_connect hf ⟨_, rfl⟩ ⟨_, rfl⟩ nofun nofun)⟩

end Stomp
