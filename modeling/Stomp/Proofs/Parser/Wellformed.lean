import Stomp.Proofs.Parser.Heads
import Stomp.Proofs.Parser.Portions
import Stomp.Proofs.Text.Alphabet

/-!
# What every received frame is like

Whatever bytes a parser gets, the frames that it gives have a command on a line of its own,
different header names, no empty values, and a body that agrees with their content-length header
(`shaped_of_reached`). The length that was announced is the one that the header tells, since no
other line is read as a header of that name, and a line that tells no number keeps its name alone.
-/

namespace Stomp

/-- What can be relied on in a frame that was read. -/
structure Frame.Shaped (f : Frame) (legacy : Bool) : Prop where
  command_ne : f.command ≠ ""
  command_line : '\n' ∉ f.command.toList
  command_return : f.command.toList.head? ≠ some '\r'
  command_nul : legacy = false → f.command.toList.head? ≠ some '\x00'
  names_nodup : f.headers.names.Nodup
  values : ∀ e ∈ f.headers.entries, e.2 = .bare ∨ ∃ s, s ≠ "" ∧ e.2 = .text s
  measured : ∀ s, f.get? Name.contentLength = some (.text s) →
    ∃ n, Numeral.read .unicode s.toList = .ok n ∧
      if 0 < n then (f.body.length : Int) = n else 0 ∉ f.body
  unmeasured : (∀ s, f.get? Name.contentLength ≠ some (.text s)) → 0 ∉ f.body

/-! ## Values in ASCII -/

theorem Escape.decode_eq_self {legacy : Bool} {s : List Char} (h : '\\' ∉ s) :
    decode legacy s = s := by
  fun_induction decode legacy s with
  | case1 => exact absurd List.mem_cons_self h
  | case2 => exact absurd List.mem_cons_self h
  | case3 c rest hc ih => rw [ih fun hmem => h (List.mem_cons_of_mem c hmem)]
  | case4 => rfl

namespace Head

variable {legacy : Bool}

theorem encode_latin {bs : Bytes} (h : ∀ c ∈ latin bs, c.toNat < 0x80) :
    Utf8.encode (latin bs) = bs := by
  induction bs with
  | nil => rfl
  | cons b bs ih =>
      obtain ⟨hb, hbs⟩ := List.forall_mem_cons.1 h
      have hchar : (Char.ofNat b.toNat).toNat = b.toNat :=
        Utf8.toNat_ofNat (Or.inl (b.toNat_lt.trans (by decide)))
      have htail := ih hbs
      rw [latin, List.map_cons, Utf8.encode_cons, Utf8.encodeChar_of_lt hb, hchar,
        Utf8.octet_toNat, ← latin, htail]
      rfl

theorem decodePart_of_ascii {bs : Bytes} (h : ∀ c ∈ latin bs, c.toNat < 0x80 ∧ c ≠ '\\') :
    decodePart legacy bs = .ok (String.ofList (latin bs)) := by
  have hdecode := Utf8.decode_encode (latin bs)
  rw [encode_latin fun c hc => (h c hc).1] at hdecode
  rw [decodePart, hdecode]
  dsimp only
  rw [Escape.decode_eq_self fun hmem => (h _ hmem).2 rfl]

/-! ## The header of the announced length -/

variable {h : Head} {body : Bytes} {g : Frame} {pairs : List (String × HeaderValue)}

theorem headers_of_ignored?_eq_none (hi : h.ignored? = none) : h.headers = h.lines := by
  rw [headers, hi]
  rfl

theorem ne_of_announced_nothing (ha : h.announced = .nothing) :
    ∀ l ∈ h.headers, l.1 ≠ contentLength := by
  rw [headers_of_ignored?_eq_none (by rw [ignored?, ha])]
  unfold announced at ha
  split at ha
  · rename_i hfind
    intro l hl hname
    exact List.find?_eq_none.1 hfind l hl (beq_iff_eq.2 hname)
  · cases ha
  · split at ha <;> cases ha

theorem fst_of_find? {lines : List (Bytes × Option Bytes)} {l : Bytes × Option Bytes}
    (h : lines.find? (fun l => l.1 == contentLength) = some l) : l.1 = contentLength := by
  have hfound := List.find?_some h
  exact beq_iff_eq.1 hfound

theorem mem_of_announced_invalid {value? : Option Bytes} (ha : h.announced = .invalid value?) :
    (contentLength, none) ∈ h.headers := by
  have hfind : ∃ l, h.lines.find? (fun l => l.1 == contentLength) = some l := by
    rw [← Option.isSome_iff_exists, Option.isSome_iff_ne_none]
    intro hnone
    rw [announced, hnone] at ha
    cases ha
  obtain ⟨l, hl⟩ := hfind
  have hname := fst_of_find? hl
  have hignored : h.ignored?.isSome = true := by
    rw [ignored?, ha]
    rfl
  rw [headers, if_pos hignored]
  exact List.mem_map.2 ⟨l, List.mem_of_find?_eq_some hl, by rw [if_pos hname, hname]⟩

theorem exists_of_announced_length {n : Int} (ha : h.announced = .length n) :
    ∃ value, (contentLength, some value) ∈ h.headers ∧
      Numeral.read .ascii (latin value) = .ok n := by
  rw [headers_of_ignored?_eq_none (by rw [ignored?, ha])]
  unfold announced at ha
  split at ha
  · cases ha
  · cases ha
  · rename_i name value hfind
    have hname : name = contentLength := fst_of_find? hfind
    split at ha
    · rename_i m hread
      cases ha
      exact ⟨value, hname ▸ List.mem_of_find?_eq_some hfind, hread⟩
    · cases ha

theorem bodyLength?_of_announced_length {n : Int} (ha : h.announced = .length n) :
    h.bodyLength? = if 0 < n then some n.toNat else none := by
  rw [bodyLength?, ha]

namespace ReadAs

theorem plain_contentLength :
    ∀ c ∈ Name.contentLength.toList, c ≠ '\\' ∧ c ≠ '\r' ∧ c ≠ '\n' ∧ c ≠ ':' := by
  rw [← List.forall_iff_forall_mem]
  decide

theorem get?_of_nothing (hr : h.ReadAs legacy body pairs g) (ha : h.announced = .nothing) :
    g.get? Name.contentLength = none := by
  have hnames : ∀ p ∈ pairs, p.1 ≠ Name.contentLength := by
    intro p hp hname
    obtain ⟨l, hl, hdecoded⟩ := exists_of_mem_right hr.forall₂ hp
    exact ne_of_announced_nothing ha l hl
      (eq_of_decodePart plain_contentLength (hname ▸ hdecoded.name))
  rw [Frame.get?, hr.headers]
  apply Headers.get?_ofList_eq_none
  exact List.forall_mem_map.2 hnames

theorem get?_of_invalid (hr : h.ReadAs legacy body pairs g) (ht : h.Taken legacy)
    {value? : Option Bytes} (ha : h.announced = .invalid value?) :
    g.get? Name.contentLength = some .bare := by
  obtain ⟨p, hp, hdecoded⟩ := exists_of_mem_left hr.forall₂ (mem_of_announced_invalid ha)
  obtain ⟨hname⟩ := hdecoded
  cases Except.ok.inj (decodePart_contentLength.symm.trans hname)
  exact hr.get?_of_mem ht plain_contentLength hp trivial

theorem exists_of_length (hr : h.ReadAs legacy body pairs g) (ht : h.Taken legacy) {n : Int}
    (ha : h.announced = .length n) :
    ∃ s, g.get? Name.contentLength = some (.text s) ∧ Numeral.read .unicode s.toList = .ok n := by
  obtain ⟨value, hmem, hread⟩ := exists_of_announced_length ha
  obtain ⟨hunicode, hascii⟩ := Numeral.read_unicode_of_ascii hread
  obtain ⟨p, hp, hdecoded⟩ := exists_of_mem_left hr.forall₂ hmem
  obtain - | ⟨hname, hvalue⟩ := hdecoded
  cases Except.ok.inj (decodePart_contentLength.symm.trans hname)
  cases Except.ok.inj ((decodePart_of_ascii hascii).symm.trans hvalue)
  refine ⟨_, hr.get?_of_mem ht plain_contentLength hp ?_, ?_⟩
  · intro hempty
    rw [String.ofList_eq_empty_iff.1 hempty] at hread
    cases hread
  · rw [String.toList_ofList]
    exact hunicode

theorem shaped (hr : h.ReadAs legacy body pairs g) (ht : h.Taken legacy)
    (hannounced : ∀ n, h.bodyLength? = some n → body.length = n)
    (hsearched : h.bodyLength? = none → 0 ∉ body) : g.Shaped legacy where
  command_ne := hr.command_ne ht
  command_line := hr.lineFeed_not_mem_command ht
  command_return := hr.head?_command_ne ht (show Utf8.encodeChar '\r' = [13] by decide) rfl
  command_nul hl := hr.head?_command_ne ht (show Utf8.encodeChar '\x00' = [0] by decide)
    (by rw [hl]; rfl)
  names_nodup := g.headers.nodup_names
  values e he := by
    have hproper := hr.proper e he
    generalize e.2 = v at hproper
    cases v with
    | bare => exact Or.inl rfl
    | text s => exact Or.inr ⟨s, hproper, rfl⟩
    | number n => exact hproper.elim
  measured s hs := by
    rw [hr.body]
    cases ha : h.announced with
    | nothing =>
        rw [hr.get?_of_nothing ha] at hs
        cases hs
    | invalid value? =>
        rw [hr.get?_of_invalid ht ha] at hs
        cases hs
    | length n =>
        obtain ⟨t, ht, hread⟩ := hr.exists_of_length ht ha
        cases hs.symm.trans ht
        have hlength := bodyLength?_of_announced_length ha
        refine ⟨n, hread, ?_⟩
        split
        · rename_i hn
          rw [if_pos hn] at hlength
          rw [hannounced _ hlength]
          omega
        · rename_i hn
          rw [if_neg hn] at hlength
          exact hsearched hlength
  unmeasured hs := by
    rw [hr.body]
    cases ha : h.announced with
    | nothing => exact hsearched (by rw [bodyLength?, ha])
    | invalid value? => exact hsearched (by rw [bodyLength?, ha])
    | length n =>
        obtain ⟨t, ht, -⟩ := hr.exists_of_length ht ha
        exact absurd ht (hs t)

end ReadAs

end Head

namespace Parser

variable {legacy : Bool}

theorem Opening.taken {run block stop : Bytes} (h : Opening legacy run block stop) :
    (Head.ofBlock block).Taken legacy := by
  obtain ⟨b, rest, rfl, hb⟩ := h.begins
  exact ⟨b, rest, rfl, hb⟩

theorem Portion.Yields.shaped {s : Portion} {f : Frame} (h : s.Yields legacy (.ok f)) :
    f.Shaped legacy := by
  obtain ⟨pairs, hread⟩ := Head.exists_readAs h.result_eq.symm
  exact hread.shaped h.opening.taken h.announced fun hnone => (h.searched hnone).2

/-- However the bytes arrive, whatever they are and in whichever mode they are read. -/
theorem shaped_of_reached {fed : Bytes} {results : List (Except Malformed Frame)} {p : Parser}
    (h : Reached legacy fed results p) {f : Frame} (hf : .ok f ∈ results) : f.Shaped legacy := by
  obtain ⟨portions, left, hparts⟩ := h.partition
  obtain ⟨s, -, hs⟩ := exists_of_mem_right hparts.yields hf
  rw [← h.legacy_eq]
  exact hs.shaped

/-- A length with blanks and a sign, a bare header before one of its name, and a NUL in the body. -/
def padded : Bytes :=
  Bytes.ofString "\r\n\x00SEND\r\ncontent-length:  +2 \r\nx\r\nx:1\r\n\r\na\x00\x00"

theorem shaped_of_reached_padded :
    let f : Frame :=
      { command := "SEND", body := [97, 0],
        headers := ⟨[(Name.contentLength, .text "  +2 "), ("x", .bare)], by decide⟩ }
    Reached false padded [.ok f] {} ∧ f.Shaped false := by
  intro f
  have hreached : Reached false padded [.ok f] {} := reached_of_next rfl rfl
  exact ⟨hreached, shaped_of_reached hreached List.mem_cons_self⟩

end Parser

end Stomp
