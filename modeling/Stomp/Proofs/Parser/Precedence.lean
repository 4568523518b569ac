import Stomp.Proofs.Parser.Chunks
import Stomp.Proofs.Parser.Heads
import Stomp.Proofs.Parser.Received

/-!
# Which of several headers counts

A parser drops a line whose name stood on a line before, as it is written; a table of headers drops
a header whose name it has. The two agree, and the first line of a name counts, if and only if no
line with another value comes after a first line whose value is empty (`firstWins_iff`). For a table
has no place for an empty value, and takes the next one of the name; and a name may be written in
two ways, so that the parser does not know it again.
-/

namespace Stomp

namespace Headers

def handed (pairs : List (String × HeaderValue)) : List (String × Given) :=
  pairs.map fun p => (p.1, p.2.given)

variable {hs : Headers} {p : String × HeaderValue} {pairs : List (String × HeaderValue)}
  {name : String}

theorem stored?_given_eq_none {v : HeaderValue} (h : v.given.stored? = none) : v = .text "" := by
  by_contra hv
  cases v with
  | number n =>
      rw [HeaderValue.given, Given.stored?, if_neg (Numeral.ofList_write_ne_empty n)] at h
      cases h
  | text s =>
      rw [(HeaderValue.Proper.of_ne hv rfl).stored?_given] at h
      cases h
  | bare => cases h

/-- Nothing that the pairs hold for the name is stored any more. -/
def Closed (hs : Headers) (pairs : List (String × HeaderValue)) (name : String) : Prop :=
  name ∈ hs.names ∨ ∀ p ∈ pairs, p.1 = name → p.2 = .text ""

/-- No name has a value after an empty one. -/
def Steady (hs : Headers) (pairs : List (String × HeaderValue)) : Prop :=
  ∀ name, Assoc.get? pairs name = some (.text "") → hs.Closed pairs name

theorem erase_eq_self (h : name ∉ hs.names) : hs.erase name = hs := by
  have hentries : Assoc.erase hs.entries name = hs.entries := by
    apply List.filter_eq_self.2
    intro e he
    rw [decide_eq_true_eq]
    rintro rfl
    exact h (List.mem_map_of_mem he)
  obtain ⟨entries, hnodup⟩ := hs
  rw [erase]
  congr

theorem add_eq_self (h : hs.Closed (p :: pairs) p.1) : hs.add p.1 p.2.given = hs := by
  unfold add
  split
  · rfl
  · rename_i hname
    rcases h with h | h
    · exact absurd h hname
    · rw [h p List.mem_cons_self rfl]
      exact erase_eq_self hname

theorem mem_names_add (g : Given) {key : String} (h : name ∈ hs.names) :
    name ∈ (hs.add key g).names := by
  rw [mem_names_iff, Option.isSome_iff_exists] at h ⊢
  obtain ⟨v, hv⟩ := h
  refine ⟨v, ?_⟩
  rw [get?_add, hv, Option.some_or, ite_self]

namespace Closed

theorem add (h : hs.Closed (p :: pairs) name) : (hs.add p.1 p.2.given).Closed pairs name :=
  h.imp (mem_names_add _) fun h q hq => h q (List.mem_cons_of_mem p hq)

end Closed

namespace Steady

theorem closed (h : hs.Steady (p :: pairs)) : (hs.add p.1 p.2.given).Closed pairs p.1 := by
  by_cases hempty : p.2 = .text ""
  · apply Closed.add
    apply h
    rw [Assoc.get?, if_pos rfl, hempty]
  · apply Or.inl
    have hstored : p.2.given.stored?.isSome :=
      Option.isSome_iff_ne_none.2 fun hnone => hempty (stored?_given_eq_none hnone)
    rw [mem_names_iff, get?_add, if_pos rfl, Option.isSome_or, hstored, Bool.or_true]

theorem add (h : hs.Steady (p :: pairs)) : (hs.add p.1 p.2.given).Steady pairs := by
  intro name hname
  by_cases hp : p.1 = name
  · exact hp ▸ h.closed
  · apply Closed.add
    apply h
    rw [Assoc.get?, if_neg hp]
    exact hname

end Steady

theorem steady_empty_iff :
    empty.Steady pairs ↔
      ∀ p ∈ pairs, Assoc.get? pairs p.1 = some (.text "") → p.2 = .text "" := by
  constructor
  · intro h p hp hfirst
    exact (h p.1 hfirst).resolve_left List.not_mem_nil p hp rfl
  · rintro h name hfirst
    refine Or.inr fun p hp hname => h p hp ?_
    rw [hname, hfirst]

theorem offered?_handed_eq_none_iff :
    offered? (handed pairs) name = none ↔ ∀ p ∈ pairs, p.1 = name → p.2 = .text "" := by
  rw [offered?, List.findSome?_eq_none_iff, handed, List.forall_mem_map]
  refine forall₂_congr fun p _ => ?_
  split
  · rename_i hname
    rw [forall_prop_of_true hname]
    exact ⟨stored?_given_eq_none, fun hv => by rw [hv]; rfl⟩
  · rename_i hname
    exact iff_of_true rfl fun h => absurd h hname

/-- The value that is stored for a name is the first one, unless that is empty and another one is
not. -/
theorem offered?_handed_iff (hnumber : ∀ p ∈ pairs, p.2.number? = none) :
    offered? (handed pairs) name = HeaderValue.nonempty? (Assoc.get? pairs name) ↔
      (Assoc.get? pairs name = some (.text "") → ∀ p ∈ pairs, p.1 = name → p.2 = .text "") := by
  by_cases hempty : Assoc.get? pairs name = some (.text "")
  · rw [hempty, forall_prop_of_true rfl]
    exact offered?_handed_eq_none_iff
  · refine iff_of_true ?_ fun h => absurd h hempty
    induction pairs with
    | nil => rfl
    | cons p pairs ih =>
        obtain ⟨hp, hpairs⟩ := List.forall_mem_cons.1 hnumber
        rw [Assoc.get?] at hempty ⊢
        rw [handed, List.map_cons, offered?, List.findSome?_cons]
        split at hempty
        · rename_i hname
          have hvalue : p.2.Proper := .of_ne (fun h => hempty (congrArg some h)) hp
          rw [if_pos hname, if_pos hname, hvalue.stored?_given]
          exact hvalue.nonempty?.symm
        · rename_i hname
          rw [if_neg hname, if_neg hname]
          exact ih hpairs hempty

end Headers

namespace Head

open Stomp.Headers (handed)

variable {legacy : Bool}

/-- What a parser keeps of some lines makes the same table as all of them, if no name has a value
after an empty one. -/
theorem exists_kept {lines : List (Bytes × Option Bytes)} {pairs : List (String × HeaderValue)}
    (h : List.Forall₂ (Decoded legacy) lines pairs) (seen : List Bytes) :
    ∃ kept, List.Forall₂ (Decoded legacy) (firstOfEachName seen lines) kept ∧ kept.Sublist pairs ∧
      ∀ hs : Headers, hs.Steady pairs →
        (∀ raw ∈ seen, ∀ name, decodePart legacy raw = .ok name → hs.Closed pairs name) →
        hs.addAll (handed kept) = hs.addAll (handed pairs) := by
  induction h generalizing seen with
  | nil => exact ⟨[], .nil, .slnil, fun _ _ _ => rfl⟩
  | @cons l p lines pairs hdecoded hrest ih =>
      rw [firstOfEachName]
      split
      · rename_i hmem
        obtain ⟨kept, hkept, hsub, hadd⟩ := ih seen
        refine ⟨kept, hkept, hsub.cons p, fun hs hsteady hseen => ?_⟩
        have hself := Headers.add_eq_self (hseen l.1 hmem p.1 hdecoded.name)
        have hpairs : hs.addAll (handed (p :: pairs)) =
            (hs.add p.1 p.2.given).addAll (handed pairs) := rfl
        rw [hpairs, hself]
        refine hadd hs (hself ▸ hsteady.add) fun raw hraw name hname => ?_
        exact hself ▸ (hseen raw hraw name hname).add
      · obtain ⟨kept, hkept, hsub, hadd⟩ := ih (l.1 :: seen)
        refine ⟨p :: kept, .cons hdecoded hkept, hsub.cons_cons p, fun hs hsteady hseen => ?_⟩
        refine hadd (hs.add p.1 p.2.given) hsteady.add (List.forall_mem_cons.2 ⟨?_, ?_⟩)
        · intro name hname
          cases Except.ok.inj (hname.symm.trans hdecoded.name)
          exact hsteady.closed
        · exact fun raw hraw name hname => (hseen raw hraw name hname).add

end Head

def OnLine (s : String) : Prop := ∀ c ∈ s.toList, c ≠ '\r' ∧ c ≠ '\n'

instance (s : String) : Decidable (OnLine s) := List.decidableBAll _ _

/-- A header line as it is written: a name up to the first colon and, after a colon, any value. -/
structure HeaderLine where
  name : String
  value? : Option String := none
  name_line : OnLine name := by decide
  name_ends : ':' ∉ name.toList := by decide
  value_line : ∀ v ∈ value?, OnLine v := by decide
  ne_empty : value? = none → name ≠ "" := by decide

namespace HeaderLine

def text (l : HeaderLine) : List Char :=
  match l.value? with
  | none => l.name.toList
  | some v => l.name.toList ++ ':' :: v.toList

def entry (l : HeaderLine) : String × HeaderValue :=
  (Escape.decodeString false l.name,
    match l.value? with
    | none => .bare
    | some v => .text (Escape.decodeString false v))

def entries (lines : List HeaderLine) : List (String × HeaderValue) := lines.map entry

theorem number?_of_mem_entries (lines : List HeaderLine) :
    ∀ p ∈ entries lines, p.2.number? = none := by
  intro p hp
  obtain ⟨l, -, rfl⟩ := List.mem_map.1 hp
  unfold entry
  cases l.value? <;> rfl

def bytes (l : HeaderLine) : Bytes := Utf8.encode l.text

theorem isLine_bytes (l : HeaderLine) : Parser.IsLine l.bytes := by
  obtain ⟨name, value?, hname, hcolon, hvalue, hne⟩ := l
  cases value? with
  | none => exact Utf8.isLine_encode (fun h => hne rfl (String.toList_eq_nil_iff.1 h)) hname
  | some v =>
      refine Utf8.isLine_encode (by simp [text]) fun c hc => ?_
      rcases List.mem_append.1 hc with hc | hc
      · exact hname c hc
      · rcases List.mem_cons.1 hc with rfl | hc
        · decide
        · exact hvalue v rfl c hc

theorem decoded (l : HeaderLine) : Head.Decoded false (Head.splitHeader l.bytes) l.entry := by
  obtain ⟨name, value?, hname, hends, hvalue, hne⟩ := l
  have hcolon : 58 ∉ Utf8.encode name.toList := fun h =>
    Utf8.ne_of_mem_encode (by decide) hends 58 h rfl
  have hpart (s : String) :
      Head.decodePart false (Utf8.encode s.toList) = .ok (Escape.decodeString false s) := by
    rw [Head.decodePart, Utf8.decode_encode]
    rfl
  cases value? with
  | none =>
      rw [bytes, text, Head.splitHeader_bare hcolon]
      exact .bare (hpart name)
  | some v =>
      have hbytes : bytes ⟨name, some v, hname, hends, hvalue, hne⟩ =
          Utf8.encode name.toList ++ 58 :: Utf8.encode v.toList := by
        rw [bytes, text, Utf8.encode_append, Utf8.encode_cons]
        rfl
      rw [hbytes, Head.splitHeader_colon hcolon]
      exact .text (hpart name) (hpart v)

end HeaderLine

namespace Parser

open Stomp.Headers (handed)

/-- Lines of headers in a frame with this command and this body. -/
def bytesOf (command : String) (lines : List HeaderLine) (body : Bytes) : Bytes :=
  block (Bytes.ofString command) (lines.map HeaderLine.bytes) ++ 10 :: 10 :: (body ++ [0])

/-- The frame has the headers that the lines stand for, and of each name the first one, whatever
later lines say. -/
def FirstWins (lines : List HeaderLine) (f : Frame) : Prop :=
  f.headers = Headers.ofList (handed (HeaderLine.entries lines)) ∧
    ∀ name, f.get? name = HeaderValue.nonempty? (Assoc.get? (HeaderLine.entries lines) name)

variable {command : String} {lines : List HeaderLine} {body : Bytes}

def headOf (command : String) (lines : List HeaderLine) : Head :=
  ⟨Bytes.ofString command,
    Head.firstOfEachName [] (lines.map fun l => Head.splitHeader l.bytes)⟩

theorem announced_headOf (h : ∀ l ∈ lines, l.entry.1 ≠ Name.contentLength) :
    (headOf command lines).announced = .nothing := by
  apply Head.announced_of_forall_ne
  intro raw hraw hname
  obtain ⟨l, hl, rfl⟩ := List.mem_map.1 ((Head.firstOfEachName_sublist _ _).subset hraw)
  have hdecoded := l.decoded.name
  rw [hname, Head.decodePart_contentLength] at hdecoded
  exact h l hl (Except.ok.inj hdecoded).symm

theorem asksForMap_eq_false {pairs : List (String × HeaderValue)}
    (h : ∀ p ∈ pairs, p.1 ≠ Name.transformation) : Head.asksForMap pairs = false := by
  have hnone : Assoc.get? pairs.reverse Name.transformation = none := by
    apply Assoc.get?_eq_none
    intro hmem
    obtain ⟨p, hp, hname⟩ := List.mem_map.1 hmem
    exact h p (List.mem_reverse.1 hp) hname
  rw [Head.asksForMap, hnone]
  rfl

theorem exists_frame (command : String) (hcontent : ∀ l ∈ lines, l.entry.1 ≠ Name.contentLength)
    (hmap : ∀ l ∈ lines, l.entry.1 ≠ Name.transformation) (body : Bytes) :
    ∃ headers, (headOf command lines).frame false body = .ok { command, headers, body } ∧
      (Headers.empty.Steady (HeaderLine.entries lines) →
        headers = Headers.ofList (handed (HeaderLine.entries lines))) := by
  have hall : List.Forall₂ (Head.Decoded false) (lines.map fun l => Head.splitHeader l.bytes)
      (HeaderLine.entries lines) := by
    rw [HeaderLine.entries, List.forall₂_map_left_iff, List.forall₂_map_right_iff,
      List.forall₂_same]
    exact fun l _ => l.decoded
  obtain ⟨kept, hkept, hsub, hadd⟩ := Head.exists_kept hall []
  have hcommand : Bytes.toString? (headOf command lines).command = .ok command := by
    rw [headOf, Bytes.ofString, Bytes.toString?, Utf8.decode_encode]
    simp only
    rw [String.ofList_toList]
  have hheaders : (headOf command lines).headers = (headOf command lines).lines := by
    rw [Head.headers, Head.ignored?, announced_headOf hcontent]
    rfl
  have hplain : Head.asksForMap kept = false := by
    apply asksForMap_eq_false
    intro p hp
    obtain ⟨l, hl, rfl⟩ := List.mem_map.1 (hsub.subset hp)
    exact hmap l hl
  have hdecoded : Head.decodeHeaders false (headOf command lines).headers = .ok kept := by
    rw [hheaders]
    exact Head.decodeHeaders_of_forall₂ hkept
  refine ⟨Headers.ofList (handed kept), ?_, fun hsteady => hadd _ hsteady (List.forall_mem_nil _)⟩
  simp only [Head.frame, hcommand, hdecoded, hplain]
  rfl

theorem next_bytesOf (hne : command ≠ "") (hline : OnLine command)
    (hhead : command.toList.head? ≠ some '\x00')
    (hcontent : ∀ l ∈ lines, l.entry.1 ≠ Name.contentLength) (hbody : 0 ∉ body) :
    let p : Parser := { buffer := bytesOf command lines body }
    p.next.1.result? = some ((headOf command lines).frame false body) ∧ p.next.2 = {} := by
  have hcommand : IsLine (Bytes.ofString command) :=
    Utf8.isLine_encode (fun h => hne (String.toList_eq_nil_iff.1 h)) hline
  have hlines : ∀ l ∈ lines.map HeaderLine.bytes, IsLine l :=
    List.forall_mem_map.2 fun l _ => l.isLine_bytes
  have hblock : Head.ofBlock (block (Bytes.ofString command) (lines.map HeaderLine.bytes)) =
      headOf command lines := by
    rw [Head.ofBlock, Head.splitLines_lines hcommand hlines, headOf]
    simp only [List.map_map]
    rfl
  have hheaded : ({ command } : Frame).Headed :=
    ⟨hne, hline, fun _ => hhead, List.forall_mem_nil _⟩
  obtain ⟨b, bs, hb, hskipped⟩ := exists_encode_command hheaded
  have hsplit := splitHead?_block hcommand.fills.no_feed (fun l hl => (hlines l hl).fills)
    (body ++ [0])
  have hstart : ∃ bytes, bytesOf command lines body = b :: bytes := by
    rw [bytesOf, block, Bytes.ofString, hb]
    exact ⟨_, rfl⟩
  obtain ⟨bytes, hbytes⟩ := hstart
  rw [← bytesOf, hbytes] at hsplit
  have hready := ready_of_splitHead? (List.forall_mem_nil _) hskipped hsplit
  rw [List.nil_append, ← hbytes, hblock] at hready
  have hlength : (headOf command lines).bodyLength? = none := by
    rw [Head.bodyLength?, announced_headOf hcontent]
  have hend : splitBody? (headOf command lines).bodyLength? (body ++ [0]) = some (body, []) :=
    hlength ▸ splitBody?_none_iff.2 ⟨rfl, hbody⟩
  exact next_of_ready hready hend

/-- A frame with any header lines is read, and it has the headers that they stand for, the first one
of each name, if and only if no line has a value where the first one of its name has an empty one. -/
theorem firstWins_iff (hne : command ≠ "") (hline : OnLine command)
    (hhead : command.toList.head? ≠ some '\x00')
    (hcontent : ∀ l ∈ lines, l.entry.1 ≠ Name.contentLength)
    (hmap : ∀ l ∈ lines, l.entry.1 ≠ Name.transformation) (hbody : 0 ∉ body)
    {chunks : List Bytes} (hchunks : chunks.flatten = bytesOf command lines body) :
    ∃ f, ({} : Parser).receiveAll chunks = ([.ok f], {}) ∧ f.command = command ∧ f.body = body ∧
      (FirstWins lines f ↔ ∀ p ∈ HeaderLine.entries lines,
        Assoc.get? (HeaderLine.entries lines) p.1 = some (.text "") → p.2 = .text "") := by
  obtain ⟨headers, hframe, hheaders⟩ := exists_frame command hcontent hmap body
  have hnext := next_bytesOf hne hline hhead hcontent hbody
  refine ⟨{ command, headers, body }, ?_, rfl, rfl, ?_⟩
  · rw [receiveAll_of_settled (settled_new false), hchunks, ← hframe]
    exact receive_of_next hnext.1 hnext.2
  · have hoffered (name : String) :
        (Headers.ofList (handed (HeaderLine.entries lines))).get? name =
          Headers.offered? (handed (HeaderLine.entries lines)) name :=
      Headers.get?_addAll _ _ _
    have hnumber := HeaderLine.number?_of_mem_entries lines
    rw [← Headers.steady_empty_iff]
    constructor
    · rintro ⟨hsame, hfirst⟩ name hempty
      have hget := hfirst name
      rw [Frame.get?, hsame, hoffered, Headers.offered?_handed_iff hnumber] at hget
      exact Or.inr (hget hempty)
    · intro hsteady
      have hsame := hheaders hsteady
      refine ⟨hsame, fun name => ?_⟩
      rw [Frame.get?, hsame, hoffered, Headers.offered?_handed_iff hnumber]
      exact fun hempty => (hsteady name hempty).resolve_left List.not_mem_nil

/-- Lines that repeat names: with other values, in another spelling, without a value, and with empty
values alone. -/
def repeated : List HeaderLine :=
  [{ name := "a", value? := some "1" }, { name := "\\x" }, { name := "a", value? := some "" },
    { name := "b", value? := some "" }, { name := "\\\\x", value? := some "2" },
    { name := "b", value? := some "" }]

theorem firstWins_repeated :
    ∃ f, ({} : Parser).receiveAll [bytesOf "SEND" repeated [104, 105]] = ([.ok f], {}) ∧
      f.command = "SEND" ∧ f.body = [104, 105] ∧ FirstWins repeated f := by
  have hchunks : [bytesOf "SEND" repeated [104, 105]].flatten =
      bytesOf "SEND" repeated [104, 105] := List.flatten_singleton
  obtain ⟨f, hreceive, hcommand, hbody, hiff⟩ := firstWins_iff (by decide) (by decide)
    (by decide) (by decide) (by decide) (by decide) hchunks
  exact ⟨f, hreceive, hcommand, hbody, hiff.2 (by decide)⟩

/-- Two spellings of one name, of which the first has an empty value. -/
def aliases : List HeaderLine :=
  [{ name := "\\x", value? := some "" }, { name := "\\\\x", value? := some "2" }]

theorem not_firstWins_aliases :
    ∃ f, ({} : Parser).receive (bytesOf "SEND" aliases []) = ([.ok f], {}) ∧
      ¬ FirstWins aliases f := by
  refine ⟨{ command := "SEND", headers := ⟨[("\\x", .text "2")], by decide⟩ }, ?_, fun h => ?_⟩
  · exact receive_of_next rfl rfl
  · exact absurd (h.2 "\\x") (by decide)

end Parser

end Stomp
