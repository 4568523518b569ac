import Stomp.Proofs.Transport.Reading

/-!
# Transports of which all is known

What a transport does that nobody watches depends on its channel and its parser alone (`Holds`).
-/

namespace Stomp

open Stomp.Action

variable {κ R α : Type}

namespace Link

variable {l : Link κ R} {a : α} {after : κ}

theorem perform_of_ok {x : EStateM String κ α} (hx : x l.channel = .ok a after) (op : Operation)
    (entry : α → Traffic R) (fault : String → ConnectionFault) :
    Outcome (fun b m => b = a ∧ m.channel = after) (fun _ _ => False)
      (perform op entry fault x l) := by
  unfold perform
  rw [hx]
  exact ⟨rfl, rfl⟩

variable [Channel κ R]

theorem requireConnected_of_connected (hl : Channel.isConnected l.channel = true) :
    Outcome (fun b m => b = () ∧ l = m) (fun _ _ => False)
      ((requireConnected : EStateM ConnectionFault (Link κ R) Unit) l) := by
  unfold requireConnected
  rw [if_pos hl]
  exact ⟨rfl, rfl⟩

theorem read_of_ok (hl : Channel.isConnected l.channel = true) {limit : Nat} {bytes : Bytes}
    (hread : Channel.read limit l.channel = .ok bytes after) :
    Outcome (fun b m => b = bytes ∧ m.channel = after) (fun _ _ => False)
      ((read limit : EStateM ConnectionFault (Link κ R) Bytes) l) := by
  unfold read
  apply (requireConnected_of_connected hl).bind (fun _ _ h => h)
  rintro - m ⟨-, rfl⟩
  exact perform_of_ok hread _ _ _

theorem canRead_of_ok (hl : Channel.isConnected l.channel = true)
    {timeout : Option (Quantity R)} {ready : Bool}
    (hwait : Channel.canRead timeout l.channel = .ok ready after) :
    Outcome (fun b m => b = ready ∧ m.channel = after) (fun _ _ => False)
      ((canRead timeout : EStateM ConnectionFault (Link κ R) Bool) l) := by
  unfold canRead
  apply (requireConnected_of_connected hl).bind (fun _ _ h => h)
  rintro - m ⟨-, rfl⟩
  exact perform_of_ok hwait _ _ _

end Link

namespace Transport

/-- A transport that nobody watches, with this channel and this parser. -/
structure Holds (t : Transport κ R) (channel : κ) (p : Parser) : Prop where
  unwatched : t.Unwatched
  channel : t.link.channel = channel
  parser : t.parser = p

variable {t u : Transport κ R} {channel after : κ} {p q : Parser}

theorem Holds.parsed (ht : t.Holds channel p) {frames : List Frame} (h : t.Parsed q frames u) :
    u.Holds channel q where
  unwatched := ht.unwatched.of_eq h.observers
  channel := h.channel.trans ht.channel
  parser := h.parser

theorem Holds.onLink {x : EStateM ConnectionFault (Link κ R) α} {a : α}
    (ht : t.Holds channel p)
    (hx : Outcome (fun b l => b = a ∧ l.channel = after) (fun _ _ => False) (x t.link)) :
    Outcome (fun b u => b = a ∧ u.Holds after p) (fun _ _ => False)
      ((onLink x : EStateM (Error R) (Transport κ R) α) t) :=
  Outcome.mapError (Outcome.on (hx.mono
    (fun _ _ h => ⟨h.1, ht.unwatched, h.2, ht.parser⟩) (fun _ _ h => h)))

theorem Holds.logNotice (ht : t.Holds channel p) (n : Notice R) :
    Outcome (fun _ u => u.Holds channel p) (fun _ _ => False)
      ((logNotice n : EStateM (Error R) (Transport κ R) Unit) t) :=
  (parsed_logNotice n t).mono (fun _ _ h => ht.parsed (ht.parser ▸ h)) (fun _ _ h => h)

theorem renderFrame_of_rendered {f g : Frame} (hf : f.rendered = .ok g) (t : Transport κ R) :
    Outcome (fun h r => h = g ∧ (g, t) = r) (fun _ _ => False)
      ((renderFrame : InHand (Error R) (Transport κ R) Frame) (f, t)) := by
  unfold renderFrame
  dsimp only
  rw [hf]
  exact ⟨rfl, rfl⟩

variable [Scale R] [Channel κ R]

theorem Holds.writeFrame (ht : t.Holds channel p)
    (hconnected : Channel.isConnected channel = true)
    (hwrite : ∀ data, Channel.write data channel = .ok () channel) {f g : Frame}
    (hf : f.rendered = .ok g) :
    Outcome (fun _ r => r.2.Holds channel p) (fun _ _ => False)
      ((writeFrame : InHand (Error R) (Transport κ R) Unit) (f, t)) := by
  unfold Transport.writeFrame
  have hready : Outcome (fun b l => b = () ∧ l.channel = channel) (fun _ _ => False)
      ((Link.requireConnected : EStateM ConnectionFault (Link κ R) Unit) t.link) :=
    (Link.requireConnected_of_connected (ht.channel ▸ hconnected)).mono
      (fun _ _ h => ⟨h.1, h.2 ▸ ht.channel⟩) (fun _ _ h => h)
  apply (Outcome.beside (ht.onLink hready)).bind
  · exact fun _ _ h => h.1
  rintro - ⟨f', u⟩ ⟨⟨-, hu⟩, hf'⟩
  obtain rfl : f = f' := hf'
  rw [get_bind]
  apply (Outcome.beside (hu.logNotice (.sending f))).bind
  · exact fun _ _ h => h.1
  rintro - ⟨f', v⟩ ⟨hv, hf'⟩
  obtain rfl : f = f' := hf'
  have hv : v.Holds channel p := hv
  apply (renderFrame_of_rendered hf v).bind (fun _ _ h => h.elim)
  rintro h r ⟨rfl, rfl⟩
  have hlink : Channel.write h.wire v.link.channel = .ok () channel :=
    hv.channel.symm ▸ hwrite h.wire
  apply (Outcome.beside (hv.onLink (Link.perform_of_ok hlink _ _ _))).bind
  · exact fun _ _ h => h.1
  rintro - ⟨f', w⟩ ⟨⟨-, hw⟩, -⟩
  refine (Outcome.beside (outcome_notify_of_unwatched hw.unwatched (.sent h))).mono ?_ ?_
  · rintro - ⟨f', x⟩ ⟨hx, -⟩
    obtain rfl : w = x := hx
    exact hw
  · exact fun _ _ h => h.1

/-- The transport reads the result of a parser, and has this channel and this parser then. -/
def Finds (t : Transport κ R) (result : Except Malformed Frame) (channel : κ) (p : Parser) : Prop :=
  Outcome (fun f? u => (∃ f, f? = some f ∧ result = .ok f) ∧ u.Holds channel p)
    (fun e u => e.Reports result ∧ u.Holds channel p)
    ((readFrame : EStateM (Error R) (Transport κ R) (Option Frame)) t)

/-- The transport reads the frame, and has this channel and this parser then. -/
def Reads (t : Transport κ R) (f : Frame) (channel : κ) (p : Parser) : Prop :=
  Outcome (fun f? u => f? = some f ∧ u.Holds channel p) (fun _ _ => False)
    ((readFrame : EStateM (Error R) (Transport κ R) (Option Frame)) t)

theorem Finds.reads {f : Frame} (h : t.Finds (.ok f) channel p) (hf : f.isError = false) :
    t.Reads f channel p := by
  refine Outcome.mono h ?_ ?_
  · rintro f? u ⟨⟨g, rfl, hg⟩, hu⟩
    cases hg
    exact ⟨rfl, hu⟩
  · rintro e u ⟨hreports, -⟩
    cases hreports with
    | broker herror => exact absurd herror (by simp [hf])

theorem readFrameWithin_of_buffered (ht : t.Holds channel p) {result : Except Malformed Frame}
    (hresult : p.next.1.result? = some result) (steps : Nat) (fed : Bool) :
    Outcome (fun f? u => (∃ f, f? = some f ∧ result = .ok f) ∧ u.Holds channel p.next.2)
      (fun e u => e.Reports result ∧ u.Holds channel p.next.2)
      ((readFrameWithin (steps + 1) fed : EStateM (Error R) (Transport κ R) (Option Frame)) t) := by
  obtain rfl := ht.parser
  refine (outcome_readFrameWithin_of_some ht.unwatched hresult steps fed).mono ?_ ?_
  · rintro f? u ⟨f, hf, hok, -, htook⟩
    exact ⟨⟨f, hf, hok⟩, ht.parsed htook⟩
  · rintro e u ⟨hreports, htook⟩
    exact ⟨hreports, ht.parsed htook⟩

theorem finds_of_buffered (ht : t.Holds channel p) {result : Except Malformed Frame}
    (hresult : p.next.1.result? = some result) : t.Finds result channel p.next.2 :=
  readFrameWithin_of_buffered ht hresult _ false

theorem finds_of_arrival {legacy : Bool} (ht : t.Holds channel { legacy }) {bytes : Bytes}
    (hconnected : Channel.isConnected channel = true)
    (hread : Channel.read readSize channel = .ok bytes after) {result : Except Malformed Frame}
    (hresult : ({ legacy, buffer := bytes } : Parser).next.1.result? = some result) :
    t.Finds result after ({ legacy, buffer := bytes } : Parser).next.2 := by
  have hbytes : bytes.isEmpty = false := by
    cases bytes with
    | nil => cases hresult
    | cons b bytes => rfl
  unfold Finds readFrame
  rw [get_bind]
  unfold readFrameWithin
  apply (outcome_nextFrame ht.unwatched).bind
  · rintro e u ⟨fault, -, hnext, -⟩
    rw [ht.parser] at hnext
    cases hnext
  rintro f? u ⟨hnext, hu⟩
  rw [ht.parser] at hnext hu
  cases f? with
  | some f => cases hnext
  | none =>
      have hu : u.Holds channel { legacy } := ht.parsed hu
      have hlink : Channel.read readSize u.link.channel = .ok bytes after := hu.channel ▸ hread
      apply (hu.onLink (Link.read_of_ok (hu.channel ▸ hconnected) hlink)).bind (fun _ _ h => h.elim)
      rintro data v ⟨rfl, hv⟩
      rw [hbytes]
      have hfed : Holds { v with parser := v.parser.feed data } after { legacy, buffer := data } :=
        ⟨hv.unwatched, hv.channel, by rw [hv.parser]; rfl⟩
      exact readFrameWithin_of_buffered hfed hresult _ true

theorem reads_of_buffered (ht : t.Holds channel p) {f : Frame}
    (hresult : p.next.1.result? = some (.ok f)) (hf : f.isError = false) :
    t.Reads f channel p.next.2 :=
  (finds_of_buffered ht hresult).reads hf

theorem reads_of_arrival {legacy : Bool} (ht : t.Holds channel { legacy }) {f : Frame}
    {bytes : Bytes} (hconnected : Channel.isConnected channel = true)
    (hread : Channel.read readSize channel = .ok bytes after)
    (hresult : ({ legacy, buffer := bytes } : Parser).next.1.result? = some (.ok f))
    (hf : f.isError = false) :
    t.Reads f after ({ legacy, buffer := bytes } : Parser).next.2 :=
  (finds_of_arrival ht hconnected hread hresult).reads hf

end Transport

end Stomp
