import Stomp.Proofs.Channel.Script
import Stomp.Proofs.Client.Delivery
import Stomp.Proofs.Client.Holding
import Stomp.Proofs.Parser.Spelling

/-!
# Receipts behind other frames

A send that waits for its receipt looks at the channel after each frame that it queues, even if the
parser has more frames ready. Where nothing more arrives, that uses up the time of the wait: a
receipt that was read together with at least two frames before it is reported missing, and is left
behind in the parser.
-/

namespace Stomp.Client

open Stomp.Action

variable {κ R : Type}

/-! ## Receipts that are missed -/

/-- The parser has nothing more to give, or frames were queued. -/
def Strained (c d : Client κ R) : Prop :=
  d.transport.parser.Settled ∨ ∃ f kept, d.queue = c.queue ++ f :: kept

theorem not_missingReceipt_of_isSending {e : Error R} (h : e.isSending = true) (id : String) :
    e ≠ .missingReceipt id := by
  rintro rfl
  cases h

variable [Channel κ R]

theorem not_missingReceipt_of_fails {t u : Transport κ R} {e : Error R} (h : t.Fails e u)
    (id : String) : e ≠ .missingReceipt id := by
  rintro rfl
  cases h with
  | reported hreports _ => cases hreports
  | channel he _ => cases he

theorem Strained.quiet {c d e : Client κ R} (h : c.Strained d) (hd : d.Quiet e) :
    c.Strained e := by
  rw [Strained, hd.transport.parser, hd.queue]
  exact h

theorem Queued.strained {c d e : Client κ R} (hcd : c.Queued d) (h : d.Strained e) :
    c.Strained e := by
  rcases h with hsettled | ⟨f, more, hmore⟩
  · exact Or.inl hsettled
  · obtain ⟨kept, hturn, -⟩ := hcd
    have hqueue : d.queue = c.queue ++ kept := hturn.queue
    refine Or.inr ?_
    rw [hmore, hqueue, List.append_assoc]
    cases kept with
    | nil => exact ⟨f, more, rfl⟩
    | cons g kept => exact ⟨g, kept ++ f :: more, rfl⟩

/-- The wait for a receipt gives up after an attempt that found nothing, or after one that queued a
frame. -/
theorem wait_strained {c : Client κ R} (hc : c.transport.Unwatched) (id : String) :
    Wait id c.Queued (fun d => c.Queued d ∧ c.Strained d) (fun _ _ => True)
      (fun e d => ∀ id, e = .missingReceipt id → c.Strained d) where
  unwatched hd := hd.unwatched hc
  receipt _ _ _ _ := True.intro
  unexpected _ _ _ _ _ he := nomatch he
  other hd hdelivers hother :=
    ⟨hd.trans (queued_of_other hdelivers hother), hd.strained (Or.inr ⟨_, [], rfl⟩)⟩
  nothing hd hdelivers :=
    ⟨hd.trans (queued_of_nothing hdelivers), Or.inl (hdelivers.settled rfl)⟩
  fails _ hfails id he := absurd he (not_missingReceipt_of_fails hfails id)
  stalled _ _ he := nomatch he
  again hd he := hd.1.trans he.queued
  ends hd he _ _ _ := hd.2.quiet he

variable [Scale R]

theorem strained_sendFrame {c : Client κ R} (hc : c.transport.Unwatched) (f : Frame)
    (sync? : Option Bool) :
    Outcome (fun _ _ => True) (fun e d => ∀ id, e = .missingReceipt id → c.Strained d)
      (withFrame f (sendFrame sync?) c) := by
  apply Outcome.withFrame
  cases hsync : sync?.getD c.config.sync with
  | true =>
      have hfailed : ∀ (e : Error R) d, e.isSending = true → c.Quiet d →
          ∀ id, e = .missingReceipt id → c.Strained d :=
        fun e d he _ id h => absurd h (not_missingReceipt_of_isSending he id)
      exact outcome_sendFrame_of_sync hc f hsync hfailed fun d limit steps hd =>
        (wait_strained hc c.ids.next.1).outcome hd.queued limit steps
  | false =>
      refine (quiet_sendFrame hc f hsync).mono (fun _ _ _ => True.intro) ?_
      exact fun e q h id he => absurd he (not_missingReceipt_of_isSending h.1 id)

/-! ## Receipts that arrive with other frames -/

/-- The bytes spell frames that are no RECEIPT or ERROR frames, and then the receipt for the id. -/
inductive Batch (legacy : Bool) (id : String) (receipt : Frame) : List Frame → Bytes → Prop
  | receipt {bytes : Bytes} : Parser.Spells legacy bytes receipt →
      receipt.command = Verb.receipt → receipt.get? Name.receiptId = some (.text id) →
      Batch legacy id receipt [] bytes
  | other {f : Frame} {frames : List Frame} {bytes rest : Bytes} : Parser.Spells legacy bytes f →
      f.command ≠ Verb.receipt → f.isError = false → Batch legacy id receipt frames rest →
      Batch legacy id receipt (f :: frames) (bytes ++ rest)

namespace Batch

variable {legacy : Bool} {id : String} {receipt : Frame} {frames : List Frame} {data : Bytes}

theorem isError_receipt {f : Frame} (h : f.command = Verb.receipt) : f.isError = false := by
  rw [Frame.isError, h]
  decide

theorem drained_eq (h : Batch legacy id receipt frames data) :
    ({ legacy, buffer := data } : Parser).drained =
      ((frames ++ [receipt]).map .ok, { legacy }) := by
  induction h with
  | @receipt bytes hbytes _ _ =>
      have hdrained := hbytes.drained_eq []
      rw [List.append_nil] at hdrained
      rw [hdrained, Parser.drained_of_settled (Parser.settled_new legacy)]
      rfl
  | other hbytes _ _ _ ih =>
      rw [hbytes.drained_eq, ih]
      rfl

theorem length_lt (h : Batch legacy id receipt frames data) : frames.length < data.length := by
  induction h with
  | receipt hbytes _ _ => exact List.length_pos_iff.2 hbytes.ne_nil
  | other hbytes _ _ _ ih =>
      have hpos := List.length_pos_iff.2 hbytes.ne_nil
      rw [List.length_cons, List.length_append]
      omega

end Batch

section Scripted

variable {c : Client (Script Rat) Rat} {s : Script Rat} {p : Parser} {queue : List Frame}
  {legacy : Bool} {id : String} {receipt : Frame} {frames : List Frame} {data : Bytes}
  {limit : Rat} {late : Error Rat}

theorem waitForData_of_canRead (hc : c.Holds s p queue) (hs : s.Prompt) (hlimit : s.clock < limit)
    {ready : Bool} {after : Script Rat}
    (hwait : Channel.canRead (some (.real (limit - s.clock))) s = .ok ready after) :
    Outcome (fun _ d => d.Holds after p queue) (fun _ _ => False)
      ((waitForData limit late : ClientAction (Script Rat) Rat Unit) c) := by
  have hnow : c.transport.now = s.clock := congrArg Script.clock hc.transport.channel
  unfold waitForData
  rw [get_bind]
  dsimp only
  rw [hnow, if_neg]
  · apply Outcome.discard
    have hlink : Channel.canRead (some (.real (limit - s.clock))) c.transport.link.channel =
        .ok ready after := by
      rw [hc.transport.channel, hwait]
    have hconnected : Channel.isConnected c.transport.link.channel = true :=
      hc.transport.channel.symm ▸ hs.connected
    refine Outcome.on ((hc.transport.onLink (Link.canRead_of_ok hconnected hlink)).mono ?_ ?_)
    · exact fun _ _ h => ⟨h.2, hc.queue⟩
    · exact fun _ _ h => h
  · have hremaining : ¬ limit - s.clock ≤ 0 := by linarith
    simpa [Scale.le, Scale.zero] using hremaining

theorem waitForData_of_late (hc : c.Holds s p queue) (hlimit : limit ≤ s.clock) :
    Outcome (fun _ _ => False) (fun e d => e = late ∧ d.Holds s p queue)
      ((waitForData limit late : ClientAction (Script Rat) Rat Unit) c) := by
  have hnow : c.transport.now = s.clock := congrArg Script.clock hc.transport.channel
  unfold waitForData
  rw [get_bind]
  dsimp only
  rw [hnow, if_pos]
  · exact ⟨rfl, hc⟩
  · have hremaining : limit - s.clock ≤ 0 := by linarith
    simpa [Scale.le, Scale.zero] using hremaining

theorem waitForData_of_arrival (hc : c.Holds s p queue) (hs : s.Prompt) (hlimit : s.clock < limit)
    (hincoming : s.incoming ≠ []) :
    Outcome (fun _ d => d.Holds s p queue) (fun _ _ => False)
      ((waitForData limit late : ClientAction (Script Rat) Rat Unit) c) :=
  waitForData_of_canRead hc hs hlimit (hs.canRead_of_arrival hincoming _)

theorem waitForData_of_silence (hc : c.Holds s p queue) (hs : s.Prompt) (hlimit : s.clock < limit)
    (hincoming : s.incoming = []) :
    Outcome (fun _ d => d.Holds { s with clock := limit } p queue) (fun _ _ => False)
      ((waitForData limit late : ClientAction (Script Rat) Rat Unit) c) := by
  have hend : s.clock + (limit - s.clock) = limit := by linarith
  have hwait := hs.canRead_of_silence hincoming (limit - s.clock)
  rw [hend] at hwait
  exact waitForData_of_canRead hc hs hlimit hwait

theorem awaitReceipt_of_arrival (hbatch : Batch legacy id receipt frames data) (hs : s.Prompt)
    (hincoming : s.incoming ≠ []) (hlimit : s.clock < limit) {steps : Nat}
    (hsteps : frames.length < steps) (hc : c.Holds s { legacy, buffer := data } queue) :
    Outcome (fun _ d => d.queue = queue ++ frames) (fun _ _ => False)
      ((awaitReceipt id limit steps : ClientAction (Script Rat) Rat Unit) c) := by
  induction hbatch generalizing steps c queue with
  | @receipt bytes hbytes hcommand hid =>
      obtain ⟨steps, rfl⟩ : ∃ n, steps = n + 1 := ⟨steps - 1, by omega⟩
      have hread := Transport.reads_of_buffered hc.transport hbytes.result?_next
        (Batch.isError_receipt hcommand)
      refine (awaitReceipt_of_receipt hc hread hcommand hid limit steps).mono ?_ (fun _ _ h => h)
      intro _ d hd
      rw [hd.queue, List.append_nil]
  | @other f frames bytes rest hbytes hcommand herror _ ih =>
      obtain ⟨steps, rfl⟩ : ∃ n, steps = n + 1 := ⟨steps - 1, by omega⟩
      obtain ⟨hresult, hleft⟩ := hbytes rest
      have hread := Transport.reads_of_buffered hc.transport hresult herror
      rw [hleft] at hread
      apply awaitReceipt_of_other hc hread hcommand
      intro d hd
      apply (waitForData_of_arrival hd hs hlimit hincoming).bind (fun _ _ h => h)
      intro _ e he
      have hrest := ih (by simpa using hsteps) he
      rwa [List.append_assoc] at hrest

theorem awaitReceipt_of_late (hbatch : Batch legacy id receipt frames data)
    (hlimit : limit ≤ s.clock) (steps : Nat) (hc : c.Holds s { legacy, buffer := data } queue) :
    Outcome (fun _ d => frames = [] ∧ d.queue = queue)
      (fun e d => frames ≠ [] ∧ e = .missingReceipt id ∧ d.queue = queue ++ frames.take 1 ∧
        d.transport.parser.drained.1 = (frames.drop 1 ++ [receipt]).map .ok)
      ((awaitReceipt id limit (steps + 1) : ClientAction (Script Rat) Rat Unit) c) := by
  cases hbatch with
  | receipt hbytes hcommand hid =>
      have hread := Transport.reads_of_buffered hc.transport hbytes.result?_next
        (Batch.isError_receipt hcommand)
      refine (awaitReceipt_of_receipt hc hread hcommand hid limit steps).mono ?_
        (fun _ _ h => h.elim)
      exact fun _ d hd => ⟨rfl, hd.queue⟩
  | @other f frames bytes rest hbytes hcommand herror hrest =>
      obtain ⟨hresult, hleft⟩ := hbytes rest
      have hread := Transport.reads_of_buffered hc.transport hresult herror
      rw [hleft] at hread
      apply awaitReceipt_of_other hc hread hcommand
      intro d hd
      apply (waitForData_of_late hd hlimit).bind
      · rintro e d' ⟨rfl, hd'⟩
        refine ⟨List.cons_ne_nil _ _, rfl, hd'.queue, ?_⟩
        rw [hd'.transport.parser, hrest.drained_eq]
        rfl
      · exact fun _ _ h => h.elim

/-- A receipt that is read together with the frames before it is found if there is at most one of
them or more is to come. Otherwise it is missed, although the parser has it. -/
theorem awaitReceipt_of_batch (hbatch : Batch legacy id receipt frames data) (hs : s.Prompt)
    {later : List Arrival} (hincoming : s.incoming = .data data :: later)
    (hsize : data.length ≤ Transport.readSize) (hlimit : s.clock < limit) {steps : Nat}
    (hsteps : frames.length < steps) (hc : c.Holds s { legacy } []) :
    Outcome (fun _ d => (frames.length ≤ 1 ∨ later ≠ []) ∧ d.queue = frames)
      (fun e d => (1 < frames.length ∧ later = []) ∧ e = .missingReceipt id ∧
        d.queue = frames.take 2 ∧
        d.transport.parser.drained.1 = (frames.drop 2 ++ [receipt]).map .ok)
      ((awaitReceipt id limit steps : ClientAction (Script Rat) Rat Unit) c) := by
  obtain ⟨steps, rfl⟩ : ∃ n, steps = n + 1 := ⟨steps - 1, by omega⟩
  have hdata := hs.read_eq hincoming hsize
  have hs' : Script.Prompt { s with incoming := later } := ⟨hs.connected, hs.step, hs.failures⟩
  cases hbatch with
  | receipt hbytes hcommand hid =>
      have hread := Transport.reads_of_arrival hc.transport hs.connected hdata hbytes.result?_next
        (Batch.isError_receipt hcommand)
      refine (awaitReceipt_of_receipt hc hread hcommand hid limit steps).mono ?_
        (fun _ _ h => h.elim)
      exact fun _ d hd => ⟨Or.inl (Nat.zero_le 1), hd.queue⟩
  | @other f frames bytes rest hbytes hcommand herror hrest =>
      obtain ⟨hresult, hleft⟩ := hbytes rest
      have hread := Transport.reads_of_arrival hc.transport hs.connected hdata hresult herror
      rw [hleft] at hread
      apply awaitReceipt_of_other hc hread hcommand
      intro d hd
      by_cases hlater : later = []
      · apply (waitForData_of_silence hd hs' hlimit hlater).bind (fun _ _ h => h.elim)
        intro _ e he
        obtain ⟨steps, rfl⟩ : ∃ n, steps = n + 1 :=
          ⟨steps - 1, by simp only [List.length_cons] at hsteps; omega⟩
        refine (awaitReceipt_of_late hrest (le_refl limit) steps he).mono ?_ ?_
        · rintro - d' ⟨rfl, hqueue⟩
          exact ⟨Or.inl (Nat.le_refl 1), hqueue⟩
        · rintro x d' ⟨hframes, rfl, hqueue, hdrained⟩
          have hpos := List.length_pos_iff.2 hframes
          refine ⟨⟨by simpa using hpos, hlater⟩, rfl, ?_, hdrained⟩
          rw [hqueue]
          rfl
      · apply (waitForData_of_arrival hd hs' hlimit hlater).bind (fun _ _ h => h.elim)
        intro _ e he
        have hsteps : frames.length < steps := by simpa using hsteps
        refine (awaitReceipt_of_arrival hrest hs' hlater hlimit hsteps he).mono ?_
          (fun _ _ h => h.elim)
        exact fun _ d' hd' => ⟨Or.inr hlater, hd'⟩

theorem outcome_sendFrame_of_batch (hbatch : Batch legacy c.ids.next.1 receipt frames data)
    (hs : s.Prompt) {later : List Arrival} (hincoming : s.incoming = .data data :: later)
    (hsize : data.length ≤ Transport.readSize) (hc : c.Holds s { legacy } [])
    (hprotocol : c.protocol?.isSome) {f : Frame} (hf : ∃ g, f.rendered = .ok g)
    {sync? : Option Bool} (hsync : sync?.getD c.config.sync = true) {time : Rat}
    (htime : c.config.receiptTimeout.toScale? = some time) (hpos : 0 < time) :
    Outcome (fun _ d => (frames.length ≤ 1 ∨ later ≠ []) ∧ d.queue = frames)
      (fun e d => (1 < frames.length ∧ later = []) ∧ e = .missingReceipt c.ids.next.1 ∧
        d.queue = frames.take 2 ∧
        d.transport.parser.drained.1 = (frames.drop 2 ++ [receipt]).map .ok)
      (withFrame f (sendFrame sync?) c) := by
  have hlimit : s.clock < s.clock + time := by linarith
  have hpatience : data.length < Channel.patience s := by
    change data.length < s.patience
    rw [Script.patience, hincoming, List.foldr_cons]
    dsimp only
    omega
  have hlength := hbatch.length_lt
  apply outcome_sendFrame_of_wait hc hprotocol hs.connected hs.write_eq hf hsync htime
  intro d hd
  exact awaitReceipt_of_batch hbatch hs hincoming hsize hlimit (by omega) hd

theorem sendFrame_missed (hbatch : Batch legacy c.ids.next.1 receipt frames data)
    (hs : s.Prompt) (hincoming : s.incoming = [.data data])
    (hsize : data.length ≤ Transport.readSize) (hc : c.Holds s { legacy } [])
    (hprotocol : c.protocol?.isSome) {f : Frame} (hf : ∃ g, f.rendered = .ok g)
    {sync? : Option Bool} (hsync : sync?.getD c.config.sync = true) {time : Rat}
    (htime : c.config.receiptTimeout.toScale? = some time) (hpos : 0 < time)
    (hmany : 1 < frames.length) :
    ∃ d, withFrame f (sendFrame sync?) c = .error (.missingReceipt c.ids.next.1) d ∧
      d.queue = frames.take 2 ∧
      d.transport.parser.drained.1 = (frames.drop 2 ++ [receipt]).map .ok := by
  have hsent := outcome_sendFrame_of_batch hbatch hs hincoming hsize hc hprotocol hf hsync htime
    hpos
  have hmissed := hsent.exists_error fun _ d h => by
    rcases h.1 with hfew | hmore
    · omega
    · exact hmore rfl
  obtain ⟨e, d, hdone, -, rfl, hqueue, hdrained⟩ := hmissed
  exact ⟨d, hdone, hqueue, hdrained⟩

/-- A receipt that arrives in one piece with frames before it is found if there is at most one of
them or more is to come; the frames are queued. Otherwise it is reported missing while the parser
has it, and only two of the frames are queued. In general a receipt is reported missing when the
parser has nothing more to give, or after a frame was queued. -/
theorem sendFrame_batch (hbatch : Batch legacy c.ids.next.1 receipt frames data)
    (hs : s.Prompt) {later : List Arrival} (hincoming : s.incoming = .data data :: later)
    (hsize : data.length ≤ Transport.readSize) (hc : c.Holds s { legacy } [])
    (hprotocol : c.protocol?.isSome) {f : Frame} (hf : ∃ g, f.rendered = .ok g)
    {sync? : Option Bool} (hsync : sync?.getD c.config.sync = true) {time : Rat}
    (htime : c.config.receiptTimeout.toScale? = some time) (hpos : 0 < time) :
    (frames.length ≤ 1 ∨ later ≠ [] →
      ∃ d, withFrame f (sendFrame sync?) c = .ok () d ∧ d.queue = frames) ∧
    (1 < frames.length ∧ later = [] →
      ∃ d, withFrame f (sendFrame sync?) c = .error (.missingReceipt c.ids.next.1) d ∧
        d.queue = frames.take 2 ∧
        d.transport.parser.drained.1 = (frames.drop 2 ++ [receipt]).map .ok) ∧
    ∀ {κ R : Type} [Scale R] [Channel κ R] (a b : Client κ R) (g : Frame) (sync? : Option Bool)
      (id : String), a.transport.Unwatched →
      withFrame g (sendFrame sync?) a = .error (.missingReceipt id) b →
      b.transport.parser.Settled ∨ ∃ h kept, b.queue = a.queue ++ h :: kept := by
  refine ⟨?_, ?_, ?_⟩
  · intro hfound
    have hsent := outcome_sendFrame_of_batch hbatch hs hincoming hsize hc hprotocol hf hsync htime
      hpos
    have hfinds := hsent.exists_ok fun e d h => by
      obtain ⟨⟨hmany, hlast⟩, -⟩ := h
      rcases hfound with hfew | hmore
      · omega
      · exact hmore hlast
    obtain ⟨_, d, hdone, -, hqueue⟩ := hfinds
    exact ⟨d, hdone, hqueue⟩
  · rintro ⟨hmany, rfl⟩
    exact sendFrame_missed hbatch hs hincoming hsize hc hprotocol hf hsync htime hpos hmany
  · intro κ R _ _ a b g sync? id ha hdone
    have hstrained := strained_sendFrame ha g sync?
    rw [hdone] at hstrained
    exact hstrained id rfl

end Scripted

def message : Frame where
  command := "MESSAGE"
  headers := { entries := [("message-id", .text "1")] }
  body := [97]

def confirmation : Frame where
  command := "RECEIPT"
  headers := { entries := [("receipt-id", .text "uid-1")] }

theorem writable_message : message.Writable := by
  constructor
  case length_lt => exact Nat.one_lt_pow (by decide) (by decide)
  case command_line =>
    rw [← List.forall_iff_forall_mem]
    decide
  all_goals decide +kernel

theorem writable_confirmation : confirmation.Writable := by
  constructor
  case length_lt => exact Nat.pow_pos (by decide)
  case command_line =>
    rw [← List.forall_iff_forall_mem]
    decide
  all_goals decide +kernel

def rush : Bytes := message.wire ++ (message.wire ++ confirmation.wire)

theorem batch_rush : Batch false "uid-1" confirmation [message, message] rush := by
  have hidle : Parser.Idle [] := by simp [Parser.Idle]
  have hmessage : Parser.Spells false message.wire message :=
    Parser.spells_wire writable_message hidle
  have hconfirmation : Parser.Spells false confirmation.wire confirmation :=
    Parser.spells_wire writable_confirmation hidle
  have hcommand : message.command ≠ Verb.receipt := by decide
  exact .other hmessage hcommand rfl (.other hmessage hcommand rfl (.receipt hconfirmation rfl rfl))

/-- The receipt is found if so much as a line end is yet to come. -/
theorem sendFrame_batch_rush :
    ∃ d, withFrame { command := "SEND" } (sendFrame none) (hearing [rush, [10]]) = .ok () d ∧
      d.queue = [message, message] := by
  have hs : Script.Prompt (hearing [rush, [10]]).transport.link.channel := ⟨rfl, rfl, rfl⟩
  have hc : Holds (hearing [rush, [10]]) (hearing [rush, [10]]).transport.link.channel
      { legacy := false } [] := ⟨⟨rfl, rfl, rfl⟩, rfl⟩
  have hsize : rush.length ≤ Transport.readSize := by decide +kernel
  have hpos : (0 : Rat) < 2 := by norm_num
  exact (sendFrame_batch batch_rush hs rfl hsize hc rfl ⟨_, rfl⟩ rfl rfl hpos).1
    (Or.inr (List.cons_ne_nil _ _))

/-- With nothing yet to come it is reported missing, although the parser has it. -/
theorem missingReceipt_rush :
    Batch false (hearing [rush]).ids.next.1 confirmation [message, message] rush ∧
    ∃ d, withFrame { command := "SEND" } (sendFrame none) (hearing [rush]) =
        .error (.missingReceipt (hearing [rush]).ids.next.1) d ∧
      d.queue = [message, message] ∧ d.transport.parser.drained.1 = [.ok confirmation] := by
  have hs : Script.Prompt (hearing [rush]).transport.link.channel := ⟨rfl, rfl, rfl⟩
  have hc : Holds (hearing [rush]) (hearing [rush]).transport.link.channel
      { legacy := false } [] := ⟨⟨rfl, rfl, rfl⟩, rfl⟩
  have hsize : rush.length ≤ Transport.readSize := by decide +kernel
  have hpos : (0 : Rat) < 2 := by norm_num
  exact ⟨batch_rush, sendFrame_missed batch_rush hs rfl hsize hc rfl ⟨_, rfl⟩ rfl rfl hpos
    (by decide)⟩

end Stomp.Client
