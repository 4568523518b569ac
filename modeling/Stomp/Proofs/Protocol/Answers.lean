import Stomp.Proofs.Header.Table
import Stomp.Proofs.Parser.Received
import Stomp.Proofs.Protocol.Frames

/-!
# How answers name a message

A message may be answered more than once. All answers name it by the same id: its ack header, or
else its message id, or else an id that is made up for the first of them and kept in the message
(`answered_replies`). An answer that is refused leaves no trace.
-/

namespace Stomp

open Stomp.Action

theorem HeaderValue.Proper.givenOf {v : HeaderValue} (h : v.Proper) :
    Command.givenOf v.offer = .ok v.given := by
  cases v with
  | text s => rfl
  | bare => rfl
  | number n => exact h.elim

namespace Frame

/-- The headers have values as they get them when they are set. Every frame that was received is
such a one. -/
def Filled (f : Frame) : Prop := ∀ e ∈ f.headers.entries, e.2.Proper

theorem filled_of_next {p : Parser} {f : Frame} (h : p.next.1.result? = some (.ok f)) :
    f.Filled := by
  obtain ⟨head, body, pairs, hread⟩ := Parser.exists_readAs_of_next h
  exact hread.proper

def isNamed (message : Frame) : Bool :=
  (message.get? Name.ack).isSome || (message.get? Name.messageId).isSome

/-- By what answers name the message: by a new id if need be. -/
def answerId (message : Frame) (ids : IdSupply) : HeaderValue :=
  ((message.get? Name.ack).or (message.get? Name.messageId)).getD (.text ids.next.1)

/-- The message when it was answered, and the ids that are left. -/
def answered (message : Frame) (ids : IdSupply) : Frame × IdSupply :=
  if message.isNamed then (message, ids)
  else (message.set Name.messageId (.text ids.next.1), ids.next.2)

theorem Filled.nonempty?_get? {f : Frame} (hf : f.Filled) (name : String) :
    HeaderValue.nonempty? (f.get? name) = f.get? name := by
  cases hget : f.get? name with
  | none => rfl
  | some v => exact (hf _ (Assoc.mem_of_get? hget)).nonempty?

theorem Filled.exists_given {f : Frame} (hf : f.Filled) (name : String) :
    ∃ g, Command.givenOf (.ofHeader (f.get? name)) = .ok g ∧ g.stored? = f.get? name := by
  cases hget : f.get? name with
  | none => exact ⟨.absent, rfl, rfl⟩
  | some v =>
      have hv := hf _ (Assoc.mem_of_get? hget)
      exact ⟨v.given, hv.givenOf, hv.stored?_given⟩

theorem Filled.set {f : Frame} (hf : f.Filled) (name : String) {s : String} (hs : s ≠ "") :
    (f.set name (.text s)).Filled := by
  intro e he
  rw [Frame.set, Headers.set, Given.stored?_text hs] at he
  rcases Headers.mem_insert he with ⟨he, -⟩ | rfl
  · exact hf e he
  · exact hs

section Answered

variable {message : Frame} {ids : IdSupply}

theorem answered_of_isNamed (h : message.isNamed = true) :
    message.answered ids = (message, ids) :=
  if_pos h

theorem isNamed_answered (message : Frame) (ids : IdSupply) :
    (message.answered ids).1.isNamed = true := by
  unfold answered
  split
  · assumption
  · have hid := Given.stored?_text ids.next_ne_empty
    rw [isNamed, get?_set_self, hid, Option.isSome_some, Bool.or_true]

theorem answerId_answered (message : Frame) (ids jds : IdSupply) :
    (message.answered ids).1.answerId jds = message.answerId ids := by
  have hack : Name.messageId ≠ Name.ack := by decide
  have hid := Given.stored?_text ids.next_ne_empty
  unfold answered
  split
  · rename_i h
    rw [isNamed, ← Option.isSome_or, Option.isSome_iff_exists] at h
    obtain ⟨v, hv⟩ := h
    rw [answerId, answerId, hv]
    rfl
  · rename_i h
    rw [isNamed, Bool.or_eq_true, not_or, Option.not_isSome_iff_eq_none,
      Option.not_isSome_iff_eq_none] at h
    rw [answerId, answerId, get?_set_of_ne _ hack, get?_set_self, hid, h.1, h.2]
    rfl

theorem get?_answered (message : Frame) (ids : IdSupply) {name : String}
    (h : Name.messageId ≠ name) : (message.answered ids).1.get? name = message.get? name := by
  unfold answered
  split
  · rfl
  · exact get?_set_of_ne _ h _

theorem subscription_answered (message : Frame) (ids : IdSupply) :
    (message.answered ids).1.get? Name.subscription = message.get? Name.subscription :=
  get?_answered message ids (by decide)

theorem Filled.proper_answerId (hf : message.Filled) (ids : IdSupply) :
    (message.answerId ids).Proper := by
  unfold answerId
  cases hnamed : (message.get? Name.ack).or (message.get? Name.messageId) with
  | none => exact ids.next_ne_empty
  | some v =>
      rcases Option.or_eq_some_iff.1 hnamed with hv | ⟨-, hv⟩
      · exact hf _ (Assoc.mem_of_get? hv)
      · exact hf _ (Assoc.mem_of_get? hv)

theorem Filled.answered (hf : message.Filled) (ids : IdSupply) :
    (message.answered ids).1.Filled := by
  unfold Frame.answered
  split
  · exact hf
  · exact hf.set _ ids.next_ne_empty

end Answered

end Frame

namespace Command

theorem identify_eq {message : Frame} (hf : message.Filled) (ids : IdSupply) :
    identify message ids = (message.answerId ids, message.answered ids) := by
  unfold identify Frame.ensureMessageId Frame.answerId Frame.answered Frame.isNamed
  rw [hf.nonempty?_get?, hf.nonempty?_get?]
  cases message.get? Name.ack with
  | some v => rfl
  | none =>
      cases message.get? Name.messageId with
      | some v => rfl
      | none => rfl

theorem get?_ofTransaction_of_ne (command : String) (v : Version) (t : Given) {name : String}
    (h : Name.transaction ≠ name) : (ofTransaction command v t).get? name = none :=
  Frame.get?_set_of_ne _ h t

theorem exists_acknowledgement (command : String) (v : Version) (t : Given) {id : HeaderValue}
    (hid : id.Proper) {subscription : Option HeaderValue} {g : Given}
    (hg : givenOf (.ofHeader subscription) = .ok g) (hstored : g.stored? = subscription) :
    ∃ f, acknowledgement command v t id subscription = .ok f ∧
      f.get? Name.id = (if v = .v12 then some id else none) ∧
      f.get? Name.messageId = (if v = .v12 then none else some id) ∧
      f.get? Name.subscription = if v = .v11 then subscription else none := by
  have hnamed := hid.stored?_given
  have hplain : ∀ name, Name.transaction ≠ name → (ofTransaction command v t).get? name = none :=
    fun name => get?_ofTransaction_of_ne command v t
  unfold acknowledgement
  rw [hid.givenOf]
  cases v with
  | v10 =>
      refine ⟨_, rfl, ?_⟩
      simp +decide [Frame.get?_set, hnamed, hplain]
  | v11 =>
      refine ⟨((ofTransaction command .v11 t).set Name.messageId id.given).set Name.subscription g,
        by rw [hg]; rfl, ?_⟩
      simp +decide [Frame.get?_set, hnamed, hstored, hplain]
  | v12 =>
      refine ⟨_, rfl, ?_⟩
      simp +decide [Frame.get?_set, hnamed, hplain]

theorem exists_answer {message : Frame} (hf : message.Filled) (ids : IdSupply) (command : String)
    (v : Version) (t : Given) :
    ∃ f, answer command v t (message, ids) = .ok f (message.answered ids) ∧
      f.get? Name.id = (if v = .v12 then some (message.answerId ids) else none) ∧
      f.get? Name.messageId = (if v = .v12 then none else some (message.answerId ids)) ∧
      f.get? Name.subscription =
        if v = .v11 then message.get? Name.subscription else none := by
  obtain ⟨g, hg, hstored⟩ := hf.exists_given Name.subscription
  obtain ⟨f, hacknowledgement, hnames⟩ :=
    exists_acknowledgement command v t (hf.proper_answerId ids) hg hstored
  refine ⟨f, ?_, hnames⟩
  rw [answer, identify_eq hf]
  dsimp only
  rw [message.subscription_answered ids, hacknowledgement]
  rfl

end Command

/-! ## One answer -/

inductive Reply where
  | ack (transaction : Given)
  | nack (transaction : Given) (requeue : Option Bool)

def Reply.isAck : Reply → Bool
  | .ack _ => true
  | .nack _ _ => false

namespace Protocol

open Command (Fault)

def reply (p : Protocol) : Reply → InHand Fault IdSupply Frame
  | .ack t => p.ack t
  | .nack t requeue => p.nack t requeue

/-- There is no NACK in the oldest version, and one dialect only lets a message be queued again. -/
def refuses (p : Protocol) : Reply → Bool
  | .ack _ => false
  | .nack _ requeue => decide (p.version = .v10) || requeue.isSome && decide (p.dialect ≠ .rabbitmq)

/-- The answer names the message by the id, in the one header that the version has for it, and its
subscription where version or dialect ask for it. -/
structure Names (p : Protocol) (message : Frame) (id : HeaderValue) (r : Reply) (f : Frame) :
    Prop where
  byId : f.get? Name.id = if p.version = .v12 then some id else none
  byMessageId : f.get? Name.messageId = if p.version = .v12 then none else some id
  subscription : f.get? Name.subscription =
    if p.version = .v11 ∨ r.isAck = true ∧ p.dialect = .openmq then message.get? Name.subscription
    else none

variable {p : Protocol} {message : Frame} {r : Reply}

theorem reply_of_refuses (h : p.refuses r = true) (s : Frame × IdSupply) :
    ∃ e, p.reply r s = .error e s := by
  cases r with
  | ack t => cases h
  | nack t requeue =>
      rw [refuses, Bool.or_eq_true, Bool.and_eq_true, decide_eq_true_iff, decide_eq_true_iff] at h
      have hnack : p.version = .v10 → Command.nack p.version t s =
          .error (.nackUnsupported p.version) s := by
        intro hv
        rw [Command.nack, if_pos hv]
        rfl
      unfold reply nack
      cases requeue with
      | none =>
          have hv := h.resolve_right (fun hr => by cases hr.1)
          exact ⟨_, hnack hv⟩
      | some again =>
          dsimp only
          split
          · rename_i hdialect
            have hv := h.resolve_right (fun hr => hr.2 hdialect)
            exact ⟨_, bind_of_error (hnack hv)⟩
          · exact ⟨_, rfl⟩

theorem reply_ack (t : Given) (hf : message.Filled) (ids : IdSupply) :
    ∃ f, p.reply (.ack t) (message, ids) = .ok f (message.answered ids) ∧
      p.Names message (message.answerId ids) (.ack t) f := by
  obtain ⟨g, hg, hstored⟩ := hf.exists_given Name.subscription
  obtain ⟨f, hanswer, hid, hmessageId, hsubscription⟩ :=
    Command.exists_answer hf ids Verb.ack p.version t
  unfold reply ack Command.ack
  dsimp only
  rw [bind_of_ok hanswer, get_bind]
  split
  · rename_i hdialect
    rw [message.subscription_answered ids, hg]
    refine ⟨f.set Name.subscription g, rfl, ?_, ?_, ?_⟩
    · rw [Frame.get?_set_of_ne _ (by decide), hid]
    · rw [Frame.get?_set_of_ne _ (by decide), hmessageId]
    · rw [Frame.get?_set_self, hstored, if_pos (Or.inr ⟨rfl, hdialect⟩)]
  · rename_i hdialect
    refine ⟨f, rfl, hid, hmessageId, ?_⟩
    rw [hsubscription]
    simp [hdialect]

theorem reply_nack (t : Given) (requeue : Option Bool) (h : p.refuses (.nack t requeue) = false)
    (hf : message.Filled) (ids : IdSupply) :
    ∃ f, p.reply (.nack t requeue) (message, ids) = .ok f (message.answered ids) ∧
      p.Names message (message.answerId ids) (.nack t requeue) f := by
  obtain ⟨f, hanswer, hid, hmessageId, hsubscription⟩ :=
    Command.exists_answer hf ids Verb.nack p.version t
  rw [refuses, Bool.or_eq_false_iff, decide_eq_false_iff_not] at h
  have hnack : Command.nack p.version t (message, ids) = .ok f (message.answered ids) := by
    rw [Command.nack, if_neg h.1, hanswer]
  unfold reply nack
  cases requeue with
  | none =>
      refine ⟨f, hnack, hid, hmessageId, ?_⟩
      rw [hsubscription]
      simp [Reply.isAck]
  | some again =>
      have hdialect : p.dialect = .rabbitmq := by simpa using h.2
      dsimp only
      rw [if_pos hdialect]
      rw [bind_of_ok hnack]
      refine ⟨_, rfl, ?_, ?_, ?_⟩
      · rw [Frame.get?_set_of_ne _ (by decide), hid]
      · rw [Frame.get?_set_of_ne _ (by decide), hmessageId]
      · rw [Frame.get?_set_of_ne _ (by decide), hsubscription]
        simp [Reply.isAck]

/-- Any other answer is given: it names the message, which is known by that name from then on. -/
theorem reply_of_not_refuses (h : p.refuses r = false) (hf : message.Filled) (ids : IdSupply) :
    ∃ f, p.reply r (message, ids) = .ok f (message.answered ids) ∧
      p.Names message (message.answerId ids) r f := by
  cases r with
  | ack t => exact reply_ack t hf ids
  | nack t requeue => exact reply_nack t requeue h hf ids

/-! ## Answers one after the other -/

/-- What becomes of the answers that are asked for, and the message and the ids after them. -/
def replies (p : Protocol) : List Reply → Frame × IdSupply →
    List (Except Fault Frame) × (Frame × IdSupply)
  | [], s => ([], s)
  | r :: rs, s =>
    let (others, t) := p.replies rs (after (p.reply r) s)
    (result (p.reply r) s :: others, t)

/-- An answer is refused, or it names the message by the id. -/
inductive Replied (p : Protocol) (message : Frame) (id : HeaderValue) :
    Reply → Except Fault Frame → Prop
  | refused {r : Reply} (e : Fault) : p.refuses r = true → Replied p message id r (.error e)
  | named {r : Reply} {f : Frame} : p.refuses r = false → p.Names message id r f →
    Replied p message id r (.ok f)

theorem replies_cons (r : Reply) (rs : List Reply) (s : Frame × IdSupply) :
    p.replies (r :: rs) s = (result (p.reply r) s :: (p.replies rs (after (p.reply r) s)).1,
      (p.replies rs (after (p.reply r) s)).2) := rfl

theorem Replied.of_answered {ids : IdSupply} {id : HeaderValue} {outcome : Except Fault Frame}
    (h : p.Replied (message.answered ids).1 id r outcome) : p.Replied message id r outcome := by
  cases h with
  | refused e hr => exact .refused e hr
  | named hr hnames =>
      have hkept := message.subscription_answered ids
      exact .named hr ⟨hnames.byId, hnames.byMessageId, hnames.subscription.trans (by rw [hkept])⟩

theorem replied_replies (p : Protocol) {message : Frame} (hf : message.Filled) (ids : IdSupply)
    (rs : List Reply) :
    List.Forall₂ (p.Replied message (message.answerId ids)) rs (p.replies rs (message, ids)).1 ∧
      (p.replies rs (message, ids)).2 =
        if rs.all p.refuses then (message, ids) else message.answered ids := by
  induction rs generalizing message ids with
  | nil => exact ⟨.nil, rfl⟩
  | cons r rs ih =>
      rw [replies_cons, List.all_cons]
      cases hr : p.refuses r with
      | true =>
          obtain ⟨e, he⟩ := reply_of_refuses hr (message, ids)
          have hresult : result (p.reply r) (message, ids) = .error e := by rw [result, he]
          have hafter : after (p.reply r) (message, ids) = (message, ids) := by rw [after, he]
          obtain ⟨hreplied, hleft⟩ := ih hf ids
          rw [hresult, hafter]
          exact ⟨.cons (.refused e hr) hreplied, hleft⟩
      | false =>
          obtain ⟨f, hok, hnames⟩ := reply_of_not_refuses hr hf ids
          have hresult : result (p.reply r) (message, ids) = .ok f := by rw [result, hok]
          have hafter : after (p.reply r) (message, ids) = message.answered ids := by
            rw [after, hok]
          obtain ⟨hreplied, hleft⟩ := ih (hf.answered ids) (message.answered ids).2
          rw [Frame.answerId_answered] at hreplied
          rw [Frame.answered_of_isNamed (Frame.isNamed_answered message ids), ite_self] at hleft
          rw [hresult, hafter]
          exact ⟨.cons (.named hr hnames) (hreplied.imp fun _ _ => Replied.of_answered), hleft⟩

/-- However often a message is answered, and in whatever ways, each answer that is not refused names
it by the one id, which is its ack header, or else its message id, or else the next new id. The
message and the ids are as they were if all answers were refused; otherwise the message has kept
a new id for itself if it had none before, and is as it was in everything else. A refused answer
changes nothing at any time. -/
theorem answered_replies (p : Protocol) {message : Frame} (hf : message.Filled) (ids : IdSupply)
    (rs : List Reply) :
    List.Forall₂ (p.Replied message (message.answerId ids)) rs (p.replies rs (message, ids)).1 ∧
      (p.replies rs (message, ids)).2 =
        (if rs.all p.refuses then (message, ids) else message.answered ids) ∧
      ∀ r s, p.refuses r = true → after (p.reply r) s = s := by
  obtain ⟨hreplied, hleft⟩ := replied_replies p hf ids rs
  refine ⟨hreplied, hleft, fun r s hr => ?_⟩
  obtain ⟨e, he⟩ := reply_of_refuses hr s
  rw [after, he]

def nameless : Frame :=
  { command := Verb.message
    headers := { entries := [(Name.subscription, .text "7"), (Name.destination, .text "/q")] } }

def received : Parser where
  buffer := Bytes.ofString "MESSAGE\nsubscription:7\ndestination:/q\n\n\x00"

/-- The broker has a dialect in which an ACK names the subscription. -/
def queued : Protocol :=
  { clientId := .absent, version := .v12, server := some (.text "Open Message Queue 5.1"),
    dialect := .openmq }

theorem answered_replies_nameless :
    let rs := [.nack .absent (some true), .ack (.text "t"), .nack .absent none, .ack .absent]
    let left := nameless.set Name.messageId (.text "uid-1")
    List.Forall₂ (queued.Replied nameless (.text "uid-1")) rs
        (queued.replies rs (nameless, {})).1 ∧
      (queued.replies rs (nameless, {})).2 = (left, ⟨1⟩) ∧
      after (queued.reply (.nack .absent (some true))) (left, ⟨1⟩) = (left, ⟨1⟩) := by
  intro rs left
  have hf : nameless.Filled := Frame.filled_of_next (p := received) rfl
  have hid : nameless.answerId {} = .text "uid-1" := by decide +kernel
  obtain ⟨hreplied, hleft, hrefused⟩ := answered_replies queued hf {} rs
  exact ⟨hid ▸ hreplied, hleft, hrefused _ _ rfl⟩

end Protocol

end Stomp
