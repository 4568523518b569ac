import Mathlib.Data.List.Forall2
import Stomp.Proofs.Client.Ids
import Stomp.Proofs.Session.Recorded

/-!
# The state of a session and the frames it sent

The frames that open and end subscriptions and transactions are entered in a ledger, which refuses
what is not legal. A session and the ledger of its frames agree at all times (`agrees_run`): the
subscriptions of the session are the live ones of the ledger, and its transaction is the open one.
-/

namespace Stomp.Session

/-! ## Ledgers -/

/-- What frames amount to: the live subscriptions as they were opened, the open transaction, and
all ids that were ever used. -/
structure Ledger where
  live : List Frame := []
  subscribed : List HeaderValue := []
  transaction? : Option HeaderValue := none
  begun : List HeaderValue := []

namespace Ledger

/-- A subscription needs an id that was never used. -/
def subscribe (l : Ledger) (f : Frame) : Option Ledger :=
  match f.get? Name.id with
  | some id =>
    if id ∈ l.subscribed then none
    else some { l with live := l.live ++ [f], subscribed := id :: l.subscribed }
  | none => none

/-- Only a live subscription is ended. -/
def unsubscribe (l : Ledger) (f : Frame) : Option Ledger :=
  if f.get? Name.id ∈ l.live.map fun g => g.get? Name.id then
    some { l with live := l.live.filter fun g => g.get? Name.id ≠ f.get? Name.id }
  else none

/-- A transaction needs an id that was never used, and no other one may be open. -/
def begin (l : Ledger) (f : Frame) : Option Ledger :=
  match l.transaction?, f.get? Name.transaction with
  | none, some t =>
    if t ∈ l.begun then none else some { l with transaction? := some t, begun := t :: l.begun }
  | _, _ => none

/-- Only the open transaction is ended. -/
def finish (l : Ledger) (f : Frame) : Option Ledger :=
  if l.transaction?.isSome ∧ f.get? Name.transaction = l.transaction? then
    some { l with transaction? := none }
  else none

/-- The ledger after a frame, if that is legal. Other frames are not entered. -/
def enter (l : Ledger) (f : Frame) : Option Ledger :=
  if f.command = Verb.subscribe then l.subscribe f
  else if f.command = Verb.unsubscribe then l.unsubscribe f
  else if f.command = Verb.begin then l.begin f
  else if f.command = Verb.commit ∨ f.command = Verb.abort then l.finish f
  else some l

/-- The ledger after a history of frames, if the history is legal. -/
def replay (l : Ledger) (history : List Frame) : Option Ledger := history.foldlM enter l

theorem enter_of_subscribe {f : Frame} (h : f.command = Verb.subscribe) (l : Ledger) :
    l.enter f = l.subscribe f := by
  rw [enter, if_pos h]

theorem enter_of_unsubscribe {f : Frame} (h : f.command = Verb.unsubscribe) (l : Ledger) :
    l.enter f = l.unsubscribe f := by
  rw [enter, h, if_neg (by decide), if_pos rfl]

theorem enter_of_begin {f : Frame} (h : f.command = Verb.begin) (l : Ledger) :
    l.enter f = l.begin f := by
  rw [enter, h, if_neg (by decide), if_neg (by decide), if_pos rfl]

theorem enter_of_finish {f : Frame} (h : f.command = Verb.commit ∨ f.command = Verb.abort)
    (l : Ledger) : l.enter f = l.finish f := by
  unfold enter
  rcases h with h | h
  · rw [h, if_neg (by decide), if_neg (by decide), if_neg (by decide), if_pos (Or.inl rfl)]
  · rw [h, if_neg (by decide), if_neg (by decide), if_neg (by decide), if_pos (Or.inr rfl)]

theorem enter_of_answer {f : Frame} (h : f.command = Verb.ack ∨ f.command = Verb.nack)
    (l : Ledger) : l.enter f = some l := by
  unfold enter
  rcases h with h | h
  · rw [h, if_neg (by decide), if_neg (by decide), if_neg (by decide), if_neg (by decide)]
  · rw [h, if_neg (by decide), if_neg (by decide), if_neg (by decide), if_neg (by decide)]

theorem replay_singleton (l : Ledger) (f : Frame) : l.replay [f] = l.enter f := by
  simp [replay]

theorem replay_append (l : Ledger) (fs gs : List Frame) :
    l.replay (fs ++ gs) = (l.replay fs).bind fun m => m.replay gs :=
  List.foldlM_append

end Ledger

/-! ## Agreement -/

/-- The frame is the one that the subscription was opened with. -/
structure OpenedBy (u : Subscription) (f : Frame) : Prop where
  id : f.get? Name.id = some (.text u.id)
  frame : ∃ p g, Protocol.subscribe p u.destination (.text u.id) u.ack u.selector false = .ok g ∧
    (g.add u.headers).Carries f

variable {R σ : Type} [Session.Client σ R]

/-- The ledger is the one of the session, and every id in it is from before. -/
structure Agrees (s : Session σ) (l : Ledger) : Prop where
  live : List.Forall₂ OpenedBy s.state.subscriptions l.live
  transaction : l.transaction? = s.transaction?.map .text
  consumer : s.state.mode.isConsumer = true ↔ s.state.subscriptions ≠ []
  distinct : (s.state.subscriptions.map Subscription.id).Nodup
  numbered : ∀ u ∈ s.state.subscriptions, ∃ n < s.subscribed,
    u.id = String.ofList (Numeral.digits n)
  subscribed : ∀ v ∈ l.subscribed, ∃ n < s.subscribed,
    v = .text (String.ofList (Numeral.digits n))
  begun : ∀ v ∈ l.begun, ∃ n < (Client.ids s.client).issued, v = .text (IdSupply.next ⟨n⟩).1

theorem agrees_new (client : σ) : Agrees { client } {} where
  live := .nil
  transaction := rfl
  consumer := by simp [State.mode, Mode.isConsumer, State.subscriptions]
  distinct := List.nodup_nil
  numbered := by simp [State.subscriptions]
  subscribed := by simp
  begun := by simp

/-! ## Steps -/

theorem ids_of_forall₂ {ss : List Subscription} {fs : List Frame}
    (h : List.Forall₂ OpenedBy ss fs) :
    fs.map (fun f => f.get? Name.id) = ss.map fun u => some (.text u.id) := by
  induction h with
  | nil => rfl
  | cons hu _ ih => rw [List.map_cons, List.map_cons, hu.id, ih]

/-! What is in the ledger was there before, also when more has happened since. -/

theorem Agrees.numbered_of_le {s : Session σ} {l : Ledger} (h : Agrees s l) {count : Nat}
    (hcount : s.subscribed ≤ count) :
    ∀ u ∈ s.state.subscriptions, ∃ n < count, u.id = String.ofList (Numeral.digits n) := by
  intro u hu
  obtain ⟨n, hn, hid⟩ := h.numbered u hu
  exact ⟨n, by omega, hid⟩

theorem Agrees.subscribed_of_le {s : Session σ} {l : Ledger} (h : Agrees s l) {count : Nat}
    (hcount : s.subscribed ≤ count) :
    ∀ v ∈ l.subscribed, ∃ n < count, v = .text (String.ofList (Numeral.digits n)) := by
  intro v hv
  obtain ⟨n, hn, hid⟩ := h.subscribed v hv
  exact ⟨n, by omega, hid⟩

theorem Agrees.begun_of_le {s : Session σ} {l : Ledger} (h : Agrees s l) {count : Nat}
    (hcount : (Client.ids s.client).issued ≤ count) :
    ∀ v ∈ l.begun, ∃ n < count, v = .text (IdSupply.next ⟨n⟩).1 := by
  intro v hv
  obtain ⟨n, hn, hid⟩ := h.begun v hv
  exact ⟨n, by omega, hid⟩

theorem Agrees.of_subscriptions {s t : Session σ} {l : Ledger} (h : Agrees s l)
    (hsubscriptions : t.state.subscriptions = s.state.subscriptions)
    (hconsumer : t.state.mode.isConsumer = s.state.mode.isConsumer)
    (hsubscribed : s.subscribed ≤ t.subscribed)
    {x? : Option HeaderValue} (htransaction : x? = t.transaction?.map .text)
    {begun : List HeaderValue}
    (hbegun : ∀ v ∈ begun, ∃ n < (Client.ids t.client).issued, v = .text (IdSupply.next ⟨n⟩).1) :
    Agrees t { l with transaction? := x?, begun := begun } where
  live := by
    rw [hsubscriptions]
    exact h.live
  transaction := htransaction
  consumer := by
    rw [hsubscriptions, hconsumer]
    exact h.consumer
  distinct := by
    rw [hsubscriptions]
    exact h.distinct
  numbered := by
    rw [hsubscriptions]
    exact h.numbered_of_le hsubscribed
  subscribed := h.subscribed_of_le hsubscribed
  begun := hbegun

theorem Agrees.of_same {s t : Session σ} {l : Ledger} (h : Agrees s l) (hstate : t.state = s.state)
    (hsubscribed : s.subscribed ≤ t.subscribed)
    (hissued : (Client.ids s.client).issued ≤ (Client.ids t.client).issued) : Agrees t l := by
  have htransaction : l.transaction? = t.transaction?.map .text := by
    rw [transaction?, hstate]
    exact h.transaction
  have hsubscriptions : t.state.subscriptions = s.state.subscriptions := by rw [hstate]
  have hconsumer : t.state.mode.isConsumer = s.state.mode.isConsumer := by rw [hstate]
  exact h.of_subscriptions hsubscriptions hconsumer hsubscribed htransaction
    (h.begun_of_le hissued)

section Enter

variable {s t : Session σ} {l : Ledger} {f g : Frame}

theorem Agrees.subscribed_fresh (h : Agrees s l) :
    HeaderValue.text (String.ofList (Numeral.digits s.subscribed)) ∉ l.subscribed := by
  intro hmem
  obtain ⟨n, hn, hid⟩ := h.subscribed _ hmem
  have hdigits := String.ofList_injective (HeaderValue.text.inj hid)
  have := Numeral.digits_injective hdigits
  omega

theorem Agrees.subscribe (h : Agrees s l) {p : Protocol} {u : Subscription}
    (hid : u.id = String.ofList (Numeral.digits s.subscribed))
    (hf : p.subscribe u.destination (.text u.id) u.ack u.selector false = .ok f)
    (hg : (f.add u.headers).Carries g)
    (hstate : t.state = .consuming (s.state.subscriptions ++ [u]) s.transaction?)
    (hsubscribed : t.subscribed = s.subscribed + 1)
    (hissued : (Client.ids s.client).issued ≤ (Client.ids t.client).issued) :
    ∃ m, l.enter g = some m ∧ Agrees t m := by
  have hne : u.id ≠ "" := hid ▸ Numeral.digits_ne_empty _
  have hreceipt : Name.id ≠ Name.receipt := by decide
  obtain ⟨hcommand, hfid⟩ := Protocol.subscribe_ok hf
  have hgid : g.get? Name.id = some (.text u.id) := by
    rw [hg.headers _ hreceipt, Frame.get?_add, hfid, Given.stored?_text hne, Option.some_or]
  have hfresh : HeaderValue.text u.id ∉ l.subscribed := hid ▸ h.subscribed_fresh
  have henter : l.enter g = some { l with
      live := l.live ++ [g], subscribed := .text u.id :: l.subscribed } := by
    rw [Ledger.enter_of_subscribe (hg.command.trans hcommand), Ledger.subscribe, hgid]
    exact if_neg hfresh
  refine ⟨_, henter, ?_⟩
  have hopened : OpenedBy u g := ⟨hgid, p, f, hf, hg⟩
  have hcount : s.subscribed ≤ t.subscribed := by omega
  constructor
  case live =>
    rw [hstate, State.subscriptions_consuming]
    exact List.rel_append h.live (.cons hopened .nil)
  case transaction =>
    rw [transaction?, hstate, State.transaction?_consuming]
    exact h.transaction
  case consumer => simp [hstate]
  case distinct =>
    rw [hstate, State.subscriptions_consuming, List.map_append, List.nodup_append]
    refine ⟨h.distinct, List.nodup_singleton _, ?_⟩
    intro a ha b hb hab
    obtain ⟨v, hv, rfl⟩ := List.mem_map.1 ha
    obtain ⟨n, hn, hvid⟩ := h.numbered v hv
    have hb : b = u.id := by simpa using hb
    have hdigits := Numeral.digits_injective
      (String.ofList_injective (hvid.symm.trans (hab.trans (hb.trans hid))))
    omega
  case numbered =>
    intro v hv
    rw [hstate, State.subscriptions_consuming, List.mem_append, List.mem_singleton] at hv
    rcases hv with hv | rfl
    · exact h.numbered_of_le hcount v hv
    · exact ⟨s.subscribed, by omega, hid⟩
  case subscribed =>
    intro v hv
    rcases List.mem_cons.1 hv with rfl | hv
    · exact ⟨s.subscribed, by omega, congrArg _ hid⟩
    · exact h.subscribed_of_le hcount v hv
  case begun => exact h.begun_of_le hissued

theorem Agrees.unsubscribe (h : Agrees s l) {p : Protocol} {u : Subscription} {bufferEmpty : Bool}
    (hmem : u ∈ s.state.subscriptions)
    (hf : p.unsubscribe u.destination (.text u.id) false = .ok f) (hg : f.Carries g)
    (hstate : t.state = afterUnsubscribe (s.state.subscriptions.filter fun v => v.id ≠ u.id)
      s.transaction? bufferEmpty)
    (hsubscribed : t.subscribed = s.subscribed)
    (hissued : (Client.ids s.client).issued ≤ (Client.ids t.client).issued) :
    ∃ m, l.enter g = some m ∧ Agrees t m := by
  obtain ⟨n, hn, hid⟩ := h.numbered u hmem
  have hne : u.id ≠ "" := hid ▸ Numeral.digits_ne_empty n
  have hreceipt : Name.id ≠ Name.receipt := by decide
  obtain ⟨hcommand, hfid⟩ := Protocol.unsubscribe_ok hf
  have hgid : g.get? Name.id = some (.text u.id) := by
    rw [hg.headers _ hreceipt, hfid, Given.stored?_text hne]
  have hlive : g.get? Name.id ∈ l.live.map fun f => f.get? Name.id := by
    rw [ids_of_forall₂ h.live, hgid]
    exact List.mem_map_of_mem hmem
  have henter : l.enter g = some { l with
      live := l.live.filter fun f => f.get? Name.id ≠ g.get? Name.id } := by
    rw [Ledger.enter_of_unsubscribe (hg.command.trans hcommand), Ledger.unsubscribe]
    exact if_pos hlive
  refine ⟨_, henter, ?_⟩
  have hsub : (s.state.subscriptions.filter fun v => v.id ≠ u.id).Sublist s.state.subscriptions :=
    List.filter_sublist
  constructor
  case live =>
    rw [hstate, subscriptions_afterUnsubscribe]
    refine List.rel_filter ?_ h.live
    intro v f hv
    simp [hv.id, hgid]
  case transaction =>
    rw [transaction?, hstate, transaction?_afterUnsubscribe]
    exact h.transaction
  case consumer =>
    rw [hstate, isConsumer_afterUnsubscribe, subscriptions_afterUnsubscribe]
  case distinct =>
    rw [hstate, subscriptions_afterUnsubscribe]
    exact h.distinct.sublist (hsub.map _)
  case numbered =>
    intro v hv
    rw [hstate, subscriptions_afterUnsubscribe] at hv
    rw [hsubscribed]
    exact h.numbered v (hsub.subset hv)
  case subscribed =>
    rw [hsubscribed]
    exact h.subscribed
  case begun => exact h.begun_of_le hissued

theorem Agrees.begun_fresh (h : Agrees s l) :
    HeaderValue.text (Client.ids s.client).next.1 ∉ l.begun := by
  intro hmem
  obtain ⟨n, hn, hid⟩ := h.begun _ hmem
  have hissued : (Client.ids s.client).issued = n :=
    IdSupply.next_injective (HeaderValue.text.inj hid)
  omega

theorem Agrees.begin (h : Agrees s l) {p : Protocol}
    (hmode : s.state.mode = .producer ∨ s.state.mode = .consumer)
    (hg : (p.begin (.text (Client.ids s.client).next.1)).Carries g)
    (hstate : t.state =
      if s.state.mode = .producer then .producerTransaction (Client.ids s.client).next.1
      else .consumerTransaction (Client.ids s.client).next.1 s.state.subscriptions)
    (hsubscribed : t.subscribed = s.subscribed)
    (hissued : (Client.ids s.client).issued < (Client.ids t.client).issued) :
    ∃ m, l.enter g = some m ∧ Agrees t m := by
  have hreceipt : Name.transaction ≠ Name.receipt := by decide
  have hgid : g.get? Name.transaction = some (.text (Client.ids s.client).next.1) := by
    rw [hg.headers _ hreceipt, Protocol.get?_begin, Given.stored?_text (IdSupply.next_ne_empty _)]
  obtain ⟨hnone, htransaction, hsubscriptions, hconsumer⟩ :
      s.transaction? = none ∧ t.transaction? = some (Client.ids s.client).next.1 ∧
        t.state.subscriptions = s.state.subscriptions ∧
        t.state.mode.isConsumer = s.state.mode.isConsumer := by
    unfold transaction?
    rw [hstate]
    rcases State.eq_of_mode_open hmode with hs | ⟨ss, hs⟩
    · rw [hs]
      exact ⟨rfl, rfl, rfl, rfl⟩
    · rw [hs]
      exact ⟨rfl, rfl, rfl, rfl⟩
  have henter : l.enter g = some { l with
      transaction? := some (.text (Client.ids s.client).next.1),
      begun := .text (Client.ids s.client).next.1 :: l.begun } := by
    rw [Ledger.enter_of_begin hg.command, Ledger.begin, hgid, h.transaction, hnone]
    exact if_neg h.begun_fresh
  refine ⟨_, henter, h.of_subscriptions hsubscriptions hconsumer hsubscribed.ge ?_ ?_⟩
  · rw [htransaction]
    rfl
  · intro v hv
    rcases List.mem_cons.1 hv with rfl | hv
    · exact ⟨_, hissued, rfl⟩
    · exact h.begun_of_le hissued.le v hv

theorem Agrees.finish (h : Agrees s l) {p : Protocol}
    (hmode : s.state.mode = .producerTransaction ∨ s.state.mode = .consumerTransaction)
    (hf : f = p.commit s.transactionHeader ∨ f = p.abort s.transactionHeader)
    (hg : f.Carries g)
    (hstate : t.state =
      if s.state.mode = .consumerTransaction then .consumer s.state.subscriptions else .producer)
    (hsubscribed : t.subscribed = s.subscribed)
    (hissued : (Client.ids s.client).issued ≤ (Client.ids t.client).issued) (hnamed : Named s) :
    ∃ m, l.enter g = some m ∧ Agrees t m := by
  have hreceipt : Name.transaction ≠ Name.receipt := by decide
  have hcommand : f.command = Verb.commit ∨ f.command = Verb.abort := by
    rcases hf with rfl | rfl
    · exact Or.inl rfl
    · exact Or.inr rfl
  have hfid : f.get? Name.transaction = s.transactionHeader.stored? := by
    rcases hf with rfl | rfl
    · exact p.get?_commit _
    · exact p.get?_abort _
  obtain ⟨x, hopen, hnone, hsubscriptions, hconsumer⟩ :
      ∃ x, s.transaction? = some x ∧ t.transaction? = none ∧
        t.state.subscriptions = s.state.subscriptions ∧
        t.state.mode.isConsumer = s.state.mode.isConsumer := by
    unfold transaction?
    rw [hstate]
    obtain ⟨x, hs | ⟨ss, hs⟩⟩ := State.eq_of_mode_transaction hmode
    · rw [hs]
      exact ⟨x, rfl, rfl, rfl, rfl⟩
    · rw [hs]
      exact ⟨x, rfl, rfl, rfl, rfl⟩
  have hgid : g.get? Name.transaction = l.transaction? := by
    rw [hg.headers _ hreceipt, hfid, h.transaction, transactionHeader, hopen]
    exact Given.stored?_text (hnamed x hopen)
  have henter : l.enter g = some { l with transaction? := none } := by
    rw [Ledger.enter_of_finish (hg.command ▸ hcommand), Ledger.finish]
    refine if_pos ⟨?_, hgid⟩
    rw [h.transaction, hopen]
    rfl
  refine ⟨_, henter, h.of_subscriptions hsubscriptions hconsumer hsubscribed.ge ?_ ?_⟩
  · rw [hnone]
    rfl
  · exact h.begun_of_le hissued

theorem Agrees.drain (h : Agrees s l) (hmode : s.state.mode.isDraining = true)
    (hstate : t.state = .producing s.transaction?) (hsubscribed : t.subscribed = s.subscribed)
    (hissued : (Client.ids s.client).issued ≤ (Client.ids t.client).issued) : Agrees t l := by
  have hconsumer : s.state.mode.isConsumer = false := by
    revert hmode
    cases s.state.mode <;> decide
  have hempty : s.state.subscriptions = [] := State.subscriptions_of_not_isConsumer hconsumer
  apply h.of_subscriptions
  · rw [hstate, State.subscriptions_producing, hempty]
  · rw [hstate, State.isConsumer_producing, hconsumer]
  · exact hsubscribed.ge
  · rw [transaction?, hstate, State.transaction?_producing]
    exact h.transaction
  · exact h.begun_of_le hissued

theorem Agrees.length_owns_le {s : Session σ} {l : Ledger} (h : Agrees s l) (message : Frame) :
    (s.state.subscriptions.filter fun u => u.owns message).length ≤ 1 := by
  have hnodup : ((s.state.subscriptions.filter fun u => u.owns message).map
      Subscription.id).Nodup := h.distinct.sublist (List.filter_sublist.map _)
  have hid : ∀ u ∈ s.state.subscriptions.filter fun u => u.owns message,
      message.get? Name.subscription = some (.text u.id) := by
    intro u hu
    exact of_decide_eq_true (List.mem_filter.1 hu).2
  revert hnodup hid
  -- two owners would be told apart by their ids, but the message names only one
  cases s.state.subscriptions.filter fun u => u.owns message with
  | nil => simp
  | cons u rest =>
      cases rest with
      | nil => simp
      | cons v rest =>
          intro hnodup hid
          have hu := hid u (by simp)
          have hv := hid v (by simp)
          rw [hu] at hv
          have huv : u.id = v.id := HeaderValue.text.inj (Option.some.inj hv)
          simp [huv] at hnodup

end Enter

/-! ## Histories -/

section History

variable [Client.Faithful σ]

open Client.Faithful (written)

def since (s t : Session σ) : List Frame := (written t.client).drop (written s.client).length

/-- The frames that a call wrote, where the session is the one that makes them. -/
def Call.built (c : Call) (s : Session σ) : List Frame :=
  if c.isSend then [] else since s (c.next s)

/-- The frames that a session made and that were written in calls. -/
def history (s : Session σ) : List Call → List Frame
  | [] => []
  | c :: calls => c.built s ++ history (c.next s) calls

theorem since_of_eq {s t : Session σ} (h : written t.client = written s.client) :
    since s t = [] := by
  rw [since, h, List.drop_length]

theorem since_of_append {s t : Session σ} {g : Frame}
    (h : written t.client = written s.client ++ [g]) : since s t = [g] := by
  rw [since, h, List.drop_left]

variable [Client.NewIds σ]

theorem Agrees.step {s t : Session σ} {l : Ledger} {sent? : Option Frame} (h : Agrees s l)
    (hnamed : Named s) (hstep : Step s t sent?) :
    ∃ m, l.replay (since s t) = some m ∧ Agrees t m := by
  cases hstep with
  | kept hkept =>
      rw [since_of_eq hkept.client.written_eq]
      exact ⟨l, rfl, h.of_same hkept.state hkept.subscribed hkept.client.issued_le⟩
  | drained mode state subscribed client =>
      rw [since_of_eq client.written_eq]
      exact ⟨l, rfl, h.drain mode state subscribed client.issued_le⟩
  | answered command _ state subscribed client =>
      obtain ⟨g, hg, hwritten⟩ := client.written_eq
      rw [since_of_append hwritten, Ledger.replay_singleton]
      refine ⟨l, ?_, h.of_same state (Nat.le_of_eq subscribed.symm) client.issued_le⟩
      exact l.enter_of_answer (hg.command ▸ command)
  | subscribed u mode id frame state subscribed client =>
      obtain ⟨g, hg, hwritten⟩ := client.written_eq
      rw [since_of_append hwritten, Ledger.replay_singleton]
      exact h.subscribe id frame hg state subscribed client.issued_le
  | unsubscribed bufferEmpty mode mem frame state subscribed client =>
      obtain ⟨g, hg, hwritten⟩ := client.written_eq
      rw [since_of_append hwritten, Ledger.replay_singleton]
      exact h.unsubscribe mem frame hg state subscribed client.issued_le
  | begun mode state subscribed client =>
      obtain ⟨g, hg, hwritten⟩ := client.written_eq
      have hissued := client.issued_le
      rw [Client.Faithful.setIds] at hwritten
      rw [Client.NewIds.setIds] at hissued
      rw [since_of_append hwritten, Ledger.replay_singleton]
      exact h.begin mode hg state subscribed hissued
  | ended mode frame state subscribed client =>
      obtain ⟨g, hg, hwritten⟩ := client.written_eq
      rw [since_of_append hwritten, Ledger.replay_singleton]
      exact h.finish mode frame hg state subscribed client.issued_le hnamed

theorem Agrees.call {s : Session σ} {l : Ledger} (h : Agrees s l) (hnamed : Named s) (c : Call) :
    ∃ m, l.replay (c.built s) = some m ∧ Agrees (c.next s) m ∧ Named (c.next s) := by
  unfold Call.built
  cases hc : c.isSend with
  | true =>
      have hnext : ClientOnly (fun d => (Client.ids s.client).issued ≤ (Client.ids d).issued) s
          (c.next s) := next_of_isSend hc s
        (fun destination body headers => Action.leaves_iff.2
          (Client.NewIds.sendBody destination body headers s.messageSync s.client))
        (fun f destination headers => Action.leaves_iff.2
          (Client.NewIds.sendPrepared destination headers s.messageSync f s.client))
      exact ⟨l, rfl, h.of_same hnext.state (Nat.le_of_eq hnext.subscribed.symm) hnext.client,
        hnamed.of_eq hnext.transaction?⟩
  | false =>
      obtain ⟨sent?, hstep⟩ := step_next hc s
      obtain ⟨m, hm, hagrees⟩ := h.step hnamed hstep
      exact ⟨m, hm, hagrees, hstep.named hnamed⟩

theorem Agrees.run {s : Session σ} {l : Ledger} (h : Agrees s l) (hnamed : Named s)
    (calls : List Call) :
    ∃ m, l.replay (history s calls) = some m ∧ Agrees (s.run calls) m := by
  induction calls generalizing s l with
  | nil => exact ⟨l, rfl, h⟩
  | cons c calls ih =>
      obtain ⟨m, hm, hagrees, hnext⟩ := h.call hnamed c
      obtain ⟨k, hk, hrun⟩ := ih hagrees hnext
      refine ⟨k, ?_, hrun⟩
      rw [history, Ledger.replay_append, hm]
      exact hk

/-- Whatever calls are made of a new session of a client that writes what it is asked to send or
fails, and whichever of them fail: what the session made and the client wrote is a legal history,
and the state of the session is what the history amounts to. As this holds for all calls, it holds
after each of them. -/
theorem agrees_run (client : σ) (calls : List Call) :
    let s := Session.run { client } calls
    ∃ l, Ledger.replay {} (history { client } calls) = some l ∧
      List.Forall₂ OpenedBy s.state.subscriptions l.live ∧
      s.transaction?.map HeaderValue.text = l.transaction? ∧
      (s.state.mode.isConsumer = true ↔ s.state.subscriptions ≠ []) ∧
      ∀ message, (s.state.subscriptions.filter fun u => u.owns message).length ≤ 1 := by
  intro s
  obtain ⟨l, hl, h⟩ := (agrees_new client).run (fun t ht => by cases ht) calls
  exact ⟨l, hl, h.live, h.transaction.symm, h.consumer, h.length_owns_le⟩

/-- Headers of the application do not replace the id, and the latest subscription is ended. -/
theorem agrees_run_recorded :
    let account : Client.Recorded (Stomp.Client (Script Rat) Rat) :=
      { client := Client.unanswered }
    let calls : List Call :=
      [.subscribe (.text "/a") .absent (.text "auto") [("id", .text "7")],
        .subscribe (.text "/b") .absent (.text "client") [], .begin, .unsubscribe .absent]
    let s := Session.run { client := account } calls
    (s.state.subscriptions.map Subscription.id = ["0"] ∧ s.transaction? = some "uid-1") ∧
      ∃ l, Ledger.replay {} (history { client := account } calls) = some l ∧
        List.Forall₂ OpenedBy s.state.subscriptions l.live ∧
        s.transaction?.map HeaderValue.text = l.transaction? ∧
        (s.state.mode.isConsumer = true ↔ s.state.subscriptions ≠ []) ∧
        ∀ message, (s.state.subscriptions.filter fun u => u.owns message).length ≤ 1 := by
  intro account calls s
  have hstate : s.state.subscriptions.map Subscription.id = ["0"] ∧
      s.transaction? = some "uid-1" := by decide +kernel
  exact ⟨hstate, agrees_run account calls⟩

end History

end Stomp.Session
