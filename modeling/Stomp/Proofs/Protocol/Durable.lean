import Stomp.Proofs.Protocol.Frames

/-!
# Durable subscriptions

A durable subscription is to be ended the way it was opened: the client id is missing for both
frames or for neither, and both mark the same subscription as durable in the same way. This is so
but for one broker. Without a client id Apollo is asked for a subscription that does not last, and
told of the end of one that does (`durable_matched_iff`).
-/

namespace Stomp

namespace Frame

/-- The headers that tell a subscription, and whether and under which name it is durable. -/
def subscriptionHeaders : List String :=
  [Name.destination, Name.id, Name.subscriptionName, Name.subscriberName, Name.persistent]

/-- The frames are about one subscription, and mark it as durable in the same way. -/
def SameSubscription (f g : Frame) : Prop := ∀ name ∈ subscriptionHeaders, f.get? name = g.get? name

/-- The frame is about the subscription, and marks it with this name, and as one that lasts or
not. -/
structure Marked (destination id : Given) (name : Option HeaderValue) (lasting : Bool) (f : Frame) :
    Prop where
  destination : f.get? Name.destination = destination.stored?
  id : f.get? Name.id = id.stored?
  subscriptionName : f.get? Name.subscriptionName = name
  subscriberName : f.get? Name.subscriberName = name
  persistent : f.get? Name.persistent = if lasting then some (.text "true") else none

namespace Marked

variable {destination id : Given} {name : Option HeaderValue} {lasting ending : Bool} {f g : Frame}

theorem set (hf : Marked destination id name lasting f) {key : String}
    (hkey : key ∉ subscriptionHeaders) (value : Given) :
    Marked destination id name lasting (f.set key value) := by
  have hother : ∀ other ∈ subscriptionHeaders, (f.set key value).get? other = f.get? other := by
    intro other hmem
    apply get?_set_of_ne
    rintro rfl
    exact hkey hmem
  constructor
  · rw [hother _ (by decide), hf.destination]
  · rw [hother _ (by decide), hf.id]
  · rw [hother _ (by decide), hf.subscriptionName]
  · rw [hother _ (by decide), hf.subscriberName]
  · rw [hother _ (by decide), hf.persistent]

theorem persistent_set (hf : Marked destination id name false f) :
    Marked destination id name true (Protocol.persistent f) := by
  obtain ⟨hdestination, hid, hsubscription, hsubscriber, -⟩ := hf
  constructor
  all_goals simp +decide [Protocol.persistent, get?_set, *]

theorem named (hf : Marked destination id none lasting f) (client : Given) :
    Marked destination id client.stored? lasting
      ((f.set Name.subscriptionName client).set Name.subscriberName client) := by
  obtain ⟨hdestination, hid, -, -, hpersistent⟩ := hf
  constructor
  all_goals simp +decide [get?_set, *]

theorem sameSubscription_iff (hf : Marked destination id name lasting f)
    (hg : Marked destination id name ending g) : SameSubscription f g ↔ lasting = ending := by
  constructor
  · intro h
    have hpersistent := h Name.persistent (by decide)
    rw [hf.persistent, hg.persistent] at hpersistent
    revert hpersistent
    cases lasting <;> cases ending <;> decide
  · rintro rfl other hmem
    simp only [subscriptionHeaders, List.mem_cons, List.not_mem_nil, or_false] at hmem
    rcases hmem with rfl | rfl | rfl | rfl | rfl
    · rw [hf.destination, hg.destination]
    · rw [hf.id, hg.id]
    · rw [hf.subscriptionName, hg.subscriptionName]
    · rw [hf.subscriberName, hg.subscriberName]
    · rw [hf.persistent, hg.persistent]

end Marked

end Frame

/-! ## The frames without a dialect -/

namespace Command

theorem get?_frame (command : String) (v : Version) (name : String) :
    (frame command v).get? name = none := rfl

theorem marked_subscribe (v : Version) (destination id selector : Given) {mode : String}
    (hmode : mode ∈ v.ackModes) :
    ∃ f, subscribe v destination id (.text mode) selector = .ok f ∧
      f.Marked destination id none false := by
  refine ⟨_, if_pos hmode, ?_⟩
  constructor
  all_goals simp +decide [Frame.get?_set, get?_frame]

theorem marked_unsubscribe (v : Version) (destination id : Given) :
    (unsubscribe v destination id).Marked destination id none false := by
  constructor
  all_goals simp +decide [unsubscribe, Frame.get?_set, get?_frame]

end Command

/-! ## The frames of a protocol -/

namespace Protocol

open Command (Fault)

variable (p : Protocol) (destination id selector : Given)

/-- The broker knows a durable subscription by the client id, and there is none. -/
def lacksClientId : Bool := decide (p.dialect = .activemq) && !p.clientId.isSet

def durableName? : Option HeaderValue :=
  if p.dialect = .activemq then p.clientId.stored? else none

/-- The frame that opens a durable subscription asks for one that lasts. -/
def opensLasting : Bool :=
  match p.dialect with
  | .rabbitmq => true
  | .apollo => p.clientId.isSet
  | _ => false

/-- The frame that ends a durable subscription tells of one that lasts. -/
def endsLasting : Bool :=
  match p.dialect with
  | .rabbitmq | .apollo => true
  | _ => false

/-- A frame on a durable subscription is refused for want of a client id, or else is built. -/
inductive Durably (lasting : Bool) : Except Fault Frame → Prop
  | refused : p.lacksClientId = true → Durably lasting (.error (.clientIdNeeded p.server))
  | built {f : Frame} : p.lacksClientId = false →
    f.Marked destination id p.durableName? lasting → Durably lasting (.ok f)

variable {p destination id}

theorem durably_nameDurable {f : Frame} (hdialect : p.dialect = .activemq)
    (hf : f.Marked destination id none false) :
    p.Durably destination id false (p.nameDurable f) := by
  unfold nameDurable
  split
  · rename_i hset
    have hname : p.durableName? = p.clientId.stored? := if_pos hdialect
    refine .built (by simp [lacksClientId, hset]) ?_
    rw [hname]
    exact hf.named p.clientId
  · rename_i hset
    exact .refused (by simp [lacksClientId, hdialect, hset])

theorem durably_built {f : Frame} {lasting : Bool} (hdialect : p.dialect ≠ .activemq)
    (hf : f.Marked destination id none lasting) : p.Durably destination id lasting (.ok f) := by
  refine .built (by simp [lacksClientId, hdialect]) ?_
  rwa [durableName?, if_neg hdialect]

variable (p destination id)

theorem durably_unsubscribe :
    p.Durably destination id p.endsLasting (p.unsubscribe destination id true) := by
  have hf := Command.marked_unsubscribe p.version destination id
  unfold unsubscribe endsLasting
  rw [if_pos rfl]
  cases hdialect : p.dialect with
  | activemq => exact durably_nameDurable hdialect hf
  | rabbitmq => exact durably_built (by simp [hdialect]) hf.persistent_set
  | apollo => exact durably_built (by simp [hdialect]) hf.persistent_set
  | generic => exact durably_built (by simp [hdialect]) hf
  | openmq => exact durably_built (by simp [hdialect]) hf

theorem durably_subscribe {mode : String} (hmode : mode ∈ p.version.ackModes) :
    p.Durably destination id p.opensLasting
      (p.subscribe destination id (.text mode) selector true) := by
  obtain ⟨f, hbuilt, hf⟩ := Command.marked_subscribe p.version destination id selector hmode
  unfold subscribe opensLasting
  rw [hbuilt]
  cases hdialect : p.dialect with
  | activemq => exact durably_nameDurable hdialect (hf.set (by decide) p.prefetchSize)
  | rabbitmq =>
      exact durably_built (by simp [hdialect]) (hf.set (by decide) p.prefetchCount).persistent_set
  | apollo =>
      cases hset : p.clientId.isSet with
      | true => exact durably_built (by simp [hdialect]) hf.persistent_set
      | false => exact durably_built (by simp [hdialect]) hf
  | generic => exact durably_built (by simp [hdialect]) hf
  | openmq => exact durably_built (by simp [hdialect]) hf

/-! ## Opened and ended alike -/

/-- Both frames are refused for want of a client id, or both are built, and agree. -/
inductive Matched (p : Protocol) : Except Fault Frame → Except Fault Frame → Prop
  | refused : Matched p (.error (.clientIdNeeded p.server)) (.error (.clientIdNeeded p.server))
  | agreed {f g : Frame} : f.SameSubscription g → Matched p (.ok f) (.ok g)

namespace Durably

variable {p destination id} {lasting ending : Bool} {opened ended : Except Fault Frame}

theorem error_iff (h : p.Durably destination id lasting opened) :
    opened = .error (.clientIdNeeded p.server) ↔ p.lacksClientId = true := by
  cases h with
  | refused hlacks => exact iff_of_true rfl hlacks
  | built hlacks _ => simp [hlacks]

theorem matched_iff (hopened : p.Durably destination id lasting opened)
    (hended : p.Durably destination id ending ended) :
    p.Matched opened ended ↔ p.lacksClientId = true ∨ lasting = ending := by
  cases hopened with
  | refused hlacks =>
      cases hended with
      | refused _ => exact iff_of_true .refused (.inl hlacks)
      | built hlacks' _ => simp [hlacks] at hlacks'
  | built hlacks hf =>
      cases hended with
      | refused hlacks' => simp [hlacks] at hlacks'
      | built _ hg =>
          rw [hlacks, ← hf.sameSubscription_iff hg]
          constructor
          · rintro (_ | hsame)
            exact .inr hsame
          · rintro (h | hsame)
            · cases h
            · exact .agreed hsame

end Durably

theorem lacksClientId_iff :
    p.lacksClientId = true ↔ p.dialect = .activemq ∧ p.clientId.isSet = false := by
  simp [lacksClientId]

theorem opensLasting_eq_iff :
    p.opensLasting = p.endsLasting ↔ ¬ (p.dialect = .apollo ∧ p.clientId.isSet = false) := by
  unfold opensLasting endsLasting
  cases p.dialect <;> simp

/-- For a mode of acknowledgement of the version, the frame that opens a durable subscription is
refused for want of a client id if and only if the one that ends it is, which is so for one dialect.
They match in all but one case: without a client id Apollo is not asked for a subscription that
lasts, and is told of the end of one. -/
theorem durable_matched_iff {mode : String} (hmode : mode ∈ p.version.ackModes) :
    let opened := p.subscribe destination id (.text mode) selector true
    let ended := p.unsubscribe destination id true
    (opened = .error (.clientIdNeeded p.server) ↔ ended = .error (.clientIdNeeded p.server)) ∧
      (ended = .error (.clientIdNeeded p.server) ↔
        p.dialect = .activemq ∧ p.clientId.isSet = false) ∧
      (p.Matched opened ended ↔ ¬ (p.dialect = .apollo ∧ p.clientId.isSet = false)) := by
  intro opened ended
  have hopened : p.Durably destination id p.opensLasting opened :=
    durably_subscribe p destination id selector hmode
  have hended : p.Durably destination id p.endsLasting ended := durably_unsubscribe p destination id
  refine ⟨?_, ?_, ?_⟩
  · rw [hopened.error_iff, hended.error_iff]
  · rw [hended.error_iff, lacksClientId_iff]
  · rw [hopened.matched_iff hended, opensLasting_eq_iff, lacksClientId_iff, or_iff_right_iff_imp]
    rintro ⟨hactivemq, -⟩ ⟨hapollo, -⟩
    rw [hactivemq] at hapollo
    cases hapollo

def apollo (clientId : Given) : Protocol :=
  { clientId, version := .v11, server := some (.text "apache-apollo/1.6"), dialect := .apollo }

theorem durable_matched_iff_apollo :
    let p := apollo (.text "client-7")
    let opened := p.subscribe (.text "/queue/a") (.text "1") (.text "client-individual") .absent true
    let ended := p.unsubscribe (.text "/queue/a") (.text "1") true
    (opened = .error (.clientIdNeeded p.server) ↔ ended = .error (.clientIdNeeded p.server)) ∧
      ended ≠ .error (.clientIdNeeded p.server) ∧ p.Matched opened ended := by
  intro p opened ended
  have hmode : "client-individual" ∈ p.version.ackModes := by decide
  obtain ⟨hfails, hneeded, hmatched⟩ :=
    durable_matched_iff p (.text "/queue/a") (.text "1") .absent hmode
  refine ⟨hfails, fun h => ?_, hmatched.2 fun h => ?_⟩
  · exact absurd (hneeded.1 h).1 (by decide)
  · exact absurd h.2 (by decide)

/-- Without a client id a durable subscription at an Apollo broker is opened as one that does not
last, and ended as one that does. -/
theorem not_matched_apollo :
    let p := apollo .absent
    let opened := p.subscribe (.text "/queue/a") (.text "1") (.text "auto") .absent true
    let ended := p.unsubscribe (.text "/queue/a") (.text "1") true
    ofBanner .absent .v11 (some (.text "apache-apollo/1.6")) = .ok p ∧
      "auto" ∈ p.version.ackModes ∧
      (∃ f g, opened = .ok f ∧ ended = .ok g ∧ f.get? Name.persistent = none ∧
        g.get? Name.persistent = some (.text "true")) ∧
      ¬ p.Matched opened ended := by
  intro p opened ended
  have hopened : ∃ f, opened = .ok f ∧ f.get? Name.persistent = none := ⟨_, rfl, rfl⟩
  have hended : ∃ g, ended = .ok g ∧ g.get? Name.persistent = some (.text "true") := ⟨_, rfl, rfl⟩
  obtain ⟨f, hopened, hf⟩ := hopened
  obtain ⟨g, hended, hg⟩ := hended
  refine ⟨by rfl, by decide, ⟨f, g, hopened, hended, hf, hg⟩, ?_⟩
  rw [hopened, hended]
  rintro (_ | hsame)
  have hpersistent := hsame Name.persistent (by decide)
  rw [hf, hg] at hpersistent
  cases hpersistent

end Protocol

end Stomp
