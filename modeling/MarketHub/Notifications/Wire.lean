import MarketHub.Jobs.Registry
import MarketHub.Notifications.Bridge
import MarketHub.Python.Datetime
import MarketHub.Python.JsonRoundTrip
import MarketHub.Python.Uuid

/-!
Notification jobs as they travel (`app/notifications/bridge.py`, and the parameters that
`process_notify_job` of `app/notifications/service.py` reads).

* `DomainEvent`: the events of `app/core/events.py`, with the texts that they carry.
* `jobFromEvent`, `payload`, `decodeParams`: the codec. `jobFromEvent` of the bridge is what it
  decodes to (`received_toDomain`).
* `notification_codec`: the round trip, and the keys of different events.
-/

namespace MarketHub.Wire

open Python

/-! ### Events -/

/-- An aware `datetime`. -/
abbrev Aware := { d : Datetime // d.1.offset.isSome }

/-- The dataclasses of `app/core/events.py`. -/
inductive DomainEvent where
  | orderCreated (orderId buyerId : Uuid)
  | orderItemStatusChanged (orderItemId : Uuid) (fromStatus toStatus : String)
  | orderItemCancelled (orderItemId : Uuid) (restoredStock : Bool)
  | conversationCreated (conversationId orderItemId : Uuid)
  | messageCreated (messageId conversationId : Uuid)
  | conversationClosed (conversationId : Uuid) (closedBy : String)
  | conversationPriorityChanged (conversationId : Uuid) (fromPriority toPriority : String)
      (changedAt : Aware)
  | internalCommentCreated (commentId orderItemId : Uuid)

/-! ### From an event to a body -/

/-- The `params` of a job. -/
def notifyParams (notificationType entityType : String) (entityId : Uuid)
    (previousStatus newStatus : String) (changedAt : Aware) : List (Text × Json) :=
  [(text "notification_type", .str (text notificationType)),
    (text "entity_type", .str (text entityType)),
    (text "entity_id", .str entityId.str),
    (text "previous_status", .str (text previousStatus)),
    (text "new_status", .str (text newStatus)),
    (text "changed_at", .str (isoformat changedAt.1))]

/-- `job_from_event`. -/
def jobFromEvent (moment : Aware) : DomainEvent → Option Job
  | .orderItemStatusChanged orderItemId fromStatus toStatus =>
      some ⟨notifyStatusChange, notifyParams orderItemStatusChangedType entityOrderItem orderItemId
        fromStatus toStatus moment⟩
  | .conversationClosed conversationId _ =>
      some ⟨notifyStatusChange, notifyParams conversationStatusChangedType entityConversation
        conversationId "open" "closed" moment⟩
  | .conversationPriorityChanged conversationId fromPriority toPriority changedAt =>
      some ⟨notifyStatusChange, notifyParams conversationPriorityChangedType entityConversation
        conversationId fromPriority toPriority changedAt⟩
  | _ => none

/-- The `payload` of `enqueue_notifiable`. -/
def payload (job : Job) : Option Text :=
  dumps (.obj [(text "job_type", .str job.jobType), (text "params", .obj job.params)])

/-! ### From a body to the parameters -/

/-- What `process_notify_job` reads. -/
structure NotifyParams where
  notificationType : Text
  entityType : Text
  previousStatus : Text
  newStatus : Text
  entityId : Uuid
  changedAt : Datetime
  deriving DecidableEq

/-- `_require_str`. -/
def requireStr (params : List (Text × Json)) (key : String) : Except String Text :=
  match get params (text key) with
  | some (.str value) => if value = [] then .error (key ++ " is required") else .ok value
  | _ => .error (key ++ " is required")

/-- The parameters of a job, as `process_notify_job` decodes them. -/
def decodeParams (params : List (Text × Json)) : Except String NotifyParams := do
  let notificationType ← requireStr params "notification_type"
  let entityType ← requireStr params "entity_type"
  let previousStatus ← requireStr params "previous_status"
  let newStatus ← requireStr params "new_status"
  let entityId ← (parseUuid (← requireStr params "entity_id")).elim
    (.error "badly formed hexadecimal UUID string") .ok
  let changedAt ← (fromisoformat (← requireStr params "changed_at")).elim
    (.error "Invalid isoformat string") .ok
  return { notificationType, entityType, previousStatus, newStatus, entityId, changedAt }

/-- The columns of `uq_notifications_idempotency`. A column with a time zone holds an instant. -/
structure IdempotencyKey where
  recipientId : Uuid
  notificationType : Text
  entityType : Text
  entityId : Uuid
  previousStatus : Text
  newStatus : Text
  changedAt : ℤ
  deriving DecidableEq

/-- The key of the notification that a recipient gets. -/
def NotifyParams.key (p : NotifyParams) (recipientId : Uuid) : IdempotencyKey where
  recipientId := recipientId
  notificationType := p.notificationType
  entityType := p.entityType
  entityId := p.entityId
  previousStatus := p.previousStatus
  newStatus := p.newStatus
  changedAt := p.changedAt.instant

/-! ### What an event says -/

/-- The notifiable kinds of events. -/
inductive Kind where
  | orderItemStatus
  | conversationStatus
  | conversationPriority
  deriving DecidableEq

/-- The type of the notifications about a kind. -/
def Kind.notificationType : Kind → String
  | .orderItemStatus => orderItemStatusChangedType
  | .conversationStatus => conversationStatusChangedType
  | .conversationPriority => conversationPriorityChangedType

/-- What the events of a kind are about. -/
def Kind.entityType : Kind → String
  | .orderItemStatus => entityOrderItem
  | .conversationStatus => entityConversation
  | .conversationPriority => entityConversation

/-- An entity went from one status to another. -/
structure Notice where
  kind : Kind
  entity : Uuid
  previous : String
  new : String
  moment : Aware

/-- What an event says that is published at a moment, if it is notifiable. -/
def DomainEvent.notice (moment : Aware) : DomainEvent → Option Notice
  | .orderItemStatusChanged orderItemId fromStatus toStatus =>
      some ⟨.orderItemStatus, orderItemId, fromStatus, toStatus, moment⟩
  | .conversationClosed conversationId _ =>
      some ⟨.conversationStatus, conversationId, "open", "closed", moment⟩
  | .conversationPriorityChanged conversationId fromPriority toPriority changedAt =>
      some ⟨.conversationPriority, conversationId, fromPriority, toPriority, changedAt⟩
  | _ => none

/-- The parameters that say a notice. -/
def Notice.params (n : Notice) : NotifyParams where
  notificationType := text n.kind.notificationType
  entityType := text n.kind.entityType
  previousStatus := text n.previous
  newStatus := text n.new
  entityId := n.entity
  changedAt := n.moment.1

/-- An event says a notice, whose statuses are not empty. -/
def Says (moment : Aware) (event : DomainEvent) (n : Notice) : Prop :=
  event.notice moment = some n ∧ n.previous ≠ "" ∧ n.new ≠ ""

/-- The parameters that are decoded from the job of an event, behind its message. -/
def Received (moment : Aware) (event : DomainEvent) (p : NotifyParams) : Prop :=
  ∃ job body job', jobFromEvent moment event = some job ∧ payload job = some body
    ∧ parseJob body = .ok job' ∧ job'.jobType = notifyStatusChange
      ∧ decodeParams job'.params = .ok p

/-! ### The round trip -/

lemma text_ne_nil {s : String} (h : s ≠ "") : text s ≠ [] := by
  intro hnil
  exact h (text_inj hnil)

/-- **A job comes out of its message**, if it has a type and its texts are plain. -/
lemma parseJob_payload {job : Job} {body : Text} (hbody : payload job = some body)
    (htype : job.jobType.Scalar) (hne : job.jobType ≠ []) (hparams : (Json.obj job.params).Scalar) :
    parseJob body = .ok job := by
  have hscalar : (Json.obj [(text "job_type", .str job.jobType),
      (text "params", .obj job.params)]).Scalar := by
    simp only [Json.Scalar, ScalarFields] at hparams ⊢
    refine ⟨⟨scalar_text _, htype, scalar_text _, hparams, trivial⟩, ?_⟩
    change [text "job_type", text "params"].Nodup
    decide
  have hlevel : BodyLevel body [(text "job_type", .str job.jobType),
      (text "params", .obj job.params)] :=
    ⟨_, loads_dumps hbody hscalar, .last (.value fun s hs => by cases hs) (by simp [get_cons])⟩
  have hget : ∀ v : Json, get [(text "job_type", v), (text "params", .obj job.params)]
      (text "params")
      = some (.obj job.params) := fun v => by
    rw [get_cons, if_neg (by decide), get_cons, if_pos rfl]
  rw [hlevel.parseJob_eq, jobOf, get_cons, if_pos rfl]
  dsimp only
  have hparamsOf : paramsOf [(text "job_type", .str job.jobType), (text "params", .obj job.params)]
      = .obj job.params := paramsOf_eq_iff.mpr (.inl (.object (hget _)))
  rw [if_neg hne, hparamsOf]

/-- The parameters of a job are plain. -/
lemma scalar_notifyParams (notificationType entityType : String) (entityId : Uuid)
    (previousStatus newStatus : String) (changedAt : Aware) :
    (Json.obj (notifyParams notificationType entityType entityId previousStatus newStatus
      changedAt)).Scalar := by
  simp only [notifyParams, Json.Scalar, ScalarFields]
  refine ⟨⟨scalar_text _, scalar_text _, scalar_text _, scalar_text _, scalar_text _, scalar_str _,
    scalar_text _, scalar_text _, scalar_text _, scalar_text _, scalar_text _, ?_, trivial⟩, ?_⟩
  · exact scalar_isoformat _
  · change [text "notification_type", text "entity_type", text "entity_id", text "previous_status",
      text "new_status", text "changed_at"].Nodup
    decide

/-- The parameters are written. -/
lemma payload_notifyParams (notificationType entityType : String) (entityId : Uuid)
    (previousStatus newStatus : String) (changedAt : Aware) :
    ∃ body, payload ⟨notifyStatusChange, notifyParams notificationType entityType entityId
      previousStatus newStatus changedAt⟩ = some body := by
  simp [payload, notifyParams, dumps, dumpFields]

lemma requireStr_of_get {params : List (Text × Json)} {key : String} {v : Text}
    (h : get params (text key) = some (.str v)) (hne : v ≠ []) : requireStr params key = .ok v := by
  rw [requireStr, h]
  dsimp only
  rw [if_neg hne]

lemma isoformat_ne_nil (d : Datetime) : isoformat d ≠ [] := by
  simp [isoformat]

/-- The parameters are decoded. -/
lemma decodeParams_notifyParams {notificationType entityType previousStatus newStatus : String}
    (htype : notificationType ≠ "") (hentity : entityType ≠ "") (hprevious : previousStatus ≠ "")
    (hnew : newStatus ≠ "") (entityId : Uuid) (changedAt : Aware) :
    decodeParams (notifyParams notificationType entityType entityId previousStatus
      newStatus changedAt)
      = .ok ⟨text notificationType, text entityType, text previousStatus, text newStatus, entityId,
        changedAt.1⟩ := by
  generalize hparams : notifyParams notificationType entityType entityId previousStatus newStatus
    changedAt = params
  have h₁ : requireStr params "notification_type" = .ok (text notificationType) :=
    requireStr_of_get (by rw [← hparams]; rfl) (text_ne_nil htype)
  have h₂ : requireStr params "entity_type" = .ok (text entityType) :=
    requireStr_of_get (by rw [← hparams]; rfl) (text_ne_nil hentity)
  have h₃ : requireStr params "previous_status" = .ok (text previousStatus) :=
    requireStr_of_get (by rw [← hparams]; rfl) (text_ne_nil hprevious)
  have h₄ : requireStr params "new_status" = .ok (text newStatus) :=
    requireStr_of_get (by rw [← hparams]; rfl) (text_ne_nil hnew)
  have h₅ : requireStr params "entity_id" = .ok entityId.str :=
    requireStr_of_get (by rw [← hparams]; rfl) (str_ne_nil _)
  have h₆ : requireStr params "changed_at" = .ok (isoformat changedAt.1) :=
    requireStr_of_get (by rw [← hparams]; rfl) (isoformat_ne_nil _)
  simp only [decodeParams, h₁, h₂, h₃, h₄, h₅, h₆, bind, Except.bind, pure, Except.pure,
    parseUuid_str, fromisoformat_isoformat, Option.elim]

/-- The job of an event carries what the event says. -/
lemma jobFromEvent_notice {moment : Aware} {event : DomainEvent} {n : Notice}
    (h : event.notice moment = some n) :
    jobFromEvent moment event = some ⟨notifyStatusChange, notifyParams n.kind.notificationType
      n.kind.entityType n.entity n.previous n.new n.moment⟩ := by
  cases event <;> cases h <;> rfl

/-- **An event is received as it is said.** -/
lemma received_iff {moment : Aware} {event : DomainEvent} {n : Notice} (h : Says moment event n)
    {p : NotifyParams} : Received moment event p ↔ p = n.params := by
  obtain ⟨hnotice, hprevious, hnew⟩ := h
  have htype : n.kind.notificationType ≠ "" ∧ n.kind.entityType ≠ "" := by
    cases n.kind <;> decide
  obtain ⟨body, hbody⟩ := payload_notifyParams n.kind.notificationType n.kind.entityType n.entity
    n.previous n.new n.moment
  have hjob := jobFromEvent_notice hnotice
  have hparse := parseJob_payload hbody (scalar_text _) (text_ne_nil (by decide))
    (scalar_notifyParams _ _ _ _ _ _)
  have hdecode := decodeParams_notifyParams htype.1 htype.2 hprevious hnew n.entity n.moment
  constructor
  · rintro ⟨job', body', job₁, hjob', hbody', hparse', -, hp⟩
    cases hjob.symm.trans hjob'
    cases hbody.symm.trans hbody'
    cases hparse.symm.trans hparse'
    cases hdecode.symm.trans hp
    rfl
  · rintro rfl
    exact ⟨_, body, _, hjob, hbody, hparse, rfl, hdecode⟩

/-- The types of the kinds differ. -/
lemma notificationType_inj {k k' : Kind} (h : k.notificationType = k'.notificationType) :
    k = k' := by
  revert h
  cases k <;> cases k' <;> decide

/-- Notices with one key say the same. -/
lemma same_of_key {n n' : Notice} {r : Uuid} (h : n.params.key r = n'.params.key r) :
    n.kind = n'.kind ∧ n.entity = n'.entity ∧ n.previous = n'.previous ∧ n.new = n'.new
      ∧ n.moment.1.instant = n'.moment.1.instant := by
  have htype := text_inj (congrArg IdempotencyKey.notificationType h)
  have hprevious := text_inj (congrArg IdempotencyKey.previousStatus h)
  have hnew := text_inj (congrArg IdempotencyKey.newStatus h)
  exact ⟨notificationType_inj htype, congrArg IdempotencyKey.entityId h, hprevious, hnew,
    congrArg IdempotencyKey.changedAt h⟩

/-- **The codec of notifications.** An event that is notifiable, whose statuses are not empty, is
received with exactly what it says; events that differ in what they say give each recipient
different keys; and every other event gives no job. -/
theorem notification_codec :
    (∀ moment event n, Says moment event n → ∀ p, Received moment event p ↔ p = n.params)
      ∧ (∀ moment moment' event event' n n', Says moment event n → Says moment' event' n' →
        (n.kind ≠ n'.kind ∨ n.entity ≠ n'.entity ∨ n.previous ≠ n'.previous ∨ n.new ≠ n'.new
          ∨ n.moment.1.instant ≠ n'.moment.1.instant) →
        ∀ p p', Received moment event p → Received moment' event' p' →
        ∀ recipientId, p.key recipientId ≠ p'.key recipientId)
      ∧ ∀ moment event, DomainEvent.notice moment event = none →
        jobFromEvent moment event = none := by
  refine ⟨fun moment event n h p => received_iff h, ?_, ?_⟩
  · intro moment moment' event event' n n' h h' hdiffer p p' hp hp' r hkey
    rw [(received_iff h).mp hp, (received_iff h').mp hp'] at hkey
    obtain ⟨hkind, hentity, hprevious, hnew, hinstant⟩ := same_of_key hkey
    rcases hdiffer with hne | hne | hne | hne | hne
    · exact hne hkind
    · exact hne hentity
    · exact hne hprevious
    · exact hne hnew
    · exact hne hinstant
  · intro moment event h
    cases event <;> first | rfl | cases h

/-- A moment in UTC. -/
def noon : Aware := ⟨⟨⟨2026, 3, 1, 12, 0, 0, 250, some 0⟩, by decide⟩, rfl⟩

/-- A closed conversation and a raised priority, of one entity at one moment. -/
theorem notification_codec_closed :
    (∀ p, Received noon (.conversationClosed 7 "manual") p
        ↔ p = Notice.params ⟨.conversationStatus, 7, "open", "closed", noon⟩)
      ∧ (∀ p p', Received noon (.conversationClosed 7 "manual") p →
        Received noon (.conversationPriorityChanged 7 "low" "high" noon) p' → ∀ r,
        p.key r ≠ p'.key r)
      ∧ jobFromEvent noon (.messageCreated 1 7) = none := by
  have hclosed : Says noon (.conversationClosed 7 "manual") ⟨.conversationStatus, 7, "open",
      "closed", noon⟩ :=
    ⟨rfl, by decide, by decide⟩
  have hraised : Says noon (.conversationPriorityChanged 7 "low" "high" noon)
      ⟨.conversationPriority, 7, "low", "high", noon⟩ := ⟨rfl, by decide, by decide⟩
  exact ⟨notification_codec.1 _ _ _ hclosed,
    notification_codec.2.1 _ _ _ _ _ _ hclosed hraised (.inl (by decide)),
    notification_codec.2.2 _ _ rfl⟩

/-! ### The events of the tables -/

/-- The text of a cause. -/
def closedByText : ClosedBy → String
  | .manual => "manual"
  | .inactivity => "inactivity"

/-- An event with its texts, given how its numbers stand for identifiers and instants. -/
def toDomain (uuid : UUID → Uuid) (date : DateTime → Aware) : Event → DomainEvent
  | .orderCreated orderId buyerId => .orderCreated (uuid orderId) (uuid buyerId)
  | .orderItemStatusChanged orderItemId fromStatus toStatus =>
      .orderItemStatusChanged (uuid orderItemId) fromStatus.value toStatus.value
  | .orderItemCancelled orderItemId restoredStock =>
        .orderItemCancelled (uuid orderItemId) restoredStock
  | .conversationCreated conversationId orderItemId =>
      .conversationCreated (uuid conversationId) (uuid orderItemId)
  | .messageCreated messageId conversationId => .messageCreated (uuid messageId)
        (uuid conversationId)
  | .conversationClosed conversationId closedBy =>
      .conversationClosed (uuid conversationId) (closedByText closedBy)
  | .conversationPriorityChanged conversationId fromPriority toPriority changedAt =>
      .conversationPriorityChanged (uuid conversationId) fromPriority.value toPriority.value
        (date changedAt)
  | .internalCommentCreated commentId orderItemId =>
      .internalCommentCreated (uuid commentId) (uuid orderItemId)

/-- The parameters of a job of the bridge. -/
def paramsOfJob (uuid : UUID → Uuid) (date : DateTime → Aware) (job : NotifyJob) :
    NotifyParams where
  notificationType := text job.notificationType
  entityType := text job.entityType
  previousStatus := text job.previousStatus
  newStatus := text job.newStatus
  entityId := uuid job.entityId
  changedAt := (date job.changedAt).1

lemma status_value_ne (status : OrderItemStatus) : status.value ≠ "" := by
  cases status <;> decide

lemma priority_value_ne (priority : Priority) : priority.value ≠ "" := by
  cases priority <;> decide

/-- **The jobs of the bridge are what is received.** -/
theorem received_toDomain (uuid : UUID → Uuid) (date : DateTime → Aware) (moment : DateTime)
    (event : Event) (p : NotifyParams) :
    Received (date moment) (toDomain uuid date event) p
      ↔ ∃ job, MarketHub.jobFromEvent moment event = some job ∧ p = paramsOfJob uuid date job := by
  have hnone : jobFromEvent (date moment) (toDomain uuid date event) = none →
      MarketHub.jobFromEvent moment event = none →
      (Received (date moment) (toDomain uuid date event) p
        ↔ ∃ job, MarketHub.jobFromEvent moment event = some job
          ∧ p = paramsOfJob uuid date job) := by
    intro hnone hnone'
    refine iff_of_false ?_ ?_
    · rintro ⟨job, _, _, hjob, -⟩
      cases hnone.symm.trans hjob
    · rintro ⟨job, hjob, -⟩
      cases hnone'.symm.trans hjob
  have hsome : ∀ {n job}, Says (date moment) (toDomain uuid date event) n →
      MarketHub.jobFromEvent moment event = some job → n.params = paramsOfJob uuid date job →
      (Received (date moment) (toDomain uuid date event) p
        ↔ ∃ job, MarketHub.jobFromEvent moment event = some job
          ∧ p = paramsOfJob uuid date job) := by
    intro n job hn hjob hparams
    rw [received_iff hn, hparams, hjob]
    constructor
    · exact fun hp => ⟨job, rfl, hp⟩
    · rintro ⟨job', hjob', hp⟩
      cases hjob'
      exact hp
  cases event with
  | orderItemStatusChanged orderItemId fromStatus toStatus =>
      exact hsome ⟨rfl, status_value_ne fromStatus, status_value_ne toStatus⟩ rfl rfl
  | conversationClosed conversationId closedBy =>
      have hopen : "open" ≠ "" := by decide
      have hclosed : "closed" ≠ "" := by decide
      exact hsome ⟨rfl, hopen, hclosed⟩ rfl rfl
  | conversationPriorityChanged conversationId fromPriority toPriority changedAt =>
      exact hsome ⟨rfl, priority_value_ne fromPriority, priority_value_ne toPriority⟩ rfl rfl
  | _ => exact hnone rfl rfl

end MarketHub.Wire
