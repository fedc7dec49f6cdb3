import MarketHub.Tables
import MarketHub.ReadCommitted.Turns

/-!
From domain events to jobs (`app/database.py`, `app/core/events.py`,
`app/notifications/bridge.py` and `get_job_queue` of `app/jobs/queue.py`).

`sessionTransaction` follows `session_transaction` with the publication written out:
`Prog.transaction` is the same transaction for a process whose queue never fails
(`sessionTransaction_exec`).

* `Outside`: what a transaction does not decide itself. The choices of its statements,
  whether the commit and the construction of the queue succeed, and which sends do.
* `Process`: the database, the publisher and the queue of one process.
-/

namespace MarketHub

open ReadCommitted

/-! ### Jobs -/

/-- The text of an item status. -/
def OrderItemStatus.value : OrderItemStatus → String
  | .placed => "placed"
  | .preparing => "preparing"
  | .inTransit => "in_transit"
  | .delivered => "delivered"
  | .cancelled => "cancelled"

/-- The text of a priority. -/
def Priority.value : Priority → String
  | .low => "low"
  | .medium => "medium"
  | .high => "high"
  | .critical => "critical"

/-- `ORDER_ITEM_STATUS_CHANGED`. -/
def orderItemStatusChangedType : String := "ORDER_ITEM_STATUS_CHANGED"

/-- `CONVERSATION_STATUS_CHANGED`. -/
def conversationStatusChangedType : String := "CONVERSATION_STATUS_CHANGED"

/-- `CONVERSATION_PRIORITY_CHANGED`. -/
def conversationPriorityChangedType : String := "CONVERSATION_PRIORITY_CHANGED"

/-- `ENTITY_ORDER_ITEM`. -/
def entityOrderItem : String := "ORDER_ITEM"

/-- `ENTITY_CONVERSATION`. -/
def entityConversation : String := "CONVERSATION"

/-- `build_copy`: the title and the message; `none` for an unknown type. -/
def buildCopy (notificationType previousStatus newStatus : String) : Option (String × String) :=
  if notificationType = orderItemStatusChangedType then
    some ("Order item status updated",
      "Status changed from " ++ previousStatus ++ " to " ++ newStatus ++ ".")
  else if notificationType = conversationStatusChangedType then
    some ("Conversation closed",
      "Conversation status changed from " ++ previousStatus ++ " to " ++ newStatus ++ ".")
  else if notificationType = conversationPriorityChangedType then
    some ("Conversation priority updated",
      "Priority changed from " ++ previousStatus ++ " to " ++ newStatus ++ ".")
  else none

/-- The parameters of a job `NOTIFY_STATUS_CHANGE`. -/
structure NotifyJob where
  notificationType : String
  entityType : String
  entityId : UUID
  previousStatus : String
  newStatus : String
  changedAt : DateTime
  deriving DecidableEq

/-- `job_from_event`: nothing for an event that is not notifiable. -/
def jobFromEvent (moment : DateTime) : Event → Option NotifyJob
  | .orderItemStatusChanged orderItemId fromStatus toStatus =>
      some ⟨orderItemStatusChangedType, entityOrderItem, orderItemId, fromStatus.value,
        toStatus.value, moment⟩
  | .conversationClosed conversationId _ =>
      some ⟨conversationStatusChangedType, entityConversation, conversationId, "open", "closed",
        moment⟩
  | .conversationPriorityChanged conversationId fromPriority toPriority changedAt =>
      some ⟨conversationPriorityChangedType, entityConversation, conversationId,
        fromPriority.value, toPriority.value, changedAt⟩
  | _ => none

/-! ### A process -/

/-- What a transaction does not decide itself. `sends j` and `now j` are about the event at
the place `j` of those it publishes. -/
structure Outside where
  choices : ℕ → Choice
  commits : Bool
  builds : Bool
  sends : ℕ → Bool
  now : ℕ → DateTime

/-- The database, the publisher and the queue: `connected` says that `_job_queue` is set. -/
structure Process where
  store : Db
  published : List Event
  connected : Bool
  queue : List NotifyJob

/-- Why `session_transaction` raises. -/
inductive Raised where
  /-- The work of the transaction, or a statement of it. -/
  | work (e : Failure DomainError)
  | commit
  | jobQueue

/-- The body of a transaction, which leaves the commit to `session_transaction`. -/
structure Work (α : Type) where
  body : Txn α
  uncommitted : body.Uncommitted

/-- `publisher.publish`. -/
def Process.publish (p : Process) (event : Event) : Process :=
  { p with published := p.published ++ [event] }

/-- `get_job_queue`. -/
def getJobQueue (outside : Outside) (p : Process) : Process × Except Raised Unit :=
  if p.connected then (p, .ok ())
  else if outside.builds then ({ p with connected := true }, .ok ())
  else (p, .error .jobQueue)

/-- The loop of `enqueue_notifiable`, from the event at the place `j` on: a failed send is
logged, and the loop goes on. -/
def enqueueEach (outside : Outside) : ℕ → List Event → Process → Process
  | _, [], p => p
  | j, event :: events, p =>
      match jobFromEvent (outside.now j) event with
      | none => enqueueEach outside (j + 1) events p
      | some job =>
          enqueueEach outside (j + 1) events
            (if outside.sends j then { p with queue := p.queue ++ [job] } else p)

/-- `enqueue_notifiable`. -/
def enqueueNotifiable (outside : Outside) (events : List Event) (p : Process) :
    Process × Except Raised Unit :=
  match getJobQueue outside p with
  | (p, .error e) => (p, .error e)
  | (p, .ok ()) => (enqueueEach outside 0 events p, .ok ())

/-- `publish_pending`. -/
def publishPending (outside : Outside) (events : List Event) (p : Process) :
    Process × Except Raised Unit :=
  let p := events.foldl Process.publish p
  if events.isEmpty then (p, .ok ()) else enqueueNotifiable outside events p

variable {α : Type}

/-- The work and the flush of the commit. -/
def Work.flushed (work : Work α) (outside : Outside) (p : Process) :
    Outcome Row Event DomainError α :=
  exec outside.choices (work.body.bind fun a => Prog.flush.bind fun _ => .pure a) 0 p.store
    p.published ∅

/-- `session_transaction`: an exception of the publication also leaves through the
`except`, where there is nothing left to roll back. -/
def sessionTransaction (outside : Outside) (work : Work α) (p : Process) :
    Process × Except Raised α :=
  let r := work.flushed outside p
  match r.result with
  | .error e => (p, .error (.work e))
  | .ok a =>
      if outside.commits then
        match publishPending outside r.session.pending
            { p with store := merge p.store r.session.held } with
        | (p, .error e) => (p, .error e)
        | (p, .ok ()) => (p, .ok a)
      else (p, .error .commit)

end MarketHub
