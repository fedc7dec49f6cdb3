import MarketHub.Grouping
import MarketHub.Notifications.Bridge
import MarketHub.Python.Number

/-!
From a job to notifications (`app/notifications/service.py`, `recipients.py`, `channel.py`,
`delivery.py` and `email.py`, and `handle_notify_status_change` of `app/jobs/handlers.py`).

A job is given with its parameters decoded. An alert that would go out by e-mail is the answer of
`processNotifyJob`, since the sender only logs it.
-/

namespace MarketHub

open ReadCommitted Grouping

/-- `_require_str`, of a text. -/
def requireStr (key value : String) : Txn Unit :=
  if value = "" then Prog.throw (.valueError (key ++ " is required")) else pure ()

/-! ### Recipients -/

/-- `seller_user_id`. -/
def sellerUserId (rows : Arrangement UUID) (sellerId : UUID) : Txn (Option UUID) :=
  Prog.query fun v =>
    (rows.arrange (((Db.users v).filter fun user => user.2.sellerId == some sellerId).map
      Prod.fst)).head?

/-- `ops_user_ids`. -/
def opsUserIds (rows : Arrangement UUID) : Txn (List UUID) :=
  Prog.query fun v =>
    rows.arrange (((Db.users v).filter fun user => user.2.role == .ops).map Prod.fst)

/-- `buyer_and_seller_for_item`. -/
def buyerAndSellerForItem (rows : Arrangement UUID) (item : OrderItem) : Txn (List UUID) := do
  let order : Option Order ← Prog.get (Key.order item.orderId)
  let offer : Option Offer ← Prog.get (Key.offer item.offerId)
  match order, offer with
  | some order, some offer =>
      let sellerId ← sellerUserId rows offer.sellerId
      return order.buyerId :: sellerId.toList
  | _, _ => return []

/-- `seller_and_ops_for_item`. -/
def sellerAndOpsForItem (rows : Arrangement UUID) (item : OrderItem) : Txn (List UUID) := do
  let offer : Option Offer ← Prog.get (Key.offer item.offerId)
  let sellerId ← match offer with
    | some offer => sellerUserId rows offer.sellerId
    | none => pure none
  let ops ← opsUserIds rows
  return sellerId.toList ++ ops

/-- `_load_item`. -/
def loadNotifiedItem (entityType : String) (entityId : UUID) : Txn (Option OrderItem) :=
  if entityType = entityOrderItem then Prog.get (Key.orderItem entityId)
  else if entityType ≠ entityConversation then pure none
  else do
    let conversation : Option Conversation ← Prog.get (Key.conversation entityId)
    match conversation with
    | none => return none
    | some conversation => Prog.get (Key.orderItem conversation.orderItemId)

/-- `resolve_recipients`. -/
def resolveRecipients (rows : Arrangement UUID) (job : NotifyJob) : Txn (List UUID) := do
  let item ← loadNotifiedItem job.entityType job.entityId
  match item with
  | none => return []
  | some item =>
      if job.notificationType = conversationPriorityChangedType then sellerAndOpsForItem rows item
      else buyerAndSellerForItem rows item

/-! ### E-mail -/

/-- `should_email`. -/
def shouldEmail (notificationType newStatus : String) : Bool :=
  notificationType = conversationPriorityChangedType
    ∧ (newStatus = Priority.high.value ∨ newStatus = Priority.critical.value)

/-- `merge_email_recipients`. -/
def mergeEmailRecipients (sellerEmail : Option String) (extra : String) : List Python.Text :=
  (sellerEmail.toList ++ [extra]).foldl (fun addresses raw =>
    let address := Python.strip (Python.text raw)
    if address = [] ∨ address ∈ addresses then addresses else addresses ++ [address]) []

/-- `seller_email_for_item`. -/
def sellerEmailForItem (rows : Arrangement UUID) (item : OrderItem) : Txn (Option String) := do
  let offer : Option Offer ← Prog.get (Key.offer item.offerId)
  match offer with
  | none => return none
  | some offer =>
      let userId ← sellerUserId rows offer.sellerId
      match userId with
      | none => return none
      | some userId =>
          let user : Option User ← Prog.get (Key.user userId)
          return user.map User.email

/-- What an `EmailSender` is given. -/
structure EmailAlert where
  to_ : List Python.Text
  subject : String
  body : String
  entityId : UUID
  newStatus : String

/-- `_deliver_email` with `resolve_email_recipients`. -/
def deliverEmail (rows : Arrangement UUID) (extra : String) (job : NotifyJob)
    (title message : String) :
    Txn (Option EmailAlert) :=
  if shouldEmail job.notificationType job.newStatus = false then pure none
  else do
    let item ← loadNotifiedItem job.entityType job.entityId
    let sellerEmail ← match item with
      | some item => sellerEmailForItem rows item
      | none => pure none
    let addresses := mergeEmailRecipients sellerEmail extra
    if addresses = [] then return none
    else return some ⟨addresses, title, message, job.entityId, job.newStatus⟩

/-! ### Notifications -/

/-- The row of a recipient. -/
def NotifyJob.notification (job : NotifyJob) (title message : String) (recipientId : UUID)
    (now : DateTime) : Notification where
  recipientId := recipientId
  notificationType := job.notificationType
  title := title
  message := message
  entityType := job.entityType
  entityId := job.entityId
  previousStatus := job.previousStatus
  newStatus := job.newStatus
  changedAt := job.changedAt
  createdAt := now
  readAt := none

/-- `InAppNotificationChannel.send`: whether the row was inserted. -/
def sendNotification (job : NotifyJob) (title message : String) (recipientId : UUID) :
    Txn Bool := do
  let id ← Prog.uuid4
  let now ← Prog.utcnow
  Prog.insertNested (.notification id)
    (job.notification title message recipientId now : Notification)

/-- The loop over the recipients. -/
def sendEach (job : NotifyJob) (title message : String) : List UUID → Txn Unit
  | [] => pure ()
  | recipientId :: recipients => do
      let _ ← sendNotification job title message recipientId
      sendEach job title message recipients

/-- `process_notify_job`, of a job with its parameters decoded. -/
def processNotifyJob (rows : Arrangement UUID) (extra : String) (job : NotifyJob) :
    Txn (Option EmailAlert) := do
  requireStr "notification_type" job.notificationType
  requireStr "entity_type" job.entityType
  requireStr "previous_status" job.previousStatus
  requireStr "new_status" job.newStatus
  match buildCopy job.notificationType job.previousStatus job.newStatus with
  | none => Prog.throw (.valueError ("unknown notification type: " ++ job.notificationType))
  | some (title, message) => do
      let recipients ← resolveRecipients rows job
      sendEach job title message recipients
      deliverEmail rows extra job title message

/-- `handle_notify_status_change`. -/
def handleNotifyStatusChange (rows : Arrangement UUID) (extra : String) (job : NotifyJob) :
    Txn Unit := do
  let _ ← processNotifyJob rows extra job
  Prog.flush
  .commit (.pure ())

end MarketHub
