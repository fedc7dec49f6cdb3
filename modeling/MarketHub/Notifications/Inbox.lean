import MarketHub.Orders.Listing

/-!
The notifications of a user (`app/notifications/routes.py`).
-/

namespace MarketHub

open ReadCommitted OffsetPaging

/-- `NotificationResponse`. -/
structure NotificationResponse where
  id : UUID
  recipientId : UUID
  type : String
  title : String
  message : String
  entityType : String
  entityId : UUID
  previousStatus : String
  newStatus : String
  createdAt : DateTime
  readAt : Option DateTime
  deriving DecidableEq

/-- `_to_response`. -/
def toResponse (id : UUID) (notification : Notification) : NotificationResponse where
  id := id
  recipientId := notification.recipientId
  type := notification.notificationType
  title := notification.title
  message := notification.message
  entityType := notification.entityType
  entityId := notification.entityId
  previousStatus := notification.previousStatus
  newStatus := notification.newStatus
  createdAt := notification.createdAt
  readAt := notification.readAt

/-- `_owned`. -/
def owned (notificationId userId : UUID) : Txn Notification := do
  let notification : Option Notification ← Prog.get (Key.notification notificationId)
  match notification with
  | none => Prog.throw (.resourceNotFound "Notification not found")
  | some notification =>
      if notification.recipientId = userId then pure notification
      else Prog.throw (.resourceNotFound "Notification not found")

/-- The notification of an entry of the table is the one under its identifier. -/
lemma mem_notifications {v : Db} {id : UUID} {notification : Notification} :
    (id, notification) ∈ Db.notifications v ↔ Db.notification v id = some notification := by
  rw [Db.notifications, List.mem_filterMap]
  constructor
  · rintro ⟨⟨k, r⟩, he, hk⟩
    cases k <;> simp at hk
    obtain ⟨rfl, rfl⟩ := hk
    exact AList.mem_lookup_iff.mpr he
  · intro h
    exact ⟨⟨.notification id, notification⟩, AList.mem_lookup_iff.mp h, rfl⟩

/-- The notifications of a recipient. -/
def notificationsOf (userId : UUID) (v : Db) : List (UUID × Notification) :=
  (Db.notifications v).filter fun notification => notification.2.recipientId == userId

/-- `created_at DESC`. -/
def notificationsNewestFirst (notification : UUID × Notification) : DateTimeᵒᵈ :=
  OrderDual.toDual notification.2.createdAt

/-- `list_notifications`. -/
def listNotifications (user : CurrentUser) (sorting : Sorting notificationsNewestFirst)
    (query : PageQuery) : Txn (Envelope NotificationResponse) :=
  paginate (notificationsOf user.id) []
    (fun notification => [Key.notification notification.1]) sorting
    (fun notification => toResponse notification.1 notification.2) query

/-- `unread_count`. -/
def unreadCount (user : CurrentUser) : Txn ℕ :=
  Prog.query fun v => ((notificationsOf user.id v).filter fun notification =>
    notification.2.readAt.isNone).length

/-- `mark_read`. -/
def markRead (notificationId : UUID) (user : CurrentUser) : Txn NotificationResponse := do
  let notification ← owned notificationId user.id
  if notification.readAt.isNone then
    let now ← Prog.utcnow
    let read : Notification := { notification with readAt := some now }
    Prog.assign (.notification notificationId) read
    return toResponse notificationId read
  else return toResponse notificationId notification

end MarketHub
