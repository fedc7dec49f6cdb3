import MarketHub.Support.PriorityOps
import MarketHub.Communication.Reconcile
import MarketHub.Communication.Routes
import MarketHub.Orders.Stock

/-!
What the transactions of Market Hub do to conversations and order items.

A transaction is summed up by what it has done to each row when it commits.

* `Deed`: what can have become of one conversation, with the message it got and the
  events recorded about it. One constructor for each thing that can happen to it.
* `ItemDeed`: the same for the status of an order item.
* `Deeds`: every conversation and every item has met with such a deed, and the messages
  are those of the deeds. It is what the requests are shown to reach (`Did`), and what
  the invariants are derived from.
* `Terms`: how the committed rows may have moved since a transaction read them, and
  what is known of the reading of the clock that found a conversation inactive.
-/

namespace MarketHub

open ReadCommitted Session

/-! ### Deeds -/

/-- The events about one conversation. -/
def Event.concerns (conversationId : UUID) : Event → Bool
  | .conversationCreated id _ => id = conversationId
  | .messageCreated _ id => id = conversationId
  | .conversationClosed id _ => id = conversationId
  | .conversationPriorityChanged id _ _ _ => id = conversationId
  | _ => false

/-- The events about the status of one item. -/
def Event.concernsItem (itemId : UUID) : Event → Bool
  | .orderItemStatusChanged id _ _ => id = itemId
  | .orderItemCancelled id _ => id = itemId
  | _ => false

/-- The events of a change of the effective priority. -/
def priorityEvents (conversationId : UUID) (before after : Priority) (now : DateTime) :
    List Event :=
  if after ≠ before then [.conversationPriorityChanged conversationId before after now] else []

/-- What a development knows of the committed rows and of the clock: `moved` relates the
rows a transaction read to those it commits over, `clock` holds of every reading of the
clock, and `expired` of what the inactivity rule has found: the row the transaction has
locked, the object it judged, and the reading of the clock. -/
structure Terms where
  moved : Db → Db → Prop
  clock : DateTime → Prop
  expired : Conversation → Conversation → DateTime → Prop
  moved_refl : ∀ v, moved v v
  moved_trans : ∀ v₁ v₂ v₃, moved v₁ v₂ → moved v₂ v₃ → moved v₁ v₃

/-- The closed conversation of an inactivity closure. -/
def Conversation.expire (conversation : Conversation) (now : DateTime) : Conversation :=
  { conversation with status := .closed }.touch now

/-- The closed conversation of a seller's closure. -/
def Conversation.shut (conversation : Conversation) (now : DateTime) : Conversation :=
  { conversation with status := .closed, updatedAt := now }

/-- The conversation with an override of Ops. -/
def Conversation.withOverride (conversation : Conversation) (override : Option Priority)
    (now : DateTime) : Conversation :=
  { conversation with opsOverride := override, updatedAt := now }

/-- The message of an inactivity closure. -/
def closingMessage (conversationId : UUID) (now : DateTime) : Message :=
  ⟨conversationId, .system, none, systemCloseMessage, now⟩

/-- A change sent over the row it was made on stores the changed row. -/
lemma Conversation.patch_self (b cur : Conversation) : Conversation.patch b cur b = cur :=
  (LawfulTable.patch_self : ∀ _ _ : Row (.conversation 0), _) b cur

/-- What a transaction that commits over the rows `st` has done to a conversation: its row
before and after, the message it got, and the events about it. -/
inductive Deed (T : Terms) (settings : Settings) (st : Db) (c : UUID) :
    Option Conversation → Option Conversation → Option (UUID × Message) → List Event → Prop
  /-- Nothing. -/
  | nothing (b : Option Conversation) : Deed T settings st c b b none []
  /-- It was created for an item as it was read. -/
  | created {v : Db} {item : OrderItem} (itemId : UUID) (reason : ConversationReason)
      (now : DateTime) : T.clock now → T.moved v st → Db.orderItem v itemId = some item →
      Deed T settings st c none (some (newConversation itemId reason item now)) none
        [.conversationCreated c itemId]
  /-- A participant's message was sent. -/
  | messaged {b : Conversation} {authorType : AuthorType} (id : UUID) (user : Option UUID)
      (content : String) (now : DateTime) : T.clock now → b.status = .opened →
      authorType ≠ .system →
      Deed T settings st c (some b) (some (b.touch now))
        (some (id, ⟨c, authorType, user, content, now⟩)) [.messageCreated id c]
  /-- It was closed for inactivity, judged by its object `x`. -/
  | expired {x : Conversation} {seen : DateTime} (b : Conversation) (id : UUID)
      (now : DateTime) : T.clock now → x.status = .opened →
      isInactiveAt settings x seen = true → T.expired b x seen →
      Deed T settings st c (some b) (some (Conversation.patch x (x.expire now) b))
        (some (id, closingMessage c now))
        [.messageCreated id c, .conversationClosed c .inactivity]
  /-- The seller closed it. -/
  | shut {b : Conversation} (now : DateTime) : T.clock now → b.status = .opened →
      Deed T settings st c (some b) (some (b.shut now)) none [.conversationClosed c .manual]
  /-- Its priority was calculated again, from its object `x` and the item as they were
  read. -/
  | recalculated {v : Db} {x : Conversation} {item : OrderItem} (b : Conversation)
      (now : DateTime) : T.clock now → T.moved v st → Db.conversation v c = some x →
      Db.orderItem v x.orderItemId = some item →
      Deed T settings st c (some b) (some (Conversation.patch x (recalculate x item now) b)) none
        (priorityEvents c x.effectivePriority (recalculate x item now).effectivePriority now)
  /-- Ops set or removed the override. -/
  | overridden (b : Conversation) (override : Option Priority) (now : DateTime) : T.clock now →
      override = none ∨ override = some .critical →
      Deed T settings st c (some b) (some (b.withOverride override now)) none
        (priorityEvents c b.effectivePriority (b.withOverride override now).effectivePriority now)

/-- What a transaction has done to an order item: its row before and after, and the events
about its status. -/
inductive ItemDeed (T : Terms) (i : UUID) : Option OrderItem → Option OrderItem → List Event → Prop
  /-- Nothing. -/
  | nothing (b : Option OrderItem) : ItemDeed T i b b []
  /-- It was ordered. -/
  | ordered {r : OrderItem} : r.status = .placed → ItemDeed T i none (some r) []
  /-- The seller advanced it. -/
  | advanced {b : OrderItem} {status : OrderItemStatus} (now : DateTime) : T.clock now →
      forward b.status = some status →
      ItemDeed T i (some b) (some (b.withStatus status now))
        [.orderItemStatusChanged i b.status status]
  /-- It was cancelled. -/
  | cancelled {b : OrderItem} (now : DateTime) : T.clock now → b.status ≠ .cancelled →
      ItemDeed T i (some b) (some (b.withStatus .cancelled now))
        [.orderItemCancelled i (restoresStockOnCancel b.status),
          .orderItemStatusChanged i b.status .cancelled]

/-- What a transaction has done that turned the rows `st` into `st'` and recorded the
given events: a deed for every conversation and every item, and the messages sent to
the conversations. -/
structure Deeds (T : Terms) (settings : Settings) (news : UUID → Option (UUID × Message))
    (st st' : Db) (events : List Event) : Prop where
  conversation : ∀ c, Deed T settings st c (Db.conversation st c) (Db.conversation st' c) (news c)
    (events.filter (Event.concerns c))
  item : ∀ i, ItemDeed T i (Db.orderItem st i) (Db.orderItem st' i)
    (events.filter (Event.concernsItem i))
  sent : ∀ c id m, news c = some (id, m) → Db.message st id = none ∧ Db.message st' id = some m
  kept : ∀ id, (∀ c m, news c ≠ some (id, m)) → Db.message st' id = Db.message st id

/-- What a session has done that commits over the rows `st`. -/
def Did (T : Terms) (settings : Settings) (st : Db) (s : AppSession) : Prop :=
  ∃ news, Deeds T settings news st (merge st s.held) s.pending

end MarketHub
