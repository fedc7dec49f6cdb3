import MarketHub.OffsetPaging
import MarketHub.Support.PriorityOps

/-!
The internal comments of a seller (`app/support/comments.py` and the routes of a seller in
`app/support/routes.py`).
-/

namespace MarketHub

open ReadCommitted OffsetPaging

/-- The rows of `internal_comments`. -/
def Db.internalComments (v : Db) : List (UUID × InternalComment) :=
  v.entries.filterMap fun e =>
    match e with
    | ⟨.internalComment id, r⟩ => some (id, r)
    | _ => none

/-- `InternalComment.created_at`. -/
def commentOldestFirst (comment : UUID × InternalComment) : DateTime := comment.2.createdAt

/-- `list_comments`. -/
def listComments (sorting : Sorting commentOldestFirst) (orderItemId : UUID) :
    Txn (List (UUID × InternalComment)) :=
  Prog.lift (.select false
    (fun v => sorting.sort
      ((Db.internalComments v).filter fun comment => comment.2.orderItemId == orderItemId))
    (fun comment => [.internalComment comment.1]) (fun _ => []))

/-- `list_seller_internal_comments`. -/
def listSellerInternalComments (sorting : Sorting commentOldestFirst) (itemId : UUID)
    (seller : CurrentUser) : Txn (List (UUID × InternalComment)) := do
  let sellerId ← requireSeller seller
  let _ ← loadSellerItem itemId sellerId
  listComments sorting itemId

/-- `create_seller_internal_comment`. -/
def createSellerInternalComment (itemId : UUID) (content : String) (seller : CurrentUser) :
    Txn UUID := do
  let sellerId ← requireSeller seller
  let _ ← loadSellerItem itemId sellerId
  createComment itemId seller content

end MarketHub
