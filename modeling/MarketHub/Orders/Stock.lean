import MarketHub.Orders.Routes
import MarketHub.ReadCommitted.System

/-!
Stock accounting.

For one offer, the account is its stock plus the quantities of its order items that
still hold stock. `stockWeight` is the part of it that can be read off the rows, and
`lostWeight` the part of the items that were cancelled in transit, which the rows do
not tell from the restored ones.

* `Settled` is what every order request has reached when it commits: its account is
  balanced, up to one cancelled item that the recorded events name.
* `wp_checkout`, `wp_updateOrderItemStatus` and `wp_cancelOrderItem` show that the
  requests reach it under any interference.
* `stock_conserved` is the consequence for all interleavings.
-/

namespace MarketHub

open ReadCommitted Session

/-! ### The account of an offer -/

/-- What a row adds to the account of an offer: stock, or the quantity of an item that
is not cancelled. -/
def stockWeight (offerId : UUID) : (k : Key) → Row k → ℤ
  | .offer id, r => if id = offerId then r.stock else 0
  | .orderItem _, r => if r.offerId = offerId ∧ r.status ≠ .cancelled then r.quantity else 0
  | _, _ => 0

/-- The event of an item that is cancelled in transit. -/
def lostEvent (itemId : UUID) : Event := .orderItemStatusChanged itemId .inTransit .cancelled

/-- The quantities of the items that were cancelled in transit, by the events of the
committed transactions. -/
def lostWeight (offerId : UUID) (log : List Event) : (k : Key) → Row k → ℤ
  | .orderItem id, r =>
      if r.offerId = offerId ∧ r.status = .cancelled ∧ lostEvent id ∈ log then r.quantity else 0
  | _, _ => 0

/-- How the order requests move rows: offers stay and keep a stock that is not negative,
items stay with their offer and quantity, and a cancelled item stays cancelled. -/
def StockMove : (k : Key) → Option (Row k) → Option (Row k) → Prop
  | .offer _, old, new => ∀ b, old = some b → ∃ c, new = some c ∧ (0 ≤ b.stock → 0 ≤ c.stock)
  | .orderItem _, old, new => ∀ b, old = some b → ∃ c, new = some c ∧ c.offerId = b.offerId
      ∧ c.quantity = b.quantity ∧ (b.status = .cancelled → c.status = .cancelled)
  | _, _, _ => True

lemma stockMove_refl (k : Key) (r : Option (Row k)) : StockMove k r r := by
  cases k with
  | offer id => exact fun b hb => ⟨b, hb, fun h => h⟩
  | orderItem id => exact fun b hb => ⟨b, hb, rfl, rfl, fun h => h⟩
  | _ => trivial

lemma stockMove_trans (k : Key) (r₁ r₂ r₃ : Option (Row k)) (h₁ : StockMove k r₁ r₂)
    (h₂ : StockMove k r₂ r₃) : StockMove k r₁ r₃ := by
  cases k with
  | offer id =>
      intro b hb
      obtain ⟨c, hc, hcb⟩ := h₁ b hb
      obtain ⟨d, hd, hdc⟩ := h₂ c hc
      exact ⟨d, hd, fun h => hdc (hcb h)⟩
  | orderItem id =>
      intro b hb
      obtain ⟨c, hc, ho, hq, hs⟩ := h₁ b hb
      obtain ⟨d, hd, ho', hq', hs'⟩ := h₂ c hc
      exact ⟨d, hd, ho'.trans ho, hq'.trans hq, fun h => hs' (hs h)⟩
  | _ => trivial

/-! ### Settled transactions -/

/-- The events a cancellation leaves behind. -/
def Event.cancels : Event → Bool
  | .orderItemCancelled _ _ => true
  | .orderItemStatusChanged _ _ .cancelled => true
  | _ => false

/-- One item of a session is cancelled: its versions and the recorded events. -/
structure Cancels (offerId itemId : UUID) (b c : OrderItem) (s : AppSession) : Prop where
  held : s.held.lookup (.orderItem itemId) = some ⟨some b, some c⟩
  before : b.status = .placed ∨ b.status = .preparing ∨ b.status = .inTransit
  after : c.status = .cancelled
  offer : c.offerId = b.offerId
  quantity : c.quantity = b.quantity
  pending : s.pending = [.orderItemCancelled itemId (restoresStockOnCancel b.status),
    .orderItemStatusChanged itemId b.status .cancelled]
  balance : drift (stockWeight offerId) (stockWeight offerId) s.held
    = if b.offerId = offerId ∧ b.status = .inTransit then -(b.quantity : ℤ) else 0

/-- What an order request has reached when it commits. -/
structure Settled (offerId : UUID) (s : AppSession) : Prop where
  moves : s.Moves StockMove
  balanced : (drift (stockWeight offerId) (stockWeight offerId) s.held = 0
      ∧ ∀ e ∈ s.pending, e.cancels = false)
    ∨ ∃ itemId b c, Cancels offerId itemId b c s

/-- The invariant of the committed rows and events: the offer is there with a stock that
is not negative unless it was at the start, its account stands at `c`, an item that an event
calls cancelled is so, and none has been restored twice. -/
structure StockInv (offerId : UUID) (start c : ℤ) (st : Db) (log : List Event) : Prop where
  stock : ∃ r : Offer, Db.offer st offerId = some r ∧ (0 ≤ start → 0 ≤ r.stock)
  account : total (stockWeight offerId) st + total (lostWeight offerId log) st = c
  cancelled : ∀ itemId, (Event.orderItemCancelled itemId true ∈ log ∨ lostEvent itemId ∈ log) →
    ∃ r : OrderItem, Db.orderItem st itemId = some r ∧ r.status = .cancelled
  once : ∀ itemId, log.count (Event.orderItemCancelled itemId true) ≤ 1

/-- The assumptions and obligations of the order requests. -/
def stockOutline (offerId : UUID) (start c : ℤ) : Outline Row Event where
  inv := StockInv offerId start c
  commit _ s := Settled offerId s

/-! ### A settled commit keeps the account -/

section Keeps

variable {offerId : UUID} {start c : ℤ} {st : Db} {log log' : List Event} {s : AppSession}

/-- An item that an event calls cancelled is cancelled in the version a session has
locked. -/
lemma StockInv.base_cancelled (h : StockInv offerId start c st log) (hag : Agrees s.held st)
    {itemId : UUID} {hd : Held Row (.orderItem itemId)}
    (hk : s.held.lookup (.orderItem itemId) = some hd)
    (hev : Event.orderItemCancelled itemId true ∈ log ∨ lostEvent itemId ∈ log) :
    ∃ r : OrderItem, hd.base = some r ∧ r.status = .cancelled := by
  obtain ⟨r, hr, hc⟩ := h.cancelled itemId hev
  exact ⟨r, (hag _ hd hk).symm.trans hr, hc⟩

/-- A held row that moves without being newly lost adds nothing to the lost
quantities. -/
lemma lost_gain_eq_zero (h : StockInv offerId start c st log) (hag : Agrees s.held st)
    (hmoves : s.Moves StockMove) {k : Key} {hd : Held Row k} (hk : s.held.lookup k = some hd)
    (hsame : ∀ itemId, k = .orderItem itemId → (lostEvent itemId ∈ log' ↔ lostEvent itemId ∈ log)) :
    gain (lostWeight offerId log) (lostWeight offerId log') k hd = 0 := by
  have hmove := hmoves k hd hk
  obtain ⟨base, cur⟩ := hd
  cases k with
  | orderItem itemId =>
      have hbase := fun hev => h.base_cancelled hag hk (Or.inr hev)
      have hlog := hsame itemId rfl
      cases base with
      | none =>
          have hno : lostEvent itemId ∉ log := fun hev => by
            obtain ⟨r, hr, -⟩ := hbase hev
            cases hr
          cases cur <;> simp [gain, lostWeight, hlog, hno]
      | some b =>
          obtain ⟨d, rfl, ho, hq, hs⟩ := hmove b rfl
          by_cases hev : lostEvent itemId ∈ log
          · obtain ⟨r, hr, hc⟩ := hbase hev
            cases hr
            simp [gain, lostWeight, hlog, hev, ho, hq, hc, hs hc]
          · simp [gain, lostWeight, hlog, hev]
  | _ => cases base <;> cases cur <;> simp [gain, lostWeight]

/-- The cancelled item adds what it has not given back. -/
lemma Cancels.lost_gain (h : StockInv offerId start c st log) (hag : Agrees s.held st)
    {itemId : UUID} {b d : OrderItem} (hs : Cancels offerId itemId b d s) :
    gain (lostWeight offerId log) (lostWeight offerId (log ++ s.pending)) (.orderItem itemId)
        ⟨some b, some d⟩
      = if b.offerId = offerId ∧ b.status = .inTransit then (b.quantity : ℤ) else 0 := by
  have hno : lostEvent itemId ∉ log := fun hev => by
    obtain ⟨r, hr, hc⟩ := h.base_cancelled hag hs.held (Or.inr hev)
    cases hr
    rcases hs.before with hb | hb | hb <;> rw [hb] at hc <;> cases hc
  have hmem : lostEvent itemId ∈ log ++ s.pending ↔ b.status = .inTransit := by
    rw [List.mem_append, or_iff_right hno, hs.pending]
    simp [lostEvent, eq_comm]
  simp [gain, lostWeight, hno, hmem, hs.after, hs.offer, hs.quantity]

/-- Only the cancelled item gets new events. -/
lemma Cancels.lostEvent_mem {itemId : UUID} {b d : OrderItem} (hs : Cancels offerId itemId b d s)
    {i : UUID} (hne : i ≠ itemId) : lostEvent i ∈ log ++ s.pending ↔ lostEvent i ∈ log := by
  rw [hs.pending]
  simp [lostEvent, hne]

lemma lostEvent_mem_of_quiet (hq : ∀ e ∈ s.pending, e.cancels = false) (i : UUID) :
    lostEvent i ∈ log ++ s.pending ↔ lostEvent i ∈ log := by
  refine ⟨fun hev => ?_, fun hev => List.mem_append_left _ hev⟩
  rcases List.mem_append.mp hev with hold | hnew
  · exact hold
  · cases hq _ hnew

/-- What a settled commit adds to the lost quantities makes up for its balance. -/
lemma Settled.lost_drift (h : StockInv offerId start c st log) (hag : Agrees s.held st)
    (hs : Settled offerId s) :
    drift (stockWeight offerId) (stockWeight offerId) s.held
      + drift (lostWeight offerId log) (lostWeight offerId (log ++ s.pending)) s.held = 0 := by
  rcases hs.balanced with ⟨hzero, hquiet⟩ | ⟨itemId, b, d, hc⟩
  · have hlost : drift (lostWeight offerId log)
        (lostWeight offerId (log ++ s.pending)) s.held = 0 :=
      total_eq_zero fun k hd hk =>
        lost_gain_eq_zero h hag hs.moves hk fun i _ => lostEvent_mem_of_quiet hquiet i
    rw [hzero, hlost, add_zero]
  · have hlost : drift (lostWeight offerId log) (lostWeight offerId (log ++ s.pending)) s.held
        = if b.offerId = offerId ∧ b.status = .inTransit then (b.quantity : ℤ) else 0 := by
      rw [drift, total_eq_weigh (k := .orderItem itemId), hc.held]
      · exact hc.lost_gain h hag
      · intro k hd hne hk
        refine lost_gain_eq_zero h hag hs.moves hk fun i hi => hc.lostEvent_mem fun hii => hne ?_
        rw [hi, hii]
    rw [hc.balance, hlost]
    split <;> simp

/-- Rows that are not held are not newly lost. -/
lemma Settled.lost_same (hs : Settled offerId s) (k : Key) (r : Row k)
    (hk : s.held.lookup k = none) :
    lostWeight offerId (log ++ s.pending) k r = lostWeight offerId log k r := by
  cases k with
  | orderItem i =>
      have hmem : lostEvent i ∈ log ++ s.pending ↔ lostEvent i ∈ log := by
        rcases hs.balanced with ⟨-, hquiet⟩ | ⟨itemId, b, d, hc⟩
        · exact lostEvent_mem_of_quiet hquiet i
        · refine hc.lostEvent_mem fun hii => ?_
          rw [hii, hc.held] at hk
          cases hk
      simp only [lostWeight, hmem]
  | _ => rfl

/-- **A settled commit keeps the account.** -/
lemma Settled.keeps (h : StockInv offerId start c st log) (hag : Agrees s.held st)
    (hs : Settled offerId s) : StockInv offerId start c (merge st s.held) (log ++ s.pending) where
  stock := by
    obtain ⟨r, hr, hpos⟩ := h.stock
    obtain ⟨r', hr', hpos'⟩ := hs.moves.merge stockMove_refl hag (.offer offerId) r hr
    exact ⟨r', hr', fun hstart => hpos' (hpos hstart)⟩
  account := by
    have hstock := total_merge (w := stockWeight offerId) hag fun _ _ _ _ => rfl
    -- the weights of lost items change with the log as well
    have hlost : total (lostWeight offerId (log ++ s.pending)) (merge st s.held)
        = total (lostWeight offerId log) st
          + drift (lostWeight offerId log) (lostWeight offerId (log ++ s.pending)) s.held :=
      total_merge hag fun k r hk _ => hs.lost_same k r hk
    have hdrift := hs.lost_drift h hag
    have haccount := h.account
    omega
  cancelled i hev := by
    -- what was cancelled before stays cancelled
    have hold : (Event.orderItemCancelled i true ∈ log ∨ lostEvent i ∈ log) →
        ∃ r : OrderItem, Db.orderItem (merge st s.held) i = some r ∧ r.status = .cancelled := by
      intro hev
      obtain ⟨r, hr, hc⟩ := h.cancelled i hev
      obtain ⟨r', hr', -, -, hc'⟩ := hs.moves.merge stockMove_refl hag (.orderItem i) r hr
      exact ⟨r', hr', hc' hc⟩
    -- at most one item is cancelled by the transaction
    rcases hs.balanced with ⟨-, hquiet⟩ | ⟨itemId, b, d, hc⟩
    · rw [lostEvent_mem_of_quiet hquiet] at hev
      refine hold (hev.imp_left fun hmem => ?_)
      rcases List.mem_append.mp hmem with hlog | hnew
      · exact hlog
      · cases hquiet _ hnew
    · by_cases hii : i = itemId
      · subst hii
        exact ⟨d, lookup_merge_of_held hc.held, hc.after⟩
      · rw [hc.lostEvent_mem hii] at hev
        refine hold (hev.imp_left fun hmem => ?_)
        rw [hc.pending] at hmem
        simpa [hii] using hmem
  once i := by
    have hlog := h.once i
    rw [List.count_append]
    rcases hs.balanced with ⟨-, hquiet⟩ | ⟨itemId, b, d, hc⟩
    · have hnone : s.pending.count (Event.orderItemCancelled i true) = 0 :=
        List.count_eq_zero.mpr fun hmem => by cases hquiet _ hmem
      omega
    · have hpend : s.pending.count (Event.orderItemCancelled i true)
          ≤ if i = itemId then 1 else 0 := by
        rw [hc.pending]
        by_cases hii : i = itemId
        · rw [if_pos hii, List.count_cons, List.count_eq_zero.mpr (by simp)]
          split <;> omega
        · rw [if_neg hii, List.count_eq_zero.mpr (by simp [hii])]
      by_cases hii : i = itemId
      · -- it was not cancelled when the transaction read it, so the log has no event of it
        have hzero : log.count (Event.orderItemCancelled i true) = 0 := by
          refine List.count_eq_zero.mpr fun hmem => ?_
          subst hii
          obtain ⟨r, hr, hrc⟩ := h.base_cancelled hag hc.held (Or.inl hmem)
          cases hr
          rcases hc.before with hb | hb | hb <;> rw [hb] at hrc <;> cases hrc
        rw [if_pos hii] at hpend
        omega
      · rw [if_neg hii] at hpend
        omega

end Keeps

lemma stockOutline_sound (offerId : UUID) (start c : ℤ) : (stockOutline offerId start c).Sound where
  keeps _ _ _ hinv hag hs := hs.keeps hinv hag
  relied _ _ _ _ _ _ _ _ _ := trivial

/-! ### The requests settle -/

section Requests

variable {offerId : UUID} {start c : ℤ} {α : Type} {post : α → Db → AppSession → Prop} {st : Db}
  {s : AppSession}

/-- A settled session without changes commits. -/
lemma wp_commit_settled {a : α} (hclean : s.Clean) (hs : Settled offerId s)
    (hpost : ∀ st, post a st ∅) :
    wp (stockOutline offerId start c)
      (Prog.flush.bind fun _ => (.commit (.publish (.pure a)) : Txn α)) post st s :=
  wp_transaction_clean hclean fun _ _ => ⟨hs, fun st' _ => hpost st'⟩

lemma wp_loadOr [Table Row] {k : Key} {row : Option (Row k)} {e : DomainError} {f : Row k → Txn α}
    {o : Outline Row Event} (h : ∀ r, row = some r → wp o (f r) post st s) :
    wp o ((loadOr e row).bind f) post st s := by
  cases row with
  | none => trivial
  | some r => exact h r rfl

lemma wp_loadSellerItem {itemId sellerId : UUID} {f : OrderItem → Txn α}
    {o : Outline Row Event}
    (h : ∀ st' (item : OrderItem) s', o.Finds ∅ st st' → Db.orderItem st' itemId = some item →
      s'.Opened (.orderItem itemId) item → wp o (f item) post st' s') :
    wp o ((loadSellerItem itemId sellerId true).bind f) post st ∅ := by
  rw [loadSellerItem, Prog.bind_eq, Prog.bind_assoc]
  refine wp_scalar_opened (fun v locks hstmt => ?_) (fun _ _ => trivial) h
  simp only [sellerItemStatement] at hstmt
  split at hstmt
  · cases hstmt
  · rename_i item hitem
    split at hstmt
    · cases hstmt
    · split at hstmt
      · cases hstmt
        exact ⟨List.mem_cons_self, item, hitem⟩
      · cases hstmt

lemma wp_loadBuyerItem {itemId buyerId : UUID} {f : OrderItem → Txn α}
    {o : Outline Row Event}
    (h : ∀ st' (item : OrderItem) s', o.Finds ∅ st st' → Db.orderItem st' itemId = some item →
      s'.Opened (.orderItem itemId) item → wp o (f item) post st' s') :
    wp o ((loadBuyerItem itemId buyerId true).bind f) post st ∅ := by
  rw [loadBuyerItem, Prog.bind_eq, Prog.bind_assoc]
  refine wp_scalar_opened (fun v locks hstmt => ?_) (fun _ _ => trivial) h
  simp only [buyerItemStatement] at hstmt
  split at hstmt
  · cases hstmt
  · rename_i item hitem
    split at hstmt
    · cases hstmt
    · split at hstmt
      · cases hstmt
        exact ⟨List.mem_cons_self, item, hitem⟩
      · cases hstmt

lemma wp_loadItemToCancel {itemId : UUID} {user : CurrentUser} {f : OrderItem → Txn α}
    {o : Outline Row Event}
    (h : ∀ st' (item : OrderItem) s', o.Finds ∅ st st' → Db.orderItem st' itemId = some item →
      s'.Opened (.orderItem itemId) item → wp o (f item) post st' s') :
    wp o ((loadItemToCancel itemId user).bind f) post st ∅ := by
  rw [loadItemToCancel]
  split
  · exact wp_loadBuyerItem h
  · exact wp_loadSellerItem h
  · trivial

/-- An item with a new status. -/
def OrderItem.withStatus (item : OrderItem) (status : OrderItemStatus) (now : DateTime) :
    OrderItem :=
  { item with status := status, updatedAt := now, statusUpdatedAt := now }

lemma wp_setStatus {itemId : UUID} {item : OrderItem} {status : OrderItemStatus}
    {f : OrderItem → Txn α} {o : Outline Row Event}
    (hobj : s.objects.lookup (.orderItem itemId) = some ⟨some item, item⟩)
    (h : ∀ st' now, o.Finds s st st' → wp o (f (item.withStatus status now)) post st'
      { s with
        objects := s.objects.insert (.orderItem itemId) ⟨some item, item.withStatus status now⟩ }) :
    wp o ((setStatus itemId item status).bind f) post st s := by
  refine wp_utcnow fun st₁ now hf₁ _ => wp_assign fun st₂ ob hf₂ hob => ?_
  obtain rfl : ob = ⟨some item, item⟩ := Option.some.inj (hob.symm.trans hobj)
  exact h st₂ now.now ⟨o.rely_trans hf₁.rely hf₂.rely, hf₂.inv, hf₂.agrees⟩

/-- What a session looks like after the status of its item was set. -/
lemma tidy_setStatus {itemId : UUID} {item touched : OrderItem}
    (h : s.Opened (.orderItem itemId) item)
    (hmove : StockMove (.orderItem itemId) (some item) (some touched)) :
    Tidy StockMove { s with
      objects := s.objects.insert (.orderItem itemId) ⟨some item, touched⟩ } :=
  (h.tidy stockMove_refl).assign h.object h.carries rfl hmove

/-- A forward transition neither starts nor ends at a cancelled item. -/
lemma forward_ne_cancelled {current target : OrderItemStatus} (h : forward current = some target) :
    current ≠ .cancelled ∧ target ≠ .cancelled := by
  cases current <;> cases h <;> decide

lemma wp_assertForwardTransition {current target : OrderItemStatus} {f : Unit → Txn α}
    {o : Outline Row Event} (h : forward current = some target → wp o (f ()) post st s) :
    wp o ((assertForwardTransition current target).bind f) post st s := by
  rw [assertForwardTransition]
  split
  · trivial
  · rename_i hforward
    exact h (not_not.mp hforward)

lemma wp_requireSeller {user : CurrentUser} {f : UUID → Txn α} {o : Outline Row Event}
    (h : ∀ sellerId, user.sellerId = some sellerId → wp o (f sellerId) post st s) :
    wp o ((requireSeller user).bind f) post st s := by
  rw [requireSeller]
  split
  · rename_i sellerId _ hs
    exact h sellerId hs
  · trivial

theorem wp_updateOrderItemStatus (itemId : UUID) (status : OrderItemStatus)
    (seller : CurrentUser) (st : Db) :
    wp (stockOutline offerId start c) (OrderRequest.updateOrderItemStatus itemId status seller).run
      (fun _ _ _ => True) st ∅ := by
  simp only [OrderRequest.run, Prog.transaction, updateOrderItemStatus, Prog.bind_eq, Prog.pure_eq,
    Prog.bind_assoc]
  refine wp_requireSeller fun sellerId _ => wp_loadSellerItem fun st₁ item s₁ _ _ hopen => ?_
  split
  · -- a repeated request changes nothing
    refine wp_commit_settled hopen.clean ⟨(hopen.tidy stockMove_refl).moves, Or.inl ⟨?_, ?_⟩⟩
      fun _ => trivial
    · rw [← hopen.clean.balance_eq, hopen.balance_eq]
    · simp [hopen.pending]
  · simp only [Prog.bind_assoc]
    refine wp_assertForwardTransition fun hforward => ?_
    obtain ⟨hcur, hnew⟩ := forward_ne_cancelled hforward
    refine wp_setStatus hopen.object fun st₂ now _ => ?_
    have hmove : StockMove (.orderItem itemId) (some item) (some (item.withStatus status now)) := by
      rintro b ⟨⟩
      exact ⟨_, rfl, rfl, rfl, fun h => absurd h hcur⟩
    have hbalance := balance_assign (w := stockWeight offerId) hopen.object
      (item.withStatus status now)
    refine wp_flush_tidy stockMove_refl stockMove_trans (tidy_setStatus hopen hmove)
      fun st₃ s₃ hflushed hclean => ?_
    refine wp_record fun st₄ _ => ?_
    refine wp_commit_settled hclean ⟨hflushed.tidy.moves, Or.inl ⟨?_, ?_⟩⟩ fun _ => trivial
    · -- the quantity counts before and after
      have hw : stockWeight offerId (.orderItem itemId) (item.withStatus status now)
          = stockWeight offerId (.orderItem itemId) item := by
        simp [stockWeight, OrderItem.withStatus, hcur, hnew]
      have hzero := hflushed.balance (stockWeight offerId)
      rw [hclean.balance_eq, hbalance, hopen.balance_eq, hw] at hzero
      simpa using hzero
    · intro e he
      have hpending : s₃.pending = [] := hflushed.pending.trans hopen.pending
      rw [hpending, List.nil_append, List.mem_singleton] at he
      subst he
      show Event.cancels (.orderItemStatusChanged itemId item.status status) = false
      cases status <;> first | rfl | exact absurd rfl hnew

/-- What giving back the stock of an item makes of a session. -/
structure Restored (offerId : UUID) (item : OrderItem) (s s' : AppSession) : Prop where
  tidy : s'.Tidy StockMove
  pending : s'.pending = s.pending
  carries : ∀ itemId base row, s.Carries (.orderItem itemId) base row →
    s'.Carries (.orderItem itemId) base row
  balance : s'.balance (stockWeight offerId) = s.balance (stockWeight offerId)
    + if item.offerId = offerId then (item.quantity : ℤ) else 0

lemma wp_restoreStock {item : OrderItem} {f : Unit → Txn α} (htidy : s.Tidy StockMove)
    (hclean : ∀ o, s.objects.lookup (.offer item.offerId) = some o → o.loaded = some o.cur)
    (h : ∀ st' s', Restored offerId item s s' →
      wp (stockOutline offerId start c) (f ()) post st' s') :
    wp (stockOutline offerId start c) ((restoreStock item).bind f) post st s := by
  refine wp_update (fun st' hf hnone => ?_) fun st' r hf hr _ => ?_
  · -- no such offer, so not the one whose account is kept
    refine h st' _ ⟨htidy.follow stockMove_refl _ _, follow_pending _ _ _ _,
      fun i base row hc => hc.follow_ne (by simp) _ _, ?_⟩
    have hne : item.offerId ≠ offerId := by
      rintro rfl
      obtain ⟨log, hinv⟩ := hf.inv
      obtain ⟨r, hr, -⟩ := hinv.stock
      obtain ⟨r', hr', -⟩ := htidy.moves.merge stockMove_refl hf.agrees (.offer item.offerId) r hr
      exact absurd (hnone r' hr') (by simp)
    rw [balance_follow_of_clean hclean, if_neg hne, add_zero]
  · have hmove : StockMove (.offer item.offerId) ((s.view st').lookup (.offer item.offerId))
        (some { r with stock := r.stock + item.quantity }) := by
      rw [hr]
      rintro b ⟨⟩
      exact ⟨_, rfl, fun hb => by simp only; omega⟩
    refine h st' _ ⟨(htidy.write stockMove_trans hclean hmove).follow stockMove_refl _
      _, ?_, ?_, ?_⟩
    · rw [follow_pending, write_pending]
    · exact fun i base row hc => (hc.write_ne (by simp) _).follow_ne (by simp) _ _
    · rw [balance_follow_of_clean, balance_write, hr]
      · by_cases ho : item.offerId = offerId
        · simp only [stockWeight, weigh_some, ho, if_true]
          ring
        · simp [stockWeight, ho]
      · exact hclean

/-- The end of a cancellation: the change is sent and the events are recorded. -/
lemma wp_cancelled {itemId : UUID} {item : OrderItem} {now : DateTime} {restored : Bool}
    (hrestored : restoresStockOnCancel item.status = restored) (htidy : s.Tidy StockMove)
    (hpending : s.pending = [])
    (hcarries : s.Carries (.orderItem itemId) (some item) (item.withStatus .cancelled now))
    (hbefore : item.status = .placed ∨ item.status = .preparing ∨ item.status = .inTransit)
    (hbalance : s.balance (stockWeight offerId)
      = if item.offerId = offerId ∧ item.status = .inTransit then -(item.quantity : ℤ) else 0) :
    wp (stockOutline offerId start c)
      (Prog.flush.bind fun _ =>
        (Prog.record (.orderItemCancelled itemId restored)).bind fun _ =>
          (Prog.record (.orderItemStatusChanged itemId item.status .cancelled)).bind fun _ =>
            Prog.flush.bind fun _ => (.commit (.publish (.pure ())) : Txn Unit))
      (fun _ _ _ => True) st s := by
  refine wp_flush_tidy stockMove_refl stockMove_trans htidy fun st₁ s₁ hflushed hclean => ?_
  refine wp_record fun st₂ _ => wp_record fun st₃ _ => ?_
  obtain ⟨o, hd, ho, hcur, hhd, hbase, heq⟩ := hflushed.carries _ _ _ hcarries
  have hloaded := hclean _ _ ho
  rw [hcur] at hloaded
  refine wp_commit_settled hclean ⟨hflushed.tidy.moves,
    Or.inr ⟨itemId, item, item.withStatus .cancelled now, ?_, hbefore, rfl, rfl, rfl, ?_, ?_⟩⟩
    fun _ => trivial
  · show s₁.held.lookup _ = _
    rw [hhd, ← hbase, ← hloaded, ← heq]
  · show (s₁.pending ++ [_]) ++ [_] = _
    rw [hflushed.pending, hpending, hrestored]
    rfl
  · rw [← hbalance, ← hflushed.balance, hclean.balance_eq]

theorem wp_cancelOrderItem (itemId : UUID) (user : CurrentUser) (st : Db) :
    wp (stockOutline offerId start c) (OrderRequest.cancelOrderItem itemId user).run
      (fun _ _ _ => True) st ∅ := by
  simp only [OrderRequest.run, Prog.transaction, cancelOrderItem, Prog.bind_eq, Prog.pure_eq,
    Prog.bind_assoc]
  refine wp_loadItemToCancel fun st₁ item s₁ _ _ hopen => ?_
  split
  · -- a repeated cancel changes nothing
    refine wp_commit_settled hopen.clean ⟨(hopen.tidy stockMove_refl).moves, Or.inl ⟨?_, ?_⟩⟩
      fun _ => trivial
    · rw [← hopen.clean.balance_eq, hopen.balance_eq]
    · simp [hopen.pending]
  rename_i hlive
  split
  · trivial
  rename_i hcan
  simp only [Prog.bind_assoc]
  refine wp_setStatus hopen.object fun st₂ now _ => ?_
  have hmove : StockMove (.orderItem itemId) (some item)
      (some (item.withStatus .cancelled now)) := by
    rintro b ⟨⟩
    exact ⟨_, rfl, rfl, rfl, fun _ => rfl⟩
  have htidy := tidy_setStatus hopen hmove
  have hcarries := hopen.carries.assign hopen.object (item.withStatus .cancelled now)
  have hbalance := balance_assign (w := stockWeight offerId) hopen.object
    (item.withStatus .cancelled now)
  have hoff : ∀ o, (AList.insert (Key.orderItem itemId)
      (⟨some item, item.withStatus .cancelled now⟩ : Obj Row (.orderItem itemId))
      s₁.objects).lookup (.offer item.offerId) = some o → o.loaded = some o.cur := by
    intro o ho
    rw [AList.lookup_insert_ne (by simp)] at ho
    exact hopen.clean _ o ho
  -- the units the item held before, and holds no more
  have hzero : stockWeight offerId (.orderItem itemId) (item.withStatus .cancelled now) = 0 := by
    simp [stockWeight, OrderItem.withStatus]
  have hold : stockWeight offerId (.orderItem itemId) item
      = if item.offerId = offerId then (item.quantity : ℤ) else 0 := by
    simp [stockWeight, hlive]
  rw [hopen.balance_eq, hzero, hold] at hbalance
  cases hrestore : restoresStockOnCancel item.status with
  -- the units go back to the offer
  | true =>
      have hbefore : item.status = .placed ∨ item.status = .preparing := by
        simpa [restoresStockOnCancel] using hrestore
      simp only [if_true, Prog.bind_assoc]
      refine wp_restoreStock htidy hoff fun st₃ s₃ hr => ?_
      refine wp_cancelled hrestore hr.tidy (hr.pending.trans hopen.pending)
        (hr.carries _ _ _ hcarries) (hbefore.imp_right Or.inl) ?_
      have hno : item.status ≠ .inTransit := by
        rcases hbefore with h | h <;> rw [h] <;> decide
      rw [hr.balance, hbalance]
      by_cases ho : item.offerId = offerId <;> simp [OrderItem.withStatus, hno, ho]
  -- the item was under way, and its units are lost
  | false =>
      have hbefore : item.status = .inTransit := by
        cases hst : item.status <;> simp_all [restoresStockOnCancel, canCancel]
        cases hrole : user.role <;> simp_all
      simp only [Bool.false_eq_true, if_false, Prog.bind_assoc]
      refine wp_cancelled hrestore htidy hopen.pending hcarries (Or.inr (Or.inr hbefore)) ?_
      rw [hbalance]
      by_cases ho : item.offerId = offerId <;> simp [ho, hbefore]

/-! ### Checkout settles -/

/-- Validation only loads offers. -/
lemma wp_validateItem {item : CheckoutItem} {o : Outline Row Event}
    {f : Option Offer × Option CheckoutRejectedItem → Txn α} (hs : s.Still)
    (h : ∀ st' s' r, s'.Still → wp o (f r) post st' s') :
    wp o ((validateItem item).bind f) post st s := by
  have hanswer : ∀ (offer : Offer) st' s', s'.Still →
      wp o ((if !offer.available then
          (.pure (some offer, some (rejection item .unavailable offer)) : Txn _)
        else if offer.stock < item.quantity then
          .pure (some offer, some (rejection item .insufficientStock offer))
        else if offer.price ≠ item.expectedPrice.decimal then
          .pure (some offer, some (rejection item .priceChanged offer))
        else .pure (some offer, none)).bind f) post st' s' := by
    intro offer st' s' hs'
    split
    · exact h _ _ _ hs'
    · split
      · exact h _ _ _ hs'
      · split
        · exact h _ _ _ hs'
        · exact h _ _ _ hs'
  rw [validateItem, Prog.bind_eq, Prog.bind_assoc]
  exact wp_get (fun st' _ _ _ => h st' s _ hs)
    (fun st' ob _ _ => hanswer ob.cur st' s hs)
    (fun st' r _ _ _ => hanswer r st' _ hs.load)

lemma wp_validateItems {items : List CheckoutItem} {o : Outline Row Event}
    {f : List CheckoutRejectedItem × List (CheckoutItem × Offer) → Txn α} (hs : s.Still)
    (h : ∀ st' s' r, s'.Still → wp o (f r) post st' s') :
    wp o ((validateItems items).bind f) post st s := by
  induction items generalizing f st s with
  | nil => exact h _ _ _ hs
  | cons item items ih =>
      rw [validateItems, Prog.bind_eq, Prog.bind_assoc]
      refine wp_validateItem hs fun st₁ s₁ r hs₁ => ?_
      obtain ⟨offer, problem⟩ := r
      simp only [Prog.bind_eq, Prog.bind_assoc]
      refine ih hs₁ fun st₂ s₂ r hs₂ => ?_
      obtain ⟨problems, validItems⟩ := r
      split <;> exact h _ _ _ hs₂

/-- A checkout between two of its lines: what it has taken is what its new items
hold. -/
structure Selling (offerId : UUID) (s : AppSession) : Prop where
  tidy : s.Tidy StockMove
  pending : s.pending = []
  offers : ∀ id o, s.objects.lookup (.offer id) = some o → o.loaded = some o.cur
  balance : s.balance (stockWeight offerId) = 0

/-- A new order item holds the quantity of its line. -/
lemma wp_newOrderItem {orderId : UUID} {line : ℕ} {item : CheckoutItem} {offer : Offer}
    {f : Unit → Txn α} {o : Outline Row Event} (htidy : s.Tidy StockMove)
    (hpending : s.pending = [])
    (hoffers : ∀ id o, s.objects.lookup (.offer id) = some o → o.loaded = some o.cur)
    (hbalance : s.balance (stockWeight offerId)
      = -(if item.offerId = offerId then (item.quantity : ℤ) else 0))
    (h : ∀ st' s', Selling offerId s' → wp o (f ()) post st' s') :
    wp o ((newOrderItem orderId line item offer).bind f) post st s := by
  simp only [newOrderItem, Prog.bind_eq, Prog.bind_assoc]
  refine wp_uuid4 fun _ id _ => wp_utcnow fun _ createdAt _ _ => wp_utcnow fun _ updatedAt _ _ =>
    wp_utcnow fun _ statusUpdatedAt _ _ => wp_add fun st₁ _ hfresh => ?_
  refine h st₁ _ ⟨htidy.add fun b hb => (by cases hb), hpending, fun id o ho => ?_, ?_⟩
  · rw [AList.lookup_insert_ne (by simp)] at ho
    exact hoffers id o ho
  · rw [balance_add hfresh, hbalance]
    by_cases ho : item.offerId = offerId <;> simp [stockWeight, ho]

/-- The consuming loop keeps the account in balance. -/
lemma wp_consumeItems {orderId : UUID} {line : ℕ} {validItems : List (CheckoutItem × Offer)}
    {f : Unit → Txn α} {o : Outline Row Event} (hs : Selling offerId s)
    (h : ∀ st' s', Selling offerId s' → wp o (f ()) post st' s') :
    wp o ((consumeItems orderId line validItems).bind f) post st s := by
  induction validItems generalizing line st s with
  | nil => exact h st s hs
  | cons validItem validItems ih =>
      obtain ⟨item, offer⟩ := validItem
      simp only [consumeItems, Prog.bind_eq, Prog.bind_assoc]
      refine wp_update (fun st₁ _ _ => ?_) fun st₁ r _ hr hm => ?_
      · -- the checkout is rejected
        exact wp_refresh fun _ _ _ _ _ _ _ _ _ _ _ _ => trivial
      · simp only [Bool.and_eq_true, decide_eq_true_eq] at hm
        have hclean := hs.offers item.offerId
        have hmove : StockMove (.offer item.offerId) ((s.view st₁).lookup (.offer item.offerId))
            (some { r with stock := r.stock - item.quantity }) := by
          rw [hr]
          rintro b ⟨⟩
          exact ⟨_, rfl, fun _ => by simp only; omega⟩
        refine wp_newOrderItem
          ((hs.tidy.write stockMove_trans hclean hmove).follow stockMove_refl _ _) ?_ ?_ ?_
          fun st₂ s₂ hs₂ => ih hs₂
        · rw [follow_pending, write_pending, hs.pending]
        · exact fun id o ho => (lookup_follow_cases ho).elim (fun h => h) (hs.offers id o)
        · rw [balance_follow_of_clean, balance_write, hr, hs.balance]
          · by_cases ho : item.offerId = offerId <;> simp [stockWeight, ho]
          · exact hclean

lemma Selling.flushed {s' : AppSession} (hs : Selling offerId s) (h : s.FlushedTo StockMove s')
    (hclean : s'.Clean) : Selling offerId s' where
  tidy := h.tidy
  pending := h.pending.trans hs.pending
  offers _ o ho := hclean _ o ho
  balance := (h.balance _).trans hs.balance

lemma wp_newOrder (offerId : UUID) {buyerId : UUID} {f : UUID → Txn α} {o : Outline Row Event}
    (hs : s.Still) (h : ∀ st' s' id, Selling offerId s' → wp o (f id) post st' s') :
    wp o ((newOrder buyerId).bind f) post st s := by
  simp only [newOrder, Prog.bind_eq, Prog.pure_eq, Prog.bind_assoc]
  refine wp_uuid4 fun _ id _ => wp_uuid4 fun _ number _ => wp_utcnow fun _ createdAt _ _ =>
    wp_utcnow fun _ updatedAt _ _ => wp_add fun st₁ _ hfresh => ?_
  refine h st₁ _ id ⟨(hs.tidy stockMove_refl).add trivial, hs.pending, fun i ob hob => ?_, ?_⟩
  · rw [AList.lookup_insert_ne (by simp)] at hob
    exact hs.clean _ ob hob
  · rw [balance_add hfresh, hs.balance_eq]
    rfl

/-- A checkout that goes through has taken what its items hold. -/
lemma wp_checkout (offerId : UUID) {buyerId : UUID} {payload : CheckoutRequest} {f : UUID → Txn α}
    {o : Outline Row Event}
    (h : ∀ st' s' orderId, s'.Clean → s'.Moves StockMove → s'.balance (stockWeight offerId) = 0 →
      s'.pending = [.orderCreated orderId buyerId] → wp o (f orderId) post st' s') :
    wp o ((checkout buyerId payload).bind f) post st ∅ := by
  simp only [checkout, Prog.bind_eq, Prog.pure_eq, Prog.bind_assoc]
  refine wp_validateItems still_empty fun st₁ s₁ r hs₁ => ?_
  obtain ⟨problems, validItems⟩ := r
  split
  · trivial
  · simp only [Prog.bind_assoc]
    refine wp_newOrder offerId hs₁ fun st₂ s₂ orderId hs₂ => ?_
    refine wp_flush_tidy stockMove_refl stockMove_trans hs₂.tidy fun st₃ s₃ hfl₃ hclean₃ => ?_
    refine wp_consumeItems (hs₂.flushed hfl₃ hclean₃) fun st₄ s₄ hs₄ => ?_
    refine wp_flush_tidy stockMove_refl stockMove_trans hs₄.tidy fun st₅ s₅ hfl₅ hclean₅ => ?_
    have hs₅ := hs₄.flushed hfl₅ hclean₅
    refine wp_refresh fun st₆ r _ _ => wp_record fun st₇ _ => ?_
    refine h st₇ _ orderId (hclean₅.sync r) (hs₅.tidy.sync stockMove_refl r).moves ?_ ?_
    · exact (balance_sync_of_clean (hclean₅ _) r).trans hs₅.balance
    · show s₅.pending ++ [_] = _
      rw [hs₅.pending, List.nil_append]

theorem wp_createOrder (payload : CheckoutRequest) (buyer : CurrentUser) (st : Db) :
    wp (stockOutline offerId start c) (OrderRequest.createOrder payload buyer).run
      (fun _ _ _ => True) st ∅ := by
  simp only [OrderRequest.run, Prog.transaction, createOrder, Prog.bind_eq, Prog.pure_eq,
    Prog.bind_assoc, requireBuyer]
  split
  · refine wp_checkout offerId fun st₁ s₁ orderId hclean hmoves hbalance hpending => ?_
    refine wp_select fun st₂ _ => wp_attrs fun st₃ _ => wp_loadOr fun order _ => ?_
    refine wp_commit_settled (hclean.loads _ _) ⟨?_, Or.inl ⟨?_, ?_⟩⟩ fun _ => trivial
    · exact hmoves.of_held_eq (foldl_load_held _ _ _)
    · rw [foldl_load_held, ← hclean.balance_eq, hbalance]
    · rw [foldl_load_pending, hpending]
      simp [Event.cancels]
  · trivial

end Requests

/-! ### All interleavings -/

/-- An order item still holds stock: it is not cancelled, or was cancelled in
transit. -/
def holdsStock (log : List Event) (itemId : UUID) (item : OrderItem) : Prop :=
  item.status ≠ .cancelled ∨ lostEvent itemId ∈ log

instance (log : List Event) (itemId : UUID) (item : OrderItem) :
    Decidable (holdsStock log itemId item) :=
  inferInstanceAs (Decidable (_ ∨ _))

/-- The quantity that one order item holds of the stock of an offer. -/
def itemHolds (offerId : UUID) (log : List Event) (itemId : UUID) (item : OrderItem) : ℤ :=
  if item.offerId = offerId ∧ holdsStock log itemId item then item.quantity else 0

/-- The quantities held by the order items of an offer. -/
def heldQuantity (offerId : UUID) (log : List Event) (st : Db) : ℤ :=
  ((Db.orderItems st).map fun item => itemHolds offerId log item.1 item.2).sum

/-- The stock of one offer, as a weight of rows. -/
def offerStock (offerId : UUID) : (k : Key) → Row k → ℤ
  | .offer id, r => if id = offerId then r.stock else 0
  | _, _ => 0

/-- The stock of an offer, none if there is no such offer. -/
def stockOf (offerId : UUID) (st : Db) : ℤ := (Db.offer st offerId).elim 0 Offer.stock

lemma total_offerStock (offerId : UUID) (st : Db) :
    total (offerStock offerId) st = stockOf offerId st := by
  rw [total_eq_weigh (k := .offer offerId), stockOf, Db.offer]
  · cases st.lookup (.offer offerId) <;> simp [offerStock]
  · intro k r hne hk
    cases k with
    | offer id =>
        have hid : id ≠ offerId := fun h => hne (by rw [h])
        simp [offerStock, hid]
    | _ => rfl

/-- The account of an offer is its stock plus the quantities its items hold. -/
lemma account_eq (offerId : UUID) (log : List Event) (st : Db) :
    total (stockWeight offerId) st + total (lostWeight offerId log) st
      = stockOf offerId st + heldQuantity offerId log st := by
  have hsplit : ∀ (k : Key) (r : Row k), stockWeight offerId k r + lostWeight offerId log k r
      = offerStock offerId k r + itemWeight (itemHolds offerId log) k r := by
    intro k r
    cases k with
    | orderItem id =>
        by_cases ho : r.offerId = offerId <;> by_cases hc : r.status = .cancelled <;>
          simp [stockWeight, lostWeight, offerStock, itemWeight, itemHolds, holdsStock, ho, hc]
    | _ => simp [stockWeight, lostWeight, offerStock, itemWeight]
  rw [← total_add, total_congr fun k r _ => hsplit k r, total_add, total_offerStock,
    ← sum_orderItems]
  rfl

/-- Every order request settles, whatever the others do. -/
lemma wp_orderRequest {offerId : UUID} {start c : ℤ} (r : OrderRequest) (st : Db) :
    wp (stockOutline offerId start c) r.run (fun _ _ _ => True) st ∅ := by
  cases r with
  | createOrder payload buyer => exact wp_createOrder payload buyer st
  | updateOrderItemStatus itemId status seller =>
      exact wp_updateOrderItemStatus itemId status seller st
  | cancelOrderItem itemId user => exact wp_cancelOrderItem itemId user st

/-- The programs of order requests. -/
def IsOrderRequest (p : Txn Unit) : Prop := ∃ r : OrderRequest, p = r.run

/-- The invariant of the account in every reachable state. -/
lemma stockInv_of_reachable {st₀ : Db} {s : Sys Row Event DomainError Unit} {offerId : UUID}
    {r₀ : Offer} (hr₀ : Db.offer st₀ offerId = some r₀)
    (h : Reachable IsOrderRequest (fun _ _ => True) (Sys.rest st₀) s) :
    StockInv offerId r₀.stock (r₀.stock + heldQuantity offerId [] st₀) s.committed s.log := by
  have hok : s.Ok (stockOutline offerId r₀.stock (r₀.stock + heldQuantity offerId [] st₀))
      (fun _ _ _ => True) := by
    refine h.ok (stockOutline_sound offerId _ _) ?_ ?_ ?_
    · have haccount := account_eq offerId [] st₀
      rw [stockOf, hr₀] at haccount
      exact ⟨⟨r₀, hr₀, id⟩, haccount, by simp, by simp⟩
    · rintro p ⟨r, rfl⟩ st log -
      exact wp_orderRequest r st
    · intros
      trivial
  exact hok.inv

/-- **Stock is conserved.** Whatever order requests run, in whatever interleaving and
with whatever of them aborted: every offer keeps a stock that is not negative, its
stock plus the quantities its items hold is what it was at the start, and no item
gives its quantity back twice. -/
theorem stock_conserved {st₀ : Db} {s : Sys Row Event DomainError Unit}
    (hpos : ∀ offerId r, Db.offer st₀ offerId = some r → 0 ≤ r.stock)
    (h : Reachable IsOrderRequest (fun _ _ => True) (Sys.rest st₀) s) :
    ∀ offerId r₀, Db.offer st₀ offerId = some r₀ →
      (∃ r : Offer, Db.offer s.committed offerId = some r ∧ 0 ≤ r.stock
        ∧ r.stock + heldQuantity offerId s.log s.committed
          = r₀.stock + heldQuantity offerId [] st₀)
      ∧ ∀ itemId, s.log.count (.orderItemCancelled itemId true) ≤ 1 := by
  intro offerId r₀ hr₀
  have hinv := stockInv_of_reachable hr₀ h
  obtain ⟨r, hr, hstock⟩ := hinv.stock
  have haccount := account_eq offerId s.log s.committed
  rw [hinv.account, stockOf, hr] at haccount
  exact ⟨⟨r, hr, hstock (hpos offerId r₀ hr₀), haccount.symm⟩, hinv.once⟩

/-! ### A run -/

/-- A shop with one offer: five mugs at 10.00. -/
def mugShop : Db :=
  (((∅ : Db).insert (.seller 1) (⟨"Loja"⟩ : Seller)).insert (.product 2)
    (⟨"Caneca", none⟩ : Product)).insert (.offer 3) (⟨2, 1, 1000, 5, true⟩ : Offer)

lemma ten_ne_nil : ([1, 0] : List (Fin 10)) ≠ [] := by decide

lemma one_le_two_mugs : 1 ≤ 2 := one_le_two

/-- A checkout of some of the mugs. -/
def mugCheckout (quantity : ℕ) (h : 1 ≤ quantity) : CheckoutRequest where
  items := [⟨3, quantity, ⟨[1, 0], 0, 0, ten_ne_nil⟩, h⟩]
  items_ne_nil := List.cons_ne_nil _ _
  unique_offer_ids := List.nodup_singleton _

/-- A buyer of mugs. -/
def mugBuyer : CurrentUser := ⟨7, .buyer, none⟩

/-- Two checkouts take turns: both validate, the first takes two mugs and commits, the
second takes three and is aborted; then the buyer cancels the item of the first one. -/
def mugRun : List (Action Row Event DomainError Unit) :=
  [.start 0 (OrderRequest.createOrder (mugCheckout 2 one_le_two_mugs) mugBuyer).run,
    .start 1 (OrderRequest.createOrder (mugCheckout 3 (by decide)) mugBuyer).run]
  ++ Action.steps 0 2 100 ++ Action.steps 1 2 200 ++ Action.steps 0 23 102
  ++ Action.steps 1 10 202 ++ [.abort 1,
    .start 2 (OrderRequest.cancelOrderItem 111 mugBuyer).run] ++ Action.steps 2 12 300

lemma mugShop_stock (offerId : UUID) (r : Offer) (hr : Db.offer mugShop offerId = some r) :
    0 ≤ r.stock := by
  by_cases h : offerId = 3
  · subst h
    cases hr
    decide
  · simp [Db.offer, mugShop, AList.lookup_insert_ne, -AList.insert_empty, h] at hr

lemma mugRun_starts : ∀ a ∈ mugRun, a.Starts IsOrderRequest := by
  intro a ha
  simp only [mugRun, List.mem_append, List.mem_cons, List.not_mem_nil, or_false] at ha
  rcases ha with ((((((rfl | rfl) | h) | h) | h) | h) | rfl | rfl) | h
  · exact ⟨_, rfl⟩
  · exact ⟨_, rfl⟩
  · exact Action.starts_of_mem_steps h
  · exact Action.starts_of_mem_steps h
  · exact Action.starts_of_mem_steps h
  · exact Action.starts_of_mem_steps h
  · trivial
  · exact ⟨_, rfl⟩
  · exact Action.starts_of_mem_steps h

theorem stock_conserved_mugs : ∃ s, Sys.run mugRun (Sys.rest mugShop) = some s
    ∧ ∃ r : Offer, Db.offer s.committed 3 = some r ∧ 0 ≤ r.stock
      ∧ r.stock + heldQuantity 3 s.log s.committed = 5 + heldQuantity 3 [] mugShop := by
  obtain ⟨s, hs⟩ := Option.isSome_iff_exists.mp
    (by decide +kernel : (Sys.run mugRun (Sys.rest mugShop)).isSome = true)
  exact ⟨s, hs, (stock_conserved mugShop_stock
    (reachable_of_run (fun _ _ => trivial) .init mugRun_starts hs) 3 _ rfl).1⟩

end MarketHub
