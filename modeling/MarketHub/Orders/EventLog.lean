import MarketHub.Atomic

/-!
The event log of order items.

Order requests run one after another. `statusChanges` and `cancellations` read off the
published events what happened to one item.

* `ItemStory`: the status of an item is where its status changes lead, and every
  cancellation says rightly whether it gave the stock back. `ItemStory.step` is the step
  lemma.
* `FaithfulTurn`: what one request does to the log. A refused request and one that asks for
  what is already so do nothing.
* `event_log_faithful`: the log after a run tells the status of every item and the stock of
  every offer.
-/

namespace MarketHub

open ReadCommitted Session

/-! ### Reading the log -/

/-- The changes of the status of one item, in the order of their events. -/
def statusChanges (itemId : UUID) (events : List Event) :
    List (OrderItemStatus × OrderItemStatus) :=
  events.filterMap fun
    | .orderItemStatusChanged id before after => if id = itemId then some (before, after) else none
    | _ => none

/-- What the cancellations of one item say about its stock (`restored_stock`). -/
def cancellations (itemId : UUID) (events : List Event) : List Bool :=
  events.filterMap fun
    | .orderItemCancelled id restored => if id = itemId then some restored else none
    | _ => none

/-- One step of a status: forward, or to `cancelled` from where some user may cancel. -/
def StatusStep (before after : OrderItemStatus) : Prop :=
  forward before = some after ∨ after = .cancelled ∧ ∃ role, canCancel before role = true

/-- The steps to `cancelled`. -/
def cancels (changes : List (OrderItemStatus × OrderItemStatus)) :
    List (OrderItemStatus × OrderItemStatus) :=
  changes.filter fun step => step.2 = .cancelled

section Reading

variable {i : UUID} {events events' : List Event}

lemma statusChanges_append :
    statusChanges i (events ++ events') = statusChanges i events ++ statusChanges i events' :=
  List.filterMap_append

lemma cancellations_append :
    cancellations i (events ++ events') = cancellations i events ++ cancellations i events' :=
  List.filterMap_append

variable (i events) in
/-- The events about an item tell its status changes. -/
lemma statusChanges_concerned :
    statusChanges i (events.filter (Event.concernsItem i)) = statusChanges i events := by
  rw [statusChanges, statusChanges, List.filterMap_filter]
  refine List.filterMap_congr fun e _ => ?_
  cases e <;> simp [Event.concernsItem]

variable (i events) in
lemma cancellations_concerned :
    cancellations i (events.filter (Event.concernsItem i)) = cancellations i events := by
  rw [cancellations, cancellations, List.filterMap_filter]
  refine List.filterMap_congr fun e _ => ?_
  cases e <;> simp [Event.concernsItem]

lemma mem_statusChanges {before after : OrderItemStatus} :
    (before, after) ∈ statusChanges i events
      ↔ .orderItemStatusChanged i before after ∈ events := by
  rw [statusChanges, List.mem_filterMap]
  constructor
  · rintro ⟨e, he, hstep⟩
    cases e <;> simp at hstep
    obtain ⟨rfl, rfl, rfl⟩ := hstep
    exact he
  · intro h
    exact ⟨_, h, by simp⟩

lemma mem_cancellations {restored : Bool} :
    restored ∈ cancellations i events ↔ .orderItemCancelled i restored ∈ events := by
  rw [cancellations, List.mem_filterMap]
  constructor
  · rintro ⟨e, he, hstep⟩
    cases e <;> simp at hstep
    obtain ⟨rfl, rfl⟩ := hstep
    exact he
  · intro h
    exact ⟨_, h, by simp⟩

end Reading

/-! ### The path of a status -/

section Path

variable {a b : OrderItemStatus} {l l' : List (OrderItemStatus × OrderItemStatus)}

/-- A delivered or cancelled item has no next status. -/
lemma no_statusStep (h : a = .delivered ∨ a = .cancelled) : ∀ x, ¬ StatusStep a x := by
  rintro x (hforward | ⟨-, role, hcancel⟩)
  · rcases h with rfl | rfl <;> cases hforward
  · rcases h with rfl | rfl <;> cases role <;> simp [canCancel] at hcancel

/-- Nothing follows the step to `delivered` or `cancelled`. -/
lemma trail_last {step : OrderItemStatus × OrderItemStatus}
    (h : Trail StatusStep a (l ++ step :: l') b) (hstep : step.2 = .delivered
      ∨ step.2 = .cancelled) :
    l' = [] := by
  obtain ⟨x, -, -, -, hrest⟩ := h.split
  exact (hrest.eq_nil (no_statusStep hstep)).1

/-- On the way to another status nothing was cancelled. -/
lemma cancels_eq_nil (h : Trail StatusStep a l b) (hb : b ≠ .cancelled) : cancels l = [] := by
  refine List.filter_eq_nil_iff.mpr fun step hmem hcancel => hb ?_
  obtain ⟨l₁, l₂, rfl⟩ := List.append_of_mem hmem
  have hstep : step.2 = .cancelled := of_decide_eq_true hcancel
  obtain ⟨x, -, -, -, hrest⟩ := h.split
  exact (hrest.eq_nil (no_statusStep (Or.inr hstep))).2.trans hstep

/-- The way to `cancelled` has one step to it, the last one. -/
lemma cancels_eq_singleton (h : Trail StatusStep a l .cancelled) (ha : a ≠ .cancelled) :
    ∃ before, cancels l = [(before, .cancelled)] ∧ ∃ role, canCancel before role = true := by
  induction l generalizing a with
  | nil => exact absurd h ha
  | cons step l ih =>
      obtain ⟨rfl, hstep, hrest⟩ := h
      by_cases hcancel : step.2 = .cancelled
      · obtain ⟨rfl, -⟩ := hrest.eq_nil (no_statusStep (Or.inr hcancel))
        rcases hstep with hforward | ⟨-, hrole⟩
        · exact absurd hcancel (forward_ne_cancelled hforward).2
        · exact ⟨step.1, by simp [cancels, hcancel, Prod.ext_iff], hrole⟩
      · obtain ⟨before, hl, hrole⟩ := ih hrest hcancel
        refine ⟨before, ?_, hrole⟩
        rw [← hl]
        simp [cancels, hcancel]

/-- Only from transit a cancellation keeps the stock. -/
lemma restoresStock_iff {before : OrderItemStatus} {role : UserRole}
    (h : canCancel before role = true) :
    restoresStockOnCancel before = true ↔ before ≠ .inTransit := by
  cases before <;> cases role <;> simp_all [canCancel, restoresStockOnCancel]

end Path

/-! ### The story of an item -/

/-- The status an item starts from: its status in the first database, or `placed`. -/
def startStatus (b₀ : Option OrderItem) : OrderItemStatus := b₀.elim .placed OrderItem.status

/-- What the log says about an item that was `b₀` in the first database and is `b` now. -/
structure ItemStory (i : UUID) (b₀ b : Option OrderItem) (log : List Event) : Prop where
  replays : ∀ r, b = some r → Trail StatusStep (startStatus b₀) (statusChanges i log) r.status
  unknown : b = none → b₀ = none ∧ statusChanges i log = []
  same : ∀ r₀, b₀ = some r₀ →
    ∃ r, b = some r ∧ r.offerId = r₀.offerId ∧ r.quantity = r₀.quantity
  cancelled : cancellations i log
    = (cancels (statusChanges i log)).map fun step => restoresStockOnCancel step.1

section Story

variable {i : UUID} {b₀ b b' : Option OrderItem} {log events : List Event}

lemma itemStory_nil : ItemStory i b₀ b₀ [] where
  replays r hr := by
    subst hr
    exact trail_nil
  unknown h := ⟨h, rfl⟩
  same r₀ h := ⟨r₀, h, rfl, rfl⟩
  cancelled := rfl

/-- A row that is there and keeps its offer and its quantity. -/
lemma ItemStory.same_of {b c : OrderItem} (h : ItemStory i b₀ (some b) log)
    (hoffer : c.offerId = b.offerId) (hquantity : c.quantity = b.quantity) :
    ∀ r₀, b₀ = some r₀ →
      ∃ r, some c = some r ∧ r.offerId = r₀.offerId ∧ r.quantity = r₀.quantity := by
  intro r₀ hr₀
  obtain ⟨r, hr, ho, hq⟩ := h.same r₀ hr₀
  cases hr
  exact ⟨c, rfl, hoffer.trans ho, hquantity.trans hq⟩

/-- A deed that steps from one status to another, with its events. -/
lemma ItemStory.changes {b c : OrderItem} (h : ItemStory i b₀ (some b) log)
    (hchanges : statusChanges i events = [(b.status, c.status)])
    (hstep : StatusStep b.status c.status)
    (hcancelled : cancellations i events
      = (cancels [(b.status, c.status)]).map fun step => restoresStockOnCancel step.1)
    (hoffer : c.offerId = b.offerId) (hquantity : c.quantity = b.quantity) :
    ItemStory i b₀ (some c) (log ++ events) where
  replays r hr := by
    cases hr
    rw [statusChanges_append, hchanges]
    exact (h.replays b rfl).append (trail_single hstep)
  unknown hnone := by cases hnone
  same := h.same_of hoffer hquantity
  cancelled := by
    rw [cancellations_append, statusChanges_append, hchanges, hcancelled, h.cancelled, cancels,
      cancels, cancels, List.filter_append, List.map_append]

/-- **A deed continues the story of an item.** -/
theorem ItemStory.step {T : Terms} (h : ItemStory i b₀ b log)
    (hdeed : ItemDeed T i b b' (events.filter (Event.concernsItem i)))
    (hby : ∀ before, .orderItemStatusChanged i before .cancelled ∈ events →
      ∃ role, canCancel before role = true) :
    ItemStory i b₀ b' (log ++ events) := by
  have hchanges := statusChanges_concerned i events
  have hcancellations := cancellations_concerned i events
  generalize events.filter (Event.concernsItem i) = l at hdeed hchanges hcancellations
  cases hdeed with
  -- the events of the transaction on this item are those of its deed
  | nothing =>
      have hnone : statusChanges i (log ++ events) = statusChanges i log := by
        rw [statusChanges_append, ← hchanges]
        exact List.append_nil _
      have hnone' : cancellations i (log ++ events) = cancellations i log := by
        rw [cancellations_append, ← hcancellations]
        exact List.append_nil _
      exact ⟨by rw [hnone]; exact h.replays, by rw [hnone]; exact h.unknown, h.same,
        by rw [hnone, hnone']; exact h.cancelled⟩
  | @ordered r hplaced =>
      obtain ⟨hb₀, hlog⟩ := h.unknown rfl
      have hnone : statusChanges i (log ++ events) = [] := by
        rw [statusChanges_append, hlog, ← hchanges]
        rfl
      have hnone' : cancellations i (log ++ events) = [] := by
        rw [cancellations_append, h.cancelled, hlog, ← hcancellations]
        rfl
      refine ⟨fun r' hr' => ?_, fun hr' => (by cases hr'), fun r₀ hr₀ => ?_, ?_⟩
      · cases hr'
        rw [hnone, hb₀, hplaced]
        exact trail_nil
      · rw [hb₀] at hr₀
        cases hr₀
      · rw [hnone, hnone']
        rfl
  | @advanced b status now hclock hforward =>
      have hstep : statusChanges i events = [(b.status, status)] := by
        rw [← hchanges]
        simp [statusChanges]
      refine h.changes (c := b.withStatus status now) hstep (Or.inl hforward) ?_ rfl rfl
      rw [← hcancellations]
      have hne := (forward_ne_cancelled hforward).2
      simp [cancellations, cancels, OrderItem.withStatus, hne]
  | @cancelled b now hclock hlive =>
      have hstep : statusChanges i events = [(b.status, .cancelled)] := by
        rw [← hchanges]
        simp [statusChanges]
      have hrole := hby b.status (mem_statusChanges.mp (by rw [hstep]; simp))
      refine h.changes (c := b.withStatus .cancelled now) hstep (Or.inr ⟨rfl, hrole⟩) ?_ rfl rfl
      rw [← hcancellations]
      simp [cancellations, cancels, OrderItem.withStatus]

end Story

/-! ### Turns -/

/-- A request that asks for what is already so: the status an item has, or the cancellation
of a cancelled item. -/
def OrderRequest.Idle (v : Db) : OrderRequest → Prop
  | .createOrder _ _ => False
  | .updateOrderItemStatus itemId status _ =>
      ∃ item : OrderItem, Db.orderItem v itemId = some item ∧ item.status = status
  | .cancelOrderItem itemId _ =>
      ∃ item : OrderItem, Db.orderItem v itemId = some item ∧ item.status = .cancelled

/-- The result of a turn for its user. -/
def turnResult (x : Db × List Event) (turn : Turn OrderRequest) :
    Except (Failure DomainError) Unit :=
  (exec turn.choices turn.request.run 0 x.1 x.2 ∅).result

/-- Nothing was stored and nothing published. -/
def Unchanged (x y : Db × List Event) : Prop := (∀ k, y.1.lookup k = x.1.lookup k) ∧ y.2 = x.2

/-- What one request has done that turned `x` into `y`: it has published events, of
cancellations only those it may make, and a refused or idle request has done nothing. -/
structure FaithfulTurn (turn : Turn OrderRequest) (x y : Db × List Event) : Prop where
  publishes : ∃ events, y.2 = x.2 ++ events ∧ CancelledBy turn.request events
  refused : ∀ e, turnResult x turn = .error e → y = x
  idle : turn.request.Idle x.1 → Unchanged x y

section Turns

variable {o : Outline Row Event} {post : Unit → Db → AppSession → Prop} {st : Db} {T : Terms}
  {settings : Settings}

lemma cancelledBy_of_quiet {s : AppSession} (h : Quiet s) (r : OrderRequest) :
    CancelledBy r s.pending := by
  intro i before hmem
  have helsewhere := (h.pending _ hmem).2 i
  simp [Event.concernsItem] at helsewhere

/-- Every order request does a deed, and cancels only what it may. -/
lemma wp_orderRequest_by (hT : Tells o T) (r : OrderRequest)
    (hdid : ∀ st s, Did T settings st s → CancelledBy r s.pending → o.commit st s)
    (hpost : ∀ a st, post a st ∅) : wp o r.run post st ∅ := by
  cases r with
  | createOrder payload buyer =>
      rw [OrderRequest.run, transaction_ignore]
      exact wp_quiet (fun st s hs hag => hdid st s (hs.deeds hag) (cancelledBy_of_quiet hs _)) hpost
        (allOps_createOrder payload buyer)
  | updateOrderItemStatus i status seller =>
      rw [OrderRequest.run, transaction_ignore]
      exact wp_advance hT status seller hdid hpost _
  | cancelOrderItem i user =>
      rw [OrderRequest.run, transaction_ignore]
      exact wp_cancel hT user hdid hpost _

/-- What an order request commits that runs alone. -/
def Commits (r : OrderRequest) (st : Db) (s : AppSession) : Prop :=
  Did serialTerms {} st s ∧ CancelledBy r s.pending

/-- An order request that runs alone is undone, or commits once. -/
lemma OrderRequest.settles (r : OrderRequest) (cs : ℕ → Choice) (n : ℕ) (st : Db)
    (log : List Event) : (exec cs r.run n st log ∅).Settles (Commits r) st log := by
  obtain ⟨β, body, g, hrun, hbody⟩ :=
    ServiceRequest.run_single {} (r := .order r) (by trivial)
  change r.run = _ at hrun
  have hwp : wp (Outline.serial Row Event (Commits r)) r.run (fun _ _ _ => True) st ∅ :=
    wp_orderRequest_by (serial_tells _) r (fun _ _ h hby => ⟨h, hby⟩) fun _ _ => trivial
  rw [hrun] at hwp ⊢
  exact exec_transaction hbody.uncommitted hwp

/-- A session that ends with nothing but reads. -/
def Reads (_ : Db) (s : AppSession) : Prop :=
  s.pending = [] ∧ ∀ k h, s.held.lookup k = some h → h.cur = h.base

/-- The end of a request that only read. -/
lemma wp_finish_reads {a : Unit} {s : AppSession} (hs : s.Still) :
    wp (Outline.serial Row Event Reads)
      (Prog.flush.bind fun _ => (.commit (.publish (.pure a)) : Txn Unit))
      (fun _ _ _ => True) st s :=
  wp_transaction_clean hs.clean fun _ _ => ⟨⟨hs.pending, hs.unmoved⟩, fun _ _ => trivial⟩

/-- An idle request only reads. -/
lemma wp_idle {r : OrderRequest} (h : r.Idle st) :
    wp (Outline.serial Row Event Reads) r.run (fun _ _ _ => True) st ∅ := by
  cases r with
  | createOrder payload buyer => exact h.elim
  | updateOrderItemStatus i status seller =>
      obtain ⟨item₀, hitem₀, hstatus⟩ := h
      rw [OrderRequest.run, transaction_ignore]
      simp only [ending, updateOrderItemStatus, Prog.bind_eq, Prog.pure_eq, Prog.bind_assoc]
      refine wp_requireSeller fun sellerId _ => wp_loadSellerItem fun st₁ item s₁ hf hitem hs => ?_
      obtain rfl : st₁ = st := hf.rely
      obtain rfl : item₀ = item := Option.some.inj (hitem₀.symm.trans hitem)
      rw [if_pos hstatus.symm]
      exact wp_finish_reads hs.toStill
  | cancelOrderItem i user =>
      obtain ⟨item₀, hitem₀, hstatus⟩ := h
      rw [OrderRequest.run, transaction_ignore]
      simp only [ending, cancelOrderItem, Prog.bind_eq, Prog.pure_eq, Prog.bind_assoc]
      refine wp_loadItemToCancel fun st₁ item s₁ hf hitem hs => ?_
      obtain rfl : st₁ = st := hf.rely
      obtain rfl : item₀ = item := Option.some.inj (hitem₀.symm.trans hitem)
      rw [if_pos hstatus]
      exact wp_finish_reads hs.toStill

/-- An idle request changes nothing. -/
lemma unchanged_of_idle {x : Db × List Event} {turn : Turn OrderRequest}
    (h : turn.request.Idle x.1) : Unchanged x (takeTurn OrderRequest.run x turn) := by
  obtain ⟨β, body, g, hrun, hbody⟩ :=
    ServiceRequest.run_single {} (r := .order turn.request) (by trivial)
  change turn.request.run = _ at hrun
  have hwp := wp_idle h
  rw [hrun] at hwp
  have hsettles : (exec turn.choices _ 0 x.1 x.2 ∅).Settles Reads x.1 x.2 :=
    exec_transaction hbody.uncommitted hwp
  rw [← ending, ← hrun] at hsettles
  rw [takeTurn, Unchanged]
  cases hsettles with
  | undone hresult hstore hlog => exact ⟨fun k => by rw [hstore], hlog⟩
  | @committed a s hresult hag hreads hstore hlog =>
      obtain ⟨hpending, hunmoved⟩ := hreads
      refine ⟨fun k => ?_, by rw [hlog, hpending, List.append_nil]⟩
      rw [hstore]
      cases hk : s.held.lookup k with
      | none => exact lookup_merge_of_not_held hk
      | some hd => rw [lookup_merge_of_held hk, hag k hd hk, hunmoved k hd hk]

/-- The deed of a turn on an item, with the events it has published. -/
lemma turn_deed (x : Db × List Event) (turn : Turn OrderRequest) (i : UUID) :
    ∃ events, (takeTurn OrderRequest.run x turn).2 = x.2 ++ events
      ∧ CancelledBy turn.request events
      ∧ ItemDeed serialTerms i (Db.orderItem x.1 i)
          (Db.orderItem (takeTurn OrderRequest.run x turn).1 i)
          (events.filter (Event.concernsItem i)) := by
  simp only [takeTurn]
  cases turn.request.settles turn.choices 0 x.1 x.2 with
  | undone hresult hstore hlog =>
      rw [hstore, hlog]
      exact ⟨[], (List.append_nil _).symm, cancelledBy_nil _, .nothing _⟩
  | @committed a s hresult hag hcommits hstore hlog =>
      rw [hstore, hlog]
      obtain ⟨⟨news, hdeeds⟩, hby⟩ := hcommits
      exact ⟨s.pending, rfl, hby, hdeeds.item i⟩

/-- A turn continues the story of every item, whatever was published before it. -/
lemma ItemStory.turn {i : UUID} {b₀ : Option OrderItem} {x : Db × List Event} {log : List Event}
    (h : ItemStory i b₀ (Db.orderItem x.1 i) log) (turn : Turn OrderRequest) :
    ∃ events, (takeTurn OrderRequest.run x turn).2 = x.2 ++ events
      ∧ ItemStory i b₀ (Db.orderItem (takeTurn OrderRequest.run x turn).1 i) (log ++ events) := by
  obtain ⟨events, hlog, hby, hdeed⟩ := turn_deed x turn i
  refine ⟨events, hlog, h.step hdeed fun before hmem => ?_⟩
  obtain ⟨user, -, hcancel⟩ := hby i before hmem
  exact ⟨user.role, hcancel⟩

/-- Every turn is faithful. -/
lemma faithfulTurn (x : Db × List Event) (turn : Turn OrderRequest) :
    FaithfulTurn turn x (takeTurn OrderRequest.run x turn) := by
  refine ⟨?_, fun e he => ?_, unchanged_of_idle⟩
  · obtain ⟨events, hlog, hby, -⟩ := turn_deed x turn 0
    exact ⟨events, hlog, hby⟩
  · cases turn.request.settles turn.choices 0 x.1 x.2 with
    | undone hresult hstore hlog => exact Prod.ext hstore hlog
    | committed hresult hag hcommits hstore hlog =>
        rw [turnResult, hresult] at he
        cases he

end Turns

/-! ### The stock of an offer -/

/-- The quantity of an item of an offer that did not exist in the first database. -/
def itemCreated (offerId : UUID) (st₀ : Db) (itemId : UUID) (item : OrderItem) : ℤ :=
  if item.offerId = offerId ∧ Db.orderItem st₀ itemId = none then item.quantity else 0

/-- The quantity of an item of an offer that was cancelled with `restored_stock`. -/
def itemRestored (offerId : UUID) (log : List Event) (itemId : UUID) (item : OrderItem) : ℤ :=
  if item.offerId = offerId ∧ .orderItemCancelled itemId true ∈ log then item.quantity else 0

/-- The quantities of the created items of an offer. -/
def createdQuantity (offerId : UUID) (st₀ st : Db) : ℤ :=
  ((Db.orderItems st).map fun item => itemCreated offerId st₀ item.1 item.2).sum

/-- The quantities of the items of an offer that went back to its stock. -/
def restoredQuantity (offerId : UUID) (log : List Event) (st : Db) : ℤ :=
  ((Db.orderItems st).map fun item => itemRestored offerId log item.1 item.2).sum

section Account

variable {i offerId : UUID} {st₀ st : Db} {log : List Event} {turns : List (Turn OrderRequest)}

/-- What an item held of the stock in the first database. -/
def heldBefore (offerId : UUID) (st₀ : Db) (itemId : UUID) (item : OrderItem) : ℤ :=
  if (Db.orderItem st₀ itemId).isSome = true then
    if item.offerId = offerId ∧ startStatus (Db.orderItem st₀ itemId) ≠ .cancelled
      then item.quantity else 0
  else 0

/-- An item holds and has restored what it held and was created with. -/
lemma ItemStory.balance {r : OrderItem} (h : ItemStory i (Db.orderItem st₀ i) (some r) log) :
    itemHolds offerId log i r + itemRestored offerId log i r
      = heldBefore offerId st₀ i r + itemCreated offerId st₀ i r := by
  have htrail := h.replays r rfl
  have hrestored : .orderItemCancelled i true ∈ log
      ↔ true ∈ (cancels (statusChanges i log)).map fun step => restoresStockOnCancel step.1 := by
    rw [← mem_cancellations, h.cancelled]
  have hlost : lostEvent i ∈ log ↔ (.inTransit, .cancelled) ∈ cancels (statusChanges i log) := by
    rw [lostEvent, ← mem_statusChanges, cancels, List.mem_filter]
    simp
  have hstart : Db.orderItem st₀ i = none → startStatus (Db.orderItem st₀ i) ≠ .cancelled := by
    intro hnone
    rw [hnone]
    decide
  by_cases hoffer : r.offerId = offerId
  swap
  · simp [itemHolds, itemRestored, heldBefore, itemCreated, hoffer]
  by_cases hfrom : startStatus (Db.orderItem st₀ i) = .cancelled
  · -- it was cancelled before
    obtain ⟨hnil, hcancelled⟩ := htrail.eq_nil (no_statusStep (Or.inr hfrom))
    have hsome : Db.orderItem st₀ i ≠ none := fun hnone => hstart hnone hfrom
    simp [itemHolds, itemRestored, heldBefore, itemCreated, holdsStock, hlost, hrestored, hnil,
      hcancelled, hfrom, hsome, cancels]
  have hbefore : heldBefore offerId st₀ i r + itemCreated offerId st₀ i r = r.quantity := by
    cases hb₀ : Db.orderItem st₀ i with
    | none => simp [heldBefore, itemCreated, hb₀, hoffer]
    | some r₀ =>
        rw [hb₀] at hfrom
        simp [heldBefore, itemCreated, hb₀, hoffer, hfrom]
  rw [hbefore]
  -- cancelled in the run, from a status its step names, or not at all
  by_cases hto : r.status = .cancelled
  · rw [hto] at htrail
    obtain ⟨before, hcancels, role, hrole⟩ := cancels_eq_singleton htrail hfrom
    rw [hcancels] at hrestored hlost
    have hrestore := restoresStock_iff hrole
    by_cases htransit : before = .inTransit
    · simp [itemHolds, itemRestored, holdsStock, hlost, hrestored, hto, hoffer, htransit,
        restoresStockOnCancel]
    · have hback := hrestore.mpr htransit
      have hkept : (OrderItemStatus.inTransit, OrderItemStatus.cancelled)
          ≠ (before, .cancelled) := fun heq => htransit (Prod.ext_iff.mp heq).1.symm
      simp [itemHolds, itemRestored, holdsStock, hlost, hrestored, hto, hoffer, hback,
        Ne.symm htransit]
  · have hnil := cancels_eq_nil htrail hto
    simp [itemHolds, itemRestored, holdsStock, hrestored, hnil, hto, hoffer]

/-- What the items of the first database held is what they held then. -/
lemma sum_heldBefore (h : ∀ i, ItemStory i (Db.orderItem st₀ i) (Db.orderItem st i) log) :
    ((Db.orderItems st).map fun item => heldBefore offerId st₀ item.1 item.2).sum
      = heldQuantity offerId [] st₀ := by
  have hholds : ∀ (k : Key) (r : Row k), st₀.lookup k = some r →
      itemWeight (itemHolds offerId []) k r = itemWeight (heldBefore offerId st₀) k r := by
    intro k r hr
    cases k with
    | orderItem i =>
        have hr' : Db.orderItem st₀ i = some r := hr
        simp [itemWeight, itemHolds, holdsStock, heldBefore, hr', startStatus]
    | _ => rfl
  rw [heldQuantity, sum_orderItems, sum_orderItems, total_congr hholds]
  refine total_eq_of_weigh fun k => ?_
  cases k with
  | orderItem i =>
      have hstory := h i
      change weigh (itemWeight (heldBefore offerId st₀)) (.orderItem i) (Db.orderItem st i)
        = weigh (itemWeight (heldBefore offerId st₀)) (.orderItem i) (Db.orderItem st₀ i)
      cases hb₀ : Db.orderItem st₀ i with
      | none =>
          cases Db.orderItem st i with
          | none => rfl
          | some r => simp [weigh, itemWeight, heldBefore, hb₀]
      | some r₀ =>
          obtain ⟨r, hr, ho, hq⟩ := hstory.same r₀ hb₀
          rw [hr]
          simp [weigh, itemWeight, heldBefore, hb₀, ho, hq]
  | _ =>
      have hzero : ∀ (k : Key) (f : UUID → OrderItem → ℤ) (b : Option (Row k)),
          (∀ i, k ≠ .orderItem i) → weigh (itemWeight f) k b = 0 := by
        intro k f b hk
        cases b with
        | none => rfl
        | some r =>
            cases k with
            | orderItem i => exact absurd rfl (hk i)
            | _ => rfl
      rw [hzero _ _ _ (by simp), hzero _ _ _ (by simp)]

variable (turns) in
/-- The account of an offer is kept by order requests that take turns. -/
lemma stockInv_serially {r₀ : Offer} (hr₀ : Db.offer st₀ offerId = some r₀) :
    StockInv offerId r₀.stock (r₀.stock + heldQuantity offerId [] st₀)
      (serially OrderRequest.run (st₀, []) turns).1
      (serially OrderRequest.run (st₀, []) turns).2 := by
  refine serially_inv (I := StockInv offerId _ _) (fun turn _ x hx => ?_) ?_
  · exact (exec_ok (wp_orderRequest turn.request x.1) hx (agrees_empty _) (fun _ _ _ _ _ => trivial)
      fun st log s hinv hag hs => hs.keeps hinv hag).1
  · have haccount := account_eq offerId [] st₀
    rw [stockOf, hr₀] at haccount
    exact ⟨⟨r₀, hr₀, id⟩, haccount, by simp, by simp⟩

variable (st₀ turns) in
/-- The stories of all items after a run. -/
lemma itemStory_serially (i : UUID) :
    ItemStory i (Db.orderItem st₀ i)
      (Db.orderItem (serially OrderRequest.run (st₀, []) turns).1 i)
      (serially OrderRequest.run (st₀, []) turns).2 :=
  serially_inv (I := fun st log => ItemStory i (Db.orderItem st₀ i) (Db.orderItem st i) log)
    (fun turn _ x hx => by
      obtain ⟨events, hlog, hstory⟩ := hx.turn turn
      rw [hlog]
      exact hstory) itemStory_nil

end Account

/-! ### Runs -/

/-- What the events of a run of order requests say that turned the rows `st₀` into `st`.

Replayed from `placed`, or from the status it had before the run, the status changes of an
item lead to its status (every event starts at the status before it), each forward by one
step or to `cancelled` from where a user may cancel, and none follows `delivered` or
`cancelled`. The stock of an offer is what it was, less the items created, plus those whose
cancellation says that it was restored. -/
structure Faithful (st₀ st : Db) (log : List Event) : Prop where
  replays : ∀ i r, Db.orderItem st i = some r →
    Trail StatusStep (startStatus (Db.orderItem st₀ i)) (statusChanges i log) r.status
  last : ∀ i l step l', statusChanges i log = l ++ step :: l' →
    step.2 = .delivered ∨ step.2 = .cancelled → l' = []
  unknown : ∀ i, Db.orderItem st i = none → statusChanges i log = []
  stock : ∀ offerId r₀, Db.offer st₀ offerId = some r₀ →
    ∃ r : Offer, Db.offer st offerId = some r
      ∧ r.stock = r₀.stock - createdQuantity offerId st₀ st + restoredQuantity offerId log st

section Runs

variable {st₀ : Db} {turns : List (Turn OrderRequest)}

lemma faithful_serially :
    Faithful st₀ (serially OrderRequest.run (st₀, []) turns).1
      (serially OrderRequest.run (st₀, []) turns).2 := by
  have hstory := fun i => itemStory_serially st₀ turns i
  refine ⟨fun i r hr => (hstory i).replays r hr, fun i l step l' hl hstep => ?_,
    fun i hi => ((hstory i).unknown hi).2, fun offerId r₀ hr₀ => ?_⟩
  · cases hr : Db.orderItem (serially OrderRequest.run (st₀, []) turns).1 i with
    | none =>
        rw [((hstory i).unknown hr).2] at hl
        simp at hl
    | some r =>
        have htrail := (hstory i).replays r hr
        rw [hl] at htrail
        exact trail_last htrail hstep
  · have hinv := stockInv_serially turns hr₀
    obtain ⟨r, hr, -⟩ := hinv.stock
    refine ⟨r, hr, ?_⟩
    generalize serially OrderRequest.run (st₀, []) turns = y at hstory hinv hr ⊢
    have haccount := account_eq offerId y.2 y.1
    rw [hinv.account, stockOf, hr] at haccount
    have hbalance : heldQuantity offerId y.2 y.1 + restoredQuantity offerId y.2 y.1
        = heldQuantity offerId [] st₀ + createdQuantity offerId st₀ y.1 := by
      rw [← sum_heldBefore hstory, heldQuantity, restoredQuantity, createdQuantity, sum_orderItems,
        sum_orderItems, sum_orderItems, sum_orderItems, ← total_add, ← total_add]
      refine total_congr fun k r' hr' => ?_
      cases k with
      | orderItem i =>
          have hi := hstory i
          rw [show Db.orderItem y.1 i = some r' from hr'] at hi
          exact hi.balance
      | _ => rfl
    change _ = r.stock + _ at haccount
    omega

/-- A delivered or cancelled item stays so. -/
lemma status_kept {i : UUID} {r : OrderItem} {turns' : List (Turn OrderRequest)}
    (hr : Db.orderItem (serially OrderRequest.run (st₀, []) turns).1 i = some r)
    (hlast : r.status = .delivered ∨ r.status = .cancelled) :
    ∃ r', Db.orderItem (serially OrderRequest.run (st₀, []) (turns ++ turns')).1 i = some r'
      ∧ r'.status = r.status := by
  rw [serially_append]
  refine serially_inv (I := fun st _ => ∃ r', Db.orderItem st i = some r' ∧ r'.status = r.status)
    (fun turn _ x hx => ?_) ⟨r, hr, rfl⟩
  obtain ⟨b, hb, hstatus⟩ := hx
  -- the story of this one turn
  have hnil : ItemStory i (Db.orderItem x.1 i) (Db.orderItem x.1 i) [] := itemStory_nil
  obtain ⟨events, -, hstory⟩ := hnil.turn turn
  obtain ⟨r', hr', -⟩ := hstory.same b hb
  have htrail := hstory.replays r' hr'
  rw [hb] at htrail
  refine ⟨r', hr', ?_⟩
  have hstays := (htrail.eq_nil (no_statusStep (by simpa [startStatus, hstatus] using hlast))).2
  exact hstays.trans hstatus

/-- **The event log of order items is faithful.** Whatever order requests run one after
another, also refused ones: the log tells the status of every item and the stock of every
offer, a delivered or cancelled item stays so, and every request has published what it did. -/
theorem event_log_faithful (st₀ : Db) (turns : List (Turn OrderRequest)) :
    Faithful st₀ (serially OrderRequest.run (st₀, []) turns).1
        (serially OrderRequest.run (st₀, []) turns).2
      ∧ (∀ turns' i r, Db.orderItem (serially OrderRequest.run (st₀, []) turns).1 i = some r →
          r.status = .delivered ∨ r.status = .cancelled →
          ∃ r', Db.orderItem (serially OrderRequest.run (st₀, []) (turns ++ turns')).1 i = some r'
            ∧ r'.status = r.status)
      ∧ ∀ turn, FaithfulTurn turn (serially OrderRequest.run (st₀, []) turns)
          (serially OrderRequest.run (st₀, []) (turns ++ [turn])) := by
  refine ⟨faithful_serially, fun turns' i r hr hlast => status_kept hr hlast, fun turn => ?_⟩
  rw [serially_append]
  exact faithfulTurn _ turn

end Runs

end MarketHub
