import MarketHub.Atomic
import MarketHub.Orders.Placement
import MarketHub.ReadCommitted.Monitor

/-!
What a checkout revalidates when it consumes its lines.

* `Dealings`: the offers a transaction has taken stock from, each with the price that was
  stored at that moment, the rows of offers it has read, and the offers it could not take stock
  from; `dealings` keeps this record beside a run.
* `RefusesLines`: a checkout is refused because of its lines. `Truthful`: what is reported of a line
  has been read, and the reason is true of it.
* `Revalidated`: the condition on the stored offer when a line is consumed or refused;
  `revalidation` is the contract of a checkout under it.
* `checkout_revalidates`: in every run that meets the condition the items of an order carry the
  prices at which their stock was taken, a checkout that is refused because of its lines ends in a
  `CheckoutRejectedError`, and the reasons of a refusal are true of the rows that were read.
* `checkout_stale_price`: without it an order keeps the price from before.
-/

namespace MarketHub

open ReadCommitted Session

/-! ### Dealings with offers -/

/-- What a transaction has done with offers. -/
structure Dealings where
  /-- The offers whose `UPDATE` has matched, with the price stored at that moment. -/
  taken : List (UUID × ℕ) := []
  /-- The rows that statements have read; `none` is an offer that was not there. -/
  read : UUID → Option Offer → Prop := fun _ _ => False
  /-- The offers whose `UPDATE` has matched no row. -/
  refused : List UUID := []

/-- What a step takes: the offer of an `UPDATE` that has matched, with its stored price. -/
def taking (st : Db) (s : AppSession) : {β : Type} → Op Row Event β → β → List (UUID × ℕ)
  | _, .update (.offer id) _ _, true =>
      ((s.view st).lookup (.offer id)).toList.map fun offer : Offer => (id, offer.price)
  | _, _, _ => []

/-- What a step could not take: the offer of an `UPDATE` that has matched no row. -/
def refusing : {β : Type} → Op Row Event β → β → List UUID
  | _, .update (.offer id) _ _, false => [id]
  | _, _, _ => []

/-- A statement reads the row of an offer. -/
def ReadsOffer (id : UUID) : {β : Type} → Op Row Event β → Prop
  | _, .select _ _ ents _ => ∃ i, Key.offer id ∈ ents i
  | _, .refresh k => k = .offer id
  | _, _ => False

/-- What transactions do with offers. -/
def dealings : Monitor Row Event Dealings where
  start := {}
  next st s op b w :=
    { taken := w.taken ++ taking st s op b
      read := fun id row => w.read id row ∨ ReadsOffer id op ∧ row = Db.offer (s.view st) id
      refused := w.refused ++ refusing op b }

/-! ### Reasons -/

/-- A reason is true of an offer. -/
def RejectionReason.Holds (item : CheckoutItem) : RejectionReason → Option Offer → Prop
  | .notFound, offer => offer = none
  | .unavailable, offer => ∃ o, offer = some o ∧ o.available = false
  | .insufficientStock, offer => ∃ o, offer = some o ∧ o.stock < item.quantity
  | .priceChanged, offer => ∃ o, offer = some o ∧ o.price ≠ item.expectedPrice.decimal

/-- A refused line reports the offer as a statement of the transaction has read it, and its reason
is true of this row. -/
def Truthful (w : Dealings) (item : CheckoutItem) (rejected : CheckoutRejectedItem) : Prop :=
  ∃ offer, w.read item.offerId offer ∧ rejected = rejection item rejected.reason offer
    ∧ rejected.reason.Holds item offer

/-- A checkout is refused because of its lines: it has read an offer of which a reason is true, or
an `UPDATE` has taken nothing. -/
def RefusesLines (payload : CheckoutRequest) (w : Dealings) : Prop :=
  ∃ item ∈ payload.items,
    (∃ (reason : RejectionReason) (offer : Option Offer),
      w.read item.offerId offer ∧ reason.Holds item offer)
    ∨ item.offerId ∈ w.refused

/-- A `CheckoutRejectedError` with a refused line. -/
def IsRejection (e : Failure DomainError) : Prop :=
  ∃ rejected, rejected ≠ [] ∧ e = .domain (.checkoutRejected rejected)

/-- The stored offer when a line is consumed or refused: where an `UPDATE` takes stock, the offer
still has the expected price, and where a refused offer is read again, it is there and short of
stock. -/
def Revalidated (payload : CheckoutRequest) (st : Db) (s : AppSession) :
    {β : Type} → Op Row Event β → Prop
  | _, .update (.offer id) matches_ _ => ∀ offer ∈ Db.offer (s.view st) id,
      matches_ offer = true → ∀ item ∈ payload.items, item.offerId = id →
        offer.price = item.expectedPrice.decimal
  | _, .refresh (.offer id) => ∃ offer ∈ Db.offer (s.view st) id,
      ∀ item ∈ payload.items, item.offerId = id → offer.stock < item.quantity
  | _, _ => True

/-- The items a session has added carry the prices of its takings. -/
def Priced (taken : List (UUID × ℕ)) (s : AppSession) : Prop :=
  ∀ id, s.Adds (.orderItem id) fun item => (item.offerId, item.purchasePrice) ∈ taken

/-- The contract of a checkout. -/
def revalidation (payload : CheckoutRequest) : Contract Row Event DomainError Dealings where
  assume st s op := Revalidated payload st s op
  ask w s op := RefusesLines payload w → ∀ st c busy, Revalidated payload st s op →
    (op.eval c busy st s).isSome
  raise w e := (RefusesLines payload w → IsRejection e)
    ∧ ∀ rejected, e = .domain (.checkoutRejected rejected) →
      ∀ r ∈ rejected, ∃ item ∈ payload.items, Truthful w item r
  commit w s := Priced w.taken s ∧ ¬ RefusesLines payload w

section Reasons

variable {item : CheckoutItem} {offer : Option Offer} {payload : CheckoutRequest} {w : Dealings}

/-- The first problem of a line is one. -/
lemma holds_firstProblem {reason : RejectionReason} (h : firstProblem item offer = some reason) :
    reason.Holds item offer := by
  cases offer with
  | none =>
      cases h
      rfl
  | some o =>
      simp only [firstProblem] at h
      split_ifs at h with havailable hstock hprice <;> cases h
      · exact ⟨o, rfl, havailable⟩
      · exact ⟨o, rfl, hstock⟩
      · exact ⟨o, rfl, hprice⟩

/-- No reason is true of an offer without a problem. -/
lemma not_holds {reason : RejectionReason} (h : firstProblem item offer = none) :
    ¬ reason.Holds item offer := by
  obtain ⟨o, rfl, havailable, hstock, hprice⟩ := firstProblem_eq_none.mp h
  intro hholds
  cases reason with
  | notFound => cases hholds
  | unavailable =>
      obtain ⟨_, ho, hunavailable⟩ := hholds
      cases ho
      exact absurd (havailable.symm.trans hunavailable) (by decide)
  | insufficientStock =>
      obtain ⟨_, ho, hshort⟩ := hholds
      cases ho
      omega
  | priceChanged =>
      obtain ⟨_, ho, hchanged⟩ := hholds
      cases ho
      exact hchanged hprice

/-- The lines of a payload have different offers. -/
lemma item_of_offerId {item' : CheckoutItem} (h : item ∈ payload.items) (h' : item' ∈ payload.items)
    (hid : item.offerId = item'.offerId) : item = item' :=
  List.inj_on_of_nodup_map payload.unique_offer_ids h h' hid

/-- Nothing is refused when all rows that were read are good. -/
lemma not_refusesLines (hread : ∀ id row, w.read id row →
      ∃ item ∈ payload.items, item.offerId = id ∧ firstProblem item row = none)
    (hrefused : w.refused = []) : ¬ RefusesLines payload w := by
  rintro ⟨item, hmem, ⟨reason, offer, hoffer, hholds⟩ | hmem'⟩
  · obtain ⟨item', hmem', hid, hnone⟩ := hread _ _ hoffer
    obtain rfl := item_of_offerId hmem' hmem hid
    exact not_holds hnone hholds
  · rw [hrefused] at hmem'
    cases hmem'

lemma not_refusesLines_start : ¬ RefusesLines payload {} :=
  not_refusesLines (fun _ _ h => h.elim) rfl

end Reasons

/-! ### The contract is kept -/

section Contract

variable {α : Type} {payload : CheckoutRequest} {w : Dealings} {s : AppSession}

/-- The tables a transaction may write besides the order items. -/
def otherTables (k : Key) : Prop := ∀ id, k ≠ .orderItem id

/-- A step that has nothing to do with offers. -/
def offerFree {β : Type} (op : Op Row Event β) : Prop :=
  op.within (fun k => ∀ id, k ≠ .orderItem id ∧ k ≠ .offer id) ∧ ∀ id, ¬ ReadsOffer id op

lemma priced_mono {taken taken' : List (UUID × ℕ)} (h : Priced taken s) (hw : taken ⊆ taken') :
    Priced taken' s :=
  fun id => (h id).mono fun _ hr => hw hr

/-- A step that writes no order items. -/
lemma priced_step {β : Type} {op : Op Row Event β} {st : Db} {c : Choice} {busy : Busy Row} {b : β}
    {s' : AppSession} (h : Priced w.taken s) (he : op.eval c busy st s = some (b, s'))
    (hop : op.within otherTables) : Priced (dealings.next st s op b w).taken s' :=
  priced_mono (fun id => (h id).step (fun hid => hid id rfl) hop he) (List.subset_append_left _ _)

lemma within_of_offerFree {β : Type} {op : Op Row Event β} (hop : offerFree op) :
    op.within otherTables := by
  cases op <;> first | exact trivial | exact fun id => (hop.1 id).1

/-- A step that has nothing to do with offers leaves no record. -/
lemma dealings_offerFree {β : Type} {op : Op Row Event β} (hop : offerFree op) (st : Db) (b : β) :
    dealings.next st s op b w = w := by
  have htaking : taking st s op b = [] := by
    cases op with
    | update k m u =>
        cases k with
        | offer id => exact absurd rfl (hop.1 id).2
        | _ => rfl
    | _ => rfl
  have hrefusing : refusing op b = [] := by
    cases op with
    | update k m u =>
        cases k with
        | offer id => exact absurd rfl (hop.1 id).2
        | _ => rfl
    | _ => rfl
  have hread : (fun id row => w.read id row ∨ ReadsOffer id op ∧ row = Db.offer (s.view st) id)
      = w.read := by
    ext id row
    exact or_iff_left fun h => hop.2 id h.1
  simp only [dealings, htaking, hrefusing, hread, List.append_nil]

/-- A transaction that has refused no line. -/
structure Calm (payload : CheckoutRequest) (w : Dealings) (s : AppSession) : Prop where
  priced : Priced w.taken s
  calm : ¬ RefusesLines payload w

/-- A program that has nothing to do with offers and refuses nothing. -/
lemma obeys_calm {p : Txn α} (hfree : p.AllOps offerFree) (hun : p.Uncommitted)
    (hraise : p.Raises fun e => ∀ rejected, e ≠ .domain (.checkoutRejected rejected))
    (h : Calm payload w s) :
    p.Obeys dealings (revalidation payload) (fun _ w s => Calm payload w s) w s := by
  refine .of_allOps hfree hun (hraise.mono fun e he w s hI => ?_)
    (fun _ _ _ _ hI hrefuses => absurd hrefuses hI.calm)
    (fun op w st c busy b s s' hop hI he => ?_) h
  · exact ⟨fun hrefuses => absurd hrefuses hI.calm, fun rejected hr => absurd hr (he rejected)⟩
  · have hother : op.within otherTables := within_of_offerFree hop
    have hpriced := priced_step hI.priced he hother
    rw [dealings_offerFree hop] at hpriced ⊢
    exact ⟨hpriced, hI.calm⟩

/-! #### Validation -/

/-- The record after the row of an offer has been read. -/
def Dealings.saw (w : Dealings) (id : UUID) (row : Option Offer) : Dealings :=
  { w with read := fun id' row' => w.read id' row' ∨ id' = id ∧ row' = row }

/-- `session.get` of an offer that is not in the identity map reads its row. -/
lemma obeys_getOffer {offerId : UUID} {f : Option Offer → Txn α}
    {post : α → Dealings → AppSession → Prop} (hfresh : s.objects.lookup (.offer offerId) = none)
    (hp : Priced w.taken s)
    (hf : ∀ row s', Priced w.taken s' →
      (∀ k, k ≠ .offer offerId → s'.objects.lookup k = s.objects.lookup k) →
        (f row).Obeys dealings (revalidation payload) post (w.saw offerId row) s') :
    ((Prog.get (Key.offer offerId) : Txn (Option Offer)).bind f).Obeys dealings
    (revalidation payload)
      post w s := by
  have hattrs : offerFree (Op.attrs (Key.offer offerId) : Op Row Event (Option Offer)) :=
    ⟨trivial, fun _ h => h⟩
  refine ⟨fun _ st c busy _ => rfl, fun st c busy b s' _ _ he => ?_⟩
  rw [dealings_offerFree hattrs]
  cases he
  rw [hfresh]
  -- the `SELECT`, which neither locks nor waits
  refine ⟨fun _ st c busy _ => ?_, fun st c busy b s' _ _ he => ?_⟩
  · simp only [Op.eval, Bool.false_and, Bool.false_eq_true, if_false]
    cases (s.view st).lookup (Key.offer offerId) <;> rfl
  -- the account of the thread notes the row that was read
  have hsaw : dealings.next st s (Op.select false
      (fun v : Db => ((v.lookup (Key.offer offerId)).map fun _ => ([] : List Key)).toList)
      (fun _ => [Key.offer offerId]) id) b w = w.saw offerId (Db.offer (s.view st) offerId) := by
    have hread : (fun id' row => w.read id' row
          ∨ (∃ _ : List Key, Key.offer id' ∈ [Key.offer offerId]) ∧ row = Db.offer (s.view st) id')
        = fun id' row => w.read id' row ∨ id' = offerId ∧ row = Db.offer (s.view st) offerId := by
      ext id' row
      refine or_congr_right ⟨?_, ?_⟩
      · rintro ⟨⟨-, hmem⟩, rfl⟩
        obtain rfl : id' = offerId := by simpa using hmem
        exact ⟨rfl, rfl⟩
      · rintro ⟨rfl, rfl⟩
        exact ⟨⟨[], List.mem_singleton_self _⟩, rfl⟩
    simp only [dealings, Dealings.saw, taking, refusing, ReadsOffer, List.append_nil, hread]
  have hpriced : Priced w.taken s' := by
    have hstep := priced_step hp he (by trivial)
    rwa [hsaw] at hstep
  rw [hsaw]
  obtain ⟨rfl, rfl⟩ := eval_select he
  cases hrow : (s.view st).lookup (Key.offer offerId) with
  | none =>
      rw [show Db.offer (s.view st) offerId = none from hrow]
      simp only [hrow, Option.map_none, Option.toList_none, List.isEmpty_nil, if_true,
        List.flatMap_nil, List.foldl_nil]
      exact hf none s hp fun _ _ => rfl
  | some row =>
      have hload : (s.load (s.view st) (Key.offer offerId)).objects.lookup (.offer offerId)
          = some ⟨some row, row⟩ := by
        rw [load, hfresh, hrow]
        exact AList.lookup_insert _
      rw [show Db.offer (s.view st) offerId = some row from hrow]
      simp only [hrow, Option.map_some, Option.toList_some, List.flatMap_cons, List.flatMap_nil,
        List.append_nil, id, List.foldl_cons, List.foldl_nil] at hpriced ⊢
      -- the object that has just been loaded is what `get` returns
      refine ⟨fun _ st c busy _ => rfl, fun st' c busy b s' _ _ he => ?_⟩
      rw [dealings_offerFree hattrs]
      cases he
      rw [hload]
      exact hf (some row) _ hpriced fun k hk => lookup_load_ne _ _ _ hk

/-- A transaction that has not read the offers of the remaining lines. -/
structure Unread (rest : List CheckoutItem) (w : Dealings) (s : AppSession) : Prop where
  priced : Priced w.taken s
  fresh : ∀ item ∈ rest, s.objects.lookup (.offer item.offerId) = none

/-- What the validation of lines has found. -/
structure Found (items : List CheckoutItem) (w : Dealings)
    (r : List CheckoutRejectedItem × List (CheckoutItem × Offer)) (w' : Dealings) : Prop where
  refused : w'.refused = w.refused
  grown : ∀ id row, w.read id row → w'.read id row
  truthful : ∀ problem ∈ r.1, ∃ item ∈ items, Truthful w' item problem
  expected : ∀ l ∈ r.2, l.1 ∈ items ∧ l.2.price = l.1.expectedPrice.decimal
  good : r.1 = [] → ∀ id row, w'.read id row →
    w.read id row ∨ ∃ item ∈ items, item.offerId = id ∧ firstProblem item row = none

/-- The lines are validated. -/
lemma obeys_validateItems {items : List CheckoutItem}
    (hnodup : (items.map CheckoutItem.offerId).Nodup) (h : Unread items w s) :
    (validateItems items).Obeys dealings (revalidation payload)
      (fun r w' s' => Priced w'.taken s' ∧ Found items w r w') w s := by
  induction items generalizing w s with
  | nil => exact ⟨h.priced, rfl, fun _ _ h => h, by simp, by simp, fun _ _ _ h => .inl h⟩
  | cons item items ih =>
      rw [List.map_cons, List.nodup_cons] at hnodup
      rw [validateItems, validateItem_eq, Prog.bind_eq, Prog.bind_assoc]
      refine obeys_getOffer (h.fresh item List.mem_cons_self) h.priced fun row s₁ hp hkeep => ?_
      -- the offers of the other lines are not loaded yet
      have hunread : Unread items (w.saw item.offerId row) s₁ := by
        refine ⟨hp, fun item' hmem => ?_⟩
        have hne : item'.offerId ≠ item.offerId := fun heq =>
          hnodup.1 (heq ▸ List.mem_map_of_mem hmem)
        rw [hkeep _ (by simpa using hne)]
        exact h.fresh item' (List.mem_cons_of_mem _ hmem)
      change ((validateItems items).bind _).Obeys _ _ _ _ _
      refine Prog.Obeys.bind ((ih hnodup.2 hunread).mono fun r w' s' hr => ?_)
      obtain ⟨problems, lines⟩ := r
      obtain ⟨hp', hfound⟩ := hr
      -- what this line read is still known at the end
      have hread : w'.read item.offerId row := hfound.grown _ _ (.inr ⟨rfl, rfl⟩)
      have hgrown : ∀ id row, w.read id row → w'.read id row :=
        fun id row hold => hfound.grown id row (.inl hold)
      have htruthful : ∀ problem ∈ problems, ∃ item' ∈ item :: items,
          Truthful w' item' problem := by
        intro problem hmem
        obtain ⟨item', hitem, htrue⟩ := hfound.truthful problem hmem
        exact ⟨item', List.mem_cons_of_mem _ hitem, htrue⟩
      have hexpected : ∀ l ∈ lines, l.1 ∈ item :: items ∧ l.2.price = l.1.expectedPrice.decimal :=
        fun l hl => ⟨List.mem_cons_of_mem _ (hfound.expected l hl).1, (hfound.expected l hl).2⟩
      cases hproblem : firstProblem item row with
      | some reason =>
          -- the line is refused
          refine ⟨hp', hfound.refused, hgrown, fun problem hmem => ?_, hexpected,
            fun hnil => absurd hnil (List.cons_ne_nil _ _)⟩
          rcases List.mem_cons.mp hmem with rfl | hmem
          · exact ⟨item, List.mem_cons_self, row, hread, rfl, holds_firstProblem hproblem⟩
          · exact htruthful problem hmem
      | none =>
          obtain ⟨offer, rfl, -, -, hprice⟩ := firstProblem_eq_none.mp hproblem
          refine ⟨hp', hfound.refused, hgrown, htruthful, fun l hl => ?_,
            fun hnil id row' hrow => ?_⟩
          · rcases List.mem_cons.mp hl with rfl | hl
            · exact ⟨List.mem_cons_self, hprice⟩
            · exact hexpected l hl
          · rcases hfound.good hnil id row' hrow with (hold | ⟨rfl, rfl⟩) | ⟨item', hitem, hgood⟩
            · exact .inl hold
            · exact .inr ⟨item, List.mem_cons_self, rfl, hproblem⟩
            · exact .inr ⟨item', List.mem_cons_of_mem _ hitem, hgood⟩

/-! #### Consumption -/

/-- An item is added that carries the price of a taking. -/
lemma obeys_newOrderItem {orderId : UUID} {line : ℕ} {item : CheckoutItem} {offer : Offer}
    (h : Calm payload w s) (htaken : (item.offerId, offer.price) ∈ w.taken) :
    (newOrderItem orderId line item offer).Obeys dealings (revalidation payload)
      (fun _ w s => Calm payload w s) w s := by
  have hlocal : ∀ {β : Type} (op : Op Row Event β) (f : β → Txn Unit), offerFree op →
      (∀ b s, Calm payload w s →
        (f b).Obeys dealings (revalidation payload) (fun _ w s => Calm payload w s) w s) →
      ∀ s, Calm payload w s →
        (Prog.op op f).Obeys dealings (revalidation payload)
        (fun _ w s => Calm payload w s) w s := by
    intro β op f hop hf s hs
    refine ⟨fun hrefuses => absurd hrefuses hs.calm, fun st c busy b s' _ _ he => ?_⟩
    have hother : op.within otherTables := within_of_offerFree hop
    have hpriced := priced_step hs.priced he hother
    rw [dealings_offerFree hop] at hpriced ⊢
    exact hf b s' ⟨hpriced, hs.calm⟩
  have hclock : offerFree (Op.utcnow : Op Row Event ℤ) := ⟨trivial, fun _ h => h⟩
  refine hlocal .uuid4 _ ⟨trivial, fun _ h => h⟩ (fun id => hlocal .utcnow _ hclock fun _ =>
    hlocal .utcnow _ hclock fun _ => hlocal .utcnow _ hclock fun _ s hs => ?_) s h
  refine ⟨fun hrefuses => absurd hrefuses hs.calm, fun st c busy b s' _ _ he => ?_⟩
  obtain ⟨-, rfl⟩ := eval_add he
  have hsame : ∀ r : OrderItem, dealings.next st s (Op.add (.orderItem id) r) () w
      = w := fun r => by
    simp only [dealings, taking, refusing, ReadsOffer, false_and, or_false, List.append_nil]
  rw [hsame]
  refine ⟨fun id' => ?_, hs.calm⟩
  by_cases hid : id' = id
  · subst hid
    exact (hs.priced id').add htaken
  · exact (hs.priced id').object (by simpa using hid) _

/-- The lines are consumed. -/
lemma obeys_consumeItems {orderId : UUID} {lines : List (CheckoutItem × Offer)} {line : ℕ}
    (hlines : ∀ l ∈ lines, l.1 ∈ payload.items ∧ l.2.price = l.1.expectedPrice.decimal)
    (h : Calm payload w s) :
    (consumeItems orderId line lines).Obeys dealings (revalidation payload)
      (fun _ w s => Calm payload w s) w s := by
  induction lines generalizing line w s with
  | nil => exact h
  | cons l lines ih =>
      obtain ⟨item, offer⟩ := l
      obtain ⟨hmem, hprice⟩ := hlines (item, offer) List.mem_cons_self
      have hrest := fun l hl => hlines l (List.mem_cons_of_mem _ hl)
      refine ⟨fun hrefuses => absurd hrefuses h.calm, fun st c busy consumed s' _ hassume he => ?_⟩
      have hoffer : ∀ id, Key.offer item.offerId ≠ .orderItem id := fun id => by simp
      have hp := priced_step h.priced he hoffer
      rcases eval_update he with ⟨rfl, -, -⟩ | ⟨stored, rfl, hstored, hmatch, -⟩
      · -- nothing is taken: the offer is read again, and is still short of stock
        refine ⟨fun _ st c busy hassume => ?_, fun st c busy _ s' _ hassume he => ?_⟩
        · obtain ⟨stored, hstored, -⟩ := hassume
          rw [Op.eval, show (s'.view st).lookup (Key.offer item.offerId) = some stored from hstored]
          rfl
        obtain ⟨stored, hstored, hshort⟩ := hassume
        obtain ⟨row, hrow, rfl⟩ := eval_refresh he
        obtain rfl : stored = row := Option.some.inj (hstored.symm.trans hrow)
        refine ⟨fun _ _ _ _ _ => rfl, fun st' c busy current s'' _ _ he => ?_⟩
        cases he
        refine ⟨fun _ => ⟨_, List.cons_ne_nil _ _, rfl⟩, fun rejected hr problem hproblem => ?_⟩
        cases hr
        obtain rfl := List.mem_singleton.mp hproblem
        rw [lookup_sync_self]
        refine ⟨item, hmem, some stored, .inl (.inr ⟨rfl, hstored.symm⟩), rfl, stored, rfl, ?_⟩
        exact hshort item hmem rfl
      · -- the line is consumed at the price its offer has been validated with
        have hcalm : ¬ RefusesLines payload (dealings.next st s (Op.update (.offer item.offerId)
            (fun offer : Offer => item.quantity ≤ offer.stock && offer.available)
            fun offer : Offer => { offer with stock := offer.stock - item.quantity }) true w) := by
          simpa only [dealings, RefusesLines, refusing, ReadsOffer, false_and, or_false,
            List.append_nil]
            using h.calm
        have htaken : (item.offerId, offer.price) ∈
            (dealings.next st s (Op.update (.offer item.offerId)
            (fun offer : Offer => item.quantity ≤ offer.stock && offer.available)
            fun offer : Offer => { offer with stock := offer.stock - item.quantity }) true
            w).taken := by
          refine List.mem_append_right _ ?_
          simp only [taking, hstored, Option.toList_some, List.map_cons, List.map_nil,
            List.mem_singleton]
          rw [hprice, hassume stored hstored hmatch item hmem rfl]
        exact Prog.Obeys.bind ((obeys_newOrderItem ⟨hp, hcalm⟩ htaken).mono fun _ w s hs =>
          ih hrest hs)

/-! #### The request -/

lemma offerFree_flush : (Prog.flush : Txn Unit).AllOps offerFree :=
  Prog.allOps_flush ⟨trivial, fun _ h => h⟩ fun _ => ⟨trivial, fun _ h => h⟩

lemma offerFree_newOrder (buyerId : UUID) : (newOrder buyerId).AllOps offerFree := by
  have hid : offerFree (Op.uuid4 : Op Row Event ℕ) := ⟨trivial, fun _ h => h⟩
  have hclock : offerFree (Op.utcnow : Op Row Event ℤ) := ⟨trivial, fun _ h => h⟩
  refine ⟨hid, fun id => ⟨hid, fun _ =>
    ⟨hclock, fun _ => ⟨hclock, fun _ => ⟨?_, fun _ => trivial⟩⟩⟩⟩⟩
  exact ⟨fun id' => ⟨by simp, by simp⟩, fun _ h => h⟩

/-- The checkout. -/
lemma obeys_checkout {buyerId : UUID} :
    (checkout buyerId payload).Obeys dealings (revalidation payload)
      (fun _ w s => Calm payload w s) {} ∅ := by
  have hunread : Unread payload.items {} ∅ := ⟨fun id => .empty, fun _ _ => rfl⟩
  refine Prog.Obeys.bind ((obeys_validateItems payload.unique_offer_ids hunread).mono
    fun r w s hr => ?_)
  obtain ⟨problems, lines⟩ := r
  obtain ⟨hp, hfound⟩ := hr
  dsimp only
  split
  · rename_i hne
    refine ⟨fun _ => ⟨problems, hne, rfl⟩, fun rejected hr problem hmem => ?_⟩
    cases hr
    exact hfound.truthful problem hmem
  · rename_i hnil
    have hgood := hfound.good (not_not.mp hnil)
    have hcalm : Calm payload w s :=
      ⟨hp, not_refusesLines (fun id row hread => (hgood id row hread).resolve_left not_false)
        hfound.refused⟩
    refine Prog.Obeys.bind ((obeys_calm (offerFree_newOrder buyerId)
      (Prog.Body.uncommitted (F := fun _ => True) (body_newOrder (fun _ => trivial) buyerId))
      (fun _ _ _ _ _ => trivial) hcalm).mono fun orderId w s hs => ?_)
    refine Prog.Obeys.bind ((obeys_calm offerFree_flush
      (Prog.body_flush (F := fun _ => True)).uncommitted
      (Prog.raises_flush _) hs).mono fun _ w s hs => ?_)
    refine Prog.Obeys.bind ((obeys_consumeItems hfound.expected hs).mono fun _ w s hs => ?_)
    refine Prog.Obeys.bind ((obeys_calm offerFree_flush
      (Prog.body_flush (F := fun _ => True)).uncommitted
      (Prog.raises_flush _) hs).mono fun _ w s hs => ?_)
    refine obeys_calm ⟨⟨trivial, fun id h => ?_⟩,
      fun _ => ⟨⟨trivial, fun _ h => h⟩, fun _ => trivial⟩⟩
      (fun _ _ => trivial) (fun _ _ => trivial) hs
    cases h

/-- **A request for an order** keeps to the contract. -/
lemma obeys_createOrder (buyer : CurrentUser) :
    (OrderRequest.createOrder payload buyer).run.Obeys dealings (revalidation payload)
      (fun _ w _ => ¬ RefusesLines payload w) {} ∅ := by
  have hroles : (requireBuyer buyer).Obeys dealings (revalidation payload)
      (fun _ w s => w = {} ∧ s = ∅) {} ∅ := by
    rw [requireBuyer]
    split
    · exact ⟨rfl, rfl⟩
    · exact ⟨fun h => absurd h not_refusesLines_start, fun rejected hr => by cases hr⟩
  refine Prog.Obeys.bind (Prog.Obeys.bind ?_)
  refine Prog.Obeys.bind (hroles.mono fun _ w s hws => ?_)
  obtain ⟨rfl, rfl⟩ := hws
  refine Prog.Obeys.bind (obeys_checkout.mono fun orderId w s hs => ?_)
  have hlocal : ∀ {β : Type} {op : Op Row Event β} {w s}, offerFree op → Calm payload w s →
      (Prog.lift op : Txn β).Obeys dealings (revalidation payload)
      (fun _ w s => Calm payload w s) w s :=
    fun hop hs => obeys_calm ⟨hop, fun _ => trivial⟩ (fun _ => trivial) (fun _ => trivial) hs
  refine Prog.Obeys.bind (Prog.Obeys.mono
    (hlocal ⟨trivial, fun _ h => by simp [ReadsOffer] at h⟩ hs)
    fun items w s hs => ?_)
  refine Prog.Obeys.bind (Prog.Obeys.mono
    (hlocal ⟨trivial, fun _ h => h⟩ hs) fun order w s hs => ?_)
  have hload : (loadOr (k := .order orderId) (.resourceNotFound "Order not found") order).Obeys
    dealings
      (revalidation payload) (fun _ w s => Calm payload w s) w s := by
    cases order with
    | some order => exact hs
    | none => exact ⟨fun h => absurd h hs.calm, fun rejected hr => by cases hr⟩
  refine Prog.Obeys.bind (hload.mono fun order w s hs => ?_)
  refine Prog.Obeys.bind ((obeys_calm offerFree_flush
    (Prog.body_flush (F := fun _ => True)).uncommitted
    (Prog.raises_flush _) hs).mono fun _ w s hs => ?_)
  exact ⟨⟨hs.priced, hs.calm⟩, not_refusesLines_start⟩

end Contract

/-! ### Runs -/

/-- A thread meets the condition for a checkout of the payload at its next step. -/
def Revalidates (payload : CheckoutRequest) (t : ℕ) (s : Sys Row Event DomainError Unit) : Prop :=
  ∀ th, s.threads.lookup t = some th → ∀ (β : Type) (op : Op Row Event β) k, th.prog = .op op k →
    Revalidated payload s.committed th.session op

/-- **What a checkout consumes it has revalidated.** In every run in whose states the checkout
meets the condition, the items it commits carry the prices at which their stock was taken; once it
is refused because of its lines, it can always go on, and only to a `CheckoutRejectedError`; and
every line it reports was read so, with a reason that is true of what was read. -/
theorem checkout_revalidates {P : Txn Unit → Prop} {st₀ : Db} {s : Sys Row Event DomainError Unit}
    {w : ℕ → Dealings} {payload : CheckoutRequest} {t : ℕ}
    (h : Watched dealings P (Revalidates payload t) (Sys.rest st₀) s w)
    {th : Thread Row Event DomainError Unit} (hth : s.threads.lookup t = some th)
    {buyer : CurrentUser} (horigin : th.origin = (OrderRequest.createOrder payload buyer).run) :
    (∀ k, th.prog = .commit k → ∀ id item,
        th.session.held.lookup (.orderItem id) = some ⟨none, some item⟩ →
          (item.offerId, item.purchasePrice) ∈ (w t).taken)
      ∧ (RefusesLines payload (w t) →
        th.prog.Fails (fun st s op => Revalidated payload st s op) IsRejection th.session)
      ∧ ∀ rejected, th.prog = .raise (.domain (.checkoutRejected rejected)) →
        ∀ r ∈ rejected, ∃ item ∈ payload.items, Truthful (w t) item r := by
  have hobeys : th.prog.Obeys dealings (revalidation payload)
      (fun _ w _ => ¬ RefusesLines payload w)
      (w t) th.session :=
    h.obeys t (fun buyer => (OrderRequest.createOrder payload buyer).run)
      (fun _ => revalidation payload) (fun _ _ w _ => ¬ RefusesLines payload w) obeys_createOrder
      (fun _ => ⟨fun hrefuses => absurd hrefuses not_refusesLines_start, fun _ hr => by cases hr⟩)
      (fun s th _ hs hth _ β op k hp => hs th hth β op k hp) th hth buyer horigin
  refine ⟨fun k hp id item hitem => ?_, fun hrefuses => ?_, fun rejected hp => ?_⟩
  · rw [hp] at hobeys
    obtain ⟨row, hrow, htaken⟩ := ((hobeys.1.1 id).held _ hitem).resolve_left (by simp)
    obtain rfl : item = row := Option.some.inj hrow
    exact htaken
  · have hgrow : ∀ {β : Type} (op : Op Row Event β) (b : β) w st s, RefusesLines payload w →
        RefusesLines payload (dealings.next st s op b w) := by
      rintro β op b w st s ⟨item, hmem, ⟨reason, offer, hread, hholds⟩ | hrefused⟩
      · exact ⟨item, hmem, .inl ⟨reason, offer, .inl hread, hholds⟩⟩
      · exact ⟨item, hmem, .inr (List.mem_append_left _ hrefused)⟩
    exact Prog.Obeys.fails (M := dealings) (C := revalidation payload)
      (fun op w s hask hR st c busy _ hassume => hask hR st c busy hassume) hgrow
      (fun e w hraise hR => hraise.1 hR) (fun w s hcommit => hcommit.2) (fun _ w s hpost => hpost)
      hobeys hrefuses
  · rw [hp] at hobeys
    exact hobeys.2 rejected rfl

/-! #### Two runs -/

/-- The condition, computed. -/
def revalidatedCheck (payload : CheckoutRequest) (st : Db) (s : AppSession) :
    {β : Type} → Op Row Event β → Bool
  | _, .update (.offer id) matches_ _ => decide (∀ offer ∈ Db.offer (s.view st) id,
      matches_ offer = true → ∀ item ∈ payload.items, item.offerId = id →
        offer.price = item.expectedPrice.decimal)
  | _, .refresh (.offer id) => decide (∃ offer ∈ Db.offer (s.view st) id,
      ∀ item ∈ payload.items, item.offerId = id → offer.stock < item.quantity)
  | _, _ => true

lemma revalidated_of_check {payload : CheckoutRequest} {st : Db} {s : AppSession} {β : Type}
    {op : Op Row Event β} (h : revalidatedCheck payload st s op = true) :
    Revalidated payload st s op := by
  cases op with
  | update k m u =>
      cases k with
      | offer id =>
          rw [revalidatedCheck, decide_eq_true_eq] at h
          exact h
      | _ => trivial
  | refresh k =>
      cases k with
      | offer id =>
          rw [revalidatedCheck, decide_eq_true_eq] at h
          exact h
      | _ => trivial
  | _ => trivial

/-- The condition on a thread, computed. -/
def revalidatesCheck (payload : CheckoutRequest) (t : ℕ)
    (s : Sys Row Event DomainError Unit) : Bool :=
  match s.threads.lookup t with
  | none => true
  | some th =>
      match th.prog with
      | .op op _ => revalidatedCheck payload s.committed th.session op
      | _ => true

lemma revalidates_of_check {payload : CheckoutRequest} {t : ℕ} {s : Sys Row Event DomainError Unit}
    (h : revalidatesCheck payload t s = true) : Revalidates payload t s := by
  intro th hth β op k hp
  simp only [revalidatesCheck, hth, hp] at h
  exact revalidated_of_check h

/-- Checkouts, and the requests that change and delete offers. -/
def IsOfferRequest (p : Txn Unit) : Prop :=
  (∃ payload buyer, p = (OrderRequest.createOrder payload buyer).run)
    ∨ ∃ r : CatalogRequest, p = r.run

lemma three_mugs : 1 ≤ 3 := by decide

/-- Two checkouts of three mugs validate them, one takes them, and the other finds two left. -/
def raceRun (n m : ℕ) : List (Action Row Event DomainError Unit) :=
  [.start 0 (OrderRequest.createOrder (mugCheckout 3 three_mugs) mugBuyer).run,
    .start 1 (OrderRequest.createOrder (mugCheckout 3 three_mugs) mugBuyer).run]
  ++ Action.steps 1 3 100 ++ Action.steps 0 n 200 ++ Action.steps 1 m 300

lemma raceRun_starts (n m : ℕ) : ∀ a ∈ raceRun n m, a.Starts IsOfferRequest := by
  intro a ha
  simp only [raceRun, List.mem_append, List.mem_cons, List.not_mem_nil, or_false] at ha
  rcases ha with (((rfl | rfl) | h) | h) | h
  · exact Or.inl ⟨_, _, rfl⟩
  · exact Or.inl ⟨_, _, rfl⟩
  · exact Action.starts_of_mem_steps h
  · exact Action.starts_of_mem_steps h
  · exact Action.starts_of_mem_steps h

/-- The reasons that a thread has raised. -/
def raised (s : Sys Row Event DomainError Unit) (t : ℕ) : Option (List CheckoutRejectedItem) :=
  (s.threads.lookup t).bind fun th =>
    match th.prog with
    | .raise (.domain (.checkoutRejected rejected)) => some rejected
    | _ => none

lemma prog_of_raised {s : Sys Row Event DomainError Unit} {t : ℕ}
    {rejected : List CheckoutRejectedItem} (h : raised s t = some rejected) : ∃ th,
    s.threads.lookup t = some th
      ∧ th.prog = .raise (.domain (.checkoutRejected rejected)) := by
  obtain ⟨th, hth, hraised⟩ := Option.bind_eq_some_iff.mp h
  refine ⟨th, hth, ?_⟩
  split at hraised
  · rename_i hp
    cases hraised
    exact hp
  · cases hraised

/-- The `UPDATE` of the second checkout takes nothing, and the refresh after it finds two mugs. -/
theorem checkout_revalidates_mugs :
    ∃ s w, Watched dealings IsOfferRequest (Revalidates (mugCheckout 3 three_mugs) 1)
      (Sys.rest mugShop) s w
      ∧ (w 1).refused = [3] ∧ ∃ rejected, raised s 1 = some rejected
        ∧ rejected.map CheckoutRejectedItem.stock = [some 2]
        ∧ ∀ r ∈ rejected, ∃ item ∈ (mugCheckout 3 three_mugs).items, Truthful (w 1) item r := by
  obtain ⟨r, hr⟩ := Option.isSome_iff_exists.mp (by decide +kernel :
    ((dealings.run (revalidatesCheck (mugCheckout 3 three_mugs) 1) (raceRun 24 10)
      (Sys.rest mugShop)
      fun _ => {}).filter fun r => decide ((r.2 1).refused = [3])
        && (raised r.1 1).any fun rejected =>
          decide (rejected.map CheckoutRejectedItem.stock = [some 2])).isSome = true)
  obtain ⟨hrun, hlast⟩ := Option.filter_eq_some_iff.mp hr
  obtain ⟨hrefused, hraised⟩ := (Bool.and_eq_true _ _).mp hlast
  obtain ⟨rejected, hrejected, hstock⟩ := (Option.any_eq_true _ _).mp hraised
  obtain ⟨th, hth, hp⟩ := prog_of_raised hrejected
  have hw := watched_of_run (fun _ => revalidates_of_check) .init (raceRun_starts 24 10) hrun
  obtain ⟨th', hth', horigin⟩ := Sys.origin_of_start
    (show Sys.run ([.start 0 _] ++ .start 1 _ :: _) _ = _ from Monitor.run_sys hrun)
  obtain rfl : th = th' := Option.some.inj (hth.symm.trans hth')
  exact ⟨r.1, r.2, hw, of_decide_eq_true hrefused, rejected, hrejected, of_decide_eq_true hstock,
    (checkout_revalidates hw hth horigin).2.2 rejected hp⟩

lemma dearer_ne_nil : ([1, 2] : List (Fin 10)) ≠ [] := List.cons_ne_nil _ _

/-- A seller raises the price of the mugs after a checkout has validated it. -/
def dearer : OfferUpdate where
  price := some (some ⟨[1, 2], 0, 0, dearer_ne_nil⟩)

/-- The checkout then takes the mugs. -/
def staleRun : List (Action Row Event DomainError Unit) :=
  [.start 0 (OrderRequest.createOrder (mugCheckout 2 one_le_two_mugs) mugBuyer).run,
    .start 1 (CatalogRequest.updateOffer 3 dearer ⟨8, .seller, some 1⟩).run]
  ++ Action.steps 0 3 100 ++ Action.steps 1 12 200 ++ Action.steps 0 20 300

lemma staleRun_starts : ∀ a ∈ staleRun, a.Starts IsOfferRequest := by
  intro a ha
  simp only [staleRun, List.mem_append, List.mem_cons, List.not_mem_nil, or_false] at ha
  rcases ha with (((rfl | rfl) | h) | h) | h
  · exact Or.inl ⟨_, _, rfl⟩
  · exact Or.inr ⟨_, rfl⟩
  · exact Action.starts_of_mem_steps h
  · exact Action.starts_of_mem_steps h
  · exact Action.starts_of_mem_steps h

/-- The item that a thread is about to commit under an identifier. -/
def committing (s : Sys Row Event DomainError Unit) (t : ℕ) (id : UUID) : Option OrderItem :=
  (s.threads.lookup t).bind fun th =>
    match th.prog, th.session.held.lookup (.orderItem id) with
    | .commit _, some ⟨none, some item⟩ => some item
    | _, _ => none

lemma prog_of_committing {s : Sys Row Event DomainError Unit} {t : ℕ} {id : UUID} {item : OrderItem}
    (h : committing s t id = some item) : ∃ th k, s.threads.lookup t = some th ∧ th.prog = .commit k
      ∧ th.session.held.lookup (.orderItem id) = some ⟨none, some item⟩ := by
  obtain ⟨th, hth, hcommit⟩ := Option.bind_eq_some_iff.mp h
  split at hcommit
  · rename_i k item' hp hheld
    cases hcommit
    exact ⟨th, k, hth, hp, hheld⟩
  · cases hcommit

/-- **An order keeps a price from before.** When the price changes between the validation and the
`UPDATE` that takes the stock, the order item carries the old one. -/
theorem checkout_stale_price :
    ¬ ∀ (st₀ : Db) (s : Sys Row Event DomainError Unit) (w : ℕ → Dealings),
      Watched dealings IsOfferRequest (fun _ => True) (Sys.rest st₀) s w →
      ∀ t th payload buyer, s.threads.lookup t = some th →
        th.origin = (OrderRequest.createOrder payload buyer).run →
        ∀ k, th.prog = .commit k → ∀ id item,
          th.session.held.lookup (.orderItem id) = some ⟨none, some item⟩ →
            (item.offerId, item.purchasePrice) ∈ (w t).taken := by
  intro hclaim
  obtain ⟨r, hr⟩ := Option.isSome_iff_exists.mp (by decide +kernel :
    ((dealings.run (fun _ => true) staleRun (Sys.rest mugShop) fun _ => {}).filter fun r =>
      ((committing r.1 0 308).any fun item =>
        decide ((item.offerId, item.purchasePrice) ∉ (r.2 0).taken))).isSome = true)
  obtain ⟨hrun, hlast⟩ := Option.filter_eq_some_iff.mp hr
  obtain ⟨item, hitem, hstale⟩ := Option.any_eq_true _ _ |>.mp hlast
  obtain ⟨th, k, hth, hp, hheld⟩ := prog_of_committing hitem
  have hw := watched_of_run (H := fun _ => True) (fun _ _ => trivial) .init staleRun_starts hrun
  obtain ⟨th', hth', horigin⟩ := Sys.origin_of_start
    (show Sys.run ([] ++ .start 0 _ :: _) _ = _ from Monitor.run_sys hrun)
  obtain rfl : th = th' := Option.some.inj (hth.symm.trans hth')
  exact of_decide_eq_true hstale (hclaim _ _ _ hw 0 th _ _ hth horigin k hp 308 item hheld)

end MarketHub
