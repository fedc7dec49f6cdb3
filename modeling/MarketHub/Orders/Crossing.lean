import MarketHub.Atomic
import MarketHub.Orders.Placement
import MarketHub.ReadCommitted.Monitor

/-!
Checkouts that wait for each other.

* `Waits`: a checkout waits for an offer that another transaction has locked.
* `Crossing`: the payloads of some checkouts can be cut so that each has consumed what the one
  before it in a cycle consumes next. `ascending_not_crossing`: payloads that all follow one order
  of the offers do not cross.
* `Holding`, `inOrder`: a checkout that is about to consume a line holds the offers of the lines
  before it, and no others.
* `no_deadlock`: checkouts whose payloads do not cross never wait for each other in a cycle.
* `table_deadlock`: those of one payload in two orders may.
-/

namespace MarketHub

open ReadCommitted Session

/-! ### Waiting -/

/-- A thread waits for a row that another thread holds: its next step is an `UPDATE` of an offer
that matches the stored row. -/
def Waits (s : Sys Row Event DomainError Unit) (t t' : ℕ) : Prop :=
  t ≠ t' ∧ ∃ th th' id m u k, ∃ offer : Offer,
    s.threads.lookup t = some th ∧ th.prog = .op (.update (.offer id) m u) k
      ∧ (th.session.view s.committed).lookup (.offer id) = some offer ∧ m offer = true
      ∧ s.threads.lookup t' = some th' ∧ th'.session.held.lookup (.offer id) ≠ none

/-- A payload is cut before an offer: the lines before it are those of the offers `before`. -/
def Cut (payload : CheckoutRequest) (before : Set UUID) (next : UUID) : Prop :=
  ∃ pre item post, payload.items = pre ++ item :: post ∧ next = item.offerId
    ∧ ∀ id, id ∈ before ↔ id ∈ pre.map CheckoutItem.offerId

/-- The payloads of some checkouts can be cut, so that no two have an offer before the cut in
common and each of a cycle of them is cut before an offer that the next one has before its cut. -/
def Crossing (payloads : ℕ → CheckoutRequest) : Prop :=
  ∃ (before : ℕ → Set UUID) (next : ℕ → UUID),
    (∀ t t', t ≠ t' → ∀ id ∈ before t, id ∉ before t')
      ∧ ∃ t, Relation.TransGen (fun t t' => t ≠ t' ∧ next t ∈ before t'
        ∧ Cut (payloads t) (before t) (next t)) t t

/-- **Payloads in one order do not cross.** -/
lemma ascending_not_crossing {payloads : ℕ → CheckoutRequest} (rank : UUID → ℕ)
    (h : ∀ t, ((payloads t).items.map fun item => rank item.offerId).Pairwise (· < ·)) :
    ¬ Crossing payloads := by
  rintro ⟨before, next, -, t, hcycle⟩
  -- the offers before a cut have a lower rank than the one after it
  have hcut : ∀ t id, Cut (payloads t) (before t) (next t) → id ∈ before t →
      rank id < rank (next t) := by
    rintro t id ⟨pre, item, post, hitems, hnext, hbefore⟩ hid
    have hsorted := h t
    rw [hitems, List.map_append, List.map_cons] at hsorted
    obtain ⟨item', hmem, rfl⟩ := List.mem_map.mp ((hbefore id).mp hid)
    rw [hnext]
    exact (List.pairwise_append.mp hsorted).2.2 _ (List.mem_map_of_mem hmem) _ List.mem_cons_self
  have hpath : ∀ {t t'}, Relation.TransGen (fun t t' => t ≠ t' ∧ next t ∈ before t'
      ∧ Cut (payloads t) (before t) (next t)) t t' → Cut (payloads t') (before t') (next t') →
      rank (next t) < rank (next t') := by
    intro t t' hpath
    induction hpath with
    | single hedge => exact fun hlast => hcut _ _ hlast hedge.2.1
    | tail _ hedge ih => exact fun hlast => (ih hedge.2.2).trans (hcut _ _ hlast hedge.2.1)
  have hfirst : Cut (payloads t) (before t) (next t) := by
    obtain ⟨t', hedge, -⟩ := Relation.TransGen.head'_iff.mp hcycle
    exact hedge.2.2
  exact lt_irrefl _ (hpath hcycle hfirst)

/-- The offers a thread has locked. -/
def lockedOffers (s : AppSession) : Set UUID := {id | s.held.lookup (.offer id) ≠ none}

/-- The offer of an `UPDATE`. -/
def updatedOffer : {β : Type} → Op Row Event β → Option UUID
  | _, .update (.offer id) _ _ => some id
  | _, _ => none

/-- A checkout consumes the lines of its payload in their order, and holds the offers of those it
has consumed. -/
def inOrder (payload : CheckoutRequest) : Contract Row Event DomainError Unit where
  ask _ s op := ∀ id, updatedOffer op = some id → Cut payload (lockedOffers s) id

/-- Nothing is recorded. -/
def idle : Monitor Row Event Unit where
  start := ()
  next _ _ _ _ _ := ()

/-! ### The offers a checkout holds -/

/-- A session that has locked the offers of `S`, and has not touched the others. -/
structure Holding (S : Set UUID) (s : AppSession) : Prop where
  locked : ∀ id ∈ S, s.held.lookup (.offer id) ≠ none
  free : ∀ id, id ∉ S → s.held.lookup (.offer id) = none ∧ s.Untouched (.offer id)

section Holds

variable {α : Type} {payload : CheckoutRequest} {S : Set UUID} {s : AppSession}

lemma Holding.lockedOffers (h : Holding S s) : lockedOffers s = S := by
  ext id
  refine ⟨fun hid => ?_, h.locked id⟩
  by_contra hS
  exact hid (h.free id hS).1

/-- The tables besides the offers. -/
def offerless (k : Key) : Prop := ∀ id, k ≠ .offer id

/-- A step that writes and locks no offers. -/
lemma Holding.step {β : Type} {op : Op Row Event β} {st : Db} {c : Choice} {busy : Busy Row} {b : β}
    {s' : AppSession} (h : Holding S s) (he : op.eval c busy st s = some (b, s'))
    (hop : op.within offerless) (hfree : op.lockless) : Holding S s' where
  locked id hid := by
    obtain ⟨hd, hhd⟩ := Option.ne_none_iff_exists'.mp (h.locked id hid)
    obtain ⟨hd', hhd', -⟩ := (eval_extends he).kept _ hd hhd
    rw [hhd']
    exact Option.some_ne_none _
  free id hid :=
    ⟨held_none_of_within (fun hk => hk id rfl) hop hfree (h.free id hid).2 (h.free id hid).1 he,
      (h.free id hid).2.step (fun hk => hk id rfl) hop he⟩

/-- A program that writes and locks no offers. -/
lemma obeys_offerless {p : Txn α} (hbody : p.Body offerless) (hfree : p.AllOps Op.lockless)
    (h : Holding S s) : p.Obeys idle (inOrder payload) (fun _ _ s => Holding S s) () s := by
  refine .of_allOps (hbody.allOps.and hfree) hbody.uncommitted
    (raises_of_forall fun _ _ _ _ => trivial)
    (fun op w s hop _ id hid => ?_)
    (fun op w st c busy b s s' hop hI he => hI.step he hop.1 hop.2) h
  cases op with
  | update k m u =>
      cases k with
      | offer id' => exact absurd rfl (hop.1 id')
      | _ => cases hid
  | _ => cases hid

/-- A line is validated: without a problem there is an offer. -/
lemma obeys_validateItem_locks {item : CheckoutItem} (h : Holding S s) :
    (validateItem item).Obeys idle (inOrder payload)
      (fun r _ s => Holding S s ∧ (r.2 = none → ∃ offer, r.1 = some offer)) () s := by
  refine Prog.Obeys.bind ((obeys_offerless (Prog.body_get _) (Prog.lockless_get _) h).mono
    fun offer _ s hs => ?_)
  cases offer with
  | none => exact ⟨hs, fun hr => by cases hr⟩
  | some offer =>
      dsimp only
      split_ifs
      all_goals exact ⟨hs, fun _ => ⟨offer, rfl⟩⟩

/-- The lines are validated: without a problem all of them are valid. -/
lemma obeys_validateItems_locks {items : List CheckoutItem} (h : Holding S s) :
    (validateItems items).Obeys idle (inOrder payload)
      (fun r _ s => Holding S s ∧ (r.1 = [] → r.2.map Prod.fst = items)) () s := by
  induction items generalizing s with
  | nil => exact ⟨h, fun _ => rfl⟩
  | cons item items ih =>
      refine Prog.Obeys.bind ((obeys_validateItem_locks h).mono fun r _ s hr => ?_)
      obtain ⟨offer, problem⟩ := r
      refine Prog.Obeys.bind ((ih hr.1).mono fun r _ s hr' => ?_)
      obtain ⟨problems, lines⟩ := r
      cases problem with
      | some problem => exact ⟨hr'.1, fun hnil => by cases hnil⟩
      | none =>
          obtain ⟨offer, rfl⟩ := hr.2 rfl
          exact ⟨hr'.1, fun hnil => congrArg (item :: ·) (hr'.2 hnil)⟩

/-- A line is consumed: its offer is locked. -/
lemma Holding.consume {st : Db} {c : Choice} {busy : Busy Row} {b : Bool}
    {s' : AppSession} {id : UUID} {m : Offer → Bool} {u : Offer → Offer} (h : Holding S s)
    (he : (.update (.offer id) m u : Op Row Event Bool).eval c busy st s = some (b, s')) :
    Holding (if b then insert id S else S) s' := by
  have hne : ∀ id', id' ≠ id → ¬ (fun k => k ≠ Key.offer id') (.offer id) → False :=
    fun id' hid hk => hk (by simpa using Ne.symm hid)
  have hlocked : ∀ id' ∈ S, s'.held.lookup (.offer id') ≠ none := by
    intro id' hid
    obtain ⟨hd, hhd⟩ := Option.ne_none_iff_exists'.mp (h.locked id' hid)
    obtain ⟨hd', hhd', -⟩ := (eval_extends he).kept _ hd hhd
    rw [hhd']
    exact Option.some_ne_none _
  have hother : ∀ id' ∉ S, id' ≠ id → s'.held.lookup (.offer id') = none ∧ s'.Untouched
      (.offer id') := by
    intro id' hid hne
    have hop : (.update (.offer id) m u : Op Row Event Bool).within fun k => k ≠ .offer id' := by
      simpa [Op.within] using Ne.symm hne
    exact ⟨held_none_of_within (fun hk => hk rfl) hop trivial (h.free id' hid).2
      (h.free id' hid).1 he,
      (h.free id' hid).2.step (fun hk => hk rfl) hop he⟩
  rcases eval_update he with ⟨rfl, rfl, -⟩ | ⟨r, rfl, -, -, rfl⟩
  · refine ⟨hlocked, fun id' hid => ?_⟩
    by_cases heq : id' = id
    · subst heq
      obtain ⟨hnone, huntouched⟩ := h.free id' hid
      rw [follow_held]
      exact ⟨hnone, Session.Untouched.iff_adds.mpr 
        ((Session.Untouched.iff_adds.mp huntouched).follow (k := .offer id') m u)⟩
    · exact hother id' hid heq
  · refine ⟨fun id' hid => ?_, fun id' hid => ?_⟩
    · rcases Set.mem_insert_iff.mp hid with rfl | hid
      · rw [follow_held, lookup_write_self]
        exact Option.some_ne_none _
      · exact hlocked id' hid
    · rw [if_pos rfl, Set.mem_insert_iff, not_or] at hid
      exact hother id' hid.2 hid.1

/-- The lines are consumed in their order. -/
lemma obeys_consumeItems_locks {orderId : UUID} {lines : List (CheckoutItem × Offer)} {line : ℕ}
    {pre : List CheckoutItem} (hitems : payload.items = pre ++ lines.map Prod.fst)
    (h : Holding {id | id ∈ pre.map CheckoutItem.offerId} s) :
    (consumeItems orderId line lines).Obeys idle (inOrder payload)
      (fun _ _ s => Holding {id | id ∈ payload.items.map CheckoutItem.offerId} s) () s := by
  induction lines generalizing line pre s with
  | nil =>
      rw [List.map_nil, List.append_nil] at hitems
      rw [hitems]
      exact h
  | cons l lines ih =>
      obtain ⟨item, offer⟩ := l
      refine ⟨fun id hid => ?_, fun st c busy b s' _ _ he => ?_⟩
      · cases hid
        rw [h.lockedOffers]
        exact ⟨pre, item, lines.map Prod.fst, hitems, rfl, fun _ => Iff.rfl⟩
      · have hs := h.consume he
        cases b with
        | false =>
            exact ⟨fun id hid => (by cases hid), fun _ _ _ _ _ _ _ _ =>
              ⟨fun id hid => (by cases hid), fun _ _ _ _ _ _ _ _ => trivial⟩⟩
        | true =>
            have hset : insert item.offerId {id | id ∈ pre.map CheckoutItem.offerId}
                = {id | id ∈ (pre ++ [item]).map CheckoutItem.offerId} := by
              ext id
              simp [or_comm]
            rw [if_pos rfl, hset] at hs
            have hitem : (newOrderItem orderId line item offer).AllOps Op.lockless :=
              ⟨trivial, fun _ => ⟨trivial, fun _ => ⟨trivial, fun _ => ⟨trivial, fun _ =>
                ⟨trivial, fun _ => trivial⟩⟩⟩⟩⟩
            refine Prog.Obeys.bind ((obeys_offerless
              (body_newOrderItem (fun id id' => by simp) orderId line item offer) hitem hs).mono
              fun _ _ s hs => ih ?_ hs)
            rw [hitems, List.append_assoc]
            rfl

/-- The checkout. -/
lemma obeys_checkout_locks {buyerId : UUID} (h : Holding ∅ s) :
    (checkout buyerId payload).Obeys idle (inOrder payload)
    (fun _ _ s => ∃ S, Holding S s) () s := by
  refine Prog.Obeys.bind ((obeys_validateItems_locks h).mono fun r _ s hr => ?_)
  obtain ⟨problems, lines⟩ := r
  obtain ⟨hs, hlines⟩ := hr
  dsimp only
  split
  · trivial
  · rename_i hnil
    have horder : (newOrder buyerId).AllOps Op.lockless :=
      ⟨trivial, fun _ => ⟨trivial, fun _ => ⟨trivial, fun _ => ⟨trivial, fun _ =>
        ⟨trivial, fun _ => trivial⟩⟩⟩⟩⟩
    refine Prog.Obeys.bind ((obeys_offerless (body_newOrder (fun id id' => by simp) buyerId)
      horder hs).mono fun orderId _ s hs => ?_)
    refine Prog.Obeys.bind ((obeys_offerless Prog.body_flush Prog.lockless_flush hs).mono
      fun _ _ s hs => ?_)
    have hitems : payload.items = [] ++ lines.map Prod.fst := (hlines (not_not.mp hnil)).symm
    have hempty : (∅ : Set UUID) = {id | id ∈
        ([] : List CheckoutItem).map CheckoutItem.offerId} := by
      ext id
      simp
    rw [hempty] at hs
    refine Prog.Obeys.bind ((obeys_consumeItems_locks hitems hs).mono fun _ _ s hs => ?_)
    refine Prog.Obeys.bind ((obeys_offerless Prog.body_flush Prog.lockless_flush hs).mono
      fun _ _ s hs => ?_)
    exact Prog.Obeys.mono (obeys_offerless ⟨trivial, fun _ => ⟨trivial, fun _ => trivial⟩⟩
      ⟨trivial, fun _ => ⟨trivial, fun _ => trivial⟩⟩ hs) fun _ _ s hs => ⟨_, hs⟩

/-- **A request for an order** consumes its lines in order. -/
lemma obeys_createOrder_locks (buyer : CurrentUser) :
    (OrderRequest.createOrder payload buyer).run.Obeys idle (inOrder payload)
      (fun _ _ _ => True) () ∅ := by
  have hempty : Holding ∅ (∅ : AppSession) := ⟨fun _ hid => hid.elim, fun _ _ => ⟨rfl, .empty⟩⟩
  have hlift : ∀ {β : Type} (op : Op Row Event β) (s : AppSession),
      op.within offerless → op.lockless →
      (∃ S, Holding S s) → (Prog.lift op : Txn β).Obeys idle (inOrder payload)
        (fun _ _ s => ∃ S, Holding S s) () s := fun op s hop hfree ⟨S, hs⟩ =>
    Prog.Obeys.mono (obeys_offerless ⟨hop, fun _ => trivial⟩ ⟨hfree, fun _ => trivial⟩ hs)
      fun _ _ s hs => ⟨S, hs⟩
  have hrole : (requireBuyer buyer).AllOps Op.lockless := by
    rw [requireBuyer]
    split <;> trivial
  refine Prog.Obeys.bind (Prog.Obeys.bind ?_)
  refine Prog.Obeys.bind ((obeys_offerless (body_requireBuyer buyer) hrole hempty).mono
    fun _ _ s hs => ?_)
  refine Prog.Obeys.bind ((obeys_checkout_locks hs).mono fun orderId _ s hs => ?_)
  refine Prog.Obeys.bind (Prog.Obeys.mono
    (hlift _ s trivial (fun v => by simp) hs) fun items _ s hs => ?_)
  refine Prog.Obeys.bind (Prog.Obeys.mono (hlift _ s trivial trivial hs) fun order _ s hs => ?_)
  obtain ⟨S, hs⟩ := hs
  have hload : (loadOr (k := .order orderId) (.resourceNotFound "Order not found") order).AllOps
      Op.lockless := by cases order <;> trivial
  refine Prog.Obeys.bind ((obeys_offerless (body_loadOr _ _) hload hs).mono fun order _ s hs => ?_)
  refine Prog.Obeys.bind ((obeys_offerless Prog.body_flush Prog.lockless_flush hs).mono
    fun _ _ s hs => ?_)
  exact ⟨trivial, trivial⟩

end Holds

/-! ### Runs of checkouts -/

/-- The checkouts with the given payloads, one for each thread. -/
def ordering (payloads : ℕ → CheckoutRequest) (_ : Sys Row Event DomainError Unit) :
    Action Row Event DomainError Unit → Prop
  | .start t p => ∃ buyer, p = (OrderRequest.createOrder (payloads t) buyer).run
  | _ => True

/-- The offers a thread of a system has locked. -/
def lockedBy (s : Sys Row Event DomainError Unit) (t : ℕ) : Set UUID :=
  {id | ∃ th, s.threads.lookup t = some th ∧ th.session.held.lookup (.offer id) ≠ none}

/-- The offer a thread of a system updates next. -/
def nextOffer (s : Sys Row Event DomainError Unit) (t : ℕ) : Option UUID :=
  (s.threads.lookup t).bind fun th =>
    match th.prog with
    | .op op _ => updatedOffer op
    | _ => none

section Runs

variable {payloads : ℕ → CheckoutRequest} {st₀ : Db} {s : Sys Row Event DomainError Unit}

/-- A thread that is about to consume a line holds the offers of the lines before it. -/
lemma cut_of_reachable (h : Reachable (fun _ => True) (ordering payloads) (Sys.rest st₀) s) {t : ℕ}
    {id : UUID} (hnext : nextOffer s t = some id) : Cut (payloads t) (lockedBy s t) id := by
  obtain ⟨th, hth, hop⟩ := Option.bind_eq_some_iff.mp hnext
  obtain ⟨w, hw⟩ := h.watched (H := fun _ => True) idle fun _ _ _ => trivial
  obtain ⟨buyer, horigin⟩ := h.started
    (Q := fun t p => ∃ buyer, p = (OrderRequest.createOrder (payloads t) buyer).run)
    (fun _ _ _ _ hG => hG) t th hth
  have hobeys := hw.obeys t (fun buyer => (OrderRequest.createOrder (payloads t) buyer).run)
    (fun _ => inOrder (payloads t)) (fun _ _ _ _ => True) obeys_createOrder_locks
    (fun _ => trivial) (fun _ _ _ _ _ _ _ _ _ _ => trivial) th hth buyer horigin
  have hlocked : lockedBy s t = lockedOffers th.session := by
    ext id'
    refine ⟨fun ⟨th', hth', hid⟩ => ?_, fun hid => ⟨th, hth, hid⟩⟩
    rwa [← Option.some.inj (hth.symm.trans hth')] at hid
  rw [hlocked]
  split at hop
  · rename_i op k hp
    rw [hp] at hobeys
    exact hobeys.1 id hop
  · cases hop

/-- **Waiting checkouts cross.** In every run of checkouts whose payloads do not cross, no cycle of
checkouts wait for each other. -/
theorem no_deadlock (hfree : ¬ Crossing payloads)
    (h : Reachable (fun _ => True) (ordering payloads) (Sys.rest st₀) s) :
    ¬ ∃ t, Relation.TransGen (Waits s) t t := by
  rintro ⟨t, hcycle⟩
  refine hfree ⟨lockedBy s, fun t => (nextOffer s t).getD 0, fun t t' hne => ?_, t,
    Relation.TransGen.mono (fun t t' hwaits => ?_) t t hcycle⟩
  · obtain ⟨w, hw⟩ := h.watched (H := fun _ => True) idle fun _ _ _ => trivial
    rintro id ⟨th, hth, hid⟩ ⟨th', hth', hid'⟩
    exact (hw.ok.apart t t' th th' hne hth hth' (.offer id)).elim hid hid'
  · obtain ⟨hne, th, th', id, m, u, k, offer, hth, hp, -, -, hth', hheld⟩ := hwaits
    have hnext : nextOffer s t = some id := by
      rw [nextOffer, hth, Option.bind_some, hp]
      rfl
    simp only [hnext, Option.getD_some]
    exact ⟨hne, ⟨th', hth', hheld⟩, cut_of_reachable h hnext⟩

end Runs

/-! #### Mugs and plates -/

/-- Two checkouts take turns until both have consumed their first line. -/
def turnsRun (payloads : ℕ → CheckoutRequest) (n : ℕ) : List (Action Row Event DomainError Unit) :=
  [.start 0 (OrderRequest.createOrder (payloads 0) mugBuyer).run,
    .start 1 (OrderRequest.createOrder (payloads 1) mugBuyer).run]
  ++ Action.steps 0 19 100 ++ Action.steps 1 n 200

lemma turnsRun_admitted (payloads : ℕ → CheckoutRequest) (n : ℕ) :
    ∀ a ∈ turnsRun payloads n, ∀ s, ordering payloads s a := by
  intro a ha s
  have hsteps : ∀ t n m, a ∈ Action.steps t n m → ordering payloads s a := by
    intro t n m h
    obtain ⟨i, -, rfl⟩ := List.mem_map.mp h
    trivial
  simp only [turnsRun, List.mem_append, List.mem_cons, List.not_mem_nil, or_false] at ha
  rcases ha with ((rfl | rfl) | h) | h
  · exact ⟨mugBuyer, rfl⟩
  · exact ⟨mugBuyer, rfl⟩
  · exact hsteps _ _ _ h
  · exact hsteps _ _ _ h

/-- The first checkout has taken a mug, and the second waits for it. -/
theorem no_deadlock_table : ∃ s, nextOffer s 0 = some 4 ∧ nextOffer s 1 = some 3
    ∧ ¬ ∃ t, Relation.TransGen (Waits s) t t := by
  obtain ⟨s, hs⟩ := Option.isSome_iff_exists.mp (by decide +kernel :
    ((Sys.run (turnsRun (fun _ => tableCheckout true) 13) (Sys.rest tableShop)).filter fun s =>
      nextOffer s 0 == some 4 && nextOffer s 1 == some 3).isSome = true)
  obtain ⟨hrun, hlast⟩ := Option.filter_eq_some_iff.mp hs
  obtain ⟨h₀, h₁⟩ := (Bool.and_eq_true _ _).mp hlast
  have hfree : ¬ Crossing fun _ => tableCheckout true :=
    ascending_not_crossing (fun id => id) fun _ => by decide
  refine ⟨s, eq_of_beq h₀, eq_of_beq h₁, no_deadlock hfree
    (reachable_of_admitted .init (fun a _ => ?_) (turnsRun_admitted _ 13) hrun)⟩
  cases a <;> trivial

/-- Whether a thread waits for another. -/
def waiting (s : Sys Row Event DomainError Unit) (t t' : ℕ) : Bool :=
  match s.threads.lookup t, s.threads.lookup t' with
  | some th, some th' =>
      match th.prog with
      | .op (.update (.offer id) m _) _ =>
          ((th.session.view s.committed).lookup (.offer id)).any m
            && (th'.session.held.lookup (.offer id)).isSome
      | _ => false
  | _, _ => false

lemma waits_of_waiting {s : Sys Row Event DomainError Unit} {t t' : ℕ} (hne : t ≠ t')
    (h : waiting s t t' = true) : Waits s t t' := by
  simp only [waiting] at h
  split at h
  · rename_i th th' hth hth'
    split at h
    · rename_i id m u k hp
      obtain ⟨hrow, hheld⟩ := (Bool.and_eq_true _ _).mp h
      obtain ⟨offer, hoffer, hmatch⟩ := Option.any_eq_true _ _ |>.mp hrow
      exact ⟨hne, th, th', id, m, u, k, offer, hth, hp, hoffer, hmatch, hth',
        Option.isSome_iff_ne_none.mp hheld⟩
    · cases h
  · cases h

/-- **Two checkouts can wait for each other**: one has taken a mug and waits for a plate, the other
has taken a plate and waits for a mug. -/
theorem table_deadlock :
    ¬ ∀ (payloads : ℕ → CheckoutRequest) (st₀ : Db) (s : Sys Row Event DomainError Unit),
      Reachable (fun _ => True) (ordering payloads) (Sys.rest st₀) s →
        ¬ ∃ t, Relation.TransGen (Waits s) t t := by
  intro hclaim
  obtain ⟨s, hs⟩ := Option.isSome_iff_exists.mp (by decide +kernel :
    ((Sys.run (turnsRun (fun t => tableCheckout (t == 0)) 19) (Sys.rest tableShop)).filter fun s =>
      waiting s 0 1 && waiting s 1 0).isSome = true)
  obtain ⟨hrun, hlast⟩ := Option.filter_eq_some_iff.mp hs
  obtain ⟨h₀, h₁⟩ := (Bool.and_eq_true _ _).mp hlast
  refine hclaim _ _ s (reachable_of_admitted .init (fun a _ => ?_) (turnsRun_admitted _ 19) hrun)
    ⟨0, .tail (.single (waits_of_waiting (by decide) h₀)) (waits_of_waiting (by decide) h₁)⟩
  cases a <;> trivial

end MarketHub
