import MarketHub.Communication.Requests

/-!
The status requests of order items, under interference.

* `Working.did_item`: the deed of a session on one item once it is flushed.
* `wp_advance`, `wp_cancel`: what `update_order_item_status` and `cancel_order_item` do
  to the items and conversations.
-/

namespace MarketHub

open ReadCommitted Session

namespace Working

variable {k : Key} {b cur : Row k} {news : Option (UUID × Message)} {s s' : AppSession}

/-- A row of another table is written. -/
lemma write (h : Working k b cur news s) (st : Db) {k' : Key} (hk : k ≠ k')
    (htracked : k'.tracked = false) (r : Option (Row k')) :
    Working k b cur news (s.write st k' r) where
  held := by
    rw [lookup_write_ne st s k' hk]
    exact h.held
  object := h.object
  clean := h.clean
  sent id m hm := by
    rw [lookup_write_ne st s k' (by rintro rfl; cases htracked)]
    exact h.sent id m hm
  still k₁ hd htr hkd := by
    rw [lookup_write_ne st s k' (by rintro rfl; rw [htracked] at htr; cases htr)] at hkd
    exact h.still k₁ hd htr hkd

/-- The object of another row follows an `UPDATE`. -/
lemma follow (h : Working k b cur news s) {k' : Key} (hk : k ≠ k') (m : Row k' → Bool)
    (f : Row k' → Row k') : Working k b cur news (s.follow k' m f) where
  held := by
    rw [follow_held]
    exact h.held
  object := by
    rw [Session.follow]
    split
    · split
      · rw [lookup_sync_ne s k' hk]
        exact h.object
      · exact h.object
    · exact h.object
  clean k₁ o hk₁ ho := (lookup_follow_cases ho).elim (fun hcl => hcl) (h.clean k₁ o hk₁)
  sent id m' hm := by
    rw [follow_held]
    exact h.sent id m' hm
  still k₁ hd htr hkd := by
    rw [follow_held] at hkd
    exact h.still k₁ hd htr hkd

/-- The deeds of a session on an item once it is flushed. -/
lemma did_item {i : UUID} {b cur : OrderItem} (h : Working (.orderItem i) b cur none s)
    (hflush : s.Flushes s') {T : Terms} {settings : Settings} {st : Db} (hag : Agrees s'.held st)
    (hdeed : ItemDeed T i (some b) (some cur) (s.pending.filter (Event.concernsItem i)))
    (hother : ∀ i', i' ≠ i → s.pending.filter (Event.concernsItem i') = [])
    (hconv : ∀ c, s.pending.filter (Event.concerns c) = []) : Did T settings st s' := by
  refine ⟨fun _ => none, ⟨fun c => ?_, fun i' => ?_, fun _ _ _ hm => (by cases hm), fun id _ => ?_⟩⟩
  · rw [hflush.pending, hconv c, Db.conversation, Db.conversation,
      h.merge_still hflush hag (j := .conversation c) rfl (by simp) (by simp)]
    exact .nothing _
  · rw [hflush.pending]
    by_cases hi : i' = i
    · subst hi
      have hheld := h.flushes_held hflush
      rw [Db.orderItem, Db.orderItem, hag _ _ hheld, lookup_merge_of_held hheld]
      exact hdeed
    · rw [hother i' hi, Db.orderItem, Db.orderItem,
        h.merge_still hflush hag (j := .orderItem i') rfl (by simpa using hi) (by simp)]
      exact .nothing _
  · exact h.merge_still hflush hag (j := .message id) rfl (by simp) (by simp)

end Working

section Progress

variable {α : Type} {o : Outline Row Event} {post : α → Db → AppSession → Prop} {st : Db}
  {T : Terms} {settings : Settings} {i : UUID} {b cur : OrderItem} {s : AppSession}

/-- The end of a request that sends the change of its item and records its events. -/
lemma wp_finish_item {a : α} {l : List Event} (hT : Tells o T)
    (hdid : ∀ st s, Did T settings st s → s.pending = l → o.commit st s)
    (hpost : ∀ a st, post a st ∅)
    (h : Working (.orderItem i) b cur none s) (hpending : s.pending = [])
    (hdeed : ItemDeed T i (some b) (some cur) (l.filter (Event.concernsItem i)))
    (hother : ∀ i', i' ≠ i → l.filter (Event.concernsItem i') = [])
    (hconv : ∀ c, l.filter (Event.concerns c) = []) :
    wp o (Prog.flush.bind fun _ => (l.forM Prog.record).bind fun _ => Prog.flush.bind fun _ =>
      (.commit (.publish (.pure a)) : Txn α)) post st s := by
  refine wp_flush_exact T.moved T.moved_refl T.moved_trans hT.moved fun st₁ s₁ _ hflush hclean => ?_
  -- the events are recorded one by one
  have hrecord : ∀ (rest done : List Event) st₂, done ++ rest = l →
      wp o ((rest.forM Prog.record).bind fun _ => Prog.flush.bind fun _ =>
        (.commit (.publish (.pure a)) : Txn α)) post st₂ { s₁ with pending := done } := by
    intro rest
    induction rest with
    | nil =>
        intro done st₂ hdone
        rw [List.append_nil] at hdone
        subst hdone
        refine wp_end T.moved T.moved_refl T.moved_trans hT.moved fun st₃ s₃ _ hflush' hag => ?_
        have hboth := (hflush.record done).again hclean hflush'
        exact ⟨hdid _ _ ((h.record done).did_item hboth hag hdeed hother hconv) hboth.pending,
          fun _ _ => hpost _ _⟩
    | cons e rest ih =>
        intro done st₂ hdone
        refine wp_record fun st₃ _ => ih (done ++ [e]) st₃ ?_
        rw [List.append_assoc, ← hdone]
        rfl
  have hstart := hrecord l [] st₁ rfl
  rw [← hpending, ← hflush.pending] at hstart
  exact hstart

/-- A request cancels no item but the one it is asked to cancel, and that one from a
status its user may cancel from. -/
def CancelledBy (r : OrderRequest) (events : List Event) : Prop :=
  ∀ i f, .orderItemStatusChanged i f .cancelled ∈ events →
    ∃ user, r = .cancelOrderItem i user ∧ canCancel f user.role = true

lemma cancelledBy_nil (r : OrderRequest) : CancelledBy r [] := fun i f h => by simp at h

/-- **`update_order_item_status`.** -/
theorem wp_advance (hT : Tells o T) (status : OrderItemStatus) (seller : CurrentUser)
    (hdid : ∀ st s, Did T settings st s →
      CancelledBy (.updateOrderItemStatus i status seller) s.pending → o.commit st s)
    (hpost : ∀ a st, post a st ∅) (g : OrderItem → α) :
    wp o (ending (updateOrderItemStatus i status seller) g) post st ∅ := by
  simp only [ending, updateOrderItemStatus, Prog.bind_eq, Prog.pure_eq, Prog.bind_assoc]
  refine wp_requireSeller fun sellerId _ => wp_loadSellerItem fun st₁ item s₁ _ _ hs => ?_
  split
  · exact wp_finish_still hT (fun st s h hp => hdid st s h (hp ▸ cancelledBy_nil _)) hpost hs.clean
      hs.pending fun k hd _ hk => hs.unmoved k hd hk
  · simp only [Prog.bind_assoc, setStatus, Prog.bind_eq, Prog.pure_eq]
    refine wp_assertForwardTransition fun hforward => ?_
    refine wp_utcnow fun st₂ ch _ hg => wp_assign fun st₃ ob _ hob => ?_
    obtain rfl : ob = ⟨some item, item⟩ := Option.some.inj (hob.symm.trans hs.object)
    have hdeed := ItemDeed.advanced (T := T) (i := i) ch.now (hT.clock _ _ _ hg) hforward
    have hby : CancelledBy (.updateOrderItemStatus i status seller)
        [.orderItemStatusChanged i item.status status] := by
      intro i' f hmem
      cases List.mem_singleton.mp hmem
      exact absurd rfl (forward_ne_cancelled hforward).2
    refine wp_finish_item (l := [.orderItemStatusChanged i item.status status]) hT
      (fun st s h hp => hdid st s h (hp ▸ hby)) hpost
      ((working_of_opened hs).assign (item.withStatus status ch.now)) hs.pending ?_ ?_ fun c => rfl
    · simpa [Event.concernsItem] using hdeed
    · intro i' hi
      simp [Event.concernsItem, hi.symm]

/-- **`cancel_order_item`.** -/
theorem wp_cancel (hT : Tells o T) (user : CurrentUser)
    (hdid : ∀ st s, Did T settings st s → CancelledBy (.cancelOrderItem i user) s.pending →
      o.commit st s) (hpost : ∀ a st, post a st ∅) (g : OrderItem → α) :
    wp o (ending (cancelOrderItem i user) g) post st ∅ := by
  simp only [ending, cancelOrderItem, Prog.bind_eq, Prog.pure_eq, Prog.bind_assoc]
  refine wp_loadItemToCancel fun st₁ item s₁ _ _ hs => ?_
  split
  · exact wp_finish_still hT (fun st s h hp => hdid st s h (hp ▸ cancelledBy_nil _)) hpost hs.clean
      hs.pending fun k hd _ hk => hs.unmoved k hd hk
  rename_i hlive
  split
  · trivial
  rename_i hmay
  -- the status it is cancelled from allows it for this user
  have hby : CancelledBy (.cancelOrderItem i user)
      [.orderItemCancelled i (restoresStockOnCancel item.status),
        .orderItemStatusChanged i item.status .cancelled] := by
    intro i' f hmem
    simp only [List.mem_cons, reduceCtorEq, Event.orderItemStatusChanged.injEq, and_true,
      List.not_mem_nil, or_false, false_or] at hmem
    obtain ⟨rfl, rfl⟩ := hmem
    exact ⟨user, rfl, by simpa using hmay⟩
  simp only [Prog.bind_assoc, setStatus, Prog.bind_eq, Prog.pure_eq]
  refine wp_utcnow fun st₂ ch _ hg => wp_assign fun st₃ ob _ hob => ?_
  obtain rfl : ob = ⟨some item, item⟩ := Option.some.inj (hob.symm.trans hs.object)
  have hwork := (working_of_opened hs).assign (item.withStatus .cancelled ch.now)
  have hdeed := ItemDeed.cancelled (T := T) (i := i) ch.now (hT.clock _ _ _ hg) hlive
  -- the end of the transaction, with the stock given back or not
  have hend : ∀ st₄ s₄, Working (.orderItem i) item (item.withStatus .cancelled ch.now) none s₄ →
      s₄.pending = [] → wp o (Prog.flush.bind fun _ =>
        (Prog.record (.orderItemCancelled i (restoresStockOnCancel item.status))).bind fun _ =>
          (Prog.record (.orderItemStatusChanged i item.status .cancelled)).bind fun _ =>
            Prog.flush.bind fun _ =>
              (.commit (.publish (.pure (g (item.withStatus .cancelled ch.now)))) : Txn α))
        post st₄ s₄ := by
    intro st₄ s₄ hwork₄ hpending
    refine wp_finish_item (l := [.orderItemCancelled i (restoresStockOnCancel item.status),
      .orderItemStatusChanged i item.status .cancelled]) hT
      (fun st s h hp => hdid st s h (hp ▸ hby))
      hpost hwork₄ hpending ?_ ?_ fun c => rfl
    · simpa [Event.concernsItem] using hdeed
    · intro i' hi
      simp [Event.concernsItem, hi.symm]
  split
  · simp only [restoreStock, Prog.bind_eq, Prog.pure_eq, Prog.bind_assoc]
    refine wp_update (fun st₄ _ _ => ?_) fun st₄ r _ _ _ => ?_
    · exact hend st₄ _ (hwork.follow (by simp) _ _) ((follow_pending ..).trans hs.pending)
    · refine hend st₄ _ ((hwork.write st₄ (by simp) rfl _).follow (by simp) _ _) ?_
      rw [follow_pending, write_pending]
      exact hs.pending
  · change wp o ((Prog.flush.bind _).bind _) post st₃ _
    simp only [Prog.bind_assoc]
    exact hend st₃ _ hwork hs.pending

end Progress

end MarketHub
