import MarketHub.Orders.EventLog
import MarketHub.Communication.Refusal
import MarketHub.Communication.Staleness

/-!
What stays as it is, whatever requests run at the same time.

* `MayCancel`, `wp_serviceRequest_by`: no request of the service reports a cancellation that nobody
  may make.
* `item_log_faithful`: the log of the committed transactions tells the status of every item, however
  the transactions were interleaved.
* `Evolves`: what the rows of a later state have kept of those of an earlier one. Items and
  conversations keep their columns but a few, statuses only go on, messages stay, and a closed
  conversation gets no message from a user. `histories_kept` says this of every run.
-/

namespace MarketHub

open ReadCommitted Session

/-! ### Cancellations -/

/-- Every cancellation that is reported is one that some user may make. -/
def MayCancel (events : List Event) : Prop :=
  ∀ i before, .orderItemStatusChanged i before .cancelled ∈ events →
    ∃ role, canCancel before role = true

lemma CancelledBy.mayCancel {r : OrderRequest} {events : List Event} (h : CancelledBy r events) :
    MayCancel events := by
  intro i before hmem
  obtain ⟨user, -, hmay⟩ := h i before hmem
  exact ⟨user.role, hmay⟩

/-- An item whose row is as it was has met with nothing. -/
lemma ItemDeed.eq_nil {T : Terms} {i : UUID} {b b' : Option OrderItem} {events : List Event}
    (h : ItemDeed T i b b' events) (hsame : b' = b) : events = [] := by
  cases h with
  | nothing => rfl
  | ordered _ => rfl
  | @advanced b status now _ hforward =>
      obtain rfl : status = b.status := congrArg OrderItem.status (Option.some.inj hsame)
      cases hstatus : b.status <;> rw [hstatus] at hforward <;> cases hforward
  | @cancelled b now _ hlive =>
      have hstatus : OrderItemStatus.cancelled = b.status :=
        congrArg OrderItem.status (Option.some.inj hsame)
      exact absurd hstatus.symm hlive

/-- Who writes no item reports nothing about one. -/
lemma Did.mayCancel {T : Terms} {settings : Settings} {F : Key → Prop} {st : Db} {s : AppSession}
    (h : Did T settings st s) (hkept : Kept F st s) (hF : ∀ i, ¬ F (.orderItem i)) :
    MayCancel s.pending := by
  obtain ⟨news, hdeeds⟩ := h
  intro i before hmem
  have hnil := (hdeeds.item i).eq_nil (hkept (.orderItem i) (hF i))
  have hin : Event.orderItemStatusChanged i before .cancelled
      ∈ s.pending.filter (Event.concernsItem i) :=
    List.mem_filter.mpr ⟨hmem, by simp [Event.concernsItem]⟩
  rw [hnil] at hin
  cases hin

section Requests

variable {o : Outline Row Event} {st : Db} {T : Terms} {settings : Settings}

/-- **Every request does a deed, and reports no cancellation that nobody may make.** -/
theorem wp_serviceRequest_by (hT : Tells o T)
    (hdid : ∀ st s, Did T settings st s → MayCancel s.pending → o.commit st s) (r : ServiceRequest)
    (hgiven : ∀ t, r.given = some t → T.clock t) :
    wp o (r.run settings) (fun _ _ _ => True) st ∅ := by
  have hother : (∀ i, ¬ r.tables (.orderItem i)) →
      wp o (r.run settings) (fun _ _ _ => True) st ∅ := by
    intro htables
    have hT' : ∀ C : Db → AppSession → Prop, Tells (o.at C) T := fun C =>
      ⟨hT.moved, hT.clock, hT.expired⟩
    have hd : wp (o.at (Did T settings)) (r.run settings) (fun _ _ _ => True) st ∅ :=
      wp_serviceRequest (hT' _) (fun _ _ h => h) (fun _ _ => trivial) r hgiven
    have hk : wp (o.at (Kept r.tables)) (r.run settings) (fun _ _ _ => True) st ∅ :=
      wp_within (r.run_within settings) (fun _ _ _ h => h) fun _ _ _ => trivial
    exact wp_commit_mono (fun st s h => hdid st s h.1 (h.1.mayCancel h.2 htables))
      (wp_and (o := o) hd hk)
  cases r with
  | order request =>
      exact wp_orderRequest_by hT request (fun st s h hby => hdid st s h hby.mayCancel)
        fun _ _ => trivial
  | catalog request => exact hother fun _ h => h
  | conversation request => exact hother fun _ h => h
  | ops request => exact hother fun _ h => h
  | runReconcile now pageSize fuel => exact hother fun _ h => h

end Requests

/-! ### The log of the items -/

/-- The story of every item since the rows `st₀`. -/
def ItemStories (st₀ st : Db) (log : List Event) : Prop :=
  ∀ i, ItemStory i (Db.orderItem st₀ i) (Db.orderItem st i) log

/-- What a request commits. -/
def DidFairly (settings : Settings) (st : Db) (s : AppSession) : Prop :=
  Did freeTerms settings st s ∧ MayCancel s.pending

/-- The assumptions and obligations of the stories. -/
def storiesOutline (settings : Settings) (st₀ : Db) : Outline Row Event where
  inv := ItemStories st₀
  commit := DidFairly settings

lemma storiesOutline_sound (settings : Settings) (st₀ : Db) :
    (storiesOutline settings st₀).Sound where
  keeps st log s hinv _ hcommit i := by
    obtain ⟨⟨news, hdeeds⟩, hmay⟩ := hcommit
    exact (hinv i).step (hdeeds.item i) (hmay i)
  relied _ _ _ _ _ _ _ _ _ := trivial

section Runs

variable {settings : Settings} {st₀ : Db} {s s' : Sys Row Event DomainError Unit}

lemma ok_stories (h : Reachable (IsServiceRequest settings) (fun _ _ => True) (Sys.rest st₀) s) :
    s.Ok (storiesOutline settings st₀) fun _ _ _ => True := by
  refine h.ok (storiesOutline_sound settings st₀) (fun _ => itemStory_nil) ?_
    (fun _ _ _ _ _ _ _ _ _ _ => trivial)
  rintro p ⟨r, rfl⟩ st log -
  exact wp_serviceRequest_by (free_tells _) (fun _ _ hdid hmay => And.intro hdid hmay) r
    fun _ _ => trivial

/-- **The log of the items is faithful under every interleaving.** Whatever requests of the service
run at the same time: the committed events of an item lead, in the order of the commits, from the
status it had at the start (`placed` for a new item) to its status now, by steps forward and
cancellations that some user may make; nothing follows `delivered` or `cancelled`; an item that does
not exist has no events; every cancellation is reported with what `restores_stock_on_cancel` says of
the status it left; and what is published, or waits for it, is the log in some order. -/
theorem item_log_faithful (settings : Settings) (st₀ : Db) {s : Sys Row Event DomainError Unit}
    (h : Reachable (IsServiceRequest settings) (fun _ _ => True) (Sys.rest st₀) s) :
    (∀ i r, Db.orderItem s.committed i = some r →
        Trail StatusStep (startStatus (Db.orderItem st₀ i)) (statusChanges i s.log) r.status)
      ∧ (∀ i l step l', statusChanges i s.log = l ++ step :: l' →
          step.2 = .delivered ∨ step.2 = .cancelled → l' = [])
      ∧ (∀ i, Db.orderItem s.committed i = none →
          Db.orderItem st₀ i = none ∧ statusChanges i s.log = [])
      ∧ (∀ i, cancellations i s.log
          = (cancels (statusChanges i s.log)).map fun step => restoresStockOnCancel step.1)
      ∧ (announced s).Perm s.log := by
  have hstories : ItemStories st₀ s.committed s.log := (ok_stories h).inv
  refine ⟨fun i => (hstories i).replays, fun i l step l' hl hlast => ?_,
    fun i => (hstories i).unknown,
    fun i => (hstories i).cancelled, List.perm_iff_count.mpr fun e => ?_⟩
  · cases hr : Db.orderItem s.committed i with
    | none =>
        rw [((hstories i).unknown hr).2] at hl
        simp at hl
    | some r =>
        have htrail := (hstories i).replays r hr
        rw [hl] at htrail
        exact trail_last htrail hlast
  · rw [announced, List.count_append, h.count_published]

end Runs

/-- The seller begins to prepare the mugs while their buyer cancels them. -/
def advanceOrCancel : List (Action Row Event DomainError Unit) :=
  [.start 1 ((ServiceRequest.order (.updateOrderItemStatus 5 .preparing ⟨8, .seller, some 1⟩)).run
    {}),
    .start 2 ((ServiceRequest.order (.cancelOrderItem 5 ⟨7, .buyer, none⟩)).run {})]
  ++ Action.steps 1 10 100 ++ Action.steps 2 12 200

lemma advanceOrCancel_starts : ∀ a ∈ advanceOrCancel, a.Starts (IsServiceRequest {}) := by
  intro a ha
  simp only [advanceOrCancel, List.mem_append, List.mem_cons, List.not_mem_nil, or_false] at ha
  rcases ha with ((rfl | rfl) | h) | h
  · exact ⟨_, rfl⟩
  · exact ⟨_, rfl⟩
  all_goals exact Action.starts_of_mem_steps h

/-- What is shown of the item of the mugs. -/
def shownMugs (s : Sys Row Event DomainError Unit) :
    Option OrderItemStatus × List (OrderItemStatus × OrderItemStatus) × List Bool :=
  ((Db.orderItem s.committed 5).map OrderItem.status, statusChanges 5 s.log, cancellations 5 s.log)

theorem item_log_faithful_mugs : ∃ s, Sys.run advanceOrCancel (Sys.rest mugOrder) = some s
    ∧ (statusChanges 5 s.log, cancellations 5 s.log)
      = ([(.placed, .preparing), (.preparing, .cancelled)], [true])
    ∧ Trail StatusStep .placed (statusChanges 5 s.log) .cancelled := by
  have hshown : (Sys.run advanceOrCancel (Sys.rest mugOrder)).map shownMugs
      = some (some .cancelled, [(.placed, .preparing), (.preparing, .cancelled)], [true]) := by
    decide +kernel
  obtain ⟨s, hs, hmugs⟩ := Option.map_eq_some_iff.mp hshown
  have hreach : Reachable (IsServiceRequest {}) (fun _ _ => True) (Sys.rest mugOrder) s :=
    reachable_of_run (fun _ _ => trivial) .init advanceOrCancel_starts hs
  have hitem : (Db.orderItem s.committed 5).map OrderItem.status = some .cancelled :=
    congrArg Prod.fst hmugs
  obtain ⟨r, hr, hcancelled⟩ := Option.map_eq_some_iff.mp hitem
  have htrail := (item_log_faithful {} mugOrder hreach).1 5 r hr
  rw [hcancelled] at htrail
  exact ⟨s, hs, congrArg Prod.snd hmugs, htrail⟩

/-! ### What stays -/

/-- What an item keeps: all but its status and the times of its changes; and the status only goes
on. -/
structure ItemKept (b b' : OrderItem) : Prop where
  orderId : b'.orderId = b.orderId
  offerId : b'.offerId = b.offerId
  line : b'.line = b.line
  quantity : b'.quantity = b.quantity
  purchasePrice : b'.purchasePrice = b.purchasePrice
  createdAt : b'.createdAt = b.createdAt
  status : Relation.ReflTransGen StatusStep b.status b'.status

/-- What a conversation keeps; and it is not opened again. -/
structure ConversationKept (b b' : Conversation) : Prop where
  orderItemId : b'.orderItemId = b.orderItemId
  reason : b'.reason = b.reason
  createdAt : b'.createdAt = b.createdAt
  closed : b.status = .closed → b'.status = .closed

/-- The message of an inactivity closure. -/
def Message.isClosing (m : Message) : Prop :=
  ∃ now, m = closingMessage m.conversationId now

/-- What later rows have kept of earlier ones. -/
structure Evolves (st st' : Db) : Prop where
  item : ∀ i b, Db.orderItem st i = some b → ∃ b', Db.orderItem st' i = some b' ∧ ItemKept b b'
  conversation : ∀ c b, Db.conversation st c = some b →
    ∃ b', Db.conversation st' c = some b' ∧ ConversationKept b b'
  message : ∀ id m, Db.message st id = some m → Db.message st' id = some m
  sent : ∀ id m, Db.message st' id = some m →
    Db.message st id = some m ∨ ¬ Closed m.conversationId st ∨ m.isClosing

lemma ItemKept.refl (b : OrderItem) : ItemKept b b := ⟨rfl, rfl, rfl, rfl, rfl, rfl, .refl⟩

lemma ItemKept.trans {b b' b'' : OrderItem} (h : ItemKept b b') (h' : ItemKept b' b'') :
    ItemKept b b'' where
  orderId := h'.orderId.trans h.orderId
  offerId := h'.offerId.trans h.offerId
  line := h'.line.trans h.line
  quantity := h'.quantity.trans h.quantity
  purchasePrice := h'.purchasePrice.trans h.purchasePrice
  createdAt := h'.createdAt.trans h.createdAt
  status := h.status.trans h'.status

lemma ConversationKept.trans {b b' b'' : Conversation} (h : ConversationKept b b')
    (h' : ConversationKept b' b'') : ConversationKept b b'' where
  orderItemId := h'.orderItemId.trans h.orderItemId
  reason := h'.reason.trans h.reason
  createdAt := h'.createdAt.trans h.createdAt
  closed hb := h'.closed (h.closed hb)

namespace Evolves

lemma refl (st : Db) : Evolves st st where
  item _ b hb := ⟨b, hb, .refl b⟩
  conversation _ b hb := ⟨b, hb, rfl, rfl, rfl, id⟩
  message _ _ h := h
  sent _ _ h := .inl h

/-- A closed conversation is not opened again. -/
lemma closed {st st' : Db} (h : Evolves st st') {c : UUID} (hc : Closed c st) : Closed c st' := by
  obtain ⟨b, hb, hclosed⟩ := hc
  obtain ⟨b', hb', hkept⟩ := h.conversation c b hb
  exact ⟨b', hb', hkept.closed hclosed⟩

lemma trans {st st' st'' : Db} (h : Evolves st st') (h' : Evolves st' st'') : Evolves st st'' where
  item i b hb := by
    obtain ⟨b', hb', hkept⟩ := h.item i b hb
    obtain ⟨b'', hb'', hkept'⟩ := h'.item i b' hb'
    exact ⟨b'', hb'', hkept.trans hkept'⟩
  conversation c b hb := by
    obtain ⟨b', hb', hkept⟩ := h.conversation c b hb
    obtain ⟨b'', hb'', hkept'⟩ := h'.conversation c b' hb'
    exact ⟨b'', hb'', hkept.trans hkept'⟩
  message id m hm := h'.message id m (h.message id m hm)
  sent id m hm := by
    rcases h'.sent id m hm with hold | hopen | hclosing
    · exact h.sent id m hold
    · exact .inr (.inl fun hc => hopen (h.closed hc))
    · exact .inr (.inr hclosing)

end Evolves

section Kept

variable {T : Terms} {settings : Settings} {st : Db} {s : AppSession}

lemma ItemDeed.kept {i : UUID} {b b' : Option OrderItem} {events : List Event}
    (h : ItemDeed T i b b' events)
    (hmay : ∀ before, .orderItemStatusChanged i before .cancelled ∈ events →
      ∃ role, canCancel before role = true) :
    ∀ r, b = some r → ∃ r', b' = some r' ∧ ItemKept r r' := by
  intro r hr
  cases h with
  | nothing => exact ⟨r, hr, .refl r⟩
  | ordered _ => cases hr
  | advanced now _ hforward =>
      cases hr
      exact ⟨_, rfl, rfl, rfl, rfl, rfl, rfl, rfl, .single (.inl hforward)⟩
  | cancelled now _ hlive =>
      cases hr
      have hrole := hmay r.status (List.mem_cons_of_mem _ List.mem_cons_self)
      exact ⟨_, rfl, rfl, rfl, rfl, rfl, rfl, rfl, .single (.inr ⟨rfl, hrole⟩)⟩

lemma Deed.kept {c : UUID} {b b' : Option Conversation} {news : Option (UUID × Message)}
    {events : List Event} (h : Deed T settings st c b b' news events) :
    ∀ r, b = some r → ∃ r', b' = some r' ∧ ConversationKept r r' := by
  intro r hr
  cases h with
  | nothing => exact ⟨r, hr, rfl, rfl, rfl, id⟩
  | created _ _ _ _ _ _ => cases hr
  | messaged _ user content now _ hopen _ =>
      cases hr
      exact ⟨_, rfl, rfl, rfl, rfl, id⟩
  | @expired x seen b id now _ hopen _ _ =>
      cases hr
      refine ⟨_, rfl, ?_, ?_, ?_, fun _ => patch_expire_status hopen⟩ <;>
        simp [Conversation.patch, column, Conversation.expire, Conversation.touch]
  | shut now _ hopen =>
      cases hr
      exact ⟨_, rfl, rfl, rfl, rfl, fun _ => rfl⟩
  | @recalculated v x item b now _ _ _ _ =>
      cases hr
      refine ⟨_, rfl, ?_, ?_, ?_, fun hclosed => patch_recalculate_status.trans hclosed⟩ <;>
        simp [Conversation.patch, column]
  | overridden b override now _ _ =>
      cases hr
      exact ⟨_, rfl, rfl, rfl, rfl, id⟩

/-- A deed sends a message to its conversation, and a user's message only to an open one. -/
lemma Deed.news_open {c id : UUID} {m : Message} {b b' : Option Conversation}
    {news : Option (UUID × Message)} {events : List Event}
    (h : Deed T settings st c b b' news events) (hnews : news = some (id, m)) :
    m.conversationId = c ∧ ((∃ r, b = some r ∧ r.status = .opened) ∨ m.isClosing) := by
  cases h with
  | @messaged b _ id user content now _ hopen _ =>
      cases hnews
      exact ⟨rfl, .inl ⟨b, rfl, hopen⟩⟩
  | expired b id now _ _ _ _ =>
      cases hnews
      exact ⟨rfl, .inr ⟨now, rfl⟩⟩
  | _ => cases hnews

/-- What a commit keeps. -/
lemma DidFairly.evolves (h : DidFairly settings st s) : Evolves st (merge st s.held) := by
  obtain ⟨⟨news, hdeeds⟩, hmay⟩ := h
  refine ⟨fun i => (hdeeds.item i).kept fun before hmem =>
    hmay i before (List.mem_of_mem_filter hmem), fun c => (hdeeds.conversation c).kept,
    fun id m hm => ?_, fun id m hm => ?_⟩
  · -- a new message has a new identifier
    rw [hdeeds.kept id fun c m' hnews => ?_]
    · exact hm
    · have hnone := (hdeeds.sent c id m' hnews).1
      rw [hm] at hnone
      cases hnone
  · by_cases hnews : ∃ c m', news c = some (id, m')
    · obtain ⟨c, m', hnews⟩ := hnews
      obtain rfl : m' = m := Option.some.inj ((hdeeds.sent c id m' hnews).2.symm.trans hm)
      obtain ⟨rfl, hopen | hclosing⟩ := (hdeeds.conversation c).news_open hnews
      · obtain ⟨r, hr, hstatus⟩ := hopen
        refine .inr (.inl ?_)
        rintro ⟨r', hr', hclosed⟩
        rw [hr] at hr'
        cases hr'
        rw [hstatus] at hclosed
        cases hclosed
      · exact .inr (.inr hclosing)
    · push Not at hnews
      rw [hdeeds.kept id hnews] at hm
      exact .inl hm

end Kept

/-- **What every later state keeps.** From any state that the service reaches to any later one,
whatever requests run at the same time: items keep their order, offer, line, quantity, price and
creation, and their status only goes on; conversations keep their item, reason and creation, and a
closed one stays closed; messages stay as they are; and a conversation that was closed gets no
message but that of an inactivity closure. -/
theorem histories_kept (settings : Settings) (st₀ : Db) {s s' : Sys Row Event DomainError Unit}
    (h : Reachable (IsServiceRequest settings) (fun _ _ => True) (Sys.rest st₀) s)
    (h' : Reachable (IsServiceRequest settings) (fun _ _ => True) s s') :
    Evolves s.committed s'.committed :=
  Reachable.moves (o := storiesOutline settings st₀) Evolves.refl
    (fun _ _ _ => Evolves.trans) (fun _ _ _ hdid => hdid.evolves) (fun _ => ok_stories) h h'

theorem histories_kept_mugs : ∃ s s', Sys.run (advanceOrCancel.take 12) (Sys.rest mugOrder) = some s
    ∧ Sys.run (advanceOrCancel.drop 12) s = some s'
    ∧ (Db.orderItem s.committed 5).map OrderItem.status = some .preparing
    ∧ (Db.orderItem s'.committed 5).map OrderItem.status = some .cancelled
    ∧ Evolves s.committed s'.committed := by
  have hshown : ((Sys.run (advanceOrCancel.take 12) (Sys.rest mugOrder)).bind fun s =>
      (Sys.run (advanceOrCancel.drop 12) s).map fun s' => ((shownMugs s).1, (shownMugs s').1))
      = some (some .preparing, some .cancelled) := by
    decide +kernel
  obtain ⟨s, hs, hrest⟩ := Option.bind_eq_some_iff.mp hshown
  obtain ⟨s', hs', hmugs⟩ := Option.map_eq_some_iff.mp hrest
  have hreach : Reachable (IsServiceRequest {}) (fun _ _ => True) (Sys.rest mugOrder) s :=
    reachable_of_run (fun _ _ => trivial) .init
      (fun a ha => advanceOrCancel_starts a (List.mem_of_mem_take ha)) hs
  have hreach' : Reachable (IsServiceRequest {}) (fun _ _ => True) s s' :=
    reachable_of_run (fun _ _ => trivial) .init
      (fun a ha => advanceOrCancel_starts a (List.mem_of_mem_drop ha)) hs'
  exact ⟨s, s', hs, hs', congrArg Prod.fst hmugs, congrArg Prod.snd hmugs,
    histories_kept {} mugOrder hreach hreach'⟩

end MarketHub
