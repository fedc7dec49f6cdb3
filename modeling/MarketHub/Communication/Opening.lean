import MarketHub.Communication.Requests
import MarketHub.Communication.Answers

/-!
Opening or reusing the conversation of an item, under interference.

* `openConversation`: the conversation that `_open_for_item` finds.
* `Handed`: what `create_conversation` answers and leaves behind.
* `wp_createConversation`: the request does a deed, and hands out a conversation so.
-/

namespace MarketHub

open ReadCommitted Session

/-! ### The open conversation of an item -/

/-- The open conversation of an item that `_open_for_item` finds. -/
def openConversation (itemId : UUID) (v : Db) : Option (UUID × Conversation) :=
  ((Db.conversations v).filter fun c => c.2.orderItemId == itemId && c.2.status == .opened).head?

lemma openConversation_spec {itemId id : UUID} {v : Db} {conversation : Conversation}
    (h : openConversation itemId v = some (id, conversation)) :
    Db.conversation v id = some conversation ∧ conversation.orderItemId = itemId
      ∧ conversation.status = .opened := by
  have hmem := List.mem_of_head? h
  rw [List.mem_filter, mem_conversations, Bool.and_eq_true, beq_iff_eq, beq_iff_eq] at hmem
  exact hmem

/-- A session that holds no conversation sees the conversations of the store. -/
lemma conversations_view {st : Db} {s : AppSession}
    (h : ∀ k, k.isConversation = true → s.held.lookup k = none) :
    Db.conversations (s.view st) = Db.conversations st := by
  refine filterMap_foldr_put _ st s.held.entries fun e he r => ?_
  obtain ⟨k, hd⟩ := e
  cases k with
  | conversation id =>
      have hnone := h (.conversation id) rfl
      rw [AList.mem_lookup_iff.mpr he] at hnone
      cases hnone
  | _ => rfl

/-- What `create_conversation` has handed out that began on the rows `st` and is answered
on the rows `st'`: the open conversation as it was found, or a new one. -/
inductive Handed (T : Terms) (itemId : UUID) (reason : ConversationReason) (st st' : Db) :
    ConversationResponse × Bool → Prop
  | reused {v w u : Db} {id : UUID} {conversation : Conversation} : T.moved st v →
      openConversation itemId v = some (id, conversation) → T.moved v w →
      (∀ id, Db.conversation u id = Db.conversation w id) → T.moved u st' →
      Handed T itemId reason st st' (toConversationResponse id conversation, false)
  | created {v u : Db} {id : UUID} {item : OrderItem} {now : DateTime} : T.moved st v →
      openConversation itemId v = none → T.clock now →
      Db.conversation u id = some (newConversation itemId reason item now) → T.moved u st' →
      Handed T itemId reason st st'
        (toConversationResponse id (newConversation itemId reason item now), true)

section Opening

variable {α : Type} {o : Outline Row Event} {post : α → Db → AppSession → Prop} {st : Db}
  {T : Terms} {settings : Settings} {itemId : UUID} {s : AppSession}

/-- `_open_for_item`, in a session that has no conversation yet. -/
lemma wp_openForItem [Table Row] {f : Option (UUID × Conversation) → Txn α}
    (hheld : ∀ k, k.isConversation = true → s.held.lookup k = none)
    (hobjects : ∀ id, s.objects.lookup (.conversation id) = none)
    (hnone : ∀ st', o.Finds s st st' → openConversation itemId st' = none →
      wp o (f none) post st' s)
    (hsome : ∀ st' id conversation s', o.Finds s st st' →
      openConversation itemId st' = some (id, conversation) → s'.held = s.held →
      s'.pending = s.pending → (s.Clean → s'.Clean) →
      wp o (f (some (id, conversation))) post st' s') :
    wp o ((openForItem itemId).bind f) post st s := by
  simp only [openForItem, Prog.bind_eq, Prog.bind_assoc]
  refine wp_select fun st₁ hf => ?_
  -- the transaction has written no conversation, so it sees those that are committed
  have hrows : ((Db.conversations (s.view st₁)).filter fun c =>
      c.2.orderItemId == itemId && c.2.status == .opened)
        = (Db.conversations st₁).filter fun c =>
            c.2.orderItemId == itemId && c.2.status == .opened := by
    rw [conversations_view hheld]
  rw [hrows]
  cases hopen : openConversation itemId st₁ with
  | none =>
      have hnil := List.head?_eq_none_iff.mp hopen
      rw [hnil]
      exact hnone st₁ hf hopen
  | some found =>
      obtain ⟨id, conversation⟩ := found
      have hhead : (((Db.conversations st₁).filter fun c =>
          c.2.orderItemId == itemId && c.2.status == .opened).map Prod.fst).head? = some id := by
        rw [List.head?_map]
        exact congrArg (Option.map Prod.fst) hopen
      rw [hhead]
      have hmem : id ∈ ((Db.conversations st₁).filter fun c =>
          c.2.orderItemId == itemId && c.2.status == .opened).map Prod.fst :=
        List.mem_of_head? hhead
      have hrow : (s.view st₁).lookup (.conversation id) = some conversation := by
        rw [lookup_view, hheld _ rfl]
        exact (openConversation_spec hopen).1
      refine wp_attrs fun st₂ hf₂ => ?_
      rw [lookup_loads_of_mem (s.view st₁) s (List.mem_flatMap.mpr ⟨id, hmem, List.mem_cons_self⟩)
        (hobjects id) hrow]
      refine wp_rely (hsome st₁ id conversation _ hf hopen (foldl_load_held _ _ _)
        (foldl_load_pending _ _ _) fun hclean => hclean.loads _ _) hf₂.rely

/-- The session of a user who has locked an item. -/
structure Entered (itemId : UUID) (item : OrderItem) (s : AppSession) : Prop
    extends s.Opened (.orderItem itemId) item where
  noConversation : ∀ k, k.isConversation = true → s.held.lookup k = none
  noObject : ∀ id, s.objects.lookup (.conversation id) = none

lemma entered_of_locks {item : OrderItem} {locks : List Key}
    (h : Db.orderItem st itemId = some item) (hmem : .orderItem itemId ∈ locks)
    (hconv : ∀ k ∈ locks, k.isConversation = false) :
    Entered itemId item ((locks.foldl (Session.lock st) ∅).load st (.orderItem itemId)) where
  toOpened := opened_of_locks hmem h
  noConversation k hk := by
    rw [load_held, lookup_locks_ne]
    · rfl
    · intro hin
      rw [hconv k hin] at hk
      cases hk
  noObject id := by
    rw [lookup_load_ne _ _ _ (by simp), foldl_lock_objects]
    rfl

lemma wp_loadParticipantItem [Table Row] {user : CurrentUser} {f : OrderItem → Txn α}
    (h : ∀ st' (item : OrderItem) s', o.Finds ∅ st st' → Db.orderItem st' itemId = some item →
      Entered itemId item s' → wp o (f item) post st' s') :
    wp o ((loadParticipantItem itemId user true).bind f) post st ∅ := by
  -- both statements lock the item that they find
  have hfound : ∀ (stmt : Db → Option (List Key)), (∀ v locks, stmt v = some locks →
      (∃ item : OrderItem, Db.orderItem v itemId = some item) ∧ .orderItem itemId ∈ locks
        ∧ ∀ k ∈ locks, k.isConversation = false) →
      wp o (((Prog.scalar (.orderItem itemId) stmt).bind fun row =>
        loadOr (k := .orderItem itemId) (.resourceNotFound "Order item not found") row).bind f)
        post st ∅ := by
    intro stmt hstmt
    rw [Prog.bind_assoc]
    refine wp_scalar_first (fun _ _ _ => trivial) fun st' locks hf hlocks => ?_
    obtain ⟨⟨item, hitem⟩, hmem, hconv⟩ := hstmt st' locks hlocks
    rw [show st'.lookup (.orderItem itemId) = some item from hitem]
    exact h st' item _ hf hitem (entered_of_locks hitem hmem hconv)
  rw [loadParticipantItem]
  split
  · refine hfound _ fun v locks hlocks => ?_
    simp only [sellerItemStatement] at hlocks
    split at hlocks
    · cases hlocks
    · rename_i item hitem
      split at hlocks
      · cases hlocks
      · split at hlocks
        · cases hlocks
          exact ⟨⟨item, hitem⟩, List.mem_cons_self, by simp [Key.isConversation]⟩
        · cases hlocks
  · refine hfound _ fun v locks hlocks => ?_
    simp only [buyerItemStatement] at hlocks
    split at hlocks
    · cases hlocks
    · rename_i item hitem
      split at hlocks
      · cases hlocks
      · split at hlocks
        · cases hlocks
          exact ⟨⟨item, hitem⟩, List.mem_cons_self, by simp [Key.isConversation]⟩
        · cases hlocks
  · trivial

/-- The session of an item that has inserted a conversation and flushes. -/
structure Inserted (itemId id : UUID) (conversation : Conversation) (st : Db) (s : AppSession) :
    Prop where
  pending : s.pending = [.conversationCreated id itemId]
  locked : s.held.lookup (.orderItem itemId) ≠ none
  new : Db.conversation st id = none
  row : Db.conversation (merge st s.held) id = some conversation
  same : ∀ k, k ≠ .conversation id → (merge st s.held).lookup k = st.lookup k

lemma Entered.inserted [Table Row] {item : OrderItem} {id : UUID} {conversation : Conversation}
    {s' : AppSession} {w : Db} (h : Entered itemId item s)
    (hnone : (s.view w).lookup (.conversation id) = none)
    (hflush : Flushes { (s.write w (.conversation id) (some conversation)).sync
        (.conversation id) conversation with
      pending := [.conversationCreated id itemId] } s')
    (hag : Agrees s'.held st) : Inserted itemId id conversation st s' := by
  have hclean : ∀ k ob, ((s.write w (.conversation id) (some conversation)).sync
        (.conversation id) conversation).objects.lookup k = some ob →
      ob.loaded = some ob.cur := by
    intro k ob hob
    rcases lookup_sync_cases hob with hcl | ⟨-, hold⟩
    · exact hcl
    · exact h.clean k ob hold
  have hkept : ∀ k, k ≠ .conversation id → s'.held.lookup k = s.held.lookup k := by
    intro k hk
    rw [(hflush.kept _ (hclean _)).1]
    exact lookup_write_ne _ _ _ hk _
  have hheld : s'.held.lookup (.conversation id) = some ⟨none, some conversation⟩ := by
    rw [lookup_view, h.noConversation _ rfl] at hnone
    have hwritten : s'.held.lookup (.conversation id)
        = (s.write w (.conversation id) (some conversation)).held.lookup (.conversation id) :=
      (hflush.kept _ (hclean _)).1
    rw [hwritten, lookup_write_self, h.noConversation _ rfl]
    exact congrArg (fun b => some (Held.mk b (some conversation))) hnone
  refine ⟨hflush.pending, ?_, hag _ _ hheld, lookup_merge_of_held hheld, fun k hk => ?_⟩
  · rw [hkept _ (by simp), h.held]
    exact Option.some_ne_none _
  · cases hkd : s'.held.lookup k with
    | none => exact lookup_merge_of_not_held hkd
    | some hd =>
        rw [lookup_merge_of_held hkd, hag k hd hkd]
        exact h.unmoved k hd ((hkept k hk).symm.trans hkd)

/-- Such a session has created the conversation. -/
lemma Inserted.did_created {item : OrderItem} {id : UUID} {reason : ConversationReason}
    {now : DateTime} {v : Db}
    (h : Inserted itemId id (newConversation itemId reason item now) st s) (settings : Settings)
    (hclock : T.clock now) (hmoved : T.moved v st) (hitem : Db.orderItem v itemId = some item) :
    Did T settings st s := by
  refine ⟨fun _ => none, ⟨fun c => ?_, fun i => ?_, fun _ _ _ hm => ?_, fun id' _ => ?_⟩⟩
  · rw [h.pending]
    by_cases hc : c = id
    · subst hc
      rw [h.new, h.row]
      have hdeed : Deed T settings st c none (some (newConversation itemId reason item now)) none
          [.conversationCreated c itemId] := .created itemId reason now hclock hmoved hitem
      simpa [Event.concerns] using hdeed
    · have hevents : [Event.conversationCreated id itemId].filter (Event.concerns c) = [] := by
        simp [Event.concerns, Ne.symm hc]
      rw [hevents, Db.conversation, Db.conversation, h.same (.conversation c) (by simpa using hc)]
      exact .nothing _
  · rw [h.pending, Db.orderItem, Db.orderItem, h.same (.orderItem i) (by simp)]
    have hevents : [Event.conversationCreated id itemId].filter (Event.concernsItem i) = [] := by
      simp [Event.concernsItem]
    rw [hevents]
    exact .nothing _
  · cases hm
  · exact h.same (.message id') (by simp)

/-- **Opening or reusing a conversation.** -/
theorem wp_createConversation {reason : ConversationReason} {user : CurrentUser}
    {g : ConversationResponse × Bool → α} (hT : Tells o T)
    (hdid : ∀ st s, Did T settings st s → o.commit st s)
    (hpost : ∀ a st', Handed T itemId reason st st' a → post (g a) st' ∅) :
    wp o (ending (createConversation itemId reason user) g) post st ∅ := by
  simp only [ending, createConversation, getOrCreateConversation, Prog.bind_eq, Prog.pure_eq,
    Prog.bind_assoc]
  refine wp_loadParticipantItem fun st₁ item s₁ hf₁ hitem hs => ?_
  have hm₁ := hT.moved _ _ _ hf₁.rely
  -- the end of a request that has found an open conversation
  have hreuse : ∀ v id conversation st₂ s₂, T.moved st₁ v → T.moved v st₂ →
      openConversation itemId v = some (id, conversation) → s₂.held = s₁.held → s₂.pending = [] →
      s₂.Clean → wp o (Prog.flush.bind fun _ =>
        (.commit (.publish (.pure (g (toConversationResponse id conversation, false)))) : Txn α))
        post st₂ s₂ := by
    intro v id conversation st₂ s₂ hv hm hopen hheld hpending hclean
    refine wp_end T.moved T.moved_refl T.moved_trans hT.moved fun w s' hw hflush hag => ?_
    have hkept : ∀ k, s'.held.lookup k = s₁.held.lookup k := fun k => by
      rw [(hflush.kept k fun ob hob => hclean k ob hob).1, hheld]
    refine ⟨hdid _ _ (did_nothing hag (hflush.pending.trans hpending) fun k hd _ hk => ?_),
      fun u hu => hpost _ _ (.reused (T.moved_trans _ _ _ hm₁ hv) hopen
        (T.moved_trans _ _ _ hm hw) (fun id' => ?_)
        (hT.moved _ _ _ hu))⟩
    · rw [hkept] at hk
      exact hs.unmoved k hd hk
    · rw [Db.conversation, lookup_merge_of_not_held]
      rw [hkept]
      exact hs.noConversation _ rfl
  refine wp_openForItem hs.noConversation hs.noObject (fun st₂ hf₂ hopen => ?_)
    fun st₂ id conversation s₂ hf₂ hopen hheld hpending hclean => ?_
  · simp only [Prog.bind_assoc]
    refine wp_utcnow fun st₃ ch hf₃ hg => wp_get (fun _ _ hno _ => ?_)
      (fun st₄ ob hf₄ hob => ?_) fun _ _ _ hno _ => ?_
    · rw [hs.object] at hno
      cases hno
    · obtain rfl : (⟨some item, item⟩ : Obj Row (.orderItem itemId)) = ob :=
        Option.some.inj (hs.object.symm.trans hob)
      have hm₄ : T.moved st₁ st₄ := T.moved_trans _ _ _ (hT.moved _ _ _ hf₂.rely)
        (T.moved_trans _ _ _ (hT.moved _ _ _ hf₃.rely) (hT.moved _ _ _ hf₄.rely))
      refine wp_loadOr fun r hr => ?_
      cases hr
      refine wp_uuid4 fun st₅ id hf₅ => wp_insertNested (fun st₆ hf₆ => ?_) fun st₆ hf₆ hnone => ?_
      · -- a conversation that came in between is reused
        simp only [Bool.false_eq_true, if_false, Prog.bind_assoc]
        refine wp_openForItem hs.noConversation hs.noObject (fun _ _ _ => ?_)
          fun st₇ id conversation s₇ hf₇ hopen' hheld hpending hclean => ?_
        · trivial
        exact hreuse st₇ id conversation st₇ s₇ (T.moved_trans _ _ _ hm₄ (T.moved_trans _ _ _
          (hT.moved _ _ _ hf₅.rely) (T.moved_trans _ _ _ (hT.moved _ _ _ hf₆.rely)
            (hT.moved _ _ _ hf₇.rely)))) (T.moved_refl _) hopen' hheld
          (hpending.trans hs.pending) (hclean hs.clean)
      · refine wp_record fun st₇ hf₇ => ?_
        have hm₇ : T.moved st₁ st₇ := T.moved_trans _ _ _ hm₄ (T.moved_trans _ _ _
          (hT.moved _ _ _ hf₅.rely) (T.moved_trans _ _ _ (hT.moved _ _ _ hf₆.rely)
            (hT.moved _ _ _ hf₇.rely)))
        refine wp_end T.moved T.moved_refl T.moved_trans hT.moved fun w s' hw hflush hag => ?_
        simp only [sync_pending, write_pending, hs.pending, List.nil_append] at hflush
        have hinserted := hs.inserted hnone hflush hag
        have hdone := hinserted.did_created settings (hT.clock _ _ _ hg)
          (T.moved_trans _ _ _ hm₇ hw) hitem
        exact ⟨hdid _ _ hdone, fun u hu => hpost _ _ (.created (T.moved_trans _ _ _ hm₁
          (hT.moved _ _ _ hf₂.rely)) hopen (hT.clock _ _ _ hg) hinserted.row (hT.moved _ _ _ hu))⟩
    · rw [hs.object] at hno
      cases hno
  · exact hreuse st₂ id conversation st₂ s₂ (hT.moved _ _ _ hf₂.rely) (T.moved_refl _) hopen hheld
      (hpending.trans hs.pending) (hclean hs.clean)

end Opening

end MarketHub
