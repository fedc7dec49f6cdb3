import MarketHub.Communication.Interaction
import MarketHub.Communication.Refusal
import MarketHub.Communication.Staleness
import MarketHub.ReadCommitted.Windows

/-!
The open conversation of an item, without help of the partial unique index.

Any requests of the service run statement by statement, on tables that have the index
`uq_conversations_open_order_item` or do not have it (`openIndex`).

* `OpenFor`, `HasOpen`: a conversation is open for an item, and an item has one.
* `openingOutline`: who holds the lock of an item may rely on it that no other transaction opens a
  conversation of the item. A commit opens none (`OpensNone`), or one for an item that it has
  locked and that has none (`OpensFor`).
* `wp_answering`: every request keeps to this, whatever the index says. `one_open` is what follows
  for the conversations of a run.
* `Approaching`, `insert_accepted`: in which states a request comes to the savepoint of
  `get_or_create_conversation`, and that its insert is accepted there.
-/

namespace MarketHub

open ReadCommitted Session

/-! ### Open conversations -/

/-- A conversation is open for an item. -/
def OpenFor (v : Db) (itemId c : UUID) : Prop :=
  ∃ b, Db.conversation v c = some b ∧ b.orderItemId = itemId ∧ b.status = .opened

/-- An item has an open conversation. -/
def HasOpen (v : Db) (itemId : UUID) : Prop := ∃ c, OpenFor v itemId c

lemma OneOpen.unique {v : Db} {itemId c c' : UUID} (h : OneOpen v) (hc : OpenFor v itemId c)
    (hc' : OpenFor v itemId c') : c = c' := by
  obtain ⟨b, hb, hitem, hopen⟩ := hc
  obtain ⟨b', hb', hitem', hopen'⟩ := hc'
  by_contra hne
  exact h c b c' b' hne hb hb' (hitem.trans hitem'.symm) hopen hopen'

lemma oneOpen_of_unique {v : Db}
    (h : ∀ itemId c c', OpenFor v itemId c → OpenFor v itemId c' → c = c') : OneOpen v := by
  intro c b c' b' hne hb hb' hitem hopen hopen'
  exact hne (h _ c c' ⟨b, hb, rfl, hopen⟩ ⟨b', hb', hitem.symm, hopen'⟩)

lemma openFor_of_openConversation {itemId id : UUID} {v : Db} {conversation : Conversation}
    (h : openConversation itemId v = some (id, conversation)) : OpenFor v itemId id :=
  ⟨conversation, openConversation_spec h⟩

/-- `_open_for_item` finds a conversation when there is one. -/
lemma not_hasOpen_of_openConversation {itemId : UUID} {v : Db}
    (h : openConversation itemId v = none) : ¬ HasOpen v itemId := by
  rintro ⟨c, b, hb, hitem, hopen⟩
  have hnil := List.head?_eq_none_iff.mp h
  have hmem : (c, b) ∈ (Db.conversations v).filter fun c =>
      c.2.orderItemId == itemId && c.2.status == .opened :=
    List.mem_filter.mpr ⟨mem_conversations.mpr hb, by simp [hitem, hopen]⟩
  rw [hnil] at hmem
  cases hmem

/-- Only the conversations of a store matter. -/
lemma OpenFor.congr {v v' : Db} (h : ∀ c, Db.conversation v' c = Db.conversation v c)
    {itemId c : UUID} (hc : OpenFor v itemId c) : OpenFor v' itemId c := by
  obtain ⟨b, hb, hrest⟩ := hc
  exact ⟨b, (h c).trans hb, hrest⟩

/-! ### Commits -/

/-- A commit that opens no conversation, and reports none as new. -/
structure OpensNone (st : Db) (s : AppSession) : Prop where
  open_before : ∀ i c, OpenFor (merge st s.held) i c → OpenFor st i c
  not_reported : ∀ c i, Event.conversationCreated c i ∉ s.pending

/-- A commit that leaves the conversations alone, and reports nothing. -/
structure StillCommit (st : Db) (s : AppSession) : Prop where
  pending : s.pending = []
  same : ∀ c, Db.conversation (merge st s.held) c = Db.conversation st c

lemma StillCommit.opensNone {st : Db} {s : AppSession} (h : StillCommit st s) : OpensNone st s where
  open_before i c hc := hc.congr fun c' => (h.same c').symm
  not_reported c i hmem := by
    rw [h.pending] at hmem
    cases hmem

/-- A commit that opens a conversation of an item which it has locked and which has none. -/
structure OpensFor (itemId id : UUID) (st : Db) (s : AppSession) : Prop where
  pending : s.pending = [.conversationCreated id itemId]
  locked : s.held.lookup (.orderItem itemId) ≠ none
  none_open : ¬ HasOpen st itemId
  opened : OpenFor (merge st s.held) itemId id
  same : ∀ c, c ≠ id → Db.conversation (merge st s.held) c = Db.conversation st c

/-- After such a commit, what is open was open before, or is the new conversation. -/
lemma OpensFor.openFor {itemId id i c : UUID} {st : Db} {s : AppSession}
    (h : OpensFor itemId id st s) (hc : OpenFor (merge st s.held) i c) : OpenFor st i c ∨ i = itemId
      ∧ c = id := by
  by_cases hcid : c = id
  · subst hcid
    obtain ⟨b, hb, hitem, -⟩ := hc
    obtain ⟨b', hb', hitem', -⟩ := h.opened
    obtain rfl : b = b' := Option.some.inj (hb.symm.trans hb')
    exact .inr ⟨hitem.symm.trans hitem', rfl⟩
  · obtain ⟨b, hb, hrest⟩ := hc
    exact .inl ⟨b, (h.same c hcid).symm.trans hb, hrest⟩

/-- What a request may rely on while it holds the lock of an item, and how it commits. -/
def openingOutline : Outline Row Event where
  inv v _ := OneOpen v
  rely s v v' := ∀ i, s.held.lookup (.orderItem i) ≠ none → HasOpen v' i → HasOpen v i
  commit st s := OpensNone st s ∨ ∃ i id, OpensFor i id st s
  rely_refl _ _ _ _ h := h
  rely_trans h h' i hlock hopen := h i hlock (h' i hlock hopen)

lemma openingOutline_sound : openingOutline.Sound where
  keeps st log s hinv _ hcommit := by
    refine oneOpen_of_unique fun i c c' hc hc' => ?_
    rcases hcommit with hnone | ⟨i', id, hopens⟩
    · exact hinv.unique (hnone.open_before i c hc) (hnone.open_before i c' hc')
    · rcases hopens.openFor hc with hold | ⟨rfl, rfl⟩
      · rcases hopens.openFor hc' with hold' | ⟨rfl, rfl⟩
        · exact hinv.unique hold hold'
        · exact absurd ⟨c, hold⟩ hopens.none_open
      · rcases hopens.openFor hc' with hold' | ⟨-, rfl⟩
        · exact absurd ⟨c', hold'⟩ hopens.none_open
        · rfl
  relied st log s u _ _ _ hapart hcommit i hlock := by
    rintro ⟨c, hc⟩
    rcases hcommit with hnone | ⟨i', id, hopens⟩
    · exact ⟨c, hnone.open_before i c hc⟩
    · rcases hopens.openFor hc with hold | ⟨rfl, -⟩
      · exact ⟨c, hold⟩
      · rcases hapart (.orderItem i) with hs | hu
        · exact absurd hs hopens.locked
        · exact absurd hu hlock

/-! ### Opening a conversation -/

/-- `get_or_create_conversation` up to the insert: the open conversation of the item, or the new
one that is to be inserted. -/
def seekConversation (itemId : UUID) (reason : ConversationReason) (user : CurrentUser) :
    Txn ((UUID × Conversation) ⊕ (UUID × Conversation)) := do
  let _ ← loadParticipantItem itemId user true
  let existing ← openForItem itemId
  match existing with
  | some existing => return .inl existing
  | none =>
      let now ← Prog.utcnow
      let item : Option OrderItem ← Prog.get (Key.orderItem itemId)
      let item ← loadOr (k := .orderItem itemId)
        (.resourceNotFound "Order item not found") item
      let id ← Prog.uuid4
      return .inr (id, newConversation itemId reason item now)

/-- `get_or_create_conversation` from the insert on, with the response. -/
def settleConversation (itemId : UUID) :
    (UUID × Conversation) ⊕ (UUID × Conversation) → Txn (ConversationResponse × Bool)
  | .inl (id, conversation) => return (toConversationResponse id conversation, false)
  | .inr (id, conversation) => do
      let inserted ← Prog.insertNested (.conversation id) conversation
      if inserted then
        Prog.record (.conversationCreated id itemId)
        return (toConversationResponse id conversation, true)
      else
        let existing ← openForItem itemId
        match existing with
        | some (id, conversation) => return (toConversationResponse id conversation, false)
        | none => .raise .database

lemma createConversation_eq (itemId : UUID) (reason : ConversationReason) (user : CurrentUser) :
    createConversation itemId reason user
      = (seekConversation itemId reason user).bind (settleConversation itemId) := by
  simp only [createConversation, getOrCreateConversation, seekConversation, Prog.bind_eq,
    Prog.pure_eq, Prog.bind_assoc]
  refine congrArg _ (funext fun _ => congrArg _ (funext fun existing => ?_))
  rcases existing with _ | ⟨id, conversation⟩
  · simp only [Prog.bind_assoc]
    refine congrArg _ (funext fun now =>
      congrArg _ (funext fun item => congrArg _ (funext fun item =>
      congrArg _ (funext fun id => congrArg _ (funext fun inserted => ?_)))))
    cases inserted with
    | true => rfl
    | false =>
        simp only [Bool.false_eq_true, if_false, Prog.bind_assoc]
        refine congrArg _ (funext fun existing => ?_)
        cases existing <;> rfl
  · rfl

/-- The rules that an outline keeps to for the requests that open a conversation of an item: `M` is
how the rows may move between two steps, and the lock of the item keeps others from opening one. -/
structure OpeningRules (o : Outline Row Event) (M : Db → Db → Prop) (itemId : UUID) : Prop where
  refl : ∀ v, M v v
  trans : ∀ v₁ v₂ v₃, M v₁ v₂ → M v₂ v₃ → M v₁ v₃
  moved : ∀ s v v', o.rely s v v' → M v v'
  same : ∀ v v', (∀ c, Db.conversation v' c = Db.conversation v c) → M v v'
  locked : ∀ s v v', o.rely s v v' → s.held.lookup (.orderItem itemId) ≠ none →
    HasOpen v' itemId → HasOpen v itemId
  none : ∀ st s, OpensNone st s → o.commit st s
  opens : ∀ st s id, OpensFor itemId id st s → o.commit st s

/-- The session of `create_conversation` once it knows which conversation it is about. -/
structure Sought (M : Db → Db → Prop) (itemId : UUID)
    (found : (UUID × Conversation) ⊕ (UUID × Conversation)) (st : Db) (s : AppSession) : Prop where
  pending : s.pending = []
  clean : s.Clean
  noConversation : ∀ k, k.isConversation = true → s.held.lookup k = none
  old : ∀ id conversation, found = .inl (id, conversation) →
    ∃ v, OpenFor v itemId id ∧ M v st
  new : ∀ id conversation, found = .inr (id, conversation) →
    (∃ item, Entered itemId item s) ∧ ¬ HasOpen st itemId
      ∧ ∃ reason item now, conversation = newConversation itemId reason item now

section Opening

variable {α : Type} {o : Outline Row Event} {post : α → Db → AppSession → Prop} {st : Db}
  {M : Db → Db → Prop} {itemId : UUID} {s : AppSession}

lemma Inserted.opensFor {id : UUID} {reason : ConversationReason} {item : OrderItem}
    {now : DateTime} (h : Inserted itemId id (newConversation itemId reason item now) st s)
    (hnone : ¬ HasOpen st itemId) : OpensFor itemId id st s where
  pending := h.pending
  locked := h.locked
  none_open := hnone
  opened := ⟨_, h.row, rfl, rfl⟩
  same c hc := h.same (.conversation c) (by simpa using hc)

/-- What `get_or_create_conversation` finds: as long as it holds the lock of the item, no other
request opens a conversation of it. -/
lemma wp_seekConversation [Table Row] (ho : OpeningRules o M itemId) (reason : ConversationReason)
    (user : CurrentUser) : wp o (seekConversation itemId reason user) (Sought M itemId) st ∅ := by
  simp only [seekConversation, Prog.bind_eq, Prog.pure_eq]
  refine wp_loadParticipantItem fun st₁ item s₁ hf₁ hitem hs => ?_
  have hlock : s₁.held.lookup (.orderItem itemId) ≠ none := by
    rw [hs.held]
    exact Option.some_ne_none _
  refine wp_openForItem hs.noConversation hs.noObject (fun st₂ hf₂ hopen => ?_)
    fun st₂ id conversation s₂ hf₂ hopen hheld hpending hclean => ?_
  · have hnone₂ := not_hasOpen_of_openConversation hopen
    refine wp_utcnow fun st₃ ch hf₃ hg => wp_get (fun _ _ hno _ => ?_)
      (fun st₄ ob hf₄ hob => ?_) fun _ _ _ hno _ => ?_
    · rw [hs.object] at hno
      cases hno
    · refine wp_loadOr fun r hr => wp_uuid4 fun st₅ id hf₅ => wp_pure fun st₆ hr₆ => ?_
      have hnone : ¬ HasOpen st₆ itemId := fun h =>
        hnone₂ (ho.locked _ _ _ hf₃.rely hlock (ho.locked _ _ _ hf₄.rely hlock
          (ho.locked _ _ _ hf₅.rely hlock (ho.locked _ _ _ hr₆ hlock h))))
      refine ⟨hs.pending, hs.clean, hs.noConversation, fun _ _ h => (by cases h), fun _ _ h => ?_⟩
      cases h
      exact ⟨⟨item, hs⟩, hnone, reason, r, ch.now, rfl⟩
    · rw [hs.object] at hno
      cases hno
  · refine wp_pure fun st₃ hr₃ => ⟨hpending.trans hs.pending, hclean hs.clean, fun k hk => ?_,
      fun id' _ h => ?_, fun _ _ h => (by cases h)⟩
    · rw [hheld]
      exact hs.noConversation k hk
    · cases h
      exact ⟨st₂, openFor_of_openConversation hopen, ho.moved _ _ _ hr₃⟩

/-- The end of a request that has found an open conversation. -/
lemma wp_reused [Table Row] (ho : OpeningRules o M itemId) {id : UUID} {conversation : Conversation}
    {g : ConversationResponse × Bool → α}
    (hpost : ∀ a v st, OpenFor v itemId a.1.id → M v st → post (g a) st ∅)
    (hs : Sought M itemId (.inl (id, conversation)) st s) :
    wp o (Prog.flush.bind fun _ =>
      (.commit (.publish (.pure (g (toConversationResponse id conversation, false)))) : Txn α))
      post st s := by
  refine wp_transaction_clean hs.clean fun w hf => ?_
  have hconv : ∀ c, Db.conversation (merge w s.held) c = Db.conversation w c := fun c => by
    rw [Db.conversation, lookup_merge_of_not_held]
    exact hs.noConversation _ rfl
  obtain ⟨v, hv, hm⟩ := hs.old id conversation rfl
  have hstill : StillCommit w s := ⟨hs.pending, hconv⟩
  refine ⟨ho.none _ _ hstill.opensNone, fun u hu => hpost _ v _ hv ?_⟩
  have hafter : M (merge w s.held) u := ho.moved _ _ _ hu
  exact ho.trans _ _ _ hm (ho.trans _ _ _ (ho.moved _ _ _ hf.rely)
    (ho.trans _ _ _ (ho.same _ _ hconv) hafter))

/-- The end of a request that has inserted a conversation. -/
lemma wp_inserted [Table Row] (ho : OpeningRules o M itemId) {id : UUID}
    {conversation : Conversation} {g : ConversationResponse × Bool → α}
    (hpost : ∀ a v st, OpenFor v itemId a.1.id → M v st → post (g a) st ∅)
    (hs : Sought M itemId (.inr (id, conversation)) st s)
    (hnew : (s.view st).lookup (.conversation id) = none) :
    wp o ((Prog.record (.conversationCreated id itemId)).bind fun _ => Prog.flush.bind fun _ =>
      (.commit (.publish (.pure (g (toConversationResponse id conversation, true)))) : Txn α))
      post st ((s.write st (.conversation id) (some conversation)).sync (.conversation id)
        conversation) := by
  obtain ⟨⟨item, hentered⟩, hnone, reason, item', now, rfl⟩ := hs.new id conversation rfl
  -- what the session is after the insert
  generalize hse : ((s.write st (.conversation id) (some (newConversation itemId reason item'
    now))).sync (.conversation id) (newConversation itemId reason item' now)) = se
  have hclean : se.Clean := by
    intro k ob hob
    rw [← hse] at hob
    rcases lookup_sync_cases hob with hcl | ⟨-, hold⟩
    · exact hcl
    · exact hs.clean k ob hold
  have hlock : se.held.lookup (.orderItem itemId) ≠ none := by
    rw [← hse, sync_held, lookup_write_ne _ _ _ (by simp), hentered.held]
    exact Option.some_ne_none _
  have hpending : se.pending = [] := by
    rw [← hse]
    exact hs.pending
  refine wp_record fun st₁ hf₁ => wp_transaction_clean hclean fun w hf => ?_
  have hnone' : ¬ HasOpen w itemId := fun h =>
    hnone (ho.locked _ _ _ hf₁.rely hlock (ho.locked _ _ _ hf.rely hlock h))
  have hflush : Flushes { se with pending := [Event.conversationCreated id itemId] }
      { se with pending := [.conversationCreated id itemId] } := flushes_of_clean hclean
  subst hse
  simp only [hpending, List.nil_append] at hf ⊢
  have hinserted := hentered.inserted hnew hflush hf.agrees
  refine ⟨ho.opens _ _ _ (hinserted.opensFor hnone'), fun u hu => ?_⟩
  exact hpost _ _ _ ⟨_, hinserted.row, rfl, rfl⟩ (ho.moved _ _ _ hu)

/-- **Creating or reusing a conversation.** The request answers with a conversation that was open
for the item at some point of it, and it opens one only when the item has none. -/
theorem wp_opening [Table Row] (ho : OpeningRules o M itemId) (reason : ConversationReason)
    (user : CurrentUser) {g : ConversationResponse × Bool → α}
    (hpost : ∀ a v st, OpenFor v itemId a.1.id → M v st → post (g a) st ∅) :
    wp o (ending (createConversation itemId reason user) g) post st ∅ := by
  rw [createConversation_eq, ending, Prog.bind_assoc]
  refine wp_bind (wp_mono (wp_seekConversation ho reason user) fun found st₁ s₁ hs => ?_)
  rcases found with ⟨id, conversation⟩ | ⟨id, conversation⟩
  · exact wp_reused ho hpost hs
  · obtain ⟨⟨item, hentered⟩, -⟩ := hs.new id conversation rfl
    simp only [settleConversation, Prog.bind_eq, Prog.bind_assoc]
    refine wp_insertNested (fun st₂ hf₂ => ?_) fun st₂ hf₂ hnew => ?_
    · -- a conversation that came in between is reused
      simp only [Bool.false_eq_true, if_false, Prog.bind_assoc]
      refine wp_openForItem hentered.noConversation hentered.noObject (fun _ _ _ => ?_)
        fun st₃ id conversation s₃ hf₃ hopen hheld hpending hclean => ?_
      · trivial
      refine wp_reused ho hpost ⟨hpending.trans hs.pending, hclean hs.clean, fun k hk => ?_,
        fun id' _ h => ?_, fun _ _ h => (by cases h)⟩
      · rw [hheld]
        exact hs.noConversation k hk
      · cases h
        exact ⟨st₃, openFor_of_openConversation hopen, ho.refl _⟩
    · have hs₂ : Sought M itemId (.inr (id, conversation)) st₂ s₁ :=
        ⟨hs.pending, hs.clean, hs.noConversation, fun _ _ h => (by cases h), fun id' _ h => by
          cases h
          obtain ⟨hin, hnone, hnewer⟩ := hs.new id conversation rfl
          refine ⟨hin, fun hopen => hnone (ho.locked _ _ _ hf₂.rely ?_ hopen), hnewer⟩
          rw [hentered.held]
          exact Option.some_ne_none _⟩
      exact wp_inserted ho hpost hs₂ hnew

end Opening

/-! ### The other requests -/

/-- A step that creates no conversation. -/
def createsNone {γ : Type} (op : Op Row Event γ) : Prop := ∀ c, op.spares (.conversation c)

lemma createsNone_of_within {F : Key → Prop} (hF : ∀ c, ¬ F (.conversation c)) {γ : Type}
    (op : Op Row Event γ) (h : op.within F) : createsNone op := by
  intro c
  cases op with
  | add k r =>
      rintro rfl
      exact hF c h
  | insertNested k r =>
      rintro rfl
      exact hF c h
  | _ => trivial

section Ops

lemma createsNone_flush : (Prog.flush : Txn Unit).AllOps createsNone :=
  allOps_job_flush.mono fun op h c => jobOp_spares c op h

lemma createsNone_ending {α β : Type} {body : Txn β} {g : β → α} (h : body.AllOps createsNone) :
    (ending body g).AllOps createsNone :=
  h.bind fun _ => createsNone_flush.bind fun _ => trivial

lemma createsNone_loadOr {k : Key} (e : DomainError) (row : Option (Row k)) :
    (loadOr e row).AllOps createsNone := by
  cases row <;> trivial

lemma createsNone_loadOpsConversation (c : UUID) : (loadOpsConversation c).AllOps createsNone :=
  Prog.AllOps.bind (Prog.allOps_scalar (fun _ => trivial) fun _ => trivial) fun _ =>
    createsNone_loadOr _ _

lemma createsNone_recordPriorityChange (c : UUID) (before after : Priority) (now : DateTime) :
    (recordPriorityChange c before after now).AllOps createsNone := by
  rw [recordPriorityChange]
  split
  · exact ⟨fun _ => trivial, fun _ => trivial⟩
  · trivial

lemma createsNone_setOverride (c : UUID) (conversation : Conversation)
    (override : Option Priority) :
    (setOverride c conversation override).AllOps createsNone :=
  ⟨fun _ => trivial, fun _ => ⟨fun _ => trivial, fun _ =>
    (createsNone_recordPriorityChange _ _ _ _).bind fun _ =>
      createsNone_flush.bind fun _ => trivial⟩⟩

lemma createsNone_createComment (itemId : UUID) (user : CurrentUser) (content : String) :
    (createComment itemId user content).AllOps createsNone := by
  have hauthor : (commentAuthorTypeFor user).AllOps createsNone := by
    rw [commentAuthorTypeFor]
    split <;> trivial
  exact hauthor.bind fun _ => ⟨fun _ => trivial, fun _ => ⟨fun _ => trivial, fun _ =>
    ⟨fun _ => Key.noConfusion, fun _ => createsNone_flush.bind fun _ =>
      ⟨fun _ => trivial, fun _ => trivial⟩⟩⟩⟩

lemma createsNone_requireOps (user : CurrentUser) : (requireOps user).AllOps createsNone := by
  rw [requireOps]
  split <;> trivial

/-- Ops creates no conversation. -/
lemma createsNone_opsRequest (r : OpsRequest) : r.run.AllOps createsNone := by
  cases r with
  | refreshOpsConversationPriority c ops =>
      rw [OpsRequest.run, transaction_ignore]
      refine createsNone_ending ((createsNone_requireOps ops).bind fun _ =>
        (createsNone_loadOpsConversation c).bind fun conversation => ?_)
      have happly : ∀ item now, (applyCalculatedPriority c conversation item now).AllOps
          createsNone :=
        fun item now => ⟨fun _ => trivial, fun _ =>
          (createsNone_recordPriorityChange _ _ _ _).bind fun _ => trivial⟩
      refine Prog.AllOps.bind (Prog.AllOps.bind
        (Prog.allOps_get (fun _ => trivial) fun _ => trivial)
        fun _ => createsNone_loadOr _ _) fun item => ⟨fun _ => trivial, fun now => ?_⟩
      exact (happly item now).bind fun _ => createsNone_flush.bind fun _ => trivial
  | markConversationCritical c justification ops =>
      rw [OpsRequest.run, transaction_ignore]
      refine createsNone_ending ((createsNone_requireOps ops).bind fun _ =>
        (createsNone_loadOpsConversation c).bind fun conversation => ?_)
      rw [applyCritical]
      split
      · trivial
      · exact (createsNone_createComment _ _ _).bind fun _ => createsNone_setOverride _ _ _
  | removeConversationCritical c ops =>
      rw [OpsRequest.run, transaction_ignore]
      refine createsNone_ending ((createsNone_requireOps ops).bind fun _ =>
        (createsNone_loadOpsConversation c).bind fun conversation => ?_)
      rw [removeCritical]
      split
      · trivial
      · exact createsNone_setOverride _ _ _

end Ops

/-- A request that is no `create_conversation`. -/
def ServiceRequest.opensNone : ServiceRequest → Prop
  | .conversation (.createConversation _ _ _) => False
  | _ => True

/-- **Only `create_conversation` creates a conversation.** -/
lemma ServiceRequest.run_createsNone (settings : Settings) {r : ServiceRequest} (hr : r.opensNone) :
    (r.run settings).AllOps createsNone := by
  have hjob : ∀ {β : Type} {body : Txn β}, body.AllOps jobOp → body.AllOps createsNone :=
    fun h => h.mono fun op hop c => jobOp_spares c op hop
  cases r with
  | catalog request =>
      exact ((ServiceRequest.catalog request).run_within settings).mono
        (createsNone_of_within fun _ h => h)
  | order request =>
      exact ((ServiceRequest.order request).run_within settings).mono
        (createsNone_of_within fun _ h => h)
  | conversation request =>
      cases request with
      | createConversation itemId reason user => exact hr.elim
      | listConversations itemId user =>
          rw [ServiceRequest.run, ConversationRequest.run, transaction_ignore]
          exact createsNone_ending (hjob (job_listConversations itemId user))
      | getConversation c user =>
          rw [ServiceRequest.run, ConversationRequest.run, transaction_ignore]
          exact createsNone_ending (hjob (job_getConversation c user))
      | closeConversation c seller =>
          rw [ServiceRequest.run, ConversationRequest.run, transaction_ignore]
          exact createsNone_ending (hjob (job_closeConversation c seller))
      | createMessage c content user =>
          rw [ServiceRequest.run, ConversationRequest.run, transaction_ignore]
          exact createsNone_ending (hjob (job_createMessage c content user))
      | listMessages c user before =>
          rw [ServiceRequest.run, ConversationRequest.run, transaction_ignore]
          exact createsNone_ending (hjob (job_listMessages c user before))
      | runCloseInactive =>
          exact hjob (ServiceRequest.run_job settings (r := .conversation .runCloseInactive) id)
  | ops request => exact createsNone_opsRequest request
  | runReconcile now pageSize fuel =>
      exact hjob (ServiceRequest.run_job settings (r := .runReconcile now pageSize fuel) id)

/-- A deed that does not create the conversation leaves it open only where it was open, and does
not report it as new. -/
lemma Deed.open_before {T : Terms} {settings : Settings} {st : Db} {c : UUID}
    {b b' : Option Conversation} {news : Option (UUID × Message)} {events : List Event}
    (h : Deed T settings st c b b' news events) (habsent : b = none → b' = none) :
    (∀ r', b' = some r' → r'.status = .opened →
        ∃ r, b = some r ∧ r.orderItemId = r'.orderItemId ∧ r.status = .opened)
      ∧ ∀ i, Event.conversationCreated c i ∉ events := by
  have hpriority : ∀ before after now i,
      Event.conversationCreated c i ∉ priorityEvents c before after now := by
    intro before after now i
    rw [priorityEvents]
    split <;> simp
  cases h with
  | nothing b => exact ⟨fun r' hr' hopen => ⟨r', hr', rfl, hopen⟩, by simp⟩
  | created itemId reason now _ _ _ => cases habsent rfl
  | @messaged b _ id user content now _ hopen _ =>
      refine ⟨fun r' hr' _ => ?_, by simp⟩
      cases hr'
      exact ⟨b, rfl, rfl, hopen⟩
  | expired b id now _ hopen _ _ =>
      refine ⟨fun r' hr' hopen' => ?_, by simp⟩
      cases hr'
      rw [patch_expire_status hopen] at hopen'
      cases hopen'
  | shut now _ _ =>
      refine ⟨fun r' hr' hopen' => ?_, by simp⟩
      cases hr'
      cases hopen'
  | @recalculated _ x item b now _ _ _ _ =>
      refine ⟨fun r' hr' hopen' => ?_, hpriority _ _ _⟩
      cases hr'
      rw [patch_recalculate_status] at hopen'
      exact ⟨b, rfl, by simp [Conversation.patch, column], hopen'⟩
  | overridden b override now _ _ =>
      refine ⟨fun r' hr' hopen' => ?_, hpriority _ _ _⟩
      cases hr'
      exact ⟨b, rfl, rfl, hopen'⟩

/-- Who creates no conversation opens none. -/
lemma Did.opensNone {T : Terms} {settings : Settings} {st : Db} {s : AppSession}
    (h : Did T settings st s)
    (habsent : ∀ c, Db.conversation st c = none → Db.conversation (merge st s.held) c = none) :
    OpensNone st s := by
  obtain ⟨news, hdeeds⟩ := h
  refine ⟨fun i c => ?_, fun c i hmem => ?_⟩
  · rintro ⟨r', hr', hitem, hopen⟩
    obtain ⟨r, hr, hsame, hopen'⟩ := ((hdeeds.conversation c).open_before
      (habsent c)).1 r' hr' hopen
    exact ⟨r, hr, hsame.trans hitem, hopen'⟩
  · refine ((hdeeds.conversation c).open_before (habsent c)).2 i (List.mem_filter.mpr ⟨hmem, ?_⟩)
    simp [Event.concerns]

/-! ### Requests on tables without the index -/

/-- The tables with the index `uq_conversations_open_order_item`, or without it. -/
@[reducible]
def openIndex (index : Bool) : Table Row where
  patch := patchRow
  clash k r k' r' := (index || !k.isConversation) && uniqueClash k r k' r'

/-- What `create_conversation` answers; the answers of the other requests do not matter here. -/
abbrev OpeningAnswer := Option (ConversationResponse × Bool)

/-- The program of a request, with the answer of `create_conversation`. -/
def ServiceRequest.answering (settings : Settings) : ServiceRequest → Txn OpeningAnswer
  | .conversation (.createConversation itemId reason user) =>
      ending (createConversation itemId reason user) some
  | r => (r.run settings).bind fun _ => .pure none

/-- The programs of the service. -/
def IsAnswering (settings : Settings) (p : Txn OpeningAnswer) : Prop :=
  ∃ r : ServiceRequest, p = r.answering settings

lemma ServiceRequest.answering_eq (settings : Settings) {r : ServiceRequest} (hr : r.opensNone) :
    r.answering settings = (r.run settings).bind fun _ => .pure none := by
  cases r with
  | conversation request =>
      cases request with
      | createConversation itemId reason user => exact hr.elim
      | _ => rfl
  | _ => rfl

section Answering

variable {settings : Settings} {o : Outline Row Event} {st : Db}

/-- A request that is no `create_conversation` opens no conversation. -/
lemma wp_opensNone (hnone : ∀ st s, OpensNone st s → o.commit st s) {r : ServiceRequest}
    (hr : r.opensNone) : wp o (r.run settings) (fun _ _ _ => True) st ∅ := by
  have hdid : wp (o.at fun st s => Did freeTerms settings st s) (r.run settings)
      (fun _ _ _ => True) st ∅ :=
    wp_serviceRequest (free_tells _) (fun _ _ h => h) (fun _ _ => trivial) r fun _ _ => trivial
  have habsent : wp (o.at fun st s => ∀ c, Db.conversation st c = none →
      Db.conversation (merge st s.held) c = none) (r.run settings) (fun _ _ _ => True) st ∅ :=
    wp_of_allOps (I := fun s : AppSession => ∀ c, s.Without (Key.conversation c))
      (r.run_createsNone settings hr)
      (fun _ op _ _ _ _ _ _ hok hs he c =>
        (hs c).step (show op.spares (Key.conversation c) from hok c) he)
      (fun st s hs hag c => (hs c).absent hag) (fun _ => .empty) (fun _ _ _ _ => trivial)
      fun _ => .empty
  exact wp_commit_mono (fun st s h => hnone st s (h.1.opensNone h.2)) (wp_and (o := o) hdid habsent)

/-- So with another index, and with the answer. -/
lemma wp_answering_none (index : Bool) (hnone : ∀ st s, OpensNone st s → o.commit st s)
    {r : ServiceRequest} (hr : r.opensNone) {post : OpeningAnswer → Db → AppSession → Prop}
    (hpost : ∀ st s, post none st s) :
    letI := openIndex index
    wp o (r.answering settings) post st ∅ := by
  have hrun : wp o (r.run settings) (fun _ _ _ => True) st ∅ := wp_opensNone hnone hr
  have hspares := r.run_createsNone settings hr
  rw [r.answering_eq settings hr]
  let _ := openIndex index
  have hindexed := wp_table instTableKeyRow (openIndex index)
    (F := fun k => k.isConversation = true) (fun _ _ _ => rfl)
    (fun k hk r k' r' => by simp [Table.clash, hk])
    (fun k hk => hspares.mono fun op hop => by
      cases k with
      | conversation c => exact hop c
      | _ => cases hk) (fun _ _ => .empty) hrun
  exact wp_bind (wp_mono hindexed fun _ st s _ st' _ => hpost st' s)

/-- **Every request opens a conversation only under the lock of its item**, with or without the
index. -/
theorem wp_answering {M : Db → Db → Prop} (index : Bool) (r : ServiceRequest)
    {post : OpeningAnswer → Db → AppSession → Prop}
    (hnone : r.opensNone → ∀ st s, OpensNone st s → o.commit st s)
    (hpost_none : ∀ st s, post none st s)
    (ho : ∀ itemId reason user, r = .conversation (.createConversation itemId reason user) →
      OpeningRules o M itemId)
    (hpost : ∀ itemId reason user a v st,
      r = .conversation (.createConversation itemId reason user) →
      OpenFor v itemId a.1.id → M v st → post (some a) st ∅) :
    letI := openIndex index
    wp o (r.answering settings) post st ∅ := by
  by_cases hr : r.opensNone
  · exact wp_answering_none index (hnone hr) hr hpost_none
  · cases r with
    | conversation request =>
        cases request with
        | createConversation itemId reason user =>
            let _ := openIndex index
            exact wp_opening (ho _ _ _ rfl) reason user fun a v st hv hm =>
              hpost _ _ _ a v st rfl hv hm
        | _ => exact absurd trivial hr
    | _ => exact absurd trivial hr

end Answering

lemma openingOutline_rules (itemId : UUID) :
    OpeningRules openingOutline (fun _ _ => True) itemId where
  refl _ := trivial
  trans _ _ _ _ _ := trivial
  moved _ _ _ _ := trivial
  same _ _ _ := trivial
  locked _ _ _ h := h itemId
  none _ _ h := .inl h
  opens _ _ id h := .inr ⟨itemId, id, h⟩

/-! ### Runs -/

/-- The states that the requests of the service reach, statement by statement, on tables with the
index or without it. -/
def ReachableOn (index : Bool) (settings : Settings)
    (G : Sys Row Event DomainError OpeningAnswer →
      Action Row Event DomainError OpeningAnswer → Prop)
    (s₀ s : Sys Row Event DomainError OpeningAnswer) : Prop :=
  letI := openIndex index
  Reachable (IsAnswering settings) G s₀ s

section Runs

variable {index : Bool} {settings : Settings} {st₀ : Db}
    {s : Sys Row Event DomainError OpeningAnswer}
  {G : Sys Row Event DomainError OpeningAnswer → Action Row Event DomainError OpeningAnswer → Prop}

lemma ReachableOn.ok (hstart : OneOpen st₀) (h : ReachableOn index settings G (Sys.rest st₀) s) :
    letI := openIndex index
    s.Ok openingOutline fun _ _ _ => True := by
  let _ := openIndex index
  refine Reachable.ok openingOutline_sound hstart ?_ (fun _ _ _ _ _ _ _ _ _ _ => trivial) h
  rintro p ⟨r, rfl⟩ st log -
  exact wp_answering index r (fun _ _ _ h => .inl h) (fun _ _ => trivial)
    (fun itemId _ _ _ => openingOutline_rules itemId) fun _ _ _ _ _ _ _ _ _ => trivial

/-- **The lock of the item keeps its open conversation unique**, also without the partial unique
index: in no state that the service reaches are two conversations of an item open. -/
theorem one_open (index : Bool) (settings : Settings) {st₀ : Db}
    {s : Sys Row Event DomainError OpeningAnswer} (hstart : OneOpen st₀)
    (h : ReachableOn index settings (fun _ _ => True) (Sys.rest st₀) s) : OneOpen s.committed := by
  let _ := openIndex index
  exact (h.ok hstart).inv

/-! ### The savepoint -/

/-- `get_or_create_conversation` writes nothing before the insert. -/
lemma body_seekConversation (itemId : UUID) (reason : ConversationReason) (user : CurrentUser) :
    (seekConversation itemId reason user).Body fun _ => False := by
  refine (body_loadParticipantItem _ _ _).bind fun _ => (body_openForItem itemId).bind
    fun existing => ?_
  cases existing with
  | some existing => trivial
  | none =>
      exact ⟨trivial, fun now => (Prog.body_get _).bind fun item => (body_loadOr _ _).bind
        fun item => ⟨trivial, fun id => trivial⟩⟩

/-- `create_conversation` from the insert on. -/
def settling (itemId : UUID) (found : (UUID × Conversation) ⊕ (UUID × Conversation)) :
    Txn OpeningAnswer :=
  ending (settleConversation itemId found) some

/-- The insert is its only step that can create a conversation. -/
lemma only_settling (itemId : UUID) (found : (UUID × Conversation) ⊕ (UUID × Conversation)) :
    (settling itemId found).Only createsNone := by
  rcases found with ⟨id, conversation⟩ | ⟨id, conversation⟩
  · have hall : (settling itemId (.inl (id, conversation))).AllOps createsNone :=
      createsNone_ending trivial
    exact hall.2
  · intro inserted
    refine createsNone_ending (g := some) ?_
    cases inserted with
    | true => exact ⟨fun _ => trivial, fun _ => trivial⟩
    | false =>
        have hopen : (openForItem itemId).AllOps createsNone :=
          (body_openForItem (F := fun _ => False) itemId).allOps.mono
            (createsNone_of_within fun _ h => h)
        refine hopen.bind fun existing => ?_
        cases existing <;> trivial

/-- Nothing stands in the way of the conversation that is to be inserted. -/
lemma Sought.not_clashes (index : Bool) {M : Db → Db → Prop} {itemId id : UUID}
    {conversation : Conversation} {st : Db} {s : AppSession}
    (hs : Sought M itemId (.inr (id, conversation)) st s) (hid : Db.conversation st id = none) :
    letI := openIndex index
    clashes (s.view st) (.conversation id) conversation = false := by
  obtain ⟨-, hnone, reason, item, now, rfl⟩ := hs.new id conversation rfl
  have hview : ∀ c, (s.view st).lookup (.conversation c) = Db.conversation st c := by
    intro c
    rw [lookup_view, hs.noConversation _ rfl]
  let _ := openIndex index
  rw [clashes, hview, hid, Option.isSome_none, Bool.false_or, List.any_eq_false]
  rintro ⟨k, r⟩ he hclash
  simp only [Table.clash, Bool.and_eq_true] at hclash
  cases k with
  | conversation c =>
      have hrow : Db.conversation st c = some r := by
        rw [← hview]
        exact AList.mem_lookup_iff.mpr he
      simp only [uniqueClash, Bool.and_eq_true, beq_iff_eq] at hclash
      exact hnone ⟨c, r, hrow, hclash.2.2.symm, hclash.2.1.2⟩
  | _ => cases hclash.2

/-- What is left of a request: the way to the insert of a conversation, or no such insert. -/
def Approaching (index : Bool) (st : Db) (p : Txn OpeningAnswer) (s : AppSession) : Prop :=
  letI := openIndex index
  p.AllOps createsNone ∨ ∃ itemId, p.Approaches openingOutline createsNone (settling itemId)
    (Sought (fun _ _ => True) itemId) st s

lemma ServiceRequest.approaching (index : Bool) (settings : Settings)
    (r : ServiceRequest) (st : Db) :
    Approaching index st (r.answering settings) ∅ := by
  let _ := openIndex index
  by_cases hr : r.opensNone
  · rw [r.answering_eq settings hr]
    exact .inl ((r.run_createsNone settings hr).bind fun _ => trivial)
  · cases r with
    | conversation request =>
        cases request with
        | createConversation itemId reason user =>
            have hbody := body_seekConversation itemId reason user
            refine .inr ⟨itemId, .inl ⟨seekConversation itemId reason user, ?_,
              hbody.allOps.mono (createsNone_of_within fun _ h => h), hbody.uncommitted,
              wp_seekConversation (openingOutline_rules itemId) reason user⟩⟩
            rw [ServiceRequest.answering, ending, createConversation_eq, Prog.bind_assoc]
            rfl
        | _ => exact absurd trivial hr
    | _ => exact absurd trivial hr

/-- The threads of a run approach the insert so. -/
lemma ReachableOn.approaching (hstart : OneOpen st₀)
    (h : ReachableOn index settings G (Sys.rest st₀) s) {t : ℕ}
    {th : Thread Row Event DomainError OpeningAnswer} (hth : s.threads.lookup t = some th) :
    Approaching index s.committed th.prog th.session := by
  let _ := openIndex index
  refine Reachable.window (I := fun _ => Approaching index) ?_ ?_ ?_ ?_ ?_ ?_ h t th ?_ hth
  · rintro s _ - ⟨r, rfl⟩
    exact r.approaching index settings s.committed
  · intro s t c th γ op k b se hr hth hp _ he hI
    have hok := ReachableOn.ok hstart hr
    rw [hp] at hI
    rcases hI with hall | ⟨itemId, happ⟩
    · exact .inl (hall.2 b)
    · exact .inr ⟨itemId, happ.step (only_settling itemId)
        ⟨openingOutline.rely_refl _ _, ⟨_, hok.inv⟩, hok.agrees t th hth⟩ trivial he⟩
  · intro s t c th k hr hth hp _ hI
    rw [hp] at hI
    rcases hI with hall | ⟨itemId, happ⟩
    · exact .inl hall
    · exact .inl (happ.commit (only_settling itemId))
  · intro s t c th k t' th' hr hth hp _ hne hth' hI
    have hok := ReachableOn.ok hstart hr
    have hwp := hok.thread t th hth
    rw [hp] at hwp
    have hcommit := (hwp s.committed
      ⟨openingOutline.rely_refl _ _, ⟨_, hok.inv⟩, hok.agrees t th hth⟩).1
    rcases hI with hall | ⟨itemId, happ⟩
    · exact .inl hall
    · exact .inr ⟨itemId, happ.rely (openingOutline_sound.relied _ _ _ _ hok.inv
        (hok.agrees t th hth) (hok.agrees t' th' hth') (hok.apart t t' th th' hne.symm hth hth')
        hcommit)⟩
  · intro _ st k se hI
    rcases hI with hall | ⟨itemId, happ⟩
    · exact .inl hall
    · exact .inr ⟨itemId, happ.publish (only_settling itemId)⟩
  · exact fun _ _ _ => .inl trivial
  · rfl

/-- **The savepoint is never rolled back**: whenever the insert of a conversation goes through to an
answer, the answer is that it was inserted, with the partial unique index and without it. So
`get_or_create_conversation` never comes to its `except IntegrityError`. -/
theorem insert_accepted (index : Bool) (settings : Settings) {st₀ : Db}
    {s : Sys Row Event DomainError OpeningAnswer} (hstart : OneOpen st₀)
    (h : ReachableOn index settings (fun _ _ => True) (Sys.rest st₀) s) {t : ℕ}
    {th : Thread Row Event DomainError OpeningAnswer} (hth : s.threads.lookup t = some th)
    {id : UUID} {conversation : Conversation} {k : Bool → Txn OpeningAnswer}
    (hp : th.prog = .op (.insertNested (.conversation id) conversation) k)
    (hid : Db.conversation s.committed id = none) {c : Choice} {inserted : Bool} {se : AppSession}
    (he : letI := openIndex index
      (Op.insertNested (.conversation id) conversation : Op Row Event Bool).eval c (s.busy t)
        s.committed th.session = some (inserted, se)) : inserted = true := by
  let _ := openIndex index
  have hI := h.approaching hstart hth
  rw [hp] at hI
  rcases hI with hall | ⟨itemId, happ⟩
  · exact absurd rfl (hall.1 id)
  · obtain ⟨found, hfound, hs⟩ := happ.reached fun hnone => hnone id rfl
    rcases found with ⟨id', conversation'⟩ | ⟨id', conversation'⟩
    · have hall : (settling itemId (.inl (id', conversation'))).AllOps createsNone :=
        createsNone_ending trivial
      rw [hfound] at hall
      exact absurd rfl (hall.1 id)
    · cases hfound
      rcases eval_insertNested he with ⟨-, -, hclash⟩ | ⟨hins, -⟩
      · rw [hs.not_clashes index hid] at hclash
        cases hclash
      · exact hins

end Runs

/-! ### Two creates -/

/-- The buyer or the seller of the mugs asks for a conversation. -/
def createMugs (user : CurrentUser) : Txn OpeningAnswer :=
  (ServiceRequest.conversation (.createConversation 5 .reclamacao user)).answering {}

/-- Both ask, and the buyer gets the lock of the item first. -/
def twoCreates : List (Action Row Event DomainError OpeningAnswer) :=
  [.start 1 (createMugs ⟨7, .buyer, none⟩), .start 2 (createMugs ⟨8, .seller, some 1⟩)]
    ++ Action.steps 1 11 100 ++ Action.steps 2 7 200

lemma twoCreates_starts : ∀ a ∈ twoCreates, a.Starts (IsAnswering {}) := by
  intro a ha
  simp only [twoCreates, List.mem_append, List.mem_cons, List.not_mem_nil, or_false] at ha
  rcases ha with ((rfl | rfl) | h) | h
  · exact ⟨_, rfl⟩
  · exact ⟨_, rfl⟩
  · exact Action.starts_of_mem_steps h
  · exact Action.starts_of_mem_steps h

lemma mugOrder_oneOpen : OneOpen mugOrder := by
  intro c b c' b' _ hb
  rw [mugOrder_silent c] at hb
  cases hb

/-- What is shown of a state: the open conversations of the mugs, and the answers. -/
def shownCreates (s : Sys Row Event DomainError OpeningAnswer) :
    List UUID × Option (UUID × Bool) × Option (UUID × Bool) :=
  let answer (t : ℕ) : Option (UUID × Bool) :=
    match (s.threads.lookup t).map Thread.prog with
    | some (.pure (some a)) => some (a.1.id, a.2)
    | _ => none
  (((Db.conversations s.committed).filter fun c => c.2.status == .opened).map Prod.fst, answer 1,
    answer 2)

theorem one_open_mugs :
    letI := openIndex false
    ∃ s, Sys.run twoCreates (Sys.rest mugOrder) = some s
      ∧ shownCreates s = ([105], some (105, true), some (105, false)) ∧ OneOpen s.committed := by
  let _ := openIndex false
  have hshown : (Sys.run twoCreates (Sys.rest mugOrder)).map shownCreates
      = some ([105], some (105, true), some (105, false)) := by decide +kernel
  obtain ⟨s, hs, hmugs⟩ := Option.map_eq_some_iff.mp hshown
  have hreach : Reachable (IsAnswering {}) (fun _ _ => True) (Sys.rest mugOrder) s :=
    reachable_of_run (fun _ _ => trivial) .init twoCreates_starts hs
  exact ⟨s, hs, hmugs, one_open false {} mugOrder_oneOpen hreach⟩

theorem insert_accepted_mugs :
    letI := openIndex false
    ∃ s th k conversation c inserted se,
      Sys.run (twoCreates.take 8) (Sys.rest mugOrder) = some s
      ∧ s.threads.lookup 1 = some th
      ∧ th.prog = .op (.insertNested (.conversation 105) conversation) k
      ∧ (Op.insertNested (.conversation 105) conversation : Op Row Event Bool).eval c (s.busy 1)
          s.committed th.session = some (inserted, se) ∧ inserted = true := by
  let _ := openIndex false
  obtain ⟨s, th, k, conversation, se, hs, hth, hp, hid, he⟩ : ∃ s th k conversation se,
      Sys.run (twoCreates.take 8) (Sys.rest mugOrder) = some s
      ∧ s.threads.lookup 1 = some th
      ∧ th.prog = .op (.insertNested (.conversation 105) conversation) k
      ∧ Db.conversation s.committed 105 = none
      ∧ (Op.insertNested (.conversation 105) conversation : Op Row Event Bool).eval ⟨0, 0, false⟩
        (s.busy 1) s.committed th.session = some (true, se) :=
    ⟨_, _, _, _, _, rfl, rfl, rfl, rfl, rfl⟩
  have hreach : Reachable (IsAnswering {}) (fun _ _ => True) (Sys.rest mugOrder) s :=
    reachable_of_run (fun _ _ => trivial) .init
      (fun a ha => twoCreates_starts a (List.mem_of_mem_take ha)) hs
  exact ⟨s, th, k, conversation, ⟨0, 0, false⟩, true, se, hs, hth, hp, he,
    insert_accepted false {} mugOrder_oneOpen hreach hth hp hid he⟩

end MarketHub
