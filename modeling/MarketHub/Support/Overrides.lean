import MarketHub.Communication.Requests

/-!
The priority requests of Ops, under interference.

* `wp_finish_twice`: a request that flushes before its transaction does.
* `wp_refreshOpsConversationPriority`, `wp_markConversationCritical`,
  `wp_removeConversationCritical`: the deed of each of them.
-/

namespace MarketHub

open ReadCommitted Session

section Overrides

variable {α : Type} {o : Outline Row Event} {post : α → Db → AppSession → Prop} {st : Db}
  {T : Terms} {settings : Settings} {c : UUID} {b cur : Conversation} {s : AppSession}

/-- The end of a request that has flushed its change. -/
lemma wp_finish_twice {a : α} {news : Option (UUID × Message)} (hT : Tells o T)
    (hdid : ∀ st s, Did T settings st s → o.commit st s) (hpost : ∀ a st, post a st ∅)
    (h : Working (.conversation c) b cur news s)
    (hdeed : ∀ st', T.moved st st' →
      Deed T settings st' c (some b) (some cur) news (s.pending.filter (Event.concerns c)))
    (hother : ∀ c', c' ≠ c → s.pending.filter (Event.concerns c') = [])
    (hitem : ∀ i, s.pending.filter (Event.concernsItem i) = []) :
    wp o (Prog.flush.bind fun _ => Prog.flush.bind fun _ =>
      (.commit (.publish (.pure a)) : Txn α)) post st s := by
  refine wp_flush_exact T.moved T.moved_refl T.moved_trans hT.moved
    fun st₁ s₁ hm hflush hclean => ?_
  refine wp_end T.moved T.moved_refl T.moved_trans hT.moved fun st₂ s₂ hm' hflush' hag => ?_
  have hmoved := T.moved_trans _ _ _ hm hm'
  exact ⟨hdid _ _ (h.deeds (hflush.again hclean hflush') hag (hdeed st₂ hmoved) hother hitem),
    fun _ _ => hpost _ _⟩

/-- A change of the effective priority is recorded. -/
lemma wp_recordPriorityChange {before after : Priority} {now : DateTime} {f : Unit → Txn α}
    (h : ∀ st', o.rely s st st' → wp o (f ()) post st'
      { s with pending := s.pending ++ priorityEvents c before after now }) :
    wp o ((recordPriorityChange c before after now).bind f) post st s := by
  rw [recordPriorityChange]
  split
  · rename_i hne
    refine wp_record fun st' hf => ?_
    have hnext := h st' hf.rely
    rw [priorityEvents, if_pos hne] at hnext
    exact hnext
  · rename_i heq
    have hnext := h st (o.rely_refl s st)
    rw [priorityEvents, if_neg heq, List.append_nil] at hnext
    exact hnext

/-- The events of a change concern no other conversation. -/
lemma priorityEvents_other {before after : Priority} {now : DateTime} {c' : UUID} (h : c' ≠ c) :
    (priorityEvents c before after now).filter (Event.concerns c') = [] := by
  rw [priorityEvents]
  split <;> simp [Event.concerns, h.symm]

lemma priorityEvents_item {before after : Priority} {now : DateTime} (i : UUID) :
    (priorityEvents c before after now).filter (Event.concernsItem i) = [] := by
  rw [priorityEvents]
  split <;> simp [Event.concernsItem]

lemma priorityEvents_self {before after : Priority} {now : DateTime} :
    (priorityEvents c before after now).filter (Event.concerns c)
      = priorityEvents c before after now := by
  rw [priorityEvents]
  split <;> simp [Event.concerns]

/-- `require_ops`. -/
lemma wp_requireOps {user : CurrentUser} {f : Unit → Txn α} (h : wp o (f ()) post st s) :
    wp o ((requireOps user).bind f) post st s := by
  rw [requireOps]
  split
  · exact h
  · trivial

/-- An override is set in a session whose events are about nothing else. -/
lemma wp_setOverride {override : Option Priority} {g : Conversation → α} (hT : Tells o T)
    (hoverride : override = none ∨ override = some .critical)
    (hdid : ∀ st s, Did T settings st s → o.commit st s) (hpost : ∀ a st, post a st ∅)
    (h : Working (.conversation c) b b none s)
    (hevents : ∀ c', s.pending.filter (Event.concerns c') = [])
    (hitem : ∀ i, s.pending.filter (Event.concernsItem i) = []) :
    wp o ((setOverride c b override).bind fun changed => Prog.flush.bind fun _ =>
      (.commit (.publish (.pure (g changed))) : Txn α)) post st s := by
  simp only [setOverride, Prog.bind_eq, Prog.pure_eq, Prog.bind_assoc]
  refine wp_utcnow fun st₁ ch _ hg => wp_assign fun st₂ ob _ hob => ?_
  obtain rfl : ob = ⟨some b, b⟩ := Option.some.inj (hob.symm.trans h.object)
  refine wp_recordPriorityChange fun st₃ _ => ?_
  refine wp_finish_twice hT hdid hpost ((h.assign (b.withOverride override ch.now)).record _)
    (fun st' _ => ?_) (fun c' hc => ?_) fun i => ?_
  · rw [List.filter_append, hevents c, priorityEvents_self, List.nil_append]
    exact .overridden b override ch.now (hT.clock _ _ _ hg) hoverride
  · rw [List.filter_append, hevents c', priorityEvents_other hc, List.append_nil]
  · rw [List.filter_append, hitem i, priorityEvents_item, List.append_nil]

/-- A comment is added. -/
lemma wp_createComment {itemId : UUID} {user : CurrentUser} {content : String} {f : UUID → Txn α}
    (hT : Tells o T) (h : Working (.conversation c) b b none s)
    (hnext : ∀ st' id s', Working (.conversation c) b b none s' →
      s'.pending = s.pending ++ [.internalCommentCreated id itemId] → wp o (f id) post st' s') :
    wp o ((createComment itemId user content).bind f) post st s := by
  simp only [createComment, commentAuthorTypeFor, Prog.bind_eq, Prog.pure_eq, Prog.bind_assoc]
  have hadd : ∀ authorType st₁, wp o (Prog.uuid4.bind fun id => Prog.utcnow.bind fun createdAt =>
      (Prog.add (.internalComment id) (⟨itemId, user.id, authorType, content, createdAt⟩ :
        InternalComment)).bind fun _ => Prog.flush.bind fun _ =>
          (Prog.record (.internalCommentCreated id itemId)).bind fun _ => f id) post st₁ s := by
    intro authorType st₁
    refine wp_uuid4 fun st₂ id _ => wp_utcnow fun st₃ ch _ _ => wp_add fun st₄ _ hnone => ?_
    refine wp_flush_exact T.moved T.moved_refl T.moved_trans hT.moved
      fun st₅ s₅ _ hflush hclean => ?_
    refine wp_record fun st₆ _ => hnext st₆ id _ ?_ (congrArg (· ++ _) hflush.pending)
    have hkept : ∀ k, k ≠ .internalComment id → s₅.held.lookup k = s.held.lookup k
        ∧ s₅.objects.lookup k = s.objects.lookup k := by
      intro k hk
      have hobj : (s.objects.insert (.internalComment id) (⟨none, ⟨itemId, user.id, authorType,
          content, ch.now⟩⟩ : Obj Row (.internalComment id))).lookup k = s.objects.lookup k :=
        AList.lookup_insert_ne hk
      obtain ⟨hheld, hobj'⟩ := hflush.kept k fun o ho => h.clean_of_same k o (hobj ▸ ho)
      exact ⟨hheld, hobj'.trans hobj⟩
    refine ⟨?_, ?_, fun k o _ ho => hclean k o ho, fun _ _ hm => (by cases hm),
      fun k hd htr hk => ?_⟩
    · exact ((hkept _ (by simp)).1).trans h.held
    · exact ((hkept _ (by simp)).2).trans h.object
    · exact h.still k hd htr (((hkept k (by rintro rfl; cases htr)).1).symm.trans hk)
  split
  · exact hadd _ st
  · exact hadd _ st
  · trivial

variable (hT : Tells o T) (hdid : ∀ st s, Did T settings st s → o.commit st s)
  (hpost : ∀ a st, post a st ∅)
include hT hdid hpost

theorem wp_refreshOpsConversationPriority (ops : CurrentUser) (g : Conversation → α) :
    wp o (ending (refreshOpsConversationPriority c ops) g) post st ∅ := by
  simp only [ending, refreshOpsConversationPriority, refreshCalculatedPriority,
    applyCalculatedPriority, loadOpsItem, Prog.bind_eq, Prog.pure_eq, Prog.bind_assoc]
  refine wp_requireOps (wp_loadOpsConversation fun st₁ b s₁ _ _ hs => ?_)
  refine wp_get (fun _ _ _ _ => trivial) (fun _ ob _ hob => ?_) fun st₂ item hf₂ _ hitem => ?_
  · rw [hs.objectsOnly _ (by simp)] at hob
    cases hob
  rw [lookup_view, hs.heldOnly _ (by simp)] at hitem
  have hconv : Db.conversation st₂ c = some b := hf₂.agrees _ _ hs.held
  refine wp_loadOr fun r hr => ?_
  obtain rfl : item = r := Option.some.inj hr
  refine wp_utcnow fun st₃ ch hf₃ hg => wp_assign fun st₄ ob hf₄ hob => ?_
  have hwork := hs.working.load (s₁.view st₂) (.orderItem b.orderItemId)
  obtain rfl : ob = ⟨some b, b⟩ := Option.some.inj (hob.symm.trans hwork.object)
  refine wp_recordPriorityChange fun st₅ hr₅ => ?_
  refine wp_finish_twice hT hdid hpost ((hwork.assign (recalculate b item ch.now)).record _)
    (fun st' hm => ?_) (fun c' hc => ?_) fun i => ?_
  · have hmoved : T.moved st₂ st' := T.moved_trans _ _ _ (hT.moved _ _ _ hf₃.rely)
      (T.moved_trans _ _ _ (hT.moved _ _ _ hf₄.rely) (T.moved_trans _ _ _ (hT.moved _ _ _ hr₅) hm))
    have hdeed : Deed T settings st' c _ _ _ _ :=
      .recalculated b ch.now (hT.clock _ _ _ hg) hmoved hconv hitem
    rw [Conversation.patch_self] at hdeed
    simpa [hs.pending, priorityEvents_self] using hdeed
  · simp [hs.pending, priorityEvents_other hc]
  · simp [hs.pending, priorityEvents_item]

theorem wp_markConversationCritical (justification : String) (ops : CurrentUser)
    (g : Conversation → α) :
    wp o (ending (markConversationCritical c justification ops) g) post st ∅ := by
  simp only [ending, markConversationCritical, applyCritical, Prog.bind_eq, Prog.bind_assoc]
  refine wp_requireOps (wp_loadOpsConversation fun st₁ b s₁ _ _ hs => ?_)
  split
  · trivial
  · simp only [Prog.bind_assoc]
    refine wp_createComment hT hs.working fun st₂ id s₂ hwork hpending => ?_
    rw [hs.pending, List.nil_append] at hpending
    refine wp_setOverride hT (Or.inr rfl) hdid hpost hwork (fun c' => ?_) fun i => ?_
    · rw [hpending]
      rfl
    · rw [hpending]
      rfl

theorem wp_removeConversationCritical (ops : CurrentUser) (g : Conversation → α) :
    wp o (ending (removeConversationCritical c ops) g) post st ∅ := by
  simp only [ending, removeConversationCritical, removeCritical, Prog.bind_eq, Prog.bind_assoc]
  refine wp_requireOps (wp_loadOpsConversation fun st₁ b s₁ _ _ hs => ?_)
  split
  · trivial
  · refine wp_setOverride hT (Or.inl rfl) hdid hpost hs.working (fun c' => ?_) fun i => ?_
    · rw [hs.pending]
      rfl
    · rw [hs.pending]
      rfl

omit hpost in
/-- **The requests of Ops.** -/
theorem wp_opsRequest {post : Unit → Db → AppSession → Prop} (hpost : ∀ a st, post a st ∅)
    (r : OpsRequest) : wp o r.run post st ∅ := by
  cases r with
  | refreshOpsConversationPriority c ops =>
      rw [OpsRequest.run, transaction_ignore]
      exact wp_refreshOpsConversationPriority hT hdid hpost ops _
  | markConversationCritical c justification ops =>
      rw [OpsRequest.run, transaction_ignore]
      exact wp_markConversationCritical hT hdid hpost justification ops _
  | removeConversationCritical c ops =>
      rw [OpsRequest.run, transaction_ignore]
      exact wp_removeConversationCritical hT hdid hpost ops _

end Overrides

end MarketHub
