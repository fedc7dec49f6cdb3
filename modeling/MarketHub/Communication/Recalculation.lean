import MarketHub.Communication.Requests
import MarketHub.Support.Overrides

/-!
The pages of a reconciliation, under interference.

A page reads conversations and items without locks and sends the changed columns of the
conversations at its end.

* `Paged`: where one conversation stands in the session of a page, and `Paging` all of
  them together; `Paging.deeds` reads the deeds off.
* `wp_reconcilePage`, `wp_runReconcile`: what a page and a whole run do.
-/

namespace MarketHub

open ReadCommitted Session

/-! ### The rows of a page -/

/-- The rows of a page are stale conversations with their items. -/
lemma mem_stalePage {now : DateTime} {pageSize : ℕ} {afterId : Option UUID} {v : Db}
    {row : StaleRow} (h : row ∈ stalePage now pageSize afterId v) :
    Db.conversation v row.1.1 = some row.1.2 ∧ Db.orderItem v row.1.2.orderItemId = some row.2
      ∧ row.1.2.status = .opened ∧ staleClause now row.1.2 row.2 = some true := by
  have hmem := List.mem_of_mem_filter (List.mem_of_mem_take h)
  rw [staleStatement, List.mem_insertionSort, List.mem_filterMap] at hmem
  obtain ⟨⟨id, conversation⟩, hconv, hrow⟩ := hmem
  rw [mem_conversations] at hconv
  split at hrow
  · cases hrow
  · rename_i item hitem
    split at hrow
    · rename_i hstale
      cases hrow
      exact ⟨hconv, hitem, hstale⟩
    · cases hrow

/-- A page has every conversation once. -/
lemma stalePage_nodup (now : DateTime) (pageSize : ℕ) (afterId : Option UUID) (v : Db) :
    ((stalePage now pageSize afterId v).map fun row => row.1.1).Nodup := by
  have hsub : ((stalePage now pageSize afterId v).map fun row => row.1.1).Sublist
      ((staleStatement now v).map fun row => row.1.1) :=
    ((List.take_sublist _ _).trans List.filter_sublist).map _
  refine hsub.nodup ?_
  rw [staleStatement, ((List.perm_insertionSort _ _).map _).nodup_iff]
  refine List.Sublist.nodup ?_ (conversations_nodup v)
  induction Db.conversations v with
  | nil => exact List.Sublist.refl _
  | cons c l ih =>
      rw [List.filterMap_cons]
      split
      · exact ih.cons _
      · rename_i row hrow
        have hid : row.1.1 = c.1 := by
          split at hrow
          · cases hrow
          · split at hrow
            · cases hrow
              rfl
            · cases hrow
        rw [List.map_cons, List.map_cons, hid]
        exact ih.cons_cons _

/-! ### The session of a page -/

/-- Where a conversation stands in the session of a page that has read the rows `v`. -/
inductive Paged (v : Db) (moment : DateTime) (c : UUID) (s : AppSession) : Prop
  /-- It is as it was loaded. -/
  | idle : (∀ ob, s.objects.lookup (.conversation c) = some ob → ob.loaded = some ob.cur) →
      s.pending.filter (Event.concerns c) = [] → Paged v moment c s
  /-- Its priority was calculated again. -/
  | recalculated {x : Conversation} {item : OrderItem} : Db.conversation v c = some x →
      Db.orderItem v x.orderItemId = some item →
      s.objects.lookup (.conversation c) = some ⟨some x, recalculate x item moment⟩ →
      s.pending.filter (Event.concerns c) = priorityEvents c x.effectivePriority
        (recalculate x item moment).effectivePriority moment → Paged v moment c s

/-- The session of a page that has read the rows `v`. -/
structure Paging (v : Db) (moment : DateTime) (s : AppSession) : Prop where
  conversation : ∀ c, Paged v moment c s
  clean : ∀ k ob, k.isConversation = false → s.objects.lookup k = some ob →
    ob.loaded = some ob.cur
  held : ∀ k, s.held.lookup k = none
  items : ∀ i, s.pending.filter (Event.concernsItem i) = []

variable {T : Terms} {settings : Settings} {v st : Db} {moment : DateTime} {s s' : AppSession}

/-- A recalculation that changes nothing has no event. -/
lemma recalculate_same {x : Conversation} {item : OrderItem} {c : UUID}
    (h : recalculate x item moment = x) :
    priorityEvents c x.effectivePriority (recalculate x item moment).effectivePriority moment
      = [] := by
  rw [h, priorityEvents, if_neg (not_not.mpr rfl)]

/-- The deed of a conversation in a page that has been flushed. -/
lemma Paged.deed {c : UUID} (h : Paged v moment c s)
    (hheld : s.held.lookup (.conversation c) = none) (hclock : T.clock moment)
    (hmoved : T.moved v st) (hflush : Flushes s s') (hag : Agrees s'.held st) :
    Deed T settings st c (Db.conversation st c) (Db.conversation (merge st s'.held) c) none
      (s'.pending.filter (Event.concerns c)) := by
  have hstill : (∀ ob, s.objects.lookup (.conversation c) = some ob → ob.loaded = some ob.cur) →
      Db.conversation (merge st s'.held) c = Db.conversation st c := fun hclean =>
    lookup_merge_of_not_held ((hflush.kept _ hclean).1.trans hheld)
  cases h with
  | idle hclean hpending =>
      rw [hstill hclean, hflush.pending, hpending]
      exact .nothing _
  | @recalculated x item hconv hitem hobj hpending =>
      rw [hflush.pending, hpending]
      by_cases hsame : recalculate x item moment = x
      · rw [recalculate_same hsame, hstill fun ob hob => ?_]
        · exact .nothing _
        · rw [hobj, hsame] at hob
          cases hob
          rfl
      · have hdirty : (some x : Option Conversation)
            ≠ some (recalculate x item moment) := fun heq =>
          hsame (Option.some.inj heq).symm
        obtain ⟨w, r, hsend, hheld'⟩ := hflush.sent_free hobj hdirty hheld
        cases hsend with
        | insert hloaded _ => cases hloaded
        | @update old row hloaded _ hrow =>
            cases hloaded
            rw [hrow] at hheld'
            rw [Db.conversation, Db.conversation, hag _ _ hheld', lookup_merge_of_held hheld']
            exact .recalculated row moment hclock hmoved hconv hitem

/-- The deeds of a page once it is flushed. -/
lemma Paging.deeds (h : Paging v moment s) (hclock : T.clock moment) (hmoved : T.moved v st)
    (hflush : Flushes s s') (hag : Agrees s'.held st) : Did T settings st s' := by
  have hmerge : ∀ k, k.isConversation = false → (merge st s'.held).lookup k = st.lookup k :=
    fun k hk => lookup_merge_of_not_held
      (((hflush.kept k fun o ho => h.clean k o hk ho).1).trans (h.held k))
  refine ⟨fun _ => none, ⟨fun c => ?_, fun i => ?_, fun _ _ _ hm => (by cases hm), fun id _ => ?_⟩⟩
  · exact (h.conversation c).deed (h.held _) hclock hmoved hflush hag
  · rw [hflush.pending, h.items i, Db.orderItem, Db.orderItem, hmerge (.orderItem i) rfl]
    exact .nothing _
  · exact hmerge (.message id) rfl

/-! ### A page -/

section Page

variable {α : Type} {o : Outline Row Event} {post : α → Db → AppSession → Prop}

/-- The loop over the rows of a page. -/
lemma wp_reconcileRows (hT : Tells o T) (rows : List StaleRow) :
    ∀ {result : ReconcileResult} {f : ReconcileResult → Txn α} {st : Db} {s : AppSession},
      Paging v moment s → T.moved v st → (rows.map fun row => row.1.1).Nodup →
      (∀ row ∈ rows, Db.conversation v row.1.1 = some row.1.2
        ∧ Db.orderItem v row.1.2.orderItemId = some row.2
        ∧ s.objects.lookup (.conversation row.1.1) = some ⟨some row.1.2, row.1.2⟩
        ∧ s.pending.filter (Event.concerns row.1.1) = []) →
      (∀ result st' s', Paging v moment s' → T.moved v st' → wp o (f result) post st' s') →
      wp o ((reconcileRows moment rows result).bind f) post st s := by
  induction rows with
  | nil => exact fun h hm _ _ hnext => hnext _ _ _ h hm
  | cons row rows ih =>
      intro result f st s h hm hnodup hrows hnext
      obtain ⟨⟨id, x⟩, item⟩ := row
      obtain ⟨hconv, hitem, hobj, hpending⟩ := hrows _ List.mem_cons_self
      rw [List.map_cons, List.nodup_cons] at hnodup
      simp only [reconcileRows, applyCalculatedPriority, Prog.bind_eq, Prog.pure_eq,
        Prog.bind_assoc]
      refine wp_assign fun st₁ ob hf₁ hob => wp_recordPriorityChange fun st₂ hr₂ => ?_
      obtain rfl : ob = ⟨some x, x⟩ := Option.some.inj (hob.symm.trans hobj)
      have hm₂ : T.moved v st₂ := T.moved_trans _ _ _ hm
        (T.moved_trans _ _ _ (hT.moved _ _ _ hf₁.rely) (hT.moved _ _ _ hr₂))
      refine ih ⟨fun c => ?_, fun k ob hk hob => ?_, h.held, fun i => ?_⟩ hm₂ hnodup.2
        (fun row hrow => ?_) hnext
      · -- the conversation of this row, and the others
        by_cases hc : c = id
        · subst hc
          refine .recalculated hconv hitem (AList.lookup_insert _) ?_
          rw [List.filter_append, hpending, priorityEvents_self, List.nil_append]
        · have hlook : (s.objects.insert (.conversation id)
              (⟨some x, recalculate x item moment⟩ : Obj Row (.conversation id))).lookup
                (.conversation c) = s.objects.lookup (.conversation c) :=
            AList.lookup_insert_ne (by simpa using hc)
          cases h.conversation c with
          | idle hclean hp =>
              refine .idle (fun ob hob => hclean ob (hlook ▸ hob)) ?_
              rw [List.filter_append, priorityEvents_other hc, hp, List.append_nil]
          | recalculated hconv' hitem' hobj' hp =>
              refine .recalculated hconv' hitem' (hlook.trans hobj') ?_
              rw [List.filter_append, priorityEvents_other hc, hp, List.append_nil]
      · rw [AList.lookup_insert_ne (by rintro rfl; cases hk)] at hob
        exact h.clean k ob hk hob
      · rw [List.filter_append, h.items i, priorityEvents_item, List.append_nil]
      · obtain ⟨hconv', hitem', hobj', hp⟩ := hrows row (List.mem_cons_of_mem _ hrow)
        have hne : row.1.1 ≠ id := fun heq =>
          hnodup.1 (List.mem_map.mpr ⟨row, hrow, heq⟩)
        refine ⟨hconv', hitem', ?_, ?_⟩
        · exact (AList.lookup_insert_ne (by simpa using hne)).trans hobj'
        · rw [List.filter_append, priorityEvents_other hne, hp, List.append_nil]

variable (hT : Tells o T) (hdid : ∀ st s, Did T settings st s → o.commit st s)
  (hpost : ∀ a st, post a st ∅)
include hT hdid hpost

/-- **A page.** -/
theorem wp_reconcilePage (hclock : T.clock moment) (pageSize : ℕ) (afterId : Option UUID)
    (result : ReconcileResult) (g : Option (UUID × ReconcileResult) → α) :
    wp o (ending (reconcilePage moment pageSize afterId result) g) post st ∅ := by
  simp only [ending, reconcilePage, listStalePage, Prog.bind_eq, Prog.pure_eq, Prog.bind_assoc]
  refine wp_select fun v hf => ?_
  have hview : (∅ : AppSession).view v = v := rfl
  rw [hview]
  have hclean := (clean_empty : (∅ : AppSession).Clean).loads v
    ((stalePage moment pageSize afterId v).flatMap fun row =>
      [.conversation row.1.1, .orderItem row.1.2.orderItemId])
  have hheld : ∀ k, (((stalePage moment pageSize afterId v).flatMap fun row =>
      [Key.conversation row.1.1, .orderItem row.1.2.orderItemId]).foldl (Session.load v)
        (∅ : AppSession)).held.lookup k = none := by
    intro k
    rw [foldl_load_held]
    rfl
  have hpending : (((stalePage moment pageSize afterId v).flatMap fun row =>
      [Key.conversation row.1.1, .orderItem row.1.2.orderItemId]).foldl (Session.load v)
        (∅ : AppSession)).pending = [] := by
    rw [foldl_load_pending]
    rfl
  split
  · refine wp_finish_still hT (fun st s h _ => hdid st s h) hpost hclean hpending fun k h _ hk => ?_
    rw [hheld] at hk
    cases hk
  · simp only [Prog.bind_assoc]
    refine wp_reconcileRows (v := v) hT _ ⟨fun c => ?_, fun k ob _ hob => hclean k ob hob, hheld,
      fun i => ?_⟩ (T.moved_refl v) (stalePage_nodup _ _ _ _) (fun row hrow => ?_)
      fun result' st' s' hs hm => ?_
    · exact .idle (fun ob hob => hclean _ ob hob) (by rw [hpending]; rfl)
    · rw [hpending]
      rfl
    · obtain ⟨hconv, hitem, -⟩ := mem_stalePage hrow
      refine ⟨hconv, hitem, ?_, by rw [hpending]; rfl⟩
      exact lookup_loads_of_mem v ∅ (List.mem_flatMap.mpr ⟨row, hrow, List.mem_cons_self⟩) rfl hconv
    · refine wp_end T.moved T.moved_refl T.moved_trans hT.moved fun st₂ s₂ hm₂ hflush hag => ?_
      exact ⟨hdid _ _ (hs.deeds hclock (T.moved_trans _ _ _ hm hm₂) hflush hag),
        fun _ _ => hpost _ _⟩

omit hpost in
/-- The pages of a run. -/
lemma wp_reconcileLoop {post : ReconcileResult → Db → AppSession → Prop}
    (hpost : ∀ result st, post result st ∅) (hclock : T.clock moment) (pageSize : ℕ) (fuel : ℕ) :
    ∀ (afterId : Option UUID) (result : ReconcileResult) (st : Db),
      wp o (reconcileLoop moment pageSize fuel afterId result) post st ∅ := by
  induction fuel with
  | zero => exact fun _ _ _ => trivial
  | succ fuel ih =>
      intro afterId result st
      refine wp_bind (wp_reconcilePage hT hdid
        (fun page st₁ => ?_) hclock pageSize afterId result id)
      cases page with
      | none => exact fun st₂ _ => hpost _ st₂
      | some page => exact ih (some page.1) page.2 st₁

omit hpost in
/-- **A whole run**, at a moment that is given or read. -/
theorem wp_runReconcile {post : ReconcileResult → Db → AppSession → Prop}
    (hpost : ∀ result st, post result st ∅) (now : Option DateTime)
    (hclock : ∀ t, now = some t → T.clock t) (pageSize : Option ℕ) (fuel : ℕ) :
    wp o (runReconcile settings now pageSize fuel) post st ∅ := by
  cases now with
  | some t => exact wp_reconcileLoop hT hdid hpost (hclock t rfl) _ fuel none {} st
  | none =>
      exact wp_utcnow fun st₁ ch _ hg => wp_reconcileLoop hT hdid hpost (hT.clock _ _ _ hg) _ fuel
        none {} st₁

end Page

end MarketHub
