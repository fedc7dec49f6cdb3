import MarketHub.Communication.Recalculation
import MarketHub.ReadCommitted.Alone

/-!
A reconciliation alone.

`run_reconcile` asks again and again for the stale conversations after the last identifier it
has seen, and makes them fresh. What is stale at the start is a sorted list, and every page
takes the next piece of it.

* `StaleAt`: what `is_stale` says of an open conversation; `mem_staleStatement` says that the
  statement finds these.
* `Applies m rows st st'`: the rows are recalculated, and nothing else is written.
* `staleStatement_after`: the rows of a page are stale no more, and the others still are.
* `exec_reconcilePage`, `exec_reconcileLoop`: what a page and the first pages of a run do.
* `run_reconcile_exact`: what a whole run does, one that is run twice, and one that is aborted
  and run again.
-/

namespace MarketHub

open ReadCommitted Session

/-! ### What is stale -/

/-- An open conversation that `is_stale` calls stale. -/
def StaleAt (moment : DateTime) (v : Db) (c : UUID) : Prop :=
  ∃ b item, Db.conversation v c = some b ∧ b.status = .opened
    ∧ Db.orderItem v b.orderItemId = some item
    ∧ isStale moment b.createdAt b.lastInteractionAt (some item.statusUpdatedAt)
        b.priorityCalculatedAt = true

lemma staleClause_iff {moment : DateTime} {b : Conversation} {item : OrderItem} :
    staleClause moment b item = some true ↔
      isStale moment b.createdAt b.lastInteractionAt (some item.statusUpdatedAt)
        b.priorityCalculatedAt = true :=
  staleColumns_eq_true _ _ _ _ _

section Statement

variable {moment : DateTime} {v : Db}

/-- The rows of the statement. -/
lemma mem_staleStatement {row : StaleRow} :
    row ∈ staleStatement moment v ↔ Db.conversation v row.1.1 = some row.1.2
      ∧ Db.orderItem v row.1.2.orderItemId = some row.2 ∧ row.1.2.status = .opened
      ∧ staleClause moment row.1.2 row.2 = some true := by
  rw [staleStatement, List.mem_insertionSort, List.mem_filterMap]
  constructor
  · rintro ⟨⟨id, conversation⟩, hconv, hrow⟩
    rw [mem_conversations] at hconv
    split at hrow
    · cases hrow
    · rename_i item hitem
      split at hrow
      · rename_i hstale
        cases hrow
        exact ⟨hconv, hitem, hstale⟩
      · cases hrow
  · rintro ⟨hconv, hitem, hstale⟩
    refine ⟨row.1, mem_conversations.mpr hconv, ?_⟩
    simp [hitem, hstale]

/-- The statement finds the open conversations that are stale. -/
lemma staleAt_iff {c : UUID} :
    StaleAt moment v c ↔ c ∈ (staleStatement moment v).map fun row => row.1.1 := by
  rw [List.mem_map]
  constructor
  · rintro ⟨b, item, hb, hopen, hitem, hstale⟩
    exact ⟨((c, b), item), mem_staleStatement.mpr
      ⟨hb, hitem, hopen, staleClause_iff.mpr hstale⟩, rfl⟩
  · rintro ⟨row, hrow, rfl⟩
    obtain ⟨hb, hitem, hopen, hstale⟩ := mem_staleStatement.mp hrow
    exact ⟨row.1.2, row.2, hb, hopen, hitem, staleClause_iff.mp hstale⟩

lemma staleStatement_sorted :
    (staleStatement moment v).Pairwise fun a b => a.1.1 ≤ b.1.1 :=
  List.pairwise_insertionSort (fun a b : StaleRow => a.1.1 ≤ b.1.1) _

/-- The statement finds every conversation once. -/
lemma staleStatement_nodup : ((staleStatement moment v).map fun row => row.1.1).Nodup := by
  have hall : stalePage moment (staleStatement moment v).length none v
      = staleStatement moment v := by
    simp [stalePage]
  rw [← hall]
  exact stalePage_nodup _ _ _ _

/-- The statement lists the conversations by identifier. -/
lemma staleStatement_increasing :
    (staleStatement moment v).Pairwise fun a b => a.1.1 < b.1.1 :=
  (staleStatement_sorted.and (List.pairwise_map.mp staleStatement_nodup)).imp fun h =>
    lt_of_le_of_ne h.1 h.2

/-- Two rows of one identifier are one. -/
lemma staleRow_ext {row row' : StaleRow} (h : row ∈ staleStatement moment v)
    (h' : row' ∈ staleStatement moment v) (hid : row.1.1 = row'.1.1) : row = row' := by
  obtain ⟨hb, hitem, -⟩ := mem_staleStatement.mp h
  obtain ⟨hb', hitem', -⟩ := mem_staleStatement.mp h'
  rw [hid] at hb
  have hrow : row.1.2 = row'.1.2 := Option.some.inj (hb.symm.trans hb')
  rw [hrow] at hitem
  exact Prod.ext (Prod.ext hid hrow) (Option.some.inj (hitem.symm.trans hitem'))

end Statement

/-! ### What a page writes -/

/-- The rows have been recalculated, and nothing else was written. -/
structure Applies (moment : DateTime) (rows : List StaleRow) (st st' : Db) : Prop where
  written : ∀ row ∈ rows, Db.conversation st' row.1.1 = some (recalculate row.1.2 row.2 moment)
  rest : ∀ k, (∀ row ∈ rows, k ≠ .conversation row.1.1) → st'.lookup k = st.lookup k

/-- The events of the recalculation of the rows. -/
def reconcileEvents (moment : DateTime) (rows : List StaleRow) : List Event :=
  rows.flatMap fun row => priorityEvents row.1.1 row.1.2.effectivePriority
    (recalculate row.1.2 row.2 moment).effectivePriority moment

/-- The calculated priority of a row changes. -/
def StaleRow.changes (moment : DateTime) (row : StaleRow) : Bool :=
  (recalculate row.1.2 row.2 moment).calculatedPriority ≠ row.1.2.calculatedPriority

/-- What the rows add to the counters, except for `found`. -/
def countRows (moment : DateTime) (rows : List StaleRow) (result : ReconcileResult) :
    ReconcileResult where
  found := result.found
  processed := result.processed + rows.length
  updated := result.updated + rows.countP (StaleRow.changes moment)
  unchanged := result.unchanged + rows.countP fun row => !StaleRow.changes moment row

/-- The counters of the rows, one row at a time. -/
lemma countRows_cons {moment : DateTime} {row : StaleRow} {rows : List StaleRow}
    {result : ReconcileResult} :
    countRows moment rows (if row.changes moment = true then
        { result with processed := result.processed + 1, updated := result.updated + 1 }
      else { result with processed := result.processed + 1, unchanged := result.unchanged + 1 })
      = countRows moment (row :: rows) result := by
  cases hchanges : row.changes moment <;>
    simp only [countRows, List.countP_cons, List.length_cons, hchanges, reduceIte, Bool.not_true,
      Bool.not_false, Bool.false_eq_true, ReconcileResult.mk.injEq, true_and] <;>
    omega

section Applies

variable {moment : DateTime} {rows rows' : List StaleRow} {st st₁ st' st'' : Db}

lemma applies_nil : Applies moment [] st st where
  written _ h := by simp at h
  rest _ _ := rfl

/-- Pages of different conversations, one after the other. -/
lemma Applies.append (h : Applies moment rows st st₁) (h' : Applies moment rows' st₁ st')
    (hapart : ∀ row ∈ rows, ∀ row' ∈ rows', row.1.1 ≠ row'.1.1) :
    Applies moment (rows ++ rows') st st' where
  written row hrow := by
    rcases List.mem_append.mp hrow with hfirst | hsecond
    · rw [Db.conversation, h'.rest (.conversation row.1.1) fun row' hrow' heq =>
        hapart row hfirst row' hrow' (Key.conversation.inj heq)]
      exact h.written row hfirst
    · exact h'.written row hsecond
  rest k hk := by
    rw [h'.rest k fun row hrow => hk row (List.mem_append_right _ hrow),
      h.rest k fun row hrow => hk row (List.mem_append_left _ hrow)]

/-- What is written is determined by the rows. -/
lemma Applies.unique (h : Applies moment rows st st') (h' : Applies moment rows st st'') (k : Key) :
    st'.lookup k = st''.lookup k := by
  by_cases hk : ∃ row ∈ rows, k = .conversation row.1.1
  · obtain ⟨row, hrow, rfl⟩ := hk
    exact (h.written row hrow).trans (h'.written row hrow).symm
  · push Not at hk
    rw [h.rest k hk, h'.rest k hk]

/-- Items are not written. -/
lemma Applies.orderItem (h : Applies moment rows st st') (i : UUID) :
    Db.orderItem st' i = Db.orderItem st i :=
  h.rest (.orderItem i) fun _ _ => by simp

end Applies

/-! ### What is stale after a page -/

/-- The stored timestamps that `is_stale` compares are from before `moment`. -/
structure PastAt (moment : DateTime) (v : Db) : Prop where
  conversation : ∀ c b, Db.conversation v c = some b → b.lastInteractionAt ≤ moment
  item : ∀ i item, Db.orderItem v i = some item → item.statusUpdatedAt ≤ moment

section After

variable {moment : DateTime} {rows rows' : List StaleRow} {st st' : Db}

/-- A priority that was calculated at a moment is not stale at that moment. -/
lemma not_stale_recalculate {b : Conversation} {item item' : OrderItem}
    (hb : b.lastInteractionAt ≤ moment) (hitem : item'.statusUpdatedAt ≤ moment) :
    staleClause moment (recalculate b item moment) item' ≠ some true := by
  rw [ne_eq, staleClause_iff, recalculate_priorityCalculatedAt, recalculate_lastInteractionAt]
  simp [isStale, not_lt.mpr hb, not_lt.mpr hitem]

/-- The past stays in the past. -/
lemma PastAt.applies (h : PastAt moment st) (happ : Applies moment rows st st')
    (hrows : ∀ row ∈ rows, row ∈ staleStatement moment st) : PastAt moment st' where
  conversation c b hb := by
    by_cases hc : ∃ row ∈ rows, c = row.1.1
    · obtain ⟨row, hrow, rfl⟩ := hc
      rw [happ.written row hrow] at hb
      cases hb
      rw [recalculate_lastInteractionAt]
      exact h.conversation _ _ (mem_staleStatement.mp (hrows row hrow)).1
    · push Not at hc
      rw [Db.conversation, happ.rest
        (.conversation c) fun row hrow => by simpa using hc row hrow] at hb
      exact h.conversation c b hb
  item i item hi := by
    rw [happ.orderItem] at hi
    exact h.item i item hi

/-- **After a page** of the first stale conversations, the others are stale. -/
theorem staleStatement_after (h : PastAt moment st) (happ : Applies moment rows st st')
    (hsplit : staleStatement moment st = rows ++ rows') : staleStatement moment st' = rows' := by
  have hstale : ∀ row ∈ rows ++ rows', row ∈ staleStatement moment st := by
    intro row hrow
    rw [hsplit]
    exact hrow
  have hnodup : ((staleStatement moment st).map fun row => row.1.1).Nodup := staleStatement_nodup
  rw [hsplit, List.map_append, List.nodup_append] at hnodup
  have hnodup' : (staleStatement moment st').Nodup :=
    List.Nodup.of_map _ staleStatement_nodup
  have hmem : ∀ row, row ∈ staleStatement moment st' ↔ row ∈ rows' := by
    intro row
    by_cases hid : ∃ row₀ ∈ rows, row.1.1 = row₀.1.1
    · -- a row of the page
      obtain ⟨row₀, hrow₀, hid⟩ := hid
      refine iff_of_false (fun hrow => ?_) fun hrow => ?_
      · obtain ⟨hb, hitem, -, hclause⟩ := mem_staleStatement.mp hrow
        rw [hid, happ.written row₀ hrow₀] at hb
        rw [happ.orderItem] at hitem
        rw [← Option.some.inj hb] at hclause
        exact not_stale_recalculate (h.conversation _ _
          (mem_staleStatement.mp (hstale row₀ (List.mem_append_left _ hrow₀))).1)
          (h.item _ _ hitem) hclause
      · exact hnodup.2.2 _ (List.mem_map_of_mem hrow₀) _ (List.mem_map_of_mem hrow) hid.symm
    · -- any other row
      push Not at hid
      have hconv : Db.conversation st' row.1.1 = Db.conversation st row.1.1 :=
        happ.rest (.conversation row.1.1) fun row₀ hrow₀ => by simpa using hid row₀ hrow₀
      have hsame : row ∈ staleStatement moment st' ↔ row ∈ staleStatement moment st := by
        rw [mem_staleStatement, mem_staleStatement, hconv, happ.orderItem]
      rw [hsame, hsplit, List.mem_append]
      exact or_iff_right fun hrow => hid row hrow rfl
  have hrows' : rows'.Nodup := List.Nodup.of_map _ hnodup.2.1
  have hperm : (staleStatement moment st').Perm rows' :=
    (List.perm_ext_iff_of_nodup hnodup' hrows').mpr hmem
  have hsorted : (staleStatement moment st).Pairwise fun a b => a.1.1 ≤ b.1.1 :=
    staleStatement_sorted
  rw [hsplit] at hsorted
  refine hperm.eq_of_pairwise (fun row row' hrow hrow' hle hle' => ?_) staleStatement_sorted
    (List.pairwise_append.mp hsorted).2.1
  exact staleRow_ext (hstale row (List.mem_append_right _ ((hmem row).mp hrow)))
    (hstale row' (List.mem_append_right _ hrow')) (le_antisymm hle hle')

end After

/-! ### A page alone -/

section Page

variable {α : Type} {cs : ℕ → Choice} {moment : DateTime} {v st : Db} {log : List Event}

/-- The event of a changed priority is recorded. -/
lemma exec_recordPriorityChange {c : UUID} {before after : Priority} {n : ℕ} {s : AppSession}
    (f : Unit → Txn α) :
    ∃ n', exec cs ((recordPriorityChange c before after moment).bind f) n st log s
      = exec cs (f ()) n' st log
        { s with pending := s.pending ++ priorityEvents c before after moment } := by
  rw [recordPriorityChange, priorityEvents]
  split
  · exact ⟨n + 1, exec_record _ _⟩
  · exact ⟨n, by rw [List.append_nil]; rfl⟩

/-- The priority of a row is calculated again. -/
lemma exec_applyCalculatedPriority {row : StaleRow} {n : ℕ} {s : AppSession}
    (hobj : s.objects.lookup (.conversation row.1.1) = some ⟨some row.1.2, row.1.2⟩)
    (f : Bool → Txn α) :
    ∃ n', exec cs ((applyCalculatedPriority row.1.1 row.1.2 row.2 moment).bind f) n st log s
      = exec cs (f (row.changes moment)) n' st log
        { s with
          objects := s.objects.insert (.conversation row.1.1)
            ⟨some row.1.2, recalculate row.1.2 row.2 moment⟩
          pending := s.pending ++ priorityEvents row.1.1 row.1.2.effectivePriority
            (recalculate row.1.2 row.2 moment).effectivePriority moment } := by
  simp only [applyCalculatedPriority, Prog.bind_eq, Prog.pure_eq, Prog.bind_assoc]
  rw [exec_assign _ hobj]
  exact exec_recordPriorityChange _

/-- The session after the loop over the rows of a page. -/
structure RowsDone (moment : DateTime) (rows : List StaleRow) (s s' : AppSession) : Prop where
  held : s'.held = s.held
  pending : s'.pending = s.pending ++ reconcileEvents moment rows
  objects : ∀ row ∈ rows, s'.objects.lookup (.conversation row.1.1)
    = some ⟨some row.1.2, recalculate row.1.2 row.2 moment⟩
  rest : ∀ k, (∀ row ∈ rows, k ≠ .conversation row.1.1) → s'.objects.lookup k = s.objects.lookup k

variable (cs moment st log) in
/-- The loop over the rows of a page. -/
lemma exec_reconcileRows {rows : List StaleRow} (hnodup : (rows.map fun row => row.1.1).Nodup)
    (f : ReconcileResult → Txn α) : ∀ (result : ReconcileResult) (n : ℕ) (s : AppSession),
      (∀ row ∈ rows, s.objects.lookup (.conversation row.1.1) = some ⟨some row.1.2, row.1.2⟩) →
      ∃ n' s', RowsDone moment rows s s'
        ∧ exec cs ((reconcileRows moment rows result).bind f) n st log s
          = exec cs (f (countRows moment rows result)) n' st log s' := by
  induction rows with
  | nil =>
      intro result n s _
      exact ⟨n, s, ⟨rfl, (List.append_nil _).symm, fun _ h => by simp at h, fun _ _ => rfl⟩, rfl⟩
  | cons row rows ih =>
      intro result n s hobjects
      rw [List.map_cons, List.nodup_cons] at hnodup
      -- the rows have different ids, so the objects of the others stay as loaded
      have hne : ∀ row' ∈ rows, row'.1.1 ≠ row.1.1 := fun row' hrow' heq =>
        hnodup.1 (List.mem_map.mpr ⟨row', hrow', heq⟩)
      simp only [reconcileRows, Prog.bind_eq, Prog.bind_assoc]
      obtain ⟨n₁, hexec⟩ := exec_applyCalculatedPriority (hobjects row List.mem_cons_self)
        (fun changed => (reconcileRows moment rows
          (if changed = true then
            { result with processed := result.processed + 1, updated := result.updated + 1 }
          else { result with processed := result.processed + 1,
                             unchanged := result.unchanged + 1 })).bind f)
      rw [hexec]
      have hlook : ∀ k, k ≠ .conversation row.1.1 → (s.objects.insert (.conversation row.1.1)
          (⟨some row.1.2, recalculate row.1.2 row.2 moment⟩ : Obj Row
            (.conversation row.1.1))).lookup k
            = s.objects.lookup k := fun k hk => AList.lookup_insert_ne hk
      obtain ⟨n', s', hdone, hrows⟩ := ih hnodup.2
        (if row.changes moment = true then
          { result with processed := result.processed + 1, updated := result.updated + 1 }
        else { result with processed := result.processed + 1, unchanged := result.unchanged + 1 })
        n₁
        { s with
          objects := s.objects.insert (.conversation row.1.1)
            ⟨some row.1.2, recalculate row.1.2 row.2 moment⟩
          pending := s.pending ++ priorityEvents row.1.1 row.1.2.effectivePriority
            (recalculate row.1.2 row.2 moment).effectivePriority moment }
        fun row' hrow' => (hlook (.conversation row'.1.1) (by simpa using hne row' hrow')).trans
          (hobjects row' (List.mem_cons_of_mem _ hrow'))
      refine ⟨n', s', ⟨hdone.held, ?_, ?_, ?_⟩, ?_⟩
      · rw [hdone.pending, List.append_assoc]
        rfl
      · intro row' hrow'
        rcases List.mem_cons.mp hrow' with rfl | hrow'
        · exact (hdone.rest _ fun row' hrow' => by simpa using (hne row' hrow').symm).trans
            (AList.lookup_insert _)
        · exact hdone.objects row' hrow'
      · intro k hk
        exact (hdone.rest k fun row' hrow' => hk row' (List.mem_cons_of_mem _ hrow')).trans
          (hlook k (hk row List.mem_cons_self))
      · rw [hrows, countRows_cons]

/-- What a page leaves of the loop over its rows. -/
lemma RowsDone.applies {rows : List StaleRow} {s s' s'' : AppSession}
    (h : RowsDone moment rows s s') (hclean : s.Clean) (hheld : ∀ k, s.held.lookup k = none)
    (hflush : s'.Flushes s'') (hag : Agrees s''.held st)
    (hrows : ∀ row ∈ rows, Db.conversation st row.1.1 = some row.1.2) :
    Applies moment rows st (merge st s''.held) where
  written row hrow := by
    have hobj := h.objects row hrow
    by_cases hsame : recalculate row.1.2 row.2 moment = row.1.2
    · -- nothing is sent
      have hkept := (hflush.kept (.conversation row.1.1) fun o ho => by
        rw [hobj, hsame] at ho
        cases ho
        rfl).1
      rw [Db.conversation, lookup_merge_of_not_held (hkept.trans (by rw [h.held, hheld])), hsame]
      exact hrows row hrow
    · obtain ⟨v, r, hsend, hheld'⟩ := hflush.sent_free hobj
        (fun heq => hsame (Option.some.inj heq).symm) (by rw [h.held, hheld])
      cases hsend with
      | insert hloaded _ => cases hloaded
      | @update old row' hloaded _ hrow' =>
          cases hloaded
          have hstored : Db.conversation st row.1.1 = some row' := by
            rw [Db.conversation, hag _ _ hheld', hrow']
          obtain rfl : row' = row.1.2 := Option.some.inj (hstored.symm.trans (hrows row hrow))
          rw [Db.conversation, lookup_merge_of_held hheld']
          exact congrArg some (LawfulTable.patch_self _ _)
  rest k hk := by
    have hkept := (hflush.kept k fun o ho => hclean k o (h.rest k hk ▸ ho)).1
    exact lookup_merge_of_not_held (hkept.trans (by rw [h.held, hheld]))

/-- The loop over the rows of a page and the end of its transaction. -/
lemma exec_reconcileEnd {β : Type} {rows : List StaleRow} {s : AppSession} {n : ℕ}
    (result : ReconcileResult) (g : ReconcileResult → β)
    (hnodup : (rows.map fun row => row.1.1).Nodup) (hclean : s.Clean)
    (hheld : ∀ k, s.held.lookup k = none) (hpending : s.pending = [])
    (hrows : ∀ row ∈ rows, Db.conversation st row.1.1 = some row.1.2
      ∧ s.objects.lookup (.conversation row.1.1) = some ⟨some row.1.2, row.1.2⟩) :
    ∃ st' n', Applies moment rows st st'
      ∧ exec cs ((reconcileRows moment rows result).bind fun result =>
          Prog.flush.bind fun _ => .commit (.publish (.pure (g result)))) n st log s
        = ⟨.ok (g (countRows moment rows result)), st',
          log ++ reconcileEvents moment rows, ∅, n'⟩ := by
  obtain ⟨n₁, s₁, hdone, hexec⟩ := exec_reconcileRows cs moment st log hnodup
    (fun result => Prog.flush.bind fun _ => .commit (.publish (.pure (g result)))) result n s
    fun row hrow => (hrows row hrow).2
  have hheld₁ : s₁.held = s.held := hdone.held
  have hag : Agrees s₁.held st := fun k h hk => by
    rw [hheld₁, hheld] at hk
    cases hk
  have hupdates : s₁.Updates st := by
    intro k o ho hne
    by_cases hk : ∃ row ∈ rows, k = .conversation row.1.1
    · obtain ⟨row, hrow, rfl⟩ := hk
      obtain rfl := Option.some.inj (ho.symm.trans (hdone.objects row hrow))
      refine ⟨row.1.2, row.1.2, rfl, ?_⟩
      rw [lookup_view, hheld₁, hheld]
      exact (hrows row hrow).1
    · push Not at hk
      exact absurd (hclean k o ((hdone.rest k hk).symm.trans ho)) hne
  obtain ⟨n₂, s₂, hflush, -, hag₂, hend⟩ := exec_flush_updates cs n₁ log hupdates hag
    (fun _ => .commit (.publish (.pure (g (countRows moment rows result)))) : Unit → Txn β)
  refine ⟨_, n₂, hdone.applies hclean hheld hflush hag₂ fun row hrow => (hrows row hrow).1, ?_⟩
  rw [hexec, hend, exec_commit, exec_publish, exec_pure, hflush.pending, hdone.pending, hpending,
    List.nil_append]

/-- What a page answers: its last identifier and the counters. -/
def pageAnswer (moment : DateTime) (rows : List StaleRow) (result : ReconcileResult) :
    Option (UUID × ReconcileResult) :=
  rows.getLast?.map fun last =>
    (last.1.1, countRows moment rows { result with found := result.found + rows.length })

variable (cs moment) in
/-- **A page alone** applies its rows. -/
theorem exec_reconcilePage (pageSize : ℕ) (afterId : Option UUID) (result : ReconcileResult)
    (n : ℕ) (st : Db) (log : List Event) :
    ∃ st' n', Applies moment (stalePage moment pageSize afterId st) st st'
      ∧ exec cs (Prog.transaction (reconcilePage moment pageSize afterId result)) n st log ∅
        = ⟨.ok (pageAnswer moment (stalePage moment pageSize afterId st) result), st',
            log ++ reconcileEvents moment (stalePage moment pageSize afterId st), ∅, n'⟩ := by
  simp only [Prog.transaction, reconcilePage, listStalePage, Prog.bind_eq, Prog.pure_eq,
    Prog.bind_assoc]
  rw [exec_select]
  have hview : (∅ : AppSession).view st = st := rfl
  rw [hview]
  -- the page names each conversation once, and loads it as stored
  have hnodup := stalePage_nodup moment pageSize afterId st
  have hconv : ∀ row ∈ stalePage moment pageSize afterId st,
      Db.conversation st row.1.1 = some row.1.2 := fun row hrow => (mem_stalePage hrow).1
  generalize stalePage moment pageSize afterId st = rows at hnodup hconv ⊢
  have hclean := (clean_empty : (∅ : AppSession).Clean).loads st
    (rows.flatMap fun row => [.conversation row.1.1, .orderItem row.1.2.orderItemId])
  have hheld : ∀ k, ((rows.flatMap fun row =>
      [Key.conversation row.1.1, .orderItem row.1.2.orderItemId]).foldl (Session.load st)
        (∅ : AppSession)).held.lookup k = none := by
    intro k
    rw [foldl_load_held]
    rfl
  have hpending : ((rows.flatMap fun row =>
      [Key.conversation row.1.1, .orderItem row.1.2.orderItemId]).foldl (Session.load st)
        (∅ : AppSession)).pending = [] := by
    rw [foldl_load_pending]
    rfl
  have hobj : ∀ row ∈ rows, Db.conversation st row.1.1 = some row.1.2
      ∧ ((rows.flatMap fun row =>
        [Key.conversation row.1.1, .orderItem row.1.2.orderItemId]).foldl (Session.load st)
          (∅ : AppSession)).objects.lookup (.conversation row.1.1) = some ⟨some row.1.2, row.1.2⟩ :=
    fun row hrow => ⟨hconv row hrow, lookup_loads_of_mem st ∅
      (List.mem_flatMap.mpr ⟨row, hrow, List.mem_cons_self⟩) rfl (hconv row hrow)⟩
  -- an empty page ends the run
  cases hlast : rows.getLast? with
  | none =>
      obtain rfl := List.getLast?_eq_none_iff.mp hlast
      exact exec_reconcileEnd result (fun _ => none) hnodup hclean hheld hpending hobj
  | some last =>
      simp only [pageAnswer, hlast, Option.map_some, Prog.bind_assoc]
      exact exec_reconcileEnd _ (fun result => some (last.1.1, result)) hnodup hclean hheld hpending
        hobj

end Page

/-! ### A run alone -/

section Run

variable {cs cs' : ℕ → Choice} {moment : DateTime} {st : Db} {log : List Event} {n n' : ℕ}

/-- The page after a cursor that has passed no stale conversation. -/
lemma stalePage_of_passed {pageSize : ℕ} {afterId : Option UUID}
    (h : ∀ row ∈ staleStatement moment st, ∀ id, afterId = some id → id < row.1.1) :
    stalePage moment pageSize afterId st = (staleStatement moment st).take pageSize := by
  rw [stalePage, List.filter_eq_self.mpr fun row hrow => ?_]
  cases afterId with
  | none => rfl
  | some id => simpa using h row hrow id rfl

/-- The events of two pages. -/
lemma reconcileEvents_append {rows rows' : List StaleRow} : reconcileEvents moment (rows ++ rows')
    = reconcileEvents moment rows ++ reconcileEvents moment rows' :=
  List.flatMap_append

/-- The counters of two pages. -/
lemma countRows_append {rows rows' : List StaleRow} {result : ReconcileResult} :
    countRows moment rows' { countRows moment rows
      { result with found := result.found + rows.length }
        with found := result.found + rows.length + rows'.length }
      = countRows moment (rows ++ rows')
        { result with found := result.found + (rows ++ rows').length } := by
  simp only [countRows, List.countP_append, List.length_append, ReconcileResult.mk.injEq]
  omega

/-- What the first pages of a run have done: at most `fuel` of them, of which an empty one is
the last. -/
structure PagesDone (moment : DateTime) (pageSize fuel : ℕ) (result : ReconcileResult) (st : Db)
    (log : List Event) (r : Outcome Row Event DomainError ReconcileResult) : Prop where
  applies : Applies moment ((staleStatement moment st).take (fuel * pageSize)) st r.store
  log_eq : r.log = log ++ reconcileEvents moment ((staleStatement moment st).take (fuel * pageSize))
  returned : (staleStatement moment st).length < fuel → r.result
    = .ok (countRows moment (staleStatement moment st)
      { result with found := result.found + (staleStatement moment st).length })

/-- The first pages of a run, whatever it has counted before. -/
theorem exec_reconcileLoop {pageSize : ℕ} (hsize : 0 < pageSize) (fuel : ℕ) :
    ∀ (afterId : Option UUID) (result : ReconcileResult) (n : ℕ) (st : Db) (log : List Event),
      PastAt moment st →
      (∀ row ∈ staleStatement moment st, ∀ id, afterId = some id → id < row.1.1) →
      PagesDone moment pageSize fuel result st log
        (exec cs (reconcileLoop moment pageSize fuel afterId result) n st log ∅) := by
  -- by induction on the pages; after a page the stale rows are those that come behind it
  induction fuel with
  | zero =>
      intro afterId result n st log _ _
      refine ⟨?_, ?_, fun h => absurd h (Nat.not_lt_zero _)⟩
      · rw [Nat.zero_mul, List.take_zero]
        exact applies_nil
      · rw [Nat.zero_mul, List.take_zero, reconcileEvents, List.flatMap_nil, List.append_nil]
        rfl
  | succ fuel ih =>
      intro afterId result n st log hpast hpassed
      obtain ⟨st₁, n₁, happ, hpage⟩ := exec_reconcilePage cs moment pageSize afterId result n st log
      rw [stalePage_of_passed hpassed] at happ hpage
      set rows := (staleStatement moment st).take pageSize with hrowsDef
      have hsplit : staleStatement moment st = rows ++ (staleStatement moment st).drop pageSize :=
        (List.take_append_drop _ _).symm
      have hafter : staleStatement moment st₁ = (staleStatement moment st).drop pageSize :=
        staleStatement_after hpast happ hsplit
      have htake : (staleStatement moment st).take ((fuel + 1) * pageSize)
          = rows ++ (staleStatement moment st₁).take (fuel * pageSize) := by
        rw [hafter, hrowsDef, ← List.take_add]
        congr 1
        ring
      rw [reconcileLoop, Prog.bind_eq, exec_bind, hpage]
      cases hlast : rows.getLast? with
      | none =>
          -- nothing is stale any more
          have hrows : rows = [] := List.getLast?_eq_none_iff.mp hlast
          have hnone : staleStatement moment st = [] := by
            rcases List.take_eq_nil_iff.mp (hrowsDef.symm.trans hrows) with hzero | hnil
            · omega
            · exact hnil
          have hanswer : pageAnswer moment rows result = none := by rw [pageAnswer, hlast]; rfl
          rw [hanswer]
          rw [hrows] at happ
          refine ⟨?_, ?_, fun _ => ?_⟩
          · rw [hnone, List.take_nil]
            exact happ
          · rw [hnone, List.take_nil]
            exact congrArg (log ++ reconcileEvents moment ·) hrows
          · rw [hnone]
            rfl
      | some last =>
          have hanswer : pageAnswer moment rows result = some (last.1.1,
              countRows moment rows { result with found := result.found + rows.length }) := by
            rw [pageAnswer, hlast]
            rfl
          rw [hanswer]
          have hmem : last ∈ rows := List.mem_of_getLast? hlast
          have hincreasing : (staleStatement moment st).Pairwise fun a b => a.1.1 < b.1.1 :=
            staleStatement_increasing
          rw [hsplit, ← hafter, List.pairwise_append] at hincreasing
          -- ids increase, so the cursor passes exactly the rows of this page
          have hlt : ∀ row ∈ rows, ∀ row' ∈ staleStatement moment st₁, row.1.1 < row'.1.1 :=
            hincreasing.2.2
          have hdone := ih (some last.1.1)
            (countRows moment rows { result with found := result.found + rows.length }) n₁ st₁
            (log ++ reconcileEvents moment rows) (hpast.applies happ fun row hrow =>
              hsplit ▸ List.mem_append_left _ hrow)
            (fun row hrow id hid => Option.some.inj hid ▸ hlt last hmem row hrow)
          refine ⟨?_, ?_, fun hfuel => ?_⟩
          · rw [htake]
            exact happ.append hdone.applies fun row hrow row' hrow' =>
              (hlt row hrow row' (List.mem_of_mem_take hrow')).ne
          · rw [htake, reconcileEvents_append, ← List.append_assoc]
            exact hdone.log_eq
          · have hpos : 0 < (staleStatement moment st).length :=
              List.length_pos_of_mem (List.mem_of_mem_take hmem)
            have hlength : (staleStatement moment st₁).length
                = (staleStatement moment st).length - pageSize := by
              rw [hafter, List.length_drop]
            refine (hdone.returned (by omega)).trans (congrArg Except.ok ?_)
            calc countRows moment (staleStatement moment st₁) _
                = countRows moment (rows ++ staleStatement moment st₁)
                  { result with
                    found := result.found + (rows ++ staleStatement moment st₁).length } :=
                  countRows_append
              _ = _ := by rw [hafter, ← hsplit]

end Run

/-! ### Calls -/

/-- A call of `run_reconcile`, with the choices that its run makes. -/
structure ReconcileCall where
  settings : Settings
  now : Option DateTime
  pageSize : Option ℕ
  choices : ℕ → Choice

namespace ReconcileCall

/-- `now or utcnow()`. -/
def moment (call : ReconcileCall) : DateTime := call.now.getD (call.choices 0).now

/-- `page_size or settings.reconcile_page_size`. -/
def size (call : ReconcileCall) : ℕ :=
  if call.pageSize.getD 0 = 0 then call.settings.reconcilePageSize else call.pageSize.getD 0

/-- The run alone, of at most `fuel` pages. -/
def run (call : ReconcileCall) (fuel : ℕ) (st : Db) (log : List Event) :
    Outcome Row Event DomainError ReconcileResult :=
  exec call.choices (runReconcile call.settings call.now call.pageSize fuel) 0 st log ∅

/-- A call at a moment, with pages of at least one row. -/
structure At (call : ReconcileCall) (moment : DateTime) : Prop where
  moment_eq : call.moment = moment
  size_pos : 0 < call.size

variable {call : ReconcileCall} {moment : DateTime} {fuel : ℕ} {st : Db} {log : List Event}

/-- The run is a loop over pages. -/
lemma run_eq : ∃ n, call.run fuel st log
    = exec call.choices (reconcileLoop call.moment call.size fuel none {}) n st log ∅ := by
  obtain ⟨settings, now, pageSize, choices⟩ := call
  refine ⟨if now.isNone then 1 else 0, ?_⟩
  rcases now with _ | t <;> rcases pageSize with _ | _ | n <;> rfl

/-- A run that is aborted before its first page. -/
lemma run_zero : (call.run 0 st log).store = st ∧ (call.run 0 st log).log = log := by
  obtain ⟨n, hrun⟩ : ∃ n, call.run 0 st log
      = exec call.choices (reconcileLoop call.moment call.size 0 none {}) n st log ∅ := run_eq
  rw [hrun]
  exact ⟨rfl, rfl⟩

/-- The first pages of a call. -/
lemma At.pages (h : call.At moment) (hpast : PastAt moment st) (fuel : ℕ) (log : List Event) :
    PagesDone moment call.size fuel {} st log (call.run fuel st log) := by
  obtain ⟨n, hrun⟩ : ∃ n, call.run fuel st log
      = exec call.choices (reconcileLoop call.moment call.size fuel none {}) n st log ∅ := run_eq
  rw [hrun, h.moment_eq]
  exact exec_reconcileLoop h.size_pos fuel none {} n st log hpast fun _ _ id hid => by cases hid

end ReconcileCall

/-! ### A whole run -/

/-- What a run at `moment` does from `st`: the conversations `ids` are the stale ones. -/
structure Reconciled (moment : DateTime) (st : Db) (ids : List UUID)
    (r : Outcome Row Event DomainError ReconcileResult) : Prop where
  /-- Every stale conversation is found and processed, and changes or does not. -/
  counted : ∃ counters, r.result = .ok counters ∧ counters.found = ids.length
    ∧ counters.processed = ids.length ∧ counters.updated + counters.unchanged = ids.length
  /-- Each has its priority of the moment; only the columns of the priority are written. -/
  calculated : ∀ c ∈ ids, ∀ b item, Db.conversation st c = some b →
    Db.orderItem st b.orderItemId = some item → ∃ updatedAt,
    Db.conversation r.store c = some { b with
      calculatedPriority :=
        calculatePriority b.reason item.status b.createdAt item.purchasePrice moment
      priorityCalculatedAt := some moment
      updatedAt := updatedAt }
  /-- No other row is written. -/
  untouched : ∀ k, (∀ c ∈ ids, k ≠ .conversation c) → r.store.lookup k = st.lookup k

/-- Two runs that leave the same rows and the same events. -/
structure SameEnd (r r' : Outcome Row Event DomainError ReconcileResult) : Prop where
  store : ∀ k, r.store.lookup k = r'.store.lookup k
  log_eq : r.log = r'.log

section Whole

variable {moment : DateTime} {call : ReconcileCall} {fuel : ℕ} {st : Db} {log : List Event}

/-- The pages of a whole run. -/
lemma PagesDone.take {pageSize : ℕ} (hsize : 0 < pageSize)
    (hfuel : (staleStatement moment st).length < fuel) :
    (staleStatement moment st).take (fuel * pageSize) = staleStatement moment st := by
  refine List.take_of_length_le (hfuel.le.trans ?_)
  exact Nat.le_mul_of_pos_right fuel hsize

/-- A whole run recalculates what is stale. -/
lemma PagesDone.reconciled {r : Outcome Row Event DomainError ReconcileResult} {pageSize : ℕ}
    (h : PagesDone moment pageSize fuel {} st log r) (hsize : 0 < pageSize)
    (hfuel : (staleStatement moment st).length < fuel) :
    Reconciled moment st ((staleStatement moment st).map fun row => row.1.1) r := by
  have happ := h.applies
  rw [PagesDone.take hsize hfuel] at happ
  refine ⟨⟨_, h.returned hfuel, ?_, ?_, ?_⟩, fun c hc b item hb hitem => ?_, fun k hk => ?_⟩
  · simp [countRows]
  · simp [countRows]
  · have hsum := List.length_eq_countP_add_countP (StaleRow.changes moment)
      (l := staleStatement moment st)
    simp only [Bool.not_eq_true, ← Bool.not_eq_true', Bool.decide_eq_true] at hsum
    simp only [countRows, List.length_map, zero_add]
    exact hsum.symm
  · obtain ⟨row, hrow, rfl⟩ := List.mem_map.mp hc
    obtain ⟨hb', hitem', -⟩ := mem_staleStatement.mp hrow
    obtain rfl := Option.some.inj (hb'.symm.trans hb)
    obtain rfl := Option.some.inj (hitem'.symm.trans hitem)
    exact ⟨_, (happ.written row hrow).trans (congrArg some recalculate_eq)⟩
  · exact happ.rest k fun row hrow => hk row.1.1 (List.mem_map_of_mem hrow)

/-- After the first pages of one call, a whole run of another finishes the work. -/
lemma ReconcileCall.At.resume {call call' : ReconcileCall} (fuel : ℕ) (log : List Event)
    (h : call.At moment) (h' : call'.At moment) (hpast : PastAt moment st) (pages : ℕ) :
    PagesDone moment call'.size fuel {}
        (call.run pages st log).store (call.run pages st log).log
        (call'.run fuel (call.run pages st log).store (call.run pages st log).log)
      ∧ staleStatement moment (call.run pages st log).store
        = (staleStatement moment st).drop (pages * call.size) := by
  have hfirst := h.pages hpast pages log
  refine ⟨h'.pages (hpast.applies hfirst.applies fun row hrow =>
    List.mem_of_mem_take hrow) fuel _, ?_⟩
  exact staleStatement_after hpast hfirst.applies (List.take_append_drop _ _).symm

/-- Together they end where a single run does. -/
lemma ReconcileCall.At.sameEnd {call call' call₀ : ReconcileCall} {fuel₀ : ℕ} (log : List Event)
    (h : call.At moment)
    (h' : call'.At moment) (h₀ : call₀.At moment) (hpast : PastAt moment st) (pages : ℕ)
    (hfuel : (staleStatement moment st).length < fuel)
    (hfuel₀ : (staleStatement moment st).length < fuel₀) :
    SameEnd (call'.run fuel (call.run pages st log).store (call.run pages st log).log)
      (call₀.run fuel₀ st log) := by
  have hfirst := h.pages hpast pages log
  have hwhole := h₀.pages hpast fuel₀ log
  obtain ⟨hsecond, hleft⟩ := h.resume fuel log h' hpast pages
  have hfuel' : (staleStatement moment (call.run pages st log).store).length < fuel := by
    rw [hleft, List.length_drop]
    omega
  have happ := hsecond.applies
  have happ₀ := hwhole.applies
  have hlog := hsecond.log_eq
  have hlog₀ := hwhole.log_eq
  rw [PagesDone.take h'.size_pos hfuel', hleft] at happ hlog
  rw [PagesDone.take h₀.size_pos hfuel₀] at happ₀ hlog₀
  have hincreasing : (staleStatement moment st).Pairwise fun a b => a.1.1 < b.1.1 :=
    staleStatement_increasing
  rw [← List.take_append_drop (pages * call.size) (staleStatement moment st),
    List.pairwise_append] at hincreasing
  have hboth := hfirst.applies.append happ fun row hrow row' hrow' =>
    (hincreasing.2.2 row hrow row' hrow').ne
  rw [List.take_append_drop] at hboth
  refine ⟨hboth.unique happ₀, ?_⟩
  rw [hlog, hfirst.log_eq, hlog₀, List.append_assoc, ← reconcileEvents_append,
    List.take_append_drop]

end Whole

/-- **A reconciliation is exact, repeatable and can be resumed.** Nobody else writes, and what
`is_stale` compares is from before the moment of the run. The run returns; it finds the stale
conversations, and each of them once. Another run from the same state does the same, whatever its
pages; a second run finds nothing; and a run that was aborted after some pages, followed by a
whole one, ends where a single run does. -/
theorem run_reconcile_exact (moment : DateTime) (st : Db) (log : List Event)
    (hpast : PastAt moment st) :
    ∃ ids : List UUID, ids.Pairwise (· < ·) ∧ (∀ c, c ∈ ids ↔ StaleAt moment st c)
      ∧ ∀ call : ReconcileCall, call.At moment → ∀ fuel, ids.length < fuel →
        Reconciled moment st ids (call.run fuel st log)
        ∧ ∀ call' : ReconcileCall, call'.At moment → ∀ fuel', ids.length < fuel' →
          ((call'.run fuel' st log).result = (call.run fuel st log).result
            ∧ SameEnd (call'.run fuel' st log) (call.run fuel st log))
          ∧ ((call'.run fuel' (call.run fuel st log).store (call.run fuel st log).log).result
            = .ok {}
            ∧ SameEnd (call'.run fuel' (call.run fuel st log).store (call.run fuel st log).log)
              (call.run fuel st log))
          ∧ ∀ call'' : ReconcileCall, call''.At moment → ∀ pages,
            SameEnd (call'.run fuel' (call''.run pages st log).store (call''.run pages st log).log)
              (call.run fuel st log) := by
  refine ⟨(staleStatement moment st).map fun row => row.1.1,
    List.pairwise_map.mpr staleStatement_increasing, fun c => staleAt_iff.symm,
    fun call hcall fuel hfuel => ?_⟩
  rw [List.length_map] at hfuel
  have hpages := hcall.pages hpast fuel log
  refine ⟨hpages.reconciled hcall.size_pos hfuel, fun call' hcall' fuel' hfuel' => ?_⟩
  rw [List.length_map] at hfuel'
  refine ⟨⟨?_, ?_⟩, ⟨?_, ?_⟩, fun call'' hcall'' pages =>
    hcall''.sameEnd log hcall' hcall hpast pages hfuel' hfuel⟩
  · -- another run of the same state
    exact ((hcall'.pages hpast fuel' log).returned hfuel').trans (hpages.returned hfuel).symm
  · have hend := hcall'.sameEnd log hcall' hcall hpast 0 hfuel' hfuel
    rw [ReconcileCall.run_zero.1, ReconcileCall.run_zero.2] at hend
    exact hend
  · -- a second run
    obtain ⟨hsecond, hleft⟩ := hcall.resume fuel' log hcall' hpast fuel
    have hnone : staleStatement moment (call.run fuel st log).store = [] := by
      rw [hleft]
      exact List.drop_eq_nil_of_le (hfuel.le.trans (Nat.le_mul_of_pos_right fuel hcall.size_pos))
    refine (hsecond.returned (by rw [hnone]; exact Nat.zero_lt_of_lt hfuel')).trans ?_
    rw [hnone]
    rfl
  · exact hcall.sameEnd log hcall' hcall hpast fuel hfuel' hfuel

/-! ### Two open conversations -/

/-- Two items in conversation, of which no priority was calculated yet. -/
def twoComplaints : Db :=
  ((((∅ : Db).insert (.orderItem 5) (⟨4, 3, 1, 1, 1000, .placed, 0, 0, 0⟩ : OrderItem)).insert
    (.orderItem 6) (⟨4, 3, 2, 1, 90000, .delivered, 0, 0, 0⟩ : OrderItem)).insert (.conversation 8)
      (⟨5, .atraso, .opened, 0, 0, 0, .low, none, none⟩ : Conversation)).insert (.conversation 9)
        (⟨6, .reclamacao, .opened, 0, 0, 0, .low, some .critical, none⟩ : Conversation)

/-- A call at the third hour, with pages of the given size. -/
def thirdHour (pageSize : Option ℕ) : ReconcileCall :=
  ⟨{}, none, pageSize, fun _ => ⟨hours 3, 0, false⟩⟩

lemma thirdHour_at (pageSize : Option ℕ) : (thirdHour pageSize).At (hours 3) where
  moment_eq := rfl
  size_pos := by
    rw [ReconcileCall.size]
    split
    · exact Nat.succ_pos 49
    · exact Nat.pos_of_ne_zero ‹_›

lemma twoComplaints_past : PastAt (hours 3) twoComplaints where
  conversation c b hb := by
    have hall : ∀ row ∈ Db.conversations twoComplaints, row.2.lastInteractionAt ≤ hours 3 := by
      decide
    exact hall (c, b) (mem_conversations.mpr hb)
  item i item hi := by
    have hall : ∀ row ∈ Db.orderItems twoComplaints, row.2.statusUpdatedAt ≤ hours 3 := by decide
    exact hall (i, item) (mem_orderItems.mpr hi)

theorem run_reconcile_exact_complaints : ∃ ids : List UUID, ids.Pairwise (· < ·)
    ∧ (∀ c, c ∈ ids ↔ StaleAt (hours 3) twoComplaints c)
    ∧ ∀ fuel, ids.length < fuel →
      Reconciled (hours 3) twoComplaints ids ((thirdHour none).run fuel twoComplaints [])
      ∧ SameEnd ((thirdHour (some 1)).run fuel
          ((thirdHour (some 1)).run 1 twoComplaints []).store
          ((thirdHour (some 1)).run 1 twoComplaints []).log)
        ((thirdHour none).run fuel twoComplaints []) := by
  obtain ⟨ids, hincreasing, hids, hruns⟩ :=
    run_reconcile_exact (hours 3) twoComplaints [] twoComplaints_past
  refine ⟨ids, hincreasing, hids, fun fuel hfuel => ?_⟩
  obtain ⟨hrun, hothers⟩ := hruns (thirdHour none) (thirdHour_at _) fuel hfuel
  obtain ⟨-, -, hresumed⟩ := hothers (thirdHour (some 1)) (thirdHour_at _) fuel hfuel
  exact ⟨hrun, hresumed (thirdHour (some 1)) (thirdHour_at _) 1⟩

end MarketHub
