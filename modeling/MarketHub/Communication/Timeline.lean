import MarketHub.ReadCommitted.Clock
import MarketHub.Atomic
import MarketHub.Communication.Maintenance

/-!
Requests one after another, with one clock for all of them.

* `clockTerms`: what is known of a transaction whose readings come after `t`, up to `t'`.
* `ServiceRequest.since`: what every request keeps. It is one transaction, or several: the
  closing job has one for each conversation and the reconciliation one for each page, at the
  moment the run has read first.
* `OnTime`: a moment that is given to a reconciliation is the one the clock shows.
-/

namespace MarketHub

open ReadCommitted Session

/-- The terms of a transaction that runs alone and reads the clock after `t`, up to `t'`. -/
def clockTerms (before : ℤ → ℤ → Prop) (t t' : DateTime) : Terms where
  moved v v' := v' = v
  clock now := before t now ∧ now ≤ t'
  expired _ _ _ := True
  moved_refl _ := rfl
  moved_trans _ _ _ h h' := h'.trans h

/-! ### Bodies of the closing job -/

section Bodies

variable (settings : Settings)

lemma uncommitted_eligibleIds : (eligibleIds settings).Uncommitted := fun _ _ => trivial

lemma uncommitted_closeOneInactive (c : UUID) : (closeOneInactive settings c).Uncommitted := by
  have hinactive : ∀ b, (isInactive settings b).Uncommitted := by
    intro b
    rw [isInactive]
    split
    · trivial
    · exact fun _ => trivial
  have hsend : ∀ now, (sendMessage c .system none systemCloseMessage now).Uncommitted :=
    fun _ _ _ => Prog.uncommitted_flush.bind fun _ => trivial
  have hclose : ∀ b, (closeForInactivity c b).Uncommitted := by
    intro b
    rw [closeForInactivity]
    split
    · trivial
    · exact fun _ => (hsend _).bind fun _ _ _ _ => trivial
  refine (Prog.uncommitted_scalar _ _).bind fun conversation => ?_
  cases conversation with
  | none => trivial
  | some b =>
      refine (hinactive b).bind fun inactive => ?_
      cases inactive with
      | false => trivial
      | true => exact (hclose b).bind fun _ => trivial

end Bodies

/-! ### What every request keeps -/

section Since

variable {settings : Settings} {before : ℤ → ℤ → Prop} {cs : ℕ → Choice}
  {J : DateTime → Db → List Event → Prop} {x : Stage Row Event}

/-- A program whose answer does not matter. -/
lemma after_map {α β : Type} {p : Txn α} {g : α → β} :
    x.after cs (p.bind fun a => .pure (g a)) = x.after cs p := by
  simp only [Stage.after, exec_bind, Outcome.andThen]
  cases hresult : (exec cs p x.tick x.store x.log ∅).result <;> rfl

lemma timed_tells (S : Db → AppSession → Prop) (C : Db → AppSession → Prop) (t t' : DateTime) :
    Tells (Outline.timed before S C t t') (clockTerms before t t') where
  moved _ _ _ h := h
  clock _ _ _ h := ⟨h.1, h.2.1⟩
  expired _ _ _ _ _ _ _ _ _ := trivial

/-- The closing job keeps what its transactions keep. -/
lemma since_runCloseInactive
    (hids : ∀ x : Stage Row Event, x.Since before cs J →
      (x.after cs (ending (eligibleIds settings) id)).Since before cs J)
    (hone : ∀ c (x : Stage Row Event), x.Since before cs J →
      (x.after cs (ending (closeOneInactive settings c) id)).Since before cs J)
    (h : x.Since before cs J) : (x.after cs (runCloseInactive settings)).Since before cs J := by
  have heach : ∀ ids (x : Stage Row Event), x.Since before cs J →
      (x.after cs (closeEach settings ids)).Since before cs J := by
    intro ids
    induction ids with
    | nil => exact fun x hx => hx
    | cons c ids ih =>
        intro x hx
        refine Stage.Since.bind (closed_transaction id) (hone c x hx) fun closed hnext => ?_
        simp only [Prog.bind_eq, Prog.pure_eq, after_map]
        exact ih _ hnext
  exact Stage.Since.bind (closed_transaction id) (hids x h) fun ids hnext => heach ids _ hnext

/-- **What pages make of a conversation**: it is left alone, or its priority is calculated again. -/
lemma Applies.conversation {moment : DateTime} {rows : List StaleRow} {st st' : Db}
    (h : Applies moment rows st st') (hrows : ∀ row ∈ rows,
      Db.conversation st row.1.1 = some row.1.2 ∧ Db.orderItem st row.1.2.orderItemId = some row.2)
    (c : UUID) : Db.conversation st' c = Db.conversation st c
      ∨ ∃ b item, Db.conversation st c = some b ∧ Db.orderItem st b.orderItemId = some item
        ∧ Db.conversation st' c = some (recalculate b item moment) := by
  by_cases hc : ∃ row ∈ rows, c = row.1.1
  · obtain ⟨row, hrow, rfl⟩ := hc
    exact .inr ⟨row.1.2, row.2, (hrows row hrow).1, (hrows row hrow).2, h.written row hrow⟩
  · push Not at hc
    exact .inl (h.rest (.conversation c) fun row hrow => by simpa using hc row hrow)

/-- A page takes a choice. -/
lemma lt_exec_reconcilePage {moment : DateTime} {pageSize n : ℕ} {afterId : Option UUID}
    {result : ReconcileResult} {st : Db} {log : List Event} :
    n < (exec cs (Prog.transaction (reconcilePage moment pageSize afterId result)) n st
      log ∅).next := by
  simp only [Prog.transaction, reconcilePage, listStalePage, Prog.bind_eq, Prog.bind_assoc]
  rw [exec_select]
  exact exec_next_le _

/-- A reconciliation keeps what its pages keep, at its moment. -/
lemma since_reconcileLoop {moment : DateTime} {n : ℕ}
    (hpage : ∀ rows st st' log, J moment st log → (∀ row ∈ rows, Db.conversation st row.1.1
      = some row.1.2 ∧ Db.orderItem st row.1.2.orderItemId = some row.2) →
      Applies moment rows st st' → J moment st' (log ++ reconcileEvents moment rows))
    (hmoment : ∀ m, n < m → before moment (cs m).now) (pageSize fuel : ℕ) :
    ∀ (afterId : Option UUID) (result : ReconcileResult) (x : Stage Row Event), n ≤ x.tick →
      n < x.tick ∨ fuel ≠ 0 → J moment x.store x.log →
      (x.after cs (reconcileLoop moment pageSize fuel afterId result)).Since before cs J := by
  induction fuel with
  | zero =>
      intro afterId result x hn hfuel hJ
      exact ⟨moment, hJ, fun m hm => hmoment m ((hfuel.resolve_right (· rfl)).trans_le hm)⟩
  | succ fuel ih =>
      intro afterId result x hn hfuel hJ
      obtain ⟨st', n', happ, hexec⟩ := exec_reconcilePage cs moment pageSize afterId result x.tick
        x.store x.log
      have hafter : x.after cs (Prog.transaction (reconcilePage moment pageSize afterId result))
          = ⟨n', st', x.log ++ reconcileEvents moment
            (stalePage moment pageSize afterId x.store)⟩ := by
        rw [Stage.after, hexec]
      have hn' : n < n' := by
        have hlt : x.tick < (exec cs
            (Prog.transaction (reconcilePage moment pageSize afterId result))
          x.tick x.store x.log ∅).next := lt_exec_reconcilePage
        rw [hexec] at hlt
        exact hn.trans_lt hlt
      have hJ' := hpage _ _ _ _ hJ
        (fun row hrow => ⟨(mem_stalePage hrow).1, (mem_stalePage hrow).2.1⟩) happ
      refine Stage.Since.bind (closed_transaction id) ?_ fun page _ => ?_
      · rw [hafter]
        exact ⟨moment, hJ', fun m hm => hmoment m (hn'.trans_le hm)⟩
      · rw [hafter]
        rcases page with _ | ⟨last, result'⟩
        · exact ⟨moment, hJ', fun m hm => hmoment m (hn'.trans_le hm)⟩
        · exact ih _ _ _ hn'.le (.inl hn') hJ'

/-- **What every request keeps**: what its deeds keep, or the pages of a reconciliation. -/
theorem ServiceRequest.since (hcs : Clock before cs) {r : ServiceRequest}
    (hlater : ∀ t t' st log, t ≤ t' → J t st log → J t' st log)
    (hdeeds : ∀ t t' st log s, t ≤ t' → J t st log →
      Did (clockTerms before t t') settings st s → Kept r.tables st s →
      J t' (merge st s.held) (log ++ s.pending))
    (hpage : ¬ r.single → ∀ moment rows st st' log, J moment st log →
      (∀ row ∈ rows, Db.conversation st row.1.1 = some row.1.2
        ∧ Db.orderItem st row.1.2.orderItemId = some row.2) →
      Applies moment rows st st' → J moment st' (log ++ reconcileEvents moment rows))
    (hgiven : ∀ moment, r.given = some moment → moment = (cs x.tick).now)
    (h : x.Since before cs J) : (x.after cs (r.run settings)).Since before cs J := by
  -- a transaction of the request
  have hsingle : ∀ {α β : Type} {body : Txn β} {g : β → α} (x : Stage Row Event),
      body.Uncommitted → (∀ t t' st, t ≤ t' →
        wp (Outline.timed before (fun _ _ => True)
            (fun st s => Did (clockTerms before t t') settings st s ∧ Kept r.tables st s) t t')
          (ending body g) (fun _ _ _ => True) st ∅) →
      x.Since before cs J → (x.after cs (ending body g)).Since before cs J := by
    intro α β body g x hbody hwp hx
    exact since_transaction (P := fun _ => True) hcs stands_true hbody (Prog.AllOps.any _)
      (Prog.AllOps.any _) hlater hwp (fun t t' st log s htt' hJ _ hC =>
        hdeeds t t' st log s htt' hJ hC.1 hC.2) hx
  -- what it commits
  have hwp : ∀ {α β : Type} {body : Txn β} {g : β → α} (t t' : DateTime) (st : Db),
      wp (Outline.timed before (fun _ _ => True) (Did (clockTerms before t t') settings) t t')
        (ending body g) (fun _ _ _ => True) st ∅ →
      (ending body g).AllOps (Op.within r.tables) →
      wp (Outline.timed before (fun _ _ => True)
          (fun st s => Did (clockTerms before t t') settings st s ∧ Kept r.tables st s) t t')
        (ending body g) (fun _ _ _ => True) st ∅ := by
    intro α β body g t t' st hdid hwithin
    have hkept : wp (Outline.timed before (fun _ _ => True) (Kept r.tables) t t') (ending body g)
        (fun _ _ _ => True) st ∅ :=
      wp_within hwithin (fun _ _ _ h => h) fun _ _ _ => trivial
    exact wp_and (o := Outline.timed before (fun _ _ => True) (fun _ _ => True) t t') hdid hkept
  by_cases hr : r.single
  · obtain ⟨β, body, g, hrun, hbody⟩ := r.run_single settings hr
    rw [hrun]
    refine hsingle x hbody.uncommitted (fun t t' st htt' => hwp t t' st ?_ (hbody.transaction g)) h
    rw [← hrun]
    refine wp_serviceRequest (timed_tells _ _ t t') (fun _ _ h => h) (fun _ _ => trivial) r ?_
    intro moment hmoment
    cases r with
    | runReconcile now pageSize fuel => exact hr.elim
    | _ => cases hmoment
  · cases r with
    | catalog request => exact absurd trivial hr
    | order request => exact absurd trivial hr
    | ops request => exact absurd trivial hr
    | conversation request =>
        cases request with
        | runCloseInactive =>
            change (x.after cs ((runCloseInactive settings).bind fun _ => .pure ())).Since
              before cs J
            rw [after_map]
            have hmono : ∀ {α β : Type} {body : Txn β} {g : β → α}, body.AllOps jobOp →
                (ending body g).AllOps (Op.within conversationTables) := by
              intro α β body g hbody
              have hjob : (ending body g).AllOps jobOp :=
                hbody.bind fun _ => allOps_job_flush.bind fun _ => trivial
              exact hjob.mono jobOp_within
            refine since_runCloseInactive (fun y hy => ?_) (fun c y hy => ?_) h
            · exact hsingle y (uncommitted_eligibleIds settings) (fun t t' st _ => hwp t t' st
                (wp_eligibleIds (timed_tells _ _ t t') (fun _ _ h => h) fun _ _ => trivial)
                (hmono (allOps_eligibleIds settings))) hy
            · exact hsingle y (uncommitted_closeOneInactive settings c)
                (fun t t' st _ => hwp t t' st
                (wp_closeOneInactive (timed_tells _ _ t t') (fun _ _ h => h) fun _ _ => trivial)
                (hmono (allOps_closeOneInactive settings c))) hy
        | _ => exact absurd trivial hr
    | runReconcile now pageSize fuel =>
        obtain ⟨t, hJ, hbefore⟩ := h
        have hmoment : ∀ m, x.tick < m → before (cs x.tick).now (cs m).now := fun m hm =>
          hcs.order _ _ hm
        have hnow : J (cs x.tick).now x.store x.log :=
          hlater _ _ _ _ (hcs.le _ _ (hbefore _ le_rfl)) hJ
        change (x.after cs ((MarketHub.runReconcile settings now pageSize fuel).bind fun _ =>
          .pure ())).Since before cs J
        rw [after_map]
        cases now with
        | some moment =>
            obtain rfl := hgiven moment rfl
            -- the loop takes at least one choice, unless it does nothing
            cases fuel with
            | zero => exact ⟨t, hJ, hbefore⟩
            | succ fuel =>
                exact since_reconcileLoop (hpage hr _) hmoment _ (fuel + 1) none {} x le_rfl
                  (.inr (Nat.succ_ne_zero fuel)) hnow
        | none =>
            exact since_reconcileLoop (hpage hr _) hmoment _ fuel none {}
              ⟨x.tick + 1, x.store, x.log⟩
              (Nat.le_succ _) (.inl (Nat.lt_succ_self _)) hnow

end Since

/-- A moment that is given to a request is the one the clock shows when its turn comes. -/
def OnTime (settings : Settings) (cs : ℕ → Choice) (x : Stage Row Event)
    (requests : List ServiceRequest) : Prop :=
  Along (fun x r => x.after cs (r.run settings))
    (fun x r => ∀ moment, r.given = some moment → moment = (cs x.tick).now) x requests

/-- No moment is given. -/
lemma onTime_of_none {settings : Settings} {cs : ℕ → Choice} {x : Stage Row Event}
    {requests : List ServiceRequest} (h : ∀ r ∈ requests, r.given = none) :
    OnTime settings cs x requests := by
  induction requests generalizing x with
  | nil => trivial
  | cons r requests ih =>
      refine ⟨fun moment hmoment => ?_, ih fun r' hr' => h r' (List.mem_cons_of_mem _ hr')⟩
      rw [h r List.mem_cons_self] at hmoment
      cases hmoment

lemma onTime_append {settings : Settings} {cs : ℕ → Choice} {x : Stage Row Event}
    {requests requests' : List ServiceRequest} :
    OnTime settings cs x (requests ++ requests') ↔ OnTime settings cs x requests
      ∧ OnTime settings cs (inSequence (ServiceRequest.run settings) cs x requests) requests' :=
  along_append

end MarketHub
