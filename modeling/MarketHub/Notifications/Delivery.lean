import MarketHub.Listings
import MarketHub.Notifications.Sending
import MarketHub.Notifications.Wire

/-!
Every change is notified once (`process_once` of `app/jobs/worker.py`, with the handler of
`NOTIFY_STATUS_CHANGE`).

Messages are delivered any number of times and in any order, to any number of workers at a time; a
handler may fail at each of its steps, and a worker behind its handler. What a message carries is
the job that is decoded from its body (`Wire.received_toDomain`).

* `Workers`, `Act`, `Workers.step`: the database, the messages and the deliveries.
* `Delivered`: what holds after any steps.
* `notified_once`: one row for every recipient of a job whose handler has succeeded, and no others.
-/

namespace MarketHub

open ReadCommitted Session Grouping

/-! ### Deliveries -/

/-- A message in the queue. -/
structure JobMessage where
  id : ℕ
  job : NotifyJob
  deriving DecidableEq

/-- The database, the messages that were sent, those that are not deleted, and the message that
every run of the handler is about. -/
structure Workers where
  sys : Sys Row Event DomainError Unit
  sent : List JobMessage
  queue : List JobMessage
  tasks : ℕ → Option JobMessage

/-- What happens next. -/
inductive Act where
  /-- Someone sends a message. -/
  | send (message : JobMessage)
  /-- A message is delivered, for the first time or again, and its handler starts. -/
  | receive (t : ℕ) (message : JobMessage) (rows : Arrangement UUID) (extra : String)
  /-- The handler goes on. -/
  | handle (t : ℕ) (c : Choice)
  /-- The handler fails. -/
  | fail (t : ℕ)
  /-- The message of a handler that has returned is deleted. -/
  | delete (t : ℕ)

/-- The handler has returned. -/
def Workers.returned (w : Workers) (t : ℕ) : Bool :=
  (w.sys.threads.lookup t).any fun th =>
    match th.prog with
    | .pure _ => true
    | _ => false

/-- One step of a worker, or a message. -/
def Workers.step (w : Workers) : Act → Option Workers
  | .send message => some { w with sent := message :: w.sent, queue := message :: w.queue }
  | .receive t message rows extra =>
      if message ∈ w.sent then
        (Sys.step (.start t (handleNotifyStatusChange rows extra message.job)) w.sys).map fun sys =>
          { w with sys := sys, tasks := Function.update w.tasks t (some message) }
      else none
  | .handle t c => (Sys.step (.run t c) w.sys).map fun sys => { w with sys := sys }
  | .fail t => (Sys.step (.abort t) w.sys).map fun sys => { w with sys := sys }
  | .delete t =>
      if w.returned t then
        some { w with queue := w.queue.filter fun message => some message ≠ w.tasks t }
      else none

/-- Nothing was delivered yet. -/
def Workers.start (st : Db) : Workers := ⟨Sys.rest st, [], [], fun _ => none⟩

/-- The identifiers that are drawn are new. -/
def Workers.drawsNew (w : Workers) : Act → Bool
  | .handle t _ =>
      match w.sys.threads.lookup t with
      | some th =>
          match th.prog with
          | .op op _ => freshKey w.sys.committed th.session op
          | _ => true
      | none => true
  | _ => true

/-- The states of the runs that draw new identifiers. -/
inductive Workers.Reached (w₀ : Workers) : Workers → Prop
  | start : Reached w₀ w₀
  | step {w w' : Workers} {a : Act} : Reached w₀ w → w.drawsNew a = true → w.step a = some w' →
      Reached w₀ w'

/-! ### All handlers -/

section Systems

variable {st₀ : Db} {w w' : Workers}

/-- The handlers of all jobs. -/
def IsHandler (p : Txn Unit) : Prop := ∃ rows extra job, p = handleNotifyStatusChange rows extra job

/-- The step draws a new identifier, if it draws one. -/
def Draws (s : Sys Row Event DomainError Unit) : Action Row Event DomainError Unit → Prop
  | .run t _ => ∀ th, s.threads.lookup t = some th → ∀ (β : Type) (op : Op Row Event β) k,
      th.prog = .op op k → freshKey s.committed th.session op = true
  | _ => True

lemma draws_of_drawsNew {t : ℕ} {c : Choice} (h : w.drawsNew (.handle t c) = true) :
    Draws w.sys (.run t c) := by
  intro th hth β op k hp
  simpa only [Workers.drawsNew, hth, hp] using h

/-- What is known of a handler that is about to commit. -/
lemma sentAll_of_reachable {s : Sys Row Event DomainError Unit} (hone : OneUserPerSeller st₀)
    (h : Reachable IsHandler Draws (Sys.rest st₀) s) {t : ℕ}
    {th : Thread Row Event DomainError Unit} {k : Txn Unit} {rows : Arrangement UUID}
    {extra : String} {job : NotifyJob} (hth : s.threads.lookup t = some th)
    (horigin : th.origin = handleNotifyStatusChange rows extra job) (hp : th.prog = .commit k) :
    Agrees th.session.held s.committed ∧ SentAll st₀ job s.committed th.session := by
  -- the commits of this very handler are asked for more
  let C : Txn Unit → Db → AppSession → Prop := fun p st se =>
    (∃ job, Adds st₀ job se) ∧ (p = handleNotifyStatusChange rows extra job → SentAll st₀ job st se)
  have hprog : ∀ p, IsHandler p → ∀ st log, (deliveryOutline st₀).inv st log →
      wp ((deliveryOutline st₀).at (C p)) p (fun _ _ _ => True) st ∅ := by
    rintro p ⟨rows', extra', job', rfl⟩ st _ _
    by_cases hsame : handleNotifyStatusChange rows' extra' job'
      = handleNotifyStatusChange rows extra job
    · rw [hsame]
      exact wp_commit_mono (fun _ _ hsent => ⟨⟨job, hsent.1⟩, fun _ => hsent⟩)
        (wp_handleNotifyStatusChange hone rows extra)
    · exact wp_commit_mono (fun _ _ hsent => ⟨⟨job', hsent.1⟩, fun heq => absurd heq hsame⟩)
        (wp_handleNotifyStatusChange hone rows' extra')
  obtain ⟨hok, hbound⟩ := h.bound (deliveryOutline_sound st₀) (fun _ _ => rfl)
    (fun _ _ _ _ hC => hC.1) hprog
    fun s t c th hdraws hth β op k hp => hdraws th hth β op k hp
  exact ⟨hok.agrees t th hth, (commit_of_bound hok hth hp (hbound t th hth).2).2 horigin⟩

lemma returned_iff {t : ℕ} : w.returned t = true ↔ w.sys.Returned t := by
  rw [Workers.returned, Option.any_eq_true]
  constructor
  · rintro ⟨th, hth, hpure⟩
    cases hp : th.prog with
    | pure a => exact ⟨th, a, hth, hp⟩
    | _ => simp [hp] at hpure
  · rintro ⟨th, a, hth, hp⟩
    exact ⟨th, hth, by simp [hp]⟩

/-- A handler of the message has succeeded. -/
def Workers.Handled (w : Workers) (message : JobMessage) : Prop :=
  ∃ t, w.returned t = true ∧ w.tasks t = some message

/-- What holds after any steps. -/
structure Delivered (st₀ : Db) (w : Workers) : Prop where
  reachable : Reachable IsHandler Draws (Sys.rest st₀) w.sys
  task : ∀ t th, w.sys.threads.lookup t = some th → ∃ message rows extra,
    w.tasks t = some message ∧ th.origin = handleNotifyStatusChange rows extra message.job
      ∧ (th.prog.CommitsLast ∨ ∃ a, th.prog = .pure a)
  told : ∀ message, w.Handled message → ∀ r, IsRecipient st₀ message.job r →
    ∃ id, Notifies w.sys.committed message.job r id
  rows : ∀ id n, Db.notification w.sys.committed id = some n → Db.notification st₀ id = some n
    ∨ ∃ message, w.Handled message ∧ n.job = message.job ∧ IsRecipient st₀ message.job n.recipientId
  deleted : ∀ message ∈ w.sent, message ∉ w.queue → w.Handled message

lemma Delivered.start (st₀ : Db) : Delivered st₀ (.start st₀) where
  reachable := .init
  task t th hl := by simp [Workers.start, Sys.rest] at hl
  told message h := by
    obtain ⟨t, -, ht⟩ := h
    cases ht
  rows id n hn := .inl hn
  deleted message h := by cases h

/-- A step of a handler that has started. -/
lemma Delivered.handle (hone : OneUserPerSeller st₀) (h : Delivered st₀ w)
    {s : Sys Row Event DomainError Unit} {a : Action Row Event DomainError Unit}
    (hstarts : ∀ t p, a ≠ .start t p) (hdraws : Draws w.sys a) (hstep : Sys.step a w.sys = some s) :
    Delivered st₀ { w with sys := s } := by
  -- a message that was handled stays handled
  have hmono : ∀ message, w.Handled message → Workers.Handled { w with sys := s } message := by
    rintro message ⟨t, ht, htask⟩
    exact ⟨t, returned_iff.mpr ((returned_iff.mp ht).step hstep), htask⟩
  have hreachable := h.reachable.step (by cases a with
    | start t p => exact absurd rfl (hstarts t p)
    | _ => trivial) hdraws hstep
  -- who has returned after a step of the thread `t`
  have hback : ∀ {t : ℕ} {th' : Thread Row Event DomainError Unit} {message : JobMessage},
      s.threads = w.sys.threads.insert t th' → Workers.Handled { w with sys := s } message →
      w.Handled message ∨ w.tasks t = some message ∧ ∃ b, th'.prog = .pure b := by
    rintro t th' message hthreads ⟨t', ht', htask⟩
    obtain ⟨th'', b, hl, hp⟩ := returned_iff.mp ht'
    change s.threads.lookup t' = some th'' at hl
    rw [hthreads] at hl
    rcases Sys.thread_cases hl with ⟨rfl, rfl⟩ | ⟨-, hl⟩
    · exact .inr ⟨htask, b, hp⟩
    · exact .inl ⟨t', returned_iff.mpr ⟨th'', b, hl, hp⟩, htask⟩
  -- a step that commits nothing and does not return
  have hquiet : ∀ {t : ℕ} {th th' : Thread Row Event DomainError Unit},
      s.committed = w.sys.committed →
      w.sys.threads.lookup t = some th → s.threads = w.sys.threads.insert t th' →
      th'.origin = th.origin → th'.prog.CommitsLast → Delivered st₀ { w with sys := s } := by
    intro t th th' hcommitted hth hthreads horigin hlast
    obtain ⟨message, rows, extra, htask, hfrom, -⟩ := h.task t th hth
    refine ⟨hreachable, ?_, fun message hm r hr => ?_, fun id n hn => ?_,
      fun message hm hdel => hmono _ (h.deleted message hm hdel)⟩
    · intro t' th'' hl
      change s.threads.lookup t' = some th'' at hl
      rw [hthreads] at hl
      rcases Sys.thread_cases hl with ⟨rfl, rfl⟩ | ⟨-, hl⟩
      · exact ⟨message, rows, extra, htask, horigin.trans hfrom, .inl hlast⟩
      · exact h.task t' th'' hl
    · change ∃ id, Notifies s.committed message.job r id
      rw [hcommitted]
      rcases hback hthreads hm with hold | ⟨-, b, hpure⟩
      · exact h.told message hold r hr
      · exact absurd hpure hlast.not_pure
    · change Db.notification s.committed id = some n at hn
      rw [hcommitted] at hn
      refine (h.rows id n hn).imp_right ?_
      rintro ⟨message, hm, hrest⟩
      exact ⟨message, hmono _ hm, hrest⟩
  cases Sys.stepTo_of_step hstep with
  | start _ => exact absurd rfl (hstarts _ _)
  -- only a commit can return
  | @op t c th β op k b se hth hp he =>
      obtain ⟨message, rows, extra, -, -, hlast | ⟨a, hpure⟩⟩ := h.task t th hth
      · rw [hp] at hlast
        exact hquiet rfl hth rfl rfl (hlast b)
      · cases hp.symm.trans hpure
  | @publish t c th k hth hp =>
      obtain ⟨message, rows, extra, -, -, hlast | ⟨a, hpure⟩⟩ := h.task t th hth
      · rw [hp] at hlast
        exact hquiet rfl hth rfl rfl hlast
      · cases hp.symm.trans hpure
  | @abort t th e hth => exact hquiet rfl hth rfl rfl trivial
  | @commit t c th k hth hp =>
      -- the rows of the commit are those of the message the thread handles
      obtain ⟨message, rows, extra, htask, horigin, hlast | ⟨a, hpure⟩⟩ := h.task t th hth
      · rw [hp] at hlast
        obtain ⟨b, rfl⟩ := hlast
        obtain ⟨hag, hadds, htold⟩ := sentAll_of_reachable hone h.reachable hth horigin hp
        have hhandled : Workers.Handled
            { w with sys := w.sys.commitThread t th (.pure b) } message :=
          ⟨t, returned_iff.mpr ⟨_, b, AList.lookup_insert _, rfl⟩, htask⟩
        have hgrows : Grows w.sys.committed
            (merge w.sys.committed th.session.held) := hadds.grows hag
        refine ⟨hreachable, ?_, fun message' hm r hr => ?_, fun id n hn => ?_,
          fun message' hm hdel => hmono _ (h.deleted message' hm hdel)⟩
        · intro t' th' hl
          change (w.sys.threads.insert t _).lookup t' = some th' at hl
          rcases Sys.thread_cases hl with ⟨rfl, rfl⟩ | ⟨-, hl⟩
          · exact ⟨message, rows, extra, htask, horigin, .inr ⟨b, rfl⟩⟩
          · exact h.task t' th' hl
        · -- told before this commit, or by it
          change ∃ id, Notifies (merge w.sys.committed th.session.held) message'.job r id
          rcases hback rfl hm with hold | ⟨htask', -⟩
          · obtain ⟨id, hid⟩ := h.told message' hold r hr
            exact ⟨id, hid.grows hgrows⟩
          · cases htask.symm.trans htask'
            exact htold r hr
        · change Db.notification (merge w.sys.committed th.session.held) id = some n at hn
          -- a row that was there, or one of this commit
          cases hheld : th.session.held.lookup (.notification id) with
          | none =>
              rw [Db.notification, lookup_merge_of_not_held hheld] at hn
              refine (h.rows id n hn).imp_right ?_
              rintro ⟨message', hm, hrest⟩
              exact ⟨message', hmono _ hm, hrest⟩
          | some hd =>
              rw [Db.notification, lookup_merge_of_held hheld] at hn
              obtain ⟨n', hcur, hjob, hto⟩ := hadds.rows id hd hheld
              cases hcur.symm.trans hn
              exact .inr ⟨message, hhandled, hjob, hto⟩
      · cases hp.symm.trans hpure

/-- A handler starts. -/
lemma Delivered.receive (h : Delivered st₀ w) {t : ℕ} {message : JobMessage}
    {rows : Arrangement UUID} {extra : String} {s : Sys Row Event DomainError Unit}
    (hstep : Sys.step (.start t (handleNotifyStatusChange rows extra message.job)) w.sys = some s) :
    Delivered st₀ { w with sys := s, tasks := Function.update w.tasks t (some message) } := by
  have hstarts : (Action.start t (handleNotifyStatusChange rows extra message.job)).Starts
      IsHandler :=
    ⟨rows, extra, message.job, rfl⟩
  have hreachable := h.reachable.step hstarts trivial hstep
  cases Sys.stepTo_of_step hstep with
  | start hnone =>
      -- a thread that starts has returned nothing, so the same messages are handled
      have hhandled : ∀ message', Workers.Handled { w with
          sys := w.sys.set t (.fresh (handleNotifyStatusChange rows extra message.job)
            (handleNotifyStatusChange rows extra message.job))
          tasks := Function.update w.tasks t (some message) } message' ↔ w.Handled message' := by
        intro message'
        constructor
        · rintro ⟨t', ht', htask⟩
          obtain ⟨th, a, hl, hp⟩ := returned_iff.mp ht'
          change (w.sys.threads.insert t _).lookup t' = some th at hl
          have htt : t' ≠ t := by
            rintro rfl
            rw [AList.lookup_insert] at hl
            cases hl
            exact (commitsLast_handleNotifyStatusChange rows extra message.job).not_pure hp
          rw [AList.lookup_insert_ne htt] at hl
          exact ⟨t', returned_iff.mpr ⟨th, a, hl, hp⟩,
            (Function.update_of_ne htt _ _).symm.trans htask⟩
        · rintro ⟨t', ht', htask⟩
          obtain ⟨th, a, hl, hp⟩ := returned_iff.mp ht'
          have htt : t' ≠ t := by
            rintro rfl
            cases hnone.symm.trans hl
          refine ⟨t', returned_iff.mpr ⟨th, a, ?_, hp⟩, (Function.update_of_ne htt _ _).trans htask⟩
          exact (AList.lookup_insert_ne htt).trans hl
      refine ⟨hreachable, fun t' th hl => ?_, fun message' hm r hr => ?_, fun id n hn => ?_,
        fun message' hm hdel => ?_⟩
      · change (w.sys.threads.insert t _).lookup t' = some th at hl
        rcases Sys.thread_cases hl with ⟨rfl, rfl⟩ | ⟨htt, hl⟩
        · exact ⟨message, rows, extra, Function.update_self _ _ _, rfl,
            .inl (commitsLast_handleNotifyStatusChange rows extra message.job)⟩
        · obtain ⟨message', rows', extra', htask, hrest⟩ := h.task t' th hl
          exact ⟨message', rows', extra', (Function.update_of_ne htt _ _).trans htask, hrest⟩
      · exact h.told message' ((hhandled _).mp hm) r hr
      · refine (h.rows id n hn).imp_right ?_
        rintro ⟨message', hm, hrest⟩
        exact ⟨message', (hhandled _).mpr hm, hrest⟩
      · exact (hhandled _).mpr (h.deleted message' hm hdel)

/-- One step. -/
lemma Delivered.step (hone : OneUserPerSeller st₀) (h : Delivered st₀ w) {a : Act}
    (hnew : w.drawsNew a = true) (hstep : w.step a = some w') : Delivered st₀ w' := by
  cases a with
  | send message =>
      cases hstep
      refine ⟨h.reachable, h.task, h.told, h.rows, fun message' hm hdel => ?_⟩
      rcases List.mem_cons.mp hm with rfl | hm
      · exact absurd List.mem_cons_self hdel
      · exact h.deleted message' hm fun hq => hdel (List.mem_cons_of_mem _ hq)
  | receive t message rows extra =>
      simp only [Workers.step] at hstep
      split at hstep
      · obtain ⟨s, hs, rfl⟩ := Option.map_eq_some_iff.mp hstep
        exact h.receive hs
      · cases hstep
  | handle t c =>
      obtain ⟨s, hs, rfl⟩ := Option.map_eq_some_iff.mp hstep
      exact h.handle hone (fun _ _ ha => by cases ha) (draws_of_drawsNew hnew) hs
  | fail t =>
      obtain ⟨s, hs, rfl⟩ := Option.map_eq_some_iff.mp hstep
      exact h.handle (a := .abort t) hone (fun _ _ ha => by cases ha) trivial hs
  | delete t =>
      simp only [Workers.step] at hstep
      split at hstep
      · rename_i hreturned
        cases hstep
        refine ⟨h.reachable, h.task, h.told, h.rows, fun message' hm hdel => ?_⟩
        by_cases hq : message' ∈ w.queue
        · -- what goes now is the message of this handler
          refine ⟨t, hreturned, ?_⟩
          by_contra hne
          exact hdel (List.mem_filter.mpr ⟨hq, by simpa using fun heq => hne heq.symm⟩)
        · exact h.deleted message' hm hq
      · cases hstep

lemma Workers.Reached.delivered (hone : OneUserPerSeller st₀) (h : (Workers.start st₀).Reached w) :
    Delivered st₀ w := by
  induction h with
  | start => exact .start st₀
  | step _ hnew hstep ih => exact ih.step hone hnew hstep

/-- **Every change is notified once.** After any deliveries, in any order, and any failures: every
recipient of a job whose handler has succeeded has one row, every other row was there before, and a
message is deleted when a handler of it has succeeded. -/
theorem notified_once (hone : OneUserPerSeller st₀) (hunclashed : Unclashed notificationRows st₀)
    (h : (Workers.start st₀).Reached w) :
    (∀ message, w.Handled message → ∀ r, IsRecipient st₀ message.job r →
        ∃! id, Notifies w.sys.committed message.job r id)
      ∧ (∀ id n, Db.notification w.sys.committed id = some n → Db.notification st₀ id = some n
        ∨ ∃ message, w.Handled message ∧ n.job = message.job
          ∧ IsRecipient st₀ message.job n.recipientId)
      ∧ ∀ message ∈ w.sent, message ∉ w.queue → w.Handled message := by
  have hd := h.delivered hone
  have hkeys := (hd.reachable.unclashed clash_symm
    (fun p hp => by
      obtain ⟨rows, extra, job, rfl⟩ := hp
      exact opens_handleNotifyStatusChange rows extra job) hunclashed).1
  refine ⟨fun message hm r hr => ?_, hd.rows, hd.deleted⟩
  obtain ⟨id, n, hn, hjob, hto⟩ := hd.told message hm r hr
  refine ⟨id, ⟨n, hn, hjob, hto⟩, ?_⟩
  rintro id' ⟨n', hn', hjob', hto'⟩
  by_contra hne
  have hfree := hkeys (.notification id') n' (.notification id) n ⟨id', rfl⟩ ⟨id, rfl⟩
    (by simpa using hne) (.inl hn') (.inl hn)
  have hkey : n'.key ≠ n.key := by simpa [Table.clash, uniqueClash] using hfree
  refine hkey ?_
  have hsame := hjob'.trans hjob.symm
  simp only [Notification.job, NotifyJob.mk.injEq] at hsame
  simp [Notification.key, hsame, hto, hto']

end Systems

/-! ### A mug on its way -/

/-- The states after some steps that draw new identifiers. -/
def Workers.run : List Act → Workers → Option Workers
  | [], w => some w
  | a :: as, w => if w.drawsNew a then (w.step a).bind (run as) else none

lemma reached_of_run {w₀ w w' : Workers} : ∀ {as : List Act}, w₀.Reached w → w.run as = some w' →
    w₀.Reached w'
  | [], h, hrun => by
      cases hrun
      exact h
  | a :: as, h, hrun => by
      simp only [Workers.run] at hrun
      split at hrun
      · rename_i hnew
        obtain ⟨w₁, hstep, hrest⟩ := Option.bind_eq_some_iff.mp hrun
        exact reached_of_run (h.step hnew hstep) hrest
      · cases hrun

/-- The tableware, with the users of its seller and of Ops. -/
def staffedTableware : Db :=
  (tableware.insert (.user 10) (⟨"loja@example.com", "Loja", .seller, some 1⟩ : User)).insert
    (.user 11) (⟨"ops@example.com", "Ops", .ops, none⟩ : User)

/-- The mug is prepared. -/
def mugPrepared : NotifyJob :=
  ⟨orderItemStatusChangedType, entityOrderItem, 8, "placed", "preparing", 50⟩

/-- Rows as they come. -/
def asStored : Arrangement UUID := ⟨id, fun rows => .refl rows⟩

/-- A handler fails before it commits, the next two succeed, and the message is deleted. -/
def mugDeliveries : List Act :=
  let message : JobMessage := ⟨0, mugPrepared⟩
  let steps := fun t n m => (List.range n).map fun i => Act.handle t ⟨60, m + i, false⟩
  .send message :: .receive 0 message asStored "" :: (steps 0 16 100 ++ .fail 0
    :: .receive 1 message asStored "" :: .receive 2 message asStored ""
    :: (steps 1 18 200 ++ steps 2 18 300 ++ [.delete 2]))

lemma oneUserPerSeller_staffed : OneUserPerSeller staffedTableware := by
  have hall : ∀ x ∈ Db.users staffedTableware, ∀ y ∈ Db.users staffedTableware,
      x.2.sellerId = y.2.sellerId → x.2.sellerId ≠ none → x.1 = y.1 := by decide
  rintro sellerId r r' ⟨user, huser, hseller⟩ ⟨user', huser', hseller'⟩
  exact hall (r, user) (mem_users.mpr huser) (r', user') (mem_users.mpr huser')
    (hseller.trans hseller'.symm) (by simp [hseller])

lemma unclashed_staffed : Unclashed notificationRows staffedTableware := by
  have hnone : Db.notifications staffedTableware = [] := by decide
  rintro k r k' r' ⟨id, rfl⟩ _ _ hr
  have hmem : ((id, r) : UUID × Notification) ∈ Db.notifications staffedTableware :=
    List.mem_filterMap.mpr ⟨⟨.notification id, r⟩, AList.mem_lookup_iff.mp hr, rfl⟩
  rw [hnone] at hmem
  cases hmem

theorem notified_once_tableware : (∀ uuid date, Wire.Received (date 50)
      (Wire.toDomain uuid date (.orderItemStatusChanged 8 .placed .preparing))
      (Wire.paramsOfJob uuid date mugPrepared))
    ∧ ∃ w, (Workers.start staffedTableware).Reached w
      ∧ w.queue = [] ∧ (∃! id, Notifies w.sys.committed mugPrepared 7 id)
      ∧ ∃! id, Notifies w.sys.committed mugPrepared 10 id := by
  refine ⟨fun uuid date => (Wire.received_toDomain uuid date 50 _ _).mpr
    ⟨mugPrepared, rfl, rfl⟩, ?_⟩
  have hrun : ((Workers.start staffedTableware).run mugDeliveries).any (fun w =>
      w.returned 1 && w.tasks 1 == some ⟨0, mugPrepared⟩ && w.queue == []) = true := by
    decide +kernel
  obtain ⟨w, hw, hend⟩ := (Option.any_eq_true _ _).mp hrun
  simp only [Bool.and_eq_true, beq_iff_eq] at hend
  obtain ⟨⟨hreturned, htask⟩, hqueue⟩ := hend
  have hreached := reached_of_run .start hw
  have honce := (notified_once oneUserPerSeller_staffed unclashed_staffed hreached).1
    ⟨0, mugPrepared⟩ ⟨1, hreturned, htask⟩
  have hitem : notifiedItem staffedTableware mugPrepared
      = some ⟨6, 4, 1, 1, 1000, .placed, 0, 0, 0⟩ := by decide
  have hto : ∀ r, r = 7 ∨ IsSellerUser staffedTableware 1 r →
      IsRecipient staffedTableware mugPrepared r := by
    intro r hr
    refine ⟨_, hitem, ?_⟩
    rw [if_neg (by decide)]
    exact ⟨⟨1001, 7, 0, 0⟩, ⟨2, 1, 1000, 5, true⟩, by decide, by decide, hr⟩
  exact ⟨w, hreached, hqueue, honce 7 (hto 7 (.inl rfl)),
    honce 10 (hto 10 (.inr ⟨⟨"loja@example.com", "Loja", .seller, some 1⟩, by decide, rfl⟩))⟩

end MarketHub
