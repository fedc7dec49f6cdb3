import MarketHub.Communication.Interaction
import MarketHub.Notifications.Service
import MarketHub.ReadCommitted.Unclashed

/-!
What a handler of `NOTIFY_STATUS_CHANGE` does to the notifications, beside others.

* `IsRecipient`: whom a job is for. `gives_resolveRecipients`: it is whom the handler finds.
* `Sending`: what a handler has done at each of its steps.
* `wp_handleNotifyStatusChange`: everyone is told when it commits.
* `Telling`: it reads and inserts in savepoints, and commits at its end.
-/

namespace MarketHub

open ReadCommitted Session Grouping

/-! ### Whom a job is for -/

/-- The item a job is about. -/
def notifiedItem (v : Db) (job : NotifyJob) : Option OrderItem :=
  if job.entityType = entityOrderItem then Db.orderItem v job.entityId
  else if job.entityType = entityConversation then
    (Db.conversation v job.entityId).bind fun conversation =>
      Db.orderItem v conversation.orderItemId
  else none

/-- A user of the seller. -/
def IsSellerUser (v : Db) (sellerId r : UUID) : Prop :=
  ∃ user, Db.user v r = some user ∧ user.sellerId = some sellerId

/-- The recipients of a job: the seller's user, and all of Ops or the buyer. -/
def IsRecipient (v : Db) (job : NotifyJob) (r : UUID) : Prop :=
  ∃ item, notifiedItem v job = some item
    ∧ if job.notificationType = conversationPriorityChangedType then
        (∃ offer, Db.offer v item.offerId = some offer ∧ IsSellerUser v offer.sellerId r)
          ∨ ∃ user, Db.user v r = some user ∧ user.role = .ops
      else ∃ order offer, Db.order v item.orderId = some order
        ∧ Db.offer v item.offerId = some offer
        ∧ (r = order.buyerId ∨ IsSellerUser v offer.sellerId r)

/-- The job that a row notifies of. -/
def Notification.job (n : Notification) : NotifyJob :=
  ⟨n.notificationType, n.entityType, n.entityId, n.previousStatus, n.newStatus, n.changedAt⟩

/-- A row notifies a recipient of a job. -/
def Notifies (v : Db) (job : NotifyJob) (r id : UUID) : Prop :=
  ∃ n, Db.notification v id = some n ∧ n.job = job ∧ n.recipientId = r

/-- At most one user per seller. -/
def OneUserPerSeller (v : Db) : Prop :=
  ∀ sellerId r r', IsSellerUser v sellerId r → IsSellerUser v sellerId r' → r = r'

/-! ### A handler at work -/

/-- The identifier of a row that is about to be inserted is not in use. -/
def freshKey (st : Db) (s : AppSession) {β : Type} : Op Row Event β → Bool
  | .insertNested k _ => ((s.view st).lookup k).isNone
  | _ => true

/-- The rows of `notifications`. -/
def notificationRows (k : Key) : Prop := ∃ id, k = .notification id

/-- The other tables are as they were. -/
def Fixed (st₀ st : Db) : Prop := ∀ k, ¬ notificationRows k → st.lookup k = st₀.lookup k

/-- What a handler relies on: rows of notifications stay. -/
def Grows (st st' : Db) : Prop :=
  ∀ id n, Db.notification st id = some n → Db.notification st' id = some n

/-- The rows that a handler has added. -/
structure Adds (st₀ : Db) (job : NotifyJob) (s : AppSession) : Prop where
  held : ∀ k h, s.held.lookup k = some h → notificationRows k ∧ h.base = none
  rows : ∀ id h, s.held.lookup (.notification id) = some h →
    ∃ n : Notification, h.cur = some n ∧ n.job = job ∧ IsRecipient st₀ job n.recipientId

/-- A handler's session when it has told some recipients. -/
structure Sending (st₀ : Db) (job : NotifyJob) (told : UUID → Prop) (st : Db) (s : AppSession) :
    Prop where
  clean : s.Clean
  adds : Adds st₀ job s
  objects : ∀ k ob, ¬ notificationRows k → s.objects.lookup k = some ob → st₀.lookup k = some ob.cur
  told : ∀ r, told r → ∃ id, Notifies (s.view st) job r id

/-- What a handler commits. -/
def SentAll (st₀ : Db) (job : NotifyJob) (st : Db) (s : AppSession) : Prop :=
  Adds st₀ job s ∧ ∀ r, IsRecipient st₀ job r → ∃ id, Notifies (s.view st) job r id

/-- The assumptions and obligations of the handlers. -/
def deliveryOutline (st₀ : Db) : Outline Row Event where
  inv v _ := Fixed st₀ v
  rely _ st st' := Grows st st'
  guard st s op _ := freshKey st s op = true
  commit _ s := ∃ job, Adds st₀ job s
  rely_refl _ _ _ _ h := h
  rely_trans h h' id n hn := h' id n (h id n hn)

section Sessions

variable {st₀ st st' : Db} {job : NotifyJob} {told : UUID → Prop} {s : AppSession}

/-- A row that is not held as it stands is no notification. -/
lemma Adds.not_held (h : Adds st₀ job s) {k : Key} (hk : ¬ notificationRows k) :
    s.held.lookup k = none := by
  by_contra hne
  obtain ⟨hd, hheld⟩ := Option.ne_none_iff_exists'.mp hne
  exact hk (h.held k hd hheld).1

/-- What a handler adds hides nothing. -/
lemma Adds.grows (h : Adds st₀ job s) (hag : Agrees s.held st) : Grows st (s.view st) := by
  intro id n hn
  cases hheld : s.held.lookup (.notification id) with
  | none =>
      rw [Db.notification, Session.lookup_view, hheld]
      exact hn
  | some hd =>
      have hbase := hag _ hd hheld
      rw [(h.held _ hd hheld).2] at hbase
      cases hbase.symm.trans hn

lemma deliveryOutline_sound (st₀ : Db) : (deliveryOutline st₀).Sound where
  keeps st log s hfixed _ hcommit k hk := by
    obtain ⟨job, hadds⟩ := hcommit
    rw [lookup_merge_of_not_held (hadds.not_held hk)]
    exact hfixed k hk
  relied st log s s' _ hag _ _ hcommit := by
    obtain ⟨job, hadds⟩ := hcommit
    exact hadds.grows hag

lemma Notifies.grows {r id : UUID} (h : Notifies st job r id) (hgrows : Grows st st') :
    Notifies st' job r id := by
  obtain ⟨n, hn, hjob⟩ := h
  exact ⟨n, hgrows id n hn, hjob⟩

/-- What others add, a session sees as well. -/
lemma Grows.view (h : Grows st st') (s : AppSession) : Grows (s.view st) (s.view st') := by
  intro id n hn
  rw [Db.notification, Session.lookup_view] at hn ⊢
  cases hheld : s.held.lookup (.notification id) with
  | none =>
      rw [hheld] at hn
      exact h id n hn
  | some hd =>
      rw [hheld] at hn
      exact hn

/-- Rows that stand in each other's way are of one job and one recipient. -/
lemma job_eq_of_key {n n' : Notification} (h : n.key = n'.key) :
    n.job = n'.job ∧ n.recipientId = n'.recipientId := by
  simp only [Notification.key, Prod.mk.injEq] at h
  obtain ⟨hto, htype, hentity, hid, hprevious, hnew, hat⟩ := h
  exact ⟨by simp only [Notification.job, htype, hentity, hid, hprevious, hnew, hat], hto⟩

lemma clash_notification {id : UUID} {n : Notification} {k : Key} {r : Row k}
    (h : Table.clash (.notification id) n k r = true) :
    ∃ id' : UUID, ∃ n' : Notification, k = .notification id' ∧ HEq r n' ∧ n.key = n'.key := by
  cases k with
  | notification id' => exact ⟨id', r, rfl, HEq.rfl, by simpa [Table.clash, uniqueClash] using h⟩
  | _ => cases h

namespace Sending

lemma empty (st₀ : Db) (job : NotifyJob) (st : Db) : Sending st₀ job (fun _ => False) st ∅ where
  clean := clean_empty
  adds := by
    have hnone : ∀ k h, (∅ : AppSession).held.lookup k = some h → False := by
      intro k h hk
      change (∅ : AList (Held Row)).lookup k = some h at hk
      simp at hk
    exact ⟨fun k h hk => (hnone k h hk).elim, fun id h hk => (hnone _ h hk).elim⟩
  objects k ob _ hob := by
    change (∅ : AList (Obj Row)).lookup k = some ob at hob
    simp at hob
  told r hr := hr.elim

lemma grows (h : Sending st₀ job told st s) (hgrows : Grows st st') :
    Sending st₀ job told st' s where
  clean := h.clean
  adds := h.adds
  objects := h.objects
  told r hr := by
    obtain ⟨id, hid⟩ := h.told r hr
    exact ⟨id, hid.grows (hgrows.view s)⟩

/-- The session sees the other tables as they were. -/
lemma lookup_view (h : Sending st₀ job told st s) (hfixed : Fixed st₀ st) {k : Key}
    (hk : ¬ notificationRows k) : (s.view st).lookup k = st₀.lookup k := by
  rw [Session.lookup_view, h.adds.not_held hk]
  exact hfixed k hk

/-- A row of another table is loaded. -/
lemma load (h : Sending st₀ job told st s) (hfixed : Fixed st₀ st) (k : Key) :
    Sending st₀ job told st (s.load (s.view st) k) where
  clean := h.clean.load _
  adds := by
    have hheld : (s.load (s.view st) k).held = s.held := Session.load_held ..
    exact ⟨fun k' hd hk' => h.adds.held k' hd (hheld ▸ hk'),
      fun id hd hid => h.adds.rows id hd (hheld ▸ hid)⟩
  objects k' ob hk' hob := by
    rcases Session.lookup_load_cases _ _ _ hob with hold | ⟨r, hr, rfl⟩
    · exact h.objects k' ob hk' hold
    · exact (h.lookup_view hfixed hk').symm.trans hr
  told r hr := by
    rw [Session.view, Session.load_held]
    exact h.told r hr

/-- A row that stands in the way tells the recipient already. -/
lemma told_of_clash (h : Sending st₀ job told st s) {k : UUID} {n : Notification}
    (hnone : (s.view st).lookup (.notification k) = none)
    (hclash : clashes (s.view st) (.notification k) n = true) (hjob : n.job = job) :
    Sending st₀ job (fun r => told r ∨ r = n.recipientId) st s := by
  refine ⟨h.clean, h.adds, h.objects, fun r hr => ?_⟩
  rcases hr with hr | rfl
  · exact h.told r hr
  · by_contra hno
    refine absurd hclash (Bool.not_eq_true _ ▸ clashes_eq_false_iff.mpr
      ⟨hnone, fun k' r' hr' => ?_⟩)
    by_contra hne
    rw [Bool.not_eq_false] at hne
    obtain ⟨id, n', rfl, hn', hkey⟩ := clash_notification hne
    cases hn'
    obtain ⟨hsame, hto⟩ := job_eq_of_key hkey
    exact hno ⟨id, n', hr', hsame.symm.trans hjob, hto.symm⟩

/-- A new row tells its recipient. -/
lemma insert (h : Sending st₀ job told st s) {k : UUID} {n : Notification}
    (hnone : (s.view st).lookup (.notification k) = none) (hjob : n.job = job)
    (hto : IsRecipient st₀ job n.recipientId) :
    Sending st₀ job (fun r => told r ∨ r = n.recipientId) st
      ((s.write st (.notification k) (some n)).sync (.notification k) n) := by
  have hold : ∀ k' hd, k' ≠ Key.notification k →
      ((s.write st (.notification k) (some n)).sync (.notification k) n).held.lookup k' = some hd →
      s.held.lookup k' = some hd := by
    intro k' hd hk hhd
    rwa [Session.sync_held, Session.lookup_write_ne _ _ _ hk] at hhd
  -- the row is new to the store as well
  have hself : ∀ hd, ((s.write st (.notification k) (some n)).sync (.notification k) n).held.lookup
      (.notification k) = some hd → hd.base = none ∧ hd.cur = some n := by
    intro hd hhd
    rw [Session.sync_held, Session.lookup_write_self] at hhd
    cases hhd
    refine ⟨?_, rfl⟩
    rw [Session.lookup_view] at hnone
    cases hheld : s.held.lookup (.notification k) with
    | none =>
        rw [hheld] at hnone
        exact hnone
    | some hd => exact (h.adds.held _ hd hheld).2
  have hgrows : Grows (s.view st)
      (((s.write st (.notification k) (some n)).sync (.notification k) n).view st) := by
    intro id n' hn'
    by_cases hid : Key.notification id = .notification k
    · cases hid
      cases hnone.symm.trans hn'
    · rw [Db.notification, Session.view, Session.sync_held, ← Session.view,
        Session.lookup_view_write_ne _ _ _ hid]
      exact hn'
  -- clean objects, rows added, other objects, who has been told
  refine ⟨fun k' ob hob => ?_, ⟨fun k' hd hhd => ?_, fun id hd hhd => ?_⟩, fun k' ob hk' hob => ?_,
    fun r hr => ?_⟩
  · rcases Session.lookup_sync_cases hob with hclean | ⟨-, hob'⟩
    · exact hclean
    · exact h.clean k' ob hob'
  · by_cases hk : k' = .notification k
    · subst hk
      exact ⟨⟨k, rfl⟩, (hself hd hhd).1⟩
    · exact h.adds.held k' hd (hold k' hd hk hhd)
  · by_cases hk : Key.notification id = .notification k
    · cases hk
      exact ⟨n, (hself hd hhd).2, hjob, hto⟩
    · exact h.adds.rows id hd (hold _ hd hk hhd)
  · have hk : k' ≠ Key.notification k := fun heq => hk' ⟨k, heq⟩
    rw [Session.lookup_sync_ne _ _ hk, Session.write_objects] at hob
    exact h.objects k' ob hk' hob
  · rcases hr with hr | rfl
    · obtain ⟨id, hid⟩ := h.told r hr
      exact ⟨id, hid.grows hgrows⟩
    · refine ⟨k, n, ?_, hjob, rfl⟩
      rw [Db.notification, Session.view, Session.sync_held, ← Session.view]
      exact Session.lookup_view_write_self ..

end Sending

end Sessions

/-! ### The steps of a handler -/

section Programs

variable {st₀ st : Db} {job : NotifyJob} {told : UUID → Prop} {s : AppSession} {α β : Type}

/-- The outline of a job. -/
def jobOutline (st₀ : Db) (job : NotifyJob) : Outline Row Event :=
  (deliveryOutline st₀).at (SentAll st₀ job)

lemma Sending.finds {st' : Db} (h : Sending st₀ job told st s)
    (hfinds : (jobOutline st₀ job).Finds s st st') :
    Sending st₀ job told st' s ∧ Fixed st₀ st' := by
  obtain ⟨log, hfixed⟩ := hfinds.inv
  exact ⟨h.grows hfinds.rely, hfixed⟩

/-- A program that tells nobody, and whose answer meets a condition. -/
def Gives (st₀ : Db) (job : NotifyJob) (p : Txn β) (Q : β → Prop) : Prop :=
  ∀ told st s, Sending st₀ job told st s →
    wp (jobOutline st₀ job) p (fun b st s => Q b ∧ Sending st₀ job told st s) st s

namespace Gives

lemma pure {Q : β → Prop} {b : β} (h : Q b) : Gives st₀ job (.pure b) Q :=
  fun _ _ _ hs _ hgrows => ⟨h, hs.grows hgrows⟩

lemma bind {p : Txn β} {f : β → Txn α} {Q : β → Prop} {Q' : α → Prop} (hp : Gives st₀ job p Q)
    (hf : ∀ b, Q b → Gives st₀ job (f b) Q') : Gives st₀ job (p.bind f) Q' := by
  intro told st s hs
  refine wp_bind (wp_mono (hp told st s hs) fun b st' s' hb => ?_)
  exact hf b hb.1 told st' s' hb.2

/-- A row of another table is the one it was. -/
lemma get {k : Key} (hk : ¬ notificationRows k) :
    Gives st₀ job (Prog.get k) fun row => row = st₀.lookup k := by
  intro told st s hs
  have hanswer : ∀ {row : Option (Row k)} {st' s'}, row = st₀.lookup k →
      Sending st₀ job told st' s' → wp (jobOutline st₀ job) (.pure row : Txn (Option (Row k)))
        (fun row st s => row = st₀.lookup k ∧ Sending st₀ job told st s) st' s' :=
    fun hrow hs' => pure hrow told _ _ hs'
  have hget : wp (jobOutline st₀ job) ((Prog.get k : Txn (Option (Row k))).bind Prog.pure)
      (fun row st s => row = st₀.lookup k ∧ Sending st₀ job told st s) st s := by
    refine wp_get (fun st' hf _ hnone => ?_) (fun st' ob hf hob => ?_) fun st' r hf _ hr => ?_
    · obtain ⟨hs', hfixed⟩ := hs.finds hf
      exact hanswer (hnone.symm.trans (hs'.lookup_view hfixed hk)) hs'
    · obtain ⟨hs', -⟩ := hs.finds hf
      exact hanswer (hs.objects k ob hk hob).symm hs'
    · obtain ⟨hs', hfixed⟩ := hs.finds hf
      exact hanswer (hr.symm.trans (hs'.lookup_view hfixed hk)) (hs'.load hfixed k)
  exact wp_mono (wp_of_bind hget) fun row st' s' hrow => hrow st' fun _ _ hn => hn

/-- A `SELECT`, of tables that are as they were. -/
lemma query {q : Db → β} {Q : β → Prop}
    (h : ∀ v, (∀ k, ¬ notificationRows k → v.lookup k = st₀.lookup k) → Q (q v)) :
    Gives st₀ job (Prog.query q) Q := by
  intro told st s hs st' hf c busy b s' he _
  cases he
  obtain ⟨hs', hfixed⟩ := hs.finds hf
  exact pure (h _ fun k hk => hs'.lookup_view hfixed hk) told st' s hs'

end Gives

/-! #### Recipients -/

/-- The users of an arranged query. -/
lemma mem_arrange_users {v : Db} (hv : ∀ k, ¬ notificationRows k → v.lookup k = st₀.lookup k)
    (rows : Arrangement UUID) (f : UUID × User → Bool) (r : UUID) :
    r ∈ rows.arrange (((Db.users v).filter f).map Prod.fst)
      ↔ ∃ user, Db.user st₀ r = some user ∧ f (r, user) = true := by
  rw [(rows.perm _).mem_iff, List.mem_map]
  constructor
  · rintro ⟨⟨id, user⟩, hmem, rfl⟩
    obtain ⟨hmem, hf⟩ := List.mem_filter.mp hmem
    exact ⟨user, (hv (.user id) (by simp [notificationRows])).symm.trans (mem_users.mp hmem), hf⟩
  · rintro ⟨user, huser, hf⟩
    have hmem : (r, user) ∈ Db.users v :=
      mem_users.mpr ((hv (.user r) (by simp [notificationRows])).trans huser)
    exact ⟨(r, user), List.mem_filter.mpr ⟨hmem, hf⟩, rfl⟩

lemma gives_sellerUserId (hone : OneUserPerSeller st₀) (rows : Arrangement UUID) (sellerId : UUID) :
    Gives st₀ job (sellerUserId rows sellerId) fun userId =>
      ∀ r, r ∈ userId.toList ↔ IsSellerUser st₀ sellerId r := by
  refine Gives.query fun v hv r => ?_
  have hmem := mem_arrange_users hv rows fun user => user.2.sellerId == some sellerId
  simp only [beq_iff_eq] at hmem
  rw [Option.mem_toList]
  constructor
  · exact fun hr => (hmem r).mp (List.mem_of_mem_head? hr)
  · intro hr
    have hne := List.ne_nil_of_mem ((hmem r).mpr hr)
    have hfirst := (hmem _).mp (List.head_mem hne)
    rw [hone sellerId r _ hr hfirst]
    exact List.head?_eq_some_head hne

lemma gives_opsUserIds (rows : Arrangement UUID) : Gives st₀ job (opsUserIds rows) fun ops =>
    ∀ r, r ∈ ops ↔ ∃ user, Db.user st₀ r = some user ∧ user.role = .ops := by
  refine Gives.query fun v hv r => ?_
  have hmem := mem_arrange_users hv rows fun user => user.2.role == .ops
  simpa only [beq_iff_eq] using hmem r

lemma gives_loadNotifiedItem : Gives st₀ job
    (loadNotifiedItem job.entityType job.entityId) fun item =>
    item = notifiedItem st₀ job := by
  unfold loadNotifiedItem notifiedItem
  by_cases hitem : job.entityType = entityOrderItem
  · rw [if_pos hitem, if_pos hitem]
    exact Gives.get (by simp [notificationRows])
  · rw [if_neg hitem, if_neg hitem]
    by_cases hconversation : job.entityType = entityConversation
    · rw [if_neg (not_not_intro hconversation), if_pos hconversation]
      refine Gives.bind (Gives.get (by simp [notificationRows])) fun conversation hc => ?_
      subst hc
      rw [Db.conversation]
      cases st₀.lookup (.conversation job.entityId) with
      | none => exact Gives.pure rfl
      | some conversation => exact Gives.get (by simp [notificationRows])
    · rw [if_pos hconversation, if_neg hconversation]
      exact Gives.pure rfl

lemma gives_sellerAndOpsForItem (hone : OneUserPerSeller st₀) (rows : Arrangement UUID)
    (item : OrderItem) : Gives st₀ job (sellerAndOpsForItem rows item) fun recipients =>
      ∀ r, r ∈ recipients ↔
        (∃ offer, Db.offer st₀ item.offerId = some offer ∧ IsSellerUser st₀ offer.sellerId r)
          ∨ ∃ user, Db.user st₀ r = some user ∧ user.role = .ops := by
  refine Gives.bind (Gives.get (by simp [notificationRows])) fun offer hoffer => ?_
  have hops : ∀ userId : Option UUID, (∀ r, r ∈ userId.toList ↔
      ∃ offer, Db.offer st₀ item.offerId = some offer ∧ IsSellerUser st₀ offer.sellerId r) →
      Gives st₀ job ((opsUserIds rows).bind fun ops => .pure (userId.toList ++ ops))
        fun recipients =>
        ∀ r, r ∈ recipients ↔
          (∃ offer, Db.offer st₀ item.offerId = some offer ∧ IsSellerUser st₀ offer.sellerId r)
            ∨ ∃ user, Db.user st₀ r = some user ∧ user.role = .ops := by
    intro userId huserId
    refine Gives.bind (gives_opsUserIds rows) fun ops hops => Gives.pure fun r => ?_
    rw [List.mem_append, huserId, hops]
  subst hoffer
  cases hoffer : st₀.lookup (.offer item.offerId) with
  | none => exact hops none fun r => by simp [Db.offer, hoffer]
  | some offer =>
      refine Gives.bind (gives_sellerUserId hone rows offer.sellerId) fun userId huserId => ?_
      exact hops userId fun r => by simp [huserId r, Db.offer, hoffer]

lemma gives_buyerAndSellerForItem (hone : OneUserPerSeller st₀) (rows : Arrangement UUID)
    (item : OrderItem) : Gives st₀ job (buyerAndSellerForItem rows item) fun recipients =>
      ∀ r, r ∈ recipients ↔ ∃ order offer, Db.order st₀ item.orderId = some order
        ∧ Db.offer st₀ item.offerId = some offer
        ∧ (r = order.buyerId ∨ IsSellerUser st₀ offer.sellerId r) := by
  refine Gives.bind (Gives.get (by simp [notificationRows])) fun order horder => ?_
  refine Gives.bind (Gives.get (by simp [notificationRows])) fun offer hoffer => ?_
  subst horder hoffer
  cases horder : st₀.lookup (.order item.orderId) with
  | none => exact Gives.pure fun r => by simp [Db.order, horder]
  | some order =>
      cases hoffer : st₀.lookup (.offer item.offerId) with
      | none => exact Gives.pure fun r => by simp [Db.offer, hoffer]
      | some offer =>
          refine Gives.bind (gives_sellerUserId hone rows offer.sellerId) fun userId huserId => ?_
          exact Gives.pure fun r => by
            simp [Db.order, horder, Db.offer, hoffer, ← huserId r]

/-- **The recipients of a job.** -/
lemma gives_resolveRecipients (hone : OneUserPerSeller st₀) (rows : Arrangement UUID) :
    Gives st₀ job (resolveRecipients rows job) fun recipients =>
      ∀ r, r ∈ recipients ↔ IsRecipient st₀ job r := by
  refine Gives.bind gives_loadNotifiedItem fun item hitem => ?_
  subst hitem
  cases hitem : notifiedItem st₀ job with
  | none => exact Gives.pure fun r => by simp [IsRecipient, hitem]
  | some item =>
      simp only [IsRecipient, hitem, Option.some.injEq, exists_eq_left']
      split_ifs
      · exact gives_sellerAndOpsForItem hone rows item
      · exact gives_buyerAndSellerForItem hone rows item

/-- An e-mail tells nobody in the application. -/
lemma gives_deliverEmail (hone : OneUserPerSeller st₀) (rows : Arrangement UUID)
    (extra title message : String) :
    Gives st₀ job (deliverEmail rows extra job title message) fun _ => True := by
  have hend : ∀ sellerEmail : Option String,
      Gives st₀ job (if mergeEmailRecipients sellerEmail extra = [] then .pure none
        else .pure (some ⟨mergeEmailRecipients sellerEmail extra, title, message, job.entityId,
          job.newStatus⟩)) fun _ : Option EmailAlert => True := by
    intro sellerEmail
    split_ifs <;> exact Gives.pure trivial
  have hemail : ∀ item, Gives st₀ job (sellerEmailForItem rows item) fun _ => True := by
    intro item
    refine Gives.bind (Gives.get (by simp [notificationRows])) fun offer _ => ?_
    cases offer with
    | none => exact Gives.pure trivial
    | some offer =>
        refine Gives.bind (gives_sellerUserId hone rows offer.sellerId) fun userId _ => ?_
        cases userId with
        | none => exact Gives.pure trivial
        | some userId =>
            exact Gives.bind (Gives.get (by simp [notificationRows])) fun user _ =>
              Gives.pure trivial
  unfold deliverEmail
  split_ifs
  · exact Gives.pure trivial
  · refine Gives.bind gives_loadNotifiedItem fun item _ => ?_
    cases item with
    | none => exact hend none
    | some item => exact Gives.bind (hemail item) fun sellerEmail _ => hend sellerEmail

/-! #### Rows -/

/-- **One recipient is told**, now or before. -/
lemma wp_sendNotification (hs : Sending st₀ job told st s) (title message : String) {r : UUID}
    (hto : IsRecipient st₀ job r) : wp (jobOutline st₀ job) (sendNotification job title message r)
      (fun _ st s => Sending st₀ job (fun r' => told r' ∨ r' = r) st s) st s := by
  refine wp_uuid4 fun st₁ id hf₁ => ?_
  obtain ⟨hs₁, -⟩ := hs.finds hf₁
  refine wp_utcnow fun st₂ c hf₂ _ => ?_
  obtain ⟨hs₂, -⟩ := hs₁.finds hf₂
  intro st₃ hf₃ c' busy b s' he hfresh
  obtain ⟨hs₃, -⟩ := hs₂.finds hf₃
  have hnone : (s.view st₃).lookup (.notification id) = none := Option.isNone_iff_eq_none.mp hfresh
  intro st₄ hgrows
  rcases eval_insertNested he with ⟨-, rfl, hclash⟩ | ⟨-, -, -, rfl⟩
  · exact (hs₃.told_of_clash hnone hclash rfl).grows hgrows
  · exact (hs₃.insert (n := job.notification title message r c.now) hnone rfl hto).grows hgrows

/-- The recipients are told one after the other. -/
lemma wp_sendEach (title message : String) {recipients : List UUID}
    (hto : ∀ r ∈ recipients, IsRecipient st₀ job r) (hs : Sending st₀ job told st s) :
    wp (jobOutline st₀ job) (sendEach job title message recipients)
      (fun _ st s => Sending st₀ job (fun r => told r ∨ r ∈ recipients) st s) st s := by
  induction recipients generalizing told st s with
  | nil =>
      intro st' hgrows
      simpa using hs.grows hgrows
  | cons r recipients ih =>
      refine wp_bind (wp_mono (wp_sendNotification hs title message (hto r List.mem_cons_self))
        fun _ st' s' hs' => ?_)
      refine wp_mono (ih (fun r' hr' => hto r' (List.mem_cons_of_mem _ hr')) hs') fun _ st s h => ?_
      simpa only [List.mem_cons, or_assoc] using h

/-- A handler that has told everyone commits. -/
lemma wp_handleNotifyStatusChange (hone : OneUserPerSeller st₀) (rows : Arrangement UUID)
    (extra : String) : wp (jobOutline st₀ job)
      (handleNotifyStatusChange rows extra job) (fun _ _ _ => True) st ∅ := by
  have hrequire : ∀ key value (f : Unit → Txn (Option EmailAlert)) st s Q,
      wp (jobOutline st₀ job) (f ()) Q st s →
      wp (jobOutline st₀ job) ((requireStr key value).bind f) Q st s := by
    intro key value f st s Q h
    unfold requireStr
    split_ifs
    · trivial
    · exact h
  have hsend : ∀ st s, Sending st₀ job (fun _ => False) st s → ∀ title message,
      wp (jobOutline st₀ job) ((resolveRecipients rows job).bind fun recipients =>
          (sendEach job title message recipients).bind fun _ =>
            deliverEmail rows extra job title message)
        (fun _ st s => Sending st₀ job (IsRecipient st₀ job) st s) st s := by
    intro st s hs title message
    refine wp_bind (wp_mono (gives_resolveRecipients hone rows _ st s hs)
      fun recipients st₁ s₁ h₁ => ?_)
    obtain ⟨hmem, hs₁⟩ := h₁
    refine wp_bind (wp_mono (wp_sendEach title message (fun r hr => (hmem r).mp hr) hs₁)
      fun _ st₂ s₂ hs₂ => ?_)
    refine wp_mono (gives_deliverEmail hone rows extra title message _ st₂ s₂ hs₂)
      fun _ st s h => ?_
    simpa only [hmem, false_or] using h.2
  have hprocess : wp (jobOutline st₀ job) (processNotifyJob rows extra job)
      (fun _ st s => Sending st₀ job (IsRecipient st₀ job) st s) st ∅ := by
    refine hrequire _ _ _ _ _ _ (hrequire _ _ _ _ _ _
      (hrequire _ _ _ _ _ _ (hrequire _ _ _ _ _ _ ?_)))
    cases buildCopy job.notificationType job.previousStatus job.newStatus with
    | none => trivial
    | some copy => exact hsend st ∅ (.empty st₀ job st) copy.1 copy.2
  refine wp_bind (wp_mono hprocess fun _ st s hs => ?_)
  refine wp_flush (fun st s => Sending st₀ job (IsRecipient st₀ job) st s)
    (fun st st' s hs hf => (hs.finds hf).1)
    (fun st s k ob r hs _ hob hsend => absurd (hs.clean k ob hob) hsend.loaded_ne) hs
    fun st s hs _ st' hf => ⟨⟨hs.adds, fun r hr => ?_⟩, fun _ _ => trivial⟩
  exact (hs.finds hf).1.told r hr

/-! #### Its shape -/

/-- A program that reads, inserts in savepoints, and does not commit. -/
def Telling (p : Txn α) : Prop := p.AllOps Op.opens ∧ p.Uncommitted

namespace Telling

lemma pure (a : α) : Telling (.pure a) := ⟨trivial, trivial⟩

lemma throw (e : DomainError) : Telling (Prog.throw e : Txn α) := ⟨trivial, trivial⟩

lemma bind {p : Txn β} {f : β → Txn α} (hp : Telling p) (hf : ∀ b, Telling (f b)) :
    Telling (p.bind f) :=
  ⟨hp.1.bind fun b => (hf b).1, hp.2.bind fun b => (hf b).2⟩

lemma get (k : Key) : Telling (Prog.get k) := by
  refine ⟨Prog.allOps_get trivial trivial, fun row => ?_⟩
  dsimp only
  split
  · trivial
  · exact Prog.uncommitted_scalar _ _

lemma query (q : Db → β) : Telling (Prog.query q) := ⟨⟨trivial, fun _ => trivial⟩, fun _ => trivial⟩

lemma requireStr (key value : String) : Telling (requireStr key value) := by
  unfold MarketHub.requireStr
  split_ifs
  · exact throw _
  · exact pure _

lemma loadNotifiedItem (entityType : String) (entityId : UUID) :
    Telling (loadNotifiedItem entityType entityId) := by
  unfold MarketHub.loadNotifiedItem
  split
  · exact get _
  · split
    · exact pure _
    · refine bind (get _) fun conversation => ?_
      cases conversation with
      | none => exact pure _
      | some conversation => exact get _

lemma resolveRecipients (rows : Arrangement UUID) (job : NotifyJob) :
    Telling (resolveRecipients rows job) := by
  refine bind (loadNotifiedItem _ _) fun item => ?_
  cases item with
  | none => exact pure _
  | some item =>
      dsimp only
      split_ifs
      · refine bind (get _) fun offer => ?_
        cases offer with
        | none => exact bind (pure _) fun _ => bind (query _) fun _ => pure _
        | some offer => exact bind (query _) fun _ => bind (query _) fun _ => pure _
      · refine bind (get _) fun order => bind (get _) fun offer => ?_
        cases order with
        | none => exact pure _
        | some order =>
            cases offer with
            | none => exact pure _
            | some offer => exact bind (query _) fun _ => pure _

lemma sendEach (job : NotifyJob) (title message : String) (recipients : List UUID) :
    Telling (sendEach job title message recipients) := by
  induction recipients with
  | nil => exact pure _
  | cons r recipients ih =>
      have hsend : Telling (sendNotification job title message r) :=
        ⟨⟨trivial, fun _ => ⟨trivial, fun _ => ⟨trivial, fun _ => trivial⟩⟩⟩, fun _ _ _ => trivial⟩
      exact bind hsend fun _ => ih

lemma deliverEmail (rows : Arrangement UUID) (extra : String) (job : NotifyJob)
    (title message : String) : Telling (deliverEmail rows extra job title message) := by
  unfold MarketHub.deliverEmail
  split_ifs
  · exact pure _
  · have hend : ∀ sellerEmail, Telling
        (if mergeEmailRecipients sellerEmail extra = [] then .pure none
        else .pure (some ⟨mergeEmailRecipients sellerEmail extra, title, message, job.entityId,
          job.newStatus⟩) : Txn (Option EmailAlert)) := by
      intro sellerEmail
      split_ifs <;> exact pure _
    refine bind (loadNotifiedItem _ _) fun item => ?_
    cases item with
    | none => exact hend none
    | some item =>
        refine bind (bind (get _) fun offer => ?_) hend
        cases offer with
        | none => exact pure _
        | some offer =>
            refine bind (query _) fun userId => ?_
            cases userId with
            | none => exact pure _
            | some userId => exact bind (get _) fun user => pure _

lemma processNotifyJob (rows : Arrangement UUID) (extra : String) (job : NotifyJob) :
    Telling (processNotifyJob rows extra job) := by
  refine bind (requireStr _ _) fun _ => bind (requireStr _ _) fun _ =>
    bind (requireStr _ _) fun _ =>
    bind (requireStr _ _) fun _ => ?_
  cases buildCopy job.notificationType job.previousStatus job.newStatus with
  | none => exact throw _
  | some copy =>
      exact bind (resolveRecipients rows job) fun recipients =>
        bind (sendEach job _ _ recipients) fun _ => deliverEmail rows extra job _ _

end Telling

lemma opens_handleNotifyStatusChange (rows : Arrangement UUID) (extra : String) (job : NotifyJob) :
    (handleNotifyStatusChange rows extra job).AllOps Op.opens :=
  (Telling.processNotifyJob rows extra job).1.bind fun _ =>
    (Prog.allOps_flush trivial fun _ => trivial).bind fun _ => trivial

lemma commitsLast_handleNotifyStatusChange (rows : Arrangement UUID) (extra : String)
    (job : NotifyJob) : (handleNotifyStatusChange rows extra job).CommitsLast :=
  (Telling.processNotifyJob rows extra job).2.commitsLast fun _ =>
    Prog.uncommitted_flush.commitsLast fun _ => ⟨(), rfl⟩

end Programs

end MarketHub
