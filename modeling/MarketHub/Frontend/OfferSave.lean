import MarketHub.Frontend.OfferEditor
import MarketHub.Orders.Stock

/-!
Saving the offer editor while stock moves.

A save carries the stock the editor was opened with, and the handler sends the column
when it differs from what it reads itself.

* `Saved` is what the transaction of a save has reached when it commits.
* `wp_save` shows that it reaches it, under any interference.
* `save_keeps_account_iff`: the account of the offer is undisturbed exactly when the
  handler's read, or the row its `UPDATE` writes over, still has the loaded stock.
* `save_loses_sale`: a sale between the load and the save is undone by the save.
-/

namespace MarketHub

open ReadCommitted Session

/-! ### Requests -/

/-- The requests around an offer: order requests, an editor that loads the offer, and
the save of an editor. -/
inductive ShopRequest where
  | order (r : OrderRequest)
  | load (offerId : UUID)
  | save (offerId : UUID) (body : OfferUpdate) (seller : CurrentUser)

/-- The transaction of a request, with the offer it answers. -/
def ShopRequest.run : ShopRequest → Txn (Option OfferResponse)
  | .order r => do
      r.run
      return none
  | .load offerId => Prog.transaction do return some (← getOffer offerId)
  | .save offerId body seller =>
      Prog.transaction do return some (← updateOffer offerId body seller)

/-- The programs of these requests. -/
def IsShopRequest (p : Txn (Option OfferResponse)) : Prop := ∃ r : ShopRequest, p = r.run

/-- The account of an offer: its stock plus the quantities its items hold. -/
def account (offerId : UUID) (s : Sys Row Event DomainError (Option OfferResponse)) : ℤ :=
  stockOf offerId s.committed + heldQuantity offerId s.log s.committed

/-! ### What a save reaches -/

/-- What the transaction of a save that carries the stock `stock` has reached when it
commits: it holds at most the offer, and when it has written the stock, it wrote
`stock`; it has not exactly when the handler had read `stock`. -/
structure Saved (offerId : UUID) (stock : ℤ) (s : AppSession) : Prop where
  pending : s.pending = []
  only : ∀ k h, s.held.lookup k = some h → k = .offer offerId
  read : ∃ r : Offer, Db.offer s.seen offerId = some r
    ∧ (s.held.lookup (.offer offerId) = none → r.stock = stock)
    ∧ ∀ h, s.held.lookup (.offer offerId) = some h → ∃ b c : Offer, h.base = some b
      ∧ h.cur = some c ∧ c.stock = if r.stock = stock then b.stock else stock

/-- The outline of a development that assumes nothing. -/
def anyOutline : Outline Row Event := {}

lemma anyOutline_sound : anyOutline.Sound where
  keeps _ _ _ _ _ _ := trivial
  relied _ _ _ _ _ _ _ _ _ := trivial

/-- A session of a save before and after its offer is sent. -/
structure Saving (offerId : UUID) (read updated : Offer) (s : AppSession) : Prop where
  pending : s.pending = []
  only : ∀ k h, s.held.lookup k = some h → k = .offer offerId
  objects : ∀ k o, s.objects.lookup k = some o → o.loaded ≠ some o.cur → k = .offer offerId
  seen : Db.offer s.seen offerId = some read
  sent : (s.held.lookup (.offer offerId) = none
      ∧ s.objects.lookup (.offer offerId) = some ⟨some read, updated⟩)
    ∨ ((∀ o, s.objects.lookup (.offer offerId) = some o → o.loaded = some o.cur)
      ∧ ∃ b : Offer, s.held.lookup (.offer offerId)
        = some ⟨some b, some (Offer.patch read updated b)⟩)

section Save

variable {offerId : UUID} {read updated : Offer} {stock : ℤ} {s : AppSession} {st : Db}
  {α : Type} {post : α → Db → AppSession → Prop} {o : Outline Row Event}

/-- Sending the offer. -/
lemma Saving.sends (h : Saving offerId read updated s) {k : Key} {ob : Obj Row k} {r : Row k}
    (hob : s.objects.lookup k = some ob) (hsend : Sends (s.view st) k ob r) :
    Saving offerId read updated ((s.write st k (some r)).sync k ob.cur) := by
  obtain rfl := h.objects k ob hob hsend.loaded_ne
  rcases h.sent with ⟨hnone, hobj⟩ | ⟨hclean, -⟩
  · obtain rfl : ob = ⟨some read, updated⟩ := Option.some.inj (hob.symm.trans hobj)
    cases hsend with
    | insert hnew _ => cases hnew
    | @update old b hold hdiff hb =>
        cases hold
        rw [lookup_view, hnone] at hb
        refine ⟨h.pending, fun k' hd hk' => ?_, fun k' o' ho' hne' => ?_, h.seen,
          Or.inr ⟨?_, b, ?_⟩⟩
        · by_cases hkk : k' = .offer offerId
          · exact hkk
          · rw [sync_held, lookup_write_ne _ _ _ hkk] at hk'
            exact h.only k' hd hk'
        · rcases lookup_sync_cases ho' with hclean | ⟨-, hold'⟩
          · exact absurd hclean hne'
          · exact h.objects k' o' hold' hne'
        · intro o' ho'
          rw [lookup_sync_self] at ho'
          cases ho'
          rfl
        · rw [sync_held, lookup_write_self, hnone]
          exact congrArg (fun x => some (Held.mk x _)) hb
  · exact absurd (hclean ob hob) hsend.loaded_ne

/-- What is left of a save after its flush. -/
lemma Saving.saved (h : Saving offerId read updated s) (hclean : s.Clean)
    (hstock : updated.stock = stock) : Saved offerId stock s where
  pending := h.pending
  only := h.only
  read := by
    refine ⟨read, h.seen, fun hnone => ?_, fun hd hk => ?_⟩
    · rcases h.sent with ⟨-, hobj⟩ | ⟨-, b, hb⟩
      · have hsame : some read = some updated := hclean _ _ hobj
        rw [← hstock, Option.some.inj hsame]
      · rw [hnone] at hb
        cases hb
    · rcases h.sent with ⟨hnone, -⟩ | ⟨-, b, hb⟩
      · rw [hnone] at hk
        cases hk
      · rw [hb] at hk
        cases hk
        refine ⟨b, _, rfl, rfl, ?_⟩
        show column read.stock updated.stock b.stock = _
        rw [column, hstock]

/-- Reading the name of the store leaves a save as it is. -/
lemma wp_sellerForOffer {offer : Offer} {f : Seller → Txn α} (hs : Saved offerId stock s)
    (hclean : s.Clean)
    (h : ∀ st' s' seller, Saved offerId stock s' → s'.Clean → wp o (f seller) post st' s') :
    wp o ((sellerForOffer offer).bind f) post st s := by
  rw [sellerForOffer, Prog.bind_eq, Prog.bind_assoc]
  refine wp_get (fun _ _ _ _ => trivial) (fun st' ob _ _ => h st' s ob.cur hs hclean)
    fun st' r _ _ _ => h st' _ r ⟨?_, ?_, ?_⟩ (hclean.load _)
  · rw [load_pending, hs.pending]
  · rw [load_held]
    exact hs.only
  · rw [load_held, Db.offer, lookup_seen_load_ne _ _ _ (by simp)]
    exact hs.read

/-- **A save reaches its commit with the stock the editor carries.** -/
theorem wp_save (price : Price) (stock : ℕ) (available : Bool) (seller : CurrentUser) :
    wp (anyOutline.at fun _ s => Saved offerId stock s)
      (ShopRequest.save offerId
        ⟨some (some price), some (some stock), some (some available)⟩ seller).run
      (fun _ _ _ => True) st ∅ := by
  simp only [ShopRequest.run, Prog.transaction, updateOffer, Prog.bind_eq, Prog.pure_eq,
    Prog.bind_assoc]
  refine wp_requireSeller fun sellerId _ => wp_get (fun _ _ _ _ => trivial)
    (fun _ ob _ hob => by cases hob) fun st₁ (read : Offer) _ _ hread => ?_
  rw [requireOwnedOffer]
  split
  · refine wp_assign fun st₂ ob _ hob => ?_
    have hload : (∅ : AppSession).load ((∅ : AppSession).view st₁) (.offer offerId)
        = { (∅ : AppSession) with
            objects := (∅ : AList (Obj Row)).insert (.offer offerId) ⟨some read, read⟩
            seen := (∅ : Db).insert (.offer offerId) read } := by
      rw [Session.load, hread]
      rfl
    rw [hload] at hob ⊢
    rw [AList.lookup_insert] at hob
    cases hob
    let updated : Offer :=
      { read with price := price.decimal, stock := stock, available := available }
    refine wp_flush (fun _ s => Saving offerId read updated s) (fun _ _ _ hs _ => hs)
      (fun _ _ _ _ _ hs _ hob hsend => hs.sends hob hsend) ?_ fun st₃ s₃ hs₃ hclean₃ => ?_
    · refine ⟨rfl, fun k hd hk => (by cases hk), fun k o ho _ => ?_, AList.lookup_insert _,
        Or.inl ⟨rfl, AList.lookup_insert _⟩⟩
      by_contra hne
      rw [AList.lookup_insert_ne hne, AList.lookup_insert_ne hne] at ho
      cases ho
    · -- no field is null
      change wp _ ((Prog.bind (sellerForOffer _) _).bind _) _ _ _
      rw [Prog.bind_assoc]
      refine wp_sellerForOffer (hs₃.saved hclean₃ rfl) hclean₃ fun st₄ s₄ _ hs₄ hclean₄ => ?_
      exact wp_transaction_clean hclean₄ fun _ _ => ⟨hs₄, fun _ _ => trivial⟩
  · trivial

end Save

/-! ### The account around a save -/

/-- A commit that holds nothing but the offer moves its account by what it does to the
stock. -/
lemma Saved.account_commit {offerId : UUID} {stock : ℤ} {t : ℕ}
    {s : Sys Row Event DomainError (Option OfferResponse)}
    {th : Thread Row Event DomainError (Option OfferResponse)} {k : Txn (Option OfferResponse)}
    (h : Saved offerId stock th.session) (hag : Agrees th.session.held s.committed) :
    account offerId (s.commitThread t th k)
      = account offerId s + weigh (gain (stockWeight offerId) (stockWeight offerId))
        (.offer offerId)
          (th.session.held.lookup (.offer offerId)) := by
  have hstock := total_merge (w := stockWeight offerId) hag fun _ _ _ _ => rfl
  have hlost := total_merge (w := lostWeight offerId s.log) hag fun _ _ _ _ => rfl
  have hzero : drift (lostWeight offerId s.log) (lostWeight offerId s.log) th.session.held = 0 := by
    refine total_eq_zero fun k hd hk => ?_
    obtain rfl := h.only k hd hk
    obtain ⟨base, cur⟩ := hd
    cases base <;> cases cur <;> rfl
  have hdrift : drift (stockWeight offerId) (stockWeight offerId) th.session.held
      = weigh (gain (stockWeight offerId) (stockWeight offerId)) (.offer offerId)
          (th.session.held.lookup (.offer offerId)) :=
    total_eq_weigh fun k hd hne hk => absurd (h.only k hd hk) hne
  have hbefore := account_eq offerId s.log s.committed
  have hafter := account_eq offerId s.log (merge s.committed th.session.held)
  rw [account, account, Sys.commitThread, h.pending, List.append_nil]
  simp only
  omega

/-- What is known of a save that is about to commit. -/
lemma saved_of_reachable {st₀ : Db} {s : Sys Row Event DomainError (Option OfferResponse)}
    {offerId : UUID} {price : Price} {stock : ℕ} {available : Bool} {seller : CurrentUser} {t : ℕ}
    {th : Thread Row Event DomainError (Option OfferResponse)} {k : Txn (Option OfferResponse)}
    (h : Reachable IsShopRequest (fun _ _ => True) (Sys.rest st₀) s)
    (hth : s.threads.lookup t = some th)
    (horigin : th.origin = (ShopRequest.save offerId
      ⟨some (some price), some (some stock), some (some available)⟩ seller).run)
    (hcommit : th.prog = .commit k) :
    Agrees th.session.held s.committed ∧ Saved offerId stock th.session := by
  -- only the commits of this very save are asked for something
  let C : Txn (Option OfferResponse) → Db → AppSession → Prop := fun p _ se =>
    p = (ShopRequest.save offerId
      ⟨some (some price), some (some stock), some (some available)⟩ seller).run →
      Saved offerId stock se
  have hprog : ∀ p, IsShopRequest p → ∀ st log, anyOutline.inv st log →
      wp (anyOutline.at (C p)) p (fun _ _ _ => True) st ∅ := by
    intro p _ st _ _
    by_cases hp : p = (ShopRequest.save offerId
      ⟨some (some price), some (some stock), some (some available)⟩ seller).run
    · subst hp
      exact wp_commit_mono (fun _ _ hs _ => hs) (wp_save price stock available seller)
    · exact wp_of_forall (fun _ _ hp' => absurd hp' hp) fun _ _ _ => trivial
  obtain ⟨hok, hbound⟩ := h.bound anyOutline_sound trivial (fun _ _ _ _ _ => trivial) hprog
    fun _ _ _ _ _ _ _ _ _ _ => trivial
  exact ⟨hok.agrees t th hth, commit_of_bound hok hth hcommit (hbound t th hth).2 horigin⟩

/-- **When a save leaves the account of its offer alone.** In every interleaving of order
requests, editors that load offers and editors that save them: when the save of an
editor whose stock field was not touched commits, the account of its offer stays as it is
if and only if the handler had read the loaded stock, or its `UPDATE` writes over a row
that has it. The loaded stock is that of an `INTEGER` column, and the body is sent with the
price that the service has made of its text. -/
theorem save_keeps_account_iff {js : NumberBuiltins} (hjs : js.ReadsIntegers) {st₀ : Db}
    {s : Sys Row Event DomainError (Option OfferResponse)} {loaded : OfferResponse}
    (hinteger : -2147483648 ≤ loaded.stock ∧ loaded.stock < 2147483648) {edits : List OfferEdit}
    {body : OfferBody} {price : Price} {seller : CurrentUser} {t : ℕ}
    {th : Thread Row Event DomainError (Option OfferResponse)} {k : Txn (Option OfferResponse)}
    (hbody : (edits.foldl OfferEditor.edit (OfferEditor.opened loaded)).handleSaveOffer js
      = .ok body)
    (h : Reachable IsShopRequest (fun _ _ => True) (Sys.rest st₀) s)
    (hth : s.threads.lookup t = some th)
    (horigin : th.origin = (ShopRequest.save loaded.id (body.update price) seller).run)
    (hcommit : th.prog = .commit k) :
    account loaded.id (s.commitThread t th k) = account loaded.id s
      ↔ (∃ r : Offer, Db.offer th.session.seen loaded.id = some r ∧ r.stock = loaded.stock)
        ∨ ∃ r : Offer, Db.offer s.committed loaded.id = some r ∧ r.stock = loaded.stock := by
  have hstock : (body.stock : ℤ) = loaded.stock := handleSaveOffer_stock hjs hinteger hbody
  obtain ⟨hag, hsaved⟩ := saved_of_reachable h hth horigin hcommit
  rw [hsaved.account_commit hag, ← hstock, add_eq_left]
  obtain ⟨r, hr, hunsent, hsent⟩ := hsaved.read
  cases hheld : th.session.held.lookup (.offer loaded.id) with
  | none =>
      simp only [weigh_none, true_iff]
      exact Or.inl ⟨r, hr, hunsent hheld⟩
  | some hd =>
      obtain ⟨b, c, hb, hc, hcs⟩ := hsent hd hheld
      have hbase : Db.offer s.committed loaded.id = some b := (hag _ hd hheld).trans hb
      have hgain : weigh (gain (stockWeight loaded.id) (stockWeight loaded.id)) (.offer loaded.id)
          (some hd) = c.stock - b.stock := by
        simp [gain, stockWeight, hb, hc]
      rw [hgain, hr, hbase, hcs]
      simp only [Option.some.injEq, exists_eq_left']
      by_cases hread : r.stock = (body.stock : ℤ)
      · simp [hread]
      · simp only [hread, if_false, false_or]
        omega

/-! ### A sale between the load and the save -/

/-- The seller of the mugs. -/
def mugSeller : CurrentUser := ⟨8, .seller, some 1⟩

/-- What the editor loads of the mugs. -/
def mugResponse : OfferResponse := ⟨3, 2, 1, "Loja", "10.00", 5, true⟩

/-- The price 12.00. -/
def twelve : Price := ⟨[1, 2], 0, 0, by decide⟩

/-- The save of an editor whose price was changed to 12,00. -/
def mugBody : OfferBody := ⟨Python.text twelve.text, 5, true⟩

/-- The editor loads the offer and a sale of two mugs commits; then the save begins. -/
def soldRun : List (Action Row Event DomainError (Option OfferResponse)) :=
  [.start 0 (ShopRequest.load 3).run] ++ Action.steps 0 9 10
  ++ [.start 1 (ShopRequest.order (.createOrder (mugCheckout 2 one_le_two_mugs) mugBuyer)).run]
  ++ Action.steps 1 25 100 ++ [.start 2 (ShopRequest.save 3 (mugBody.update twelve) mugSeller).run]

/-- What can be seen of a thread: its answer, if it has ended, and the account of an
offer before and after its commit, if that is next. -/
def observe (t : ℕ) (offerId : UUID) (s : Sys Row Event DomainError (Option OfferResponse)) :
    Option OfferResponse × Option (ℤ × ℤ) :=
  match s.threads.lookup t with
  | none => (none, none)
  | some th =>
      match th.prog with
      | .pure r => (r, none)
      | .commit k => (none, some (account offerId s, account offerId (s.commitThread t th k)))
      | _ => (none, none)

lemma mugBody_eq : (([.setPrice (Python.text "12,00")] : List OfferEdit).foldl OfferEditor.edit
    (OfferEditor.opened mugResponse)).handleSaveOffer decimalLiterals = .ok mugBody := by
  decide +kernel

lemma soldRun_starts : ∀ a ∈ soldRun, a.Starts IsShopRequest := by
  intro a ha
  simp only [soldRun, List.mem_append, List.mem_singleton] at ha
  rcases ha with (((rfl | h) | rfl) | h) | rfl
  · exact ⟨_, rfl⟩
  · exact Action.starts_of_mem_steps h
  · exact ⟨_, rfl⟩
  · exact Action.starts_of_mem_steps h
  · exact ⟨_, rfl⟩

/-- The run up to the commit of the save. -/
lemma soldRun_commit : ∃ s th k, Reachable IsShopRequest (fun _ _ => True) (Sys.rest mugShop) s
    ∧ (observe 0 3 s).1 = some mugResponse ∧ s.threads.lookup 2 = some th
    ∧ th.origin = (ShopRequest.save mugResponse.id (mugBody.update twelve) mugSeller).run
    ∧ th.prog = .commit k ∧ account 3 s = 5 ∧ account 3 (s.commitThread 2 th k) = 7 := by
  have hrun : ((Sys.run (soldRun ++ Action.steps 2 10 200) (Sys.rest mugShop)).map
      fun s => ((observe 0 3 s).1, (observe 2 3 s).2)) = some (some mugResponse, some (5, 7)) := by
    decide +kernel
  obtain ⟨s, hs, hobs⟩ := Option.map_eq_some_iff.mp hrun
  obtain ⟨hanswer, haround⟩ := Prod.mk.inj hobs
  have hreach : Reachable IsShopRequest (fun _ _ => True) (Sys.rest mugShop) s :=
    reachable_of_run (fun _ _ => trivial) .init (fun a ha => (List.mem_append.mp ha).elim
      (soldRun_starts a) Action.starts_of_mem_steps) hs
  rw [observe] at haround
  split at haround
  · cases haround
  · rename_i th hth
    split at haround
    · cases haround
    · rename_i k hk
      obtain ⟨hbefore, hafter⟩ := Prod.mk.inj (Option.some.inj haround)
      refine ⟨s, th, k, hreach, hanswer, hth, ?_, hk, hbefore, hafter⟩
      rw [soldRun, List.append_assoc] at hs
      obtain ⟨th', hth', horigin⟩ := Sys.origin_of_start hs
      rw [hth] at hth'
      cases hth'
      exact horigin
    · cases haround

/-- The save of the run is one that the condition excludes. -/
theorem save_keeps_account_iff_sold : ∃ s th k, s.threads.lookup 2 = some th
    ∧ th.prog = .commit k
    ∧ (account 3 (s.commitThread 2 th k) = account 3 s
      ↔ (∃ r : Offer, Db.offer th.session.seen 3 = some r ∧ r.stock = 5)
        ∨ ∃ r : Offer, Db.offer s.committed 3 = some r ∧ r.stock = 5) := by
  obtain ⟨s, th, k, hreach, -, hth, horigin, hk, -, -⟩ := soldRun_commit
  exact ⟨s, th, k, hth, hk, save_keeps_account_iff decimalLiterals_readsIntegers (by decide)
    mugBody_eq hreach hth horigin hk⟩

/-- **A save undoes a sale**: the editor has loaded the offer, a sale has committed, and
the save of a new price adds the sold pieces to the account again. -/
theorem save_loses_sale : ¬ ∀ (js : NumberBuiltins) (loaded : OfferResponse)
    (edits : List OfferEdit) (body : OfferBody) (price : Price) (seller : CurrentUser)
    (s : Sys Row Event DomainError (Option OfferResponse)) (t : ℕ)
    (th : Thread Row Event DomainError (Option OfferResponse)) (k : Txn (Option OfferResponse)),
    js.ReadsIntegers →
    (edits.foldl OfferEditor.edit (OfferEditor.opened loaded)).handleSaveOffer js = .ok body →
    body.price = Python.text price.text →
    Reachable IsShopRequest (fun _ _ => True) (Sys.rest mugShop) s →
    (∃ t₀, (observe t₀ loaded.id s).1 = some loaded) →
    s.threads.lookup t = some th →
    th.origin = (ShopRequest.save loaded.id (body.update price) seller).run →
    th.prog = .commit k → account loaded.id (s.commitThread t th k) = account loaded.id s := by
  intro h
  obtain ⟨s, th, k, hreach, hanswer, hth, horigin, hk, hbefore, hafter⟩ := soldRun_commit
  have heq := h decimalLiterals mugResponse _ mugBody twelve mugSeller s 2 th k
    decimalLiterals_readsIntegers mugBody_eq rfl hreach ⟨0, hanswer⟩ hth horigin hk
  rw [show mugResponse.id = 3 from rfl, hbefore, hafter] at heq
  exact absurd heq (by decide)

end MarketHub
