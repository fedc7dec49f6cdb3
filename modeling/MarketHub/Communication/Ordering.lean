import MarketHub.Communication.Interaction
import MarketHub.Communication.Staleness

/-!
The order of the list of conversations (`app/communication/routes.py`).

`list_conversations` may close a conversation. It then selects the conversations of the item a
second time, sorted by what the database stores, and the closure is not sent yet: the response shows
what the objects carry instead.

* `Standing`: where a conversation of the item stands then: as it was stored, or closed, with the
  change sent or not.
* `Listing.sorted`: the responses are sorted all the same, since a conversation that was closed had
  the latest interaction of all conversations of the item before and has a later one now.
* `last_interaction_order`: what holds after any run.
-/

namespace MarketHub

open ReadCommitted Session

/-- A later interaction comes first. -/
def Newer (a b : ConversationResponse) : Prop := b.lastInteractionAt ≤ a.lastInteractionAt

/-- The responses for the objects of a session. -/
def responsesOf (s : AppSession) (ids : List UUID) : List ConversationResponse :=
  ids.flatMap fun id =>
    ((s.objects.lookup (.conversation id)).map fun ob => toConversationResponse id ob.cur).toList

/-- Where a conversation that was stored as `x` stands after `t`: `stored` is the last interaction
the second statement sorts by, and `reported` the one of the response. -/
inductive Standing (t : DateTime) (x : Conversation) (stored reported : DateTime) : Prop
  | idle : stored = x.lastInteractionAt → reported = x.lastInteractionAt →
        Standing t x stored reported
  | sent : x.status = .opened → stored = reported → Standing t x stored reported
  | pending : x.status = .opened → stored = x.lastInteractionAt → t < reported →
      Standing t x stored reported

section Sorting

variable {t t' : DateTime} {settings : Settings} {st : Db} {s : AppSession}
  {news : UUID → Option (UUID × Message)}

/-- Two conversations of an item that are sorted by what is stored are sorted by what is
reported. -/
lemma Standing.le (h : InOrder t st) {c c' : UUID} {x x' : Conversation}
    {stored reported stored' reported' : DateTime} (hne : c ≠ c')
    (hx : Db.conversation st c = some x) (hx' : Db.conversation st c' = some x')
    (hitem : x.orderItemId = x'.orderItemId) (hs : Standing t x stored reported)
    (hs' : Standing t x' stored' reported') (hle : stored' ≤ stored) : reported' ≤ reported := by
  have hone : x.status = .opened → x'.status ≠ .opened := h.oneOpen c x c' x' hne hx hx' hitem
  cases hs with
  | idle hstored hreported =>
      cases hs' with
      | idle hstored' hreported' => rwa [hreported, hreported', ← hstored, ← hstored']
      | sent _ hsame => rwa [← hsame, hreported, ← hstored]
      | pending hopen hstored' _ =>
          -- the open one has had the later interaction
          have hlt := h.first c' x' c x hne.symm hx' hx hitem.symm hopen
          rw [hstored, hstored'] at hle
          exact absurd hle hlt.not_ge
  | sent hopen hsame =>
      cases hs' with
      | idle hstored' hreported' => rwa [← hsame, hreported', ← hstored']
      | sent hopen' _ => exact absurd hopen' (hone hopen)
      | pending hopen' _ _ => exact absurd hopen' (hone hopen)
  | pending hopen hstored hlt =>
      cases hs' with
      | idle hstored' hreported' =>
          rw [hreported']
          exact ((h.past c' x' hx').trans_lt hlt).le
      | sent hopen' _ => exact absurd hopen' (hone hopen)
      | pending hopen' _ _ => exact absurd hopen' (hone hopen)

/-- Where a conversation stands that the second statement has returned. -/
lemma Listing.standing (h : Listing (livingTerms t t') settings news s) (hag : Agrees s.held st)
    (hliving : Living st s) {c : UUID} {r : Conversation} {ob : Obj Row (.conversation c)}
    (hr : Db.conversation (s.view st) c = some r)
    (hob : s.objects.lookup (.conversation c) = some ob) :
    ∃ x, Db.conversation st c = some x ∧ x.orderItemId = r.orderItemId
      ∧ Standing t x r.lastInteractionAt ob.cur.lastInteractionAt := by
  have hview := hr
  rw [Db.conversation, lookup_view] at hview
  have hc := h.conversation c
  generalize news c = m at hc
  cases hc with
  | idle hheld hobj _ =>
      -- the row is the committed one, and the object is in step with it
      have hst : Db.conversation st c = some r := by
        cases hk : s.held.lookup (.conversation c) with
        | none =>
            rw [hk] at hview
            exact hview
        | some hd =>
            rw [hk] at hview
            exact (hag _ hd hk).trans ((hheld hd hk).symm.trans hview)
      have hcur : ob.cur = r :=
        Option.some.inj ((hliving c ob ob.cur hob (hobj ob hob)).symm.trans hr)
      exact ⟨r, hst, rfl, .idle rfl (by rw [hcur])⟩
  | @closing b x id seen now hclock hopen _ hheld hrow _ =>
      obtain rfl : x = b := hheld
      rcases hrow with ⟨hk, hobj⟩ | ⟨hk, hobj⟩
      · obtain rfl := Option.some.inj (hob.symm.trans hobj)
        rw [hk] at hview
        obtain rfl := Option.some.inj hview
        exact ⟨x, hag _ _ hk, rfl, .pending hopen rfl hclock.1⟩
      · obtain rfl := Option.some.inj (hob.symm.trans hobj)
        rw [hk] at hview
        obtain rfl := Option.some.inj hview
        refine ⟨x, hag _ _ hk, ?_, .sent hopen ?_⟩ <;> rw [Conversation.patch_self]
        rfl

/-- **The list is sorted by what it reports.** -/
lemma Listing.sorted (itemId : UUID) (hJ : InOrder t st)
    (h : Listing (livingTerms t t') settings news s) (hag : Agrees s.held st)
    (hliving : Living st s) {rows : List (UUID × Conversation)}
    (hrows : ∀ row ∈ rows, Db.conversation (s.view st) row.1 = some row.2
      ∧ row.2.orderItemId = itemId)
    (hsorted : rows.Pairwise fun a b => b.2.lastInteractionAt ≤ a.2.lastInteractionAt) :
    (responsesOf s (rows.map Prod.fst)).Pairwise Newer := by
  rw [responsesOf, List.flatMap_map, List.pairwise_flatMap]
  refine ⟨fun row _ => ?_, hsorted.imp_of_mem fun {row row'} hmem hmem' hle x hx y hy => ?_⟩
  · cases s.objects.lookup (.conversation row.1) <;> simp
  · obtain ⟨c, r⟩ := row
    obtain ⟨c', r'⟩ := row'
    obtain ⟨ob, hob, rfl⟩ := Option.map_eq_some_iff.mp (Option.mem_toList.mp hx)
    obtain ⟨ob', hob', rfl⟩ := Option.map_eq_some_iff.mp (Option.mem_toList.mp hy)
    change ob'.cur.lastInteractionAt ≤ ob.cur.lastInteractionAt
    by_cases hne : c = c'
    · subst hne
      exact (congrArg (fun ob : Obj Row (.conversation c) => ob.cur.lastInteractionAt)
        (Option.some.inj (hob'.symm.trans hob))).le
    · obtain ⟨z, hz, hitem, hs⟩ := h.standing hag hliving (hrows _ hmem).1 hob
      obtain ⟨z', hz', hitem', hs'⟩ := h.standing hag hliving (hrows _ hmem').1 hob'
      refine Standing.le hJ hne hz hz' ?_ hs hs' hle
      exact hitem.trans ((hrows _ hmem).2.trans ((hrows _ hmem').2.symm.trans hitem'.symm))

end Sorting

/-! ### The request -/

section List

variable {o : Outline Row Event} {t t' : DateTime} {settings : Settings} {st₀ st : Db}

/-- The responses of the list are those for its objects. -/
lemma wp_listResponses_eq {s : AppSession} (ids : List UUID) :
    wp o (listResponses ids) (fun responses _ s' => responses = responsesOf s ids
      ∧ s' = s) st s := by
  induction ids generalizing st with
  | nil => exact fun _ _ => ⟨rfl, rfl⟩
  | cons id ids ih =>
      simp only [listResponses, Prog.bind_eq, Prog.pure_eq]
      refine wp_attrs fun st₁ _ => wp_bind (wp_mono ih ?_)
      rintro responses st₂ s' ⟨rfl, rfl⟩ st₃ _
      refine ⟨?_, rfl⟩
      rw [Option.map_map, responsesOf, responsesOf, List.flatMap_cons]
      rfl

/-- **The list that runs alone answers in order.** -/
lemma wp_listConversations_sorted {itemId : UUID} (user : CurrentUser)
    (hT : Tells o (livingTerms t t')) (hinv : ∀ v log, o.inv v log → v = st₀)
    (hguard : ∀ {γ : Type} v s (op : Op Row Event γ) ch, o.guard v s op ch → Living v s)
    (hJ : InOrder t st₀) :
    wp o (listConversations settings itemId user) (fun responses _ _ => responses.Pairwise Newer)
      st ∅ := by
  simp only [listConversations, Prog.bind_eq]
  refine wp_readParticipantItem fun st₁ item s₁ hclean hpending hheld => ?_
  have hstill : ∀ k h, k.tracked = true → s₁.held.lookup k = some h → h.cur = h.base := by
    intro k hd _ hk
    rw [hheld] at hk
    simp at hk
  have hlist : Listing (livingTerms t t') settings (fun _ => none) s₁ :=
    listing_of_still hclean hpending hstill
  simp only [selectConversations]
  refine wp_select fun st₂ _ => wp_closeAllListed hT _ (hlist.loads _ _) fun news st₃ s₃ h => ?_
  intro st₄ hf ch busy ids s₄ he hg
  obtain rfl : st₄ = st₀ := by
    obtain ⟨log, hlog⟩ := hf.inv
    exact hinv st₄ log hlog
  obtain ⟨rfl, rfl⟩ := eval_select he
  have hnolocks : ∀ ids : List UUID, ids.flatMap (fun _ => ([] : List Key))
      = [] := fun ids => by simp
  rw [hnolocks, List.foldl_nil]
  have hliving := hguard _ _ _ _ hg
  refine wp_mono (wp_listResponses_eq _) ?_
  rintro responses st₅ s₅ ⟨rfl, rfl⟩
  refine Listing.sorted itemId hJ (h.loads _ _) ?_ (fun c => (hliving c).loads rfl _)
    (fun row hrow => ?_) (List.pairwise_insertionSort
      (fun a b : UUID × Conversation => b.2.lastInteractionAt ≤ a.2.lastInteractionAt) _)
  · rw [foldl_load_held]
    exact hf.agrees
  · obtain ⟨hmem, hitem⟩ := List.mem_filter.mp ((List.mem_insertionSort _).mp hrow)
    rw [Session.view, foldl_load_held]
    exact ⟨mem_conversations.mp hmem, by simpa using hitem⟩

/-- The answer of a transaction is that of its body. -/
lemma result_of_transaction {α : Type} {body : Txn α} {cs : ℕ → Choice} {n : ℕ} {log : List Event}
    {s : AppSession} {a : α} (h : (exec cs (Prog.transaction body) n st log s).result = .ok a) :
    (exec cs body n st log s).result = .ok a := by
  rw [Prog.transaction, exec_bind, Outcome.andThen] at h
  cases hbody : (exec cs body n st log s).result with
  | error e => simp [hbody] at h
  | ok b =>
      simp only [hbody] at h
      rw [exec_bind, Outcome.andThen] at h
      split at h
      · simp only [exec_commit, exec_publish, exec_pure] at h
        exact h
      · cases h

/-- A list that runs when the conversations are in order answers in order. -/
lemma InOrder.list {cs : ℕ → Choice} {x : Stage Row Event} (hcs : Clock (· < ·) cs)
    (h : x.Since (· < ·) cs fun t st _ => InOrder t st) (itemId : UUID) (user : CurrentUser)
    {responses : List ConversationResponse}
    (hresult : (exec cs (Prog.transaction (listConversations settings itemId user)) x.tick x.store
      x.log ∅).result = .ok responses) : responses.Pairwise Newer := by
  obtain ⟨t, hJ, hbefore⟩ := h
  set body := listConversations settings itemId user with hbody
  set last := (cs (exec cs body x.tick x.store x.log ∅).next).now with hlast
  let o : Outline Row Event :=
    { Outline.timed (· < ·) Living (fun _ _ => True) t last with inv := fun v _ => v = x.store }
  have hadmits : o.Admits cs x.store (Living x.store) jobOp x.tick
      (exec cs body x.tick x.store x.log ∅).next :=
    ⟨⟨x.log, rfl⟩, fun op s m hm hlt hs => ⟨hbefore m hm, (hcs.order m _ hlt).le, hs⟩,
      fun op c b s s' hok hs he => stands_living.step op x.store c b s s' hok hs he⟩
  have hT : Tells o (livingTerms t last) :=
    have hT := living_tells (fun _ _ => True) t last
    ⟨hT.moved, hT.clock, hT.expired⟩
  have hwp : wp o body (fun responses _ _ => responses.Pairwise Newer) x.store ∅ :=
    wp_listConversations_sorted user hT (fun _ _ hv => hv) (fun _ _ _ _ hg => hg.2.2) hJ
  exact (body_listConversations settings itemId user).uncommitted.answers
    (job_listConversations itemId user) hadmits (stands_living.first _) hwp (agrees_empty _)
    (result_of_transaction hresult)

end List

/-! ### Runs -/

/-- **The last interaction, and the order of the list.** After any requests around conversations
that run one after another with an increasing clock, the last interaction of every conversation is
the latest of its creation and its messages, an open conversation has had the latest interaction of
all conversations of its item, and a list of conversations answers in descending order of the last
interactions it reports. -/
theorem last_interaction_order (settings : Settings) {cs : ℕ → Choice} (hcs : Clock (· < ·) cs)
    {x : Stage Row Event} (hnew : ∀ c, Db.conversation x.store c = none)
    (hsilent : ∀ id, Db.message x.store id = none) (requests : List ConversationRequest) :
    let y := inSequence (ConversationRequest.run settings) cs x requests
    (∀ c b, Db.conversation y.store c = some b →
      IsGreatest (interactions y.store c b) b.lastInteractionAt)
    ∧ (∀ c b c' b', c ≠ c' → Db.conversation y.store c = some b →
      Db.conversation y.store c' = some b' → b.orderItemId = b'.orderItemId → b.status = .opened →
      b'.lastInteractionAt < b.lastInteractionAt)
    ∧ ∀ itemId user responses,
      (exec cs (Prog.transaction (listConversations settings itemId user)) y.tick y.store y.log
        ∅).result = .ok responses → responses.Pairwise Newer := by
  have hstart : x.Since (· < ·) cs fun t st _ => InOrder t st := by
    refine ⟨(cs x.tick).now - 1, inOrder_of_empty hnew hsilent, fun m hm => ?_⟩
    rcases hm.eq_or_lt with rfl | hlt
    · exact Int.sub_lt_self _ one_pos
    · exact (Int.sub_lt_self _ one_pos).trans (hcs.order _ _ hlt)
  have hrun : (inSequence (ConversationRequest.run settings) cs x requests).Since (· < ·) cs
      fun t st _ => InOrder t st := hstart.inSequence fun r _ y hy => r.since hcs hy
  obtain ⟨t, hJ, -⟩ := id hrun
  exact ⟨hJ.latest, hJ.first, fun itemId user responses => InOrder.list hcs hrun itemId user⟩

/-- A clock that shows 20 hours more at every reading. -/
def mugClock (n : ℕ) : Choice := ⟨hours (20 * n), 100 + n, false⟩

/-- The buyer writes about the mugs, looks at a list that closes the conversation, and writes
again. -/
def mugThreads : Stage Row Event :=
  inSequence (ConversationRequest.run {}) mugClock ⟨0, mugOrder, []⟩
    [.createConversation 5 .reclamacao ⟨7, .buyer, none⟩, .listConversations 5 ⟨7, .buyer, none⟩,
      .createConversation 5 .troca ⟨7, .buyer, none⟩]

/-- The next list closes the second conversation, and reports it first. -/
theorem last_interaction_order_mugs : ∃ responses,
    (exec mugClock (Prog.transaction (listConversations {} 5 ⟨7, .buyer, none⟩)) mugThreads.tick
      mugThreads.store mugThreads.log ∅).result = .ok responses
    ∧ responses.map (fun response => (response.id, response.status))
      = [(133, .closed), (105, .closed)]
    ∧ responses.Pairwise Newer := by
  have hclock : Clock (· < ·) mugClock :=
    ⟨fun n m hlt => by simp only [mugClock, hours]; omega, fun _ _ => le_of_lt⟩
  have hlist : (exec mugClock (Prog.transaction (listConversations {} 5 ⟨7, .buyer, none⟩))
      mugThreads.tick mugThreads.store mugThreads.log ∅).result.toOption.map
        (fun responses => responses.map fun response => (response.id, response.status))
      = some [(133, .closed), (105, .closed)] := by decide +kernel
  have hsilent : ∀ id, Db.message mugOrder id = none := fun id => by
    simp [Db.message, mugOrder, mugShop, AList.lookup_insert_ne, -AList.insert_empty]
  cases hresult : (exec mugClock (Prog.transaction (listConversations {} 5 ⟨7, .buyer, none⟩))
      mugThreads.tick mugThreads.store mugThreads.log ∅).result with
  | error e =>
      rw [hresult] at hlist
      cases hlist
  | ok responses =>
      rw [hresult] at hlist
      exact ⟨responses, rfl, Option.some.inj hlist,
        (last_interaction_order {} hclock mugOrder_silent
        hsilent _).2.2 5 ⟨7, .buyer, none⟩ responses hresult⟩

end MarketHub
