import MarketHub.Communication.Deeds

/-!
The requests around one conversation, under interference.

A request locks its conversation with its first statement and holds no other row it
does not insert.

* `Single`: a session that has begun so; `wp_scalar_single` and the rules of the scoped
  loads reach it.
* `Working`: the session later on, with the changes of the conversation still to be sent
  and its message sent; `wp_finish` ends the transaction and reads its deed off.
* `wp_getConversation`, `wp_closeConversation`, `wp_createMessage`, `wp_listMessages`,
  `wp_runCloseInactive`: what each of them does.
-/

namespace MarketHub

open ReadCommitted Session

/-! ### Sessions on one row -/

/-- A session that has locked and loaded the row `k` and nothing else. -/
structure Single (k : Key) (r : Row k) (s : AppSession) : Prop extends s.Opened k r where
  heldOnly : ∀ k', k' ≠ k → s.held.lookup k' = none
  objectsOnly : ∀ k', k' ≠ k → s.objects.lookup k' = none

lemma single_of_lock {st : Db} {k : Key} {r : Row k} (h : st.lookup k = some r) :
    Single k r (([k].foldl (Session.lock st) ∅).load st k) where
  toOpened := opened_of_locks List.mem_cons_self h
  heldOnly k' hk := by
    rw [load_held, lookup_locks_ne (by simpa using hk)]
    rfl
  objectsOnly k' hk := by
    rw [lookup_load_ne _ _ _ hk, foldl_lock_objects]
    rfl

section Rules

variable {α : Type} {o : Outline Row Event} {post : α → Db → AppSession → Prop} {st : Db}

/-- A `SELECT ... FOR UPDATE` that locks the row it returns, as the first statement of a
session. -/
lemma wp_scalar_single {k : Key} {stmt : Db → Option (List Key)} {f : Option (Row k) → Txn α}
    (hlocks : ∀ v locks, stmt v = some locks → locks = [k] ∧ ∃ r, v.lookup k = some r)
    (hnone : ∀ st', o.Finds ∅ st st' → wp o (f none) post st' ∅)
    (hsome : ∀ st' r s', o.Finds ∅ st st' → st'.lookup k = some r → Single k r s' →
      wp o (f (some r)) post st' s') :
    wp o ((Prog.scalar k stmt).bind f) post st ∅ := by
  refine wp_scalar_first (fun st' hf _ => hnone st' hf) fun st' locks hf hstmt => ?_
  obtain ⟨rfl, r, hr⟩ := hlocks st' locks hstmt
  rw [hr]
  exact hsome st' r _ hf hr (single_of_lock hr)

variable {c : UUID} {f : Conversation → Txn α}

lemma conversationScope_locks {scope : Order → Offer → Bool} {v : Db} {locks : List Key}
    (h : conversationScope c scope v = some locks) :
    locks = [.conversation c] ∧ ∃ r, Db.conversation v c = some r := by
  simp only [conversationScope, Option.bind_eq_bind, Option.bind_eq_some_iff] at h
  obtain ⟨r, hr, item, -, order, -, offer, -, hif⟩ := h
  split at hif
  · cases hif
    exact ⟨rfl, r, hr⟩
  · cases hif

lemma sellerConversation_locks {sellerId : UUID} {v : Db} {locks : List Key}
    (h : sellerConversationStatement c sellerId v = some locks) :
    locks = [.conversation c] ∧ ∃ r, Db.conversation v c = some r := by
  simp only [sellerConversationStatement, Option.bind_eq_bind, Option.bind_eq_some_iff] at h
  obtain ⟨r, hr, item, -, offer, -, hif⟩ := h
  split at hif
  · cases hif
    exact ⟨rfl, r, hr⟩
  · cases hif

lemma conversation_locks {v : Db} {locks : List Key} (h : conversationStatement c v = some locks) :
    locks = [.conversation c] ∧ ∃ r, Db.conversation v c = some r := by
  obtain ⟨r, hr, rfl⟩ := Option.map_eq_some_iff.mp h
  exact ⟨rfl, r, hr⟩

/-- What follows a load of the conversation `c`. -/
def AfterLoad (o : Outline Row Event) (c : UUID) (f : Conversation → Txn α)
    (post : α → Db → AppSession → Prop) (st : Db) : Prop :=
  ∀ st' (b : Conversation) s', o.Finds ∅ st st' → Db.conversation st' c = some b →
    Single (.conversation c) b s' → wp o (f b) post st' s'

/-- A scoped load of a conversation. -/
lemma wp_loadScoped {stmt : Db → Option (List Key)}
    (hlocks : ∀ v locks, stmt v = some locks →
      locks = [.conversation c] ∧ ∃ r, Db.conversation v c = some r)
    {e : DomainError} (h : AfterLoad o c f post st) :
    wp o ((Prog.scalar (.conversation c) stmt).bind fun row =>
      (loadOr (k := .conversation c) e row).bind f) post st ∅ :=
  wp_scalar_single hlocks (fun _ _ => trivial) h

lemma wp_loadParticipantConversation {user : CurrentUser} (h : AfterLoad o c f post st) :
    wp o ((loadParticipantConversation c user).bind f) post st ∅ := by
  have hfound : ∀ scope, wp o (((Prog.scalar (.conversation c) (conversationScope c scope)).bind
      fun row => loadOr (k := .conversation c)
        (.resourceNotFound "Conversation not found") row).bind f)
      post st ∅ := by
    intro scope
    rw [Prog.bind_assoc]
    exact wp_loadScoped (fun _ _ => conversationScope_locks) h
  rw [loadParticipantConversation]
  split
  · exact hfound _
  · exact hfound _
  · trivial

lemma wp_loadSellerConversation {sellerId : UUID} (h : AfterLoad o c f post st) :
    wp o ((loadSellerConversation c sellerId).bind f) post st ∅ := by
  rw [loadSellerConversation, Prog.bind_eq, Prog.bind_assoc]
  exact wp_loadScoped (fun _ _ => sellerConversation_locks) h

lemma wp_loadOpsConversation (h : AfterLoad o c f post st) :
    wp o ((loadOpsConversation c).bind f) post st ∅ := by
  rw [loadOpsConversation, Prog.bind_eq, Prog.bind_assoc]
  exact wp_loadScoped (fun _ _ => conversation_locks) h

end Rules

/-! ### The work of a request -/

/-- What an outline has to say for the deeds to be told in the given terms: its moves are
those of the terms, and so is what it knows of a reading of the clock, also while a
conversation is locked and its object unchanged. -/
structure Tells (o : Outline Row Event) (T : Terms) : Prop where
  moved : ∀ s v v', o.rely s v v' → T.moved v v'
  clock : ∀ (st : Db) (s : AppSession) (ch : Choice),
    o.guard st s (.utcnow : Op Row Event ℤ) ch → T.clock ch.now
  expired : ∀ (st : Db) (s : AppSession) (ch : Choice) (c : UUID) (b x : Conversation),
    o.guard st s (.utcnow : Op Row Event ℤ) ch →
    s.held.lookup (.conversation c) = some ⟨some b, some b⟩ →
    s.objects.lookup (.conversation c) = some ⟨some x, x⟩ → T.expired b x ch.now

/-- The tables the deeds are about. -/
def Key.tracked : Key → Bool
  | .conversation _ => true
  | .orderItem _ => true
  | .message _ => true
  | _ => false

/-- A key of the table `conversations`. -/
def Key.isConversation : Key → Bool
  | .conversation _ => true
  | _ => false

/-- A session on the row `k`, locked as `b`, whose object stands at `cur`, and that has
sent the message `news`; of the tracked rows it has changed no other. -/
structure Working (k : Key) (b cur : Row k) (news : Option (UUID × Message)) (s : AppSession) :
    Prop where
  held : s.held.lookup k = some ⟨some b, some b⟩
  object : s.objects.lookup k = some ⟨some b, cur⟩
  clean : ∀ k' o, k' ≠ k → s.objects.lookup k' = some o → o.loaded = some o.cur
  sent : ∀ id m, news = some (id, m) → s.held.lookup (.message id) = some ⟨none, some m⟩
  still : ∀ k' h, k'.tracked = true → s.held.lookup k' = some h →
    h.cur = h.base ∨ k' = k ∨ ∃ id m, news = some (id, m) ∧ k' = .message id

lemma working_of_opened {k : Key} {r : Row k} {s : AppSession} (h : s.Opened k r) :
    Working k r r none s where
  held := h.held
  object := h.object
  clean k' o _ ho := h.clean k' o ho
  sent _ _ hnews := by cases hnews
  still k' hd _ hk := Or.inl (h.unmoved k' hd hk)

lemma Single.working {k : Key} {r : Row k} {s : AppSession} (h : Single k r s) :
    Working k r r none s :=
  working_of_opened h.toOpened

namespace Working

variable {k : Key} {b cur : Row k} {news : Option (UUID × Message)} {s s' : AppSession}

/-- A recorded event changes nothing of it. -/
lemma record (h : Working k b cur news s) (events : List Event) :
    Working k b cur news { s with pending := events } :=
  ⟨h.held, h.object, h.clean, h.sent, h.still⟩

/-- The attributes of the row are set. -/
lemma assign (h : Working k b cur news s) (cur' : Row k) :
    Working k b cur' news { s with objects := s.objects.insert k ⟨some b, cur'⟩ } where
  held := h.held
  object := AList.lookup_insert _
  clean k' o hk ho := by
    rw [AList.lookup_insert_ne hk] at ho
    exact h.clean k' o hk ho
  sent := h.sent
  still := h.still

/-- A row is returned. -/
lemma load (h : Working k b cur news s) (v : Db) (k₁ : Key) :
    Working k b cur news (s.load v k₁) where
  held := by
    rw [load_held]
    exact h.held
  object := lookup_loads_of_some v s h.object [k₁]
  clean k' o hk ho := by
    rcases lookup_load_cases v s k₁ ho with hold | ⟨r, -, rfl⟩
    · exact h.clean k' o hk hold
    · rfl
  sent id m hm := by
    rw [load_held]
    exact h.sent id m hm
  still k' hd hk hkd := by
    rw [load_held] at hkd
    exact h.still k' hd hk hkd

/-- Rows are returned. -/
lemma loads (h : Working k b cur news s) (v : Db) (ks : List Key) :
    Working k b cur news (ks.foldl (Session.load v) s) := by
  induction ks generalizing s with
  | nil => exact h
  | cons k' ks ih => exact ih (h.load v k')

/-- While its row is unchanged, the session carries no change. -/
lemma clean_of_same (h : Working k b b news s) : s.Clean := by
  intro k' o ho
  by_cases hk : k' = k
  · subst hk
    rw [h.object] at ho
    cases ho
    rfl
  · exact h.clean k' o hk ho

/-- What a flush leaves of the row. -/
lemma flushes_held (h : Working k b cur news s) (hflush : s.Flushes s') :
    s'.held.lookup k = some ⟨some b, some cur⟩ := by
  by_cases hsame : b = cur
  · subst hsame
    rw [(hflush.kept _ fun o ho => h.clean_of_same _ o ho).1, h.held]
  · obtain ⟨-, hd, v, r, hold, hv, hsend, hheld⟩ := hflush.sent _ _ h.object (by simpa using hsame)
    rcases hold with hold | ⟨hnone, -⟩
    · obtain rfl : (⟨some b, some b⟩ : Held Row k) = hd :=
        Option.some.inj (h.held.symm.trans hold)
      cases hsend with
      | insert hloaded _ => cases hloaded
      | @update old row hloaded _ hrow =>
          cases hloaded
          obtain rfl : b = row := Option.some.inj (hv.symm.trans hrow)
          rw [hheld, LawfulTable.patch_self]
    · rw [h.held] at hnone
      cases hnone

/-- A flush leaves every other row alone. -/
lemma flushes_held_ne (h : Working k b cur news s) (hflush : s.Flushes s') {k' : Key}
    (hk : k' ≠ k) : s'.held.lookup k' = s.held.lookup k' :=
  (hflush.kept k' fun o ho => h.clean k' o hk ho).1

/-- The tracked rows that the flushed session leaves as they are. -/
lemma merge_still (h : Working k b cur news s) (hflush : s.Flushes s') {st : Db}
    (hag : Agrees s'.held st) {j : Key} (htracked : j.tracked = true) (hk : j ≠ k)
    (hmsg : ∀ id m, news = some (id, m) → j ≠ .message id) :
    (merge st s'.held).lookup j = st.lookup j := by
  cases hkd : s'.held.lookup j with
  | none => exact lookup_merge_of_not_held hkd
  | some hd =>
      rw [lookup_merge_of_held hkd, hag j hd hkd]
      rw [h.flushes_held_ne hflush hk] at hkd
      rcases h.still j hd htracked hkd with heq | heq | ⟨id, m, hm, heq⟩
      · exact heq
      · exact absurd heq hk
      · exact absurd heq (hmsg id m hm)

end Working

/-- The deeds of a session on a conversation once it is flushed. -/
lemma Working.deeds {c : UUID} {b cur : Conversation} {news : Option (UUID × Message)}
    {s s' : AppSession} (h : Working (.conversation c) b cur news s) (hflush : s.Flushes s')
    {T : Terms} {settings : Settings} {st : Db} (hag : Agrees s'.held st)
    (hdeed : Deed T settings st c (some b) (some cur) news (s.pending.filter (Event.concerns c)))
    (hother : ∀ c', c' ≠ c → s.pending.filter (Event.concerns c') = [])
    (hitem : ∀ i, s.pending.filter (Event.concernsItem i) = []) : Did T settings st s' := by
  refine ⟨fun c' => if c' = c then news else none, ⟨fun c' => ?_, fun i => ?_, fun c' id m hm => ?_,
    fun id hid => ?_⟩⟩
  · rw [hflush.pending]
    by_cases hc : c' = c
    · subst hc
      have hheld := h.flushes_held hflush
      rw [if_pos rfl, Db.conversation, Db.conversation, hag _ _ hheld, lookup_merge_of_held hheld]
      exact hdeed
    · rw [if_neg hc, hother c' hc, Db.conversation, Db.conversation,
        h.merge_still hflush hag (j := .conversation c')
          rfl (by simpa using hc) fun _ _ _ => by simp]
      exact .nothing _
  · rw [hflush.pending, hitem i, Db.orderItem, Db.orderItem,
      h.merge_still hflush hag (j := .orderItem i) rfl (by simp) fun _ _ _ => by simp]
    exact .nothing _
  · split at hm
    · have hheld := h.sent id m hm
      rw [← h.flushes_held_ne hflush (by simp)] at hheld
      exact ⟨hag _ _ hheld, lookup_merge_of_held hheld⟩
    · cases hm
  · refine h.merge_still hflush hag (j := .message id) rfl (by simp) fun id' m hm heq => ?_
    cases heq
    exact hid c m (by rw [if_pos rfl, hm])

section Work

variable {α : Type} {o : Outline Row Event} {post : α → Db → AppSession → Prop} {st : Db}
  {s : AppSession} {T : Terms} {settings : Settings} {c : UUID} {b cur : Conversation}
  {news : Option (UUID × Message)}

/-- A session with a new message that is not sent yet. -/
def drafting (s : AppSession) (id : UUID) (m : Message) : AppSession :=
  { s with objects := s.objects.insert (.message id) ⟨none, m⟩ }

/-- The end of a request: its deed is read off. -/
lemma wp_finish {a : α} (hT : Tells o T) (hdid : ∀ st s, Did T settings st s → o.commit st s)
    (hpost : ∀ a st, post a st ∅) (h : Working (.conversation c) b cur news s)
    (hdeed : ∀ st', T.moved st st' →
      Deed T settings st' c (some b) (some cur) news (s.pending.filter (Event.concerns c)))
    (hother : ∀ c', c' ≠ c → s.pending.filter (Event.concerns c') = [])
    (hitem : ∀ i, s.pending.filter (Event.concernsItem i) = []) :
    wp o (Prog.flush.bind fun _ => (.commit (.publish (.pure a)) : Txn α)) post st s :=
  wp_end T.moved T.moved_refl T.moved_trans hT.moved fun st' _ hmoved hflush hag =>
    ⟨hdid _ _ (h.deeds hflush hag (hdeed st' hmoved) hother hitem), fun _ _ => hpost _ _⟩

/-- The end of a request that has done nothing. -/
lemma wp_finish_nothing {a : α} (hT : Tells o T)
    (hdid : ∀ st s, Did T settings st s → o.commit st s) (hpost : ∀ a st, post a st ∅)
    (h : Working (.conversation c) b b none s) (hpending : s.pending = []) :
    wp o (Prog.flush.bind fun _ => (.commit (.publish (.pure a)) : Txn α)) post st s := by
  refine wp_finish hT hdid hpost h (fun _ _ => ?_) (by simp [hpending]) (by simp [hpending])
  rw [hpending]
  exact .nothing _

/-- A message is sent. -/
lemma wp_sendMessage {authorType : AuthorType} {authorUserId : Option UUID} {content : String}
    {now : DateTime} {f : UUID → Txn α} (hT : Tells o T)
    (h : ∀ st' id s', T.moved st st' → s.objects.lookup (.message id) = none →
      Flushes (drafting s id ⟨c, authorType, authorUserId, content, now⟩) s' → s'.Clean →
      wp o (f id) post st' s') :
    wp o ((sendMessage c authorType authorUserId content now).bind f) post st s := by
  simp only [sendMessage, Prog.bind_eq, Prog.pure_eq, Prog.bind_assoc]
  refine wp_uuid4 fun st₁ id hf₁ => wp_add fun st₂ hf₂ hnone => ?_
  refine wp_flush_exact T.moved T.moved_refl T.moved_trans hT.moved
    fun st₃ s' hm hflush hclean => ?_
  have hm₁ := hT.moved _ _ _ hf₁.rely
  have hm₂ := hT.moved _ _ _ hf₂.rely
  exact h st₃ id s' (T.moved_trans _ _ _ hm₁ (T.moved_trans _ _ _ hm₂ hm)) hnone hflush hclean

/-- The message of a session on an unchanged conversation. -/
lemma Working.send {s' : AppSession} {id : UUID} {m : Message}
    (h : Working (.conversation c) b b none s) (hflush : Flushes (drafting s id m) s')
    (hclean : s'.Clean) : Working (.conversation c) b b (some (id, m)) s'
      ∧ s'.pending = s.pending := by
  have hkept : ∀ k, k ≠ .message id → s'.held.lookup k = s.held.lookup k
      ∧ s'.objects.lookup k = s.objects.lookup k := by
    intro k hk
    have hobj : (drafting s id m).objects.lookup k = s.objects.lookup k := AList.lookup_insert_ne hk
    rw [← hobj]
    refine hflush.kept k fun o ho => h.clean_of_same k o ?_
    rw [← hobj, ho]
  have hsent : s'.held.lookup (.message id) = some ⟨none, some m⟩ := by
    refine hflush.inserted (AList.lookup_insert _) fun hd hold hcur => ?_
    rcases h.still _ hd rfl hold with heq | heq | ⟨_, _, hnews, -⟩
    · rw [← heq, hcur]
    · cases heq
    · cases hnews
  refine ⟨⟨?_, ?_, fun k o _ ho => hclean k o ho, fun id' m' hnews => ?_, fun k hd htr hk => ?_⟩,
    hflush.pending⟩
  · rw [(hkept _ (by simp)).1, h.held]
  · rw [(hkept _ (by simp)).2, h.object]
  · cases hnews
    exact hsent
  · by_cases hkk : k = .message id
    · exact Or.inr (Or.inr ⟨id, m, rfl, hkk⟩)
    · rw [(hkept k hkk).1] at hk
      rcases h.still k hd htr hk with heq | heq | ⟨_, _, hnews, -⟩
      · exact Or.inl heq
      · exact Or.inr (Or.inl heq)
      · cases hnews

/-- The inactivity rule, with what a finding has to go by. -/
lemma wp_isInactive {x : Conversation} {f : Bool → Txn α} (hT : Tells o T)
    (hheld : s.held.lookup (.conversation c) = some ⟨some b, some b⟩)
    (hobj : s.objects.lookup (.conversation c) = some ⟨some x, x⟩)
    (hno : ∀ st', T.moved st st' → wp o (f false) post st' s)
    (hyes : ∀ st' seen, T.moved st st' → x.status = .opened → isInactiveAt settings x seen = true →
      T.expired b x seen → wp o (f true) post st' s) :
    wp o ((isInactive settings x).bind f) post st s := by
  rw [isInactive]
  split
  · exact hno st (T.moved_refl st)
  · rename_i hopen
    refine wp_utcnow fun st' ch hf hg => ?_
    have hm := hT.moved _ _ _ hf.rely
    cases hinactive : isInactiveAt settings x ch.now with
    | false => exact hno st' hm
    | true =>
        exact hyes st' ch.now hm (not_not.mp hopen) hinactive
          (hT.expired _ _ _ _ _ _ hg hheld hobj)

/-- What the events of an inactivity closure are. -/
def expiryEvents (c id : UUID) : List Event :=
  [.messageCreated id c, .conversationClosed c .inactivity]

/-- An inactivity closure. -/
lemma wp_closeForInactivity {f : Bool × Conversation → Txn α} (hT : Tells o T)
    (h : Working (.conversation c) b b none s) (hopen : b.status = .opened)
    (hclosed : ∀ st' s' id now, T.moved st st' → T.clock now →
      Working (.conversation c) b (b.expire now) (some (id, closingMessage c now)) s' →
      s'.pending = s.pending ++ expiryEvents c id → wp o (f (true, b.expire now)) post st' s') :
    wp o ((closeForInactivity c b).bind f) post st s := by
  rw [closeForInactivity, if_neg (not_not.mpr hopen)]
  simp only [Prog.bind_eq, Prog.pure_eq, Prog.bind_assoc]
  refine wp_utcnow fun st₁ ch hf₁ hg => wp_sendMessage hT fun st₂ id s₂ hm₂ _ hflush hclean => ?_
  obtain ⟨hwork, hpending⟩ := h.send hflush hclean
  refine wp_assign fun st₃ ob hf₃ hob => ?_
  obtain rfl : ob = ⟨some b, b⟩ := Option.some.inj (hob.symm.trans hwork.object)
  refine wp_record fun st₄ hf₄ => wp_record fun st₅ hf₅ => ?_
  have hm : T.moved st st₅ := T.moved_trans _ _ _ (hT.moved _ _ _ hf₁.rely)
    (T.moved_trans _ _ _ hm₂ (T.moved_trans _ _ _ (hT.moved _ _ _ hf₃.rely)
      (T.moved_trans _ _ _ (hT.moved _ _ _ hf₄.rely) (hT.moved _ _ _ hf₅.rely))))
  refine hclosed st₅ _ id ch.now hm (hT.clock _ _ _ hg)
    ((hwork.assign (b.expire ch.now)).record _) ?_
  change (s₂.pending ++ [_]) ++ [_] = _
  rw [hpending, List.append_assoc]
  rfl

/-- The inactivity rule and the closure that follows from it. -/
lemma wp_maybeCloseInactive {f : Conversation → Txn α} (hT : Tells o T)
    (h : Working (.conversation c) b b none s) (hactive : ∀ st', T.moved st st' →
      wp o (f b) post st' s)
    (hclosed : ∀ st' s' id seen now, T.moved st st' → T.clock now → b.status = .opened →
      isInactiveAt settings b seen = true → T.expired b b seen →
      Working (.conversation c) b (b.expire now) (some (id, closingMessage c now)) s' →
      s'.pending = s.pending ++ expiryEvents c id → wp o (f (b.expire now)) post st' s') :
    wp o ((maybeCloseInactive settings c b).bind f) post st s := by
  simp only [maybeCloseInactive, Prog.bind_eq, Prog.bind_assoc]
  refine wp_isInactive hT h.held h.object hactive fun st₁ seen hm₁ hopen hinactive hexpired => ?_
  simp only [if_true, Prog.pure_eq, Prog.bind_assoc, Prog.bind]
  refine wp_closeForInactivity (f := fun closing => f closing.2) hT h hopen
    fun st₂ s₂ id now hm₂ hclock hwork hpending => ?_
  exact hclosed st₂ s₂ id seen now (T.moved_trans _ _ _ hm₁ hm₂) hclock hopen hinactive
    hexpired hwork
    hpending

/-- The end of a request that may have closed its conversation for inactivity. -/
lemma wp_finish_expired {a : α} {id : UUID} {seen now : DateTime} (hT : Tells o T)
    (hdid : ∀ st s, Did T settings st s → o.commit st s) (hpost : ∀ a st, post a st ∅)
    (hclock : T.clock now) (hopen : b.status = .opened)
    (hinactive : isInactiveAt settings b seen = true) (hexpired : T.expired b b seen)
    (h : Working (.conversation c) b (b.expire now) (some (id, closingMessage c now)) s)
    (hpending : s.pending = expiryEvents c id) :
    wp o (Prog.flush.bind fun _ => (.commit (.publish (.pure a)) : Txn α)) post st s := by
  refine wp_finish hT hdid hpost h (fun st' _ => ?_) (fun c' hc => ?_) fun i => ?_
  · have hdeed : Deed T settings st' c _ _ _ _ := .expired b id now hclock hopen hinactive hexpired
    rw [Conversation.patch_self] at hdeed
    rw [hpending]
    simpa [expiryEvents, Event.concerns] using hdeed
  · simp [hpending, expiryEvents, Event.concerns, hc.symm]
  · simp [hpending, expiryEvents, Event.concernsItem]

end Work

/-! ### The requests -/

/-- A transaction that turns the answer of its body into another one. -/
def ending {α β : Type} (body : Txn β) (g : β → α) : Txn α :=
  body.bind fun r => Prog.flush.bind fun _ => .commit (.publish (.pure (g r)))

lemma transaction_eq_ending {α : Type} (body : Txn α) :
    Prog.transaction body = ending body id := rfl

/-- The transaction of a request whose answer does not matter. -/
lemma transaction_ignore {β : Type} (body : Txn β) :
    Prog.transaction (do let _ ← body) = ending body fun _ => () := by
  simp only [Prog.transaction, ending, Prog.bind_eq, Prog.pure_eq, Prog.bind_assoc]
  rfl

section Requests

variable {α : Type} {o : Outline Row Event} {post : α → Db → AppSession → Prop} {st : Db}
  {T : Terms} {settings : Settings} {c : UUID}

/-- A session that has changed no tracked row and recorded no event has done nothing. -/
lemma did_nothing {s : AppSession} (hag : Agrees s.held st) (hpending : s.pending = [])
    (hstill : ∀ k h, k.tracked = true → s.held.lookup k = some h → h.cur = h.base) :
    Did T settings st s := by
  have hmerge : ∀ k, k.tracked = true → (merge st s.held).lookup k = st.lookup k := by
    intro k htr
    cases hk : s.held.lookup k with
    | none => exact lookup_merge_of_not_held hk
    | some hd => rw [lookup_merge_of_held hk, hag k hd hk, hstill k hd htr hk]
  refine ⟨fun _ => none, ⟨fun c => ?_, fun i => ?_, fun _ _ _ h => ?_, fun id _ => ?_⟩⟩
  · rw [Db.conversation, Db.conversation, hmerge (.conversation c) rfl, hpending]
    exact .nothing _
  · rw [Db.orderItem, Db.orderItem, hmerge (.orderItem i) rfl, hpending]
    exact .nothing _
  · cases h
  · exact hmerge (.message id) rfl

/-- The end of a request that has only read. -/
lemma wp_finish_still {a : α} {s : AppSession} (hT : Tells o T)
    (hdid : ∀ st s, Did T settings st s → s.pending = [] → o.commit st s)
    (hpost : ∀ a st, post a st ∅)
    (hclean : s.Clean) (hpending : s.pending = [])
    (hstill : ∀ k h, k.tracked = true → s.held.lookup k = some h → h.cur = h.base) :
    wp o (Prog.flush.bind fun _ => (.commit (.publish (.pure a)) : Txn α)) post st s := by
  refine wp_end T.moved T.moved_refl T.moved_trans hT.moved fun st' s' _ hflush hag => ?_
  refine ⟨hdid _ _ (did_nothing hag (hflush.pending.trans hpending) fun k h htr hk => ?_)
    (hflush.pending.trans hpending), fun _ _ => hpost _ _⟩
  rw [(hflush.kept k fun o ho => hclean k o ho).1] at hk
  exact hstill k h htr hk

/-- `author_type_for` of a participant. -/
lemma wp_authorTypeFor {user : CurrentUser} {f : AuthorType → Txn α} {s : AppSession}
    (h : ∀ authorType, authorType ≠ .system → wp o (f authorType) post st s) :
    wp o ((authorTypeFor user).bind f) post st s := by
  rw [authorTypeFor]
  split
  · exact h _ (by decide)
  · exact h _ (by decide)
  · trivial

/-- `validate_before`. -/
lemma wp_validateBefore {before : Option QueryDateTime} {f : Option DateTime → Txn α}
    (h : ∀ st' t, wp o (f t) post st' ∅) : wp o ((validateBefore before).bind f) post st ∅ := by
  cases before with
  | none => exact h st none
  | some before =>
      simp only [validateBefore, Prog.bind_eq]
      split
      · trivial
      · simp only [Prog.bind_assoc]
        refine wp_utcnow fun st' _ _ _ => ?_
        split
        · trivial
        · exact h st' _

variable (hT : Tells o T) (hdid : ∀ st s, Did T settings st s → o.commit st s)
  (hpost : ∀ a st, post a st ∅)
include hT hdid hpost

theorem wp_getConversation (user : CurrentUser) (g : ConversationResponse → α) :
    wp o (ending (getConversation settings c user) g) post st ∅ := by
  simp only [ending, getConversation, Prog.bind_eq, Prog.pure_eq, Prog.bind_assoc]
  refine wp_loadParticipantConversation fun st₁ b s₁ _ _ hs => ?_
  refine wp_maybeCloseInactive hT hs.working (fun st₂ _ => ?_)
    fun st₂ s₂ id seen now _ hclock hopen hinactive hexpired hwork hpending => ?_
  · exact wp_finish_nothing hT hdid hpost hs.working hs.pending
  · rw [hs.pending] at hpending
    exact wp_finish_expired hT hdid hpost hclock hopen hinactive hexpired hwork hpending

theorem wp_closeConversation (seller : CurrentUser) (g : ConversationResponse → α) :
    wp o (ending (closeConversation settings c seller) g) post st ∅ := by
  simp only [ending, closeConversation, closeBySeller, Prog.bind_eq, Prog.pure_eq, Prog.bind_assoc]
  refine wp_requireSeller fun sellerId _ => ?_
  refine wp_loadSellerConversation fun st₁ b s₁ _ _ hs => ?_
  refine wp_maybeCloseInactive hT hs.working (fun st₂ _ => ?_)
    fun st₂ s₂ id seen now _ _ _ _ _ _ _ => ?_
  · split
    · trivial
    · rename_i hopen
      simp only [Prog.bind_assoc]
      refine wp_utcnow fun st₃ ch _ hg => wp_assign fun st₄ ob _ hob => ?_
      obtain rfl : ob = ⟨some b, b⟩ := Option.some.inj (hob.symm.trans hs.object)
      refine wp_record fun st₅ _ => ?_
      refine wp_finish hT hdid hpost ((hs.working.assign (b.shut ch.now)).record _)
        (fun st' _ => ?_)
        (fun c' hc => ?_) fun i => ?_
      · have hdeed : Deed T settings st' c (some b) _ _ _ :=
          .shut ch.now (hT.clock _ _ _ hg) (not_not.mp hopen)
        simpa [hs.pending, Event.concerns] using hdeed
      · simp [hs.pending, Event.concerns, hc.symm]
      · simp [hs.pending, Event.concernsItem]
  · -- a conversation that has just been closed is refused
    trivial

theorem wp_createMessage (content : String) (user : CurrentUser) (g : UUID → α) :
    wp o (ending (createMessage settings c content user) g) post st ∅ := by
  simp only [ending, createMessage, addMessage, Prog.bind_eq, Prog.pure_eq, Prog.bind_assoc]
  refine wp_loadParticipantConversation fun st₁ b s₁ _ _ hs => ?_
  refine wp_maybeCloseInactive hT hs.working (fun st₂ _ => ?_)
    fun st₂ s₂ id seen now _ _ _ _ _ _ _ => ?_
  · split
    · trivial
    · rename_i hopen
      simp only [Prog.bind_assoc]
      refine wp_utcnow fun st₃ ch _ hg => wp_authorTypeFor fun authorType hauthor => ?_
      refine wp_sendMessage hT fun st₄ id s₄ _ _ hflush hclean => ?_
      obtain ⟨hwork, hpending⟩ := hs.working.send hflush hclean
      refine wp_assign fun st₅ ob _ hob => ?_
      obtain rfl : ob = ⟨some b, b⟩ := Option.some.inj (hob.symm.trans hwork.object)
      refine wp_record fun st₆ _ => ?_
      rw [hs.pending] at hpending
      refine wp_finish hT hdid hpost ((hwork.assign (b.touch ch.now)).record _) (fun st' _ => ?_)
        (fun c' hc => ?_) fun i => ?_
      · have hdeed : Deed T settings st' c (some b) _ _ _ :=
          .messaged id (some user.id) content ch.now (hT.clock _ _ _ hg) (not_not.mp hopen) hauthor
        simpa [hpending, Event.concerns] using hdeed
      · simp [hpending, Event.concerns, hc.symm]
      · simp [hpending, Event.concernsItem]
  · trivial

theorem wp_listMessages (user : CurrentUser) (before : Option QueryDateTime)
    (g : MessageListResponse → α) :
    wp o (ending (listMessages settings c user before) g) post st ∅ := by
  simp only [ending, listMessages, Prog.bind_eq, Prog.pure_eq, Prog.bind_assoc]
  refine wp_validateBefore fun st₁ t => ?_
  refine wp_loadParticipantConversation fun st₂ b s₂ _ _ hs => ?_
  refine wp_maybeCloseInactive hT hs.working (fun st₃ _ => ?_)
    fun st₃ s₃ id seen now _ hclock hopen hinactive hexpired hwork hpending => ?_
  · refine wp_utcnow fun st₄ ch _ _ => wp_select fun st₅ _ => wp_query fun st₆ _ => ?_
    refine wp_finish_nothing hT hdid hpost (hs.working.loads _ _) ?_
    rw [foldl_load_pending, hs.pending]
  · refine wp_utcnow fun st₄ ch _ _ => wp_select fun st₅ _ => wp_query fun st₆ _ => ?_
    refine wp_finish_expired hT hdid hpost hclock hopen hinactive hexpired (hwork.loads _ _) ?_
    rw [foldl_load_pending, hpending, hs.pending]
    rfl

end Requests

end MarketHub
