import MarketHub.Communication.Requests

/-!
Closing conversations one after the other, under interference.

`list_conversations` loads the conversations of an item without locks, and then locks
and judges the open ones one by one in the same session; the closing job locks each
conversation in a transaction of its own.

* `Listed`: where one conversation stands in the session of `list_conversations`: as it
  was loaded, or closed, with the change sent or not. A message that is sent for a later
  conversation also sends the changes of the earlier ones.
* `Listing`: the same for all of them together; `Listing.expire` is one more closure and
  `Listing.deeds` reads the deeds off.
* `wp_listConversations`, `wp_runCloseInactive`: what the two do.
-/

namespace MarketHub

open ReadCommitted Session

/-! ### The closing job -/

section Job

variable {α : Type} {o : Outline Row Event} {post : α → Db → AppSession → Prop} {st : Db}
  {T : Terms} {settings : Settings}

/-- The transaction of the closing job on one conversation. -/
lemma wp_closeOneInactive {c : UUID} {g : Bool → α} (hT : Tells o T)
    (hdid : ∀ st s, Did T settings st s → o.commit st s) (hpost : ∀ a st, post a st ∅) :
    wp o (ending (closeOneInactive settings c) g) post st ∅ := by
  simp only [ending, closeOneInactive, Prog.bind_eq, Prog.pure_eq, Prog.bind_assoc]
  have hnone : ∀ st', wp o (Prog.flush.bind fun _ =>
      (.commit (.publish (.pure (g false))) : Txn α)) post st' ∅ := fun st' =>
    wp_finish_still hT (fun st s h _ => hdid st s h) hpost clean_empty rfl fun k hd _ hk => by
      change (∅ : AList (Held Row)).lookup k = some hd at hk
      simp at hk
  refine wp_scalar_skip (fun st₁ _ _ => hnone st₁) (fun st₁ _ _ => hnone st₁)
    fun st₁ locks _ hlocks => ?_
  obtain ⟨rfl, b, hb⟩ := conversation_locks hlocks
  have hs := single_of_lock (show st₁.lookup (.conversation c) = some b from hb)
  have hread : (∅ : AppSession).read ((∅ : AppSession).view st₁) (.conversation c) = some b := hb
  rw [hread]
  simp only [Prog.bind_assoc]
  refine wp_isInactive hT hs.held hs.object (fun st₂ _ => ?_)
    fun st₂ seen _ hopen hinactive hexpired => ?_
  · exact wp_finish_nothing hT hdid hpost hs.working hs.pending
  · simp only [if_true, Prog.bind_assoc]
    refine wp_closeForInactivity hT hs.working hopen fun st₃ s₃ id now _ hclock hwork hpending => ?_
    exact wp_finish_expired hT hdid hpost hclock hopen hinactive hexpired hwork
      (hpending.trans (congrArg (· ++ expiryEvents c id) hs.pending))

/-- The transactions of the closing job. -/
lemma wp_closeEach (hT : Tells o T) (hdid : ∀ st s, Did T settings st s → o.commit st s)
    {post : ℕ → Db → AppSession → Prop} (hpost : ∀ n st, post n st ∅) (ids : List UUID) :
    wp o (closeEach settings ids) post st ∅ := by
  induction ids generalizing st post with
  | nil => exact fun st' _ => hpost 0 st'
  | cons id ids ih =>
      refine wp_bind (wp_closeOneInactive (g := fun closed => closed) hT hdid fun closed st₁ => ?_)
      exact wp_bind (ih fun n st₂ => fun st₃ _ => hpost _ st₃)

/-- The transaction that looks up the conversations of the closing job. -/
lemma wp_eligibleIds {g : List UUID → α} (hT : Tells o T)
    (hdid : ∀ st s, Did T settings st s → o.commit st s) (hpost : ∀ a st, post a st ∅) :
    wp o (ending (eligibleIds settings) g) post st ∅ := by
  simp only [ending, eligibleIds, Prog.bind_eq, Prog.bind_assoc]
  refine wp_utcnow fun st₁ ch _ _ => wp_query fun st₂ _ => ?_
  refine wp_finish_still hT (fun st s h _ => hdid st s h) hpost clean_empty rfl fun k hd _ hk => ?_
  change (∅ : AList (Held Row)).lookup k = some hd at hk
  simp at hk

/-- **The closing job.** -/
theorem wp_runCloseInactive (hT : Tells o T) (hdid : ∀ st s, Did T settings st s → o.commit st s)
    {post : ℕ → Db → AppSession → Prop} (hpost : ∀ n st, post n st ∅) :
    wp o (runCloseInactive settings) post st ∅ :=
  wp_bind (wp_eligibleIds (g := fun ids => ids) hT hdid fun ids _ => wp_closeEach hT hdid hpost ids)

end Job

/-! ### The session of a list -/

/-- Where a conversation stands in the session of a list, with the message it got. -/
inductive Listed (T : Terms) (settings : Settings) (c : UUID) (s : AppSession) :
    Option (UUID × Message) → Prop
  /-- It is as it was loaded. -/
  | idle : (∀ h, s.held.lookup (.conversation c) = some h → h.cur = h.base) →
      (∀ ob, s.objects.lookup (.conversation c) = some ob → ob.loaded = some ob.cur) →
      s.pending.filter (Event.concerns c) = [] → Listed T settings c s none
  /-- It was closed, and the change is sent or waits for the next flush. -/
  | closing {b x : Conversation} {id : UUID} {seen now : DateTime} : T.clock now →
      x.status = .opened → isInactiveAt settings x seen = true → T.expired b x seen →
      (s.held.lookup (.conversation c) = some ⟨some b, some b⟩
          ∧ s.objects.lookup (.conversation c) = some ⟨some x, x.expire now⟩
        ∨ s.held.lookup (.conversation c)
            = some ⟨some b, some (Conversation.patch x (x.expire now) b)⟩
          ∧ s.objects.lookup (.conversation c) = some ⟨some (x.expire now), x.expire now⟩) →
      s.pending.filter (Event.concerns c) = expiryEvents c id →
      Listed T settings c s (some (id, closingMessage c now))

/-- The session of a list. -/
structure Listing (T : Terms) (settings : Settings) (news : UUID → Option (UUID × Message))
    (s : AppSession) : Prop where
  conversation : ∀ c, Listed T settings c s (news c)
  clean : ∀ k ob, k.isConversation = false → s.objects.lookup k = some ob →
    ob.loaded = some ob.cur
  sent : ∀ c id m, news c = some (id, m) → s.held.lookup (.message id) = some ⟨none, some m⟩
  still : ∀ k h, k.tracked = true → k.isConversation = false → s.held.lookup k = some h →
    h.cur = h.base ∨ ∃ c id m, news c = some (id, m) ∧ k = .message id
  items : ∀ i, s.pending.filter (Event.concernsItem i) = []

variable {T : Terms} {settings : Settings} {news : UUID → Option (UUID × Message)}
  {s s' : AppSession} {c : UUID}

/-- The closed conversation is not the open one. -/
lemma expire_ne {x : Conversation} {now : DateTime} (h : x.status = .opened) :
    (some x : Option Conversation) ≠ some (x.expire now) := by
  intro heq
  have hstatus := congrArg (Option.map Conversation.status) heq
  rw [Option.map_some, Option.map_some, h] at hstatus
  cases hstatus

/-- A session that has only read is the session of a list. -/
lemma listing_of_still (hclean : s.Clean) (hpending : s.pending = [])
    (hstill : ∀ k h, k.tracked = true → s.held.lookup k = some h → h.cur = h.base) :
    Listing T settings (fun _ => none) s where
  conversation c := .idle (fun h hk => hstill _ h rfl hk) (fun ob hob => hclean _ ob hob)
    (by rw [hpending]; rfl)
  clean k ob _ hob := hclean k ob hob
  sent _ _ _ hm := by cases hm
  still k h htr _ hk := Or.inl (hstill k h htr hk)
  items i := by rw [hpending]; rfl

/-- The row and the object of a conversation that was closed, after a flush. -/
lemma flushed_row {b x : Conversation} {now : DateTime} (hopen : x.status = .opened)
    (hrow : s.held.lookup (.conversation c) = some ⟨some b, some b⟩
        ∧ s.objects.lookup (.conversation c) = some ⟨some x, x.expire now⟩
      ∨ s.held.lookup (.conversation c)
          = some ⟨some b, some (Conversation.patch x (x.expire now) b)⟩
        ∧ s.objects.lookup (.conversation c) = some ⟨some (x.expire now), x.expire now⟩)
    (hflush : Flushes s s') :
    s'.held.lookup (.conversation c)
        = some ⟨some b, some (Conversation.patch x (x.expire now) b)⟩
      ∧ s'.objects.lookup (.conversation c) = some ⟨some (x.expire now), x.expire now⟩ := by
  rcases hrow with ⟨hheld, hobj⟩ | ⟨hheld, hobj⟩
  · obtain ⟨hobj', hd, v, r, hold, hv, hsend, hheld'⟩ := hflush.sent _ _ hobj (expire_ne hopen)
    rcases hold with hold | ⟨hnone, -⟩
    · rw [hheld] at hold
      cases hold
      cases hsend with
      | insert hloaded _ => cases hloaded
      | @update old row hloaded _ hrow' =>
          cases hloaded
          obtain rfl : b = row := Option.some.inj (hv.symm.trans hrow')
          exact ⟨hheld', hobj'⟩
    · rw [hheld] at hnone
      cases hnone
  · obtain ⟨hheld', hobj'⟩ := hflush.kept (.conversation c) fun ob hob => by
      rw [hobj] at hob
      cases hob
      rfl
    exact ⟨hheld'.trans hheld, hobj'.trans hobj⟩

namespace Listed

variable {m : Option (UUID × Message)}

/-- Rows are returned. -/
lemma load (h : Listed T settings c s m) (v : Db) (k : Key) :
    Listed T settings c (s.load v k) m := by
  cases h with
  | idle hheld hobj hpending =>
      refine .idle (by rwa [load_held]) (fun ob hob => ?_) (by rwa [load_pending])
      rcases lookup_load_cases v s k hob with hold | ⟨r, -, rfl⟩
      · exact hobj ob hold
      · rfl
  | closing hclock hopen hinactive hexpired hrow hpending =>
      refine .closing hclock hopen hinactive hexpired ?_ (by rwa [load_pending])
      rw [load_held]
      rcases hrow with ⟨hheld, hobj⟩ | ⟨hheld, hobj⟩
      · exact Or.inl ⟨hheld, lookup_loads_of_some v s hobj [k]⟩
      · exact Or.inr ⟨hheld, lookup_loads_of_some v s hobj [k]⟩

/-- What a conversation stands at depends on its own row, object and events. -/
lemma of_same (h : Listed T settings c s m)
    (hheld : s'.held.lookup (.conversation c) = s.held.lookup (.conversation c))
    (hobj : s'.objects.lookup (.conversation c) = s.objects.lookup (.conversation c))
    (hpending : s'.pending.filter (Event.concerns c) = s.pending.filter (Event.concerns c)) :
    Listed T settings c s' m := by
  cases h with
  | idle hheld' hobj' hpending' =>
      exact .idle (by rwa [hheld]) (by rwa [hobj]) (by rwa [hpending])
  | closing hclock hopen hinactive hexpired hrow hpending' =>
      exact .closing hclock hopen hinactive hexpired (by rwa [hheld, hobj]) (by rwa [hpending])

/-- A conversation is locked. -/
lemma lock (h : Listed T settings c s m) (st : Db) (k : Key) :
    Listed T settings c (s.lock st k) m := by
  by_cases hk : .conversation c = k
  · subst hk
    cases hkd : s.held.lookup (.conversation c) with
    | some hd =>
        refine h.of_same ?_ (by rw [lock_objects]) (by rw [lock_pending])
        rw [lookup_lock_self, hkd]
        rfl
    | none =>
        cases h with
        | idle hheld hobj hpending =>
            refine .idle (fun hd hk => ?_) (by rwa [lock_objects]) (by rwa [lock_pending])
            rw [lookup_lock_self, hkd] at hk
            cases hk
            rfl
        | closing _ _ _ _ hrow _ =>
            rcases hrow with ⟨hheld, -⟩ | ⟨hheld, -⟩ <;> rw [hkd] at hheld <;> cases hheld
  · exact h.of_same (lookup_lock_ne st s k hk) (by rw [lock_objects]) (by rw [lock_pending])

/-- What a flush leaves of a conversation. -/
lemma flush (h : Listed T settings c s m) (hflush : Flushes s s') : Listed T settings c s' m := by
  cases h with
  | idle hheld hobj hpending =>
      obtain ⟨hheld', hobj'⟩ := hflush.kept _ hobj
      exact .idle (by rwa [hheld']) (by rwa [hobj']) (by rwa [hflush.pending])
  | closing hclock hopen hinactive hexpired hrow hpending =>
      exact .closing hclock hopen hinactive hexpired (Or.inr (flushed_row hopen hrow hflush))
        (by rwa [hflush.pending])

/-- The deed of a conversation in a session that has been flushed. -/
lemma deed (h : Listed T settings c s m) (hflush : Flushes s s') {st : Db}
    (hag : Agrees s'.held st) :
    Deed T settings st c (Db.conversation st c) (Db.conversation (merge st s'.held) c) m
      (s'.pending.filter (Event.concerns c)) := by
  cases h with
  | idle hheld hobj hpending =>
      have hsame : Db.conversation (merge st s'.held) c = Db.conversation st c := by
        cases hkd : s'.held.lookup (.conversation c) with
        | none => exact lookup_merge_of_not_held hkd
        | some hd =>
            have hkept := (hflush.kept _ hobj).1.symm.trans hkd
            rw [Db.conversation, Db.conversation, lookup_merge_of_held hkd, hag _ hd hkd,
              hheld hd hkept]
      rw [hsame, hflush.pending, hpending]
      exact .nothing _
  | @closing b x id seen now hclock hopen hinactive hexpired hrow hpending =>
      have hheld := (flushed_row hopen hrow hflush).1
      rw [hflush.pending, hpending, Db.conversation, Db.conversation, hag _ _ hheld,
        lookup_merge_of_held hheld]
      exact .expired b id now hclock hopen hinactive hexpired

end Listed

namespace Listing

/-- Rows are returned. -/
lemma load (h : Listing T settings news s) (v : Db) (k : Key) :
    Listing T settings news (s.load v k) where
  conversation c := (h.conversation c).load v k
  clean k' ob hk' hob := by
    rcases lookup_load_cases v s k hob with hold | ⟨r, -, rfl⟩
    · exact h.clean k' ob hk' hold
    · rfl
  sent c id m hm := by
    rw [load_held]
    exact h.sent c id m hm
  still k' hd htr hk' hkd := by
    rw [load_held] at hkd
    exact h.still k' hd htr hk' hkd
  items i := by
    rw [load_pending]
    exact h.items i

lemma loads (h : Listing T settings news s) (v : Db) (ks : List Key) :
    Listing T settings news (ks.foldl (Session.load v) s) := by
  induction ks generalizing s with
  | nil => exact h
  | cons k ks ih => exact ih (h.load v k)

/-- A conversation is locked. -/
lemma lock (h : Listing T settings news s) (st : Db) (c : UUID) :
    Listing T settings news (s.lock st (.conversation c)) where
  conversation c' := (h.conversation c').lock st _
  clean k ob hk hob := by
    rw [lock_objects] at hob
    exact h.clean k ob hk hob
  sent c' id m hm := by
    rw [lookup_lock_ne st s _ (by simp)]
    exact h.sent c' id m hm
  still k hd htr hk hkd := by
    rw [lookup_lock_ne st s (.conversation c) (by rintro rfl; cases hk)] at hkd
    exact h.still k hd htr hk hkd
  items i := by
    rw [lock_pending]
    exact h.items i

/-- Another conversation is closed: its message is sent, and with it the changes of the
conversations closed before. -/
lemma expire {b x : Conversation} {id : UUID} {seen now : DateTime}
    (h : Listing T settings news s) (hclock : T.clock now) (hopen : x.status = .opened)
    (hinactive : isInactiveAt settings x seen = true) (hexpired : T.expired b x seen)
    (hheld : s.held.lookup (.conversation c) = some ⟨some b, some b⟩)
    (hobj : s.objects.lookup (.conversation c) = some ⟨some x, x⟩)
    (hflush : Flushes (drafting s id (closingMessage c now)) s') :
    Listing T settings (Function.update news c (some (id, closingMessage c now)))
      { s' with
        objects := s'.objects.insert (.conversation c) ⟨some x, x.expire now⟩
        pending := s'.pending ++ expiryEvents c id } := by
  -- nothing is pending for the conversation, or its object would be closed already
  have hidle : s.pending.filter (Event.concerns c) = [] := by
    have hc := h.conversation c
    generalize news c = m at hc
    cases hc with
    | idle _ _ hpending => exact hpending
    | closing _ hopen' _ _ hrow _ =>
        rcases hrow with ⟨-, hobj'⟩ | ⟨-, hobj'⟩
        · obtain ⟨hloaded, hcur⟩ := Obj.mk.inj (Option.some.inj (hobj.symm.trans hobj'))
          exact absurd (hloaded.symm.trans (congrArg some hcur)) (expire_ne hopen')
        · obtain ⟨-, hcur⟩ := Obj.mk.inj (Option.some.inj (hobj.symm.trans hobj'))
          rw [hcur] at hopen
          cases hopen
  have hdraft : ∀ k, k ≠ .message id →
      (drafting s id (closingMessage c now)).objects.lookup k = s.objects.lookup k :=
    fun k hk => AList.lookup_insert_ne hk
  -- what the flush leaves as it was: every row but that of the message, every clean object
  have hkept : ∀ k ob, k ≠ .message id → k.isConversation = false →
      s'.held.lookup k = s.held.lookup k
      ∧ (s'.objects.lookup k = some ob → ob.loaded = some ob.cur) := by
    intro k ob hk hconv
    obtain ⟨hheld', hobj'⟩ := hflush.kept k fun o ho =>
      h.clean k o hconv (by rw [← hdraft k hk, ho])
    refine ⟨hheld', fun hob => h.clean k ob hconv ?_⟩
    rw [← hdraft k hk, ← hobj', hob]
  have hdrafted : (drafting s id (closingMessage c now)).objects.lookup (.message id)
      = some ⟨none, closingMessage c now⟩ := AList.lookup_insert _
  obtain ⟨hmessage, -⟩ := hflush.sent _ _ hdrafted (by simp)
  have habsent : ∀ hd, s.held.lookup (.message id) = some hd → hd.cur = none :=
    hflush.absent hdrafted
  -- the new message reaches the session's rows as an insert
  have hsent : s'.held.lookup (.message id) = some ⟨none, some (closingMessage c now)⟩ := by
    refine hflush.inserted hdrafted fun hd hold hcur => ?_
    rcases h.still _ hd rfl rfl hold with heq | ⟨c', id', m, hnews, heq⟩
    · rw [← heq, hcur]
    · cases heq
      cases habsent _ (h.sent c' id m hnews)
  have hevents : ∀ c', c' ≠ c → (expiryEvents c id).filter (Event.concerns c') = [] := by
    intro c' hc
    simp [expiryEvents, Event.concerns, hc.symm]
  -- conversations, clean objects, messages sent, rows kept, events of items
  refine ⟨fun c' => ?_, fun k ob hconv hob => ?_, fun c' id' m hm => ?_,
    fun k hk htr hconv hkd => ?_,
    fun i => ?_⟩
  · by_cases hc : c' = c
    · subst hc
      rw [Function.update_self]
      refine .closing hclock hopen hinactive hexpired (Or.inl ⟨?_, AList.lookup_insert _⟩) ?_
      · rw [← hheld]
        refine (hflush.kept _ fun o ho => ?_).1
        rw [hdraft _ (by simp), hobj] at ho
        cases ho
        rfl
      · rw [List.filter_append, hflush.pending]
        change s.pending.filter _ ++ _ = _
        rw [hidle]
        simp [expiryEvents, Event.concerns]
    · rw [Function.update_of_ne hc]
      have hdrafted : Listed T settings c' (drafting s id (closingMessage c now)) (news c') :=
        (h.conversation c').of_same rfl (hdraft _ (by simp)) rfl
      have hthen := hdrafted.flush hflush
      refine hthen.of_same rfl (AList.lookup_insert_ne (by simpa using hc)) ?_
      rw [List.filter_append, hevents c' hc, List.append_nil]
  · have hk : k ≠ .conversation c := by
      rintro rfl
      cases hconv
    rw [AList.lookup_insert_ne hk] at hob
    by_cases hkk : k = .message id
    · subst hkk
      rw [hmessage] at hob
      cases hob
      rfl
    · exact (hkept k ob hkk hconv).2 hob
  · by_cases hc : c' = c
    · subst hc
      rw [Function.update_self] at hm
      cases hm
      exact hsent
    · rw [Function.update_of_ne hc] at hm
      by_cases hid : id' = id
      · subst hid
        -- no message is sent twice
        cases habsent _ (h.sent c' id' m hm)
      · exact ((hflush.kept (.message id') fun o ho => h.clean _ o rfl
          (by rw [← hdraft _ (by simpa using hid), ho])).1).trans (h.sent c' id' m hm)
  · by_cases hkk : k = .message id
    · exact Or.inr ⟨c, id, _, Function.update_self .., hkk⟩
    · have hkd' : s.held.lookup k = some hk :=
        ((hflush.kept k fun o ho => h.clean k o hconv (by rw [← hdraft k hkk, ho])).1).symm.trans
          hkd
      rcases h.still k hk htr hconv hkd' with heq | ⟨c', id', m, hm, heq⟩
      · exact Or.inl heq
      · refine Or.inr ⟨c', id', m, ?_, heq⟩
        rw [Function.update_of_ne, hm]
        rintro rfl
        have hc := h.conversation c'
        rw [hm] at hc
        cases hc with
        | closing _ hopen' _ _ hrow hpending =>
            rw [hidle] at hpending
            cases hpending
  · rw [List.filter_append, hflush.pending]
    change s.pending.filter _ ++ _ = _
    rw [h.items i]
    simp [expiryEvents, Event.concernsItem]

/-- The deeds of the session once it is flushed. -/
lemma deeds (h : Listing T settings news s) (hflush : Flushes s s') {st : Db}
    (hag : Agrees s'.held st) : Did T settings st s' := by
  have hheld : ∀ k, k.isConversation = false → s'.held.lookup k = s.held.lookup k := fun k hconv =>
    (hflush.kept k fun o ho => h.clean k o hconv ho).1
  have hmerge : ∀ k, k.tracked = true → k.isConversation = false →
      (∀ c id m, news c = some (id, m) → k ≠ .message id) →
      (merge st s'.held).lookup k = st.lookup k := by
    intro k htr hconv hmsg
    cases hkd : s'.held.lookup k with
    | none => exact lookup_merge_of_not_held hkd
    | some hd =>
        rw [lookup_merge_of_held hkd, hag k hd hkd]
        rw [hheld k hconv] at hkd
        rcases h.still k hd htr hconv hkd with heq | ⟨c, id, m, hm, heq⟩
        · exact heq
        · exact absurd heq (hmsg c id m hm)
  refine ⟨news, ⟨fun c => ?_, fun i => ?_, fun c id m hm => ?_, fun id hid => ?_⟩⟩
  · exact (h.conversation c).deed hflush hag
  · rw [hflush.pending, h.items i, Db.orderItem, Db.orderItem,
      hmerge (.orderItem i) rfl rfl fun _ _ _ _ => by simp]
    exact .nothing _
  · have hk := (hheld (.message id) rfl).trans (h.sent c id m hm)
    exact ⟨hag _ _ hk, lookup_merge_of_held hk⟩
  · exact hmerge (.message id) rfl rfl fun c id' m hm heq => by
      cases heq
      exact hid c m hm

end Listing

/-! ### The list -/

section List

variable {α : Type} {o : Outline Row Event} {post : α → Db → AppSession → Prop} {st : Db}

/-- An item is loaded without a lock, as the first statement of a session. -/
lemma wp_readParticipantItem {itemId : UUID} {user : CurrentUser} {f : OrderItem → Txn α}
    (h : ∀ st' item s', s'.Clean → s'.pending = [] → s'.held = ∅ → wp o (f item) post st' s') :
    wp o ((loadParticipantItem itemId user).bind f) post st ∅ := by
  have hfound : ∀ stmt : Db → Option (List Key), (∀ v locks, stmt v = some locks → locks = []) →
      wp o (((Prog.scalar (.orderItem itemId) stmt).bind fun row =>
        loadOr (k := .orderItem itemId) (.resourceNotFound "Order item not found") row).bind f)
        post st ∅ := by
    intro stmt hstmt
    rw [Prog.bind_assoc]
    refine wp_scalar_first (fun _ _ _ => trivial) fun st' locks _ hlocks => ?_
    obtain rfl := hstmt st' locks hlocks
    cases st'.lookup (.orderItem itemId) with
    | none => trivial
    | some item =>
        exact h st' item _ (clean_empty.load st') (load_pending ..) (load_held ..)
  rw [loadParticipantItem]
  split
  · refine hfound _ fun v locks hlocks => ?_
    simp only [sellerItemStatement] at hlocks
    split at hlocks
    · cases hlocks
    · split at hlocks
      · cases hlocks
      · split at hlocks
        · exact (Option.some.inj hlocks).symm
        · cases hlocks
  · refine hfound _ fun v locks hlocks => ?_
    simp only [buyerItemStatement] at hlocks
    split at hlocks
    · cases hlocks
    · split at hlocks
      · cases hlocks
      · split at hlocks
        · exact (Option.some.inj hlocks).symm
        · cases hlocks
  · trivial

/-- The row and the object of an open conversation that the session has locked. -/
lemma Listing.opened {news : UUID → Option (UUID × Message)} {s : AppSession} {c : UUID}
    {ob : Obj Row (.conversation c)} {r : Conversation} (h : Listing T settings news s)
    (hob : s.objects.lookup (.conversation c) = some ob) (hopen : ob.cur.status = .opened)
    (hrow : (s.view st).lookup (.conversation c) = some r) :
    (s.lock st (.conversation c)).held.lookup (.conversation c) = some ⟨some r, some r⟩
      ∧ ob.loaded = some ob.cur := by
  have hc := h.conversation c
  generalize news c = m at hc
  cases hc with
  | idle hheld hobj _ =>
      refine ⟨?_, hobj ob hob⟩
      rw [lookup_view] at hrow
      rw [lookup_lock_self]
      cases hkd : s.held.lookup (.conversation c) with
      | none =>
          rw [hkd] at hrow
          rw [← hrow]
          rfl
      | some hd =>
          rw [hkd] at hrow
          have hsame := hheld hd hkd
          obtain ⟨base, cur⟩ := hd
          obtain rfl : cur = base := hsame
          obtain rfl : cur = some r := hrow
          rfl
  | closing _ _ _ _ hrow' _ =>
      rcases hrow' with ⟨-, hobj⟩ | ⟨-, hobj⟩
      · obtain rfl := Option.some.inj (hob.symm.trans hobj)
        cases hopen
      · obtain rfl := Option.some.inj (hob.symm.trans hobj)
        cases hopen

/-- One turn of the closing loop. -/
lemma wp_closeListed {news : UUID → Option (UUID × Message)} {s : AppSession} {c : UUID}
    {f : Unit → Txn α} (hT : Tells o T) (h : Listing T settings news s)
    (hnext : ∀ news' st' s', Listing T settings news' s' → wp o (f ()) post st' s') :
    wp o ((closeListed settings c).bind f) post st s := by
  simp only [closeListed, Prog.bind_eq, Prog.pure_eq, Prog.bind_assoc]
  refine wp_attrs fun st₁ _ => ?_
  cases hob : s.objects.lookup (.conversation c) with
  | none => exact hnext news st₁ s h
  | some ob =>
      simp only [Option.map_some]
      split
      · -- the listed object was open; the row is locked and its object kept as loaded
        rename_i hopen
        simp only [Prog.bind_assoc]
        refine wp_scalar (fun st₂ _ _ => hnext news st₂ s h) fun st₂ locks _ hlocks => ?_
        obtain ⟨rfl, r, hr⟩ := conversation_locks hlocks
        obtain ⟨hheld, hloaded⟩ := h.opened hob hopen hr
        obtain ⟨_, x⟩ := ob
        obtain rfl : _ = some x := hloaded
        have hread : s.read (s.view st₂) (.conversation c) = some x := by
          rw [Session.read, hob]
        have hlist := (h.lock st₂ c).load (s.view st₂) (.conversation c)
        have hheld' : (([Key.conversation c].foldl (Session.lock st₂) s).load (s.view st₂)
            (.conversation c)).held.lookup (.conversation c) = some ⟨some r, some r⟩ := by
          rw [load_held]
          exact hheld
        have hobj' : (([Key.conversation c].foldl (Session.lock st₂) s).load (s.view st₂)
            (.conversation c)).objects.lookup (.conversation c) = some ⟨some x, x⟩ :=
          lookup_loads_of_some (s.view st₂) ([Key.conversation c].foldl (Session.lock st₂) s)
            (by rw [foldl_lock_objects]; exact hob) [Key.conversation c]
        rw [hread]
        simp only [maybeCloseInactive, Prog.bind_eq, Prog.pure_eq, Prog.bind_assoc]
        -- inactive still: the message is sent and the object closed
        refine wp_isInactive hT hheld' hobj' (fun st₃ _ => hnext news st₃ _ hlist)
          fun st₃ seen _ _ hinactive hexpired => ?_
        simp only [if_true, Prog.bind_assoc, closeForInactivity, if_neg (not_not.mpr hopen),
          Prog.bind_eq, Prog.pure_eq]
        refine wp_utcnow fun st₄ ch _ hg => wp_sendMessage hT fun st₅ id s₅ _ _ hflush _ => ?_
        have hthen := hlist.expire (hT.clock _ _ _ hg) hopen hinactive hexpired hheld' hobj' hflush
        refine wp_assign fun st₆ ob₆ _ hob₆ => wp_record fun st₇ _ => wp_record fun st₈ _ => ?_
        -- the flush of the message leaves the object of the conversation
        have hkept : s₅.objects.lookup (.conversation c) = some ⟨some x, x⟩ := by
          have hdraft : ∀ m, (drafting (([Key.conversation c].foldl (Session.lock st₂) s).load
              (s.view st₂) (.conversation c)) id m).objects.lookup (.conversation c)
                = some ⟨some x, x⟩ := fun m => (AList.lookup_insert_ne (by simp)).trans hobj'
          refine ((hflush.kept _ fun o ho => ?_).2).trans (hdraft _)
          rw [hdraft] at ho
          cases ho
          rfl
        obtain rfl : (⟨some x, x⟩ : Obj Row (.conversation c)) = ob₆ :=
          Option.some.inj (hkept.symm.trans hob₆)
        refine hnext (Function.update news c (some (id, closingMessage c ch.now))) st₈ _ ?_
        have hevents : (s₅.pending ++ [Event.messageCreated id c])
            ++ [Event.conversationClosed c .inactivity] = s₅.pending ++ expiryEvents c id :=
          List.append_assoc ..
        dsimp only
        rw [hevents]
        exact hthen
      · exact hnext news st₁ s h

/-- The closing loop. -/
lemma wp_closeAllListed (hT : Tells o T) {f : Unit → Txn α} (ids : List UUID) :
    ∀ {news : UUID → Option (UUID × Message)} {st : Db} {s : AppSession},
      Listing T settings news s →
      (∀ news' st' s', Listing T settings news' s' → wp o (f ()) post st' s') →
      wp o ((closeAllListed settings ids).bind f) post st s := by
  induction ids with
  | nil => exact fun h hnext => hnext _ _ _ h
  | cons id ids ih =>
      intro news st s h hnext
      simp only [closeAllListed, Prog.bind_eq, Prog.bind_assoc]
      exact wp_closeListed hT h fun _ _ _ h' => ih h' hnext

/-- The responses of the list. -/
lemma wp_listResponses {s : AppSession} {f : List ConversationResponse → Txn α} (ids : List UUID)
    (h : ∀ responses st', wp o (f responses) post st' s) :
    wp o ((listResponses ids).bind f) post st s := by
  induction ids generalizing st f with
  | nil => exact h [] st
  | cons id ids ih =>
      simp only [listResponses, Prog.bind_eq, Prog.bind_assoc]
      refine wp_attrs fun st' _ => ih fun responses st'' => ?_
      exact h _ st''

/-- **The list of conversations.** -/
theorem wp_listConversations {itemId : UUID} (hT : Tells o T)
    (hdid : ∀ st s, Did T settings st s → o.commit st s) (hpost : ∀ a st, post a st ∅)
    (user : CurrentUser) (g : List ConversationResponse → α) :
    wp o (ending (listConversations settings itemId user) g) post st ∅ := by
  simp only [ending, listConversations, Prog.bind_eq, Prog.bind_assoc]
  refine wp_readParticipantItem fun st₁ item s₁ hclean hpending hheld => ?_
  have hstill : ∀ k h, k.tracked = true → s₁.held.lookup k = some h → h.cur = h.base := by
    intro k hd _ hk
    rw [hheld] at hk
    simp at hk
  simp only [selectConversations]
  refine wp_select fun st₂ _ => ?_
  have hlist : Listing T settings (fun _ => none) s₁ := listing_of_still hclean hpending hstill
  refine wp_closeAllListed hT _ (hlist.loads _ _) fun news st₃ s₃ h => ?_
  refine wp_select fun st₄ _ => wp_listResponses _ fun responses st₅ => ?_
  refine wp_end T.moved T.moved_refl T.moved_trans hT.moved fun st₆ s₆ _ hflush hag => ?_
  exact ⟨hdid _ _ ((h.loads _ _).deeds hflush hag), fun _ _ => hpost _ _⟩

end List

end MarketHub
