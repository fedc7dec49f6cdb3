import MarketHub.ReadCommitted.Current
import MarketHub.Communication.Timeline

/-!
The last interaction of a conversation.

Requests around conversations run one after another, with a clock that increases.

* `InOrder t`: the last interaction of every conversation is the latest of its creation and its
  messages, no later than `t`, and the open conversation of an item has had the latest one of all
  conversations of the item.
* `Advance t t'`: what one transaction that reads the clock after `t`, up to `t'`, makes of a
  conversation. `InOrder.advance` is what follows for all of them.
* `Living`: the session of a request that makes no new conversation. The list of the conversations
  is sorted by stored rows, and reports what stands in such a session
  (`wp_listConversations_sorted`).
-/

namespace MarketHub

open ReadCommitted Session

/-! ### Timelines -/

/-- The moments of a conversation: its creation, and those of its messages. -/
def interactions (st : Db) (c : UUID) (b : Conversation) : Set DateTime :=
  insert b.createdAt
    {u | ∃ id m, Db.message st id = some m ∧ m.conversationId = c ∧ m.createdAt = u}

/-- No item has two open conversations. -/
def OneOpen (v : Db) : Prop :=
  ∀ c b c' b', c ≠ c' → Db.conversation v c = some b → Db.conversation v c' = some b' →
    b.orderItemId = b'.orderItemId → b.status = .opened → b'.status ≠ .opened

/-- The conversations are in order at the moment `t`. -/
structure InOrder (t : DateTime) (st : Db) : Prop where
  latest : ∀ c b, Db.conversation st c = some b →
    IsGreatest (interactions st c b) b.lastInteractionAt
  past : ∀ c b, Db.conversation st c = some b → b.lastInteractionAt ≤ t
  first : ∀ c b c' b', c ≠ c' → Db.conversation st c = some b → Db.conversation st c' = some b' →
    b.orderItemId = b'.orderItemId → b.status = .opened → b'.lastInteractionAt < b.lastInteractionAt
  owned : ∀ id m, Db.message st id = some m → ∃ b, Db.conversation st m.conversationId = some b

/-- Before the first conversation. -/
lemma inOrder_of_empty {t : DateTime} {st : Db} (hc : ∀ c, Db.conversation st c = none)
    (hm : ∀ id, Db.message st id = none) : InOrder t st where
  latest c b hb := by rw [hc] at hb; cases hb
  past c b hb := by rw [hc] at hb; cases hb
  first c b c' b' _ hb := by rw [hc] at hb; cases hb
  owned id m hmsg := by rw [hm] at hmsg; cases hmsg

lemma InOrder.later {t t' : DateTime} {st : Db} (h : InOrder t st) (htt' : t ≤ t') :
    InOrder t' st :=
  ⟨h.latest, fun c b hb => (h.past c b hb).trans htt', h.first, h.owned⟩

/-- An item has at most one open conversation. -/
lemma InOrder.oneOpen {t : DateTime} {st : Db} (h : InOrder t st) : OneOpen st := by
  intro c b c' b' hne hb hb' hitem hopen hopen'
  have hlt := h.first c b c' b' hne hb hb' hitem hopen
  exact absurd (h.first c' b' c b hne.symm hb' hb hitem.symm hopen') hlt.asymm

/-- What becomes of a conversation after `t`, up to `t'`, and the moment of the message it got. -/
inductive Advance (t t' : DateTime) :
    Option Conversation → Option Conversation → Option DateTime → Prop
  /-- There is none. -/
  | absent : Advance t t' none none none
  /-- It has got no message; it may have been closed. -/
  | still {b b' : Conversation} : b'.createdAt = b.createdAt →
      b'.lastInteractionAt = b.lastInteractionAt → b'.orderItemId = b.orderItemId →
      (b'.status = .opened → b.status = .opened) → Advance t t' (some b) (some b') none
  /-- It is new. -/
  | opened {b : Conversation} : t < b.createdAt → b.createdAt ≤ t' →
      b.lastInteractionAt = b.createdAt → b.status = .opened → Advance t t' none (some b) none
  /-- It was open and got a message. -/
  | touched {b b' : Conversation} : t < b'.lastInteractionAt → b'.lastInteractionAt ≤ t' →
      b.status = .opened → b'.createdAt = b.createdAt → b'.orderItemId = b.orderItemId →
      Advance t t' (some b) (some b') (some b'.lastInteractionAt)

section Advance

variable {t t' : DateTime} {st st' : Db} {news : UUID → Option (UUID × Message)}

/-- The messages after those of `news` were sent. -/
structure Sent (news : UUID → Option (UUID × Message)) (st st' : Db) : Prop where
  sent : ∀ c id m, news c = some (id, m) →
    m.conversationId = c ∧ Db.message st id = none ∧ Db.message st' id = some m
  kept : ∀ id, (∀ c m, news c ≠ some (id, m)) → Db.message st' id = Db.message st id

/-- A message of a conversation is an old one, or the one that was sent. -/
lemma Sent.message_iff (h : Sent news st st') {c id : UUID} {m : Message} :
    Db.message st' id = some m ∧ m.conversationId = c
      ↔ Db.message st id = some m ∧ m.conversationId = c ∨ news c = some (id, m) := by
  by_cases hnew : ∃ c' m', news c' = some (id, m')
  · obtain ⟨c', m', hm'⟩ := hnew
    obtain ⟨hc', hnone, hsome⟩ := h.sent c' id m' hm'
    constructor
    · rintro ⟨hm, rfl⟩
      obtain rfl := Option.some.inj (hsome.symm.trans hm)
      exact .inr (hc' ▸ hm')
    · rintro (⟨hm, -⟩ | hm)
      · rw [hnone] at hm
        cases hm
      · exact ⟨(h.sent c id m hm).2.2, (h.sent c id m hm).1⟩
  · push Not at hnew
    rw [h.kept id hnew]
    exact ⟨.inl, fun hor => hor.resolve_right (hnew c m)⟩

/-- The moments of a conversation that stays: the old ones, and that of the message it got. -/
lemma Sent.mem_interactions (h : Sent news st st') {c : UUID} {b b' : Conversation} {u : DateTime}
    (hcreated : b'.createdAt = b.createdAt) :
    u ∈ interactions st' c b'
      ↔ u ∈ interactions st c b ∨ ∃ sent, news c = some sent ∧ sent.2.createdAt = u := by
  simp only [interactions, Set.mem_insert_iff, Set.mem_ofPred_eq, hcreated, or_assoc]
  refine or_congr_right ⟨?_, ?_⟩
  · rintro ⟨id, m, hm, hc, hu⟩
    rcases h.message_iff.mp ⟨hm, hc⟩ with ⟨hold, -⟩ | hnew
    · exact .inl ⟨id, m, hold, hc, hu⟩
    · exact .inr ⟨(id, m), hnew, hu⟩
  · rintro (⟨id, m, hm, hc, hu⟩ | ⟨⟨id, m⟩, hnew, hu⟩)
    · obtain ⟨hm', hc'⟩ := h.message_iff.mpr (.inl ⟨hm, hc⟩)
      exact ⟨id, m, hm', hc', hu⟩
    · obtain ⟨hm', hc'⟩ := h.message_iff.mpr (.inr hnew)
      exact ⟨id, m, hm', hc', hu⟩

/-- The last interaction stays the latest moment. -/
lemma InOrder.latest_advance (h : InOrder t st) (hsent : Sent news st st') {c : UUID}
    {b' : Conversation}
    (hc : Advance t t' (Db.conversation st c) (some b')
      ((news c).map fun sent => sent.2.createdAt)) :
    IsGreatest (interactions st' c b') b'.lastInteractionAt := by
  generalize hb : Db.conversation st c = b at hc
  generalize hn : (news c).map (fun sent => sent.2.createdAt) = n at hc
  cases hc with
  | still hcreated hlast hitem hopen =>
      rename_i b
      have hnone : news c = none := Option.map_eq_none_iff.mp hn
      rw [hlast]
      have hgreatest := h.latest c b hb
      refine ⟨(hsent.mem_interactions hcreated).mpr (.inl hgreatest.1), fun u hu => ?_⟩
      rcases (hsent.mem_interactions hcreated).mp hu with hold | ⟨sent, hsome, -⟩
      · exact hgreatest.2 hold
      · rw [hnone] at hsome
        cases hsome
  | opened hlt hle hlast hopen =>
      have hnone : news c = none := Option.map_eq_none_iff.mp hn
      rw [hlast]
      refine ⟨Set.mem_insert .., fun u hu => ?_⟩
      rcases Set.mem_insert_iff.mp hu with rfl | ⟨id, m, hm, hc, -⟩
      · exact le_rfl
      · -- a message would belong to a conversation that was there
        rcases hsent.message_iff.mp ⟨hm, hc⟩ with ⟨hold, -⟩ | hsome
        · obtain ⟨b, hb''⟩ := h.owned id m hold
          rw [hc, hb] at hb''
          cases hb''
        · rw [hnone] at hsome
          cases hsome
  | touched hlt hle hopen hcreated hitem =>
      rename_i b
      obtain ⟨sent, hsome, hnow⟩ := Option.map_eq_some_iff.mp hn
      refine ⟨(hsent.mem_interactions hcreated).mpr (.inr ⟨sent, hsome, hnow⟩), fun u hu => ?_⟩
      rcases (hsent.mem_interactions hcreated).mp hu with hold | ⟨sent', hsome', rfl⟩
      · calc u ≤ b.lastInteractionAt := (h.latest c b hb).2 hold
          _ ≤ t := h.past c b hb
          _ ≤ b'.lastInteractionAt := hlt.le
      · obtain rfl := Option.some.inj (hsome.symm.trans hsome')
        exact hnow.le

/-- The open conversation of an item stays ahead of another one of the item, where a transaction
that makes one of the two touches neither, and leaves the other closed. -/
lemma InOrder.first_advance (h : InOrder t st) {c c' : UUID} {b' d' : Conversation}
    {n n' : Option DateTime} (hne : c ≠ c') (hc : Advance t t' (Db.conversation st c) (some b') n)
    (hc' : Advance t t' (Db.conversation st c') (some d') n')
    (hitem : b'.orderItemId = d'.orderItemId) (hopen : b'.status = .opened)
    (halone : Db.conversation st c = none ∨ Db.conversation st c' = none →
      n = none ∧ n' = none ∧ d'.status ≠ .opened) :
    d'.lastInteractionAt < b'.lastInteractionAt := by
  generalize hb : Db.conversation st c = b at hc
  generalize hd : Db.conversation st c' = d at hc'
  cases hc with
  | still hcreated hlast hitem₁ hopen₁ =>
      rename_i b
      cases hc' with
      | still hcreated' hlast' hitem' hopen' =>
          rw [hlast, hlast']
          exact h.first c b c' _ hne hb hd (hitem₁.symm.trans (hitem.trans hitem')) (hopen₁ hopen)
      | opened hlt' hle' hlast' hopen' => exact absurd hopen' (halone (.inr hd)).2.2
      | touched hlt' hle' hopen' hcreated' hitem' =>
          -- both were open
          exact absurd hopen' (h.oneOpen c b c' _ hne hb hd
            (hitem₁.symm.trans (hitem.trans hitem')) (hopen₁ hopen))
  | opened hlt hle hlast hopen₁ =>
      cases hc' with
      | still hcreated' hlast' hitem' hopen' =>
          rw [hlast, hlast']
          exact (h.past c' _ hd).trans_lt hlt
      | opened hlt' hle' hlast' hopen' => exact absurd hopen' (halone (.inl hb)).2.2
      | touched hlt' hle' hopen' hcreated' hitem' => exact absurd (halone (.inl hb)).2.1 (by simp)
  | touched hlt hle hopen₁ hcreated hitem₁ =>
      rename_i b
      cases hc' with
      | still hcreated' hlast' hitem' hopen' =>
          rw [hlast']
          exact (h.past c' _ hd).trans_lt hlt
      | opened hlt' hle' hlast' hopen' => exact absurd hopen' (halone (.inr hd)).2.2
      | touched hlt' hle' hopen' hcreated' hitem' =>
          exact absurd hopen' (h.oneOpen c b c' _ hne hb hd
            (hitem₁.symm.trans (hitem.trans hitem')) hopen₁)

/-- A conversation stays, and a message is sent to one that is there. -/
lemma InOrder.owned_advance (h : InOrder t st)
    (hadv : ∀ c, Advance t t' (Db.conversation st c) (Db.conversation st' c)
      ((news c).map fun sent => sent.2.createdAt))
    (hsent : Sent news st st') {id : UUID} {m : Message} (hm : Db.message st' id = some m) :
    ∃ b, Db.conversation st' m.conversationId = some b := by
  have hstays : ∀ c b, Db.conversation st c = some b → ∃ b', Db.conversation st' c = some b' := by
    intro c b hb
    have hc := hadv c
    rw [hb] at hc
    generalize Db.conversation st' c = b' at hc
    generalize (news c).map (fun sent => sent.2.createdAt) = n at hc
    cases hc <;> exact ⟨_, rfl⟩
  rcases hsent.message_iff.mp ⟨hm, rfl⟩ with ⟨hold, -⟩ | hnew
  · obtain ⟨b, hb⟩ := h.owned id m hold
    exact hstays _ b hb
  · have hc := hadv m.conversationId
    rw [hnew] at hc
    generalize Db.conversation st m.conversationId = b at hc
    generalize hb' : Db.conversation st' m.conversationId = b' at hc
    generalize hn : (some (id, m)).map (fun sent => sent.2.createdAt) = n at hc
    cases hc with
    | touched _ _ _ _ _ => exact ⟨_, rfl⟩
    | _ => cases hn

/-- **The conversations stay in order**, when a transaction makes new conversations or sends
messages, but not both, and leaves no two open conversations of an item. -/
theorem InOrder.advance (h : InOrder t st) (htt' : t ≤ t')
    (hadv : ∀ c, Advance t t' (Db.conversation st c) (Db.conversation st' c)
      ((news c).map fun sent => sent.2.createdAt))
    (hsent : Sent news st st')
    (hapart : (∀ c, news c = none) ∧ OneOpen st' ∨
      ∀ c, Db.conversation st c = none → Db.conversation st' c = none) : InOrder t' st' := by
  refine ⟨fun c b' hb' => h.latest_advance hsent (hb' ▸ hadv c), fun c b' hb' => ?_,
    fun c b' c' d' hne hb' hd' hitem hopen => ?_, fun id m hm => h.owned_advance hadv hsent hm⟩
  · have hc := hadv c
    generalize hb : Db.conversation st c = b at hc
    rw [hb'] at hc
    generalize (news c).map (fun sent => sent.2.createdAt) = n at hc
    cases hc with
    | still hcreated hlast hitem hopen =>
        rw [hlast]
        exact (h.past c _ hb).trans htt'
    | opened hlt hle hlast hopen => rwa [hlast]
    | touched hlt hle hopen hcreated hitem => exact hle
  · refine h.first_advance hne (hb' ▸ hadv c) (hd' ▸ hadv c') hitem hopen fun hnone => ?_
    -- a new conversation leaves no room for a message, nor for another open conversation
    rcases hapart with ⟨hnews, hone⟩ | hnew
    · refine ⟨by rw [hnews]; rfl, by rw [hnews]; rfl, ?_⟩
      exact hone c b' c' d' hne hb' hd' hitem hopen
    · rcases hnone with hnone | hnone
      · rw [hnew c hnone] at hb'
        cases hb'
      · rw [hnew c' hnone] at hd'
        cases hd'

end Advance

/-! ### Requests that make no conversation -/

/-- The terms of a request that runs alone, after `t` and up to `t'`, and judges the conversation
it has locked. -/
def livingTerms (t t' : DateTime) : Terms :=
  { clockTerms (· < ·) t t' with expired := fun b x _ => x = b }

/-- What the objects of the conversations were loaded as is what the session sees of them. -/
def Living (st : Db) (s : AppSession) : Prop := ∀ c, s.Current (.conversation c) st

lemma stands_living : Stands jobOp Living where
  first _ _ := .empty
  step op st ch b s s' hok h he c := by
    refine (h c).step ?_ he
    cases op with
    | update k m f => exact hok.elim
    | delete k referenced => exact hok.elim
    | _ => trivial

lemma living_tells (C : Db → AppSession → Prop) (t t' : DateTime) :
    Tells (Outline.timed (· < ·) Living C t t') (livingTerms t t') where
  moved _ _ _ h := h
  clock _ _ _ h := ⟨h.1, h.2.1⟩
  expired st s ch c b x h hheld hobj := by
    have hrow := h.2.2 c _ x hobj rfl
    rw [lookup_view, hheld] at hrow
    exact (Option.some.inj hrow).symm

section Bodies

variable {settings : Settings}

lemma job_loadOr {k : Key} (e : DomainError) (row : Option (Row k)) :
    (loadOr e row).AllOps jobOp := by
  cases row <;> trivial

lemma job_scalar {k : Key} (stmt : Db → Option (List Key)) :
    (Prog.scalar k stmt : Txn (Option (Row k))).AllOps jobOp :=
  Prog.allOps_scalar trivial trivial

lemma job_sendMessage (c : UUID) (authorType : AuthorType) (user : Option UUID) (content : String)
    (now : DateTime) : (sendMessage c authorType user content now).AllOps jobOp :=
  ⟨trivial, fun id => ⟨⟨id, rfl⟩, fun _ => allOps_job_flush.bind fun _ => trivial⟩⟩

lemma job_maybeCloseInactive (c : UUID) (conversation : Conversation) :
    (maybeCloseInactive settings c conversation).AllOps jobOp := by
  have hinactive : (isInactive settings conversation).AllOps jobOp := by
    rw [isInactive]
    split
    · trivial
    · exact ⟨trivial, fun _ => trivial⟩
  have hclose : (closeForInactivity c conversation).AllOps jobOp := by
    rw [closeForInactivity]
    split
    · trivial
    · exact ⟨trivial, fun _ => (job_sendMessage _ _ _ _ _).bind fun _ => ⟨⟨_, rfl⟩, fun _ =>
        ⟨trivial, fun _ => ⟨trivial, fun _ => trivial⟩⟩⟩⟩
  refine hinactive.bind fun inactive => ?_
  cases inactive with
  | false => trivial
  | true => exact hclose.bind fun _ => trivial

lemma job_loadParticipantConversation (c : UUID) (user : CurrentUser) :
    (loadParticipantConversation c user).AllOps jobOp := by
  rw [loadParticipantConversation]
  split
  · exact (job_scalar _).bind fun _ => job_loadOr _ _
  · exact (job_scalar _).bind fun _ => job_loadOr _ _
  · trivial

lemma job_getConversation (c : UUID) (user : CurrentUser) :
    (getConversation settings c user).AllOps jobOp :=
  (job_loadParticipantConversation c user).bind fun _ =>
    (job_maybeCloseInactive _ _).bind fun _ => trivial

lemma job_closeConversation (c : UUID) (seller : CurrentUser) :
    (closeConversation settings c seller).AllOps jobOp := by
  have hseller : (requireSeller seller).AllOps jobOp := by
    rw [requireSeller]
    split <;> trivial
  refine hseller.bind fun sellerId => Prog.AllOps.bind ((job_scalar _).bind fun _ => job_loadOr _ _)
    fun conversation => Prog.AllOps.bind ((job_maybeCloseInactive _ _).bind fun conversation => ?_)
      fun _ => trivial
  split
  · trivial
  · exact ⟨trivial, fun _ => ⟨⟨_, rfl⟩, fun _ => ⟨trivial, fun _ => trivial⟩⟩⟩

lemma job_createMessage (c : UUID) (content : String) (user : CurrentUser) :
    (createMessage settings c content user).AllOps jobOp := by
  have hauthor : (authorTypeFor user).AllOps jobOp := by
    rw [authorTypeFor]
    split <;> trivial
  refine (job_loadParticipantConversation c user).bind fun conversation =>
    (job_maybeCloseInactive _ _).bind fun conversation => ?_
  split
  · trivial
  · exact ⟨trivial, fun _ => hauthor.bind fun _ => (job_sendMessage _ _ _ _ _).bind fun _ =>
      ⟨⟨_, rfl⟩, fun _ => ⟨trivial, fun _ => trivial⟩⟩⟩

lemma job_listMessages (c : UUID) (user : CurrentUser) (before : Option QueryDateTime) :
    (listMessages settings c user before).AllOps jobOp := by
  have hbefore : (validateBefore before).AllOps jobOp := by
    cases before with
    | none => trivial
    | some before =>
        dsimp only [validateBefore]
        split
        · trivial
        · refine Prog.AllOps.bind ⟨trivial, fun _ => trivial⟩ fun moment => ?_
          split <;> trivial
  exact hbefore.bind fun _ => (job_loadParticipantConversation c user).bind fun _ =>
    (job_maybeCloseInactive _ _).bind fun _ => ⟨trivial, fun _ => ⟨trivial, fun _ =>
      ⟨trivial, fun _ => trivial⟩⟩⟩

lemma job_loadParticipantItem (itemId : UUID) (user : CurrentUser) :
    (loadParticipantItem itemId user).AllOps jobOp := by
  rw [loadParticipantItem]
  split
  · exact (job_scalar _).bind fun _ => job_loadOr _ _
  · exact (job_scalar _).bind fun _ => job_loadOr _ _
  · trivial

lemma job_closeAllListed (ids : List UUID) : (closeAllListed settings ids).AllOps jobOp := by
  induction ids with
  | nil => trivial
  | cons id ids ih =>
      refine Prog.AllOps.bind (Prog.AllOps.bind ⟨trivial, fun _ => trivial⟩ fun conversation => ?_)
        fun _ => ih
      cases conversation with
      | none => trivial
      | some conversation =>
          dsimp only
          split
          · refine (job_scalar _).bind fun locked => ?_
            cases locked with
            | none => trivial
            | some locked => exact (job_maybeCloseInactive _ _).bind fun _ => trivial
          · trivial

lemma job_listConversations (itemId : UUID) (user : CurrentUser) :
    (listConversations settings itemId user).AllOps jobOp := by
  have hresponses : ∀ ids, (listResponses ids).AllOps jobOp := by
    intro ids
    induction ids with
    | nil => trivial
    | cons id ids ih => exact ⟨trivial, fun _ => ih.bind fun _ => trivial⟩
  exact (job_loadParticipantItem _ _).bind fun _ => ⟨trivial, fun ids =>
    (job_closeAllListed ids).bind fun _ => ⟨trivial, fun _ => hresponses _⟩⟩

end Bodies

/-! ### What the transactions keep -/

/-- A deed after `t`, up to `t'`. -/
lemma Deed.advance {settings : Settings} {t t' : DateTime} {st : Db} {c : UUID}
    {b b' : Option Conversation} {m : Option (UUID × Message)} {events : List Event}
    (h : Deed (livingTerms t t') settings st c b b' m events) :
    Advance t t' b b' (m.map fun sent => sent.2.createdAt)
      ∧ ∀ id r, m = some (id, r) → r.conversationId = c := by
  cases h with
  | nothing b =>
      cases b with
      | none => exact ⟨.absent, fun _ _ h => by cases h⟩
      | some b => exact ⟨.still rfl rfl rfl id, fun _ _ h => by cases h⟩
  | created itemId reason now hclock _ _ =>
      exact ⟨.opened hclock.1 hclock.2 rfl rfl, fun _ _ h => by cases h⟩
  | messaged id user content now hclock hopen _ =>
      exact ⟨.touched hclock.1 hclock.2 hopen rfl rfl, fun _ _ h => by cases h; rfl⟩
  | expired b id now hclock hopen _ hheld =>
      obtain rfl := hheld
      rw [Conversation.patch_self]
      exact ⟨.touched hclock.1 hclock.2 hopen rfl rfl, fun _ _ h => by cases h; rfl⟩
  | shut now _ hopen => exact ⟨.still rfl rfl rfl fun _ => hopen, fun _ _ h => by cases h⟩
  | recalculated b now _ _ _ _ =>
      refine ⟨.still ?_ ?_ ?_ ?_, fun _ _ h => by cases h⟩ <;>
        simp [Conversation.patch, column]
  | overridden b override now _ _ => exact ⟨.still rfl rfl rfl id, fun _ _ h => by cases h⟩

/-- The deeds of a transaction keep the conversations in order. -/
lemma InOrder.deeds {settings : Settings} {t t' : DateTime} {st st' : Db} {events : List Event}
    {news : UUID → Option (UUID × Message)} (h : InOrder t st) (htt' : t ≤ t')
    (hdeeds : Deeds (livingTerms t t') settings news st st' events)
    (hapart : (∀ c, news c = none) ∧ OneOpen st' ∨
      ∀ c, Db.conversation st c = none → Db.conversation st' c = none) : InOrder t' st' :=
  h.advance htt' (fun c => (hdeeds.conversation c).advance.1)
    ⟨fun c id m hm => ⟨(hdeeds.conversation c).advance.2 id m hm, hdeeds.sent c id m hm⟩,
      hdeeds.kept⟩ hapart

section Since

variable {settings : Settings} {cs : ℕ → Choice} {α β : Type} {body : Txn β} {g : β → α}
  {x : Stage Row Event}

/-- A transaction that makes no conversation. -/
lemma since_living (hcs : Clock (· < ·) cs) (hbody : body.Uncommitted) (hjob : body.AllOps jobOp)
    (hdid : ∀ (C : Db → AppSession → Prop) t t' st,
      (∀ st s, Did (livingTerms t t') settings st s → C st s) →
      wp (Outline.timed (· < ·) Living C t t') (ending body g) (fun _ _ _ => True) st ∅)
    (h : x.Since (· < ·) cs fun t st _ => InOrder t st) :
    (x.after cs (ending body g)).Since (· < ·) cs fun t st _ => InOrder t st := by
  have hending : (ending body g).AllOps jobOp :=
    hjob.bind fun _ => allOps_job_flush.bind fun _ => trivial
  refine since_transaction (C := fun t t' st s => Did (livingTerms t t') settings st s
      ∧ ∀ c, Db.conversation st c = none → Db.conversation (merge st s.held) c = none) hcs
    stands_living hbody hjob allOps_job_flush (fun t t' st _ htt' hJ => hJ.later htt')
    (fun t t' st htt' => ?_) (fun t t' st log s htt' hJ hag hC => ?_) h
  · -- what it has done, and that no conversation is new
    refine wp_and (o := Outline.timed (· < ·) Living (fun _ _ => True) t t')
      (hdid _ t t' st fun _ _ hd => hd) ?_
    refine wp_of_allOps (I := fun s : AppSession => ∀ c, s.Without (Key.conversation c)) hending
      (fun _ op _ _ _ _ _ _ hok hs he c => (hs c).step (jobOp_spares c op hok) he)
      (fun st s hs hag c => (hs c).absent hag) (fun _ => .empty) (fun _ _ _ _ => trivial)
      fun _ => .empty
  · obtain ⟨⟨news, hdeeds⟩, hnone⟩ := hC
    exact hJ.deeds htt' hdeeds (.inr hnone)

/-! #### New conversations -/

lemma clash_symm (k : Key) (r : Row k) (k' : Key) (r' : Row k') :
    Table.clash k r k' r' = Table.clash k' r' k r := by
  have huser : ∀ u v : UUID, ∀ r r' : User,
      uniqueClash (.user u) r (.user v) r' = uniqueClash (.user v) r' (.user u) r := by
    intro u v r r'
    simp only [uniqueClash, Bool.beq_comm]
    cases r.sellerId <;> cases r'.sellerId <;> simp
  cases k with
  | user u =>
      cases k' with
      | user v => exact huser u v r r'
      | _ => rfl
  | _ =>
      cases k' <;> simp only [Table.clash, uniqueClash, Bool.and_comm, Bool.beq_comm]

/-- The rows of the table `conversations`. -/
def conversationRows (k : Key) : Prop := k.isConversation = true

/-- Open conversations of one item stand in each other's way. -/
lemma clash_conversation {c c' : UUID} {b b' : Conversation} :
    uniqueClash (.conversation c) b (.conversation c') b' = false
      ↔ (b.orderItemId = b'.orderItemId → b.status = .opened → b'.status ≠ .opened) := by
  change (b.status == .opened && b'.status == .opened && b.orderItemId == b'.orderItemId) = false
    ↔ _
  simp only [Bool.and_eq_false_iff, beq_eq_false_iff_ne]
  tauto

lemma oneOpen_iff {v : Db} : OneOpen v ↔ Unclashed conversationRows v := by
  constructor
  · intro h k r k' r' hk hk' hne hr hr'
    cases k with
    | conversation c =>
        cases k' with
        | conversation c' =>
            exact clash_conversation.mpr (h c r c' r' (fun heq => hne (heq ▸ rfl)) hr hr')
        | _ => cases hk'
    | _ => cases hk
  · intro h c b c' b' hne hb hb'
    exact clash_conversation.mp
      (h (.conversation c) b (.conversation c') b' rfl rfl (by simpa using hne) hb hb')

/-- The steps of a request that opens a conversation. -/
def openingOp {γ : Type} (op : Op Row Event γ) : Prop := op.opens ∧ op.within conversationRows

lemma opening_scalar {k : Key} (stmt : Db → Option (List Key)) :
    (Prog.scalar k stmt : Txn (Option (Row k))).AllOps openingOp :=
  Prog.allOps_scalar ⟨trivial, trivial⟩ ⟨trivial, trivial⟩

lemma opening_flush : (Prog.flush : Txn Unit).AllOps openingOp :=
  Prog.allOps_flush ⟨trivial, trivial⟩ fun _ => ⟨trivial, trivial⟩

lemma opening_createConversation (itemId : UUID) (reason : ConversationReason)
    (user : CurrentUser) :
    (createConversation itemId reason user).AllOps openingOp := by
  have hloadOr : ∀ {k : Key} (e : DomainError) (row : Option (Row k)),
      (loadOr e row).AllOps openingOp := by
    intro k e row
    cases row <;> trivial
  have hload : (loadParticipantItem itemId user true).AllOps openingOp := by
    rw [loadParticipantItem]
    split
    · exact (opening_scalar _).bind fun _ => hloadOr _ _
    · exact (opening_scalar _).bind fun _ => hloadOr _ _
    · trivial
  have hopen : (openForItem itemId).AllOps openingOp := by
    refine Prog.AllOps.bind ⟨⟨trivial, trivial⟩, fun _ => trivial⟩ fun ids => ?_
    split
    · trivial
    · exact ⟨⟨trivial, trivial⟩, fun _ => trivial⟩
  refine hload.bind fun _ => Prog.AllOps.bind (hopen.bind fun existing => ?_) fun _ => trivial
  cases existing with
  | some existing => trivial
  | none =>
      have hget : (Prog.get (Key.orderItem itemId) : Txn (Option OrderItem)).AllOps openingOp :=
        Prog.allOps_get ⟨trivial, trivial⟩ ⟨trivial, trivial⟩
      refine ⟨⟨trivial, trivial⟩, fun now => hget.bind fun item => (hloadOr _ _).bind fun item =>
        ⟨⟨trivial, trivial⟩, fun id => ⟨⟨trivial, rfl⟩, fun inserted => ?_⟩⟩⟩
      cases inserted with
      | true => exact ⟨⟨trivial, trivial⟩, fun _ => trivial⟩
      | false =>
          refine hopen.bind fun existing => ?_
          cases existing <;> trivial

/-- A transaction that opens a conversation. -/
lemma since_opening (settings : Settings) (hcs : Clock (· < ·) cs) (itemId : UUID)
    (reason : ConversationReason) (user : CurrentUser) (g : ConversationResponse × Bool → α)
    (h : x.Since (· < ·) cs fun t st _ => InOrder t st) :
    (x.after cs (ending (createConversation itemId reason user) g)).Since (· < ·) cs
      fun t st _ => InOrder t st := by
  have hbody := opening_createConversation itemId reason user
  have hending : (ending (createConversation itemId reason user) g).AllOps openingOp :=
    hbody.bind fun _ => opening_flush.bind fun _ => trivial
  have hstands : Stands openingOp Living := by
    refine ⟨fun _ _ => .empty, fun op st ch b s s' hok h he c => (h c).step ?_ he⟩
    cases op with
    | update k m f => exact hok.1.elim
    | delete k referenced => exact hok.1.elim
    | _ => trivial
  refine since_transaction (C := fun t t' st s => Did (livingTerms t t') settings st s
      ∧ Kept conversationRows st s ∧ s.Opens conversationRows st) hcs
    hstands (body_createConversation itemId reason user).uncommitted hbody opening_flush
    (fun t t' st _ htt' hJ => hJ.later htt') (fun t t' st htt' => ?_)
    (fun t t' st log s htt' hJ hag hC => ?_) h
  · refine wp_and (o := Outline.timed (· < ·) Living (fun _ _ => True) t t')
      (wp_createConversation (living_tells _ t t') (fun _ _ hd => hd) fun _ _ _ => trivial) ?_
    refine wp_and (o := Outline.timed (· < ·) Living (fun _ _ => True) t t')
      (wp_within (hending.mono fun _ hok => hok.2) (fun _ _ _ hk => hk) fun _ _ _ => trivial) ?_
    exact wp_alone_of_allOps (I := fun st s => s.Opens conversationRows st) (fun _ _ _ hr => hr)
      hending (fun _ _ _ _ _ _ _ _ hok hs he => hs.step clash_symm hok.1 he) (fun _ _ hs => hs)
      (fun _ => .empty) (fun _ _ _ _ => trivial) .empty
  · obtain ⟨⟨news, hdeeds⟩, hkept, hopens⟩ := hC
    refine hJ.deeds htt' hdeeds (.inl ⟨fun c => ?_, oneOpen_iff.mpr (hopens.unclashed
      (oneOpen_iff.mp hJ.oneOpen))⟩)
    -- no message is sent
    cases hnews : news c with
    | none => rfl
    | some sent =>
        obtain ⟨hnone, hsome⟩ := hdeeds.sent c sent.1 sent.2 hnews
        have hsame := hkept (.message sent.1) (by simp [conversationRows, Key.isConversation])
        exact absurd (hnone.symm.trans (hsame.symm.trans hsome)) (by simp)

/-! #### Runs -/

/-- **A request around conversations keeps them in order.** -/
theorem ConversationRequest.since (hcs : Clock (· < ·) cs) (r : ConversationRequest)
    (h : x.Since (· < ·) cs fun t st _ => InOrder t st) :
    (x.after cs (r.run settings)).Since (· < ·) cs fun t st _ => InOrder t st := by
  cases r with
  | createConversation itemId reason user =>
      rw [ConversationRequest.run, transaction_ignore]
      exact since_opening settings hcs itemId reason user _ h
  | listConversations itemId user =>
      rw [ConversationRequest.run, transaction_ignore]
      exact since_living hcs (body_listConversations settings itemId user).uncommitted
        (job_listConversations itemId user) (fun C t t' st hC =>
          wp_listConversations (living_tells C t t') hC (fun _ _ => trivial) user _) h
  | getConversation c user =>
      rw [ConversationRequest.run, transaction_ignore]
      exact since_living hcs (body_getConversation settings c user).uncommitted
        (job_getConversation c user) (fun C t t' st hC =>
          wp_getConversation (living_tells C t t') hC (fun _ _ => trivial) user _) h
  | closeConversation c seller =>
      rw [ConversationRequest.run, transaction_ignore]
      exact since_living hcs (body_closeConversation settings c seller).uncommitted
        (job_closeConversation c seller) (fun C t t' st hC =>
          wp_closeConversation (living_tells C t t') hC (fun _ _ => trivial) seller _) h
  | createMessage c content user =>
      rw [ConversationRequest.run, transaction_ignore]
      exact since_living hcs (body_createMessage settings c content user).uncommitted
        (job_createMessage c content user) (fun C t t' st hC =>
          wp_createMessage (living_tells C t t') hC (fun _ _ => trivial) content user _) h
  | listMessages c user before =>
      rw [ConversationRequest.run, transaction_ignore]
      exact since_living hcs (body_listMessages settings c user before).uncommitted
        (job_listMessages c user before) (fun C t t' st hC =>
          wp_listMessages (living_tells C t t') hC (fun _ _ => trivial) user before _) h
  -- one transaction for the ids and one for each of them
  | runCloseInactive =>
      change (x.after cs ((MarketHub.runCloseInactive settings).bind fun _ =>
        .pure ())).Since _ cs _
      rw [after_map]
      refine since_runCloseInactive (fun y hy => ?_) (fun c y hy => ?_) h
      · exact since_living hcs (uncommitted_eligibleIds settings) (allOps_eligibleIds settings)
          (fun C t t' st hC => wp_eligibleIds (living_tells C t t') hC fun _ _ => trivial) hy
      · exact since_living hcs (uncommitted_closeOneInactive settings c)
          (allOps_closeOneInactive settings c)
          (fun C t t' st hC => wp_closeOneInactive (living_tells C t t') hC fun _ _ => trivial) hy

end Since

end MarketHub
