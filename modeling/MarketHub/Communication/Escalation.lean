import MarketHub.Communication.Timeline
import MarketHub.Communication.Staleness

/-!
The calculated priority only rises.

* `calculatePriority_mono`, `calculatePriority_ne_critical`: the policy is monotone in the age and
  in the value, and leaves the highest level to Ops.
* `Calculated`: a stored priority is what the policy gave at some moment up to now. While the
  status of the item stays, a later result is no lower (`Calculated.le`).
* `Rising`: this for one conversation, with a level it has already reached; every request
  keeps it (`Rising.request`).
-/

namespace MarketHub

open ReadCommitted Session

/-! ### The policy -/

/-- The levels, from low to critical. -/
def Priority.level : Priority → ℕ
  | .low => 0
  | .medium => 1
  | .high => 2
  | .critical => 3

section Policy

variable {age age' : ℤ} {price price' : ℕ} {now now' : DateTime}

lemma ageBucketRank_mono (h : age ≤ age') : ageBucketRank age ≤ ageBucketRank age' := by
  simp only [ageBucketRank, ageBucketHours, List.findIdx_cons, List.findIdx_nil]
  by_cases h₁ : age < hours 4
  · simp [h₁]
  by_cases h₂ : age < hours 12
  · have h₁' : ¬ age' < hours 4 := by omega
    simp [h₁, h₂, h₁']
  by_cases h₃ : age < hours 24
  · have h₁' : ¬ age' < hours 4 := by omega
    have h₂' : ¬ age' < hours 12 := by omega
    simp [h₁, h₂, h₃, h₁', h₂']
  by_cases h₄ : age < hours 48
  · have h₁' : ¬ age' < hours 4 := by omega
    have h₂' : ¬ age' < hours 12 := by omega
    have h₃' : ¬ age' < hours 24 := by omega
    simp [h₁, h₂, h₃, h₄, h₁', h₂', h₃']
  · have h₁' : ¬ age' < hours 4 := by omega
    have h₂' : ¬ age' < hours 12 := by omega
    have h₃' : ¬ age' < hours 24 := by omega
    have h₄' : ¬ age' < hours 48 := by omega
    simp [h₁, h₂, h₃, h₄, h₁', h₂', h₃', h₄']

/-- The weights increase with the rank. -/
lemma ageWeight_eq : ageWeight age = 25 * ageBucketRank age := by
  have hlt : ageBucketRank age < 5 := ageBucketRank_lt age
  rw [ageWeight]
  interval_cases ageBucketRank age <;> rfl

lemma ageWeight_mono (h : age ≤ age') : ageWeight age ≤ ageWeight age' := by
  rw [ageWeight_eq, ageWeight_eq]
  exact Nat.mul_le_mul_left 25 (ageBucketRank_mono h)

lemma valueWeight_mono (h : price ≤ price') : valueWeight price ≤ valueWeight price' := by
  simp only [valueWeight]
  split_ifs <;> omega

lemma classify_mono {s s' : ℕ} (h : s ≤ s') : (classify s).level ≤ (classify s').level := by
  simp only [classify]
  split_ifs <;> simp only [Priority.level] <;> omega

/-- **The policy is monotone** in the age and in the value. -/
lemma calculatePriority_mono (reason : ConversationReason) (status : OrderItemStatus)
    (createdAt : DateTime) (hprice : price ≤ price') (hnow : now ≤ now') :
    (calculatePriority reason status createdAt price now).level
      ≤ (calculatePriority reason status createdAt price' now').level := by
  have hage : ageWeight (now - createdAt) ≤ ageWeight (now' - createdAt) :=
    ageWeight_mono (sub_le_sub_right hnow createdAt)
  have hvalue := valueWeight_mono hprice
  refine classify_mono ?_
  rw [score, score]
  omega

/-- The policy does not reach the level of Ops. -/
lemma calculatePriority_ne_critical (reason : ConversationReason) (status : OrderItemStatus)
    (createdAt : DateTime) : calculatePriority reason status createdAt price now ≠ .critical := by
  rw [calculatePriority, classify]
  split_ifs <;> simp

end Policy

/-! ### A stored priority -/

/-- The stored priority is what the policy gave at some moment up to `t` for the item with the
status `status`. -/
def Calculated (status : OrderItemStatus) (t : DateTime) (v : Db) (b : Conversation) : Prop :=
  ∃ item p, Db.orderItem v b.orderItemId = some item ∧ p ≤ t ∧ b.calculatedPriority
    = calculatePriority b.reason status b.createdAt item.purchasePrice p

section Calculated

variable {settings : Settings} {status : OrderItemStatus} {t t' : DateTime} {st v : Db}
  {b b' : Conversation} {c i : UUID} {news : Option (UUID × Message)} {events : List Event}

lemma Calculated.later (h : Calculated status t v b) (ht : t ≤ t') : Calculated status t' v b := by
  obtain ⟨item, p, hitem, hp, hcalculated⟩ := h
  exact ⟨item, p, hitem, hp.trans ht, hcalculated⟩

lemma Calculated.same (h : Calculated status t v b) (hsame : SamePriority b b') :
    Calculated status t v b' := by
  obtain ⟨item, p, hitem, hp, hcalculated⟩ := h
  refine ⟨item, p, by rw [hsame.orderItemId]; exact hitem, hp, ?_⟩
  rw [hsame.calculatedPriority, hsame.reason, hsame.createdAt, hcalculated]

/-- The price of an item stays, whatever becomes of it. -/
lemma ItemDeed.purchasePrice {T : Terms} {item item' : OrderItem}
    (h : ItemDeed T i (some item) (some item') events) :
    item'.purchasePrice = item.purchasePrice := by
  cases h <;> rfl

/-- An item stays. -/
lemma ItemDeed.stays {T : Terms} {item : OrderItem} {row : Option OrderItem}
    (h : ItemDeed T i (some item) row events) : ∃ item', row = some item' := by
  cases h <;> exact ⟨_, rfl⟩

/-- A deed on the item of a conversation. -/
lemma Calculated.item {T : Terms} (h : Calculated status t st b)
    (hdeed : ItemDeed T b.orderItemId (Db.orderItem st b.orderItemId) (Db.orderItem v b.orderItemId)
      events) : Calculated status t v b := by
  obtain ⟨item, p, hitem, hp, hcalculated⟩ := h
  rw [hitem] at hdeed
  obtain ⟨item', hitem'⟩ := hdeed.stays
  rw [hitem'] at hdeed
  exact ⟨item', p, hitem', hp, by rw [hdeed.purchasePrice, hcalculated]⟩

/-- **A new result** for the same status is no lower. -/
lemma Calculated.le {item : OrderItem} (h : Calculated status t st b) (ht : t ≤ t')
    (hitem : Db.orderItem st b.orderItemId = some item) (hstatus : item.status = status) :
    Calculated status t' st (recalculate b item t')
      ∧ b.calculatedPriority.level ≤ (recalculate b item t').calculatedPriority.level := by
  obtain ⟨item', p, hitem', hp, hcalculated⟩ := h
  obtain rfl : item' = item := Option.some.inj (hitem'.symm.trans hitem)
  subst hstatus
  refine ⟨⟨item', t', by rw [recalculate_orderItemId]; exact hitem, le_rfl, ?_⟩, ?_⟩
  · rw [recalculate_calculatedPriority, recalculate_reason, recalculate_createdAt]
  · rw [hcalculated, recalculate_calculatedPriority]
    exact calculatePriority_mono _ _ _ le_rfl (hp.trans ht)

/-- **A deed on a conversation** while the status of its item stays: the stored priority is a
result again, and no lower. -/
lemma Deed.calculated {row : Option Conversation} (hrow : Db.conversation st c = row)
    (hstatus : ∀ item, Db.orderItem st b'.orderItemId = some item → item.status = status)
    (hold : ∀ b, row = some b → b.orderItemId = b'.orderItemId → Calculated status t st b)
    (htt' : t ≤ t') (h : Deed (clockTerms (· ≤ ·) t t') settings st c row (some b') news events) :
    Calculated status t' st b' ∧ ∀ b, row = some b → b.orderItemId = b'.orderItemId
      ∧ b.calculatedPriority.level ≤ b'.calculatedPriority.level := by
  have hsame : ∀ b, row = some b → SamePriority b b' → Calculated status t' st b'
      ∧ ∀ b, row = some b → b.orderItemId = b'.orderItemId
        ∧ b.calculatedPriority.level ≤ b'.calculatedPriority.level := by
    intro b hb hsame
    refine ⟨((hold b hb hsame.orderItemId.symm).same hsame).later htt', fun b₁ hb₁ => ?_⟩
    obtain rfl : b = b₁ := Option.some.inj (hb.symm.trans hb₁)
    exact ⟨hsame.orderItemId.symm, by rw [hsame.calculatedPriority]⟩
  cases h with
  | nothing => exact hsame b' rfl ⟨rfl, rfl, rfl, rfl, rfl⟩
  | @created v item itemId reason now hclock hmoved hitem =>
      obtain rfl : st = v := hmoved
      have hst : item.status = status := hstatus item hitem
      subst hst
      exact ⟨⟨item, now, hitem, hclock.2, rfl⟩, fun b hb => by cases hb⟩
  | @messaged b authorType id user content now hclock hopen hauthor =>
      exact hsame b rfl ⟨rfl, rfl, rfl, rfl, rfl⟩
  | @expired x seen b id now hclock hopen hinactive hexpired =>
      refine hsame b rfl ⟨?_, ?_, ?_, ?_, ?_⟩ <;>
        simp [Conversation.patch, column, Conversation.expire, Conversation.touch]
  | @shut b now hclock hopen => exact hsame b rfl ⟨rfl, rfl, rfl, rfl, rfl⟩
  | @recalculated v x item b now hclock hmoved hx hitem =>
      obtain rfl : st = v := hmoved
      obtain rfl : b = x := Option.some.inj (hrow.symm.trans hx)
      rw [Conversation.patch_self, recalculate_orderItemId] at hstatus hold ⊢
      obtain ⟨hnew, hle⟩ := (hold b rfl rfl).le hclock.1 hitem (hstatus item hitem)
      refine ⟨hnew.later hclock.2, fun b₁ hb₁ => ?_⟩
      obtain rfl : b = b₁ := Option.some.inj hb₁
      exact ⟨rfl, hle⟩
  | overridden b override now hclock => exact hsame b rfl ⟨rfl, rfl, rfl, rfl, rfl⟩

end Calculated

/-! ### One conversation -/

/-- The conversation `c`, as long as it is about the item `i`: its stored priority was calculated up
to `t`, and it has not fallen below the level it had reached. -/
structure Rising (c i : UUID) (status : OrderItemStatus) (level : Option ℕ)
    (t : DateTime) (v : Db) :
    Prop where
  calculated : ∀ b, Db.conversation v c = some b → b.orderItemId = i → Calculated status t v b
  reached : ∀ l, level = some l → ∃ b, Db.conversation v c = some b ∧ b.orderItemId = i
    ∧ l ≤ b.calculatedPriority.level

/-- The status of an item, if it is there. -/
def HasStatus (i : UUID) (status : OrderItemStatus) (v : Db) : Prop :=
  ∀ item, Db.orderItem v i = some item → item.status = status

section Rising

variable {settings : Settings} {c i : UUID} {status : OrderItemStatus} {level : Option ℕ}
  {t t' : DateTime} {st st' : Db}

lemma Rising.later (h : Rising c i status level t st) (ht : t ≤ t') :
    Rising c i status level t' st :=
  ⟨fun b hb hi => (h.calculated b hb hi).later ht, h.reached⟩

/-- **One change of the conversation**: its new row is a result again, and no lower. -/
lemma Rising.step (h : Rising c i status level t st)
    (hstays : (Db.conversation st c).isSome → (Db.conversation st' c).isSome)
    (hitem : Db.orderItem st' i = Db.orderItem st i)
    (hnew : ∀ b', Db.conversation st' c = some b' →
      (∀ b, Db.conversation st c = some b → b.orderItemId = b'.orderItemId)
        ∧ (b'.orderItemId = i → Calculated status t' st b'
          ∧ ∀ b, Db.conversation st c = some b →
            b.calculatedPriority.level ≤ b'.calculatedPriority.level)) :
    Rising c i status level t' st' where
  calculated b' hb' hi := by
    obtain ⟨item, p, hfound, hp, hcalculated⟩ := ((hnew b' hb').2 hi).1
    exact ⟨item, p, by rw [hi, hitem, ← hi]; exact hfound, hp, hcalculated⟩
  reached l hl := by
    obtain ⟨b, hb, hi, hle⟩ := h.reached l hl
    obtain ⟨b', hb'⟩ := Option.isSome_iff_exists.mp (hstays (Option.isSome_iff_exists.mpr ⟨b, hb⟩))
    have hi' : b'.orderItemId = i := ((hnew b' hb').1 b hb).symm.trans hi
    exact ⟨b', hb', hi', hle.trans (((hnew b' hb').2 hi').2 b hb)⟩

/-- A conversation stays. -/
lemma Deed.stays {T : Terms} {b : Conversation} {row : Option Conversation}
    {news : Option (UUID × Message)} {events : List Event}
    (h : Deed T settings st c (some b) row news events) :
    ∃ b', row = some b' ∧ b'.orderItemId = b.orderItemId := by
  cases h with
  | recalculated => exact ⟨_, rfl, by simp [Conversation.patch, column]⟩
  | expired =>
      exact ⟨_, rfl, by simp [Conversation.patch, column, Conversation.expire, Conversation.touch]⟩
  | _ => exact ⟨_, rfl, rfl⟩

/-- **Every request** keeps the conversation rising, as long as the status of the item is the one
the calculations are for. -/
theorem Rising.request {cs : ℕ → Choice} (hcs : Clock (· ≤ ·) cs) {x : Stage Row Event}
    {r : ServiceRequest} (hstatus : HasStatus i status x.store)
    (hgiven : ∀ moment, r.given = some moment → moment = (cs x.tick).now)
    (h : x.Since (· ≤ ·) cs fun t v _ => Rising c i status level t v) :
    (x.after cs (r.run settings)).Since (· ≤ ·) cs fun t v _ => Rising c i status level t v := by
  by_cases horder : ∃ request, r = .order request
  · -- an order request leaves the conversations alone, and the prices
    obtain ⟨request, rfl⟩ := horder
    refine ServiceRequest.since hcs (fun t t' st log ht hJ => hJ.later ht) ?_ ?_ hgiven h
    · rintro t t' st log s htt' hJ ⟨news, hdeeds⟩ hkept
      have hconversation : Db.conversation (merge st s.held) c = Db.conversation st c :=
        hkept (.conversation c) fun hfalse => hfalse
      refine ⟨fun b hb hi => ?_, fun l hl => ?_⟩
      · rw [hconversation] at hb
        exact ((hJ.calculated b hb hi).later htt').item (hdeeds.item b.orderItemId)
      · rw [hconversation]
        exact hJ.reached l hl
    · exact fun hjob => absurd trivial hjob
  · -- the others leave the items alone
    have hboth : (x.after cs (r.run settings)).Since (· ≤ ·) cs fun t v _ =>
        Rising c i status level t v ∧ HasStatus i status v := by
      refine ServiceRequest.since hcs
        (fun t t' st log ht hJ => ⟨hJ.1.later ht, hJ.2⟩) ?_ ?_ hgiven ?_
      · rintro t t' st log s htt' ⟨hJ, hst⟩ ⟨news, hdeeds⟩ hkept
        have hitem : Db.orderItem (merge st s.held) i = Db.orderItem st i := by
          refine hkept (.orderItem i) fun htable => ?_
          cases r with
          | order request => exact horder ⟨request, rfl⟩
          | _ => exact htable
        refine ⟨hJ.step (fun hold => ?_) hitem fun b' hb' => ?_, by
          rw [HasStatus, hitem]; exact hst⟩
        · obtain ⟨b, hb⟩ := Option.isSome_iff_exists.mp hold
          have hdeed := hdeeds.conversation c
          rw [hb] at hdeed
          obtain ⟨b', hb', -⟩ := hdeed.stays
          rw [hb']
          rfl
        · have hdeed := hdeeds.conversation c
          rw [hb'] at hdeed
          refine ⟨fun b hb => ?_, fun hi => ?_⟩
          · rw [hb] at hdeed
            obtain ⟨b₁, hb₁, hsame⟩ := hdeed.stays
            rw [Option.some.inj hb₁, hsame]
          · obtain ⟨hnew, hle⟩ := hdeed.calculated rfl (fun item hi' => hst item (hi ▸ hi'))
              (fun b hb hi' => hJ.calculated b hb (hi'.trans hi)) htt'
            exact ⟨hnew, fun b hb => (hle b hb).2⟩
      · rintro - moment rows st st' log ⟨hJ, hst⟩ hrows happ
        refine ⟨?_, by rw [HasStatus, happ.orderItem]; exact hst⟩
        rcases happ.conversation hrows c with hsame | ⟨b, item, hb, hitem, hnew⟩
        · refine hJ.step (fun hold => by rw [hsame]; exact hold) (happ.orderItem i) fun b' hb' => ?_
          rw [hsame] at hb'
          refine ⟨fun b hb => ?_, fun hi => ⟨hJ.calculated b' hb' hi, fun b hb => ?_⟩⟩ <;>
            rw [Option.some.inj (hb.symm.trans hb')]
        · refine hJ.step (fun _ => by rw [hnew]; rfl) (happ.orderItem i) fun b' hb' => ?_
          obtain rfl := Option.some.inj (hnew.symm.trans hb')
          rw [recalculate_orderItemId]
          refine ⟨fun b₁ hb₁ => by rw [Option.some.inj (hb₁.symm.trans hb)], fun hi => ?_⟩
          obtain ⟨hcalculated, hle⟩ :=
            (hJ.calculated b hb hi).le le_rfl hitem (hst item (by rw [← hi]; exact hitem))
          exact ⟨hcalculated, fun b₁ hb₁ => by rw [Option.some.inj (hb₁.symm.trans hb)]; exact hle⟩
      · obtain ⟨t, hJ, ht⟩ := h
        exact ⟨t, ⟨hJ, hstatus⟩, ht⟩
    obtain ⟨t, hJ, ht⟩ := hboth
    exact ⟨t, hJ.1, ht⟩

/-- **A whole run** in which the status of the item stays. -/
lemma Rising.run {cs : ℕ → Choice} (hcs : Clock (· ≤ ·) cs) {requests : List ServiceRequest}
    {x : Stage Row Event} (htime : OnTime settings cs x requests)
    (hstatus : ∀ part, part <+: requests →
      HasStatus i status (inSequence (ServiceRequest.run settings) cs x part).store)
    (h : x.Since (· ≤ ·) cs fun t v _ => Rising c i status level t v) :
    (inSequence (ServiceRequest.run settings) cs x requests).Since (· ≤ ·) cs
      fun t v _ => Rising c i status level t v := by
  induction requests generalizing x with
  | nil => exact h
  | cons r requests ih =>
      rw [inSequence_cons]
      refine ih htime.2 (fun part hpart => ?_)
        (Rising.request hcs (hstatus [] List.nil_prefix) htime.1 h)
      exact hstatus (r :: part) (List.cons_prefix_cons.mpr ⟨rfl, hpart⟩)

end Rising

/-- **The calculated priority is monotone.** It is in the reading of the clock and in the price, and
it is never critical. In every run of requests that take turns, with a clock that does not go back
and while the status of an item does not change, the stored priority of its conversation does not
fall; the conversation is created in the run, or the stored priority is one the policy has given
before. -/
theorem calculated_priority_monotone (settings : Settings) :
    (∀ reason status createdAt price price' now now', price ≤ price' → now ≤ now' →
      (calculatePriority reason status createdAt price now).level
        ≤ (calculatePriority reason status createdAt price' now').level)
    ∧ (∀ reason status createdAt price now,
      calculatePriority reason status createdAt price now ≠ .critical)
    ∧ ∀ (cs : ℕ → Choice) (x : Stage Row Event) (first second : List ServiceRequest) (c i : UUID)
      (status : OrderItemStatus), (∀ n m, n ≤ m → (cs n).now ≤ (cs m).now) →
      OnTime settings cs x (first ++ second) →
      (∀ part, part <+: first ++ second →
        HasStatus i status (inSequence (ServiceRequest.run settings) cs x part).store) →
      (∀ b, Db.conversation x.store c = some b → b.orderItemId = i →
        Calculated status (cs x.tick).now x.store b) →
      ∀ b b', b.orderItemId = i →
        Db.conversation (inSequence (ServiceRequest.run settings) cs x first).store c = some b →
        Db.conversation (inSequence (ServiceRequest.run settings) cs x (first ++ second)).store c
          = some b' →
        b.calculatedPriority.level ≤ b'.calculatedPriority.level := by
  refine ⟨fun reason status createdAt price price' now now' hprice hnow =>
      calculatePriority_mono reason status createdAt hprice hnow,
    fun reason status createdAt price now =>
      calculatePriority_ne_critical reason status createdAt, ?_⟩
  intro cs x first second c i status hclock htime hstatus hstart b b' hi hb hb'
  have hcs : Clock (· ≤ ·) cs := ⟨fun n m hnm => hclock n m hnm.le, fun _ _ h => h⟩
  have hfirst : x.Since (· ≤ ·) cs fun t v _ => Rising c i status none t v :=
    ⟨(cs x.tick).now, ⟨hstart, fun l hl => by cases hl⟩, fun m hm => hclock _ _ hm⟩
  obtain ⟨htime₁, htime₂⟩ := onTime_append.mp htime
  obtain ⟨t, hmiddle, ht⟩ := Rising.run hcs htime₁
    (fun part hpart => hstatus part (hpart.trans (List.prefix_append first second))) hfirst
  have hsecond : (inSequence (ServiceRequest.run settings) cs x first).Since (· ≤ ·) cs
      fun t v _ => Rising c i status (some b.calculatedPriority.level) t v := by
    refine ⟨t, ⟨hmiddle.calculated, fun l hl => ⟨b, hb, hi, ?_⟩⟩, ht⟩
    exact (Option.some.inj hl).ge
  obtain ⟨t', hlast, -⟩ := Rising.run hcs htime₂ (fun part hpart => by
    rw [← inSequence_append]
    exact hstatus _ (List.prefix_append_right_inj first |>.mpr hpart)) hsecond
  obtain ⟨b₁, hb₁, -, hle⟩ := hlast.reached _ rfl
  rw [← inSequence_append] at hb₁
  rwa [Option.some.inj (hb₁.symm.trans hb')] at hle

/-! ### A run -/

/-- A clock that shows six more hours with every choice. -/
def sixHourly (n : ℕ) : Choice := ⟨hours (6 * n), 100 + n, false⟩

/-- The order for two mugs, when the clock is started. -/
def mugStage : Stage Row Event := ⟨0, mugOrder, []⟩

/-- The buyer complains about a delay. -/
def mugDelay : List ServiceRequest :=
  [.conversation (.createConversation 5 .atraso ⟨7, .buyer, none⟩)]

/-- Ops look at the conversation, and the priorities are calculated again. -/
def mugEscalation : List ServiceRequest :=
  [.ops (.refreshOpsConversationPriority 105 ⟨9, .ops, none⟩), .runReconcile none none 2]

theorem calculated_priority_monotone_mugs : ∃ b b',
    Db.conversation (inSequence (ServiceRequest.run {}) sixHourly mugStage mugDelay).store 105
      = some b
      ∧ Db.conversation (inSequence (ServiceRequest.run {}) sixHourly mugStage
        (mugDelay ++ mugEscalation)).store 105 = some b'
      ∧ b.calculatedPriority.level = 1 ∧ b'.calculatedPriority.level = 2
      ∧ b.calculatedPriority.level ≤ b'.calculatedPriority.level := by
  have hfound :
      ((Db.conversation (inSequence (ServiceRequest.run {}) sixHourly mugStage mugDelay).store
        105).any
      fun b => b.orderItemId == 5 && b.calculatedPriority.level == 1) = true := by decide +kernel
  have hlater : ((Db.conversation (inSequence (ServiceRequest.run {}) sixHourly mugStage
      (mugDelay ++ mugEscalation)).store 105).any fun b => b.calculatedPriority.level == 2)
      = true := by decide +kernel
  have hplaced : (mugDelay ++ mugEscalation).inits.all (fun part =>
      (Db.orderItem (inSequence (ServiceRequest.run {}) sixHourly mugStage part).store 5).all
        fun item =>
        item.status == .placed) = true := by decide +kernel
  obtain ⟨b, hb, hfound⟩ := (Option.any_eq_true _ _).mp hfound
  obtain ⟨b', hb', hlater⟩ := (Option.any_eq_true _ _).mp hlater
  rw [Bool.and_eq_true, beq_iff_eq, beq_iff_eq] at hfound
  refine ⟨b, b', hb, hb', hfound.2, beq_iff_eq.mp hlater, ?_⟩
  refine (calculated_priority_monotone {}).2.2 sixHourly mugStage mugDelay
    mugEscalation 105 5 .placed
    (fun n m hnm => ?_) ?_ (fun part hpart item hitem => ?_) (fun b hb => ?_) b b' hfound.1 hb hb'
  · simp only [sixHourly, hours]
    omega
  · refine onTime_of_none fun r hr => ?_
    simp only [mugDelay, mugEscalation, List.cons_append, List.nil_append, List.mem_cons,
      List.not_mem_nil, or_false] at hr
    rcases hr with rfl | rfl | rfl <;> rfl
  · have hall := List.all_eq_true.mp hplaced part ((List.mem_inits _ _).mpr hpart)
    rw [hitem] at hall
    exact beq_iff_eq.mp hall
  · rw [show Db.conversation mugStage.store 105 = none from mugOrder_silent 105] at hb
    cases hb
end MarketHub
