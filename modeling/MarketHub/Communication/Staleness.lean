import MarketHub.Atomic
import MarketHub.Communication.Reuse

/-!
Stale priorities.

The requests run one after another, each at its own moment, and the moments increase.

* `Snapshot`: a stored priority was right when it was calculated, unless its item has got
  another status since.
* `Snapshots.turn`: every turn keeps this, for it calculates the priority anew or leaves a later
  change of the status behind.
* `stale_detection_sound`: a priority that `is_stale` does not call stale is the one a
  calculation would give now.
-/

namespace MarketHub

open ReadCommitted Session

/-! ### Snapshots -/

/-- The item of a conversation is there, and the stored priority is not from after `t` and was
right when it was calculated, unless the status of the item is newer. -/
def Snapshot (t : DateTime) (v : Db) (b : Conversation) : Prop :=
  ∃ item, Db.orderItem v b.orderItemId = some item ∧ ∀ p, b.priorityCalculatedAt = some p →
    p ≤ t ∧ (item.statusUpdatedAt ≤ p → b.calculatedPriority
      = calculatePriority b.reason item.status b.createdAt item.purchasePrice p)

/-- The snapshots of all conversations at the moment `t`. -/
def Snapshots (t : DateTime) (v : Db) : Prop :=
  ∀ c b, Db.conversation v c = some b → Snapshot t v b

/-- Two conversations with the same item and the same stored priority. -/
structure SamePriority (b b' : Conversation) : Prop where
  orderItemId : b'.orderItemId = b.orderItemId
  reason : b'.reason = b.reason
  createdAt : b'.createdAt = b.createdAt
  calculatedPriority : b'.calculatedPriority = b.calculatedPriority
  priorityCalculatedAt : b'.priorityCalculatedAt = b.priorityCalculatedAt

section Snapshots

variable {settings : Settings} {t t' : DateTime} {st v : Db} {b b' : Conversation} {c : UUID}
  {news : Option (UUID × Message)} {events : List Event}

/-- A snapshot does not age. -/
lemma Snapshot.later (h : Snapshot t v b) (ht : t ≤ t') : Snapshot t' v b := by
  obtain ⟨item, hitem, hp⟩ := h
  exact ⟨item, hitem, fun p hpb => ⟨(hp p hpb).1.trans ht, (hp p hpb).2⟩⟩

/-- A snapshot is about the priority only. -/
lemma Snapshot.same (h : Snapshot t v b) (hsame : SamePriority b b') : Snapshot t v b' := by
  obtain ⟨item, hitem, hp⟩ := h
  refine ⟨item, by rw [hsame.orderItemId]; exact hitem, fun p hpb => ?_⟩
  rw [hsame.priorityCalculatedAt] at hpb
  rw [hsame.calculatedPriority, hsame.reason, hsame.createdAt]
  exact hp p hpb

/-- A fresh calculation. -/
lemma snapshot_recalculate {item : OrderItem} (hitem : Db.orderItem v b.orderItemId = some item) :
    Snapshot t v (recalculate b item t) := by
  refine ⟨item, by rw [recalculate_orderItemId]; exact hitem, fun p hp => ?_⟩
  rw [recalculate_priorityCalculatedAt] at hp
  obtain rfl : t = p := Option.some.inj hp
  refine ⟨le_rfl, fun _ => ?_⟩
  rw [recalculate_calculatedPriority, recalculate_reason, recalculate_createdAt]

/-- **A deed on a conversation** while its item is left alone: its snapshot is kept or new. -/
lemma Deed.snapshot (hsnap : ∀ b, Db.conversation st c = some b → Snapshot t st b)
    {row : Option Conversation} (hrow : Db.conversation st c = row)
    (h : Deed (aloneTerms t) settings st c row (some b') news events) : Snapshot t st b' := by
  cases h with
  | nothing => exact hsnap b' hrow
  | @created v item itemId reason now hclock hmoved hitem =>
      obtain rfl : now = t := hclock
      obtain rfl : st = v := hmoved
      refine ⟨item, hitem, fun p hp => ?_⟩
      obtain rfl : now = p := Option.some.inj hp
      exact ⟨le_rfl, fun _ => rfl⟩
  | @messaged b authorType id user content now hclock hopen hauthor =>
      exact (hsnap b hrow).same ⟨rfl, rfl, rfl, rfl, rfl⟩
  | @expired x seen b id now hclock hopen hinactive hexpired =>
      refine (hsnap b hrow).same ⟨?_, ?_, ?_, ?_, ?_⟩ <;>
        simp [Conversation.patch, column, Conversation.expire, Conversation.touch]
  | @shut b now hclock hopen => exact (hsnap b hrow).same ⟨rfl, rfl, rfl, rfl, rfl⟩
  | @recalculated v x item b now hclock hmoved hx hitem =>
      obtain rfl : now = t := hclock
      obtain rfl : st = v := hmoved
      obtain rfl : b = x := Option.some.inj (hrow.symm.trans hx)
      rw [Conversation.patch_self]
      exact snapshot_recalculate hitem
  | overridden b override now hclock => exact (hsnap b hrow).same ⟨rfl, rfl, rfl, rfl, rfl⟩

/-- **A deed on the item** of a conversation after its snapshot. -/
lemma ItemDeed.snapshot (h : Snapshot t st b) (ht : t < t')
    (hdeed : ItemDeed (aloneTerms t') b.orderItemId (Db.orderItem st b.orderItemId)
      (Db.orderItem v b.orderItemId) events) : Snapshot t v b := by
  obtain ⟨item, hitem, hp⟩ := h
  -- the new status is from after the calculation
  have hnewer : ∀ (item' : OrderItem), Db.orderItem v b.orderItemId = some item' →
      item'.statusUpdatedAt = t' → Snapshot t v b := by
    intro item' hitem' hupdated
    refine ⟨item', hitem', fun p hpb => ⟨(hp p hpb).1, fun hle => ?_⟩⟩
    have hlt : p < t' := lt_of_le_of_lt (hp p hpb).1 ht
    rw [hupdated] at hle
    exact absurd hle (not_le.mpr hlt)
  rw [hitem] at hdeed
  generalize hrow : Db.orderItem v b.orderItemId = row at hdeed
  cases hdeed with
  | nothing => exact ⟨item, hrow, hp⟩
  | advanced now hclock _ => exact hnewer _ hrow hclock
  | cancelled now hclock _ => exact hnewer _ hrow hclock

end Snapshots

/-! ### Turns -/

/-- A turn whose clock stands at `t`. -/
structure TurnAt (turn : Turn ServiceRequest) (t : DateTime) : Prop where
  choices : ∀ n, (turn.choices n).now = t
  given : ∀ t', turn.request.given = some t' → t' = t

section Turns

variable {settings : Settings} {t t' : DateTime} {x : Db × List Event}

/-- What a request commits at one moment. -/
lemma wp_at {turn : Turn ServiceRequest} (hat : TurnAt turn t)
    (I : Db → List Event → Prop) (st : Db) :
    wp (Outline.keeping (fun ch => ch.now = t) I fun st s =>
        Did (aloneTerms t) settings st s ∧ Kept turn.request.tables st s)
      (turn.request.run settings) (fun _ _ _ => True) st ∅ :=
  wp_keeping (fun _ h => h) (fun _ _ _ h => h) I turn.request hat.given st

/-- **A turn keeps the snapshots right.** -/
theorem Snapshots.turn (h : Snapshots t x.1) (ht : t < t') {turn : Turn ServiceRequest}
    (hat : TurnAt turn t') : Snapshots t' (takeTurn (ServiceRequest.run settings) x turn).1 := by
  by_cases horder : ∃ request, turn.request = .order request
  · -- an order request leaves the conversations alone
    obtain ⟨request, hrequest⟩ := horder
    have hkeeps : Snapshots t (takeTurn (ServiceRequest.run settings) x turn).1 := by
      refine exec_keeps (I := fun st _ => Snapshots t st) hat.choices (wp_at hat _ x.1) ?_ h
      rintro st log s hI hag ⟨⟨news, hdeeds⟩, hkept⟩ c b hb
      rw [hrequest] at hkept
      rw [Db.conversation, hkept (.conversation c) fun hfalse => hfalse] at hb
      exact ItemDeed.snapshot (hI c b hb) ht (hdeeds.item b.orderItemId)
    exact fun c b hb => (hkeeps c b hb).later ht.le
  · -- the others leave the items alone
    refine exec_keeps (I := fun st _ => Snapshots t' st) hat.choices (wp_at hat _ x.1) ?_
      fun c b hb => (h c b hb).later ht.le
    rintro st log s hI hag ⟨⟨news, hdeeds⟩, hkept⟩ c b hb
    have hitems : ∀ i, Db.orderItem (merge st s.held) i = Db.orderItem st i := by
      intro i
      refine hkept (.orderItem i) fun htable => ?_
      cases hrequest : turn.request with
      | order request => exact horder ⟨request, hrequest⟩
      | _ =>
          rw [hrequest] at htable
          exact htable
    have hdeed := hdeeds.conversation c
    rw [hb] at hdeed
    obtain ⟨item, hitem, hp⟩ := hdeed.snapshot (hI c) rfl
    exact ⟨item, by rw [hitems]; exact hitem, hp⟩

end Turns

/-! ### Runs -/

section Runs

variable {settings : Settings} {st₀ : Db}

/-- A run of requests, each at its own moment, and the moments increase from `t` on. -/
def Moments : DateTime → List (DateTime × Turn ServiceRequest) → Prop
  | _, [] => True
  | t, (t', turn) :: turns => t < t' ∧ TurnAt turn t' ∧ Moments t' turns

lemma Snapshots.serially {t : DateTime} {turns : List (DateTime × Turn ServiceRequest)}
    {x : Db × List Event} (h : Snapshots t x.1) (hturns : Moments t turns) :
    ∃ t', Snapshots t' (ReadCommitted.serially (ServiceRequest.run settings) x
      (turns.map Prod.snd)).1 := by
  induction turns generalizing t x with
  | nil => exact ⟨t, h⟩
  | cons turn turns ih =>
      obtain ⟨ht, hat, hrest⟩ := hturns
      rw [List.map_cons, serially_cons]
      exact ih (h.turn ht hat) hrest

/-- A priority that is not stale is as it was calculated, and its age counts as it did. -/
lemma Snapshot.current {t now : DateTime} {v : Db} {b : Conversation} {item : OrderItem}
    (h : Snapshot t v b) (hitem : Db.orderItem v b.orderItemId = some item)
    (hstale : isStale now b.createdAt b.lastInteractionAt (some item.statusUpdatedAt)
      b.priorityCalculatedAt = false) :
    b.calculatedPriority
      = calculatePriority b.reason item.status b.createdAt item.purchasePrice now := by
  obtain ⟨item', hitem', hp⟩ := h
  obtain rfl : item' = item := Option.some.inj (hitem'.symm.trans hitem)
  cases hcalculated : b.priorityCalculatedAt with
  | none =>
      rw [hcalculated] at hstale
      cases hstale
  | some p =>
      obtain ⟨-, hright⟩ := hp p hcalculated
      simp only [isStale, hcalculated, Option.any_some, gt_iff_lt, decide_eq_true_eq] at hstale
      split at hstale
      · cases hstale
      split at hstale
      · cases hstale
      rename_i hstatus
      have hrank := of_decide_eq_false hstale
      rw [hright (not_lt.mp hstatus), calculatePriority, calculatePriority, score, score, ageWeight,
        ageWeight, ageBucket_inj.mp (not_not.mp hrank)]

/-- **Stale detection is sound.** In a run that starts without conversations, whatever requests
run one after another at increasing moments: a priority that `is_stale` does not call stale, at
whatever instant, is the one a calculation would give at that instant. -/
theorem stale_detection_sound {t₀ : DateTime} {turns : List (DateTime × Turn ServiceRequest)}
    (hstart : ∀ c, Db.conversation st₀ c = none) (hturns : Moments t₀ turns) (now : DateTime) :
    ∀ c b item,
      Db.conversation (afterTurns settings st₀ (turns.map Prod.snd)).1 c = some b →
      Db.orderItem (afterTurns settings st₀ (turns.map Prod.snd)).1 b.orderItemId = some item →
      isStale now b.createdAt b.lastInteractionAt (some item.statusUpdatedAt)
        b.priorityCalculatedAt = false →
      b.calculatedPriority
        = calculatePriority b.reason item.status b.createdAt item.purchasePrice now := by
  intro c b item hb hitem hstale
  have hfirst : Snapshots t₀ ((st₀, []) : Db × List Event).1 := by
    intro c b hb
    rw [hstart c] at hb
    cases hb
  obtain ⟨t, hsnaps⟩ := hfirst.serially hturns
  exact (hsnaps c b hb).current hitem hstale

end Runs

/-! ### A run -/

/-- The shop with an order for two mugs, before anyone writes about it. -/
def mugOrder : Db :=
  (mugShop.insert (.order 4) (⟨1, 7, 0, 0⟩ : Order)).insert (.orderItem 5)
    (⟨4, 3, 1, 2, 1000, .placed, 0, 0, 0⟩ : OrderItem)

/-- The buyer complains, and the seller begins to prepare the item. -/
def mugComplaint : List (DateTime × Turn ServiceRequest) :=
  [(hours 1, ⟨.conversation (.createConversation 5 .reclamacao ⟨7, .buyer, none⟩),
      fun n => ⟨hours 1, 100 + n, false⟩⟩),
    (hours 2, ⟨.order (.updateOrderItemStatus 5 .preparing ⟨8, .seller, some 1⟩),
      fun n => ⟨hours 2, 200 + n, false⟩⟩),
    (hours 3, ⟨.runReconcile none (some 10) 2, fun n => ⟨hours 3, 300 + n, false⟩⟩)]

lemma mugOrder_silent (c : UUID) : Db.conversation mugOrder c = none := by
  simp [Db.conversation, mugOrder, mugShop, AList.lookup_insert_ne, -AList.insert_empty]

lemma mugComplaint_moments : Moments 0 mugComplaint := by
  refine ⟨by decide, ⟨fun _ => rfl, fun _ h => by cases h⟩, by decide,
    ⟨fun _ => rfl, fun _ h => by cases h⟩,
    by decide, ⟨fun _ => rfl, fun _ h => by cases h⟩, trivial⟩

theorem stale_detection_sound_mugs : ∃ b item,
    Db.conversation (afterTurns {} mugOrder (mugComplaint.map Prod.snd)).1 105 = some b
      ∧ Db.orderItem (afterTurns {} mugOrder (mugComplaint.map Prod.snd)).1 b.orderItemId
        = some item
      ∧ b.calculatedPriority
        = calculatePriority b.reason item.status b.createdAt item.purchasePrice (hours 4) := by
  have hfound : ((Db.conversation (afterTurns {} mugOrder (mugComplaint.map Prod.snd)).1 105).any
      fun b => (Db.orderItem (afterTurns {} mugOrder (mugComplaint.map Prod.snd)).1
        b.orderItemId).any
        fun item => !isStale (hours 4) b.createdAt b.lastInteractionAt (some item.statusUpdatedAt)
          b.priorityCalculatedAt) = true := by
    decide +kernel
  obtain ⟨b, hb, hfound⟩ := (Option.any_eq_true _ _).mp hfound
  obtain ⟨item, hitem, hfresh⟩ := (Option.any_eq_true _ _).mp hfound
  refine ⟨b, item, hb, hitem, stale_detection_sound mugOrder_silent mugComplaint_moments
    (hours 4) 105
    b item hb hitem ?_⟩
  simpa using hfresh

end MarketHub
