import MarketHub.Orders.Routes

/-!
The priority policy of conversations (`app/communication/priority.py`).

Weights and scores are hundredths. `recalculate` is what `apply_calculated_priority`
makes of a conversation, and `priorityChanged` the event it records when the effective
priority changes.
-/

namespace MarketHub

open ReadCommitted

/-- `REASON_WEIGHTS`. -/
def reasonWeight : ConversationReason → ℕ
  | .atraso => 100
  | .reclamacao => 75
  | .troca => 50
  | .devolucao => 50
  | .suporte => 40
  | .outros => 25
  | .elogio => 0

/-- `STATUS_WEIGHTS`. -/
def statusWeight : OrderItemStatus → ℕ
  | .inTransit => 100
  | .preparing => 75
  | .placed => 50
  | .delivered => 25
  | .cancelled => 0

/-- `AGE_BUCKET_HOURS`. -/
def ageBucketHours : List ℤ := [4, 12, 24, 48]

/-- `AGE_BUCKET_WEIGHTS`. -/
def ageBucketWeights : List ℕ := [0, 25, 50, 75, 100]

/-- `age_bucket_rank`: the first boundary that lies above the age. -/
def ageBucketRank (age : ℤ) : ℕ := ageBucketHours.findIdx fun boundary => age < hours boundary

/-- The labels of `age_bucket`. -/
def ageBucketLabels : List String := ["<4h", "4-12h", "12-24h", "24-48h", ">48h"]

/-- `age_bucket`. -/
def ageBucket (age : ℤ) : String := ageBucketLabels.getD (ageBucketRank age) ""

/-- A rank names a label. -/
lemma ageBucketRank_lt (age : ℤ) : ageBucketRank age < ageBucketLabels.length :=
  Nat.lt_succ_of_le List.findIdx_le_length

/-- Two ages have one label when they have one rank. -/
@[simp] lemma ageBucket_inj {age age' : ℤ} :
    ageBucket age = ageBucket age' ↔ ageBucketRank age = ageBucketRank age' := by
  have hnodup : ageBucketLabels.Nodup := by decide
  have hlabel : ∀ age, ageBucket age = ageBucketLabels.get
      ⟨ageBucketRank age, ageBucketRank_lt age⟩ := by
    intro age
    rw [ageBucket, List.getD_eq_getElem?_getD, List.getElem?_eq_getElem (ageBucketRank_lt age)]
    rfl
  rw [hlabel, hlabel, hnodup.get_inj_iff, Fin.mk.injEq]

/-- `age_weight`. -/
def ageWeight (age : ℤ) : ℕ := ageBucketWeights.getD (ageBucketRank age) 0

/-- `value_weight`. -/
def valueWeight (purchasePrice : ℕ) : ℕ :=
  if purchasePrice < 10000 then 0
  else if purchasePrice < 50000 then 25
  else if purchasePrice < 100000 then 50
  else if purchasePrice < 500000 then 75
  else 100

/-- `classify`. -/
def classify (score : ℕ) : Priority :=
  if score ≤ 100 then .low else if score ≤ 225 then .medium else .high

/-- `score`. -/
def score (reason : ConversationReason) (itemStatus : OrderItemStatus) (createdAt : DateTime)
    (purchasePrice : ℕ) (now : DateTime) : ℕ :=
  reasonWeight reason + statusWeight itemStatus + ageWeight (now - createdAt)
    + valueWeight purchasePrice

/-- `calculate_priority`. -/
def calculatePriority (reason : ConversationReason) (itemStatus : OrderItemStatus)
    (createdAt : DateTime) (purchasePrice : ℕ) (now : DateTime) : Priority :=
  classify (score reason itemStatus createdAt purchasePrice now)

/-- `effective_priority`. -/
def effectivePriority (calculatedPriority : Priority) (opsOverride : Option Priority) : Priority :=
  opsOverride.getD calculatedPriority

/-- The effective priority of a conversation. -/
def Conversation.effectivePriority (conversation : Conversation) : Priority :=
  MarketHub.effectivePriority conversation.calculatedPriority conversation.opsOverride

/-- `is_stale`. -/
def isStale (now createdAt lastInteractionAt : DateTime) (statusUpdatedAt : Option DateTime)
    (priorityCalculatedAt : Option DateTime) : Bool :=
  match priorityCalculatedAt with
  | none => true
  | some calculatedAt =>
      if lastInteractionAt > calculatedAt then true
      else if statusUpdatedAt.any fun updatedAt => updatedAt > calculatedAt then true
      else ageBucket (now - createdAt) ≠ ageBucket (calculatedAt - createdAt)

/-- What `apply_calculated_priority` makes of the attributes of a conversation. -/
def recalculate (conversation : Conversation) (item : OrderItem) (now : DateTime) : Conversation :=
  let calculated := calculatePriority conversation.reason item.status conversation.createdAt
    item.purchasePrice now
  if calculated ≠ conversation.calculatedPriority then
    { conversation with
      calculatedPriority := calculated, updatedAt := now, priorityCalculatedAt := some now }
  else { conversation with priorityCalculatedAt := some now }

section Recalculate

variable {b : Conversation} {item : OrderItem} {now : DateTime}

@[simp] lemma recalculate_orderItemId : (recalculate b item now).orderItemId = b.orderItemId := by
  rw [recalculate]
  split <;> rfl

@[simp] lemma recalculate_reason : (recalculate b item now).reason = b.reason := by
  rw [recalculate]
  split <;> rfl

@[simp] lemma recalculate_status : (recalculate b item now).status = b.status := by
  rw [recalculate]
  split <;> rfl

@[simp] lemma recalculate_createdAt : (recalculate b item now).createdAt = b.createdAt := by
  rw [recalculate]
  split <;> rfl

@[simp] lemma recalculate_lastInteractionAt :
    (recalculate b item now).lastInteractionAt = b.lastInteractionAt := by
  rw [recalculate]
  split <;> rfl

@[simp] lemma recalculate_opsOverride : (recalculate b item now).opsOverride = b.opsOverride := by
  rw [recalculate]
  split <;> rfl

@[simp] lemma recalculate_priorityCalculatedAt :
    (recalculate b item now).priorityCalculatedAt = some now := by
  rw [recalculate]
  split <;> rfl

/-- The result is stored, whether it differs from the stored priority or not. -/
@[simp] lemma recalculate_calculatedPriority : (recalculate b item now).calculatedPriority
    = calculatePriority b.reason item.status b.createdAt item.purchasePrice now := by
  rw [recalculate]
  split
  · rfl
  · rename_i hsame
    exact (not_not.mp hsame).symm

/-- Only the columns of the priority are set. -/
lemma recalculate_eq : recalculate b item now = { b with
    calculatedPriority :=
      calculatePriority b.reason item.status b.createdAt item.purchasePrice now
    priorityCalculatedAt := some now
    updatedAt := (recalculate b item now).updatedAt } := by
  rw [recalculate]
  split
  · rfl
  · rename_i hsame
    rw [not_not.mp hsame]

end Recalculate

/-- The event of a changed effective priority. -/
def recordPriorityChange (conversationId : UUID) (before after : Priority) (now : DateTime) :
    Txn Unit :=
  if after ≠ before then
    Prog.record (.conversationPriorityChanged conversationId before after now)
  else pure ()

/-- `apply_calculated_priority` with a session: whether the calculated priority has
changed. -/
def applyCalculatedPriority (conversationId : UUID) (conversation : Conversation)
    (item : OrderItem) (now : DateTime) : Txn Bool := do
  let recalculated := recalculate conversation item now
  Prog.assign (.conversation conversationId) recalculated
  recordPriorityChange conversationId conversation.effectivePriority
    recalculated.effectivePriority now
  return recalculated.calculatedPriority ≠ conversation.calculatedPriority

end MarketHub
