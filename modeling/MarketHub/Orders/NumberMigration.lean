import MarketHub.Orders.PublicNumbers
import MarketHub.RowNumbers

/-!
The migration that numbers the orders (`migrations/versions/009_add_order_public_numbers.py`).

* `Tables008`, `Tables009`: the tables of orders before and after it.
* `upgrade`: the statements of the migration, each of which can fail and roll it back.
* `upgrade_eq`: what it stores. `Numbered`: what that means.
* `upgrade_numbers`: the migration fails exactly if a number would not fit its column, and
  otherwise numbers the orders and their items in the order of their creation.
-/

namespace MarketHub.NumberMigration

open RowNumbers PublicNumbers Python

/-! ### The tables before -/

/-- A row of `orders` at the revision `008_notifications`. -/
structure UnnumberedOrder where
  id : UUID
  buyerId : UUID
  createdAt : DateTime
  updatedAt : DateTime
  deriving DecidableEq, Inhabited

/-- A row of `order_items` at the revision `008_notifications`. -/
structure UnnumberedItem where
  id : UUID
  orderId : UUID
  offerId : UUID
  quantity : ℕ
  purchasePrice : ℕ
  status : OrderItemStatus
  createdAt : DateTime
  updatedAt : DateTime
  statusUpdatedAt : DateTime
  deriving DecidableEq

/-- `ORDER BY created_at, id`. -/
def UnnumberedOrder.creation (order : UnnumberedOrder) : ℤ ×ₗ ℕ := toLex (order.createdAt, order.id)

/-- `ORDER BY created_at, id`. -/
def UnnumberedItem.creation (item : UnnumberedItem) : ℤ ×ₗ ℕ := toLex (item.createdAt, item.id)

/-- The tables with their primary keys and the foreign key of `order_items`. -/
structure Tables008 where
  orders : List UnnumberedOrder
  orderItems : List UnnumberedItem
  nodup_orders : (orders.map (·.id)).Nodup
  nodup_orderItems : (orderItems.map (·.id)).Nodup
  order_of_item : ∀ item ∈ orderItems, ∃ order ∈ orders, order.id = item.orderId

/-- The items of an order. -/
def Tables008.itemsOf (db : Tables008) (id : UUID) : List UnnumberedItem :=
  db.orderItems.filter (·.orderId = id)

/-! ### The tables after -/

/-- The row with a number. -/
def UnnumberedOrder.numbered (order : UnnumberedOrder) (number : ℕ) : UUID × Order :=
  (order.id, ⟨number, order.buyerId, order.createdAt, order.updatedAt⟩)

/-- The row with a line. -/
def UnnumberedItem.numbered (item : UnnumberedItem) (line : ℕ) : UUID × OrderItem :=
  (item.id, ⟨item.orderId, item.offerId, line, item.quantity, item.purchasePrice, item.status,
    item.createdAt, item.updatedAt, item.statusUpdatedAt⟩)

/-- The row without its number. -/
def unnumberedOrder (row : UUID × Order) : UnnumberedOrder :=
  ⟨row.1, row.2.buyerId, row.2.createdAt, row.2.updatedAt⟩

/-- The row without its line. -/
def unnumberedItem (row : UUID × OrderItem) : UnnumberedItem :=
  ⟨row.1, row.2.orderId, row.2.offerId, row.2.quantity, row.2.purchasePrice, row.2.status,
    row.2.createdAt, row.2.updatedAt, row.2.statusUpdatedAt⟩

/-- A sequence: its last value, and whether `nextval` has given it. -/
structure Sequence where
  lastValue : ℕ
  isCalled : Bool
  deriving DecidableEq

/-- The tables, with the sequence that numbers further orders. -/
structure Tables009 where
  orders : List (UUID × Order)
  orderItems : List (UUID × OrderItem)
  orderNumberSeq : Sequence

/-- The items of an order. -/
def Tables009.itemsOf (db : Tables009) (id : UUID) : List (UUID × OrderItem) :=
  db.orderItems.filter (·.2.orderId = id)

/-- `OrderItem.number`. -/
def Tables009.publicNumber (db : Tables009) (item : OrderItem) : Except String Text :=
  match db.orders.find? (·.1 = item.orderId) with
  | some order => PublicNumbers.itemNumber order.2.number item.line
  | none => .error "'NoneType' object has no attribute 'number'"

/-! ### The statements -/

/-- Why a statement fails. -/
inductive SqlError where
  | integerOutOfRange
  | notNullViolation (relation column : String)
  | uniqueViolation (constraint : String)
  | sequenceOutOfBounds
  deriving DecidableEq

/-- The greatest value of a sequence. -/
def maxSequenceValue : ℕ := 9223372036854775807

/-- `CREATE SEQUENCE ... START start`. -/
def Sequence.create (start : ℕ) : Sequence := ⟨start, false⟩

/-- `setval`. -/
def Sequence.setval (_sequence : Sequence) (value : ℕ) : Except SqlError Sequence :=
  if 1 ≤ value ∧ value ≤ maxSequenceValue then .ok ⟨value, true⟩ else .error .sequenceOutOfBounds

/-- `nextval`. -/
def Sequence.nextval (sequence : Sequence) : Except SqlError (ℕ × Sequence) :=
  if sequence.isCalled then
    if sequence.lastValue + 1 ≤ maxSequenceValue then
      .ok (sequence.lastValue + 1, ⟨sequence.lastValue + 1, true⟩)
    else .error .sequenceOutOfBounds
  else .ok (sequence.lastValue, ⟨sequence.lastValue, true⟩)

section Statements

variable {α κ : Type*}

/-- `ADD COLUMN` of a nullable integer. -/
def addColumn (rows : List α) : List (α × Option ℕ) := rows.map (·, none)

/-- The `UPDATE ... FROM` of an integer column. -/
def updateInteger (id : α → UUID) (numbered : List (UUID × ℕ)) (rows : List (α × Option ℕ)) :
    Except SqlError (List (α × Option ℕ)) :=
  let updated := updateFrom id numbered rows
  if updated.all fun row => row.2.all fun n => decide (FitsInteger n) then .ok updated
  else .error .integerOutOfRange

/-- `SET NOT NULL`. -/
def setNotNull (relation column : String) (rows : List (α × Option ℕ)) :
    Except SqlError (List (α × ℕ)) :=
  rows.mapM fun row =>
    match row.2 with
    | some n => .ok (row.1, n)
    | none => .error (.notNullViolation relation column)

/-- `ADD CONSTRAINT ... UNIQUE`. -/
def createUniqueConstraint [DecidableEq κ] (name : String) (key : α → κ) (rows : List α) :
    Except SqlError Unit :=
  if (rows.map key).Nodup then .ok () else .error (.uniqueViolation name)

end Statements

/-- The query `numbered` of the orders. -/
def numberedOrders (orders : List (UnnumberedOrder × Option ℕ)) : List (UUID × ℕ) :=
  (rowNumber UnnumberedOrder.creation (orders.map Prod.fst)).map fun row => (row.1.id, 1000 + row.2)

/-- The query `numbered` of the items. -/
def numberedItems (orderItems : List (UnnumberedItem × Option ℕ)) : List (UUID × ℕ) :=
  (rowNumberIn UnnumberedItem.orderId UnnumberedItem.creation (orderItems.map Prod.fst)).map
    fun row => (row.1.id, row.2)

/-- `upgrade`. -/
def upgrade (db : Tables008) : Except SqlError Tables009 := do
  let sequence := Sequence.create 1001
  let orders := addColumn db.orders
  let orderItems := addColumn db.orderItems
  let orders ← updateInteger (·.id) (numberedOrders orders) orders
  let orderItems ← updateInteger (·.id) (numberedItems orderItems) orderItems
  let orders ← setNotNull "orders" "number" orders
  let orderItems ← setNotNull "order_items" "line" orderItems
  createUniqueConstraint "uq_orders_number" Prod.snd orders
  createUniqueConstraint "uq_order_items_order_id_line"
    (fun row => (row.1.orderId, row.2)) orderItems
  -- `COALESCE(MAX(number), 1000)`
  let sequence ← sequence.setval ((orders.map Prod.snd).max?.getD 1000)
  return {
    orders := orders.map fun row => row.1.numbered row.2
    orderItems := orderItems.map fun row => row.1.numbered row.2
    orderNumberSeq := sequence
  }

/-! ### What is stored -/

section Stored

variable {α κ : Type*} {db : Tables008}

lemma map_fst_addColumn (rows : List α) : (addColumn rows).map Prod.fst = rows := by
  rw [addColumn, List.map_map]
  exact List.map_id _

lemma nodup_creation_orders (db : Tables008) : (db.orders.map UnnumberedOrder.creation).Nodup := by
  refine List.Nodup.of_map (fun k => (ofLex k).2) ?_
  rw [List.map_map]
  exact db.nodup_orders

lemma nodup_creation_items (db : Tables008) :
    (db.orderItems.map UnnumberedItem.creation).Nodup := by
  refine List.Nodup.of_map (fun k => (ofLex k).2) ?_
  rw [List.map_map]
  exact db.nodup_orderItems

/-- The number of an order. -/
def Tables008.numberOf (db : Tables008) (order : UnnumberedOrder) : ℕ :=
  1000 + rank UnnumberedOrder.creation db.orders order

/-- The line of an item. -/
def Tables008.lineOf (db : Tables008) (item : UnnumberedItem) : ℕ :=
  rank UnnumberedItem.creation (db.itemsOf item.orderId) item

/-- The integers of a column fit. -/
def Fitting (rows : List α) (f : α → ℕ) : Prop := ∀ a ∈ rows, FitsInteger (f a)

instance (rows : List α) (f : α → ℕ) : Decidable (Fitting rows f) :=
  inferInstanceAs (Decidable (∀ a ∈ rows, FitsInteger (f a)))

/-- **An update** of a new column by a query with one answer for every row. -/
lemma updateInteger_eq {id : α → UUID} {rows : List α} {computed : List (α × ℕ)} {f : α → ℕ}
    (hid : (rows.map id).Nodup) (h : ∀ a n, (a, n) ∈ computed ↔ a ∈ rows ∧ n = f a) :
    updateInteger id (computed.map fun x => (id x.1, x.2)) (addColumn rows)
      = if Fitting rows f then .ok (rows.map fun a => (a, some (f a)))
        else .error .integerOutOfRange := by
  have hall : ((rows.map fun a => (a, some (f a))).all fun row =>
      row.2.all fun n => decide (FitsInteger n)) = true ↔ Fitting rows f := by
    simp [Fitting]
  rw [updateInteger, addColumn, updateFrom_eq hid h]
  exact if_congr hall rfl rfl

lemma setNotNull_eq (relation column : String) (rows : List α) (f : α → ℕ) :
    setNotNull relation column (rows.map fun a => (a, some (f a)))
      = .ok (rows.map fun a => (a, f a)) := by
  rw [setNotNull]
  induction rows with
  | nil => rfl
  | cons a rows ih =>
      rw [List.map_cons, List.mapM_cons, ih]
      rfl

lemma createUniqueConstraint_eq [DecidableEq κ] {name : String} {key : α → κ} {rows : List α}
    (h : (rows.map key).Nodup) : createUniqueConstraint name key rows = .ok () := if_pos h

/-- The numbers are 1001, 1002, …. -/
lemma map_numberOf_perm (db : Tables008) :
    (db.orders.map db.numberOf).Perm (List.range' 1001 db.orders.length) := by
  have hperm := (map_rank_perm (nodup_creation_orders db)).map (1000 + ·)
  rw [List.map_map, List.map_add_range'] at hperm
  exact hperm

/-- The lines of an order are 1, 2, …. -/
lemma map_lineOf_perm (db : Tables008) (id : UUID) :
    ((db.itemsOf id).map db.lineOf).Perm (List.range' 1 (db.itemsOf id).length) := by
  have hline : ∀ item ∈ db.itemsOf id,
      db.lineOf item = rank UnnumberedItem.creation (db.itemsOf id) item := by
    intro item hitem
    have horder : item.orderId = id := by simpa using (List.mem_filter.mp hitem).2
    rw [Tables008.lineOf, horder]
  rw [List.map_congr_left hline]
  exact map_rank_perm (nodup_filter_map (nodup_creation_items db) _)

/-- No two items have the same order and line. -/
lemma nodup_lines (db : Tables008) :
    (db.orderItems.map fun item => (item.orderId, db.lineOf item)).Nodup := by
  refine List.Nodup.map_on (fun item hitem item' hitem' heq => ?_) db.nodup_orderItems.of_map
  obtain ⟨horder, hline⟩ := Prod.mk.inj heq
  have hmem : item ∈ db.itemsOf item.orderId := List.mem_filter.mpr ⟨hitem, by simp⟩
  have hmem' : item' ∈ db.itemsOf item.orderId := List.mem_filter.mpr ⟨hitem', by simp [horder]⟩
  have hnodup : ((db.itemsOf item.orderId).map db.lineOf).Nodup :=
    (map_lineOf_perm db item.orderId).nodup_iff.mpr List.nodup_range'
  exact List.inj_on_of_nodup_map hnodup hmem hmem' hline

/-- The greatest number, or the one before the first. -/
lemma max_numberOf (db : Tables008) :
    (db.orders.map db.numberOf).max?.getD 1000 = 1000 + db.orders.length := by
  cases hmax : (db.orders.map db.numberOf).max? with
  | none =>
      rw [List.max?_eq_none_iff, List.map_eq_nil_iff] at hmax
      rw [hmax]
      rfl
  | some n =>
      obtain ⟨hn, hle⟩ := List.max?_eq_some_iff.mp hmax
      rw [(map_numberOf_perm db).mem_iff, List.mem_range'_1] at hn
      have hlast := hle (1000 + db.orders.length)
        ((map_numberOf_perm db).mem_iff.mpr (List.mem_range'_1.mpr (by omega)))
      rw [Option.getD_some]
      omega

/-- What the migration stores. -/
def Tables008.result (db : Tables008) : Tables009 where
  orders := db.orders.map fun order => order.numbered (db.numberOf order)
  orderItems := db.orderItems.map fun item => item.numbered (db.lineOf item)
  orderNumberSeq := ⟨1000 + db.orders.length, true⟩

lemma mem_numberedOrders (db : Tables008) (order : UnnumberedOrder) (n : ℕ) :
    (order, n) ∈ (rowNumber UnnumberedOrder.creation db.orders).map (fun x => (x.1, 1000 + x.2))
      ↔ order ∈ db.orders ∧ n = db.numberOf order := by
  rw [List.mem_map]
  constructor
  · rintro ⟨⟨o, k⟩, hmem, heq⟩
    obtain ⟨horder, rfl⟩ := (mem_rowNumber_iff (nodup_creation_orders db)).mp hmem
    cases heq
    exact ⟨horder, rfl⟩
  · rintro ⟨horder, rfl⟩
    exact ⟨(order, _), (mem_rowNumber_iff (nodup_creation_orders db)).mpr ⟨horder, rfl⟩, rfl⟩

lemma updateInteger_orders (db : Tables008) :
    updateInteger UnnumberedOrder.id (numberedOrders (addColumn db.orders)) (addColumn db.orders)
      = if Fitting db.orders db.numberOf
        then .ok (db.orders.map fun order => (order, some (db.numberOf order)))
        else .error .integerOutOfRange := by
  have hupdate := updateInteger_eq db.nodup_orders (mem_numberedOrders db)
  rw [List.map_map] at hupdate
  rw [numberedOrders, map_fst_addColumn]
  exact hupdate

lemma updateInteger_items (db : Tables008) :
    updateInteger UnnumberedItem.id (numberedItems (addColumn db.orderItems))
        (addColumn db.orderItems)
      = if Fitting db.orderItems db.lineOf
        then .ok (db.orderItems.map fun item => (item, some (db.lineOf item)))
        else .error .integerOutOfRange := by
  rw [numberedItems, map_fst_addColumn]
  exact updateInteger_eq db.nodup_orderItems
    fun item n => mem_rowNumberIn_iff (nodup_creation_items db)

/-- Behind numbers that fit there is room in the sequence. -/
lemma next_le_max (h : Fitting db.orders db.numberOf) :
    1000 + db.orders.length + 1 ≤ maxSequenceValue := by
  have hfits := (forall_rank_iff (nodup_creation_orders db) fun n => FitsInteger (1000 + n)).mp h
  by_cases hnone : db.orders.length = 0
  · rw [hnone]
    decide
  · have hlast := hfits db.orders.length (by omega) le_rfl
    simp only [FitsInteger, maxSequenceValue] at hlast ⊢
    omega

/-- The sequence goes on behind the last number. -/
lemma setval_numberOf (h : Fitting db.orders db.numberOf) (sequence : Sequence) :
    sequence.setval ((db.orders.map db.numberOf).max?.getD 1000)
      = .ok ⟨1000 + db.orders.length, true⟩ := by
  have hnext := next_le_max h
  rw [Sequence.setval, max_numberOf]
  exact if_pos ⟨by omega, by omega⟩

/-- **What the statements do**: either a number does not fit, or all rows are numbered. -/
lemma upgrade_eq (db : Tables008) :
    upgrade db = if Fitting db.orders db.numberOf ∧ Fitting db.orderItems db.lineOf
      then .ok db.result else .error .integerOutOfRange := by
  unfold upgrade
  simp only [updateInteger_orders, updateInteger_items]
  by_cases hnumbers : Fitting db.orders db.numberOf
  · by_cases hlines : Fitting db.orderItems db.lineOf
    · have hunique : ((db.orders.map fun order => (order, db.numberOf order)).map
          Prod.snd).Nodup := by
        rw [List.map_map]
        exact (map_numberOf_perm db).nodup_iff.mpr List.nodup_range'
      have hunique' : ((db.orderItems.map fun item => (item, db.lineOf item)).map
          fun row => (row.1.orderId, row.2)).Nodup := by
        rw [List.map_map]
        exact nodup_lines db
      have hsetval := setval_numberOf hnumbers (Sequence.create 1001)
      rw [if_pos hnumbers, if_pos hlines, if_pos ⟨hnumbers, hlines⟩]
      simp only [bind, Except.bind, setNotNull_eq, createUniqueConstraint_eq hunique,
        createUniqueConstraint_eq hunique']
      rw [List.map_map, List.map_map, List.map_map]
      have hnumbers' : (Prod.snd ∘ fun order => (order, db.numberOf order)) = db.numberOf := rfl
      rw [hnumbers', hsetval]
      rfl
    · have hboth : ¬ (Fitting db.orders db.numberOf ∧ Fitting db.orderItems db.lineOf) :=
        fun h => hlines h.2
      rw [if_pos hnumbers, if_neg hlines, if_neg hboth]
      rfl
  · have hboth : ¬ (Fitting db.orders db.numberOf ∧ Fitting db.orderItems db.lineOf) :=
      fun h => hnumbers h.1
    rw [if_neg hnumbers, if_neg hboth]
    rfl

end Stored

/-! ### Numbers in the order of creation -/

/-- The numbers that the migration leaves. -/
structure Numbered (db : Tables008) (db' : Tables009) : Prop where
  /-- The other columns of the orders stay. -/
  orders_kept : db'.orders.map unnumberedOrder = db.orders
  /-- The other columns of the items stay. -/
  orderItems_kept : db'.orderItems.map unnumberedItem = db.orderItems
  /-- In the order of `created_at` and `id` the orders have the numbers 1001, 1002, …. -/
  numbers : ∃ listed : List (UUID × Order), listed.Perm db'.orders
    ∧ Ascending (fun order => toLex (order.2.createdAt, order.1)) listed
    ∧ listed.map (·.2.number) = List.range' 1001 db.orders.length
  /-- No two orders have one number. -/
  nodup_numbers : (db'.orders.map (·.2.number)).Nodup
  /-- In the order of `created_at` and `id` the items of an order have the lines 1, 2, …. -/
  lines : ∀ order ∈ db'.orders, ∃ listed : List (UUID × OrderItem),
    listed.Perm (db'.itemsOf order.1)
    ∧ Ascending (fun item => toLex (item.2.createdAt, item.1)) listed
    ∧ listed.map (·.2.line) = List.range' 1 (db'.itemsOf order.1).length
  /-- Every item has a public number, and no two have the same. -/
  publicNumbers : ∃ texts, db'.orderItems.mapM (fun item => db'.publicNumber item.2) = .ok texts
    ∧ texts.Nodup
  /-- The next number is free. -/
  next : ∃ next, db'.orderNumberSeq.nextval = .ok next ∧ ∀ order ∈ db'.orders,
    order.2.number < next.1

section Numbering

variable {db : Tables008}

/-- The orders in order. -/
lemma exists_listed_orders (db : Tables008) :
    ∃ listed : List (UUID × Order), listed.Perm db.result.orders
      ∧ Ascending (fun order => toLex (order.2.createdAt, order.1)) listed
      ∧ listed.map (·.2.number) = List.range' 1001 db.orders.length := by
  have hsorted := ascending_sortBy (nodup_creation_orders db)
  have hperm := sortBy_perm UnnumberedOrder.creation db.orders
  refine ⟨(sortBy UnnumberedOrder.creation db.orders).map fun order =>
    order.numbered (db.numberOf order),
    hperm.map _, ?_, ?_⟩
  · exact Ascending.map hsorted
  have hnumber : ∀ order ∈ sortBy UnnumberedOrder.creation db.orders, db.numberOf order
      = 1000 + rank UnnumberedOrder.creation (sortBy UnnumberedOrder.creation db.orders) order :=
    fun order _ => congrArg (1000 + ·) (rank_perm hperm.symm order)
  calc ((sortBy UnnumberedOrder.creation db.orders).map fun order =>
        order.numbered (db.numberOf order)).map (·.2.number)
      = (sortBy UnnumberedOrder.creation db.orders).map db.numberOf := by rw [List.map_map]; rfl
    _ = ((sortBy UnnumberedOrder.creation db.orders).map
          (rank UnnumberedOrder.creation (sortBy UnnumberedOrder.creation db.orders))).map
          (1000 + ·) := by
        rw [List.map_congr_left hnumber, List.map_map]
        rfl
    _ = List.range' 1001 db.orders.length := by
        rw [map_rank hsorted, List.map_add_range', hperm.length_eq]

/-- The items of an order after the migration. -/
lemma itemsOf_result (db : Tables008) (id : UUID) : db.result.itemsOf id
    = (db.itemsOf id).map fun item => item.numbered (db.lineOf item) := by
  rw [Tables009.itemsOf, Tables008.result, List.filter_map]
  rfl

/-- The items of an order in order. -/
lemma exists_listed_items (db : Tables008) (id : UUID) :
    ∃ listed : List (UUID × OrderItem), listed.Perm (db.result.itemsOf id)
      ∧ Ascending (fun item => toLex (item.2.createdAt, item.1)) listed
      ∧ listed.map (·.2.line) = List.range' 1 (db.result.itemsOf id).length := by
  have hkeys : ((db.itemsOf id).map UnnumberedItem.creation).Nodup :=
    nodup_filter_map (nodup_creation_items db) _
  have hsorted := ascending_sortBy hkeys
  have hperm := sortBy_perm UnnumberedItem.creation (db.itemsOf id)
  rw [itemsOf_result, List.length_map]
  refine ⟨(sortBy UnnumberedItem.creation (db.itemsOf id)).map fun item =>
    item.numbered (db.lineOf item),
    hperm.map _, ?_, ?_⟩
  · exact Ascending.map hsorted
  have hline : ∀ item ∈ sortBy UnnumberedItem.creation (db.itemsOf id), db.lineOf item
      = rank UnnumberedItem.creation (sortBy UnnumberedItem.creation (db.itemsOf id)) item := by
    intro item hitem
    have horder : item.orderId = id := by
      simpa using (List.mem_filter.mp (hperm.mem_iff.mp hitem)).2
    rw [Tables008.lineOf, horder]
    exact rank_perm hperm.symm item
  calc ((sortBy UnnumberedItem.creation (db.itemsOf id)).map fun item =>
        item.numbered (db.lineOf item)).map (·.2.line)
      = (sortBy UnnumberedItem.creation (db.itemsOf id)).map db.lineOf := by rw [List.map_map]; rfl
    _ = List.range' 1 (db.itemsOf id).length := by
        rw [List.map_congr_left hline, map_rank hsorted, hperm.length_eq]

/-- What was stored of the order of an item. -/
lemma find_result {item : UnnumberedItem} {order : UnnumberedOrder} (horder : order ∈ db.orders)
    (hid : order.id = item.orderId) :
    db.result.orders.find? (·.1 = item.orderId) = some (order.numbered (db.numberOf order)) := by
  have hmem : order.numbered (db.numberOf order) ∈ db.result.orders := List.mem_map_of_mem horder
  cases hfind : db.result.orders.find? (·.1 = item.orderId) with
  | none => simpa using List.find?_eq_none.mp hfind _ hmem (decide_eq_true hid)
  | some row =>
      obtain ⟨order', horder', rfl⟩ := List.mem_map.mp (List.mem_of_find?_eq_some hfind)
      have hsame : decide ((order'.numbered (db.numberOf order')).1 = item.orderId) = true :=
        List.find?_some (p := fun row : UUID × Order => decide (row.1 = item.orderId)) hfind
      rw [List.inj_on_of_nodup_map db.nodup_orders horder' horder
        ((of_decide_eq_true hsame).trans hid.symm)]

/-- The number of the order of an item. -/
lemma publicNumber_result {item : UnnumberedItem} {order : UnnumberedOrder}
    (horder : order ∈ db.orders) (hid : order.id = item.orderId) :
    db.result.publicNumber (item.numbered (db.lineOf item)).2
      = PublicNumbers.itemNumber (db.numberOf order) (db.lineOf item) := by
  have hfind : db.result.orders.find? (·.1 = (item.numbered (db.lineOf item)).2.orderId) = _ :=
    find_result horder hid
  rw [Tables009.publicNumber, hfind]
  rfl

lemma codable_of_fits {n : ℕ} (h : FitsInteger n) : Codable n := by
  have hpow : (10 : ℤ) ^ 10 ≤ 10 ^ maxStrDigits := pow_le_pow_right₀ (by norm_num) (by decide)
  rw [FitsInteger] at h
  exact ⟨by omega, lt_of_lt_of_le (by omega) hpow⟩

/-- Numbers that fit have a text. -/
lemma exists_itemNumber {n k : ℕ} (hn : FitsInteger n) (hk : FitsInteger k) :
    ∃ t, PublicNumbers.itemNumber n k = .ok t := by
  have hback := parse_itemNumber_iff.mpr ⟨codable_of_fits hn, codable_of_fits hk⟩
  cases ht : PublicNumbers.itemNumber n k with
  | error e => rw [ht] at hback; cases hback
  | ok t => exact ⟨t, rfl⟩

/-- The text tells the numbers. -/
lemma eq_of_itemNumber {n k n' k' : ℕ} {t : Text} (hn : FitsInteger n) (hk : FitsInteger k)
    (hn' : FitsInteger n') (hk' : FitsInteger k') (h : PublicNumbers.itemNumber n k = .ok t)
    (h' : PublicNumbers.itemNumber n' k' = .ok t) : n = n' ∧ k = k' := by
  have hback := parse_itemNumber_iff.mpr ⟨codable_of_fits hn, codable_of_fits hk⟩
  have hback' := parse_itemNumber_iff.mpr ⟨codable_of_fits hn', codable_of_fits hk'⟩
  rw [h] at hback
  rw [h'] at hback'
  have heq := Except.ok.inj (hback.symm.trans hback')
  simp only [Prod.mk.injEq, Option.some.injEq, Nat.cast_inj] at heq
  exact heq

/-- The public numbers of the items. -/
lemma exists_publicNumbers (horders : Fitting db.orders db.numberOf)
    (hitems : Fitting db.orderItems db.lineOf) :
    ∃ texts, db.result.orderItems.mapM (fun item => db.result.publicNumber item.2) = .ok texts
      ∧ texts.Nodup := by
  -- the order and the text of every item
  have hitem : ∀ item ∈ db.orderItems, ∃ t order, order ∈ db.orders ∧ order.id = item.orderId
      ∧ PublicNumbers.itemNumber (db.numberOf order) (db.lineOf item) = .ok t := by
    intro item hmem
    obtain ⟨order, horder, hid⟩ := db.order_of_item item hmem
    obtain ⟨t, ht⟩ := exists_itemNumber (horders order horder) (hitems item hmem)
    exact ⟨t, order, horder, hid, ht⟩
  choose! textOf orderOf hmemOf hidOf htext using hitem
  have hmap : db.result.orderItems.mapM (fun item => db.result.publicNumber item.2)
      = .ok (db.orderItems.map textOf) := by
    have hall : ∀ items : List UnnumberedItem, (∀ item ∈ items, item ∈ db.orderItems) →
        (items.map fun item => item.numbered (db.lineOf item)).mapM
          (fun item => db.result.publicNumber item.2) = .ok (items.map textOf) := by
      intro items hsub
      induction items with
      | nil => rfl
      | cons item items ih =>
          have hmem := hsub item List.mem_cons_self
          rw [List.map_cons, List.mapM_cons,
            publicNumber_result (hmemOf item hmem) (hidOf item hmem), htext item hmem,
            ih fun i hi => hsub i (List.mem_cons_of_mem _ hi)]
          rfl
    exact hall db.orderItems fun _ h => h
  refine ⟨_, hmap, List.Nodup.map_on
    (fun item hmem item' hmem' heq => ?_) db.nodup_orderItems.of_map⟩
  have htext' := htext item' hmem'
  rw [← heq] at htext'
  obtain ⟨hnumber, hline⟩ := eq_of_itemNumber (horders _ (hmemOf item hmem)) (hitems item hmem)
    (horders _ (hmemOf item' hmem')) (hitems item' hmem') (htext item hmem) htext'
  have horder : orderOf item = orderOf item' := by
    refine List.inj_on_of_nodup_map ?_ (hmemOf item hmem) (hmemOf item' hmem') hnumber
    exact (map_numberOf_perm db).nodup_iff.mpr List.nodup_range'
  refine List.inj_on_of_nodup_map (nodup_lines db) hmem hmem' (Prod.ext ?_ hline)
  calc item.orderId = (orderOf item).id := (hidOf item hmem).symm
    _ = item'.orderId := by rw [horder, hidOf item' hmem']

/-- **What the migration stores is numbered.** -/
lemma numbered_result (horders : Fitting db.orders db.numberOf)
    (hitems : Fitting db.orderItems db.lineOf) : Numbered db db.result where
  orders_kept := by
    rw [Tables008.result, List.map_map]
    exact List.map_id _
  orderItems_kept := by
    rw [Tables008.result, List.map_map]
    exact List.map_id _
  numbers := exists_listed_orders db
  nodup_numbers := by
    rw [Tables008.result, List.map_map]
    exact (map_numberOf_perm db).nodup_iff.mpr List.nodup_range'
  lines order _ := exists_listed_items db order.1
  publicNumbers := exists_publicNumbers horders hitems
  next := by
    refine ⟨(1000 + db.orders.length + 1, ⟨1000 + db.orders.length + 1, true⟩),
      if_pos (next_le_max horders), ?_⟩
    intro order horder
    obtain ⟨o, ho, rfl⟩ := List.mem_map.mp horder
    have hrange := (map_numberOf_perm db).mem_iff.mp (List.mem_map_of_mem ho)
    have hnumber : (o.numbered (db.numberOf o)).2.number = db.numberOf o := rfl
    rw [List.mem_range'_1] at hrange
    rw [hnumber]
    omega

/-- The numbers fit if the last ones do. -/
lemma fitting_iff (db : Tables008) :
    (Fitting db.orders db.numberOf ∧ Fitting db.orderItems db.lineOf)
    ↔ FitsInteger (1000 + db.orders.length)
      ∧ ∀ order ∈ db.orders, FitsInteger (db.itemsOf order.id).length := by
  have hdown : ∀ {n k : ℕ}, n ≤ k → FitsInteger k → FitsInteger n := fun hle h =>
    lt_of_le_of_lt hle h
  have horders := forall_rank_iff (nodup_creation_orders db) fun n => FitsInteger (1000 + n)
  have hitems := fun id => forall_rank_iff (nodup_filter_map (nodup_creation_items db)
    fun item => decide (item.orderId = id)) FitsInteger
  have hline : ∀ item ∈ db.orderItems, item ∈ db.itemsOf item.orderId :=
    fun item hitem => List.mem_filter.mpr ⟨hitem, by simp⟩
  refine and_congr ⟨fun h => ?_, fun h => ?_⟩ ⟨fun h order _ => ?_, fun h item hitem => ?_⟩
  · by_cases hnone : db.orders.length = 0
    · rw [hnone]
      decide
    · exact horders.mp h _ (by omega) le_rfl
  · exact horders.mpr fun n _ hn => hdown (by omega) h
  · by_cases hnone : (db.itemsOf order.id).length = 0
    · rw [hnone]
      decide
    · refine (hitems order.id).mp (fun item hitem => ?_) _ (by omega) le_rfl
      obtain ⟨hmem, hid⟩ := List.mem_filter.mp hitem
      have hfits := h item hmem
      rw [Tables008.lineOf, of_decide_eq_true hid] at hfits
      exact hfits
  · obtain ⟨order, horder, hid⟩ := db.order_of_item item hitem
    refine (hitems item.orderId).mpr (fun n _ hn => hdown hn ?_) item (hline item hitem)
    have hfits := h order horder
    rwa [hid] at hfits

/-- **The migration** goes through exactly if the numbers fit their columns, and then the orders
and their items are numbered in the order of their creation, whatever the tables hold. -/
theorem upgrade_numbers (db : Tables008) :
    ((∃ db', upgrade db = .ok db') ↔ FitsInteger (1000 + db.orders.length)
      ∧ ∀ order ∈ db.orders, FitsInteger (db.itemsOf order.id).length)
    ∧ ∀ db', upgrade db = .ok db' → Numbered db db' := by
  rw [upgrade_eq, ← fitting_iff]
  split_ifs with h
  · refine ⟨⟨fun _ => h, fun _ => ⟨_, rfl⟩⟩, fun db' hdb => ?_⟩
    cases hdb
    exact numbered_result h.1 h.2
  · exact ⟨⟨fun ⟨_, hdb⟩ => (by cases hdb), fun h' => absurd h' h⟩, fun _ hdb => (by cases hdb)⟩

end Numbering

end MarketHub.NumberMigration
