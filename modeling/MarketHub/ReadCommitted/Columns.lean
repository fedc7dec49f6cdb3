import MarketHub.ReadCommitted.Footprint
import MarketHub.ReadCommitted.Ledger

/-!
Columns that a program keeps.

`fixed` is what of a row does not change, and `F` says of which rows this is asked.

* `KeepsRow`: a row stays, with what is fixed of it.
* `Op.keeps`: a step that changes nothing fixed.
* `Keeping.step`, `wp_keeps`: a program of such steps commits no other change.
* `Op.lasts`, `wp_lasts`: a program that deletes no row of `F` commits no such deletion.
* `Op.adds`, `wp_adds`: a program that only adds to `F`, and only rows that satisfy `V`.
* `Op.sparing`, `wp_sparing`: a program that inserts no row of `F`.
* `Session.Reading`: a session that has only loaded rows of `F`; `wp_get_reading` loads one more.
-/

namespace ReadCommitted

open Session

variable {K : Type} [DecidableEq K] {Row : K → Type} {Ev Err α : Type}
  [∀ k, DecidableEq (Row k)] [Table Row]
  (fixed : ∀ k, Row k → Row k) (F : K → Prop)

/-- A row stays, with what is fixed of it. -/
def KeepsRow (k : K) (old new : Option (Row k)) : Prop :=
  F k → ∀ b, old = some b → ∃ c, new = some c ∧ fixed k c = fixed k b

/-- A step that changes nothing fixed. -/
def Op.keeps : {γ : Type} → Op Row Ev γ → Prop
  | _, .assign k _ => ¬ F k
  | _, .update k _ f => F k → ∀ r, fixed k (f r) = fixed k r
  | _, .delete k _ => ¬ F k
  | _, _ => True

/-- A session that has changed nothing fixed, and is not about to. -/
structure Keeping (s : Session Row Ev) : Prop where
  moves : s.Moves (KeepsRow fixed F)
  objects : ∀ k, F k → ∀ ob, s.objects.lookup k = some ob →
    ob.loaded = some ob.cur ∨ ob.loaded = none

variable {fixed F} {s s' : Session Row Ev} {st : Store Row} {k : K}

omit [DecidableEq K] [∀ k, DecidableEq (Row k)] [Table Row] in
lemma keepsRow_refl (k : K) (r : Option (Row k)) : KeepsRow fixed F k r r :=
  fun _ b hb => ⟨b, hb, rfl⟩

omit [DecidableEq K] [∀ k, DecidableEq (Row k)] [Table Row] in
lemma keepsRow_trans (k : K) (r₁ r₂ r₃ : Option (Row k)) (h : KeepsRow fixed F k r₁ r₂)
    (h' : KeepsRow fixed F k r₂ r₃) : KeepsRow fixed F k r₁ r₃ := by
  intro hF b hb
  obtain ⟨c, hc, hcb⟩ := h hF b hb
  obtain ⟨d, hd, hdc⟩ := h' hF c hc
  exact ⟨d, hd, hdc.trans hcb⟩

namespace Keeping

omit [∀ k, DecidableEq (Row k)] [Table Row] in
lemma empty : Keeping fixed F (∅ : Session Row Ev) where
  moves := Session.moves_empty
  objects k _ ob hob := by
    change (∅ : AList (Obj Row)).lookup k = some ob at hob
    simp at hob

omit [∀ k, DecidableEq (Row k)] [Table Row] in
lemma locks (h : Keeping fixed F s) (ks : List K) :
    Keeping fixed F (ks.foldl (Session.lock st) s) where
  moves := h.moves.locks keepsRow_refl ks
  objects := by
    rw [foldl_lock_objects]
    exact h.objects

omit [∀ k, DecidableEq (Row k)] [Table Row] in
lemma load (h : Keeping fixed F s) (v : Store Row) (k : K) : Keeping fixed F (s.load v k) where
  moves := h.moves.of_held_eq (load_held v s k)
  objects k' hF ob hob := by
    rcases lookup_load_cases v s k hob with hold | ⟨r, -, rfl⟩
    · exact h.objects k' hF ob hold
    · exact Or.inl rfl

omit [∀ k, DecidableEq (Row k)] [Table Row] in
lemma loads (h : Keeping fixed F s) (v : Store Row) (ks : List K) :
    Keeping fixed F (ks.foldl (Session.load v) s) := by
  induction ks generalizing s with
  | nil => exact h
  | cons k ks ih => exact ih (h.load v k)

omit [∀ k, DecidableEq (Row k)] [Table Row] in
lemma sync (h : Keeping fixed F s) (r : Row k) : Keeping fixed F (s.sync k r) where
  moves := h.moves
  objects k' hF ob hob := by
    rcases lookup_sync_cases hob with hclean | ⟨-, hold⟩
    · exact Or.inl hclean
    · exact h.objects k' hF ob hold

omit [∀ k, DecidableEq (Row k)] [Table Row] in
lemma follow (h : Keeping fixed F s) (m : Row k → Bool) (f : Row k → Row k) :
    Keeping fixed F (s.follow k m f) := by
  rw [Session.follow]
  split
  · split
    · exact h.sync _
    · exact h
  · exact h

omit [∀ k, DecidableEq (Row k)] [Table Row] in
lemma write (h : Keeping fixed F s) {r : Option (Row k)}
    (hr : KeepsRow fixed F k ((s.view st).lookup k) r) : Keeping fixed F (s.write st k r) where
  moves := h.moves.write keepsRow_trans hr
  objects := h.objects

/-- **A step that changes nothing fixed** keeps such a session. -/
lemma step {γ : Type} {op : Op Row Ev γ} {c : Choice} {busy : Busy Row} {b : γ}
    (hok : op.keeps fixed F) (h : Keeping fixed F s)
    (he : op.eval c busy st s = some (b, s')) : Keeping fixed F s' := by
  cases op with
  | utcnow => cases he; exact h
  | uuid4 => cases he; exact h
  | select skip rows ents locks =>
      rcases eval_select_skip he with ⟨-, rfl⟩ | ⟨-, rfl⟩
      · exact h
      · exact (h.locks _).loads _ _
  | query q => cases he; exact h
  | attrs k => cases he; exact h
  | assign k r =>
      obtain ⟨ob, -, rfl⟩ := eval_assign he
      refine ⟨h.moves, fun k' hF ob' hob' => ?_⟩
      have hk : k' ≠ k := by
        rintro rfl
        exact hok hF
      rw [AList.lookup_insert_ne hk] at hob'
      exact h.objects k' hF ob' hob'
  | update k m f =>
      rcases eval_update he with ⟨-, rfl, -⟩ | ⟨r, -, hr, -, rfl⟩
      · exact h.follow m f
      · refine (h.write fun hF b hb => ?_).follow m f
        rw [hr] at hb
        cases hb
        exact ⟨_, rfl, hok hF r⟩
  | delete k referenced =>
      rcases eval_delete he with ⟨-, rfl, -⟩ | ⟨-, -, rfl⟩
      · exact h
      · have hwrite : Keeping fixed F (s.write st k none) := h.write fun hF => absurd hF hok
        refine ⟨hwrite.moves, fun k' hF ob hob => ?_⟩
        have hk : k' ≠ k := by
          rintro rfl
          exact hok hF
        rw [AList.lookup_erase_ne hk] at hob
        exact h.objects k' hF ob hob
  | add k r =>
      obtain ⟨-, rfl⟩ := eval_add he
      refine ⟨h.moves, fun k' hF ob hob => ?_⟩
      by_cases hk : k' = k
      · subst hk
        rw [AList.lookup_insert] at hob
        cases hob
        exact Or.inr rfl
      · rw [AList.lookup_insert_ne hk] at hob
        exact h.objects k' hF ob hob
  | insertNested k r =>
      rcases eval_insertNested he with ⟨-, rfl, -⟩ | ⟨-, hnone, -, rfl⟩
      · exact h
      · refine (h.write fun _ b hb => ?_).sync _
        rw [hnone] at hb
        cases hb
  | refresh k =>
      obtain ⟨r, -, rfl⟩ := eval_refresh he
      exact h.sync r
  | dirty => cases he; exact h
  | flushKey k =>
      rcases eval_flushKey he with ⟨rfl, -⟩ | ⟨ob, r, hob, hsend, rfl⟩
      · exact h
      · refine (h.write fun hF b hb => ?_).sync _
        cases hsend with
        | insert _ hnone =>
            rw [hnone] at hb
            cases hb
        | update hold hne _ =>
            rcases h.objects k hF ob hob with hclean | hnew
            · rw [hold] at hclean
              exact absurd (Option.some.inj hclean) hne
            · rw [hnew] at hold
              cases hold
  | record e => cases he; exact ⟨h.moves, h.objects⟩

end Keeping

/-- **A program of such steps** commits nothing else. -/
lemma wp_keeps {o : Outline Row Ev} {p : Prog Row Ev Err α} (hp : p.AllOps (Op.keeps fixed F))
    (hcommit : ∀ st s, s.Moves (KeepsRow fixed F) → Agrees s.held st → o.commit st s)
    (st : Store Row) :
    wp o p (fun _ _ _ => True) st ∅ :=
  wp_of_allOps hp (fun _ _ _ _ _ _ _ _ hok hs he => Keeping.step hok hs he)
    (fun st s hs hag => hcommit st s hs.moves hag) Keeping.empty
    (fun _ _ _ _ => trivial) Keeping.empty

/-! ### Rows that stay -/

/-- A step that deletes no row of `F`. -/
def Op.lasts (F : K → Prop) : {γ : Type} → Op Row Ev γ → Prop
  | _, .delete k _ => ¬ F k
  | _, _ => True

/-- A row of `F` that is there stays. -/
def Lasts (F : K → Prop) (k : K) (old new : Option (Row k)) : Prop :=
  F k → old ≠ none → new ≠ none

omit [DecidableEq K] [∀ k, DecidableEq (Row k)] [Table Row] in
lemma lasts_refl (k : K) (r : Option (Row k)) : Lasts F k r r := fun _ h => h

omit [DecidableEq K] [∀ k, DecidableEq (Row k)] [Table Row] in
lemma lasts_trans (k : K) (r₁ r₂ r₃ : Option (Row k)) (h : Lasts F k r₁ r₂) (h' : Lasts F k r₂ r₃) :
    Lasts F k r₁ r₃ := fun hF hr => h' hF (h hF hr)

/-- A step that deletes no row of `F` moves none of them away. -/
lemma Session.Moves.lasts {γ : Type} {op : Op Row Ev γ} {c : Choice} {busy : Busy Row} {b : γ}
    (hok : op.lasts F) (h : s.Moves (Lasts F)) (he : op.eval c busy st s = some (b, s')) :
    s'.Moves (Lasts F) := by
  have hwrite : ∀ k (r : Row k), (s.write st k (some r)).Moves (Lasts F) := fun k r =>
    h.write lasts_trans fun _ _ => Option.some_ne_none r
  -- only a delete writes `none`, and `op` deletes no row of `F`
  cases op with
  | utcnow => cases he; exact h
  | uuid4 => cases he; exact h
  | select skip rows ents locks =>
      rcases eval_select_skip he with ⟨-, rfl⟩ | ⟨-, rfl⟩
      · exact h
      · exact (h.locks lasts_refl _).of_held_eq (foldl_load_held _ _ _)
  | query q => cases he; exact h
  | attrs k => cases he; exact h
  | assign k r =>
      obtain ⟨ob, -, rfl⟩ := eval_assign he
      exact h.of_held_eq rfl
  | update k m f =>
      rcases eval_update he with ⟨-, rfl, -⟩ | ⟨r, -, -, -, rfl⟩
      · exact h.of_held_eq (follow_held ..)
      · exact (hwrite k (f r)).of_held_eq (follow_held ..)
  | delete k referenced =>
      rcases eval_delete he with ⟨-, rfl, -⟩ | ⟨-, -, rfl⟩
      · exact h
      · exact (h.write (r := none) lasts_trans fun hF => absurd hF hok).of_held_eq rfl
  | add k r =>
      obtain ⟨-, rfl⟩ := eval_add he
      exact h.of_held_eq rfl
  | insertNested k r =>
      rcases eval_insertNested he with ⟨-, rfl, -⟩ | ⟨-, -, -, rfl⟩
      · exact h
      · exact (hwrite k r).of_held_eq rfl
  | refresh k =>
      obtain ⟨r, -, rfl⟩ := eval_refresh he
      exact h.of_held_eq rfl
  | dirty => cases he; exact h
  | flushKey k =>
      rcases eval_flushKey he with ⟨rfl, -⟩ | ⟨ob, r, -, -, rfl⟩
      · exact h
      · exact (hwrite k r).of_held_eq rfl
  | record e => cases he; exact h.of_held_eq rfl

/-- **A program of such steps** commits no such deletion. -/
lemma wp_lasts {o : Outline Row Ev} {p : Prog Row Ev Err α} (hp : p.AllOps (Op.lasts F))
    (hcommit : ∀ st s, (∀ k, F k → st.lookup k ≠ none → (merge st s.held).lookup k ≠ none) →
      o.commit st s) (st : Store Row) : wp o p (fun _ _ _ => True) st ∅ :=
  wp_of_allOps hp (fun _ _ _ _ _ _ _ _ => Session.Moves.lasts)
    (fun st s hs hag => hcommit st s fun k => hs.merge lasts_refl hag k) Session.moves_empty
    (fun _ _ _ _ => trivial) Session.moves_empty

/-! ### Rows that are added -/

/-- A step that adds to `F` only rows that satisfy `V`, and changes none. -/
def Op.adds (F : K → Prop) (V : ∀ k, Row k → Prop) : {γ : Type} → Op Row Ev γ → Prop
  | _, .assign k _ => ¬ F k
  | _, .update k _ _ => ¬ F k
  | _, .delete k _ => ¬ F k
  | _, .add k r => F k → V k r
  | _, .insertNested k r => F k → V k r
  | _, _ => True

/-- A step that only adds. -/
lemma Session.Adds.only {V : ∀ k, Row k → Prop} {γ : Type} {op : Op Row Ev γ} {c : Choice}
    {busy : Busy Row} {b : γ} {j : K} (hF : F j) (hok : op.adds F V) (h : s.Adds j (V j))
    (he : op.eval c busy st s = some (b, s')) : s'.Adds j (V j) := by
  have helsewhere : op.within (· ≠ j) → s'.Adds j (V j) := fun hwithin =>
    h.step (fun hne => hne rfl) hwithin he
  have hne : ∀ {k}, ¬ F k → k ≠ j := by
    rintro k hk rfl
    exact hk hF
  cases op with
  | assign k r => exact helsewhere (hne hok)
  | update k m f => exact helsewhere (hne hok)
  | delete k referenced => exact helsewhere (hne hok)
  | add k r =>
      by_cases hk : k = j
      · subst hk
        obtain ⟨-, rfl⟩ := eval_add he
        exact h.add (hok hF)
      · exact helsewhere hk
  | insertNested k r =>
      by_cases hk : k = j
      · subst hk
        rcases eval_insertNested he with ⟨-, rfl, -⟩ | ⟨-, -, -, rfl⟩
        · exact h
        · have hwritten : (s.write st k (some r)).Adds k (V k) := by
            refine ⟨fun hd hhd => ?_, h.objects⟩
            rw [lookup_write_self] at hhd
            cases hhd
            exact .inr ⟨r, rfl, hok hF⟩
          exact hwritten.sync r
      · exact helsewhere hk
  | _ => exact helsewhere trivial

/-- A step that inserts no row of `F`. -/
def Op.sparing (F : K → Prop) : {γ : Type} → Op Row Ev γ → Prop
  | _, .add k _ => ¬ F k
  | _, .insertNested k _ => ¬ F k
  | _, _ => True

/-- **A program that inserts no row of `F`** leaves them absent. -/
lemma wp_sparing {o : Outline Row Ev} {p : Prog Row Ev Err α} (hp : p.AllOps (Op.sparing F))
    (hcommit : ∀ st s, (∀ k, F k → st.lookup k = none → (merge st s.held).lookup k = none) →
      o.commit st s) (st : Store Row) : wp o p (fun _ _ _ => True) st ∅ := by
  refine wp_of_allOps (I := fun s => ∀ k, F k → s.Without k) hp
    (fun _ op _ _ _ _ _ _ hok hs he k hF => (hs k hF).step ?_ he)
    (fun st s hs hag => hcommit st s fun k hF => (hs k hF).absent hag) (fun _ _ => .empty)
    (fun _ _ _ _ => trivial) fun _ _ => .empty
  have hne : ∀ {j}, ¬ F j → j ≠ k := by
    rintro j hj rfl
    exact hj hF
  cases op with
  | add j r => exact hne hok
  | insertNested j r => exact hne hok
  | _ => trivial

/-! ### Sessions that have only read -/

/-- A session that holds nothing, and has loaded rows of `F` only. -/
structure Session.Reading (F : K → Prop) (s : Session Row Ev) : Prop where
  held : ∀ k, s.held.lookup k = none
  clean : s.Clean
  objects : ∀ k, ¬ F k → s.objects.lookup k = none

namespace Session.Reading

variable {G : K → Prop}

omit [∀ k, DecidableEq (Row k)] [Table Row] in
lemma empty : Reading F (∅ : Session Row Ev) where
  held k := by
    change (∅ : AList (Held Row)).lookup k = none
    simp
  clean := clean_empty
  objects k _ := by
    change (∅ : AList (Obj Row)).lookup k = none
    simp

omit [∀ k, DecidableEq (Row k)] [Table Row] in
lemma mono (h : s.Reading F) (hF : ∀ k, F k → G k) : s.Reading G :=
  ⟨h.held, h.clean, fun k hk => h.objects k fun hFk => hk (hF k hFk)⟩

omit [∀ k, DecidableEq (Row k)] [Table Row] in
lemma load (h : s.Reading F) (v : Store Row) (hk : F k) : (s.load v k).Reading F where
  held k' := by
    rw [load_held]
    exact h.held k'
  clean := h.clean.load v
  objects k' hk' := by
    have hne : k' ≠ k := by
      rintro rfl
      exact hk' hk
    rw [lookup_load_ne v s k hne]
    exact h.objects k' hk'

omit [∀ k, DecidableEq (Row k)] [Table Row] in
/-- It sees the committed rows. -/
lemma lookup_view (h : s.Reading F) (k : K) : (s.view st).lookup k = st.lookup k := by
  rw [Session.lookup_view, h.held]

end Session.Reading

end ReadCommitted
