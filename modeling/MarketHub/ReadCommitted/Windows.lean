import MarketHub.ReadCommitted.Alone
import MarketHub.ReadCommitted.Footprint
import MarketHub.ReadCommitted.System

/-!
Other indexes, places in programs, and parts of runs.

* `wp_table`: a program that inserts no row of `F` does not notice another index on these rows.
* `Prog.Ends`: a program that commits once and then answers, with what it has recorded.
* `Prog.Approaches`: what is left of a program that goes through a place, and in which states it
  comes there.
* `Reachable.window`: in a part of a run, the programs that start in it may rely on what all
  commits of that part keep to.
-/

namespace ReadCommitted

variable {K : Type} [DecidableEq K] {Row : K → Type} [∀ k, DecidableEq (Row k)] {Ev Err α β : Type}

/-! ### Other indexes -/

section Indexes

variable (T T' : Table Row) {F : K → Prop}
  (hpatch : ∀ {k : K} (old new base : Row k), T.patch old new base = T'.patch old new base)
  (hclash : ∀ k, ¬ F k → ∀ (r : Row k) k' r', T.clash k r k' r' = T'.clash k r k' r')

include hpatch hclash

/-- A step that inserts no row of `F` comes out the same with another index on these rows. -/
lemma eval_table {γ : Type} {op : Op Row Ev γ} {c : Choice} {busy : Busy Row} {st : Store Row}
    {s : Session Row Ev} (hop : ∀ j, F j → op.spares j) (hs : ∀ j, F j → s.Without j) :
    @Op.eval K _ Row Ev _ T γ op c busy st s = @Op.eval K _ Row Ev _ T' γ op c busy st s := by
  have hsame : ∀ k, ¬ F k → ∀ r : Row k, T.clash k r = T'.clash k r := fun k hk r =>
    funext fun k' => funext fun r' => hclash k hk r k' r'
  have hstored : ∀ (v : Store Row) k, ¬ F k → ∀ r : Row k,
      @clashes K _ Row T v k r = @clashes K _ Row T' v k r := by
    intro v k hk r
    unfold clashes
    rw [hsame k hk r]
  have hbusy : ∀ k, ¬ F k → ∀ r : Row k,
      @Busy.clashes K _ Row T busy k r = @Busy.clashes K _ Row T' busy k r := by
    intro k hk r
    unfold Busy.clashes
    rw [hsame k hk r]
  cases op with
  | insertNested k r =>
      have hk : ¬ F k := fun hF => hop k hF rfl
      simp only [Op.eval, hstored _ k hk r, hbusy k hk r]
  | flushKey k =>
      simp only [Op.eval]
      cases hob : s.objects.lookup k with
      | none => rfl
      | some ob =>
          cases hloaded : ob.loaded with
          | none =>
              have hk : ¬ F k := fun hF => (hs k hF).objects ob hob hloaded
              simp only [hloaded, hstored _ k hk ob.cur, hbusy k hk ob.cur]
          | some old => simp only [hloaded, hpatch]
  | _ => rfl

/-- **A program that inserts no row of `F` does not notice another index on these rows.** -/
theorem wp_table {o : Outline Row Ev} {p : Prog Row Ev Err α}
    {post : α → Store Row → Session Row Ev → Prop} {st : Store Row} {s : Session Row Ev}
    (hp : ∀ j, F j → p.AllOps (Op.spares j)) (hs : ∀ j, F j → s.Without j)
    (h : @wp K _ Row Ev Err _ T α o p post st s) : @wp K _ Row Ev Err _ T' α o p post st s := by
  induction p generalizing st s with
  | pure a => exact h
  | op op k ih =>
      intro st' hf c busy b s' he hg
      have he' := (eval_table T T' hpatch hclash (fun j hF => (hp j hF).1) hs).trans he
      exact ih b (fun j hF => (hp j hF).2 b)
        (fun j hF => @Session.Without.step K Row Ev _ _ T j s s' st' _ op c busy b (hp j hF).1
          (hs j hF) he')
        (h st' hf c busy b s' he' hg)
  | raise e => trivial
  | commit k ih =>
      intro st' hf
      obtain ⟨hcommit, hnext⟩ := h st' hf
      exact ⟨hcommit, ih hp (fun _ _ => .empty) hnext⟩
  | publish k ih => exact ih hp hs h

end Indexes

variable [Table Row]

/-! ### Recorded events -/

/-- The events that a step records. -/
def Op.recorded : {γ : Type} → Op Row Ev γ → List Ev
  | _, .record e => [e]
  | _, _ => []

lemma eval_recorded {γ : Type} {op : Op Row Ev γ} {c : Choice} {busy : Busy Row} {st : Store Row}
    {s s' : Session Row Ev} {b : γ} (he : op.eval c busy st s = some (b, s')) :
    s'.pending = s.pending ++ op.recorded := by
  cases op with
  | utcnow => cases he; exact (List.append_nil _).symm
  | uuid4 => cases he; exact (List.append_nil _).symm
  | select skip rows ents locks =>
      rcases eval_select_skip he with ⟨-, rfl⟩ | ⟨-, rfl⟩ <;> simp [Op.recorded]
  | query q => cases he; exact (List.append_nil _).symm
  | attrs k => cases he; exact (List.append_nil _).symm
  | assign k r =>
      obtain ⟨ob, -, rfl⟩ := eval_assign he
      exact (List.append_nil _).symm
  | update k m f =>
      rcases eval_update he with ⟨-, rfl, -⟩ | ⟨r, -, -, -, rfl⟩ <;> simp [Op.recorded]
  | delete k referenced =>
      rcases eval_delete he with ⟨-, rfl, -⟩ | ⟨-, -, rfl⟩ <;> exact (List.append_nil _).symm
  | add k r =>
      obtain ⟨-, rfl⟩ := eval_add he
      exact (List.append_nil _).symm
  | insertNested k r =>
      rcases eval_insertNested he with ⟨-, rfl, -⟩ | ⟨-, -, -, rfl⟩ <;> simp [Op.recorded]
  | refresh k =>
      obtain ⟨r, -, rfl⟩ := eval_refresh he
      exact (List.append_nil _).symm
  | dirty => cases he; exact (List.append_nil _).symm
  | flushKey k =>
      rcases eval_flushKey he with ⟨rfl, -⟩ | ⟨ob, r, -, -, rfl⟩ <;> simp [Op.recorded]
  | record e => cases he; rfl

/-- A program that commits once and then answers: `Q` relates its answer to the events that it has
recorded until then. -/
def Prog.Ends (Q : α → List Ev → Prop) : Prog Row Ev Err α → List Ev → Prop
  | .pure _, _ => False
  | .op o k, events => ∀ b, (k b).Ends Q (events ++ o.recorded)
  | .raise _, _ => True
  | .commit k, events => ∃ a, k = .publish (.pure a) ∧ Q a events
  | .publish k, events => k.Ends Q events

omit [DecidableEq K] [∀ k, DecidableEq (Row k)] [Table Row] in
/-- A first part that records nothing. -/
lemma Prog.Ends.behind {Q : α → List Ev → Prop} {p : Prog Row Ev Err β}
    {f : β → Prog Row Ev Err α} {events : List Ev} (hp : p.AllOps fun op => op.recorded = [])
    (hun : p.Uncommitted) (hf : ∀ b, (f b).Ends Q events) : (p.bind f).Ends Q events := by
  induction p with
  | pure b => exact hf b
  | op o k ih =>
      intro b
      rw [hp.1, List.append_nil]
      exact ih b (hp.2 b) (hun b)
  | raise e => trivial
  | commit k ih => exact hun.elim
  | publish k ih => exact ih hp hun

/-- What is left of such a program, with the events recorded so far. -/
def Prog.Ending (Q : α → List Ev → Prop) (p : Prog Row Ev Err α) (events : List Ev) : Prop :=
  p.Ends Q events ∨ ∃ a, p = .publish (.pure a) ∨ p = .pure a

/-- **Programs that commit once and then answer**, in a run. -/
theorem Reachable.ending {P : Prog Row Ev Err α → Prop}
    {G : Sys Row Ev Err α → Action Row Ev Err α → Prop} {st₀ : Store Row} {s : Sys Row Ev Err α}
    {E : Prog Row Ev Err α → Prop} {Q : α → List Ev → Prop} (hE : ∀ p, E p → p.Ends Q [])
    (h : Reachable P G (Sys.rest st₀) s) :
    ∀ t th, s.threads.lookup t = some th → E th.origin → th.prog.Ending Q th.session.pending := by
  induction h with
  | init =>
      intro t th hl
      simp [Sys.rest] at hl
  | @step s s' a _ _ _ hstep ih =>
      cases Sys.stepTo_of_step hstep with
      | start _ => exact Sys.forall_threads_set ih fun hp => .inl (hE _ hp)
      | @op t c th γ op k b se hth hp he =>
          refine Sys.forall_threads_set ih fun horigin => ?_
          have hthis := ih t th hth horigin
          rw [hp] at hthis
          rcases hthis with hends | ⟨a, hpub | hpure⟩
          · rw [eval_recorded he]
            exact .inl (hends b)
          · cases hpub
          · cases hpure
      | @commit t c th k hth hp =>
          refine Sys.forall_threads_set ih fun horigin => ?_
          have hthis := ih t th hth horigin
          rw [hp] at hthis
          rcases hthis with ⟨a, rfl, -⟩ | ⟨a, hpub | hpure⟩
          · exact .inr ⟨a, .inl rfl⟩
          · cases hpub
          · cases hpure
      | @publish t c th k hth hp =>
          refine Sys.forall_threads_set ih fun horigin => ?_
          have hthis := ih t th hth horigin
          rw [hp] at hthis
          rcases hthis with hends | ⟨a, hpub | hpure⟩
          · exact .inl hends
          · cases hpub
            exact .inr ⟨a, .inr rfl⟩
          · cases hpure
      | abort _ => exact Sys.forall_threads_set ih fun _ => .inl trivial

/-- A run under a stronger condition on its actions. -/
lemma Reachable.mono {P : Prog Row Ev Err α → Prop}
    {G G' : Sys Row Ev Err α → Action Row Ev Err α → Prop} {s₁ s : Sys Row Ev Err α}
    (hG : ∀ s a, G s a → G' s a) (h : Reachable P G s₁ s) : Reachable P G' s₁ s := by
  induction h with
  | init => exact .init
  | step _ hP hact hstep ih => exact ih.step hP (hG _ _ hact) hstep

/-- A run of checked actions is a run. -/
lemma Sys.run_of_runIf {check : Sys Row Ev Err α → Action Row Ev Err α → Bool}
    {s' : Sys Row Ev Err α} :
    ∀ {as : List (Action Row Ev Err α)} {s : Sys Row Ev Err α}, Sys.runIf check as s = some s' →
      Sys.run as s = some s'
  | [], s, h => h
  | a :: as, s, h => by
      simp only [Sys.runIf] at h
      split at h
      · obtain ⟨s₁, hs₁, hrest⟩ := Option.bind_eq_some_iff.mp h
        exact Option.bind_eq_some_iff.mpr ⟨s₁, hs₁, run_of_runIf hrest⟩
      · cases h

/-! ### Places in programs -/

section Places

variable {o : Outline Row Ev} {ok : {γ : Type} → Op Row Ev γ → Prop} {f : β → Prog Row Ev Err α}
  {post : β → Store Row → Session Row Ev → Prop}

/-- After its first step the program makes only steps that are `ok`. -/
def Prog.Only (ok : {γ : Type} → Op Row Ev γ → Prop) : Prog Row Ev Err α → Prop
  | .op _ k => ∀ b, (k b).AllOps ok
  | p => p.AllOps ok

/-- What is left of a program that goes through `f`: a part that leads there as `post` says, or only
steps that are `ok`. -/
def Prog.Approaches (o : Outline Row Ev) (ok : {γ : Type} → Op Row Ev γ → Prop)
    (f : β → Prog Row Ev Err α) (post : β → Store Row → Session Row Ev → Prop) (st : Store Row)
    (p : Prog Row Ev Err α) (s : Session Row Ev) : Prop :=
  (∃ q : Prog Row Ev Err β, p = q.bind f ∧ q.AllOps ok ∧ q.Uncommitted ∧ wp o q post st s)
    ∨ p.AllOps ok

/-- A step on the way. -/
lemma Prog.Approaches.step {γ : Type} {op : Op Row Ev γ} {k : γ → Prog Row Ev Err α} {c : Choice}
    {busy : Busy Row} {st : Store Row} {s s' : Session Row Ev} {b : γ} (hf : ∀ b, (f b).Only ok)
    (h : Approaches o ok f post st (.op op k) s) (hfinds : o.Finds s st st)
    (hguard : o.guard st s op c) (he : op.eval c busy st s = some (b, s')) :
    Approaches o ok f post st (k b) s' := by
  rcases h with ⟨q, hq, hok, hun, hwp⟩ | hall
  · cases q with
    | pure a =>
        have hlast := hf a
        rw [show f a = .op op k from hq.symm] at hlast
        exact .inr (hlast b)
    | op op' k' =>
        cases hq
        exact .inl ⟨k' b, rfl, hok.2 b, hun b, hwp st hfinds c busy b s' he hguard⟩
    | raise e => cases hq
    | commit k' => cases hq
    | publish k' => cases hq
  · exact .inr (hall.2 b)

/-- A place that only a step reaches which is not `ok`. -/
lemma Prog.Approaches.reached {γ : Type} {op : Op Row Ev γ} {k : γ → Prog Row Ev Err α}
    {st : Store Row} {s : Session Row Ev} (h : Approaches o ok f post st (.op op k) s)
    (hop : ¬ ok op) : ∃ a, f a = .op op k ∧ post a st s := by
  rcases h with ⟨q, hq, hok, -, hwp⟩ | hall
  · cases q with
    | pure a => exact ⟨a, hq.symm, hwp st (o.rely_refl _ _)⟩
    | op op' k' =>
        cases hq
        exact absurd hok.1 hop
    | raise e => cases hq
    | commit k' => cases hq
    | publish k' => cases hq
  · exact absurd hall.1 hop

/-- Another transaction commits. -/
lemma Prog.Approaches.rely {st st' : Store Row} {p : Prog Row Ev Err α} {s : Session Row Ev}
    (h : Approaches o ok f post st p s) (hr : o.rely s st st') :
    Approaches o ok f post st' p s := by
  rcases h with ⟨q, hq, hok, hun, hwp⟩ | hall
  · exact .inl ⟨q, hq, hok, hun, wp_rely hwp hr⟩
  · exact .inr hall

/-- A commit is behind the place. -/
lemma Prog.Approaches.commit {st : Store Row} {k : Prog Row Ev Err α} {s : Session Row Ev}
    (hf : ∀ b, (f b).Only ok) (h : Approaches o ok f post st (.commit k) s) : k.AllOps ok := by
  rcases h with ⟨q, hq, hok, hun, hwp⟩ | hall
  · cases q with
    | pure a =>
        have hlast := hf a
        rw [show f a = .commit k from hq.symm] at hlast
        exact hlast
    | op op' k' => cases hq
    | raise e => cases hq
    | commit k' => exact hun.elim
    | publish k' => cases hq
  · exact hall

/-- So is a publication. -/
lemma Prog.Approaches.publish {st : Store Row} {k : Prog Row Ev Err α} {s : Session Row Ev}
    (hf : ∀ b, (f b).Only ok) (h : Approaches o ok f post st (.publish k) s) :
    Approaches o ok f post st k s := by
  rcases h with ⟨q, hq, hok, hun, hwp⟩ | hall
  · cases q with
    | pure a =>
        have hlast := hf a
        rw [show f a = .publish k from hq.symm] at hlast
        exact .inr hlast
    | op op' k' => cases hq
    | raise e => cases hq
    | commit k' => cases hq
    | publish k' =>
        cases hq
        exact .inl ⟨k', rfl, hok, hun, hwp⟩
  · exact .inr hall

end Places

/-! ### Parts of a run -/

section Windows

variable {o o' : Outline Row Ev} {post : α → Store Row → Session Row Ev → Prop}
  {P : Prog Row Ev Err α → Prop} {G : Sys Row Ev Err α → Action Row Ev Err α → Prop}
  {s₁ s : Sys Row Ev Err α}

/-- A condition on what is left of the threads that start in a part of a run: programs meet it when
they start, steps keep it, and so do the commits of the others. -/
theorem Reachable.window {I : Prog Row Ev Err α → Store Row → Prog Row Ev Err α →
    Session Row Ev → Prop}
    (hstart : ∀ s p, Reachable P G s₁ s → P p → I p s.committed p ∅)
    (hop : ∀ s t c th γ (op : Op Row Ev γ) k b se, Reachable P G s₁ s →
      s.threads.lookup t = some th →
      th.prog = .op op k → G s (.run t c) →
      op.eval c (s.busy t) s.committed th.session = some (b, se) →
      I th.origin s.committed th.prog th.session → I th.origin s.committed (k b) se)
    (hcommit : ∀ s t c th k, Reachable P G s₁ s → s.threads.lookup t = some th →
      th.prog = .commit k → G s (.run t c) → I th.origin s.committed th.prog th.session →
      I th.origin (merge s.committed th.session.held) k ∅)
    (hother : ∀ s t c th k t' th', Reachable P G s₁ s → s.threads.lookup t = some th →
      th.prog = .commit k → G s (.run t c) → t' ≠ t → s.threads.lookup t' = some th' →
      I th'.origin s.committed th'.prog th'.session →
      I th'.origin (merge s.committed th.session.held) th'.prog th'.session)
    (hpublish : ∀ p st k se, I p st (.publish k) se → I p st k se)
    (habort : ∀ p st e, I p st (.raise e) ∅) (h : Reachable P G s₁ s) :
    ∀ t th, s₁.threads.lookup t = none → s.threads.lookup t = some th →
      I th.origin s.committed th.prog th.session := by
  induction h with
  | init =>
      intro t th hnone hl
      cases hnone.symm.trans hl
  | @step s s' a hr hP hG hstep ih =>
      -- the threads that did not take the step
      have hset : ∀ {t : ℕ} {th : Thread Row Ev Err α},
          (s₁.threads.lookup t = none → I th.origin s.committed th.prog th.session) →
          ∀ t' th', s₁.threads.lookup t' = none → (s.threads.insert t th).lookup t' = some th' →
            I th'.origin s.committed th'.prog th'.session := by
        intro t th hth t' th' hnone hl
        rcases Sys.thread_cases hl with ⟨rfl, rfl⟩ | ⟨-, hl⟩
        · exact hth hnone
        · exact ih t' th' hnone hl
      cases Sys.stepTo_of_step hstep with
      | start _ => exact hset fun _ => hstart s _ hr hP
      | @op t c th γ op k b se hth hp he =>
          exact hset fun hnone => hop s t c th γ op k b se hr hth hp hG he (ih t th hnone hth)
      | @commit t c th k hth hp =>
          intro t' th' hnone hl
          rcases Sys.thread_cases hl with ⟨rfl, rfl⟩ | ⟨htt, hl⟩
          · exact hcommit s t' c th k hr hth hp hG (ih t' th hnone hth)
          · exact hother s t c th k t' th' hr hth hp hG htt hl (ih t' th' hnone hl)
      | @publish t c th k hth hp =>
          refine hset fun hnone => hpublish _ _ k _ ?_
          have hthis := ih t th hnone hth
          rw [hp] at hthis
          exact hthis
      | @abort t th e hth => exact hset fun _ => habort _ _ _

end Windows

end ReadCommitted
