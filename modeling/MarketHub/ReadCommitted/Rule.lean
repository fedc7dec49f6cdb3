import MarketHub.ReadCommitted.Program

/-!
Preconditions of programs under interference.

An `Outline` says what a development relies on: an invariant `inv` of the
committed rows and of the events of the committed transactions, a relation `rely`
that every commit of another transaction satisfies as seen from an open session,
the runs under consideration (`guard`), and what a session must have reached when
it commits (`commit`).

`wp o p post st s` is the weakest condition under which the program `p`, continued
in the session `s` while the committed store is `st`, keeps to the outline: before
each step the committed store may have moved to any store that `rely` allows and
that still agrees with the rows the session holds. With `rely` the equality the
same condition speaks of a program that runs alone.
-/

namespace ReadCommitted

variable {K : Type} [DecidableEq K] {Row : K → Type} {Ev Err : Type}

/-- The assumptions and obligations of a program under interference. -/
structure Outline (Row : K → Type) (Ev : Type) where
  inv : Store Row → List Ev → Prop := fun _ _ => True
  rely : Session Row Ev → Store Row → Store Row → Prop := fun _ _ _ => True
  guard : {β : Type} → Store Row → Session Row Ev → Op Row Ev β → Choice → Prop :=
    fun _ _ _ _ => True
  commit : Store Row → Session Row Ev → Prop := fun _ _ => True
  rely_refl : ∀ s st, rely s st st := by intros; trivial
  rely_trans : ∀ {s st st' st''}, rely s st st' → rely s st' st'' → rely s st st'' := by
    intros; trivial

/-- What a session may find committed when it takes its next step. -/
structure Outline.Finds (o : Outline Row Ev) (s : Session Row Ev) (st st' : Store Row) : Prop where
  rely : o.rely s st st'
  inv : ∃ log, o.inv st' log
  agrees : Agrees s.held st'

variable [∀ k, DecidableEq (Row k)] [Table Row] {α β : Type}

/-- The weakest precondition of a program under an outline. -/
def wp (o : Outline Row Ev) :
    Prog Row Ev Err α → (α → Store Row → Session Row Ev → Prop) → Store Row → Session Row Ev → Prop
  | .pure a, post, st, s => ∀ st', o.rely s st st' → post a st' s
  | .op op k, post, st, s =>
      ∀ st', o.Finds s st st' → ∀ c busy b s', op.eval c busy st' s = some (b, s') →
        o.guard st' s op c → wp o (k b) post st' s'
  | .raise _, _, _, _ => True
  | .commit k, post, st, s =>
      ∀ st', o.Finds s st st' → o.commit st' s ∧ wp o k post (merge st' s.held) ∅
  | .publish k, post, st, s => wp o k post st s

variable {o : Outline Row Ev} {st st' : Store Row} {s : Session Row Ev}

/-- A condition that holds of a program keeps holding of it when another
transaction commits. -/
lemma wp_rely {p : Prog Row Ev Err α} {post : α → Store Row → Session Row Ev → Prop}
    (h : wp o p post st s) (hr : o.rely s st st') : wp o p post st' s := by
  induction p generalizing s with
  | pure a => exact fun st'' hr' => h st'' (o.rely_trans hr hr')
  | op op k ih =>
      exact fun st'' hf => h st'' ⟨o.rely_trans hr hf.rely, hf.inv, hf.agrees⟩
  | raise e => trivial
  | commit k ih =>
      exact fun st'' hf => h st'' ⟨o.rely_trans hr hf.rely, hf.inv, hf.agrees⟩
  | publish k ih => exact ih h hr

/-- A weaker postcondition. -/
lemma wp_mono {p : Prog Row Ev Err α} {post post' : α → Store Row → Session Row Ev → Prop}
    (h : wp o p post st s) (himp : ∀ a st s, post a st s → post' a st s) : wp o p post' st s := by
  induction p generalizing st s with
  | pure a => exact fun st' hr => himp a st' s (h st' hr)
  | op op k ih =>
      exact fun st' hf c busy b s' he hg => ih b (h st' hf c busy b s' he hg)
  | raise e => trivial
  | commit k ih => exact fun st' hf => ⟨(h st' hf).1, ih (h st' hf).2⟩
  | publish k ih => exact ih h

/-- A weaker condition at the commits. -/
lemma wp_commit_mono {C : Store Row → Session Row Ev → Prop} {p : Prog Row Ev Err α}
    {post : α → Store Row → Session Row Ev → Prop} (hC : ∀ st s, C st s → o.commit st s)
    (h : wp { o with commit := C } p post st s) : wp o p post st s := by
  induction p generalizing st s with
  | pure a => exact h
  | op op k ih =>
      exact fun st' hf c busy b s' he hg =>
        ih b (h st' ⟨hf.rely, hf.inv, hf.agrees⟩ c busy b s' he hg)
  | raise e => trivial
  | commit k ih =>
      intro st' hf
      obtain ⟨hcommit, hnext⟩ := h st' ⟨hf.rely, hf.inv, hf.agrees⟩
      exact ⟨hC st' s hcommit, ih hnext⟩
  | publish k ih => exact ih h

/-- Two conditions at the commits together. -/
lemma wp_and {C C' : Store Row → Session Row Ev → Prop} {p : Prog Row Ev Err α}
    {post : α → Store Row → Session Row Ev → Prop} (h : wp { o with commit := C } p post st s)
    (h' : wp { o with commit := C' } p post st s) :
    wp { o with commit := fun st s => C st s ∧ C' st s } p post st s := by
  induction p generalizing st s with
  | pure a => exact h
  | op op k ih =>
      intro st' hf c busy b s' he hg
      exact ih b (h st' ⟨hf.rely, hf.inv, hf.agrees⟩ c busy b s' he hg)
        (h' st' ⟨hf.rely, hf.inv, hf.agrees⟩ c busy b s' he hg)
  | raise e => trivial
  | commit k ih =>
      intro st' hf
      obtain ⟨hcommit, hnext⟩ := h st' ⟨hf.rely, hf.inv, hf.agrees⟩
      obtain ⟨hcommit', hnext'⟩ := h' st' ⟨hf.rely, hf.inv, hf.agrees⟩
      exact ⟨⟨hcommit, hcommit'⟩, ih hnext hnext'⟩
  | publish k ih => exact ih h h'

/-- Sequential composition. -/
lemma wp_bind {p : Prog Row Ev Err α} {f : α → Prog Row Ev Err β}
    {post : β → Store Row → Session Row Ev → Prop}
    (h : wp o p (fun a st s => wp o (f a) post st s) st s) : wp o (p.bind f) post st s := by
  induction p generalizing st s with
  | pure a => exact h st (o.rely_refl s st)
  | op op k ih =>
      exact fun st' hf c busy b s' he hg => ih b (h st' hf c busy b s' he hg)
  | raise e => trivial
  | commit k ih => exact fun st' hf => ⟨(h st' hf).1, ih (h st' hf).2⟩
  | publish k ih => exact ih h

/-- A sequential composition, taken apart. -/
lemma wp_of_bind {p : Prog Row Ev Err α} {f : α → Prog Row Ev Err β}
    {post : β → Store Row → Session Row Ev → Prop} (h : wp o (p.bind f) post st s) :
    wp o p (fun a st s => wp o (f a) post st s) st s := by
  induction p generalizing st s with
  | pure a => exact fun st' hr => wp_rely h hr
  | op op k ih =>
      exact fun st' hf c busy b s' he hg => ih b (h st' hf c busy b s' he hg)
  | raise e => trivial
  | commit k ih => exact fun st' hf => ⟨(h st' hf).1, ih (h st' hf).2⟩
  | publish k ih => exact ih h

/-- An outline that asks for nothing is met by every program. -/
lemma wp_of_forall {p : Prog Row Ev Err α} {post : α → Store Row → Session Row Ev → Prop}
    (hcommit : ∀ st s, o.commit st s) (hpost : ∀ a st s, post a st s) : wp o p post st s := by
  induction p generalizing st s with
  | pure a => exact fun st' _ => hpost a st' s
  | op op k ih => exact fun st' _ _ _ b _ _ _ => ih b
  | raise e => trivial
  | commit k ih => exact fun st' _ => ⟨hcommit st' s, ih⟩
  | publish k ih => exact ih

/-- A program that only answers. -/
lemma wp_pure {a : α} {post : α → Store Row → Session Row Ev → Prop}
    (h : ∀ st', o.rely s st st' → post a st' s) :
    wp o (.pure a : Prog Row Ev Err α) post st s := h

end ReadCommitted
