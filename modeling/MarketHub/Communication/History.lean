import MarketHub.Communication.Answers

/-!
Paging backwards through the messages of a conversation.

* `Answers`: what an answer of `list_messages` says about a window of the messages.
* `Visits`: the databases and the clock a series of requests finds, `Visits.ask` what
  a request is answered, and `Visits.Quiet` that nothing is added in the meantime.
* `answers_ask`: in a quiet series every request is answered with its window.
* `windows_partition`: a client that goes on with the `from` of the last answer until
  `has_older` is false gets every message once, in finitely many requests.
-/

namespace MarketHub

open ReadCommitted Session

/-! ### Windows -/

/-- The messages of a conversation. -/
def messagesOf (conversationId : UUID) (v : Db) : List (UUID × Message) :=
  (Db.messages v).filter fun m => m.2.conversationId == conversationId

/-- No message is listed twice. -/
lemma messagesOf_nodup (conversationId : UUID) (v : Db) : (messagesOf conversationId v).Nodup := by
  refine List.Nodup.filter _ (List.Nodup.filterMap ?_ v.nodupKeys.nodup)
  intro e e' m hm hm'
  obtain ⟨k, r⟩ := e
  obtain ⟨k', r'⟩ := e'
  cases k <;> cases k' <;> simp at hm hm'
  subst hm
  cases hm'
  rfl

/-- The first window is closed at both ends. -/
lemma contains_first {now t : DateTime} : (messageWindow none now).contains t = true ↔
    now - messageWindowLength ≤ t ∧ t ≤ now := by
  rw [MessageWindow.contains, Bool.and_eq_true]
  exact and_congr decide_eq_true_iff decide_eq_true_iff

/-- Every other window leaves its end to the window before. -/
lemma contains_before {before now t : DateTime} :
    (messageWindow (some before) now).contains t = true ↔
      before - messageWindowLength ≤ t ∧ t < before := by
  rw [MessageWindow.contains, Bool.and_eq_true]
  exact and_congr decide_eq_true_iff decide_eq_true_iff

/-- A window contains nothing from before it. -/
lemma lower_le_of_contains {window : MessageWindow} {t : DateTime}
    (h : window.contains t = true) : window.lower ≤ t := by
  rw [MessageWindow.contains, Bool.and_eq_true] at h
  exact of_decide_eq_true h.1

/-- An answer gives the messages `msgs` of a window in the order of their creation, and
says whether there are older ones. -/
structure Answers (msgs : List (UUID × Message)) (window : MessageWindow)
    (answer : MessageListResponse) : Prop where
  items : answer.items.Perm (msgs.filter fun m => window.contains m.2.createdAt)
  sorted : answer.items.Pairwise fun m m' => m.2.createdAt ≤ m'.2.createdAt
  lower : answer.lower = window.lower
  hasOlder : answer.hasOlder = true ↔ ∃ m ∈ msgs, m.2.createdAt < window.lower

lemma Answers.mem_items {msgs : List (UUID × Message)} {window : MessageWindow}
    {answer : MessageListResponse} (h : Answers msgs window answer) {m : UUID × Message} :
    m ∈ answer.items ↔ m ∈ msgs ∧ window.contains m.2.createdAt = true := by
  rw [h.items.mem_iff, List.mem_filter]

/-- The same messages in another order. -/
lemma Answers.perm {msgs msgs' : List (UUID × Message)} {window : MessageWindow}
    {answer : MessageListResponse} (h : Answers msgs window answer) (hperm : msgs.Perm msgs') :
    Answers msgs' window answer where
  items := h.items.trans (hperm.filter _)
  sorted := h.sorted
  lower := h.lower
  hasOlder := h.hasOlder.trans ⟨fun ⟨m, hm, hlt⟩ => ⟨m, hperm.mem_iff.mp hm, hlt⟩,
    fun ⟨m, hm, hlt⟩ => ⟨m, hperm.mem_iff.mpr hm, hlt⟩⟩

/-- What `list_messages` answers on a store. -/
def windowAnswer (conversationId : UUID) (window : MessageWindow) (v : Db) :
    MessageListResponse where
  items := selectMessages conversationId window v
  lower := window.lower
  upper := window.upper
  hasOlder := existsOlder conversationId window v

lemma answers_windowAnswer (conversationId : UUID) (window : MessageWindow) (v : Db) :
    Answers (messagesOf conversationId v) window (windowAnswer conversationId window v) where
  items := by
    refine (List.perm_insertionSort _ _).trans ?_
    rw [messagesOf, List.filter_filter]
    exact List.Perm.of_eq (List.filter_congr fun m _ => Bool.and_comm _ _)
  sorted := List.pairwise_insertionSort
    (fun a b : UUID × Message => a.2.createdAt ≤ b.2.createdAt) _
  lower := rfl
  hasOlder := by
    simp [windowAnswer, existsOlder, messagesOf, and_assoc, and_left_comm]

/-! ### A request alone -/

/-- The readings of the clock that the parameter takes. -/
def beforeReadings (before : Option DateTime) : ℕ := if before.isSome then 1 else 0

/-- The reading of the clock that a request takes its window from: the one after the
check of the parameter and the inactivity rule. -/
def windowReading (conversation : Conversation) (before : Option DateTime) : ℕ :=
  beforeReadings before + 2 + inactiveReadings conversation

section Request

variable {cs : ℕ → Choice} {st : Db} {conversationId : UUID} {conversation : Conversation}
  {user : CurrentUser} {settings : Settings}

/-- An instant as a query parameter. -/
def asQuery (t : DateTime) : QueryDateTime := ⟨t, true⟩

lemma exec_validateBefore {α : Type} {before : Option DateTime}
    (h : ∀ t, before = some t → t ≤ (cs 0).now) (f : Option DateTime → Txn α) :
    exec cs ((validateBefore (before.map asQuery)).bind f) 0 st [] ∅
      = exec cs (f before) (beforeReadings before) st [] ∅ := by
  cases before with
  | none => rfl
  | some t =>
      have ht : ¬ t > (cs 0).now := not_lt.mpr (h t rfl)
      change exec cs (Prog.bind (if t > (cs 0).now then _ else _) f) 1 st [] ∅ = _
      rw [if_neg ht]
      rfl

/-- A participant's request for the messages of a conversation that is not to be closed
is answered with its window. -/
lemma exec_listMessages (htakes : TakesPart conversationId user conversation st)
    (hactive : ∀ n, isInactiveAt settings conversation (cs n).now = false)
    {before : Option DateTime} (hbefore : ∀ t, before = some t → t ≤ (cs 0).now) :
    (exec cs (Prog.transaction (listMessages settings conversationId user (before.map asQuery)))
        0 st [] ∅).result
      = .ok (windowAnswer conversationId
          (messageWindow before (cs (windowReading conversation before)).now) st) := by
  have hmessages : Db.messages ((opening st (.conversation conversationId)).view st)
      = Db.messages st := by
    refine messages_view fun k hk => opening_held ?_
    rintro rfl
    cases hk
  have hselect : ∀ window, selectMessages conversationId window
      ((opening st (.conversation conversationId)).view st)
        = selectMessages conversationId window st := by
    intro window
    rw [selectMessages, hmessages, selectMessages]
  simp only [Prog.transaction, listMessages, Prog.bind_eq, Prog.pure_eq, Prog.bind_assoc]
  rw [exec_validateBefore hbefore, exec_loadParticipantConversation htakes,
    exec_maybeCloseInactive_active (hactive _), exec_utcnow, exec_select, hselect, exec_query]
  change (exec cs (Prog.flush.bind _) _ _ _ _).result = _
  rw [exec_flush_clean ((opening_opened htakes.1).clean.loads _ _)]
  have hview : ∀ l : List (UUID × Message),
      Db.messages (((l.flatMap fun m => [Key.message m.1]).foldl
        (Session.load ((opening st (.conversation conversationId)).view st))
        (opening st (.conversation conversationId))).view st) = Db.messages st := by
    intro l
    rw [Session.view, foldl_load_held]
    exact hmessages
  simp only [exec_commit, exec_publish, exec_pure, windowAnswer, windowReading, existsOlder, hview]
  rfl

end Request

/-! ### A series of requests -/

/-- The databases and the readings of the clock that a series of requests finds. -/
structure Visits where
  st : ℕ → Db
  cs : ℕ → ℕ → Choice

namespace Visits

variable (visits : Visits) (settings : Settings) (conversationId : UUID) (user : CurrentUser)

/-- What request `i` is answered when it asks for the messages before an instant. -/
def ask (i : ℕ) (before : Option DateTime) : Except (Failure DomainError) MessageListResponse :=
  (exec (visits.cs i)
    (Prog.transaction (listMessages settings conversationId user (before.map asQuery)))
    0 (visits.st i) [] ∅).result

/-- The answers to a client that pages backwards from request `i` on, the first time
with the given `before` and then with the `from` of the last answer, until `has_older`
is false; `none` if that takes more requests than the fuel allows. -/
def pages : ℕ → ℕ → Option DateTime → Option (List MessageListResponse)
  | 0, _, _ => none
  | fuel + 1, i, before =>
      match visits.ask settings conversationId user i before with
      | .error _ => none
      | .ok answer =>
          if answer.hasOlder then (pages fuel (i + 1) (some answer.lower)).map (answer :: ·)
          else some [answer]

/-- A participant asks for the messages of a conversation to which nothing is added: it
keeps the same messages, none created after the first request, no request finds it to
be closed for inactivity, and the clock does not go back from one request to the next. -/
structure Quiet : Prop where
  takesPart : ∀ i, ∃ conversation, TakesPart conversationId user conversation (visits.st i)
    ∧ ∀ n, isInactiveAt settings conversation (visits.cs i n).now = false
  same : ∀ i, (messagesOf conversationId (visits.st i)).Perm
    (messagesOf conversationId (visits.st 0))
  forward : ∀ i n m, (visits.cs i n).now ≤ (visits.cs (i + 1) m).now
  past : ∀ m ∈ messagesOf conversationId (visits.st 0), ∀ n,
    m.2.createdAt ≤ (visits.cs 0 n).now

variable {visits settings conversationId user}

/-- In a quiet series every request is answered with its window. -/
lemma Quiet.answers_ask (h : visits.Quiet settings conversationId user) (i : ℕ)
    (before : Option DateTime) (hbefore : ∀ t, before = some t → ∀ n, t ≤ (visits.cs i n).now) :
    ∃ conversation answer, Db.conversation (visits.st i) conversationId = some conversation
      ∧ visits.ask settings conversationId user i before = .ok answer
      ∧ Answers (messagesOf conversationId (visits.st 0))
          (messageWindow before (visits.cs i (windowReading conversation before)).now) answer := by
  obtain ⟨conversation, htakes, hactive⟩ := h.takesPart i
  refine ⟨conversation, _, htakes.1,
    exec_listMessages htakes hactive fun t ht => hbefore t ht 0, ?_⟩
  exact (answers_windowAnswer _ _ _).perm (h.same i)

/-- The clock of a later request is past every earlier reading. -/
lemma Quiet.past_of_le (h : visits.Quiet settings conversationId user) {t : DateTime}
    (ht : ∀ n, t ≤ (visits.cs 0 n).now) (i n : ℕ) : t ≤ (visits.cs i n).now := by
  induction i generalizing n with
  | zero => exact ht n
  | succ i ih => exact (ih 0).trans (h.forward i 0 n)

end Visits

/-! ### The windows partition the messages -/

/-- The answers split the messages `part` among them, later answers having the older
ones, and each says whether any of the messages `msgs` are older than its window. -/
structure Splits (msgs part : List (UUID × Message)) (answers : List MessageListResponse) :
    Prop where
  perm : (answers.flatMap MessageListResponse.items).Perm part
  sorted : ∀ answer ∈ answers, answer.items.Pairwise fun m m' => m.2.createdAt ≤ m'.2.createdAt
  apart : answers.Pairwise fun answer answer' =>
    ∀ m ∈ answer.items, ∀ m' ∈ answer'.items, m'.2.createdAt < m.2.createdAt
  hasOlder : ∀ answer ∈ answers,
    (answer.hasOlder = true ↔ ∃ m ∈ msgs, m.2.createdAt < answer.lower)

section Splits

variable {msgs part : List (UUID × Message)} {window : MessageWindow}
  {answer : MessageListResponse} {answers : List MessageListResponse}

/-- The messages before an instant. -/
def olderThan (t : DateTime) (msgs : List (UUID × Message)) : List (UUID × Message) :=
  msgs.filter fun m => m.2.createdAt < t

/-- The messages up to the end of a window are those in it and those before it. -/
lemma perm_window (h : ∀ m ∈ msgs, (m ∈ part ↔ window.contains m.2.createdAt = true
      ∨ m.2.createdAt < window.lower)) (hpart : part.Sublist msgs) (hnd : msgs.Nodup) :
    (msgs.filter (fun m => window.contains m.2.createdAt)
      ++ olderThan window.lower msgs).Perm part := by
  refine (List.perm_ext_iff_of_nodup ?_ (hnd.sublist hpart)).mpr fun m => ?_
  · refine List.Nodup.append (hnd.filter _) (hnd.filter _) fun m hm hm' => ?_
    have hin := lower_le_of_contains (List.mem_filter.mp hm).2
    have hlt := of_decide_eq_true (List.mem_filter.mp hm').2
    exact absurd hlt (not_lt.mpr hin)
  · rw [List.mem_append, olderThan, List.mem_filter, List.mem_filter, decide_eq_true_eq]
    constructor
    · rintro (⟨hm, hin⟩ | ⟨hm, hlt⟩)
      · exact (h m hm).mpr (Or.inl hin)
      · exact (h m hm).mpr (Or.inr hlt)
    · intro hm
      have hmem := hpart.subset hm
      exact ((h m hmem).mp hm).imp (⟨hmem, ·⟩) (⟨hmem, ·⟩)

/-- An answer followed by the answers for the messages before its window. -/
lemma Splits.cons (ha : Answers msgs window answer)
    (hrest : Splits msgs (olderThan window.lower msgs) answers)
    (hperm : (msgs.filter (fun m => window.contains m.2.createdAt)
      ++ olderThan window.lower msgs).Perm part) :
    Splits msgs part (answer :: answers) where
  perm := by
    rw [List.flatMap_cons]
    exact (ha.items.append hrest.perm).trans hperm
  sorted := by
    rintro a (_ | ⟨_, hmem⟩)
    · exact ha.sorted
    · exact hrest.sorted a hmem
  apart := by
    refine List.Pairwise.cons (fun a hmem m hm m' hm' => ?_) hrest.apart
    have hin := lower_le_of_contains (ha.mem_items.mp hm).2
    have hlt : m' ∈ olderThan window.lower msgs :=
      hrest.perm.mem_iff.mp (List.mem_flatMap.mpr ⟨a, hmem, hm'⟩)
    exact (of_decide_eq_true (List.mem_filter.mp hlt).2).trans_le hin
  hasOlder := by
    rintro a (_ | ⟨_, hmem⟩)
    · rw [ha.lower]
      exact ha.hasOlder
    · exact hrest.hasOlder a hmem

/-- No answers are needed when there are no messages. -/
lemma splits_nil (h : olderThan window.lower msgs = []) :
    Splits msgs (olderThan window.lower msgs) [] where
  perm := by rw [h]; exact List.Perm.refl _
  sorted := by simp
  apart := List.Pairwise.nil
  hasOlder := by simp

lemma Answers.olderThan_eq_nil (ha : Answers msgs window answer) (h : ¬ answer.hasOlder = true) :
    olderThan window.lower msgs = [] := by
  refine List.filter_eq_nil_iff.mpr fun m hm hlt => h (ha.hasOlder.mpr ⟨m, hm, ?_⟩)
  exact of_decide_eq_true hlt

end Splits

namespace Visits

variable {visits : Visits} {settings : Settings} {conversationId : UUID} {user : CurrentUser}

/-- One request, and the answers to the requests that follow it. -/
lemma Quiet.pages_step (h : visits.Quiet settings conversationId user) (i : ℕ)
    (before : Option DateTime) (hbefore : ∀ t, before = some t → ∀ n, t ≤ (visits.cs i n).now)
    (part : List (UUID × Message)) (hpart : part.Sublist (messagesOf conversationId (visits.st 0)))
    (hin : ∀ n, ∀ m ∈ messagesOf conversationId (visits.st 0), (m ∈ part ↔
      (messageWindow before (visits.cs i n).now).contains m.2.createdAt = true
        ∨ m.2.createdAt < (messageWindow before (visits.cs i n).now).lower))
    (hnext : ∀ n, olderThan (messageWindow before (visits.cs i n).now).lower
        (messagesOf conversationId (visits.st 0)) ≠ [] →
      ∃ fuel answers, visits.pages settings conversationId user fuel (i + 1)
          (some (messageWindow before (visits.cs i n).now).lower) = some answers
        ∧ Splits (messagesOf conversationId (visits.st 0))
            (olderThan (messageWindow before (visits.cs i n).now).lower
              (messagesOf conversationId (visits.st 0))) answers) :
    ∃ fuel answers, visits.pages settings conversationId user fuel i before = some answers
      ∧ Splits (messagesOf conversationId (visits.st 0)) part answers := by
  obtain ⟨conversation, answer, -, hask, ha⟩ := h.answers_ask i before hbefore
  have hperm := perm_window (hin (windowReading conversation before)) hpart (messagesOf_nodup _ _)
  by_cases holder : answer.hasOlder = true
  · have hne : olderThan (messageWindow before
        (visits.cs i (windowReading conversation before)).now).lower
        (messagesOf conversationId (visits.st 0)) ≠ [] := by
      obtain ⟨m, hm, hlt⟩ := ha.hasOlder.mp holder
      exact List.ne_nil_of_mem (List.mem_filter.mpr ⟨hm, decide_eq_true hlt⟩)
    obtain ⟨fuel, answers, hpages, hsplit⟩ := hnext _ hne
    refine ⟨fuel + 1, answer :: answers, ?_, Splits.cons ha hsplit hperm⟩
    simp only [pages, hask, holder, if_true, ha.lower, hpages, Option.map_some]
  · refine ⟨1, [answer], ?_, Splits.cons ha (splits_nil (ha.olderThan_eq_nil holder)) hperm⟩
    simp only [pages, hask, if_neg holder]

/-- The requests that go on from an instant end, and split the messages before it; the
induction is on the number of windows that reach back to the oldest message. -/
lemma Quiet.pages_before (h : visits.Quiet settings conversationId user) (k : ℕ) :
    ∀ (i : ℕ) (t : DateTime), (∀ n, t ≤ (visits.cs i n).now) →
      (∀ m ∈ messagesOf conversationId (visits.st 0),
        t ≤ m.2.createdAt + k * messageWindowLength) →
      ∃ fuel answers, visits.pages settings conversationId user fuel i (some t) = some answers
        ∧ Splits (messagesOf conversationId (visits.st 0))
            (olderThan t (messagesOf conversationId (visits.st 0))) answers := by
  have hpos : 0 < messageWindowLength := by decide
  induction k with
  | zero =>
      intro i t ht hreach
      refine h.pages_step _ _ (fun t' ht' => ?_) _ List.filter_sublist
        (fun n m hm => ?_) fun n hne => ?_
      · cases ht'
        exact ht
      · rw [contains_before, olderThan, List.mem_filter, decide_eq_true_eq]
        simp only [hm, true_and, messageWindow]
        grind
      · obtain ⟨m, hm⟩ := List.exists_mem_of_ne_nil _ hne
        have hm' := List.mem_filter.mp hm
        have hreach' := hreach m hm'.1
        simp only [messageWindow] at hm'
        push_cast at hreach'
        lia
  | succ k ih =>
      intro i t ht hreach
      refine h.pages_step _ _ (fun t' ht' => ?_) _ List.filter_sublist
        (fun n m hm => ?_) fun n _ => ?_
      · cases ht'
        exact ht
      · rw [contains_before, olderThan, List.mem_filter, decide_eq_true_eq]
        simp only [hm, true_and, messageWindow]
        grind
      · refine ih (i + 1) (t - messageWindowLength) (fun n' => ?_) fun m hm => ?_
        · have hforward := h.forward i 0 n'
          have hnow := ht 0
          lia
        · have hreach' := hreach m hm
          push_cast at hreach'
          linarith

/-- Some number of windows reaches back from an instant to all messages. -/
lemma exists_reach {length : ℤ} (hpos : 1 ≤ length) (t : DateTime)
    (msgs : List (UUID × Message)) :
    ∃ k : ℕ, ∀ m ∈ msgs, t ≤ m.2.createdAt + k * length := by
  induction msgs with
  | nil => exact ⟨0, by simp⟩
  | cons m msgs ih =>
      obtain ⟨k, hk⟩ := ih
      have hmono : ∀ {j l : ℕ}, j ≤ l → (j : ℤ) * length ≤ l * length := fun hjl =>
        mul_le_mul_of_nonneg_right (Int.ofNat_le.mpr hjl) (by omega)
      refine ⟨max k (t - m.2.createdAt).toNat, ?_⟩
      rintro m' (_ | ⟨_, hm'⟩)
      · have hself : ((t - m.2.createdAt).toNat : ℤ) ≤ (t - m.2.createdAt).toNat * length :=
          le_mul_of_one_le_right (Int.natCast_nonneg _) hpos
        have hcast : t - m.2.createdAt ≤ ((t - m.2.createdAt).toNat : ℤ) := Int.self_le_toNat _
        have hle := hmono (le_max_right k (t - m.2.createdAt).toNat)
        linarith
      · have hle := hmono (le_max_left k (t - m.2.createdAt).toNat)
        have hold := hk m' hm'
        linarith

end Visits

/-- **The windows partition the history.** A participant who asks for the messages of a
conversation to which nothing is added, and goes on with the `from` of the last answer
until `has_older` is false, is done after finitely many requests. The answers give
every message once, each in ascending order and all older than those of the answers
before, and say correctly whether there are older ones. -/
theorem windows_partition {visits : Visits} {settings : Settings} {conversationId : UUID}
    {user : CurrentUser} (h : visits.Quiet settings conversationId user) :
    ∃ fuel answers, visits.pages settings conversationId user fuel 0 none = some answers
      ∧ (answers.flatMap MessageListResponse.items).Nodup
      ∧ (answers.flatMap MessageListResponse.items).Perm
          (messagesOf conversationId (visits.st 0))
      ∧ (∀ answer ∈ answers, answer.items.Pairwise fun m m' => m.2.createdAt ≤ m'.2.createdAt)
      ∧ (answers.Pairwise fun answer answer' =>
          ∀ m ∈ answer.items, ∀ m' ∈ answer'.items, m'.2.createdAt < m.2.createdAt)
      ∧ ∀ answer ∈ answers, (answer.hasOlder = true ↔
          ∃ m ∈ messagesOf conversationId (visits.st 0), m.2.createdAt < answer.lower) := by
  have hpos : 0 < messageWindowLength := by decide
  obtain ⟨fuel, answers, hpages, hsplit⟩ := h.pages_step 0 none (by simp)
    (messagesOf conversationId (visits.st 0)) (List.Sublist.refl _)
    (fun n m hm => by
      have hpast := h.past m hm n
      rw [contains_first]
      simp only [hm, true_iff, messageWindow]
      grind)
    (fun n _ => by
      obtain ⟨k, hk⟩ := Visits.exists_reach hpos ((visits.cs 0 n).now - messageWindowLength)
        (messagesOf conversationId (visits.st 0))
      refine h.pages_before k 1 _ (fun n' => ?_) hk
      have hforward := h.forward 0 n n'
      simp only [messageWindow]
      lia)
  exact ⟨fuel, answers, hpages, hsplit.perm.nodup_iff.mpr (messagesOf_nodup _ _), hsplit.perm,
    hsplit.sorted, hsplit.apart, hsplit.hasOlder⟩

/-! ### A thread -/

/-- A buyer's conversation about an item, with two messages forty hours apart. -/
def mugThread : Db :=
  [(⟨.offer 3, (⟨2, 1, 1000, 5, true⟩ : Offer)⟩ : Sigma Row),
    ⟨.order 4, (⟨1001, 7, 0, 0⟩ : Order)⟩,
    ⟨.orderItem 5, (⟨4, 3, 1, 2, 1000, .placed, 0, 0, 0⟩ : OrderItem)⟩,
    ⟨.conversation 6, (⟨5, .atraso, .opened, 0, hours 40, hours 40, .medium, none, some 0⟩ :
      Conversation)⟩,
    ⟨.message 8, (⟨6, .buyer, some 7, "Olá", 0⟩ : Message)⟩,
    ⟨.message 9, (⟨6, .buyer, some 7, "Alguma novidade?", hours 40⟩ : Message)⟩].foldl
      (fun v e => AList.insert e.1 e.2 v) ∅

/-- The conversation of the thread. -/
def mugConversation : Conversation :=
  ⟨5, .atraso, .opened, 0, hours 40, hours 40, .medium, none, some 0⟩

lemma mugThread_takesPart : TakesPart 6 ⟨7, .buyer, none⟩ mugConversation mugThread :=
  ⟨rfl, _, _, _, rfl, rfl, rfl, rfl⟩

lemma mugThread_fresh (n : ℕ) : Db.message mugThread (100 + n) = none := by
  have hne : ∀ id : ℕ, id < 100 → Key.message (100 + n) ≠ .message id := by
    rintro id hlt ⟨⟩
    omega
  have h8 := hne 8 (by decide)
  have h9 := hne 9 (by decide)
  simp [Db.message, mugThread, AList.lookup_insert_ne, -AList.insert_empty, h8, h9]

/-- Requests that find the thread unchanged, all at hour 48. -/
def mugVisits : Visits := ⟨fun _ => mugThread, fun _ _ => ⟨hours 48, 0, false⟩⟩

lemma mugVisits_quiet : mugVisits.Quiet {} 6 ⟨7, .buyer, none⟩ where
  takesPart _ := by
    refine ⟨mugConversation, mugThread_takesPart, fun _ => ?_⟩
    exact (by decide : isInactiveAt {} mugConversation (hours 48) = false)
  same _ := List.Perm.refl _
  forward _ _ _ := le_refl _
  past := by
    intro m hm _
    have hall : ∀ m ∈ messagesOf 6 mugThread, m.2.createdAt ≤ hours 48 := by decide
    exact hall m hm

theorem windows_partition_mugs : ∃ fuel answers,
    mugVisits.pages {} 6 ⟨7, .buyer, none⟩ fuel 0 none = some answers
      ∧ (answers.flatMap MessageListResponse.items).Perm (messagesOf 6 mugThread) := by
  obtain ⟨fuel, answers, hpages, -, hperm, -⟩ := windows_partition mugVisits_quiet
  exact ⟨fuel, answers, hpages, hperm⟩

end MarketHub
