import MarketHub.Communication.History

/-!
Loading older messages in the chat panel (`ConversationPanel.tsx`).

The panel goes on from the oldest message it shows, and not from the window it was
last answered. A window without messages therefore leaves it where it was.

* `ConversationPanel.loadMessages`: what a settled request makes of the panel.
* `Loadable`: the history that the panel can walk through, with a message in the
  window of the first load and no gap between messages longer than a window.
* `panel_reaches_iff`: the panel reaches the whole history exactly when it is loadable.
* `panel_stuck`: otherwise the button stays, whatever it is pressed.
-/

namespace MarketHub

open ReadCommitted Session

/-! ### The panel -/

/-- The state of the panel that has to do with messages. -/
structure ConversationPanel where
  messages : List (UUID × Message) := []
  hasOlder : Bool := false

namespace ConversationPanel

/-- `loadMessages`, once the request has settled: an error only sets the error message. -/
def loadMessages (panel : ConversationPanel) (before : Option DateTime)
    (response : Except (Failure DomainError) MessageListResponse) : ConversationPanel :=
  match response with
  | .error _ => panel
  | .ok result =>
      { messages := if before.isSome then result.items ++ panel.messages else result.items
        hasOlder := result.hasOlder }

/-- The cursor of the button: `messages[0]?.created_at`. -/
def cursor (panel : ConversationPanel) : Option DateTime :=
  panel.messages.head?.map fun m => m.2.createdAt

end ConversationPanel

section Panel

variable (visits : Visits) (settings : Settings) (conversationId : UUID) (user : CurrentUser)

/-- The panel after the first load and a number of presses of the button, request `i`
being the `i`-th press. -/
def panelAfter : ℕ → ConversationPanel
  | 0 => ConversationPanel.loadMessages {} none
      (visits.ask settings conversationId user 0 none)
  | n + 1 => (panelAfter n).loadMessages (panelAfter n).cursor
      (visits.ask settings conversationId user (n + 1) (panelAfter n).cursor)

/-- Pressing the button as long as it is there ends with the whole history in the panel. -/
def ReachesHistory : Prop :=
  ∃ n, (∀ i < n, (panelAfter visits settings conversationId user i).hasOlder = true)
    ∧ (panelAfter visits settings conversationId user n).hasOlder = false
    ∧ (panelAfter visits settings conversationId user n).messages.Perm
        (messagesOf conversationId (visits.st 0))
    ∧ (panelAfter visits settings conversationId user n).messages.Pairwise
        fun m m' => m.2.createdAt ≤ m'.2.createdAt

end Panel

/-- A history without a stretch of more than a window that has no message, neither
between two messages nor between the newest one and the first load at `now`. -/
def Loadable (msgs : List (UUID × Message)) (now : DateTime) : Prop :=
  msgs = [] ∨ (∃ m ∈ msgs, now - messageWindowLength ≤ m.2.createdAt)
    ∧ ∀ m ∈ msgs, (∃ m' ∈ msgs, m'.2.createdAt < m.2.createdAt) →
      ∃ m' ∈ msgs, m.2.createdAt - messageWindowLength ≤ m'.2.createdAt
        ∧ m'.2.createdAt < m.2.createdAt

/-! ### What the panel shows -/

/-- The panel shows the messages from an instant on, and the button is there when there
are others. -/
structure Shows (msgs : List (UUID × Message)) (lower : DateTime) (panel : ConversationPanel) :
    Prop where
  perm : panel.messages.Perm (msgs.filter fun m => lower ≤ m.2.createdAt)
  sorted : panel.messages.Pairwise fun m m' => m.2.createdAt ≤ m'.2.createdAt
  hasOlder : panel.hasOlder = true ↔ ∃ m ∈ msgs, m.2.createdAt < lower
  reach : ∀ t, panel.cursor = some t → t ≤ lower + messageWindowLength

namespace Shows

variable {msgs : List (UUID × Message)} {lower t : DateTime} {panel : ConversationPanel}

lemma mem (h : Shows msgs lower panel) {m : UUID × Message} :
    m ∈ panel.messages ↔ m ∈ msgs ∧ lower ≤ m.2.createdAt := by
  rw [h.perm.mem_iff, List.mem_filter, decide_eq_true_eq]

/-- The cursor is the time of the oldest message shown. -/
lemma cursor (h : Shows msgs lower panel) (ht : panel.cursor = some t) :
    (∃ m ∈ panel.messages, m.2.createdAt = t) ∧ ∀ m ∈ panel.messages, t ≤ m.2.createdAt := by
  have hsorted := h.sorted
  rw [ConversationPanel.cursor] at ht
  cases hm : panel.messages with
  | nil => simp [hm] at ht
  | cons m rest =>
      rw [hm] at ht hsorted
      obtain rfl : m.2.createdAt = t := by simpa using ht
      refine ⟨⟨m, List.mem_cons_self, rfl⟩, ?_⟩
      rintro m' (_ | ⟨_, hm'⟩)
      · exact le_refl _
      · exact List.rel_of_pairwise_cons hsorted hm'

lemma exists_cursor (hne : panel.messages ≠ []) : ∃ t, panel.cursor = some t := by
  obtain ⟨m, rest, hm⟩ := List.exists_cons_of_ne_nil hne
  exact ⟨m.2.createdAt, by rw [ConversationPanel.cursor, hm]; rfl⟩

/-- The first load. -/
lemma first (panel : ConversationPanel) {now : DateTime} {answer : MessageListResponse}
    (ha : Answers msgs (messageWindow none now) answer)
    (hpast : ∀ m ∈ msgs, m.2.createdAt ≤ now) :
    Shows msgs (now - messageWindowLength)
      (ConversationPanel.loadMessages panel none (.ok answer)) where
  perm := by
    refine ha.items.trans (List.Perm.of_eq (List.filter_congr fun m hm => ?_))
    rw [Bool.eq_iff_iff, contains_first, decide_eq_true_eq]
    exact and_iff_left (hpast m hm)
  sorted := ha.sorted
  hasOlder := ha.hasOlder
  reach t' ht' := by
    obtain ⟨m, hm, rfl⟩ := Option.map_eq_some_iff.mp ht'
    have hmem : m ∈ answer.items := List.mem_of_head? hm
    have hle := hpast m (ha.mem_items.mp hmem).1
    linarith

/-- A press of the button. -/
lemma press {now : DateTime} {answer : MessageListResponse} (h : Shows msgs lower panel)
    (ht : panel.cursor = some t) (ha : Answers msgs (messageWindow (some t) now) answer)
    (hnd : msgs.Nodup) :
    Shows msgs (t - messageWindowLength)
      (ConversationPanel.loadMessages panel (some t) (.ok answer)) where
  perm := by
    obtain ⟨-, hleast⟩ := h.cursor ht
    have hreach := h.reach t ht
    refine (List.perm_ext_iff_of_nodup ?_ (hnd.filter _)).mpr fun m => ?_
    · refine List.Nodup.append (ha.items.nodup_iff.mpr (hnd.filter _))
        (h.perm.nodup_iff.mpr (hnd.filter _)) fun m hm hm' => ?_
      have hlt := (contains_before.mp (ha.mem_items.mp hm).2).2
      exact absurd hlt (not_lt.mpr (hleast m hm'))
    · change m ∈ answer.items ++ panel.messages ↔ _
      rw [List.mem_append, ha.mem_items, h.mem, List.mem_filter, contains_before,
        decide_eq_true_eq]
      constructor
      · rintro (⟨hm, hlow, -⟩ | ⟨hm, hlow⟩)
        · exact ⟨hm, hlow⟩
        · exact ⟨hm, by linarith⟩
      · rintro ⟨hm, hlow⟩
        rcases lt_or_ge m.2.createdAt t with hlt | hge
        · exact Or.inl ⟨hm, hlow, hlt⟩
        · -- the oldest message shown is no older than what is shown
          obtain ⟨⟨m', hm', rfl⟩, -⟩ := h.cursor ht
          exact Or.inr ⟨hm, (h.mem.mp hm').2.trans hge⟩
  sorted := by
    obtain ⟨-, hleast⟩ := h.cursor ht
    refine List.pairwise_append.mpr ⟨ha.sorted, h.sorted, fun m hm m' hm' => ?_⟩
    have hlt := (contains_before.mp (ha.mem_items.mp hm).2).2
    exact hlt.le.trans (hleast m' hm')
  hasOlder := ha.hasOlder
  reach t' ht' := by
    obtain ⟨m, hm, rfl⟩ := Option.map_eq_some_iff.mp ht'
    rcases List.mem_append.mp (List.mem_of_head? hm) with hnew | hold
    · have hlt := (contains_before.mp (ha.mem_items.mp hnew).2).2
      linarith
    · -- nothing new: the oldest message is the one it was
      have hhead : (answer.items ++ panel.messages).head? = some m := hm
      obtain ⟨⟨m', hm', rfl⟩, hleast⟩ := h.cursor ht
      cases hitems : answer.items with
      | nil =>
          rw [hitems, List.nil_append] at hhead
          have hcursor : panel.cursor = some m.2.createdAt := by
            rw [ConversationPanel.cursor, hhead]
            rfl
          rw [ht] at hcursor
          linarith [Option.some.inj hcursor]
      | cons a rest =>
          rw [hitems] at hhead
          obtain rfl : a = m := by simpa using hhead
          have hlt := (contains_before.mp (ha.mem_items.mp (hitems ▸ List.mem_cons_self)).2).2
          linarith

/-- A message left out is older than every message shown. -/
lemma lt_of_lt_cursor (h : Shows msgs lower panel) (ht : panel.cursor = some t)
    {m : UUID × Message} (hm : m ∈ msgs) (hlt : m.2.createdAt < t) : m.2.createdAt < lower := by
  by_contra hle
  have hshown := (h.cursor ht).2 m (h.mem.mpr ⟨hm, not_lt.mp hle⟩)
  exact absurd hlt (not_lt.mpr hshown)

end Shows

/-- A message that moves out of the older ones makes them fewer. -/
lemma length_olderThan_lt {msgs : List (UUID × Message)} {lower t : DateTime} (hle : t ≤ lower)
    {m : UUID × Message} (hm : m ∈ msgs) (hfrom : t ≤ m.2.createdAt)
    (hlt : m.2.createdAt < lower) :
    (olderThan t msgs).length < (olderThan lower msgs).length := by
  have hfilter : olderThan t msgs = (olderThan lower msgs).filter fun y => y.2.createdAt < t := by
    rw [olderThan, olderThan, List.filter_filter]
    refine List.filter_congr fun y _ => ?_
    rw [Bool.eq_iff_iff, Bool.and_eq_true, decide_eq_true_eq, decide_eq_true_eq]
    exact ⟨fun hy => ⟨hy, hy.trans_le hle⟩, And.left⟩
  rw [hfilter, List.length_filter_lt_length_iff_exists]
  refine ⟨m, List.mem_filter.mpr ⟨hm, decide_eq_true hlt⟩, fun hy => ?_⟩
  exact absurd (of_decide_eq_true hy) (not_lt.mpr hfrom)

/-! ### Walking through a history -/

section Walk

variable {visits : Visits} {settings : Settings} {conversationId : UUID} {user : CurrentUser}
  {lower : DateTime}

/-- The first load of a quiet conversation. -/
lemma panelAfter_zero (h : visits.Quiet settings conversationId user) {conversation : Conversation}
    (hconv : Db.conversation (visits.st 0) conversationId = some conversation) :
    ∃ answer, panelAfter visits settings conversationId user 0
        = ConversationPanel.loadMessages {} none (.ok answer)
      ∧ Answers (messagesOf conversationId (visits.st 0))
          (messageWindow none (visits.cs 0 (windowReading conversation none)).now) answer := by
  obtain ⟨conversation', answer, hconv', hask, ha⟩ := h.answers_ask 0 none (by simp)
  obtain rfl : conversation' = conversation := Option.some.inj (hconv'.symm.trans hconv)
  exact ⟨answer, by rw [panelAfter, hask], ha⟩

/-- A press of the button in a quiet conversation. -/
lemma panelAfter_succ (h : visits.Quiet settings conversationId user) {n : ℕ}
    (hcursor : ∀ t, (panelAfter visits settings conversationId user n).cursor = some t →
      ∃ m ∈ messagesOf conversationId (visits.st 0), m.2.createdAt = t) :
    ∃ now answer, panelAfter visits settings conversationId user (n + 1)
        = (panelAfter visits settings conversationId user n).loadMessages
            (panelAfter visits settings conversationId user n).cursor (.ok answer)
      ∧ (∀ k, (visits.cs 0 k).now ≤ now)
      ∧ Answers (messagesOf conversationId (visits.st 0))
          (messageWindow (panelAfter visits settings conversationId user n).cursor now) answer := by
  obtain ⟨conversation, answer, -, hask, ha⟩ := h.answers_ask (n + 1)
    (panelAfter visits settings conversationId user n).cursor fun t ht k => by
      obtain ⟨m, hm, rfl⟩ := hcursor t ht
      exact h.past_of_le (h.past m hm) (n + 1) k
  refine ⟨_, answer, by rw [panelAfter, hask], fun k => ?_, ha⟩
  have hlater : ∀ i, (visits.cs 0 k).now ≤ (visits.cs (i + 1) 0).now := by
    intro i
    induction i with
    | zero => exact h.forward 0 k 0
    | succ i ih => exact ih.trans (h.forward (i + 1) 0 0)
  cases n with
  | zero => exact h.forward 0 k _
  | succ n => exact (hlater n).trans (h.forward (n + 1) 0 _)

/-- A press while the panel shows something. -/
lemma shows_succ (h : visits.Quiet settings conversationId user) {n : ℕ}
    (hshows : Shows (messagesOf conversationId (visits.st 0)) lower
      (panelAfter visits settings conversationId user n)) {t : DateTime}
    (ht : (panelAfter visits settings conversationId user n).cursor = some t) :
    Shows (messagesOf conversationId (visits.st 0)) (t - messageWindowLength)
        (panelAfter visits settings conversationId user (n + 1))
      ∧ (panelAfter visits settings conversationId user (n + 1)).messages ≠ [] := by
  obtain ⟨⟨m, hm, hmt⟩, -⟩ := hshows.cursor ht
  obtain ⟨now, answer, hpanel, -, ha⟩ := panelAfter_succ h fun t' ht' => by
    obtain rfl : t = t' := Option.some.inj (ht.symm.trans ht')
    exact ⟨m, (hshows.mem.mp hm).1, hmt⟩
  rw [ht] at hpanel ha
  rw [hpanel]
  refine ⟨hshows.press ht ha (messagesOf_nodup _ _), ?_⟩
  exact List.ne_nil_of_mem (List.mem_append_right answer.items hm)

/-- A loadable history is walked through; every press adds a message to the panel. -/
lemma reaches_of_shows (h : visits.Quiet settings conversationId user)
    (hgaps : ∀ m ∈ messagesOf conversationId (visits.st 0),
      (∃ m' ∈ messagesOf conversationId (visits.st 0), m'.2.createdAt < m.2.createdAt) →
      ∃ m' ∈ messagesOf conversationId (visits.st 0),
        m.2.createdAt - messageWindowLength ≤ m'.2.createdAt ∧ m'.2.createdAt < m.2.createdAt)
    (left : ℕ) : ∀ (n : ℕ) (lower : DateTime),
      Shows (messagesOf conversationId (visits.st 0)) lower
        (panelAfter visits settings conversationId user n) →
      (panelAfter visits settings conversationId user n).messages ≠ [] →
      (olderThan lower (messagesOf conversationId (visits.st 0))).length ≤ left →
      (∀ i < n, (panelAfter visits settings conversationId user i).hasOlder = true) →
      ReachesHistory visits settings conversationId user := by
  -- with nothing older left, the panel shows all of them
  have hdone : ∀ (n : ℕ) (lower : DateTime),
      Shows (messagesOf conversationId (visits.st 0)) lower
        (panelAfter visits settings conversationId user n) →
      ¬ (panelAfter visits settings conversationId user n).hasOlder = true →
      (∀ i < n, (panelAfter visits settings conversationId user i).hasOlder = true) →
      ReachesHistory visits settings conversationId user := by
    intro n lower hshows hlast hbefore
    refine ⟨n, hbefore, Bool.not_eq_true _ ▸ hlast, hshows.perm.trans (List.Perm.of_eq ?_),
      hshows.sorted⟩
    refine List.filter_eq_self.mpr fun m hm => decide_eq_true ?_
    by_contra hlt
    exact hlast (hshows.hasOlder.mpr ⟨m, hm, not_le.mp hlt⟩)
  -- by induction on the number of older messages; each window has one of them at least
  induction left with
  | zero =>
      intro n lower hshows _ hleft hbefore
      refine hdone n lower hshows (fun holder => ?_) hbefore
      obtain ⟨m, hm, hlt⟩ := hshows.hasOlder.mp holder
      have hnil := List.length_eq_zero_iff.mp (Nat.le_zero.mp hleft)
      exact List.ne_nil_of_mem (List.mem_filter.mpr ⟨hm, decide_eq_true hlt⟩) hnil
  | succ left ih =>
      intro n lower hshows hne hleft hbefore
      by_cases holder : (panelAfter visits settings conversationId user n).hasOlder = true
      · obtain ⟨t, ht⟩ := Shows.exists_cursor hne
        obtain ⟨⟨m, hm, hmt⟩, -⟩ := hshows.cursor ht
        obtain ⟨hmem, hlow⟩ := hshows.mem.mp hm
        obtain ⟨x, hx, hxlow⟩ := hshows.hasOlder.mp holder
        obtain ⟨m', hm', hfrom, hto⟩ := hgaps m hmem ⟨x, hx, hxlow.trans_le hlow⟩
        rw [hmt] at hfrom hto
        have hm'low := hshows.lt_of_lt_cursor ht hm' hto
        obtain ⟨hnext, hne'⟩ := shows_succ h hshows ht
        refine ih (n + 1) (t - messageWindowLength) hnext hne' ?_ fun i hi => ?_
        · -- the message `m'` is left out no longer
          have hreach := hshows.reach t ht
          have hlt := length_olderThan_lt (by linarith) hm' hfrom hm'low
          omega
        · rcases Nat.lt_succ_iff_lt_or_eq.mp hi with hlt | rfl
          · exact hbefore i hlt
          · exact holder
      · exact hdone n lower hshows holder hbefore

/-- A panel whose first load finds nothing never shows anything. -/
lemma panel_stuck_empty (h : visits.Quiet settings conversationId user)
    {conversation : Conversation}
    (hconv : Db.conversation (visits.st 0) conversationId = some conversation)
    (hne : messagesOf conversationId (visits.st 0) ≠ [])
    (hold : ∀ m ∈ messagesOf conversationId (visits.st 0), m.2.createdAt
      < (visits.cs 0 (windowReading conversation none)).now - messageWindowLength) (n : ℕ) :
    (panelAfter visits settings conversationId user n).messages = []
      ∧ (panelAfter visits settings conversationId user n).hasOlder = true := by
  obtain ⟨m, hm⟩ := List.exists_mem_of_ne_nil _ hne
  have hanswer : ∀ now answer, (visits.cs 0 (windowReading conversation none)).now ≤ now →
      Answers (messagesOf conversationId (visits.st 0)) (messageWindow none now) answer →
      answer.items = [] ∧ answer.hasOlder = true := by
    intro now answer hnow ha
    refine ⟨List.eq_nil_iff_forall_not_mem.mpr fun x hx => ?_, ha.hasOlder.mpr ⟨m, hm, ?_⟩⟩
    · obtain ⟨hmem, hin⟩ := ha.mem_items.mp hx
      have hlow := (contains_first.mp hin).1
      linarith [hold x hmem]
    · have hlow := hold m hm
      simp only [messageWindow]
      linarith
  induction n with
  | zero =>
      obtain ⟨answer, hpanel, ha⟩ := panelAfter_zero h hconv
      rw [hpanel]
      exact hanswer _ answer (le_refl _) ha
  | succ n ih =>
      have hcursor : (panelAfter visits settings conversationId user n).cursor = none := by
        rw [ConversationPanel.cursor, ih.1]
        rfl
      obtain ⟨now, answer, hpanel, hnow, ha⟩ := panelAfter_succ h (n := n) (by simp [hcursor])
      rw [hcursor] at hpanel ha
      rw [hpanel]
      exact hanswer now answer (hnow _) ha

/-- A panel never gets past a message before which there is nothing for a window. -/
lemma panel_stuck_gap (h : visits.Quiet settings conversationId user)
    {conversation : Conversation}
    (hconv : Db.conversation (visits.st 0) conversationId = some conversation)
    {m : UUID × Message} (hm : m ∈ messagesOf conversationId (visits.st 0))
    (hgap : ∀ m' ∈ messagesOf conversationId (visits.st 0),
      m.2.createdAt - messageWindowLength ≤ m'.2.createdAt → m.2.createdAt ≤ m'.2.createdAt)
    (hfirst : ∃ m' ∈ messagesOf conversationId (visits.st 0),
      (visits.cs 0 (windowReading conversation none)).now - messageWindowLength ≤ m'.2.createdAt)
    (n : ℕ) :
    ∃ lower, Shows (messagesOf conversationId (visits.st 0)) lower
        (panelAfter visits settings conversationId user n)
      ∧ (panelAfter visits settings conversationId user n).messages ≠ []
      ∧ ∀ y ∈ (panelAfter visits settings conversationId user n).messages,
          m.2.createdAt ≤ y.2.createdAt := by
  induction n with
  | zero =>
      obtain ⟨answer, hpanel, ha⟩ := panelAfter_zero h hconv
      obtain ⟨m', hm', hlow⟩ := hfirst
      have hshows := Shows.first {} ha fun y hy => h.past y hy _
      rw [hpanel]
      refine ⟨_, hshows, List.ne_nil_of_mem (hshows.mem.mpr ⟨hm', hlow⟩), fun y hy => ?_⟩
      obtain ⟨hmem, hle⟩ := hshows.mem.mp hy
      have hpast := h.past m hm (windowReading conversation none)
      exact hgap y hmem (by linarith)
  | succ n ih =>
      obtain ⟨lower, hshows, hne, hall⟩ := ih
      obtain ⟨t, ht⟩ := Shows.exists_cursor hne
      obtain ⟨hnext, hne'⟩ := shows_succ h hshows ht
      refine ⟨_, hnext, hne', fun y hy => ?_⟩
      obtain ⟨hmem, hle⟩ := hnext.mem.mp hy
      obtain ⟨⟨z, hz, rfl⟩, -⟩ := hshows.cursor ht
      have hzm := hall z hz
      exact hgap y hmem (by linarith)

/-- In a history that is not loadable, the button is there whatever it is pressed. -/
lemma panel_stuck (h : visits.Quiet settings conversationId user) {conversation : Conversation}
    (hconv : Db.conversation (visits.st 0) conversationId = some conversation)
    (hnot : ¬ Loadable (messagesOf conversationId (visits.st 0))
      (visits.cs 0 (windowReading conversation none)).now) (n : ℕ) :
    (panelAfter visits settings conversationId user n).hasOlder = true := by
  rw [Loadable, not_or] at hnot
  obtain ⟨hne, hnot⟩ := hnot
  by_cases hfirst : ∃ m ∈ messagesOf conversationId (visits.st 0),
      (visits.cs 0 (windowReading conversation none)).now - messageWindowLength ≤ m.2.createdAt
  · have hgaps : ∃ m ∈ messagesOf conversationId (visits.st 0),
        (∃ x ∈ messagesOf conversationId (visits.st 0), x.2.createdAt < m.2.createdAt)
        ∧ ∀ m' ∈ messagesOf conversationId (visits.st 0),
          m.2.createdAt - messageWindowLength ≤ m'.2.createdAt →
          m.2.createdAt ≤ m'.2.createdAt := by
      by_contra hno
      refine hnot ⟨hfirst, fun m hm hx => ?_⟩
      by_contra hnone
      refine hno ⟨m, hm, hx, fun m' hm' hlow => ?_⟩
      by_contra hlt
      exact hnone ⟨m', hm', hlow, not_le.mp hlt⟩
    obtain ⟨m, hm, ⟨x, hx, hlt⟩, hgap⟩ := hgaps
    obtain ⟨lower, hshows, -, hall⟩ := panel_stuck_gap h hconv hm hgap hfirst n
    refine hshows.hasOlder.mpr ⟨x, hx, ?_⟩
    by_contra hle
    exact absurd hlt (not_lt.mpr (hall x (hshows.mem.mpr ⟨hx, not_lt.mp hle⟩)))
  · refine (panel_stuck_empty h hconv hne (fun m hm => ?_) n).2
    by_contra hlow
    exact hfirst ⟨m, hm, not_lt.mp hlow⟩

end Walk

/-- **What the panel can reach.** While nothing is added to a conversation, loading it and
pressing the button as long as it is there ends with every message in the panel, once
and in order, exactly when the history has no stretch of more than a window without a
message: otherwise the panel asks for the same empty window again and again. -/
theorem panel_reaches_iff {visits : Visits} {settings : Settings} {conversationId : UUID}
    {user : CurrentUser} {conversation : Conversation}
    (h : visits.Quiet settings conversationId user)
    (hconv : Db.conversation (visits.st 0) conversationId = some conversation) :
    ReachesHistory visits settings conversationId user ↔
      Loadable (messagesOf conversationId (visits.st 0))
        (visits.cs 0 (windowReading conversation none)).now := by
  constructor
  · rintro ⟨n, -, hlast, -⟩
    by_contra hnot
    rw [panel_stuck h hconv hnot n] at hlast
    cases hlast
  · intro hload
    obtain ⟨answer, hpanel, ha⟩ := panelAfter_zero h hconv
    have hshows := Shows.first {} ha fun y hy => h.past y hy _
    rw [← hpanel] at hshows
    rcases hload with hnil | ⟨⟨m, hm, hlow⟩, hgaps⟩
    · -- no messages: the first load is all there is
      refine ⟨0, by simp, ?_, ?_, hshows.sorted⟩
      · rw [hpanel]
        refine Bool.not_eq_true _ ▸ fun holder => ?_
        obtain ⟨m, hm, -⟩ := ha.hasOlder.mp holder
        exact List.ne_nil_of_mem hm hnil
      · refine hshows.perm.trans (List.Perm.of_eq ?_)
        rw [hnil]
        rfl
    · exact reaches_of_shows h hgaps _ 0 _ hshows
        (List.ne_nil_of_mem (hshows.mem.mpr ⟨hm, hlow⟩)) (le_refl _) (by simp)

theorem panel_reaches_iff_mugs : ReachesHistory mugVisits {} 6 ⟨7, .buyer, none⟩ ↔
    Loadable (messagesOf 6 mugThread) (hours 48) :=
  panel_reaches_iff mugVisits_quiet rfl

/-- **The panel misses a message**: between the two messages of the thread lie more than
twenty-four hours, and the panel never gets past the second. -/
theorem panel_misses_message : ¬ ∀ (visits : Visits) (settings : Settings) (conversationId : UUID)
    (user : CurrentUser), visits.Quiet settings conversationId user →
      ReachesHistory visits settings conversationId user := by
  intro h
  obtain ⟨n, -, hlast, -⟩ := h mugVisits {} 6 ⟨7, .buyer, none⟩ mugVisits_quiet
  have hnot : ¬ Loadable (messagesOf 6 mugThread) (hours 48) := by
    rw [Loadable]
    decide
  rw [panel_stuck mugVisits_quiet rfl hnot n] at hlast
  cases hlast

end MarketHub
