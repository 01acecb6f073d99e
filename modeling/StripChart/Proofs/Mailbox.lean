import StripChart.Proofs.Ring
import StripChart.Queue

/-!
# A queue that one side fills and another empties

Posting is not one step. An entry is offered; if there is no room, the oldest entry is
dropped; and the entry is offered again. Between any two of these steps the other side may
take entries, even the one that was about to be dropped. A `Mailbox` has both sides: entries
are posted one after the other, and the other side takes what there is, each of them when it
is its turn (`Mailbox.Turn`).

In whatever order the turns come, nothing is lost but what is oldest, and nothing is moved
(`Mailbox.keeps_newest`). What has been taken, and behind it what is still queued, is part of
what has been posted, in the same order; and the last entry that was posted is the last of
it. The invariant that carries this, `Mailbox.IsSound`, says besides that there is room when
an entry is offered a second time. For only this side puts entries in, and the other side can
but make more room. So there is no third time, and every posting comes to its end.
-/

namespace StripChart

open scoped List

theorem length_rtake_le {β : Type} (list : List β) (n : Nat) : (list.rtake n).length ≤ n := by
  rw [List.rtake, List.length_drop]
  omega

/-! ### Posting in one go -/

namespace Queue

variable {α : Type}

theorem post_of_lt {queue : Queue α} {entry : α} (h : queue.entries.length < queue.limit) :
    queue.post entry = { queue with entries := queue.entries ++ [entry] } := by
  rw [post, offer?_of_lt h]

theorem post_of_le {queue : Queue α} {entry : α} (h : queue.limit ≤ queue.entries.length) :
    queue.post entry = { queue with entries := queue.entries.tail ++ [entry] } := by
  rw [post, offer?_eq_none.2 h]

theorem entries_post_eq_rtake {queue : Queue α} (pos : 0 < queue.limit)
    (h : queue.entries.length ≤ queue.limit) (entry : α) :
    (queue.post entry).entries = (queue.entries ++ [entry]).rtake queue.limit := by
  rcases Nat.lt_or_ge queue.entries.length queue.limit with hroom | hfull
  · rw [entries_post_of_lt hroom, rtake_of_length_le]
    rw [List.length_append, List.length_singleton]
    exact hroom
  · -- a full queue drops exactly one
    have hdrop : (queue.entries ++ [entry]).length - queue.limit = 1 := by
      rw [List.length_append, List.length_singleton]
      omega
    have hne : queue.entries ≠ [] := List.ne_nil_of_length_pos (by omega)
    rw [entries_post_of_le hfull, List.rtake, hdrop, List.drop_one, List.tail_append_of_ne_nil hne]

/-- The queue after a row of postings, each in one go. -/
def postAll (queue : Queue α) (entries : List α) : Queue α :=
  entries.foldl post queue

theorem postAll_concat (queue : Queue α) (entries : List α) (entry : α) :
    queue.postAll (entries ++ [entry]) = (queue.postAll entries).post entry :=
  List.foldl_concat ..

@[simp] theorem limit_postAll (queue : Queue α) (entries : List α) :
    (queue.postAll entries).limit = queue.limit := by
  induction entries using List.reverseRecOn with
  | nil => rfl
  | append_singleton entries entry ih => rw [postAll_concat, limit_post, ih]

/-- **A row of postings leaves the last entries**, as many as there is room for. -/
theorem entries_postAll_new {limit : Nat} (pos : 0 < limit) (entries : List α) :
    ((new limit).postAll entries).entries = entries.rtake limit := by
  induction entries using List.reverseRecOn with
  | nil => exact (List.rtake_nil limit).symm
  | append_singleton entries entry ih =>
    have hlimit : ((new limit : Queue α).postAll entries).limit = limit := limit_postAll _ _
    rw [postAll_concat, entries_post_eq_rtake (hlimit.symm ▸ pos), hlimit, ih, rtake_rtake_append]
    rw [hlimit, ih]
    exact length_rtake_le entries limit

end Queue

/-! ### Two sides -/

/-- A queue with the side that posts entries and the side that takes them. -/
structure Mailbox (α : Type) where
  /-- The queue between the two sides. -/
  queue : Queue α
  /-- Where the posting of the last entry stands. -/
  posting : Posting α
  /-- How often this entry has been offered. -/
  offers : Nat
  /-- The entries whose posting has begun, in order. -/
  sent : List α
  /-- The entries that are still to be posted. -/
  waiting : List α
  /-- The entries that the other side has taken, in order. -/
  taken : List α

namespace Mailbox

variable {α : Type}

/-- Whose turn it is. -/
inductive Turn
  /-- The side that posts does its next step. -/
  | post
  /-- The other side takes an entry, if there is one. -/
  | take
  deriving DecidableEq, Repr

/-- Nothing has been done yet. -/
def new (limit : Nat) (entries : List α) : Mailbox α where
  queue := .new limit
  posting := .posted
  offers := 0
  sent := []
  waiting := entries
  taken := []

/-- The side that posts does its next step, which is to begin with the next entry once one is
posted. -/
def post (mailbox : Mailbox α) : Mailbox α :=
  match mailbox.posting with
  | .posted =>
    match mailbox.waiting with
    | [] => mailbox
    | entry :: rest =>
      { mailbox with
        posting := .offering entry
        offers := 0
        sent := mailbox.sent ++ [entry]
        waiting := rest }
  | .offering entry =>
    { mailbox with
      queue := (Posting.step mailbox.queue (.offering entry)).1
      posting := (Posting.step mailbox.queue (.offering entry)).2
      offers := mailbox.offers + 1 }
  | .evicting entry =>
    { mailbox with
      queue := (Posting.step mailbox.queue (.evicting entry)).1
      posting := (Posting.step mailbox.queue (.evicting entry)).2 }

/-- The other side takes the oldest entry, if there is one. -/
def take (mailbox : Mailbox α) : Mailbox α :=
  match mailbox.queue.take? with
  | some (entry, queue) => { mailbox with queue, taken := mailbox.taken ++ [entry] }
  | none => mailbox

/-- One turn. -/
def step (mailbox : Mailbox α) : Turn → Mailbox α
  | .post => mailbox.post
  | .take => mailbox.take

/-- Turns one after the other. -/
def run (mailbox : Mailbox α) (turns : List Turn) : Mailbox α :=
  turns.foldl step mailbox

/-- All that has come through so far or is on its way, in order. -/
def through (mailbox : Mailbox α) : List α :=
  mailbox.taken ++ mailbox.queue.entries

/-! ### What a turn does -/

variable {mailbox : Mailbox α} {entry : α}

theorem post_of_waiting {rest : List α} (hposting : mailbox.posting = .posted)
    (hwaiting : mailbox.waiting = entry :: rest) :
    mailbox.post = { mailbox with
      posting := .offering entry
      offers := 0
      sent := mailbox.sent ++ [entry]
      waiting := rest } := by
  rw [post, hposting, hwaiting]

theorem post_of_idle (hposting : mailbox.posting = .posted) (hwaiting : mailbox.waiting = []) :
    mailbox.post = mailbox := by
  rw [post, hposting, hwaiting]

theorem post_of_room (hposting : mailbox.posting = .offering entry)
    (hroom : mailbox.queue.entries.length < mailbox.queue.limit) :
    mailbox.post = { mailbox with
      queue := { mailbox.queue with entries := mailbox.queue.entries ++ [entry] }
      posting := .posted
      offers := mailbox.offers + 1 } := by
  rw [post, hposting]
  simp only [Posting.step, Queue.offer?_of_lt hroom]

theorem post_of_full (hposting : mailbox.posting = .offering entry)
    (hfull : mailbox.queue.limit ≤ mailbox.queue.entries.length) :
    mailbox.post = { mailbox with
      posting := .evicting entry
      offers := mailbox.offers + 1 } := by
  rw [post, hposting]
  simp only [Posting.step, Queue.offer?_eq_none.2 hfull]

theorem post_of_evicting (hposting : mailbox.posting = .evicting entry) :
    mailbox.post = { mailbox with
      queue := mailbox.queue.dropOldest
      posting := .offering entry } := by
  rw [post, hposting]
  rfl

/-- **Taking moves an entry on its way**, and nothing else. -/
theorem take_eq (mailbox : Mailbox α) :
    mailbox.take = { mailbox with
      queue := mailbox.queue.dropOldest
      taken := mailbox.taken ++ mailbox.queue.entries.take 1 } := by
  obtain ⟨⟨limit, entries⟩, posting, offers, sent, waiting, taken⟩ := mailbox
  cases entries with
  | nil => simp [take, Queue.take?, Queue.dropOldest]
  | cons entry rest => rfl

@[simp] theorem posting_take (mailbox : Mailbox α) : mailbox.take.posting = mailbox.posting := by
  rw [take_eq]

@[simp] theorem offers_take (mailbox : Mailbox α) : mailbox.take.offers = mailbox.offers := by
  rw [take_eq]

@[simp] theorem sent_take (mailbox : Mailbox α) : mailbox.take.sent = mailbox.sent := by
  rw [take_eq]

@[simp] theorem waiting_take (mailbox : Mailbox α) : mailbox.take.waiting = mailbox.waiting := by
  rw [take_eq]

@[simp] theorem limit_queue_take (mailbox : Mailbox α) :
    mailbox.take.queue.limit = mailbox.queue.limit := by
  rw [take_eq]
  rfl

theorem length_queue_take_le (mailbox : Mailbox α) :
    mailbox.take.queue.entries.length ≤ mailbox.queue.entries.length := by
  rw [take_eq]
  exact (List.tail_sublist _).length_le

@[simp] theorem through_take (mailbox : Mailbox α) : mailbox.take.through = mailbox.through := by
  rw [take_eq, through, through, Queue.dropOldest, List.append_assoc, ← List.drop_one,
    List.take_append_drop]

/-! ### What every turn keeps -/

/-- Where the posting stands, and what may be on its way then. -/
def Stands (mailbox : Mailbox α) : Posting α → Prop
  | .posted =>
    mailbox.through <+ mailbox.sent ∧ mailbox.offers ≤ 2 ∧
      ∀ before entry, mailbox.sent = before ++ [entry] →
        ∃ earlier, mailbox.through = earlier ++ [entry] ∧ earlier <+ before
  | .offering entry =>
    (∃ before, mailbox.sent = before ++ [entry] ∧ mailbox.through <+ before) ∧
      (mailbox.offers = 0 ∨
        mailbox.offers = 1 ∧ mailbox.queue.entries.length < mailbox.queue.limit)
  | .evicting entry =>
    (∃ before, mailbox.sent = before ++ [entry] ∧ mailbox.through <+ before) ∧
      mailbox.offers = 1

/-- **The queue holds no more than it has room for**, and what is on its way is what may be
while the posting stands where it does. -/
structure IsSound (limit : Nat) (entries : List α) (mailbox : Mailbox α) : Prop where
  /-- The room stays the same. -/
  limit_eq : mailbox.queue.limit = limit
  /-- It is enough for what is queued. -/
  length_le : mailbox.queue.entries.length ≤ limit
  /-- Entries are posted in the order given. -/
  sent_append : mailbox.sent ++ mailbox.waiting = entries
  /-- What is on its way fits to where the posting stands. -/
  stands : mailbox.Stands mailbox.posting

variable {limit : Nat} {entries : List α}

theorem isSound_new (limit : Nat) (entries : List α) :
    IsSound limit entries (new limit entries) where
  limit_eq := rfl
  length_le := Nat.zero_le _
  sent_append := rfl
  stands := by
    refine ⟨List.Sublist.refl _, Nat.zero_le _, fun before entry hsent => ?_⟩
    have hlength := congrArg List.length hsent
    rw [List.length_append, List.length_singleton] at hlength
    exact absurd hlength.symm (Nat.succ_ne_zero _)

theorem Stands.take {posting : Posting α} (h : mailbox.Stands posting) :
    mailbox.take.Stands posting := by
  have hle := mailbox.length_queue_take_le
  cases posting with
  | posted =>
    simp only [Stands, through_take, sent_take, offers_take]
    exact h
  | offering entry =>
    simp only [Stands, through_take, sent_take, offers_take, limit_queue_take]
    exact ⟨h.1, h.2.imp_right fun hroom => ⟨hroom.1, Nat.lt_of_le_of_lt hle hroom.2⟩⟩
  | evicting entry =>
    simp only [Stands, through_take, sent_take, offers_take]
    exact h

theorem IsSound.take (h : IsSound limit entries mailbox) : IsSound limit entries mailbox.take where
  limit_eq := by rw [limit_queue_take, h.limit_eq]
  length_le := Nat.le_trans mailbox.length_queue_take_le h.length_le
  sent_append := by rw [sent_take, waiting_take, h.sent_append]
  stands := by
    rw [posting_take]
    exact h.stands.take

theorem IsSound.post (pos : 0 < limit) (h : IsSound limit entries mailbox) :
    IsSound limit entries mailbox.post := by
  have hstands := h.stands
  have hlimit := h.limit_eq
  have hlength := h.length_le
  cases hposting : mailbox.posting with
  | posted =>
    rw [hposting] at hstands
    cases hwaiting : mailbox.waiting with
    | nil =>
      rw [post_of_idle hposting hwaiting]
      exact h
    | cons entry rest =>
      rw [post_of_waiting hposting hwaiting]
      refine ⟨hlimit, hlength, ?_, ⟨mailbox.sent, rfl, hstands.1⟩, Or.inl rfl⟩
      rw [← h.sent_append, hwaiting, List.append_assoc, List.singleton_append]
  | offering entry =>
    rw [hposting] at hstands
    obtain ⟨⟨before, hsent, hthrough⟩, hoffers⟩ := hstands
    rcases Nat.lt_or_ge mailbox.queue.entries.length mailbox.queue.limit with hroom | hfull
    · -- the entry goes in behind all that is on its way
      have hthrough' : mailbox.taken ++ (mailbox.queue.entries ++ [entry])
          = mailbox.through ++ [entry] := (List.append_assoc _ _ _).symm
      rw [post_of_room hposting hroom]
      refine ⟨hlimit, ?_, h.sent_append, ?_, ?_, fun before' entry' hsent' => ?_⟩
      · rw [List.length_append, List.length_singleton]
        omega
      · show mailbox.taken ++ (mailbox.queue.entries ++ [entry]) <+ mailbox.sent
        rw [hthrough', hsent]
        exact hthrough.append (List.Sublist.refl _)
      · show mailbox.offers + 1 ≤ 2
        omega
      · obtain ⟨rfl, hentry⟩ := List.append_inj' (hsent.symm.trans hsent') rfl
        exact ⟨mailbox.through, by rw [through, hthrough', hentry], hthrough⟩
    · rw [post_of_full hposting hfull]
      refine ⟨hlimit, hlength, h.sent_append, ⟨before, hsent, hthrough⟩, ?_⟩
      -- it was not the second time, for then there would have been room
      show mailbox.offers + 1 = 1
      omega
  | evicting entry =>
    rw [hposting] at hstands
    obtain ⟨⟨before, hsent, hthrough⟩, hoffers⟩ := hstands
    rw [post_of_evicting hposting]
    have hdrop : mailbox.queue.dropOldest.entries.length < limit := by
      rw [Queue.dropOldest, List.length_tail]
      omega
    refine ⟨hlimit, Nat.le_of_lt hdrop, h.sent_append, ⟨before, hsent, ?_⟩,
      Or.inr ⟨hoffers, ?_⟩⟩
    · exact ((List.Sublist.refl mailbox.taken).append (List.tail_sublist _)).trans hthrough
    · exact hdrop.trans_le (Nat.le_of_eq hlimit.symm)

/-- **Every turn keeps a mailbox sound.** -/
theorem IsSound.step (pos : 0 < limit) (h : IsSound limit entries mailbox) (turn : Turn) :
    IsSound limit entries (mailbox.step turn) := by
  cases turn with
  | post => exact h.post pos
  | take => exact h.take

theorem IsSound.run (pos : 0 < limit) (h : IsSound limit entries mailbox) (turns : List Turn) :
    IsSound limit entries (mailbox.run turns) := by
  induction turns generalizing mailbox with
  | nil => exact h
  | cons turn rest ih => exact ih (h.step pos turn)

theorem IsSound.through_sublist (h : IsSound limit entries mailbox) :
    mailbox.through <+ mailbox.sent := by
  have hstands := h.stands
  cases hposting : mailbox.posting with
  | posted =>
    rw [hposting] at hstands
    exact hstands.1
  | offering entry =>
    rw [hposting] at hstands
    obtain ⟨⟨before, hsent, hthrough⟩, -⟩ := hstands
    rw [hsent]
    exact hthrough.trans (List.sublist_append_left _ _)
  | evicting entry =>
    rw [hposting] at hstands
    obtain ⟨⟨before, hsent, hthrough⟩, -⟩ := hstands
    rw [hsent]
    exact hthrough.trans (List.sublist_append_left _ _)

theorem IsSound.offers_le (h : IsSound limit entries mailbox) : mailbox.offers ≤ 2 := by
  have hstands := h.stands
  cases hposting : mailbox.posting <;> rw [hposting] at hstands
  · rcases hstands.2 with hzero | hone <;> omega
  · have := hstands.2
    omega
  · exact hstands.2.1

/-! ### Every posting comes to its end -/

/-- How many steps there are at most until the entry is posted. -/
def stepsLeft (mailbox : Mailbox α) : Nat :=
  match mailbox.posting with
  | .posted => 0
  | .offering _ => 3 - 2 * mailbox.offers
  | .evicting _ => 2

theorem stepsLeft_le (mailbox : Mailbox α) : mailbox.stepsLeft ≤ 3 := by
  unfold stepsLeft
  split <;> omega

theorem stepsLeft_take (mailbox : Mailbox α) : mailbox.take.stepsLeft = mailbox.stepsLeft := by
  rw [stepsLeft, stepsLeft, posting_take, offers_take]

/-- A step towards the end of a posting is one step less, and no other posting begins. -/
theorem IsSound.stepsLeft_post (h : IsSound limit entries mailbox)
    (hposting : mailbox.posting ≠ .posted) :
    mailbox.post.stepsLeft < mailbox.stepsLeft ∧ mailbox.post.sent = mailbox.sent := by
  have hstands := h.stands
  cases hnow : mailbox.posting with
  | posted => exact absurd hnow hposting
  | offering entry =>
    rw [hnow] at hstands
    obtain ⟨-, hoffers⟩ := hstands
    rcases Nat.lt_or_ge mailbox.queue.entries.length mailbox.queue.limit with hroom | hfull
    · rw [post_of_room hnow hroom]
      simp only [stepsLeft, hnow, and_true]
      omega
    · rw [post_of_full hnow hfull]
      simp only [stepsLeft, hnow, and_true]
      omega
  | evicting entry =>
    rw [hnow] at hstands
    rw [post_of_evicting hnow]
    simp only [stepsLeft, hnow, and_true, hstands.2]
    omega

/-- **A posting is over** as soon as the side that posts has had as many turns as there are
steps left, whatever the other side does meanwhile. -/
theorem IsSound.exists_posted (pos : 0 < limit) (h : IsSound limit entries mailbox)
    {turns : List Turn} (hturns : mailbox.stepsLeft ≤ turns.count .post) :
    ∃ first, first <+: turns ∧ (mailbox.run first).posting = .posted ∧
      (mailbox.run first).sent = mailbox.sent := by
  induction turns generalizing mailbox with
  | nil =>
    refine ⟨[], List.nil_prefix, ?_, rfl⟩
    have hzero : mailbox.stepsLeft = 0 := Nat.le_zero.1 hturns
    have hstands := h.stands
    unfold stepsLeft at hzero
    split at hzero
    · assumption
    · rename_i entry hnow
      rw [hnow] at hstands
      obtain ⟨-, hoffers⟩ := hstands
      omega
    · omega
  | cons turn rest ih =>
    by_cases hposting : mailbox.posting = .posted
    · exact ⟨[], List.nil_prefix, hposting, rfl⟩
    -- the first turn, and then as many as are left
    have hrest : (mailbox.step turn).stepsLeft ≤ rest.count .post ∧
        (mailbox.step turn).sent = mailbox.sent := by
      cases turn with
      | post =>
        obtain ⟨hless, hsent⟩ := h.stepsLeft_post hposting
        rw [List.count_cons_self] at hturns
        exact ⟨Nat.le_of_lt_succ (Nat.lt_of_lt_of_le hless hturns), hsent⟩
      | take =>
        rw [List.count_cons_of_ne (by decide), ← stepsLeft_take] at hturns
        exact ⟨hturns, mailbox.sent_take⟩
    obtain ⟨first, hprefix, hposted, hsent⟩ := ih (h.step pos turn) hrest.1
    exact ⟨turn :: first, List.cons_prefix_cons.2 ⟨rfl, hprefix⟩, hposted, hsent.trans hrest.2⟩

/-! ### Nobody takes anything -/

/-- What the queue holds if nothing has ever been taken: what it would hold if every posting
were done in one go, and in the midst of one, what there was before or one entry less. -/
def IsUndisturbed (limit : Nat) (mailbox : Mailbox α) : Posting α → Prop
  | .posted => mailbox.queue = (Queue.new limit).postAll mailbox.sent
  | .offering entry =>
    ∃ before, mailbox.sent = before ++ [entry] ∧
      (mailbox.queue = (Queue.new limit).postAll before ∨
        limit ≤ ((Queue.new limit).postAll before).entries.length ∧
          mailbox.queue = ((Queue.new limit).postAll before).dropOldest)
  | .evicting entry =>
    ∃ before, mailbox.sent = before ++ [entry] ∧
      limit ≤ ((Queue.new limit).postAll before).entries.length ∧
        mailbox.queue = (Queue.new limit).postAll before

theorem IsUndisturbed.post (pos : 0 < limit) (h : mailbox.IsUndisturbed limit mailbox.posting) :
    mailbox.post.IsUndisturbed limit mailbox.post.posting := by
  have hlimit : ∀ before : List α, ((Queue.new limit).postAll before).limit = limit :=
    fun before => Queue.limit_postAll _ _
  cases hposting : mailbox.posting with
  | posted =>
    rw [hposting] at h
    cases hwaiting : mailbox.waiting with
    | nil =>
      rw [post_of_idle hposting hwaiting, hposting]
      exact h
    | cons entry rest =>
      rw [post_of_waiting hposting hwaiting]
      exact ⟨mailbox.sent, rfl, Or.inl h⟩
  | offering entry =>
    rw [hposting] at h
    obtain ⟨before, hsent, hqueue | ⟨hfull, hqueue⟩⟩ := h
    · rcases Nat.lt_or_ge mailbox.queue.entries.length mailbox.queue.limit with hroom | hfull
      · rw [post_of_room hposting hroom]
        show _ = (Queue.new limit).postAll mailbox.sent
        rw [hsent, Queue.postAll_concat, ← hqueue, Queue.post_of_lt hroom]
      · rw [post_of_full hposting hfull]
        rw [hqueue, hlimit] at hfull
        exact ⟨before, hsent, hfull, hqueue⟩
    · -- the oldest entry has been dropped, and there is room now
      have hroom : mailbox.queue.entries.length < mailbox.queue.limit := by
        have hlength := length_rtake_le before limit
        rw [← Queue.entries_postAll_new pos] at hlength
        rw [hqueue, Queue.dropOldest, hlimit, List.length_tail]
        omega
      rw [post_of_room hposting hroom]
      show _ = (Queue.new limit).postAll mailbox.sent
      rw [hsent, Queue.postAll_concat, Queue.post_of_le (by rwa [hlimit]), hqueue]
      rfl
  | evicting entry =>
    rw [hposting] at h
    obtain ⟨before, hsent, hfull, hqueue⟩ := h
    rw [post_of_evicting hposting]
    exact ⟨before, hsent, Or.inr ⟨hfull, by rw [hqueue]⟩⟩

theorem taken_post (mailbox : Mailbox α) : mailbox.post.taken = mailbox.taken := by
  unfold post
  split
  · split <;> rfl
  · rfl
  · rfl

/-- If nothing is ever taken, the queue holds what it would hold if every posting were done
in one go. -/
theorem run_of_not_take (pos : 0 < limit) (entries : List α) {turns : List Turn}
    (hturns : Turn.take ∉ turns) :
    ((new limit entries).run turns).taken = [] ∧
      ((new limit entries).run turns).IsUndisturbed limit
        ((new limit entries).run turns).posting := by
  induction turns using List.reverseRecOn with
  | nil => exact ⟨rfl, rfl⟩
  | append_singleton turns turn ih =>
    obtain ⟨htaken, hqueue⟩ := ih fun hmem => hturns (List.mem_append_left _ hmem)
    have hrun : (new limit entries).run (turns ++ [turn])
        = ((new limit entries).run turns).step turn := List.foldl_concat ..
    have hturn : turn = .post := by
      cases turn with
      | post => rfl
      | take => exact absurd (List.mem_append_right _ List.mem_cons_self) hturns
    rw [hrun, hturn]
    exact ⟨(taken_post _).trans htaken, hqueue.post pos⟩

/-! ### All of it -/

/-- **A mailbox keeps the newest entries, in order, and posting always comes to its end.**
Let there be room for one entry at least, and let the turns come in any order. Then:

* Entries are posted in the order given, and the queue never holds more than there is room
  for.
* What has been taken, and behind it what is queued, is part of what has been posted: in the
  same order, and nothing twice.
* When a posting has come to its end, its entry is queued or has been taken. It is the last
  of all that has come through, so that whoever takes everything gets it last.
* No entry is offered more than twice, and a posting is over after three turns of the side
  that posts, whatever the other side does meanwhile.
* If nothing is ever taken, then when a posting has come to its end the queue holds the last
  of the entries posted, as many as there are or there is room for; it is as if every posting
  had been done in one go. -/
theorem keeps_newest {limit : Nat} (pos : 0 < limit) (entries : List α) (turns : List Turn) :
    let now := (new limit entries).run turns
    now.sent ++ now.waiting = entries ∧
      now.queue.entries.length ≤ limit ∧
      now.taken ++ now.queue.entries <+ now.sent ∧
      (now.posting = .posted → ∀ before entry, now.sent = before ++ [entry] →
        (entry ∈ now.queue.entries ∨ entry ∈ now.taken) ∧
          ∃ earlier, now.taken ++ now.queue.entries = earlier ++ [entry] ∧ earlier <+ before) ∧
      now.offers ≤ 2 ∧
      (∀ more : List Turn, 3 ≤ more.count .post →
        ∃ first, first <+: more ∧ (now.run first).posting = .posted ∧
          (now.run first).sent = now.sent) ∧
      (Turn.take ∉ turns → now.posting = .posted →
        now.taken = [] ∧ now.queue.entries = now.sent.rtake (min now.sent.length limit) ∧
          now.queue = (Queue.new limit).postAll now.sent) := by
  intro now
  have hsound : IsSound limit entries now := (isSound_new limit entries).run pos turns
  refine ⟨hsound.sent_append, hsound.length_le, hsound.through_sublist,
    fun hposted before entry hsent => ?_, hsound.offers_le,
    fun more hmore => hsound.exists_posted pos (Nat.le_trans now.stepsLeft_le hmore),
    fun hturns hposted => ?_⟩
  · have hstands := hsound.stands
    rw [hposted] at hstands
    obtain ⟨earlier, hthrough, hearlier⟩ := hstands.2.2 before entry hsent
    have hmem : entry ∈ now.taken ++ now.queue.entries := by
      rw [show now.taken ++ now.queue.entries = earlier ++ [entry] from hthrough]
      exact List.mem_append_right _ List.mem_cons_self
    exact ⟨(List.mem_append.1 hmem).symm, earlier, hthrough, hearlier⟩
  · obtain ⟨htaken, hqueue⟩ := run_of_not_take pos entries hturns
    have hqueue : now.queue = (Queue.new limit).postAll now.sent := by
      rw [hposted] at hqueue
      exact hqueue
    refine ⟨htaken, ?_, hqueue⟩
    rw [hqueue, Queue.entries_postAll_new pos, List.rtake, List.rtake]
    congr 1
    omega

/-- Turns by which three entries go through a queue for one: the first is taken before the
second is offered again, so that nothing is dropped for it; the second makes way for the
third. -/
def threeThroughOne : List Turn :=
  [.post, .post, .post, .post, .take, .post, .post, .post, .post, .post, .post]

theorem keeps_newest_threeThroughOne :
    0 < 1 ∧
      let now := (new 1 ['a', 'b', 'c']).run threeThroughOne
      now.posting = .posted ∧ now.taken = ['a'] ∧ now.queue.entries = ['c'] ∧
        now.taken ++ now.queue.entries <+ ['a', 'b', 'c'] ∧
        ∃ earlier, now.taken ++ now.queue.entries = earlier ++ ['c'] ∧ earlier <+ ['a', 'b'] := by
  refine ⟨by decide, ?_⟩
  intro now
  obtain ⟨-, -, hsublist, hposted, -⟩ :=
    keeps_newest (show 0 < 1 by decide) ['a', 'b', 'c'] threeThroughOne
  have hsent : now.sent = ['a', 'b'] ++ ['c'] := by decide
  have hnow : now.posting = .posted := by decide
  have hcame : now.taken ++ now.queue.entries <+ now.sent := hsublist
  rw [hsent] at hcame
  exact ⟨hnow, by decide, by decide, hcame, (hposted hnow ['a', 'b'] 'c' hsent).2⟩

end Mailbox

end StripChart
