/-!
# Bounded queues

A `Queue` has room for a fixed number of entries. An entry can be *offered*, which fails
if there is no room (`Queue.offer?`), or *posted*, which makes room by dropping the oldest
entry (`Queue.post`). Entries are taken from the front.

Posting is made of single steps, between which the other side may take entries:
offering the entry, and, if there was no room, dropping the oldest and offering again
(`Posting`). Done without anything in between, the steps amount to `Queue.post`
(`Posting.step_step_step`).
-/

namespace StripChart

/-- A queue with room for a number of entries. -/
structure Queue (α : Type) where
  /-- How many entries there is room for. -/
  limit : Nat
  /-- The entries, the oldest first. -/
  entries : List α
  deriving DecidableEq, Repr

namespace Queue

variable {α : Type}

/-- A queue with nothing in it. -/
def new (limit : Nat) : Queue α where
  limit := limit
  entries := []

/-- Whether there is room for no further entry. -/
def isFull (queue : Queue α) : Bool :=
  queue.limit ≤ queue.entries.length

/-- Puts an entry at the end, if there is room. -/
def offer? (queue : Queue α) (entry : α) : Option (Queue α) :=
  if queue.isFull then none else some { queue with entries := queue.entries ++ [entry] }

/-- Takes the oldest entry. -/
def take? : Queue α → Option (α × Queue α)
  | ⟨_, []⟩ => none
  | ⟨limit, entry :: rest⟩ => some (entry, ⟨limit, rest⟩)

/-- Takes all entries, the oldest first. -/
def takeAll (queue : Queue α) : List α × Queue α :=
  (queue.entries, { queue with entries := [] })

/-- Drops the oldest entry, if there is one. -/
def dropOldest (queue : Queue α) : Queue α :=
  { queue with entries := queue.entries.tail }

/-- Puts an entry at the end, and drops the oldest one if there is no room. -/
def post (queue : Queue α) (entry : α) : Queue α :=
  match queue.offer? entry with
  | some queue => queue
  | none => { queue with entries := queue.entries.tail ++ [entry] }

@[simp] theorem entries_new (limit : Nat) : (new limit : Queue α).entries = [] :=
  rfl

@[simp] theorem limit_post (queue : Queue α) (entry : α) :
    (queue.post entry).limit = queue.limit := by
  unfold post offer?
  split <;> grind

theorem offer?_eq_none {queue : Queue α} {entry : α} :
    queue.offer? entry = none ↔ queue.limit ≤ queue.entries.length := by
  simp [offer?, isFull]

theorem offer?_of_lt {queue : Queue α} {entry : α} (h : queue.entries.length < queue.limit) :
    queue.offer? entry = some { queue with entries := queue.entries ++ [entry] } := by
  simp [offer?, isFull, h]

theorem entries_post_of_lt {queue : Queue α} {entry : α}
    (h : queue.entries.length < queue.limit) :
    (queue.post entry).entries = queue.entries ++ [entry] := by
  simp [post, offer?_of_lt h]

theorem entries_post_of_le {queue : Queue α} {entry : α}
    (h : queue.limit ≤ queue.entries.length) :
    (queue.post entry).entries = queue.entries.tail ++ [entry] := by
  simp [post, offer?_eq_none.mpr h]

/-- A queue that has room for something never holds more than there is room for. -/
theorem length_entries_post_le {queue : Queue α} {entry : α} (pos : 0 < queue.limit)
    (h : queue.entries.length ≤ queue.limit) :
    (queue.post entry).entries.length ≤ queue.limit := by
  by_cases room : queue.entries.length < queue.limit
  · simp [entries_post_of_lt room]
    omega
  · simp [entries_post_of_le (Nat.le_of_not_lt room)]
    omega

end Queue

/-! ### Posting, one step at a time -/

/-- Where the posting of an entry stands. -/
inductive Posting (α : Type)
  /-- The entry is about to be offered. -/
  | offering (entry : α)
  /-- There was no room, and the oldest entry is about to be dropped. -/
  | evicting (entry : α)
  /-- The entry is in the queue. -/
  | posted
  deriving DecidableEq, Repr

namespace Posting

variable {α : Type}

/-- Does the next step. -/
def step (queue : Queue α) : Posting α → Queue α × Posting α
  | offering entry =>
    match queue.offer? entry with
    | some queue => (queue, posted)
    | none => (queue, evicting entry)
  | evicting entry => (queue.dropOldest, offering entry)
  | posted => (queue, posted)

/-- **Three steps in a row post the entry.** -/
theorem step_step_step {queue : Queue α} {entry : α} (pos : 0 < queue.limit)
    (h : queue.entries.length ≤ queue.limit) :
    (let (queue, posting) := step queue (offering entry)
      let (queue, posting) := step queue posting
      step queue posting) = (queue.post entry, posted) := by
  by_cases room : queue.entries.length < queue.limit
  · simp [step, Queue.post, Queue.offer?_of_lt room]
  · have full : queue.offer? entry = none := Queue.offer?_eq_none.mpr (Nat.le_of_not_lt room)
    have freed : queue.dropOldest.entries.length < queue.dropOldest.limit := by
      simp [Queue.dropOldest]
      omega
    simp [step, Queue.post, full, Queue.offer?_of_lt freed]
    simp [Queue.dropOldest]

end Posting

end StripChart
