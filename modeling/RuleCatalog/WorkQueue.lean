/-! # Work queues

A queue of keys that wait to be worked on. A key is queued once however often it is added, and a
key that is added while a worker has it is queued again when the worker is done with it. Delayed
adds wait for their moment; a failed key is added again with delays that double.
Main statements: `mem_dirty_add`, that an add is never lost on an open queue, and what `done` does
to the queue. -/
namespace RuleCatalog

/-- An add that is due at a moment. -/
structure DelayedAdd (κ : Type) where
  due : Nat
  key : κ
  deriving DecidableEq, Repr

structure WorkQueue (κ : Type) where
  queued : List κ
  /-- The keys that were added and not handed out since. -/
  dirty : List κ
  /-- The keys that workers have. -/
  processing : List κ
  /-- The keys whose delayed adds are waiting. -/
  waiting : List κ
  /-- The delayed adds, the earliest first. -/
  delayed : List (DelayedAdd κ)
  failures : List (κ × Nat)
  isClosed : Bool
  /-- Whether there is a clock for delayed adds; without one they happen at once. -/
  hasClock : Bool
  backoffMin : Nat
  backoffMax : Nat
  deriving DecidableEq, Repr

/-- What a worker gets that asks for a key. -/
inductive Handout (κ : Type) where
  | key (k : κ)
  | nothing
  | closed
  deriving DecidableEq, Repr

namespace WorkQueue
variable {κ : Type} [DecidableEq κ]

/-- A queue without keys. The longest delay is never shorter than the first one. -/
def empty (hasClock : Bool) (backoffMin backoffMax : Nat) : WorkQueue κ :=
  ⟨[], [], [], [], [], [], false, hasClock, backoffMin, max backoffMax backoffMin⟩

/-- Queues a key, unless it is queued already; one that a worker has is marked only. -/
def add (q : WorkQueue κ) (k : κ) : WorkQueue κ :=
  if q.isClosed || q.dirty.contains k then q
  else if q.processing.contains k then { q with dirty := k :: q.dirty }
  else { q with dirty := k :: q.dirty, queued := q.queued ++ [k] }

/-- Puts a delayed add at its place, after those that are due at the same moment. -/
def schedule (d : DelayedAdd κ) : List (DelayedAdd κ) → List (DelayedAdd κ)
  | [] => [d]
  | e :: es => if e.due ≤ d.due then e :: schedule d es else d :: e :: es

/-- Queues a key after a delay. Further delayed adds of the key are absorbed while it waits. A caller
with a clock of its own would lend it to the timer; here there is the clock of the queue only. -/
def addAfter (q : WorkQueue κ) (now : Nat) (k : κ) (delay : Nat) : WorkQueue κ :=
  if delay = 0 then q.add k
  else if q.isClosed || q.waiting.contains k then q
  else if q.hasClock then
    { q with waiting := k :: q.waiting, delayed := schedule ⟨now + delay, k⟩ q.delayed }
  else q.add k

/-- How often a key has failed since it was last forgotten. -/
def failuresOf (q : WorkQueue κ) (k : κ) : Nat := (q.failures.lookup k).getD 0

/-- The most failures that are counted. -/
def mostFailures : Nat := 2 ^ 32 - 1

/-- The delay after a number of failures: it doubles with each of them, and up to a tenth of it is
added so that keys do not come back together. -/
def backoff (q : WorkQueue κ) (failures jitter : Nat) : Nat :=
  let base := min (q.backoffMin * Nat.pow 2 (min (failures - 1) 31)) q.backoffMax
  min (base + min jitter (base / 10)) q.backoffMax

/-- Counts a failure of a key. -/
def fail (q : WorkQueue κ) (k : κ) : WorkQueue κ :=
  { q with
    failures := (k, min (q.failuresOf k + 1) mostFailures) :: q.failures.filter (·.1 != k) }

/-- Counts a failure of a key and queues it after the delay that is due. -/
def addRateLimited (q : WorkQueue κ) (now : Nat) (k : κ) (jitter : Nat) : Nat × WorkQueue κ :=
  let q := q.fail k
  let delay := q.backoff (q.failuresOf k) jitter
  (delay, q.addAfter now k delay)

/-- Forgets the failures of a key. -/
def forget (q : WorkQueue κ) (k : κ) : WorkQueue κ :=
  { q with failures := q.failures.filter (·.1 != k) }

/-- Hands out the first key. Whoever asks brings a clock along. -/
def take (q : WorkQueue κ) : Handout κ × WorkQueue κ :=
  let q := { q with hasClock := true }
  if q.isClosed then (.closed, q)
  else match q.queued with
    | [] => (.nothing, q)
    | k :: ks =>
      (.key k, { q with
        queued := ks, dirty := q.dirty.filter (· != k), processing := q.processing.insert k })

/-- Takes a key back from a worker; one that was added in the meantime is queued again. -/
def done (q : WorkQueue κ) (k : κ) : WorkQueue κ :=
  let q := { q with processing := q.processing.filter (· != k) }
  if q.dirty.contains k && !q.isClosed then { q with queued := q.queued ++ [k] } else q

/-- Closes the queue: from now on it hands out nothing and takes nothing. -/
def close (q : WorkQueue κ) : WorkQueue κ := { q with isClosed := true }

/-- Carries out a delayed add that is due. -/
def fire (q : WorkQueue κ) (k : κ) : WorkQueue κ :=
  { q with waiting := q.waiting.filter (· != k) }.add k

/-- Carries out the delayed adds that are due at a moment, the earliest first. -/
def fireDue (q : WorkQueue κ) (now : Nat) : WorkQueue κ :=
  (q.delayed.takeWhile (·.due ≤ now)).foldl (fun q d => q.fire d.key)
    { q with delayed := q.delayed.dropWhile (·.due ≤ now) }

/-- When the next delayed add is due. -/
def nextDue? (q : WorkQueue κ) : Option Nat := q.delayed.head?.map (·.due)

theorem mem_dirty_add {q : WorkQueue κ} (h : q.isClosed = false) (k : κ) :
    k ∈ (q.add k).dirty := by
  unfold add
  by_cases hd : k ∈ q.dirty <;> by_cases hp : k ∈ q.processing <;> simp [h, hd, hp]

theorem dirty_subset_add (q : WorkQueue κ) (k : κ) : q.dirty ⊆ (q.add k).dirty := by
  unfold add
  split
  · exact fun _ h => h
  · split <;> exact fun _ h => List.mem_cons_of_mem _ h

theorem mem_queued_done {q : WorkQueue κ} (h : q.isClosed = false) {k : κ} (hk : k ∈ q.dirty) :
    k ∈ (q.done k).queued := by
  simp [done, h, hk]

omit [DecidableEq κ] in
theorem schedule_perm (d : DelayedAdd κ) (es : List (DelayedAdd κ)) :
    (schedule d es).Perm (d :: es) := by
  induction es with
  | nil => exact .refl _
  | cons e es ih =>
    unfold schedule
    split
    · exact (ih.cons e).trans (.swap d e es)
    · exact .refl _

end WorkQueue

end RuleCatalog
