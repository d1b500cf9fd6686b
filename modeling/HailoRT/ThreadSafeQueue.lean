/-
# The single-producer single-consumer queue

`SpscQueue` (`thread_safe_queue.hpp`, lines 113-375) wraps a lock-free
`ReaderWriterQueue` in two counting semaphores:

| semaphore             | starts at  | `enqueue`    | `dequeue`    |
| `items_enqueued_sema` | `0`        | signals      | waits on it  |
| `items_dequeued_sema` | `max_size` | waits on it  | signals      |

Between its wait and its signal each call does two more steps: the
`try_enqueue` or `try_dequeue` of the inner queue, whose result only an
`assert` checks, and the update of `m_enqueues_count` under the callback mutex,
which runs the "can't enqueue" callback when the count reaches `m_size` and the
"can enqueue" callback when it leaves it.  One producer and one consumer run
these four steps each, interleaved in any order; `step` is one of them and
`run` a sequence of them.

The interleavings keep a handful of linear equations between the semaphores,
the inner queue and the two program counters (`Inv`).  From them:

* neither `assert` ever fires: `try_enqueue` always finds room and
  `try_dequeue` always finds an item, and each step is a step of a bounded FIFO
  queue of `max_size` items or leaves it alone (`step_refines_bounded_fifo`);
* what `dequeue` returns is, in order, what `enqueue` put in, none lost,
  repeated or made up (`received_append_eq_sent`);
* when neither thread is inside a call, `m_enqueues_count` and the consumer's
  semaphore count the items held, and the producer's the room left
  (`quiescent_counts`);
* once both callbacks are set, the "can't enqueue" and "can enqueue"
  callbacks alternate, the one that runs last, or the count when none has,
  saying whether the count is at `m_size` (`callbacks_alternate`);
* a wait times out only when the queue is full, or empty, up to the one item
  the other thread is moving (`enqueue_timeout_full`, `dequeue_timeout_empty`);
* `clear`, with no enqueue in between, hands out every item and empties the
  queue (`clear_empties`).

`create` casts `max_size` to `uint32_t` for the second semaphore only: a queue
of `2 ^ 32` items is created, and never takes one (`create_multiple_of_two_pow_32`).

The semaphores, the shutdown event and `ReaderWriterQueue` are not among the
sources.  A semaphore is its count: a wait takes one from a positive count,
times out at zero, and ends on the shutdown event when that is signalled and
not ignored; a signal adds one.  `ReaderWriterQueue(max_size)` holds at least
`max_size` items; the model lets `try_enqueue` fail from `max_size` on, so what
is proved of it holds whatever the real capacity.  An `assert` does nothing in
a release build: after a failed `try_enqueue` the call goes on and the item is
dropped, after a failed `try_dequeue` it returns the default value.
-/

import HailoRT.Common

namespace HailoRT

/-- The statuses a wait on a semaphore or on `WaitOrShutdown` returns that
`SpscQueue` tells apart. -/
inductive WaitResult
  | HAILO_SUCCESS
  | HAILO_TIMEOUT
  | HAILO_SHUTDOWN_EVENT_SIGNALED
  deriving DecidableEq, Repr

/-- A wait on a semaphore at `count`, or on it and the shutdown event: the
count after it, when the wait can end with `result`. -/
def sema_wait (count : Nat) (shutdown_event ignore_shutdown_event : Bool) : WaitResult → Option Nat
  | .HAILO_SUCCESS => if 0 < count then some (count - 1) else none
  | .HAILO_TIMEOUT => if count = 0 then some 0 else none
  | .HAILO_SHUTDOWN_EVENT_SIGNALED => if shutdown_event && !ignore_shutdown_event then some count else none

/-- The state of an `SpscQueue`: the inner queue, front first, the counts of
its two semaphores, and the callback bookkeeping. -/
structure SpscQueue (α : Type) where
  m_inner : List α
  m_items_enqueued_sema : Nat
  m_items_dequeued_sema : Nat
  m_size : Nat
  m_enqueues_count : Nat
  has_cant_enqueue_callback : Bool
  has_can_enqueue_callback : Bool
  deriving DecidableEq, Repr

namespace SpscQueue

variable {α : Type}

/-- `SpscQueue::create`: the semaphores at `0` and `static_cast<uint32_t>(max_size)`. -/
def create (max_size : Nat) : Except HailoStatus (SpscQueue α) := do
  CHECK (max_size ≠ 0) .HAILO_INVALID_ARGUMENT
  return ⟨[], 0, max_size % 2 ^ 32, max_size, 0, false, false⟩

/-- `m_inner.try_enqueue`: the item at the back, if there is room. -/
def try_enqueue (q : SpscQueue α) (x : α) : Bool × SpscQueue α :=
  if q.m_inner.length < q.m_size then (true, { q with m_inner := q.m_inner ++ [x] }) else (false, q)

/-- `m_inner.try_dequeue`: the front item, if there is one. -/
def try_dequeue (q : SpscQueue α) : Option α × SpscQueue α :=
  match q.m_inner with
  | [] => (none, q)
  | x :: rest => (some x, { q with m_inner := rest })

/-- A `try_enqueue` changes only the inner queue. -/
@[simp] theorem try_enqueue_snd (q : SpscQueue α) (x : α) : (q.try_enqueue x).2 =
    { q with m_inner := if q.m_inner.length < q.m_size then q.m_inner ++ [x] else q.m_inner } := by
  unfold try_enqueue; split <;> rfl

/-- A `try_dequeue` changes only the inner queue. -/
@[simp] theorem try_dequeue_snd (q : SpscQueue α) : q.try_dequeue.2 = { q with m_inner := q.m_inner.tail } := by
  obtain ⟨_ | _, _⟩ := q <;> rfl

/-- `size_approx`. -/
def size_approx (q : SpscQueue α) : Nat := q.m_inner.length

/-! ### One producer and one consumer -/

/-- Where the producer is in an `enqueue` call. -/
inductive Producer (α : Type)
  | idle
  /-- Past the wait on `m_items_dequeued_sema`, with the item to enqueue. -/
  | waited (x : α)
  /-- Past `try_enqueue`. -/
  | enqueued
  /-- Past the callback block, before signalling `m_items_enqueued_sema`. -/
  | counted
  deriving DecidableEq, Repr

/-- Where the consumer is in a `dequeue` call. -/
inductive Consumer (α : Type)
  | idle
  /-- Past the wait on `m_items_enqueued_sema`. -/
  | waited
  /-- Past `try_dequeue`, with the result. -/
  | dequeued (result : α)
  /-- Past the callback block, before signalling `m_items_dequeued_sema`. -/
  | counted (result : α)
  deriving DecidableEq, Repr

/-- The two callbacks. -/
inductive Callback
  | cant_enqueue
  | can_enqueue
  deriving DecidableEq, Repr

/-- A queue with its two threads and the shutdown event, and what has passed
through: the items `enqueue` handed to `try_enqueue`, the results `dequeue`
returned, and the callbacks run, each in order. -/
structure System (α : Type) where
  queue : SpscQueue α
  shutdown_event : Bool
  producer : Producer α
  consumer : Consumer α
  sent : List α
  received : List α
  callbacks : List Callback
  deriving DecidableEq, Repr

/-- The atomic steps: the four of `enqueue`, the four of `dequeue`, and what
other threads do to the shutdown event and the callbacks.  A wait names the
result it ends with. -/
inductive Action (α : Type)
  | enqueue_wait (x : α) (ignore_shutdown_event : Bool) (result : WaitResult)
  | enqueue_try
  | enqueue_count
  | enqueue_signal
  | dequeue_wait (ignore_shutdown_event : Bool) (result : WaitResult)
  | dequeue_try
  | dequeue_count
  | dequeue_signal
  | set_shutdown_event (signaled : Bool)
  | set_on_cant_enqueue_callback (set : Bool)
  | set_on_can_enqueue_callback (set : Bool)
  deriving DecidableEq, Repr

/-- One step, if the thread it belongs to is where it can take it.  A failed
wait returns at once; `m_enqueues_count` is a `std::atomic_uint32_t`. -/
def step [Inhabited α] (s : System α) : Action α → Option (System α)
  | .enqueue_wait x ignore_shutdown_event result =>
    match s.producer with
    | .idle =>
      (sema_wait s.queue.m_items_dequeued_sema s.shutdown_event ignore_shutdown_event result).map
        fun count => { s with
          queue := { s.queue with m_items_dequeued_sema := count }
          producer := if result = .HAILO_SUCCESS then .waited x else .idle }
    | _ => none
  | .enqueue_try =>
    match s.producer with
    | .waited x => some { s with
        queue := (s.queue.try_enqueue x).2, producer := .enqueued, sent := s.sent ++ [x] }
    | _ => none
  | .enqueue_count =>
    match s.producer with
    | .enqueued =>
      let count := (s.queue.m_enqueues_count + 1) % 2 ^ 32
      some { s with
        queue := { s.queue with m_enqueues_count := count }
        producer := .counted
        callbacks := if s.queue.m_size = count ∧ s.queue.has_cant_enqueue_callback then
          s.callbacks ++ [.cant_enqueue] else s.callbacks }
    | _ => none
  | .enqueue_signal =>
    match s.producer with
    | .counted => some { s with
        queue := { s.queue with m_items_enqueued_sema := s.queue.m_items_enqueued_sema + 1 }
        producer := .idle }
    | _ => none
  | .dequeue_wait ignore_shutdown_event result =>
    match s.consumer with
    | .idle =>
      (sema_wait s.queue.m_items_enqueued_sema s.shutdown_event ignore_shutdown_event result).map
        fun count => { s with
          queue := { s.queue with m_items_enqueued_sema := count }
          consumer := if result = .HAILO_SUCCESS then .waited else .idle }
    | _ => none
  | .dequeue_try =>
    match s.consumer with
    | .waited => some { s with
        queue := s.queue.try_dequeue.2, consumer := .dequeued (s.queue.try_dequeue.1.getD default) }
    | _ => none
  | .dequeue_count =>
    match s.consumer with
    | .dequeued result => some { s with
        queue := { s.queue with m_enqueues_count := (2 ^ 32 - 1 + s.queue.m_enqueues_count) % 2 ^ 32 }
        consumer := .counted result
        callbacks := if s.queue.m_size = s.queue.m_enqueues_count ∧ s.queue.has_can_enqueue_callback then
          s.callbacks ++ [.can_enqueue] else s.callbacks }
    | _ => none
  | .dequeue_signal =>
    match s.consumer with
    | .counted result => some { s with
        queue := { s.queue with m_items_dequeued_sema := s.queue.m_items_dequeued_sema + 1 }
        consumer := .idle, received := s.received ++ [result] }
    | _ => none
  | .set_shutdown_event signaled => some { s with shutdown_event := signaled }
  | .set_on_cant_enqueue_callback set => some { s with queue := { s.queue with has_cant_enqueue_callback := set } }
  | .set_on_can_enqueue_callback set => some { s with queue := { s.queue with has_can_enqueue_callback := set } }

/-- A sequence of steps. -/
def run [Inhabited α] (s : System α) : List (Action α) → Option (System α)
  | [] => some s
  | a :: as => (step s a).bind fun s' => run s' as

/-- A fresh queue, both threads idle. -/
def System.init (queue : SpscQueue α) (shutdown_event : Bool) : System α :=
  ⟨queue, shutdown_event, .idle, .idle, [], [], []⟩

/-- The states one producer and one consumer reach from a queue `create`
returned. -/
def Reachable [Inhabited α] (max_size : Nat) (s : System α) : Prop :=
  ∃ queue shutdown_event actions, create max_size = .ok queue ∧
    run (System.init queue shutdown_event) actions = some s

/-- The four steps of one `enqueue(x)` whose wait succeeds, one after another. -/
def enqueue_steps (x : α) : List (Action α) :=
  [.enqueue_wait x false .HAILO_SUCCESS, .enqueue_try, .enqueue_count, .enqueue_signal]

/-- The four steps of one `dequeue` whose wait succeeds, one after another. -/
def dequeue_steps : List (Action α) :=
  [.dequeue_wait true .HAILO_SUCCESS, .dequeue_try, .dequeue_count, .dequeue_signal]

/-- `clear`, run by the consumer with no `enqueue` in between: `dequeue(0 ms,
true)` until its wait times out.  A wait of `0 ms` that ignores the shutdown
event succeeds on a positive count and times out at zero.  `none` when `fuel`
runs out. -/
def clear [Inhabited α] (s : System α) : (fuel : Nat) → Option (System α)
  | 0 => none
  | fuel + 1 =>
    if 0 < s.queue.m_items_enqueued_sema then (run s dequeue_steps).bind fun s' => clear s' fuel
    else step s (.dequeue_wait true .HAILO_TIMEOUT)

/-- Whether an action sets one of the two callbacks. -/
def Action.sets_callback : Action α → Bool
  | .set_on_cant_enqueue_callback _ | .set_on_can_enqueue_callback _ => true
  | _ => false

/-! ### What the semaphores count -/

/-- The slot the producer has taken from `m_items_dequeued_sema` and not yet
filled. -/
def Producer.reserved : Producer α → Nat
  | .waited _ => 1
  | _ => 0

/-- The item the producer has put in and not yet signalled. -/
def Producer.pushed : Producer α → Nat
  | .enqueued | .counted => 1
  | _ => 0

/-- The item the producer has put in and not yet counted. -/
def Producer.uncounted : Producer α → Nat
  | .enqueued => 1
  | _ => 0

/-- The item the consumer has claimed from `m_items_enqueued_sema` and not yet
taken out. -/
def Consumer.claimed : Consumer α → Nat
  | .waited => 1
  | _ => 0

/-- The item the consumer has taken out and not yet returned. -/
def Consumer.held : Consumer α → List α
  | .dequeued x | .counted x => [x]
  | _ => []

/-- The item the consumer has taken out and not yet counted. -/
def Consumer.uncounted : Consumer α → Nat
  | .dequeued _ => 1
  | _ => 0

/-- What every interleaving keeps.  `m_items_dequeued_sema` counts the free
slots, of the `uint32_t` cast of `m_size`; `m_items_enqueued_sema` counts the
items ready to take; `m_enqueues_count` counts the items in the queue, as the
callback blocks see them; and the results returned, the item in the
consumer's hand and the queue are, in order, the items sent. -/
structure Inv (s : System α) : Prop where
  slots : s.queue.m_items_dequeued_sema + s.queue.m_inner.length + s.producer.reserved +
    s.consumer.held.length = s.queue.m_size % 2 ^ 32
  items : s.queue.m_inner.length = s.queue.m_items_enqueued_sema + s.consumer.claimed + s.producer.pushed
  count : s.queue.m_enqueues_count + s.producer.uncounted = s.queue.m_inner.length + s.consumer.uncounted
  fifo : s.received ++ s.consumer.held ++ s.queue.m_inner = s.sent

/-- Past its wait, the producer's `try_enqueue` finds room. -/
theorem Inv.length_lt_of_waited {s : System α} {x : α} (hi : Inv s) (hp : s.producer = .waited x) :
    s.queue.m_inner.length < s.queue.m_size % 2 ^ 32 := by
  have := hi.slots
  rw [hp, Producer.reserved] at this
  omega

/-- Past its wait, the consumer's `try_dequeue` finds an item. -/
theorem Inv.ne_nil_of_waited {s : System α} (hi : Inv s) (hc : s.consumer = .waited) : s.queue.m_inner ≠ [] := by
  have := hi.items
  rw [hc, Consumer.claimed] at this
  exact List.ne_nil_of_length_pos (by omega)

/-- A wait takes one from a count when it succeeds and leaves it otherwise. -/
theorem sema_wait_eq_some {count count' : Nat} {shutdown_event ignore_shutdown_event : Bool}
    {result : WaitResult} (h : sema_wait count shutdown_event ignore_shutdown_event result = some count') :
    result = .HAILO_SUCCESS ∧ count' + 1 = count ∨ result ≠ .HAILO_SUCCESS ∧ count' = count := by
  cases result <;> simp only [sema_wait] at h <;> split at h <;> cases h
  · exact .inl ⟨rfl, by omega⟩
  · exact .inr ⟨nofun, by omega⟩
  · exact .inr ⟨nofun, rfl⟩

theorem Consumer.uncounted_le_held (c : Consumer α) : c.uncounted ≤ c.held.length := by
  cases c <;> simp [Consumer.uncounted, Consumer.held]

theorem Producer.uncounted_le_pushed (p : Producer α) : p.uncounted ≤ p.pushed := by
  cases p <;> simp [Producer.uncounted, Producer.pushed]

/-- Between `try_enqueue` and the callback block, the count is one short of the
items and stays below the capacity, so the increment does not wrap. -/
theorem Inv.count_succ_le_of_enqueued {s : System α} (hi : Inv s) (hp : s.producer = .enqueued) :
    s.queue.m_enqueues_count + 1 ≤ s.queue.m_size % 2 ^ 32 := by
  have := hi.slots
  have := hi.count
  have := s.consumer.uncounted_le_held
  simp only [hp, Producer.reserved, Producer.uncounted] at *
  omega

/-- Between `try_dequeue` and the callback block, the count is positive, so the
decrement does not wrap. -/
theorem Inv.count_pos_of_dequeued {s : System α} {x : α} (hi : Inv s) (hc : s.consumer = .dequeued x) :
    0 < s.queue.m_enqueues_count ∧ s.queue.m_enqueues_count ≤ s.queue.m_size % 2 ^ 32 := by
  have := hi.slots
  have := hi.items
  have := hi.count
  have := s.producer.uncounted_le_pushed
  simp only [hc, Consumer.held, Consumer.claimed, Consumer.uncounted, List.length_singleton] at *
  omega

/-- The invariant with no call in progress. -/
theorem Inv.quiescent {s : System α} (hi : Inv s) (hp : s.producer = .idle) (hc : s.consumer = .idle) :
    s.queue.m_items_enqueued_sema = s.queue.size_approx ∧ s.queue.m_enqueues_count = s.queue.size_approx ∧
      s.queue.m_items_dequeued_sema + s.queue.size_approx = s.queue.m_size % 2 ^ 32 := by
  obtain ⟨slots, items, count, -⟩ := hi
  simp only [hp, hc, Producer.reserved, Producer.pushed, Producer.uncounted, Consumer.held, Consumer.claimed,
    Consumer.uncounted, List.length_nil] at slots items count
  unfold size_approx
  omega

theorem try_dequeue_of_eq_cons {q : SpscQueue α} {x : α} {rest : List α} (h : q.m_inner = x :: rest) :
    q.try_dequeue = (some x, { q with m_inner := rest }) := by
  simp only [try_dequeue, h]

/-- The decrement of a nonzero 32-bit count does not wrap. -/
theorem decrement_mod_two_pow_32 (c : Nat) (h0 : 0 < c) (h : c ≤ 2 ^ 32) :
    (2 ^ 32 - 1 + c) % 2 ^ 32 = c - 1 := by
  rw [show 2 ^ 32 - 1 + c = c - 1 + 2 ^ 32 by omega, Nat.add_mod_right, Nat.mod_eq_of_lt (by omega)]

section
variable [Inhabited α] {s s' : System α}

/-- What a step leaves alone: `m_size` always; the items sent, unless it is a
`try_enqueue`; the inner queue, unless it is a `try_enqueue` or a `try_dequeue`; the count and the callbacks run, unless it is
one of the two callback blocks; and the callbacks, unless it sets one. -/
theorem step_frame {a : Action α} (h : step s a = some s') :
    s'.queue.m_size = s.queue.m_size ∧
    (a ≠ .enqueue_try → s'.sent = s.sent) ∧
    (a ≠ .enqueue_try → a ≠ .dequeue_try → s'.queue.m_inner = s.queue.m_inner) ∧
    (a ≠ .enqueue_count → a ≠ .dequeue_count →
      s'.queue.m_enqueues_count = s.queue.m_enqueues_count ∧ s'.callbacks = s.callbacks) ∧
    (a.sets_callback = false → s'.queue.has_cant_enqueue_callback = s.queue.has_cant_enqueue_callback ∧
      s'.queue.has_can_enqueue_callback = s.queue.has_can_enqueue_callback) := by
  cases a <;> simp only [SpscQueue.step] at h <;> (try split at h) <;>
    simp only [reduceCtorEq, Option.map_eq_some', Option.some.injEq] at h <;>
    (try obtain ⟨_, _, h⟩ := h) <;> (try subst h) <;> simp [Action.sets_callback]

/-- **Invariant.**  Every step keeps `Inv`. -/
theorem Inv.step {a : Action α} (hi : Inv s) (h : step s a = some s') : Inv s' := by
  have hcap := Nat.mod_le s.queue.m_size (2 ^ 32)
  cases a with
  | enqueue_wait x ignore_shutdown_event result =>
    cases hp : s.producer <;> simp only [SpscQueue.step, hp, reduceCtorEq, Option.map_eq_some'] at h
    obtain ⟨c, hc, rfl⟩ := h
    obtain ⟨slots, items, count, fifo⟩ := hi
    simp only [hp, Producer.reserved] at slots items count
    rcases sema_wait_eq_some hc with ⟨rfl, hc⟩ | ⟨hr, rfl⟩
    · exact ⟨by simp only [Producer.reserved, if_pos]; omega, items, count, fifo⟩
    · simp only [if_neg hr]
      exact ⟨slots, items, count, fifo⟩
  | enqueue_try =>
    cases hp : s.producer <;> simp only [SpscQueue.step, hp, reduceCtorEq, Option.some.injEq] at h
    subst h
    rename_i x
    have hlt := hi.length_lt_of_waited hp
    obtain ⟨slots, items, count, fifo⟩ := hi
    simp only [hp, Producer.reserved, Producer.pushed, Producer.uncounted] at slots items count
    simp only [try_enqueue_snd, if_pos (Nat.lt_of_lt_of_le hlt hcap)]
    refine ⟨?_, ?_, ?_, by simp only [← List.append_assoc, fifo]⟩ <;>
      simp only [List.length_append, List.length_singleton, Producer.reserved, Producer.pushed,
        Producer.uncounted] <;> omega
  | enqueue_count =>
    cases hp : s.producer <;> simp only [SpscQueue.step, hp, reduceCtorEq, Option.some.injEq] at h
    subst h
    have hle := hi.count_succ_le_of_enqueued hp
    obtain ⟨slots, items, count, fifo⟩ := hi
    simp only [hp, Producer.reserved, Producer.pushed, Producer.uncounted] at slots items count
    refine ⟨slots, items, ?_, fifo⟩
    simp only [Producer.uncounted]
    rw [Nat.mod_eq_of_lt (by omega)]
    omega
  | enqueue_signal =>
    cases hp : s.producer <;> simp only [SpscQueue.step, hp, reduceCtorEq, Option.some.injEq] at h
    subst h
    obtain ⟨slots, items, count, fifo⟩ := hi
    simp only [hp, Producer.reserved, Producer.pushed, Producer.uncounted] at slots items count
    exact ⟨slots, by simp only [Producer.pushed]; omega, count, fifo⟩
  | dequeue_wait ignore_shutdown_event result =>
    cases hc : s.consumer <;> simp only [SpscQueue.step, hc, reduceCtorEq, Option.map_eq_some'] at h
    obtain ⟨c, hc', rfl⟩ := h
    obtain ⟨slots, items, count, fifo⟩ := hi
    simp only [hc, Consumer.claimed] at slots items count fifo
    rcases sema_wait_eq_some hc' with ⟨rfl, hc'⟩ | ⟨hr, rfl⟩
    · exact ⟨slots, by simp only [Consumer.claimed, if_pos]; omega, count, fifo⟩
    · simp only [if_neg hr]
      exact ⟨slots, items, count, fifo⟩
  | dequeue_try =>
    cases hc : s.consumer <;> simp only [SpscQueue.step, hc, reduceCtorEq, Option.some.injEq] at h
    subst h
    obtain ⟨y, rest, hyr⟩ := List.exists_cons_of_ne_nil (hi.ne_nil_of_waited hc)
    obtain ⟨slots, items, count, fifo⟩ := hi
    simp only [hc, hyr, Consumer.held, Consumer.claimed, Consumer.uncounted, List.length_nil,
      List.length_cons] at slots items count fifo
    simp only [try_dequeue_snd, try_dequeue_of_eq_cons hyr, hyr, List.tail_cons, Option.getD_some]
    refine ⟨?_, ?_, ?_, by simpa using fifo⟩ <;>
      simp only [Consumer.held, Consumer.claimed, Consumer.uncounted, List.length_singleton] <;> omega
  | dequeue_count =>
    cases hc : s.consumer <;> simp only [SpscQueue.step, hc, reduceCtorEq, Option.some.injEq] at h
    subst h
    obtain ⟨hpos, hle⟩ := hi.count_pos_of_dequeued hc
    obtain ⟨slots, items, count, fifo⟩ := hi
    simp only [hc, Consumer.held, Consumer.claimed, Consumer.uncounted] at slots items count fifo
    refine ⟨slots, items, ?_, fifo⟩
    simp only [Consumer.uncounted]
    rw [decrement_mod_two_pow_32 _ hpos (by omega)]
    omega
  | dequeue_signal =>
    cases hc : s.consumer <;> simp only [SpscQueue.step, hc, reduceCtorEq, Option.some.injEq] at h
    subst h
    obtain ⟨slots, items, count, fifo⟩ := hi
    simp only [hc, Consumer.held, Consumer.claimed, Consumer.uncounted, List.length_singleton] at slots items count fifo
    exact ⟨by simp only [Consumer.held, List.length_nil]; omega, items, count, by simpa using fifo⟩
  | set_shutdown_event | set_on_cant_enqueue_callback | set_on_can_enqueue_callback =>
    cases h
    exact ⟨hi.1, hi.2, hi.3, hi.4⟩

/-- What every step of a kind keeps, every run of such steps keeps. -/
theorem run_induction_of (Q : Action α → Prop) (P : System α → Prop)
    (hstep : ∀ {t t' : System α} {a : Action α}, Q a → P t → step t a = some t' → P t')
    {as : List (Action α)} (has : ∀ a ∈ as, Q a) (hs : P s) (h : run s as = some s') : P s' := by
  induction as generalizing s with
  | nil => exact Option.some.inj h ▸ hs
  | cons a as ih =>
    obtain ⟨t, ht, h⟩ := Option.bind_eq_some.1 h
    exact ih (fun b hb => has b (List.mem_cons_of_mem a hb)) (hstep (has a (List.mem_cons_self a as)) hs ht) h

/-- What every step keeps, every run keeps. -/
theorem run_induction (P : System α → Prop) (hstep : ∀ {t t' : System α} {a : Action α}, P t → step t a = some t' → P t')
    {as : List (Action α)} (hs : P s) (h : run s as = some s') : P s' :=
  run_induction_of (fun _ => True) P (fun _ => hstep) (fun _ _ => trivial) hs h

theorem Inv.run {as : List (Action α)} (hi : Inv s) (h : run s as = some s') : Inv s' :=
  run_induction Inv (fun hi h => hi.step h) hi h

theorem run_append {as bs : List (Action α)} :
    run s (as ++ bs) = (run s as).bind fun t => run t bs := by
  induction as generalizing s with
  | nil => rfl
  | cons a as ih =>
    rw [List.cons_append, SpscQueue.run, SpscQueue.run, Option.bind_assoc]
    simp only [ih]

theorem Reachable.run {max_size : Nat} {as : List (Action α)} (hr : Reachable max_size s)
    (h : run s as = some s') : Reachable max_size s' := by
  obtain ⟨q, sh, bs, hq, hb⟩ := hr
  exact ⟨q, sh, bs ++ as, hq, by rw [run_append, hb]; exact h⟩

end

theorem create_eq_ok {max_size : Nat} {q : SpscQueue α} :
    create max_size = .ok q ↔ max_size ≠ 0 ∧ ⟨[], 0, max_size % 2 ^ 32, max_size, 0, false, false⟩ = q := by
  simp only [create, CHECK_bind_eq_ok, Except.pure_eq_ok, Except.ok.injEq]

theorem inv_init {max_size : Nat} {q : SpscQueue α} (h : create max_size = .ok q) (shutdown_event : Bool) :
    Inv (System.init q shutdown_event) := by
  obtain ⟨-, rfl⟩ := create_eq_ok.1 h
  exact ⟨rfl, rfl, rfl, rfl⟩

theorem Reachable.inv [Inhabited α] {max_size : Nat} {s : System α} (hr : Reachable max_size s) : Inv s :=
  let ⟨_, shutdown_event, _, hq, h⟩ := hr
  (inv_init hq shutdown_event).run h

/-- `create` fixes `m_size` for good. -/
theorem Reachable.m_size [Inhabited α] {max_size : Nat} {s : System α} (hr : Reachable max_size s) :
    s.queue.m_size = max_size := by
  obtain ⟨q, shutdown_event, _, hq, h⟩ := hr
  obtain ⟨-, rfl⟩ := create_eq_ok.1 hq
  exact run_induction (fun t => t.queue.m_size = max_size) (fun ht h => (step_frame h).1.trans ht) rfl h

/-- A fresh queue of two items after one `enqueue` of `5`. -/
def one_enqueued : System Nat := ⟨⟨[5], 1, 1, 2, 1, false, false⟩, false, .idle, .idle, [5], [], []⟩

theorem reachable_one_enqueued : Reachable 2 one_enqueued := ⟨_, false, enqueue_steps 5, rfl, rfl⟩

/-! ### The queue it implements -/

/-- A FIFO queue that never holds more than `capacity` items: what an
`SpscQueue` is for. -/
structure BoundedFifo (α : Type) where
  items : List α
  capacity : Nat
  length_le : items.length ≤ capacity

namespace BoundedFifo

/-- Put `x` at the back, if there is room. -/
def push? (q : BoundedFifo α) (x : α) : Option (BoundedFifo α) :=
  if h : q.items.length < q.capacity then
    some ⟨q.items ++ [x], q.capacity, by rw [List.length_append, List.length_singleton]; exact h⟩
  else none

/-- Take the front item, if there is one. -/
def pop? : BoundedFifo α → Option (α × BoundedFifo α)
  | ⟨[], _, _⟩ => none
  | ⟨x :: items, capacity, h⟩ => some (x, ⟨items, capacity, Nat.le_of_succ_le h⟩)

end BoundedFifo

/-- The bounded queue a state stands for: the inner queue, in the capacity
`items_dequeued_sema` starts at. -/
def Abstracts (s : System α) (q : BoundedFifo α) : Prop :=
  q.items = s.queue.m_inner ∧ q.capacity = s.queue.m_size % 2 ^ 32

section
variable [Inhabited α] {s s' : System α} {max_size : Nat}

/-- **Refinement.**  From a reachable state every step is a step of the bounded
queue the state stands for: the producer's `try_enqueue` pushes its item and
never finds the queue full, the consumer's `try_dequeue` pops the front item and
never finds the queue empty, and every other step leaves the queue alone.  So
neither `assert` can fire. -/
theorem step_refines_bounded_fifo {a : Action α} {q : BoundedFifo α} (hr : Reachable max_size s)
    (hq : Abstracts s q) (h : step s a = some s') :
    ∃ q', Abstracts s' q' ∧
      (a = .enqueue_try → ∃ x, s.producer = .waited x ∧ q.push? x = some q') ∧
      (a = .dequeue_try → ∃ x, s'.consumer = .dequeued x ∧ q.pop? = some (x, q')) ∧
      (a ≠ .enqueue_try → a ≠ .dequeue_try → q' = q) := by
  have hi := hr.inv
  obtain ⟨hsize, -, hinner, -⟩ := step_frame h
  obtain ⟨items, capacity, hle⟩ := q
  obtain ⟨rfl, rfl⟩ := hq
  by_cases ha : a = .enqueue_try
  · subst ha
    cases hp : s.producer <;> simp only [SpscQueue.step, hp, reduceCtorEq, Option.some.injEq] at h
    subst h
    rename_i x
    have hlt := hi.length_lt_of_waited hp
    have hlt' : s.queue.m_inner.length < s.queue.m_size := Nat.lt_of_lt_of_le hlt (Nat.mod_le _ _)
    exact ⟨_, ⟨by simp only [try_enqueue_snd, if_pos hlt'], by rw [hsize]⟩, fun _ => ⟨x, rfl, dif_pos hlt⟩,
      nofun, fun h => absurd rfl h⟩
  by_cases hb : a = .dequeue_try
  · subst hb
    cases hc : s.consumer <;> simp only [SpscQueue.step, hc, reduceCtorEq, Option.some.injEq] at h
    subst h
    obtain ⟨y, rest, hyr⟩ := List.exists_cons_of_ne_nil (hi.ne_nil_of_waited hc)
    simp only [hyr] at hle ⊢
    refine ⟨⟨rest, _, Nat.le_of_succ_le hle⟩, ⟨by simp only [try_dequeue_snd, hyr, List.tail_cons], by rw [hsize]⟩,
      nofun, fun _ => ⟨y, ?_, rfl⟩, fun _ h => absurd rfl h⟩
    simp only [try_dequeue_of_eq_cons hyr, Option.getD_some]
  exact ⟨_, ⟨(hinner ha hb).symm, by rw [hsize]⟩, fun h => absurd h ha, fun h => absurd h hb, fun _ _ => rfl⟩

/-- The producer of `one_enqueued`, past its wait with `6`. -/
def one_waiting : System Nat := ⟨⟨[5], 1, 0, 2, 1, false, false⟩, false, .waited 6, .idle, [5], [], []⟩

/-- Its `try_enqueue` pushes `6` onto `[5]`. -/
theorem step_refines_bounded_fifo_push :
    Reachable 2 one_waiting ∧ Abstracts one_waiting ⟨[5], 2, by decide⟩ ∧
    step one_waiting .enqueue_try = some ⟨⟨[5, 6], 1, 0, 2, 1, false, false⟩, false, .enqueued, .idle, [5, 6], [], []⟩ ∧
    ∃ q', Abstracts ⟨⟨[5, 6], 1, 0, 2, 1, false, false⟩, false, .enqueued, .idle, [5, 6], [], []⟩ q' ∧
      ((Action.enqueue_try : Action Nat) = .enqueue_try →
        ∃ x, one_waiting.producer = .waited x ∧ (⟨[5], 2, by decide⟩ : BoundedFifo Nat).push? x = some q') ∧
      ((Action.enqueue_try : Action Nat) = .dequeue_try → ∃ x, (Consumer.idle : Consumer Nat) = .dequeued x ∧
        (⟨[5], 2, by decide⟩ : BoundedFifo Nat).pop? = some (x, q')) ∧
      ((Action.enqueue_try : Action Nat) ≠ .enqueue_try → (Action.enqueue_try : Action Nat) ≠ .dequeue_try →
        q' = ⟨[5], 2, by decide⟩) :=
  have hr : Reachable 2 one_waiting :=
    reachable_one_enqueued.run (show run one_enqueued [.enqueue_wait 6 false .HAILO_SUCCESS] = some one_waiting from rfl)
  ⟨hr, ⟨rfl, rfl⟩, rfl, step_refines_bounded_fifo hr ⟨rfl, rfl⟩ rfl⟩

end

/-! ### What every interleaving keeps -/

section
variable [Inhabited α] {s s' : System α} {max_size : Nat}

/-- **FIFO delivery.**  What `dequeue` has returned is, in order, a prefix of
what `enqueue` has put in: nothing is lost, repeated, reordered or made up.
With no `dequeue` in progress the rest is the inner queue. -/
theorem received_append_eq_sent (hr : Reachable max_size s) :
    s.received <+: s.sent ∧ (s.consumer = .idle → s.received ++ s.queue.m_inner = s.sent) := by
  have hf := hr.inv.fifo
  refine ⟨⟨_, by rw [← List.append_assoc]; exact hf⟩, fun hc => ?_⟩
  simpa only [hc, Consumer.held, List.append_nil] using hf

theorem received_append_eq_sent_one_enqueued :
    Reachable 2 one_enqueued ∧ one_enqueued.received <+: one_enqueued.sent ∧
      (one_enqueued.consumer = .idle → one_enqueued.received ++ one_enqueued.queue.m_inner = one_enqueued.sent) :=
  ⟨reachable_one_enqueued, received_append_eq_sent reachable_one_enqueued⟩

/-- With no call in progress, the two semaphores and `m_enqueues_count` all
agree with `size_approx`: the items ready to take, the items the callbacks have
counted, and the free slots of the `uint32_t` cast of `max_size`. -/
theorem quiescent_counts (hr : Reachable max_size s) (hp : s.producer = .idle) (hc : s.consumer = .idle) :
    s.queue.m_items_enqueued_sema = s.queue.size_approx ∧ s.queue.m_enqueues_count = s.queue.size_approx ∧
      s.queue.m_items_dequeued_sema + s.queue.size_approx = max_size % 2 ^ 32 :=
  hr.m_size ▸ hr.inv.quiescent hp hc

theorem quiescent_counts_one_enqueued :
    Reachable 2 one_enqueued ∧ one_enqueued.producer = .idle ∧ one_enqueued.consumer = .idle ∧
      one_enqueued.queue.m_items_enqueued_sema = one_enqueued.queue.size_approx ∧
      one_enqueued.queue.m_enqueues_count = one_enqueued.queue.size_approx ∧
      one_enqueued.queue.m_items_dequeued_sema + one_enqueued.queue.size_approx = 2 % 2 ^ 32 :=
  ⟨reachable_one_enqueued, rfl, rfl, quiescent_counts reachable_one_enqueued rfl rfl⟩

/-- `enqueue` times out only on a full queue: `max_size % 2 ^ 32` items, counting
the one a `dequeue` in progress has taken out and not yet given back as a free
slot. -/
theorem enqueue_timeout_full {x : α} {ignore_shutdown_event : Bool} (hr : Reachable max_size s)
    (h : step s (.enqueue_wait x ignore_shutdown_event .HAILO_TIMEOUT) = some s') :
    s.queue.size_approx + s.consumer.held.length = max_size % 2 ^ 32 := by
  have slots := hr.inv.slots
  rw [hr.m_size] at slots
  cases hp : s.producer <;> simp only [SpscQueue.step, hp, reduceCtorEq, Option.map_eq_some'] at h
  obtain ⟨c, hc, -⟩ := h
  simp only [sema_wait] at hc
  split at hc
  · simp only [hp, Producer.reserved] at slots
    unfold size_approx
    omega
  · cases hc

/-- A queue of one item, full. -/
def full_of_one : System Nat := ⟨⟨[5], 1, 0, 1, 1, false, false⟩, false, .idle, .idle, [5], [], []⟩

theorem enqueue_timeout_full_of_one :
    Reachable 1 full_of_one ∧ step full_of_one (.enqueue_wait 6 false .HAILO_TIMEOUT) = some full_of_one ∧
      full_of_one.queue.size_approx + full_of_one.consumer.held.length = 1 % 2 ^ 32 :=
  have hr : Reachable 1 full_of_one := ⟨_, false, enqueue_steps 5, rfl, rfl⟩
  have h : step full_of_one (.enqueue_wait 6 false .HAILO_TIMEOUT) = some full_of_one := rfl
  ⟨hr, h, enqueue_timeout_full hr h⟩

/-- `dequeue` times out only on an empty queue, but for the one item an
`enqueue` in progress has put in and not yet signalled. -/
theorem dequeue_timeout_empty {ignore_shutdown_event : Bool} (hr : Reachable max_size s)
    (h : step s (.dequeue_wait ignore_shutdown_event .HAILO_TIMEOUT) = some s') :
    s.queue.size_approx = s.producer.pushed := by
  have items := hr.inv.items
  cases hc : s.consumer <;> simp only [SpscQueue.step, hc, reduceCtorEq, Option.map_eq_some'] at h
  obtain ⟨c, hc', -⟩ := h
  simp only [sema_wait] at hc'
  split at hc'
  · simp only [hc, Consumer.claimed] at items
    unfold size_approx
    omega
  · cases hc'

theorem dequeue_timeout_empty_fresh :
    Reachable 2 (System.init (⟨[], 0, 2, 2, 0, false, false⟩ : SpscQueue Nat) false) ∧
      step (System.init ⟨[], 0, 2, 2, 0, false, false⟩ false) (.dequeue_wait false .HAILO_TIMEOUT) =
        some (System.init (⟨[], 0, 2, 2, 0, false, false⟩ : SpscQueue Nat) false) ∧
      (System.init (⟨[], 0, 2, 2, 0, false, false⟩ : SpscQueue Nat) false).queue.size_approx =
        (System.init (⟨[], 0, 2, 2, 0, false, false⟩ : SpscQueue Nat) false).producer.pushed :=
  have hr : Reachable 2 (System.init (⟨[], 0, 2, 2, 0, false, false⟩ : SpscQueue Nat) false) :=
    ⟨_, false, [], rfl, rfl⟩
  have h : step (System.init ⟨[], 0, 2, 2, 0, false, false⟩ false) (.dequeue_wait false .HAILO_TIMEOUT) =
      some (System.init (⟨[], 0, 2, 2, 0, false, false⟩ : SpscQueue Nat) false) := rfl
  ⟨hr, h, dequeue_timeout_empty hr h⟩

/-- `create` casts `max_size` to `uint32_t` for `items_dequeued_sema` only: a
queue created with a multiple of `2 ^ 32` items never lets an `enqueue` past its
wait, and nothing is ever sent through it. -/
theorem create_multiple_of_two_pow_32 {k : Nat} (hr : Reachable (k * 2 ^ 32) s) :
    s.sent = [] ∧ ∀ x ignore_shutdown_event, step s (.enqueue_wait x ignore_shutdown_event .HAILO_SUCCESS) = none := by
  have full : ∀ t : System α, Inv t → t.queue.m_size = k * 2 ^ 32 →
      t.queue.m_items_dequeued_sema = 0 ∧ t.producer.reserved = 0 := fun t hi hm => by
    have := hi.slots
    rw [hm, Nat.mul_mod_left] at this
    omega
  obtain ⟨q, shutdown_event, as, hq, h⟩ := hr
  have hs : Inv s ∧ s.queue.m_size = k * 2 ^ 32 ∧ s.sent = [] := by
    refine run_induction (fun t => Inv t ∧ t.queue.m_size = k * 2 ^ 32 ∧ t.sent = []) ?_ ?_ h
    · rintro t t' a ⟨hi, hm, hsent⟩ ht
      obtain ⟨hsize, hsent', -⟩ := step_frame ht
      refine ⟨hi.step ht, hsize.trans hm, ?_⟩
      by_cases ha : a = .enqueue_try
      · subst ha
        cases hp : t.producer <;> simp only [SpscQueue.step, hp, reduceCtorEq] at ht
        have := (full t hi hm).2
        rw [hp, Producer.reserved] at this
        cases this
      · exact (hsent' ha).trans hsent
    · obtain ⟨-, rfl⟩ := create_eq_ok.1 hq
      exact ⟨inv_init hq shutdown_event, rfl, rfl⟩
  refine ⟨hs.2.2, fun x ignore_shutdown_event => ?_⟩
  have hd := (full s hs.1 hs.2.1).1
  cases hp : s.producer <;> simp only [SpscQueue.step, hp, sema_wait, hd, Nat.lt_irrefl, if_false, Option.map_none']

theorem create_two_pow_32_never_enqueues :
    Reachable (1 * 2 ^ 32) (System.init (⟨[], 0, 0, 2 ^ 32, 0, false, false⟩ : SpscQueue Nat) false) ∧
      (System.init (⟨[], 0, 0, 2 ^ 32, 0, false, false⟩ : SpscQueue Nat) false).sent = [] ∧
      ∀ x ignore_shutdown_event, step (System.init (⟨[], 0, 0, 2 ^ 32, 0, false, false⟩ : SpscQueue Nat) false)
        (.enqueue_wait x ignore_shutdown_event .HAILO_SUCCESS) = none :=
  have hr : Reachable (1 * 2 ^ 32) (System.init (⟨[], 0, 0, 2 ^ 32, 0, false, false⟩ : SpscQueue Nat) false) :=
    ⟨_, false, [], rfl, rfl⟩
  ⟨hr, create_multiple_of_two_pow_32 hr⟩

end

/-! ### The two callbacks -/

/-- A list of callbacks that alternate, and whose last is "can't enqueue"
exactly when the count stands at `m_size`. -/
structure CallbacksAlternate (callbacks : List Callback) (s : System α) : Prop where
  chain : callbacks.Chain' (· ≠ ·)
  last : callbacks.getLast? = some .cant_enqueue ↔ s.queue.m_enqueues_count = s.queue.m_size

/-- The callback that stands for a count: "can't enqueue" at `m_size`, "can
enqueue" below it. -/
def callback_of_count (m_enqueues_count m_size : Nat) : Callback :=
  if m_enqueues_count = m_size then .cant_enqueue else .can_enqueue

section
variable [Inhabited α] {s s' : System α} {max_size : Nat}

/-- Appending a callback other than the last one keeps the alternation. -/
theorem chain'_append_callback {l : List Callback} {c : Callback} (hl : l.Chain' (· ≠ ·))
    (hc : l.getLast? ≠ some c) : (l ++ [c]).Chain' (· ≠ ·) :=
  hl.append (List.chain'_singleton c) fun x hx y hy => by
    rw [Option.mem_def] at hx hy
    cases Option.some.inj hy
    exact fun h => hc (h ▸ hx)

/-- With both callbacks set, a step other than setting one runs at most one
callback, and the callbacks, with it, still alternate. -/
theorem CallbacksAlternate.step {l : List Callback} {a : Action α} (hi : Inv s)
    (hcant : s.queue.has_cant_enqueue_callback) (hcan : s.queue.has_can_enqueue_callback)
    (ha : a.sets_callback = false) (hs : CallbacksAlternate l s) (h : SpscQueue.step s a = some s') :
    ∃ new, s'.callbacks = s.callbacks ++ new ∧ CallbacksAlternate (l ++ new) s' := by
  obtain ⟨chain, last⟩ := hs
  obtain ⟨hsize, -, -, hcount, -⟩ := step_frame h
  by_cases h1 : a = .enqueue_count
  · subst h1
    cases hp : s.producer <;> simp only [SpscQueue.step, hp, reduceCtorEq, Option.some.injEq] at h
    subst h
    have hle := hi.count_succ_le_of_enqueued hp
    have hm := Nat.mod_le s.queue.m_size (2 ^ 32)
    have hlt := Nat.mod_lt s.queue.m_size (Nat.two_pow_pos 32)
    have hmod : (s.queue.m_enqueues_count + 1) % 2 ^ 32 = s.queue.m_enqueues_count + 1 :=
      Nat.mod_eq_of_lt (by omega)
    have hne : l.getLast? ≠ some .cant_enqueue := fun h => by have := last.1 h; omega
    simp only [hmod, hcant, and_true]
    split_ifs with hfull
    · exact ⟨[.cant_enqueue], rfl, chain'_append_callback chain hne,
        iff_of_true (List.getLast?_concat _) hfull.symm⟩
    · exact ⟨[], (List.append_nil _).symm, by rw [List.append_nil]; exact chain,
        by rw [List.append_nil]; exact iff_of_false hne (Ne.symm hfull)⟩
  by_cases h2 : a = .dequeue_count
  · subst h2
    cases hc : s.consumer <;> simp only [SpscQueue.step, hc, reduceCtorEq, Option.some.injEq] at h
    subst h
    obtain ⟨hpos, hle⟩ := hi.count_pos_of_dequeued hc
    have hm := Nat.mod_le s.queue.m_size (2 ^ 32)
    rw [decrement_mod_two_pow_32 _ hpos (by omega)]
    simp only [hcan, and_true]
    split_ifs with hfull
    · exact ⟨[.can_enqueue], rfl, chain'_append_callback chain (by rw [last.2 hfull.symm]; nofun),
        iff_of_false (by rw [List.getLast?_concat]; nofun) (by dsimp only; omega)⟩
    · exact ⟨[], (List.append_nil _).symm, by rw [List.append_nil]; exact chain,
        by rw [List.append_nil]; exact iff_of_false (fun h => hfull (last.1 h).symm) (by dsimp only; omega)⟩
  obtain ⟨hc, hcb⟩ := hcount h1 h2
  exact ⟨[], by rw [hcb, List.append_nil], by rw [List.append_nil]; exact chain,
    by rw [List.append_nil, hc, hsize]; exact last⟩

/-- **Callbacks.**  From any reachable state in which both callbacks are set,
in every interleaving that leaves them set, the callbacks run alternate: the
first is "can enqueue" when the queue stood full and "can't enqueue"
otherwise, and the last one run, or the state the run started from when none
ran, is "can't enqueue" exactly when the count stands at `max_size`.  The
queue never reports "full" twice, nor "not full" twice. -/
theorem callbacks_alternate {t : System α} {as : List (Action α)} (hr : Reachable max_size t)
    (hcant : t.queue.has_cant_enqueue_callback = true) (hcan : t.queue.has_can_enqueue_callback = true)
    (has : ∀ a ∈ as, a.sets_callback = false) (h : run t as = some s) :
    ∃ ran, s.callbacks = t.callbacks ++ ran ∧
      (callback_of_count t.queue.m_enqueues_count max_size :: ran).Chain' (· ≠ ·) ∧
      ((callback_of_count t.queue.m_enqueues_count max_size :: ran).getLast? = some .cant_enqueue ↔
        s.queue.m_enqueues_count = max_size) := by
  have hrun := run_induction_of (fun a : Action α => a.sets_callback = false)
    (fun u => Inv u ∧ u.queue.has_cant_enqueue_callback ∧ u.queue.has_can_enqueue_callback ∧
      u.queue.m_size = max_size ∧ ∃ ran, u.callbacks = t.callbacks ++ ran ∧
        CallbacksAlternate (callback_of_count t.queue.m_enqueues_count max_size :: ran) u)
    (fun ha ⟨hi, hcant, hcan, hm, ran, hran, hs⟩ hu =>
      have ⟨hsize, _, _, _, hflags⟩ := step_frame hu
      have ⟨new, hnew, hs'⟩ := hs.step hi hcant hcan ha hu
      ⟨hi.step hu, (hflags ha).1 ▸ hcant, (hflags ha).2 ▸ hcan, hsize.trans hm, ran ++ new,
        by rw [hnew, hran, List.append_assoc], hs'⟩)
    has ⟨hr.inv, hcant, hcan, hr.m_size, [], (List.append_nil _).symm, List.chain'_singleton _, ?_⟩ h
  · obtain ⟨-, -, -, hm, ran, hran, chain, last⟩ := hrun
    exact ⟨ran, hran, chain, hm ▸ last⟩
  · -- no callback has run yet: the state stands for itself
    rw [hr.m_size, List.getLast?_singleton, callback_of_count]
    split_ifs with hfull <;> simp [hfull]

/-- A full queue of one item with both callbacks set: a `dequeue` reports "not
full" once. -/
def full_with_callbacks : System Nat :=
  ⟨⟨[5], 1, 0, 1, 1, true, true⟩, false, .idle, .idle, [5], [], [.cant_enqueue]⟩

theorem callbacks_alternate_full_dequeue :
    Reachable 1 full_with_callbacks ∧ full_with_callbacks.queue.has_cant_enqueue_callback = true ∧
      full_with_callbacks.queue.has_can_enqueue_callback = true ∧
      (∀ a ∈ (dequeue_steps : List (Action Nat)), a.sets_callback = false) ∧
      run full_with_callbacks dequeue_steps =
        some ⟨⟨[], 0, 1, 1, 0, true, true⟩, false, .idle, .idle, [5], [5], [.cant_enqueue, .can_enqueue]⟩ ∧
      ∃ ran, [Callback.cant_enqueue, .can_enqueue] = [.cant_enqueue] ++ ran ∧
        (callback_of_count 1 1 :: ran).Chain' (· ≠ ·) ∧
        ((callback_of_count 1 1 :: ran).getLast? = some .cant_enqueue ↔ 0 = 1) :=
  have hr : Reachable 1 full_with_callbacks :=
    ⟨_, false, .set_on_cant_enqueue_callback true :: .set_on_can_enqueue_callback true :: enqueue_steps 5, rfl, rfl⟩
  have has : ∀ a ∈ (dequeue_steps : List (Action Nat)), a.sets_callback = false := by decide
  have h : run full_with_callbacks dequeue_steps =
      some ⟨⟨[], 0, 1, 1, 0, true, true⟩, false, .idle, .idle, [5], [5], [.cant_enqueue, .can_enqueue]⟩ := rfl
  ⟨hr, rfl, rfl, has, h, callbacks_alternate hr rfl rfl has h⟩

/-! ### `clear` -/

/-- One `dequeue` from an idle consumer, on a positive count, takes the front
item out and returns it. -/
theorem run_dequeue_steps {x : α} {rest : List α} (hc : s.consumer = .idle)
    (he : 0 < s.queue.m_items_enqueued_sema) (hx : s.queue.m_inner = x :: rest) :
    ∃ s', run s dequeue_steps = some s' ∧ s'.queue.m_inner = rest ∧ s'.received = s.received ++ [x] ∧
      s'.producer = s.producer ∧ s'.consumer = .idle := by
  simp only [dequeue_steps, SpscQueue.run, SpscQueue.step, hc, sema_wait, if_pos he, Option.map_some',
    if_true, Option.some_bind, try_dequeue_snd, try_dequeue_of_eq_cons hx, hx, Option.getD_some]
  exact ⟨_, rfl, rfl, rfl, rfl, rfl⟩

/-- **`clear`.**  With no `enqueue` in progress, `clear` returns after one
`dequeue` per item: every item comes out, in order, the queue is empty, and every
slot is free again. -/
theorem clear_empties (hr : Reachable max_size s) (hp : s.producer = .idle) (hc : s.consumer = .idle) :
    ∃ s', clear s (s.queue.size_approx + 1) = some s' ∧ s'.queue.m_inner = [] ∧
      s'.received = s.received ++ s.queue.m_inner ∧ s'.consumer = .idle ∧
      s'.queue.m_items_dequeued_sema = max_size % 2 ^ 32 := by
  obtain ⟨l, hx⟩ : ∃ l, s.queue.m_inner = l := ⟨_, rfl⟩
  rw [size_approx, hx]
  induction l generalizing s with
  | nil =>
    obtain ⟨he, -, hd⟩ := hr.inv.quiescent hp hc
    rw [hr.m_size] at hd
    simp only [size_approx, hx, List.length_nil, Nat.add_zero] at he hd
    simp only [List.length_nil, clear, he, Nat.lt_irrefl, if_false, SpscQueue.step, hc, sema_wait, if_true,
      Option.map_some']
    exact ⟨_, rfl, hx, (List.append_nil _).symm, rfl, hd⟩
  | cons x rest ih =>
    have he : 0 < s.queue.m_items_enqueued_sema := by
      rw [(hr.inv.quiescent hp hc).1, size_approx, hx]
      exact Nat.succ_pos _
    obtain ⟨s₁, h₁, hrest, hrecv, hp₁, hc₁⟩ := run_dequeue_steps hc he hx
    obtain ⟨s', hclear, hnil, hrecv', hc', hd'⟩ := ih (hr.run h₁) (hp₁.trans hp) hc₁ hrest
    refine ⟨s', ?_, hnil, by rw [hrecv', hrecv, List.append_assoc, List.singleton_append], hc', hd'⟩
    rw [List.length_cons, clear, if_pos he, h₁, Option.some_bind]
    exact hclear
end

theorem clear_empties_one_enqueued :
    Reachable 2 one_enqueued ∧ one_enqueued.producer = .idle ∧ one_enqueued.consumer = .idle ∧
      ∃ s', clear one_enqueued (one_enqueued.queue.size_approx + 1) = some s' ∧ s'.queue.m_inner = [] ∧
        s'.received = one_enqueued.received ++ one_enqueued.queue.m_inner ∧ s'.consumer = .idle ∧
        s'.queue.m_items_dequeued_sema = 2 % 2 ^ 32 :=
  ⟨reachable_one_enqueued, rfl, rfl, clear_empties reachable_one_enqueued rfl rfl⟩

end SpscQueue
end HailoRT
