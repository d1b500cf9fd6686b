/-
# The queued stream buffer pool

`QueuedStreamBufferPool` (`queued_stream_buffer_pool.cpp`) keeps its `n`
storage buffers in a `std::queue`.  `dequeue` pops the front; `enqueue` checks
the returned buffer's offset, its size and that it is the storage buffer at
`m_next_enqueue_buffer_index`, then pushes it back; `reset_pointers` refills the
queue from the storage.

Unlike `CircularStreamBufferPool::enqueue`, which first checks that a transfer
is outstanding ("Can enqueue without previous dequeue"), `enqueue` here never
asks whether the buffer it is given was handed out.  Right after
`reset_pointers`, with every buffer in the queue, returning the first storage
buffer succeeds and leaves it in the queue twice
(`enqueue_after_reset_pointers`); the pool then hands that buffer out a second
time while the first hand-out is still outstanding
(`reset_enqueue_hands_out_twice`).

The header that declares the members is not among the sources: the model takes
the queue as a list, front first.
-/

import HailoRT.Common

namespace HailoRT
namespace StreamCommon

/-- A `QueuedStreamBufferPool`: the storage buffers, the queue (front first) and
the index of the storage buffer the next `enqueue` must return. -/
structure QueuedStreamBufferPool where
  m_storage : List MemoryView
  m_queue : List MemoryView
  m_next_enqueue_buffer_index : Nat
  deriving DecidableEq, Repr

namespace QueuedStreamBufferPool

/-- `max_queue_size`. -/
def max_queue_size (p : QueuedStreamBufferPool) : Nat := p.m_storage.length

/-- `dequeue`: the front buffer, whole, and the pool without it. -/
def dequeue (p : QueuedStreamBufferPool) : Except HailoStatus (TransferBuffer × QueuedStreamBufferPool) :=
  match p.m_queue with
  | [] => .error .HAILO_INTERNAL_FAILURE
  | buffer :: rest => .ok (TransferBuffer.of_view buffer, { p with m_queue := rest })

/-- `enqueue`. -/
def enqueue (p : QueuedStreamBufferPool) (buffer_info : TransferBuffer) :
    Except HailoStatus QueuedStreamBufferPool := do
  CHECK (buffer_info.offset = 0) .HAILO_INTERNAL_FAILURE
  CHECK (buffer_info.size = (p.m_storage.getD 0 ⟨0, 0⟩).size) .HAILO_INTERNAL_FAILURE
  CHECK (buffer_info.base_buffer.data = (p.m_storage.getD p.m_next_enqueue_buffer_index ⟨0, 0⟩).data)
    .HAILO_INTERNAL_FAILURE
  return { p with
    m_queue := p.m_queue ++ [buffer_info.base_buffer]
    m_next_enqueue_buffer_index := (p.m_next_enqueue_buffer_index + 1) % p.m_storage.length }

/-- `reset_pointers`: the queue refilled from the storage, in order. -/
def reset_pointers (p : QueuedStreamBufferPool) : QueuedStreamBufferPool :=
  { p with m_queue := p.m_storage, m_next_enqueue_buffer_index := 0 }

/-- One call: the pool afterwards, and the buffer a successful `dequeue` hands
out.  A failed call changes nothing, as every check comes before the first
write. -/
def call (p : QueuedStreamBufferPool) : StreamBufferPoolCall → QueuedStreamBufferPool × Option TransferBuffer
  | .dequeue =>
    match p.dequeue with
    | .ok (buffer, p') => (p', some buffer)
    | .error _ => (p, none)
  | .enqueue buffer_info =>
    match p.enqueue buffer_info with
    | .ok p' => (p', none)
    | .error _ => (p, none)
  | .reset_pointers => (p.reset_pointers, none)

/-- A sequence of calls: the final pool and the buffers handed out, in order. -/
def run (p : QueuedStreamBufferPool) : List StreamBufferPoolCall → QueuedStreamBufferPool × List TransferBuffer
  | [] => (p, [])
  | c :: cs =>
    let r := p.call c
    let rs := run r.1 cs
    (rs.1, r.2.toList ++ rs.2)

theorem run_reset_pointers_cons (p : QueuedStreamBufferPool) (cs : List StreamBufferPoolCall) :
    (p.run (.reset_pointers :: cs)).2 = (p.reset_pointers.run cs).2 := by
  simp [run, call]

theorem run_enqueue_cons {p p' : QueuedStreamBufferPool} {buffer_info : TransferBuffer}
    (h : p.enqueue buffer_info = .ok p') (cs : List StreamBufferPoolCall) :
    (p.run (.enqueue buffer_info :: cs)).2 = (p'.run cs).2 := by
  simp [run, call, h]

theorem run_dequeue_cons {p : QueuedStreamBufferPool} {buffer : MemoryView} {rest : List MemoryView}
    (h : p.m_queue = buffer :: rest) (cs : List StreamBufferPoolCall) :
    (p.run (.dequeue :: cs)).2 =
      TransferBuffer.of_view buffer :: (({ p with m_queue := rest } : QueuedStreamBufferPool).run cs).2 := by
  simp [run, call, dequeue, h]

/-- `dequeue` calls hand out the queue's buffers front first. -/
theorem run_dequeues (p : QueuedStreamBufferPool) :
    (p.run (List.replicate p.m_queue.length .dequeue)).2 = p.m_queue.map TransferBuffer.of_view := by
  rcases p with ⟨storage, queue, next⟩
  induction queue with
  | nil => rfl
  | cons buffer rest ih =>
    rw [List.length_cons, List.replicate_succ, run_dequeue_cons rfl]
    simpa using ih

/-- **Returning a buffer that is not outstanding succeeds.**  After
`reset_pointers` every storage buffer is in the queue and none is outstanding;
`enqueue` of the first one passes all three checks and leaves it in the queue
twice. -/
theorem enqueue_after_reset_pointers (p : QueuedStreamBufferPool) (buffer : MemoryView)
    (rest : List MemoryView) (h : p.m_storage = buffer :: rest) :
    p.reset_pointers.enqueue (TransferBuffer.of_view buffer) =
      .ok ⟨buffer :: rest, buffer :: rest ++ [buffer], 1 % (rest.length + 1)⟩ := by
  rcases p with ⟨storage, queue, next⟩
  subst h
  simp [reset_pointers, enqueue, TransferBuffer.of_view, bind, Except.bind, pure, Except.pure]

/-- **The pool hands a buffer out twice.**  After `reset_pointers` and the
`enqueue` above, the next `n + 1` dequeues hand out every storage buffer and
then the first one again, which nobody returned in between. -/
theorem reset_enqueue_hands_out_twice (p : QueuedStreamBufferPool) (buffer : MemoryView)
    (rest : List MemoryView) (h : p.m_storage = buffer :: rest) :
    (p.run (.reset_pointers :: .enqueue (TransferBuffer.of_view buffer) ::
      List.replicate (rest.length + 2) .dequeue)).2 =
      (buffer :: rest ++ [buffer]).map TransferBuffer.of_view := by
  have hlen : rest.length + 2 = (buffer :: rest ++ [buffer]).length := by simp
  rw [run_reset_pointers_cons, run_enqueue_cons (enqueue_after_reset_pointers p buffer rest h), hlen]
  exact run_dequeues ⟨buffer :: rest, buffer :: rest ++ [buffer], 1 % (rest.length + 1)⟩

theorem reset_enqueue_hands_out_twice_one_buffer :
    (⟨[⟨4096, 64⟩], [], 0⟩ : QueuedStreamBufferPool).m_storage = [⟨4096, 64⟩] ∧
    ((⟨[⟨4096, 64⟩], [], 0⟩ : QueuedStreamBufferPool).run
      (.reset_pointers :: .enqueue (TransferBuffer.of_view ⟨4096, 64⟩) ::
        List.replicate 2 .dequeue)).2 =
      ([⟨4096, 64⟩, ⟨4096, 64⟩] : List MemoryView).map TransferBuffer.of_view :=
  ⟨rfl, reset_enqueue_hands_out_twice _ ⟨4096, 64⟩ [] rfl⟩

end QueuedStreamBufferPool

end StreamCommon
end HailoRT
