/-
# The circular stream buffer pool

`CircularStreamBufferPool` (`circular_stream_buffer_pool.cpp`) carves its
transfers out of one base buffer of `descs_count` descriptors of
`desc_page_size` bytes, managed as a head/tail ring `circbuf_t`.  `dequeue`
advances the tail by the descriptors of one transfer, `enqueue` the head, and
`m_next_enqueue_desc_offset` makes the buffers come back in the order they
left.  The ring starts with `head = descs_count - 1`, one descriptor short of
full.

The `CB_*` macros and `DescriptorList::descriptors_in_buffer` are declared in
headers that are not among the sources; the model takes the usual masked ring
macros and `descriptors_in_buffer = DIV_ROUND_UP(transfer_size, page)`.  The
ring's fields are `int`s holding values below `descs_count`, where the
macros' sums never go negative: they are `Nat`s here.

`descs_in_transfer` hands the page size to `descriptors_in_buffer` as a
`uint16_t`.  `create` accepts any power of two, and a page of `2 ^ 16` bytes or
more casts to `0`: the first `dequeue` divides by zero
(`dequeue_page_65536`).  Below `2 ^ 16` the cast changes nothing.

`Inv` ties the ring to the buffers dequeued and not yet given back, oldest
first: with `N = descs_count`, `d` descriptors per transfer and `k` buffers
out, the head is one before the next enqueue offset and the tail `k * d`
after it.  Every call returns and keeps `Inv` (`Inv.call`), so every run does
(`Inv.run`), and `reachable_spec` reads the pool's behaviour off it.
-/

import HailoRT.Common

namespace HailoRT
namespace Vdma

/-! ### The ring macros -/

/-- `circbuf_t`. -/
structure circbuf_t where
  head : Nat
  tail : Nat
  size : Nat
  size_mask : Nat
  deriving DecidableEq, Repr

/-- `CB_INIT(circbuf, s)`. -/
def CB_INIT (s : Nat) : circbuf_t := ⟨0, 0, s, s - 1⟩

/-- `CB_RESET(circbuf)`. -/
def CB_RESET (q : circbuf_t) : circbuf_t := { q with head := 0, tail := 0 }

/-- `CB_PROG(circbuf, head, tail)`: the descriptors from `tail` up to `head`. -/
def CB_PROG (q : circbuf_t) (head tail : Nat) : Nat := (q.size + head - tail) &&& q.size_mask

/-- `CB_AVAIL(circbuf, head, tail)`: the descriptors from `head` up to `tail`,
less the one the ring keeps free. -/
def CB_AVAIL (q : circbuf_t) (head tail : Nat) : Nat := (q.size - 1 + tail - head) &&& q.size_mask

/-- `CB_ENQUEUE(circbuf, value)`. -/
def CB_ENQUEUE (q : circbuf_t) (value : Nat) : circbuf_t :=
  { q with head := (q.head + value) &&& q.size_mask }

/-- `CB_DEQUEUE(circbuf, value)`. -/
def CB_DEQUEUE (q : circbuf_t) (value : Nat) : circbuf_t :=
  { q with tail := (q.tail + value) &&& q.size_mask }

/-- `DIV_ROUND_UP`. -/
def DIV_ROUND_UP (n d : Nat) : Nat := (n + d - 1) / d

/-- `DescriptorList::descriptors_in_buffer`: the descriptors a buffer spans. -/
def descriptors_in_buffer (buffer_size desc_page_size : Nat) : Nat :=
  DIV_ROUND_UP buffer_size desc_page_size

/-! ### The pool -/

/-- A `CircularStreamBufferPool`. -/
structure CircularStreamBufferPool where
  m_desc_page_size : Nat
  m_transfer_size : Nat
  m_base_buffer : MemoryView
  m_queue : circbuf_t
  m_next_enqueue_desc_offset : Nat
  deriving DecidableEq, Repr

namespace CircularStreamBufferPool

/-- The constructor. -/
def new (desc_page_size descs_count transfer_size : Nat) (base_buffer : MemoryView) :
    CircularStreamBufferPool :=
  ⟨desc_page_size, transfer_size, base_buffer, { CB_INIT descs_count with head := descs_count - 1 }, 0⟩

/-- `max_queue_size`. -/
def max_queue_size (p : CircularStreamBufferPool) : Nat :=
  (p.m_queue.size - 1) / DIV_ROUND_UP p.m_transfer_size p.m_desc_page_size

/-- `descs_in_transfer`: the page size goes to `descriptors_in_buffer` as a
`uint16_t`, past `assert(IS_FIT_IN_UINT16(m_desc_page_size))`, which a release
build drops.  A page that casts to `0` is a division by zero, undefined
behaviour: `none`. -/
def descs_in_transfer (p : CircularStreamBufferPool) : Option Nat :=
  let desc_page_size := p.m_desc_page_size % 2 ^ 16
  if desc_page_size = 0 then none else some (descriptors_in_buffer p.m_transfer_size desc_page_size)

/-- `buffers_ready_to_dequeue`. -/
def buffers_ready_to_dequeue (p : CircularStreamBufferPool) : Option Nat := do
  let descs_available := CB_PROG p.m_queue p.m_queue.head p.m_queue.tail
  return descs_available / (← p.descs_in_transfer)

/-- `dequeue`. -/
def dequeue (p : CircularStreamBufferPool) : MayFault (TransferBuffer × CircularStreamBufferPool) := do
  CHECK ((← p.buffers_ready_to_dequeue) > 0) .HAILO_INTERNAL_FAILURE
  let offset_in_buffer := p.m_queue.tail * p.m_desc_page_size
  let descs_in_transfer ← p.descs_in_transfer
  return (⟨p.m_base_buffer, p.m_transfer_size, offset_in_buffer⟩,
    { p with m_queue := CB_DEQUEUE p.m_queue descs_in_transfer })

/-- `enqueue`. -/
def enqueue (p : CircularStreamBufferPool) (buffer_info : TransferBuffer) :
    MayFault CircularStreamBufferPool := do
  let descs_required ← p.descs_in_transfer
  let descs_available := CB_AVAIL p.m_queue p.m_queue.head p.m_queue.tail
  CHECK (descs_available ≥ descs_required) .HAILO_INTERNAL_FAILURE
  CHECK (buffer_info.base_buffer.data = p.m_base_buffer.data) .HAILO_INTERNAL_FAILURE
  CHECK (buffer_info.size = p.m_transfer_size) .HAILO_INTERNAL_FAILURE
  let expected_offset := p.m_next_enqueue_desc_offset * p.m_desc_page_size
  CHECK (buffer_info.offset = expected_offset) .HAILO_INTERNAL_FAILURE
  return { p with
    m_queue := CB_ENQUEUE p.m_queue descs_required
    m_next_enqueue_desc_offset :=
      (p.m_next_enqueue_desc_offset + descs_required) &&& p.m_queue.size_mask }

/-- `reset_pointers`. -/
def reset_pointers (p : CircularStreamBufferPool) : CircularStreamBufferPool :=
  { p with
    m_queue := { CB_RESET p.m_queue with head := p.m_queue.size - 1 }
    m_next_enqueue_desc_offset := 0 }

/-- One call, with the buffers dequeued and not yet given back, oldest first:
a successful `dequeue` adds the buffer it hands out, a successful `enqueue`
retires the oldest, `reset_pointers` forgets them all.  A failed call changes
nothing, as every check comes before the first write; a call whose behaviour
is undefined ends the run with `none`. -/
def call (p : CircularStreamBufferPool) (outstanding : List TransferBuffer) :
    StreamBufferPoolCall → Option (CircularStreamBufferPool × List TransferBuffer)
  | .dequeue =>
    match p.dequeue.run with
    | some (.ok (buffer, p')) => some (p', outstanding ++ [buffer])
    | some (.error _) => some (p, outstanding)
    | none => none
  | .enqueue buffer_info =>
    match (p.enqueue buffer_info).run with
    | some (.ok p') => some (p', outstanding.tail)
    | some (.error _) => some (p, outstanding)
    | none => none
  | .reset_pointers => some (p.reset_pointers, [])

/-- A sequence of calls. -/
def run (p : CircularStreamBufferPool) (outstanding : List TransferBuffer) :
    List StreamBufferPoolCall → Option (CircularStreamBufferPool × List TransferBuffer)
  | [] => some (p, outstanding)
  | c :: cs => (p.call outstanding c).bind fun r => r.1.run r.2 cs

/-- Below `2 ^ 16` the cast keeps the page size. -/
theorem descs_in_transfer_of_lt {p : CircularStreamBufferPool} (hp : 0 < p.m_desc_page_size)
    (hp16 : p.m_desc_page_size < 2 ^ 16) :
    p.descs_in_transfer = some (descriptors_in_buffer p.m_transfer_size p.m_desc_page_size) := by
  simp only [descs_in_transfer, Nat.mod_eq_of_lt hp16, if_neg hp.ne']

section Calls

variable {p : CircularStreamBufferPool} {d : Nat} (hd : p.descs_in_transfer = some d)
include hd

/-- `dequeue` once the descriptors of a transfer are known: all its checks
come down to a buffer being ready. -/
theorem dequeue_run :
    p.dequeue.run = some (if 0 < CB_PROG p.m_queue p.m_queue.head p.m_queue.tail / d then
      .ok (⟨p.m_base_buffer, p.m_transfer_size, p.m_queue.tail * p.m_desc_page_size⟩,
        { p with m_queue := CB_DEQUEUE p.m_queue d })
      else .error .HAILO_INTERNAL_FAILURE) := by
  simp only [dequeue, buffers_ready_to_dequeue, hd, Option.bind_eq_bind, Option.some_bind, Option.pure_def,
    MayFault.run_CHECK_bind, MayFault.run_lift_some_bind, gt_iff_lt]
  split_ifs <;> rfl

/-- `enqueue` once the descriptors of a transfer are known: its four checks
fail with one status. -/
theorem enqueue_run (buffer_info : TransferBuffer) :
    (p.enqueue buffer_info).run = some (if d ≤ CB_AVAIL p.m_queue p.m_queue.head p.m_queue.tail ∧
        buffer_info.base_buffer.data = p.m_base_buffer.data ∧ buffer_info.size = p.m_transfer_size ∧
        buffer_info.offset = p.m_next_enqueue_desc_offset * p.m_desc_page_size then
      .ok { p with
        m_queue := CB_ENQUEUE p.m_queue d
        m_next_enqueue_desc_offset := (p.m_next_enqueue_desc_offset + d) &&& p.m_queue.size_mask }
      else .error .HAILO_INTERNAL_FAILURE) := by
  simp only [enqueue, hd, MayFault.run_CHECK_bind, MayFault.run_lift_some_bind, ge_iff_le, ite_and]
  split_ifs <;> rfl

end Calls

/-! ### Ring arithmetic -/

/-- One before `a`, less `m` after `a`: the ring holds `N - 1 - m`. -/
theorem prog_eq {N a m : Nat} (ha : a < N) (hm : m ≤ N - 1) :
    (N + (a + N - 1) % N - (a + m) % N) % N = N - 1 - m := by
  have hq : (a + m) % N ≤ N + (a + N - 1) % N := (Nat.mod_lt _ (by omega)).le.trans (Nat.le_add_right _ _)
  refine Eq.trans (Nat.ModEq.add_right_cancel' ((a + m) % N) ?_) (Nat.mod_eq_of_lt (show N - 1 - m < N by omega))
  calc N + (a + N - 1) % N - (a + m) % N + (a + m) % N
      = N + (a + N - 1) % N := Nat.sub_add_cancel hq
    _ ≡ N + (a + N - 1) [MOD N] := Nat.ModEq.add_left _ (Nat.mod_modEq _ _)
    _ = N - 1 - m + (a + m) + N := by omega
    _ ≡ N - 1 - m + (a + m) [MOD N] := Nat.add_modEq_right
    _ ≡ N - 1 - m + (a + m) % N [MOD N] := Nat.ModEq.add_left _ (Nat.mod_modEq _ _).symm

/-- ... and `m` descriptors are free to enqueue. -/
theorem avail_eq {N a m : Nat} (ha : a < N) (hm : m ≤ N - 1) :
    (N - 1 + (a + m) % N - (a + N - 1) % N) % N = m := by
  have hp : (a + N - 1) % N ≤ N - 1 + (a + m) % N :=
    (Nat.le_sub_one_of_lt (Nat.mod_lt _ (by omega))).trans (Nat.le_add_right _ _)
  refine Eq.trans (Nat.ModEq.add_right_cancel' ((a + N - 1) % N) ?_) (Nat.mod_eq_of_lt (show m < N by omega))
  calc N - 1 + (a + m) % N - (a + N - 1) % N + (a + N - 1) % N
      = N - 1 + (a + m) % N := Nat.sub_add_cancel hp
    _ ≡ N - 1 + (a + m) [MOD N] := Nat.ModEq.add_left _ (Nat.mod_modEq _ _)
    _ = m + (a + N - 1) := by omega
    _ ≡ m + (a + N - 1) % N [MOD N] := Nat.ModEq.add_left _ (Nat.mod_modEq _ _).symm

/-- Moving `a` by `d` moves the position one before it by `d`. -/
theorem mod_add_pred {N a d : Nat} (hN : 0 < N) :
    ((a + N - 1) % N + d) % N = ((a + d) % N + N - 1) % N := by
  rw [Nat.mod_add_mod, show (a + d) % N + N - 1 = (a + d) % N + (N - 1) by omega, Nat.mod_add_mod]
  congr 1
  omega

/-- Descriptors of two different transfers within one lap differ. -/
theorem ranges_disjoint {N a d i j t t' : Nat} (hij : i < j) (ht : t < d) (ht' : t' < d)
    (hjN : j * d + d ≤ N) : (a + i * d + t) % N ≠ (a + j * d + t') % N := by
  intro h
  have hid : i * d + d ≤ j * d := Nat.succ_mul i d ▸ Nat.mul_le_mul_right d hij
  have hdvd : N ∣ (a + j * d + t') - (a + i * d + t) := (Nat.modEq_iff_dvd' (by omega)).1 h
  have := Nat.eq_zero_of_dvd_of_lt hdvd (by omega)
  omega

/-! ### The invariant -/

section Invariant

variable (e desc_page_size transfer_size : Nat) (base_buffer : MemoryView)

/-- The `j`-th buffer out of a pool whose next enqueue is at descriptor `next`. -/
def outstanding_buffer (next j : Nat) : TransferBuffer :=
  ⟨base_buffer, transfer_size,
    (next + j * DIV_ROUND_UP transfer_size desc_page_size) % 2 ^ e * desc_page_size⟩

/-- The pool's state against the buffers out, oldest first: pages of less than
`2 ^ 16` bytes, transfers of at least one byte, `2 ^ e` descriptors, the head
one before the next enqueue offset, the tail the outstanding transfers'
descriptors after it, and those transfers back to back from that offset. -/
structure Inv (p : CircularStreamBufferPool) (outstanding : List TransferBuffer) : Prop where
  page_pos : 0 < desc_page_size
  page_lt : desc_page_size < 2 ^ 16
  transfer_pos : 0 < transfer_size
  desc_page_size_eq : p.m_desc_page_size = desc_page_size
  transfer_size_eq : p.m_transfer_size = transfer_size
  base_buffer_eq : p.m_base_buffer = base_buffer
  size_eq : p.m_queue.size = 2 ^ e
  size_mask_eq : p.m_queue.size_mask = 2 ^ e - 1
  next_lt : p.m_next_enqueue_desc_offset < 2 ^ e
  head_eq : p.m_queue.head = (p.m_next_enqueue_desc_offset + 2 ^ e - 1) % 2 ^ e
  tail_eq : p.m_queue.tail = (p.m_next_enqueue_desc_offset +
    outstanding.length * DIV_ROUND_UP transfer_size desc_page_size) % 2 ^ e
  fits : outstanding.length * DIV_ROUND_UP transfer_size desc_page_size ≤ 2 ^ e - 1
  outstanding_eq : outstanding = (List.range outstanding.length).map
    (outstanding_buffer e desc_page_size transfer_size base_buffer p.m_next_enqueue_desc_offset)

theorem inv_new (hp : 0 < desc_page_size) (hp16 : desc_page_size < 2 ^ 16) (ht : 0 < transfer_size) :
    Inv e desc_page_size transfer_size base_buffer (new desc_page_size (2 ^ e) transfer_size base_buffer) [] where
  page_pos := hp
  page_lt := hp16
  transfer_pos := ht
  desc_page_size_eq := rfl
  transfer_size_eq := rfl
  base_buffer_eq := rfl
  size_eq := rfl
  size_mask_eq := rfl
  next_lt := Nat.two_pow_pos e
  head_eq := by simp [new, Nat.mod_eq_of_lt (Nat.sub_lt (Nat.two_pow_pos e) Nat.one_pos)]
  tail_eq := by simp [new, CB_INIT]
  fits := by simp
  outstanding_eq := rfl

variable {e desc_page_size transfer_size base_buffer}
variable {p : CircularStreamBufferPool} {outstanding : List TransferBuffer}

/-- A transfer spans at least one descriptor. -/
theorem Inv.descs_pos (h : Inv e desc_page_size transfer_size base_buffer p outstanding) :
    0 < DIV_ROUND_UP transfer_size desc_page_size :=
  Nat.div_pos (by have := h.transfer_pos; omega) h.page_pos

theorem Inv.descs_in_transfer_eq (h : Inv e desc_page_size transfer_size base_buffer p outstanding) :
    p.descs_in_transfer = some (DIV_ROUND_UP transfer_size desc_page_size) := by
  rw [descs_in_transfer_of_lt (h.desc_page_size_eq ▸ h.page_pos) (h.desc_page_size_eq ▸ h.page_lt),
    descriptors_in_buffer, h.transfer_size_eq, h.desc_page_size_eq]

theorem Inv.max_queue_size_eq (h : Inv e desc_page_size transfer_size base_buffer p outstanding) :
    p.max_queue_size = (2 ^ e - 1) / DIV_ROUND_UP transfer_size desc_page_size := by
  rw [max_queue_size, h.size_eq, h.transfer_size_eq, h.desc_page_size_eq]

theorem Inv.prog_eq (h : Inv e desc_page_size transfer_size base_buffer p outstanding) :
    CB_PROG p.m_queue p.m_queue.head p.m_queue.tail =
      2 ^ e - 1 - outstanding.length * DIV_ROUND_UP transfer_size desc_page_size := by
  rw [CB_PROG, h.size_mask_eq, Nat.and_pow_two_sub_one_eq_mod, h.size_eq, h.head_eq, h.tail_eq]
  exact Vdma.CircularStreamBufferPool.prog_eq h.next_lt h.fits

theorem Inv.avail_eq (h : Inv e desc_page_size transfer_size base_buffer p outstanding) :
    CB_AVAIL p.m_queue p.m_queue.head p.m_queue.tail =
      outstanding.length * DIV_ROUND_UP transfer_size desc_page_size := by
  rw [CB_AVAIL, h.size_mask_eq, Nat.and_pow_two_sub_one_eq_mod, h.size_eq, h.head_eq, h.tail_eq]
  exact Vdma.CircularStreamBufferPool.avail_eq h.next_lt h.fits

/-- The buffers out fit in the queue. -/
theorem Inv.length_le (h : Inv e desc_page_size transfer_size base_buffer p outstanding) :
    outstanding.length ≤ p.max_queue_size := by
  rw [h.max_queue_size_eq]
  exact (Nat.le_div_iff_mul_le h.descs_pos).2 h.fits

/-- The transfers the ring has room for are those not out. -/
theorem Inv.ready_eq (h : Inv e desc_page_size transfer_size base_buffer p outstanding) :
    CB_PROG p.m_queue p.m_queue.head p.m_queue.tail / DIV_ROUND_UP transfer_size desc_page_size =
      p.max_queue_size - outstanding.length := by
  rw [h.prog_eq, h.max_queue_size_eq, Nat.mul_comm, Nat.sub_mul_div _ _ _ (by rw [Nat.mul_comm]; exact h.fits)]

/-- **Buffers ready and buffers out add up to the queue size.** -/
theorem Inv.buffers_ready_to_dequeue_eq (h : Inv e desc_page_size transfer_size base_buffer p outstanding) :
    p.buffers_ready_to_dequeue = some (p.max_queue_size - outstanding.length) := by
  simp only [buffers_ready_to_dequeue, h.descs_in_transfer_eq, Option.bind_eq_bind, Option.some_bind,
    Option.pure_def, h.ready_eq]

/-- The tail is at the offset of the next buffer out. -/
theorem Inv.tail_buffer (h : Inv e desc_page_size transfer_size base_buffer p outstanding) :
    (⟨p.m_base_buffer, p.m_transfer_size, p.m_queue.tail * p.m_desc_page_size⟩ : TransferBuffer) =
      outstanding_buffer e desc_page_size transfer_size base_buffer p.m_next_enqueue_desc_offset
        outstanding.length := by
  rw [outstanding_buffer, h.base_buffer_eq, h.transfer_size_eq, h.desc_page_size_eq, h.tail_eq]

/-- `dequeue` hands out the next buffer exactly when fewer than
`max_queue_size` are out, and fails otherwise. -/
theorem Inv.dequeue_run (h : Inv e desc_page_size transfer_size base_buffer p outstanding) :
    p.dequeue.run = some (if outstanding.length < p.max_queue_size then
      .ok (outstanding_buffer e desc_page_size transfer_size base_buffer p.m_next_enqueue_desc_offset
          outstanding.length,
        { p with m_queue := CB_DEQUEUE p.m_queue (DIV_ROUND_UP transfer_size desc_page_size) })
      else .error .HAILO_INTERNAL_FAILURE) := by
  simp only [CircularStreamBufferPool.dequeue_run h.descs_in_transfer_eq, h.ready_eq, h.tail_buffer,
    Nat.sub_pos_iff_lt]

theorem Inv.dequeue (h : Inv e desc_page_size transfer_size base_buffer p outstanding)
    (hk : outstanding.length < p.max_queue_size) :
    Inv e desc_page_size transfer_size base_buffer
      { p with m_queue := CB_DEQUEUE p.m_queue (DIV_ROUND_UP transfer_size desc_page_size) }
      (outstanding ++ [outstanding_buffer e desc_page_size transfer_size base_buffer
        p.m_next_enqueue_desc_offset outstanding.length]) where
  page_pos := h.page_pos
  page_lt := h.page_lt
  transfer_pos := h.transfer_pos
  desc_page_size_eq := h.desc_page_size_eq
  transfer_size_eq := h.transfer_size_eq
  base_buffer_eq := h.base_buffer_eq
  size_eq := h.size_eq
  size_mask_eq := h.size_mask_eq
  next_lt := h.next_lt
  head_eq := h.head_eq
  tail_eq := by
    simp only [CB_DEQUEUE, h.size_mask_eq, Nat.and_pow_two_sub_one_eq_mod, h.tail_eq, Nat.mod_add_mod,
      List.length_append, List.length_singleton]
    congr 1
    ring
  fits := by
    rw [h.max_queue_size_eq] at hk
    simpa [Nat.add_mul] using (Nat.le_div_iff_mul_le h.descs_pos).1 hk
  outstanding_eq := by
    conv_lhs => rw [h.outstanding_eq]
    simp [List.range_succ]

/-- What a successful `enqueue` checked, against the buffers out. -/
theorem Inv.enqueue_ok_iff (h : Inv e desc_page_size transfer_size base_buffer p outstanding)
    (buffer_info : TransferBuffer) :
    (∃ p', (p.enqueue buffer_info).run = some (.ok p')) ↔ ∃ o ∈ outstanding.head?,
      buffer_info.base_buffer.data = o.base_buffer.data ∧ buffer_info.size = o.size ∧
        buffer_info.offset = o.offset := by
  simp only [enqueue_run h.descs_in_transfer_eq, Option.some.injEq, exists_ite_ok_eq_ok, h.avail_eq]
  have hd := h.descs_pos
  rcases houts : outstanding with _ | ⟨o, rest⟩
  · exact iff_of_false (fun ⟨hA, _⟩ => by rw [List.length_nil, Nat.zero_mul] at hA; omega) nofun
  · have ho : o = outstanding_buffer e desc_page_size transfer_size base_buffer
        p.m_next_enqueue_desc_offset 0 := by
      have := h.outstanding_eq
      rw [houts, List.length_cons, List.range_succ_eq_map] at this
      exact (List.cons.inj this).1
    simp only [List.length_cons, List.head?_cons, Option.mem_def, Option.some.injEq, exists_eq_left', ho,
      outstanding_buffer, Nat.zero_mul, Nat.add_zero, Nat.mod_eq_of_lt h.next_lt, h.base_buffer_eq,
      h.transfer_size_eq, h.desc_page_size_eq]
    exact and_iff_right (Nat.le_mul_of_pos_left _ (Nat.succ_pos _))

theorem Inv.enqueue (h : Inv e desc_page_size transfer_size base_buffer p outstanding)
    {buffer_info : TransferBuffer} {p' : CircularStreamBufferPool}
    (he : (p.enqueue buffer_info).run = some (.ok p')) :
    Inv e desc_page_size transfer_size base_buffer p' outstanding.tail := by
  rw [enqueue_run h.descs_in_transfer_eq] at he
  split_ifs at he with hc <;> cases he
  have havail := hc.1
  rw [h.avail_eq] at havail
  rcases houts : outstanding with _ | ⟨o, rest⟩
  · have := h.descs_pos
    simp [houts] at havail; omega
  have hN : 0 < 2 ^ e := Nat.two_pow_pos e
  have hk := h.fits
  have hrest := h.outstanding_eq
  rw [houts, List.length_cons] at hk
  rw [houts, List.length_cons, List.range_succ_eq_map, List.map_cons, List.map_map] at hrest
  rw [houts] at h
  exact {
    page_pos := h.page_pos
    page_lt := h.page_lt
    transfer_pos := h.transfer_pos
    desc_page_size_eq := h.desc_page_size_eq
    transfer_size_eq := h.transfer_size_eq
    base_buffer_eq := h.base_buffer_eq
    size_eq := h.size_eq
    size_mask_eq := h.size_mask_eq
    next_lt := by simp only [h.size_mask_eq, Nat.and_pow_two_sub_one_eq_mod]; exact Nat.mod_lt _ hN
    head_eq := by
      simp only [CB_ENQUEUE, h.size_mask_eq, Nat.and_pow_two_sub_one_eq_mod, h.head_eq]
      exact mod_add_pred hN
    tail_eq := by
      simp only [CB_ENQUEUE, h.size_mask_eq, Nat.and_pow_two_sub_one_eq_mod, h.tail_eq, Nat.mod_add_mod,
        List.tail_cons, List.length_cons, Nat.succ_mul]
      congr 1
      omega
    fits := (Nat.mul_le_mul_right _ (Nat.le_succ _)).trans hk
    outstanding_eq := by
      rw [List.tail_cons]
      conv_lhs => rw [(List.cons.inj hrest).2]
      refine List.map_congr_left fun j _ => ?_
      simp only [Function.comp, outstanding_buffer, h.size_mask_eq, Nat.and_pow_two_sub_one_eq_mod,
        Nat.mod_add_mod, Nat.succ_mul]
      congr 3
      ring }

theorem Inv.reset_pointers (h : Inv e desc_page_size transfer_size base_buffer p outstanding) :
    Inv e desc_page_size transfer_size base_buffer p.reset_pointers [] where
  page_pos := h.page_pos
  page_lt := h.page_lt
  transfer_pos := h.transfer_pos
  desc_page_size_eq := h.desc_page_size_eq
  transfer_size_eq := h.transfer_size_eq
  base_buffer_eq := h.base_buffer_eq
  size_eq := h.size_eq
  size_mask_eq := h.size_mask_eq
  next_lt := Nat.two_pow_pos e
  head_eq := by
    simp [CircularStreamBufferPool.reset_pointers, CB_RESET, h.size_eq,
      Nat.mod_eq_of_lt (Nat.sub_lt (Nat.two_pow_pos e) Nat.one_pos)]
  tail_eq := by simp [CircularStreamBufferPool.reset_pointers, CB_RESET]
  fits := by simp
  outstanding_eq := rfl

/-- **Every call returns and keeps the invariant.** -/
theorem Inv.call (h : Inv e desc_page_size transfer_size base_buffer p outstanding) (c : StreamBufferPoolCall) :
    ∃ r, p.call outstanding c = some r ∧ Inv e desc_page_size transfer_size base_buffer r.1 r.2 := by
  cases c with
  | dequeue =>
    rw [CircularStreamBufferPool.call, h.dequeue_run]
    split_ifs with hk
    · exact ⟨_, rfl, h.dequeue hk⟩
    · exact ⟨_, rfl, h⟩
  | enqueue buffer_info =>
    rw [CircularStreamBufferPool.call]
    rcases he : (p.enqueue buffer_info).run with _ | _ | p'
    · rw [enqueue_run h.descs_in_transfer_eq] at he
      cases he
    · exact ⟨_, rfl, h⟩
    · exact ⟨_, rfl, h.enqueue he⟩
  | reset_pointers => exact ⟨_, rfl, h.reset_pointers⟩

/-- **Every run returns and keeps the invariant.** -/
theorem Inv.run (h : Inv e desc_page_size transfer_size base_buffer p outstanding) (cs : List StreamBufferPoolCall) :
    ∃ r, p.run outstanding cs = some r ∧ Inv e desc_page_size transfer_size base_buffer r.1 r.2 := by
  induction cs generalizing p outstanding with
  | nil => exact ⟨_, rfl, h⟩
  | cons c cs ih =>
    obtain ⟨r, hr, h'⟩ := h.call c
    rw [CircularStreamBufferPool.run, hr, Option.some_bind]
    exact ih h'

/-- The descriptors a transfer of `descs` descriptors covers in a ring of `N`
descriptors of `desc_page_size` bytes. -/
def desc_range (N desc_page_size descs : Nat) (b : TransferBuffer) : Finset Nat :=
  (Finset.range descs).image fun t => (b.offset / desc_page_size + t) % N

/-- **The buffers out never share a descriptor.** -/
theorem Inv.pairwise_disjoint (h : Inv e desc_page_size transfer_size base_buffer p outstanding) :
    outstanding.Pairwise fun b b' =>
      Disjoint (desc_range (2 ^ e) desc_page_size (DIV_ROUND_UP transfer_size desc_page_size) b)
        (desc_range (2 ^ e) desc_page_size (DIV_ROUND_UP transfer_size desc_page_size) b') := by
  have hk := h.fits
  rw [h.outstanding_eq, List.pairwise_map]
  refine (List.pairwise_lt_range _).imp_of_mem fun {i j} _ hj hij => ?_
  have hjk : j + 1 ≤ outstanding.length := List.mem_range.1 hj
  have hjN : j * DIV_ROUND_UP transfer_size desc_page_size + DIV_ROUND_UP transfer_size desc_page_size
      ≤ 2 ^ e :=
    calc j * DIV_ROUND_UP transfer_size desc_page_size + DIV_ROUND_UP transfer_size desc_page_size
        = (j + 1) * DIV_ROUND_UP transfer_size desc_page_size := by ring
      _ ≤ outstanding.length * DIV_ROUND_UP transfer_size desc_page_size := Nat.mul_le_mul_right _ hjk
      _ ≤ 2 ^ e := hk.trans (Nat.sub_le _ _)
  rw [Finset.disjoint_left]
  simp only [desc_range, outstanding_buffer, Nat.mul_div_cancel _ h.page_pos, Finset.mem_image,
    Finset.mem_range, Nat.mod_add_mod, not_exists, not_and]
  rintro _ ⟨t, ht, rfl⟩ t' ht' heq
  exact ranges_disjoint hij ht ht' hjN heq.symm

end Invariant

/-- **The circular pool, in every reachable state.**  Take a pool of `2 ^ e`
descriptors of `desc_page_size` bytes, with `0 < desc_page_size < 2 ^ 16`,
and transfers of `transfer_size > 0` bytes, and any sequence of calls.  The
calls return, and so does every call after them.  Let `k` be the number of
buffers dequeued and not yet given back since construction or the last
`reset_pointers`.  Then the buffers ready to dequeue and the `k` buffers out
add up to `max_queue_size`; `dequeue` succeeds exactly when
`k < max_queue_size`; `enqueue` succeeds exactly when it is given the base
buffer, the size and the offset of the oldest buffer out; and the buffers out
cover pairwise disjoint descriptors of the ring. -/
theorem reachable_spec (e desc_page_size transfer_size : Nat) (base_buffer : MemoryView)
    (hp : 0 < desc_page_size) (hp16 : desc_page_size < 2 ^ 16) (ht : 0 < transfer_size)
    (cs : List StreamBufferPoolCall) :
    ∃ r, (new desc_page_size (2 ^ e) transfer_size base_buffer).run [] cs = some r ∧
      (∀ c, r.1.call r.2 c ≠ none) ∧
      (∃ ready, r.1.buffers_ready_to_dequeue = some ready ∧ ready + r.2.length = r.1.max_queue_size) ∧
      ((∃ x, r.1.dequeue.run = some (.ok x)) ↔ r.2.length < r.1.max_queue_size) ∧
      (∀ buffer_info, (∃ p', (r.1.enqueue buffer_info).run = some (.ok p')) ↔ ∃ o ∈ r.2.head?,
        buffer_info.base_buffer.data = o.base_buffer.data ∧ buffer_info.size = o.size ∧
          buffer_info.offset = o.offset) ∧
      r.2.Pairwise fun b b' =>
        Disjoint (desc_range (2 ^ e) desc_page_size (DIV_ROUND_UP transfer_size desc_page_size) b)
          (desc_range (2 ^ e) desc_page_size (DIV_ROUND_UP transfer_size desc_page_size) b') := by
  obtain ⟨r, hr, h⟩ := (inv_new e desc_page_size transfer_size base_buffer hp hp16 ht).run cs
  refine ⟨r, hr, fun c => ?_, ⟨_, h.buffers_ready_to_dequeue_eq, Nat.sub_add_cancel h.length_le⟩, ?_,
    h.enqueue_ok_iff, h.pairwise_disjoint⟩
  · obtain ⟨_, hc, -⟩ := h.call c
    exact hc ▸ Option.some_ne_none _
  · rw [h.dequeue_run]
    split_ifs with hk <;> simp [hk]

theorem reachable_spec_two_dequeues :
    0 < 512 ∧ 512 < 2 ^ 16 ∧ 0 < 1000 ∧
    ∃ r, (new 512 (2 ^ 3) 1000 ⟨4096, 4096⟩).run [] [.dequeue, .dequeue] = some r ∧
      (∀ c, r.1.call r.2 c ≠ none) ∧
      (∃ ready, r.1.buffers_ready_to_dequeue = some ready ∧ ready + r.2.length = r.1.max_queue_size) ∧
      ((∃ x, r.1.dequeue.run = some (.ok x)) ↔ r.2.length < r.1.max_queue_size) ∧
      (∀ buffer_info, (∃ p', (r.1.enqueue buffer_info).run = some (.ok p')) ↔ ∃ o ∈ r.2.head?,
        buffer_info.base_buffer.data = o.base_buffer.data ∧ buffer_info.size = o.size ∧
          buffer_info.offset = o.offset) ∧
      r.2.Pairwise fun b b' =>
        Disjoint (desc_range (2 ^ 3) 512 (DIV_ROUND_UP 1000 512) b)
          (desc_range (2 ^ 3) 512 (DIV_ROUND_UP 1000 512) b') :=
  ⟨by decide, by decide, by decide, reachable_spec 3 512 1000 ⟨4096, 4096⟩ (by decide) (by decide) (by decide) _⟩

/-- **A page of `2 ^ 16` bytes.**  `create` accepts it, a power of two larger
than the transfer, and the fresh pool has room for a buffer; yet the first
`dequeue` divides by the page size cast to `uint16_t`, which is `0`. -/
theorem dequeue_page_65536 :
    (new (2 ^ 16) (2 ^ 1) 1 ⟨0, 2 ^ 17⟩).max_queue_size = 1 ∧
    (new (2 ^ 16) (2 ^ 1) 1 ⟨0, 2 ^ 17⟩).dequeue.run = none ∧
    (new (2 ^ 16) (2 ^ 1) 1 ⟨0, 2 ^ 17⟩).run [] [.dequeue] = none :=
  ⟨by decide, by decide, by decide⟩

end CircularStreamBufferPool

end Vdma
end HailoRT
