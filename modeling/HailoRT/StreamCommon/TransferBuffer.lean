/-
# Copying into and out of a circular transfer buffer

A `TransferBuffer` (`stream_common/transfer_common.cpp`, lines 23-107) is
`size` bytes of a base buffer `B`, from `offset` on, wrapping to the start of
`B`.  `get_continuous_parts` splits it in two:

| `is_wrap_around()`    | first part             | second part                  |
| `offset + size ≤ |B|` | `[offset, offset + size)` | empty                     |
| `offset + size > |B|` | `[offset, |B|)`        | `[0, size - (|B| - offset))` |

`copy_from` copies a buffer of `size` bytes into the two parts in order, and
`copy_to` copies the two parts out in the same order.  So `copy_from` writes
byte `i` of the buffer to byte `(offset + i) % |B|` and keeps every other byte
(`copy_from_bytes`), and a `copy_to` after it reads the same buffer back
(`copy_to_copy_from`), whether or not the transfer wraps.

The memory of `B` is the list of its `|B|` bytes.  `memcpy` writes a range of
one list over a range of another, both inside their lists.
-/

import HailoRT.Common

namespace HailoRT

/-! ### `memcpy` -/

/-- `memcpy(dst + dst_offset, src + src_offset, size)`: the bytes of `dst` after. -/
def memcpy (dst : List UInt8) (dst_offset : Nat) (src : List UInt8) (src_offset size : Nat) : List UInt8 :=
  dst.take dst_offset ++ (src.drop src_offset).take size ++ dst.drop (dst_offset + size)

section Memcpy

variable {dst src : List UInt8} {dst_offset src_offset size : Nat}

theorem length_memcpy (hdst : dst_offset + size ≤ dst.length) (hsrc : src_offset + size ≤ src.length) :
    (memcpy dst dst_offset src src_offset size).length = dst.length := by
  simp only [memcpy, List.length_append, List.length_take, List.length_drop]
  omega

/-- The bytes of a copy: the source's inside the destination range, the
destination's outside it. -/
theorem getElem?_memcpy (hdst : dst_offset + size ≤ dst.length) (hsrc : src_offset + size ≤ src.length)
    (j : Nat) :
    (memcpy dst dst_offset src src_offset size)[j]? =
      if dst_offset ≤ j ∧ j < dst_offset + size then src[src_offset + (j - dst_offset)]? else dst[j]? := by
  have hA : (dst.take dst_offset).length = dst_offset := by simp only [List.length_take]; omega
  have hM : ((src.drop src_offset).take size).length = size := by
    simp only [List.length_take, List.length_drop]; omega
  unfold memcpy
  by_cases h₁ : j < dst_offset + size
  · rw [List.getElem?_append_left (by simp only [List.length_append, hA, hM]; exact h₁)]
    by_cases h₂ : dst_offset ≤ j
    · rw [if_pos ⟨h₂, h₁⟩, List.getElem?_append_right (by omega), hA, List.getElem?_take_of_lt (by omega),
        List.getElem?_drop]
    · rw [if_neg (by omega), List.getElem?_append_left (by omega), List.getElem?_take_of_lt (by omega)]
  · rw [if_neg (by omega), List.getElem?_append_right (by simp only [List.length_append, hA, hM]; omega),
      List.length_append, hA, hM, List.getElem?_drop, show dst_offset + size + (j - (dst_offset + size)) = j by omega]

end Memcpy

/-- A copy of nothing leaves the destination. -/
@[simp] theorem memcpy_zero (dst src : List UInt8) (dst_offset src_offset : Nat) :
    memcpy dst dst_offset src src_offset 0 = dst := by
  simp [memcpy]

/-! ### The model -/

namespace TransferBuffer

/-- `is_wrap_around`. -/
def is_wrap_around (t : TransferBuffer) : Bool :=
  t.offset + t.size > t.base_buffer.size

/-- A contiguous part of the base buffer: its offset in it and its size. -/
structure ContinuousPart where
  offset : Nat
  size : Nat
  deriving DecidableEq, Repr

/-- `get_continuous_parts`; the empty `MemoryView()` is a part of size `0`. -/
def get_continuous_parts (t : TransferBuffer) : ContinuousPart × ContinuousPart :=
  if t.is_wrap_around then
    let size_to_end := t.base_buffer.size - t.offset
    (⟨t.offset, size_to_end⟩, ⟨0, t.size - size_to_end⟩)
  else (⟨t.offset, t.size⟩, ⟨0, 0⟩)

/-- `copy_from(buffer)`: the bytes of the base buffer after. -/
def copy_from (t : TransferBuffer) (base buffer : List UInt8) : Except HailoStatus (List UInt8) := do
  CHECK (buffer.length = t.size) .HAILO_INTERNAL_FAILURE
  let continuous_parts := t.get_continuous_parts
  let base := memcpy base continuous_parts.1.offset buffer 0 continuous_parts.1.size
  if continuous_parts.2.size ≠ 0 then
    let src_offset := continuous_parts.1.size
    return memcpy base continuous_parts.2.offset buffer src_offset continuous_parts.2.size
  else return base

/-- `copy_to(buffer)`: the bytes of the buffer after. -/
def copy_to (t : TransferBuffer) (base buffer : List UInt8) : Except HailoStatus (List UInt8) := do
  CHECK (buffer.length = t.size) .HAILO_INTERNAL_FAILURE
  let continuous_parts := t.get_continuous_parts
  let buffer := memcpy buffer 0 base continuous_parts.1.offset continuous_parts.1.size
  if continuous_parts.2.size ≠ 0 then
    let dest_offset := continuous_parts.1.size
    return memcpy buffer dest_offset base continuous_parts.2.offset continuous_parts.2.size
  else return buffer

/-! ### The two parts -/

section Parts

variable {t : TransferBuffer}

/-- The parts of a transfer that the constructor's asserts allow: the first
from `offset`, the second from `0`, `size` bytes together, and either the
first is the whole transfer or it runs to the end of the base buffer. -/
theorem get_continuous_parts_eq (hoffset : t.offset < t.base_buffer.size) (hsize : t.size ≤ t.base_buffer.size) :
    ∃ first_size, t.get_continuous_parts = (⟨t.offset, first_size⟩, ⟨0, t.size - first_size⟩) ∧
      first_size ≤ t.size ∧ t.offset + first_size ≤ t.base_buffer.size ∧ t.size - first_size ≤ t.offset ∧
      (first_size = t.size ∨ t.offset + first_size = t.base_buffer.size) := by
  unfold get_continuous_parts is_wrap_around
  split_ifs with hwrap <;> simp only [decide_eq_true_eq] at hwrap
  · exact ⟨_, rfl, by omega, by omega, by omega, by omega⟩
  · exact ⟨_, by rw [Nat.sub_self], le_rfl, by omega, by omega, by omega⟩

/-- Byte `i` of a transfer is byte `(offset + i) % |B|` of the base buffer: in
the first part, or at `i - first_size` in the second. -/
theorem circular_index {first_size i : Nat} (hfit : t.offset + first_size ≤ t.base_buffer.size)
    (hend : first_size = t.size ∨ t.offset + first_size = t.base_buffer.size)
    (hsize : t.size ≤ t.base_buffer.size) (hi : i < t.size) :
    (t.offset + i) % t.base_buffer.size = if i < first_size then t.offset + i else i - first_size := by
  split_ifs with h
  · exact Nat.mod_eq_of_lt (by omega)
  · rcases hend with hend | hend
    · omega
    · rw [show t.offset + i = t.base_buffer.size + (i - first_size) by omega, Nat.add_mod_left,
        Nat.mod_eq_of_lt (by omega)]

end Parts

/-! ### The copies -/

section Copies

variable {t : TransferBuffer} {first_size : Nat}
  (hparts : t.get_continuous_parts = (⟨t.offset, first_size⟩, ⟨0, t.size - first_size⟩))
include hparts

/-- `copy_from` with its parts: the second copy is a no-op when the second part
is empty. -/
theorem copy_from_eq {base buffer : List UInt8} (hbuffer : buffer.length = t.size) :
    t.copy_from base buffer =
      .ok (memcpy (memcpy base t.offset buffer 0 first_size) 0 buffer first_size (t.size - first_size)) := by
  simp only [copy_from, CHECK_pos hbuffer, Except.ok_bind, hparts]
  split_ifs with h
  · rfl
  · rw [Nat.eq_zero_of_not_pos (fun hpos => h (Nat.pos_iff_ne_zero.1 hpos)), memcpy_zero]
    rfl

/-- `copy_to` with its parts. -/
theorem copy_to_eq {base buffer : List UInt8} (hbuffer : buffer.length = t.size) :
    t.copy_to base buffer =
      .ok (memcpy (memcpy buffer 0 base t.offset first_size) first_size base 0 (t.size - first_size)) := by
  simp only [copy_to, CHECK_pos hbuffer, Except.ok_bind, hparts]
  split_ifs with h
  · rfl
  · rw [Nat.eq_zero_of_not_pos (fun hpos => h (Nat.pos_iff_ne_zero.1 hpos)), memcpy_zero]
    rfl

end Copies

/-- The base buffer after `copy_from`, byte by byte: the second part's bytes
come from the end of the buffer, the first part's from its start. -/
theorem getElem?_copy_from_bytes {base buffer : List UInt8} {offset first_size size : Nat}
    (hbuffer : buffer.length = size) (hfirst : first_size ≤ size) (hfit : offset + first_size ≤ base.length)
    (hsecond : size - first_size ≤ base.length) (j : Nat) :
    (memcpy (memcpy base offset buffer 0 first_size) 0 buffer first_size (size - first_size))[j]? =
      if j < size - first_size then buffer[first_size + j]?
      else if offset ≤ j ∧ j < offset + first_size then buffer[j - offset]? else base[j]? := by
  rw [getElem?_memcpy (by rw [length_memcpy hfit (by omega)]; omega) (by omega),
    getElem?_memcpy hfit (by omega)]
  simp only [Nat.zero_le, true_and, Nat.zero_add, Nat.sub_zero]

/-- A copy out reads byte `i` of the transfer from byte `(offset + i) % |B|`
of the base buffer: from a base buffer that holds `x` there, it reads `x`
back. -/
theorem copy_to_of_circular {t : TransferBuffer} {base x y : List UInt8} (hbase : t.base_buffer.size = base.length)
    (hsize : t.size ≤ base.length) (hoffset : t.offset < base.length) (hx : x.length = t.size)
    (hy : y.length = t.size) (hhit : ∀ i < t.size, base[(t.offset + i) % base.length]? = x[i]?) :
    t.copy_to base y = .ok x := by
  obtain ⟨first_size, hparts, hfirst, hfit, hsecond, hend⟩ := get_continuous_parts_eq (hbase ▸ hoffset) (hbase ▸ hsize)
  have hindex := fun i (hi : i < t.size) => circular_index hfit hend (hbase ▸ hsize) hi
  rw [hbase] at hfit hend hindex
  rw [copy_to_eq hparts hy]
  congr 1
  refine List.ext_getElem? fun j => ?_
  rw [getElem?_memcpy (by rw [length_memcpy (by omega) (by omega)]; omega) (by omega),
    getElem?_memcpy (by omega) (by omega)]
  by_cases hj : j < t.size
  · have h := hhit j hj
    rw [hindex j hj] at h
    by_cases hfirst_part : j < first_size
    · rw [if_pos hfirst_part] at h
      rw [if_neg (by omega), if_pos ⟨Nat.zero_le _, by omega⟩, Nat.sub_zero, h]
    · rw [if_neg hfirst_part] at h
      rw [if_pos ⟨by omega, by omega⟩, Nat.zero_add, h]
  · rw [if_neg (by omega), if_neg (by omega), List.getElem?_eq_none (by omega), List.getElem?_eq_none (by omega)]

/-- **A copy in, then a copy out.**  For a transfer the constructor accepts,
`offset < |B|` and `size ≤ |B|`, and a buffer `x` of `size` bytes: `copy_from`
writes `x[i]` to byte `(offset + i) % |B|` of the base buffer and keeps every
other byte, and `copy_to` then reads `x` back into any buffer of `size`
bytes. -/
theorem copy_from_copy_to {t : TransferBuffer} {base x y : List UInt8} (hbase : t.base_buffer.size = base.length)
    (hsize : t.size ≤ base.length) (hoffset : t.offset < base.length) (hx : x.length = t.size)
    (hy : y.length = t.size) :
    ∃ base', t.copy_from base x = .ok base' ∧ base'.length = base.length ∧
      (∀ i < t.size, base'[(t.offset + i) % base.length]? = x[i]?) ∧
      (∀ j < base.length, (∀ i < t.size, (t.offset + i) % base.length ≠ j) → base'[j]? = base[j]?) ∧
      t.copy_to base' y = .ok x := by
  obtain ⟨first_size, hparts, hfirst, hfit, hsecond, hend⟩ := get_continuous_parts_eq (hbase ▸ hoffset) (hbase ▸ hsize)
  have hindex := fun i (hi : i < t.size) => circular_index hfit hend (hbase ▸ hsize) hi
  rw [hbase] at hfit hend hindex
  have hbytes := getElem?_copy_from_bytes hx hfirst hfit (by omega)
  -- each byte of the transfer lands where `circular_index` says
  have hhit : ∀ i < t.size, (memcpy (memcpy base t.offset x 0 first_size) 0 x first_size
      (t.size - first_size))[(t.offset + i) % base.length]? = x[i]? := by
    intro i hi
    rw [hindex i hi, hbytes]
    by_cases h : i < first_size
    · rw [if_pos h, if_neg (by omega), if_pos (by omega), Nat.add_sub_cancel_left]
    · rw [if_neg h, if_pos (by omega), Nat.add_sub_cancel' (by omega)]
  have hlength : (memcpy (memcpy base t.offset x 0 first_size) 0 x first_size (t.size - first_size)).length =
      base.length := by
    rw [length_memcpy (by rw [length_memcpy hfit (by omega)]; omega) (by omega), length_memcpy hfit (by omega)]
  refine ⟨_, copy_from_eq hparts hx, hlength, hhit, fun j hj hmiss => ?_,
    copy_to_of_circular (hbase.trans hlength.symm) (hlength ▸ hsize) (hlength ▸ hoffset) hx hy (hlength ▸ hhit)⟩
  -- a byte no index reaches is in neither part
  rw [hbytes, if_neg, if_neg]
  · rintro ⟨h₁, h₂⟩
    exact hmiss (j - t.offset) (by omega) (by rw [hindex _ (by omega), if_pos (by omega)]; omega)
  · intro h
    exact hmiss (first_size + j) (by omega) (by rw [hindex _ (by omega), if_neg (by omega)]; omega)

/-- Three bytes from offset `2` of a four-byte base buffer: bytes `2`, `3`,
then `0`. -/
def wrapping_transfer : TransferBuffer := ⟨⟨0, 4⟩, 3, 2⟩

/-- `1, 2, 3` copied into the wrapping transfer of a zeroed buffer, and back. -/
theorem copy_from_copy_to_wrapping :
    wrapping_transfer.base_buffer.size = ([0, 0, 0, 0] : List UInt8).length ∧
      wrapping_transfer.size ≤ ([0, 0, 0, 0] : List UInt8).length ∧
      wrapping_transfer.offset < ([0, 0, 0, 0] : List UInt8).length ∧
      ([1, 2, 3] : List UInt8).length = wrapping_transfer.size ∧
      ([0, 0, 0] : List UInt8).length = wrapping_transfer.size ∧
      wrapping_transfer.copy_from [0, 0, 0, 0] [1, 2, 3] = .ok [3, 0, 1, 2] ∧
      ∃ base', wrapping_transfer.copy_from [0, 0, 0, 0] [1, 2, 3] = .ok base' ∧
        base'.length = ([0, 0, 0, 0] : List UInt8).length ∧
        (∀ i < wrapping_transfer.size,
          base'[(wrapping_transfer.offset + i) % ([0, 0, 0, 0] : List UInt8).length]? = ([1, 2, 3] : List UInt8)[i]?) ∧
        (∀ j < ([0, 0, 0, 0] : List UInt8).length,
          (∀ i < wrapping_transfer.size, (wrapping_transfer.offset + i) % ([0, 0, 0, 0] : List UInt8).length ≠ j) →
            base'[j]? = ([0, 0, 0, 0] : List UInt8)[j]?) ∧
        wrapping_transfer.copy_to base' [0, 0, 0] = .ok [1, 2, 3] :=
  ⟨rfl, by decide, by decide, rfl, rfl, rfl, copy_from_copy_to rfl (by decide) (by decide) rfl rfl⟩

end TransferBuffer

end HailoRT
