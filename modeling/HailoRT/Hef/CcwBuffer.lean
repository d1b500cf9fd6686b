/-
# A CCW buffer of the single-context configuration

`parse_ccw_buffer` (`hef.cpp`, lines 2390-2413) turns the bytes of a
`write_data_ccw` action into a `WriteMemoryInfo`.  The buffer starts with a
`CcwHeader` (lines 62-65) that the code reads by casting the buffer's pointer,
so on the little-endian hosts

| bytes    | field                   |
| `0 - 3`  | `uint32_t words_count`  |
| `4 - 7`  | `uint32_t address`      |
| `8 -`    | the data, `CCW_DATA_OFFSET = 8` |

and the data is `words_count + 1` words of `CCW_BYTES_IN_WORD = 4` bytes,
followed by one padding word when that count is odd.  The count and its byte
length are computed in `uint32_t`, so the length the code compares against the
buffer is `4 * (words_count + 1)` taken modulo `2 ^ 32`: the parser reads
`(words_count + 1) % 2 ^ 30` words (`parse_ccw_buffer_eq_ok`).  The two agree
below `2 ^ 30` words; above, a buffer of a few bytes whose header claims a
billion words is accepted (`parse_ccw_buffer_short_buffer_accepted`).
-/

import HailoRT.Common

namespace HailoRT
namespace Hef

/-! ### The model -/

/-- `CCW_BYTES_IN_WORD`. -/
def CCW_BYTES_IN_WORD : Nat := 4

/-- `CCW_DATA_OFFSET`. -/
def CCW_DATA_OFFSET : Nat := CCW_BYTES_IN_WORD * 2

/-- The natural with the given little-endian bytes. -/
def of_bytes_le : List UInt8 → Nat
  | [] => 0
  | b :: bs => b.toNat + 256 * of_bytes_le bs

/-- `CcwHeader`. -/
structure CcwHeader where
  words_count : Nat
  address : Nat
  deriving DecidableEq, Repr

/-- `(CcwHeader*)(ccw_buffer.data())`: the header's two `uint32_t` fields, each
read little-endian. -/
def CcwHeader.of_bytes (ccw_buffer : List UInt8) : CcwHeader :=
  ⟨of_bytes_le (ccw_buffer.take 4), of_bytes_le ((ccw_buffer.drop 4).take 4)⟩

/-- `WriteMemoryInfo`. -/
structure WriteMemoryInfo where
  address : Nat
  data : List UInt8
  deriving DecidableEq, Repr

/-- `parse_ccw_buffer`.  `words_count` and `data_length` are `uint32_t`; the
expected length is a `size_t`, which the padding word is taken from. -/
def parse_ccw_buffer (ccw_buffer : List UInt8) : Except HailoStatus WriteMemoryInfo := do
  CHECK (ccw_buffer.length > CCW_DATA_OFFSET) .HAILO_INVALID_HEF
  let header := CcwHeader.of_bytes ccw_buffer
  let words_count := (header.words_count + 1) % 2 ^ 32
  let data_length := mul_u32 words_count CCW_BYTES_IN_WORD
  let expected_ccw_data_length := ccw_buffer.length - CCW_DATA_OFFSET
  let expected_ccw_data_length :=
    if words_count % 2 ≠ 0 then (expected_ccw_data_length + 2 ^ 64 - CCW_BYTES_IN_WORD) % 2 ^ 64
    else expected_ccw_data_length
  CHECK (data_length = expected_ccw_data_length) .HAILO_INVALID_HEF
  return ⟨header.address, (ccw_buffer.drop CCW_DATA_OFFSET).take data_length⟩

/-! ### What the parser accepts -/

/-- The words of data the parser takes from a header. -/
def parsed_words (header : CcwHeader) : Nat := (header.words_count + 1) % 2 ^ 30

/-- The `uint32_t` byte length of the data is that of the parsed words. -/
theorem mul_u32_words_count (header : CcwHeader) :
    mul_u32 ((header.words_count + 1) % 2 ^ 32) CCW_BYTES_IN_WORD = CCW_BYTES_IN_WORD * parsed_words header := by
  rw [mul_u32, Nat.mul_comm, Nat.mul_mod, Nat.mod_mod, ← Nat.mul_mod, parsed_words, CCW_BYTES_IN_WORD,
    show 2 ^ 32 = 4 * 2 ^ 30 by norm_num, Nat.mul_mod_mul_left]

/-- The `uint32_t` count is odd exactly when the parsed words are. -/
theorem words_count_odd (header : CcwHeader) :
    (header.words_count + 1) % 2 ^ 32 % 2 ≠ 0 ↔ parsed_words header % 2 = 1 := by
  rw [parsed_words, Nat.mod_mod_of_dvd _ (by norm_num), Nat.mod_mod_of_dvd _ (by norm_num)]
  exact Nat.mod_two_ne_zero

/-- **What `parse_ccw_buffer` accepts.**  Of any buffer a `std::string` can
hold, it accepts exactly those longer than the header whose data is the
header's `parsed_words` words, with a padding word when they are odd, and it
returns the header's address and those words. -/
theorem parse_ccw_buffer_eq_ok {ccw_buffer : List UInt8} {info : WriteMemoryInfo}
    (hlen : ccw_buffer.length < 2 ^ 64) :
    parse_ccw_buffer ccw_buffer = .ok info ↔
      CCW_DATA_OFFSET < ccw_buffer.length ∧
      ccw_buffer.length = CCW_DATA_OFFSET + CCW_BYTES_IN_WORD * parsed_words (.of_bytes ccw_buffer) +
        (if parsed_words (.of_bytes ccw_buffer) % 2 = 1 then CCW_BYTES_IN_WORD else 0) ∧
      info = ⟨(CcwHeader.of_bytes ccw_buffer).address,
        (ccw_buffer.drop CCW_DATA_OFFSET).take (CCW_BYTES_IN_WORD * parsed_words (.of_bytes ccw_buffer))⟩ := by
  simp only [parse_ccw_buffer, CHECK_bind_eq_ok, mul_u32_words_count, words_count_odd, Except.pure_eq_ok,
    Except.ok.injEq, gt_iff_lt]
  refine and_congr_right fun hgt => and_congr ?_ eq_comm
  simp only [CCW_DATA_OFFSET, CCW_BYTES_IN_WORD] at hgt ⊢
  split_ifs <;> omega

theorem parse_ccw_buffer_eq_ok_two_words :
    [1, 0, 0, 0, 0, 0, 0, 0, 1, 2, 3, 4, 5, 6, 7, 8].length < 2 ^ 64 ∧
    (parse_ccw_buffer [1, 0, 0, 0, 0, 0, 0, 0, 1, 2, 3, 4, 5, 6, 7, 8] = .ok ⟨0, [1, 2, 3, 4, 5, 6, 7, 8]⟩ ↔
      CCW_DATA_OFFSET < [1, 0, 0, 0, 0, 0, 0, 0, 1, 2, 3, 4, 5, 6, 7, 8].length ∧
      [1, 0, 0, 0, 0, 0, 0, 0, 1, 2, 3, 4, 5, 6, 7, 8].length = CCW_DATA_OFFSET +
        CCW_BYTES_IN_WORD * parsed_words (.of_bytes [1, 0, 0, 0, 0, 0, 0, 0, 1, 2, 3, 4, 5, 6, 7, 8]) +
        (if parsed_words (.of_bytes [1, 0, 0, 0, 0, 0, 0, 0, 1, 2, 3, 4, 5, 6, 7, 8]) % 2 = 1 then CCW_BYTES_IN_WORD
          else 0) ∧
      (⟨0, [1, 2, 3, 4, 5, 6, 7, 8]⟩ : WriteMemoryInfo) =
        ⟨(CcwHeader.of_bytes [1, 0, 0, 0, 0, 0, 0, 0, 1, 2, 3, 4, 5, 6, 7, 8]).address,
          ([1, 0, 0, 0, 0, 0, 0, 0, 1, 2, 3, 4, 5, 6, 7, 8].drop CCW_DATA_OFFSET).take
            (CCW_BYTES_IN_WORD * parsed_words (.of_bytes [1, 0, 0, 0, 0, 0, 0, 0, 1, 2, 3, 4, 5, 6, 7, 8]))⟩) :=
  ⟨by decide, parse_ccw_buffer_eq_ok (by decide)⟩

/-- A buffer of `16` bytes whose header claims `2 ^ 30` data words, `1, 2, 3, 4`
and a padding word. -/
def short_ccw_buffer : List UInt8 := [0, 0, 0, 64, 0, 0, 0, 0, 1, 2, 3, 4, 0, 0, 0, 0]

/-- The `uint32_t` product wraps: `parse_ccw_buffer` accepts the short buffer as
one of a single data word, where `2 ^ 30 + 1` words would need more than four
gigabytes. -/
theorem parse_ccw_buffer_short_buffer_accepted :
    (CcwHeader.of_bytes short_ccw_buffer).words_count = 2 ^ 30 ∧
      short_ccw_buffer.length < CCW_DATA_OFFSET + CCW_BYTES_IN_WORD * ((CcwHeader.of_bytes short_ccw_buffer).words_count + 1) ∧
      parse_ccw_buffer short_ccw_buffer = .ok ⟨0, [1, 2, 3, 4]⟩ :=
  ⟨rfl, by decide, rfl⟩

end Hef
end HailoRT
