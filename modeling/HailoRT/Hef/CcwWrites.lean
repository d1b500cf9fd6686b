/-
# CCW writes and their NOP padding

`WriteDataCcwAction::execute` (`hef.cpp`, lines 2856-2874) appends an action's
CCW bytes to its config channel's `ConfigBuffer`.  On the channel's last write
(`is_last_ccw_write`: the bytes written so far and this write make the
channel's `total_cfg_size`) with pre-fetch it first calls `pad_with_nops`
(lines 2833-2854), which fills the buffer's last descriptor page with 8-byte
NOPs,

| `buffer_residue` | `total_cfg_size % desc_page_size` |
| `nop_count`      | `0` if the residue is `0`, else `(desc_page_size - buffer_residue) / 8` |

so that the buffer ends on a page boundary.  The loop that writes them counts
in a `uint8_t`: `for (uint8_t nop_index = 0; nop_index < nop_count; nop_index++)`.
With `nop_count ≤ 255` it writes exactly `nop_count` NOPs (`pad_with_nops_run`);
from `256` on the counter wraps before it reaches `nop_count` and the loop never
exits (`pad_with_nops_diverges`).  A page of `4096` bytes or more reaches that
count whenever the residue leaves `2048` bytes or more of the page to fill.
-/

import HailoRT.Hef.ContextRecipes

namespace HailoRT
namespace Hef

/-! ### The config buffer's size -/

@[simp] theorem ConfigBuffer.write_write (config : ConfigBuffer) (m n : Nat) :
    (config.write m).write n = config.write (m + n) := by
  simp [ConfigBuffer.write, Nat.add_assoc]

@[simp] theorem ConfigBuffer.write_zero (config : ConfigBuffer) : config.write 0 = config := rfl

@[simp] theorem ConfigBuffer.write_current_buffer_size (config : ConfigBuffer) (n : Nat) :
    (config.write n).current_buffer_size = config.current_buffer_size + n := rfl

@[simp] theorem ConfigBuffer.write_desc_page_size (config : ConfigBuffer) (n : Nat) :
    (config.write n).desc_page_size = config.desc_page_size := rfl

@[simp] theorem ConfigBuffer.write_total_cfg_size (config : ConfigBuffer) (n : Nat) :
    (config.write n).total_cfg_size = config.total_cfg_size := rfl

/-! ### The NOP loop -/

/-- The `nop_count` of `pad_with_nops`. -/
def nop_count (config : ConfigBuffer) : Nat :=
  let buffer_residue := config.total_cfg_size % config.desc_page_size
  if buffer_residue = 0 then 0 else (config.desc_page_size - buffer_residue) / CCW_HEADER_SIZE

/-- Below `256` NOPs the loop writes them all, from any counter value up to the
count. -/
theorem nop_loop_of_lt {count : Nat} (hcount : count < 256) :
    ∀ {fuel nop_index : Nat} (config : ConfigBuffer), nop_index ≤ count → nop_index + fuel = 256 →
      nop_loop fuel nop_index count config = some (config.write ((count - nop_index) * CCW_HEADER_SIZE))
  | 0, _, _, hi, hf => by omega
  | fuel + 1, i, config, hi, hf => by
    rw [nop_loop]
    split_ifs with hlt
    · rw [Nat.mod_eq_of_lt (by omega), nop_loop_of_lt hcount _ (by omega) (by omega),
        ConfigBuffer.write_write]
      congr 2
      simp only [CCW_HEADER_SIZE]
      omega
    · rw [show count - i = 0 by omega, Nat.zero_mul, ConfigBuffer.write_zero]

/-- From `256` NOPs on the `uint8_t` counter never reaches the count. -/
theorem nop_loop_of_le {count : Nat} (hcount : 256 ≤ count) :
    ∀ {fuel nop_index : Nat} (config : ConfigBuffer), nop_index < 256 →
      nop_loop fuel nop_index count config = none
  | 0, _, _, _ => rfl
  | fuel + 1, i, config, hi => by
    rw [nop_loop, if_pos (by omega)]
    exact nop_loop_of_le hcount _ (Nat.mod_lt _ (by decide))

/-- **`pad_with_nops`, run.**  It fails unless the residue is a multiple of the
CCW size; otherwise it writes `nop_count` NOPs if there are at most `255`, and
never returns if there are more. -/
theorem pad_with_nops_run (config : ConfigBuffer) :
    (pad_with_nops config).run =
      if config.total_cfg_size % config.desc_page_size % CCW_HEADER_SIZE = 0 then
        if nop_count config < 256 then some (.ok (config.write (nop_count config * CCW_HEADER_SIZE)))
        else none
      else some (.error .HAILO_INTERNAL_FAILURE) := by
  unfold pad_with_nops
  split_ifs with hres hcount
  · rw [ExceptT.run_bind, MayDiverge.run_monadLift, CHECK_pos hres]
    show Option.map _ (nop_loop 256 0 (nop_count config) config) = _
    rw [nop_loop_of_lt hcount config (Nat.zero_le _) (Nat.zero_add 256)]
    rfl
  · rw [ExceptT.run_bind, MayDiverge.run_monadLift, CHECK_pos hres]
    show Option.map _ (nop_loop 256 0 (nop_count config) config) = _
    rw [nop_loop_of_le (Nat.le_of_not_lt hcount) config (show 0 < 256 by decide)]
    rfl
  · rw [ExceptT.run_bind, MayDiverge.run_monadLift, CHECK_neg hres]
    rfl

/-- **Large pages hang the padding.**  A buffer whose residue is a multiple of
the CCW size but leaves `256` or more NOPs to write sends `pad_with_nops` into
a loop that never exits. -/
theorem pad_with_nops_diverges {config : ConfigBuffer}
    (hres : config.total_cfg_size % config.desc_page_size % CCW_HEADER_SIZE = 0)
    (hcount : 256 ≤ nop_count config) : (pad_with_nops config).run = none := by
  rw [pad_with_nops_run, if_pos hres, if_neg (by omega)]

/-- A page of `4096` bytes and a buffer of `8`: `511` NOPs to write. -/
theorem pad_with_nops_diverges_page_4096 :
    (8 : Nat) % 4096 % CCW_HEADER_SIZE = 0 ∧ 256 ≤ nop_count ⟨4096, 8, 0⟩ ∧
      (pad_with_nops ⟨4096, 8, 0⟩).run = none :=
  ⟨by decide, by decide, pad_with_nops_diverges (by decide) (by decide)⟩

/-- With at most `255` NOPs the padding does its job: the bytes written by the
end of the last write fill whole pages. -/
theorem execute_last_write_page_aligned {program_descriptors : ConfigBuffer → Except HailoStatus Unit}
    {write_size : Nat} {config config' : ConfigBuffer} (hpage : 0 < config.desc_page_size)
    (hccw : CCW_HEADER_SIZE ∣ config.desc_page_size) (hlast : is_last_ccw_write write_size config = true)
    (h : (WriteDataCcwAction.execute program_descriptors write_size true config).run = some (.ok config')) :
    config'.current_buffer_size % config.desc_page_size = 0 := by
  simp only [WriteDataCcwAction.execute, hlast, Bool.and_self, if_true] at h
  obtain ⟨padded, hpad, h⟩ := MayDiverge.run_bind_eq_ok.1 h
  obtain ⟨_, -, h⟩ := MayDiverge.run_bind_eq_ok.1 h
  cases Except.ok.inj (Option.some.inj h)
  rw [pad_with_nops_run] at hpad
  split_ifs at hpad with hres <;> cases hpad
  have htotal : write_size + config.current_buffer_size = config.total_cfg_size := by
    simpa [is_last_ccw_write] using hlast
  -- the NOPs are the rest of the last page
  have hmod := Nat.div_add_mod config.total_cfg_size config.desc_page_size
  have hlt := Nat.mod_lt config.total_cfg_size hpage
  obtain ⟨k, hk⟩ := hccw
  simp only [CCW_HEADER_SIZE] at hres hk
  simp only [ConfigBuffer.write_current_buffer_size, nop_count, CCW_HEADER_SIZE]
  split_ifs with hr
  · rw [show config.current_buffer_size + 0 * 8 + write_size =
      config.desc_page_size * (config.total_cfg_size / config.desc_page_size) by omega]
    exact Nat.mul_mod_right _ _
  · rw [show config.current_buffer_size + (config.desc_page_size - config.total_cfg_size % config.desc_page_size) /
        8 * 8 + write_size =
      config.desc_page_size * (config.total_cfg_size / config.desc_page_size) + config.desc_page_size by omega,
      Nat.add_mod_right]
    exact Nat.mul_mod_right _ _

theorem execute_last_write_page_aligned_one_nop :
    0 < (⟨16, 8, 0⟩ : ConfigBuffer).desc_page_size ∧ CCW_HEADER_SIZE ∣ (⟨16, 8, 0⟩ : ConfigBuffer).desc_page_size ∧
      is_last_ccw_write 8 ⟨16, 8, 0⟩ = true ∧
      (WriteDataCcwAction.execute (fun _ => .ok ()) 8 true ⟨16, 8, 0⟩).run = some (.ok ⟨16, 8, 16⟩) ∧
      (⟨16, 8, 16⟩ : ConfigBuffer).current_buffer_size % (⟨16, 8, 0⟩ : ConfigBuffer).desc_page_size = 0 :=
  have hlast : is_last_ccw_write 8 ⟨16, 8, 0⟩ = true := rfl
  have h : (WriteDataCcwAction.execute (fun _ => .ok ()) 8 true ⟨16, 8, 0⟩).run = some (.ok ⟨16, 8, 16⟩) := rfl
  ⟨by decide, by decide, hlast, h, execute_last_write_page_aligned (by decide) (by decide) hlast h⟩

end Hef
end HailoRT
