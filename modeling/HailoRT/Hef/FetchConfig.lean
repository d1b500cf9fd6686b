/-
# Pass A: the fetch actions after each run of config writes

`add_fetch_config_actions` (`hef.cpp`, lines 1988-2111) walks the actions of
one operation.  Each `WriteDataCcwAction` adds its config channel to a pending
`std::set<uint8_t>` and counts one burst for it in `total_ccw_bursts`; at the
last action of a maximal run of them, `push_fetch_config_actions` appends one
fetch action per pending channel, in the set's ascending order, and the
accumulators are cleared for the next run.

The clearing loop counts with a `uint8_t` up to `total_ccw_bursts.size()`, the
number of config buffers.  Past 255 buffers the counter wraps before it reaches
the bound and the loop never exits (`cleanup_loop_eq`).  Up to 255 buffers, and
with every write's channel below their number (which
`WriteDataCcwAction::create` checks), `add_fetch_config_actions_eq` computes the
pass: it fails exactly when some run writes one channel more than 65535 times,
and otherwise inserts `fetch_config_actions` after every run of writes and
changes nothing else.  A context has one config buffer per channel its parsing
info records, at most `CONTROL_PROTOCOL__MAX_CFG_CHANNELS` of them, which
`Hef.ContextRecipes` uses to discharge the bound.
-/

import HailoRT.Hef.Runs

namespace HailoRT
namespace Hef

open ContextSwitchConfigAction

/-! ### The model -/

/-- The body of `push_fetch_config_actions`' loop, for one pending channel. -/
def push_fetch_config_action (config_resources : List ConfigBuffer) (total_ccw_bursts : List Nat)
    (support_pre_fetch : Bool) (processed_configuration_actions : List ContextSwitchConfigAction)
    (config_stream_index : Nat) : Except HailoStatus (List ContextSwitchConfigAction) := do
  CHECK (config_stream_index < config_resources.length) .HAILO_INTERNAL_FAILURE
  let fetch_config_action := if support_pre_fetch then
      AddCcwBurstAction.create config_stream_index (total_ccw_bursts.getD config_stream_index 0)
    else CreateConfigDescAndFetchAction.create config_stream_index
  return processed_configuration_actions ++ [fetch_config_action]

/-- `push_fetch_config_actions`. -/
def push_fetch_config_actions (config_resources : List ConfigBuffer)
    (pending_config_stream_indexes total_ccw_bursts : List Nat) (support_pre_fetch : Bool)
    (processed_configuration_actions : List ContextSwitchConfigAction) :
    Except HailoStatus (List ContextSwitchConfigAction) := do
  CHECK (total_ccw_bursts.length = config_resources.length) .HAILO_INTERNAL_FAILURE
  pending_config_stream_indexes.foldlM
    (push_fetch_config_action config_resources total_ccw_bursts support_pre_fetch)
    processed_configuration_actions

/-- The clearing loop of `proccess_write_ccw_action`,
`for (uint8_t cleanup_ch_index = 0; cleanup_ch_index < total_ccw_bursts.size(); cleanup_ch_index++)`,
at counter `cleanup_ch_index` with `fuel` of the counter's 256 values left.
After 256 passes that all found the counter below the size, the counter is 0
again and every entry it reaches is already cleared: from there the loop
repeats itself and never exits, which is `none`. -/
def cleanup_loop : (fuel cleanup_ch_index : Nat) → List Nat → Option (List Nat)
  | 0, _, _ => none
  | fuel + 1, cleanup_ch_index, total_ccw_bursts =>
      if cleanup_ch_index < total_ccw_bursts.length then
        cleanup_loop fuel ((cleanup_ch_index + 1) % 256) (total_ccw_bursts.set cleanup_ch_index 0)
      else some total_ccw_bursts

/-- The accumulators of `add_fetch_config_actions`' loop. -/
structure FetchConfigState where
  pending_config_stream_indexes : List Nat
  total_ccw_bursts : List Nat
  processed_configuration_actions : List ContextSwitchConfigAction

/-- `proccess_write_ccw_action`. -/
def proccess_write_ccw_action (configuration_action : ContextSwitchConfigAction)
    (config_resources : List ConfigBuffer) (end_indexes_of_write_ccw_actions : List Nat)
    (action_index : Nat) (support_pre_fetch : Bool) (s : FetchConfigState) :
    MayDiverge FetchConfigState := do
  let config_stream_index := configuration_action.action.write_data_ccw_cfg_channel_index
  CHECK (IS_FIT_IN_UINT8 config_stream_index) .HAILO_INVALID_HEF
  let pending_config_stream_indexes := set_insert config_stream_index s.pending_config_stream_indexes
  let ccw_bursts := 1
  let accum_ccw_bursts := s.total_ccw_bursts.getD config_stream_index 0 + ccw_bursts
  CHECK (IS_FIT_IN_UINT16 accum_ccw_bursts) .HAILO_INTERNAL_FAILURE
  let total_ccw_bursts := s.total_ccw_bursts.set config_stream_index accum_ccw_bursts
  if action_index ∈ end_indexes_of_write_ccw_actions then
    let processed_configuration_actions ← push_fetch_config_actions config_resources
      pending_config_stream_indexes total_ccw_bursts support_pre_fetch
      (s.processed_configuration_actions ++ [configuration_action])
    let total_ccw_bursts ← ExceptT.mk ((cleanup_loop 256 0 total_ccw_bursts).map .ok)
    return ⟨[], total_ccw_bursts, processed_configuration_actions⟩
  else
    return ⟨pending_config_stream_indexes, total_ccw_bursts,
      s.processed_configuration_actions ++ [configuration_action]⟩

/-- The `for (action_index ...)` loop of `add_fetch_config_actions`, from
`action_index` on. -/
def fetch_config_loop (config_resources : List ConfigBuffer) (end_indexes : List Nat)
    (support_pre_fetch : Bool) :
    List ContextSwitchConfigAction → Nat → FetchConfigState → MayDiverge FetchConfigState
  | [], _, s => pure s
  | configuration_action :: rest, action_index, s => do
    let s ← if configuration_action.get_type = .WriteDataCcw then
        proccess_write_ccw_action configuration_action config_resources end_indexes action_index
          support_pre_fetch s
      else pure { s with
        processed_configuration_actions := s.processed_configuration_actions ++ [configuration_action] }
    fetch_config_loop config_resources end_indexes support_pre_fetch rest (action_index + 1) s

/-- `add_fetch_config_actions`: the new value of `configuration_actions`,
which the function assigns only once its whole loop has succeeded. -/
def add_fetch_config_actions (configuration_actions : List ContextSwitchConfigAction)
    (config_resources : List ConfigBuffer) (support_pre_fetch : Bool) :
    MayDiverge (List ContextSwitchConfigAction) := do
  let repeated_indexes := get_repreated_actions_boundary_indices configuration_actions
  let end_indexes_of_write_ccws :=
    get_end_indexes_of_action_type configuration_actions repeated_indexes .WriteDataCcw
  let s ← fetch_config_loop config_resources end_indexes_of_write_ccws support_pre_fetch
    configuration_actions 0 ⟨[], List.replicate config_resources.length 0, []⟩
  return s.processed_configuration_actions

/-! ### What the pass is for -/

/-- The distinct elements of a list, ascending. -/
def ascending_distinct (xs : List Nat) : List Nat := xs.dedup.insertionSort (· ≤ ·)

/-- The config channels a list of writes writes, one entry per write. -/
def ccw_indexes (run : List ContextSwitchConfigAction) : List Nat :=
  run.map (·.action.write_data_ccw_cfg_channel_index)

/-- The fetch actions that close a run of writes: for every channel it writes,
in ascending order, an `AddCcwBurstAction` with the run's number of writes to
it, or without pre-fetch a `CreateConfigDescAndFetchAction`. -/
def fetch_config_actions (support_pre_fetch : Bool) (run : List ContextSwitchConfigAction) :
    List ContextSwitchConfigAction :=
  (ascending_distinct (ccw_indexes run)).map fun i =>
    if support_pre_fetch then AddCcwBurstAction.create i ((ccw_indexes run).count i)
    else CreateConfigDescAndFetchAction.create i

/-- Whether a run is one of `WriteDataCcw` actions. -/
def is_write_ccw_run (run : List ContextSwitchConfigAction) : Bool :=
  run.head?.map get_type == some .WriteDataCcw

/-- A run followed by the fetch actions that close it, if it is one of writes. -/
def with_fetch_config_actions (support_pre_fetch : Bool) (run : List ContextSwitchConfigAction) :
    List ContextSwitchConfigAction :=
  if is_write_ccw_run run then run ++ fetch_config_actions support_pre_fetch run else run

/-- A run that writes one channel more often than a `uint16_t` counts. -/
def overflows_ccw_bursts (run : List ContextSwitchConfigAction) : Prop :=
  ∃ i ∈ ccw_indexes run, 65535 < (ccw_indexes run).count i

instance (run : List ContextSwitchConfigAction) : Decidable (overflows_ccw_bursts run) :=
  inferInstanceAs (Decidable (∃ i ∈ ccw_indexes run, 65535 < (ccw_indexes run).count i))

/-- What pass A computes: the error when a run of writes overflows a burst
counter, else every run of writes followed by its fetch actions. -/
def fetch_config_pass (support_pre_fetch : Bool) (actions : List ContextSwitchConfigAction) :
    Except HailoStatus (List ContextSwitchConfigAction) :=
  if ∃ r ∈ runs get_type actions, is_write_ccw_run r ∧ overflows_ccw_bursts r then
    .error .HAILO_INTERNAL_FAILURE
  else .ok ((runs get_type actions).flatMap (with_fetch_config_actions support_pre_fetch))

/-! ### One step at a time -/

/-- The fetch action `push_fetch_config_actions` makes for one channel. -/
def fetch_config_action (support_pre_fetch : Bool) (total_ccw_bursts : List Nat) (i : Nat) :
    ContextSwitchConfigAction :=
  if support_pre_fetch then AddCcwBurstAction.create i (total_ccw_bursts.getD i 0)
  else CreateConfigDescAndFetchAction.create i

theorem push_fetch_config_actions_eq {config_resources : List ConfigBuffer}
    {pending total : List Nat} {support_pre_fetch : Bool} (P : List ContextSwitchConfigAction)
    (hlen : total.length = config_resources.length)
    (hpending : ∀ i ∈ pending, i < config_resources.length) :
    push_fetch_config_actions config_resources pending total support_pre_fetch P =
      .ok (P ++ pending.map (fetch_config_action support_pre_fetch total)) := by
  rw [push_fetch_config_actions, CHECK_pos hlen]
  show pending.foldlM _ P = _
  induction pending generalizing P with
  | nil => simp
  | cons i pending ih =>
    have hi : i < config_resources.length := hpending i (List.mem_cons_self _ _)
    simp only [List.foldlM_cons, push_fetch_config_action, CHECK_pos hi, bind, Except.bind, pure,
      Except.pure]
    rw [ih _ (fun j hj => hpending j (List.mem_cons_of_mem _ hj))]
    simp [fetch_config_action]

/-- The entries from `c` on cleared. -/
def clear_from (c : Nat) (total : List Nat) : List Nat :=
  total.take c ++ List.replicate (total.length - c) 0

theorem clear_from_set {c : Nat} {total : List Nat} (h : c < total.length) :
    clear_from (c + 1) (total.set c 0) = clear_from c total := by
  have hlen : (total.set c 0).length = total.length := List.length_set ..
  have htake : (total.set c 0).take (c + 1) = total.take c ++ [0] := by
    rw [List.set_eq_take_append_cons_drop, if_pos h, List.take_append_eq_append_take]
    simp [h.le, Nat.min_eq_left]
  rw [clear_from, clear_from, hlen, htake, List.append_assoc, List.singleton_append,
    ← List.replicate_succ]
  congr 2
  omega

theorem cleanup_loop_clear (fuel c : Nat) (total : List Nat) (hc : c + fuel = 256)
    (hle : c ≤ total.length) :
    cleanup_loop fuel c total = if total.length ≤ 255 then some (clear_from c total) else none := by
  induction fuel generalizing c total with
  | zero => rw [cleanup_loop, if_neg (by omega)]
  | succ fuel ih =>
    rw [cleanup_loop]
    split_ifs with hlt hsmall hsmall
    · obtain ⟨rfl, -⟩ | hf : fuel = 0 ∨ 0 < fuel := by omega
      · omega
      · rw [Nat.mod_eq_of_lt (by omega), ih (c + 1) _ (by omega) (by simp; omega),
          List.length_set, if_pos hsmall, clear_from_set hlt]
    · cases fuel with
      | zero => rfl
      | succ fuel => rw [ih _ _ (by omega) (by simp; omega), List.length_set, if_neg hsmall]
    · have : c = total.length := by omega
      subst this
      simp [clear_from]
    · omega

/-- **The clearing loop exits exactly below 256 buffers.**  It clears every
counter when there are at most 255 of them, and never exits otherwise. -/
theorem cleanup_loop_eq (total : List Nat) :
    cleanup_loop 256 0 total =
      if total.length ≤ 255 then some (List.replicate total.length 0) else none := by
  rw [cleanup_loop_clear 256 0 total rfl (Nat.zero_le _)]
  simp [clear_from]

section Step

variable {configuration_action : ContextSwitchConfigAction} {config_resources : List ConfigBuffer}
  {ends : List Nat} {action_index : Nat} {support_pre_fetch : Bool} {s : FetchConfigState}

/-- A write away from a run's end records its channel and its burst. -/
theorem proccess_write_ccw_action_run
    (h8 : IS_FIT_IN_UINT8 configuration_action.action.write_data_ccw_cfg_channel_index)
    (hend : action_index ∉ ends) :
    (proccess_write_ccw_action configuration_action config_resources ends action_index
        support_pre_fetch s).run =
      let c := configuration_action.action.write_data_ccw_cfg_channel_index
      some (if IS_FIT_IN_UINT16 (s.total_ccw_bursts.getD c 0 + 1) then
        .ok ⟨set_insert c s.pending_config_stream_indexes,
          s.total_ccw_bursts.set c (s.total_ccw_bursts.getD c 0 + 1),
          s.processed_configuration_actions ++ [configuration_action]⟩
      else .error .HAILO_INTERNAL_FAILURE) := by
  simp only [proccess_write_ccw_action, ExceptT.run_bind, MayDiverge.run_monadLift, CHECK_pos h8]
  split_ifs with h16
  · rw [CHECK_pos h16]; simp [hend]
  · rw [CHECK_neg h16]; rfl

/-- A write whose burst counter would pass 65535 fails, wherever it stands. -/
theorem proccess_write_ccw_action_run_overflow
    (h8 : IS_FIT_IN_UINT8 configuration_action.action.write_data_ccw_cfg_channel_index)
    (h16 : ¬ IS_FIT_IN_UINT16
      (s.total_ccw_bursts.getD configuration_action.action.write_data_ccw_cfg_channel_index 0 + 1)) :
    (proccess_write_ccw_action configuration_action config_resources ends action_index
        support_pre_fetch s).run = some (.error .HAILO_INTERNAL_FAILURE) := by
  simp only [proccess_write_ccw_action, ExceptT.run_bind, MayDiverge.run_monadLift, CHECK_pos h8]
  rw [CHECK_neg h16]; rfl

/-- The write at a run's end pushes the fetch actions and clears the counters. -/
theorem proccess_write_ccw_action_run_end {P : List ContextSwitchConfigAction}
    (h8 : IS_FIT_IN_UINT8 configuration_action.action.write_data_ccw_cfg_channel_index)
    (hend : action_index ∈ ends)
    (h16 : IS_FIT_IN_UINT16
      (s.total_ccw_bursts.getD configuration_action.action.write_data_ccw_cfg_channel_index 0 + 1))
    (hpush : let c := configuration_action.action.write_data_ccw_cfg_channel_index
      push_fetch_config_actions config_resources (set_insert c s.pending_config_stream_indexes)
        (s.total_ccw_bursts.set c (s.total_ccw_bursts.getD c 0 + 1)) support_pre_fetch
        (s.processed_configuration_actions ++ [configuration_action]) = .ok P) :
    (proccess_write_ccw_action configuration_action config_resources ends action_index
        support_pre_fetch s).run =
      let c := configuration_action.action.write_data_ccw_cfg_channel_index
      (cleanup_loop 256 0 (s.total_ccw_bursts.set c (s.total_ccw_bursts.getD c 0 + 1))).map
        fun t => .ok ⟨[], t, P⟩ := by
  simp only [proccess_write_ccw_action, ExceptT.run_bind, MayDiverge.run_monadLift, CHECK_pos h8,
    CHECK_pos h16, if_pos hend]
  simp only at hpush
  simp only [hpush, ExceptT.run_mk]
  cases cleanup_loop 256 0 _ <;> rfl

end Step

/-! ### The accumulators along a run -/

/-- The burst counters of `n` channels after the writes `ws` of a run. -/
def ccw_bursts (n : Nat) (ws : List Nat) : List Nat := (List.range n).map ws.count

/-- The pending channels after the writes `ws` of a run. -/
def pending_indexes (ws : List Nat) : List Nat := ws.foldl (fun s x => set_insert x s) []

@[simp] theorem length_ccw_bursts (n : Nat) (ws : List Nat) : (ccw_bursts n ws).length = n := by
  simp [ccw_bursts]

theorem ccw_bursts_nil (n : Nat) : ccw_bursts n [] = List.replicate n 0 := by
  simp [ccw_bursts, List.map_const']

theorem getD_ccw_bursts {n i : Nat} (ws : List Nat) (h : i < n) :
    (ccw_bursts n ws).getD i 0 = ws.count i := by
  simp [ccw_bursts, h]

theorem set_ccw_bursts {n i : Nat} (ws : List Nat) :
    (ccw_bursts n ws).set i (ws.count i + 1) = ccw_bursts n (ws ++ [i]) := by
  refine List.ext_getElem (by simp) fun j h₁ h₂ => ?_
  rw [List.getElem_set]
  by_cases hij : i = j
  · subst hij; simp [ccw_bursts]
  · simp [ccw_bursts, hij, List.count_singleton', Ne.symm hij]

theorem pending_indexes_append (ws : List Nat) (i : Nat) :
    pending_indexes (ws ++ [i]) = set_insert i (pending_indexes ws) := by
  simp [pending_indexes]

theorem mem_pending_indexes {ws : List Nat} {i : Nat} : i ∈ pending_indexes ws ↔ i ∈ ws := by
  induction ws using List.reverseRecOn with
  | nil => simp [pending_indexes]
  | append_singleton ws j ih => simp [pending_indexes_append, ih, or_comm]

theorem sorted_pending_indexes (ws : List Nat) : (pending_indexes ws).Sorted (· < ·) := by
  induction ws using List.reverseRecOn with
  | nil => simp [pending_indexes]
  | append_singleton ws j ih => rw [pending_indexes_append]; exact sorted_set_insert j ih

/-- **The pending `std::set` lists the run's channels once each, ascending.** -/
theorem pending_indexes_eq (ws : List Nat) : pending_indexes ws = ascending_distinct ws := by
  have hsorted : (ascending_distinct ws).Sorted (· ≤ ·) := List.sorted_insertionSort _ _
  have hperm : List.Perm (pending_indexes ws) (ascending_distinct ws) := by
    refine (List.perm_ext_iff_of_nodup (sorted_pending_indexes ws).nodup
      ((List.perm_insertionSort _ _).nodup_iff.2 (List.nodup_dedup ws))).2 fun i => ?_
    rw [mem_pending_indexes, (List.perm_insertionSort _ _).mem_iff, List.mem_dedup]
  exact List.eq_of_perm_of_sorted hperm (sorted_pending_indexes ws).le_of_lt hsorted

/-- Every channel's number of writes fits a `uint16_t` counter. -/
def ccw_bursts_fit (ws : List Nat) : Prop := ∀ j ∈ ws, ws.count j ≤ 65535

instance (ws : List Nat) : Decidable (ccw_bursts_fit ws) :=
  inferInstanceAs (Decidable (∀ j ∈ ws, ws.count j ≤ 65535))

theorem ccw_bursts_fit_iff {ws : List Nat} : ccw_bursts_fit ws ↔ ∀ j, ws.count j ≤ 65535 :=
  ⟨fun h j => (em (j ∈ ws)).elim (h j) fun hj => by simp [List.count_eq_zero_of_not_mem hj],
    fun h j _ => h j⟩

theorem overflows_ccw_bursts_iff (run : List ContextSwitchConfigAction) :
    overflows_ccw_bursts run ↔ ¬ ccw_bursts_fit (ccw_indexes run) := by
  simp [overflows_ccw_bursts, ccw_bursts_fit]

theorem map_fetch_config_action_eq {n : Nat} (support_pre_fetch : Bool)
    (run : List ContextSwitchConfigAction) (hrun : ∀ j ∈ ccw_indexes run, j < n) :
    (pending_indexes (ccw_indexes run)).map
        (fetch_config_action support_pre_fetch (ccw_bursts n (ccw_indexes run))) =
      fetch_config_actions support_pre_fetch run := by
  rw [pending_indexes_eq, fetch_config_actions]
  refine List.map_congr_left fun j hj => ?_
  have hj' : j ∈ ccw_indexes run := by
    simpa [ascending_distinct, (List.perm_insertionSort _ _).mem_iff] using hj
  rw [fetch_config_action, getD_ccw_bursts _ (hrun j hj')]

/-! ### The loop, run by run -/

section Loop

variable (config_resources : List ConfigBuffer) (ends : List Nat) (support_pre_fetch : Bool)

theorem fetch_config_loop_append (l₁ l₂ : List ContextSwitchConfigAction) (i : Nat)
    (s : FetchConfigState) :
    fetch_config_loop config_resources ends support_pre_fetch (l₁ ++ l₂) i s =
      fetch_config_loop config_resources ends support_pre_fetch l₁ i s >>=
        fetch_config_loop config_resources ends support_pre_fetch l₂ (i + l₁.length) := by
  induction l₁ generalizing i s with
  | nil => simp [fetch_config_loop]
  | cons a l₁ ih =>
    have hlen : i + (a :: l₁).length = i + 1 + l₁.length := by simp only [List.length_cons]; omega
    rw [List.cons_append, fetch_config_loop, fetch_config_loop, hlen]
    split_ifs <;> simp only [bind_assoc, pure_bind, ih]

/-- A run of other actions is copied. -/
theorem fetch_config_loop_other (r : List ContextSwitchConfigAction)
    (hr : ∀ a ∈ r, a.get_type ≠ .WriteDataCcw) (i : Nat) (s : FetchConfigState) :
    fetch_config_loop config_resources ends support_pre_fetch r i s =
      pure { s with processed_configuration_actions := s.processed_configuration_actions ++ r } := by
  induction r generalizing i s with
  | nil => simp [fetch_config_loop]
  | cons a r ih =>
    simp only [fetch_config_loop, if_neg (hr a (List.mem_cons_self _ _)), pure_bind]
    rw [ih (fun b hb => hr b (List.mem_cons_of_mem _ hb))]
    simp

/-- Writes away from a run's end accumulate their channels and bursts, until a
counter would pass 65535. -/
theorem fetch_config_loop_writes (w : List ContextSwitchConfigAction)
    (hn : config_resources.length ≤ 255)
    (hw : ∀ a ∈ w, a.get_type = .WriteDataCcw ∧
      a.action.write_data_ccw_cfg_channel_index < config_resources.length)
    (ws : List Nat) (i : Nat) (P : List ContextSwitchConfigAction)
    (hends : ∀ k < w.length, i + k ∉ ends) (hws : ccw_bursts_fit ws) :
    (fetch_config_loop config_resources ends support_pre_fetch w i
        ⟨pending_indexes ws, ccw_bursts config_resources.length ws, P⟩).run =
      some (if ccw_bursts_fit (ws ++ ccw_indexes w) then
        .ok ⟨pending_indexes (ws ++ ccw_indexes w),
          ccw_bursts config_resources.length (ws ++ ccw_indexes w), P ++ w⟩
      else .error .HAILO_INTERNAL_FAILURE) := by
  induction w generalizing ws i P with
  | nil => simp [fetch_config_loop, ccw_indexes, hws]
  | cons a w ih =>
    obtain ⟨hwdc, hlt⟩ := hw a (List.mem_cons_self _ _)
    have h8 : IS_FIT_IN_UINT8 a.action.write_data_ccw_cfg_channel_index := by
      unfold IS_FIT_IN_UINT8; omega
    have hi : i ∉ ends := hends 0 (Nat.succ_pos _)
    have hcons : ws ++ ccw_indexes (a :: w) =
        (ws ++ [a.action.write_data_ccw_cfg_channel_index]) ++ ccw_indexes w := by
      simp [ccw_indexes]
    rw [fetch_config_loop, if_pos hwdc, ExceptT.run_bind, proccess_write_ccw_action_run h8 hi]
    simp only [getD_ccw_bursts ws hlt]
    by_cases h16 : IS_FIT_IN_UINT16 (ws.count a.action.write_data_ccw_cfg_channel_index + 1)
    · rw [if_pos h16, set_ccw_bursts, ← pending_indexes_append, hcons]
      simp only [bind, Option.bind]
      rw [ih (fun b hb => hw b (List.mem_cons_of_mem _ hb)) _ (i + 1) _
          (fun k hk => by rw [Nat.add_right_comm]; exact hends (k + 1) (Nat.succ_lt_succ hk))
          (ccw_bursts_fit_iff.2 fun j => by
            rw [List.count_append, List.count_singleton']
            split_ifs with hj
            · subst hj; exact h16
            · exact ccw_bursts_fit_iff.1 hws j)]
      simp only [List.append_assoc, List.singleton_append]
    · rw [if_neg h16, if_neg]
      · rfl
      · intro hall
        have := ccw_bursts_fit_iff.1 hall a.action.write_data_ccw_cfg_channel_index
        simp only [ccw_indexes, List.map_cons, List.count_append, List.count_cons_self] at this
        exact h16 (by unfold IS_FIT_IN_UINT16; omega)

/-- A run of writes gets its fetch actions after its last write, and leaves the
accumulators cleared. -/
theorem fetch_config_loop_write_run (r : List ContextSwitchConfigAction)
    (hn : config_resources.length ≤ 255) (hne : r ≠ [])
    (hr : ∀ a ∈ r, a.get_type = .WriteDataCcw ∧
      a.action.write_data_ccw_cfg_channel_index < config_resources.length)
    (i : Nat) (P : List ContextSwitchConfigAction)
    (hends : ∀ k < r.length, (i + k ∈ ends ↔ k + 1 = r.length)) :
    (fetch_config_loop config_resources ends support_pre_fetch r i
        ⟨[], List.replicate config_resources.length 0, P⟩).run =
      some (if overflows_ccw_bursts r then .error .HAILO_INTERNAL_FAILURE
        else .ok ⟨[], List.replicate config_resources.length 0,
          P ++ (r ++ fetch_config_actions support_pre_fetch r)⟩) := by
  obtain ⟨w, a, rfl⟩ : ∃ w a, r = w ++ [a] := by
    obtain ⟨w, a, h⟩ := (List.eq_nil_or_concat r).resolve_left hne
    exact ⟨w, a, h.trans (List.concat_eq_append _ _)⟩
  have hlen : (w ++ [a]).length = w.length + 1 := by rw [List.length_append, List.length_singleton]
  have ha := hr a (List.mem_append_right _ (List.mem_singleton_self _))
  have h8 : IS_FIT_IN_UINT8 a.action.write_data_ccw_cfg_channel_index := by
    unfold IS_FIT_IN_UINT8; omega
  have hcw : ccw_indexes (w ++ [a]) = ccw_indexes w ++ [a.action.write_data_ccw_cfg_channel_index] :=
    List.map_append _ _ _
  have hpre := fetch_config_loop_writes config_resources ends support_pre_fetch w hn
    (fun b hb => hr b (List.mem_append_left _ hb)) [] i P
    (fun k hk => by rw [hends k (by omega), hlen]; omega) (by simp [ccw_bursts_fit])
  have h0 : pending_indexes [] = [] := rfl
  rw [ccw_bursts_nil, List.nil_append, h0] at hpre
  rw [fetch_config_loop_append, ExceptT.run_bind, hpre]
  simp only [overflows_ccw_bursts_iff, hcw]
  by_cases hw : ccw_bursts_fit (ccw_indexes w)
  swap
  · rw [if_neg hw, if_pos]
    · rfl
    · exact fun h => hw (ccw_bursts_fit_iff.2 fun j =>
        ((List.sublist_append_left _ _).count_le j).trans (ccw_bursts_fit_iff.1 h j))
  rw [if_pos hw]
  simp only [bind, Option.bind]
  have hend : i + w.length ∈ ends := (hends w.length (by omega)).2 hlen.symm
  have hget := getD_ccw_bursts (ccw_indexes w) ha.2
  rw [fetch_config_loop, if_pos ha.1, ExceptT.run_bind]
  by_cases h16 : IS_FIT_IN_UINT16 ((ccw_indexes w).count a.action.write_data_ccw_cfg_channel_index + 1)
  · have hrun : ∀ j ∈ ccw_indexes (w ++ [a]), j < config_resources.length := by
      intro j hj
      obtain ⟨b, hb, rfl⟩ := List.mem_map.1 hj
      exact (hr b hb).2
    have hpush := @push_fetch_config_actions_eq config_resources _ _ support_pre_fetch
      (P ++ w ++ [a]) (length_ccw_bursts _ (ccw_indexes (w ++ [a])))
      (fun j hj => hrun j (mem_pending_indexes.1 hj))
    have hfetch := map_fetch_config_action_eq support_pre_fetch _ hrun
    rw [hcw, pending_indexes_append, ← set_ccw_bursts, ← hget] at hpush hfetch
    rw [proccess_write_ccw_action_run_end h8 hend (by rwa [hget]) hpush]
    dsimp only
    rw [cleanup_loop_eq, List.length_set, length_ccw_bursts, if_pos hn, if_neg]
    · rw [hfetch]; simp [fetch_config_loop]
    · intro hof
      refine hof (ccw_bursts_fit_iff.2 fun j => ?_)
      rw [List.count_append, List.count_singleton']
      split_ifs with hj
      · subst hj; exact h16
      · exact ccw_bursts_fit_iff.1 hw j
  · rw [proccess_write_ccw_action_run_overflow h8 (by rwa [hget]), if_pos]
    · rfl
    · intro hfit
      have := ccw_bursts_fit_iff.1 hfit a.action.write_data_ccw_cfg_channel_index
      rw [List.count_append, List.count_singleton'] at this
      exact h16 (by unfold IS_FIT_IN_UINT16; simpa using this)

theorem fetch_config_loop_runs (hn : config_resources.length ≤ 255) :
    ∀ (rs : List (List ContextSwitchConfigAction)) (i : Nat) (P : List ContextSwitchConfigAction),
      (∀ r ∈ rs, ∃ a r', r = a :: r' ∧ ∀ b ∈ r', b.get_type = a.get_type) →
      (∀ r ∈ rs, ∀ a ∈ r, a.get_type = .WriteDataCcw →
        a.action.write_data_ccw_cfg_channel_index < config_resources.length) →
      (∀ j, i ≤ j → (j ∈ ends ↔ ∃ p ∈ type_run_bounds .WriteDataCcw i rs, p.2 = j)) →
      (fetch_config_loop config_resources ends support_pre_fetch rs.flatten i
          ⟨[], List.replicate config_resources.length 0, P⟩).run =
        some (if ∃ r ∈ rs, is_write_ccw_run r ∧ overflows_ccw_bursts r then
            .error .HAILO_INTERNAL_FAILURE
          else .ok ⟨[], List.replicate config_resources.length 0,
            P ++ rs.flatMap (with_fetch_config_actions support_pre_fetch)⟩)
  | [], i, P, _, _, _ => by
    simp only [List.flatten_nil, fetch_config_loop, List.not_mem_nil, false_and, exists_false, if_false,
      List.flatMap_nil, List.append_nil]
    rfl
  | r :: rs, i, P, hshape, hidx, hends => by
    obtain ⟨a, r', rfl, hsame⟩ := hshape _ (List.mem_cons_self _ _)
    have hne : ∀ r ∈ rs, r ≠ [] := fun r hr => by
      obtain ⟨b, r'', rfl, -⟩ := hshape r (List.mem_cons_of_mem _ hr); exact List.cons_ne_nil _ _
    have htail : ∀ p ∈ type_run_bounds .WriteDataCcw (i + (a :: r').length) rs,
        i + (a :: r').length ≤ p.2 := fun p hp => le_of_mem_type_run_bounds hne hp
    have ih := fun P => fetch_config_loop_runs hn rs (i + (a :: r').length) P
      (fun r hr => hshape r (List.mem_cons_of_mem _ hr))
      (fun r hr => hidx r (List.mem_cons_of_mem _ hr))
      (fun j hj => by
        rw [hends j (by omega), type_run_bounds]
        simp only [List.mem_append]
        constructor
        · rintro ⟨p, hp | hp, rfl⟩
          · split_ifs at hp
            · obtain rfl := List.mem_singleton.1 hp
              simp only [List.length_cons] at hj
              omega
            · cases hp
          · exact ⟨p, hp, rfl⟩
        · rintro ⟨p, hp, rfl⟩; exact ⟨p, .inr hp, rfl⟩)
    have htype : ∀ b ∈ a :: r', b.get_type = a.get_type := List.forall_mem_cons.2 ⟨rfl, hsame⟩
    rw [List.flatten_cons, fetch_config_loop_append, ExceptT.run_bind]
    by_cases hwdc : a.get_type = .WriteDataCcw
    · have hrun : is_write_ccw_run (a :: r') = true := by simp [is_write_ccw_run, hwdc]
      have hr : ∀ b ∈ a :: r', b.get_type = .WriteDataCcw ∧
          b.action.write_data_ccw_cfg_channel_index < config_resources.length := fun b hb =>
        have hb' : b.get_type = .WriteDataCcw := (htype b hb).trans hwdc
        ⟨hb', hidx _ (List.mem_cons_self _ _) b hb hb'⟩
      have hrun_ends : ∀ k < (a :: r').length, (i + k ∈ ends ↔ k + 1 = (a :: r').length) := by
        intro k hk
        rw [hends (i + k) (by omega), type_run_bounds, if_pos (by simp [hwdc])]
        simp only [List.mem_append, List.mem_singleton]
        constructor
        · rintro ⟨p, rfl | hp, hpk⟩
          · simp only [List.length_cons] at hpk hk ⊢; omega
          · have := htail p hp; omega
        · intro hk'; exact ⟨_, .inl rfl, by simp only [List.length_cons] at hk' ⊢; omega⟩
      rw [fetch_config_loop_write_run config_resources ends support_pre_fetch _ hn
        (List.cons_ne_nil _ _) hr i P hrun_ends]
      by_cases hof : overflows_ccw_bursts (a :: r')
      · rw [if_pos hof, if_pos ⟨_, List.mem_cons_self _ _, hrun, hof⟩]; rfl
      · rw [if_neg hof]
        simp only [bind, Option.bind]
        rw [ih]
        simp only [List.exists_mem_cons_iff, hrun, hof, true_and, false_or, List.flatMap_cons,
          with_fetch_config_actions, if_true, List.append_assoc]
    · have hrun : is_write_ccw_run (a :: r') = false := by simp [is_write_ccw_run, hwdc]
      rw [fetch_config_loop_other config_resources ends support_pre_fetch _
        (fun b hb => by rw [htype b hb]; exact hwdc)]
      simp only [ExceptT.run_pure, bind, Option.bind]
      rw [ih]
      simp only [List.exists_mem_cons_iff, hrun, Bool.false_eq_true, false_and, false_or,
        List.flatMap_cons, with_fetch_config_actions, if_false, List.append_assoc]

end Loop

/-- **Pass A, computed.**  With at most 255 config buffers and every write's
channel below their number, `add_fetch_config_actions` returns: it fails with
`HAILO_INTERNAL_FAILURE` exactly when a maximal run of writes writes one
channel more than 65535 times, and otherwise follows every maximal run of
writes with one fetch action per channel it writes, in ascending channel order
(`AddCcwBurstAction` with the run's number of writes to the channel under
pre-fetch, `CreateConfigDescAndFetchAction` otherwise), keeping every action in
its place. -/
theorem add_fetch_config_actions_eq (actions : List ContextSwitchConfigAction)
    (config_resources : List ConfigBuffer) (support_pre_fetch : Bool)
    (hn : config_resources.length ≤ 255)
    (hidx : ∀ a ∈ actions, a.get_type = .WriteDataCcw →
      a.action.write_data_ccw_cfg_channel_index < config_resources.length) :
    (add_fetch_config_actions actions config_resources support_pre_fetch).run =
      some (fetch_config_pass support_pre_fetch actions) := by
  have hloop := fetch_config_loop_runs config_resources
    (get_end_indexes_of_action_type actions (get_repreated_actions_boundary_indices actions)
      .WriteDataCcw) support_pre_fetch hn (runs get_type actions) 0 []
    (fun r hr => by
      obtain ⟨a, r', rfl⟩ := List.exists_cons_of_ne_nil (ne_nil_of_mem_runs _ hr)
      exact ⟨a, r', rfl, eq_of_mem_runs _ hr⟩)
    (fun r hr a ha => hidx a (by rw [← flatten_runs get_type actions]; exact List.mem_flatten.2 ⟨r, hr, ha⟩))
    (fun j _ => mem_get_end_indexes_of_action_type actions _ j)
  rw [flatten_runs] at hloop
  simp only [add_fetch_config_actions, ExceptT.run_bind, hloop, fetch_config_pass]
  split_ifs <;> rfl

/-! ### What the pass inserts -/

/-- Whether an action is one the pass inserts. -/
def is_fetch_config_action (a : ContextSwitchConfigAction) : Bool :=
  a.get_type == .AddCcwBurst || a.get_type == .CreateDescForCcw

/-- Pushing fetch actions appends only fetch actions. -/
theorem filter_push_fetch_config_actions {config_resources : List ConfigBuffer}
    {pending total : List Nat} {support_pre_fetch : Bool} {P P' : List ContextSwitchConfigAction}
    (h : push_fetch_config_actions config_resources pending total support_pre_fetch P = .ok P') :
    P'.filter (fun a => !is_fetch_config_action a) = P.filter (fun a => !is_fetch_config_action a) := by
  rw [push_fetch_config_actions, CHECK_bind_eq_ok] at h
  replace h := h.2
  induction pending generalizing P with
  | nil => cases h; rfl
  | cons i pending ih =>
    rw [List.foldlM_cons, Except.bind_eq_ok] at h
    obtain ⟨Q, hQ, h⟩ := h
    simp only [push_fetch_config_action, CHECK_bind_eq_ok, Except.pure_eq_ok] at hQ
    obtain rfl := Except.ok.inj hQ.2
    rw [ih h, List.filter_append]
    split <;> simp [is_fetch_config_action, AddCcwBurstAction.create, CreateConfigDescAndFetchAction.create, mk', get_type]

theorem filter_proccess_write_ccw_action {configuration_action : ContextSwitchConfigAction}
    {config_resources : List ConfigBuffer} {ends : List Nat} {action_index : Nat} {support_pre_fetch : Bool}
    {s s' : FetchConfigState}
    (h : (proccess_write_ccw_action configuration_action config_resources ends action_index
        support_pre_fetch s).run = some (.ok s')) :
    s'.processed_configuration_actions.filter (fun a => !is_fetch_config_action a) =
      (s.processed_configuration_actions ++ [configuration_action]).filter (fun a => !is_fetch_config_action a) := by
  simp only [proccess_write_ccw_action, MayDiverge.run_bind_eq_ok, MayDiverge.run_monadLift] at h
  obtain ⟨_, -, _, -, h⟩ := h
  split_ifs at h
  · simp only [MayDiverge.run_bind_eq_ok, liftM, MayDiverge.run_monadLift, Option.some.injEq,
      ExceptT.run_mk] at h
    obtain ⟨P, hP, _, -, h⟩ := h
    cases Except.ok.inj (Option.some.inj h)
    exact filter_push_fetch_config_actions hP
  · cases Except.ok.inj (Option.some.inj h)
    rfl

theorem filter_fetch_config_loop (config_resources : List ConfigBuffer) (ends : List Nat)
    (support_pre_fetch : Bool) :
    ∀ (l : List ContextSwitchConfigAction) (i : Nat) (s s' : FetchConfigState),
      (fetch_config_loop config_resources ends support_pre_fetch l i s).run = some (.ok s') →
      s'.processed_configuration_actions.filter (fun a => !is_fetch_config_action a) =
        s.processed_configuration_actions.filter (fun a => !is_fetch_config_action a) ++
          l.filter (fun a => !is_fetch_config_action a)
  | [], _, s, s', h => by cases Except.ok.inj (Option.some.inj h); simp
  | a :: l, i, s, s', h => by
    rw [fetch_config_loop] at h
    obtain ⟨s₁, hstep, h⟩ : ∃ s₁ : FetchConfigState,
        s₁.processed_configuration_actions.filter (fun a => !is_fetch_config_action a) =
          (s.processed_configuration_actions ++ [a]).filter (fun a => !is_fetch_config_action a) ∧
        (fetch_config_loop config_resources ends support_pre_fetch l (i + 1) s₁).run = some (.ok s') := by
      split_ifs at h <;> obtain ⟨s₁, h₁, h⟩ := MayDiverge.run_bind_eq_ok.1 h
      · exact ⟨s₁, filter_proccess_write_ccw_action h₁, h⟩
      · cases Except.ok.inj (Option.some.inj h₁)
        exact ⟨_, rfl, h⟩
    rw [filter_fetch_config_loop config_resources ends support_pre_fetch l (i + 1) s₁ s' h, hstep, List.filter_append, List.append_assoc,
      ← List.filter_append, List.singleton_append]

/-- **Pass A only inserts.**  Whatever the number of config buffers, when
`add_fetch_config_actions` returns, its result without the fetch actions is
its input without them. -/
theorem add_fetch_config_actions_filter {actions : List ContextSwitchConfigAction}
    {config_resources : List ConfigBuffer} {support_pre_fetch : Bool} {L : List ContextSwitchConfigAction}
    (h : (add_fetch_config_actions actions config_resources support_pre_fetch).run = some (.ok L)) :
    L.filter (fun a => !is_fetch_config_action a) = actions.filter (fun a => !is_fetch_config_action a) := by
  rw [add_fetch_config_actions, MayDiverge.run_bind_eq_ok] at h
  obtain ⟨s, hs, h⟩ := h
  cases Except.ok.inj (Option.some.inj h)
  simpa using filter_fetch_config_loop _ _ _ _ _ _ _ hs

/-- Every action pass A returns is one it inserted or one it was given. -/
theorem mem_add_fetch_config_actions {actions : List ContextSwitchConfigAction}
    {config_resources : List ConfigBuffer} {support_pre_fetch : Bool} {L : List ContextSwitchConfigAction}
    (h : (add_fetch_config_actions actions config_resources support_pre_fetch).run = some (.ok L))
    {a : ContextSwitchConfigAction} (ha : a ∈ L) : is_fetch_config_action a = true ∨ a ∈ actions := by
  by_cases hf : is_fetch_config_action a = true
  · exact .inl hf
  · have : a ∈ L.filter (fun a => !is_fetch_config_action a) := List.mem_filter.2 ⟨ha, by simpa using hf⟩
    rw [add_fetch_config_actions_filter h] at this
    exact .inr (List.mem_filter.1 this).1

end Hef
end HailoRT
