/-
# Which CCW write of a channel is its last

`WriteDataCcwAction::is_last_ccw_write` (`hef.cpp`, lines 2822-2831) decides
that a write is its channel's last by sizes alone: the bytes already in the
channel's `ConfigBuffer` and this write's make the buffer's `total_cfg_size`,
which is sized from the lengths `get_config_buffer_info` (lines 3503-3522)
records for the channel.  With pre-fetch, `execute` pads the buffer with NOPs
before such a write and programs its descriptors after it.

Over a context's run, the flag each write of a channel sees
(`last_write_flags`) depends on that channel's writes only
(`last_write_flags_eq`).  Split their lengths as `front ++ x :: replicate m 0`,
`x` the last non-empty write (the first write, if none is):

| writes             | `is_last_ccw_write()`                                             |
| `front`            | false                                                             |
| `x`                | true                                                              |
| the `m` empty ones | true without pre-fetch, or when `pad_with_nops` wrote no NOP      |

`parse_operations_last_ccw_writes` says it of a context's operations, run
through the three passes.  So the last write is the only one flagged when it
is not empty; an empty one after it can be flagged too, and two empty writes
to a channel pad its buffer and program its descriptors twice
(`parse_operations_two_empty_writes`).
-/

import HailoRT.Hef.CcwWrites

namespace HailoRT
namespace Hef

open ContextSwitchConfigAction

variable {σ τ : Type}

/-! ### What a returning write does to the buffers -/

/-- What a returning `WriteDataCcwAction::execute` does to its buffer: the NOPs
of a last write with pre-fetch, then the data. -/
def ccw_write_effect (support_pre_fetch : Bool) (write_size : Nat) (config : ConfigBuffer) : ConfigBuffer :=
  (if support_pre_fetch && is_last_ccw_write write_size config then config.write (nop_count config * CCW_HEADER_SIZE)
    else config).write write_size

/-- What a returning `execute` does to the context's config buffers. -/
def config_effect (config_resources : List ConfigBuffer) (configuration_action : ContextSwitchConfigAction) :
    List ConfigBuffer :=
  match configuration_action.action with
  | .WriteDataCcwAction cfg_channel_index data support_pre_fetch =>
    config_resources.set cfg_channel_index
      (ccw_write_effect support_pre_fetch data.length (config_resources.getD cfg_channel_index default))
  | _ => config_resources

@[simp] theorem nop_count_write (config : ConfigBuffer) (n : Nat) : nop_count (config.write n) = nop_count config :=
  rfl

@[simp] theorem nop_count_ccw_write_effect (support_pre_fetch : Bool) (write_size : Nat) (config : ConfigBuffer) :
    nop_count (ccw_write_effect support_pre_fetch write_size config) = nop_count config := by
  unfold ccw_write_effect
  split_ifs <;> rfl

@[simp] theorem length_config_effect (config_resources : List ConfigBuffer) (a : ContextSwitchConfigAction) :
    (config_effect config_resources a).length = config_resources.length := by
  unfold config_effect
  split <;> simp

theorem WriteDataCcwAction.execute_eq_ok {program_descriptors : ConfigBuffer → Except HailoStatus Unit}
    {write_size : Nat} {support_pre_fetch : Bool} {config config' : ConfigBuffer}
    (h : (WriteDataCcwAction.execute program_descriptors write_size support_pre_fetch config).run =
      some (.ok config')) :
    config' = ccw_write_effect support_pre_fetch write_size config := by
  simp only [WriteDataCcwAction.execute] at h
  unfold ccw_write_effect
  split_ifs at h ⊢
  · obtain ⟨padded, hpad, h⟩ := MayDiverge.run_bind_eq_ok.1 h
    obtain ⟨_, -, h⟩ := MayDiverge.run_bind_eq_ok.1 h
    cases Except.ok.inj (Option.some.inj h)
    rw [pad_with_nops_run] at hpad
    split_ifs at hpad <;> cases hpad
    rfl
  · obtain ⟨_, hpure, h⟩ := MayDiverge.run_bind_eq_ok.1 h
    cases Except.ok.inj (Option.some.inj hpure)
    obtain ⟨_, -, h⟩ := MayDiverge.run_bind_eq_ok.1 h
    exact (Except.ok.inj (Option.some.inj h)).symm

/-- **`execute` refines `config_effect`.** -/
theorem execute_config_resources {env : RecipeEnv σ τ} {configuration_action : ContextSwitchConfigAction}
    {s s' : ContextState σ} (h : (execute env configuration_action s).run = some (.ok s')) :
    s'.config_resources = config_effect s.config_resources configuration_action := by
  unfold config_effect
  split
  · rename_i hact
    simp only [execute, hact] at h
    obtain ⟨config, h₁, h⟩ := MayDiverge.run_bind_eq_ok.1 h
    cases Except.ok.inj (Option.some.inj h)
    rw [WriteDataCcwAction.execute_eq_ok h₁]
  · rename_i hnot
    unfold execute at h
    split at h
    · exact absurd ‹_› (hnot _ _ _)
    · obtain ⟨_, -, h⟩ := MayDiverge.run_bind_eq_ok.1 h
      cases Except.ok.inj (Option.some.inj h)
      rfl

theorem foldlM_execute_config_resources {env : RecipeEnv σ τ} :
    ∀ {executed : List ContextSwitchConfigAction} {s s' : ContextState σ},
      (executed.foldlM (fun s configuration_action => execute env configuration_action s) s).run =
        some (.ok s') →
      s'.config_resources = executed.foldl config_effect s.config_resources
  | [], _, _, h => by cases Except.ok.inj (Option.some.inj h); rfl
  | _ :: _, _, _, h => by
    rw [List.foldlM_cons] at h
    obtain ⟨_, h₁, h⟩ := MayDiverge.run_bind_eq_ok.1 h
    rw [foldlM_execute_config_resources h, List.foldl_cons, execute_config_resources h₁]

section Context

variable {env : RecipeEnv σ τ} {hw_arch : ProtoHEFHwArch} {resources_manager : ResourcesManager}
  {context_index : Nat} {is_preliminary_context : Bool}

/-- A context's run leaves the config buffers `config_effect` computes from its
executed actions, in order. -/
theorem parse_operations_config_resources :
    ∀ {operations : List (ProtoHEFOperation τ)} {first_operation : Bool} {s s' : ContextState σ}
      {executed : List ContextSwitchConfigAction},
      (parse_operations env hw_arch context_index is_preliminary_context resources_manager operations
        first_operation s).run = some (.ok (executed, s')) →
      s'.config_resources = executed.foldl config_effect s.config_resources
  | [], _, _, _, _, h => by
    obtain ⟨rfl, rfl⟩ := Prod.mk.inj (Except.ok.inj (Option.some.inj h))
    rfl
  | _ :: _, _, _, _, _, h => by
    obtain ⟨_, _, _, _, h₁, hs₁, h₂, rfl⟩ := parse_operations_cons h
    obtain ⟨_, _, _, -, -, -, -, hexec⟩ := parse_actions_in_operation_eq_ok h₁
    rw [parse_operations_config_resources h₂, foldlM_execute_config_resources hexec, hs₁, List.foldl_append]

/-! ### The CCW writes a context executes -/

theorem ccw_write_eq_none {a : ContextSwitchConfigAction} (h : is_hef_action_type a.get_type = false) :
    a.action.ccw_write = none := by
  rcases a with ⟨act, b⟩
  cases act <;> first | rfl | cases h

/-- The created actions' CCW writes are the HEF actions', in order. -/
theorem ccw_writes_of_mapM {action_env : ActionEnv} {proto_actions : List ProtoHEFAction}
    {config : List ConfigBuffer} {support_pre_fetch : Bool} {created : List ContextSwitchConfigAction}
    (h : (proto_actions.mapM fun proto_action =>
      ContextSwitchConfigAction.create action_env proto_action config support_pre_fetch) = .ok created) :
    action_values Action.ccw_write created =
      (proto_actions.filterMap ProtoHEFAction.ccw_write).map fun w => (w.1, w.2, support_pre_fetch) := by
  have hF := forall₂_of_mapM_eq_ok h
  clear h
  induction hF with
  | nil => rfl
  | @cons p a ps as hpa _ ih =>
    rw [action_values_cons, ih, List.filterMap_cons]
    simp only [action_values, List.map_cons, List.map_nil, List.filterMap_cons, List.filterMap_nil,
      (create_eq_ok hpa).2.2]
    cases p.ccw_write <;> rfl

/-- The CCW writes a context executes are those of its HEF operations, in
order, each with the pre-fetch flag of the hardware. -/
theorem parse_operations_ccw_writes :
    ∀ {operations : List (ProtoHEFOperation τ)} {first_operation : Bool} {s s' : ContextState σ}
      {executed : List ContextSwitchConfigAction},
      (parse_operations env hw_arch context_index is_preliminary_context resources_manager operations
        first_operation s).run = some (.ok (executed, s')) →
      action_values Action.ccw_write executed =
        ((operations.flatMap (·.actions)).filterMap ProtoHEFAction.ccw_write).map
          fun w => (w.1, w.2, is_mercury_device_type hw_arch)
  | [], _, _, _, _, h => by
    obtain ⟨rfl, rfl⟩ := Prod.mk.inj (Except.ok.inj (Option.some.inj h))
    rfl
  | _ :: _, _, _, _, _, h => by
    obtain ⟨_, _, _, _, h₁, -, h₂, rfl⟩ := parse_operations_cons h
    obtain ⟨created, hc, hv⟩ := action_values_executed (fun a ha => ccw_write_eq_none ha) h₁
    rw [action_values_append, parse_operations_ccw_writes h₂, hv, ccw_writes_of_mapM hc, List.flatMap_cons,
      List.filterMap_append, List.map_append]

end Context

/-! ### The lengths `get_config_buffer_info` records -/

/-- The lengths of the CCW writes to channel `c` among CCW writes, in order. -/
def channel_lengths (c : Nat) (writes : List (Nat × Nat)) : List Nat :=
  writes.filterMap fun w => if w.1 = c then some w.2 else none

@[simp] theorem channel_lengths_append (c : Nat) (writes writes' : List (Nat × Nat)) :
    channel_lengths c (writes ++ writes') = channel_lengths c writes ++ channel_lengths c writes' :=
  List.filterMap_append _ _ _

theorem lookup_map_append {k c v : Nat} : ∀ {results : ConfigBufferInfoMap},
    (results.map fun p => if p.1 = k then (p.1, p.2 ++ [v]) else p).lookup c =
      (results.lookup c).map fun l => if k = c then l ++ [v] else l
  | [] => rfl
  | (k', l') :: results => by
    have hpair : (if (k', l').1 = k then ((k', l').1, (k', l').2 ++ [v]) else (k', l')) =
        (k', if k' = k then l' ++ [v] else l') := by
      dsimp only
      split_ifs <;> rfl
    rw [List.map_cons, hpair]
    by_cases hc : c = k'
    · subst hc
      simp [eq_comm]
    · rw [lookup_cons_of_ne hc, lookup_cons_of_ne hc, lookup_map_append]

/-- `update_parsing_info` appends the length to its channel's entry. -/
theorem update_parsing_info_lookup {CONTROL_PROTOCOL__MAX_CFG_CHANNELS cfg_index data_length : Nat}
    {results results' : ConfigBufferInfoMap}
    (h : update_parsing_info CONTROL_PROTOCOL__MAX_CFG_CHANNELS cfg_index data_length results = .ok results')
    (c : Nat) :
    (results'.lookup c).getD [] = (results.lookup c).getD [] ++ if cfg_index = c then [data_length] else [] := by
  simp only [update_parsing_info, CHECK_bind_eq_ok] at h
  obtain ⟨-, h⟩ := h
  split at h <;> cases h <;> rename_i hl <;> by_cases hc : cfg_index = c
  · subst hc
    simp [lookup_map_append, hl]
  · simp [lookup_map_append, hc]
  · subst hc
    simp [lookup_append_of_none hl, hl]
  · rw [if_neg hc, List.append_nil]
    cases hr : results.lookup c
    · rw [lookup_append_of_none hr, lookup_cons_of_ne (Ne.symm hc)]
      rfl
    · rw [lookup_append_of_some hr]

/-- The entry of a channel after a run of the inner loop. -/
theorem foldlM_config_buffer_info_step_lookup {CONTROL_PROTOCOL__MAX_CFG_CHANNELS : Nat} (c : Nat) :
    ∀ {actions : List ProtoHEFAction} {results results' : ConfigBufferInfoMap},
      actions.foldlM (config_buffer_info_step CONTROL_PROTOCOL__MAX_CFG_CHANNELS) results = .ok results' →
      (results'.lookup c).getD [] =
        (results.lookup c).getD [] ++ channel_lengths c (actions.filterMap ProtoHEFAction.ccw_write)
  | [], _, _, h => by cases h; simp [channel_lengths]
  | action :: actions, results, results', h => by
    rw [List.foldlM_cons] at h
    obtain ⟨results₁, h₁, h⟩ := Except.bind_eq_ok.1 h
    rw [foldlM_config_buffer_info_step_lookup c h]
    unfold config_buffer_info_step at h₁
    split at h₁
    · rw [CHECK_bind_eq_ok] at h₁
      rw [update_parsing_info_lookup h₁.2, List.filterMap_cons]
      simp only [ProtoHEFAction.ccw_write, channel_lengths, List.filterMap_cons, List.append_assoc]
      split_ifs <;> rfl
    · rename_i hnot
      cases h₁
      have hnone : ProtoHEFAction.ccw_write action = none := by
        unfold ProtoHEFAction.ccw_write
        split
        · exact absurd rfl (hnot _ _)
        · rfl
      rw [List.filterMap_cons, hnone]

/-- The entry of a channel after a run of the outer loop. -/
theorem foldlM_operations_lookup {CONTROL_PROTOCOL__MAX_CFG_CHANNELS : Nat} (c : Nat) :
    ∀ {operations : List (ProtoHEFOperation τ)} {results results' : ConfigBufferInfoMap},
      operations.foldlM (fun results operation =>
        operation.actions.foldlM (config_buffer_info_step CONTROL_PROTOCOL__MAX_CFG_CHANNELS) results) results =
          .ok results' →
      (results'.lookup c).getD [] = (results.lookup c).getD [] ++
        channel_lengths c ((operations.flatMap (·.actions)).filterMap ProtoHEFAction.ccw_write)
  | [], _, _, h => by cases h; simp [channel_lengths]
  | _ :: _, _, _, h => by
    rw [List.foldlM_cons] at h
    obtain ⟨_, h₁, h⟩ := Except.bind_eq_ok.1 h
    rw [foldlM_operations_lookup c h, foldlM_config_buffer_info_step_lookup c h₁, List.flatMap_cons,
      List.filterMap_append, channel_lengths_append, List.append_assoc]

/-- **What `get_config_buffer_info` records.**  The entry of a channel, or
nothing if it has none, is the lengths of the channel's CCW writes over the
operations, in order. -/
theorem get_config_buffer_info_lookup {CONTROL_PROTOCOL__MAX_CFG_CHANNELS : Nat}
    {operations : List (ProtoHEFOperation τ)} {results : ConfigBufferInfoMap}
    (h : get_config_buffer_info CONTROL_PROTOCOL__MAX_CFG_CHANNELS operations = .ok results) (c : Nat) :
    (results.lookup c).getD [] =
      channel_lengths c ((operations.flatMap (·.actions)).filterMap ProtoHEFAction.ccw_write) := by
  simpa using foldlM_operations_lookup c h

/-! ### The flag each write sees -/

/-- `is_last_ccw_write()` of each CCW write of channel `c` among `executed`, in
order, each on the buffers the actions before it leave. -/
def last_write_flags (c : Nat) : List ContextSwitchConfigAction → List ConfigBuffer → List Bool
  | [], _ => []
  | configuration_action :: executed, config_resources =>
    (match configuration_action.action with
      | .WriteDataCcwAction cfg_channel_index data _ =>
        if cfg_channel_index = c then [is_last_ccw_write data.length (config_resources.getD c default)] else []
      | _ => []) ++
    last_write_flags c executed (config_effect config_resources configuration_action)

/-- The flags of a buffer's writes, given by their lengths and pre-fetch flags. -/
def ccw_last_flags : List (Nat × Bool) → ConfigBuffer → List Bool
  | [], _ => []
  | (write_size, support_pre_fetch) :: writes, config =>
    is_last_ccw_write write_size config ::
      ccw_last_flags writes (ccw_write_effect support_pre_fetch write_size config)

/-- The writes of channel `c` among CCW writes: their lengths and pre-fetch flags. -/
def channel_writes (c : Nat) (writes : List (Nat × Nat × Bool)) : List (Nat × Bool) :=
  writes.filterMap fun w => if w.1 = c then some w.2 else none

theorem channel_writes_map (c : Nat) (support_pre_fetch : Bool) (writes : List (Nat × Nat)) :
    channel_writes c (writes.map fun w => (w.1, w.2, support_pre_fetch)) =
      (channel_lengths c writes).map (·, support_pre_fetch) := by
  induction writes with
  | nil => rfl
  | cons w writes ih =>
    simp only [channel_writes, channel_lengths, List.map_cons, List.filterMap_cons] at ih ⊢
    split_ifs <;> simp [ih]

/-- A write of another channel, or another action, leaves channel `c`'s buffer. -/
theorem last_write_flags_eq {c : Nat} :
    ∀ {executed : List ContextSwitchConfigAction} {config_resources : List ConfigBuffer},
      c < config_resources.length →
      last_write_flags c executed config_resources =
        ccw_last_flags (channel_writes c (action_values Action.ccw_write executed)) (config_resources.getD c default)
  | [], _, _ => rfl
  | configuration_action :: executed, config_resources, hc => by
    rw [last_write_flags, action_values_cons,
      last_write_flags_eq ((length_config_effect config_resources configuration_action).symm ▸ hc)]
    unfold config_effect
    split
    · rename_i cfg_channel_index data support_pre_fetch hact
      simp only [action_values, List.map_cons, List.map_nil, hact, Action.ccw_write, List.filterMap_cons,
        List.filterMap_nil, Option.some.injEq, List.singleton_append, channel_writes]
      by_cases hi : cfg_channel_index = c
      · subst hi
        simp [ccw_last_flags, hc]
      · simp [hi, List.getElem?_set_ne hi]
    · rename_i hnot
      have hnone : configuration_action.action.ccw_write = none := by
        unfold Action.ccw_write
        split
        · exact absurd ‹_› (hnot _ _ _)
        · rfl
      simp [action_values, hnone]

/-- After the channel's last non-empty write, each empty write finds the
buffer as that write left it, and leaves it so. -/
theorem ccw_last_flags_replicate_zero {support_pre_fetch : Bool} (m : Nat) {config : ConfigBuffer}
    (hcur : config.current_buffer_size =
      config.total_cfg_size + if support_pre_fetch then nop_count config * CCW_HEADER_SIZE else 0) :
    ccw_last_flags (List.replicate m (0, support_pre_fetch)) config =
      List.replicate m (!support_pre_fetch || nop_count config == 0) := by
  have hflag : is_last_ccw_write 0 config = (!support_pre_fetch || nop_count config == 0) := by
    cases support_pre_fetch <;> simp [is_last_ccw_write, hcur, CCW_HEADER_SIZE]
  have heffect : ccw_write_effect support_pre_fetch 0 config = config := by
    rw [ccw_write_effect, hflag]
    cases support_pre_fetch
    · simp
    · by_cases h0 : nop_count config = 0 <;> simp [h0]
  induction m with
  | zero => rfl
  | succ m ih => rw [List.replicate_succ, List.replicate_succ, ccw_last_flags, hflag, heffect, ih]

/-- **The flags of a buffer's writes.**  From a buffer whose size is still to
be filled by them, the writes before the last non-empty one are not last,
that one is, and each empty write after it is last exactly when pre-fetch is
off or the buffer needed no NOP. -/
theorem ccw_last_flags_split {support_pre_fetch : Bool} {x m : Nat} :
    ∀ {front : List Nat} {config : ConfigBuffer}, (x ≠ 0 ∨ front = []) →
      config.current_buffer_size + (front ++ x :: List.replicate m 0).sum = config.total_cfg_size →
      ccw_last_flags ((front ++ x :: List.replicate m 0).map (·, support_pre_fetch)) config =
        List.replicate front.length false ++
          true :: List.replicate m (!support_pre_fetch || nop_count config == 0)
  | [], config, _, htotal => by
    simp only [List.nil_append, List.sum_cons, List.sum_replicate, smul_eq_mul, Nat.mul_zero,
      Nat.add_zero] at htotal
    have hlast : is_last_ccw_write x config = true := by simp [is_last_ccw_write, ← htotal, Nat.add_comm]
    have hcur : (ccw_write_effect support_pre_fetch x config).current_buffer_size =
        (ccw_write_effect support_pre_fetch x config).total_cfg_size +
          if support_pre_fetch then nop_count (ccw_write_effect support_pre_fetch x config) * CCW_HEADER_SIZE
          else 0 := by
      rw [nop_count_ccw_write_effect]
      cases support_pre_fetch
      · simp [ccw_write_effect, ← htotal]
      · simp [ccw_write_effect, hlast, ← htotal]
        omega
    rw [List.nil_append, List.map_cons, List.map_replicate, ccw_last_flags, hlast,
      ccw_last_flags_replicate_zero m hcur, nop_count_ccw_write_effect]
    rfl
  | y :: front, config, hx, htotal => by
    have hx : x ≠ 0 := hx.resolve_right (List.cons_ne_nil _ _)
    simp only [List.cons_append, List.sum_cons] at htotal
    have hnot : is_last_ccw_write y config = false := by
      have : 0 < (front ++ x :: List.replicate m 0).sum := by simp; omega
      simp [is_last_ccw_write]
      omega
    have htotal' : (config.write y).current_buffer_size + (front ++ x :: List.replicate m 0).sum =
        (config.write y).total_cfg_size := by
      simp only [ConfigBuffer.write_current_buffer_size, ConfigBuffer.write_total_cfg_size]
      omega
    rw [List.cons_append, List.map_cons, ccw_last_flags, hnot, ccw_write_effect, hnot, Bool.and_false,
      if_neg Bool.false_ne_true, ccw_last_flags_split (Or.inl hx) htotal', nop_count_write]
    rfl

/-! ### A context's run -/

/-- **Which CCW writes of a channel are last.**  Run a context's operations
through the three passes, from config buffers where channel `c`'s buffer is
empty and sized as the sum of the lengths `get_config_buffer_info` records for
it.  Split those lengths at the last non-empty one (the first, if none is):
the writes before it see `is_last_ccw_write()` false, it sees true, and each
empty write after it sees true exactly when pre-fetch is off or the channel
needed no NOP. -/
theorem parse_operations_last_ccw_writes {env : RecipeEnv σ τ} {hw_arch : ProtoHEFHwArch}
    {context_index : Nat} {is_preliminary_context : Bool} {resources_manager : ResourcesManager}
    {operations : List (ProtoHEFOperation τ)} {first_operation : Bool} {s s' : ContextState σ}
    {executed : List ContextSwitchConfigAction} {results : ConfigBufferInfoMap} {c x m : Nat} {front : List Nat}
    (h : (parse_operations env hw_arch context_index is_preliminary_context resources_manager operations
      first_operation s).run = some (.ok (executed, s')))
    (hinfo : get_config_buffer_info env.CONTROL_PROTOCOL__MAX_CFG_CHANNELS operations = .ok results)
    (hc : c < s.config_resources.length) (hcur : (s.config_resources.getD c default).current_buffer_size = 0)
    (htotal : (s.config_resources.getD c default).total_cfg_size = ((results.lookup c).getD []).sum)
    (hlengths : (results.lookup c).getD [] = front ++ x :: List.replicate m 0) (hx : x ≠ 0 ∨ front = []) :
    last_write_flags c executed s.config_resources =
      List.replicate front.length false ++ true ::
        List.replicate m (!is_mercury_device_type hw_arch || nop_count (s.config_resources.getD c default) == 0) := by
  rw [last_write_flags_eq hc, parse_operations_ccw_writes h, channel_writes_map, ← get_config_buffer_info_lookup hinfo,
    hlengths]
  exact ccw_last_flags_split hx (by rw [hcur, htotal, hlengths, Nat.zero_add])

/-- A resources manager without `preliminary_run_asap`, DDR pairs or config
buffers of its own. -/
def plain_resources_manager : ResourcesManager := ⟨false, fun _ => [], [], fun _ => []⟩

/-- A preliminary operation writing `8` bytes to channel `0`, then nothing. -/
def write_then_empty_write : ProtoHEFOperation Unit :=
  ⟨(), [.write_data_ccw 0 [0, 0, 0, 0, 0, 0, 0, 0], .write_data_ccw 0 []]⟩

unseal boundary_indices_loop chunk_loop repeated_actions_loop in
/-- On pre-fetch hardware with pages of `16` bytes, the `8` bytes need a NOP:
the empty write after them is not last. -/
theorem parse_operations_last_ccw_writes_write_then_empty :
    (parse_operations asap_env .MERCURY 0 true plain_resources_manager [write_then_empty_write] true
      ⟨[⟨16, 8, 0⟩], ()⟩).run =
      some (.ok ([mk' (.WriteDataCcwAction 0 [0, 0, 0, 0, 0, 0, 0, 0] true), mk' (.WriteDataCcwAction 0 [] true),
        mk' (.AddCcwBurstAction 0 2)], ⟨[⟨16, 8, 16⟩], ()⟩)) ∧
      get_config_buffer_info asap_env.CONTROL_PROTOCOL__MAX_CFG_CHANNELS [write_then_empty_write] =
        .ok [(0, [8, 0])] ∧
      last_write_flags 0 [mk' (.WriteDataCcwAction 0 [0, 0, 0, 0, 0, 0, 0, 0] true),
        mk' (.WriteDataCcwAction 0 [] true), mk' (.AddCcwBurstAction 0 2)] [⟨16, 8, 0⟩] = [true, false] := by
  have h : (parse_operations asap_env .MERCURY 0 true plain_resources_manager [write_then_empty_write] true
      ⟨[⟨16, 8, 0⟩], ()⟩).run =
      some (.ok ([mk' (.WriteDataCcwAction 0 [0, 0, 0, 0, 0, 0, 0, 0] true), mk' (.WriteDataCcwAction 0 [] true),
        mk' (.AddCcwBurstAction 0 2)], ⟨[⟨16, 8, 16⟩], ()⟩)) := by rfl
  have hinfo : get_config_buffer_info asap_env.CONTROL_PROTOCOL__MAX_CFG_CHANNELS [write_then_empty_write] =
      .ok [(0, [8, 0])] := rfl
  have hc : 0 < [(⟨16, 8, 0⟩ : ConfigBuffer)].length := by decide
  have hlengths : ([(0, [8, 0])].lookup 0).getD [] = [] ++ 8 :: List.replicate 1 0 := rfl
  exact ⟨h, hinfo, parse_operations_last_ccw_writes h hinfo hc rfl rfl hlengths (.inl (by decide))⟩

/-- A preliminary operation writing nothing to channel `0`, twice. -/
def two_empty_writes : ProtoHEFOperation Unit := ⟨(), [.write_data_ccw 0 [], .write_data_ccw 0 []]⟩

unseal boundary_indices_loop chunk_loop repeated_actions_loop in
/-- Two empty writes to a channel sized `0` on pre-fetch hardware: both are
last, so both pad the buffer and program its descriptors. -/
theorem parse_operations_two_empty_writes :
    (parse_operations asap_env .MERCURY 0 true plain_resources_manager [two_empty_writes] true
      ⟨[⟨8, 0, 0⟩], ()⟩).run =
      some (.ok ([mk' (.WriteDataCcwAction 0 [] true), mk' (.WriteDataCcwAction 0 [] true),
        mk' (.AddCcwBurstAction 0 2)], ⟨[⟨8, 0, 0⟩], ()⟩)) ∧
      get_config_buffer_info asap_env.CONTROL_PROTOCOL__MAX_CFG_CHANNELS [two_empty_writes] = .ok [(0, [0, 0])] ∧
      last_write_flags 0 [mk' (.WriteDataCcwAction 0 [] true), mk' (.WriteDataCcwAction 0 [] true),
        mk' (.AddCcwBurstAction 0 2)] [⟨8, 0, 0⟩] = [true, true] :=
  ⟨by rfl, rfl, rfl⟩

unseal boundary_indices_loop chunk_loop repeated_actions_loop in
theorem parse_operations_config_resources_two_empty_writes :
    (parse_operations asap_env .MERCURY 0 true plain_resources_manager [two_empty_writes] true
      ⟨[⟨8, 0, 0⟩], ()⟩).run =
      some (.ok ([mk' (.WriteDataCcwAction 0 [] true), mk' (.WriteDataCcwAction 0 [] true),
        mk' (.AddCcwBurstAction 0 2)], ⟨[⟨8, 0, 0⟩], ()⟩)) ∧
    [(⟨8, 0, 0⟩ : ConfigBuffer)] = [mk' (.WriteDataCcwAction 0 [] true), mk' (.WriteDataCcwAction 0 [] true),
        mk' (.AddCcwBurstAction 0 2)].foldl config_effect [⟨8, 0, 0⟩] :=
  have h : (parse_operations asap_env .MERCURY 0 true plain_resources_manager [two_empty_writes] true
      ⟨[⟨8, 0, 0⟩], ()⟩).run =
      some (.ok ([mk' (.WriteDataCcwAction 0 [] true), mk' (.WriteDataCcwAction 0 [] true),
        mk' (.AddCcwBurstAction 0 2)], ⟨[⟨8, 0, 0⟩], ()⟩)) := by rfl
  ⟨h, parse_operations_config_resources h⟩

end Hef
end HailoRT
