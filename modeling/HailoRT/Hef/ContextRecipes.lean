/-
# Compiling the contexts of a network group

`Hef::Impl::create_resources_manager` (`hef.cpp`, lines 2330-2389) turns the
parsed network group into one action list per context, the preliminary context
first:

| function | what it does |
|---|---|
| `get_parsing_info` | the lengths of every context's CCW writes, per channel |
| `fill_preliminary_config_recepies_for_multi_context` | the preliminary context's operations |
| `fill_context_recepies_for_multi_context` | one dynamic context's operations |
| `parse_actions_in_operation` | create the actions, passes A, B, C, execute |

Each operation's actions are created by the factory, rewritten by
`add_fetch_config_actions` (pass A), `handle_edge_layer_activation_actions`
(pass B) and `handle_repeated_actions` (pass C), and then executed in order.
The model returns, with the state, the list of actions executed for each
context: what `execute` writes into the context's info is that list, action by
action.

`WriteDataCcwAction::execute` is modelled in full, as it reads and writes the
context's config buffers (`is_last_ccw_write`, `pad_with_nops`).  Every other
class's `execute`, the triggers, the edge-layer mapping and the resources
manager's own methods live in `resource_manager.cpp`, `context_switch_defs.h`
and the firmware headers, which are not among the sources: they are the
fields of `RecipeEnv`.

`edge_layer_activation_types_executed` follows the edge-layer types through
the three passes of one operation: the pass B of an operation that activates
its edge layers leaves exactly one marker, right before its triggers, and any
other operation has none.
-/

import HailoRT.Hef.FetchConfig
import HailoRT.Hef.EdgeLayerActivation
import HailoRT.Hef.RepeatedActions

namespace HailoRT
namespace Hef

open ContextSwitchConfigAction

/-! ### The parsed network group -/

/-- `ProtoHEFHwArch`, through the values `hef.cpp` compares against; `OTHER`
stands for the rest. -/
inductive ProtoHEFHwArch
  | HAILO8L
  | MERCURY
  | GINGER
  | LAVENDER
  | OTHER
  deriving DecidableEq, Repr

/-- `is_mercury_device_type`. -/
def is_mercury_device_type (hw_arch : ProtoHEFHwArch) : Bool :=
  hw_arch == .MERCURY || hw_arch == .GINGER || hw_arch == .LAVENDER

/-- A `ProtoHEFOperation`: its trigger, kept opaque, and its actions. -/
structure ProtoHEFOperation (τ : Type) where
  trigger : τ
  actions : List ProtoHEFAction

/-- A `ProtoHEFContext`, through its operations. -/
structure ProtoHEFContext (τ : Type) where
  operations : List (ProtoHEFOperation τ)

instance {τ : Type} : Inhabited (ProtoHEFContext τ) := ⟨⟨[]⟩⟩

/-- A `ProtoHEFNetworkGroup`: the operations of `preliminary_config()` and the
contexts. -/
structure ProtoHEFNetworkGroup (τ : Type) where
  preliminary_config : List (ProtoHEFOperation τ)
  contexts : List (ProtoHEFContext τ)

/-! ### The parsing info -/

/-- `ConfigBufferInfoMap`: for each config channel index met, the lengths of
its CCW writes in order. -/
abbrev ConfigBufferInfoMap := List (Nat × List Nat)

/-- `update_parsing_info`: append a write's length to its channel's entry,
which is created on the channel's first write. -/
def update_parsing_info (CONTROL_PROTOCOL__MAX_CFG_CHANNELS : Nat) (cfg_index data_length : Nat)
    (results : ConfigBufferInfoMap) : Except HailoStatus ConfigBufferInfoMap := do
  CHECK (cfg_index < CONTROL_PROTOCOL__MAX_CFG_CHANNELS) .HAILO_INVALID_HEF
  match results.lookup cfg_index with
  | some _ => return results.map fun p => if p.1 = cfg_index then (p.1, p.2 ++ [data_length]) else p
  | none => return results ++ [(cfg_index, [data_length])]

/-- The body of `get_config_buffer_info`'s inner loop, for one action. -/
def config_buffer_info_step (CONTROL_PROTOCOL__MAX_CFG_CHANNELS : Nat) (results : ConfigBufferInfoMap) :
    ProtoHEFAction → Except HailoStatus ConfigBufferInfoMap
  | .write_data_ccw cfg_channel_index data => do
    CHECK (IS_FIT_IN_UINT8 cfg_channel_index) .HAILO_INVALID_HEF
    update_parsing_info CONTROL_PROTOCOL__MAX_CFG_CHANNELS cfg_channel_index data.length results
  | _ => pure results

/-- `get_config_buffer_info`. -/
def get_config_buffer_info {τ : Type} (CONTROL_PROTOCOL__MAX_CFG_CHANNELS : Nat)
    (operations : List (ProtoHEFOperation τ)) : Except HailoStatus ConfigBufferInfoMap :=
  operations.foldlM (fun results operation =>
    operation.actions.foldlM (config_buffer_info_step CONTROL_PROTOCOL__MAX_CFG_CHANNELS) results) []

/-- `HefParsingInfo`. -/
structure HefParsingInfo where
  cfg_infos_preliminary_config : ConfigBufferInfoMap
  cfg_infos_per_context : List ConfigBufferInfoMap

/-- `Hef::Impl::get_parsing_info`. -/
def get_parsing_info {τ : Type} (CONTROL_PROTOCOL__MAX_CFG_CHANNELS : Nat)
    (net_group : ProtoHEFNetworkGroup τ) : Except HailoStatus HefParsingInfo := do
  let cfg_infos_preliminary_config ←
    get_config_buffer_info CONTROL_PROTOCOL__MAX_CFG_CHANNELS net_group.preliminary_config
  let cfg_infos_per_context ← net_group.contexts.mapM fun context =>
    get_config_buffer_info CONTROL_PROTOCOL__MAX_CFG_CHANNELS context.operations
  return ⟨cfg_infos_preliminary_config, cfg_infos_per_context⟩

/-! ### Executing a CCW write -/

/-- `CCW_HEADER_SIZE`, which is also the size of `CCW_NOP`. -/
def CCW_HEADER_SIZE : Nat := 8

instance : Inhabited ConfigBuffer := ⟨⟨0, 0, 0⟩⟩

/-- `ConfigBuffer::write`, through the size it keeps (`config_buffer.cpp` is
not among the sources). -/
def ConfigBuffer.write (config : ConfigBuffer) (data_size : Nat) : ConfigBuffer :=
  { config with current_buffer_size := config.current_buffer_size + data_size }

/-- `WriteDataCcwAction::is_last_ccw_write`. -/
def is_last_ccw_write (write_size : Nat) (config : ConfigBuffer) : Bool :=
  write_size + config.current_buffer_size == config.total_cfg_size

/-- The loop of `pad_with_nops`,
`for (uint8_t nop_index = 0; nop_index < nop_count; nop_index++)`, at counter
`nop_index` with `fuel` of the counter's 256 values left: past 255 NOPs the
counter wraps and the loop never exits. -/
def nop_loop : (fuel nop_index nop_count : Nat) → ConfigBuffer → Option ConfigBuffer
  | 0, _, _, _ => none
  | fuel + 1, nop_index, nop_count, config =>
    if nop_index < nop_count then nop_loop fuel ((nop_index + 1) % 256) nop_count (config.write CCW_HEADER_SIZE)
    else some config

/-- `WriteDataCcwAction::pad_with_nops`. -/
def pad_with_nops (config : ConfigBuffer) : MayDiverge ConfigBuffer := do
  let page_size := config.desc_page_size
  let buffer_size := config.total_cfg_size
  let buffer_residue := buffer_size % page_size
  CHECK (buffer_residue % CCW_HEADER_SIZE = 0) .HAILO_INTERNAL_FAILURE
  let nop_count := if buffer_residue = 0 then 0 else (page_size - buffer_residue) / CCW_HEADER_SIZE
  ExceptT.mk ((nop_loop 256 0 nop_count config).map .ok)

/-- `WriteDataCcwAction::execute` on the action's config buffer;
`program_descriptors` is `ConfigBuffer::program_descriptors`. -/
def WriteDataCcwAction.execute (program_descriptors : ConfigBuffer → Except HailoStatus Unit)
    (write_size : Nat) (support_pre_fetch : Bool) (config : ConfigBuffer) : MayDiverge ConfigBuffer := do
  let is_last_write := is_last_ccw_write write_size config
  let config ← if support_pre_fetch && is_last_write then pad_with_nops config else pure config
  let config := config.write write_size
  if support_pre_fetch && is_last_write then
    program_descriptors config
  return config

/-! ### The environment -/

/-- What compiling the contexts asks of the code that is not among the
sources, over the context info `σ` and the trigger `τ`. -/
structure RecipeEnv (σ τ : Type) where
  action_env : ActionEnv
  MAX_CONTEXTS_COUNT : Nat
  CONTROL_PROTOCOL__MAX_CFG_CHANNELS : Nat
  HAILO_MAX_BATCH_SIZE : Nat
  /-- The batch sizes of `config_params.network_params_by_name`. -/
  batch_sizes : List Nat
  /-- `ResourcesManager::create`. -/
  create_resources : HefParsingInfo → Except HailoStatus ResourcesManager
  /-- `add_new_context`: a fresh context info. -/
  add_new_context : Except HailoStatus σ
  /-- `ContextSwitchTrigger::create` and `add_to_trigger_group`. -/
  add_trigger : τ → σ → Except HailoStatus σ
  /-- `parse_and_fill_edge_layers_mapping` for a context index. -/
  parse_and_fill_edge_layers_mapping : Nat → σ → Except HailoStatus σ
  /-- `execute` of every class but `WriteDataCcwAction`, on the context info. -/
  execute : ContextSwitchConfigAction → σ → Except HailoStatus σ
  /-- `ConfigBuffer::program_descriptors`. -/
  program_descriptors : ConfigBuffer → Except HailoStatus Unit
  /-- `create_fw_managed_vdma_channels`. -/
  create_fw_managed_vdma_channels : Except HailoStatus Unit

/-- The state one context's compilation changes: the config buffers it writes
(`preliminary_config()` or `dynamic_config(context_index)`) and its context
info. -/
structure ContextState (σ : Type) where
  config_resources : List ConfigBuffer
  context_info : σ

variable {σ τ : Type}

/-- `configuration_action->execute(...)`. -/
def execute (env : RecipeEnv σ τ) (configuration_action : ContextSwitchConfigAction) (s : ContextState σ) :
    MayDiverge (ContextState σ) :=
  match configuration_action.action with
  | .WriteDataCcwAction cfg_channel_index data support_pre_fetch => do
    let config ← WriteDataCcwAction.execute env.program_descriptors data.length support_pre_fetch
      (s.config_resources.getD cfg_channel_index default)
    return { s with config_resources := s.config_resources.set cfg_channel_index config }
  | _ => do
    let context_info ← env.execute configuration_action s.context_info
    return { s with context_info }

/-! ### The model -/

/-- `parse_actions_in_operation`: the actions executed, and the state after. -/
def parse_actions_in_operation (env : RecipeEnv σ τ) (operation : ProtoHEFOperation τ)
    (hw_arch : ProtoHEFHwArch) (context_index : Nat) (is_preliminary_context is_first_operation : Bool)
    (resources_manager : ResourcesManager) (s : ContextState σ) :
    MayDiverge (List ContextSwitchConfigAction × ContextState σ) := do
  let support_pre_fetch := is_mercury_device_type hw_arch
  let configuration_actions ← (operation.actions.mapM fun proto_action =>
    ContextSwitchConfigAction.create env.action_env proto_action s.config_resources support_pre_fetch :
      Except HailoStatus _)
  let configuration_actions ←
    add_fetch_config_actions configuration_actions s.config_resources support_pre_fetch
  let configuration_actions ← handle_edge_layer_activation_actions configuration_actions
    resources_manager context_index is_preliminary_context is_first_operation
  let configuration_actions ← handle_repeated_actions configuration_actions
  let s ← configuration_actions.foldlM (fun s configuration_action => execute env configuration_action s) s
  return (configuration_actions, s)

/-- The `for (const auto &operation ...)` loop of both fill functions, with
`first_operation` true only on its first pass. -/
def parse_operations (env : RecipeEnv σ τ) (hw_arch : ProtoHEFHwArch) (context_index : Nat)
    (is_preliminary_context : Bool) (resources_manager : ResourcesManager) :
    List (ProtoHEFOperation τ) → Bool → ContextState σ →
      MayDiverge (List ContextSwitchConfigAction × ContextState σ)
  | [], _, s => pure ([], s)
  | operation :: rest, first_operation, s => do
    let context_info ← env.add_trigger operation.trigger s.context_info
    let (executed, s) ← parse_actions_in_operation env operation hw_arch context_index is_preliminary_context
      first_operation resources_manager { s with context_info }
    let (executed_rest, s) ← parse_operations env hw_arch context_index is_preliminary_context
      resources_manager rest false s
    return (executed ++ executed_rest, s)

/-- `fill_context_recepies_for_multi_context`. -/
def fill_context_recepies_for_multi_context (env : RecipeEnv σ τ) (hw_arch : ProtoHEFHwArch)
    (resources_manager : ResourcesManager) (context_index : Nat) (proto_context : ProtoHEFContext τ)
    (s : ContextState σ) : MayDiverge (List ContextSwitchConfigAction × ContextState σ) := do
  let context_info ← env.parse_and_fill_edge_layers_mapping context_index s.context_info
  CHECK (IS_FIT_IN_UINT8 proto_context.operations.length) .HAILO_INVALID_HEF
  parse_operations env hw_arch context_index false resources_manager proto_context.operations true
    { s with context_info }

/-- `fill_preliminary_config_recepies_for_multi_context`: the edge layers of
the preliminary context are mapped only with `preliminary_run_asap`, from the
metadata of context 0. -/
def fill_preliminary_config_recepies_for_multi_context (env : RecipeEnv σ τ) (hw_arch : ProtoHEFHwArch)
    (resources_manager : ResourcesManager) (proto_preliminary_config : List (ProtoHEFOperation τ))
    (s : ContextState σ) : MayDiverge (List ContextSwitchConfigAction × ContextState σ) := do
  CHECK (IS_FIT_IN_UINT8 proto_preliminary_config.length) .HAILO_INVALID_HEF
  let context_info ← if resources_manager.preliminary_run_asap then
      env.parse_and_fill_edge_layers_mapping 0 s.context_info
    else pure s.context_info
  parse_operations env hw_arch 0 true resources_manager proto_preliminary_config true
    { s with context_info }

/-- One compiled context: the actions executed for it, its config buffers and
its context info. -/
structure CompiledContext (σ : Type) where
  actions : List ContextSwitchConfigAction
  config_resources : List ConfigBuffer
  context_info : σ

/-- The compiled network group: the preliminary context and the dynamic ones. -/
structure CompiledNetworkGroup (σ : Type) where
  preliminary_context : CompiledContext σ
  dynamic_contexts : List (CompiledContext σ)

/-- The dynamic contexts' loop of `create_resources_manager`,
`for (uint8_t context_index = 0; context_index < contexts_size(); ++context_index)`,
at counter `context_index` with `fuel` of the counter's 256 values left. -/
def contexts_loop (env : RecipeEnv σ τ) (hw_arch : ProtoHEFHwArch) (resources_manager : ResourcesManager)
    (contexts : List (ProtoHEFContext τ)) :
    (fuel context_index : Nat) → List (CompiledContext σ) → MayDiverge (List (CompiledContext σ))
  | 0, _, _ => ExceptT.mk none
  | fuel + 1, context_index, compiled =>
    if context_index < contexts.length then do
      let new_context ← env.add_new_context
      let (actions, s) ← fill_context_recepies_for_multi_context env hw_arch resources_manager context_index
        (contexts.getD context_index default) ⟨resources_manager.dynamic_config context_index, new_context⟩
      contexts_loop env hw_arch resources_manager contexts fuel ((context_index + 1) % 256)
        (compiled ++ [⟨actions, s.config_resources, s.context_info⟩])
    else pure compiled

/-- `Hef::Impl::create_resources_manager`. -/
def create_resources_manager (env : RecipeEnv σ τ) (network_group_proto : ProtoHEFNetworkGroup τ)
    (hw_arch : ProtoHEFHwArch) : MayDiverge (CompiledNetworkGroup σ) := do
  CHECK (network_group_proto.contexts.length ≤ env.MAX_CONTEXTS_COUNT) .HAILO_INVALID_HEF
  env.batch_sizes.forM fun batch_size => CHECK (batch_size ≤ env.HAILO_MAX_BATCH_SIZE) .HAILO_INVALID_ARGUMENT
  let parsing_info ← get_parsing_info env.CONTROL_PROTOCOL__MAX_CFG_CHANNELS network_group_proto
  let resources_manager ← env.create_resources parsing_info
  let preliminary_context ← env.add_new_context
  let (actions, s) ← fill_preliminary_config_recepies_for_multi_context env hw_arch resources_manager
    network_group_proto.preliminary_config ⟨resources_manager.preliminary_config, preliminary_context⟩
  let dynamic_contexts ← contexts_loop env hw_arch resources_manager network_group_proto.contexts 256 0 []
  env.create_fw_managed_vdma_channels
  return ⟨⟨actions, s.config_resources, s.context_info⟩, dynamic_contexts⟩

/-! ### The config buffers of a context

The resources manager, which is not among the sources, creates a context's
config buffers from the `ConfigBufferInfoMap` that `get_config_buffer_info`
returns for it, one per channel.  That map has at most
`CONTROL_PROTOCOL__MAX_CFG_CHANNELS` channels, a firmware constant of a header
that is not among the sources either. -/

section ConfigBuffers

variable {CONTROL_PROTOCOL__MAX_CFG_CHANNELS : Nat}

/-- The channels a map holds are distinct and pass `update_parsing_info`'s check. -/
def ChannelsValid (CONTROL_PROTOCOL__MAX_CFG_CHANNELS : Nat) (results : ConfigBufferInfoMap) : Prop :=
  (results.map Prod.fst).Nodup ∧ ∀ c ∈ results.map Prod.fst, c < CONTROL_PROTOCOL__MAX_CFG_CHANNELS

theorem ChannelsValid.update {cfg_index data_length : Nat} {results results' : ConfigBufferInfoMap}
    (hv : ChannelsValid CONTROL_PROTOCOL__MAX_CFG_CHANNELS results)
    (h : update_parsing_info CONTROL_PROTOCOL__MAX_CFG_CHANNELS cfg_index data_length results = .ok results') :
    ChannelsValid CONTROL_PROTOCOL__MAX_CFG_CHANNELS results' := by
  simp only [update_parsing_info, CHECK_bind_eq_ok] at h
  obtain ⟨hlt, h⟩ := h
  split at h <;> cases h
  · -- a channel met before: its entry grows, the channels stay
    have hkeys : ((results.map fun p => if p.1 = cfg_index then (p.1, p.2 ++ [data_length]) else p).map Prod.fst) =
        results.map Prod.fst := by
      simp only [List.map_map, Function.comp_def, apply_ite Prod.fst, ite_self]
    rwa [ChannelsValid, hkeys]
  · -- a new channel is appended
    rename_i hnone
    have hnew : cfg_index ∉ results.map Prod.fst := fun hmem => by
      obtain ⟨p, hp, rfl⟩ := List.mem_map.1 hmem
      simpa using List.lookup_eq_none_iff.1 hnone p hp
    refine ⟨?_, fun c hc => ?_⟩
    · rw [List.map_append, List.map_singleton, List.nodup_append_comm, List.singleton_append, List.nodup_cons]
      exact ⟨hnew, hv.1⟩
    · rw [List.map_append, List.mem_append, List.map_singleton, List.mem_singleton] at hc
      exact hc.elim (hv.2 c) fun h => h ▸ hlt

theorem ChannelsValid.step {results results' : ConfigBufferInfoMap} {action : ProtoHEFAction}
    (hv : ChannelsValid CONTROL_PROTOCOL__MAX_CFG_CHANNELS results)
    (h : config_buffer_info_step CONTROL_PROTOCOL__MAX_CFG_CHANNELS results action = .ok results') :
    ChannelsValid CONTROL_PROTOCOL__MAX_CFG_CHANNELS results' := by
  unfold config_buffer_info_step at h
  split at h
  · exact hv.update (CHECK_bind_eq_ok.1 h).2
  · cases h; exact hv

/-- **The channels of a context.**  `get_config_buffer_info` records distinct
channels, each below `CONTROL_PROTOCOL__MAX_CFG_CHANNELS`, so at most that many. -/
theorem get_config_buffer_info_length_le {operations : List (ProtoHEFOperation τ)} {results : ConfigBufferInfoMap}
    (h : get_config_buffer_info CONTROL_PROTOCOL__MAX_CFG_CHANNELS operations = .ok results) :
    results.length ≤ CONTROL_PROTOCOL__MAX_CFG_CHANNELS := by
  have hv : ChannelsValid CONTROL_PROTOCOL__MAX_CFG_CHANNELS results := by
    refine Except.foldlM_invariant _ (fun _ _ _ hv h => ?_) ?_ h
    · exact Except.foldlM_invariant _ (fun _ _ _ hv h => hv.step h) hv h
    · exact ⟨List.nodup_nil, by simp⟩
  calc results.length
      = (results.map Prod.fst).toFinset.card := by rw [List.toFinset_card_of_nodup hv.1, List.length_map]
    _ ≤ (Finset.range CONTROL_PROTOCOL__MAX_CFG_CHANNELS).card :=
        Finset.card_le_card fun c hc => Finset.mem_range.2 (hv.2 c (List.mem_toFinset.1 hc))
    _ = CONTROL_PROTOCOL__MAX_CFG_CHANNELS := Finset.card_range _

/-- **Pass A over a context's config buffers.**  With one config buffer per
channel that `get_config_buffer_info` records for the context, and every
write's channel below their number, `add_fetch_config_actions` returns and
computes `fetch_config_pass` whenever the firmware has at most 255 config
channels: the channels are distinct and below that bound, so the clearing
loop's `uint8_t` counter never wraps. -/
theorem add_fetch_config_actions_of_config_buffer_info {operations : List (ProtoHEFOperation τ)}
    {results : ConfigBufferInfoMap} (actions : List ContextSwitchConfigAction)
    (config_resources : List ConfigBuffer) (support_pre_fetch : Bool)
    (hmax : CONTROL_PROTOCOL__MAX_CFG_CHANNELS ≤ 255)
    (hinfo : get_config_buffer_info CONTROL_PROTOCOL__MAX_CFG_CHANNELS operations = .ok results)
    (hresources : config_resources.length = results.length)
    (hidx : ∀ a ∈ actions, a.get_type = .WriteDataCcw →
      a.action.write_data_ccw_cfg_channel_index < config_resources.length) :
    (add_fetch_config_actions actions config_resources support_pre_fetch).run =
      some (fetch_config_pass support_pre_fetch actions) :=
  add_fetch_config_actions_eq actions config_resources support_pre_fetch
    (hresources ▸ (get_config_buffer_info_length_le hinfo).trans hmax) hidx

/-- An operation that writes channel 1, channel 0 and channel 1 again. -/
def two_channels_operation : ProtoHEFOperation Unit :=
  ⟨(), [.write_data_ccw 1 [0], .write_data_ccw 0 [], .write_data_ccw 1 [0, 0]]⟩

theorem add_fetch_config_actions_of_config_buffer_info_two_channels :
    4 ≤ 255 ∧ get_config_buffer_info 4 [two_channels_operation] = .ok [(1, [1, 2]), (0, [0])] ∧
    (List.replicate 2 (⟨8, 16, 0⟩ : ConfigBuffer)).length = [(1, [1, 2]), (0, [0])].length ∧
    (∀ a ∈ [mk' (.WriteDataCcwAction 1 [0] true), mk' (.WriteDataCcwAction 0 [] true),
        mk' (.WriteDataCcwAction 1 [0, 0] true), mk' (.DisableLcuAction 0 0)],
      a.get_type = .WriteDataCcw →
        a.action.write_data_ccw_cfg_channel_index < (List.replicate 2 (⟨8, 16, 0⟩ : ConfigBuffer)).length) ∧
    (add_fetch_config_actions [mk' (.WriteDataCcwAction 1 [0] true), mk' (.WriteDataCcwAction 0 [] true),
        mk' (.WriteDataCcwAction 1 [0, 0] true), mk' (.DisableLcuAction 0 0)]
        (List.replicate 2 ⟨8, 16, 0⟩) true).run =
      some (fetch_config_pass true [mk' (.WriteDataCcwAction 1 [0] true),
        mk' (.WriteDataCcwAction 0 [] true), mk' (.WriteDataCcwAction 1 [0, 0] true),
        mk' (.DisableLcuAction 0 0)]) := by
  have hinfo : get_config_buffer_info 4 [two_channels_operation] = .ok [(1, [1, 2]), (0, [0])] := rfl
  exact ⟨by decide, hinfo, rfl, by decide,
    add_fetch_config_actions_of_config_buffer_info _ _ _ (by decide) hinfo rfl (by decide)⟩

end ConfigBuffers

/-! ### What one operation executes -/

section Operation

variable {env : RecipeEnv σ τ} {hw_arch : ProtoHEFHwArch} {resources_manager : ResourcesManager}
  {context_index : Nat} {s s' : ContextState σ} {executed : List ContextSwitchConfigAction}

/-- What a returning `parse_actions_in_operation` did: it created the actions,
ran the three passes, and executed what pass C returned. -/
theorem parse_actions_in_operation_eq_ok {operation : ProtoHEFOperation τ}
    {is_preliminary_context is_first_operation : Bool}
    (h : (parse_actions_in_operation env operation hw_arch context_index is_preliminary_context
      is_first_operation resources_manager s).run = some (.ok (executed, s'))) :
    ∃ created A B,
      (operation.actions.mapM fun proto_action => ContextSwitchConfigAction.create env.action_env proto_action
        s.config_resources (is_mercury_device_type hw_arch)) = .ok created ∧
      (add_fetch_config_actions created s.config_resources (is_mercury_device_type hw_arch)).run =
        some (.ok A) ∧
      handle_edge_layer_activation_actions A resources_manager context_index is_preliminary_context
        is_first_operation = .ok B ∧
      executed = (runs get_type B).flatMap compress_run ∧
      (executed.foldlM (fun s configuration_action => execute env configuration_action s) s).run =
        some (.ok s') := by
  simp only [parse_actions_in_operation, MayDiverge.run_bind_eq_ok, MayDiverge.run_monadLift,
    Option.some.injEq] at h
  obtain ⟨created, hcreated, A, hA, B, hB, C, hC, s₁, hexec, h⟩ := h
  obtain ⟨rfl, rfl⟩ := Prod.mk.inj (Except.ok.inj (Option.some.inj h))
  rw [handle_repeated_actions_eq, Except.ok.injEq] at hC
  subst hC
  exact ⟨created, A, B, hcreated, hA, hB, rfl, hexec⟩

end Operation

/-- The created actions are all of HEF types. -/
theorem is_hef_action_type_of_mapM {env : ActionEnv} {proto_actions : List ProtoHEFAction}
    {config : List ConfigBuffer} {support_pre_fetch : Bool} {created : List ContextSwitchConfigAction}
    (h : (proto_actions.mapM fun proto_action =>
      ContextSwitchConfigAction.create env proto_action config support_pre_fetch) = .ok created) :
    ∀ a ∈ created, is_hef_action_type a.get_type = true := fun _ ha => by
  obtain ⟨_, -, hp⟩ := exists_of_mapM_eq_ok h ha
  exact (create_eq_ok hp).2.1

/-- The actions pass A inserts are of no HEF type. -/
theorem is_hef_action_type_of_fetch {a : ContextSwitchConfigAction} (h : is_fetch_config_action a = true) :
    is_hef_action_type a.get_type = false := by
  simp only [is_fetch_config_action, Bool.or_eq_true, beq_iff_eq] at h
  rcases h with h | h <;> rw [h] <;> rfl

/-- Pass B adds actions of no HEF type, none of them a header. -/
theorem mem_handle_edge_layer_activation_actions {A B : List ContextSwitchConfigAction}
    {resources_manager : ResourcesManager} {context_index : Nat} {is_preliminary_context is_first_operation : Bool}
    (h : handle_edge_layer_activation_actions A resources_manager context_index is_preliminary_context
      is_first_operation = .ok B) {a : ContextSwitchConfigAction} (ha : a ∈ B) :
    a ∈ A ∨ is_hef_action_type a.get_type = false ∧ a.get_type ≠ .AddRrepeated := by
  rw [handle_edge_layer_activation_actions_eq] at h
  split_ifs at h
  · rcases mem_edge_layer_activation_pass h ha with h | h | rfl | rfl
    · exact .inl h
    · right; rcases get_type_mem_ddr_buffers_info h with h | h <;> rw [h] <;> decide
    · exact .inr ⟨rfl, by decide⟩
    · exact .inr ⟨rfl, by decide⟩
  · cases h
    exact .inl ha

/-- Neither pass A nor pass B adds a header. -/
theorem get_type_ne_header_of_passes {created A B : List ContextSwitchConfigAction}
    {config_resources : List ConfigBuffer} {support_pre_fetch : Bool} {resources_manager : ResourcesManager}
    {context_index : Nat} {is_preliminary_context is_first_operation : Bool}
    (hnew : ∀ a ∈ created, is_hef_action_type a.get_type = true)
    (hA : (add_fetch_config_actions created config_resources support_pre_fetch).run = some (.ok A))
    (hB : handle_edge_layer_activation_actions A resources_manager context_index is_preliminary_context
      is_first_operation = .ok B) :
    ∀ a ∈ B, a.get_type ≠ .AddRrepeated := fun a ha => by
  rcases mem_handle_edge_layer_activation_actions hB ha with ha | ⟨-, h⟩
  · rcases mem_add_fetch_config_actions hA ha with hf | hc
    · simp only [is_fetch_config_action, Bool.or_eq_true, beq_iff_eq] at hf
      rcases hf with h | h <;> rw [h] <;> decide
    · intro h
      have := hnew a hc
      rw [h] at this
      cases this
  · exact h

section Values

variable {β : Type} (f : Action → Option β)

/-- The values `f` reads off the actions of a list, in order. -/
def action_values (L : List ContextSwitchConfigAction) : List β := (L.map (·.action)).filterMap f

@[simp] theorem action_values_append (l₁ l₂ : List ContextSwitchConfigAction) :
    action_values f (l₁ ++ l₂) = action_values f l₁ ++ action_values f l₂ := by
  simp [action_values]

theorem action_values_cons (a : ContextSwitchConfigAction) (l : List ContextSwitchConfigAction) :
    action_values f (a :: l) = action_values f [a] ++ action_values f l := by
  rw [← action_values_append]; rfl

theorem action_values_flatMap {γ : Type} (rs : List γ) (g : γ → List ContextSwitchConfigAction) :
    action_values f (rs.flatMap g) = rs.flatMap fun r => action_values f (g r) := by
  induction rs with
  | nil => rfl
  | cons r rs ih => rw [List.flatMap_cons, List.flatMap_cons, action_values_append, ih]

theorem action_values_eq_nil {l : List ContextSwitchConfigAction} (h : ∀ a ∈ l, f a.action = none) :
    action_values f l = [] := by
  simpa [action_values, List.filterMap_eq_nil_iff] using h

theorem action_values_filter {p : ContextSwitchConfigAction → Bool} {l : List ContextSwitchConfigAction}
    (hp : ∀ a ∈ l, p a = false → f a.action = none) : action_values f (l.filter p) = action_values f l := by
  induction l with
  | nil => rfl
  | cons a l ih =>
    have ih' := ih fun b hb => hp b (List.mem_cons_of_mem _ hb)
    rw [List.filter_cons, action_values_cons f a l]
    split
    · rw [action_values_cons, ih']
    · rw [ih', action_values_eq_nil f (l := [a]) fun b hb => by
        rw [List.mem_singleton.1 hb]; exact hp a (List.mem_cons_self _ _) (by simpa using ‹¬p a = true›)]
      rfl

variable {f}
variable (hf : ∀ a : ContextSwitchConfigAction, is_hef_action_type a.get_type = false → f a.action = none)
include hf

/-- Pass A keeps the values of the HEF actions. -/
theorem action_values_add_fetch_config_actions {created A : List ContextSwitchConfigAction}
    {config_resources : List ConfigBuffer} {support_pre_fetch : Bool}
    (h : (add_fetch_config_actions created config_resources support_pre_fetch).run = some (.ok A)) :
    action_values f A = action_values f created := by
  have hp : ∀ (l : List ContextSwitchConfigAction), ∀ a ∈ l, (!is_fetch_config_action a) = false →
      f a.action = none := fun _ a _ ha => hf a (is_hef_action_type_of_fetch (by simpa using ha))
  rw [← action_values_filter f (hp A), add_fetch_config_actions_filter h, action_values_filter f (hp created)]

/-- Pass B keeps the values of the HEF actions. -/
theorem action_values_handle_edge_layer_activation_actions {A B : List ContextSwitchConfigAction}
    {resources_manager : ResourcesManager} {context_index : Nat} {is_preliminary_context is_first_operation : Bool}
    (h : handle_edge_layer_activation_actions A resources_manager context_index is_preliminary_context
      is_first_operation = .ok B) :
    action_values f B = action_values f A := by
  rw [handle_edge_layer_activation_actions_eq] at h
  split_ifs at h
  · unfold edge_layer_activation_pass at h
    split_ifs at h
    cases h
    conv_rhs => rw [← flatten_runs get_type A, List.flatten_eq_flatMap]
    rw [action_values_flatMap, action_values_flatMap]
    refine List.flatMap_congr fun r _ => ?_
    unfold with_edge_layer_activation
    split_ifs
    · have hddr : action_values f (ddr_buffers_info (resources_manager.ddr_channel_pairs_per_context
          context_index)) = [] := action_values_eq_nil f fun a ha => hf a (by
        rcases get_type_mem_ddr_buffers_info ha with h | h <;> rw [h] <;> rfl)
      have hM : action_values f [mk' .EdgeLayerActivationActionsPositionMarker] = [] :=
        action_values_eq_nil f fun a ha => by rw [List.mem_singleton.1 ha]; exact hf _ rfl
      have hSB : action_values f [mk' .StartBurstCreditsTaskAction] = [] :=
        action_values_eq_nil f fun a ha => by rw [List.mem_singleton.1 ha]; exact hf _ rfl
      rw [action_values_append, action_values_append, action_values_cons f (mk' _), hM, hddr, hSB]
      simp
    · rfl
  · cases h; rfl

/-- Pass C keeps the values of every action. -/
theorem action_values_compress {B : List ContextSwitchConfigAction} (hB : ∀ a ∈ B, a.get_type ≠ .AddRrepeated) :
    action_values f ((runs get_type B).flatMap compress_run) = action_values f B := by
  rw [← action_values_filter f (p := fun a => !is_repeated_header a) fun a _ ha => hf a (by
    simp only [is_repeated_header, Bool.not_eq_false', beq_iff_eq] at ha; rw [ha]; rfl)]
  unfold action_values
  rw [filter_runs_compress_run hB]

/-- **The passes keep the values of the HEF actions.**  Whatever an
operation's passes insert, the values `f` reads off its executed actions are
those it reads off the actions created from the HEF, in order. -/
theorem action_values_executed {env : RecipeEnv σ τ} {hw_arch : ProtoHEFHwArch}
    {resources_manager : ResourcesManager} {context_index : Nat} {s s' : ContextState σ}
    {executed : List ContextSwitchConfigAction} {operation : ProtoHEFOperation τ}
    {is_preliminary_context is_first_operation : Bool}
    (h : (parse_actions_in_operation env operation hw_arch context_index is_preliminary_context
      is_first_operation resources_manager s).run = some (.ok (executed, s'))) :
    ∃ created, (operation.actions.mapM fun proto_action => ContextSwitchConfigAction.create env.action_env
        proto_action s.config_resources (is_mercury_device_type hw_arch)) = .ok created ∧
      action_values f executed = action_values f created := by
  obtain ⟨created, A, B, hc, hA, hB, rfl, -⟩ := parse_actions_in_operation_eq_ok h
  refine ⟨created, hc, ?_⟩
  rw [action_values_compress hf (get_type_ne_header_of_passes (is_hef_action_type_of_mapM hc) hA hB),
    action_values_handle_edge_layer_activation_actions hf hB, action_values_add_fetch_config_actions hf hA]

end Values

/-! ### One marker per activating operation -/

/-- Pass C leaves the projection as it is. -/
theorem edge_layer_activation_types_compress {L : List ContextSwitchConfigAction}
    (hL : ∀ a ∈ L, a.get_type ≠ .AddRrepeated) :
    edge_layer_activation_types ((runs get_type L).flatMap compress_run) = edge_layer_activation_types L := by
  rw [← edge_layer_activation_types_filter (p := fun a => !is_repeated_header a) fun a ha => ?_]
  · exact edge_layer_activation_types_congr (filter_runs_compress_run hL)
  · simp only [is_repeated_header, Bool.not_eq_false', beq_iff_eq] at ha
    rw [ha]; rfl

section EdgeLayers

variable {env : RecipeEnv σ τ} {hw_arch : ProtoHEFHwArch} {resources_manager : ResourcesManager}
  {context_index : Nat} {s s' : ContextState σ} {executed : List ContextSwitchConfigAction}

/-- **The edge-layer types of one operation's executed actions.**  An
operation on which pass B runs executes one marker, followed by at least one
trigger, and no other marker; any other operation executes no marker. -/
theorem edge_layer_activation_types_executed {operation : ProtoHEFOperation τ}
    {is_preliminary_context is_first_operation : Bool}
    (h : (parse_actions_in_operation env operation hw_arch context_index is_preliminary_context
      is_first_operation resources_manager s).run = some (.ok (executed, s'))) :
    ∃ ts, .EdgeLayerActivationActionsPositionMarker ∉ ts ∧
      edge_layer_activation_types executed =
        if activates_edge_layers resources_manager is_preliminary_context is_first_operation then
          .EdgeLayerActivationActionsPositionMarker :: .TriggerNewDataFromDataInput :: ts
        else ts := by
  obtain ⟨created, A, B, hc, hA, hB, rfl, -⟩ := parse_actions_in_operation_eq_ok h
  have hnew := is_hef_action_type_of_mapM hc
  rw [edge_layer_activation_types_compress (get_type_ne_header_of_passes hnew hA hB)]
  -- pass A inserts fetch actions only: no marker, and the projection is unchanged
  have hAtypes : edge_layer_activation_types A = edge_layer_activation_types created := by
    have hp : ∀ a, (!is_fetch_config_action a) = false → is_edge_layer_activation_type a.get_type = false := by
      intro a ha
      simp only [is_fetch_config_action, Bool.not_eq_false', Bool.or_eq_true, beq_iff_eq] at ha
      rcases ha with h | h <;> rw [h] <;> rfl
    rw [← edge_layer_activation_types_filter hp A, add_fetch_config_actions_filter hA,
      edge_layer_activation_types_filter hp]
  have hAmark : ∀ a ∈ A, a.get_type ≠ .EdgeLayerActivationActionsPositionMarker := fun a ha h => by
    rcases mem_add_fetch_config_actions hA ha with hf | hc
    · simp only [is_fetch_config_action, h] at hf
      cases hf
    · have := hnew a hc
      rw [h] at this
      cases this
  rw [handle_edge_layer_activation_actions_eq] at hB
  split_ifs at hB ⊢
  · obtain ⟨k, hk, -, hkB⟩ := edge_layer_activation_types_pass hB
      (edge_layer_activation_types_ddr_buffers_info _) hAmark
    obtain ⟨j, rfl⟩ : ∃ j, k = j + 1 := ⟨k - 1, by omega⟩
    exact ⟨List.replicate j .TriggerNewDataFromDataInput, by simp, by rw [hkB, List.replicate_succ]⟩
  · cases hB
    refine ⟨_, fun hm => ?_, hAtypes⟩
    obtain ⟨a, ha, hty, -⟩ := mem_edge_layer_activation_types.1 (hAtypes ▸ hm)
    exact hAmark a ha hty

theorem count_marker_eq (l : List ContextSwitchConfigAction) :
    (l.map get_type).count .EdgeLayerActivationActionsPositionMarker =
      (edge_layer_activation_types l).count .EdgeLayerActivationActionsPositionMarker :=
  (List.count_filter rfl).symm

theorem count_marker_executed {operation : ProtoHEFOperation τ}
    {is_preliminary_context is_first_operation : Bool}
    (h : (parse_actions_in_operation env operation hw_arch context_index is_preliminary_context
      is_first_operation resources_manager s).run = some (.ok (executed, s'))) :
    (executed.map get_type).count .EdgeLayerActivationActionsPositionMarker =
      if activates_edge_layers resources_manager is_preliminary_context is_first_operation then 1 else 0 := by
  obtain ⟨ts, hts, hex⟩ := edge_layer_activation_types_executed h
  rw [count_marker_eq, hex]
  split_ifs <;> simp [List.count_eq_zero_of_not_mem hts]

theorem parse_operations_cons {is_preliminary_context : Bool} {operation : ProtoHEFOperation τ}
    {rest : List (ProtoHEFOperation τ)} {first_operation : Bool}
    (h : (parse_operations env hw_arch context_index is_preliminary_context resources_manager
      (operation :: rest) first_operation s).run = some (.ok (executed, s'))) :
    ∃ s₁ e₁ s₂ e₂, (parse_actions_in_operation env operation hw_arch context_index is_preliminary_context
        first_operation resources_manager s₁).run = some (.ok (e₁, s₂)) ∧ s₁.config_resources = s.config_resources ∧
      (parse_operations env hw_arch context_index is_preliminary_context resources_manager rest false s₂).run =
        some (.ok (e₂, s')) ∧ executed = e₁ ++ e₂ := by
  simp only [parse_operations, MayDiverge.run_bind_eq_ok, MayDiverge.run_monadLift, Option.some.injEq] at h
  obtain ⟨_, -, ⟨e₁, s₂⟩, h₁, ⟨e₂, s₃⟩, h₂, h⟩ := h
  obtain ⟨rfl, rfl⟩ := Prod.mk.inj (Except.ok.inj (Option.some.inj h))
  exact ⟨_, e₁, s₂, e₂, h₁, rfl, h₂, rfl⟩

/-- The markers the operations' loop executes: one per operation of the
preliminary context with `preliminary_run_asap`, one for a dynamic context
with an operation, none otherwise. -/
theorem parse_operations_count_marker {is_preliminary_context : Bool} :
    ∀ {operations : List (ProtoHEFOperation τ)} {first_operation : Bool} {s s' : ContextState σ}
      {executed : List ContextSwitchConfigAction},
      (parse_operations env hw_arch context_index is_preliminary_context resources_manager operations
        first_operation s).run = some (.ok (executed, s')) →
      (executed.map get_type).count .EdgeLayerActivationActionsPositionMarker =
        if is_preliminary_context then
          (if resources_manager.preliminary_run_asap then operations.length else 0)
        else if first_operation then min 1 operations.length else 0
  | [], _, _, _, _, h => by
    cases Except.ok.inj (Option.some.inj h)
    split_ifs <;> rfl
  | _ :: _, first_operation, _, _, _, h => by
    obtain ⟨_, _, _, _, h₁, -, h₂, rfl⟩ := parse_operations_cons h
    rw [List.map_append, List.count_append, count_marker_executed h₁, parse_operations_count_marker h₂]
    cases is_preliminary_context <;> cases hasap : resources_manager.preliminary_run_asap <;>
      cases first_operation <;> simp [activates_edge_layers, hasap, Nat.add_comm]

/-- A dynamic context's first executed edge-layer action is the marker, and a
trigger follows it. -/
theorem parse_operations_first_marker {operation : ProtoHEFOperation τ}
    {rest : List (ProtoHEFOperation τ)}
    (h : (parse_operations env hw_arch context_index false resources_manager (operation :: rest) true s).run =
      some (.ok (executed, s'))) :
    ∃ ts, edge_layer_activation_types executed =
      .EdgeLayerActivationActionsPositionMarker :: .TriggerNewDataFromDataInput :: ts := by
  obtain ⟨_, e₁, _, e₂, h₁, -, -, rfl⟩ := parse_operations_cons h
  obtain ⟨ts, -, hts⟩ := edge_layer_activation_types_executed h₁
  have hact : activates_edge_layers resources_manager false true = true := rfl
  rw [if_pos hact] at hts
  exact ⟨ts ++ edge_layer_activation_types e₂, by rw [edge_layer_activation_types_append, hts]; rfl⟩

theorem fill_context_recepies_parse_operations {proto_context : ProtoHEFContext τ}
    (h : (fill_context_recepies_for_multi_context env hw_arch resources_manager context_index proto_context s).run =
      some (.ok (executed, s'))) :
    ∃ s₀, (parse_operations env hw_arch context_index false resources_manager proto_context.operations true
        s₀).run = some (.ok (executed, s')) ∧ s₀.config_resources = s.config_resources := by
  simp only [fill_context_recepies_for_multi_context, MayDiverge.run_bind_eq_ok, MayDiverge.run_monadLift,
    Option.some.injEq] at h
  obtain ⟨_, -, _, -, h⟩ := h
  exact ⟨_, h, rfl⟩

theorem fill_preliminary_config_parse_operations {operations : List (ProtoHEFOperation τ)}
    (h : (fill_preliminary_config_recepies_for_multi_context env hw_arch resources_manager operations s).run =
      some (.ok (executed, s'))) :
    ∃ s₀, (parse_operations env hw_arch 0 true resources_manager operations true s₀).run =
        some (.ok (executed, s')) ∧ s₀.config_resources = s.config_resources := by
  simp only [fill_preliminary_config_recepies_for_multi_context, MayDiverge.run_bind_eq_ok,
    MayDiverge.run_monadLift, Option.some.injEq] at h
  obtain ⟨_, -, h⟩ := h
  split at h <;> obtain ⟨_, -, h⟩ := MayDiverge.run_bind_eq_ok.1 h <;> exact ⟨_, h, rfl⟩

/-- The dynamic contexts' loop compiles every context, in order, when it returns. -/
theorem contexts_loop_forall₂ {contexts : List (ProtoHEFContext τ)} :
    ∀ {fuel context_index : Nat} {compiled result : List (CompiledContext σ)}, context_index + fuel = 256 →
      (contexts_loop env hw_arch resources_manager contexts fuel context_index compiled).run =
        some (.ok result) →
      ∃ done, result = compiled ++ done ∧ List.Forall₂ (fun (k : Nat × ProtoHEFContext τ) c =>
        ∃ new_context s, (fill_context_recepies_for_multi_context env hw_arch resources_manager k.1 k.2
          ⟨resources_manager.dynamic_config k.1, new_context⟩).run = some (.ok (CompiledContext.actions c, s)) ∧
          CompiledContext.config_resources c = s.config_resources)
        ((contexts.drop context_index).enumFrom context_index) done
  | 0, _, _, _, _, h => by cases h
  | fuel + 1, i, compiled, result, hf, h => by
    rw [contexts_loop] at h
    split_ifs at h with hi
    · simp only [MayDiverge.run_bind_eq_ok, MayDiverge.run_monadLift, Option.some.injEq] at h
      obtain ⟨_, -, ⟨actions, s⟩, hfill, h⟩ := h
      have hlt : i + 1 < 256 := by
        rcases Nat.lt_or_ge (i + 1) 256 with hlt | hge
        · exact hlt
        · obtain rfl : fuel = 0 := by omega
          cases h
      rw [Nat.mod_eq_of_lt hlt] at h
      obtain ⟨done, rfl, hdone⟩ := contexts_loop_forall₂ (by omega) h
      refine ⟨⟨actions, s.config_resources, s.context_info⟩ :: done, by simp, ?_⟩
      rw [List.drop_eq_getElem_cons hi, List.enumFrom_cons]
      exact .cons ⟨_, s, by rwa [List.getD_eq_getElem _ _ hi] at hfill, rfl⟩ hdone
    · cases Except.ok.inj (Option.some.inj h)
      exact ⟨[], by simp, by rw [List.drop_eq_nil_of_le (by omega)]; exact .nil⟩

end EdgeLayers

/-- **Edge-layer activation in a compiled network group.**  When
`create_resources_manager` returns, the preliminary context executes one
`EdgeLayerActivationActionsPositionMarker` per preliminary operation if the
resources manager it created has `preliminary_run_asap`, and none otherwise;
every dynamic context executes one marker if it has an operation, none if it
has none, and the marker comes before the context's first
`TriggerNewDataFromDataInput`, which follows it. -/
theorem create_resources_manager_edge_layer_activation {env : RecipeEnv σ τ}
    {network_group_proto : ProtoHEFNetworkGroup τ} {hw_arch : ProtoHEFHwArch} {r : CompiledNetworkGroup σ}
    (h : (create_resources_manager env network_group_proto hw_arch).run = some (.ok r)) :
    ∃ parsing_info resources_manager,
      get_parsing_info env.CONTROL_PROTOCOL__MAX_CFG_CHANNELS network_group_proto = .ok parsing_info ∧
      env.create_resources parsing_info = .ok resources_manager ∧
      (r.preliminary_context.actions.map get_type).count .EdgeLayerActivationActionsPositionMarker =
        (if resources_manager.preliminary_run_asap then network_group_proto.preliminary_config.length else 0) ∧
      List.Forall₂ (fun proto_context c =>
        (CompiledContext.actions c |>.map get_type).count .EdgeLayerActivationActionsPositionMarker =
          min 1 proto_context.operations.length ∧
        (proto_context.operations ≠ [] → ∃ ts, edge_layer_activation_types (CompiledContext.actions c) =
          .EdgeLayerActivationActionsPositionMarker :: .TriggerNewDataFromDataInput :: ts))
        network_group_proto.contexts r.dynamic_contexts := by
  simp only [create_resources_manager, MayDiverge.run_bind_eq_ok, MayDiverge.run_monadLift,
    Option.some.injEq] at h
  obtain ⟨_, -, _, -, parsing_info, hparse, resources_manager, hrm, _, -, ⟨actions, s⟩, hpre, dynamic,
    hloop, _, -, h⟩ := h
  cases Except.ok.inj (Option.some.inj h)
  obtain ⟨_, hops, -⟩ := fill_preliminary_config_parse_operations hpre
  obtain ⟨done, hdone, hF⟩ := contexts_loop_forall₂ rfl hloop
  rw [List.nil_append] at hdone
  subst hdone
  refine ⟨parsing_info, resources_manager, hparse, hrm, by rw [parse_operations_count_marker hops]; rfl, ?_⟩
  rw [List.drop_zero] at hF
  rw [← List.enumFrom_map_snd 0 network_group_proto.contexts, List.forall₂_map_left_iff]
  refine hF.imp fun k c ⟨_, _, hc, _⟩ => ?_
  obtain ⟨_, hops, -⟩ := fill_context_recepies_parse_operations hc
  refine ⟨by rw [parse_operations_count_marker hops]; rfl, fun hne => ?_⟩
  obtain ⟨operation, rest, hor⟩ := List.exists_cons_of_ne_nil hne
  rw [hor] at hops
  exact parse_operations_first_marker hops

/-! ### Two preliminary operations -/

/-- An environment in which every step outside the sources succeeds, and whose
resources manager has `preliminary_run_asap`, no DDR pairs and no config
buffers. -/
def asap_env : RecipeEnv Unit Unit where
  action_env := ⟨false, fun _ => .ok 1, 0, 0, fun _ => (0, 0)⟩
  MAX_CONTEXTS_COUNT := 8
  CONTROL_PROTOCOL__MAX_CFG_CHANNELS := 4
  HAILO_MAX_BATCH_SIZE := 16
  batch_sizes := []
  create_resources := fun _ => .ok ⟨true, fun _ => [], [], fun _ => []⟩
  add_new_context := .ok ()
  add_trigger := fun _ _ => .ok ()
  parse_and_fill_edge_layers_mapping := fun _ _ => .ok ()
  execute := fun _ _ => .ok ()
  program_descriptors := fun _ => .ok ()
  create_fw_managed_vdma_channels := .ok ()

/-- An operation that lets input data flow in from stream 0. -/
def input_operation : ProtoHEFOperation Unit := ⟨(), [.allow_input_dataflow 0 false]⟩

/-- Two preliminary operations like it, a dynamic context with one and a
dynamic context with none. -/
def two_preliminary_operations : ProtoHEFNetworkGroup Unit :=
  ⟨[input_operation, input_operation], [⟨[input_operation]⟩, ⟨[]⟩]⟩

unseal boundary_indices_loop chunk_loop repeated_actions_loop in
/-- With `preliminary_run_asap` on, the preliminary context executes a marker
for each of its two operations, and the dynamic context without operations
executes none. -/
theorem create_resources_manager_two_preliminary_markers :
    (∃ resources_manager, asap_env.create_resources ⟨[], [[], []]⟩ = .ok resources_manager ∧
      resources_manager.preliminary_run_asap = true) ∧
    (create_resources_manager asap_env two_preliminary_operations .OTHER).run =
      some (.ok ⟨⟨[mk' .EdgeLayerActivationActionsPositionMarker, mk' (.AllowInputDataflowAction 0 false),
          mk' .StartBurstCreditsTaskAction, mk' .EdgeLayerActivationActionsPositionMarker,
          mk' (.AllowInputDataflowAction 0 false), mk' .StartBurstCreditsTaskAction], [], ()⟩,
        [⟨[mk' .EdgeLayerActivationActionsPositionMarker, mk' (.AllowInputDataflowAction 0 false),
          mk' .StartBurstCreditsTaskAction], [], ()⟩, ⟨[], [], ()⟩]⟩) :=
  ⟨⟨_, rfl, rfl⟩, by rfl⟩

unseal boundary_indices_loop chunk_loop repeated_actions_loop in
theorem create_resources_manager_edge_layer_activation_two_operations :
    ∃ r : CompiledNetworkGroup Unit,
      (create_resources_manager asap_env two_preliminary_operations .OTHER).run = some (.ok r) ∧
      ∃ parsing_info resources_manager,
        get_parsing_info asap_env.CONTROL_PROTOCOL__MAX_CFG_CHANNELS two_preliminary_operations =
          .ok parsing_info ∧
        asap_env.create_resources parsing_info = .ok resources_manager ∧
        (r.preliminary_context.actions.map get_type).count .EdgeLayerActivationActionsPositionMarker =
          (if resources_manager.preliminary_run_asap then
            two_preliminary_operations.preliminary_config.length else 0) ∧
        List.Forall₂ (fun proto_context c =>
          (CompiledContext.actions c |>.map get_type).count .EdgeLayerActivationActionsPositionMarker =
            min 1 proto_context.operations.length ∧
          (proto_context.operations ≠ [] → ∃ ts, edge_layer_activation_types (CompiledContext.actions c) =
            .EdgeLayerActivationActionsPositionMarker :: .TriggerNewDataFromDataInput :: ts))
          two_preliminary_operations.contexts r.dynamic_contexts :=
  have h : (create_resources_manager asap_env two_preliminary_operations .OTHER).run =
      some (.ok ⟨⟨[mk' .EdgeLayerActivationActionsPositionMarker, mk' (.AllowInputDataflowAction 0 false),
          mk' .StartBurstCreditsTaskAction, mk' .EdgeLayerActivationActionsPositionMarker,
          mk' (.AllowInputDataflowAction 0 false), mk' .StartBurstCreditsTaskAction], [], ()⟩,
        [⟨[mk' .EdgeLayerActivationActionsPositionMarker, mk' (.AllowInputDataflowAction 0 false),
          mk' .StartBurstCreditsTaskAction], [], ()⟩, ⟨[], [], ()⟩]⟩) := by rfl
  ⟨_, h, create_resources_manager_edge_layer_activation h⟩

end Hef
end HailoRT
