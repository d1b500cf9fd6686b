/-
# The context-switch actions of `hef.cpp`

`ContextSwitchConfigAction` and its sixteen subclasses (`hef.cpp`, lines
2666-3345).  The class hierarchy is one closed sum, `Action`, each
constructor carrying the fields its class stores; the base class's only
mutable member, `m_is_in_repeated_block`, sits beside it in
`ContextSwitchConfigAction`.  `get_type`, `get_action_list_type` and
`supports_repeated_block` are the virtual methods, one match each.

`ContextSwitchConfigAction::create` is the factory from a parsed HEF action.
Two of its branches query the resources manager (`EnableLcuAction::create`
reads the supported features and a network's batch size); those queries are
the fields of `ActionEnv`.  Allocation (`new (std::nothrow)`) is taken never to
fail.
-/

import HailoRT.Common

namespace HailoRT
namespace Hef

/-- `ContextSwitchConfigAction::Type`. -/
inductive ActionType
  | None
  | WriteData
  | WriteDataCcw
  | AddCcwBurst
  | CreateDescForCcw
  | StartBurstCreditsTask
  | AddRrepeated
  | DisableLcu
  | EnableLcuDefault
  | EnableLcuNonDefault
  | TriggerSequencer
  | WaitForSequencerDone
  | TriggerNewDataFromDataInput
  | TriggerNewDataFromDataInputDdr
  | WaitForModuleConfigDone
  | DdrPairInfo
  | StartDdrBufferingTask
  | EdgeLayerActivationActionsPositionMarker
  deriving DecidableEq, Repr

/-- `CONTROL_PROTOCOL__ACTION_TYPE_t`, the firmware's action-list types that
`hef.cpp` names (`CONTROL_PROTOCOL__CONTEXT_SWITCH_ACTION_...`). -/
inductive ActionListType
  | ADD_REPEATED
  | DISABLE_LCU
  | ENABLE_LCU_DEFAULT
  | ENABLE_LCU_NON_DEFAULT
  | TRIGGER_SEQUENCER
  | WAIT_FOR_SEQUENCER_DONE
  | TRIGGER_NEW_DATA_FROM_DATA_INPUT
  | WAIT_FOR_MODULE_CONFIG_DONE
  | ADD_DDR_PAIR_INFO
  | ADD_DDR_BUFFERING_START
  | EDGE_LAYER_ACTIVATION_ACTIONS_POSITION
  | COUNT
  deriving DecidableEq, Repr

/-- One subclass of `ContextSwitchConfigAction` with the fields it stores.
`WriteDataCcwAction` refers to its `ConfigBuffer` by the channel index it was
created with. -/
inductive Action
  | NoneAction
  | WriteDataAction (address : Nat) (data : List UInt8)
  | WriteDataCcwAction (cfg_channel_index : Nat) (data : List UInt8) (support_pre_fetch : Bool)
  | AddCcwBurstAction (config_stream_index : Nat) (ccw_bursts : Nat)
  | CreateConfigDescAndFetchAction (config_stream_index : Nat)
  | StartBurstCreditsTaskAction
  | RepeatedHeaderAction (sub_action_type : ActionListType) (num_actions : Nat)
  | DisableLcuAction (cluster_index lcu_index : Nat)
  | EnableLcuAction (cluster_index lcu_index kernel_done_address kernel_done_count : Nat)
      (is_default : Bool) (network_index : Nat)
  | EnableSequencerAction (cluster_index initial_l3_cut initial_l3_offset : Nat)
  | WaitForSeqeuncerAction (cluster_index : Nat)
  | AllowInputDataflowAction (sys_index : Nat) (is_ddr : Bool)
  | WaitForModuleConfigDoneAction (index : Nat)
  | DdrPairInfoAction (h2d_channel_id d2h_channel_id : ChannelId)
      (descriptors_per_frame descs_count : Nat)
  | StartDdrBufferingTaskAction
  | EdgeLayerActivationActionsPositionMarker
  deriving DecidableEq, Repr

/-- `m_proto_action.write_data_ccw().cfg_channel_index()`: the payload's
channel index, and protobuf's default `0` for an action of another case. -/
def Action.write_data_ccw_cfg_channel_index : Action → Nat
  | .WriteDataCcwAction cfg_channel_index _ _ => cfg_channel_index
  | _ => 0

/-- `ConfigBuffer` (`config_buffer.hpp`, not among the sources): a config
channel's buffer, through the three sizes `hef.cpp` reads. -/
structure ConfigBuffer where
  desc_page_size : Nat
  total_cfg_size : Nat
  current_buffer_size : Nat
  deriving DecidableEq, Repr

/-- A `ContextSwitchConfigActionPtr`: the action and its `m_is_in_repeated_block`. -/
structure ContextSwitchConfigAction where
  action : Action
  is_in_repeated_block : Bool
  deriving DecidableEq, Repr

namespace ContextSwitchConfigAction

/-- A freshly constructed action: `m_is_in_repeated_block(false)`. -/
def mk' (a : Action) : ContextSwitchConfigAction := ⟨a, false⟩

/-- `ContextSwitchConfigAction::get_type`. -/
def get_type (a : ContextSwitchConfigAction) : ActionType :=
  match a.action with
  | .NoneAction => .None
  | .WriteDataAction .. => .WriteData
  | .WriteDataCcwAction .. => .WriteDataCcw
  | .AddCcwBurstAction .. => .AddCcwBurst
  | .CreateConfigDescAndFetchAction .. => .CreateDescForCcw
  | .StartBurstCreditsTaskAction => .StartBurstCreditsTask
  | .RepeatedHeaderAction .. => .AddRrepeated
  | .DisableLcuAction .. => .DisableLcu
  | .EnableLcuAction _ _ _ _ is_default _ => if is_default then .EnableLcuDefault else .EnableLcuNonDefault
  | .EnableSequencerAction .. => .TriggerSequencer
  | .WaitForSeqeuncerAction .. => .WaitForSequencerDone
  | .AllowInputDataflowAction _ is_ddr =>
      if is_ddr then .TriggerNewDataFromDataInputDdr else .TriggerNewDataFromDataInput
  | .WaitForModuleConfigDoneAction .. => .WaitForModuleConfigDone
  | .DdrPairInfoAction .. => .DdrPairInfo
  | .StartDdrBufferingTaskAction => .StartDdrBufferingTask
  | .EdgeLayerActivationActionsPositionMarker => .EdgeLayerActivationActionsPositionMarker

/-- `ContextSwitchConfigAction::get_action_list_type`: the type each
constructor passes to the base class, `COUNT` where it passes none. -/
def get_action_list_type (a : ContextSwitchConfigAction) : ActionListType :=
  match a.action with
  | .RepeatedHeaderAction .. => .ADD_REPEATED
  | .DisableLcuAction .. => .DISABLE_LCU
  | .EnableLcuAction _ _ _ _ is_default _ =>
      if is_default then .ENABLE_LCU_DEFAULT else .ENABLE_LCU_NON_DEFAULT
  | .EnableSequencerAction .. => .TRIGGER_SEQUENCER
  | .WaitForSeqeuncerAction .. => .WAIT_FOR_SEQUENCER_DONE
  | .AllowInputDataflowAction .. => .TRIGGER_NEW_DATA_FROM_DATA_INPUT
  | .WaitForModuleConfigDoneAction .. => .WAIT_FOR_MODULE_CONFIG_DONE
  | .DdrPairInfoAction .. => .ADD_DDR_PAIR_INFO
  | .StartDdrBufferingTaskAction => .ADD_DDR_BUFFERING_START
  | .EdgeLayerActivationActionsPositionMarker => .EDGE_LAYER_ACTIVATION_ACTIONS_POSITION
  | _ => .COUNT

/-- `supports_repeated_block`, each class's override. -/
def supports_repeated_block (a : ContextSwitchConfigAction) : Bool :=
  match a.action with
  | .DisableLcuAction .. => true
  | .EnableLcuAction .. => true
  | .EnableSequencerAction .. => true
  | .AllowInputDataflowAction _ is_ddr => !is_ddr
  | .DdrPairInfoAction .. => true
  | _ => false

/-- `set_is_in_repeated_block`. -/
def set_is_in_repeated_block (a : ContextSwitchConfigAction) (b : Bool) :
    ContextSwitchConfigAction :=
  { a with is_in_repeated_block := b }

@[simp] theorem get_type_set (a : ContextSwitchConfigAction) (b : Bool) :
    (a.set_is_in_repeated_block b).get_type = a.get_type := rfl

@[simp] theorem get_action_list_type_set (a : ContextSwitchConfigAction) (b : Bool) :
    (a.set_is_in_repeated_block b).get_action_list_type = a.get_action_list_type := rfl

@[simp] theorem supports_repeated_block_set (a : ContextSwitchConfigAction) (b : Bool) :
    (a.set_is_in_repeated_block b).supports_repeated_block = a.supports_repeated_block := rfl

@[simp] theorem action_set (a : ContextSwitchConfigAction) (b : Bool) :
    (a.set_is_in_repeated_block b).action = a.action := rfl

@[simp] theorem is_in_repeated_block_set (a : ContextSwitchConfigAction) (b : Bool) :
    (a.set_is_in_repeated_block b).is_in_repeated_block = b := rfl

/-- Whether an action may head a repeated block, read off its type alone. -/
def type_supports_repeated_block : ActionType → Bool
  | .DisableLcu | .EnableLcuDefault | .EnableLcuNonDefault | .TriggerSequencer
  | .TriggerNewDataFromDataInput | .DdrPairInfo => true
  | _ => false

/-- The action-list type of an action, read off its type alone. -/
def type_action_list_type : ActionType → ActionListType
  | .AddRrepeated => .ADD_REPEATED
  | .DisableLcu => .DISABLE_LCU
  | .EnableLcuDefault => .ENABLE_LCU_DEFAULT
  | .EnableLcuNonDefault => .ENABLE_LCU_NON_DEFAULT
  | .TriggerSequencer => .TRIGGER_SEQUENCER
  | .WaitForSequencerDone => .WAIT_FOR_SEQUENCER_DONE
  | .TriggerNewDataFromDataInput | .TriggerNewDataFromDataInputDdr => .TRIGGER_NEW_DATA_FROM_DATA_INPUT
  | .WaitForModuleConfigDone => .WAIT_FOR_MODULE_CONFIG_DONE
  | .DdrPairInfo => .ADD_DDR_PAIR_INFO
  | .StartDdrBufferingTask => .ADD_DDR_BUFFERING_START
  | .EdgeLayerActivationActionsPositionMarker => .EDGE_LAYER_ACTIVATION_ACTIONS_POSITION
  | _ => .COUNT

/-- **Compressibility is a property of the type.**  Every class's
`supports_repeated_block` is a constant except `AllowInputDataflowAction`'s,
which splits exactly along its two types. -/
theorem supports_repeated_block_eq (a : ContextSwitchConfigAction) :
    a.supports_repeated_block = type_supports_repeated_block a.get_type := by
  rcases a with ⟨a, _⟩
  cases a with
  | EnableLcuAction _ _ _ _ d _ => cases d <;> rfl
  | AllowInputDataflowAction _ d => cases d <;> rfl
  | _ => rfl

/-- **So is the action-list type.** -/
theorem get_action_list_type_eq (a : ContextSwitchConfigAction) :
    a.get_action_list_type = type_action_list_type a.get_type := by
  rcases a with ⟨a, _⟩
  cases a with
  | EnableLcuAction _ _ _ _ d _ => cases d <;> rfl
  | AllowInputDataflowAction _ d => cases d <;> rfl
  | _ => rfl

/-- An action that may be repeated has a firmware action-list type other than
`ADD_REPEATED` and `COUNT`: it can head a `RepeatedHeaderAction`. -/
theorem get_action_list_type_of_supports {a : ContextSwitchConfigAction}
    (h : a.supports_repeated_block = true) :
    a.get_action_list_type ≠ .ADD_REPEATED ∧ a.get_action_list_type ≠ .COUNT := by
  rw [supports_repeated_block_eq] at h
  rw [get_action_list_type_eq]
  revert h
  cases a.get_type <;> decide

end ContextSwitchConfigAction

open ContextSwitchConfigAction

/-- `RepeatedHeaderAction::create`. -/
def RepeatedHeaderAction.create (sub_action_type : ActionListType) (num_actions : Nat) :
    Except HailoStatus ContextSwitchConfigAction := do
  CHECK (sub_action_type ≠ .ADD_REPEATED) .HAILO_INVALID_HEF
  CHECK (sub_action_type ≠ .COUNT) .HAILO_INVALID_HEF
  CHECK (num_actions ≠ 0) .HAILO_INVALID_HEF
  return mk' (.RepeatedHeaderAction sub_action_type num_actions)

theorem RepeatedHeaderAction.create_eq {sub : ActionListType} {n : Nat}
    (h₁ : sub ≠ .ADD_REPEATED) (h₂ : sub ≠ .COUNT) (h₃ : n ≠ 0) :
    RepeatedHeaderAction.create sub n = .ok (mk' (.RepeatedHeaderAction sub n)) := by
  simp [RepeatedHeaderAction.create, h₁, h₂, h₃, bind, Except.bind, pure, Except.pure]

/-- `AddCcwBurstAction::create`. -/
def AddCcwBurstAction.create (config_stream_index ccw_bursts : Nat) : ContextSwitchConfigAction :=
  mk' (.AddCcwBurstAction config_stream_index ccw_bursts)

/-- `CreateConfigDescAndFetchAction::create`. -/
def CreateConfigDescAndFetchAction.create (config_stream_index : Nat) : ContextSwitchConfigAction :=
  mk' (.CreateConfigDescAndFetchAction config_stream_index)

/-- Whether an action is a `RepeatedHeaderAction`. -/
def is_repeated_header (a : ContextSwitchConfigAction) : Bool :=
  a.get_type == .AddRrepeated

/-! ### The factory -/

/-- `ProtoHEFAction`, by its `action_case()`, with the fields the factory reads.
`allow_input_dataflow`'s `is_ddr` is `connection_type() == DDR`. -/
inductive ProtoHEFAction
  | write_data (address : Nat) (data : List UInt8)
  | write_data_ccw (cfg_channel_index : Nat) (data : List UInt8)
  | disable_lcu (cluster_index lcu_index : Nat)
  | enable_lcu (cluster_index lcu_index lcu_kernel_done_address lcu_kernel_done_count network_index : Nat)
  | enable_sequencer (cluster_index : Nat) (includes_initial_l3_info : Bool)
      (initial_l3_index initial_l3_offset initial_l3_legacy : Nat)
  | none
  | wait_for_seqeuncer (cluster_index : Nat)
  | write_compressed_data
  | allow_input_dataflow (sys_index : Nat) (is_ddr : Bool)
  | wait_for_module_config_done (index : Nat)
  | ACTION_NOT_SET
  deriving DecidableEq, Repr

/-- What the factory asks of the resources manager, and the constants of the
headers that are not among the sources. -/
structure ActionEnv where
  /-- `get_supported_features().multi_network_support`. -/
  multi_network_support : Bool
  /-- `get_partial_network_name_by_index`, `get_network_name` and
  `get_network_batch_size`, one after the other: the batch size of the network
  of an index. -/
  get_network_batch_size : Nat → Except HailoStatus Nat
  ENABLE_LCU_DEFAULT_KERNEL_ADDRESS : Nat
  ENABLE_LCU_DEFAULT_KERNEL_COUNT : Nat
  /-- `old_hef_parse_initial_l3`, whose masks and shifts are in a missing header. -/
  old_hef_parse_initial_l3 : Nat → Nat × Nat

/-- `WriteDataCcwAction::create`. -/
def WriteDataCcwAction.create (cfg_channel_index : Nat) (data : List UInt8)
    (config : List ConfigBuffer) (support_pre_fetch : Bool) :
    Except HailoStatus ContextSwitchConfigAction := do
  CHECK (cfg_channel_index < config.length) .HAILO_INVALID_HEF
  CHECK (IS_FIT_IN_UINT8 cfg_channel_index) .HAILO_INVALID_HEF
  return mk' (.WriteDataCcwAction cfg_channel_index data support_pre_fetch)

/-- `DisableLcuAction::create`. -/
def DisableLcuAction.create (cluster_index lcu_index : Nat) :
    Except HailoStatus ContextSwitchConfigAction := do
  CHECK (IS_FIT_IN_UINT8 cluster_index) .HAILO_INVALID_HEF
  CHECK (IS_FIT_IN_UINT8 lcu_index) .HAILO_INVALID_HEF
  return mk' (.DisableLcuAction cluster_index lcu_index)

/-- `EnableLcuAction::create`: the network's batch size is looked up and only
checked. -/
def EnableLcuAction.create (env : ActionEnv)
    (cluster_index lcu_index lcu_kernel_done_address lcu_kernel_done_count network_index : Nat) :
    Except HailoStatus ContextSwitchConfigAction := do
  CHECK (IS_FIT_IN_UINT8 cluster_index) .HAILO_INVALID_HEF
  CHECK (IS_FIT_IN_UINT8 lcu_index) .HAILO_INVALID_HEF
  CHECK (IS_FIT_IN_UINT16 lcu_kernel_done_address) .HAILO_INVALID_HEF
  let network_index := if env.multi_network_support then network_index % 256 else 0
  let _batch_size ← env.get_network_batch_size network_index
  let is_default := lcu_kernel_done_address == env.ENABLE_LCU_DEFAULT_KERNEL_ADDRESS &&
    lcu_kernel_done_count == env.ENABLE_LCU_DEFAULT_KERNEL_COUNT
  return mk' (.EnableLcuAction cluster_index lcu_index lcu_kernel_done_address lcu_kernel_done_count
    is_default network_index)

/-- `EnableSequencerAction::create`: the initial L3 cut and offset from
`initial_l3_info` when present, else from the legacy field. -/
def EnableSequencerAction.create (env : ActionEnv) (cluster_index : Nat) (includes_initial_l3_info : Bool)
    (initial_l3_index initial_l3_offset initial_l3_legacy : Nat) :
    Except HailoStatus ContextSwitchConfigAction := do
  CHECK (IS_FIT_IN_UINT8 cluster_index) .HAILO_INVALID_HEF
  let (initial_l3_cut, initial_l3_offset) ← if includes_initial_l3_info then do
      CHECK (IS_FIT_IN_UINT8 initial_l3_index) .HAILO_INVALID_HEF
      CHECK (IS_FIT_IN_UINT16 initial_l3_offset) .HAILO_INVALID_HEF
      pure (initial_l3_index, initial_l3_offset)
    else pure (env.old_hef_parse_initial_l3 initial_l3_legacy)
  return mk' (.EnableSequencerAction cluster_index initial_l3_cut initial_l3_offset)

/-- `WaitForSeqeuncerAction::create`. -/
def WaitForSeqeuncerAction.create (cluster_index : Nat) :
    Except HailoStatus ContextSwitchConfigAction := do
  CHECK (IS_FIT_IN_UINT8 cluster_index) .HAILO_INVALID_HEF
  return mk' (.WaitForSeqeuncerAction cluster_index)

/-- `AllowInputDataflowAction::create`. -/
def AllowInputDataflowAction.create (sys_index : Nat) (is_ddr : Bool) :
    Except HailoStatus ContextSwitchConfigAction := do
  CHECK (IS_FIT_IN_UINT8 sys_index) .HAILO_INVALID_HEF
  return mk' (.AllowInputDataflowAction sys_index is_ddr)

/-- `WaitForModuleConfigDoneAction::create`. -/
def WaitForModuleConfigDoneAction.create (index : Nat) :
    Except HailoStatus ContextSwitchConfigAction := do
  CHECK (IS_FIT_IN_UINT8 index) .HAILO_INVALID_HEF
  return mk' (.WaitForModuleConfigDoneAction index)

/-- `ContextSwitchConfigAction::create`, the factory from a parsed HEF action. -/
def ContextSwitchConfigAction.create (env : ActionEnv) (proto_action : ProtoHEFAction)
    (config : List ConfigBuffer) (support_pre_fetch : Bool) :
    Except HailoStatus ContextSwitchConfigAction :=
  match proto_action with
  | .write_data_ccw cfg_channel_index data =>
    WriteDataCcwAction.create cfg_channel_index data config support_pre_fetch
  | .write_data address data => .ok (mk' (.WriteDataAction address data))
  | .disable_lcu cluster_index lcu_index => DisableLcuAction.create cluster_index lcu_index
  | .enable_lcu cluster_index lcu_index lcu_kernel_done_address lcu_kernel_done_count network_index =>
    EnableLcuAction.create env cluster_index lcu_index lcu_kernel_done_address lcu_kernel_done_count
      network_index
  | .enable_sequencer cluster_index includes_initial_l3_info initial_l3_index initial_l3_offset
      initial_l3_legacy =>
    EnableSequencerAction.create env cluster_index includes_initial_l3_info initial_l3_index
      initial_l3_offset initial_l3_legacy
  | .none => .ok (mk' .NoneAction)
  | .wait_for_seqeuncer cluster_index => WaitForSeqeuncerAction.create cluster_index
  | .write_compressed_data => .error .HAILO_NOT_IMPLEMENTED
  | .allow_input_dataflow sys_index is_ddr => AllowInputDataflowAction.create sys_index is_ddr
  | .wait_for_module_config_done index => WaitForModuleConfigDoneAction.create index
  | .ACTION_NOT_SET => .error .HAILO_INTERNAL_FAILURE

/-- The kinds of action the factory builds, by type: none of those the passes
add. -/
def is_hef_action_type : ActionType → Bool
  | .None | .WriteData | .WriteDataCcw | .DisableLcu | .EnableLcuDefault | .EnableLcuNonDefault
  | .TriggerSequencer | .WaitForSequencerDone | .TriggerNewDataFromDataInput
  | .TriggerNewDataFromDataInputDdr | .WaitForModuleConfigDone => true
  | _ => false

/-- A CCW write: its config channel, its length and its pre-fetch flag. -/
def Action.ccw_write : Action → Option (Nat × Nat × Bool)
  | .WriteDataCcwAction cfg_channel_index data support_pre_fetch =>
    some (cfg_channel_index, data.length, support_pre_fetch)
  | _ => none

/-- A HEF action's CCW write: its config channel and its length. -/
def ProtoHEFAction.ccw_write : ProtoHEFAction → Option (Nat × Nat)
  | .write_data_ccw cfg_channel_index data => some (cfg_channel_index, data.length)
  | _ => Option.none

/-- **The factory builds fresh HEF actions.**  A created action is not in a
repeated block, has one of the types of `is_hef_action_type`, and is a CCW
write exactly when the HEF action is one, to the same channel and of the same
length. -/
theorem create_eq_ok {env : ActionEnv} {proto_action : ProtoHEFAction} {config : List ConfigBuffer}
    {support_pre_fetch : Bool} {a : ContextSwitchConfigAction}
    (h : ContextSwitchConfigAction.create env proto_action config support_pre_fetch = .ok a) :
    a.is_in_repeated_block = false ∧ is_hef_action_type a.get_type = true ∧
      a.action.ccw_write = proto_action.ccw_write.map fun w => (w.1, w.2, support_pre_fetch) := by
  cases proto_action <;>
    simp only [ContextSwitchConfigAction.create, WriteDataCcwAction.create, DisableLcuAction.create,
      EnableLcuAction.create, EnableSequencerAction.create, WaitForSeqeuncerAction.create,
      AllowInputDataflowAction.create, WaitForModuleConfigDoneAction.create, CHECK_bind,
      Except.ok_bind, Except.pure_eq_ok] at h <;>
    (try split_ifs at h) <;>
    first
    | (obtain ⟨_, -, h⟩ := Except.bind_eq_ok.1 h; cases h)
    | cases h
  -- the types of `EnableLcuAction` and `AllowInputDataflowAction` follow a flag
  all_goals exact ⟨rfl, by first | rfl | (simp only [get_type, mk']; split <;> rfl), rfl⟩

end Hef
end HailoRT
