/-
# The firmware's action list: `context_switch_actions.cpp`

`ContextSwitchConfigAction` and its subclasses in
`context_switch/context_switch_actions.cpp`.  `serialize(context_resources,
is_repeated)` writes an action as buffers of the firmware's action list; the
base class writes one buffer, a `CONTROL_PROTOCOL__ACTION_HEADER_t`
(`action_type`, `is_repeated`) followed by the params struct that the virtual
`serialize_params` fills in.  The classes differ only in that:

| classes | `serialize` | `serialize_params` |
| --- | --- | --- |
| `NoneAction`, `WriteDataCcwAction` | no buffer | `HAILO_NOT_IMPLEMENTED` |
| `RepeatedAction` | its header, then each member with `is_repeated` | `repeated_action_header_t` |
| `AllowInputDataflowAction`, `WaitOutputTransferDoneAction`, `WaitDmaIdleAction` | the base class's | looks its stream up among the context's edge layers |
| the other 28 classes | the base class's | packs the class's own members |

`RepeatedAction::create` looks at its first member only, and
`RepeatedAction::serialize` asks each member for exactly one buffer.  So a group
that `create` accepts still fails to serialize when a later member writes no
buffer (`NoneAction`, `WriteDataCcwAction`) or is itself a `RepeatedAction`
(`create_none_member_fails`), and each member keeps its own action-list type
in the group, whatever the first member's (`serialize_of_create`).

The headers (`context_switch_defs.h`, `context_switch_actions.hpp`,
`resource_manager.hpp`) are not among the sources.  A params struct is the
values `serialize_params` writes into it; the byte layout is left out, and so
are the members of the 28 member-packing classes, which reach the model only as
the bytes they pack to.
-/

import HailoRT.Common

namespace HailoRT
namespace ContextSwitch

/-- `CONTEXT_SWITCH_DEFS__ACTION_TYPE_t`, the values the constructors pass,
with `COUNT` last. -/
inductive ActionListType
  | ACTIVATE_CFG_CHANNEL
  | DEACTIVATE_CFG_CHANNEL
  | FETCH_CCW_BURSTS
  | FETCH_CFG_CHANNEL_DESCRIPTORS
  | BURST_CREDITS_TASK_START
  | APPLICATION_CHANGE_INTERRUPT
  | REPEATED_ACTION
  | DISABLE_LCU
  | LCU_INTERRUPT
  | ENABLE_LCU_DEFAULT
  | ENABLE_LCU_NON_DEFAULT
  | TRIGGER_SEQUENCER
  | SEQUENCER_DONE_INTERRUPT
  | FETCH_DATA_FROM_VDMA_CHANNEL
  | MODULE_CONFIG_DONE_INTERRUPT
  | ADD_DDR_PAIR_INFO
  | DDR_BUFFERING_START
  | DDR_BUFFERING_RESET
  | CHANGE_VDMA_TO_STREAM_MAPPING
  | OUTPUT_CHANNEL_TRANSFER_DONE_INTERRUPT
  | OPEN_BOUNDARY_INPUT_CHANNEL
  | OPEN_BOUNDARY_OUTPUT_CHANNEL
  | ACTIVATE_BOUNDARY_INPUT
  | ACTIVATE_BOUNDARY_OUTPUT
  | ACTIVATE_INTER_CONTEXT_INPUT
  | ACTIVATE_INTER_CONTEXT_OUTPUT
  | ACTIVATE_DDR_BUFFER_INPUT
  | ACTIVATE_DDR_BUFFER_OUTPUT
  | VALIDATE_VDMA_CHANNEL
  | DEACTIVATE_VDMA_CHANNEL
  | WAIT_FOR_DMA_IDLE_ACTION
  | WAIT_FOR_NMS
  | ENABLE_NMS
  | COUNT
  deriving DecidableEq, Repr

/-- `CONTEXT_SWITCH_DEFS__CREDIT_IN_BYTES` and `CONTEXT_SWITCH_DEFS__CREDIT_IN_DESCRIPTORS`. -/
inductive CreditType
  | CREDIT_IN_BYTES
  | CREDIT_IN_DESCRIPTORS
  deriving DecidableEq, Repr

/-- `LayerType`, the two kinds of edge layer a stream is looked up in. -/
inductive LayerType
  | BOUNDARY
  | INTER_CONTEXT
  deriving DecidableEq, Repr

/-- An edge layer of a context, through the fields `serialize_params` reads:
`layer_info.stream_index`, `layer_info.network_index`, the two periph fields
of `layer_info.nn_stream_config`, `channel_id`, and three of `buffer_info`. -/
structure EdgeLayer where
  stream_index : Nat
  network_index : Nat
  periph_bytes_per_buffer : Nat
  periph_buffers_per_frame : Nat
  channel_id : ChannelId
  buffer_type : Nat
  bytes_in_pattern : Nat
  desc_page_size : Nat
  deriving DecidableEq, Repr

/-- `ContextResources`, through `get_boundary_layers()` and
`get_inter_context_layers()`. -/
structure ContextResources where
  boundary_layers : List EdgeLayer
  inter_context_layers : List EdgeLayer
  deriving DecidableEq, Repr

/-- `CONTROL_PROTOCOL__ACTION_HEADER_t`. -/
structure ActionHeader where
  action_type : ActionListType
  is_repeated : Bool
  deriving DecidableEq, Repr

/-- The params struct a `serialize_params` fills in, by its fields. -/
inductive ActionParams
  /-- `CONTEXT_SWITCH_DEFS__repeated_action_header_t`. -/
  | repeated_action_header (sub_action_type : ActionListType) (last_executed count : Nat)
  /-- `CONTEXT_SWITCH_DEFS__fetch_data_action_data_t`. -/
  | fetch_data_action_data (packed_vdma_channel_id : ChannelId) (stream_index network_index : Nat)
      (credit_type : CreditType) (host_buffer_type periph_bytes_per_buffer frame_periph_size : Nat)
  /-- `CONTEXT_SWITCH_DEFS__vdma_dataflow_interrupt_data_t`. -/
  | vdma_dataflow_interrupt_data (packed_vdma_channel_id : ChannelId)
  /-- `CONTEXT_SWITCH_DEFS__wait_dma_idle_data_t`. -/
  | wait_dma_idle_data (packed_vdma_channel_id : ChannelId) (is_inter_context : Bool) (stream_index : Nat)
  /-- The struct of a member-packing class, as the bytes it packs to. -/
  | packed (params : List UInt8)
  deriving DecidableEq, Repr

/-- One serialized action: the header's bytes, then the params'. -/
structure Buffer where
  header : ActionHeader
  params : ActionParams
  deriving DecidableEq, Repr

/-- A constructed `ContextSwitchConfigAction`, by the way its class serializes. -/
inductive ContextSwitchConfigAction
  | NoneAction
  | WriteDataCcwAction (data : List UInt8) (config_stream_index : Nat)
  /-- `RepeatedAction`: `m_actions` and `m_sub_action_type`. -/
  | RepeatedAction (actions : List ContextSwitchConfigAction) (sub_action_type : ActionListType)
  | AllowInputDataflowAction (stream_index : Nat)
  | WaitOutputTransferDoneAction (stream_index : Nat)
  | WaitDmaIdleAction (stream_index : Nat)
  /-- A class whose `serialize_params` packs its own members: the action-list
  type its constructor passes, its `supports_repeated_block`, and the packed
  members. -/
  | PackedParamsAction (action_list_type : ActionListType) (supports_repeated_block : Bool)
      (params : List UInt8)
  deriving Repr

/-! ### The member-packing classes

Each class is `PackedParamsAction` at the action-list type its constructor
passes and the value its `supports_repeated_block` returns. -/

open ContextSwitchConfigAction (PackedParamsAction)

def ActivateConfigChannelAction (params : List UInt8) : ContextSwitchConfigAction :=
  PackedParamsAction .ACTIVATE_CFG_CHANNEL false params
def DeactivateConfigChannelAction (params : List UInt8) : ContextSwitchConfigAction :=
  PackedParamsAction .DEACTIVATE_CFG_CHANNEL false params
def AddCcwBurstAction (params : List UInt8) : ContextSwitchConfigAction :=
  PackedParamsAction .FETCH_CCW_BURSTS false params
def FetchCfgChannelDescriptorsAction (params : List UInt8) : ContextSwitchConfigAction :=
  PackedParamsAction .FETCH_CFG_CHANNEL_DESCRIPTORS true params
def StartBurstCreditsTaskAction : ContextSwitchConfigAction :=
  PackedParamsAction .BURST_CREDITS_TASK_START false []
def WaitForNetworkGroupChangeAction : ContextSwitchConfigAction :=
  PackedParamsAction .APPLICATION_CHANGE_INTERRUPT false []
def DisableLcuAction (params : List UInt8) : ContextSwitchConfigAction :=
  PackedParamsAction .DISABLE_LCU true params
def WaitForLcuAction (params : List UInt8) : ContextSwitchConfigAction :=
  PackedParamsAction .LCU_INTERRUPT false params
/-- `EnableLcuAction`, whose type follows `get_enable_lcu_action_type(is_default)`. -/
def EnableLcuAction (is_default : Bool) (params : List UInt8) : ContextSwitchConfigAction :=
  PackedParamsAction (if is_default then .ENABLE_LCU_DEFAULT else .ENABLE_LCU_NON_DEFAULT) true params
def EnableSequencerAction (params : List UInt8) : ContextSwitchConfigAction :=
  PackedParamsAction .TRIGGER_SEQUENCER true params
def WaitForSequencerAction (params : List UInt8) : ContextSwitchConfigAction :=
  PackedParamsAction .SEQUENCER_DONE_INTERRUPT false params
def WaitForModuleConfigDoneAction (params : List UInt8) : ContextSwitchConfigAction :=
  PackedParamsAction .MODULE_CONFIG_DONE_INTERRUPT false params
def DdrPairInfoAction (params : List UInt8) : ContextSwitchConfigAction :=
  PackedParamsAction .ADD_DDR_PAIR_INFO true params
def StartDdrBufferingTaskAction : ContextSwitchConfigAction :=
  PackedParamsAction .DDR_BUFFERING_START false []
def ResetDdrBufferingTaskAction : ContextSwitchConfigAction :=
  PackedParamsAction .DDR_BUFFERING_RESET false []
def ChangeVdmaToStreamMapping (params : List UInt8) : ContextSwitchConfigAction :=
  PackedParamsAction .CHANGE_VDMA_TO_STREAM_MAPPING true params
def OpenBoundaryInputChannelAction (params : List UInt8) : ContextSwitchConfigAction :=
  PackedParamsAction .OPEN_BOUNDARY_INPUT_CHANNEL false params
def OpenBoundaryOutputChannelAction (params : List UInt8) : ContextSwitchConfigAction :=
  PackedParamsAction .OPEN_BOUNDARY_OUTPUT_CHANNEL false params
def ActivateBoundaryInputChannelAction (params : List UInt8) : ContextSwitchConfigAction :=
  PackedParamsAction .ACTIVATE_BOUNDARY_INPUT false params
def ActivateBoundaryOutputChannelAction (params : List UInt8) : ContextSwitchConfigAction :=
  PackedParamsAction .ACTIVATE_BOUNDARY_OUTPUT false params
def ActivateInterContextInputChannelAction (params : List UInt8) : ContextSwitchConfigAction :=
  PackedParamsAction .ACTIVATE_INTER_CONTEXT_INPUT false params
def ActivateInterContextOutputChannelAction (params : List UInt8) : ContextSwitchConfigAction :=
  PackedParamsAction .ACTIVATE_INTER_CONTEXT_OUTPUT false params
def ActivateDdrInputChannelAction (params : List UInt8) : ContextSwitchConfigAction :=
  PackedParamsAction .ACTIVATE_DDR_BUFFER_INPUT false params
def ActivateDdrOutputChannelAction (params : List UInt8) : ContextSwitchConfigAction :=
  PackedParamsAction .ACTIVATE_DDR_BUFFER_OUTPUT false params
def ValidateChannelAction (params : List UInt8) : ContextSwitchConfigAction :=
  PackedParamsAction .VALIDATE_VDMA_CHANNEL false params
def DeactivateChannelAction (params : List UInt8) : ContextSwitchConfigAction :=
  PackedParamsAction .DEACTIVATE_VDMA_CHANNEL false params
def WaitNmsIdleAction (params : List UInt8) : ContextSwitchConfigAction :=
  PackedParamsAction .WAIT_FOR_NMS false params
def EnableNmsAction (params : List UInt8) : ContextSwitchConfigAction :=
  PackedParamsAction .ENABLE_NMS true params

namespace ContextSwitchConfigAction

/-! ### The virtual methods -/

/-- `get_action_list_type`: `COUNT` for the two classes constructed without one. -/
def get_action_list_type : ContextSwitchConfigAction → ActionListType
  | NoneAction | WriteDataCcwAction .. => .COUNT
  | RepeatedAction .. => .REPEATED_ACTION
  | AllowInputDataflowAction _ => .FETCH_DATA_FROM_VDMA_CHANNEL
  | WaitOutputTransferDoneAction _ => .OUTPUT_CHANNEL_TRANSFER_DONE_INTERRUPT
  | WaitDmaIdleAction _ => .WAIT_FOR_DMA_IDLE_ACTION
  | PackedParamsAction action_list_type _ _ => action_list_type

/-- `supports_repeated_block`.  `AllowInputDataflowAction`'s refuses the type
`TriggerNewDataFromDataInputDdr`, which its constructor never sets. -/
def supports_repeated_block : ContextSwitchConfigAction → Bool
  | AllowInputDataflowAction _ => true
  | PackedParamsAction _ supports_repeated_block _ => supports_repeated_block
  | _ => false

/-- `serialize_header`. -/
def serialize_header (a : ContextSwitchConfigAction) (is_repeated : Bool) :
    Except HailoStatus ActionHeader := do
  CHECK (a.get_action_list_type ≠ .COUNT) .HAILO_INTERNAL_FAILURE
  return ⟨a.get_action_list_type, is_repeated⟩

/-- The search of `get_layer_channel_id_and_type` and of
`AllowInputDataflowAction::serialize_params`: the first boundary layer of the
stream, else its first inter-context layer. -/
def find_edge_layer (context_resources : ContextResources) (stream_index : Nat) :
    Option (EdgeLayer × LayerType) :=
  match context_resources.boundary_layers.find? (·.stream_index == stream_index) with
  | some edge_layer => some (edge_layer, .BOUNDARY)
  | none =>
    (context_resources.inter_context_layers.find? (·.stream_index == stream_index)).map
      (·, .INTER_CONTEXT)

/-- `WaitDmaIdleAction::get_layer_channel_id_and_type`. -/
def get_layer_channel_id_and_type (context_resources : ContextResources) (stream_index : Nat) :
    Except HailoStatus (ChannelId × LayerType) :=
  match find_edge_layer context_resources stream_index with
  | some (edge_layer, layer_type) => .ok (edge_layer.channel_id, layer_type)
  | none => .error .HAILO_INTERNAL_FAILURE

/-- `WaitOutputTransferDoneAction::get_layer_channel_id`. -/
def get_layer_channel_id (context_resources : ContextResources) (stream_index : Nat) :
    Except HailoStatus ChannelId :=
  (get_layer_channel_id_and_type context_resources stream_index).map Prod.fst

/-- `AllowInputDataflowAction::serialize_params` at the layer found: credits in
bytes from a boundary layer, in descriptors from an inter-context one. -/
def fetch_data_params (stream_index : Nat) : EdgeLayer × LayerType → ActionParams
  | (edge_layer, .BOUNDARY) =>
    .fetch_data_action_data edge_layer.channel_id stream_index edge_layer.network_index
      .CREDIT_IN_BYTES edge_layer.buffer_type edge_layer.periph_bytes_per_buffer
      (edge_layer.periph_bytes_per_buffer * edge_layer.periph_buffers_per_frame)
  | (edge_layer, .INTER_CONTEXT) =>
    .fetch_data_action_data edge_layer.channel_id stream_index edge_layer.network_index
      .CREDIT_IN_DESCRIPTORS edge_layer.buffer_type edge_layer.periph_bytes_per_buffer
      ((edge_layer.bytes_in_pattern - 1) / edge_layer.desc_page_size + 1)

/-- `serialize_params`.  `RepeatedAction` writes its count as a `uint8_t`. -/
def serialize_params : ContextSwitchConfigAction → ContextResources → Except HailoStatus ActionParams
  | NoneAction, _ | WriteDataCcwAction .., _ => .error .HAILO_NOT_IMPLEMENTED
  | RepeatedAction actions sub_action_type, _ =>
    .ok (.repeated_action_header sub_action_type 0 (actions.length % 256))
  | AllowInputDataflowAction stream_index, context_resources =>
    match find_edge_layer context_resources stream_index with
    | some found => .ok (fetch_data_params stream_index found)
    | none => .error .HAILO_INTERNAL_FAILURE
  | WaitOutputTransferDoneAction stream_index, context_resources => do
    let channel_id ← get_layer_channel_id context_resources stream_index
    return .vdma_dataflow_interrupt_data channel_id
  | WaitDmaIdleAction stream_index, context_resources => do
    let (channel_id, layer_type) ← get_layer_channel_id_and_type context_resources stream_index
    return .wait_dma_idle_data channel_id (layer_type == .INTER_CONTEXT) stream_index
  | PackedParamsAction _ _ params, _ => .ok (.packed params)

/-- `ContextSwitchConfigAction::serialize`, the base class's: one buffer, the
header, then the params.  `COUNT` is the last enumerator, so
`m_action_list_type < COUNT` is `m_action_list_type != COUNT`. -/
def base_serialize (a : ContextSwitchConfigAction) (context_resources : ContextResources)
    (is_repeated : Bool) : Except HailoStatus (List Buffer) := do
  CHECK (a.get_action_list_type ≠ .COUNT) .HAILO_INTERNAL_FAILURE
  let header ← a.serialize_header is_repeated
  let params ← a.serialize_params context_resources
  return [⟨header, params⟩]

mutual

/-- `serialize`, the virtual method: `NoneAction` and `WriteDataCcwAction` write
nothing, `RepeatedAction` its header and then its members. -/
def serialize : ContextSwitchConfigAction → ContextResources → Bool → Except HailoStatus (List Buffer)
  | NoneAction, _, _ | WriteDataCcwAction .., _, _ => .ok []
  | RepeatedAction actions sub_action_type, context_resources, is_repeated => do
    CHECK (is_repeated = false) .HAILO_INTERNAL_FAILURE
    let repeated_header ←
      base_serialize (RepeatedAction actions sub_action_type) context_resources false
    CHECK (repeated_header.length = 1) .HAILO_INTERNAL_FAILURE
    let action_buffers ← serialize_sub_actions actions context_resources
    return repeated_header ++ action_buffers
  | AllowInputDataflowAction stream_index, context_resources, is_repeated =>
    base_serialize (AllowInputDataflowAction stream_index) context_resources is_repeated
  | WaitOutputTransferDoneAction stream_index, context_resources, is_repeated =>
    base_serialize (WaitOutputTransferDoneAction stream_index) context_resources is_repeated
  | WaitDmaIdleAction stream_index, context_resources, is_repeated =>
    base_serialize (WaitDmaIdleAction stream_index) context_resources is_repeated
  | PackedParamsAction t s params, context_resources, is_repeated =>
    base_serialize (PackedParamsAction t s params) context_resources is_repeated

/-- The loop of `RepeatedAction::serialize` over `m_actions`: each member
serialized with `REPEATED`, and it must give one buffer. -/
def serialize_sub_actions : List ContextSwitchConfigAction → ContextResources →
    Except HailoStatus (List Buffer)
  | [], _ => .ok []
  | action :: actions, context_resources => do
    let action_buffers ← serialize action context_resources true
    CHECK (action_buffers.length = 1) .HAILO_INTERNAL_FAILURE
    let rest ← serialize_sub_actions actions context_resources
    return action_buffers ++ rest

end

end ContextSwitchConfigAction

open ContextSwitchConfigAction

/-- `RepeatedAction::create`: the checks look at the first member only. -/
def RepeatedAction.create (actions : List ContextSwitchConfigAction) :
    Except HailoStatus ContextSwitchConfigAction := do
  CHECK (actions.isEmpty = false) .HAILO_INVALID_HEF
  CHECK (IS_FIT_IN_UINT8 actions.length) .HAILO_INTERNAL_FAILURE
  CHECK ((actions.headD NoneAction).supports_repeated_block = true) .HAILO_INVALID_HEF
  CHECK ((actions.headD NoneAction).get_action_list_type ≠ .COUNT) .HAILO_INVALID_HEF
  return RepeatedAction actions (actions.headD NoneAction).get_action_list_type

theorem RepeatedAction.create_eq_ok {actions : List ContextSwitchConfigAction}
    {r : ContextSwitchConfigAction} (hc : RepeatedAction.create actions = .ok r) :
    actions.length ≤ 255 ∧ r = RepeatedAction actions (actions.headD NoneAction).get_action_list_type := by
  simp only [RepeatedAction.create, CHECK_bind, Except.pure_eq_ok] at hc
  split_ifs at hc with h₁ h₂
  cases hc
  exact ⟨h₂, rfl⟩

namespace ContextSwitchConfigAction

/-! ### One buffer per member -/

variable (context_resources : ContextResources)

end ContextSwitchConfigAction

open ContextSwitchConfigAction

end ContextSwitch
end HailoRT
