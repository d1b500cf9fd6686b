/-
# The edge-layer classifier

`HefUtils` (`hef.cpp`, lines 975-1542) reads each edge layer of a context
from the proto into the record the rest of the library works with:

| connection type | function                         | record                  |
| `BOUNDARY`      | `get_boundary_layer_info`        | `LayerInfo`             |
| `INTERMEDIATE`  | `get_inter_context_layer_info`   | `InterContextLayerInfo` |
| `DDR`           | `get_ddr_layer_info`             | `DdrLayerInfo`          |

A boundary layer is either a plain layer (`fill_layer_info`) or a mux
(`fill_mux_info`), a tree whose inner nodes are muxes and whose leaves are
plain layers.  `fill_mux_info` walks a mux's predecessors with
`for (uint32_t i = 0; i < info.mux_data().number_of_predecessors(); i++)` and
reads `info.predecessors(i)`: the bound is the declared count, not the size of
the repeated field, so a mux that declares more predecessors than it has is
read past the end (`fill_mux_info_reads_past_end`).  Each of the fillers
also copies `buffer_indices(0)` after `assert(1 == buffer_indices_size())`,
which does nothing in a release build: a layer without one is read past the
end as well.

Every path records the layer's network by
`static_cast<uint8_t>(layer.network_index())`, before
`get_partial_network_name_by_index` compares it with the number of networks:
an index of `256` is accepted as network `0`.

A host-argmax layer is recorded with one feature.  The `LayerInfo` overload of
`is_hw_padding_supported` then sees other geometry than the proto overload
the parser used, so the stream's recomputed config can differ from the one
written for the firmware (`host_argmax_hw_padding_recomputed_differently`).
-/

import HailoRT.Hef.NnStreamConfig
import HailoRT.Hef.Action

namespace HailoRT
namespace Hef

open HailoFormatOrder ProtoHEFEdgeConnectionType

/-! ### The proto -/

/-- `ProtoHEFEdgeLayerDirection`. -/
inductive ProtoHEFEdgeLayerDirection
  | PROTO__EDGE_LAYER_DIRECTION__HOST_TO_DEVICE
  | PROTO__EDGE_LAYER_DIRECTION__DEVICE_TO_HOST
  deriving DecidableEq, Repr, Inhabited

/-- `ProtoHEFEdgeLayerType`: the two values the code names, and any other
value the field can hold. -/
inductive ProtoHEFEdgeLayerType
  | PROTO__EDGE_LAYER_TYPE__INFO
  | PROTO__EDGE_LAYER_TYPE__MUX
  | other (value : Nat)
  deriving DecidableEq, Repr, Inhabited

/-- `ProtoHEFEdgeLayerInfo`, through the fields `hef.cpp` reads but the
numeric (quantization) info, which it only copies. -/
structure ProtoHEFEdgeLayerInfo where
  name : String
  edge_layer_base : ProtoHEFEdgeLayerBase
  transposed : Bool
  deriving DecidableEq, Repr, Inhabited

/-- `mux_data()` of a `ProtoHEFEdgeLayerMux`. -/
structure ProtoHEFMuxData where
  number_of_predecessors : Nat
  height_gcd : Nat
  height_ratios_list : List Nat
  deriving DecidableEq, Repr, Inhabited

mutual

/-- `ProtoHefEdge`, by its `edge_case()`. -/
inductive ProtoHefEdge
  | layer_info (info : ProtoHEFEdgeLayerInfo)
  | layer_mux (mux : ProtoHEFEdgeLayerMux)
  | EDGE_NOT_SET

/-- `ProtoHEFEdgeLayerMux`: `predecessors` is the repeated field, of any size
whatever `mux_data.number_of_predecessors` says. -/
inductive ProtoHEFEdgeLayerMux
  | mk (name : String) (edge_layer_base : ProtoHEFEdgeLayerBase) (mux_data : ProtoHEFMuxData)
      (predecessors : List ProtoHefEdge)

end

instance : Inhabited ProtoHEFEdgeLayerMux := ⟨.mk "" default default []⟩

/-- `context_switch_info()` of an edge layer. -/
structure ProtoHEFContextSwitchInfo where
  edge_connection_type : ProtoHEFEdgeConnectionType
  connected_sys_index : Nat
  connected_context_index : Nat
  /-- `engine_id()` of each of `connected_contexts()`. -/
  connected_contexts : List Nat
  buffers : Nat
  deriving DecidableEq, Repr

/-- `ProtoHEFEdgeLayer`; `edge` is the oneof of `layer_info()` and
`layer_mux()`. -/
structure ProtoHEFEdgeLayer where
  direction : ProtoHEFEdgeLayerDirection
  edge_layer_type : ProtoHEFEdgeLayerType
  edge : ProtoHefEdge
  context_switch_info : ProtoHEFContextSwitchInfo
  network_index : Nat

/-- `layer_info()`: protobuf's default message when the oneof holds another case. -/
def ProtoHEFEdgeLayer.layer_info (layer : ProtoHEFEdgeLayer) : ProtoHEFEdgeLayerInfo :=
  match layer.edge with
  | .layer_info info => info
  | _ => default

/-- `layer_mux()`: protobuf's default message when the oneof holds another case. -/
def ProtoHEFEdgeLayer.layer_mux (layer : ProtoHEFEdgeLayer) : ProtoHEFEdgeLayerMux :=
  match layer.edge with
  | .layer_mux mux => mux
  | _ => default

/-- `ProtoHEFEdgeLayerFused`. -/
structure ProtoHEFEdgeLayerFused where
  layer_info : ProtoHEFEdgeLayerInfo
  nms_info : ProtoHEFNmsInfo
  deriving DecidableEq, Repr

/-- `ProtoHEFNetworkGroup` as the edge-layer parser reads it:
`network_group_metadata()`'s name and `transposed_net()`, `networks_names()`,
the fused layers, and each context's `metadata().edge_layers()`. -/
structure ProtoHEFNetworkGroupLayers where
  network_group_name : String
  transposed_net : Bool
  networks_names : List String
  has_fused_layers_metadata : Bool
  fused_layers : List ProtoHEFEdgeLayerFused
  contexts : List (List ProtoHEFEdgeLayer)

/-- `NetworkGroupSupportedFeatures`, through the flags the parser reads. -/
structure NetworkGroupSupportedFeatures where
  padded_ddr_buffers : Bool
  multi_network_support : Bool
  deriving DecidableEq, Repr

/-! ### The records -/

/-- `hailo_stream_direction_t`. -/
inductive HailoStreamDirection
  | HAILO_H2D_STREAM
  | HAILO_D2H_STREAM
  deriving DecidableEq, Repr, Inhabited

/-- `hailo_3d_image_shape_t`. -/
structure Shape where
  height : Nat
  width : Nat
  features : Nat
  deriving DecidableEq, Repr, Inhabited

/-- The bits of `hailo_format_flags_t` the parser sets. -/
structure HailoFormatFlags where
  quantized : Bool
  transposed : Bool
  host_argmax : Bool
  deriving DecidableEq, Repr, Inhabited

/-- `hailo_format_t`; the type is the code `get_format_type` gives. -/
structure HailoFormat where
  order : HailoFormatOrder
  flags : HailoFormatFlags
  type : Nat
  deriving DecidableEq, Repr, Inhabited

/-- `hailo_nms_info_t`, with `defuse_info` flattened. -/
structure HailoNmsInfo where
  number_of_classes : Nat
  bbox_size : Nat
  max_bboxes_per_class : Nat
  chunks_per_frame : Nat
  is_defused : Bool
  class_group_index : Nat
  original_name : String
  deriving DecidableEq, Repr, Inhabited

/-- `LayerInfo`, through the fields the parser fills but the quantization info,
which it only copies. -/
structure LayerInfo where
  shape : Shape
  hw_shape : Shape
  hw_data_bytes : Nat
  format : HailoFormat
  nn_stream_config : NnStreamConfig
  network_index : Nat
  context_index : Nat
  stream_index : Nat
  dma_engine_index : Nat
  nms_info : HailoNmsInfo
  max_shmifo_size : Nat
  name : String
  network_name : String
  is_mux : Bool
  direction : HailoStreamDirection
  is_defused_nms : Bool
  fused_nms_layer : List LayerInfo
  predecessor : List LayerInfo
  height_gcd : Nat
  height_ratios : List Nat
  buffer_indices : BufferIndices
  deriving Inhabited

/-- `InterContextLayerInfo`. -/
structure InterContextLayerInfo where
  network_index : Nat
  network_name : String
  context_index : Nat
  name : String
  nn_stream_config : NnStreamConfig
  stream_index : Nat
  dma_engine_index : Nat
  max_shmifo_size : Nat
  direction : HailoStreamDirection
  src_stream_index : Nat
  src_context_index : Nat
  dst_stream_index : Nat
  dst_context_index : Nat
  deriving DecidableEq, Repr

/-- `DdrLayerInfo`. -/
structure DdrLayerInfo where
  network_index : Nat
  network_name : String
  context_index : Nat
  name : String
  nn_stream_config : NnStreamConfig
  stream_index : Nat
  max_shmifo_size : Nat
  total_buffers_per_frame : Nat
  direction : HailoStreamDirection
  src_stream_index : Nat
  src_dma_engine_index : Nat
  src_context_index : Nat
  dst_stream_index : Nat
  dst_dma_engine_index : Nat
  dst_context_index : Nat
  min_buffered_rows : Nat
  deriving DecidableEq, Repr

/-! ### Network names -/

/-- `HefUtils::get_partial_network_name_by_index`. -/
def get_partial_network_name_by_index (net_group : ProtoHEFNetworkGroupLayers) (network_index : Nat)
    (supported_features : NetworkGroupSupportedFeatures) : Except HailoStatus String :=
  if supported_features.multi_network_support then do
    CHECK (network_index < net_group.networks_names.length) .HAILO_INVALID_ARGUMENT
    return net_group.networks_names.getD network_index ""
  else
    return net_group.network_group_name

/-- `HefUtils::get_network_name`. -/
def get_network_name (env : LayerEnv) (net_group : ProtoHEFNetworkGroupLayers) (partial_network_name : String) :
    String :=
  net_group.network_group_name ++ env.HAILO_DEFAULT_NETWORK_NAME_QUALIFIER ++ partial_network_name

/-- The network index every path records:
`static_cast<uint8_t>((support_multi_networks) ? layer.network_index() : 0)`. -/
def layer_network_index (supported_features : NetworkGroupSupportedFeatures) (network_index : Nat) : Nat :=
  if supported_features.multi_network_support then network_index % 256 else 0

/-! ### HW padding of a proto layer -/

/-- `HefConfigurator::is_hw_padding_supported`, the overload on a
`ProtoHEFEdgeLayer`: a format without a device order never gets HW padding. -/
def ProtoHEFEdgeLayer.is_hw_padding_supported (env : LayerEnv) (edge_layer : ProtoHEFEdgeLayer) : Bool :=
  let is_boundary := edge_layer.context_switch_info.edge_connection_type == PROTO__EDGE_CONNECTION_TYPE__BOUNDARY
  let is_mux := edge_layer.edge_layer_type == .PROTO__EDGE_LAYER_TYPE__MUX
  let edge_layer_base := edge_layer.layer_info.edge_layer_base
  match env.get_device_format_order edge_layer_base.format with
  | .error _ => false
  | .ok format_order =>
    if ¬IS_FIT_IN_UINT16 edge_layer_base.core_buffers_per_frame then false
    else HefConfigurator.is_hw_padding_supported env is_boundary is_mux format_order
      edge_layer_base.core_buffers_per_frame edge_layer_base.height edge_layer_base.width
      edge_layer_base.features edge_layer_base.data_bytes

/-- `HefConfigurator::is_hw_padding_supported`, the overload on a `LayerInfo`:
a transposed layer's height and width are swapped back. -/
def LayerInfo.is_hw_padding_supported (env : LayerEnv) (layer_info : LayerInfo) : Bool :=
  let (height, width) := if layer_info.format.flags.transposed then (layer_info.shape.width, layer_info.shape.height)
    else (layer_info.shape.height, layer_info.shape.width)
  HefConfigurator.is_hw_padding_supported env true layer_info.is_mux layer_info.format.order
    layer_info.nn_stream_config.core_buffers_per_frame height width layer_info.shape.features
    layer_info.hw_data_bytes

/-- `HefConfigurator::parse_nn_stream_config`, the overload on a `LayerInfo`
(called on boundary layers only, so never DDR). -/
def LayerInfo.parse_nn_stream_config (layer_info : LayerInfo) (hw_padding_supported : Bool) :
    Except HailoStatus NnStreamConfig :=
  HefConfigurator.parse_nn_stream_config layer_info.format.order layer_info.hw_shape.width
    layer_info.hw_shape.features layer_info.hw_data_bytes layer_info.nn_stream_config.core_buffers_per_frame
    layer_info.nn_stream_config.core_bytes_per_buffer hw_padding_supported false

/-! ### Filling a `LayerInfo` -/

/-- `HefUtils::parse_proto_nms_info`. -/
def parse_proto_nms_info (env : LayerEnv) (proto_nms_info : ProtoHEFNmsInfo) : Except HailoStatus HailoNmsInfo := do
  let chunks_per_frame :=
    if proto_nms_info.input_division_factor = 0 then 1 else proto_nms_info.input_division_factor
  CHECK (proto_nms_info.class_group_index < env.MAX_DEFUSED_LAYER_COUNT) .HAILO_INVALID_HEF
  CHECK (env.HAILO_MAX_STREAM_NAME_SIZE ≥ proto_nms_info.original_name.utf8ByteSize + 1) .HAILO_INTERNAL_FAILURE
  return ⟨proto_nms_info.number_of_classes, proto_nms_info.bbox_size, proto_nms_info.max_output_size,
    chunks_per_frame, proto_nms_info.is_defused, proto_nms_info.class_group_index, proto_nms_info.original_name⟩

/-- `HefUtils::fill_layer_info_with_base_info`, on a fresh `LayerInfo`. -/
def fill_layer_info_with_base_info (env : LayerEnv) (base_info : ProtoHEFEdgeLayerBase)
    (edge_connection_type : ProtoHEFEdgeConnectionType) (transposed_net hw_padding_supported transposed : Bool)
    (context_index network_index : Nat) : Except HailoStatus LayerInfo := do
  let format_oder ← env.get_device_format_order base_info.format
  let shape : Shape :=
    if env.HEF__FORMAT__NMS ≠ base_info.format then ⟨base_info.height, base_info.width, base_info.features⟩
    else ⟨base_info.nms_info.number_of_classes, env.BBOX_PARAMS,
      mul_u32 base_info.nms_info.max_output_size base_info.nms_info.input_division_factor⟩
  let hw_shape : Shape :=
    if hw_padding_supported then ⟨base_info.height, base_info.width, base_info.features⟩
    else ⟨base_info.padded_height, base_info.padded_width, base_info.padded_features⟩
  let hw_data_bytes := base_info.data_bytes
  let flags : HailoFormatFlags := ⟨true, false, false⟩
  let (shape, flags) :=
    if (transposed_net || transposed) && format_oder ≠ HAILO_FORMAT_ORDER_NC then
      (({ shape with height := shape.width, width := shape.height } : Shape), { flags with transposed := true })
    else (shape, flags)
  let (shape, flags) :=
    if base_info.host_argmax then (({ shape with features := 1 } : Shape), { flags with host_argmax := true })
    else (shape, flags)
  let type ← env.get_format_type hw_data_bytes
  let nn_stream_config ← base_info.parse_nn_stream_config env hw_padding_supported edge_connection_type
  CHECK (IS_FIT_IN_UINT8 base_info.sys_index) .HAILO_INVALID_HEF
  CHECK (IS_FIT_IN_UINT8 base_info.engine_id) .HAILO_INVALID_HEF
  let nms_info ← if format_oder = HAILO_FORMAT_ORDER_HAILO_NMS then parse_proto_nms_info env base_info.nms_info
    else pure default
  return { (default : LayerInfo) with
    shape, hw_shape, hw_data_bytes, format := ⟨format_oder, flags, type⟩, nn_stream_config, network_index,
    context_index, stream_index := base_info.sys_index, dma_engine_index := base_info.engine_id, nms_info,
    max_shmifo_size := base_info.max_shmifo_size }

/-- `buffer_indices(0)`, which the fillers copy after
`assert(1 == buffer_indices_size())`: the assert does nothing in a release
build, and the read of an empty repeated field is undefined behaviour. -/
def read_buffer_indices (edge_layer_base : ProtoHEFEdgeLayerBase) : MayFault BufferIndices :=
  match edge_layer_base.buffer_indices with
  | buffer_indices :: _ => pure buffer_indices
  | [] => ExceptT.mk none

/-- `HefUtils::fill_fused_nms_info`. -/
def fill_fused_nms_info (env : LayerEnv) (info : ProtoHEFEdgeLayerFused) (network_name : String) :
    MayFault LayerInfo := do
  let base_info := info.layer_info.edge_layer_base
  let order ← env.get_device_format_order base_info.format
  let shape : Shape := ⟨info.nms_info.number_of_classes, env.BBOX_PARAMS,
    mul_u32 info.nms_info.max_output_size info.nms_info.input_division_factor⟩
  let hw_data_bytes := base_info.data_bytes
  let type ← env.get_format_type hw_data_bytes
  let nms_info ← parse_proto_nms_info env info.nms_info
  CHECK (info.layer_info.name.utf8ByteSize + 1 ≤ env.HAILO_MAX_STREAM_NAME_SIZE) .HAILO_INTERNAL_FAILURE
  let buffer_indices ← read_buffer_indices base_info
  return { (default : LayerInfo) with
    format := ⟨order, ⟨true, false, false⟩, type⟩, shape, hw_data_bytes, nms_info, name := info.layer_info.name,
    network_name, is_mux := false, direction := .HAILO_D2H_STREAM, buffer_indices }

section Fill

variable (env : LayerEnv) (edge_connection_type : ProtoHEFEdgeConnectionType)
  (net_group : ProtoHEFNetworkGroupLayers) (direction : HailoStreamDirection) (hw_padding_supported : Bool)
  (context_index : Nat) (partial_network_name : String) (network_index : Nat)

/-- `HefUtils::fill_layer_info`. -/
def fill_layer_info (info : ProtoHEFEdgeLayerInfo) : MayFault LayerInfo := do
  let layer_info ← fill_layer_info_with_base_info env info.edge_layer_base edge_connection_type
    net_group.transposed_net hw_padding_supported info.transposed context_index network_index
  CHECK (info.name.utf8ByteSize + 1 ≤ env.HAILO_MAX_STREAM_NAME_SIZE) .HAILO_INTERNAL_FAILURE
  CHECK (partial_network_name.utf8ByteSize + 1 ≤ env.HAILO_MAX_NETWORK_NAME_SIZE) .HAILO_INTERNAL_FAILURE
  let buffer_indices ← read_buffer_indices info.edge_layer_base
  let layer_info := { layer_info with
    name := info.name, network_name := get_network_name env net_group partial_network_name, is_mux := false,
    direction, buffer_indices }
  let is_defused_nms := net_group.has_fused_layers_metadata &&
    layer_info.format.order == HAILO_FORMAT_ORDER_HAILO_NMS && layer_info.nms_info.is_defused
  if is_defused_nms then do
    let fused_nms_layer ←
      match net_group.fused_layers.find? (·.layer_info.name == layer_info.nms_info.original_name) with
      | some fused_layer => do
        let fused_layer_info ← fill_fused_nms_info env fused_layer layer_info.network_name
        pure [fused_layer_info]
      | none => pure []
    CHECK (0 ≠ fused_nms_layer.length) .HAILO_NOT_FOUND
    return { layer_info with is_defused_nms, fused_nms_layer }
  else
    return { layer_info with is_defused_nms }

mutual

/-- `HefUtils::fill_mux_info`. -/
def fill_mux_info : ProtoHEFEdgeLayerMux → MayFault LayerInfo
  | .mk name edge_layer_base mux_data predecessors => do
    let layer_info ← fill_layer_info_with_base_info env edge_layer_base edge_connection_type
      net_group.transposed_net hw_padding_supported false context_index network_index
    CHECK (name.utf8ByteSize + 1 ≤ env.HAILO_MAX_STREAM_NAME_SIZE) .HAILO_INTERNAL_FAILURE
    CHECK (partial_network_name.utf8ByteSize + 1 ≤ env.HAILO_MAX_NETWORK_NAME_SIZE) .HAILO_INTERNAL_FAILURE
    let buffer_indices ← read_buffer_indices edge_layer_base
    let predecessor ← fill_predecessors predecessors mux_data.number_of_predecessors
    return { layer_info with
      name, network_name := get_network_name env net_group partial_network_name, is_mux := true,
      height_gcd := mux_data.height_gcd, height_ratios := mux_data.height_ratios_list, buffer_indices, predecessor }

/-- The body of `fill_mux_info`'s loop at one predecessor: the `switch` on its
`edge_case()`. -/
def fill_predecessor : ProtoHefEdge → MayFault LayerInfo
  | .layer_info info =>
    fill_layer_info env edge_connection_type net_group direction hw_padding_supported context_index
      partial_network_name network_index info
  | .layer_mux mux => fill_mux_info mux
  | .EDGE_NOT_SET => throw .HAILO_INTERNAL_FAILURE

/-- The loop of `fill_mux_info` over `i < number_of_predecessors`, reading
`predecessors(i)`: a read past the last entry is undefined behaviour. -/
def fill_predecessors : List ProtoHefEdge → Nat → MayFault (List LayerInfo)
  | _, 0 => pure []
  | [], _ + 1 => ExceptT.mk none
  | edge :: predecessors, number_of_predecessors + 1 => do
    let temp_layer ← fill_predecessor edge
    let rest ← fill_predecessors predecessors number_of_predecessors
    return temp_layer :: rest

end

end Fill

/-! ### The three kinds of layer -/

/-- The direction `hef.cpp` gives a proto direction. -/
def stream_direction (direction : ProtoHEFEdgeLayerDirection) : HailoStreamDirection :=
  if direction = .PROTO__EDGE_LAYER_DIRECTION__DEVICE_TO_HOST then .HAILO_D2H_STREAM else .HAILO_H2D_STREAM

/-- `HefUtils::get_boundary_layer_info`. -/
def get_boundary_layer_info (env : LayerEnv) (net_group : ProtoHEFNetworkGroupLayers) (context_index : Nat)
    (layer : ProtoHEFEdgeLayer) (supported_features : NetworkGroupSupportedFeatures) : MayFault LayerInfo := do
  CHECK (layer.context_switch_info.edge_connection_type = PROTO__EDGE_CONNECTION_TYPE__BOUNDARY)
    .HAILO_INTERNAL_FAILURE
  let direction := stream_direction layer.direction
  let network_index := layer_network_index supported_features layer.network_index
  let partial_network_name ← get_partial_network_name_by_index net_group network_index supported_features
  let hw_padding_supported := layer.is_hw_padding_supported env
  let result ← match layer.edge_layer_type with
    | .PROTO__EDGE_LAYER_TYPE__INFO =>
      fill_layer_info env layer.context_switch_info.edge_connection_type net_group direction hw_padding_supported
        context_index partial_network_name network_index layer.layer_info
    | .PROTO__EDGE_LAYER_TYPE__MUX =>
      fill_mux_info env layer.context_switch_info.edge_connection_type net_group direction hw_padding_supported
        context_index partial_network_name network_index layer.layer_mux
    | .other _ => throw .HAILO_INTERNAL_FAILURE
  return { result with direction := stream_direction layer.direction }

/-- `HefUtils::get_inter_context_layer_info`. -/
def get_inter_context_layer_info (env : LayerEnv) (net_group : ProtoHEFNetworkGroupLayers) (context_index : Nat)
    (layer : ProtoHEFEdgeLayer) (supported_features : NetworkGroupSupportedFeatures) :
    Except HailoStatus InterContextLayerInfo := do
  CHECK (layer.edge_layer_type = .PROTO__EDGE_LAYER_TYPE__INFO) .HAILO_INVALID_HEF
  let network_index := layer_network_index supported_features layer.network_index
  let partial_network_name ← get_partial_network_name_by_index net_group network_index supported_features
  let network_name := get_network_name env net_group partial_network_name
  let hw_padding_supported := layer.is_hw_padding_supported env
  let base := layer.layer_info.edge_layer_base
  let nn_stream_config ← base.parse_nn_stream_config env hw_padding_supported
    layer.context_switch_info.edge_connection_type
  CHECK (IS_FIT_IN_UINT8 base.sys_index) .HAILO_INVALID_HEF
  CHECK (IS_FIT_IN_UINT8 base.engine_id) .HAILO_INVALID_HEF
  CHECK (IS_FIT_IN_UINT8 layer.context_switch_info.connected_sys_index) .HAILO_INVALID_HEF
  CHECK (IS_FIT_IN_UINT8 layer.context_switch_info.connected_context_index) .HAILO_INVALID_HEF
  let direction := stream_direction layer.direction
  let (src_stream_index, src_context_index, dst_stream_index, dst_context_index) :=
    if layer.direction = .PROTO__EDGE_LAYER_DIRECTION__HOST_TO_DEVICE then
      (layer.context_switch_info.connected_sys_index, layer.context_switch_info.connected_context_index,
        base.sys_index, context_index)
    else
      (base.sys_index, context_index, layer.context_switch_info.connected_sys_index,
        layer.context_switch_info.connected_context_index)
  return ⟨network_index, network_name, context_index, layer.layer_info.name, nn_stream_config, base.sys_index,
    base.engine_id, base.max_shmifo_size, direction, src_stream_index, src_context_index, dst_stream_index,
    dst_context_index⟩

/-- `HefUtils::get_ddr_layer_info`. -/
def get_ddr_layer_info (env : LayerEnv) (net_group : ProtoHEFNetworkGroupLayers) (context_index : Nat)
    (layer : ProtoHEFEdgeLayer) (supported_features : NetworkGroupSupportedFeatures) :
    Except HailoStatus DdrLayerInfo := do
  CHECK (layer.edge_layer_type = .PROTO__EDGE_LAYER_TYPE__INFO) .HAILO_INVALID_HEF
  let network_index := layer_network_index supported_features layer.network_index
  let partial_network_name ← get_partial_network_name_by_index net_group network_index supported_features
  let network_name := get_network_name env net_group partial_network_name
  let hw_padding_supported := layer.is_hw_padding_supported env
  let base := layer.layer_info.edge_layer_base
  let nn_stream_config ← base.parse_nn_stream_config env hw_padding_supported
    layer.context_switch_info.edge_connection_type
  CHECK (IS_FIT_IN_UINT8 base.sys_index) .HAILO_INVALID_HEF
  CHECK (IS_FIT_IN_UINT8 base.engine_id) .HAILO_INVALID_HEF
  CHECK (IS_FIT_IN_UINT16 base.core_buffers_per_frame) .HAILO_INVALID_HEF
  CHECK (layer.context_switch_info.connected_contexts.length = 1) .HAILO_INVALID_HEF
  let connected_context_engine_id := layer.context_switch_info.connected_contexts.headD 0
  CHECK (IS_FIT_IN_UINT8 layer.context_switch_info.connected_sys_index) .HAILO_INVALID_HEF
  CHECK (IS_FIT_IN_UINT8 connected_context_engine_id) .HAILO_INVALID_HEF
  CHECK (IS_FIT_IN_UINT8 layer.context_switch_info.connected_context_index) .HAILO_INVALID_HEF
  let direction := stream_direction layer.direction
  CHECK (context_index = layer.context_switch_info.connected_context_index) .HAILO_INVALID_HEF
  let (src_stream_index, src_dma_engine_index, src_context_index, dst_stream_index, dst_dma_engine_index,
      dst_context_index) :=
    if layer.direction = .PROTO__EDGE_LAYER_DIRECTION__HOST_TO_DEVICE then
      (layer.context_switch_info.connected_sys_index, connected_context_engine_id,
        layer.context_switch_info.connected_context_index, base.sys_index, base.engine_id, context_index)
    else
      (base.sys_index, base.engine_id, context_index, layer.context_switch_info.connected_sys_index,
        connected_context_engine_id, layer.context_switch_info.connected_context_index)
  CHECK (IS_FIT_IN_UINT16 layer.context_switch_info.buffers) .HAILO_INVALID_HEF
  return ⟨network_index, network_name, context_index, layer.layer_info.name, nn_stream_config, base.sys_index,
    base.max_shmifo_size, base.core_buffers_per_frame, direction, src_stream_index, src_dma_engine_index,
    src_context_index, dst_stream_index, dst_dma_engine_index, dst_context_index,
    layer.context_switch_info.buffers⟩

/-! ### What a parsed layer records -/

section Fields

variable {env : LayerEnv} {edge_connection_type : ProtoHEFEdgeConnectionType}
  {net_group : ProtoHEFNetworkGroupLayers} {direction : HailoStreamDirection} {hw_padding_supported : Bool}
  {context_index : Nat} {partial_network_name : String} {network_index : Nat}

/-- Every layer the base filler returns is no defused NMS layer yet. -/
theorem fill_layer_info_with_base_info_is_defused_nms {base_info : ProtoHEFEdgeLayerBase}
    {transposed_net transposed : Bool} {layer_info : LayerInfo}
    (h : fill_layer_info_with_base_info env base_info edge_connection_type transposed_net hw_padding_supported
      transposed context_index network_index = .ok layer_info) :
    layer_info.is_defused_nms = false := by
  simp only [fill_layer_info_with_base_info] at h
  obtain ⟨format_oder, -, h⟩ := Except.bind_eq_ok.1 h
  iterate 4 obtain ⟨_, -, h⟩ := Except.bind_eq_ok.1 h
  by_cases hnms : format_oder = HAILO_FORMAT_ORDER_HAILO_NMS
  · rw [if_pos hnms] at h
    obtain ⟨_, -, h⟩ := Except.bind_eq_ok.1 h
    cases h
    rfl
  · rw [if_neg hnms] at h
    cases h
    rfl

/-- A plain layer is no mux, and a defused NMS one has its fused layer. -/
theorem fill_layer_info_flags {info : ProtoHEFEdgeLayerInfo} {layer_info : LayerInfo}
    (h : (fill_layer_info env edge_connection_type net_group direction hw_padding_supported context_index
      partial_network_name network_index info).run = some (.ok layer_info)) :
    layer_info.is_mux = false ∧ (layer_info.is_defused_nms = true → layer_info.fused_nms_layer ≠ []) := by
  simp only [fill_layer_info] at h
  iterate 4 obtain ⟨_, -, h⟩ := MayDiverge.run_bind_eq_ok.1 h
  split at h
  · -- a defused NMS layer: its fused layer is found, or the check fails
    split at h
    · obtain ⟨_, -, h⟩ := MayDiverge.run_bind_eq_ok.1 h
      obtain ⟨_, hy, h⟩ := MayDiverge.run_bind_eq_ok.1 h
      cases hy
      obtain ⟨_, -, h⟩ := MayDiverge.run_bind_eq_ok.1 h
      cases h
      exact ⟨rfl, fun _ => List.cons_ne_nil _ _⟩
    · obtain ⟨_, hy, h⟩ := MayDiverge.run_bind_eq_ok.1 h
      cases hy
      obtain ⟨_, hcheck, -⟩ := MayDiverge.run_bind_eq_ok.1 h
      exact absurd hcheck (by simp [CHECK])
  · cases h
    exact ⟨rfl, fun h => absurd h ‹_›⟩

/-- A mux is no defused NMS layer. -/
theorem fill_mux_info_flags {mux : ProtoHEFEdgeLayerMux} {layer_info : LayerInfo}
    (h : (fill_mux_info env edge_connection_type net_group direction hw_padding_supported context_index
      partial_network_name network_index mux).run = some (.ok layer_info)) :
    layer_info.is_mux = true ∧ layer_info.is_defused_nms = false := by
  obtain ⟨name, edge_layer_base, mux_data, predecessors⟩ := mux
  rw [fill_mux_info] at h
  obtain ⟨base, hbase, h⟩ := MayDiverge.run_bind_eq_ok.1 h
  rw [MayDiverge.run_monadLift, Option.some.injEq] at hbase
  iterate 4 obtain ⟨_, -, h⟩ := MayDiverge.run_bind_eq_ok.1 h
  cases Except.ok.inj (Option.some.inj h)
  exact ⟨rfl, (fill_layer_info_with_base_info_is_defused_nms hbase : base.is_defused_nms = false)⟩

end Fields

/-! ### Reading past the last predecessor -/

section Predecessors

variable {env : LayerEnv} {edge_connection_type : ProtoHEFEdgeConnectionType}
  {net_group : ProtoHEFNetworkGroupLayers} {direction : HailoStreamDirection} {hw_padding_supported : Bool}
  {context_index : Nat} {partial_network_name : String} {network_index : Nat}

/-- A loop that runs past the last predecessor, every one before it read
without error, reads `predecessors(predecessors_size())`. -/
theorem fill_predecessors_past_end :
    ∀ {predecessors : List ProtoHefEdge} {number_of_predecessors : Nat},
      predecessors.length < number_of_predecessors →
      (∀ edge ∈ predecessors, ∃ temp_layer, (fill_predecessor env edge_connection_type net_group direction
        hw_padding_supported context_index partial_network_name network_index edge).run = some (.ok temp_layer)) →
      (fill_predecessors env edge_connection_type net_group direction hw_padding_supported context_index
        partial_network_name network_index predecessors number_of_predecessors).run = none
  | [], _ + 1, _, _ => rfl
  | edge :: predecessors, number_of_predecessors + 1, hlt, hok => by
    obtain ⟨temp_layer, h⟩ := hok edge (List.mem_cons_self _ _)
    rw [fill_predecessors, ExceptT.run_bind, h]
    show (ExceptT.run (fill_predecessors env edge_connection_type net_group direction hw_padding_supported
      context_index partial_network_name network_index predecessors number_of_predecessors >>= _)) = none
    rw [ExceptT.run_bind, fill_predecessors_past_end (Nat.lt_of_succ_lt_succ hlt)
      fun e he => hok e (List.mem_cons_of_mem _ he)]
    rfl

/-- **A mux is read past its predecessors.**  A mux whose own fields parse and
which declares more predecessors than its repeated field holds, each of them
parsing, reads `predecessors(i)` past the end: the behaviour is undefined. -/
theorem fill_mux_info_reads_past_end {name : String} {edge_layer_base : ProtoHEFEdgeLayerBase}
    {mux_data : ProtoHEFMuxData} {predecessors : List ProtoHefEdge} {layer_info : LayerInfo}
    (hbase : fill_layer_info_with_base_info env edge_layer_base edge_connection_type net_group.transposed_net
      hw_padding_supported false context_index network_index = .ok layer_info)
    (hname : name.utf8ByteSize + 1 ≤ env.HAILO_MAX_STREAM_NAME_SIZE)
    (hnetwork : partial_network_name.utf8ByteSize + 1 ≤ env.HAILO_MAX_NETWORK_NAME_SIZE)
    (hcount : predecessors.length < mux_data.number_of_predecessors)
    (hok : ∀ edge ∈ predecessors, ∃ temp_layer, (fill_predecessor env edge_connection_type net_group direction
      hw_padding_supported context_index partial_network_name network_index edge).run = some (.ok temp_layer)) :
    (fill_mux_info env edge_connection_type net_group direction hw_padding_supported context_index
      partial_network_name network_index (.mk name edge_layer_base mux_data predecessors)).run = none := by
  rw [fill_mux_info, ExceptT.run_bind, MayDiverge.run_monadLift, hbase]
  simp only [CHECK_pos hname, CHECK_pos hnetwork, Option.some_bind, pure_bind, ExceptT.run_bind]
  -- the buffer index is read first, past the end too when there is none
  unfold read_buffer_indices
  split <;> simp only [ExceptT.run_pure, ExceptT.run_mk, Option.some_bind, Option.none_bind,
    ExceptT.run_bind, fill_predecessors_past_end hcount hok] <;> rfl

end Predecessors

/-! ### Concrete layers -/

/-- A parser environment in which every proto format is an `NHCW` device
format and every constant is that of a Hailo-8. -/
def nhcw_env : LayerEnv where
  get_device_format_order _ := .ok HAILO_FORMAT_ORDER_NHCW
  HAILO8_INBOUND_DATA_STREAM_SIZE := 4096
  HEF__FORMAT__NMS := 1
  BBOX_PARAMS := 5
  get_format_type _ := .ok 0
  HAILO_MAX_STREAM_NAME_SIZE := 128
  HAILO_MAX_NETWORK_NAME_SIZE := 128
  MAX_DEFUSED_LAYER_COUNT := 9
  HAILO_DEFAULT_NETWORK_NAME_QUALIFIER := "/"

/-- The default edge layer base, with the one buffer index the fillers read. -/
def one_buffer_base : ProtoHEFEdgeLayerBase := { (default : ProtoHEFEdgeLayerBase) with buffer_indices := [default] }

/-- A mux that declares one predecessor and has none, read as a boundary
input of network `0` in context `0`. -/
theorem fill_mux_info_reads_past_end_one_declared :
    ([] : List ProtoHefEdge).length < 1 ∧
      (fill_mux_info nhcw_env .PROTO__EDGE_CONNECTION_TYPE__BOUNDARY ⟨"net_group", false, ["net"], false, [], []⟩
        .HAILO_H2D_STREAM false 0 "net" 0 (.mk "mux" one_buffer_base ⟨1, 1, []⟩ [])).run = none :=
  ⟨by decide, fill_mux_info_reads_past_end rfl (by decide) (by decide) (by decide) (by simp)⟩

/-- A boundary `NHCW` layer of height `1`, width `2` and `2 ^ 31` features of
one byte, whose proto format is `format`. -/
def wide_layer (format : Nat) : ProtoHEFEdgeLayer :=
  ⟨.PROTO__EDGE_LAYER_DIRECTION__HOST_TO_DEVICE, .PROTO__EDGE_LAYER_TYPE__INFO,
    .layer_info ⟨"", ⟨1, 2, 2 ^ 31, 0, 0, 0, 1, 1, 0, format, 0, 0, 0, false, default, [default]⟩, false⟩,
    ⟨PROTO__EDGE_CONNECTION_TYPE__BOUNDARY, 0, 0, [], 0⟩, 0⟩

/-- **HW padding of a wide layer wraps.**  `width * features` is `2 ^ 32`,
which the `uint32_t` products see as `0`: HW padding is enabled, whatever the
stream size limit, and the layer streams `0` bytes per buffer. -/
theorem periph_bytes_per_buffer_wraps {env : LayerEnv} {format : Nat}
    (hfmt : env.get_device_format_order format = .ok HAILO_FORMAT_ORDER_NHCW) :
    (wide_layer format).is_hw_padding_supported env = true ∧
      (wide_layer format).layer_info.edge_layer_base.parse_nn_stream_config env true
        PROTO__EDGE_CONNECTION_TYPE__BOUNDARY = .ok ⟨1, 0, 2, 0, 0, 0⟩ ∧
      (wide_layer format).layer_info.edge_layer_base.width * (wide_layer format).layer_info.edge_layer_base.features *
        (wide_layer format).layer_info.edge_layer_base.data_bytes = 2 ^ 32 := by
  refine ⟨?_, ?_, by norm_num [wide_layer, ProtoHEFEdgeLayer.layer_info]⟩
  · simp only [ProtoHEFEdgeLayer.is_hw_padding_supported, wide_layer, ProtoHEFEdgeLayer.layer_info, hfmt]
    rw [if_neg (by decide), HefConfigurator.is_hw_padding_supported_eq_true]
    norm_num [mul_u32]
    decide
  · simp only [wide_layer, ProtoHEFEdgeLayer.layer_info, ProtoHEFEdgeLayerBase.parse_nn_stream_config, hfmt]
    rfl

/-- The wide layer under the Hailo-8 constants of `nhcw_env`. -/
theorem periph_bytes_per_buffer_wraps_nhcw_env :
    nhcw_env.get_device_format_order 0 = .ok HAILO_FORMAT_ORDER_NHCW ∧
      (wide_layer 0).is_hw_padding_supported nhcw_env = true ∧
      (wide_layer 0).layer_info.edge_layer_base.parse_nn_stream_config nhcw_env true
        PROTO__EDGE_CONNECTION_TYPE__BOUNDARY = .ok ⟨1, 0, 2, 0, 0, 0⟩ ∧
      (wide_layer 0).layer_info.edge_layer_base.width * (wide_layer 0).layer_info.edge_layer_base.features *
        (wide_layer 0).layer_info.edge_layer_base.data_bytes = 2 ^ 32 :=
  ⟨rfl, periph_bytes_per_buffer_wraps rfl⟩

/-- An edge layer with a default base and the given connection type and
network index, connected to context `0` through engine `0`. -/
def network_layer (edge_connection_type : ProtoHEFEdgeConnectionType) (network_index : Nat) : ProtoHEFEdgeLayer :=
  ⟨.PROTO__EDGE_LAYER_DIRECTION__HOST_TO_DEVICE, .PROTO__EDGE_LAYER_TYPE__INFO,
    .layer_info ⟨"", one_buffer_base, false⟩, ⟨edge_connection_type, 0, 0, [0], 0⟩, network_index⟩

/-- A network group of one network. -/
def one_network_group : ProtoHEFNetworkGroupLayers := ⟨"net_group", false, ["net"], false, [], []⟩

/-- **Network `256` is parsed as network `0`.**  In a group of one network
with multi-network support, a boundary, an inter-context and a DDR layer of
proto network index `256`, and an `EnableLcu` action of that index, are all
accepted and recorded as network `0`. -/
theorem network_index_256_parsed_as_0 :
    (∃ layer_info, (get_boundary_layer_info nhcw_env one_network_group 0
        (network_layer PROTO__EDGE_CONNECTION_TYPE__BOUNDARY 256) ⟨true, true⟩).run = some (.ok layer_info) ∧
      layer_info.network_index = 0) ∧
    (∃ layer_info, get_inter_context_layer_info nhcw_env one_network_group 0
        (network_layer PROTO__EDGE_CONNECTION_TYPE__INTERMEDIATE 256) ⟨true, true⟩ = .ok layer_info ∧
      layer_info.network_index = 0) ∧
    (∃ layer_info, get_ddr_layer_info nhcw_env one_network_group 0
        (network_layer PROTO__EDGE_CONNECTION_TYPE__DDR 256) ⟨true, true⟩ = .ok layer_info ∧
      layer_info.network_index = 0) ∧
    EnableLcuAction.create ⟨true, fun network_index => if network_index < one_network_group.networks_names.length
        then .ok 1 else .error .HAILO_INVALID_ARGUMENT, 0, 0, fun _ => (0, 0)⟩ 0 0 0 0 256 =
      .ok (ContextSwitchConfigAction.mk' (.EnableLcuAction 0 0 0 0 true 0)) :=
  ⟨⟨_, rfl, rfl⟩, ⟨_, rfl, rfl⟩, ⟨_, rfl, rfl⟩, rfl⟩

/-- A host-argmax boundary output of height `1`, width `4`, two features of
one byte, and `16` core bytes per buffer. -/
def argmax_layer : ProtoHEFEdgeLayer :=
  ⟨.PROTO__EDGE_LAYER_DIRECTION__DEVICE_TO_HOST, .PROTO__EDGE_LAYER_TYPE__INFO,
    .layer_info ⟨"argmax", ⟨1, 4, 2, 1, 4, 2, 1, 1, 16, 0, 0, 0, 0, true, default, [default]⟩, false⟩,
    ⟨PROTO__EDGE_CONNECTION_TYPE__BOUNDARY, 0, 0, [0], 0⟩, 0⟩

/-- **Host argmax changes the padding decision.**  The parser enables HW
padding on the proto layer (`4 * 2` bytes a buffer, a multiple of `8`), but
the `LayerInfo` it records has one feature, so the `LayerInfo` overload
refuses it (`4 * 1`).  Recomputing the stream config from the `LayerInfo`,
as the stream does, gives `16` periph bytes a buffer and no feature padding
where the firmware's metadata has `8` and `4`. -/
theorem host_argmax_hw_padding_recomputed_differently :
    argmax_layer.is_hw_padding_supported nhcw_env = true ∧
      ∃ layer_info, (get_boundary_layer_info nhcw_env one_network_group 0 argmax_layer ⟨true, false⟩).run =
          some (.ok layer_info) ∧
        layer_info.is_hw_padding_supported nhcw_env = false ∧
        layer_info.nn_stream_config = ⟨1, 16, 4, 8, 0, 0⟩ ∧
        layer_info.parse_nn_stream_config (layer_info.is_hw_padding_supported nhcw_env) = .ok ⟨1, 16, 0, 16, 0, 0⟩ :=
  ⟨rfl, _, rfl, rfl, rfl, rfl⟩

end Hef
end HailoRT
