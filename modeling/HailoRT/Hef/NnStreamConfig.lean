/-
# The stream geometry of an edge layer

`HefConfigurator` (`hef.cpp`, lines 577-711) turns an edge layer's shape into
the `CONTROL_PROTOCOL__nn_stream_config_t` the firmware streams it with.  HW
padding lets the device pad each buffer itself; `is_hw_padding_supported`
enables it only on a boundary, non-mux `NHCW` layer with
`core_buffers_per_frame == height`, `width * features` a multiple of 8 and
fewer than `HAILO8_INBOUND_DATA_STREAM_SIZE` bytes per buffer.  With it,
`get_hw_padding_params` computes

| order             | `feature_padding_payload` | `periph_bytes_per_buffer`       |
| `NHCW`, `NHW`     | `width * hw_data_bytes`   | that times `features`           |
| `NHWC` and others | `features * hw_data_bytes`| that times `width`              |

and checks that both fit a `uint16_t`.  Every product is a `uint32_t`
product (`mul_u32`): the checks see the wrapped values, so a layer whose
`width * features` is a multiple of `2 ^ 32` passes all of them with zero
bytes per buffer (`periph_bytes_per_buffer_wraps`).
-/

import HailoRT.Common

namespace HailoRT
namespace Hef

/-- `hailo_format_order_t`, through the orders the sources name. -/
inductive HailoFormatOrder
  | HAILO_FORMAT_ORDER_AUTO
  | HAILO_FORMAT_ORDER_NHWC
  | HAILO_FORMAT_ORDER_NHCW
  | HAILO_FORMAT_ORDER_FCR
  | HAILO_FORMAT_ORDER_F8CR
  | HAILO_FORMAT_ORDER_NHW
  | HAILO_FORMAT_ORDER_NC
  | HAILO_FORMAT_ORDER_BAYER_RGB
  | HAILO_FORMAT_ORDER_12_BIT_BAYER_RGB
  | HAILO_FORMAT_ORDER_HAILO_NMS
  | HAILO_FORMAT_ORDER_RGB888
  deriving DecidableEq, Repr, Inhabited

open HailoFormatOrder

/-- `ProtoHEFEdgeConnectionType`. -/
inductive ProtoHEFEdgeConnectionType
  | PROTO__EDGE_CONNECTION_TYPE__BOUNDARY
  | PROTO__EDGE_CONNECTION_TYPE__INTERMEDIATE
  | PROTO__EDGE_CONNECTION_TYPE__DDR
  deriving DecidableEq, Repr, Inhabited

/-- `ProtoHEFNmsInfo`, through the fields `parse_proto_nms_info` and the shape
of an NMS layer read. -/
structure ProtoHEFNmsInfo where
  number_of_classes : Nat
  bbox_size : Nat
  max_output_size : Nat
  input_division_factor : Nat
  is_defused : Bool
  class_group_index : Nat
  original_name : String
  deriving DecidableEq, Repr, Inhabited

/-- An entry of `buffer_indices()`, the simulation info a `LayerInfo` copies
as its `buffer_indices`. -/
structure BufferIndices where
  cluster_index : Nat
  index : Nat
  deriving DecidableEq, Repr, Inhabited

/-- `ProtoHEFEdgeLayerBase`, through the fields `hef.cpp` reads.  The proto's
`uint32` fields are naturals; the code's products of them are `mul_u32`. -/
structure ProtoHEFEdgeLayerBase where
  height : Nat
  width : Nat
  features : Nat
  padded_height : Nat
  padded_width : Nat
  padded_features : Nat
  data_bytes : Nat
  core_buffers_per_frame : Nat
  core_bytes_per_buffer : Nat
  format : Nat
  sys_index : Nat
  engine_id : Nat
  max_shmifo_size : Nat
  host_argmax : Bool
  /-- `additional_info().nms_info()`. -/
  nms_info : ProtoHEFNmsInfo
  /-- The repeated field `buffer_indices()`, of any size. -/
  buffer_indices : List BufferIndices
  deriving DecidableEq, Repr, Inhabited

/-- What parsing edge layers asks of the code that is not among the sources. -/
structure LayerEnv where
  /-- `HailoRTDefaults::get_device_format_order`. -/
  get_device_format_order : Nat → Except HailoStatus HailoFormatOrder
  HAILO8_INBOUND_DATA_STREAM_SIZE : Nat
  /-- The proto format value of an NMS layer. -/
  HEF__FORMAT__NMS : Nat
  /-- `HailoRTCommon::BBOX_PARAMS`. -/
  BBOX_PARAMS : Nat
  /-- `HailoRTCommon::get_format_type`, as the format type's code. -/
  get_format_type : Nat → Except HailoStatus Nat
  HAILO_MAX_STREAM_NAME_SIZE : Nat
  HAILO_MAX_NETWORK_NAME_SIZE : Nat
  /-- `HailoRTCommon::MAX_DEFUSED_LAYER_COUNT`. -/
  MAX_DEFUSED_LAYER_COUNT : Nat
  HAILO_DEFAULT_NETWORK_NAME_QUALIFIER : String

/-- `CONTROL_PROTOCOL__nn_stream_config_t`. -/
structure NnStreamConfig where
  core_buffers_per_frame : Nat
  core_bytes_per_buffer : Nat
  feature_padding_payload : Nat
  periph_bytes_per_buffer : Nat
  buffer_padding_payload : Nat
  buffer_padding : Nat
  deriving DecidableEq, Repr, Inhabited

/-! ### The model -/

/-- `get_hw_padding_params`: `(feature_padding_payload, periph_bytes_per_buffer)`. -/
def get_hw_padding_params (format_order : HailoFormatOrder) (width features hw_data_bytes : Nat) :
    Except HailoStatus (Nat × Nat) := do
  let (feature_padding_payload_32bit, periph_bytes_per_buffer_32bit) ←
    match format_order with
    | HAILO_FORMAT_ORDER_NHCW | HAILO_FORMAT_ORDER_NHW =>
      let feature_padding_payload_32bit := mul_u32 width hw_data_bytes
      pure (feature_padding_payload_32bit, mul_u32 feature_padding_payload_32bit features)
    | HAILO_FORMAT_ORDER_NHWC | HAILO_FORMAT_ORDER_FCR | HAILO_FORMAT_ORDER_F8CR | HAILO_FORMAT_ORDER_NC
    | HAILO_FORMAT_ORDER_BAYER_RGB | HAILO_FORMAT_ORDER_12_BIT_BAYER_RGB | HAILO_FORMAT_ORDER_RGB888 =>
      let feature_padding_payload_32bit := mul_u32 features hw_data_bytes
      pure (feature_padding_payload_32bit, mul_u32 feature_padding_payload_32bit width)
    | _ => throw .HAILO_INTERNAL_FAILURE
  CHECK (IS_FIT_IN_UINT16 feature_padding_payload_32bit) .HAILO_INVALID_HEF
  CHECK (IS_FIT_IN_UINT16 periph_bytes_per_buffer_32bit) .HAILO_INVALID_HEF
  return (feature_padding_payload_32bit, periph_bytes_per_buffer_32bit)

/-- `HefConfigurator::parse_nn_stream_config`, the overload on the layer's
geometry. -/
def HefConfigurator.parse_nn_stream_config (format_order : HailoFormatOrder)
    (width features hw_data_bytes core_buffers_per_frame core_bytes_per_buffer : Nat)
    (hw_padding_supported is_ddr : Bool) : Except HailoStatus NnStreamConfig :=
  if is_ddr then
    .ok ⟨1, core_bytes_per_buffer, 0, core_bytes_per_buffer, 0, 0⟩
  else if hw_padding_supported then do
    let (feature_padding_payload, periph_bytes_per_buffer) ←
      get_hw_padding_params format_order width features hw_data_bytes
    return ⟨core_buffers_per_frame, core_bytes_per_buffer, feature_padding_payload, periph_bytes_per_buffer, 0, 0⟩
  else
    .ok ⟨core_buffers_per_frame, core_bytes_per_buffer, 0, core_bytes_per_buffer, 0, 0⟩

/-- `HefConfigurator::parse_nn_stream_config`, the overload on a
`ProtoHEFEdgeLayerBase`. -/
def ProtoHEFEdgeLayerBase.parse_nn_stream_config (env : LayerEnv) (edge_layer : ProtoHEFEdgeLayerBase)
    (hw_padding_supported : Bool) (edge_connection_type : ProtoHEFEdgeConnectionType) :
    Except HailoStatus NnStreamConfig := do
  CHECK (IS_FIT_IN_UINT16 edge_layer.core_bytes_per_buffer) .HAILO_INVALID_HEF
  CHECK (IS_FIT_IN_UINT16 edge_layer.core_buffers_per_frame) .HAILO_INVALID_HEF
  let format_order ← env.get_device_format_order edge_layer.format
  let is_ddr := edge_connection_type == .PROTO__EDGE_CONNECTION_TYPE__DDR
  HefConfigurator.parse_nn_stream_config format_order edge_layer.width edge_layer.features
    edge_layer.data_bytes edge_layer.core_buffers_per_frame edge_layer.core_bytes_per_buffer
    hw_padding_supported is_ddr

/-- `HefConfigurator::is_hw_padding_supported`, the overload on the layer's
geometry.  `HAILO8_INBOUND_DATA_STREAM_SIZE - 1` is the bound the code
compares with. -/
def HefConfigurator.is_hw_padding_supported (env : LayerEnv) (is_boundary is_mux : Bool)
    (format_order : HailoFormatOrder) (core_buffers_per_frame height width features hw_data_bytes : Nat) :
    Bool :=
  if !is_boundary || is_mux then false
  else if format_order ≠ HAILO_FORMAT_ORDER_NHCW then false
  else if core_buffers_per_frame ≠ height then false
  else if mul_u32 width features % 8 ≠ 0 then false
  else if mul_u32 (mul_u32 width features) hw_data_bytes > env.HAILO8_INBOUND_DATA_STREAM_SIZE - 1 then false
  else true

/-! ### When HW padding is enabled -/

theorem HefConfigurator.is_hw_padding_supported_eq_true {env : LayerEnv} {is_boundary is_mux : Bool}
    {format_order : HailoFormatOrder} {core_buffers_per_frame height width features hw_data_bytes : Nat} :
    HefConfigurator.is_hw_padding_supported env is_boundary is_mux format_order core_buffers_per_frame height
        width features hw_data_bytes = true ↔
      is_boundary = true ∧ is_mux = false ∧ format_order = HAILO_FORMAT_ORDER_NHCW ∧
        core_buffers_per_frame = height ∧ mul_u32 width features % 8 = 0 ∧
        mul_u32 (mul_u32 width features) hw_data_bytes ≤ env.HAILO8_INBOUND_DATA_STREAM_SIZE - 1 := by
  unfold HefConfigurator.is_hw_padding_supported
  cases is_boundary <;> cases is_mux <;> simp [ite_eq_iff, not_lt]

end Hef
end HailoRT
