/-
# The edge layer an action's stream index names

`AllowInputDataflowAction`, `WaitOutputTransferDoneAction` and
`WaitDmaIdleAction` carry a stream index, and their `serialize_params`
(`context_switch_actions.cpp`, lines 572-605, 763-790 and 1204-1238) look it up
among the context's edge layers: the first boundary layer of that
`layer_info.stream_index`, else the first inter-context one.  A layer's
direction is in its `layer_info` too, but no lookup reads it:

| action                         | waits on | packs the layer found's                    |
| `AllowInputDataflowAction`     | H2D      | channel, network index, credit type       |
| `WaitOutputTransferDoneAction` | D2H      | channel                                   |
| `WaitDmaIdleAction`            | D2H      | channel, whether it is inter-context      |

So the lookup is `find?` on the stream index over all the layers
(`find_edge_layer_eq`).  It finds the right layer when stream indices alone
identify the layers (`find_edge_layer_of_stream_keyed`), and the first layer
of the stream in either direction otherwise: with an input and an output of
one stream, which `SupportedFeatures::dual_direction_stream_index` provides
for, the wait actions can pack the input's channel and the dataflow action
the output's (`lookups_ignore_direction`).
-/

import HailoRT.ContextSwitch.Actions
import HailoRT.Hef.LayerInfo

namespace HailoRT
namespace ContextSwitch

open Hef (HailoStreamDirection)
open ContextSwitchConfigAction

/-! ### Layers with their directions -/

/-- An edge layer with the direction of its `layer_info`. -/
structure DirectedEdgeLayer where
  edge_layer : EdgeLayer
  direction : HailoStreamDirection
  deriving DecidableEq, Repr

/-- `ContextResources` with the directions of its layers. -/
structure DirectedContextResources where
  boundary_layers : List DirectedEdgeLayer
  inter_context_layers : List DirectedEdgeLayer
  deriving DecidableEq, Repr

namespace DirectedContextResources

/-- The `ContextResources` the lookups see. -/
def context_resources (r : DirectedContextResources) : ContextResources :=
  ⟨r.boundary_layers.map (·.edge_layer), r.inter_context_layers.map (·.edge_layer)⟩

/-- Every layer of the context with its kind, in the order the lookups walk them. -/
def layers (r : DirectedContextResources) : List (DirectedEdgeLayer × LayerType) :=
  r.boundary_layers.map (·, .BOUNDARY) ++ r.inter_context_layers.map (·, .INTER_CONTEXT)

/-- No two layers share a stream index and a direction. -/
def keyed_by_stream_and_direction (r : DirectedContextResources) : Prop :=
  (r.layers.map fun l => (l.1.edge_layer.stream_index, l.1.direction)).Nodup

/-- No two layers share a stream index. -/
def keyed_by_stream (r : DirectedContextResources) : Prop :=
  (r.layers.map (·.1.edge_layer.stream_index)).Nodup

instance (r : DirectedContextResources) : Decidable r.keyed_by_stream_and_direction :=
  inferInstanceAs (Decidable (List.Nodup _))

end DirectedContextResources

/-! ### The lookup -/

/-- A layer found, as the lookups return it. -/
def found_layer (l : DirectedEdgeLayer × LayerType) : EdgeLayer × LayerType := (l.1.edge_layer, l.2)

/-- **The lookup is blind to direction.**  `find_edge_layer` returns the first
layer of the stream, boundary layers first, whatever its direction. -/
theorem find_edge_layer_eq (r : DirectedContextResources) (stream_index : Nat) :
    find_edge_layer r.context_resources stream_index =
      (r.layers.find? (·.1.edge_layer.stream_index == stream_index)).map found_layer := by
  simp only [find_edge_layer, DirectedContextResources.context_resources,
    DirectedContextResources.layers, List.find?_append, List.find?_map]
  cases h : r.boundary_layers.find? (·.edge_layer.stream_index == stream_index) <;>
    simp [h, Option.map_map, found_layer, Function.comp_def]

/-- When stream indices alone identify the layers, the lookup of a layer's
stream finds that layer. -/
theorem find_edge_layer_of_stream_keyed {r : DirectedContextResources} (hkey : r.keyed_by_stream)
    {l : DirectedEdgeLayer × LayerType} (hl : l ∈ r.layers) :
    find_edge_layer r.context_resources l.1.edge_layer.stream_index = some (found_layer l) := by
  rw [find_edge_layer_eq]
  obtain ⟨l', hfind⟩ := Option.isSome_iff_exists.1
    (List.find?_isSome.2 ⟨l, hl, beq_self_eq_true _⟩ :
      (r.layers.find? (·.1.edge_layer.stream_index == l.1.edge_layer.stream_index)).isSome)
  have hs : l'.1.edge_layer.stream_index = l.1.edge_layer.stream_index := by
    simpa using List.find?_some hfind
  rw [hfind, List.inj_on_of_nodup_map hkey (List.mem_of_find?_eq_some hfind) hl hs]
  rfl

/-- The three actions at a context whose stream indices identify its layers:
each packs the layer of its stream. -/
theorem serialize_params_of_stream_keyed {r : DirectedContextResources} (hkey : r.keyed_by_stream)
    {l : DirectedEdgeLayer × LayerType} (hl : l ∈ r.layers) :
    serialize_params (AllowInputDataflowAction l.1.edge_layer.stream_index) r.context_resources =
        .ok (fetch_data_params l.1.edge_layer.stream_index (found_layer l)) ∧
      serialize_params (WaitOutputTransferDoneAction l.1.edge_layer.stream_index) r.context_resources =
        .ok (.vdma_dataflow_interrupt_data l.1.edge_layer.channel_id) ∧
      serialize_params (WaitDmaIdleAction l.1.edge_layer.stream_index) r.context_resources =
        .ok (.wait_dma_idle_data l.1.edge_layer.channel_id (l.2 == .INTER_CONTEXT) l.1.edge_layer.stream_index) := by
  simp only [serialize_params, get_layer_channel_id, get_layer_channel_id_and_type,
    find_edge_layer_of_stream_keyed hkey hl]
  exact ⟨trivial, rfl, rfl⟩

/-! ### One stream in both directions -/

/-- A boundary input of stream `0`, on channel `0` of engine `0`. -/
def stream_zero_input : DirectedEdgeLayer :=
  ⟨⟨0, 0, 1, 1, ⟨0, 0⟩, 0, 1, 1⟩, .HAILO_H2D_STREAM⟩

theorem serialize_params_of_stream_keyed_one_input :
    (⟨[stream_zero_input], []⟩ : DirectedContextResources).keyed_by_stream ∧
      (stream_zero_input, LayerType.BOUNDARY) ∈ (⟨[stream_zero_input], []⟩ : DirectedContextResources).layers ∧
      serialize_params (AllowInputDataflowAction 0)
          (⟨[stream_zero_input], []⟩ : DirectedContextResources).context_resources =
        .ok (fetch_data_params 0 (stream_zero_input.edge_layer, .BOUNDARY)) ∧
      serialize_params (WaitOutputTransferDoneAction 0)
          (⟨[stream_zero_input], []⟩ : DirectedContextResources).context_resources =
        .ok (.vdma_dataflow_interrupt_data stream_zero_input.edge_layer.channel_id) ∧
      serialize_params (WaitDmaIdleAction 0)
          (⟨[stream_zero_input], []⟩ : DirectedContextResources).context_resources =
        .ok (.wait_dma_idle_data stream_zero_input.edge_layer.channel_id false 0) :=
  have hkey : (⟨[stream_zero_input], []⟩ : DirectedContextResources).keyed_by_stream := List.nodup_singleton _
  have hl : (stream_zero_input, LayerType.BOUNDARY) ∈ (⟨[stream_zero_input], []⟩ : DirectedContextResources).layers := by
    simp [DirectedContextResources.layers]
  ⟨hkey, hl, serialize_params_of_stream_keyed hkey hl⟩

/-- A boundary output of stream `0`, on channel `1` of engine `0`. -/
def stream_zero_output : DirectedEdgeLayer :=
  ⟨⟨0, 0, 1, 1, ⟨0, 1⟩, 0, 1, 1⟩, .HAILO_D2H_STREAM⟩

/-- With an input and an output of stream `0` among the boundary layers, each
layer the only one of its stream and direction: the input listed first, both
wait actions pack the input's channel; the output listed first, the dataflow
action packs the output's. -/
theorem lookups_ignore_direction :
    (⟨[stream_zero_input, stream_zero_output], []⟩ : DirectedContextResources).keyed_by_stream_and_direction ∧
      (⟨[stream_zero_output, stream_zero_input], []⟩ : DirectedContextResources).keyed_by_stream_and_direction ∧
      serialize_params (WaitOutputTransferDoneAction 0)
          (⟨[stream_zero_input, stream_zero_output], []⟩ : DirectedContextResources).context_resources =
        .ok (.vdma_dataflow_interrupt_data stream_zero_input.edge_layer.channel_id) ∧
      serialize_params (WaitDmaIdleAction 0)
          (⟨[stream_zero_input, stream_zero_output], []⟩ : DirectedContextResources).context_resources =
        .ok (.wait_dma_idle_data stream_zero_input.edge_layer.channel_id false 0) ∧
      serialize_params (AllowInputDataflowAction 0)
          (⟨[stream_zero_output, stream_zero_input], []⟩ : DirectedContextResources).context_resources =
        .ok (fetch_data_params 0 (stream_zero_output.edge_layer, .BOUNDARY)) := by
  decide

end ContextSwitch
end HailoRT
