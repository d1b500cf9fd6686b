/-
# Wiring a context's edge layers to vDMA channels

`parse_and_fill_edge_layers_mapping` (`hef.cpp`, lines 1792-1873) gives each
edge layer of a context its vDMA channels and writes the layer into the
context's metadata.  It walks the six kinds of layer outputs first, then
gives back the channels of the layers that live in this context only:

| loop | layers                | `fill_*` (line)                     | channels asked for, at engine index               | given back |
| 1    | DDR outputs           | `fill_ddr_output_layer` (1683)      | H2D at `src_dma_engine_index`, D2H at `dst_context_index` | both |
| 2    | boundary outputs      | `fill_boundary_output_layer` (1629) | D2H at `dma_engine_index`                          | no  |
| 3    | inter-context outputs | `fill_inter_context_output_layer` (1656) | D2H at `dma_engine_index`                     | yes |
| 4    | DDR inputs            | `fill_ddr_input_layer` (1723)       | none: the pair of its output                       | -   |
| 5    | boundary inputs       | `fill_boundary_input_layer` (1579)  | H2D at `dma_engine_index`                          | no  |
| 6    | inter-context inputs  | `fill_inter_context_input_layer` (1606) | H2D at `dma_engine_index`                      | yes |

`ResourcesManager` and its channel allocator are not among the sources.  The
allocator is a set of held leases: `get_available_channel_id` adds the layer's
identifier, `free_channel_index` removes it.  The wiring's state also keeps
every `get_available_channel_id` call with the engine index it passes
(`requests`).  The rest of the resources manager and the
`HEF_METADATA__add_*` writers belong to the environment.

`parse_and_fill_edge_layers_mapping_requests` gives the calls and the leases of
any successful wiring.  From any allocator that holds none of the leases a
context gives back, such as one that earlier contexts' wirings left, a wiring
keeps exactly its boundary layers' leases and gives back all the others
(`parse_and_fill_edge_layers_mapping_keeps_boundary_leases`),
provided the identifiers keep the three kinds of layer apart, as
`LayerIdentifier` does by the layer's type.  `get_ddr_layer_info` sets a DDR layer's
`dst_context_index` to its own context, so the D2H lease of a DDR pair is asked
for at the context's index, not at an engine's
(`parse_and_fill_edge_layers_mapping_engine_hints`).
-/

import HailoRT.Hef.LayerInfo

namespace HailoRT
namespace Hef

/-! ### The resources manager -/

/-- `VdmaChannel::Direction`. -/
inductive VdmaChannelDirection
  | H2D
  | D2H
  deriving DecidableEq, Repr

/-- A call `get_available_channel_id(layer_identifier, direction, engine_index)`. -/
structure ChannelRequest (ι : Type) where
  layer_identifier : ι
  direction : VdmaChannelDirection
  engine_index : Nat
  deriving DecidableEq, Repr

/-- `DdrChannelsInfo`. -/
structure DdrChannelsInfo where
  h2d_stream_index : Nat
  d2h_stream_index : Nat
  h2d_channel_id : ChannelId
  d2h_channel_id : ChannelId
  row_size : Nat
  min_buffered_rows : Nat
  total_buffers_per_frame : Nat
  deriving DecidableEq, Repr

/-- A `HEF_METADATA__add_*_edge_layer` call, with the values `hef.cpp` passes.
A host buffer info is the environment's, and appears by its index. -/
inductive EdgeLayerMetadata
  | network_boundary_input (channel_id : ChannelId) (stream_index network_index : Nat)
      (nn_stream_config : NnStreamConfig) (buffer_info max_shmifo_size : Nat)
  | inter_context_input (channel_id : ChannelId) (stream_index network_index : Nat)
      (nn_stream_config : NnStreamConfig) (host_buffer_info max_shmifo_size : Nat)
  | network_boundary_output (channel_id : ChannelId) (stream_index network_index : Nat)
      (nn_stream_config : NnStreamConfig) (buffer_info : Nat)
  | inter_context_output (channel_id : ChannelId) (stream_index network_index : Nat)
      (nn_stream_config : NnStreamConfig) (host_buffer_info : Nat)
  | ddr_buffer_output (d2h_channel_id : ChannelId) (stream_index network_index : Nat)
      (nn_stream_config : NnStreamConfig) (host_buffer_info min_buffered_rows : Nat)
  | ddr_buffer_input (h2d_channel_id : ChannelId) (h2d_stream_index network_index : Nat)
      (nn_stream_config : NnStreamConfig) (host_buffer_info max_shmifo_size : Nat) (d2h_channel_id : ChannelId)
  deriving DecidableEq, Repr

/-- What wiring a context asks of the code that is not among the sources, over
the context info `σ`, the rest of the resources manager `ρ` and the layer
identifiers `ι`. -/
structure MappingEnv (σ ρ ι : Type) where
  /-- `to_layer_identifier` of a boundary layer. -/
  to_layer_identifier : LayerInfo → ι
  /-- `to_layer_identifier` of an inter-context layer. -/
  to_inter_context_layer_identifier : InterContextLayerInfo → ι
  /-- `to_layer_identifier(layer_info, direction)` of a DDR layer. -/
  to_ddr_layer_identifier : DdrLayerInfo → VdmaChannelDirection → ι
  /-- The channel the allocator leases to a layer, given the leases held. -/
  allocate_channel : ι → VdmaChannelDirection → Nat → List ι → Except HailoStatus ChannelId
  /-- `create_boundary_vdma_channel`, then `get_boundary_buffer_info`. -/
  create_boundary_vdma_channel : ChannelId → Nat → String → String → VdmaChannelDirection → ρ →
    Except HailoStatus (Nat × ρ)
  /-- `create_inter_context_buffer`, then `get_host_buffer_info`. -/
  create_inter_context_buffer : Nat → Nat → Nat → String → ρ → Except HailoStatus (Nat × ρ)
  /-- `get_inter_context_buffer`, then `get_host_buffer_info`. -/
  get_inter_context_buffer : Nat × Nat → ρ → Except HailoStatus Nat
  /-- `create_ddr_channels_pair`, then `get_host_buffer_info`. -/
  create_ddr_channels_pair : DdrChannelsInfo → Nat → ρ → Except HailoStatus (Nat × ρ)
  /-- `get_ddr_channels_pair`: the pair's info and its host buffer info. -/
  get_ddr_channels_pair : Nat → Nat → ρ → Option (DdrChannelsInfo × Nat)
  /-- The `HEF_METADATA__add_*_edge_layer` writers. -/
  add_edge_layer : EdgeLayerMetadata → σ → Except HailoStatus σ

/-- The state the wiring changes: the context info, the resources manager, the
leases it holds and the channel requests made so far. -/
structure MappingState (σ ρ ι : Type) where
  context_info : σ
  resources : ρ
  held : List ι
  requests : List (ChannelRequest ι)

variable {σ ρ ι : Type} [DecidableEq ι]

/-- `ResourcesManager::get_available_channel_id`: a lease for the layer. -/
def get_available_channel_id (env : MappingEnv σ ρ ι) (layer_identifier : ι) (direction : VdmaChannelDirection)
    (engine_index : Nat) (s : MappingState σ ρ ι) : Except HailoStatus (ChannelId × MappingState σ ρ ι) := do
  let channel_id ← env.allocate_channel layer_identifier direction engine_index s.held
  let request : ChannelRequest ι := ⟨layer_identifier, direction, engine_index⟩
  return (channel_id, { s with held := s.held.insert layer_identifier, requests := s.requests ++ [request] })

/-- `ResourcesManager::free_channel_index`: the layer's lease is given back. -/
def free_channel_index (layer_identifier : ι) (s : MappingState σ ρ ι) : MappingState σ ρ ι :=
  { s with held := s.held.erase layer_identifier }

/-! ### The six fills -/

/-- The two boundary fills, which differ in the direction and the metadata
written. -/
def fill_boundary_layer (env : MappingEnv σ ρ ι) (direction : VdmaChannelDirection)
    (metadata : ChannelId → Nat → EdgeLayerMetadata) (layer_info : LayerInfo) (s : MappingState σ ρ ι) :
    Except HailoStatus (MappingState σ ρ ι) := do
  let (channel_id, s) ← get_available_channel_id env (env.to_layer_identifier layer_info) direction
    layer_info.dma_engine_index s
  let frame_credits_in_bytes :=
    layer_info.nn_stream_config.periph_bytes_per_buffer * layer_info.nn_stream_config.core_buffers_per_frame
  let (buffer_info, resources) ← env.create_boundary_vdma_channel channel_id frame_credits_in_bytes
    layer_info.network_name layer_info.name direction s.resources
  let context_info ← env.add_edge_layer (metadata channel_id buffer_info) s.context_info
  return { s with resources, context_info }

/-- `fill_boundary_input_layer`. -/
def fill_boundary_input_layer (env : MappingEnv σ ρ ι) (layer_info : LayerInfo) :
    MappingState σ ρ ι → Except HailoStatus (MappingState σ ρ ι) :=
  fill_boundary_layer env .H2D (fun channel_id buffer_info => .network_boundary_input channel_id
    layer_info.stream_index layer_info.network_index layer_info.nn_stream_config buffer_info
    layer_info.max_shmifo_size) layer_info

/-- `fill_boundary_output_layer`. -/
def fill_boundary_output_layer (env : MappingEnv σ ρ ι) (layer_info : LayerInfo) :
    MappingState σ ρ ι → Except HailoStatus (MappingState σ ρ ι) :=
  fill_boundary_layer env .D2H (fun channel_id buffer_info => .network_boundary_output channel_id
    layer_info.stream_index layer_info.network_index layer_info.nn_stream_config buffer_info) layer_info

/-- `fill_inter_context_input_layer`: the buffer is the one the output of its
source context created. -/
def fill_inter_context_input_layer (env : MappingEnv σ ρ ι) (layer_info : InterContextLayerInfo)
    (s : MappingState σ ρ ι) : Except HailoStatus (MappingState σ ρ ι) := do
  let (channel_id, s) ← get_available_channel_id env (env.to_inter_context_layer_identifier layer_info) .H2D
    layer_info.dma_engine_index s
  let host_buffer_info ← env.get_inter_context_buffer (layer_info.src_context_index, layer_info.src_stream_index)
    s.resources
  let context_info ← env.add_edge_layer (.inter_context_input channel_id layer_info.stream_index
    layer_info.network_index layer_info.nn_stream_config host_buffer_info layer_info.max_shmifo_size) s.context_info
  return { s with context_info }

/-- `fill_inter_context_output_layer`. -/
def fill_inter_context_output_layer (env : MappingEnv σ ρ ι) (layer_info : InterContextLayerInfo)
    (s : MappingState σ ρ ι) : Except HailoStatus (MappingState σ ρ ι) := do
  let (channel_id, s) ← get_available_channel_id env (env.to_inter_context_layer_identifier layer_info) .D2H
    layer_info.dma_engine_index s
  let frame_credits_in_bytes :=
    layer_info.nn_stream_config.periph_bytes_per_buffer * layer_info.nn_stream_config.core_buffers_per_frame
  let (host_buffer_info, resources) ← env.create_inter_context_buffer frame_credits_in_bytes
    layer_info.stream_index layer_info.src_context_index layer_info.network_name s.resources
  let context_info ← env.add_edge_layer (.inter_context_output channel_id layer_info.stream_index
    layer_info.network_index layer_info.nn_stream_config host_buffer_info) s.context_info
  return { s with resources, context_info }

/-- `fill_ddr_output_layer`: both channels of the pair are leased here. -/
def fill_ddr_output_layer (env : MappingEnv σ ρ ι) (supported_features : NetworkGroupSupportedFeatures)
    (layer_info : DdrLayerInfo) (s : MappingState σ ρ ι) : Except HailoStatus (MappingState σ ρ ι) := do
  CHECK (supported_features.padded_ddr_buffers = true) .HAILO_INVALID_HEF
  let (h2d_channel_id, s) ← get_available_channel_id env (env.to_ddr_layer_identifier layer_info .H2D) .H2D
    layer_info.src_dma_engine_index s
  let (d2h_channel_id, s) ← get_available_channel_id env (env.to_ddr_layer_identifier layer_info .D2H) .D2H
    layer_info.dst_context_index s
  let ddr_pair_info : DdrChannelsInfo := ⟨layer_info.dst_stream_index, layer_info.src_stream_index,
    h2d_channel_id, d2h_channel_id, layer_info.nn_stream_config.core_bytes_per_buffer,
    layer_info.min_buffered_rows, layer_info.total_buffers_per_frame⟩
  let (host_buffer_info, resources) ← env.create_ddr_channels_pair ddr_pair_info layer_info.context_index
    s.resources
  let context_info ← env.add_edge_layer (.ddr_buffer_output d2h_channel_id layer_info.stream_index
    layer_info.network_index layer_info.nn_stream_config host_buffer_info layer_info.min_buffered_rows)
    s.context_info
  return { s with resources, context_info }

/-- `fill_ddr_input_layer`: the pair its output created, checked against the
layer's streams. -/
def fill_ddr_input_layer (env : MappingEnv σ ρ ι) (layer_info : DdrLayerInfo) (s : MappingState σ ρ ι) :
    Except HailoStatus (MappingState σ ρ ι) :=
  match env.get_ddr_channels_pair layer_info.context_index layer_info.src_stream_index s.resources with
  | none => .error .HAILO_INVALID_HEF
  | some (ddr_info, host_buffer_info) => do
    CHECK (layer_info.dst_stream_index = ddr_info.h2d_stream_index) .HAILO_INVALID_HEF
    CHECK (layer_info.src_stream_index = ddr_info.d2h_stream_index) .HAILO_INVALID_HEF
    let context_info ← env.add_edge_layer (.ddr_buffer_input ddr_info.h2d_channel_id ddr_info.h2d_stream_index
      layer_info.network_index layer_info.nn_stream_config host_buffer_info layer_info.max_shmifo_size
      ddr_info.d2h_channel_id) s.context_info
    return { s with context_info }

/-! ### The context -/

/-- The layers of a context, as `network_group_metadata` gives them for the
context's index. -/
structure ContextLayers where
  boundary_input_layers : List LayerInfo
  boundary_output_layers : List LayerInfo
  inter_context_input_layers : List InterContextLayerInfo
  inter_context_output_layers : List InterContextLayerInfo
  ddr_input_layers : List DdrLayerInfo
  ddr_output_layers : List DdrLayerInfo

/-- `parse_and_fill_edge_layers_mapping`, for a context of
`number_of_edge_layers` edge layers. -/
def parse_and_fill_edge_layers_mapping (env : MappingEnv σ ρ ι) (supported_features : NetworkGroupSupportedFeatures)
    (number_of_edge_layers : Nat) (layers : ContextLayers) (s : MappingState σ ρ ι) :
    Except HailoStatus (MappingState σ ρ ι) := do
  CHECK (0 < number_of_edge_layers) .HAILO_INVALID_HEF
  CHECK (IS_FIT_IN_UINT8 number_of_edge_layers) .HAILO_INVALID_HEF
  let s ← layers.ddr_output_layers.foldlM (fun s l => fill_ddr_output_layer env supported_features l s) s
  let s ← layers.boundary_output_layers.foldlM (fun s l => fill_boundary_output_layer env l s) s
  let s ← layers.inter_context_output_layers.foldlM (fun s l => fill_inter_context_output_layer env l s) s
  let s ← layers.ddr_input_layers.foldlM (fun s l => fill_ddr_input_layer env l s) s
  let s ← layers.boundary_input_layers.foldlM (fun s l => fill_boundary_input_layer env l s) s
  let s ← layers.inter_context_input_layers.foldlM (fun s l => fill_inter_context_input_layer env l s) s
  let s := layers.inter_context_input_layers.foldl
    (fun s l => free_channel_index (env.to_inter_context_layer_identifier l) s) s
  let s := layers.inter_context_output_layers.foldl
    (fun s l => free_channel_index (env.to_inter_context_layer_identifier l) s) s
  let s := layers.ddr_output_layers.foldl (fun s l =>
    free_channel_index (env.to_ddr_layer_identifier l .D2H) (free_channel_index (env.to_ddr_layer_identifier l .H2D) s)) s
  return s

/-! ### The channel requests -/

/-- The request of a boundary layer's channel. -/
def boundary_requests (env : MappingEnv σ ρ ι) (direction : VdmaChannelDirection) (layer_info : LayerInfo) :
    List (ChannelRequest ι) :=
  [⟨env.to_layer_identifier layer_info, direction, layer_info.dma_engine_index⟩]

/-- The request of an inter-context layer's channel. -/
def inter_context_requests (env : MappingEnv σ ρ ι) (direction : VdmaChannelDirection)
    (layer_info : InterContextLayerInfo) : List (ChannelRequest ι) :=
  [⟨env.to_inter_context_layer_identifier layer_info, direction, layer_info.dma_engine_index⟩]

/-- The requests of a DDR pair's two channels, made by its output layer. -/
def ddr_output_requests (env : MappingEnv σ ρ ι) (layer_info : DdrLayerInfo) : List (ChannelRequest ι) :=
  [⟨env.to_ddr_layer_identifier layer_info .H2D, .H2D, layer_info.src_dma_engine_index⟩,
    ⟨env.to_ddr_layer_identifier layer_info .D2H, .D2H, layer_info.dst_context_index⟩]

/-- The requests of a context's wiring, loop by loop. -/
def mapping_requests (env : MappingEnv σ ρ ι) (layers : ContextLayers) : List (ChannelRequest ι) :=
  layers.ddr_output_layers.flatMap (ddr_output_requests env) ++
    layers.boundary_output_layers.flatMap (boundary_requests env .D2H) ++
    layers.inter_context_output_layers.flatMap (inter_context_requests env .D2H) ++
    layers.boundary_input_layers.flatMap (boundary_requests env .H2D) ++
    layers.inter_context_input_layers.flatMap (inter_context_requests env .H2D)

/-- The leases a context's wiring gives back, loop by loop. -/
def mapping_released (env : MappingEnv σ ρ ι) (layers : ContextLayers) : List ι :=
  layers.inter_context_input_layers.map env.to_inter_context_layer_identifier ++
    layers.inter_context_output_layers.map env.to_inter_context_layer_identifier ++
    layers.ddr_output_layers.flatMap fun layer_info =>
      [env.to_ddr_layer_identifier layer_info .H2D, env.to_ddr_layer_identifier layer_info .D2H]

/-- The leases held after a list of requests is granted. -/
def grant (requests : List (ChannelRequest ι)) (held : List ι) : List ι :=
  requests.foldl (fun held request => held.insert request.layer_identifier) held

theorem grant_append (r₁ r₂ : List (ChannelRequest ι)) (held : List ι) :
    grant (r₁ ++ r₂) held = grant r₂ (grant r₁ held) :=
  List.foldl_append ..

/-- A step that, when it succeeds, makes the requests `R a` and takes their
leases. -/
def MakesRequests {α : Type} (f : α → MappingState σ ρ ι → Except HailoStatus (MappingState σ ρ ι))
    (R : α → List (ChannelRequest ι)) : Prop :=
  ∀ a s s', f a s = .ok s' → s'.requests = s.requests ++ R a ∧ s'.held = grant (R a) s.held

section Requests

variable {env : MappingEnv σ ρ ι}

theorem get_available_channel_id_eq_ok {layer_identifier : ι} {direction : VdmaChannelDirection}
    {engine_index : Nat} {s s' : MappingState σ ρ ι} {channel_id : ChannelId}
    (h : get_available_channel_id env layer_identifier direction engine_index s = .ok (channel_id, s')) :
    s' = { s with
      held := s.held.insert layer_identifier
      requests := s.requests ++ [⟨layer_identifier, direction, engine_index⟩] } := by
  obtain ⟨_, -, h⟩ := Except.bind_eq_ok.1 h
  cases h
  rfl

theorem fill_boundary_layer_requests (direction : VdmaChannelDirection)
    (metadata : LayerInfo → ChannelId → Nat → EdgeLayerMetadata) :
    MakesRequests (fun layer_info => fill_boundary_layer env direction (metadata layer_info) layer_info)
      (boundary_requests env direction) := by
  intro layer_info s s' h
  simp only [fill_boundary_layer] at h
  obtain ⟨⟨_, _⟩, h₁, h⟩ := Except.bind_eq_ok.1 h
  cases get_available_channel_id_eq_ok h₁
  obtain ⟨_, -, h⟩ := Except.bind_eq_ok.1 h
  obtain ⟨_, -, h⟩ := Except.bind_eq_ok.1 h
  cases h
  exact ⟨rfl, rfl⟩

theorem fill_inter_context_input_layer_requests :
    MakesRequests (fill_inter_context_input_layer env) (inter_context_requests env .H2D) := by
  intro layer_info s s' h
  simp only [fill_inter_context_input_layer] at h
  obtain ⟨⟨_, _⟩, h₁, h⟩ := Except.bind_eq_ok.1 h
  cases get_available_channel_id_eq_ok h₁
  obtain ⟨_, -, h⟩ := Except.bind_eq_ok.1 h
  obtain ⟨_, -, h⟩ := Except.bind_eq_ok.1 h
  cases h
  exact ⟨rfl, rfl⟩

theorem fill_inter_context_output_layer_requests :
    MakesRequests (fill_inter_context_output_layer env) (inter_context_requests env .D2H) := by
  intro layer_info s s' h
  simp only [fill_inter_context_output_layer] at h
  obtain ⟨⟨_, _⟩, h₁, h⟩ := Except.bind_eq_ok.1 h
  cases get_available_channel_id_eq_ok h₁
  obtain ⟨_, -, h⟩ := Except.bind_eq_ok.1 h
  obtain ⟨_, -, h⟩ := Except.bind_eq_ok.1 h
  cases h
  exact ⟨rfl, rfl⟩

theorem fill_ddr_output_layer_requests (supported_features : NetworkGroupSupportedFeatures) :
    MakesRequests (fill_ddr_output_layer env supported_features) (ddr_output_requests env) := by
  intro layer_info s s' h
  simp only [fill_ddr_output_layer, CHECK_bind_eq_ok] at h
  obtain ⟨⟨_, _⟩, h₁, h⟩ := Except.bind_eq_ok.1 h.2
  cases get_available_channel_id_eq_ok h₁
  obtain ⟨⟨_, _⟩, h₂, h⟩ := Except.bind_eq_ok.1 h
  cases get_available_channel_id_eq_ok h₂
  obtain ⟨_, -, h⟩ := Except.bind_eq_ok.1 h
  obtain ⟨_, -, h⟩ := Except.bind_eq_ok.1 h
  cases h
  exact ⟨List.append_assoc .., rfl⟩

theorem fill_ddr_input_layer_requests : MakesRequests (fill_ddr_input_layer env) fun _ => [] := by
  intro layer_info s s' h
  unfold fill_ddr_input_layer at h
  split at h
  · cases h
  · simp only [CHECK_bind_eq_ok] at h
    obtain ⟨_, -, h⟩ := Except.bind_eq_ok.1 h.2.2
    cases h
    exact ⟨(List.append_nil _).symm, rfl⟩

/-- A loop of steps makes its steps' requests in order. -/
theorem foldlM_requests {α : Type} {f : α → MappingState σ ρ ι → Except HailoStatus (MappingState σ ρ ι)}
    {R : α → List (ChannelRequest ι)} (hf : MakesRequests f R) :
    ∀ {layers : List α} {s s' : MappingState σ ρ ι}, layers.foldlM (fun s a => f a s) s = .ok s' →
      s'.requests = s.requests ++ layers.flatMap R ∧ s'.held = grant (layers.flatMap R) s.held
  | [], _, _, h => by cases h; simp [grant]
  | a :: _, _, _, h => by
    rw [List.foldlM_cons] at h
    obtain ⟨_, h₁, h⟩ := Except.bind_eq_ok.1 h
    obtain ⟨hr₁, hh₁⟩ := hf a _ _ h₁
    obtain ⟨hr, hh⟩ := foldlM_requests hf h
    rw [List.flatMap_cons, grant_append, hr, hr₁, hh, hh₁, List.append_assoc]
    exact ⟨rfl, rfl⟩

/-- A loop of `free_channel_index` gives back its leases in order. -/
theorem foldl_free_channel_index {α : Type} (g : α → ι) :
    ∀ (layers : List α) (s : MappingState σ ρ ι),
      layers.foldl (fun s a => free_channel_index (g a) s) s =
        { s with held := (layers.map g).foldl List.erase s.held }
  | [], _ => rfl
  | a :: layers, s => by
    rw [List.foldl_cons, foldl_free_channel_index g layers]
    rfl

/-- The loop of the DDR pairs, two leases a layer. -/
theorem foldl_free_channel_index_pair {α : Type} (g₁ g₂ : α → ι) :
    ∀ (layers : List α) (s : MappingState σ ρ ι),
      layers.foldl (fun s a => free_channel_index (g₂ a) (free_channel_index (g₁ a) s)) s =
        { s with held := (layers.flatMap fun a => [g₁ a, g₂ a]).foldl List.erase s.held }
  | [], _ => rfl
  | a :: layers, s => by
    rw [List.foldl_cons, foldl_free_channel_index_pair g₁ g₂ layers]
    rfl

/-- **What a successful wiring asks for.**  `parse_and_fill_edge_layers_mapping`
makes the channel requests of `mapping_requests`, in that order, takes their
leases, and then gives back those of `mapping_released`. -/
theorem parse_and_fill_edge_layers_mapping_requests {supported_features : NetworkGroupSupportedFeatures}
    {number_of_edge_layers : Nat} {layers : ContextLayers} {s s' : MappingState σ ρ ι}
    (h : parse_and_fill_edge_layers_mapping env supported_features number_of_edge_layers layers s = .ok s') :
    s'.requests = s.requests ++ mapping_requests env layers ∧
      s'.held = (mapping_released env layers).foldl List.erase (grant (mapping_requests env layers) s.held) := by
  simp only [parse_and_fill_edge_layers_mapping, CHECK_bind_eq_ok] at h
  obtain ⟨s₁, h₁, h⟩ := Except.bind_eq_ok.1 h.2.2
  obtain ⟨s₂, h₂, h⟩ := Except.bind_eq_ok.1 h
  obtain ⟨s₃, h₃, h⟩ := Except.bind_eq_ok.1 h
  obtain ⟨s₄, h₄, h⟩ := Except.bind_eq_ok.1 h
  obtain ⟨s₅, h₅, h⟩ := Except.bind_eq_ok.1 h
  obtain ⟨s₆, h₆, h⟩ := Except.bind_eq_ok.1 h
  cases h
  obtain ⟨r₁, g₁⟩ := foldlM_requests (fill_ddr_output_layer_requests supported_features) h₁
  obtain ⟨r₂, g₂⟩ := foldlM_requests (fill_boundary_layer_requests .D2H _) h₂
  obtain ⟨r₃, g₃⟩ := foldlM_requests fill_inter_context_output_layer_requests h₃
  obtain ⟨r₄, g₄⟩ := foldlM_requests fill_ddr_input_layer_requests h₄
  obtain ⟨r₅, g₅⟩ := foldlM_requests (fill_boundary_layer_requests .H2D _) h₅
  obtain ⟨r₆, g₆⟩ := foldlM_requests fill_inter_context_input_layer_requests h₆
  have hnil : layers.ddr_input_layers.flatMap (fun _ => ([] : List (ChannelRequest ι))) = [] :=
    List.flatMap_eq_nil_iff.2 fun _ _ => rfl
  rw [hnil, List.append_nil] at r₄
  rw [hnil] at g₄
  rw [foldl_free_channel_index_pair, foldl_free_channel_index, foldl_free_channel_index]
  refine ⟨by simp only [r₆, r₅, r₄, r₃, r₂, r₁, mapping_requests, List.append_assoc], ?_⟩
  simp only [g₆, g₅, g₄, g₃, g₂, g₁, r₄, mapping_released, mapping_requests, grant_append, List.foldl_append]
  rfl

end Requests

/-! ### The DDR pair's engine indices -/

/-- `get_ddr_layer_info` checks that a DDR layer's connected context is its own,
and records it as `dst_context_index` in either direction. -/
theorem get_ddr_layer_info_dst_context_index {layer_env : LayerEnv} {net_group : ProtoHEFNetworkGroupLayers}
    {context_index : Nat} {layer : ProtoHEFEdgeLayer} {supported_features : NetworkGroupSupportedFeatures}
    {layer_info : DdrLayerInfo}
    (h : get_ddr_layer_info layer_env net_group context_index layer supported_features = .ok layer_info) :
    layer_info.dst_context_index = context_index := by
  simp only [get_ddr_layer_info] at h
  iterate 10 obtain ⟨_, -, h⟩ := Except.bind_eq_ok.1 h
  obtain ⟨_, hctx, h⟩ := Except.bind_eq_ok.1 h
  obtain ⟨_, -, h⟩ := Except.bind_eq_ok.1 h
  cases h
  rw [CHECK_eq_ok] at hctx
  split_ifs <;> simp [hctx]

/-- **The engine indices a wiring asks for.**  When the context's DDR outputs
were parsed by `get_ddr_layer_info` at `context_index`, a successful wiring
asks for each boundary and inter-context channel at its layer's
`dma_engine_index`, for a DDR pair's H2D channel at the output's
`src_dma_engine_index`, and for its D2H channel at `context_index`. -/
theorem parse_and_fill_edge_layers_mapping_engine_hints {env : MappingEnv σ ρ ι} {layer_env : LayerEnv}
    {net_group : ProtoHEFNetworkGroupLayers} {context_index : Nat}
    {supported_features : NetworkGroupSupportedFeatures} {number_of_edge_layers : Nat} {layers : ContextLayers}
    {s s' : MappingState σ ρ ι}
    (hddr : ∀ layer_info ∈ layers.ddr_output_layers, ∃ layer,
      get_ddr_layer_info layer_env net_group context_index layer supported_features = .ok layer_info)
    (h : parse_and_fill_edge_layers_mapping env supported_features number_of_edge_layers layers s = .ok s') :
    s'.requests = s.requests ++
      (layers.ddr_output_layers.flatMap fun layer_info =>
        [⟨env.to_ddr_layer_identifier layer_info .H2D, .H2D, layer_info.src_dma_engine_index⟩,
          ⟨env.to_ddr_layer_identifier layer_info .D2H, .D2H, context_index⟩]) ++
      layers.boundary_output_layers.flatMap (boundary_requests env .D2H) ++
      layers.inter_context_output_layers.flatMap (inter_context_requests env .D2H) ++
      layers.boundary_input_layers.flatMap (boundary_requests env .H2D) ++
      layers.inter_context_input_layers.flatMap (inter_context_requests env .H2D) := by
  have hd2h : ∀ layer_info ∈ layers.ddr_output_layers, ddr_output_requests env layer_info =
      [⟨env.to_ddr_layer_identifier layer_info .H2D, .H2D, layer_info.src_dma_engine_index⟩,
        ⟨env.to_ddr_layer_identifier layer_info .D2H, .D2H, context_index⟩] := fun layer_info hl => by
    obtain ⟨_, hparse⟩ := hddr layer_info hl
    simp only [ddr_output_requests, get_ddr_layer_info_dst_context_index hparse]
  rw [(parse_and_fill_edge_layers_mapping_requests h).1, mapping_requests, List.flatMap_congr hd2h]
  simp only [List.append_assoc]

/-- A context-`1` wiring environment: one context info, one resources
manager, layers identified by their stream index (a DDR layer's two channels
by twice it, plus one for D2H), and every call succeeding. -/
def unit_mapping_env : MappingEnv Unit Unit Nat where
  to_layer_identifier layer_info := layer_info.stream_index
  to_inter_context_layer_identifier layer_info := layer_info.stream_index
  to_ddr_layer_identifier layer_info direction :=
    2 * layer_info.stream_index + if direction = .H2D then 0 else 1
  allocate_channel _ _ engine_index _ := .ok ⟨engine_index, 0⟩
  create_boundary_vdma_channel _ _ _ _ _ resources := .ok (0, resources)
  create_inter_context_buffer _ _ _ _ resources := .ok (0, resources)
  get_inter_context_buffer _ _ := .ok 0
  create_ddr_channels_pair _ _ resources := .ok (0, resources)
  get_ddr_channels_pair _ _ _ := none
  add_edge_layer _ context_info := .ok context_info

/-- A DDR output of stream `0` on engine `0`, whose input is stream `0` on
engine `0`, in context `1`. -/
def ddr_output_proto_layer : ProtoHEFEdgeLayer :=
  ⟨.PROTO__EDGE_LAYER_DIRECTION__DEVICE_TO_HOST, .PROTO__EDGE_LAYER_TYPE__INFO, .layer_info default,
    ⟨.PROTO__EDGE_CONNECTION_TYPE__DDR, 0, 1, [0], 0⟩, 0⟩

/-- `ddr_output_proto_layer` as `get_ddr_layer_info` parses it in context `1`. -/
def context_one_ddr_output : DdrLayerInfo :=
  ⟨0, "net_group/net_group", 1, "", ⟨1, 0, 0, 0, 0, 0⟩, 0, 0, 0, .HAILO_D2H_STREAM, 0, 0, 1, 0, 0, 1, 0⟩

/-- The pair of a DDR layer whose two sides are on engine `0`, wired in
context `1`: its D2H channel is asked for at engine index `1`. -/
theorem parse_and_fill_edge_layers_mapping_engine_hints_context_one :
    context_one_ddr_output.src_dma_engine_index = 0 ∧ context_one_ddr_output.dst_dma_engine_index = 0 ∧
      (∀ layer_info ∈ [context_one_ddr_output], ∃ layer,
        get_ddr_layer_info nhcw_env one_network_group 1 layer ⟨true, false⟩ = .ok layer_info) ∧
      parse_and_fill_edge_layers_mapping unit_mapping_env ⟨true, false⟩ 1
          ⟨[], [], [], [], [], [context_one_ddr_output]⟩ ⟨(), (), [], []⟩ =
        .ok ⟨(), (), [], [⟨0, .H2D, 0⟩, ⟨1, .D2H, 1⟩]⟩ ∧
      [⟨0, .H2D, 0⟩, ⟨1, .D2H, 1⟩] = ([] : List (ChannelRequest Nat)) ++
        ([context_one_ddr_output].flatMap fun layer_info =>
          [⟨unit_mapping_env.to_ddr_layer_identifier layer_info .H2D, .H2D, layer_info.src_dma_engine_index⟩,
            ⟨unit_mapping_env.to_ddr_layer_identifier layer_info .D2H, .D2H, 1⟩]) ++
        ([] : List LayerInfo).flatMap (boundary_requests unit_mapping_env .D2H) ++
        ([] : List InterContextLayerInfo).flatMap (inter_context_requests unit_mapping_env .D2H) ++
        ([] : List LayerInfo).flatMap (boundary_requests unit_mapping_env .H2D) ++
        ([] : List InterContextLayerInfo).flatMap (inter_context_requests unit_mapping_env .H2D) :=
  have hddr : ∀ layer_info ∈ [context_one_ddr_output], ∃ layer,
      get_ddr_layer_info nhcw_env one_network_group 1 layer ⟨true, false⟩ = .ok layer_info :=
    fun _ hl => List.mem_singleton.1 hl ▸ ⟨ddr_output_proto_layer, rfl⟩
  have hrun : parse_and_fill_edge_layers_mapping unit_mapping_env ⟨true, false⟩ 1
      ⟨[], [], [], [], [], [context_one_ddr_output]⟩ ⟨(), (), [], []⟩ = .ok ⟨(), (), [], [⟨0, .H2D, 0⟩, ⟨1, .D2H, 1⟩]⟩ :=
    rfl
  ⟨rfl, rfl, hddr, hrun, parse_and_fill_edge_layers_mapping_engine_hints hddr hrun⟩

/-! ### The held leases -/

/-- The leases of a context's boundary layers, which outlive the context. -/
def boundary_leases (env : MappingEnv σ ρ ι) (layers : ContextLayers) : List ι :=
  layers.boundary_output_layers.map env.to_layer_identifier ++ layers.boundary_input_layers.map env.to_layer_identifier

/-- The identifiers keep the kinds of layer apart, as `LayerIdentifier` does by
the layer's type: no boundary layer has the identifier of an inter-context or
a DDR layer. -/
def MappingEnv.identifies_kinds (env : MappingEnv σ ρ ι) : Prop :=
  (∀ layer_info layer_info', env.to_layer_identifier layer_info ≠ env.to_inter_context_layer_identifier layer_info') ∧
    ∀ layer_info layer_info' direction,
      env.to_layer_identifier layer_info ≠ env.to_ddr_layer_identifier layer_info' direction

theorem mem_grant {x : ι} : ∀ {requests : List (ChannelRequest ι)} {held : List ι},
    x ∈ grant requests held ↔ x ∈ held ∨ x ∈ requests.map (·.layer_identifier)
  | [], _ => by simp [grant]
  | request :: requests, held => by
    rw [show grant (request :: requests) held = grant requests (held.insert request.layer_identifier) from rfl,
      mem_grant, List.mem_insert_iff, List.map_cons, List.mem_cons]
    exact or_assoc.trans or_left_comm

/-- Granting adds a lease only when it is not held yet. -/
theorem count_grant_le_one {a : ι} : ∀ {requests : List (ChannelRequest ι)} {held : List ι},
    held.count a ≤ 1 → (grant requests held).count a ≤ 1
  | [], _, h => h
  | request :: requests, held, h => by
    show (grant requests (held.insert request.layer_identifier)).count a ≤ 1
    refine count_grant_le_one ?_
    by_cases hmem : request.layer_identifier ∈ held
    · rwa [List.insert_of_mem hmem]
    · rw [List.insert_of_not_mem hmem, List.count_cons]
      by_cases ha : request.layer_identifier = a
      · subst ha
        rw [List.count_eq_zero.2 hmem]
        simp
      · simpa [ha] using h

/-- Erasing each of `released` from a list that holds each of them at most
once leaves exactly the entries not released. -/
theorem mem_foldl_erase {x : ι} : ∀ {released held : List ι},
    (∀ a ∈ released, held.count a ≤ 1) → (x ∈ released.foldl List.erase held ↔ x ∈ held ∧ x ∉ released)
  | [], _, _ => by simp
  | a :: released, held, h => by
    have hcount : ∀ b ∈ released, (held.erase a).count b ≤ 1 := fun b hb => by
      rw [List.count_erase]
      exact (Nat.sub_le _ _).trans (h b (List.mem_cons_of_mem a hb))
    rw [List.foldl_cons, mem_foldl_erase hcount, List.mem_cons, not_or]
    by_cases hx : x = a
    · subst hx
      have : (held.erase x).count x = 0 := by
        rw [List.count_erase_self]; have := h x (List.mem_cons_self _ _); omega
      simp [List.count_eq_zero.1 this]
    · rw [List.mem_erase_of_ne hx]
      exact ⟨fun ⟨hm, hr⟩ => ⟨hm, hx, hr⟩, fun ⟨hm, _, hr⟩ => ⟨hm, hr⟩⟩

omit [DecidableEq ι] in
/-- A wiring's leases are its boundary leases and those it gives back. -/
theorem mem_mapping_requests {env : MappingEnv σ ρ ι} {layers : ContextLayers} {x : ι} :
    x ∈ (mapping_requests env layers).map (·.layer_identifier) ↔
      x ∈ boundary_leases env layers ∨ x ∈ mapping_released env layers := by
  have hids : (mapping_requests env layers).map (·.layer_identifier) =
      (layers.ddr_output_layers.flatMap fun layer_info =>
        [env.to_ddr_layer_identifier layer_info .H2D, env.to_ddr_layer_identifier layer_info .D2H]) ++
      layers.boundary_output_layers.map env.to_layer_identifier ++
      layers.inter_context_output_layers.map env.to_inter_context_layer_identifier ++
      layers.boundary_input_layers.map env.to_layer_identifier ++
      layers.inter_context_input_layers.map env.to_inter_context_layer_identifier := by
    simp only [mapping_requests, boundary_requests, inter_context_requests, ddr_output_requests, List.map_append,
      List.map_flatMap, List.map_cons, List.map_nil, ← List.map_eq_flatMap]
  rw [hids]
  simp only [boundary_leases, mapping_released, List.mem_append, or_assoc, or_comm, or_left_comm]

omit [DecidableEq ι] in
/-- A boundary layer's lease is never given back. -/
theorem not_mem_mapping_released {env : MappingEnv σ ρ ι} (hkind : env.identifies_kinds) {layers : ContextLayers}
    (layer_info : LayerInfo) : env.to_layer_identifier layer_info ∉ mapping_released env layers := by
  simp only [mapping_released, List.mem_append, List.mem_map, List.mem_flatMap, List.mem_cons, List.not_mem_nil,
    or_false, not_or, not_exists, not_and]
  exact ⟨⟨fun _ _ h => hkind.1 _ _ h.symm, fun _ _ h => hkind.1 _ _ h.symm⟩,
    fun _ _ => ⟨hkind.2 _ _ _, hkind.2 _ _ _⟩⟩

omit [DecidableEq ι] in
theorem exists_of_mem_boundary_leases {env : MappingEnv σ ρ ι} {layers : ContextLayers} {x : ι}
    (hx : x ∈ boundary_leases env layers) : ∃ layer_info, x = env.to_layer_identifier layer_info := by
  simp only [boundary_leases, List.mem_append, List.mem_map] at hx
  rcases hx with ⟨layer_info, -, rfl⟩ | ⟨layer_info, -, rfl⟩ <;> exact ⟨layer_info, rfl⟩

section Held

variable {env : MappingEnv σ ρ ι} {supported_features : NetworkGroupSupportedFeatures}
  {number_of_edge_layers : Nat} {layers : ContextLayers} {s s' : MappingState σ ρ ι}

/-- **The leases a wiring leaves.**  From any allocator that holds none of the
leases this context gives back, a successful wiring of the context holds
afterwards exactly the leases held before and its boundary layers' leases: the
leases of its inter-context layers and of its DDR pairs are given back, and no
boundary lease is. -/
theorem parse_and_fill_edge_layers_mapping_keeps_boundary_leases (hkind : env.identifies_kinds)
    (hdisjoint : ∀ x ∈ s.held, x ∉ mapping_released env layers)
    (h : parse_and_fill_edge_layers_mapping env supported_features number_of_edge_layers layers s = .ok s') :
    (∀ x, x ∈ s'.held ↔ x ∈ s.held ∨ x ∈ boundary_leases env layers) ∧
      ∀ x ∈ mapping_released env layers, x ∉ s'.held := by
  rw [(parse_and_fill_edge_layers_mapping_requests h).2]
  -- a lease given back is granted at most once, not being held before
  have hcount : ∀ a ∈ mapping_released env layers, (grant (mapping_requests env layers) s.held).count a ≤ 1 :=
    fun a ha => count_grant_le_one ((List.count_eq_zero.2 fun hmem => hdisjoint a hmem ha).trans_le (Nat.zero_le 1))
  -- what this context keeps is never given back
  have hkept : ∀ x, x ∈ s.held ∨ x ∈ boundary_leases env layers → x ∉ mapping_released env layers := by
    rintro x (hx | hx)
    · exact hdisjoint x hx
    · obtain ⟨layer_info, rfl⟩ := exists_of_mem_boundary_leases hx
      exact not_mem_mapping_released hkind layer_info
  refine ⟨fun x => ?_, fun x hx h => ((mem_foldl_erase hcount).1 h).2 hx⟩
  rw [mem_foldl_erase hcount, mem_grant, mem_mapping_requests, ← or_assoc]
  exact ⟨fun ⟨hx, hn⟩ => hx.resolve_right hn, fun hx => ⟨.inl hx, hkept x hx⟩⟩

end Held

/-- A wiring environment whose identifiers are the layer's kind (`0` boundary,
`1` inter-context, `2` DDR) and a number in it, and whose calls all succeed. -/
def kind_mapping_env : MappingEnv Unit Unit (Nat × Nat) where
  to_layer_identifier layer_info := (0, layer_info.stream_index)
  to_inter_context_layer_identifier layer_info := (1, layer_info.stream_index)
  to_ddr_layer_identifier layer_info direction :=
    (2, 2 * layer_info.stream_index + if direction = .H2D then 0 else 1)
  allocate_channel _ _ engine_index held := .ok ⟨engine_index, held.length⟩
  create_boundary_vdma_channel _ _ _ _ _ resources := .ok (0, resources)
  create_inter_context_buffer _ _ _ _ resources := .ok (0, resources)
  get_inter_context_buffer _ _ := .ok 0
  create_ddr_channels_pair _ _ resources := .ok (0, resources)
  get_ddr_channels_pair _ _ _ := none
  add_edge_layer _ context_info := .ok context_info

/-- A context of a boundary input of stream `0` and an inter-context output of
stream `1`. -/
def one_boundary_one_inter_context : ContextLayers :=
  ⟨[default], [], [], [⟨0, "", 0, "", default, 1, 0, 0, .HAILO_D2H_STREAM, 0, 0, 0, 0⟩], [], []⟩

/-- Wiring that context after one that left the boundary lease of stream `7`:
the new boundary lease joins it, the inter-context one is given back. -/
theorem parse_and_fill_edge_layers_mapping_keeps_boundary_leases_second_context :
    kind_mapping_env.identifies_kinds ∧
      (∀ x ∈ [(0, 7)], x ∉ mapping_released kind_mapping_env one_boundary_one_inter_context) ∧
      parse_and_fill_edge_layers_mapping kind_mapping_env ⟨false, false⟩ 2 one_boundary_one_inter_context
          ⟨(), (), [(0, 7)], []⟩ = .ok ⟨(), (), [(0, 0), (0, 7)], [⟨(1, 1), .D2H, 0⟩, ⟨(0, 0), .H2D, 0⟩]⟩ ∧
      (∀ x, x ∈ [(0, 0), (0, 7)] ↔ x ∈ [(0, 7)] ∨
        x ∈ boundary_leases kind_mapping_env one_boundary_one_inter_context) ∧
      ∀ x ∈ mapping_released kind_mapping_env one_boundary_one_inter_context, x ∉ [(0, 0), (0, 7)] :=
  have hkind : kind_mapping_env.identifies_kinds :=
    ⟨fun _ _ h => by simp [kind_mapping_env] at h, fun _ _ _ h => by simp [kind_mapping_env] at h⟩
  have hdisjoint : ∀ x ∈ [(0, 7)], x ∉ mapping_released kind_mapping_env one_boundary_one_inter_context := by
    decide
  have hrun : parse_and_fill_edge_layers_mapping kind_mapping_env ⟨false, false⟩ 2 one_boundary_one_inter_context
      ⟨(), (), [(0, 7)], []⟩ = .ok ⟨(), (), [(0, 0), (0, 7)], [⟨(1, 1), .D2H, 0⟩, ⟨(0, 0), .H2D, 0⟩]⟩ := rfl
  ⟨hkind, hdisjoint, hrun, parse_and_fill_edge_layers_mapping_keeps_boundary_leases hkind hdisjoint hrun⟩

end Hef
end HailoRT
