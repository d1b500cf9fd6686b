/-
# Every context's layers, and the counter that wraps

`HefUtils::get_all_layers_info` (`hef.cpp`, lines 1316-1365) is the first thing
`Hef::Impl::create_metadata_per_arch` does with a network group when the HEF is
loaded.  It walks the contexts and sorts each context's edge layers by
connection type into the six vectors `parse_and_fill_edge_layers_mapping`
later reads, one `ContextLayers` per context.  Boundary layer names must be
unique across all contexts (`fill_boundary_layers_info`, lines 1211-1239), and
each context's DDR layers must pair up (`check_ddr_pairs_match`).  The loop is

    for (uint8_t context_index = 0; context_index < network_group_proto.contexts_size(); context_index++)

so its counter runs through `0 .. 255` and wraps back to `0`:

| `contexts_size()` | the loop                                                          |
| below 256         | the walk `contexts_layers_info`: each context once, at its index  |
| 256 or more       | never returns the vectors: it fails, or it loops forever           |

Below 256 contexts, enough fuel makes the loop the fuel-free walk
(`get_all_layers_info_eq`).  From 256 on the counter never reaches the bound
(`get_all_layers_info_loop_ne_ok`).  The second visit to a context with a
boundary layer fails on the name the first visit recorded, and when the first
256 contexts have no edge layers no visit fails and every fuel runs out
(`get_all_layers_info_loop_diverges`).  `create_resources_manager` checks
`MAX_CONTEXTS_COUNT` only later, when the network group is configured.
-/

import HailoRT.Hef.DdrPairs
import HailoRT.Hef.EdgeLayerMapping

namespace HailoRT
namespace Hef

open ProtoHEFEdgeConnectionType

/-! ### The model -/

/-- The six vectors of a context before its first edge layer. -/
def ContextLayers.empty : ContextLayers := ⟨[], [], [], [], [], []⟩

/-- `HefUtils::fill_boundary_layers_info`.  `layer_name` holds the names of
the boundary layers of every context so far; the two vectors it fills are
fields of `context`. -/
def fill_boundary_layers_info (env : LayerEnv) (net_group : ProtoHEFNetworkGroupLayers) (context_index : Nat)
    (layer : ProtoHEFEdgeLayer) (supported_features : NetworkGroupSupportedFeatures) (layer_name : List String)
    (context : ContextLayers) : MayFault (List String × ContextLayers) := do
  let layer_info ← get_boundary_layer_info env net_group context_index layer supported_features
  (layer_name.forM fun parsed_layer_name =>
    CHECK (parsed_layer_name ≠ layer_info.name) .HAILO_INVALID_HEF : Except HailoStatus Unit)
  let layer_name := layer_name ++ [layer_info.name]
  if layer_info.direction = .HAILO_H2D_STREAM then
    return (layer_name, { context with boundary_input_layers := context.boundary_input_layers ++ [layer_info] })
  else
    return (layer_name, { context with boundary_output_layers := context.boundary_output_layers ++ [layer_info] })

/-- `HefUtils::fill_inter_context_layers_info`. -/
def fill_inter_context_layers_info (env : LayerEnv) (net_group : ProtoHEFNetworkGroupLayers) (context_index : Nat)
    (layer : ProtoHEFEdgeLayer) (supported_features : NetworkGroupSupportedFeatures) (context : ContextLayers) :
    Except HailoStatus ContextLayers := do
  let layer_info ← get_inter_context_layer_info env net_group context_index layer supported_features
  if layer_info.direction = .HAILO_H2D_STREAM then
    return { context with inter_context_input_layers := context.inter_context_input_layers ++ [layer_info] }
  else
    return { context with inter_context_output_layers := context.inter_context_output_layers ++ [layer_info] }

/-- `HefUtils::fill_ddr_layers_info`. -/
def fill_ddr_layers_info (env : LayerEnv) (net_group : ProtoHEFNetworkGroupLayers) (context_index : Nat)
    (layer : ProtoHEFEdgeLayer) (supported_features : NetworkGroupSupportedFeatures) (context : ContextLayers) :
    Except HailoStatus ContextLayers := do
  let layer_info ← get_ddr_layer_info env net_group context_index layer supported_features
  if layer_info.direction = .HAILO_H2D_STREAM then
    return { context with ddr_input_layers := context.ddr_input_layers ++ [layer_info] }
  else
    return { context with ddr_output_layers := context.ddr_output_layers ++ [layer_info] }

/-- One iteration of the loop over a context's edge layers: the layer goes to
the filler of its connection type. -/
def fill_edge_layer_info (env : LayerEnv) (net_group : ProtoHEFNetworkGroupLayers) (context_index : Nat)
    (supported_features : NetworkGroupSupportedFeatures) :
    List String × ContextLayers → ProtoHEFEdgeLayer → MayFault (List String × ContextLayers)
  | (boundary_layers_name, context), layer =>
    if layer.context_switch_info.edge_connection_type = PROTO__EDGE_CONNECTION_TYPE__BOUNDARY then
      fill_boundary_layers_info env net_group context_index layer supported_features boundary_layers_name context
    else if layer.context_switch_info.edge_connection_type = PROTO__EDGE_CONNECTION_TYPE__INTERMEDIATE then do
      let context ← fill_inter_context_layers_info env net_group context_index layer supported_features context
      return (boundary_layers_name, context)
    else if layer.context_switch_info.edge_connection_type = PROTO__EDGE_CONNECTION_TYPE__DDR then do
      let context ← fill_ddr_layers_info env net_group context_index layer supported_features context
      return (boundary_layers_name, context)
    else
      return (boundary_layers_name, context)

/-- The body of the loop of `get_all_layers_info` at one context: its edge
layers in order, then `check_ddr_pairs_match`. -/
def context_layers_info (env : LayerEnv) (net_group : ProtoHEFNetworkGroupLayers)
    (supported_features : NetworkGroupSupportedFeatures) (context_index : Nat) (edge_layers : List ProtoHEFEdgeLayer)
    (boundary_layers_name : List String) : MayFault (List String × ContextLayers) := do
  let (boundary_layers_name, context) ←
    edge_layers.foldlM (fill_edge_layer_info env net_group context_index supported_features)
      (boundary_layers_name, .empty)
  check_ddr_pairs_match context.ddr_input_layers context.ddr_output_layers context_index
  return (boundary_layers_name, context)

/-- The loop of `HefUtils::get_all_layers_info` at counter `context_index`,
for at most `fuel` more iterations.  The six vectors of the code are the six
fields of the `ContextLayers` of each context. -/
def get_all_layers_info_loop (env : LayerEnv) (net_group : ProtoHEFNetworkGroupLayers)
    (supported_features : NetworkGroupSupportedFeatures) :
    (fuel context_index : Nat) → List String → List ContextLayers → MayDiverge (List ContextLayers)
  | 0, _, _, _ => ExceptT.mk none
  | fuel + 1, context_index, boundary_layers_name, result =>
    if context_index < net_group.contexts.length then do
      let (boundary_layers_name, context) ← context_layers_info env net_group supported_features context_index
        (net_group.contexts.getD context_index []) boundary_layers_name
      get_all_layers_info_loop env net_group supported_features fuel ((context_index + 1) % 256)
        boundary_layers_name (result ++ [context])
    else pure result

/-- `HefUtils::get_all_layers_info`, run for at most `fuel` iterations: the
code returns what some fuel returns, and loops forever where every fuel gives
`none` and no layer read is undefined. -/
def get_all_layers_info (env : LayerEnv) (net_group : ProtoHEFNetworkGroupLayers)
    (supported_features : NetworkGroupSupportedFeatures) (fuel : Nat) : MayDiverge (List ContextLayers) :=
  get_all_layers_info_loop env net_group supported_features fuel 0 [] []

/-- The contexts from `context_index` on, each parsed once at its own index,
the boundary names threaded through: what the loop computes when its counter
does not wrap. -/
def contexts_layers_info (env : LayerEnv) (net_group : ProtoHEFNetworkGroupLayers)
    (supported_features : NetworkGroupSupportedFeatures) :
    List (List ProtoHEFEdgeLayer) → Nat → List String → MayFault (List ContextLayers)
  | [], _, _ => pure []
  | edge_layers :: contexts, context_index, boundary_layers_name => do
    let (boundary_layers_name, context) ←
      context_layers_info env net_group supported_features context_index edge_layers boundary_layers_name
    let rest ← contexts_layers_info env net_group supported_features contexts (context_index + 1)
      boundary_layers_name
    return context :: rest

section Loop

variable {env : LayerEnv} {net_group : ProtoHEFNetworkGroupLayers}
  {supported_features : NetworkGroupSupportedFeatures}

/-! ### Below 256 contexts -/

/-- Every context the walk returns is one of the contexts it was given. -/
theorem contexts_layers_info_length :
    ∀ {contexts : List (List ProtoHEFEdgeLayer)} {context_index : Nat} {boundary_layers_name : List String}
      {result : List ContextLayers},
      (contexts_layers_info env net_group supported_features contexts context_index boundary_layers_name).run =
        some (.ok result) → result.length = contexts.length
  | [], _, _, _, h => by cases h; rfl
  | _ :: _, _, _, _, h => by
    obtain ⟨⟨_, _⟩, -, h⟩ := MayDiverge.run_bind_eq_ok.1 h
    obtain ⟨rest, hrest, h⟩ := MayDiverge.run_bind_eq_ok.1 h
    cases h
    exact congrArg (· + 1) (contexts_layers_info_length hrest)

/-- With fewer than 256 contexts and more fuel than contexts left, the loop
is the walk over the contexts left. -/
theorem get_all_layers_info_loop_eq (hlen : net_group.contexts.length < 256) :
    ∀ {fuel context_index : Nat} {boundary_layers_name : List String} {result : List ContextLayers},
      context_index ≤ net_group.contexts.length → net_group.contexts.length < context_index + fuel →
      get_all_layers_info_loop env net_group supported_features fuel context_index boundary_layers_name result =
        (result ++ ·) <$> contexts_layers_info env net_group supported_features
          (net_group.contexts.drop context_index) context_index boundary_layers_name
  | 0, _, _, _, hi, hfuel => absurd hfuel (by omega)
  | fuel + 1, context_index, boundary_layers_name, result, hi, hfuel => by
    rw [get_all_layers_info_loop]
    split_ifs with hlt
    · rw [List.drop_eq_getElem_cons hlt, contexts_layers_info, List.getD_eq_getElem _ _ hlt,
        Nat.mod_eq_of_lt (by omega), map_bind]
      refine congrArg _ (funext fun ⟨_, context⟩ => ?_)
      dsimp only
      rw [get_all_layers_info_loop_eq hlen (by omega) (by omega), map_bind]
      simp
    · rw [List.drop_eq_nil_of_le (by omega), contexts_layers_info]
      simp

/-- **Below 256 contexts the loop is the walk.**  Given more fuel than
contexts, `get_all_layers_info` parses each context once, at its own index,
in order; what it returns has one `ContextLayers` per context. -/
theorem get_all_layers_info_eq (hlen : net_group.contexts.length < 256) {fuel : Nat}
    (hfuel : net_group.contexts.length < fuel) :
    get_all_layers_info env net_group supported_features fuel =
      contexts_layers_info env net_group supported_features net_group.contexts 0 [] := by
  rw [get_all_layers_info, get_all_layers_info_loop_eq hlen (Nat.zero_le _) (by omega), List.drop_zero]
  simp

/-- A network group of one context without edge layers. -/
def one_empty_context_group : ProtoHEFNetworkGroupLayers := ⟨"net_group", false, ["net"], false, [], [[]]⟩

theorem get_all_layers_info_eq_one_context :
    one_empty_context_group.contexts.length < 256 ∧ one_empty_context_group.contexts.length < 2 ∧
      get_all_layers_info nhcw_env one_empty_context_group ⟨false, false⟩ 2 =
        contexts_layers_info nhcw_env one_empty_context_group ⟨false, false⟩ one_empty_context_group.contexts 0 [] :=
  ⟨by decide, by decide, get_all_layers_info_eq (by decide) (by decide)⟩

/-! ### From 256 contexts on -/

/-- A context without edge layers adds six empty vectors and no name. -/
theorem context_layers_info_nil (context_index : Nat) (boundary_layers_name : List String) :
    context_layers_info env net_group supported_features context_index [] boundary_layers_name =
      pure (boundary_layers_name, .empty) := rfl

/-- From 256 contexts on, the counter is always below the bound, so the loop
never takes its exit. -/
theorem get_all_layers_info_loop_ne_ok (hlen : 256 ≤ net_group.contexts.length) :
    ∀ {fuel context_index : Nat} {boundary_layers_name : List String} {result done : List ContextLayers},
      context_index < 256 →
      (get_all_layers_info_loop env net_group supported_features fuel context_index boundary_layers_name
        result).run ≠ some (.ok done)
  | 0, _, _, _, _, _ => nofun
  | fuel + 1, context_index, _, _, _, hi => by
    rw [get_all_layers_info_loop, if_pos (by omega)]
    intro h
    obtain ⟨⟨_, _⟩, -, h⟩ := MayDiverge.run_bind_eq_ok.1 h
    exact get_all_layers_info_loop_ne_ok hlen (Nat.mod_lt _ (by norm_num)) h

/-- When the first 256 contexts have no edge layers, every iteration
succeeds and the counter comes back to where it was: every fuel runs out. -/
theorem get_all_layers_info_loop_diverges (hlen : 256 ≤ net_group.contexts.length)
    (hempty : ∀ k < 256, net_group.contexts.getD k [] = []) :
    ∀ {fuel context_index : Nat} {boundary_layers_name : List String} {result : List ContextLayers},
      context_index < 256 →
      (get_all_layers_info_loop env net_group supported_features fuel context_index boundary_layers_name
        result).run = none
  | 0, _, _, _, _ => rfl
  | fuel + 1, context_index, _, _, hi => by
    rw [get_all_layers_info_loop, if_pos (by omega), hempty context_index hi, context_layers_info_nil, pure_bind]
    exact get_all_layers_info_loop_diverges hlen hempty (Nat.mod_lt _ (by norm_num))

end Loop

/-- **From 256 contexts on, `get_all_layers_info` never returns its vectors.**
No fuel makes it return; and when the first 256 contexts have no edge layers,
every fuel runs out with no layer read: the loop never exits. -/
theorem get_all_layers_info_of_256_contexts {env : LayerEnv} {net_group : ProtoHEFNetworkGroupLayers}
    {supported_features : NetworkGroupSupportedFeatures} (hlen : 256 ≤ net_group.contexts.length) :
    (∀ fuel result, (get_all_layers_info env net_group supported_features fuel).run ≠ some (.ok result)) ∧
      ((∀ k < 256, net_group.contexts.getD k [] = []) →
        ∀ fuel, (get_all_layers_info env net_group supported_features fuel).run = none) :=
  ⟨fun _ _ => get_all_layers_info_loop_ne_ok hlen (by norm_num),
    fun hempty _ => get_all_layers_info_loop_diverges hlen hempty (by norm_num)⟩

/-- A network group of 256 contexts without edge layers. -/
def empty_contexts_group : ProtoHEFNetworkGroupLayers := ⟨"net_group", false, ["net"], false, [], .replicate 256 []⟩

/-- Loading a HEF with this network group never returns. -/
theorem get_all_layers_info_empty_contexts :
    256 ≤ empty_contexts_group.contexts.length ∧ (∀ k < 256, empty_contexts_group.contexts.getD k [] = []) ∧
      ∀ fuel, (get_all_layers_info nhcw_env empty_contexts_group ⟨false, false⟩ fuel).run = none := by
  have hlen : 256 ≤ empty_contexts_group.contexts.length := (List.length_replicate 256 []).ge
  have hempty : ∀ k < 256, empty_contexts_group.contexts.getD k [] = [] := fun k _ =>
    (List.getD_eq_getElem?_getD _ _ _).trans (List.getElem?_getD_replicate_default_eq [] 256 k)
  exact ⟨hlen, hempty, (get_all_layers_info_of_256_contexts hlen).2 hempty⟩

end Hef
end HailoRT
