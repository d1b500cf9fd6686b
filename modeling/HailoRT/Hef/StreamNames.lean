/-
# Stream names and vstream names

A boundary layer of a network group is a stream; what the user reads or
writes is a vstream.  `NetworkGroupMetadata` maps one to the other both ways
(`hef.cpp`, lines 4053-4097), over the boundary layers of every context:

| layer       | vstream names of the stream | a vstream's stream when              |
| defused NMS | its fused layer's name      | the vstream is its fused layer       |
| mux         | `get_demuxes_names`         | `is_edge_under_mux`                  |
| plain       | its own name                | the vstream is the layer             |

The two getters test the flags in other orders (the NMS flag first, the mux
flag first), and walk a mux's predecessor tree with two recursions (lines
2516-2560), which agree on every tree (`is_edge_under_mux_iff`).  A boundary
layer of `get_all_layers_info` is never both a mux and a defused NMS layer, a
defused one has its fused layer (`get_boundary_layer_info_names_wf`), and no
two share a name (`get_all_layers_info_well_named`).  Over such layers both
getters compute the one relation `stream_has_vstream`, each from its own
side, so each is the other's inverse (`mem_vstream_names_iff_mem_stream_names`).
-/

import HailoRT.Hef.AllLayersInfo

namespace HailoRT
namespace Hef

/-! ### Mux trees -/

mutual

/-- `is_edge_under_mux`. -/
def is_edge_under_mux : LayerInfo → String → Bool
  | { name, is_mux, predecessor, .. }, edge_name =>
    if !is_mux then edge_name == name else is_edge_under_mux_loop is_mux predecessor edge_name

/-- The loop of `is_edge_under_mux` over the predecessors, which tests
`info.is_mux` again at each one. -/
def is_edge_under_mux_loop (is_mux : Bool) : List LayerInfo → String → Bool
  | [], _ => false
  | pred :: predecessor, edge_name =>
    if is_mux then is_edge_under_mux pred edge_name || is_edge_under_mux_loop is_mux predecessor edge_name
    else edge_name == pred.name || is_edge_under_mux_loop is_mux predecessor edge_name

end

mutual

/-- `get_demuxes_names_impl`: pushes the names of the tree's leaves onto `res`. -/
def get_demuxes_names_impl : LayerInfo → List String → List String
  | { name, is_mux, predecessor, .. }, res =>
    if !is_mux then res ++ [name] else get_demuxes_names_impl_loop predecessor res

/-- The loop of `get_demuxes_names_impl` over the predecessors. -/
def get_demuxes_names_impl_loop : List LayerInfo → List String → List String
  | [], res => res
  | pred :: predecessor, res => get_demuxes_names_impl_loop predecessor (get_demuxes_names_impl pred res)

end

/-- `get_demuxes_names`. -/
def get_demuxes_names (info : LayerInfo) : List String :=
  get_demuxes_names_impl info []

mutual

theorem mem_get_demuxes_names_impl : ∀ (info : LayerInfo) (res : List String) (edge_name : String),
    edge_name ∈ get_demuxes_names_impl info res ↔ edge_name ∈ res ∨ is_edge_under_mux info edge_name = true
  | { name, is_mux, predecessor, .. }, res, edge_name => by
    cases is_mux
    · simp [get_demuxes_names_impl, is_edge_under_mux]
    · simpa [get_demuxes_names_impl, is_edge_under_mux] using
        mem_get_demuxes_names_impl_loop predecessor res edge_name

theorem mem_get_demuxes_names_impl_loop : ∀ (predecessor : List LayerInfo) (res : List String) (edge_name : String),
    edge_name ∈ get_demuxes_names_impl_loop predecessor res ↔
      edge_name ∈ res ∨ is_edge_under_mux_loop true predecessor edge_name = true
  | [], res, edge_name => by simp [get_demuxes_names_impl_loop, is_edge_under_mux_loop]
  | pred :: predecessor, res, edge_name => by
    rw [get_demuxes_names_impl_loop, mem_get_demuxes_names_impl_loop predecessor,
      mem_get_demuxes_names_impl pred, is_edge_under_mux_loop, if_pos rfl, Bool.or_eq_true, or_assoc]

end

/-- **A mux holds exactly the names it demuxes to.** -/
theorem is_edge_under_mux_iff (info : LayerInfo) (edge_name : String) :
    is_edge_under_mux info edge_name = true ↔ edge_name ∈ get_demuxes_names info := by
  rw [get_demuxes_names, mem_get_demuxes_names_impl, List.mem_nil_iff, false_or]


/-! ### The two getters -/

/-- `NetworkGroupMetadata`, through what the name getters read: the boundary
layers of each context, inputs and outputs apart, as `get_all_layers_info`
returned them. -/
structure NetworkGroupMetadata where
  m_boundary_input_layers : List (List LayerInfo)
  m_boundary_output_layers : List (List LayerInfo)
  /-- `default_network_name()`, `HailoRTDefaults::get_network_name` of the
  group's name. -/
  default_network_name : String

/-- The loop of `get_input_layer_infos` and `get_output_layer_infos` over one
of the two vectors: the layers of the network, context by context. -/
def get_layer_infos (context_layer_infos : List (List LayerInfo)) (network_name default_network_name : String) :
    Except HailoStatus (List LayerInfo) := do
  let res := context_layer_infos.flatten.filter fun layer_info =>
    layer_info.network_name == network_name || network_name.isEmpty || network_name == default_network_name
  CHECK (res.length > 0) .HAILO_NOT_FOUND
  return res

/-- `NetworkGroupMetadata::get_input_layer_infos`. -/
def NetworkGroupMetadata.get_input_layer_infos (metadata : NetworkGroupMetadata) (network_name : String) :
    Except HailoStatus (List LayerInfo) :=
  get_layer_infos metadata.m_boundary_input_layers network_name metadata.default_network_name

/-- `NetworkGroupMetadata::get_output_layer_infos`. -/
def NetworkGroupMetadata.get_output_layer_infos (metadata : NetworkGroupMetadata) (network_name : String) :
    Except HailoStatus (List LayerInfo) :=
  get_layer_infos metadata.m_boundary_output_layers network_name metadata.default_network_name

/-- `NetworkGroupMetadata::get_all_layer_infos`. -/
def NetworkGroupMetadata.get_all_layer_infos (metadata : NetworkGroupMetadata) (network_name : String) :
    Except HailoStatus (List LayerInfo) := do
  let input_layer_infos ← metadata.get_input_layer_infos network_name
  let output_layer_infos ← metadata.get_output_layer_infos network_name
  return input_layer_infos ++ output_layer_infos

/-- `layer_info.fused_nms_layer[0]`: the front of an empty vector is undefined
behaviour. -/
def fused_nms_layer_front (layer_info : LayerInfo) : MayFault LayerInfo :=
  match layer_info.fused_nms_layer with
  | fused :: _ => pure fused
  | [] => ExceptT.mk none

/-- What `get_vstream_names_from_stream_name` returns for the layer of the
stream's name. -/
def vstream_names_of_layer (layer_info : LayerInfo) : MayFault (List String) :=
  if layer_info.is_defused_nms then do
    let fused ← fused_nms_layer_front layer_info
    return [fused.name]
  else if layer_info.is_mux then return get_demuxes_names layer_info
  else return [layer_info.name]

/-- `NetworkGroupMetadata::get_vstream_names_from_stream_name`: the loop
returns at the first layer of the stream's name. -/
def NetworkGroupMetadata.get_vstream_names_from_stream_name (metadata : NetworkGroupMetadata)
    (stream_name : String) : MayFault (List String) := do
  let all_layer_infos ← (metadata.get_all_layer_infos "" : Except HailoStatus (List LayerInfo))
  match all_layer_infos.find? fun layer_info => stream_name == layer_info.name with
  | some layer_info => vstream_names_of_layer layer_info
  | none => throw .HAILO_NOT_FOUND

/-- The body of the loop of `get_stream_names_from_vstream_name` at one
layer: it pushes the layer's name when `vstream_name` is one of its vstreams. -/
def stream_names_step (vstream_name : String) (results : List String) (layer_info : LayerInfo) :
    MayFault (List String) :=
  if layer_info.is_mux then
    pure (if is_edge_under_mux layer_info vstream_name then results ++ [layer_info.name] else results)
  else if layer_info.is_defused_nms then do
    let fused ← fused_nms_layer_front layer_info
    return if vstream_name == fused.name then results ++ [layer_info.name] else results
  else pure (if vstream_name == layer_info.name then results ++ [layer_info.name] else results)

/-- `NetworkGroupMetadata::get_stream_names_from_vstream_name`. -/
def NetworkGroupMetadata.get_stream_names_from_vstream_name (metadata : NetworkGroupMetadata)
    (vstream_name : String) : MayFault (List String) := do
  let all_layer_infos ← (metadata.get_all_layer_infos "" : Except HailoStatus (List LayerInfo))
  let results ← all_layer_infos.foldlM (stream_names_step vstream_name) []
  (CHECK (0 < results.length) .HAILO_NOT_FOUND : Except HailoStatus Unit)
  return results

/-! ### What the two getters compute -/

/-- The vstream names of a layer: its fused layer's for a defused NMS layer,
its demuxes' for a mux, its own otherwise. -/
def LayerInfo.vstream_names (layer_info : LayerInfo) : List String :=
  if layer_info.is_defused_nms then (layer_info.fused_nms_layer.take 1).map (·.name)
  else if layer_info.is_mux then get_demuxes_names layer_info
  else [layer_info.name]

/-- The flags the two getters branch on, as `get_boundary_layer_info` sets
them: a mux is no defused NMS layer, and a defused NMS layer has its fused
layer. -/
structure LayerInfo.NamesWf (layer_info : LayerInfo) : Prop where
  mux_not_defused : layer_info.is_mux = true → layer_info.is_defused_nms = false
  fused_ne_nil : layer_info.is_defused_nms = true → layer_info.fused_nms_layer ≠ []

/-- The layers the two getters walk, as `get_all_layers_info` leaves them: no
two share a name, and every one has well-formed flags. -/
structure WellNamed (layers : List LayerInfo) : Prop where
  nodup : (layers.map (·.name)).Nodup
  names_wf : ∀ layer_info ∈ layers, layer_info.NamesWf

/-- Stream `stream_name` carries vstream `vstream_name`: the layer of that
name has it among its vstream names. -/
def stream_has_vstream (layers : List LayerInfo) (stream_name vstream_name : String) : Prop :=
  ∃ layer_info ∈ layers, layer_info.name = stream_name ∧ vstream_name ∈ layer_info.vstream_names

/-- A name getter returns, and what it returns holds `name`. -/
def returns_name (names : MayFault (List String)) (name : String) : Prop :=
  ∃ result, names.run = some (.ok result) ∧ name ∈ result

section Layer

variable {layer_info : LayerInfo}

theorem vstream_names_of_layer_run (h : layer_info.NamesWf) :
    (vstream_names_of_layer layer_info).run = some (.ok layer_info.vstream_names) := by
  unfold vstream_names_of_layer LayerInfo.vstream_names
  cases hd : layer_info.is_defused_nms
  · cases layer_info.is_mux <;> rfl
  · obtain ⟨fused, _, hf⟩ := List.exists_cons_of_ne_nil (h.fused_ne_nil hd)
    simp [fused_nms_layer_front, hf]

/-- **One layer pushes its name exactly when the vstream is one of its
vstreams.** -/
theorem stream_names_step_run (h : layer_info.NamesWf) (vstream_name : String) (results : List String) :
    (stream_names_step vstream_name results layer_info).run =
      some (.ok (if vstream_name ∈ layer_info.vstream_names then results ++ [layer_info.name] else results)) := by
  unfold stream_names_step LayerInfo.vstream_names
  cases hm : layer_info.is_mux <;> cases hd : layer_info.is_defused_nms
  · simp
  · obtain ⟨fused, _, hf⟩ := List.exists_cons_of_ne_nil (h.fused_ne_nil hd)
    simp [fused_nms_layer_front, hf]
  · simp [is_edge_under_mux_iff]
  · exact absurd (h.mux_not_defused hm) (by simp [hd])

end Layer

/-! ### The getters over the layers -/

/-- Asked for no network in particular, the loop keeps every layer. -/
theorem get_layer_infos_eq_ok {context_layer_infos : List (List LayerInfo)} {default_network_name : String}
    {res : List LayerInfo} (h : get_layer_infos context_layer_infos "" default_network_name = .ok res) :
    res = context_layer_infos.flatten := by
  have hkeep : ∀ layer_info : LayerInfo,
      (layer_info.network_name == "" || "".isEmpty || "" == default_network_name) = true := fun _ => by
    simp [show "".isEmpty = true from rfl]
  simp only [get_layer_infos, List.filter_eq_self.2 fun a _ => hkeep a, CHECK_bind_eq_ok] at h
  exact (Except.ok.inj h.2).symm

theorem get_all_layer_infos_eq_ok {metadata : NetworkGroupMetadata} {layers : List LayerInfo}
    (h : metadata.get_all_layer_infos "" = .ok layers) :
    layers = metadata.m_boundary_input_layers.flatten ++ metadata.m_boundary_output_layers.flatten := by
  obtain ⟨_, hin, h⟩ := Except.bind_eq_ok.1 h
  obtain ⟨_, hout, h⟩ := Except.bind_eq_ok.1 h
  cases h
  rw [get_layer_infos_eq_ok hin, get_layer_infos_eq_ok hout]

/-- The layer a stream name finds is the only layer of that name. -/
theorem find?_name_eq_some {layers : List LayerInfo} (hnodup : (layers.map (·.name)).Nodup)
    {layer_info : LayerInfo} (hmem : layer_info ∈ layers) :
    layers.find? (fun l => layer_info.name == l.name) = some layer_info := by
  have hsome : (layers.find? fun l => layer_info.name == l.name).isSome :=
    List.find?_isSome.2 ⟨layer_info, hmem, beq_self_eq_true _⟩
  obtain ⟨found, hfound⟩ := Option.isSome_iff_exists.1 hsome
  have hname : layer_info.name = found.name := by simpa using List.find?_some hfound
  rw [hfound, List.inj_on_of_nodup_map hnodup (List.mem_of_find?_eq_some hfound) hmem hname.symm]

theorem foldlM_stream_names_step {layers : List LayerInfo} {vstream_name : String}
    (hwf : ∀ layer_info ∈ layers, layer_info.NamesWf) (results : List String) :
    (layers.foldlM (stream_names_step vstream_name) results).run =
      some (.ok (results ++ ((layers.filter fun layer_info => vstream_name ∈ layer_info.vstream_names).map (·.name)))) := by
  induction layers generalizing results with
  | nil => simp
  | cons layer_info layers ih =>
    rw [List.foldlM_cons, ExceptT.run_bind, stream_names_step_run (hwf _ (List.mem_cons_self _ _))]
    by_cases hv : vstream_name ∈ layer_info.vstream_names <;>
      simp [ih fun l hl => hwf l (List.mem_cons_of_mem _ hl), List.filter_cons, hv]

/-- A getter that fails on an empty result returns a name exactly when the
result holds it. -/
theorem returns_name_check_nonempty (results : List String) (name : String) :
    returns_name (do (CHECK (0 < results.length) .HAILO_NOT_FOUND : Except HailoStatus Unit); return results)
      name ↔ name ∈ results := by
  unfold returns_name
  cases results with
  | nil =>
    refine iff_of_false (fun ⟨_, h, _⟩ => ?_) (List.not_mem_nil _)
    have h : some (Except.error HailoStatus.HAILO_NOT_FOUND) = some (.ok _) := h
    cases h
  | cons r results =>
    rw [CHECK_pos (List.length_pos.2 (List.cons_ne_nil r results))]
    refine ⟨fun ⟨result, h, hm⟩ => ?_, fun hm => ⟨_, rfl, hm⟩⟩
    have h : some (Except.ok (r :: results)) = some (.ok result) := h
    cases h
    exact hm

section Getters

variable {metadata : NetworkGroupMetadata} {layers : List LayerInfo}

/-- **The vstreams of a stream.**  The vstream names returned for
`stream_name` are those of the layer of that name. -/
theorem get_vstream_names_from_stream_name_returns (hall : metadata.get_all_layer_infos "" = .ok layers)
    (hnamed : WellNamed layers) (stream_name vstream_name : String) :
    returns_name (metadata.get_vstream_names_from_stream_name stream_name) vstream_name ↔
      stream_has_vstream layers stream_name vstream_name := by
  have hrun : (metadata.get_vstream_names_from_stream_name stream_name).run =
      (match layers.find? fun layer_info : LayerInfo => stream_name == layer_info.name with
        | some layer_info => vstream_names_of_layer layer_info
        | none => throw HailoStatus.HAILO_NOT_FOUND : MayFault (List String)).run := by
    rw [NetworkGroupMetadata.get_vstream_names_from_stream_name, ExceptT.run_bind, MayDiverge.run_monadLift, hall]
    rfl
  unfold returns_name stream_has_vstream
  rw [hrun]
  cases hfind : layers.find? fun layer_info => stream_name == layer_info.name with
  | none =>
    -- no layer of that name: the getter fails
    constructor
    · rintro ⟨_, h, -⟩
      cases h
    · rintro ⟨layer_info, hmem, rfl, -⟩
      exact (List.find?_eq_none.1 hfind layer_info hmem (beq_self_eq_true _)).elim
  | some layer_info =>
    have hmem := List.mem_of_find?_eq_some hfind
    have hname : stream_name = layer_info.name := by simpa using List.find?_some hfind
    rw [vstream_names_of_layer_run (hnamed.names_wf _ hmem)]
    refine ⟨fun ⟨_, h, hv⟩ => ?_, fun ⟨other, hother, hother_name, hv⟩ => ?_⟩
    · cases h
      exact ⟨layer_info, hmem, hname.symm, hv⟩
    · subst hother_name
      cases Option.some.inj (hfind.symm.trans (find?_name_eq_some hnamed.nodup hother))
      exact ⟨_, rfl, hv⟩

/-- **The streams of a vstream.**  The stream names returned for
`vstream_name` are those of the layers that have it among their vstream
names. -/
theorem get_stream_names_from_vstream_name_returns (hall : metadata.get_all_layer_infos "" = .ok layers)
    (hnamed : WellNamed layers) (stream_name vstream_name : String) :
    returns_name (metadata.get_stream_names_from_vstream_name vstream_name) stream_name ↔
      stream_has_vstream layers stream_name vstream_name := by
  have hrun : (metadata.get_stream_names_from_vstream_name vstream_name).run =
      (do
        (CHECK (0 < ((layers.filter fun layer_info => vstream_name ∈ layer_info.vstream_names).map (·.name)).length)
          .HAILO_NOT_FOUND : Except HailoStatus Unit)
        return (layers.filter fun layer_info => vstream_name ∈ layer_info.vstream_names).map (·.name) :
        MayFault (List String)).run := by
    rw [NetworkGroupMetadata.get_stream_names_from_vstream_name, hall]
    show (List.foldlM (stream_names_step vstream_name) [] layers >>= _).run = _
    rw [ExceptT.run_bind, foldlM_stream_names_step hnamed.names_wf, List.nil_append]
    rfl
  calc returns_name (metadata.get_stream_names_from_vstream_name vstream_name) stream_name
      ↔ stream_name ∈ (layers.filter fun layer_info => vstream_name ∈ layer_info.vstream_names).map (·.name) := by
        rw [← returns_name_check_nonempty]
        exact exists_congr fun _ => by rw [hrun]
    _ ↔ stream_has_vstream layers stream_name vstream_name := by
        simp only [List.mem_map, List.mem_filter, decide_eq_true_eq, stream_has_vstream]
        exact exists_congr fun _ => ⟨fun ⟨⟨hmem, hv⟩, hname⟩ => ⟨hmem, hname, hv⟩,
          fun ⟨hmem, hname, hv⟩ => ⟨⟨hmem, hv⟩, hname⟩⟩

end Getters

/-- **Every boundary layer has well-formed flags.** -/
theorem get_boundary_layer_info_names_wf {env : LayerEnv} {net_group : ProtoHEFNetworkGroupLayers}
    {context_index : Nat} {layer : ProtoHEFEdgeLayer} {supported_features : NetworkGroupSupportedFeatures}
    {layer_info : LayerInfo}
    (h : (get_boundary_layer_info env net_group context_index layer supported_features).run = some (.ok layer_info)) :
    layer_info.NamesWf := by
  simp only [get_boundary_layer_info] at h
  iterate 2 obtain ⟨_, -, h⟩ := MayDiverge.run_bind_eq_ok.1 h
  -- a plain layer or a mux; the direction set last leaves the flags
  split at h
  · obtain ⟨result, hresult, h⟩ := MayDiverge.run_bind_eq_ok.1 h
    cases Except.ok.inj (Option.some.inj h)
    obtain ⟨hmux, hfused⟩ := fill_layer_info_flags hresult
    exact ⟨fun h => absurd h (by simp [hmux]), hfused⟩
  · obtain ⟨result, hresult, h⟩ := MayDiverge.run_bind_eq_ok.1 h
    cases Except.ok.inj (Option.some.inj h)
    obtain ⟨-, hdefused⟩ := fill_mux_info_flags hresult
    exact ⟨fun _ => hdefused, fun h => absurd h (by simp [hdefused])⟩
  · -- a layer of another type is refused
    cases h

/-! ### The names `get_all_layers_info` records -/

/-- A context's boundary layers, inputs then outputs. -/
def ContextLayers.boundary_layers (context : ContextLayers) : List LayerInfo :=
  context.boundary_input_layers ++ context.boundary_output_layers

/-- What the boundary-name check of `get_all_layers_info` keeps over the layers
parsed so far: the names it recorded are those of the boundary layers, once
each, and every boundary layer has well-formed flags. -/
structure NamesRecorded (boundary_layers_name : List String) (boundary_layers : List LayerInfo) : Prop where
  perm : boundary_layers_name.Perm (boundary_layers.map (·.name))
  nodup : boundary_layers_name.Nodup
  names_wf : ∀ layer_info ∈ boundary_layers, layer_info.NamesWf

theorem NamesRecorded.well_named {boundary_layers_name : List String} {boundary_layers : List LayerInfo}
    (h : NamesRecorded boundary_layers_name boundary_layers) : WellNamed boundary_layers :=
  ⟨h.perm.nodup_iff.1 h.nodup, h.names_wf⟩

theorem WellNamed.perm {layers layers' : List LayerInfo} (h : WellNamed layers) (hp : layers.Perm layers') :
    WellNamed layers' :=
  ⟨(hp.map _).nodup_iff.1 h.nodup, fun layer_info hmem => h.names_wf layer_info (hp.mem_iff.2 hmem)⟩

section Recorded

variable {env : LayerEnv} {net_group : ProtoHEFNetworkGroupLayers} {context_index : Nat}
  {supported_features : NetworkGroupSupportedFeatures}

theorem fill_inter_context_layers_info_boundary_layers {layer : ProtoHEFEdgeLayer} {context context' : ContextLayers}
    (h : fill_inter_context_layers_info env net_group context_index layer supported_features context = .ok context') :
    context'.boundary_layers = context.boundary_layers := by
  obtain ⟨_, -, h⟩ := Except.bind_eq_ok.1 h
  split at h <;> cases h <;> rfl

theorem fill_ddr_layers_info_boundary_layers {layer : ProtoHEFEdgeLayer} {context context' : ContextLayers}
    (h : fill_ddr_layers_info env net_group context_index layer supported_features context = .ok context') :
    context'.boundary_layers = context.boundary_layers := by
  obtain ⟨_, -, h⟩ := Except.bind_eq_ok.1 h
  split at h <;> cases h <;> rfl

/-- A boundary layer is recorded under a name no layer before it has; the
other layers leave the boundary layers and the names alone. -/
theorem fill_edge_layer_info_recorded {base : List LayerInfo} {layer : ProtoHEFEdgeLayer}
    {boundary_layers_name boundary_layers_name' : List String} {context context' : ContextLayers}
    (hrec : NamesRecorded boundary_layers_name (base ++ context.boundary_layers))
    (h : (fill_edge_layer_info env net_group context_index supported_features (boundary_layers_name, context)
      layer).run = some (.ok (boundary_layers_name', context'))) :
    NamesRecorded boundary_layers_name' (base ++ context'.boundary_layers) := by
  simp only [fill_edge_layer_info] at h
  split_ifs at h
  · obtain ⟨layer_info, hinfo, h⟩ := MayDiverge.run_bind_eq_ok.1 h
    obtain ⟨_, hunique, h⟩ := MayDiverge.run_bind_eq_ok.1 h
    rw [MayDiverge.run_monadLift, Option.some.injEq, forM_eq_ok] at hunique
    have hnew : layer_info.name ∉ boundary_layers_name := fun hmem =>
      absurd (hunique _ hmem) (by simp [CHECK])
    obtain ⟨rfl, hperm⟩ : boundary_layers_name' = boundary_layers_name ++ [layer_info.name] ∧
        context'.boundary_layers.Perm (context.boundary_layers ++ [layer_info]) := by
      split at h <;> cases h
      · refine ⟨rfl, ?_⟩
        simp only [ContextLayers.boundary_layers, List.append_assoc, List.singleton_append]
        exact (List.perm_append_singleton _ _).symm.append_left _
      · exact ⟨rfl, by simp [ContextLayers.boundary_layers]⟩
    have hlayers : (base ++ context'.boundary_layers).Perm (base ++ context.boundary_layers ++ [layer_info]) := by
      rw [List.append_assoc]
      exact hperm.append_left base
    refine ⟨?_, hrec.nodup.append (List.nodup_singleton _) (List.disjoint_singleton.2 hnew), fun l hl => ?_⟩
    · have := (hlayers.map (·.name)).symm
      rw [List.map_append _ (base ++ _), List.map_singleton] at this
      exact (hrec.perm.append_right [layer_info.name]).trans this
    · rcases List.mem_append.1 (hlayers.mem_iff.1 hl) with hl | hl
      · exact hrec.names_wf l hl
      · rw [List.mem_singleton.1 hl]
        exact get_boundary_layer_info_names_wf hinfo
  · obtain ⟨_, hfill, h⟩ := MayDiverge.run_bind_eq_ok.1 h
    rw [MayDiverge.run_monadLift, Option.some.injEq] at hfill
    cases h
    rwa [fill_inter_context_layers_info_boundary_layers hfill]
  · obtain ⟨_, hfill, h⟩ := MayDiverge.run_bind_eq_ok.1 h
    rw [MayDiverge.run_monadLift, Option.some.injEq] at hfill
    cases h
    rwa [fill_ddr_layers_info_boundary_layers hfill]
  · cases h
    exact hrec

/-- A context's walk over its edge layers records its boundary layers after
those of the contexts before it. -/
theorem context_layers_info_recorded {edge_layers : List ProtoHEFEdgeLayer} {base : List LayerInfo}
    {boundary_layers_name boundary_layers_name' : List String} {context : ContextLayers}
    (hrec : NamesRecorded boundary_layers_name base)
    (h : (context_layers_info env net_group supported_features context_index edge_layers boundary_layers_name).run =
      some (.ok (boundary_layers_name', context))) :
    NamesRecorded boundary_layers_name' (base ++ context.boundary_layers) := by
  obtain ⟨⟨_, _⟩, hfold, h⟩ := MayDiverge.run_bind_eq_ok.1 h
  obtain ⟨_, -, h⟩ := MayDiverge.run_bind_eq_ok.1 h
  cases h
  have hstep : ∀ (acc : List String × ContextLayers) layer acc', NamesRecorded acc.1 (base ++ acc.2.boundary_layers) →
      (fill_edge_layer_info env net_group context_index supported_features acc layer).run = some (.ok acc') →
      NamesRecorded acc'.1 (base ++ acc'.2.boundary_layers) :=
    fun ⟨_, _⟩ _ ⟨_, _⟩ hp h => fill_edge_layer_info_recorded hp h
  have hinit : NamesRecorded boundary_layers_name (base ++ ContextLayers.empty.boundary_layers) := by
    rwa [ContextLayers.boundary_layers, ContextLayers.empty, List.append_nil, List.append_nil]
  exact MayDiverge.foldlM_invariant _ hstep hinit hfold

theorem get_all_layers_info_loop_recorded :
    ∀ {fuel context_index : Nat} {boundary_layers_name : List String} {result done : List ContextLayers},
      NamesRecorded boundary_layers_name (result.flatMap ContextLayers.boundary_layers) →
      (get_all_layers_info_loop env net_group supported_features fuel context_index boundary_layers_name
        result).run = some (.ok done) →
      WellNamed (done.flatMap ContextLayers.boundary_layers)
  | 0, _, _, _, _, _, h => nomatch h
  | fuel + 1, context_index, _, _, _, hrec, h => by
    rw [get_all_layers_info_loop] at h
    split_ifs at h
    · obtain ⟨⟨_, _⟩, hcontext, h⟩ := MayDiverge.run_bind_eq_ok.1 h
      refine get_all_layers_info_loop_recorded ?_ h
      simpa [List.flatMap_append] using context_layers_info_recorded hrec hcontext
    · cases h
      exact hrec.well_named

end Recorded

theorem flatMap_boundary_layers_perm (contexts : List ContextLayers) :
    (contexts.flatMap ContextLayers.boundary_layers).Perm
      ((contexts.map ContextLayers.boundary_input_layers).flatten ++
        (contexts.map ContextLayers.boundary_output_layers).flatten) := by
  induction contexts with
  | nil => rfl
  | cons context contexts ih =>
    simp only [List.flatMap_cons, List.map_cons, List.flatten_cons, ContextLayers.boundary_layers, List.append_assoc]
    exact ((ih.append_left _).trans (List.perm_append_comm_assoc _ _ _)).append_left _

/-- **`get_all_layers_info` leaves well-named boundary layers.**  Across all
contexts, inputs then outputs, no two boundary layers share a name, and
every one has well-formed flags. -/
theorem get_all_layers_info_well_named {env : LayerEnv} {net_group : ProtoHEFNetworkGroupLayers}
    {supported_features : NetworkGroupSupportedFeatures} {fuel : Nat} {contexts : List ContextLayers}
    (h : (get_all_layers_info env net_group supported_features fuel).run = some (.ok contexts)) :
    WellNamed ((contexts.map ContextLayers.boundary_input_layers).flatten ++
      (contexts.map ContextLayers.boundary_output_layers).flatten) := by
  have hnone : NamesRecorded [] (([] : List ContextLayers).flatMap ContextLayers.boundary_layers) :=
    ⟨List.Perm.nil, List.nodup_nil, by simp⟩
  exact (get_all_layers_info_loop_recorded hnone h).perm (flatMap_boundary_layers_perm contexts)

/-- Without its layers, neither getter returns. -/
theorem not_returns_name_of_error {metadata : NetworkGroupMetadata} {e : HailoStatus}
    (hall : metadata.get_all_layer_infos "" = .error e) (stream_name vstream_name : String) :
    ¬returns_name (metadata.get_vstream_names_from_stream_name stream_name) vstream_name ∧
      ¬returns_name (metadata.get_stream_names_from_vstream_name vstream_name) stream_name := by
  constructor <;> rintro ⟨_, h, -⟩
  · rw [NetworkGroupMetadata.get_vstream_names_from_stream_name, ExceptT.run_bind, hall] at h
    cases h
  · rw [NetworkGroupMetadata.get_stream_names_from_vstream_name, ExceptT.run_bind, hall] at h
    cases h

/-- **Stream names and vstream names are inverse relations.**  For the
metadata of a network group whose boundary layers `get_all_layers_info`
returned, `vstream_name` is among the vstream names of `stream_name` exactly
when `stream_name` is among the stream names of `vstream_name`. -/
theorem mem_vstream_names_iff_mem_stream_names {env : LayerEnv} {net_group : ProtoHEFNetworkGroupLayers}
    {supported_features : NetworkGroupSupportedFeatures} {fuel : Nat} {contexts : List ContextLayers}
    {metadata : NetworkGroupMetadata}
    (h : (get_all_layers_info env net_group supported_features fuel).run = some (.ok contexts))
    (hinput : metadata.m_boundary_input_layers = contexts.map ContextLayers.boundary_input_layers)
    (houtput : metadata.m_boundary_output_layers = contexts.map ContextLayers.boundary_output_layers)
    (stream_name vstream_name : String) :
    returns_name (metadata.get_vstream_names_from_stream_name stream_name) vstream_name ↔
      returns_name (metadata.get_stream_names_from_vstream_name vstream_name) stream_name := by
  cases hall : metadata.get_all_layer_infos "" with
  | error e =>
    exact iff_of_false (not_returns_name_of_error hall _ _).1 (not_returns_name_of_error hall _ _).2
  | ok layers =>
    have hnamed : WellNamed layers := by
      rw [get_all_layer_infos_eq_ok hall, hinput, houtput]
      exact get_all_layers_info_well_named h
    rw [get_vstream_names_from_stream_name_returns hall hnamed, get_stream_names_from_vstream_name_returns hall hnamed]


/-- A context of a boundary input `input` and a boundary output mux `mux`
over the plain layers `a` and `b`. -/
def mux_network_group : ProtoHEFNetworkGroupLayers :=
  ⟨"net_group", false, ["net"], false, [],
    [[⟨.PROTO__EDGE_LAYER_DIRECTION__HOST_TO_DEVICE, .PROTO__EDGE_LAYER_TYPE__INFO,
        .layer_info ⟨"input", one_buffer_base, false⟩, ⟨.PROTO__EDGE_CONNECTION_TYPE__BOUNDARY, 0, 0, [], 0⟩, 0⟩,
      ⟨.PROTO__EDGE_LAYER_DIRECTION__DEVICE_TO_HOST, .PROTO__EDGE_LAYER_TYPE__MUX,
        .layer_mux (.mk "mux" one_buffer_base ⟨2, 1, []⟩
          [.layer_info ⟨"a", one_buffer_base, false⟩, .layer_info ⟨"b", one_buffer_base, false⟩]),
        ⟨.PROTO__EDGE_CONNECTION_TYPE__BOUNDARY, 0, 0, [], 0⟩, 0⟩]]⟩

/-- The metadata of that group: the mux's stream carries the vstream `b`,
and `b` is a vstream of the mux's stream. -/
theorem mem_vstream_names_iff_mux_network_group :
    ∃ contexts, (get_all_layers_info nhcw_env mux_network_group ⟨false, false⟩ 2).run = some (.ok contexts) ∧
      let metadata : NetworkGroupMetadata := ⟨contexts.map ContextLayers.boundary_input_layers,
        contexts.map ContextLayers.boundary_output_layers, "net_group/net_group"⟩
      (∀ stream_name vstream_name,
        returns_name (metadata.get_vstream_names_from_stream_name stream_name) vstream_name ↔
          returns_name (metadata.get_stream_names_from_vstream_name vstream_name) stream_name) ∧
      returns_name (metadata.get_vstream_names_from_stream_name "mux") "b" := by
  obtain ⟨contexts, h⟩ : ∃ contexts,
      (get_all_layers_info nhcw_env mux_network_group ⟨false, false⟩ 2).run = some (.ok contexts) := ⟨_, rfl⟩
  refine ⟨contexts, h, mem_vstream_names_iff_mem_stream_names h rfl rfl, ["a", "b"], ?_, by simp⟩
  cases h
  rfl

end Hef
end HailoRT
