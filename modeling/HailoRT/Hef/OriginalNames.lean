/-
# Vstream names and original names

Each plain boundary layer lists the names its tensors had in the original
model, `original_names()`.  Four functions of `hef.cpp` translate between
those names and vstream names, and a fifth checks the boundary layers' names:

| function                                   | lines     | reads                               |
| `get_vstream_name_from_original_name_mux`  | 3347-3369 | a mux tree's plain layers           |
| `get_vstream_name_from_original_name`      | 3371-3401 | every boundary layer, every match   |
| `get_original_names_from_vstream_name_mux` | 3403-3429 | a mux tree's plain layers           |
| `get_original_names_from_vstream_name`     | 3431-3459 | every boundary layer, the first     |
| `validate_net_group_unique_layer_names`    | 3461-3485 | the boundary layers' own names      |

The plain layers the lookups compare with are the plain boundary layers and
the plain layers of each device-to-host boundary mux tree, depth first
(`boundary_leaves`).  In a mux tree the `_mux` functions return for the first
plain layer that matches (`get_vstream_name_from_original_name_mux_eq_find`).
`get_vstream_name_from_original_name` takes a match per original name of a
plain layer and per predecessor of a mux, and fails with `HAILO_INVALID_HEF`
at the second (`get_vstream_name_from_original_name_eq`): two plain layers
of one predecessor's tree that share an original name are not told apart.
When the plain layers' names are distinct, an original name maps to a vstream
whose original names list it (`original_names_round_trip`).  The names
`validate_net_group_unique_layer_names` checks are the boundary layers' own,
mux names included and mux leaves left out, and a boundary layer of a type
other than a plain layer or a mux fails it with the status a repeated name
does (`validate_net_group_unique_layer_names_eq`).

`original_names()` is not a field of the layer record the parser reads, and
is a parameter.  `is_h2d_boundary_info_layer`, `is_d2h_boundary_info_layer`
and `is_d2h_boundary_mux_layer` are not among the sources; they are read off
their names.
-/

import HailoRT.Hef.NetworkGroups

namespace HailoRT
namespace Hef

/-! ### Boundary layers -/

/-- `name()` of a `ProtoHEFEdgeLayerMux`. -/
def ProtoHEFEdgeLayerMux.name : ProtoHEFEdgeLayerMux → String
  | .mk name _ _ _ => name

/-- `predecessors()` of a `ProtoHEFEdgeLayerMux`. -/
def ProtoHEFEdgeLayerMux.predecessors : ProtoHEFEdgeLayerMux → List ProtoHefEdge
  | .mk _ _ _ predecessors => predecessors

/-- `is_h2d_boundary_info_layer`: a plain host-to-device boundary layer. -/
def is_h2d_boundary_info_layer (layer : ProtoHEFEdgeLayer) : Bool :=
  layer.direction == .PROTO__EDGE_LAYER_DIRECTION__HOST_TO_DEVICE &&
    layer.context_switch_info.edge_connection_type == .PROTO__EDGE_CONNECTION_TYPE__BOUNDARY &&
    layer.edge_layer_type == .PROTO__EDGE_LAYER_TYPE__INFO

/-- `is_d2h_boundary_info_layer`: a plain device-to-host boundary layer. -/
def is_d2h_boundary_info_layer (layer : ProtoHEFEdgeLayer) : Bool :=
  layer.direction == .PROTO__EDGE_LAYER_DIRECTION__DEVICE_TO_HOST &&
    layer.context_switch_info.edge_connection_type == .PROTO__EDGE_CONNECTION_TYPE__BOUNDARY &&
    layer.edge_layer_type == .PROTO__EDGE_LAYER_TYPE__INFO

/-- `is_d2h_boundary_mux_layer`: a device-to-host boundary mux. -/
def is_d2h_boundary_mux_layer (layer : ProtoHEFEdgeLayer) : Bool :=
  layer.direction == .PROTO__EDGE_LAYER_DIRECTION__DEVICE_TO_HOST &&
    layer.context_switch_info.edge_connection_type == .PROTO__EDGE_CONNECTION_TYPE__BOUNDARY &&
    layer.edge_layer_type == .PROTO__EDGE_LAYER_TYPE__MUX

mutual

/-- The plain layers of a mux tree, depth first. -/
def ProtoHefEdge.leaves : ProtoHefEdge → List ProtoHEFEdgeLayerInfo
  | .layer_info info => [info]
  | .layer_mux (.mk _ _ _ predecessors) => ProtoHefEdge.leaves_all predecessors
  | .EDGE_NOT_SET => []

/-- The plain layers of the trees of a mux's predecessors, in order. -/
def ProtoHefEdge.leaves_all : List ProtoHefEdge → List ProtoHEFEdgeLayerInfo
  | [] => []
  | edge :: predecessors => edge.leaves ++ ProtoHefEdge.leaves_all predecessors

end

/-- The plain layers a lookup compares with at one edge layer: the layer
itself if it is a plain boundary layer, the leaves of its tree if it is a
device-to-host boundary mux. -/
def layer_boundary_leaves (layer : ProtoHEFEdgeLayer) : List ProtoHEFEdgeLayerInfo :=
  if is_h2d_boundary_info_layer layer || is_d2h_boundary_info_layer layer then [layer.layer_info]
  else if is_d2h_boundary_mux_layer layer then ProtoHefEdge.leaves_all layer.layer_mux.predecessors
  else []

/-- The plain boundary layers of a network group, in the order the lookups
visit them. -/
def boundary_leaves (net_group : ProtoHEFNetworkGroupLayers) : List ProtoHEFEdgeLayerInfo :=
  net_group.contexts.flatMap fun context => context.flatMap layer_boundary_leaves

theorem ProtoHefEdge.leaves_all_eq_flatMap :
    ∀ predecessors : List ProtoHefEdge, ProtoHefEdge.leaves_all predecessors = predecessors.flatMap ProtoHefEdge.leaves
  | [] => rfl
  | edge :: predecessors => by
    rw [ProtoHefEdge.leaves_all, List.flatMap_cons, ProtoHefEdge.leaves_all_eq_flatMap predecessors]

/-! ### Loops over what they record -/

/-- A loop whose body either records a value or passes is a loop over the
values it records. -/
theorem foldlM_eq_filterMap {α β γ : Type} {f : β → α → Except HailoStatus β} {g : β → γ → Except HailoStatus β}
    (h : α → Option γ) (hf : ∀ b a, f b a = match h a with | some c => g b c | none => pure b) :
    ∀ (l : List α) (b : β), l.foldlM f b = (l.filterMap h).foldlM g b
  | [], _ => rfl
  | a :: l, b => by
    rw [List.foldlM_cons, hf, List.filterMap_cons]
    cases h a with
    | none => rw [pure_bind]; exact foldlM_eq_filterMap h hf l b
    | some c =>
      rw [List.foldlM_cons]
      exact congrArg _ (funext fun b' => foldlM_eq_filterMap h hf l b')

/-- A loop whose body is a loop over a list of each element is a loop over
those lists, joined. -/
theorem foldlM_flatMap {α β γ : Type} (g : β → γ → Except HailoStatus β) (k : α → List γ) :
    ∀ (l : List α) (b : β), l.foldlM (fun b a => (k a).foldlM g b) b = (l.flatMap k).foldlM g b
  | [], _ => rfl
  | a :: l, b => by
    rw [List.foldlM_cons, List.flatMap_cons, List.foldlM_append]
    exact congrArg _ (funext fun b' => foldlM_flatMap g k l b')

/-- A search whose body at each element is a search of a list is a search of
those lists, joined. -/
theorem findSome?_find?_flatMap {α β γ : Type} (k : α → List β) (p : β → Bool) (f : β → γ) :
    ∀ l : List α, l.findSome? (fun a => ((k a).find? p).map f) = ((l.flatMap k).find? p).map f
  | [] => rfl
  | a :: l => by
    rw [List.findSome?_cons, List.flatMap_cons, List.find?_append]
    cases (k a).find? p with
    | none => rw [Option.map_none', Option.none_or]; exact findSome?_find?_flatMap k p f l
    | some b => rfl

section OriginalNames

variable (original_names : ProtoHEFEdgeLayerInfo → List String)

/-! ### The mux lookups -/

mutual

/-- The search both `_mux` lookups make of a mux tree: the `switch` on
`edge_case()`, where a plain layer that passes `is_match` gives its `result`. -/
def search_mux {β : Type} (is_match : ProtoHEFEdgeLayerInfo → Bool) (result : ProtoHEFEdgeLayerInfo → β) :
    ProtoHefEdge → Except HailoStatus β
  | .layer_info info => if is_match info then .ok (result info) else .error .HAILO_NOT_FOUND
  | .layer_mux (.mk _ _ _ predecessors) => search_mux_loop is_match result predecessors
  | .EDGE_NOT_SET => .error .HAILO_INTERNAL_FAILURE

/-- The loop of a `_mux` lookup over a mux's predecessors: the first that
finds a match. -/
def search_mux_loop {β : Type} (is_match : ProtoHEFEdgeLayerInfo → Bool) (result : ProtoHEFEdgeLayerInfo → β) :
    List ProtoHefEdge → Except HailoStatus β
  | [] => .error .HAILO_NOT_FOUND
  | pred :: predecessors =>
    match search_mux is_match result pred with
    | .ok res => .ok res
    | .error _ => search_mux_loop is_match result predecessors

end

/-- `Hef::Impl::get_vstream_name_from_original_name_mux`. -/
def get_vstream_name_from_original_name_mux (original_name : String) : ProtoHefEdge → Except HailoStatus String :=
  search_mux (fun info => original_name ∈ original_names info) (·.name)

/-- `Hef::Impl::get_original_names_from_vstream_name_mux`. -/
def get_original_names_from_vstream_name_mux (vstream_name : String) :
    ProtoHefEdge → Except HailoStatus (List String) :=
  search_mux (fun info => vstream_name = info.name) original_names

/-! ### Original name to vstream name -/

/-- `CHECK_AS_EXPECTED(results.empty(), HAILO_INVALID_HEF, ...)` and then
`results = stream_name`. -/
def set_vstream_name (results stream_name : String) : Except HailoStatus String := do
  CHECK results.isEmpty .HAILO_INVALID_HEF
  return stream_name

/-- The body of `get_vstream_name_from_original_name`'s loop at one edge
layer; `results` is the vstream name found so far, empty while there is none. -/
def get_vstream_name_from_original_name_layer (original_name results : String) (layer_info : ProtoHEFEdgeLayer) :
    Except HailoStatus String :=
  if is_h2d_boundary_info_layer layer_info || is_d2h_boundary_info_layer layer_info then
    (original_names layer_info.layer_info).foldlM (fun results name =>
      if original_name = name then set_vstream_name results layer_info.layer_info.name else pure results) results
  else if is_d2h_boundary_mux_layer layer_info then
    layer_info.layer_mux.predecessors.foldlM (fun results pred =>
      match get_vstream_name_from_original_name_mux original_names original_name pred with
      | .ok stream_name => set_vstream_name results stream_name
      | .error _ => pure results) results
  else pure results

/-- `get_vstream_name_from_original_name` after the group's lookup: the loops
over the contexts and their edge layers, and the final check. -/
def vstream_name_from_original_name (net_group : ProtoHEFNetworkGroupLayers) (original_name : String) :
    Except HailoStatus String := do
  let results ← net_group.contexts.foldlM (fun results context =>
    context.foldlM (get_vstream_name_from_original_name_layer original_names original_name) results) ""
  CHECK (¬results.isEmpty) .HAILO_NOT_FOUND
  return results

/-- `Hef::Impl::get_vstream_name_from_original_name`. -/
def Impl.get_vstream_name_from_original_name (hef : Impl) (original_name net_group_name : String) :
    MayFault String := do
  let net_group ← hef.get_net_group_by_name net_group_name
  vstream_name_from_original_name original_names net_group original_name

/-! ### Vstream name to original names -/

/-- The body of `get_original_names_from_vstream_name`'s loop at one edge
layer: the names it returns with, if it returns. -/
def get_original_names_from_vstream_name_layer (vstream_name : String) (layer_info : ProtoHEFEdgeLayer) :
    Option (List String) :=
  if is_h2d_boundary_info_layer layer_info || is_d2h_boundary_info_layer layer_info then
    if vstream_name = layer_info.layer_info.name then some (original_names layer_info.layer_info) else none
  else if is_d2h_boundary_mux_layer layer_info then
    layer_info.layer_mux.predecessors.findSome? fun pred =>
      (get_original_names_from_vstream_name_mux original_names vstream_name pred).toOption
  else none

/-- `get_original_names_from_vstream_name` after the group's lookup. -/
def original_names_from_vstream_name (net_group : ProtoHEFNetworkGroupLayers) (vstream_name : String) :
    Except HailoStatus (List String) :=
  match net_group.contexts.findSome? (fun context =>
      context.findSome? (get_original_names_from_vstream_name_layer original_names vstream_name)) with
  | some results => .ok results
  | none => .error .HAILO_NOT_FOUND

/-- `Hef::Impl::get_original_names_from_vstream_name`. -/
def Impl.get_original_names_from_vstream_name (hef : Impl) (vstream_name net_group_name : String) :
    MayFault (List String) := do
  let net_group ← hef.get_net_group_by_name net_group_name
  original_names_from_vstream_name original_names net_group vstream_name

end OriginalNames

/-! ### Unique layer names -/

/-- The body of `validate_net_group_unique_layer_names`'s loop at one name:
`CHECK(!contains(edge_layer_names, layer_name), HAILO_INVALID_HEF, ...)` and
the insertion.  The set is the list of the names inserted, latest first. -/
def insert_layer_name (edge_layer_names : List String) (layer_name : String) :
    Except HailoStatus (List String) := do
  CHECK (layer_name ∉ edge_layer_names) .HAILO_INVALID_HEF
  return layer_name :: edge_layer_names

/-- The body of `validate_net_group_unique_layer_names`'s loop at one layer: a
boundary layer's name, by its `edge_layer_type()`, goes into the set, and a
boundary layer of another type fails. -/
def validate_layer_name (edge_layer_names : List String) (layer : ProtoHEFEdgeLayer) :
    Except HailoStatus (List String) :=
  if layer.context_switch_info.edge_connection_type = .PROTO__EDGE_CONNECTION_TYPE__BOUNDARY then
    match layer.edge_layer_type with
    | .PROTO__EDGE_LAYER_TYPE__INFO => insert_layer_name edge_layer_names layer.layer_info.name
    | .PROTO__EDGE_LAYER_TYPE__MUX => insert_layer_name edge_layer_names layer.layer_mux.name
    | .other _ => throw .HAILO_INVALID_HEF
  else pure edge_layer_names

/-- `Hef::Impl::validate_net_group_unique_layer_names`. -/
def validate_net_group_unique_layer_names (net_group : ProtoHEFNetworkGroupLayers) : Except HailoStatus Unit := do
  let _ ← net_group.contexts.foldlM (fun edge_layer_names context =>
    context.foldlM validate_layer_name edge_layer_names) []
  return ()

/-! ### The mux lookups find the first plain layer -/

mutual

/-- A `_mux` lookup returns for the first plain layer of the tree, depth
first, that matches. -/
theorem search_mux_eq_find {β : Type} (is_match : ProtoHEFEdgeLayerInfo → Bool) (result : ProtoHEFEdgeLayerInfo → β) :
    ∀ edge : ProtoHefEdge, (search_mux is_match result edge).toOption = (edge.leaves.find? is_match).map result
  | .layer_info info => by
    rw [search_mux, ProtoHefEdge.leaves]
    cases h : is_match info <;> simp [h, Except.toOption]
  | .layer_mux (.mk _ _ _ predecessors) => by
    rw [search_mux, ProtoHefEdge.leaves]
    exact search_mux_loop_eq_find is_match result predecessors
  | .EDGE_NOT_SET => rfl

theorem search_mux_loop_eq_find {β : Type} (is_match : ProtoHEFEdgeLayerInfo → Bool) (result : ProtoHEFEdgeLayerInfo → β) :
    ∀ predecessors : List ProtoHefEdge,
      (search_mux_loop is_match result predecessors).toOption =
        ((ProtoHefEdge.leaves_all predecessors).find? is_match).map result
  | [] => rfl
  | pred :: predecessors => by
    have hpred := search_mux_eq_find is_match result pred
    rw [search_mux_loop, ProtoHefEdge.leaves_all, List.find?_append]
    cases h : search_mux is_match result pred with
    | ok res =>
      rw [h] at hpred
      obtain ⟨info, hfind, rfl⟩ := Option.map_eq_some'.1 hpred.symm
      rw [hfind]
      rfl
    | error e =>
      rw [h] at hpred
      rw [Option.map_eq_none'.1 hpred.symm, Option.none_or]
      exact search_mux_loop_eq_find is_match result predecessors

end

/-- A lookup that finds the group runs the rest of the function on it. -/
theorem MayDiverge.run_bind_of_eq_ok {α β : Type} {x : MayDiverge α} {a : α} (hx : x.run = some (.ok a))
    (f : α → Except HailoStatus β) : (x >>= fun a => (monadLift (f a) : MayDiverge β)).run = some (f a) := by
  rw [ExceptT.run_bind, hx]
  exact MayDiverge.run_monadLift (f a)

section Lookups

variable (original_names : ProtoHEFEdgeLayerInfo → List String)

/-! ### Original name to vstream name -/

/-- The vstream names `get_vstream_name_from_original_name` takes at one edge
layer for `original_name`, in order: a plain boundary layer's name once per
time its original names list `original_name`, and for each predecessor of a
device-to-host boundary mux the name of the first plain layer of its tree
that lists it. -/
def layer_original_name_matches (original_name : String) (layer : ProtoHEFEdgeLayer) : List String :=
  if is_h2d_boundary_info_layer layer || is_d2h_boundary_info_layer layer then
    (original_names layer.layer_info).filterMap fun name =>
      if original_name = name then some layer.layer_info.name else none
  else if is_d2h_boundary_mux_layer layer then
    layer.layer_mux.predecessors.filterMap fun pred =>
      (pred.leaves.find? fun info => original_name ∈ original_names info).map (·.name)
  else []

/-- The vstream names `get_vstream_name_from_original_name` takes in a
network group, in order. -/
def original_name_matches (net_group : ProtoHEFNetworkGroupLayers) (original_name : String) : List String :=
  net_group.contexts.flatMap fun context => context.flatMap (layer_original_name_matches original_names original_name)

theorem get_vstream_name_from_original_name_layer_eq (original_name results : String) (layer : ProtoHEFEdgeLayer) :
    get_vstream_name_from_original_name_layer original_names original_name results layer =
      (layer_original_name_matches original_names original_name layer).foldlM set_vstream_name results := by
  rw [get_vstream_name_from_original_name_layer, layer_original_name_matches]
  split_ifs
  · exact foldlM_eq_filterMap _ (fun _ _ => by split_ifs <;> rfl) _ _
  · refine foldlM_eq_filterMap _ (fun _ pred => ?_) _ _
    rw [get_vstream_name_from_original_name_mux, ← search_mux_eq_find]
    cases search_mux _ _ pred <;> rfl
  · rfl

/-- The loops of `get_vstream_name_from_original_name` are one loop over the
names it takes. -/
theorem vstream_name_from_original_name_eq_foldlM (net_group : ProtoHEFNetworkGroupLayers) (original_name : String) :
    vstream_name_from_original_name original_names net_group original_name = do
      let results ← (original_name_matches original_names net_group original_name).foldlM set_vstream_name ""
      CHECK (¬results.isEmpty) .HAILO_NOT_FOUND
      return results := by
  have hlayer : get_vstream_name_from_original_name_layer original_names original_name = fun results layer =>
      (layer_original_name_matches original_names original_name layer).foldlM set_vstream_name results :=
    funext fun results => funext (get_vstream_name_from_original_name_layer_eq original_names original_name results)
  simp only [vstream_name_from_original_name, original_name_matches, hlayer, foldlM_flatMap]

/-- Each name the loop takes is the name of a plain boundary layer whose
original names list `original_name`. -/
theorem exists_leaf_of_mem_original_name_matches {net_group : ProtoHEFNetworkGroupLayers} {original_name s : String}
    (h : s ∈ original_name_matches original_names net_group original_name) :
    ∃ info ∈ boundary_leaves net_group, info.name = s ∧ original_name ∈ original_names info := by
  simp only [original_name_matches, boundary_leaves, List.mem_flatMap] at h ⊢
  obtain ⟨context, hcontext, layer, hlayer, hs⟩ := h
  suffices ∃ info ∈ layer_boundary_leaves layer, info.name = s ∧ original_name ∈ original_names info by
    obtain ⟨info, hinfo, rest⟩ := this
    exact ⟨info, ⟨context, hcontext, layer, hlayer, hinfo⟩, rest⟩
  rw [layer_original_name_matches] at hs
  rw [layer_boundary_leaves]
  split_ifs at hs ⊢
  · obtain ⟨name, hname, hsome⟩ := List.mem_filterMap.1 hs
    split_ifs at hsome with heq
    cases hsome
    exact ⟨_, List.mem_singleton_self _, rfl, heq ▸ hname⟩
  · obtain ⟨pred, hpred, hsome⟩ := List.mem_filterMap.1 hs
    obtain ⟨info, hfind, rfl⟩ := Option.map_eq_some'.1 hsome
    refine ⟨info, ?_, rfl, of_decide_eq_true (List.find?_some hfind :)⟩
    rw [ProtoHefEdge.leaves_all_eq_flatMap]
    exact List.mem_flatMap.2 ⟨pred, hpred, List.mem_of_find?_eq_some hfind⟩
  · cases hs

theorem foldlM_set_vstream_name_mem :
    ∀ {stream_names : List String} {results results' : String},
      stream_names.foldlM set_vstream_name results = .ok results' → results' = results ∨ results' ∈ stream_names
  | [], _, _, h => by cases h; exact .inl rfl
  | s :: stream_names, results, results', h => by
    rw [List.foldlM_cons, Except.bind_eq_ok] at h
    obtain ⟨r, hr, h⟩ := h
    rw [set_vstream_name, CHECK_bind_eq_ok] at hr
    cases hr.2
    rcases foldlM_set_vstream_name_mem h with rfl | h
    · exact .inr (List.mem_cons_self _ _)
    · exact .inr (List.mem_cons_of_mem _ h)

/-- What `get_vstream_name_from_original_name` returns for the vstream names
it takes: the one name, and an error for none or for two. -/
def vstream_name_of_matches : List String → Except HailoStatus String
  | [] => .error .HAILO_NOT_FOUND
  | [stream_name] => .ok stream_name
  | _ :: _ :: _ => .error .HAILO_INVALID_HEF

/-- When every name taken is not empty, the loop and the final check return
the one name taken, and fail at a second. -/
theorem foldlM_set_vstream_name_eq (stream_names : List String) (h : ∀ s ∈ stream_names, s ≠ "") :
    (do
      let results ← stream_names.foldlM set_vstream_name ""
      CHECK (¬results.isEmpty) .HAILO_NOT_FOUND
      return results) = vstream_name_of_matches stream_names := by
  have hne : ∀ s ∈ stream_names, s.isEmpty = false := fun s hs =>
    Bool.eq_false_iff.2 fun he => h s hs ((String.isEmpty_iff s).1 he)
  have hempty : "".isEmpty = true := rfl
  match stream_names, hne with
  | [], _ => rfl
  | [s], hne => simp [List.foldlM, set_vstream_name, vstream_name_of_matches, hempty, hne s (List.mem_singleton_self s)]
  | s :: t :: _, hne =>
    simp [List.foldlM, set_vstream_name, vstream_name_of_matches, hempty, hne s (List.mem_cons_self _ _)]

/-- **An original name maps to the one vstream that takes it.**  When the
plain boundary layers of the group have names, `get_vstream_name_from_original_name`
returns the one name the loops take, fails with `HAILO_NOT_FOUND` when they
take none and with `HAILO_INVALID_HEF` when they take two: a plain layer
takes the name once per time it lists it, and a mux predecessor once for its
whole tree. -/
theorem get_vstream_name_from_original_name_eq (hef : Impl) (original_name net_group_name : String)
    (net_group : ProtoHEFNetworkGroupLayers) (hng : (hef.get_net_group_by_name net_group_name).run = some (.ok net_group))
    (hnames : ∀ info ∈ boundary_leaves net_group, info.name ≠ "") :
    (hef.get_vstream_name_from_original_name original_names original_name net_group_name).run =
      some (vstream_name_of_matches (original_name_matches original_names net_group original_name)) := by
  rw [Impl.get_vstream_name_from_original_name, MayDiverge.run_bind_of_eq_ok hng,
    vstream_name_from_original_name_eq_foldlM, foldlM_set_vstream_name_eq]
  intro s hs
  obtain ⟨info, hinfo, rfl, _⟩ := exists_leaf_of_mem_original_name_matches original_names hs
  exact hnames info hinfo

/-! ### Vstream name to original names -/

theorem get_original_names_from_vstream_name_layer_eq (vstream_name : String) (layer : ProtoHEFEdgeLayer) :
    get_original_names_from_vstream_name_layer original_names vstream_name layer =
      ((layer_boundary_leaves layer).find? fun info => vstream_name = info.name).map original_names := by
  rw [get_original_names_from_vstream_name_layer, layer_boundary_leaves]
  split_ifs with h1 h2 h3
  · simp [h2]
  · simp [h2]
  · rw [ProtoHefEdge.leaves_all_eq_flatMap, ← findSome?_find?_flatMap]
    simp only [get_original_names_from_vstream_name_mux, search_mux_eq_find]
  · rfl

/-- `get_original_names_from_vstream_name` returns the original names of the
first plain boundary layer of the name. -/
theorem original_names_from_vstream_name_eq (net_group : ProtoHEFNetworkGroupLayers) (vstream_name : String) :
    original_names_from_vstream_name original_names net_group vstream_name =
      match (boundary_leaves net_group).find? (fun info => vstream_name = info.name) with
      | some info => .ok (original_names info)
      | none => .error .HAILO_NOT_FOUND := by
  have hlayer : get_original_names_from_vstream_name_layer original_names vstream_name = fun layer =>
      ((layer_boundary_leaves layer).find? fun info => vstream_name = info.name).map original_names :=
    funext (get_original_names_from_vstream_name_layer_eq original_names vstream_name)
  rw [original_names_from_vstream_name, hlayer]
  simp only [findSome?_find?_flatMap, boundary_leaves]
  cases (List.find? _ _) <;> rfl

/-- **Original names round trip.**  When the plain boundary layers of the
group have distinct names, the vstream an original name maps to lists that
original name among its original names. -/
theorem original_names_round_trip (hef : Impl) (net_group_name : String) (net_group : ProtoHEFNetworkGroupLayers)
    (hng : (hef.get_net_group_by_name net_group_name).run = some (.ok net_group))
    (hunique : ((boundary_leaves net_group).map (·.name)).Nodup) (original_name vstream_name : String)
    (h : (hef.get_vstream_name_from_original_name original_names original_name net_group_name).run =
      some (.ok vstream_name)) :
    ∃ names, (hef.get_original_names_from_vstream_name original_names vstream_name net_group_name).run =
      some (.ok names) ∧ original_name ∈ names := by
  rw [Impl.get_vstream_name_from_original_name, MayDiverge.run_bind_of_eq_ok hng, Option.some_inj,
    vstream_name_from_original_name_eq_foldlM, Except.bind_eq_ok] at h
  obtain ⟨results, hresults, h⟩ := h
  rw [CHECK_bind_eq_ok] at h
  obtain ⟨hne, h⟩ := h
  obtain rfl : results = vstream_name := Except.ok.inj h
  have hmem := (foldlM_set_vstream_name_mem hresults).resolve_left fun h => hne (h ▸ rfl)
  obtain ⟨info, hinfo, hname, horig⟩ := exists_leaf_of_mem_original_name_matches original_names hmem
  have hfind : (boundary_leaves net_group).find? (fun info => results = info.name) = some info := by
    have hsome : ((boundary_leaves net_group).find? fun info => results = info.name).isSome :=
      List.find?_isSome.2 ⟨info, hinfo, decide_eq_true hname.symm⟩
    obtain ⟨info', hfind'⟩ := Option.isSome_iff_exists.1 hsome
    have hname' : results = info'.name := of_decide_eq_true (List.find?_some hfind' :)
    rwa [List.inj_on_of_nodup_map hunique hinfo (List.mem_of_find?_eq_some hfind') (hname.trans hname')]
  refine ⟨original_names info, ?_, horig⟩
  rw [Impl.get_original_names_from_vstream_name, MayDiverge.run_bind_of_eq_ok hng,
    original_names_from_vstream_name_eq, hfind]

end Lookups

/-! ### An example -/

/-- A plain layer named `name`. -/
def plain_layer_info (name : String) : ProtoHEFEdgeLayerInfo := ⟨name, default, false⟩

/-- A device-to-host boundary layer. -/
def d2h_boundary_layer (edge_layer_type : ProtoHEFEdgeLayerType) (edge : ProtoHefEdge) : ProtoHEFEdgeLayer :=
  ⟨.PROTO__EDGE_LAYER_DIRECTION__DEVICE_TO_HOST, edge_layer_type, edge,
    ⟨.PROTO__EDGE_CONNECTION_TYPE__BOUNDARY, 0, 0, [], 0⟩, 0⟩

/-- A group of one context: a boundary mux `mux`, whose one predecessor is a
mux of the plain layers `a` and `b`, and a plain boundary layer `c`. -/
def mux_and_plain_group : ProtoHEFNetworkGroupLayers :=
  ⟨"net_group", false, ["net"], false, [],
    [[d2h_boundary_layer .PROTO__EDGE_LAYER_TYPE__MUX (.layer_mux (.mk "mux" default default
        [.layer_mux (.mk "inner" default default [.layer_info (plain_layer_info "a"), .layer_info (plain_layer_info "b")])])),
      d2h_boundary_layer .PROTO__EDGE_LAYER_TYPE__INFO (.layer_info (plain_layer_info "c"))]]⟩

/-- An HEF of the one group `mux_and_plain_group`. -/
def mux_and_plain_hef : Impl := ⟨[⟨mux_and_plain_group, []⟩], .OTHER⟩

/-- Layers `a` and `b` both list `x`; layer `c` lists `y` twice. -/
def mux_and_plain_original_names (info : ProtoHEFEdgeLayerInfo) : List String :=
  if info.name = "c" then ["y", "y"] else ["x"]

/-- `x`, listed by two plain layers of one predecessor's tree, maps to the
first; `y`, listed twice by one plain layer, is a duplicate. -/
theorem get_vstream_name_from_original_name_mux_and_plain :
    (mux_and_plain_hef.get_vstream_name_from_original_name mux_and_plain_original_names "x" "").run =
        some (.ok "a") ∧
      (mux_and_plain_hef.get_vstream_name_from_original_name mux_and_plain_original_names "y" "").run =
        some (.error .HAILO_INVALID_HEF) :=
  ⟨(get_vstream_name_from_original_name_eq mux_and_plain_original_names mux_and_plain_hef "x" "" mux_and_plain_group
      rfl (by decide)).trans rfl,
    (get_vstream_name_from_original_name_eq mux_and_plain_original_names mux_and_plain_hef "y" "" mux_and_plain_group
      rfl (by decide)).trans rfl⟩

theorem original_names_round_trip_mux_and_plain :
    ∃ names, (mux_and_plain_hef.get_original_names_from_vstream_name mux_and_plain_original_names "a" "").run =
      some (.ok names) ∧ "x" ∈ names :=
  original_names_round_trip mux_and_plain_original_names mux_and_plain_hef "" mux_and_plain_group rfl (by decide)
    "x" "a" rfl

/-! ### Unique layer names -/

/-- Whether a layer gets past the type dispatch of
`validate_net_group_unique_layer_names`: it is not a boundary layer, or it is a
plain layer or a mux. -/
def has_known_type (layer : ProtoHEFEdgeLayer) : Bool :=
  layer.context_switch_info.edge_connection_type ≠ .PROTO__EDGE_CONNECTION_TYPE__BOUNDARY ||
    layer.edge_layer_type = .PROTO__EDGE_LAYER_TYPE__INFO || layer.edge_layer_type = .PROTO__EDGE_LAYER_TYPE__MUX

/-- The name `validate_net_group_unique_layer_names` inserts for a layer. -/
def boundary_layer_name (layer : ProtoHEFEdgeLayer) : Option String :=
  if layer.context_switch_info.edge_connection_type = .PROTO__EDGE_CONNECTION_TYPE__BOUNDARY then
    match layer.edge_layer_type with
    | .PROTO__EDGE_LAYER_TYPE__INFO => some layer.layer_info.name
    | .PROTO__EDGE_LAYER_TYPE__MUX => some layer.layer_mux.name
    | .other _ => none
  else none

/-- The names `validate_net_group_unique_layer_names` inserts, in order. -/
def boundary_layer_names (net_group : ProtoHEFNetworkGroupLayers) : List String :=
  net_group.contexts.flatMap fun context => context.filterMap boundary_layer_name

/-- One layer: the insertion of its name when its type is known. -/
theorem validate_layer_name_eq (edge_layer_names : List String) (layer : ProtoHEFEdgeLayer) :
    validate_layer_name edge_layer_names layer =
      if has_known_type layer then
        match boundary_layer_name layer with
        | some layer_name => insert_layer_name edge_layer_names layer_name
        | none => pure edge_layer_names
      else .error .HAILO_INVALID_HEF := by
  unfold validate_layer_name has_known_type boundary_layer_name
  by_cases hb : layer.context_switch_info.edge_connection_type = .PROTO__EDGE_CONNECTION_TYPE__BOUNDARY
  · cases layer.edge_layer_type <;> simp [hb]
    rfl
  · simp [hb]

/-- An insertion fails only with `HAILO_INVALID_HEF`. -/
theorem insert_layer_name_bind_error {edge_layer_names : List String} {layer_name : String} {α : Type} :
    (insert_layer_name edge_layer_names layer_name >>= fun _ => (.error .HAILO_INVALID_HEF : Except HailoStatus α)) =
      .error .HAILO_INVALID_HEF := by
  unfold insert_layer_name CHECK
  split_ifs <;> rfl

/-- The loop over the layers: an unknown type fails with the status a repeated
name fails with, so the loop is the insertion of the names when every type is
known, and fails otherwise. -/
theorem foldlM_validate_layer_name :
    ∀ (layers : List ProtoHEFEdgeLayer) (edge_layer_names : List String),
      layers.foldlM validate_layer_name edge_layer_names =
        if layers.all has_known_type then (layers.filterMap boundary_layer_name).foldlM insert_layer_name edge_layer_names
        else .error .HAILO_INVALID_HEF
  | [], _ => rfl
  | layer :: layers, edge_layer_names => by
    rw [List.foldlM_cons, validate_layer_name_eq, List.all_cons, List.filterMap_cons]
    by_cases hk : has_known_type layer
    · simp only [hk, if_true, Bool.true_and, foldlM_validate_layer_name layers]
      rcases boundary_layer_name layer with _ | layer_name <;> dsimp only
      · -- no name: the set is unchanged
        rfl
      · -- a name: the loop goes on from the set with it
        rw [List.foldlM_cons]
        split_ifs
        · rfl
        · exact insert_layer_name_bind_error
    · simp only [hk, Bool.false_eq_true, if_false, Bool.false_and]
      rfl

/-- The loop of inserts fails exactly when a name is inserted twice. -/
theorem foldlM_insert_layer_name :
    ∀ (layer_names edge_layer_names : List String), edge_layer_names.Nodup →
      layer_names.foldlM insert_layer_name edge_layer_names =
        if (layer_names.reverse ++ edge_layer_names).Nodup then .ok (layer_names.reverse ++ edge_layer_names)
        else .error .HAILO_INVALID_HEF
  | [], edge_layer_names, h => by rw [List.reverse_nil, List.nil_append, if_pos h]; rfl
  | layer_name :: layer_names, edge_layer_names, h => by
    have hrev : (layer_name :: layer_names).reverse ++ edge_layer_names =
        layer_names.reverse ++ layer_name :: edge_layer_names := by
      rw [List.reverse_cons, List.append_assoc, List.singleton_append]
    rw [List.foldlM_cons, insert_layer_name, hrev]
    by_cases hmem : layer_name ∈ edge_layer_names
    · rw [CHECK_neg (not_not.2 hmem), if_neg fun hnd => (List.nodup_cons.1 (List.nodup_append.1 hnd).2.1).1 hmem]
      rfl
    · rw [CHECK_pos hmem, Except.ok_bind, pure_bind]
      exact foldlM_insert_layer_name layer_names _ (List.nodup_cons.2 ⟨hmem, h⟩)

/-- **Unique layer names.**  `validate_net_group_unique_layer_names` succeeds
exactly when every boundary layer of the group is a plain layer or a mux and
the names of the boundary layers, a plain layer's or a mux's own, across all
contexts, are distinct; otherwise it fails with `HAILO_INVALID_HEF`.  The
names of a mux's plain layers are not checked. -/
theorem validate_net_group_unique_layer_names_eq (net_group : ProtoHEFNetworkGroupLayers) :
    validate_net_group_unique_layer_names net_group =
      if (net_group.contexts.all fun context => context.all has_known_type) ∧
          (boundary_layer_names net_group).Nodup then .ok ()
      else .error .HAILO_INVALID_HEF := by
  rw [validate_net_group_unique_layer_names, foldlM_flatMap validate_layer_name (fun context => context),
    foldlM_validate_layer_name, List.filterMap_flatMap, ← boundary_layer_names,
    foldlM_insert_layer_name _ [] List.nodup_nil]
  simp only [List.all_flatMap, List.append_nil, List.nodup_reverse, ite_and]
  split_ifs <;> rfl

end Hef
end HailoRT
