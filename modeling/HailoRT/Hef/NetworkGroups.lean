/-
# Network groups by name

`Hef::Impl` keeps the HEF's network groups in `m_groups`, which
`transfer_protobuf_field_ownership` (`hef.cpp`, lines 491-517) fills by moving
`ReleaseLast()` of the proto field until the field is empty: `m_groups` is the
file's list reversed (`transfer_protobuf_field_ownership_m_groups`).

The lookups read a group through its own metadata, or on a `HAILO8L` HEF
through its first partial network group, `partial_network_groups(0)`:

| function                             | lines     | the empty name               |
| `get_network_groups_names`           | 3589-3601 |                              |
| `get_net_group_by_name`              | 923-953   | `m_groups[0]`                |
| `get_network_group_and_network_name` | 879-921   | `m_groups[0]`, default network |

So the group an empty name addresses, "the default network group", is the last
group of the file (`default_network_group_last`).  `fill_networks_metadata`
(lines 422-453) keys each group's metadata by its name and fails at a name
seen before, so on the archs other than `HAILO8L` a parsed HEF has distinct
group names and a lookup finds each group by its name
(`get_net_group_by_name_parsed`).  On a `HAILO8L` HEF
`get_net_group_by_name` finds a group by its first partial group's name but
returns `m_groups[0]`'s first partial group: every name of the HEF resolves to
that one group (`get_net_group_by_name_hailo8l`).

`partial_network_groups(0)` of a group with none, and `m_groups[0]` of an HEF
with no group, are undefined behaviour (`MayFault`).  `HailoRTDefaults::
get_network_name`, the name of a group's default network, is not among the
sources and is a parameter.
-/

import HailoRT.Hef.LayerInfo
import HailoRT.Hef.ContextRecipes

namespace HailoRT
namespace Hef

/-! ### The network groups of an HEF -/

/-- An entry of `partial_network_groups()`: a cluster layout and the network
group compiled for it. -/
structure ProtoHEFPartialNetworkGroup where
  partial_clusters_layout_bitmap : Nat
  network_group : ProtoHEFNetworkGroupLayers

/-- A `ProtoHEFNetworkGroup` of `m_groups` as the lookups read it: its own
metadata and layers, and its partial network groups. -/
structure HefNetworkGroup where
  network_group : ProtoHEFNetworkGroupLayers
  partial_network_groups : List ProtoHEFPartialNetworkGroup

/-- `partial_network_groups(i).network_group()`; a read past the end of the
repeated field is undefined behaviour. -/
def HefNetworkGroup.partial_network_group (g : HefNetworkGroup) (i : Nat) :
    MayFault ProtoHEFNetworkGroupLayers :=
  match g.partial_network_groups[i]? with
  | some partial_group => pure partial_group.network_group
  | none => ExceptT.mk none

/-- `(PROTO__HW_ARCH__HAILO8L == get_device_arch()) ?
&net_group->partial_network_groups(0).network_group() : net_group.get()`, the
group each lookup reads. -/
def HefNetworkGroup.lookup_group (hw_arch : ProtoHEFHwArch) (g : HefNetworkGroup) :
    MayFault ProtoHEFNetworkGroupLayers :=
  if hw_arch = .HAILO8L then g.partial_network_group 0 else pure g.network_group

/-- The state of `Hef::Impl` the lookups read: `m_groups`, and the header's
`hw_arch()`, which `get_device_arch()` returns. -/
structure Impl where
  m_groups : List HefNetworkGroup
  hw_arch : ProtoHEFHwArch

/-- The loop of `transfer_protobuf_field_ownership`: while the proto's
`network_groups()` is not empty, move its `ReleaseLast()` to the back of
`m_groups`. -/
def release_network_groups (m_groups network_groups : List HefNetworkGroup) : List HefNetworkGroup :=
  if h : network_groups.isEmpty then m_groups
  else
    let network_group := network_groups.getLast fun h0 => h (List.isEmpty_iff.2 h0)
    release_network_groups (m_groups ++ [network_group]) network_groups.dropLast
termination_by network_groups.length
decreasing_by
  rw [List.length_dropLast]
  exact Nat.sub_lt (List.length_pos.2 fun h0 => h (List.isEmpty_iff.2 h0)) Nat.one_pos

/-- `transfer_protobuf_field_ownership`, through `m_groups` and the header's
`hw_arch()`. -/
def transfer_protobuf_field_ownership (network_groups : List HefNetworkGroup) (hw_arch : ProtoHEFHwArch) :
    Impl :=
  ⟨release_network_groups [] network_groups, hw_arch⟩

/-- The loop of `Hef::Impl::fill_networks_metadata` over `m_groups`, through
the names it reads: `network_group_name`, declared before the loop, which on
`HAILO8L` each partial group of a group sets in turn, and the names of
`m_network_group_metadata_per_arch` so far.  Of `create_metadata_per_arch`,
a parameter, only the failure matters here. -/
def fill_networks_metadata_loop (create_metadata_per_arch : ProtoHEFNetworkGroupLayers → Except HailoStatus Unit)
    (hw_arch : ProtoHEFHwArch) : String → List String → List HefNetworkGroup → Except HailoStatus (List String)
  | _, metadata_names, [] => .ok metadata_names
  | network_group_name, metadata_names, network_group :: rest => do
    let network_group_name ← if hw_arch = .HAILO8L then
        network_group.partial_network_groups.foldlM (fun _ partial_network_group => do
          create_metadata_per_arch partial_network_group.network_group
          pure partial_network_group.network_group.network_group_name) network_group_name
      else do
        create_metadata_per_arch network_group.network_group
        pure network_group.network_group.network_group_name
    CHECK (network_group_name ∉ metadata_names) .HAILO_INVALID_OPERATION
    fill_networks_metadata_loop create_metadata_per_arch hw_arch network_group_name
      (metadata_names ++ [network_group_name]) rest

namespace Impl

/-- `Hef::Impl::fill_networks_metadata`, through the names of
`m_network_group_metadata_per_arch`. -/
def fill_networks_metadata (create_metadata_per_arch : ProtoHEFNetworkGroupLayers → Except HailoStatus Unit)
    (hef : Impl) : Except HailoStatus (List String) :=
  fill_networks_metadata_loop create_metadata_per_arch hef.hw_arch "" [] hef.m_groups

/-- `get_network_groups_names`. -/
def get_network_groups_names (hef : Impl) : MayFault (List String) :=
  hef.m_groups.mapM fun net_group => (·.network_group_name) <$> net_group.lookup_group hef.hw_arch

/-- The loop of `get_net_group_by_name` over `m_groups`.  On `HAILO8L` it
compares with each group's first partial group, and returns `m_groups[0]`'s. -/
def get_net_group_by_name_loop (hef : Impl) (net_group_name : String) :
    List HefNetworkGroup → MayFault ProtoHEFNetworkGroupLayers
  | [] => throw .HAILO_NOT_FOUND
  | net_group :: rest =>
    if hef.hw_arch = .HAILO8L then do
      let partial_group ← net_group.partial_network_group 0
      if net_group_name = partial_group.network_group_name then
        match hef.m_groups with
        | [] => ExceptT.mk none
        | first :: _ => first.partial_network_group 0
      else get_net_group_by_name_loop hef net_group_name rest
    else if net_group_name = net_group.network_group.network_group_name then pure net_group.network_group
    else get_net_group_by_name_loop hef net_group_name rest

/-- `get_net_group_by_name`: the empty name addresses `m_groups[0]`. -/
def get_net_group_by_name (hef : Impl) (net_group_name : String) : MayFault ProtoHEFNetworkGroupLayers :=
  if net_group_name = "" then
    match hef.m_groups with
    | [] => ExceptT.mk none
    | first :: _ => first.lookup_group hef.hw_arch
  else get_net_group_by_name_loop hef net_group_name hef.m_groups

section Networks

variable (env : LayerEnv) (default_network_name : String → String)

/-- The loop of `get_network_group_and_network_name` over `m_groups`: a group's
name gives its default network; then the full names of its networks; then the
name of its default network. -/
def get_network_group_and_network_name_loop (hef : Impl) (name : String) :
    List HefNetworkGroup → MayFault (String × String)
  | [] => throw .HAILO_NOT_FOUND
  | net_group :: rest => do
    let network_group_ptr ← net_group.lookup_group hef.hw_arch
    let network_group_name := network_group_ptr.network_group_name
    if name = network_group_name then
      return (network_group_name, default_network_name network_group_name)
    else match network_group_ptr.networks_names.find? (fun partial_network_name =>
        name = get_network_name env network_group_ptr partial_network_name) with
    | some partial_network_name =>
      return (network_group_name, get_network_name env network_group_ptr partial_network_name)
    | none =>
      if name = default_network_name network_group_name then return (network_group_name, name)
      else get_network_group_and_network_name_loop hef name rest

/-- `get_network_group_and_network_name`: the empty name addresses all the
networks of `m_groups[0]`. -/
def get_network_group_and_network_name (hef : Impl) (name : String) : MayFault (String × String) :=
  if name = "" then
    match hef.m_groups with
    | [] => ExceptT.mk none
    | first :: _ => do
      let network_group_ptr ← first.lookup_group hef.hw_arch
      return (network_group_ptr.network_group_name, default_network_name network_group_ptr.network_group_name)
  else get_network_group_and_network_name_loop env default_network_name hef name hef.m_groups

end Networks

end Impl

/-! ### `m_groups` is the file reversed -/

theorem release_network_groups_eq (m_groups network_groups : List HefNetworkGroup) :
    release_network_groups m_groups network_groups = m_groups ++ network_groups.reverse := by
  induction network_groups using List.reverseRecOn generalizing m_groups with
  | nil => rw [release_network_groups, dif_pos List.isEmpty_nil, List.reverse_nil, List.append_nil]
  | append_singleton gs g ih =>
    rw [release_network_groups, dif_neg (by simp)]
    simp only [List.getLast_append_singleton, List.dropLast_concat, ih, List.reverse_append,
      List.reverse_singleton, List.append_assoc, List.singleton_append]

@[simp] theorem transfer_protobuf_field_ownership_m_groups (network_groups : List HefNetworkGroup)
    (hw_arch : ProtoHEFHwArch) :
    (transfer_protobuf_field_ownership network_groups hw_arch).m_groups = network_groups.reverse := by
  rw [transfer_protobuf_field_ownership, release_network_groups_eq, List.nil_append]

/-! ### The group a lookup reads -/

theorem HefNetworkGroup.lookup_group_hailo8l (g : HefNetworkGroup) :
    g.lookup_group .HAILO8L = g.partial_network_group 0 :=
  if_pos rfl

theorem HefNetworkGroup.partial_network_group_zero (network_group : ProtoHEFNetworkGroupLayers)
    (partial_group : ProtoHEFPartialNetworkGroup) (rest : List ProtoHEFPartialNetworkGroup) :
    (HefNetworkGroup.mk network_group (partial_group :: rest)).partial_network_group 0 =
      pure partial_group.network_group := by
  simp only [HefNetworkGroup.partial_network_group, List.getElem?_cons_zero]

theorem MayDiverge.run_map_eq_ok {α β : Type} {f : α → β} {x : MayDiverge α} {b : β} :
    (f <$> x).run = some (.ok b) ↔ ∃ a, x.run = some (.ok a) ∧ f a = b := by
  rw [ExceptT.run_map]
  rcases x.run with _ | _ | a <;> simp [Except.map]

/-! ### Lookup by name -/

namespace Impl

/-- On the other archs the loop of `get_net_group_by_name` is a search of
`m_groups` for the first group of the name. -/
theorem get_net_group_by_name_loop_eq_find (hef : Impl) (h8l : hef.hw_arch ≠ .HAILO8L) (net_group_name : String) :
    ∀ network_groups : List HefNetworkGroup, hef.get_net_group_by_name_loop net_group_name network_groups =
      match network_groups.find? (fun g => net_group_name = g.network_group.network_group_name) with
      | some g => pure g.network_group
      | none => throw .HAILO_NOT_FOUND
  | [] => rfl
  | g :: gs => by
    rw [get_net_group_by_name_loop, if_neg h8l, List.find?_cons]
    by_cases hn : net_group_name = g.network_group.network_group_name
    · simp only [hn, decide_True, if_true]
    · simp only [hn, decide_False, if_false]
      exact get_net_group_by_name_loop_eq_find hef h8l net_group_name gs

/-- On an arch other than `HAILO8L`, a name finds the group of that name that
comes last in the HEF's file. -/
theorem get_net_group_by_name_transfer (hw_arch : ProtoHEFHwArch) (h8l : hw_arch ≠ .HAILO8L)
    (name : String) (hname : name ≠ "") (pre post : List HefNetworkGroup) (g : HefNetworkGroup)
    (hg : g.network_group.network_group_name = name)
    (hpost : ∀ g' ∈ post, g'.network_group.network_group_name ≠ name) :
    ((transfer_protobuf_field_ownership (pre ++ g :: post) hw_arch).get_net_group_by_name name).run =
      some (.ok g.network_group) := by
  have hfind : ((pre ++ g :: post).reverse.find? fun g' => name = g'.network_group.network_group_name) = some g := by
    rw [List.reverse_append, List.reverse_cons, List.append_assoc, List.find?_append,
      List.find?_eq_none.2 fun g' hg' => by simpa [eq_comm] using hpost g' (List.mem_reverse.1 hg')]
    simp [hg]
  rw [get_net_group_by_name, if_neg hname, get_net_group_by_name_loop_eq_find _ h8l,
    transfer_protobuf_field_ownership_m_groups, hfind]
  rfl

/-- A group named `name` of the one network `net`, whose one partial group has
the same name; `transposed_net` tells two groups of one name apart. -/
def sample_group (name : String) (transposed_net : Bool) : HefNetworkGroup :=
  ⟨⟨name, transposed_net, ["net"], false, [], []⟩, [⟨0, ⟨name, transposed_net, ["net"], false, [], []⟩⟩]⟩

/-- On an arch other than `HAILO8L`, `fill_networks_metadata` keys the
metadata by each group's name, and fails at a name seen before. -/
theorem fill_networks_metadata_loop_nodup (create_metadata_per_arch : ProtoHEFNetworkGroupLayers → Except HailoStatus Unit)
    {hw_arch : ProtoHEFHwArch} (h8l : hw_arch ≠ .HAILO8L) :
    ∀ (network_group_name : String) (metadata_names : List String) (network_groups : List HefNetworkGroup)
      (result : List String), metadata_names.Nodup →
      fill_networks_metadata_loop create_metadata_per_arch hw_arch network_group_name metadata_names network_groups =
        .ok result →
      (metadata_names ++ network_groups.map (·.network_group.network_group_name)).Nodup
  | _, _, [], _, hnodup, _ => by rwa [List.map_nil, List.append_nil]
  | _, metadata_names, g :: gs, result, hnodup, h => by
    rw [fill_networks_metadata_loop, if_neg h8l, Except.bind_eq_ok] at h
    obtain ⟨_, _, h⟩ := h
    rw [pure_bind] at h
    obtain ⟨hfresh, h⟩ := CHECK_bind_eq_ok.1 h
    have hnext := fill_networks_metadata_loop_nodup create_metadata_per_arch h8l _ _ gs result
      (List.nodup_append.2 ⟨hnodup, List.nodup_singleton _, List.disjoint_singleton.2 hfresh⟩) h
    rwa [List.map_cons, ← List.singleton_append, ← List.append_assoc]

/-- **Each group of a parsed HEF is found by its name.**  On an arch other than
`HAILO8L`, an HEF whose metadata `fill_networks_metadata` fills has distinct
group names, and `get_net_group_by_name` finds each group by its name. -/
theorem get_net_group_by_name_parsed (create_metadata_per_arch : ProtoHEFNetworkGroupLayers → Except HailoStatus Unit)
    (network_groups : List HefNetworkGroup) (hw_arch : ProtoHEFHwArch) (h8l : hw_arch ≠ .HAILO8L)
    (metadata_names : List String)
    (hparsed : (transfer_protobuf_field_ownership network_groups hw_arch).fill_networks_metadata
      create_metadata_per_arch = .ok metadata_names)
    (g : HefNetworkGroup) (hg : g ∈ network_groups) (hname : g.network_group.network_group_name ≠ "") :
    ((transfer_protobuf_field_ownership network_groups hw_arch).get_net_group_by_name
      g.network_group.network_group_name).run = some (.ok g.network_group) := by
  have hnodup := fill_networks_metadata_loop_nodup create_metadata_per_arch h8l _ _ _ _ List.nodup_nil hparsed
  rw [List.nil_append, transfer_protobuf_field_ownership_m_groups, List.map_reverse, List.nodup_reverse] at hnodup
  obtain ⟨pre, post, rfl⟩ := List.append_of_mem hg
  rw [List.map_append, List.map_cons] at hnodup
  have hfresh := (List.nodup_cons.1 (List.nodup_middle.1 hnodup)).1
  refine get_net_group_by_name_transfer hw_arch h8l _ hname pre post g rfl fun g' hg' heq => hfresh ?_
  rw [← heq]
  exact List.mem_append_right _ (List.mem_map_of_mem _ hg')

theorem get_net_group_by_name_parsed_a :
    ((transfer_protobuf_field_ownership [sample_group "a" false, sample_group "b" false] .OTHER).get_net_group_by_name
      "a").run = some (.ok (sample_group "a" false).network_group) :=
  get_net_group_by_name_parsed (fun _ => .ok ()) [sample_group "a" false, sample_group "b" false] .OTHER nofun
    ["b", "a"] (by rw [Impl.fill_networks_metadata, transfer_protobuf_field_ownership_m_groups]; rfl)
    (sample_group "a" false) (List.mem_cons_self _ _) (by decide)

/-- **The default network group is the last of the file.**  The empty name
addresses `m_groups[0]`, for both lookups by name. -/
theorem default_network_group_last (env : LayerEnv) (default_network_name : String → String)
    (network_groups : List HefNetworkGroup) (h : network_groups ≠ []) (hw_arch : ProtoHEFHwArch) :
    (transfer_protobuf_field_ownership network_groups hw_arch).get_net_group_by_name "" =
        (network_groups.getLast h).lookup_group hw_arch ∧
      (transfer_protobuf_field_ownership network_groups hw_arch).get_network_group_and_network_name env
          default_network_name "" =
        (fun ptr => (ptr.network_group_name, default_network_name ptr.network_group_name)) <$>
          (network_groups.getLast h).lookup_group hw_arch := by
  have hrev : network_groups.reverse = network_groups.getLast h :: network_groups.dropLast.reverse := by
    conv_lhs => rw [← List.dropLast_append_getLast h]
    rw [List.reverse_append, List.reverse_singleton, List.singleton_append]
  simp only [get_net_group_by_name, get_network_group_and_network_name, if_pos, transfer_protobuf_field_ownership_m_groups,
    hrev]
  exact ⟨rfl, bind_pure_comp _ _⟩

theorem default_network_group_last_b :
    ((transfer_protobuf_field_ownership [sample_group "a" false, sample_group "b" false] .OTHER).get_net_group_by_name
        "" = pure (sample_group "b" false).network_group) ∧
      (transfer_protobuf_field_ownership [sample_group "a" false, sample_group "b" false]
          .OTHER).get_network_group_and_network_name nhcw_env (· ++ "/default") "" = pure ("b", "b/default") :=
  default_network_group_last nhcw_env (· ++ "/default") [sample_group "a" false, sample_group "b" false]
    (List.cons_ne_nil _ _) .OTHER

/-- On `HAILO8L` the loop of `get_net_group_by_name` returns `m_groups[0]`'s
first partial group as soon as some group's first partial group has the
name, which is the case for every name `get_network_groups_names` lists. -/
theorem get_net_group_by_name_loop_hailo8l (hef : Impl) (h8l : hef.hw_arch = .HAILO8L) (name : String) :
    ∀ (network_groups : List HefNetworkGroup) (names : List String),
      (network_groups.mapM fun net_group : HefNetworkGroup =>
          ((·.network_group_name) <$> net_group.lookup_group hef.hw_arch : MayFault String)).run =
        some (.ok names) →
      name ∈ names →
      hef.get_net_group_by_name_loop name network_groups =
        match hef.m_groups with
        | [] => ExceptT.mk none
        | first :: _ => first.partial_network_group 0
  | [], _, h, hname => by
    cases h
    exact absurd hname (List.not_mem_nil _)
  | ⟨network_group, partial_groups⟩ :: gs, names, h, hname => by
    rw [List.mapM_cons, MayDiverge.run_bind_eq_ok] at h
    obtain ⟨n, hn, h⟩ := h
    obtain ⟨ns, hns, h⟩ := MayDiverge.run_bind_eq_ok.1 h
    cases h
    rw [h8l, HefNetworkGroup.lookup_group_hailo8l, MayDiverge.run_map_eq_ok] at hn
    obtain ⟨ptr, hptr, rfl⟩ := hn
    rcases partial_groups with _ | ⟨partial_group, rest⟩
    · cases hptr
    rw [HefNetworkGroup.partial_network_group_zero] at hptr
    cases hptr
    rw [get_net_group_by_name_loop, if_pos h8l, HefNetworkGroup.partial_network_group_zero, pure_bind]
    by_cases hn : name = partial_group.network_group.network_group_name
    · rw [if_pos hn]
    · rw [if_neg hn]
      exact get_net_group_by_name_loop_hailo8l hef h8l name gs ns hns ((List.mem_cons.1 hname).resolve_left hn)

/-- **On `HAILO8L` every name finds the default group.**  Each name that
`get_network_groups_names` lists makes `get_net_group_by_name` return what
the empty name returns: `m_groups[0]`'s first partial group. -/
theorem get_net_group_by_name_hailo8l (hef : Impl) (h8l : hef.hw_arch = .HAILO8L) (names : List String)
    (hnames : hef.get_network_groups_names.run = some (.ok names)) (name : String) (hname : name ∈ names) :
    hef.get_net_group_by_name name = hef.get_net_group_by_name "" := by
  by_cases hempty : name = ""
  · rw [hempty]
  rw [get_net_group_by_name, if_neg hempty,
    get_net_group_by_name_loop_hailo8l hef h8l name hef.m_groups names hnames hname, get_net_group_by_name, if_pos rfl]
  rcases hef.m_groups with _ | ⟨first, _⟩
  · rfl
  · rw [h8l]
    exact (HefNetworkGroup.lookup_group_hailo8l first).symm

/-- On a `HAILO8L` HEF of groups `a` then `b`, the name `b` finds `a`. -/
theorem get_net_group_by_name_hailo8l_b_finds_a :
    (Impl.mk [sample_group "a" false, sample_group "b" true] .HAILO8L).get_net_group_by_name "b" =
      pure (sample_group "a" false).network_group :=
  get_net_group_by_name_hailo8l ⟨[sample_group "a" false, sample_group "b" true], .HAILO8L⟩ rfl ["a", "b"] rfl "b"
    (List.mem_cons_of_mem _ (List.mem_singleton_self _))

end Impl

/-- `Hef::Impl::contains_ddr_layers`. -/
def contains_ddr_layers (net_group : ProtoHEFNetworkGroupLayers) : Bool :=
  net_group.contexts.any fun edge_layers => edge_layers.any fun layer =>
    layer.context_switch_info.edge_connection_type == .PROTO__EDGE_CONNECTION_TYPE__DDR

end Hef
end HailoRT
