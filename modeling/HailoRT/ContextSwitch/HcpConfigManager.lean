/-
# Configuring an HEF on a single-context device

`HcpConfigManager::add_hef` (`hcp_config_manager.cpp`, lines 41-147)
configures each group of an HEF on a device that runs one context.  Its loop
over `hef.pimpl->network_groups()`, which is `m_groups`, takes each group
through these steps, and returns at the first that fails:

| step                                        | fails with                     | changes                  |
| pick `network_group_ptr`                    | `HAILO_INTERNAL_FAILURE`       | `network_group_ptr`      |
| one context, no DDR layer, unique names     | `INTERNAL_FAILURE`, `INVALID_OPERATION`, `INVALID_HEF` |  |
| its config, its configure params, the group | what the callee returns        | `configure_params_copy`  |
| `m_net_groups.emplace_back`                 |                                | `m_net_groups`           |
| `ConfiguredNetworkGroupWrapper::create`     | what it returns                |                          |
| `m_net_group_wrappers.emplace_back`         |                                | the wrappers, the index  |
| the group's streams                         | what they return               |                          |

After the loop, a key of `configure_params` that no group took fails the
call with `HAILO_INVALID_ARGUMENT`.

A failure keeps what the steps before it changed: the groups configured
before it stay in `m_net_groups` and `m_net_group_wrappers`, and a failed
wrapper leaves `m_net_groups` one group longer.  The index of each group is a
`uint8_t` counted from `m_net_groups.size()` (`add_hef_keeps_added`).  A call
that succeeds gave every configure params it was passed to a group of that
name (`add_hef_applies_configure_params`).

On a `HAILO8L` HEF `network_group_ptr` is the first partial group whose
layout fits the device.  The loop never resets it, so a group none of whose
partial groups fits is configured as the partial group picked before it:
`add_hef` configures the HEF in which each such group is replaced by the
last group before it that fits (`add_hef_hailo8l_replaces_unfit_groups`).

The device, the HEF's metadata and the classes `add_hef` constructs are not
among the sources; what `add_hef` asks of them is `AddHefEnv`.  The
`make_shared_nothrow` allocations are taken to succeed.
-/

import HailoRT.Hef.OriginalNames

namespace HailoRT
namespace ContextSwitch

open Hef

/-! ### The manager -/

/-- `hailo_device_architecture_t`, through the value `add_hef` compares with. -/
inductive HailoDeviceArchitecture
  | HAILO_ARCH_HAILO8
  | OTHER
  deriving DecidableEq, Repr

/-- An `HcpConfigNetworkGroup`, through what `add_hef` builds it from. -/
structure HcpConfigNetworkGroup (Config Params : Type) where
  network_group_name : String
  net_group_config : Config
  config_params : Params
  net_group_index : Nat
  deriving DecidableEq, Repr

/-- The members of `HcpConfigManager` that `add_hef` changes; a wrapper is
known by the group it wraps. -/
structure HcpConfigManager (Config Params : Type) where
  m_net_groups : List (HcpConfigNetworkGroup Config Params)
  m_net_group_wrappers : List (HcpConfigNetworkGroup Config Params)
  deriving DecidableEq, Repr

/-- What `add_hef` asks of the device and of the code that is not among the
sources. -/
structure AddHefEnv (Config Params : Type) where
  /-- `m_device.get_architecture()`. -/
  get_architecture : Except HailoStatus HailoDeviceArchitecture
  /-- `Control::get_partial_clusters_layout_bitmap(m_device)`. -/
  get_partial_clusters_layout_bitmap : Except HailoStatus Nat
  /-- `Control::reset_context_switch_state_machine(m_device, false)`. -/
  reset_context_switch_state_machine : Except HailoStatus Unit
  /-- `Hef::Impl::create_single_context_network_group_config` of the group's
  `preliminary_config()`. -/
  create_single_context_network_group_config : ProtoHEFNetworkGroupLayers → Except HailoStatus Config
  /-- `m_device.get_default_streams_interface()` and then
  `hef.create_configure_params(interface, name)`. -/
  create_configure_params : String → Except HailoStatus Params
  /-- `hef.pimpl->get_network_group_metadata(name)` and the status the
  `HcpConfigNetworkGroup` constructor sets. -/
  create_network_group : HcpConfigNetworkGroup Config Params → Except HailoStatus Unit
  /-- `ConfiguredNetworkGroupWrapper::create`. -/
  create_wrapper : HcpConfigNetworkGroup Config Params → Except HailoStatus Unit
  /-- `create_streams_from_config_params(m_device)` and then
  `validate_boundary_streams_were_created`. -/
  create_streams : HcpConfigNetworkGroup Config Params → Except HailoStatus Unit

/-- The members and the locals that `add_hef`'s loop changes. -/
structure AddHefState (Config Params : Type) where
  m_net_groups : List (HcpConfigNetworkGroup Config Params)
  m_net_group_wrappers : List (HcpConfigNetworkGroup Config Params)
  configure_params_copy : AList fun _ : String => Params
  current_net_group_index : Nat
  added_network_groups : List (HcpConfigNetworkGroup Config Params)
  network_group_ptr : Option ProtoHEFNetworkGroupLayers

/-! ### `add_hef` -/

/-- Whether a partial group's layout fits the device:
`(partial_clusters_layout_bitmap == partial_network_group.layout().partial_clusters_layout_bitmap()) ||
(HAILO_ARCH_HAILO8 == device_arch)`. -/
def partial_group_fits (device_arch : HailoDeviceArchitecture) (partial_clusters_layout_bitmap : Nat)
    (partial_network_group : ProtoHEFPartialNetworkGroup) : Bool :=
  partial_clusters_layout_bitmap == partial_network_group.partial_clusters_layout_bitmap ||
    device_arch == .HAILO_ARCH_HAILO8

/-- `network_group_ptr` after the `if` on the HEF's arch at one group: on
`HAILO8L` the first partial group that fits, and else the value it had. -/
def next_network_group_ptr (hef_arch : ProtoHEFHwArch) (fits : ProtoHEFPartialNetworkGroup → Bool)
    (network_group_ptr : Option ProtoHEFNetworkGroupLayers) (net_group : HefNetworkGroup) :
    Option ProtoHEFNetworkGroupLayers :=
  if hef_arch = .HAILO8L then
    ((net_group.partial_network_groups.find? fits).map (·.network_group)).or network_group_ptr
  else some net_group.network_group

section AddHef

variable {Config Params : Type} (env : AddHefEnv Config Params)

/-- The steps of `add_hef`'s loop body between the choice of
`network_group_ptr` and `m_net_groups.emplace_back`: they change no member,
and return the group and what is left of the configure params. -/
def configure_network_group (configure_params_copy : AList fun _ : String => Params) (current_net_group_index : Nat)
    (network_group_ptr : ProtoHEFNetworkGroupLayers) :
    Except HailoStatus (HcpConfigNetworkGroup Config Params × AList fun _ : String => Params) := do
  CHECK (network_group_ptr.contexts.length = 1) .HAILO_INTERNAL_FAILURE
  CHECK (¬contains_ddr_layers network_group_ptr) .HAILO_INVALID_OPERATION
  validate_net_group_unique_layer_names network_group_ptr
  let net_group_config ← env.create_single_context_network_group_config network_group_ptr
  let network_group_name := network_group_ptr.network_group_name
  let (config_params, configure_params_copy) ← match configure_params_copy.lookup network_group_name with
    | some config_params => pure (config_params, configure_params_copy.erase network_group_name)
    | none => do
      let config_params ← env.create_configure_params network_group_name
      pure (config_params, configure_params_copy)
  let single_context_app : HcpConfigNetworkGroup Config Params :=
    ⟨network_group_name, net_group_config, config_params, current_net_group_index⟩
  env.create_network_group single_context_app
  pure (single_context_app, configure_params_copy)

/-- `add_hef`'s loop body at one group of the HEF: the state it leaves, and
whether the loop goes on. -/
def add_hef_network_group (hef_arch : ProtoHEFHwArch) (fits : ProtoHEFPartialNetworkGroup → Bool)
    (s : AddHefState Config Params) (net_group : HefNetworkGroup) :
    AddHefState Config Params × Except HailoStatus Unit :=
  let network_group_ptr := next_network_group_ptr hef_arch fits s.network_group_ptr net_group
  let s := { s with network_group_ptr }
  match network_group_ptr with
  | none => (s, .error .HAILO_INTERNAL_FAILURE)
  | some network_group_ptr =>
    match configure_network_group env s.configure_params_copy s.current_net_group_index network_group_ptr with
    | .error status => (s, .error status)
    | .ok (single_context_app, configure_params_copy) =>
      let s := { s with configure_params_copy, m_net_groups := s.m_net_groups ++ [single_context_app] }
      match env.create_wrapper single_context_app with
      | .error status => (s, .error status)
      | .ok () =>
        let s := { s with
          m_net_group_wrappers := s.m_net_group_wrappers ++ [single_context_app]
          added_network_groups := s.added_network_groups ++ [single_context_app]
          current_net_group_index := (s.current_net_group_index + 1) % 2 ^ 8 }
        (s, env.create_streams single_context_app)

/-- The loop of `add_hef` over the HEF's groups. -/
def add_hef_loop (hef_arch : ProtoHEFHwArch) (fits : ProtoHEFPartialNetworkGroup → Bool) :
    AddHefState Config Params → List HefNetworkGroup → AddHefState Config Params × Except HailoStatus Unit
  | s, [] => (s, .ok ())
  | s, net_group :: rest =>
    match add_hef_network_group env hef_arch fits s net_group with
    | (s, .ok ()) => add_hef_loop hef_arch fits s rest
    | (s, .error status) => (s, .error status)

/-- The keys no group took, each after a blank:
`unmatched_keys.append(" "); unmatched_keys.append(pair.first);`. -/
def unmatched_keys (configure_params_copy : AList fun _ : String => Params) : String :=
  configure_params_copy.keys.foldl (fun unmatched_keys key => unmatched_keys ++ " " ++ key) ""

/-- The members and the locals as `add_hef`'s loop starts:
`current_net_group_index` is `static_cast<uint8_t>(m_net_groups.size())`. -/
def add_hef_start (manager : HcpConfigManager Config Params) (configure_params : AList fun _ : String => Params) :
    AddHefState Config Params :=
  ⟨manager.m_net_groups, manager.m_net_group_wrappers, configure_params, manager.m_net_groups.length % 2 ^ 8, [], none⟩

/-- `HcpConfigManager::add_hef`: the manager it leaves, and what it returns. -/
def HcpConfigManager.add_hef (manager : HcpConfigManager Config Params) (hef : Impl)
    (configure_params : AList fun _ : String => Params) :
    HcpConfigManager Config Params × Except HailoStatus (List (HcpConfigNetworkGroup Config Params)) :=
  match (do
      let device_arch ← env.get_architecture
      let partial_clusters_layout_bitmap ← env.get_partial_clusters_layout_bitmap
      env.reset_context_switch_state_machine
      pure (device_arch, partial_clusters_layout_bitmap) : Except HailoStatus _) with
  | .error status => (manager, .error status)
  | .ok (device_arch, partial_clusters_layout_bitmap) =>
    let (s, status) := add_hef_loop env hef.hw_arch (partial_group_fits device_arch partial_clusters_layout_bitmap)
      (add_hef_start manager configure_params) hef.m_groups
    (⟨s.m_net_groups, s.m_net_group_wrappers⟩, do
      status
      CHECK ((unmatched_keys s.configure_params_copy).length = 0) .HAILO_INVALID_ARGUMENT
      pure s.added_network_groups)

/-! ### One group -/

/-- The group `configure_network_group` builds has the name and the index it
is given, and the configure params of that name when there are some, which it
takes out of the copy. -/
theorem configure_network_group_eq_ok {configure_params_copy configure_params_copy' : AList fun _ : String => Params}
    {current_net_group_index : Nat} {network_group_ptr : ProtoHEFNetworkGroupLayers}
    {single_context_app : HcpConfigNetworkGroup Config Params}
    (h : configure_network_group env configure_params_copy current_net_group_index network_group_ptr =
      .ok (single_context_app, configure_params_copy')) :
    single_context_app.network_group_name = network_group_ptr.network_group_name ∧
      single_context_app.net_group_index = current_net_group_index ∧
      match configure_params_copy.lookup network_group_ptr.network_group_name with
      | some config_params => single_context_app.config_params = config_params ∧
          configure_params_copy' = configure_params_copy.erase network_group_ptr.network_group_name
      | none => configure_params_copy' = configure_params_copy := by
  simp only [configure_network_group, CHECK_bind_eq_ok, Except.bind_eq_ok] at h
  obtain ⟨_, -, _, -, _, -, net_group_config, -, h⟩ := h
  revert h
  cases configure_params_copy.lookup network_group_ptr.network_group_name with
  | some config_params =>
    intro h
    obtain ⟨_, hy, h⟩ := Except.bind_eq_ok.1 h
    cases hy
    obtain ⟨_, -, h⟩ := Except.bind_eq_ok.1 h
    cases h
    exact ⟨rfl, rfl, rfl, rfl⟩
  | none =>
    intro h
    obtain ⟨_, -, h⟩ := Except.bind_eq_ok.1 h
    obtain ⟨_, hy, h⟩ := Except.bind_eq_ok.1 h
    cases hy
    obtain ⟨_, -, h⟩ := Except.bind_eq_ok.1 h
    cases h
    exact ⟨rfl, rfl, rfl⟩

/-- Every step keeps `network_group_ptr` as the choice at the group. -/
theorem add_hef_network_group_network_group_ptr (hef_arch : ProtoHEFHwArch) (fits : ProtoHEFPartialNetworkGroup → Bool)
    (s : AddHefState Config Params) (net_group : HefNetworkGroup) :
    (add_hef_network_group env hef_arch fits s net_group).1.network_group_ptr =
      next_network_group_ptr hef_arch fits s.network_group_ptr net_group := by
  dsimp only [add_hef_network_group]
  split
  · rfl
  · split
    · rfl
    · split <;> rfl

/-- A step reads its group only through the choice of `network_group_ptr`. -/
theorem add_hef_network_group_congr {hef_arch : ProtoHEFHwArch} {fits : ProtoHEFPartialNetworkGroup → Bool}
    {s : AddHefState Config Params} {net_group net_group' : HefNetworkGroup}
    (h : next_network_group_ptr hef_arch fits s.network_group_ptr net_group =
      next_network_group_ptr hef_arch fits s.network_group_ptr net_group') :
    add_hef_network_group env hef_arch fits s net_group = add_hef_network_group env hef_arch fits s net_group' := by
  unfold add_hef_network_group
  rw [h]

/-! ### What a call keeps -/

/-- What the loop keeps, relative to the state `s₀` it starts from with no
group added: the groups added are in both lists, `m_net_groups` also holds
the `unwrapped` groups whose wrapper failed, and the indices count on as a
`uint8_t`. -/
structure Added (s₀ s : AddHefState Config Params) (unwrapped : List (HcpConfigNetworkGroup Config Params)) :
    Prop where
  wrappers : s.m_net_group_wrappers = s₀.m_net_group_wrappers ++ s.added_network_groups
  groups : s.m_net_groups = s₀.m_net_groups ++ s.added_network_groups ++ unwrapped
  index : s.current_net_group_index = (s₀.current_net_group_index + s.added_network_groups.length) % 2 ^ 8
  indices : s.added_network_groups.map (·.net_group_index) =
    (List.range s.added_network_groups.length).map fun i => (s₀.current_net_group_index + i) % 2 ^ 8

theorem Added.refl (s₀ : AddHefState Config Params) (h : s₀.added_network_groups = [])
    (hindex : s₀.current_net_group_index < 2 ^ 8) : Added s₀ s₀ [] where
  wrappers := by rw [h, List.append_nil]
  groups := by rw [h, List.append_nil, List.append_nil]
  index := by rw [h, List.length_nil, Nat.add_zero, Nat.mod_eq_of_lt hindex]
  indices := by rw [h]; rfl

theorem Added.step {s₀ s s' : AddHefState Config Params} {hef_arch : ProtoHEFHwArch}
    {fits : ProtoHEFPartialNetworkGroup → Bool} {net_group : HefNetworkGroup} {status : Except HailoStatus Unit}
    (hs : Added s₀ s []) (h : add_hef_network_group env hef_arch fits s net_group = (s', status)) :
    ∃ unwrapped : List (HcpConfigNetworkGroup Config Params), unwrapped.length ≤ 1 ∧ Added s₀ s' unwrapped ∧
      (status = .ok () → unwrapped = []) := by
  have unchanged : ∀ {s'' : AddHefState Config Params}, s''.m_net_group_wrappers = s.m_net_group_wrappers →
      s''.m_net_groups = s.m_net_groups → s''.current_net_group_index = s.current_net_group_index →
      s''.added_network_groups = s.added_network_groups → Added s₀ s'' [] := by
    intro s'' hw hg hi ha
    exact ⟨hw ▸ ha ▸ hs.wrappers, hg ▸ ha ▸ hs.groups, hi ▸ ha ▸ hs.index, ha ▸ hs.indices⟩
  dsimp only [add_hef_network_group] at h
  split at h
  · cases h
    exact ⟨[], Nat.zero_le _, unchanged rfl rfl rfl rfl, fun _ => rfl⟩
  split at h
  · cases h
    exact ⟨[], Nat.zero_le _, unchanged rfl rfl rfl rfl, fun _ => rfl⟩
  rename_i single_context_app _ hconfigure
  have hindex := (configure_network_group_eq_ok env hconfigure).2.1
  split at h
  · cases h
    refine ⟨[single_context_app], le_refl _, ⟨hs.wrappers, ?_, hs.index, hs.indices⟩, nofun⟩
    rw [hs.groups, List.append_nil]
  · cases h
    refine ⟨[], Nat.zero_le _, ⟨?_, ?_, ?_, ?_⟩, fun _ => rfl⟩
    · dsimp only
      rw [hs.wrappers, List.append_assoc]
    · dsimp only
      rw [hs.groups, List.append_nil, List.append_nil, List.append_assoc]
    · dsimp only
      rw [hs.index, List.length_append, List.length_singleton]
      omega
    · dsimp only
      rw [List.map_append, hs.indices, List.length_append, List.length_singleton, List.range_succ, List.map_append,
        List.map_singleton, List.map_singleton, hindex, hs.index]

theorem Added.loop {s₀ : AddHefState Config Params} {hef_arch : ProtoHEFHwArch}
    {fits : ProtoHEFPartialNetworkGroup → Bool} :
    ∀ {s s' : AddHefState Config Params} {network_groups : List HefNetworkGroup} {status : Except HailoStatus Unit},
      Added s₀ s [] → add_hef_loop env hef_arch fits s network_groups = (s', status) →
      ∃ unwrapped : List (HcpConfigNetworkGroup Config Params), unwrapped.length ≤ 1 ∧ Added s₀ s' unwrapped ∧
        (status = .ok () → unwrapped = [])
  | _, _, [], _, hs, h => by
    cases h
    exact ⟨[], Nat.zero_le _, hs, fun _ => rfl⟩
  | s, _, net_group :: rest, _, hs, h => by
    rw [add_hef_loop] at h
    match hstep : add_hef_network_group env hef_arch fits s net_group with
    | (s₁, .ok ()) =>
      rw [hstep] at h
      obtain ⟨unwrapped, -, hs₁, hok⟩ := hs.step env hstep
      obtain rfl := hok rfl
      exact Added.loop hs₁ h
    | (s₁, .error status) =>
      rw [hstep] at h
      cases h
      exact hs.step env hstep

/-- Every configure params the call was given is still in
`configure_params_copy`, or went to a group added, of its name. -/
def Applied (configure_params : AList fun _ : String => Params) (s : AddHefState Config Params) : Prop :=
  ∀ key config_params, configure_params.lookup key = some config_params →
    s.configure_params_copy.lookup key = some config_params ∨
      ∃ g ∈ s.added_network_groups, g.network_group_name = key ∧ g.config_params = config_params

theorem Applied.step {configure_params : AList fun _ : String => Params} {s s' : AddHefState Config Params}
    {hef_arch : ProtoHEFHwArch} {fits : ProtoHEFPartialNetworkGroup → Bool} {net_group : HefNetworkGroup}
    (hs : Applied configure_params s) (h : add_hef_network_group env hef_arch fits s net_group = (s', .ok ())) :
    Applied configure_params s' := by
  dsimp only [add_hef_network_group] at h
  split at h
  · cases h
  split at h
  · cases h
  rename_i network_group_ptr _ _ single_context_app _ hconfigure
  split at h
  · cases h
  obtain ⟨rfl, -⟩ := Prod.mk.inj h
  obtain ⟨hname, -, hparams⟩ := configure_network_group_eq_ok env hconfigure
  intro key config_params hkey
  rcases hs key config_params hkey with hcopy | ⟨g, hg, hgname, hgparams⟩
  · revert hparams
    cases hlookup : s.configure_params_copy.lookup network_group_ptr.network_group_name with
    | some taken =>
      rintro ⟨htaken, hcopy'⟩
      by_cases hkey_name : key = network_group_ptr.network_group_name
      · subst hkey_name
        rw [hlookup] at hcopy
        cases hcopy
        exact .inr ⟨single_context_app, List.mem_append_right _ (List.mem_singleton_self _), hname, htaken⟩
      · exact .inl (by dsimp only; rw [hcopy', AList.lookup_erase_ne hkey_name, hcopy])
    | none => exact fun hcopy' => .inl (by dsimp only; rw [hcopy', hcopy])
  · exact .inr ⟨g, List.mem_append_left _ hg, hgname, hgparams⟩

theorem Applied.loop {configure_params : AList fun _ : String => Params} {hef_arch : ProtoHEFHwArch}
    {fits : ProtoHEFPartialNetworkGroup → Bool} :
    ∀ {s s' : AddHefState Config Params} {network_groups : List HefNetworkGroup},
      Applied configure_params s → add_hef_loop env hef_arch fits s network_groups = (s', .ok ()) →
      Applied configure_params s'
  | _, _, [], hs, h => by
    cases h
    exact hs
  | s, _, net_group :: rest, hs, h => by
    rw [add_hef_loop] at h
    match hstep : add_hef_network_group env hef_arch fits s net_group with
    | (s₁, .ok ()) =>
      rw [hstep] at h
      exact Applied.loop (hs.step env hstep) h
    | (s₁, .error _) =>
      rw [hstep] at h
      cases h

/-- Each key adds a blank and itself to `unmatched_keys`. -/
theorem length_foldl_unmatched_keys :
    ∀ (keys : List String) (unmatched_keys : String),
      unmatched_keys.length + keys.length ≤
        (keys.foldl (fun unmatched_keys key => unmatched_keys ++ " " ++ key) unmatched_keys).length
  | [], _ => le_refl _
  | key :: keys, unmatched_keys => by
    have h := length_foldl_unmatched_keys keys (unmatched_keys ++ " " ++ key)
    rw [String.length_append, String.length_append] at h
    rw [List.foldl_cons, List.length_cons]
    have : " ".length = 1 := rfl
    omega

theorem keys_eq_nil_of_unmatched_keys {configure_params_copy : AList fun _ : String => Params}
    (h : (unmatched_keys configure_params_copy).length = 0) : configure_params_copy.keys = [] :=
  List.eq_nil_of_length_eq_zero (by
    have := length_foldl_unmatched_keys configure_params_copy.keys ""
    rw [← unmatched_keys, h] at this
    omega)

/-- **A successful `add_hef` applied every configure params it was given.**
Each key of `configure_params` names a group that `add_hef` configured and
returns, and that group got the params of that key. -/
theorem add_hef_applies_configure_params (manager : HcpConfigManager Config Params) (hef : Impl)
    (configure_params : AList fun _ : String => Params) (result : List (HcpConfigNetworkGroup Config Params))
    (h : (manager.add_hef env hef configure_params).2 = .ok result) (key : String) (config_params : Params)
    (hkey : configure_params.lookup key = some config_params) :
    ∃ g ∈ result, g.network_group_name = key ∧ g.config_params = config_params := by
  unfold HcpConfigManager.add_hef at h
  split at h
  · cases h
  rename_i device_arch partial_clusters_layout_bitmap _
  rcases hloop : add_hef_loop env hef.hw_arch (partial_group_fits device_arch partial_clusters_layout_bitmap)
    (add_hef_start manager configure_params) hef.m_groups with ⟨s, status⟩
  rw [hloop] at h
  obtain ⟨u, hstatus, h⟩ := Except.bind_eq_ok.1 h
  obtain ⟨hunmatched, h⟩ := CHECK_bind_eq_ok.1 h
  cases h
  cases u
  rw [hstatus] at hloop
  have happlied := Applied.loop env (fun _ _ h => .inl h) hloop key config_params hkey
  refine happlied.resolve_left fun hcopy => ?_
  have hmem := AList.lookup_isSome.1 (Option.isSome_iff_exists.2 ⟨_, hcopy⟩)
  rw [AList.mem_keys, keys_eq_nil_of_unmatched_keys hunmatched] at hmem
  cases hmem

/-- A device of layout `1` on which every call succeeds: a group's config is
its number of contexts, its default configure params `0`. -/
def layout_one_env : AddHefEnv Nat Nat where
  get_architecture := .ok .OTHER
  get_partial_clusters_layout_bitmap := .ok 1
  reset_context_switch_state_machine := .ok ()
  create_single_context_network_group_config network_group := .ok network_group.contexts.length
  create_configure_params _ := .ok 0
  create_network_group _ := .ok ()
  create_wrapper _ := .ok ()
  create_streams _ := .ok ()

/-- A group named `name` of one context without layers. -/
def single_context_group (name : String) : ProtoHEFNetworkGroupLayers := ⟨name, false, [], false, [], [[]]⟩

/-- Of the groups `a` and `b`, `b` gets the configure params `7` given for it. -/
theorem add_hef_applies_configure_params_b :
    ∃ g ∈ [(⟨"a", 1, 0, 0⟩ : HcpConfigNetworkGroup Nat Nat), ⟨"b", 1, 7, 1⟩],
      g.network_group_name = "b" ∧ g.config_params = 7 :=
  add_hef_applies_configure_params layout_one_env ⟨[], []⟩
    ⟨[⟨single_context_group "a", []⟩, ⟨single_context_group "b", []⟩], .OTHER⟩ ((∅ : AList _).insert "b" 7) _ rfl
    "b" 7 rfl

/-! ### `HAILO8L`: the partial group picked before -/

/-- The first partial group of a group that fits the device. -/
def first_fit_partial_group (fits : ProtoHEFPartialNetworkGroup → Bool) (net_group : HefNetworkGroup) :
    Option ProtoHEFNetworkGroupLayers :=
  (net_group.partial_network_groups.find? fits).map (·.network_group)

/-- The groups of a `HAILO8L` HEF as `add_hef` configures them: a group none
of whose partial groups fits is replaced by the last group before it that has
one, when there is such a group. -/
def replace_unfit_groups (fits : ProtoHEFPartialNetworkGroup → Bool) :
    Option HefNetworkGroup → List HefNetworkGroup → List HefNetworkGroup
  | _, [] => []
  | last_fit, net_group :: rest =>
    match first_fit_partial_group fits net_group with
    | some _ => net_group :: replace_unfit_groups fits (some net_group) rest
    | none => last_fit.getD net_group :: replace_unfit_groups fits last_fit rest

theorem next_network_group_ptr_hailo8l (fits : ProtoHEFPartialNetworkGroup → Bool)
    (network_group_ptr : Option ProtoHEFNetworkGroupLayers) (net_group : HefNetworkGroup) :
    next_network_group_ptr .HAILO8L fits network_group_ptr net_group =
      (first_fit_partial_group fits net_group).or network_group_ptr :=
  if_pos rfl

/-- On `HAILO8L`, the loop over the HEF's groups and the loop over them with
each unfit group replaced agree, from a state whose `network_group_ptr` is
the partial group picked for the last group that fits. -/
theorem add_hef_loop_replace_unfit_groups (fits : ProtoHEFPartialNetworkGroup → Bool) :
    ∀ (last_fit : Option HefNetworkGroup) (s : AddHefState Config Params) (network_groups : List HefNetworkGroup),
      s.network_group_ptr = last_fit.bind (first_fit_partial_group fits) →
      (∀ g ∈ last_fit, (first_fit_partial_group fits g).isSome) →
      add_hef_loop env .HAILO8L fits s network_groups =
        add_hef_loop env .HAILO8L fits s (replace_unfit_groups fits last_fit network_groups)
  | _, _, [], _, _ => rfl
  | last_fit, s, g :: gs, hptr, hfit => by
    rw [replace_unfit_groups]
    cases hg : first_fit_partial_group fits g with
    | some picked =>
      dsimp only
      rw [add_hef_loop, add_hef_loop]
      match hstep : add_hef_network_group env .HAILO8L fits s g with
      | (s₁, .ok ()) =>
        have hptr₁ : s₁.network_group_ptr = (some g).bind (first_fit_partial_group fits) := by
          rw [show s₁ = (add_hef_network_group env .HAILO8L fits s g).1 by rw [hstep],
            add_hef_network_group_network_group_ptr, next_network_group_ptr_hailo8l, hg, Option.some_bind, hg]
          rfl
        exact add_hef_loop_replace_unfit_groups fits (some g) s₁ gs hptr₁ fun g' hg' => by
          cases hg'
          rw [hg]
          rfl
      | (s₁, .error _) => rfl
    | none =>
      dsimp only
      have hnext : next_network_group_ptr .HAILO8L fits s.network_group_ptr g =
          next_network_group_ptr .HAILO8L fits s.network_group_ptr (last_fit.getD g) := by
        rw [next_network_group_ptr_hailo8l, next_network_group_ptr_hailo8l, hg, Option.none_or, hptr]
        cases last_fit with
        | none => rw [Option.getD_none, hg, Option.none_or]
        | some q =>
          obtain ⟨picked, hpicked⟩ := Option.isSome_iff_exists.1 (hfit q rfl)
          rw [Option.getD_some, Option.some_bind, hpicked]
          rfl
      rw [add_hef_loop, add_hef_loop, ← add_hef_network_group_congr env hnext]
      match hstep : add_hef_network_group env .HAILO8L fits s g with
      | (s₁, .ok ()) =>
        have hptr₁ : s₁.network_group_ptr = last_fit.bind (first_fit_partial_group fits) := by
          rw [show s₁ = (add_hef_network_group env .HAILO8L fits s g).1 by rw [hstep],
            add_hef_network_group_network_group_ptr, next_network_group_ptr_hailo8l, hg, Option.none_or, hptr]
        exact add_hef_loop_replace_unfit_groups fits last_fit s₁ gs hptr₁ hfit
      | (s₁, .error _) => rfl

/-- **On `HAILO8L` a group that fits no layout is configured as the group
before it.**  `add_hef` of a `HAILO8L` HEF does what it does on the HEF in
which each group none of whose partial groups fits the device is replaced by
the last group before it that has one: it configures that group's partial
group once more, under its name. -/
theorem add_hef_hailo8l_replaces_unfit_groups (manager : HcpConfigManager Config Params)
    (network_groups : List HefNetworkGroup) (configure_params : AList fun _ : String => Params)
    (device_arch : HailoDeviceArchitecture) (partial_clusters_layout_bitmap : Nat)
    (harch : env.get_architecture = .ok device_arch)
    (hbitmap : env.get_partial_clusters_layout_bitmap = .ok partial_clusters_layout_bitmap) :
    manager.add_hef env ⟨network_groups, .HAILO8L⟩ configure_params =
      manager.add_hef env
        ⟨replace_unfit_groups (partial_group_fits device_arch partial_clusters_layout_bitmap) none network_groups,
          .HAILO8L⟩ configure_params := by
  rcases hreset : env.reset_context_switch_state_machine with _ | ⟨⟩
  · simp only [HcpConfigManager.add_hef, harch, hbitmap, hreset, Except.ok_bind, Except.error_bind]
  · simp only [HcpConfigManager.add_hef, harch, hbitmap, hreset, Except.ok_bind, pure, Except.pure]
    rw [add_hef_loop_replace_unfit_groups env _ none _ network_groups rfl nofun]

/-- A group of one partial group, of the layout `layout`. -/
def layout_group (name : String) (layout : Nat) : HefNetworkGroup :=
  ⟨single_context_group name, [⟨layout, single_context_group (name ++ "_partial")⟩]⟩

/-- On a device of layout `1`, the group `b` of layout `2` is configured as
the partial group of `a`, twice. -/
theorem add_hef_hailo8l_configures_a_twice :
    (⟨[], []⟩ : HcpConfigManager Nat Nat).add_hef layout_one_env
        ⟨[layout_group "a" 1, layout_group "b" 2], .HAILO8L⟩ ∅ =
      (⟨[], []⟩ : HcpConfigManager Nat Nat).add_hef layout_one_env
        ⟨[layout_group "a" 1, layout_group "a" 1], .HAILO8L⟩ ∅ ∧
    ((⟨[], []⟩ : HcpConfigManager Nat Nat).add_hef layout_one_env
        ⟨[layout_group "a" 1, layout_group "b" 2], .HAILO8L⟩ ∅).2 =
      .ok [⟨"a_partial", 1, 0, 0⟩, ⟨"a_partial", 1, 0, 1⟩] :=
  ⟨add_hef_hailo8l_replaces_unfit_groups layout_one_env ⟨[], []⟩ [layout_group "a" 1, layout_group "b" 2] ∅ .OTHER 1
    rfl rfl, rfl⟩

end AddHef

end ContextSwitch
end HailoRT
