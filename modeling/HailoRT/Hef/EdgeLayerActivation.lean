/-
# Pass B: the edge-layer activation actions

`handle_edge_layer_activation_actions` (`hef.cpp`, lines 2113-2160), the second
rewrite pass of `parse_actions_in_operation`.  It runs on every operation of
the preliminary context when `preliminary_run_asap` is set, and on the first
operation of every dynamic context.  The operation must then hold exactly one
group of `TriggerNewDataFromDataInput` actions, one maximal run of them
(`HAILO_INTERNAL_FAILURE` otherwise).  Right before the group the pass puts an
`EdgeLayerActivationActionsPositionMarker` and the context's DDR actions
(`add_ddr_buffers_info`); right after it a `StartBurstCreditsTaskAction`
(`proccess_trigger_new_data_input_action`).

`handle_edge_layer_activation_actions_eq` says this over the maximal runs, as
for the other two passes: the marker and the DDR actions go in front of the
one run of that type, the burst-credits task after it.
-/

import HailoRT.Hef.Runs

namespace HailoRT
namespace Hef

open ContextSwitchConfigAction

/-- A DDR channel pair of a context, through what `add_ddr_buffers_info` reads
(`ddr_channels_pair.info()` and three of its methods). -/
structure DdrChannelsPair where
  h2d_channel_id : ChannelId
  d2h_channel_id : ChannelId
  need_manual_credit_management : Bool
  descriptors_per_frame : Nat
  descs_count : Nat
  deriving DecidableEq, Repr

/-- The `ResourcesManager` (`resource_manager.hpp`, not among the sources),
through the queries `hef.cpp` makes of it while it compiles the contexts. -/
structure ResourcesManager where
  /-- `get_supported_features().preliminary_run_asap`. -/
  preliminary_run_asap : Bool
  /-- `get_ddr_channel_pairs_per_context(context_index)`. -/
  ddr_channel_pairs_per_context : Nat → List DdrChannelsPair
  /-- `preliminary_config()`. -/
  preliminary_config : List ConfigBuffer
  /-- `dynamic_config(context_index)`. -/
  dynamic_config : Nat → List ConfigBuffer

/-! ### The model -/

/-- The `DdrPairInfoAction` of a pair. -/
def DdrChannelsPair.info_action (ddr_channels_pair : DdrChannelsPair) : ContextSwitchConfigAction :=
  mk' (.DdrPairInfoAction ddr_channels_pair.h2d_channel_id ddr_channels_pair.d2h_channel_id
    ddr_channels_pair.descriptors_per_frame ddr_channels_pair.descs_count)

/-- `add_ddr_buffers_info`: a `DdrPairInfoAction` for every pair that needs
manual credit management, then a `StartDdrBufferingTaskAction` if there was
one. -/
def add_ddr_buffers_info (configuration_actions : List ContextSwitchConfigAction)
    (ddr_channel_pairs : List DdrChannelsPair) : List ContextSwitchConfigAction :=
  let (configuration_actions, start_fw_ddr_buffer_task) := ddr_channel_pairs.foldl
    (fun (actions, start_fw_ddr_buffer_task) ddr_channels_pair =>
      if ddr_channels_pair.need_manual_credit_management then
        (actions ++ [ddr_channels_pair.info_action], true)
      else (actions, start_fw_ddr_buffer_task))
    (configuration_actions, false)
  if start_fw_ddr_buffer_task then configuration_actions ++ [mk' .StartDdrBufferingTaskAction]
  else configuration_actions

/-- `proccess_trigger_new_data_input_action`. -/
def proccess_trigger_new_data_input_action (configuration_action : ContextSwitchConfigAction)
    (group_start group_end action_index : Nat) (ddr_channel_pairs : List DdrChannelsPair)
    (processed_configuration_actions : List ContextSwitchConfigAction) :
    List ContextSwitchConfigAction :=
  let processed_configuration_actions :=
    if group_start = action_index then
      add_ddr_buffers_info (processed_configuration_actions ++ [mk' .EdgeLayerActivationActionsPositionMarker])
        ddr_channel_pairs
    else processed_configuration_actions
  let processed_configuration_actions := processed_configuration_actions ++ [configuration_action]
  if group_end = action_index then processed_configuration_actions ++ [mk' .StartBurstCreditsTaskAction]
  else processed_configuration_actions

/-- The `for (action_index ...)` loop of `handle_edge_layer_activation_actions`,
from `action_index` on. -/
def edge_layer_activation_loop (group_start group_end : Nat) (ddr_channel_pairs : List DdrChannelsPair) :
    List ContextSwitchConfigAction → Nat → List ContextSwitchConfigAction → List ContextSwitchConfigAction
  | [], _, processed_configuration_actions => processed_configuration_actions
  | configuration_action :: rest, action_index, processed_configuration_actions =>
    edge_layer_activation_loop group_start group_end ddr_channel_pairs rest (action_index + 1)
      (if configuration_action.get_type = .TriggerNewDataFromDataInput then
        proccess_trigger_new_data_input_action configuration_action group_start group_end action_index
          ddr_channel_pairs processed_configuration_actions
      else processed_configuration_actions ++ [configuration_action])

/-- `handle_edge_layer_activation_actions`. -/
def handle_edge_layer_activation_actions (configuration_actions : List ContextSwitchConfigAction)
    (resources_manager : ResourcesManager) (context_index : Nat)
    (is_preliminary_context is_first_operation : Bool) :
    Except HailoStatus (List ContextSwitchConfigAction) := do
  if is_preliminary_context && !resources_manager.preliminary_run_asap then
    return configuration_actions
  if !is_preliminary_context && !is_first_operation then
    return configuration_actions
  let repeated_indexes := get_repreated_actions_boundary_indices configuration_actions
  let trigger_new_data_from_input_group_indexes :=
    get_indexes_of_action_type configuration_actions repeated_indexes .TriggerNewDataFromDataInput
  CHECK (trigger_new_data_from_input_group_indexes.length = 1) .HAILO_INTERNAL_FAILURE
  let (group_start, group_end) := trigger_new_data_from_input_group_indexes.headD (0, 0)
  return edge_layer_activation_loop group_start group_end
    (resources_manager.ddr_channel_pairs_per_context context_index) configuration_actions 0 []

/-! ### What the pass is for -/

/-- Whether the pass runs on an operation: every operation of the preliminary
context with `preliminary_run_asap`, the first operation of a dynamic one. -/
def activates_edge_layers (resources_manager : ResourcesManager)
    (is_preliminary_context is_first_operation : Bool) : Bool :=
  if is_preliminary_context then resources_manager.preliminary_run_asap else is_first_operation

/-- The actions `add_ddr_buffers_info` appends. -/
def ddr_buffers_info (ddr_channel_pairs : List DdrChannelsPair) : List ContextSwitchConfigAction :=
  let infos := (ddr_channel_pairs.filter (·.need_manual_credit_management)).map (·.info_action)
  if infos = [] then [] else infos ++ [mk' .StartDdrBufferingTaskAction]

/-- Whether a run is one of `TriggerNewDataFromDataInput` actions. -/
def is_trigger_new_data_run (run : List ContextSwitchConfigAction) : Bool :=
  run.head?.map get_type == some .TriggerNewDataFromDataInput

/-- A run with the actions that activate the edge layers around it, if it is
one of `TriggerNewDataFromDataInput` actions. -/
def with_edge_layer_activation (ddr_actions : List ContextSwitchConfigAction)
    (run : List ContextSwitchConfigAction) : List ContextSwitchConfigAction :=
  if is_trigger_new_data_run run then
    mk' .EdgeLayerActivationActionsPositionMarker :: ddr_actions ++ run ++ [mk' .StartBurstCreditsTaskAction]
  else run

/-- What pass B computes when it runs: the error unless exactly one run is one
of `TriggerNewDataFromDataInput` actions, else that run activated in place. -/
def edge_layer_activation_pass (ddr_actions : List ContextSwitchConfigAction)
    (actions : List ContextSwitchConfigAction) : Except HailoStatus (List ContextSwitchConfigAction) :=
  if (type_run_bounds .TriggerNewDataFromDataInput 0 (runs get_type actions)).length = 1 then
    .ok ((runs get_type actions).flatMap (with_edge_layer_activation ddr_actions))
  else .error .HAILO_INTERNAL_FAILURE

/-! ### The DDR actions -/

theorem add_ddr_buffers_info_eq (P : List ContextSwitchConfigAction) (ddr_channel_pairs : List DdrChannelsPair) :
    add_ddr_buffers_info P ddr_channel_pairs = P ++ ddr_buffers_info ddr_channel_pairs := by
  -- the fold, from any accumulator
  have hfold : ∀ (pairs : List DdrChannelsPair) (Q : List ContextSwitchConfigAction) (b : Bool),
      pairs.foldl (fun (acc : List ContextSwitchConfigAction × Bool) ddr_channels_pair =>
          if ddr_channels_pair.need_manual_credit_management then
            (acc.1 ++ [ddr_channels_pair.info_action], true)
          else acc) (Q, b) =
        (Q ++ (pairs.filter (·.need_manual_credit_management)).map (·.info_action),
          b || (pairs.filter (·.need_manual_credit_management)) != []) := by
    intro pairs
    induction pairs with
    | nil => simp
    | cons p pairs ih =>
      intro Q b
      by_cases hp : p.need_manual_credit_management <;> simp [hp, ih]
  simp only [add_ddr_buffers_info, ddr_buffers_info]
  rw [hfold]
  by_cases h : ddr_channel_pairs.filter (·.need_manual_credit_management) = [] <;> simp [h]

theorem get_type_mem_ddr_buffers_info {a : ContextSwitchConfigAction} {ddr_channel_pairs : List DdrChannelsPair}
    (h : a ∈ ddr_buffers_info ddr_channel_pairs) :
    a.get_type = .DdrPairInfo ∨ a.get_type = .StartDdrBufferingTask := by
  simp only [ddr_buffers_info] at h
  split_ifs at h
  · simp at h
  · simp only [List.mem_append, List.mem_map, List.mem_singleton] at h
    rcases h with ⟨p, -, rfl⟩ | rfl
    · exact .inl rfl
    · exact .inr rfl

/-! ### The loop, run by run -/

section Loop

variable (group_start group_end : Nat) (ddr_channel_pairs : List DdrChannelsPair)

theorem edge_layer_activation_loop_append (l₁ l₂ : List ContextSwitchConfigAction) (i : Nat)
    (P : List ContextSwitchConfigAction) :
    edge_layer_activation_loop group_start group_end ddr_channel_pairs (l₁ ++ l₂) i P =
      edge_layer_activation_loop group_start group_end ddr_channel_pairs l₂ (i + l₁.length)
        (edge_layer_activation_loop group_start group_end ddr_channel_pairs l₁ i P) := by
  induction l₁ generalizing i P with
  | nil => rfl
  | cons a l₁ ih =>
    rw [List.cons_append, edge_layer_activation_loop, ih, edge_layer_activation_loop, List.length_cons,
      Nat.add_assoc, Nat.add_comm 1]

/-- Actions of other types are copied. -/
theorem edge_layer_activation_loop_other (r : List ContextSwitchConfigAction)
    (hr : ∀ a ∈ r, a.get_type ≠ .TriggerNewDataFromDataInput) (i : Nat) (P : List ContextSwitchConfigAction) :
    edge_layer_activation_loop group_start group_end ddr_channel_pairs r i P = P ++ r := by
  induction r generalizing i P with
  | nil => simp [edge_layer_activation_loop]
  | cons a r ih =>
    rw [edge_layer_activation_loop, if_neg (hr a (List.mem_cons_self _ _)),
      ih (fun b hb => hr b (List.mem_cons_of_mem _ hb))]
    simp

/-- Triggers strictly inside the group are copied. -/
theorem edge_layer_activation_loop_inner (r : List ContextSwitchConfigAction)
    (hr : ∀ a ∈ r, a.get_type = .TriggerNewDataFromDataInput) (i : Nat) (P : List ContextSwitchConfigAction)
    (hs : group_start < i) (he : i + r.length ≤ group_end) :
    edge_layer_activation_loop group_start group_end ddr_channel_pairs r i P = P ++ r := by
  induction r generalizing i P with
  | nil => simp [edge_layer_activation_loop]
  | cons a r ih =>
    simp only [List.length_cons] at he
    rw [edge_layer_activation_loop, if_pos (hr a (List.mem_cons_self _ _)),
      ih (fun b hb => hr b (List.mem_cons_of_mem _ hb)) _ _ (by omega) (by omega)]
    simp [proccess_trigger_new_data_input_action, show group_start ≠ i by omega,
      show group_end ≠ i by omega]

/-- **The group.**  A run of triggers from `group_start` to `group_end` gets
the marker and the DDR actions before it and the burst-credits task after. -/
theorem edge_layer_activation_loop_group (r : List ContextSwitchConfigAction) (hne : r ≠ [])
    (hr : ∀ a ∈ r, a.get_type = .TriggerNewDataFromDataInput) (P : List ContextSwitchConfigAction)
    (he : group_end = group_start + r.length - 1) :
    edge_layer_activation_loop group_start group_end ddr_channel_pairs r group_start P =
      P ++ with_edge_layer_activation (ddr_buffers_info ddr_channel_pairs) r := by
  obtain ⟨a, r', rfl⟩ := List.exists_cons_of_ne_nil hne
  have ha := hr a (List.mem_cons_self _ _)
  have hmark : with_edge_layer_activation (ddr_buffers_info ddr_channel_pairs) (a :: r') =
      mk' .EdgeLayerActivationActionsPositionMarker :: ddr_buffers_info ddr_channel_pairs ++ a :: r' ++
        [mk' .StartBurstCreditsTaskAction] := by
    simp [with_edge_layer_activation, is_trigger_new_data_run, ha]
  rw [hmark, edge_layer_activation_loop, if_pos ha]
  simp only [proccess_trigger_new_data_input_action, if_true, add_ddr_buffers_info_eq]
  rcases List.eq_nil_or_concat r' with rfl | ⟨w, b, rfl⟩
  · simp [he, edge_layer_activation_loop]
  · simp only [List.concat_eq_append, List.length_cons, List.length_append, List.length_singleton,
      List.length_nil] at he hr ⊢
    have hb := hr b (by simp)
    rw [if_neg (by omega), edge_layer_activation_loop_append,
      edge_layer_activation_loop_inner _ _ _ w (fun c hc => hr c (by simp [hc])) _ _ (by omega) (by omega),
      edge_layer_activation_loop, if_pos hb]
    simp [proccess_trigger_new_data_input_action, show group_start ≠ group_start + 1 + w.length by omega,
      show group_end = group_start + 1 + w.length by omega, edge_layer_activation_loop]

/-- Over the maximal runs: every run of triggers whose bounds are the group's
is activated, every other run copied. -/
theorem edge_layer_activation_loop_runs :
    ∀ (rs : List (List ContextSwitchConfigAction)) (o : Nat) (P : List ContextSwitchConfigAction),
      (∀ r ∈ rs, r ≠ [] ∧ ∀ a ∈ r, ∀ b ∈ r, a.get_type = b.get_type) →
      (∀ p ∈ type_run_bounds .TriggerNewDataFromDataInput o rs, p = (group_start, group_end)) →
      edge_layer_activation_loop group_start group_end ddr_channel_pairs rs.flatten o P =
        P ++ rs.flatMap (with_edge_layer_activation (ddr_buffers_info ddr_channel_pairs))
  | [], _, P, _, _ => by simp [edge_layer_activation_loop]
  | r :: rs, o, P, hrs, hb => by
    obtain ⟨hne, hhom⟩ := hrs r (List.mem_cons_self _ _)
    obtain ⟨a, r', rfl⟩ := List.exists_cons_of_ne_nil hne
    have hrest := edge_layer_activation_loop_runs rs (o + (a :: r').length)
    rw [List.flatten_cons, edge_layer_activation_loop_append, List.flatMap_cons, ← List.append_assoc]
    by_cases ha : a.get_type = .TriggerNewDataFromDataInput
    · have hp : (o, o + (a :: r').length - 1) = (group_start, group_end) :=
        hb _ (by simp [type_run_bounds, ha])
      obtain ⟨rfl, rfl⟩ := Prod.mk.inj hp
      rw [edge_layer_activation_loop_group _ _ _ _ (List.cons_ne_nil _ _)
        (fun b hb' => (hhom b hb' a (List.mem_cons_self _ _)).trans ha) _ rfl]
      exact hrest _ (fun r hr => hrs r (List.mem_cons_of_mem _ hr))
        (fun p hp => hb p (by rw [type_run_bounds]; exact List.mem_append_right _ hp))
    · have hwith : with_edge_layer_activation (ddr_buffers_info ddr_channel_pairs) (a :: r') = a :: r' := by
        simp [with_edge_layer_activation, is_trigger_new_data_run, ha]
      rw [edge_layer_activation_loop_other _ _ _ _
        (fun b hb' => (hhom b hb' a (List.mem_cons_self _ _)).trans_ne ha), hwith]
      exact hrest _ (fun r hr => hrs r (List.mem_cons_of_mem _ hr))
        (fun p hp => hb p (by rw [type_run_bounds]; exact List.mem_append_right _ hp))

end Loop

/-- **Pass B, run by run.**  When the pass runs it fails unless exactly one
maximal run is one of `TriggerNewDataFromDataInput` actions, and otherwise
activates that run in place; elsewhere it changes nothing. -/
theorem handle_edge_layer_activation_actions_eq (actions : List ContextSwitchConfigAction)
    (resources_manager : ResourcesManager) (context_index : Nat)
    (is_preliminary_context is_first_operation : Bool) :
    handle_edge_layer_activation_actions actions resources_manager context_index
        is_preliminary_context is_first_operation =
      if activates_edge_layers resources_manager is_preliminary_context is_first_operation then
        edge_layer_activation_pass
          (ddr_buffers_info (resources_manager.ddr_channel_pairs_per_context context_index)) actions
      else .ok actions := by
  have hgroups := get_indexes_of_action_type_eq actions .TriggerNewDataFromDataInput
  have hhom : ∀ r ∈ runs get_type actions, r ≠ [] ∧ ∀ a ∈ r, ∀ b ∈ r, a.get_type = b.get_type := by
    intro r hr
    obtain ⟨c, r', rfl, hc⟩ := exists_cons_of_mem_runs _ hr
    exact ⟨List.cons_ne_nil _ _, fun a ha b hb => (hc a ha).trans (hc b hb).symm⟩
  cases is_preliminary_context <;> cases is_first_operation <;>
    cases hasap : resources_manager.preliminary_run_asap <;>
    simp only [handle_edge_layer_activation_actions, activates_edge_layers, hasap, Bool.not_true,
      Bool.not_false, Bool.and_false, Bool.and_true, Bool.false_eq_true, if_false, if_true, hgroups,
      edge_layer_activation_pass, CHECK_bind, Except.pure_eq_ok] <;>
    first
    | rfl
    | (split_ifs with h1
       · obtain ⟨p, hp⟩ := List.length_eq_one.1 h1
         rw [hp, List.headD_cons]
         conv_lhs => rw [← flatten_runs get_type actions]
         rw [edge_layer_activation_loop_runs _ _ _ _ 0 [] hhom (by simp [hp])]
         rfl
       · rfl)

/-! ### The pass by the operation's one group

`edge_layer_activation_pass` speaks of the maximal runs.  Said of the list
itself: the pass succeeds exactly when the actions are `P ++ R ++ S` with `R`
their one maximal run of triggers, and then it brackets `R` in place. -/

/-- `actions` is `P ++ R ++ S` with `R` its one maximal run of actions of type
`t`: nothing of type `t` stands in `P` or `S`. -/
structure SoleRun (t : ActionType) (actions P R S : List ContextSwitchConfigAction) : Prop where
  eq : actions = P ++ R ++ S
  ne_nil : R ≠ []
  run : ∀ a ∈ R, a.get_type = t
  rest : ∀ a ∈ P ++ S, a.get_type ≠ t

/-- A run cut from a list with no action of type `t` does not start with one. -/
theorem head_type_ne_of_mem_runs {t : ActionType} {l r : List ContextSwitchConfigAction}
    (hl : ∀ a ∈ l, a.get_type ≠ t) (hr : r ∈ runs get_type l) : r.head?.map get_type ≠ some t := by
  obtain ⟨c, r', rfl, -⟩ := exists_cons_of_mem_runs _ hr
  simpa using hl c (mem_of_mem_runs _ hr (List.mem_cons_self _ _))

/-- Runs that do not start with a trigger are left as they are. -/
theorem flatMap_with_edge_layer_activation {ddr_actions : List ContextSwitchConfigAction}
    {rs : List (List ContextSwitchConfigAction)}
    (h : ∀ r ∈ rs, r.head?.map get_type ≠ some .TriggerNewDataFromDataInput) :
    rs.flatMap (with_edge_layer_activation ddr_actions) = rs.flatten :=
  (List.flatMap_congr fun r hr => by simp [with_edge_layer_activation, is_trigger_new_data_run, h r hr]).trans
    (List.flatMap_id rs)

theorem SoleRun.runs_eq {t : ActionType} {actions P R S : List ContextSwitchConfigAction}
    (h : SoleRun t actions P R S) : runs get_type actions = runs get_type P ++ R :: runs get_type S := by
  obtain ⟨c, R', hR⟩ := List.exists_cons_of_ne_nil h.ne_nil
  have hP : ∀ a ∈ P, a.get_type ≠ t := fun a ha => h.rest a (List.mem_append_left _ ha)
  have hS : ∀ a ∈ S, a.get_type ≠ t := fun a ha => h.rest a (List.mem_append_right _ ha)
  have hc : c.get_type = t := h.run c (by simp [hR])
  rw [h.eq, List.append_assoc, runs_append, runs_append, hR,
    runs_of_forall_eq _ fun b hb => (h.run b (by simp [hR, hb])).trans hc.symm, List.singleton_append]
  · intro a ha b hb
    rw [h.run a (by simpa [hR] using List.mem_of_getLast?_eq_some ha)]
    exact (hS b (List.mem_of_mem_head? hb)).symm
  · intro a ha b hb
    obtain rfl : c = b := by simpa [hR] using hb
    rw [hc]
    exact hP a (List.mem_of_getLast?_eq_some ha)

/-- **The pass on a sole run.** -/
theorem edge_layer_activation_pass_of_sole_run {ddr_actions actions P R S : List ContextSwitchConfigAction}
    (h : SoleRun .TriggerNewDataFromDataInput actions P R S) :
    edge_layer_activation_pass ddr_actions actions =
      .ok (P ++ mk' .EdgeLayerActivationActionsPositionMarker :: ddr_actions ++ R ++
        mk' .StartBurstCreditsTaskAction :: S) := by
  have hP := fun r => head_type_ne_of_mem_runs (r := r) fun a ha => h.rest a (List.mem_append_left S ha)
  have hS := fun r => head_type_ne_of_mem_runs (r := r) fun a ha => h.rest a (List.mem_append_right P ha)
  obtain ⟨c, R', hR⟩ := List.exists_cons_of_ne_nil h.ne_nil
  have hc : c.get_type = .TriggerNewDataFromDataInput := h.run c (by simp [hR])
  rw [edge_layer_activation_pass, h.runs_eq, if_pos, List.flatMap_append, List.flatMap_cons,
    flatMap_with_edge_layer_activation hP, flatMap_with_edge_layer_activation hS, flatten_runs, flatten_runs]
  · simp [with_edge_layer_activation, is_trigger_new_data_run, hR, hc]
  · rw [length_type_run_bounds, List.countP_append, List.countP_cons,
      List.countP_eq_zero.2 fun r hr => by simpa using hP r hr,
      List.countP_eq_zero.2 fun r hr => by simpa using hS r hr]
    simp [hR, hc]

/-- A single run of triggers is a sole run of the list. -/
theorem sole_run_of_length_eq_one {actions : List ContextSwitchConfigAction}
    (h : (type_run_bounds .TriggerNewDataFromDataInput 0 (runs get_type actions)).length = 1) :
    ∃ P R S, SoleRun .TriggerNewDataFromDataInput actions P R S := by
  obtain ⟨pre, r, post, hrs, hr, hother⟩ := type_run_bounds_length_eq_one h
  have hmem : ∀ x ∈ pre ++ r :: post, x ∈ runs get_type actions := fun x hx => hrs ▸ hx
  obtain ⟨c, r', rfl, hc⟩ := exists_cons_of_mem_runs _ (hmem r (by simp))
  refine ⟨pre.flatten, c :: r', post.flatten, ⟨?_, List.cons_ne_nil _ _, ?_, ?_⟩⟩
  · rw [← flatten_runs get_type actions, hrs, List.flatten_append, List.flatten_cons, List.append_assoc]
  · intro a ha
    rw [hc a ha]
    simpa using hr
  · intro a ha
    obtain ⟨x, hx, hax⟩ : ∃ x ∈ pre ++ post, a ∈ x := by
      simp only [List.mem_append, List.mem_flatten] at ha ⊢
      rcases ha with ⟨x, hx, hax⟩ | ⟨x, hx, hax⟩
      · exact ⟨x, .inl hx, hax⟩
      · exact ⟨x, .inr hx, hax⟩
    obtain ⟨d, x', rfl, hd⟩ := exists_cons_of_mem_runs _ (hmem x (by
      simp only [List.mem_append, List.mem_cons] at hx ⊢; tauto))
    rw [hd a hax]
    simpa using hother _ hx

/-- The DDR actions: one `DdrPairInfoAction` per pair that needs manual credit
management, then `StartDdrBufferingTaskAction` when there is such a pair. -/
theorem ddr_buffers_info_eq (ddr_channel_pairs : List DdrChannelsPair) :
    ddr_buffers_info ddr_channel_pairs =
      (ddr_channel_pairs.filter (·.need_manual_credit_management)).map (·.info_action) ++
        if ddr_channel_pairs.any (·.need_manual_credit_management) then [mk' .StartDdrBufferingTaskAction]
        else [] := by
  unfold ddr_buffers_info
  dsimp only
  by_cases h : ddr_channel_pairs.any (·.need_manual_credit_management)
  · -- a pair that needs it makes the infos nonempty
    obtain ⟨p, hp, hpn⟩ := List.any_eq_true.1 h
    rw [if_neg (List.ne_nil_of_mem (List.mem_map_of_mem _ (List.mem_filter.2 ⟨hp, hpn⟩))), if_pos h]
  · have hnil : ddr_channel_pairs.filter (·.need_manual_credit_management) = [] :=
      List.filter_eq_nil_iff.2 fun p hp hpn => h (List.any_eq_true.2 ⟨p, hp, hpn⟩)
    rw [hnil, if_neg h]
    rfl

/-- **Pass B, by the operation's one group.**  An operation the pass does not
run on is returned as it is.  On one it runs on, the pass fails with
`HAILO_INTERNAL_FAILURE` exactly when the actions hold no single maximal run of
`TriggerNewDataFromDataInput`; when they are `P ++ R ++ S` with `R` that run,
it returns `P`, the marker, the context's DDR actions, `R`, the burst-credits
task and `S`. -/
theorem handle_edge_layer_activation_actions_spec (actions : List ContextSwitchConfigAction)
    (resources_manager : ResourcesManager) (context_index : Nat)
    (is_preliminary_context is_first_operation : Bool) :
    let result := handle_edge_layer_activation_actions actions resources_manager context_index
      is_preliminary_context is_first_operation
    let ddr_channel_pairs := resources_manager.ddr_channel_pairs_per_context context_index
    let ddr_actions := (ddr_channel_pairs.filter (·.need_manual_credit_management)).map (·.info_action) ++
      if ddr_channel_pairs.any (·.need_manual_credit_management) then [mk' .StartDdrBufferingTaskAction]
      else []
    (activates_edge_layers resources_manager is_preliminary_context is_first_operation = false →
      result = .ok actions) ∧
    (activates_edge_layers resources_manager is_preliminary_context is_first_operation = true →
      (result = .error .HAILO_INTERNAL_FAILURE ↔
        ¬∃ P R S, SoleRun .TriggerNewDataFromDataInput actions P R S) ∧
      ∀ P R S, SoleRun .TriggerNewDataFromDataInput actions P R S →
        result = .ok (P ++ mk' .EdgeLayerActivationActionsPositionMarker :: ddr_actions ++ R ++
          mk' .StartBurstCreditsTaskAction :: S)) := by
  simp only [handle_edge_layer_activation_actions_eq, ← ddr_buffers_info_eq]
  refine ⟨fun hact => by simp [hact], fun hact => ⟨⟨fun herr ⟨P, R, S, h⟩ => ?_, fun hno => ?_⟩,
    fun P R S h => by rw [if_pos hact, edge_layer_activation_pass_of_sole_run h]⟩⟩
  · rw [if_pos hact, edge_layer_activation_pass_of_sole_run h] at herr
    cases herr
  · rw [if_pos hact, edge_layer_activation_pass, if_neg fun h1 => hno (sole_run_of_length_eq_one h1)]

/-- The statement of `handle_edge_layer_activation_actions_spec` at the first
operation of a dynamic context whose one DDR pair needs manual credit
management: a trigger between two `DisableLcuAction`s. -/
theorem handle_edge_layer_activation_actions_spec_one_trigger :
    activates_edge_layers ⟨false, fun _ => [⟨⟨0, 1⟩, ⟨0, 2⟩, true, 4, 8⟩], [], fun _ => []⟩ false true = true ∧
    SoleRun .TriggerNewDataFromDataInput
      [mk' (.DisableLcuAction 0 0), mk' (.AllowInputDataflowAction 3 false), mk' (.DisableLcuAction 0 1)]
      [mk' (.DisableLcuAction 0 0)] [mk' (.AllowInputDataflowAction 3 false)] [mk' (.DisableLcuAction 0 1)] ∧
    handle_edge_layer_activation_actions
        [mk' (.DisableLcuAction 0 0), mk' (.AllowInputDataflowAction 3 false), mk' (.DisableLcuAction 0 1)]
        ⟨false, fun _ => [⟨⟨0, 1⟩, ⟨0, 2⟩, true, 4, 8⟩], [], fun _ => []⟩ 0 false true =
      .ok [mk' (.DisableLcuAction 0 0), mk' .EdgeLayerActivationActionsPositionMarker,
        mk' (.DdrPairInfoAction ⟨0, 1⟩ ⟨0, 2⟩ 4 8), mk' .StartDdrBufferingTaskAction,
        mk' (.AllowInputDataflowAction 3 false), mk' .StartBurstCreditsTaskAction, mk' (.DisableLcuAction 0 1)] :=
  have h : SoleRun .TriggerNewDataFromDataInput
      [mk' (.DisableLcuAction 0 0), mk' (.AllowInputDataflowAction 3 false), mk' (.DisableLcuAction 0 1)]
      [mk' (.DisableLcuAction 0 0)] [mk' (.AllowInputDataflowAction 3 false)] [mk' (.DisableLcuAction 0 1)] :=
    ⟨rfl, List.cons_ne_nil _ _, by decide, by decide⟩
  ⟨rfl, h, ((handle_edge_layer_activation_actions_spec _ _ 0 false true).2 rfl).2 _ _ _ h⟩

/-! ### Where the marker lands

Projected onto the two edge-layer types, an operation's actions read as one
run of `TriggerNewDataFromDataInput`, and after pass B as the marker followed
by that run: the DDR buffer actions and `StartBurstCreditsTaskAction` around
it are neither. -/

/-- The two action types that place an operation's edge-layer activation:
the position marker and `TriggerNewDataFromDataInput`. -/
def is_edge_layer_activation_type (t : ActionType) : Bool :=
  t == .EdgeLayerActivationActionsPositionMarker || t == .TriggerNewDataFromDataInput

/-- The types of `actions` that are edge-layer activation types, in order. -/
def edge_layer_activation_types (actions : List ContextSwitchConfigAction) : List ActionType :=
  (actions.map get_type).filter is_edge_layer_activation_type

@[simp] theorem edge_layer_activation_types_append (l₁ l₂ : List ContextSwitchConfigAction) :
    edge_layer_activation_types (l₁ ++ l₂) = edge_layer_activation_types l₁ ++ edge_layer_activation_types l₂ := by
  simp [edge_layer_activation_types]

theorem edge_layer_activation_types_eq_nil {l : List ContextSwitchConfigAction}
    (h : ∀ a ∈ l, is_edge_layer_activation_type a.get_type = false) : edge_layer_activation_types l = [] := by
  simpa [edge_layer_activation_types, List.filter_eq_nil_iff] using h

theorem edge_layer_activation_types_triggers {l : List ContextSwitchConfigAction}
    (h : ∀ a ∈ l, a.get_type = .TriggerNewDataFromDataInput) :
    edge_layer_activation_types l = List.replicate l.length .TriggerNewDataFromDataInput := by
  induction l with
  | nil => rfl
  | cons a l ih =>
    have ha := h a (List.mem_cons_self _ _)
    rw [List.length_cons, List.replicate_succ, ← ih (fun b hb => h b (List.mem_cons_of_mem _ hb))]
    simp [edge_layer_activation_types, ha, is_edge_layer_activation_type]

theorem mem_edge_layer_activation_types {t : ActionType} {l : List ContextSwitchConfigAction} :
    t ∈ edge_layer_activation_types l ↔ ∃ a ∈ l, a.get_type = t ∧ is_edge_layer_activation_type t = true := by
  simp only [edge_layer_activation_types, List.mem_filter, List.mem_map]
  constructor
  · rintro ⟨⟨a, ha, rfl⟩, he⟩; exact ⟨a, ha, rfl, he⟩
  · rintro ⟨a, ha, rfl, he⟩; exact ⟨⟨a, ha, rfl⟩, he⟩

theorem edge_layer_activation_types_cons (a : ContextSwitchConfigAction) (l : List ContextSwitchConfigAction) :
    edge_layer_activation_types (a :: l) = edge_layer_activation_types [a] ++ edge_layer_activation_types l := by
  rw [← edge_layer_activation_types_append]; rfl

/-- Dropping actions of neither type leaves the projection as it is. -/
theorem edge_layer_activation_types_filter {p : ContextSwitchConfigAction → Bool}
    (hp : ∀ a, p a = false → is_edge_layer_activation_type a.get_type = false)
    (l : List ContextSwitchConfigAction) :
    edge_layer_activation_types (l.filter p) = edge_layer_activation_types l := by
  induction l with
  | nil => rfl
  | cons a l ih =>
    rw [List.filter_cons, edge_layer_activation_types_cons a l]
    split
    · rw [edge_layer_activation_types_cons, ih]
    · have ha : edge_layer_activation_types [a] = [] := edge_layer_activation_types_eq_nil fun b hb => by
        rw [List.mem_singleton.1 hb]; exact hp a (by simpa using ‹¬p a = true›)
      rw [ih, ha, List.nil_append]

/-- The projection reads the actions only, not their repeated-block flags. -/
theorem edge_layer_activation_types_congr {l₁ l₂ : List ContextSwitchConfigAction}
    (h : l₁.map (·.action) = l₂.map (·.action)) :
    edge_layer_activation_types l₁ = edge_layer_activation_types l₂ := by
  have hty : ∀ l : List ContextSwitchConfigAction,
      l.map get_type = (l.map (·.action)).map fun x => (mk' x).get_type := fun l => by
    rw [List.map_map]; rfl
  simp only [edge_layer_activation_types, hty, h]

theorem edge_layer_activation_types_ddr_buffers_info (ddr_channel_pairs : List DdrChannelsPair) :
    edge_layer_activation_types (ddr_buffers_info ddr_channel_pairs) = [] :=
  edge_layer_activation_types_eq_nil fun a ha => by
    rcases get_type_mem_ddr_buffers_info ha with h | h <;> rw [h] <;> rfl

/-- **Pass B on an operation.**  An operation that passes holds a nonempty run
of triggers and nothing else of the two types; the pass puts the marker right
in front of it. -/
theorem edge_layer_activation_types_pass {ddr_actions actions result : List ContextSwitchConfigAction}
    (h : edge_layer_activation_pass ddr_actions actions = .ok result)
    (hddr : edge_layer_activation_types ddr_actions = [])
    (hmark : ∀ a ∈ actions, a.get_type ≠ .EdgeLayerActivationActionsPositionMarker) :
    ∃ k, 0 < k ∧ edge_layer_activation_types actions = List.replicate k .TriggerNewDataFromDataInput ∧
      edge_layer_activation_types result =
        .EdgeLayerActivationActionsPositionMarker :: List.replicate k .TriggerNewDataFromDataInput := by
  unfold edge_layer_activation_pass at h
  split_ifs at h with h1
  cases h
  obtain ⟨pre, r, post, hrs, hr, hother⟩ := type_run_bounds_length_eq_one h1
  -- the other runs hold neither markers nor triggers
  have hquiet : ∀ x ∈ pre ++ post, with_edge_layer_activation ddr_actions x = x ∧
      ∀ a ∈ x, is_edge_layer_activation_type a.get_type = false := by
    intro x hx
    have hxr : x ∈ runs get_type actions := by rw [hrs]; simp only [List.mem_append, List.mem_cons] at hx ⊢; tauto
    obtain ⟨c, x', rfl, hc⟩ := exists_cons_of_mem_runs _ hxr
    have hct : c.get_type ≠ .TriggerNewDataFromDataInput := by simpa using hother _ hx
    refine ⟨by simp [with_edge_layer_activation, is_trigger_new_data_run, hct], fun a ha => ?_⟩
    have hm := hmark a (mem_of_mem_runs _ hxr ha)
    rw [hc a ha] at hm ⊢
    simp [is_edge_layer_activation_type, hm, hct]
  have hrr : r ∈ runs get_type actions := by rw [hrs]; simp
  obtain ⟨c, r', rfl, hc⟩ := exists_cons_of_mem_runs _ hrr
  have hct : c.get_type = .TriggerNewDataFromDataInput := by simpa using hr
  have htr : ∀ a ∈ c :: r', a.get_type = .TriggerNewDataFromDataInput := fun a ha => (hc a ha).trans hct
  have hflat : ∀ xs : List (List ContextSwitchConfigAction), (∀ x ∈ xs, x ∈ pre ++ post) →
      xs.flatMap (with_edge_layer_activation ddr_actions) = xs.flatten ∧
      edge_layer_activation_types xs.flatten = [] := fun xs hxs =>
    ⟨(List.flatMap_congr fun x hx => (hquiet x (hxs x hx)).1).trans (List.flatMap_id xs),
      edge_layer_activation_types_eq_nil fun a ha => by
        obtain ⟨x, hx, ha⟩ := List.mem_flatten.1 ha
        exact (hquiet x (hxs x hx)).2 a ha⟩
  obtain ⟨hpre, hpre'⟩ := hflat pre fun x hx => List.mem_append_left _ hx
  obtain ⟨hpost, hpost'⟩ := hflat post fun x hx => List.mem_append_right _ hx
  refine ⟨(c :: r').length, by simp, ?_, ?_⟩
  · rw [← flatten_runs get_type actions, hrs, List.flatten_append, List.flatten_cons,
      edge_layer_activation_types_append, edge_layer_activation_types_append, hpre', hpost',
      edge_layer_activation_types_triggers htr, List.nil_append, List.append_nil]
  · have hwith : with_edge_layer_activation ddr_actions (c :: r') =
        mk' .EdgeLayerActivationActionsPositionMarker :: ddr_actions ++ c :: r' ++
          [mk' .StartBurstCreditsTaskAction] := by
      simp [with_edge_layer_activation, is_trigger_new_data_run, hct]
    have hm : edge_layer_activation_types (mk' .EdgeLayerActivationActionsPositionMarker :: ddr_actions) =
        [.EdgeLayerActivationActionsPositionMarker] := by
      rw [← List.singleton_append, edge_layer_activation_types_append, hddr]
      rfl
    rw [hrs, List.flatMap_append, List.flatMap_cons, hpre, hpost, hwith]
    have hsb : edge_layer_activation_types [mk' .StartBurstCreditsTaskAction] = [] := rfl
    simp only [edge_layer_activation_types_append, hpre', hpost', hm, hsb,
      edge_layer_activation_types_triggers htr, List.nil_append, List.append_nil, List.singleton_append]

theorem mem_edge_layer_activation_pass {ddr_actions actions result : List ContextSwitchConfigAction}
    (h : edge_layer_activation_pass ddr_actions actions = .ok result) {a : ContextSwitchConfigAction}
    (ha : a ∈ result) :
    a ∈ actions ∨ a ∈ ddr_actions ∨ a = mk' .EdgeLayerActivationActionsPositionMarker ∨
      a = mk' .StartBurstCreditsTaskAction := by
  unfold edge_layer_activation_pass at h
  split_ifs at h
  cases h
  obtain ⟨r, hr, ha⟩ := List.mem_flatMap.1 ha
  have hra : a ∈ r → a ∈ actions := mem_of_mem_runs _ hr
  unfold with_edge_layer_activation at ha
  split_ifs at ha
  · simp only [List.cons_append, List.mem_cons, List.mem_append, List.mem_singleton, List.not_mem_nil,
      or_false] at ha
    rcases ha with ha | (ha | ha) | ha
    · exact .inr (.inr (.inl ha))
    · exact .inr (.inl ha)
    · exact .inl (hra ha)
    · exact .inr (.inr (.inr ha))
  · exact .inl (hra ha)

end Hef
end HailoRT
