/-
# Pass C: repeated-block compression

`get_start_indexes_of_repeated_actions` and `handle_repeated_actions`
(`hef.cpp`, lines 1904-1955 and 2162-2196).  For every maximal run whose first
action supports repeated blocks, the chunking loop emits start indexes of
chunks of at most `std::numeric_limits<uint8_t>::max()` actions and at least
`MIN_REQUIRED_FOR_MERGING`; the main loop puts a `RepeatedHeaderAction` before
each chunk and flags its members through the shared pointers, ahead of the
index that pushes them.

The specification is written in terms of runs and chunks: `split_run` chops a
run into chunks of 255 from the left, `compress_chunk` puts a header before a
chunk of two or more, and `compress_run` does this for a compressible run.
`handle_repeated_actions_eq` says the pass is exactly
`(runs get_type actions).flatMap compress_run`; `RepeatedBlocks` is the shape
of its output, header by header.
-/

import HailoRT.Hef.Runs

namespace HailoRT
namespace Hef

open ContextSwitchConfigAction

/-! ### The source -/

/-- `MIN_REQUIRED_FOR_MERGING`: a repeated block saves room from two actions
on (`8 + a·x < 5x + a·x` iff `1.6 < x`, the comment in the source). -/
def MIN_REQUIRED_FOR_MERGING : Nat := 2

/-- `std::map<uint32_t, uint8_t>::emplace`: insert unless the key is present. -/
def map_emplace (m : List (Nat × Nat)) (k v : Nat) : List (Nat × Nat) :=
  if (m.lookup k).isSome then m else m ++ [(k, v)]

/-- The chunking `while` loop of `get_start_indexes_of_repeated_actions` over
the run `[start_index, end_index]`. -/
def chunk_loop (end_index : Nat) (start_index : Nat) (result : List (Nat × Nat)) :
    List (Nat × Nat) :=
  if start_index < end_index then
    let curr_chunk_size := min 255 (end_index - start_index + 1)
    if curr_chunk_size < MIN_REQUIRED_FOR_MERGING then result
    else chunk_loop end_index (start_index + curr_chunk_size)
      (map_emplace result start_index curr_chunk_size)
  else result
termination_by end_index - start_index
decreasing_by simp only [MIN_REQUIRED_FOR_MERGING] at *; omega

/-- One pass of the `for (index_pair : repeated_indexes)` loop of
`get_start_indexes_of_repeated_actions`: chunk the run if its first action
supports repeated blocks and its type is not denied. -/
def start_indexes_step (actions : List ContextSwitchConfigAction)
    (action_types_denylist : List ActionType) (result : List (Nat × Nat))
    (index_pair : Nat × Nat) : List (Nat × Nat) :=
  match actions[index_pair.1]? with
  | none => result
  | some first =>
    if !first.supports_repeated_block then result
    else if first.get_type ∈ action_types_denylist then result
    else chunk_loop index_pair.2 index_pair.1 result

/-- `get_start_indexes_of_repeated_actions`: the start index and size of every
chunk, over the runs `repeated_indexes`. -/
def get_start_indexes_of_repeated_actions (actions : List ContextSwitchConfigAction)
    (repeated_indexes : List (Nat × Nat)) (action_types_denylist : List ActionType) :
    List (Nat × Nat) :=
  repeated_indexes.foldl (start_indexes_step actions action_types_denylist) []

/-- The inner `for` of `handle_repeated_actions`: set `m_is_in_repeated_block`
on the first `num_repeates` actions from the current index. -/
def mark_repeated : Nat → List ContextSwitchConfigAction → List ContextSwitchConfigAction
  | 0, l => l
  | _, [] => []
  | k + 1, a :: l => a.set_is_in_repeated_block true :: mark_repeated k l

@[simp] theorem length_mark_repeated (k : Nat) (l : List ContextSwitchConfigAction) :
    (mark_repeated k l).length = l.length := by
  induction l generalizing k with
  | nil => cases k <;> rfl
  | cons a l ih => cases k <;> simp [mark_repeated, ih]

/-- The main loop of `handle_repeated_actions`, from `action_index` on: the
actions still to push (already flagged where an earlier header reached them)
and the processed vector. -/
def repeated_actions_loop (start_indexes : List (Nat × Nat)) :
    Nat → List ContextSwitchConfigAction → List ContextSwitchConfigAction →
      Except HailoStatus (List ContextSwitchConfigAction)
  | _, [], processed => .ok processed
  | action_index, a :: rest, processed =>
    match start_indexes.lookup action_index with
    | none => repeated_actions_loop start_indexes (action_index + 1) rest (processed ++ [a])
    | some num_repeates =>
      match RepeatedHeaderAction.create a.get_action_list_type num_repeates with
      | .error e => .error e
      | .ok repeated_header_action =>
        match h : mark_repeated num_repeates (a :: rest) with
        | [] => .ok processed
        | a' :: rest' =>
          repeated_actions_loop start_indexes (action_index + 1) rest'
            (processed ++ [repeated_header_action, a'])
termination_by _ l _ => l.length
decreasing_by
  · simp
  · have := congrArg List.length h
    simp only [length_mark_repeated, List.length_cons] at this
    simp; omega

/-- `handle_repeated_actions`. -/
def handle_repeated_actions (configuration_actions : List ContextSwitchConfigAction) :
    Except HailoStatus (List ContextSwitchConfigAction) :=
  let repeated_indexes := get_repreated_actions_boundary_indices configuration_actions
  let start_indexes_of_repeated_actions :=
    get_start_indexes_of_repeated_actions configuration_actions repeated_indexes []
  repeated_actions_loop start_indexes_of_repeated_actions 0 configuration_actions []

/-! ### What the pass should produce -/

/-- A run chopped from the left into chunks of 255 while more than 255 remain,
then the rest. -/
def split_run {α : Type} (r : List α) : List (List α) :=
  if r.length ≤ 255 then [r] else r.take 255 :: split_run (r.drop 255)
termination_by r.length
decreasing_by simp; omega

/-- A chunk of two or more actions behind a `RepeatedHeaderAction` for its
type and size, its members flagged; a lone action as it is. -/
def compress_chunk : List ContextSwitchConfigAction → List ContextSwitchConfigAction
  | [] => []
  | [a] => [a]
  | a :: b :: c =>
    mk' (.RepeatedHeaderAction a.get_action_list_type (c.length + 2)) ::
      (a :: b :: c).map (·.set_is_in_repeated_block true)

/-- A maximal run compressed: chunked when its actions support repeated
blocks, left alone otherwise. -/
def compress_run : List ContextSwitchConfigAction → List ContextSwitchConfigAction
  | [] => []
  | r@(a :: _) => if a.supports_repeated_block then (split_run r).flatMap compress_chunk else r

/-- One entry of a compressed list: a lone action, or a header with the
actions it covers. -/
inductive Block
  | single (a : ContextSwitchConfigAction)
  | group (sub_action_type : ActionListType) (members : List ContextSwitchConfigAction)

/-- The actions a block stands for, header first. -/
def Block.render : Block → List ContextSwitchConfigAction
  | .single a => [a]
  | .group sub members => mk' (.RepeatedHeaderAction sub members.length) :: members

/-- A well-formed block: a lone action is no header and is not flagged; a
group holds between 2 and 255 flagged actions of one type that supports
repeated blocks and whose action-list type is the header's. -/
def Block.WellFormed : Block → Prop
  | .single a => a.get_type ≠ .AddRrepeated ∧ a.is_in_repeated_block = false
  | .group sub members =>
    2 ≤ members.length ∧ members.length ≤ 255 ∧
      ∃ t, type_supports_repeated_block t = true ∧ type_action_list_type t = sub ∧
        ∀ m ∈ members, m.get_type = t ∧ m.is_in_repeated_block = true

/-- A list made of well-formed blocks: every `RepeatedHeaderAction` is
followed by exactly its `num_actions` actions, all of one compressible type
matching its `sub_action_type` and flagged, and every other action is
unflagged. -/
def RepeatedBlocks (l : List ContextSwitchConfigAction) : Prop :=
  ∃ bs : List Block, l = bs.flatMap Block.render ∧ ∀ b ∈ bs, b.WellFormed

/-! ### The chunk starts of one run -/

/-- The chunks of a run of `n` actions starting at `o`: 255 from the left while
more than 255 remain, then the rest if it has two or more. -/
def chunk_starts (o n : Nat) : List (Nat × Nat) :=
  if n ≤ 255 then (if 2 ≤ n then [(o, n)] else []) else (o, 255) :: chunk_starts (o + 255) (n - 255)
termination_by n
decreasing_by omega

theorem chunk_starts_keys {o n : Nat} : ∀ p ∈ chunk_starts o n, o ≤ p.1 ∧ p.1 < o + n := by
  induction n using Nat.strong_induction_on generalizing o with
  | _ n ih =>
    rw [chunk_starts]
    split_ifs with h₁ h₂
    · simp; omega
    · simp
    · intro p hp
      rcases List.mem_cons.1 hp with rfl | hp
      · simp; omega
      · have := ih (n - 255) (by omega) p hp; omega

/-- **The chunking loop emits the chunk starts.**  From a map whose keys all
precede the run, the `while` loop over the run `[o, e]` of `n = e + 1 - o`
actions appends exactly `chunk_starts o n`. -/
theorem chunk_loop_eq {o e n : Nat} {result : List (Nat × Nat)} (hn : 1 ≤ n) (he : e + 1 = o + n)
    (hres : ∀ p ∈ result, p.1 < o) :
    chunk_loop e o result = result ++ chunk_starts o n := by
  induction n using Nat.strong_induction_on generalizing o result with
  | _ n ih =>
    have hfresh : result.lookup o = none := lookup_eq_none_of_keys fun p hp => by
      have := hres p hp; omega
    rw [chunk_loop, chunk_starts]
    by_cases h1 : n = 1
    · subst h1; simp [show ¬o < e by omega]
    rw [if_pos (show o < e by omega), show e - o + 1 = n by omega]
    simp only [MIN_REQUIRED_FOR_MERGING, map_emplace, hfresh, Option.isSome_none,
      Bool.false_eq_true, if_false]
    by_cases h255 : n ≤ 255
    · have hc : min 255 n = n := Nat.min_eq_right h255
      rw [hc, if_neg (by omega), if_pos h255, if_pos (by omega), chunk_loop,
        if_neg (by omega)]
    · have hc : min 255 n = 255 := Nat.min_eq_left (by omega)
      rw [hc, if_neg (by omega), if_neg h255]
      have := @ih (n - 255) (by omega) (o + 255) (result ++ [(o, 255)]) (by omega)
        (by omega)
        (by intro p hp; rcases List.mem_append.1 hp with hp | hp
            · have := hres p hp; omega
            · rw [List.mem_singleton] at hp; subst hp; show o < o + 255; omega)
      simp [this]

/-- The chunk starts of the runs of a list, run by run, from offset `o`. -/
def run_chunk_starts : Nat → List (List ContextSwitchConfigAction) → List (Nat × Nat)
  | _, [] => []
  | o, [] :: rs => run_chunk_starts o rs
  | o, (a :: r) :: rs =>
    (if a.supports_repeated_block then chunk_starts o (r.length + 1) else []) ++
      run_chunk_starts (o + (r.length + 1)) rs

theorem run_chunk_starts_keys {o : Nat} {rs : List (List ContextSwitchConfigAction)} :
    ∀ p ∈ run_chunk_starts o rs, o ≤ p.1 := by
  induction rs generalizing o with
  | nil => simp [run_chunk_starts]
  | cons r rs ih =>
    rcases r with _ | ⟨a, r⟩
    · exact ih
    intro p hp
    rcases List.mem_append.1 hp with hp | hp
    · split_ifs at hp
      · exact (chunk_starts_keys p hp).1
      · simp at hp
    · have := ih p hp; omega

/-- **The start-index map is the run-by-run chunk starts.**  Folding the
chunking over the index pairs of consecutive non-empty runs (the actions from
`o` on being those runs) appends `run_chunk_starts o rs`. -/
theorem foldl_start_indexes_eq (actions : List ContextSwitchConfigAction) :
    ∀ (o : Nat) (rs : List (List ContextSwitchConfigAction)) (result : List (Nat × Nat)),
      actions.drop o = rs.flatten → (∀ r ∈ rs, r ≠ []) → (∀ p ∈ result, p.1 < o) →
      (run_bounds o rs).foldl (start_indexes_step actions []) result =
        result ++ run_chunk_starts o rs
  | o, [], result, _, _, _ => by simp [run_bounds, run_chunk_starts]
  | o, r :: rs, result, hdrop, hne, hres => by
    obtain ⟨a, r, rfl⟩ := List.exists_cons_of_ne_nil (hne _ (List.mem_cons_self _ _))
    have hget : actions[o]? = some a := by
      have := congrArg (·[0]?) hdrop
      simpa only [List.getElem?_drop, Nat.add_zero, List.flatten_cons, List.cons_append,
        List.getElem?_cons_zero] using this
    have hdrop' : actions.drop (o + (r.length + 1)) = rs.flatten := by
      rw [← List.drop_drop, hdrop, List.flatten_cons, ← List.length_cons a r, List.drop_left]
    have hne' : ∀ r ∈ rs, r ≠ [] := fun r hr => hne r (List.mem_cons_of_mem _ hr)
    simp only [run_bounds, List.foldl_cons, run_chunk_starts, List.length_cons]
    by_cases hs : a.supports_repeated_block = true
    · have hstep : start_indexes_step actions [] result (o, o + (r.length + 1) - 1) =
          result ++ chunk_starts o (r.length + 1) := by
        simp only [start_indexes_step, hget, hs, Bool.not_true, Bool.false_eq_true, if_false,
          List.not_mem_nil]
        exact chunk_loop_eq (by omega) (by omega) hres
      rw [hstep, foldl_start_indexes_eq actions _ rs _ hdrop' hne', if_pos hs,
        List.append_assoc]
      intro p hp
      rcases List.mem_append.1 hp with hp | hp
      · have := hres p hp; omega
      · exact (chunk_starts_keys p hp).2
    · have hstep : start_indexes_step actions [] result (o, o + (r.length + 1) - 1) = result := by
        simp [start_indexes_step, hget, hs]
      rw [hstep, if_neg hs, List.nil_append]
      exact foldl_start_indexes_eq actions _ rs _ hdrop' hne' fun p hp => by
        have := hres p hp; omega
/-! ### The main loop, run by run -/

section Loop

variable (S : List (Nat × Nat))

theorem repeated_actions_loop_none {i : Nat} {a : ContextSwitchConfigAction}
    {rest p : List ContextSwitchConfigAction} (h : S.lookup i = none) :
    repeated_actions_loop S i (a :: rest) p = repeated_actions_loop S (i + 1) rest (p ++ [a]) := by
  rw [repeated_actions_loop]; simp only [h]

/-- Actions at which no chunk starts are pushed unchanged. -/
theorem loop_copy (rest : List ContextSwitchConfigAction) :
    ∀ (l p : List ContextSwitchConfigAction) (o : Nat),
      (∀ i, o ≤ i → i < o + l.length → S.lookup i = none) →
      repeated_actions_loop S o (l ++ rest) p = repeated_actions_loop S (o + l.length) rest (p ++ l)
  | [], p, o, _ => by simp
  | a :: l, p, o, h => by
    rw [List.cons_append, repeated_actions_loop_none S (h o le_rfl (by simp)),
      loop_copy rest l _ (o + 1) fun i h₁ h₂ => h i (by omega) (by simp; omega)]
    simp [Nat.add_assoc, Nat.add_comm 1]

theorem mark_repeated_append (l rest : List ContextSwitchConfigAction) :
    mark_repeated l.length (l ++ rest) = l.map (·.set_is_in_repeated_block true) ++ rest := by
  induction l with
  | nil => simp [mark_repeated]
  | cons a l ih => simp [mark_repeated, ih]

/-- A chunk start pushes the header, then the chunk flagged. -/
theorem loop_chunk {o : Nat} {c rest p : List ContextSwitchConfigAction} (hc : 2 ≤ c.length)
    (hs : S.lookup o = some c.length) (hnone : ∀ i, o < i → i < o + c.length → S.lookup i = none)
    (hsup : ∀ a ∈ c, a.supports_repeated_block = true) :
    repeated_actions_loop S o (c ++ rest) p =
      repeated_actions_loop S (o + c.length) rest (p ++ compress_chunk c) := by
  obtain ⟨a, b, c', rfl⟩ : ∃ a b c', c = a :: b :: c' := by
    rcases c with _ | ⟨a, _ | ⟨b, c'⟩⟩
    · exact absurd hc (by decide : ¬2 ≤ 0)
    · exact absurd hc (by decide : ¬2 ≤ 1)
    · exact ⟨a, b, c', rfl⟩
  have hlt := get_action_list_type_of_supports (hsup a (by simp))
  have hmark := mark_repeated_append (a :: b :: c') rest
  rw [List.cons_append] at hmark ⊢
  rw [repeated_actions_loop]
  simp only [hs, RepeatedHeaderAction.create_eq hlt.1 hlt.2
    (show (a :: b :: c').length ≠ 0 by simp)]
  split
  · rename_i h; rw [hmark] at h; simp at h
  · rename_i a' rest' h
    rw [hmark, List.map_cons, List.cons_append, List.cons.injEq] at h
    obtain ⟨rfl, rfl⟩ := h
    rw [loop_copy S rest _ _ (o + 1) fun i h₁ h₂ => hnone i (by omega) (by simp at h₂ ⊢; omega)]
    simp [compress_chunk, Nat.add_assoc, Nat.add_comm 1]

theorem lookup_append_of_keys_gt {l₁ l₂ : List (Nat × Nat)} {i : Nat} (h : ∀ p ∈ l₂, i < p.1) :
    (l₁ ++ l₂).lookup i = l₁.lookup i := by
  cases h₁ : l₁.lookup i with
  | none => rw [lookup_append_of_none h₁, lookup_eq_none_of_keys fun p hp => by have := h p hp; omega]
  | some v => exact lookup_append_of_some h₁

/-- A run whose actions support repeated blocks, with the map holding its
chunk starts, is pushed chunk by chunk. -/
theorem loop_run (rest : List ContextSwitchConfigAction) :
    ∀ (r p : List ContextSwitchConfigAction) (o : Nat), r ≠ [] →
      (∀ a ∈ r, a.supports_repeated_block = true) →
      (∀ i, o ≤ i → i < o + r.length → S.lookup i = (chunk_starts o r.length).lookup i) →
      repeated_actions_loop S o (r ++ rest) p =
        repeated_actions_loop S (o + r.length) rest (p ++ (split_run r).flatMap compress_chunk)
  | r, p, o, hr, hsup, hS => by
    have hlen : 1 ≤ r.length := List.length_pos.2 hr
    by_cases h255 : r.length ≤ 255
    · rw [split_run, if_pos h255, List.flatMap_singleton]
      by_cases h1 : r.length = 1
      · obtain ⟨a, rfl⟩ := List.length_eq_one.1 h1
        rw [loop_copy S rest [a] p o fun i h₁ h₂ => by
          rw [hS i h₁ h₂, chunk_starts, if_pos (by simp), if_neg (by simp)]; rfl]
        rfl
      · have hcs : chunk_starts o r.length = [(o, r.length)] := by
          rw [chunk_starts, if_pos h255, if_pos (by omega)]
        exact loop_chunk S (by omega) (by rw [hS o le_rfl (by omega), hcs]; simp)
          (fun i h₁ h₂ => by rw [hS i (by omega) h₂, hcs, lookup_cons_of_ne (by omega)]; rfl)
          hsup
    · have hcs : chunk_starts o r.length =
          (o, 255) :: chunk_starts (o + 255) (r.length - 255) := by
        rw [chunk_starts, if_neg h255]
      have htake : (r.take 255).length = 255 := by rw [List.length_take]; omega
      have htail := @chunk_starts_keys (o + 255) (r.length - 255)
      rw [split_run, if_neg h255, List.flatMap_cons]
      conv_lhs => rw [← List.take_append_drop 255 r, List.append_assoc]
      rw [loop_chunk S (by omega) (by rw [htake, hS o le_rfl (by omega), hcs]; simp)
          (fun i h₁ h₂ => by
            rw [htake] at h₂
            rw [hS i (by omega) (by omega), hcs, lookup_cons_of_ne (by omega),
              lookup_eq_none_of_keys fun q hq => by have := htail q hq; omega])
          (fun a ha => hsup a (List.mem_of_mem_take ha))]
      rw [loop_run rest (r.drop 255) _ (o + (r.take 255).length) (by simp; omega)
          (fun a ha => hsup a (List.mem_of_mem_drop ha))
          (fun i h₁ h₂ => by
            rw [htake] at h₁ h₂ ⊢
            simp only [List.length_drop] at h₂ ⊢
            rw [hS i (by omega) (by omega), hcs, lookup_cons_of_ne (by omega)])]
      simp only [htake, List.length_drop, Nat.add_assoc, List.append_assoc]
      rw [show 255 + (r.length - 255) = r.length by omega]
termination_by r => r.length
decreasing_by
  simp only [List.length_drop]
  omega

/-- **The main loop, run by run.**  Over consecutive runs of one type each, the
map holding their chunk starts, the loop pushes `compress_run` of every run. -/
theorem loop_runs :
    ∀ (rs : List (List ContextSwitchConfigAction)) (p : List ContextSwitchConfigAction) (o : Nat),
      (∀ r ∈ rs, ∃ a r', r = a :: r' ∧ ∀ b ∈ r', b.get_type = a.get_type) →
      (∀ i, o ≤ i → S.lookup i = (run_chunk_starts o rs).lookup i) →
      repeated_actions_loop S o rs.flatten p = .ok (p ++ rs.flatMap compress_run)
  | [], p, o, _, _ => by simp [repeated_actions_loop]
  | r :: rs, p, o, hrs, hS => by
    obtain ⟨a, r', rfl, hr'⟩ := hrs _ (List.mem_cons_self _ _)
    have hrs' := fun r hr => hrs r (List.mem_cons_of_mem _ hr)
    have htail := @run_chunk_starts_keys (o + (r'.length + 1)) rs
    have hS' : ∀ i, o + (a :: r').length ≤ i →
        S.lookup i = (run_chunk_starts (o + (a :: r').length) rs).lookup i := by
      intro i hi
      rw [hS i (by simp at hi; omega), run_chunk_starts, lookup_append_of_none]
      · rfl
      · split_ifs
        · exact lookup_eq_none_of_keys fun q hq => by
            have := (chunk_starts_keys q hq).2; simp at hi; omega
        · rfl
    have hhead : ∀ i, o ≤ i → i < o + (a :: r').length →
        S.lookup i = (if a.supports_repeated_block then chunk_starts o (a :: r').length else []).lookup i := by
      intro i h₁ h₂
      rw [hS i h₁, run_chunk_starts, lookup_append_of_keys_gt fun q hq => by
        have := htail q hq; simp at h₂; omega]
      rfl
    rw [List.flatten_cons, List.flatMap_cons, compress_run]
    by_cases hs : a.supports_repeated_block = true
    · have hsup : ∀ b ∈ a :: r', b.supports_repeated_block = true := by
        intro b hb
        rcases List.mem_cons.1 hb with rfl | hb
        · exact hs
        · rw [supports_repeated_block_eq, hr' b hb, ← supports_repeated_block_eq, hs]
      rw [loop_run S _ _ p o (by simp) hsup fun i h₁ h₂ => by rw [hhead i h₁ h₂, if_pos hs],
        loop_runs rs _ _ hrs' hS', if_pos hs, List.append_assoc]
    · rw [loop_copy S _ _ p o fun i h₁ h₂ => by rw [hhead i h₁ h₂, if_neg hs]; rfl,
        loop_runs rs _ _ hrs' hS', if_neg hs, List.append_assoc]

end Loop

/-- **`handle_repeated_actions` is `compress_run` over the maximal runs.**  The
pass never fails, and its output is every maximal same-type run of the input
compressed in place, in order. -/
theorem handle_repeated_actions_eq (actions : List ContextSwitchConfigAction) :
    handle_repeated_actions actions =
      .ok ((runs ContextSwitchConfigAction.get_type actions).flatMap compress_run) := by
  have hruns : ∀ r ∈ runs get_type actions, ∃ a r', r = a :: r' ∧ ∀ b ∈ r', b.get_type = a.get_type := by
    intro r hr
    obtain ⟨a, r', rfl⟩ := List.exists_cons_of_ne_nil (ne_nil_of_mem_runs _ hr)
    exact ⟨a, r', rfl, eq_of_mem_runs _ hr⟩
  have hS : get_start_indexes_of_repeated_actions actions
      (get_repreated_actions_boundary_indices actions) [] =
        run_chunk_starts 0 (runs get_type actions) := by
    rw [get_start_indexes_of_repeated_actions, get_repreated_actions_boundary_indices_eq,
      foldl_start_indexes_eq actions 0 _ [] (by simp) (fun r hr => ne_nil_of_mem_runs _ hr)
        (by simp), List.nil_append]
  have := loop_runs (run_chunk_starts 0 (runs get_type actions)) _ [] 0 hruns fun i _ => rfl
  rw [flatten_runs, List.nil_append] at this
  rw [handle_repeated_actions, hS, this]

/-! ### The chunks of a run -/

section SplitRun

variable {α : Type}

theorem split_run_eq (r : List α) :
    split_run r = if r.length ≤ 255 then [r] else r.take 255 :: split_run (r.drop 255) := by
  rw [split_run]

@[simp] theorem flatten_split_run (r : List α) : (split_run r).flatten = r := by
  induction r using split_run.induct with
  | case1 r h => rw [split_run_eq, if_pos h]; simp
  | case2 r h ih => rw [split_run_eq, if_neg h, List.flatten_cons, ih, List.take_append_drop]

theorem length_le_of_mem_split_run {r c : List α} (h : c ∈ split_run r) : c.length ≤ 255 := by
  induction r using split_run.induct with
  | case1 r hr => rw [split_run_eq, if_pos hr, List.mem_singleton] at h; rw [h]; exact hr
  | case2 r hr ih =>
    rw [split_run_eq, if_neg hr, List.mem_cons] at h
    rcases h with rfl | h
    · simp
    · exact ih h

theorem mem_of_mem_split_run {r c : List α} {a : α} (h : c ∈ split_run r) (ha : a ∈ c) : a ∈ r := by
  rw [← flatten_split_run r]
  exact List.mem_flatten.2 ⟨c, h, ha⟩

/-- **The chunk sizes.**  A run of `n ≥ 1` actions is
cut into `n / 255` chunks of 255 followed by one chunk of `n % 255` when that
is not zero. -/
theorem split_run_lengths {r : List α} (hr : r ≠ []) :
    (split_run r).map List.length =
      List.replicate (r.length / 255) 255 ++ (if r.length % 255 = 0 then [] else [r.length % 255]) := by
  induction r using split_run.induct with
  | case1 r h =>
    have hpos := List.length_pos.2 hr
    rw [split_run_eq, if_pos h]
    by_cases h255 : r.length = 255
    · simp [h255]
    · rw [Nat.div_eq_of_lt (by omega), Nat.mod_eq_of_lt (by omega), if_neg (by omega)]; simp
  | case2 r h ih =>
    rw [split_run_eq, if_neg h, List.map_cons, ih (by simp; omega), List.length_drop,
      List.length_take, Nat.min_eq_left (by omega),
      show r.length / 255 = (r.length - 255) / 255 + 1 by omega,
      show r.length % 255 = (r.length - 255) % 255 by omega]
    rfl

end SplitRun

/-! ### The pass, run by run -/

/-- The blocks of one chunk: a group when it has two or more actions. -/
def chunk_blocks : List ContextSwitchConfigAction → List Block
  | [] => []
  | [a] => [.single a]
  | a :: b :: c => [.group a.get_action_list_type ((a :: b :: c).map (·.set_is_in_repeated_block true))]

/-- The blocks of one maximal run. -/
def run_blocks : List ContextSwitchConfigAction → List Block
  | [] => []
  | r@(a :: _) => if a.supports_repeated_block then (split_run r).flatMap chunk_blocks else r.map .single

theorem flatMap_render_chunk_blocks (c : List ContextSwitchConfigAction) :
    (chunk_blocks c).flatMap Block.render = compress_chunk c := by
  match c with
  | [] => rfl
  | [a] => rfl
  | a :: b :: c => simp [chunk_blocks, compress_chunk, Block.render]

theorem flatMap_render_single (l : List ContextSwitchConfigAction) :
    (l.map Block.single).flatMap Block.render = l := by
  induction l with
  | nil => rfl
  | cons a l ih => simp only [List.map_cons, List.flatMap_cons, ih]; rfl

theorem flatMap_render_run_blocks (r : List ContextSwitchConfigAction) :
    (run_blocks r).flatMap Block.render = compress_run r := by
  match r with
  | [] => rfl
  | a :: r =>
    simp only [run_blocks, compress_run]
    split_ifs
    · rw [List.flatMap_assoc]; simp only [flatMap_render_chunk_blocks]
    · exact flatMap_render_single _

/-- The blocks of a run of one compressible type are well formed, for fresh
actions that are no headers. -/
theorem run_blocks_wellFormed {a : ContextSwitchConfigAction} {r : List ContextSwitchConfigAction}
    (htype : ∀ b ∈ r, b.get_type = a.get_type)
    (hfresh : ∀ b ∈ a :: r, b.is_in_repeated_block = false ∧ b.get_type ≠ .AddRrepeated) :
    ∀ blk ∈ run_blocks (a :: r), blk.WellFormed := by
  have htype' : ∀ b ∈ a :: r, b.get_type = a.get_type := by
    intro b hb; rcases List.mem_cons.1 hb with rfl | hb
    · rfl
    · exact htype b hb
  have hsingle : ∀ b ∈ a :: r, (Block.single b).WellFormed := fun b hb =>
    ⟨(hfresh b hb).2, (hfresh b hb).1⟩
  simp only [run_blocks]
  split_ifs with hs
  · intro blk hblk
    obtain ⟨c, hc, hblk⟩ := List.mem_flatMap.1 hblk
    have hmem : ∀ b ∈ c, b ∈ a :: r := fun b hb => mem_of_mem_split_run hc hb
    match c, hblk with
    | [x], hblk =>
      rw [chunk_blocks, List.mem_singleton] at hblk
      rw [hblk]; exact hsingle x (hmem x (by simp))
    | x :: y :: c', hblk =>
      rw [chunk_blocks, List.mem_singleton] at hblk
      subst hblk
      refine ⟨by simp, by simpa using length_le_of_mem_split_run hc, a.get_type,
        by rw [← supports_repeated_block_eq, hs], ?_, ?_⟩
      · rw [← htype' x (hmem x (by simp)), ← get_action_list_type_eq]
      · intro m hm
        obtain ⟨b, hb, rfl⟩ := List.mem_map.1 hm
        exact ⟨htype' b (hmem b hb), rfl⟩
  · intro blk hblk
    obtain ⟨b, hb, rfl⟩ := List.mem_map.1 hblk
    exact hsingle b hb

/-- Removing the headers of a compressed run gives the run back, up to the
flag. -/
theorem filter_compress_run {r : List ContextSwitchConfigAction}
    (hr : ∀ b ∈ r, b.get_type ≠ .AddRrepeated) :
    ((compress_run r).filter fun a => !is_repeated_header a).map (·.action) = r.map (·.action) := by
  have hkeep : ∀ l : List ContextSwitchConfigAction, (∀ b ∈ l, b.get_type ≠ .AddRrepeated) →
      l.filter (fun a => !is_repeated_header a) = l := fun l hl =>
    List.filter_eq_self.2 fun b hb => by simpa [is_repeated_header] using hl b hb
  match r with
  | [] => rfl
  | a :: r' =>
    simp only [compress_run]
    split_ifs
    · rw [List.filter_flatMap, List.map_flatMap]
      conv_rhs => rw [← flatten_split_run (a :: r'), List.map_flatten, List.flatten_eq_flatMap,
        List.flatMap_map]
      refine List.flatMap_congr fun c hc => ?_
      have hc' : ∀ b ∈ c, b.get_type ≠ .AddRrepeated := fun b hb => hr b (mem_of_mem_split_run hc hb)
      match c, hc' with
      | [], _ => rfl
      | [x], hc' => simp only [compress_chunk, hkeep [x] hc']; rfl
      | x :: y :: c', hc' =>
        have hhdr : is_repeated_header (mk' (.RepeatedHeaderAction x.get_action_list_type
            (c'.length + 2))) = true := rfl
        rw [compress_chunk, List.filter_cons_of_neg (by simp [hhdr]), hkeep _ fun b hb => by
          obtain ⟨b', hb', rfl⟩ := List.mem_map.1 hb
          simpa using hc' b' hb']
        simp
    · rw [hkeep _ hr]

/-- Removing the headers from the compressed runs gives the list back, up to
the flags. -/
theorem filter_runs_compress_run {L : List ContextSwitchConfigAction}
    (hL : ∀ a ∈ L, a.get_type ≠ .AddRrepeated) :
    (((runs get_type L).flatMap compress_run).filter fun a => !is_repeated_header a).map (·.action) =
      L.map (·.action) := by
  rw [List.filter_flatMap, List.map_flatMap]
  conv_rhs => rw [← flatten_runs get_type L, List.map_flatten, List.flatten_eq_flatMap, List.flatMap_map]
  exact List.flatMap_congr fun r hr => filter_compress_run fun b hb =>
    hL b (by rw [← flatten_runs get_type L]; exact List.mem_flatten.2 ⟨r, hr, hb⟩)

/-- **Pass C compresses every run in place and loses nothing.**  For every list
of freshly constructed actions that holds no `RepeatedHeaderAction` (every list
`parse_actions_in_operation` hands the pass), `handle_repeated_actions`
succeeds with a list `L'` such that
(i) deleting its `RepeatedHeaderAction`s gives back the actions of `L` in order;
(ii) it is made of well-formed blocks: every header is followed by exactly its
`num_actions` actions, between 2 and 255, all of one type that supports
repeated blocks and has the header's action-list type, and the flagged actions
are exactly those members;
(iii) it is every maximal run of `L` compressed by `compress_run`: a run of a
compressible type cut into 255s from the left and the rest
(`split_run_lengths`), a chunk of one left alone. -/
theorem handle_repeated_actions_correct (L : List ContextSwitchConfigAction)
    (hL : ∀ a ∈ L, a.is_in_repeated_block = false ∧ a.get_type ≠ .AddRrepeated) :
    ∃ L', handle_repeated_actions L = .ok L' ∧
      (L'.filter fun a => !is_repeated_header a).map (·.action) = L.map (·.action) ∧
      RepeatedBlocks L' ∧
      L' = (runs ContextSwitchConfigAction.get_type L).flatMap compress_run := by
  refine ⟨_, handle_repeated_actions_eq L, filter_runs_compress_run fun b hb => (hL b hb).2, ?_, rfl⟩
  · refine ⟨(runs get_type L).flatMap run_blocks, ?_, ?_⟩
    · rw [List.flatMap_assoc]; simp only [flatMap_render_run_blocks]
    · intro blk hblk
      obtain ⟨r, hr, hblk⟩ := List.mem_flatMap.1 hblk
      obtain ⟨a, r', rfl⟩ := List.exists_cons_of_ne_nil (ne_nil_of_mem_runs _ hr)
      exact run_blocks_wellFormed (eq_of_mem_runs _ hr) (fun b hb =>
        hL b (by rw [← flatten_runs get_type L]; exact List.mem_flatten.2 ⟨_, hr, hb⟩)) blk hblk

/-- The hypotheses of `handle_repeated_actions_correct` are satisfiable: two
fresh `DisableLcuAction`s. -/
theorem handle_repeated_actions_correct_two_disable_lcu :
    (∀ a ∈ [mk' (.DisableLcuAction 0 0), mk' (.DisableLcuAction 0 1)],
        a.is_in_repeated_block = false ∧ a.get_type ≠ .AddRrepeated) ∧
      ∃ L', handle_repeated_actions [mk' (.DisableLcuAction 0 0), mk' (.DisableLcuAction 0 1)] = .ok L' ∧
        (L'.filter fun a => !is_repeated_header a).map (·.action) =
          [mk' (.DisableLcuAction 0 0), mk' (.DisableLcuAction 0 1)].map (·.action) ∧
        RepeatedBlocks L' ∧
        L' = (runs ContextSwitchConfigAction.get_type
          [mk' (.DisableLcuAction 0 0), mk' (.DisableLcuAction 0 1)]).flatMap compress_run :=
  ⟨by decide, handle_repeated_actions_correct _ (by decide)⟩

end Hef
end HailoRT
