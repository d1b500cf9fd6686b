/-
# Maximal runs of one action type

All three rewrite passes of `parse_actions_in_operation` start from
`get_repreated_actions_boundary_indices` (`hef.cpp`, lines 1875-1902): the
inclusive `[start, end]` index pairs of the consecutive actions that share a
`get_type()`.  `runs` is what those pairs describe, a partition of the list
into its maximal runs; `get_repreated_actions_boundary_indices_eq` says the
index loop computes exactly `run_bounds 0 (runs get_type actions)`.  Index by
index, the pairs it returns are the ones with the properties its comment
gives them, and no others (`get_repreated_actions_boundary_indices_iff`): the
first starts at `0`, the last ends at the last action, each starts right
after the one before, has one type throughout, and is followed by another.

`get_indexes_of_action_type` and `get_end_indexes_of_action_type`
(lines 1957-1986) keep the pairs of one type; over the runs they are
`type_run_bounds`.  The pairs come in ascending order and are pairwise
distinct, so the `std::set` of pairs the first one builds holds them in the
order of the list that `filter` keeps.
-/

import HailoRT.Hef.Action

namespace HailoRT
namespace Hef

/-! ### Maximal runs -/

section Runs

variable {α β : Type} [DecidableEq β] (f : α → β)

/-- The maximal runs of consecutive elements with one `f`-value, in order: an
element together with every following element of its value. -/
def runs : List α → List (List α)
  | [] => []
  | a :: l => (a :: l.takeWhile (fun b => f b = f a)) :: runs (l.dropWhile (fun b => f b = f a))
termination_by l => l.length
decreasing_by
  simp_wf
  exact Nat.lt_succ_of_le (List.dropWhile_suffix _).length_le

theorem runs_cons (a : α) (l : List α) :
    runs f (a :: l) =
      (a :: l.takeWhile (fun b => f b = f a)) :: runs f (l.dropWhile (fun b => f b = f a)) := by
  rw [runs]

@[simp] theorem runs_nil : runs f [] = [] := by rw [runs]

/-- The runs partition the list. -/
@[simp] theorem flatten_runs (l : List α) : (runs f l).flatten = l := by
  induction l using runs.induct f with
  | case1 => simp
  | case2 a l ih =>
    rw [runs_cons, List.flatten_cons, ih, List.cons_append, List.takeWhile_append_dropWhile]

theorem ne_nil_of_mem_runs {l : List α} {r : List α} (h : r ∈ runs f l) : r ≠ [] := by
  induction l using runs.induct f with
  | case1 => simp at h
  | case2 a l ih =>
    rw [runs_cons, List.mem_cons] at h
    rcases h with rfl | h
    · simp
    · exact ih h

/-- Every element of a run has the value of the run's first element. -/
theorem eq_of_mem_runs {l : List α} {a : α} {r : List α} (h : a :: r ∈ runs f l) :
    ∀ b ∈ r, f b = f a := by
  induction l using runs.induct f with
  | case1 => simp at h
  | case2 c l ih =>
    rw [runs_cons, List.mem_cons] at h
    rcases h with h | h
    · obtain ⟨rfl, rfl⟩ := List.cons.inj h
      intro b hb
      simpa using List.mem_takeWhile_imp hb
    · exact ih h

/-- A run is its first element followed by elements of that element's value. -/
theorem exists_cons_of_mem_runs {l r : List α} (h : r ∈ runs f l) :
    ∃ c r', r = c :: r' ∧ ∀ b ∈ r, f b = f c := by
  obtain ⟨c, r', rfl⟩ := List.exists_cons_of_ne_nil (ne_nil_of_mem_runs f h)
  refine ⟨c, r', rfl, fun b hb => ?_⟩
  rcases List.mem_cons.1 hb with rfl | hb
  · rfl
  · exact eq_of_mem_runs f h b hb

theorem mem_of_mem_runs {l r : List α} {a : α} (h : r ∈ runs f l) (ha : a ∈ r) : a ∈ l := by
  rw [← flatten_runs f l]
  exact List.mem_flatten.2 ⟨r, h, ha⟩

theorem runs_eq_cons {l : List α} {b : α} {s : List α} {post : List (List α)}
    (h : runs f l = (b :: s) :: post) : ∃ t, l = b :: t := by
  cases l with
  | nil => simp at h
  | cons x t =>
    rw [runs_cons, List.cons.injEq, List.cons.injEq] at h
    exact ⟨t, by rw [h.1.1]⟩

/-- The runs are maximal: the run that follows a run starts with another value. -/
theorem runs_maximal {l : List α} {r s : List α} {a b : α} {pre post : List (List α)}
    (h : runs f l = pre ++ (a :: r) :: (b :: s) :: post) : f b ≠ f a := by
  induction l using runs.induct f generalizing pre with
  | case1 => cases pre <;> simp at h
  | case2 c l ih =>
    rw [runs_cons] at h
    cases pre with
    | nil =>
      simp only [List.nil_append, List.cons.injEq] at h
      obtain ⟨⟨rfl, -⟩, h⟩ := h
      obtain ⟨t, ht⟩ := runs_eq_cons f h
      have hne : l.dropWhile (fun b => f b = f c) ≠ [] := by simp [ht]
      have := List.head_dropWhile_not (fun b => decide (f b = f c)) l hne
      simpa [ht] using this
    | cons p pre => exact ih (List.cons.inj h).2

/-- Keys read through a map give the runs of the mapped list. -/
theorem runs_map {γ : Type} (g : γ → α) (l : List γ) :
    runs f (l.map g) = (runs (f ∘ g) l).map (List.map g) := by
  induction l using runs.induct (f ∘ g) with
  | case1 => simp
  | case2 a l ih =>
    rw [List.map_cons, runs_cons, runs_cons, List.map_cons, ← ih]
    simp [List.takeWhile_map, List.dropWhile_map, Function.comp_def]

/-- A list whose elements all have its first element's value is one run. -/
theorem runs_of_forall_eq {a : α} {l : List α} (h : ∀ b ∈ l, f b = f a) : runs f (a :: l) = [a :: l] := by
  rw [runs_cons, List.takeWhile_eq_self_iff.2 (by simpa using h),
    List.dropWhile_eq_nil_iff.2 (by simpa using h), runs_nil]

/-- Two lists that meet at a change of value are split into runs apart. -/
theorem runs_append {l₁ l₂ : List α} (h : ∀ a ∈ l₁.getLast?, ∀ b ∈ l₂.head?, f a ≠ f b) :
    runs f (l₁ ++ l₂) = runs f l₁ ++ runs f l₂ := by
  induction l₁ using runs.induct f with
  | case1 => simp
  | case2 a l ih =>
    rw [List.cons_append, runs_cons, runs_cons, List.cons_append]
    by_cases hl : ∀ b ∈ l, f b = f a
    · -- `a :: l` is one run, which `l₂` does not continue
      have h₂ : ∀ b ∈ l₂.head?, ¬f b = f a := fun b hb hb' => by
        obtain ⟨x, hx⟩ := Option.isSome_iff_exists.1 (by simp : (a :: l).getLast?.isSome)
        have hxa : f x = f a := by
          rcases List.mem_cons.1 (List.mem_of_getLast?_eq_some hx) with rfl | hx
          · rfl
          · exact hl x hx
        exact h x hx b hb (hxa.trans hb'.symm)
      have hp : ∀ b ∈ l, decide (f b = f a) = true := fun b hb => decide_eq_true (hl b hb)
      rw [List.takeWhile_append_of_pos hp, List.dropWhile_append_of_pos hp,
        List.takeWhile_eq_self_iff.2 hp, List.dropWhile_eq_nil_iff.2 hp, runs_nil]
      cases l₂ with
      | nil => simp
      | cons b t => simp [List.takeWhile_cons, List.dropWhile_cons, h₂ b rfl]
    · -- the run of `a` ends inside `l`, before `l₂`
      have hne : l.dropWhile (fun b => f b = f a) ≠ [] := fun h =>
        hl fun b hb => of_decide_eq_true (List.dropWhile_eq_nil_iff.1 h b hb)
      have htake : (l.takeWhile fun b => f b = f a).length ≠ l.length := fun hlen =>
        hl (by simpa using List.takeWhile_eq_self_iff.1 ((List.takeWhile_prefix _).eq_of_length hlen))
      have hlast : (l.dropWhile fun b => f b = f a).getLast? = (a :: l).getLast? := by
        conv_rhs => rw [← List.takeWhile_append_dropWhile (fun b => decide (f b = f a)) l,
          ← List.cons_append, List.getLast?_append]
        cases hd : (l.dropWhile fun b => f b = f a).getLast? with
        | none => exact absurd (List.getLast?_eq_none_iff.1 hd) hne
        | some x => rfl
      rw [List.takeWhile_append, if_neg htake, List.dropWhile_append,
        if_neg (by simpa using hne), ih (hlast ▸ h)]

end Runs

/-! ### The index pairs -/

/-- The inclusive `[start, end]` index pairs of consecutive blocks, the first
starting at `o`. -/
def run_bounds {α : Type} : Nat → List (List α) → List (Nat × Nat)
  | _, [] => []
  | o, r :: rs => (o, o + r.length - 1) :: run_bounds (o + r.length) rs

/-- The `do`-`while` of `get_repreated_actions_boundary_indices`: advance
`end_index` past every action of the start action's type.  `types` are the
types of the actions from `end_index` on. -/
def scan_run_end (start_type : ActionType) : List ActionType → Nat → Nat
  | [], end_index => end_index
  | t :: types, end_index =>
      if start_type ≠ t then end_index else scan_run_end start_type types (end_index + 1)

theorem scan_run_end_eq (t : ActionType) (types : List ActionType) (e : Nat) :
    scan_run_end t types e = e + (types.takeWhile (fun b => b = t)).length := by
  induction types generalizing e with
  | nil => simp [scan_run_end]
  | cons u types ih =>
    by_cases h : t = u
    · subst h; simp [scan_run_end, ih]; omega
    · simp [scan_run_end, h, Ne.symm h]

theorem drop_length_takeWhile {α : Type} (p : α → Bool) (l : List α) :
    l.drop (l.takeWhile p).length = l.dropWhile p := by
  have h := List.takeWhile_append_dropWhile p l
  calc l.drop (l.takeWhile p).length
      = (l.takeWhile p ++ l.dropWhile p).drop (l.takeWhile p).length := by rw [h]
    _ = l.dropWhile p := List.drop_left _ _

/-- The `while (start_index < num_actions)` loop of
`get_repreated_actions_boundary_indices` over the actions' types. -/
def boundary_indices_loop (types : List ActionType) (start_index : Nat) : List (Nat × Nat) :=
  if h : start_index < types.length then
    let end_index := scan_run_end types[start_index] (types.drop (start_index + 1)) (start_index + 1)
    (start_index, end_index - 1) :: boundary_indices_loop types end_index
  else []
termination_by types.length - start_index
decreasing_by rw [scan_run_end_eq]; omega

/-- `get_repreated_actions_boundary_indices`. -/
def get_repreated_actions_boundary_indices (actions : List ContextSwitchConfigAction) :
    List (Nat × Nat) :=
  boundary_indices_loop (actions.map ContextSwitchConfigAction.get_type) 0

theorem boundary_indices_loop_eq (types : List ActionType) (s : Nat) :
    boundary_indices_loop types s = run_bounds s (runs id (types.drop s)) := by
  induction s using boundary_indices_loop.induct types with
  | case1 s h e ih =>
    rw [boundary_indices_loop, dif_pos h]
    obtain ⟨rest, hrest⟩ : ∃ rest, types.drop s = types[s] :: rest :=
      ⟨_, List.drop_eq_getElem_cons h⟩
    have hd : types.drop (s + 1) = rest := by
      rw [← List.drop_drop, hrest]; rfl
    have he : e = s + 1 + (rest.takeWhile fun b => b = types[s]).length := by
      simp only [e, hd, scan_run_end_eq]
    have hdw : types.drop e = rest.dropWhile fun b => b = types[s] := by
      rw [he, ← List.drop_drop, hd, drop_length_takeWhile]
    show (s, e - 1) :: boundary_indices_loop types e = _
    rw [ih, hdw, hrest, runs_cons, he]
    simp only [id, run_bounds, List.length_cons]
    congr 2 <;> omega
  | case2 s h =>
    rw [boundary_indices_loop, dif_neg h, List.drop_eq_nil_of_le (by omega)]
    simp [run_bounds]

theorem run_bounds_map {α γ : Type} (g : α → γ) (o : Nat) (rs : List (List α)) :
    run_bounds o (rs.map (List.map g)) = run_bounds o rs := by
  induction rs generalizing o <;> simp [run_bounds, *]

/-- **The index loop computes the maximal runs.**  The pairs of
`get_repreated_actions_boundary_indices` are the inclusive bounds of the
maximal same-type runs, in order. -/
theorem get_repreated_actions_boundary_indices_eq (actions : List ContextSwitchConfigAction) :
    get_repreated_actions_boundary_indices actions =
      run_bounds 0 (runs ContextSwitchConfigAction.get_type actions) := by
  rw [get_repreated_actions_boundary_indices, boundary_indices_loop_eq, List.drop_zero,
    runs_map, run_bounds_map]
  rfl

/-! ### The pairs, index by index -/

/-- The inclusive `[start, end]` pairs of the maximal runs of `types` from
index `o` on: the first starts at `o` and the last ends at the last index,
each starts right after the one before ends, has one type throughout, and is
followed by another type.  No pairs at all exactly when nothing is left. -/
structure RunPairs {β : Type} (types : List β) (o : Nat) (ps : List (Nat × Nat)) : Prop where
  nil_iff : ps = [] ↔ types.length ≤ o
  first : ∀ p ∈ ps.head?, p.1 = o
  last : ∀ p ∈ ps.getLast?, p.2 = types.length - 1
  next : ∀ j (h : j + 1 < ps.length), ps[j + 1].1 = ps[j].2 + 1
  le : ∀ p ∈ ps, p.1 ≤ p.2
  same : ∀ p ∈ ps, ∀ i, p.1 ≤ i → i ≤ p.2 → types[i]? = types[p.1]?
  differ : ∀ j (h : j + 1 < ps.length), types[ps[j].2 + 1]? ≠ types[ps[j].2]?

/-- `scan_run_end` stops at the first type from `end_index` on that is not
`start_type`. -/
theorem scan_run_end_spec (start_type : ActionType) :
    ∀ (types : List ActionType) (end_index : Nat), ∃ k, scan_run_end start_type types end_index = end_index + k ∧
      k ≤ types.length ∧ (∀ i < k, types[i]? = some start_type) ∧
      (k < types.length → types[k]? ≠ some start_type)
  | [], _ => ⟨0, rfl, le_rfl, nofun, nofun⟩
  | t :: types, end_index => by
    by_cases h : start_type = t
    · subst h
      obtain ⟨k, hk, hlen, hsame, hstop⟩ := scan_run_end_spec start_type types (end_index + 1)
      refine ⟨k + 1, ?_, Nat.succ_le_succ hlen, fun i hi => ?_, fun hlt => ?_⟩
      · rw [scan_run_end, if_neg (not_not.2 rfl), hk]
        omega
      · cases i with
        | zero => exact List.getElem?_cons_zero
        | succ i => rw [List.getElem?_cons_succ]; exact hsame i (by omega)
      · rw [List.getElem?_cons_succ]
        exact hstop (Nat.lt_of_succ_lt_succ hlt)
    · refine ⟨0, by rw [scan_run_end, if_pos h]; rfl, Nat.zero_le _, nofun, fun _ => ?_⟩
      rw [List.getElem?_cons_zero]
      exact fun h' => h (Option.some.inj h').symm

/-- The end of the run at `o` is the one index `e` from `o` on such that the
types up to it are `types[o]`'s and another type follows it. -/
theorem run_end_iff {types : List ActionType} {o : Nat} (ho : o < types.length) (e : Nat) :
    (o ≤ e ∧ e < types.length ∧ (∀ i, o ≤ i → i ≤ e → types[i]? = types[o]?) ∧
      (e + 1 < types.length → types[e + 1]? ≠ types[e]?)) ↔
      e + 1 = scan_run_end types[o] (types.drop (o + 1)) (o + 1) := by
  obtain ⟨k, hk, hlen, hsame, hstop⟩ := scan_run_end_spec types[o] (types.drop (o + 1)) (o + 1)
  simp only [List.length_drop, List.getElem?_drop] at hlen hsame hstop
  have ht : types[o]? = some types[o] := List.getElem?_eq_getElem ho
  -- the indices `o .. o + k` have the type of `o`
  have hrun : ∀ i, o ≤ i → i ≤ o + k → types[i]? = some types[o] := fun i hoi hik => by
    rcases Nat.eq_or_lt_of_le hoi with rfl | hlt
    · exact ht
    · have := hsame (i - (o + 1)) (by omega)
      rwa [show o + 1 + (i - (o + 1)) = i by omega] at this
  rw [hk]
  constructor
  · rintro ⟨hoe, hen, hsame', hdiff⟩
    rcases lt_trichotomy e (o + k) with hlt | heq | hgt
    · -- the run would go on past `e`
      exact absurd ((hrun (e + 1) (by omega) (by omega)).trans (hrun e hoe (by omega)).symm) (hdiff (by omega))
    · omega
    · -- the type changes at `o + 1 + k`, inside `[o, e]`
      exact absurd ((hsame' (o + 1 + k) (by omega) (by omega)).trans ht) (hstop (by omega))
  · intro he
    refine ⟨by omega, by omega, fun i hoi hie => (hrun i hoi (by omega)).trans ht.symm, fun hlt => ?_⟩
    rw [hrun e (by omega) (by omega), show e + 1 = o + 1 + k by omega]
    exact hstop (by omega)

/-- Pairs that each start right after the one before ends, none ending
before it starts, all end by the last one's end. -/
theorem le_getLast?_of_next {ps : List (Nat × Nat)}
    (hnext : ∀ j (h : j + 1 < ps.length), ps[j + 1].1 = ps[j].2 + 1) (hle : ∀ p ∈ ps, p.1 ≤ p.2) :
    ∀ q ∈ ps.getLast?, ∀ p ∈ ps, p.2 ≤ q.2 := by
  induction ps with
  | nil => intro q hq; cases hq
  | cons a rest ih =>
    intro q hq p hp
    cases rest with
    | nil =>
      cases hq
      cases List.mem_singleton.1 hp
      exact le_rfl
    | cons b rest =>
      have ih := ih (fun j h => hnext (j + 1) (by simp only [List.length_cons] at h ⊢; omega))
        (fun p hp => hle p (List.mem_cons_of_mem _ hp)) q (by rwa [List.getLast?_cons_cons] at hq)
      rcases List.mem_cons.1 hp with rfl | hp
      · have hb : b.1 = p.2 + 1 := hnext 0 (by simp only [List.length_cons]; omega)
        have := ih b (List.mem_cons_self _ _)
        have := hle b (List.mem_cons_of_mem _ (List.mem_cons_self _ _))
        omega
      · exact ih p hp

section RunPairs

variable {β : Type} {types : List β} {o : Nat} {p : Nat × Nat} {ps : List (Nat × Nat)}

theorem run_pairs_nil : RunPairs types o [] ↔ types.length ≤ o :=
  ⟨fun h => h.nil_iff.1 rfl, fun h => ⟨iff_of_true rfl h, nofun, nofun, nofun, nofun, nofun, nofun⟩⟩

/-- The first pair is the run at `o`, and the pairs after it are those of
the rest of the list. -/
theorem run_pairs_cons : RunPairs types o (p :: ps) ↔
    p.1 = o ∧ (o ≤ p.2 ∧ p.2 < types.length ∧ (∀ i, o ≤ i → i ≤ p.2 → types[i]? = types[o]?) ∧
      (p.2 + 1 < types.length → types[p.2 + 1]? ≠ types[p.2]?)) ∧ RunPairs types (p.2 + 1) ps := by
  constructor
  · intro h
    have hp : p.1 = o := h.first p rfl
    have ho : o < types.length := by
      by_contra hc
      exact List.cons_ne_nil _ _ (h.nil_iff.2 (by omega))
    have hsame : ∀ i, o ≤ i → i ≤ p.2 → types[i]? = types[o]? := fun i hi hi' =>
      hp ▸ h.same p (List.mem_cons_self _ _) i (hp ▸ hi) hi'
    have hle : o ≤ p.2 := hp ▸ h.le p (List.mem_cons_self _ _)
    -- `p.2` has the type of `o`, so it is an index
    have hlt : p.2 < types.length := by
      have hend := hsame p.2 hle le_rfl
      rw [List.getElem?_eq_getElem ho] at hend
      by_contra hc
      rw [List.getElem?_eq_none_iff.2 (by omega)] at hend
      cases hend
    -- the last pair ends at the last index, and every pair by its end
    have hlast : ps = [] → p.2 = types.length - 1 := fun hps => h.last p (by subst hps; rfl)
    have hmono : ∀ q ∈ ps, q.2 ≤ types.length - 1 := fun q hq => by
      obtain ⟨l, hl⟩ := Option.isSome_iff_exists.1 (List.getLast?_isSome.2 (List.cons_ne_nil p ps))
      exact h.last l hl ▸ le_getLast?_of_next h.next h.le l hl q (List.mem_cons_of_mem _ hq)
    refine ⟨hp, ⟨hle, hlt, hsame, fun hlt' => ?_⟩, ⟨⟨fun hps => ?_, fun hn => ?_⟩, ?_, ?_, ?_, ?_, ?_, ?_⟩⟩
    · cases ps with
      | nil => have := hlast rfl; omega
      | cons q ps => exact h.differ 0 (Nat.succ_lt_succ (Nat.succ_pos _))
    · have := hlast hps; omega
    · cases ps with
      | nil => rfl
      | cons q ps =>
        have hq : q.1 = p.2 + 1 := h.next 0 (Nat.succ_lt_succ (Nat.succ_pos _))
        have := hmono q (List.mem_cons_self _ _)
        have := h.le q (List.mem_cons_of_mem _ (List.mem_cons_self _ _))
        omega
    · rintro q hq
      cases ps with
      | nil => cases hq
      | cons r ps =>
        cases hq
        exact h.next 0 (Nat.succ_lt_succ (Nat.succ_pos _))
    · intro q hq
      cases ps with
      | nil => cases hq
      | cons r ps => exact h.last q (by rwa [List.getLast?_cons_cons])
    · intro j hj
      exact h.next (j + 1) (by simp only [List.length_cons]; omega)
    · exact fun q hq => h.le q (List.mem_cons_of_mem _ hq)
    · exact fun q hq => h.same q (List.mem_cons_of_mem _ hq)
    · intro j hj
      exact h.differ (j + 1) (by simp only [List.length_cons]; omega)
  · rintro ⟨hp, ⟨hle, hlt, hsame, hdiff⟩, hrest⟩
    refine ⟨iff_of_false (List.cons_ne_nil _ _) (by omega), fun q hq => by cases hq; exact hp,
      fun q hq => ?_, fun j hj => ?_, fun q hq => ?_, fun q hq => ?_, fun j hj => ?_⟩
    · cases ps with
      | nil =>
        simp only [List.getLast?_singleton, Option.mem_def, Option.some.injEq] at hq
        subst hq
        have := hrest.nil_iff.1 rfl
        omega
      | cons r ps => exact hrest.last q (by rwa [List.getLast?_cons_cons] at hq)
    · cases j with
      | zero =>
        cases ps with
        | nil => exact absurd hj (Nat.lt_irrefl 1)
        | cons r ps => exact hrest.first r rfl
      | succ j => exact hrest.next j (by simp only [List.length_cons] at hj; omega)
    · rcases List.mem_cons.1 hq with rfl | hq
      · exact hp ▸ hle
      · exact hrest.le q hq
    · rcases List.mem_cons.1 hq with rfl | hq
      · exact hp ▸ hsame
      · exact hrest.same q hq
    · cases j with
      | zero =>
        cases ps with
        | nil => exact absurd hj (Nat.lt_irrefl 1)
        | cons r ps =>
          have hn : ¬types.length ≤ p.2 + 1 := fun hn => List.cons_ne_nil _ _ (hrest.nil_iff.2 hn)
          exact hdiff (by omega)
      | succ j => exact hrest.differ j (by simp only [List.length_cons] at hj; omega)

end RunPairs

/-- The index loop from `o` returns exactly the pairs of the maximal runs
from `o` on. -/
theorem boundary_indices_loop_eq_iff (types : List ActionType) (o : Nat) :
    ∀ ps, boundary_indices_loop types o = ps ↔ RunPairs types o ps := by
  induction o using boundary_indices_loop.induct types with
  | case1 o h e ih =>
    intro ps
    rw [boundary_indices_loop, dif_pos h]
    cases ps with
    | nil => exact iff_of_false (List.cons_ne_nil _ _) fun hr => absurd (run_pairs_nil.1 hr) (by omega)
    | cons p ps =>
      have he : o + 1 ≤ e := by simp only [e, scan_run_end_eq]; omega
      rw [List.cons.injEq, run_pairs_cons, run_end_iff h]
      constructor
      · rintro ⟨rfl, hrest⟩
        exact ⟨rfl, by simp only [e]; omega, by rwa [show e - 1 + 1 = e by omega, ← ih]⟩
      · rintro ⟨hp, hend, hrest⟩
        rw [hend] at hrest
        exact ⟨Prod.ext hp.symm (by simp only [e] at hend ⊢; omega), (ih ps).2 hrest⟩
  | case2 o h =>
    intro ps
    rw [boundary_indices_loop, dif_neg h]
    cases ps with
    | nil => exact iff_of_true rfl (run_pairs_nil.2 (by omega))
    | cons p ps =>
      refine iff_of_false (List.cons_ne_nil _ _).symm fun hr => ?_
      obtain ⟨-, ⟨hle, hlt, -⟩, -⟩ := run_pairs_cons.1 hr
      omega

/-- **The pairs are exactly the maximal runs, index by index.**
`get_repreated_actions_boundary_indices` returns `ps` exactly when `ps` are
the inclusive pairs of the maximal same-type runs of the actions, in order:
the first starts at `0`, the last ends at the last action, each starts right
after the one before, its actions have one type, and the action after it has
another.  The empty vector gives no pairs. -/
theorem get_repreated_actions_boundary_indices_iff (actions : List ContextSwitchConfigAction)
    (ps : List (Nat × Nat)) :
    get_repreated_actions_boundary_indices actions = ps ↔
      RunPairs (actions.map ContextSwitchConfigAction.get_type) 0 ps :=
  boundary_indices_loop_eq_iff _ 0 ps

/-! ### The pairs of one type -/

/-- `get_indexes_of_action_type`: the pairs whose first action has the
required type. -/
def get_indexes_of_action_type (actions : List ContextSwitchConfigAction)
    (repeated_indexes : List (Nat × Nat)) (required_action_type : ActionType) : List (Nat × Nat) :=
  repeated_indexes.filter fun index_pair =>
    actions[index_pair.1]?.map ContextSwitchConfigAction.get_type = some required_action_type

/-- `get_end_indexes_of_action_type`: the `std::set` of those pairs' ends. -/
def get_end_indexes_of_action_type (actions : List ContextSwitchConfigAction)
    (repeated_indexes : List (Nat × Nat)) (required_action_type : ActionType) : List Nat :=
  (get_indexes_of_action_type actions repeated_indexes required_action_type).foldl
    (fun result index_pair => set_insert index_pair.2 result) []

/-- The bounds of the runs whose first action has type `t`, the first run
starting at `o`. -/
def type_run_bounds (t : ActionType) : Nat → List (List ContextSwitchConfigAction) → List (Nat × Nat)
  | _, [] => []
  | o, r :: rs =>
      (if r.head?.map ContextSwitchConfigAction.get_type = some t then [(o, o + r.length - 1)] else []) ++
        type_run_bounds t (o + r.length) rs

theorem filter_run_bounds (actions : List ContextSwitchConfigAction) (t : ActionType) :
    ∀ (rs : List (List ContextSwitchConfigAction)) (o : Nat), (∀ r ∈ rs, r ≠ []) →
      actions.drop o = rs.flatten →
      (run_bounds o rs).filter (fun p => actions[p.1]?.map ContextSwitchConfigAction.get_type = some t) =
        type_run_bounds t o rs
  | [], _, _, _ => rfl
  | [] :: _, _, hne, _ => absurd rfl (hne [] (List.mem_cons_self _ _))
  | (a :: r) :: rs, o, hne, hdrop => by
    have hget : actions[o]? = some a := by
      rw [← Nat.add_zero o, ← List.getElem?_drop, hdrop]; simp
    have hrest : actions.drop (o + (a :: r).length) = rs.flatten := by
      rw [← List.drop_drop, hdrop, List.flatten_cons, List.drop_left]
    rw [run_bounds, type_run_bounds, List.filter_cons,
      filter_run_bounds actions t rs _ (fun r hr => hne r (List.mem_cons_of_mem _ hr)) hrest]
    by_cases h : a.get_type = t <;> simp [hget, h]

/-- **The pairs of one type are the bounds of that type's runs.** -/
theorem get_indexes_of_action_type_eq (actions : List ContextSwitchConfigAction) (t : ActionType) :
    get_indexes_of_action_type actions (get_repreated_actions_boundary_indices actions) t =
      type_run_bounds t 0 (runs ContextSwitchConfigAction.get_type actions) := by
  rw [get_indexes_of_action_type, get_repreated_actions_boundary_indices_eq]
  exact filter_run_bounds actions t _ 0 (fun _ => ne_nil_of_mem_runs _) (by simp)

/-- The bounds of nonempty runs from `o` end at or after `o`. -/
theorem le_of_mem_type_run_bounds {t : ActionType} :
    ∀ {o : Nat} {rs : List (List ContextSwitchConfigAction)} {p : Nat × Nat},
      (∀ r ∈ rs, r ≠ []) → p ∈ type_run_bounds t o rs → o ≤ p.2
  | _, [], _, _, hp => by simp [type_run_bounds] at hp
  | o, r :: rs, p, hne, hp => by
    rw [type_run_bounds, List.mem_append] at hp
    rcases hp with hp | hp
    · have : r.length ≠ 0 := by simpa using hne r (List.mem_cons_self _ _)
      split_ifs at hp <;> simp at hp
      subst hp; simp only; omega
    · have := le_of_mem_type_run_bounds (fun r hr => hne r (List.mem_cons_of_mem _ hr)) hp
      omega

/-- No bounds of type `t`: no run starts with an action of type `t`. -/
theorem type_run_bounds_eq_nil {t : ActionType} :
    ∀ {o : Nat} {rs : List (List ContextSwitchConfigAction)}, type_run_bounds t o rs = [] →
      ∀ r ∈ rs, r.head?.map ContextSwitchConfigAction.get_type ≠ some t
  | _, [], _ => by simp
  | o, r :: rs, h => by
    rw [type_run_bounds, List.append_eq_nil] at h
    intro x hx
    rcases List.mem_cons.1 hx with rfl | hx
    · intro ht; simp [ht] at h
    · exact type_run_bounds_eq_nil h.2 x hx

/-- One bound of type `t`: exactly one run starts with an action of type `t`. -/
theorem type_run_bounds_length_eq_one {t : ActionType} :
    ∀ {o : Nat} {rs : List (List ContextSwitchConfigAction)}, (type_run_bounds t o rs).length = 1 →
      ∃ pre r post, rs = pre ++ r :: post ∧ r.head?.map ContextSwitchConfigAction.get_type = some t ∧
        ∀ x ∈ pre ++ post, x.head?.map ContextSwitchConfigAction.get_type ≠ some t
  | _, [], h => by simp [type_run_bounds] at h
  | o, r :: rs, h => by
    rw [type_run_bounds, List.length_append] at h
    by_cases ht : r.head?.map ContextSwitchConfigAction.get_type = some t
    · rw [if_pos ht, List.length_singleton] at h
      have h0 : type_run_bounds t (o + r.length) rs = [] := List.length_eq_zero.1 (by omega)
      exact ⟨[], r, rs, rfl, ht, type_run_bounds_eq_nil h0⟩
    · rw [if_neg ht, List.length_nil, Nat.zero_add] at h
      obtain ⟨pre, r', post, rfl, hr', hrest⟩ := type_run_bounds_length_eq_one h
      refine ⟨r :: pre, r', post, rfl, hr', fun x hx => ?_⟩
      rcases List.mem_cons.1 hx with rfl | hx
      · exact ht
      · exact hrest x hx

/-- The bounds of type `t` count the runs that start with an action of type `t`. -/
theorem length_type_run_bounds (t : ActionType) :
    ∀ (o : Nat) (rs : List (List ContextSwitchConfigAction)),
      (type_run_bounds t o rs).length = rs.countP fun r => r.head?.map ContextSwitchConfigAction.get_type = some t
  | _, [] => rfl
  | o, r :: rs => by
    rw [type_run_bounds, List.length_append, length_type_run_bounds t _ rs, List.countP_cons]
    by_cases h : r.head?.map ContextSwitchConfigAction.get_type = some t <;> simp [h, Nat.add_comm]

theorem mem_foldl_set_insert {ps : List (Nat × Nat)} {s : List Nat} {j : Nat} :
    j ∈ ps.foldl (fun result index_pair => set_insert index_pair.2 result) s ↔
      j ∈ s ∨ ∃ p ∈ ps, p.2 = j := by
  induction ps generalizing s with
  | nil => simp
  | cons p ps ih =>
    rw [List.foldl_cons, ih, mem_set_insert]
    simp only [List.mem_cons, exists_eq_or_imp]
    tauto

/-- An index is a run end of type `t` exactly when some run of type `t` ends there. -/
theorem mem_get_end_indexes_of_action_type (actions : List ContextSwitchConfigAction)
    (t : ActionType) (j : Nat) :
    j ∈ get_end_indexes_of_action_type actions (get_repreated_actions_boundary_indices actions) t ↔
      ∃ p ∈ type_run_bounds t 0 (runs ContextSwitchConfigAction.get_type actions), p.2 = j := by
  rw [get_end_indexes_of_action_type, mem_foldl_set_insert, get_indexes_of_action_type_eq]
  simp

end Hef
end HailoRT
