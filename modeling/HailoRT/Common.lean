/-
# Status codes and the checking macros

`hailo_status` and the `CHECK` family of `common/utils.h`, as the code of
`hef.cpp`, `context_switch_actions.cpp` and the stream buffer pools uses them.

A C++ function returning `hailo_status` is a Lean function into
`Except HailoStatus Unit`, one returning `Expected<T>` a function into
`Except HailoStatus T`: `HAILO_SUCCESS` is `.ok`, every other status an
`.error`.  `CHECK(cond, status, ...)` returns `status` when `cond` fails; the
message it logs is not part of what the function returns and is left out.

A few loops count with a `uint8_t` against a larger bound, and never exit once
the bound passes 255.  A function containing one returns into `MayDiverge`,
`Except` under `Option`: `none` is a call that never returns.  `MayFault` is
the same type for a function that may index a repeated proto field past its
end: `none` is a call whose behaviour is undefined.

A `std::set` of integers is its ascending list of elements, `set_insert` its
`insert`.

The stream buffer pools hand out `TransferBuffer`s (`transfer_common.hpp`): a
`MemoryView` into a base buffer, known by its address and size, with a size
and an offset.
-/

import Mathlib

namespace HailoRT

/-- `hailo_status`: the failure codes the modelled functions return. -/
inductive HailoStatus
  | HAILO_INVALID_HEF
  | HAILO_INTERNAL_FAILURE
  | HAILO_NOT_IMPLEMENTED
  | HAILO_INVALID_ARGUMENT
  | HAILO_INVALID_OPERATION
  | HAILO_NOT_FOUND
  | HAILO_OUT_OF_HOST_MEMORY
  deriving DecidableEq, Repr

/-- `CHECK(cond, status, ...)`: fail with `status` unless `cond` holds. -/
def CHECK (cond : Prop) [Decidable cond] (status : HailoStatus) : Except HailoStatus Unit :=
  if cond then .ok () else .error status

@[simp] theorem CHECK_pos {c : Prop} [Decidable c] (h : c) (s : HailoStatus) :
    CHECK c s = .ok () := if_pos h

@[simp] theorem CHECK_neg {c : Prop} [Decidable c] (h : ¬c) (s : HailoStatus) :
    CHECK c s = .error s := if_neg h

theorem CHECK_eq_ok {c : Prop} [Decidable c] {s : HailoStatus} {u : Unit} :
    CHECK c s = .ok u ↔ c := by
  unfold CHECK; by_cases h : c <;> simp [h]

@[simp] theorem Except.ok_bind {ε α β : Type} (a : α) (f : α → Except ε β) :
    (Except.ok a >>= f) = f a := rfl

@[simp] theorem Except.error_bind {ε α β : Type} (e : ε) (f : α → Except ε β) :
    (Except.error e >>= f) = .error e := rfl

@[simp] theorem Except.pure_eq_ok {ε α : Type} (a : α) : (pure a : Except ε α) = .ok a := rfl

/-- A `CHECK` followed by a successful rest of a function. -/
@[simp] theorem CHECK_bind_eq_ok {c : Prop} [Decidable c] {s : HailoStatus} {α : Type}
    {f : Unit → Except HailoStatus α} {b : α} :
    (CHECK c s >>= f) = .ok b ↔ c ∧ f () = .ok b := by
  unfold CHECK; split_ifs with h <;> simp [h]

/-- A result that is a value when `c` holds and an error otherwise is a value
exactly when `c` holds. -/
theorem exists_ite_ok_eq_ok {c : Prop} [Decidable c] {α : Type} {a : α} {s : HailoStatus} :
    (∃ a', (if c then .ok a else .error s : Except HailoStatus α) = .ok a') ↔ c := by
  split_ifs with hc <;> simp [hc]

/-- A `CHECK` followed by the rest of a function: the rest when `cond` holds. -/
theorem CHECK_bind {c : Prop} [Decidable c] {s : HailoStatus} {α : Type}
    (f : Unit → Except HailoStatus α) :
    (CHECK c s >>= f) = if c then f () else .error s := by
  unfold CHECK; split_ifs <;> rfl

/-- `IS_FIT_IN_UINT8`: the value is a `uint8_t`. -/
def IS_FIT_IN_UINT8 (n : Nat) : Prop := n ≤ 255

/-- `IS_FIT_IN_UINT16`: the value is a `uint16_t`. -/
def IS_FIT_IN_UINT16 (n : Nat) : Prop := n ≤ 65535

instance (n : Nat) : Decidable (IS_FIT_IN_UINT8 n) := inferInstanceAs (Decidable (n ≤ 255))
instance (n : Nat) : Decidable (IS_FIT_IN_UINT16 n) := inferInstanceAs (Decidable (n ≤ 65535))

/-- `a * b` computed in `uint32_t`. -/
def mul_u32 (a b : Nat) : Nat := a * b % 2 ^ 32

/-- `vdma::ChannelId`: a channel index within a DMA engine. -/
structure ChannelId where
  engine_index : Nat
  channel_index : Nat
  deriving DecidableEq, Repr

/-- Two results are equal when they are the same error or the same value. -/
instance decEqExcept {ε α : Type} [DecidableEq ε] [DecidableEq α] : DecidableEq (Except ε α)
  | .error a, .error b => decidable_of_iff (a = b) ⟨congrArg _, Except.error.inj⟩
  | .ok a, .ok b => decidable_of_iff (a = b) ⟨congrArg _, Except.ok.inj⟩
  | .error _, .ok _ => isFalse nofun
  | .ok _, .error _ => isFalse nofun

/-- A C++ function that may not return: `none` when it loops forever, else the
`Except` it returns. -/
abbrev MayDiverge := ExceptT HailoStatus Option

/-- A C++ function whose behaviour may be undefined, as when it reads past the
end of a repeated proto field or divides by zero: `none` when it is, else the
`Except` it returns. -/
abbrev MayFault := ExceptT HailoStatus Option

@[simp] theorem MayDiverge.run_monadLift {α : Type} (e : Except HailoStatus α) :
    (monadLift e : MayDiverge α).run = some e := by
  cases e <;> rfl

/-- A `CHECK` inside a `MayFault` function. -/
theorem MayFault.run_CHECK_bind {c : Prop} [Decidable c] {s : HailoStatus} {β : Type}
    {f : Unit → MayFault β} :
    (monadLift (CHECK c s) >>= f : MayFault β).run = if c then (f ()).run else some (.error s) := by
  unfold CHECK; split_ifs <;> rfl

/-- A value with defined behaviour, inside a `MayFault` function. -/
theorem MayFault.run_lift_some_bind {α β : Type} {a : α} {f : α → MayFault β} :
    (monadLift (some a) >>= f : MayFault β).run = (f a).run := rfl

/-- A returning bind is a returning first step. -/
theorem MayDiverge.run_bind_eq_ok {α β : Type} {x : MayDiverge α} {g : α → MayDiverge β} {b : β} :
    (x >>= g).run = some (.ok b) ↔ ∃ a, x.run = some (.ok a) ∧ (g a).run = some (.ok b) := by
  rw [ExceptT.run_bind]
  rcases x.run with _ | _ | a <;> simp

/-- A successful bind is a successful first step. -/
theorem Except.bind_eq_ok {ε α β : Type} {x : Except ε α} {f : α → Except ε β} {b : β} :
    (x >>= f) = .ok b ↔ ∃ a, x = .ok a ∧ f a = .ok b := by
  cases x <;> simp

/-- A loop over a list succeeds exactly when its body succeeds on every element. -/
theorem forM_eq_ok {ε α : Type} {l : List α} {f : α → Except ε PUnit} :
    l.forM f = .ok () ↔ ∀ a ∈ l, f a = .ok () := by
  induction l with
  | nil => simp [List.forM]
  | cons a l ih =>
    simp only [List.forM, Except.bind_eq_ok, ih, List.mem_cons, forall_eq_or_imp]
    constructor
    · rintro ⟨⟨⟩, ha, hl⟩; exact ⟨ha, hl⟩
    · rintro ⟨ha, hl⟩; exact ⟨_, ha, hl⟩

/-- A failing loop over a list failed on some element. -/
theorem exists_of_forM_eq_error {ε α : Type} {l : List α} {f : α → Except ε PUnit} {e : ε}
    (h : l.forM f = .error e) : ∃ a ∈ l, f a = .error e := by
  induction l with
  | nil => cases h
  | cons a l ih =>
    simp only [List.forM] at h
    cases ha : f a with
    | error e' => rw [ha] at h; cases h; exact ⟨a, List.mem_cons_self _ _, ha⟩
    | ok u =>
      rw [ha] at h
      obtain ⟨b, hb, hfb⟩ := ih h
      exact ⟨b, List.mem_cons_of_mem _ hb, hfb⟩

/-- A successful `mapM` succeeded on every element, in order. -/
theorem forall₂_of_mapM_eq_ok {ε α β : Type} {f : α → Except ε β} :
    ∀ {l : List α} {l' : List β}, l.mapM f = .ok l' → List.Forall₂ (fun a b => f a = .ok b) l l'
  | [], _, h => by cases h; exact .nil
  | a :: l, _, h => by
    rw [List.mapM_cons, Except.bind_eq_ok] at h
    obtain ⟨b, hb, h⟩ := h
    obtain ⟨bs, hbs, h⟩ := Except.bind_eq_ok.1 h
    cases h
    exact .cons hb (forall₂_of_mapM_eq_ok hbs)

theorem exists_of_mapM_eq_ok {ε α β : Type} {f : α → Except ε β} {l : List α} {l' : List β}
    (h : l.mapM f = .ok l') {b : β} (hb : b ∈ l') : ∃ a ∈ l, f a = .ok b := by
  have hF := forall₂_of_mapM_eq_ok h
  clear h
  induction hF with
  | nil => cases hb
  | cons hab _ ih =>
    rcases List.mem_cons.1 hb with rfl | hb
    · exact ⟨_, List.mem_cons_self _ _, hab⟩
    · obtain ⟨a, ha, h⟩ := ih hb
      exact ⟨a, List.mem_cons_of_mem _ ha, h⟩

/-- What every returning step of a loop keeps, the whole loop keeps. -/
theorem MayDiverge.foldlM_invariant {α β : Type} {f : β → α → MayDiverge β} (P : β → Prop)
    (hf : ∀ b a b', P b → (f b a).run = some (.ok b') → P b') :
    ∀ {l : List α} {b b' : β}, P b → (l.foldlM f b).run = some (.ok b') → P b'
  | [], _, _, hb, h => by cases h; exact hb
  | a :: _, b, _, hb, h => by
    rw [List.foldlM_cons] at h
    obtain ⟨b₁, h₁, h⟩ := MayDiverge.run_bind_eq_ok.1 h
    exact MayDiverge.foldlM_invariant P hf (hf b a b₁ hb h₁) h

/-- The same for a loop that cannot diverge. -/
theorem Except.foldlM_invariant {ε α β : Type} {f : β → α → Except ε β} (P : β → Prop)
    (hf : ∀ b a b', P b → f b a = .ok b' → P b') :
    ∀ {l : List α} {b b' : β}, P b → l.foldlM f b = .ok b' → P b'
  | [], _, _, hb, h => by cases h; exact hb
  | a :: _, b, _, hb, h => by
    rw [List.foldlM_cons] at h
    obtain ⟨b₁, h₁, h⟩ := Except.bind_eq_ok.1 h
    exact Except.foldlM_invariant P hf (hf b a b₁ hb h₁) h

/-! ### Transfer buffers -/

/-- `MemoryView`: the address and the size of the memory it views. -/
structure MemoryView where
  data : Nat
  size : Nat
  deriving DecidableEq, Repr

/-- `TransferBuffer`. -/
structure TransferBuffer where
  base_buffer : MemoryView
  size : Nat
  offset : Nat
  deriving DecidableEq, Repr

/-- `TransferBuffer(MemoryView base_buffer)`: the whole view, from offset 0. -/
def TransferBuffer.of_view (base_buffer : MemoryView) : TransferBuffer :=
  ⟨base_buffer, base_buffer.size, 0⟩

/-- A call on a `StreamBufferPool`. -/
inductive StreamBufferPoolCall
  | dequeue
  | enqueue (buffer_info : TransferBuffer)
  | reset_pointers
  deriving DecidableEq, Repr

/-! ### `std::set` -/

/-- `std::set<T>::insert` for an integer `T`, on the set's ascending list. -/
def set_insert (x : Nat) : List Nat → List Nat
  | [] => [x]
  | y :: ys => if x < y then x :: y :: ys else if x = y then y :: ys else y :: set_insert x ys

@[simp] theorem mem_set_insert {x y : Nat} {s : List Nat} :
    y ∈ set_insert x s ↔ y = x ∨ y ∈ s := by
  induction s with
  | nil => simp [set_insert]
  | cons z s ih =>
    unfold set_insert
    split_ifs with h₁ h₂
    · simp
    · subst h₂; simp
    · simp only [List.mem_cons, ih, or_left_comm]

theorem sorted_set_insert (x : Nat) {s : List Nat} (hs : s.Sorted (· < ·)) :
    (set_insert x s).Sorted (· < ·) := by
  induction s with
  | nil => simp [set_insert]
  | cons z s ih =>
    rw [List.sorted_cons] at hs
    unfold set_insert
    split_ifs with h₁ h₂
    · refine List.sorted_cons.2 ⟨fun b hb => ?_, List.sorted_cons.2 hs⟩
      rcases List.mem_cons.1 hb with rfl | hb
      · exact h₁
      · exact h₁.trans (hs.1 b hb)
    · exact List.sorted_cons.2 hs
    · refine List.sorted_cons.2 ⟨fun b hb => ?_, ih hs.2⟩
      rcases mem_set_insert.1 hb with rfl | hb
      · omega
      · exact hs.1 b hb

/-! ### Association lists

The maps keyed by an index (`std::map`, `std::unordered_map`) are lists of
pairs, read with `List.lookup`. -/

section Lookup

variable {β : Type} {l₁ l₂ : List (Nat × β)} {i : Nat}

theorem lookup_cons_of_ne {k : Nat} {v : β} (h : i ≠ k) : ((k, v) :: l₁).lookup i = l₁.lookup i := by
  have : (i == k) = false := by simp [h]
  simp only [List.lookup, this]

@[simp] theorem lookup_append_of_none (h : l₁.lookup i = none) :
    (l₁ ++ l₂).lookup i = l₂.lookup i := by
  induction l₁ with
  | nil => rfl
  | cons p l₁ ih =>
    rcases p with ⟨k, v⟩
    by_cases hk : i = k
    · subst hk; simp at h
    · rw [List.cons_append, lookup_cons_of_ne hk]
      rw [lookup_cons_of_ne hk] at h
      exact ih h

theorem lookup_append_of_some {v : β} (h : l₁.lookup i = some v) :
    (l₁ ++ l₂).lookup i = some v := by
  induction l₁ with
  | nil => simp at h
  | cons p l₁ ih =>
    rcases p with ⟨k, w⟩
    by_cases hk : i = k
    · subst hk; simpa using h
    · rw [List.cons_append, lookup_cons_of_ne hk]
      rw [lookup_cons_of_ne hk] at h
      exact ih h

theorem lookup_eq_none_of_keys (h : ∀ p ∈ l₁, p.1 ≠ i) : l₁.lookup i = none := by
  induction l₁ with
  | nil => rfl
  | cons p l₁ ih =>
    rcases p with ⟨k, v⟩
    rw [lookup_cons_of_ne fun e => h (k, v) (by simp) e.symm]
    exact ih fun q hq => h q (by simp [hq])

end Lookup

end HailoRT
