/-
# Statuses as values, and the best-effort loops

The stream, vstream and device code keeps `hailo_status` values in
variables, compares them with `HAILO_SUCCESS` and with the codes it treats
apart, and returns them.  `Status` is that type: `HAILO_SUCCESS`, the codes
these functions name, and `other` for any code they do not name.  (The
parsing code only ever fails with a status, and `HailoStatus` lists those.)

Three functions run every step of a sequence whatever the steps return,
"best effort" in their own comments, and keep a status:

| function                                     | steps                                                | file                     |
| `VdmaConfigCoreOp::cancel_pending_transfers` | each input stream's, then each output stream's cancel | `vdma_config_core_op.cpp` |
| `VdmaConfigCoreOp::shutdown`                 | `abort_low_level_streams`, then `deactivate_impl`    | `vdma_config_core_op.cpp` |
| `DeviceCommand::execute_on_devices`          | `execute_on_device` on each device                   | `hailortcli/command.cpp`  |

Each is `best_effort` over its steps: a failed step overwrites the status,
a successful one leaves it.  So each returns the failure of the last step
that failed, `HAILO_SUCCESS` when none did (`best_effort_reports_last_failure`): a failure is
reported only when no later step fails too.

Most stream functions instead stop at the first failure and return it
(`CHECK_SUCCESS`), keeping what they changed before it.  They are modelled in
`EStateM Status σ`, whose failures keep the state, with the run lemmas of the
last section and `Preserves`: a relation between the state before and after,
which a chain of calls keeps when each call keeps it.
-/

import HailoRT.Common

namespace HailoRT

/-- `hailo_status`, through the codes the stream and device functions name;
`other` is any code they do not name. -/
inductive Status
  | HAILO_SUCCESS
  | HAILO_UNINITIALIZED
  | HAILO_INVALID_ARGUMENT
  | HAILO_OUT_OF_HOST_MEMORY
  | HAILO_TIMEOUT
  | HAILO_INVALID_OPERATION
  | HAILO_NOT_FOUND
  | HAILO_STREAM_ABORTED_BY_USER
  | HAILO_STREAM_NOT_ACTIVATED
  | HAILO_INVALID_FRAME
  | HAILO_SHUTDOWN_EVENT_SIGNALED
  | HAILO_NETWORK_GROUP_NOT_ACTIVATED
  | HAILO_VSTREAM_PIPELINE_NOT_ACTIVATED
  | HAILO_PCIE_DRIVER_NOT_INSTALLED
  | HAILO_DRIVER_FAIL
  | other (code : Nat)
  deriving DecidableEq, Repr

/-! ### The best-effort loops -/

section BestEffort

variable {α : Type}

/-- The body of a best-effort loop: a failed step's status replaces `status`. -/
def keep_failure (step : α → Status) (status : Status) (item : α) : Status :=
  if step item ≠ .HAILO_SUCCESS then step item else status

/-- A best-effort loop over `items`, from the status `status`. -/
def best_effort (step : α → Status) (status : Status) (items : List α) : Status :=
  items.foldl (keep_failure step) status

/-- `VdmaConfigCoreOp::cancel_pending_transfers`: the inputs' loop, then the
outputs' loop, on one status. -/
def VdmaConfigCoreOp.cancel_pending_transfers {Stream : Type} (cancel_pending_transfers : Stream → Status)
    (m_input_streams m_output_streams : List Stream) : Status :=
  best_effort cancel_pending_transfers
    (best_effort cancel_pending_transfers .HAILO_SUCCESS m_input_streams) m_output_streams

/-- `VdmaConfigCoreOp::shutdown`, given what its two steps return. -/
def VdmaConfigCoreOp.shutdown (abort_status deactivate_status : Status) : Status :=
  best_effort id .HAILO_SUCCESS [abort_status, deactivate_status]

/-- `DeviceCommand::execute_on_devices`; its console output is left out. -/
def DeviceCommand.execute_on_devices {Device : Type} (execute_on_device : Device → Status)
    (devices : List Device) : Status :=
  best_effort execute_on_device .HAILO_SUCCESS devices

/-- The status a best-effort loop reports: its steps' last failure, or the
status it started from. -/
theorem best_effort_eq (step : α → Status) (status : Status) (items : List α) :
    best_effort step status items =
      (((items.map step).reverse.find? (· ≠ .HAILO_SUCCESS)).getD status) := by
  induction items using List.reverseRecOn with
  | nil => rfl
  | append_singleton items item ih =>
    rw [best_effort, List.foldl_append, List.foldl_cons, List.foldl_nil, ← best_effort, ih]
    simp only [List.map_append, List.map_cons, List.map_nil, List.reverse_append, List.reverse_cons,
      List.reverse_nil, List.nil_append, List.singleton_append, List.find?_cons, keep_failure]
    by_cases h : step item = .HAILO_SUCCESS <;> simp [h]

/-- Two best-effort loops on one status are one loop over both sequences. -/
theorem best_effort_append (step : α → Status) (status : Status) (l₁ l₂ : List α) :
    best_effort step (best_effort step status l₁) l₂ = best_effort step status (l₁ ++ l₂) :=
  (List.foldl_append _ _ _ _).symm

/-- **The best-effort functions report the last failure.**
`cancel_pending_transfers` returns the failure of the last stream whose
cancel failed, the output streams coming after the input streams;
`execute_on_devices` that of the last device that failed; `shutdown` the
failure of `deactivate_impl`, and that of `abort_low_level_streams` only when
`deactivate_impl` succeeded.  An earlier failure is reported only when no
later step fails. -/
theorem best_effort_reports_last_failure {Stream Device : Type} (cancel_pending_transfers : Stream → Status)
    (m_input_streams m_output_streams : List Stream) (abort_status deactivate_status : Status)
    (execute_on_device : Device → Status) (devices : List Device) :
    VdmaConfigCoreOp.cancel_pending_transfers cancel_pending_transfers m_input_streams m_output_streams =
        (((m_input_streams ++ m_output_streams).map cancel_pending_transfers).reverse.find?
          (· ≠ .HAILO_SUCCESS)).getD .HAILO_SUCCESS ∧
      VdmaConfigCoreOp.shutdown abort_status deactivate_status =
        (if deactivate_status ≠ .HAILO_SUCCESS then deactivate_status else abort_status) ∧
      DeviceCommand.execute_on_devices execute_on_device devices =
        ((devices.map execute_on_device).reverse.find? (· ≠ .HAILO_SUCCESS)).getD .HAILO_SUCCESS := by
  refine ⟨by rw [VdmaConfigCoreOp.cancel_pending_transfers, best_effort_append, best_effort_eq], ?_,
    best_effort_eq _ _ _⟩
  rw [VdmaConfigCoreOp.shutdown, best_effort_eq]
  by_cases hd : deactivate_status = .HAILO_SUCCESS <;>
    by_cases ha : abort_status = .HAILO_SUCCESS <;> simp [hd, ha]

end BestEffort

/-! ### Calls that keep their state when they fail -/

section Calls

variable {ε σ α β : Type}

/-- `CHECK_SUCCESS(status)`: return `status` unless it is `HAILO_SUCCESS`. -/
def CHECK_SUCCESS (status : Status) : EStateM Status σ Unit :=
  if status = .HAILO_SUCCESS then pure () else throw status

/-- `CHECK(cond, status, ...)` in a function that returns `hailo_status`. -/
def CHECK_STATUS (cond : Prop) [Decidable cond] (status : Status) : EStateM Status σ Unit :=
  if cond then pure () else throw status

/-- `if (cond) { return status; }`. -/
def return_if (cond : Prop) [Decidable cond] (status : Status) : EStateM Status σ Unit :=
  if cond then throw status else pure ()

/-- The state a call leaves, whether it returns or fails. -/
def after (m : EStateM ε σ α) (s : σ) : σ :=
  match m.run s with
  | .ok _ s' => s'
  | .error _ s' => s'

/-- What a `hailo_status` function returns. -/
def returned (m : EStateM Status σ Unit) (s : σ) : Status :=
  match m.run s with
  | .ok _ _ => .HAILO_SUCCESS
  | .error e _ => e

/-- A nested call's `hailo_status`, as a value; what it changed stays. -/
def status_of (m : EStateM Status σ Unit) : EStateM Status σ Status := fun s =>
  match m s with
  | .ok _ s' => .ok .HAILO_SUCCESS s'
  | .error e s' => .ok e s'

@[simp] theorem EStateM.run_pure (a : α) (s : σ) :
    (pure a : EStateM ε σ α).run s = .ok a s := rfl

@[simp] theorem EStateM.run_throw (e : ε) (s : σ) :
    (throw e : EStateM ε σ α).run s = .error e s := rfl

@[simp] theorem EStateM.run_get (s : σ) : (get : EStateM ε σ σ).run s = .ok s s := rfl

@[simp] theorem EStateM.run_set (s' s : σ) : (set s' : EStateM ε σ PUnit).run s = .ok ⟨⟩ s' := rfl

@[simp] theorem EStateM.run_modify (f : σ → σ) (s : σ) :
    (modify f : EStateM ε σ PUnit).run s = .ok ⟨⟩ (f s) := rfl

@[simp] theorem EStateM.run_modifyGet (f : σ → α × σ) (s : σ) :
    (modifyGet f : EStateM ε σ α).run s = .ok (f s).1 (f s).2 := rfl

theorem EStateM.run_bind (x : EStateM ε σ α) (f : α → EStateM ε σ β) (s : σ) :
    (x >>= f).run s =
      match x.run s with
      | .ok a s' => (f a).run s'
      | .error e s' => .error e s' := by
  show EStateM.bind x f s = _
  unfold EStateM.bind EStateM.run
  cases x s <;> rfl

theorem run_CHECK_SUCCESS (status : Status) (s : σ) :
    (CHECK_SUCCESS status : EStateM Status σ Unit).run s =
      if status = .HAILO_SUCCESS then .ok () s else .error status s := by
  unfold CHECK_SUCCESS; split <;> rfl

theorem run_CHECK_STATUS (cond : Prop) [Decidable cond] (status : Status) (s : σ) :
    (CHECK_STATUS cond status : EStateM Status σ Unit).run s = if cond then .ok () s else .error status s := by
  unfold CHECK_STATUS; split <;> rfl

theorem run_status_of (m : EStateM Status σ Unit) (s : σ) :
    (status_of m).run s = .ok (returned m s) (after m s) := by
  show status_of m s = _
  unfold status_of returned after EStateM.run
  cases m s <;> rfl

theorem run_return_if (cond : Prop) [Decidable cond] (status : Status) (s : σ) :
    (return_if cond status : EStateM Status σ Unit).run s = if cond then .error status s else .ok () s := by
  unfold return_if; split <;> rfl

/-- A chain of calls returns exactly when its first call returns and the rest
returns from the state that call left. -/
theorem EStateM.run_bind_eq_ok {x : EStateM ε σ α} {f : α → EStateM ε σ β} {s s'' : σ} {b : β} :
    (x >>= f).run s = .ok b s'' ↔ ∃ a s', x.run s = .ok a s' ∧ (f a).run s' = .ok b s'' := by
  rw [EStateM.run_bind]
  cases x.run s with
  | ok a s' => exact ⟨fun h => ⟨a, s', rfl, h⟩, fun ⟨_, _, hx, h⟩ => by cases hx; exact h⟩
  | error e s' => simp

theorem EStateM.run_bind_eq_error {x : EStateM ε σ α} {f : α → EStateM ε σ β} {s s'' : σ} {e : ε} :
    (x >>= f).run s = .error e s'' ↔
      x.run s = .error e s'' ∨ ∃ a s', x.run s = .ok a s' ∧ (f a).run s' = .error e s'' := by
  rw [EStateM.run_bind]
  cases x.run s with
  | ok a s' =>
    refine ⟨fun h => .inr ⟨a, s', rfl, h⟩, fun h => ?_⟩
    obtain h | ⟨_, _, hx, h⟩ := h
    · cases h
    · cases hx; exact h
  | error e s' => simp

theorem CHECK_SUCCESS_eq_ok {status : Status} {s s' : σ} {u : Unit} :
    (CHECK_SUCCESS status : EStateM Status σ Unit).run s = .ok u s' ↔ status = .HAILO_SUCCESS ∧ s = s' := by
  rw [run_CHECK_SUCCESS]; split <;> simp [*]

theorem CHECK_STATUS_eq_ok {cond : Prop} [Decidable cond] {status : Status} {s s' : σ} {u : Unit} :
    (CHECK_STATUS cond status : EStateM Status σ Unit).run s = .ok u s' ↔ cond ∧ s = s' := by
  rw [run_CHECK_STATUS]; split <;> simp [*]

@[simp] theorem after_ok {m : EStateM ε σ α} {s s' : σ} {a : α} (h : m.run s = .ok a s') :
    after m s = s' := by
  simp only [after, h]

theorem returned_bind (x : EStateM Status σ α) (f : α → EStateM Status σ Unit) (s : σ) :
    returned (x >>= f) s =
      match x.run s with
      | .ok a s' => returned (f a) s'
      | .error e _ => e := by
  unfold returned; rw [EStateM.run_bind]; cases x.run s <;> rfl

/-- Every state `m` leaves is `R`-related to the state it started from. -/
def Preserves (R : σ → σ → Prop) (m : EStateM ε σ α) : Prop :=
  ∀ s, R s (after m s)

/-- A chain of calls keeps a transitive relation that each of its calls keeps. -/
theorem Preserves.bind {R : σ → σ → Prop} (trans : ∀ s₁ s₂ s₃, R s₁ s₂ → R s₂ s₃ → R s₁ s₃)
    {x : EStateM ε σ α} {f : α → EStateM ε σ β} (hx : Preserves R x) (hf : ∀ a, Preserves R (f a)) :
    Preserves R (x >>= f) := by
  intro s
  have hs := hx s
  unfold after at hs ⊢
  rw [EStateM.run_bind]
  cases hrun : x.run s with
  | ok a s' => rw [hrun] at hs; exact trans _ _ _ hs (hf a s')
  | error e s' => rw [hrun] at hs; exact hs

/-- A nested call's status taken as a value keeps what the call keeps. -/
theorem Preserves.status_of {R : σ → σ → Prop} {m : EStateM Status σ Unit} (h : Preserves R m) :
    Preserves R (status_of m) := fun s => by
  rw [after_ok (run_status_of m s)]
  exact h s

theorem Preserves.pure {R : σ → σ → Prop} (refl : ∀ s, R s s) (a : α) :
    Preserves R (Pure.pure a : EStateM ε σ α) := refl

theorem Preserves.get {R : σ → σ → Prop} (refl : ∀ s, R s s) :
    Preserves R (MonadState.get : EStateM ε σ σ) := refl

theorem Preserves.modify {R : σ → σ → Prop} {f : σ → σ} (hf : ∀ s, R s (f s)) :
    Preserves R (MonadState.modifyGet fun s => ((), f s) : EStateM ε σ Unit) := hf

theorem Preserves.CHECK_SUCCESS {R : σ → σ → Prop} (refl : ∀ s, R s s) (status : Status) :
    Preserves R (HailoRT.CHECK_SUCCESS status : EStateM Status σ Unit) := by
  intro s; unfold HailoRT.CHECK_SUCCESS; split <;> exact refl s

theorem Preserves.CHECK_STATUS {R : σ → σ → Prop} (refl : ∀ s, R s s) (cond : Prop) [Decidable cond]
    (status : Status) : Preserves R (HailoRT.CHECK_STATUS cond status : EStateM Status σ Unit) := by
  intro s; unfold HailoRT.CHECK_STATUS; split <;> exact refl s

theorem Preserves.return_if {R : σ → σ → Prop} (refl : ∀ s, R s s) (cond : Prop) [Decidable cond]
    (status : Status) : Preserves R (HailoRT.return_if cond status : EStateM Status σ Unit) := by
  intro s; unfold HailoRT.return_if; split <;> exact refl s

end Calls

end HailoRT
