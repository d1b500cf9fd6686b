/-
# The vdevice stream wrappers and their multiplexer

`VDeviceInputStreamMultiplexerWrapper` and
`VDeviceOutputStreamMultiplexerWrapper`
(`vdevice_stream_multiplexer_wrapper.cpp`) stand for a scheduled stream of
one network group among several that share it through a
`PipelineMultiplexer`.  Each call of a wrapper is a short exchange with the
multiplexer and with the stream it wraps.  Neither is among the sources, so
the model records the calls the wrapper makes, in `calls`, and takes what
they return from a `MultiplexerEnv`:

| wrapper call         | its calls, in order                                                                   |
| -------------------- | ------------------------------------------------------------------------------------- |
| `abort`              | none if `m_is_aborted`; else set it, `disable_stream`, (input) `notify_all`, `run_once_for_stream(ABORT)` |
| `clear_abort`        | none unless `m_is_aborted`; else clear it, `enable_stream`, `run_once_for_stream(CLEAR_ABORT)`, (input) `notify_all` |
| input `write_impl`   | `wait_for_write`, the stream's `write_impl`, `signal_write_finish`                     |
| input `flush`        | `run_once_for_stream(FLUSH)`                                                          |
| output `read`        | `wait_for_read`, `frames_to_drain_count + 1` reads of the stream, `signal_read_finish` |
| the constructors     | `register_run_once_for_stream` of each handle, up to the first failure                |

A status other than `HAILO_SUCCESS` ends the call, which returns it.

* `abort` and `clear_abort` change the flag before the call that can fail.
  So in every run, whatever the multiplexer returns, the wrapper's
  `disable_stream` and `enable_stream` calls alternate, `disable_stream`
  first, and `m_is_aborted` says which came last (`disable_enable_alternate`),
  also when that call failed: then the flag is set while the multiplexer
  may still have the stream enabled, and `abort` returns `HAILO_SUCCESS`
  without a call until a `clear_abort`.
* A write the multiplexer grants is finished exactly once, flagged as failed
  when the stream's write fails; a read it grants is finished once when all
  its reads succeed and never otherwise (`granted_writes_and_reads_finished`).

The calls of a run are made one at a time: an `abort` from another thread
while a `write_impl` waits is not modelled.  The `make_unique_nothrow` and
`new (std::nothrow)` allocations are taken to succeed.
-/

import HailoRT.Status

namespace HailoRT
namespace Vdevice

/-! ### The wrapper and its calls -/

/-- The run-once handles the wrappers register and run
(`pipeline_multiplexer.hpp`, not among the sources). -/
inductive RunOnceHandle
  | INPUT_RUN_ONCE_HANDLE__FLUSH
  | INPUT_RUN_ONCE_HANDLE__ABORT
  | INPUT_RUN_ONCE_HANDLE__CLEAR_ABORT
  | OUTPUT_RUN_ONCE_HANDLE__ABORT
  | OUTPUT_RUN_ONCE_HANDLE__CLEAR_ABORT
  deriving DecidableEq, Repr

/-- A call a wrapper makes on its `PipelineMultiplexer` or on the stream it
wraps; `read index` is the read at `index` among one `read`'s reads. -/
inductive MultiplexerCall
  | register_run_once_for_stream (handle : RunOnceHandle)
  | disable_stream
  | enable_stream
  | run_once_for_stream (handle : RunOnceHandle)
  | notify_all
  | wait_for_write
  | write_impl
  | signal_write_finish (did_write_fail : Bool)
  | wait_for_read
  | read (index : Nat)
  | signal_read_finish
  deriving DecidableEq, Repr

/-- What the multiplexer and the wrapped stream return during one wrapper
call: a status for each call, and the `uint32_t` count of frames to drain
that `wait_for_read` returns with `HAILO_SUCCESS`. -/
structure MultiplexerEnv where
  status : MultiplexerCall → Status
  frames_to_drain_count : Nat

/-- A wrapper: its `m_is_aborted`, and the calls it has made so far. -/
structure MultiplexerWrapper where
  m_is_aborted : Bool
  calls : List MultiplexerCall
  deriving DecidableEq, Repr

/-- The wrapper a constructor starts from. -/
def MultiplexerWrapper.new : MultiplexerWrapper := ⟨false, []⟩

/-- A wrapper call, which keeps what it changed when it fails. -/
abbrev WrapperM := EStateM Status MultiplexerWrapper

/-- A call on the multiplexer or on the stream, with what it returns. -/
def call (env : MultiplexerEnv) (c : MultiplexerCall) : WrapperM Status :=
  modifyGet fun w => (env.status c, { w with calls := w.calls ++ [c] })

/-- `m_vdevice_input_stream->notify_all()`, which returns nothing. -/
def notify_all : WrapperM Unit :=
  modify fun w => { w with calls := w.calls ++ [.notify_all] }

@[simp] theorem run_call (env : MultiplexerEnv) (c : MultiplexerCall) (w : MultiplexerWrapper) :
    (call env c).run w = .ok (env.status c) { w with calls := w.calls ++ [c] } := rfl

@[simp] theorem run_notify_all (w : MultiplexerWrapper) :
    notify_all.run w = .ok () { w with calls := w.calls ++ [.notify_all] } := rfl

/-! ### The calls of the wrappers -/

/-- The `abort`s of both wrappers: the input's also wakes its stream's waiters. -/
def abort_stream (notify : Bool) (handle : RunOnceHandle) (env : MultiplexerEnv) : WrapperM Unit := do
  if (← get).m_is_aborted then return
  modify fun w => { w with m_is_aborted := true }
  CHECK_SUCCESS (← call env .disable_stream)
  if notify then notify_all
  CHECK_SUCCESS (← call env (.run_once_for_stream handle))

/-- The `clear_abort`s of both wrappers: the input's also wakes its stream's
waiters, last. -/
def clear_abort_stream (notify : Bool) (handle : RunOnceHandle) (env : MultiplexerEnv) :
    WrapperM Unit := do
  if !(← get).m_is_aborted then return
  modify fun w => { w with m_is_aborted := false }
  CHECK_SUCCESS (← call env .enable_stream)
  CHECK_SUCCESS (← call env (.run_once_for_stream handle))
  if notify then notify_all

/-- `VDeviceInputStreamMultiplexerWrapper::abort`. -/
def VDeviceInputStreamMultiplexerWrapper.abort : MultiplexerEnv → WrapperM Unit :=
  abort_stream true .INPUT_RUN_ONCE_HANDLE__ABORT

/-- `VDeviceInputStreamMultiplexerWrapper::clear_abort`. -/
def VDeviceInputStreamMultiplexerWrapper.clear_abort : MultiplexerEnv → WrapperM Unit :=
  clear_abort_stream true .INPUT_RUN_ONCE_HANDLE__CLEAR_ABORT

/-- `VDeviceOutputStreamMultiplexerWrapper::abort`. -/
def VDeviceOutputStreamMultiplexerWrapper.abort : MultiplexerEnv → WrapperM Unit :=
  abort_stream false .OUTPUT_RUN_ONCE_HANDLE__ABORT

/-- `VDeviceOutputStreamMultiplexerWrapper::clear_abort`. -/
def VDeviceOutputStreamMultiplexerWrapper.clear_abort : MultiplexerEnv → WrapperM Unit :=
  clear_abort_stream false .OUTPUT_RUN_ONCE_HANDLE__CLEAR_ABORT

/-- `VDeviceInputStreamMultiplexerWrapper::write_impl`: the multiplexer learns
whether the write failed before the wrapper returns its status. -/
def VDeviceInputStreamMultiplexerWrapper.write_impl (env : MultiplexerEnv) : WrapperM Unit := do
  let status ← call env .wait_for_write
  return_if (status = .HAILO_STREAM_ABORTED_BY_USER) status
  CHECK_SUCCESS status
  let write_status ← call env .write_impl
  CHECK_SUCCESS (← call env (.signal_write_finish (write_status != .HAILO_SUCCESS)))
  return_if (write_status = .HAILO_STREAM_ABORTED_BY_USER) write_status
  CHECK_SUCCESS write_status

/-- `VDeviceInputStreamMultiplexerWrapper::flush`. -/
def VDeviceInputStreamMultiplexerWrapper.flush (env : MultiplexerEnv) : WrapperM Unit := do
  CHECK_SUCCESS (← call env (.run_once_for_stream .INPUT_RUN_ONCE_HANDLE__FLUSH))

/-- One read of the wrapped stream in `read`. -/
def read_frame (env : MultiplexerEnv) (index : Nat) : WrapperM Unit := do
  let status ← call env (.read index)
  return_if (status = .HAILO_STREAM_ABORTED_BY_USER ∨ status = .HAILO_STREAM_NOT_ACTIVATED) status
  CHECK_SUCCESS status

/-- `VDeviceOutputStreamMultiplexerWrapper::read`: the frames to drain are
read into `buffer` and dropped, then the frame it returns is read. -/
def VDeviceOutputStreamMultiplexerWrapper.read (env : MultiplexerEnv) : WrapperM Unit := do
  let status ← call env .wait_for_read
  return_if (status = .HAILO_STREAM_ABORTED_BY_USER) status
  CHECK_SUCCESS status
  let frames_to_drain_count := env.frames_to_drain_count
  (List.range frames_to_drain_count).forM (read_frame env)
  read_frame env frames_to_drain_count
  CHECK_SUCCESS (← call env .signal_read_finish)

/-- The registrations of a constructor, up to the first that fails. -/
def register_run_once (env : MultiplexerEnv) (handles : List RunOnceHandle) : WrapperM Unit :=
  handles.forM fun handle => do CHECK_SUCCESS (← call env (.register_run_once_for_stream handle))

/-- The handles the input wrapper's constructor registers. -/
def input_run_once_handles : List RunOnceHandle :=
  [.INPUT_RUN_ONCE_HANDLE__FLUSH, .INPUT_RUN_ONCE_HANDLE__ABORT, .INPUT_RUN_ONCE_HANDLE__CLEAR_ABORT]

/-- The handles the output wrapper's constructor registers. -/
def output_run_once_handles : List RunOnceHandle :=
  [.OUTPUT_RUN_ONCE_HANDLE__ABORT, .OUTPUT_RUN_ONCE_HANDLE__CLEAR_ABORT]

/-- `VDeviceInputStreamMultiplexerWrapper::create`: the constructor's status is checked. -/
def VDeviceInputStreamMultiplexerWrapper.create (env : MultiplexerEnv) :
    Except Status MultiplexerWrapper :=
  match (register_run_once env input_run_once_handles).run .new with
  | .ok _ w => .ok w
  | .error status _ => .error status

/-- `VDeviceOutputStreamMultiplexerWrapper::create`: the constructor's status
is not read. -/
def VDeviceOutputStreamMultiplexerWrapper.create (env : MultiplexerEnv) :
    Except Status MultiplexerWrapper :=
  .ok (after (register_run_once env output_run_once_handles) .new)

/-! ### Runs -/

/-- A call of the input wrapper's interface. -/
inductive InputOp
  | abort
  | clear_abort
  | write_impl
  | flush
  deriving DecidableEq, Repr

/-- A call of the output wrapper's interface. -/
inductive OutputOp
  | abort
  | clear_abort
  | read
  deriving DecidableEq, Repr

/-- The input wrapper's calls. -/
def InputOp.exec : InputOp → MultiplexerEnv → WrapperM Unit
  | .abort => VDeviceInputStreamMultiplexerWrapper.abort
  | .clear_abort => VDeviceInputStreamMultiplexerWrapper.clear_abort
  | .write_impl => VDeviceInputStreamMultiplexerWrapper.write_impl
  | .flush => VDeviceInputStreamMultiplexerWrapper.flush

/-- The output wrapper's calls. -/
def OutputOp.exec : OutputOp → MultiplexerEnv → WrapperM Unit
  | .abort => VDeviceOutputStreamMultiplexerWrapper.abort
  | .clear_abort => VDeviceOutputStreamMultiplexerWrapper.clear_abort
  | .read => VDeviceOutputStreamMultiplexerWrapper.read

/-- The wrapper after a run of calls, each with what its callees return. -/
def run {Op : Type} (exec : Op → MultiplexerEnv → WrapperM Unit) :
    MultiplexerWrapper → List (Op × MultiplexerEnv) → MultiplexerWrapper
  | w, [] => w
  | w, (op, env) :: rest => run exec (after (exec op env) w) rest

/-! ### `m_is_aborted` against the multiplexer -/

/-- Whether a call enables or disables the stream in the multiplexer. -/
def is_toggle : MultiplexerCall → Bool
  | .disable_stream | .enable_stream => true
  | _ => false

/-- The `disable_stream` and `enable_stream` calls among `calls`, in order. -/
def toggles (calls : List MultiplexerCall) : List MultiplexerCall :=
  calls.filter is_toggle

/-- `n` calls that alternate, `disable_stream` first. -/
def alternating (n : Nat) : List MultiplexerCall :=
  (List.range n).map fun i => if i % 2 = 0 then .disable_stream else .enable_stream

/-- The wrapper's toggles alternate, `disable_stream` first, and its flag is
set exactly when the last of them is a `disable_stream`. -/
def Toggled (w : MultiplexerWrapper) : Prop :=
  ∃ n, toggles w.calls = alternating n ∧ w.m_is_aborted = decide (n % 2 = 1)

/-- Neither the flag nor the toggles changed. -/
def SameToggles (w w' : MultiplexerWrapper) : Prop :=
  toggles w'.calls = toggles w.calls ∧ w'.m_is_aborted = w.m_is_aborted

theorem SameToggles.refl (w : MultiplexerWrapper) : SameToggles w w := ⟨rfl, rfl⟩

theorem SameToggles.trans (w₁ w₂ w₃ : MultiplexerWrapper) (h₁ : SameToggles w₁ w₂)
    (h₂ : SameToggles w₂ w₃) : SameToggles w₁ w₃ :=
  ⟨h₂.1.trans h₁.1, h₂.2.trans h₁.2⟩

theorem Toggled.of_same {w w' : MultiplexerWrapper} (h : Toggled w) (hs : SameToggles w w') :
    Toggled w' := by
  obtain ⟨n, ht, hf⟩ := h
  exact ⟨n, hs.1.trans ht, hs.2.trans hf⟩

theorem toggles_append_call (calls : List MultiplexerCall) (c : MultiplexerCall) :
    toggles (calls ++ [c]) = toggles calls ++ (if is_toggle c then [c] else []) := by
  unfold toggles; cases h : is_toggle c <;> simp [List.filter_append, h]

theorem alternating_succ (n : Nat) :
    alternating (n + 1) = alternating n ++ [if n % 2 = 0 then .disable_stream else .enable_stream] := by
  simp only [alternating, List.range_succ, List.map_append, List.map_cons, List.map_nil]

theorem preserves_call {env : MultiplexerEnv} {c : MultiplexerCall} (hc : is_toggle c = false) :
    Preserves SameToggles (call env c) := fun w =>
  ⟨by rw [after_ok (run_call env c w), toggles_append_call, hc]; simp, rfl⟩

/-- A chain of calls none of which is a toggle keeps the flag and the toggles. -/
theorem preserves_of_no_toggle {α : Type} {x : WrapperM α} {f : α → WrapperM Unit}
    (hx : Preserves SameToggles x) (hf : ∀ a, Preserves SameToggles (f a)) :
    Preserves SameToggles (x >>= f) :=
  Preserves.bind SameToggles.trans hx hf

theorem preserves_read_frame (env : MultiplexerEnv) (index : Nat) :
    Preserves SameToggles (read_frame env index) :=
  preserves_of_no_toggle (preserves_call rfl) fun _ =>
    preserves_of_no_toggle (Preserves.return_if SameToggles.refl _ _) fun _ =>
      Preserves.CHECK_SUCCESS SameToggles.refl _

theorem preserves_forM {α : Type} (l : List α) {f : α → WrapperM Unit}
    (hf : ∀ a, Preserves SameToggles (f a)) : Preserves SameToggles (l.forM f) := by
  induction l with
  | nil => exact Preserves.pure SameToggles.refl _
  | cons a l ih => exact preserves_of_no_toggle (hf a) fun _ => ih

theorem preserves_register_run_once (env : MultiplexerEnv) (handles : List RunOnceHandle) :
    Preserves SameToggles (register_run_once env handles) :=
  preserves_forM handles fun _ =>
    preserves_of_no_toggle (preserves_call rfl) fun _ => Preserves.CHECK_SUCCESS SameToggles.refl _

theorem preserves_write_impl (env : MultiplexerEnv) :
    Preserves SameToggles (VDeviceInputStreamMultiplexerWrapper.write_impl env) := by
  have hC := Preserves.CHECK_SUCCESS (σ := MultiplexerWrapper) SameToggles.refl
  have hR := Preserves.return_if (σ := MultiplexerWrapper) SameToggles.refl
  exact preserves_of_no_toggle (preserves_call rfl) fun _ =>
    preserves_of_no_toggle (hR _ _) fun _ => preserves_of_no_toggle (hC _) fun _ =>
    preserves_of_no_toggle (preserves_call rfl) fun _ =>
    preserves_of_no_toggle (preserves_call rfl) fun _ => preserves_of_no_toggle (hC _) fun _ =>
    preserves_of_no_toggle (hR _ _) fun _ => hC _

theorem preserves_read (env : MultiplexerEnv) :
    Preserves SameToggles (VDeviceOutputStreamMultiplexerWrapper.read env) := by
  have hC := Preserves.CHECK_SUCCESS (σ := MultiplexerWrapper) SameToggles.refl
  exact preserves_of_no_toggle (preserves_call rfl) fun _ =>
    preserves_of_no_toggle (Preserves.return_if SameToggles.refl _ _) fun _ =>
    preserves_of_no_toggle (hC _) fun _ =>
    preserves_of_no_toggle (preserves_forM _ (preserves_read_frame env)) fun _ =>
    preserves_of_no_toggle (preserves_read_frame env _) fun _ =>
    preserves_of_no_toggle (preserves_call rfl) fun _ => hC _

theorem preserves_flush (env : MultiplexerEnv) :
    Preserves SameToggles (VDeviceInputStreamMultiplexerWrapper.flush env) :=
  preserves_of_no_toggle (preserves_call rfl) fun _ => Preserves.CHECK_SUCCESS SameToggles.refl _

/-- An `abort` either finds the flag set and does nothing, or sets it with one
`disable_stream`, whatever the multiplexer returns. -/
theorem abort_stream_toggles (notify : Bool) (handle : RunOnceHandle) (env : MultiplexerEnv)
    (w : MultiplexerWrapper) :
    (after (abort_stream notify handle env) w).m_is_aborted = true ∧
      toggles (after (abort_stream notify handle env) w).calls =
        toggles w.calls ++ (if w.m_is_aborted then [] else [.disable_stream]) := by
  cases hf : w.m_is_aborted
  · simp only [abort_stream, EStateM.run_bind, EStateM.run_get, hf, EStateM.run_modify, run_call,
      run_CHECK_SUCCESS, Bool.false_eq_true, if_false, after]
    split_ifs <;> cases notify <;>
      simp [EStateM.run_bind, run_CHECK_SUCCESS, toggles, List.filter_append, is_toggle] <;>
      split_ifs <;> simp [toggles, List.filter_append, is_toggle]
  · simp [abort_stream, EStateM.run_bind, hf, after]

/-- A `clear_abort` either finds the flag clear and does nothing, or clears it
with one `enable_stream`, whatever the multiplexer returns. -/
theorem clear_abort_stream_toggles (notify : Bool) (handle : RunOnceHandle) (env : MultiplexerEnv)
    (w : MultiplexerWrapper) :
    (after (clear_abort_stream notify handle env) w).m_is_aborted = false ∧
      toggles (after (clear_abort_stream notify handle env) w).calls =
        toggles w.calls ++ (if w.m_is_aborted then [.enable_stream] else []) := by
  cases hf : w.m_is_aborted
  · simp [clear_abort_stream, EStateM.run_bind, hf, after]
  · simp only [clear_abort_stream, EStateM.run_bind, EStateM.run_get, hf, EStateM.run_modify, run_call,
      run_CHECK_SUCCESS, Bool.not_true, Bool.false_eq_true, if_false, after]
    split_ifs <;> cases notify <;>
      simp [EStateM.run_bind, run_CHECK_SUCCESS, toggles, List.filter_append, is_toggle]

theorem Toggled.abort_stream {w : MultiplexerWrapper} (h : Toggled w) (notify : Bool)
    (handle : RunOnceHandle) (env : MultiplexerEnv) : Toggled (after (abort_stream notify handle env) w) := by
  obtain ⟨n, ht, hf⟩ := h
  obtain ⟨hf', ht'⟩ := abort_stream_toggles notify handle env w
  rw [ht] at ht'
  cases hw : w.m_is_aborted
  · have hn : n % 2 = 0 := by rw [hw] at hf; simpa using hf.symm
    exact ⟨n + 1, by rw [ht', hw, alternating_succ, if_pos hn]; rfl, by rw [hf']; simp; omega⟩
  · exact ⟨n, by simpa [hw] using ht', by rw [hf', ← hw, hf]⟩

theorem Toggled.clear_abort_stream {w : MultiplexerWrapper} (h : Toggled w) (notify : Bool)
    (handle : RunOnceHandle) (env : MultiplexerEnv) :
    Toggled (after (clear_abort_stream notify handle env) w) := by
  obtain ⟨n, ht, hf⟩ := h
  obtain ⟨hf', ht'⟩ := clear_abort_stream_toggles notify handle env w
  rw [ht] at ht'
  cases hw : w.m_is_aborted
  · exact ⟨n, by simpa [hw] using ht', by rw [hf', ← hw, hf]⟩
  · have hn : n % 2 = 1 := by rw [hw] at hf; simpa using hf.symm
    exact ⟨n + 1, by rw [ht', hw, alternating_succ, if_neg (show ¬n % 2 = 0 by omega)]; rfl,
      by rw [hf']; simp; omega⟩

theorem Toggled.input_exec {w : MultiplexerWrapper} (h : Toggled w) (op : InputOp) (env : MultiplexerEnv) :
    Toggled (after (op.exec env) w) := by
  cases op with
  | abort => exact h.abort_stream _ _ env
  | clear_abort => exact h.clear_abort_stream _ _ env
  | write_impl => exact h.of_same (preserves_write_impl env w)
  | flush => exact h.of_same (preserves_flush env w)

theorem Toggled.output_exec {w : MultiplexerWrapper} (h : Toggled w) (op : OutputOp) (env : MultiplexerEnv) :
    Toggled (after (op.exec env) w) := by
  cases op with
  | abort => exact h.abort_stream _ _ env
  | clear_abort => exact h.clear_abort_stream _ _ env
  | read => exact h.of_same (preserves_read env w)

theorem Toggled.run {Op : Type} {exec : Op → MultiplexerEnv → WrapperM Unit}
    (hexec : ∀ w op env, Toggled w → Toggled (after (exec op env) w)) :
    ∀ (ops : List (Op × MultiplexerEnv)) {w : MultiplexerWrapper}, Toggled w → Toggled (run exec w ops)
  | [], _, h => h
  | (op, env) :: rest, _, h => Toggled.run hexec rest (hexec _ op env h)

theorem toggled_constructed (env : MultiplexerEnv) (handles : List RunOnceHandle) :
    Toggled (after (register_run_once env handles) .new) :=
  Toggled.of_same (w := .new) ⟨0, rfl, rfl⟩ (preserves_register_run_once env handles .new)

/-- **The multiplexer sees the stream disabled and enabled in turn.**  In every
run of either wrapper from the state its constructor leaves, whatever the
multiplexer and the stream return, the wrapper's `disable_stream` and
`enable_stream` calls alternate, `disable_stream` first, and `m_is_aborted` is
set exactly when the last of them is a `disable_stream`, failed or not. -/
theorem disable_enable_alternate (env : MultiplexerEnv) (handles : List RunOnceHandle)
    (input_ops : List (InputOp × MultiplexerEnv)) (output_ops : List (OutputOp × MultiplexerEnv)) :
    Toggled (run InputOp.exec (after (register_run_once env handles) .new) input_ops) ∧
      Toggled (run OutputOp.exec (after (register_run_once env handles) .new) output_ops) :=
  ⟨Toggled.run (fun _ op env h => h.input_exec op env) input_ops (toggled_constructed env handles),
    Toggled.run (fun _ op env h => h.output_exec op env) output_ops (toggled_constructed env handles)⟩

/-- A `disable_stream` that fails still sets the flag, and the next `abort`
then returns without a call. -/
example :
    after (VDeviceOutputStreamMultiplexerWrapper.abort
        ⟨fun c => if c = .disable_stream then .HAILO_TIMEOUT else .HAILO_SUCCESS, 0⟩) .new =
      ⟨true, [.disable_stream]⟩ ∧
    after (VDeviceOutputStreamMultiplexerWrapper.abort ⟨fun _ => .HAILO_SUCCESS, 0⟩) ⟨true, [.disable_stream]⟩ =
      ⟨true, [.disable_stream]⟩ := by
  decide

/-! ### Grants and finishes -/

/-- A call that fails exactly when its callee does, with the callee's status. -/
def Checked (env : MultiplexerEnv) (c : MultiplexerCall) (m : WrapperM Unit) : Prop :=
  ∀ w, m.run w = if env.status c = .HAILO_SUCCESS then .ok () { w with calls := w.calls ++ [c] }
    else .error (env.status c) { w with calls := w.calls ++ [c] }

theorem checked_read_frame (env : MultiplexerEnv) (index : Nat) :
    Checked env (.read index) (read_frame env index) := fun w => by
  simp only [read_frame, EStateM.run_bind, run_call, run_return_if, run_CHECK_SUCCESS]
  by_cases h : env.status (.read index) = .HAILO_SUCCESS
  · simp [h]
  · simp only [h, if_false]; split_ifs <;> rfl

/-- A loop of checked calls makes them in turn up to the first that fails. -/
theorem run_forM_checked {α : Type} (env : MultiplexerEnv) (g : α → MultiplexerCall)
    {f : α → WrapperM Unit} (hf : ∀ a, Checked env (g a) (f a)) :
    ∀ (l : List α) (w : MultiplexerWrapper),
      (∀ a ∈ l, env.status (g a) = .HAILO_SUCCESS) ∧
          (l.forM f).run w = .ok () { w with calls := w.calls ++ l.map g } ∨
        (∃ a ∈ l, env.status (g a) ≠ .HAILO_SUCCESS) ∧
          ∃ e made, e ≠ .HAILO_SUCCESS ∧ (∀ c ∈ made, c ∈ l.map g) ∧
            (l.forM f).run w = .error e { w with calls := w.calls ++ made }
  | [], w => .inl ⟨by simp, by simp [List.forM]⟩
  | a :: l, w => by
    have hcons : (a :: l).forM f = (f a >>= fun _ => l.forM f) := rfl
    rw [hcons, EStateM.run_bind, hf a w]
    by_cases ha : env.status (g a) = .HAILO_SUCCESS
    · simp only [ha, if_true]
      rcases run_forM_checked env g hf l { w with calls := w.calls ++ [g a] } with
        ⟨hall, hrun⟩ | ⟨⟨b, hb, hfail⟩, e, made, he, hmade, hrun⟩
      · exact .inl ⟨List.forall_mem_cons.2 ⟨ha, hall⟩, by rw [hrun]; simp⟩
      · refine .inr ⟨⟨b, List.mem_cons_of_mem a hb, hfail⟩, e, g a :: made, he, ?_, by rw [hrun]; simp⟩
        intro c hc
        rcases List.mem_cons.1 hc with rfl | hc
        · exact List.mem_cons_self _ _
        · exact List.mem_cons_of_mem _ (hmade c hc)
    · simp only [ha, if_false]
      exact .inr ⟨⟨a, List.mem_cons_self a l, ha⟩, _, [g a], ha, by simp, rfl⟩

theorem write_impl_finishes (env : MultiplexerEnv) (w : MultiplexerWrapper) :
    ∃ made, (after (VDeviceInputStreamMultiplexerWrapper.write_impl env) w).calls = w.calls ++ made ∧
      ∀ b, made.count (.signal_write_finish b) =
        if env.status .wait_for_write = .HAILO_SUCCESS ∧ b = (env.status .write_impl != .HAILO_SUCCESS) then 1
        else 0 := by
  by_cases hw : env.status .wait_for_write = .HAILO_SUCCESS
  · refine ⟨[.wait_for_write, .write_impl, .signal_write_finish (env.status .write_impl != .HAILO_SUCCESS)],
      ?_, fun b => ?_⟩
    · simp [VDeviceInputStreamMultiplexerWrapper.write_impl, after, EStateM.run_bind, run_return_if,
        run_CHECK_SUCCESS, hw]
      split_ifs <;> simp
    · simp only [List.count_cons, List.count_nil, hw, true_and, beq_iff_eq, MultiplexerCall.signal_write_finish.injEq]
      split_ifs <;> simp_all
  · refine ⟨[.wait_for_write], ?_, fun b => by simp [hw]⟩
    simp only [VDeviceInputStreamMultiplexerWrapper.write_impl, after, EStateM.run_bind, run_call,
      run_return_if, run_CHECK_SUCCESS, hw, if_false]
    split_ifs <;> rfl

theorem read_finishes (env : MultiplexerEnv) (w : MultiplexerWrapper) :
    ∃ made, (after (VDeviceOutputStreamMultiplexerWrapper.read env) w).calls = w.calls ++ made ∧
      made.count .signal_read_finish = if env.status .wait_for_read = .HAILO_SUCCESS ∧
        ∀ i ≤ env.frames_to_drain_count, env.status (.read i) = .HAILO_SUCCESS then 1 else 0 := by
  by_cases hw : env.status .wait_for_read = .HAILO_SUCCESS
  · -- the reads of the frames to drain are no finish
    have hreads : ∀ made : List MultiplexerCall,
        (∀ c ∈ made, c ∈ (List.range env.frames_to_drain_count).map .read) → made.count .signal_read_finish = 0 :=
      fun made hmade => List.count_eq_zero.2 fun h => by
        obtain ⟨_, _, h'⟩ := List.mem_map.1 (hmade _ h); cases h'
    rcases run_forM_checked env MultiplexerCall.read (checked_read_frame env)
        (List.range env.frames_to_drain_count) { w with calls := w.calls ++ [.wait_for_read] } with
      ⟨hall, hrun⟩ | ⟨⟨i, hi, hfail⟩, e, made, -, hmade, hrun⟩
    · have hdrain := hreads _ fun c hc => hc
      by_cases hn : env.status (.read env.frames_to_drain_count) = .HAILO_SUCCESS
      · refine ⟨.wait_for_read :: (List.range env.frames_to_drain_count).map .read ++
          [.read env.frames_to_drain_count, .signal_read_finish], ?_, ?_⟩
        · simp [VDeviceOutputStreamMultiplexerWrapper.read, after, EStateM.run_bind, run_return_if,
            run_CHECK_SUCCESS, hw, hrun, checked_read_frame env _ _, hn]
          split_ifs <;> simp
        · rw [if_pos ⟨hw, fun i hi => (Nat.lt_or_eq_of_le hi).elim (hall i ∘ List.mem_range.2) (· ▸ hn)⟩]
          simp [hdrain]
      · refine ⟨.wait_for_read :: (List.range env.frames_to_drain_count).map .read ++
          [.read env.frames_to_drain_count], ?_, ?_⟩
        · simp [VDeviceOutputStreamMultiplexerWrapper.read, after, EStateM.run_bind, run_return_if,
            run_CHECK_SUCCESS, hw, hrun, checked_read_frame env _ _, hn]
        · rw [if_neg fun h => hn (h.2 _ le_rfl)]
          simp [hdrain]
    · refine ⟨.wait_for_read :: made, ?_, ?_⟩
      · simp [VDeviceOutputStreamMultiplexerWrapper.read, after, EStateM.run_bind, run_return_if,
          run_CHECK_SUCCESS, hw, hrun]
      · rw [if_neg fun h => hfail (h.2 i (Nat.le_of_lt (List.mem_range.1 hi)))]
        simp [hreads made hmade]
  · refine ⟨[.wait_for_read], ?_, by simp [hw]⟩
    simp only [VDeviceOutputStreamMultiplexerWrapper.read, after, EStateM.run_bind, run_call,
      run_return_if, run_CHECK_SUCCESS, hw, if_false]
    split_ifs <;> rfl

/-- **A granted write is finished exactly once, a granted read once when its
reads succeed.**  Whatever the multiplexer and the stream return:
`write_impl` calls `signal_write_finish` once when `wait_for_write` granted
the write, flagged as failed exactly when the stream's write failed, and
never otherwise; `read` calls `signal_read_finish` once when `wait_for_read`
granted the read and all `frames_to_drain_count + 1` reads of the stream
succeeded, and never otherwise. -/
theorem granted_writes_and_reads_finished (env : MultiplexerEnv) (w : MultiplexerWrapper) :
    (∃ made, (after (VDeviceInputStreamMultiplexerWrapper.write_impl env) w).calls = w.calls ++ made ∧
      ∀ b, made.count (.signal_write_finish b) =
        if env.status .wait_for_write = .HAILO_SUCCESS ∧ b = (env.status .write_impl != .HAILO_SUCCESS) then 1
        else 0) ∧
    (∃ made, (after (VDeviceOutputStreamMultiplexerWrapper.read env) w).calls = w.calls ++ made ∧
      made.count .signal_read_finish = if env.status .wait_for_read = .HAILO_SUCCESS ∧
        ∀ i ≤ env.frames_to_drain_count, env.status (.read i) = .HAILO_SUCCESS then 1 else 0) :=
  ⟨write_impl_finishes env w, read_finishes env w⟩

end Vdevice
end HailoRT
