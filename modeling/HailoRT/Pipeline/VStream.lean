/-
# The vstream's lifecycle

`BaseVStream` (`net_flow/pipeline/vstream.cpp`, lines 564-710) drives a
pipeline of elements through its entry element: it activates, aborts,
resumes, deactivates and clears it, and keeps two flags and the pipeline's
shared status.  `InputVStreamImpl::write`, `InputVStreamImpl::flush` and
`OutputVStreamImpl::read` push into and pull out of the pipeline.  The
elements (`pipeline.cpp`) are not among the sources: what the entry element
and the events return during one call is a `VStreamEnv`, and the state is
what the vstream keeps:

| field                       | set by                                                   |
| --------------------------- | -------------------------------------------------------- |
| `m_is_activated`            | `start_vstream` (after `activate`), `stop_vstream` (before `deactivate`) |
| `m_is_aborted`              | `abort`, `resume`, each after the element's call succeeded |
| `m_pipeline_status`         | the elements, during a push or a pull (`run_entry`); `stop_and_clear` resets it |
| `m_core_op_activated_event` | whether the vstream has one                               |

* `stop_vstream` calls `deactivate`, then `post_deactivate`, and returns what
  `post_deactivate` returns: a failed `deactivate` is only logged
  (`stop_vstream_status`).
* A `write` or `read` whose push or pull meets the shutdown event returns the
  pipeline status as the elements left it, which is `HAILO_SUCCESS` unless an
  element stored a failure: it reports success with no frame moved.
* Only `start_vstream` activates a vstream.  A stopped vstream with an
  activation event refuses every `write` and `read` until it is started
  again, whatever else is called on it (`stopped_vstream_refuses_data`).
* `InputVStream::clear` and `OutputVStream::clear` stop and clear every
  vstream, then start every vstream, each loop up to its first failure.
  Nothing is undone: a failure leaves the vstreams it reached stopped
  (`clear_leaves_stopped`).
-/

import HailoRT.Status

namespace HailoRT
namespace Pipeline

/-! ### The vstream -/

/-- What the entry element, the events and the pipeline return during one
vstream call.  `activate_in_resume` is `resume`'s `activate`, which
`start_vstream` calls before its own. -/
structure VStreamEnv where
  shutdown_event_reset : Status
  clear_abort : Status
  activate_in_resume : Status
  activate : Status
  abort : Status
  deactivate : Status
  post_deactivate : Bool → Status
  clear : Status
  core_op_activated_event_wait : Status
  run_push : Status
  run_push_flush : Status
  flush : Status
  run_pull : Status
  /-- What the elements have stored in the pipeline status by the time
  `run_push` or `run_pull` returns. -/
  pipeline_status : Status

/-- A `BaseVStream`, through the members its calls read and write. -/
structure BaseVStream where
  m_is_activated : Bool
  m_is_aborted : Bool
  m_pipeline_status : Status
  m_core_op_activated_event : Bool
  deriving DecidableEq, Repr

/-- A vstream call, which keeps what it changed when it fails. -/
abbrev VStreamM := EStateM Status BaseVStream

/-- `BaseVStream::resume`. -/
def BaseVStream.resume (env : VStreamEnv) : VStreamM Unit := do
  CHECK_SUCCESS env.clear_abort
  modify fun s => { s with m_is_aborted := false }
  if (← get).m_is_activated then
    CHECK_SUCCESS env.activate_in_resume

/-- `BaseVStream::start_vstream`, also what the constructor calls. -/
def BaseVStream.start_vstream (env : VStreamEnv) : VStreamM Unit := do
  CHECK_SUCCESS env.shutdown_event_reset
  let status ← status_of (BaseVStream.resume env)
  CHECK_STATUS (status = .HAILO_SUCCESS ∨ status = .HAILO_STREAM_NOT_ACTIVATED) status
  CHECK_SUCCESS env.activate
  modify fun s => { s with m_is_activated := true }

/-- `BaseVStream::abort`. -/
def BaseVStream.abort (env : VStreamEnv) : VStreamM Unit := do
  CHECK_SUCCESS env.abort
  modify fun s => { s with m_is_aborted := true }

/-- `BaseVStream::stop_vstream`: the status of `deactivate` is logged and
overwritten. -/
def BaseVStream.stop_vstream (env : VStreamEnv) : VStreamM Unit := do
  let s ← get
  if s.m_is_activated then
    set { s with m_is_activated := false }
    let _deactivate_status := env.deactivate
    let should_clear_abort := !s.m_is_aborted
    CHECK_SUCCESS (env.post_deactivate should_clear_abort)

/-- The first block of `stop_and_clear`: a vstream with an activation event
is cleared only while its network group is not activated. -/
def BaseVStream.check_core_op_not_activated (env : VStreamEnv) : VStreamM Unit := do
  if (← get).m_core_op_activated_event then
    CHECK_STATUS (env.core_op_activated_event_wait = .HAILO_TIMEOUT) .HAILO_INVALID_OPERATION

/-- The last block of `stop_and_clear`: the pipeline status is overwritten. -/
def BaseVStream.reset_pipeline_status : VStreamM Unit := do
  if (← get).m_pipeline_status ≠ .HAILO_SUCCESS then
    modify fun s => { s with m_pipeline_status := .HAILO_SUCCESS }

/-- `BaseVStream::stop_and_clear`. -/
def BaseVStream.stop_and_clear (env : VStreamEnv) : VStreamM Unit := do
  BaseVStream.check_core_op_not_activated env
  CHECK_SUCCESS (← status_of (BaseVStream.stop_vstream env))
  CHECK_SUCCESS env.clear
  BaseVStream.reset_pipeline_status

/-- The first block of `InputVStreamImpl::write`: a vstream with an activation
event must be activated, and the wait must not time out. -/
def InputVStreamImpl.check_activation (env : VStreamEnv) : VStreamM Unit := do
  let s ← get
  if s.m_core_op_activated_event then
    CHECK_STATUS s.m_is_activated .HAILO_VSTREAM_PIPELINE_NOT_ACTIVATED
    let status := env.core_op_activated_event_wait
    CHECK_STATUS (status ≠ .HAILO_TIMEOUT) .HAILO_NETWORK_GROUP_NOT_ACTIVATED

/-- `m_entry_element->run_push(...)` or `run_pull(...)`, which returns
`status`: the elements it runs leave `env.pipeline_status` in the pipeline
status they share with the vstream. -/
def run_entry (env : VStreamEnv) (status : Status) : VStreamM Status := do
  modify fun s => { s with m_pipeline_status := env.pipeline_status }
  return status

/-- The end of `InputVStreamImpl::write` and `OutputVStreamImpl::read`: a push
or pull that met the shutdown event reports the pipeline status, loaded after
it; an abort is reported as such; any other status is returned. -/
def report_status (status : Status) : VStreamM Unit := do
  let s ← get
  let status := if status = .HAILO_SHUTDOWN_EVENT_SIGNALED then s.m_pipeline_status else status
  return_if (status = .HAILO_STREAM_ABORTED_BY_USER) .HAILO_STREAM_ABORTED_BY_USER
  CHECK_SUCCESS status

/-- `InputVStreamImpl::write`. -/
def InputVStreamImpl.write (env : VStreamEnv) : VStreamM Unit := do
  InputVStreamImpl.check_activation env
  report_status (← run_entry env env.run_push)

/-- `InputVStreamImpl::flush`. -/
def InputVStreamImpl.flush (env : VStreamEnv) : VStreamM Unit := do
  CHECK_SUCCESS (← run_entry env env.run_push_flush)
  CHECK_SUCCESS env.flush

/-- The first block of `OutputVStreamImpl::read`: a vstream with an activation
event must be activated, and the wait must succeed. -/
def OutputVStreamImpl.check_activation (env : VStreamEnv) : VStreamM Unit := do
  let s ← get
  if s.m_core_op_activated_event then
    CHECK_STATUS s.m_is_activated .HAILO_VSTREAM_PIPELINE_NOT_ACTIVATED
    let status := env.core_op_activated_event_wait
    return_if (status = .HAILO_TIMEOUT) .HAILO_NETWORK_GROUP_NOT_ACTIVATED
    CHECK_SUCCESS status

/-- `OutputVStreamImpl::read`; `wait_for_finish` after an abort is left out,
its status unread. -/
def OutputVStreamImpl.read (env : VStreamEnv) : VStreamM Unit := do
  OutputVStreamImpl.check_activation env
  report_status (← run_entry env env.run_pull)

/-- A call on one vstream. -/
inductive VStreamCall
  | start_vstream
  | stop_vstream
  | abort
  | resume
  | stop_and_clear
  | write
  | flush
  | read
  deriving DecidableEq, Repr

/-- The method a call runs. -/
def VStreamCall.exec (env : VStreamEnv) : VStreamCall → VStreamM Unit
  | .start_vstream => BaseVStream.start_vstream env
  | .stop_vstream => BaseVStream.stop_vstream env
  | .abort => BaseVStream.abort env
  | .resume => BaseVStream.resume env
  | .stop_and_clear => BaseVStream.stop_and_clear env
  | .write => InputVStreamImpl.write env
  | .flush => InputVStreamImpl.flush env
  | .read => OutputVStreamImpl.read env

/-- A sequence of calls, each with what the pipeline returns during it: the
status each call returns, and the vstream after the last. -/
def VStreamCall.run : List (VStreamCall × VStreamEnv) → BaseVStream → List Status × BaseVStream
  | [], s => ([], s)
  | (call, env) :: calls, s =>
    let rest := VStreamCall.run calls (after (call.exec env) s)
    (returned (call.exec env) s :: rest.1, rest.2)

/-! ### Clearing vstreams together -/

/-- The loop `for (auto &vstream : vstreams) { status = f(vstream); CHECK_SUCCESS(status); }`
from the vstream at `index` on: each in turn, and the ones after the first
failure untouched. -/
def for_each_vstream (f : Nat → VStreamM Unit) :
    Nat → List BaseVStream → EStateM.Result Status (List BaseVStream) Unit
  | _, [] => .ok () []
  | index, v :: vs =>
    match (f index).run v with
    | .ok _ v' =>
      match for_each_vstream f (index + 1) vs with
      | .ok _ vs' => .ok () (v' :: vs')
      | .error e vs' => .error e (v' :: vs')
    | .error e v' => .error e (v' :: vs)

/-- The two loops of the `clear`s, with what each vstream's calls meet. -/
def clear_vstreams (stop_env start_env : Nat → VStreamEnv) : EStateM Status (List BaseVStream) Unit := do
  (fun vstreams => for_each_vstream (fun i => BaseVStream.stop_and_clear (stop_env i)) 0 vstreams)
  (fun vstreams => for_each_vstream (fun i => BaseVStream.start_vstream (start_env i)) 0 vstreams)

/-- `InputVStream::clear`, on a vector of vstreams or of references to them. -/
def InputVStream.clear : (Nat → VStreamEnv) → (Nat → VStreamEnv) → EStateM Status (List BaseVStream) Unit :=
  clear_vstreams

/-- `OutputVStream::clear`, on a vector of vstreams or of references to them. -/
def OutputVStream.clear : (Nat → VStreamEnv) → (Nat → VStreamEnv) → EStateM Status (List BaseVStream) Unit :=
  clear_vstreams

/-! ### One vstream -/

/-- **`stop_vstream` returns what `post_deactivate` returns.**  Whatever
`deactivate` returns, an activated vstream ends deactivated and reports the
status of `post_deactivate`, which clears the entry element's abort unless
the vstream was aborted; a deactivated one reports `HAILO_SUCCESS`. -/
theorem stop_vstream_status (env : VStreamEnv) (s : BaseVStream) :
    returned (BaseVStream.stop_vstream env) s =
        (if s.m_is_activated then env.post_deactivate (!s.m_is_aborted) else .HAILO_SUCCESS) ∧
      after (BaseVStream.stop_vstream env) s = { s with m_is_activated := false } := by
  obtain ⟨activated, aborted, pipeline_status, event⟩ := s
  cases activated
  · simp [BaseVStream.stop_vstream, returned, after, EStateM.run_bind]
  · simp only [BaseVStream.stop_vstream, returned, after, EStateM.run_bind, EStateM.run_get,
      if_true, EStateM.run_set, run_CHECK_SUCCESS]
    split_ifs <;> simp_all

theorem stop_and_clear_ok {env : VStreamEnv} {v v' : BaseVStream}
    (h : (BaseVStream.stop_and_clear env).run v = .ok () v') :
    v'.m_is_activated = false ∧ v'.m_pipeline_status = .HAILO_SUCCESS := by
  obtain ⟨_, v₁, hcheck, h⟩ := EStateM.run_bind_eq_ok.1 h
  have hv₁ : v = v₁ := by
    simp only [BaseVStream.check_core_op_not_activated, EStateM.run_bind, EStateM.run_get] at hcheck
    split at hcheck
    · exact (CHECK_STATUS_eq_ok.1 hcheck).2
    · cases hcheck; rfl
  subst hv₁
  obtain ⟨status, _, hstop, h⟩ := EStateM.run_bind_eq_ok.1 h
  rw [run_status_of, (stop_vstream_status env v).2] at hstop
  cases hstop
  obtain ⟨_, _, hstatus, h⟩ := EStateM.run_bind_eq_ok.1 h
  obtain ⟨-, rfl⟩ := CHECK_SUCCESS_eq_ok.1 hstatus
  obtain ⟨_, _, hclear, h⟩ := EStateM.run_bind_eq_ok.1 h
  obtain ⟨-, rfl⟩ := CHECK_SUCCESS_eq_ok.1 hclear
  simp only [BaseVStream.reset_pipeline_status, EStateM.run_bind, EStateM.run_get] at h
  split at h <;> cases h <;> simp_all

/-- Two vstreams with the same pipeline status: the frame of the vstream's own
calls, which leave that status to the elements. -/
def SamePipelineStatus (v v' : BaseVStream) : Prop := v'.m_pipeline_status = v.m_pipeline_status

theorem SamePipelineStatus.refl (v : BaseVStream) : SamePipelineStatus v v := rfl

theorem SamePipelineStatus.trans (v₁ v₂ v₃ : BaseVStream) (h₁ : SamePipelineStatus v₁ v₂)
    (h₂ : SamePipelineStatus v₂ v₃) : SamePipelineStatus v₁ v₃ := Eq.trans h₂ h₁

theorem resume_keeps_pipeline_status (env : VStreamEnv) :
    Preserves SamePipelineStatus (BaseVStream.resume env) := by
  refine .bind SamePipelineStatus.trans (.CHECK_SUCCESS SamePipelineStatus.refl _) fun _ =>
    .bind SamePipelineStatus.trans (.modify fun _ => rfl) fun _ =>
      .bind SamePipelineStatus.trans (.get SamePipelineStatus.refl) fun s => ?_
  split
  · exact .CHECK_SUCCESS SamePipelineStatus.refl _
  · exact .pure SamePipelineStatus.refl ()

theorem start_vstream_ok {env : VStreamEnv} {v v' : BaseVStream}
    (h : (BaseVStream.start_vstream env).run v = .ok () v') :
    v'.m_is_activated = true ∧ v'.m_pipeline_status = v.m_pipeline_status := by
  obtain ⟨_, _, hreset, h⟩ := EStateM.run_bind_eq_ok.1 h
  obtain ⟨-, rfl⟩ := CHECK_SUCCESS_eq_ok.1 hreset
  obtain ⟨status, v₁, hresume, h⟩ := EStateM.run_bind_eq_ok.1 h
  have hps : v₁.m_pipeline_status = v.m_pipeline_status := by
    rw [run_status_of] at hresume
    cases hresume
    exact resume_keeps_pipeline_status env v
  obtain ⟨_, _, hcheck, h⟩ := EStateM.run_bind_eq_ok.1 h
  obtain ⟨-, rfl⟩ := CHECK_STATUS_eq_ok.1 hcheck
  obtain ⟨_, _, hactivate, h⟩ := EStateM.run_bind_eq_ok.1 h
  obtain ⟨-, rfl⟩ := CHECK_SUCCESS_eq_ok.1 hactivate
  cases h
  exact ⟨rfl, hps⟩

/-! ### A stopped vstream -/

/-- What every call but `start_vstream` keeps: whether the vstream has an
activation event, and a deactivated vstream deactivated. -/
def KeepsStopped (v v' : BaseVStream) : Prop :=
  v'.m_core_op_activated_event = v.m_core_op_activated_event ∧
    (v.m_is_activated = false → v'.m_is_activated = false)

theorem KeepsStopped.refl (v : BaseVStream) : KeepsStopped v v := ⟨rfl, id⟩

theorem KeepsStopped.trans (v₁ v₂ v₃ : BaseVStream) (h₁ : KeepsStopped v₁ v₂) (h₂ : KeepsStopped v₂ v₃) :
    KeepsStopped v₁ v₃ := ⟨h₂.1.trans h₁.1, h₂.2 ∘ h₁.2⟩

section KeepsStopped

variable (env : VStreamEnv)

theorem stop_vstream_keeps_stopped : Preserves KeepsStopped (BaseVStream.stop_vstream env) := fun s => by
  rw [(stop_vstream_status env s).2]
  exact ⟨rfl, fun _ => rfl⟩

theorem abort_keeps_stopped : Preserves KeepsStopped (BaseVStream.abort env) :=
  .bind KeepsStopped.trans (.CHECK_SUCCESS KeepsStopped.refl _) fun _ => .modify fun _ => ⟨rfl, id⟩

theorem resume_keeps_stopped : Preserves KeepsStopped (BaseVStream.resume env) := by
  refine .bind KeepsStopped.trans (.CHECK_SUCCESS KeepsStopped.refl _) fun _ =>
    .bind KeepsStopped.trans (.modify fun _ => ⟨rfl, id⟩) fun _ =>
      .bind KeepsStopped.trans (.get KeepsStopped.refl) fun s => ?_
  split
  · exact .CHECK_SUCCESS KeepsStopped.refl _
  · exact .pure KeepsStopped.refl ()

theorem stop_and_clear_keeps_stopped : Preserves KeepsStopped (BaseVStream.stop_and_clear env) := by
  refine .bind KeepsStopped.trans ?_ fun _ =>
    .bind KeepsStopped.trans (.status_of (stop_vstream_keeps_stopped env)) fun _ =>
      .bind KeepsStopped.trans (.CHECK_SUCCESS KeepsStopped.refl _) fun _ =>
        .bind KeepsStopped.trans (.CHECK_SUCCESS KeepsStopped.refl _) fun _ => ?_
  · -- the activation-event check reads the vstream only
    refine .bind KeepsStopped.trans (.get KeepsStopped.refl) fun s => ?_
    split
    · exact .CHECK_STATUS KeepsStopped.refl _ _
    · exact .pure KeepsStopped.refl ()
  · -- the pipeline status is reset
    refine .bind KeepsStopped.trans (.get KeepsStopped.refl) fun s => ?_
    split
    · exact .modify fun _ => ⟨rfl, id⟩
    · exact .pure KeepsStopped.refl ()

theorem run_entry_keeps_stopped (status : Status) : Preserves KeepsStopped (run_entry env status) :=
  .bind KeepsStopped.trans (.modify fun _ => ⟨rfl, id⟩) fun _ => .pure KeepsStopped.refl _

theorem report_status_keeps_stopped (status : Status) : Preserves KeepsStopped (report_status status) :=
  .bind KeepsStopped.trans (.get KeepsStopped.refl) fun _ =>
    .bind KeepsStopped.trans (.return_if KeepsStopped.refl _ _) fun _ => .CHECK_SUCCESS KeepsStopped.refl _

theorem write_keeps_stopped : Preserves KeepsStopped (InputVStreamImpl.write env) := by
  refine .bind KeepsStopped.trans (.bind KeepsStopped.trans (.get KeepsStopped.refl) fun s => ?_) fun _ =>
    .bind KeepsStopped.trans (run_entry_keeps_stopped env _) fun _ => report_status_keeps_stopped _
  split
  · exact .bind KeepsStopped.trans (.CHECK_STATUS KeepsStopped.refl _ _) fun _ =>
      .CHECK_STATUS KeepsStopped.refl _ _
  · exact .pure KeepsStopped.refl ()

theorem flush_keeps_stopped : Preserves KeepsStopped (InputVStreamImpl.flush env) :=
  .bind KeepsStopped.trans (run_entry_keeps_stopped env _) fun _ =>
    .bind KeepsStopped.trans (.CHECK_SUCCESS KeepsStopped.refl _) fun _ => .CHECK_SUCCESS KeepsStopped.refl _

theorem read_keeps_stopped : Preserves KeepsStopped (OutputVStreamImpl.read env) := by
  refine .bind KeepsStopped.trans (.bind KeepsStopped.trans (.get KeepsStopped.refl) fun s => ?_) fun _ =>
    .bind KeepsStopped.trans (run_entry_keeps_stopped env _) fun _ => report_status_keeps_stopped _
  split
  · exact .bind KeepsStopped.trans (.CHECK_STATUS KeepsStopped.refl _ _) fun _ =>
      .bind KeepsStopped.trans (.return_if KeepsStopped.refl _ _) fun _ => .CHECK_SUCCESS KeepsStopped.refl _
  · exact .pure KeepsStopped.refl ()

/-- Every call but `start_vstream` keeps a deactivated vstream deactivated. -/
theorem exec_keeps_stopped : ∀ call : VStreamCall, call ≠ .start_vstream →
    Preserves KeepsStopped (call.exec env)
  | .start_vstream, h => absurd rfl h
  | .stop_vstream, _ => stop_vstream_keeps_stopped env
  | .abort, _ => abort_keeps_stopped env
  | .resume, _ => resume_keeps_stopped env
  | .stop_and_clear, _ => stop_and_clear_keeps_stopped env
  | .write, _ => write_keeps_stopped env
  | .flush, _ => flush_keeps_stopped env
  | .read, _ => read_keeps_stopped env

/-- A deactivated vstream with an activation event refuses a `write` and a
`read` with `HAILO_VSTREAM_PIPELINE_NOT_ACTIVATED`. -/
theorem write_read_not_activated {s : BaseVStream} (hevent : s.m_core_op_activated_event = true)
    (hstopped : s.m_is_activated = false) :
    returned (InputVStreamImpl.write env) s = .HAILO_VSTREAM_PIPELINE_NOT_ACTIVATED ∧
      returned (OutputVStreamImpl.read env) s = .HAILO_VSTREAM_PIPELINE_NOT_ACTIVATED := by
  simp [InputVStreamImpl.write, OutputVStreamImpl.read, InputVStreamImpl.check_activation,
    OutputVStreamImpl.check_activation, returned_bind, run_CHECK_STATUS, hevent, hstopped]

end KeepsStopped

/-- **A stopped vstream refuses data until it is started again.**  From a
deactivated vstream with an activation event, as `stop_vstream` leaves any
vstream whatever it returns, along any sequence of calls without
`start_vstream`, whatever the pipeline returns during them: the vstream stays
deactivated, and every `write` and every `read` in the sequence fails with
`HAILO_VSTREAM_PIPELINE_NOT_ACTIVATED`. -/
theorem stopped_vstream_refuses_data (calls : List (VStreamCall × VStreamEnv)) (s : BaseVStream)
    (hevent : s.m_core_op_activated_event = true) (hstopped : s.m_is_activated = false)
    (hcalls : ∀ c ∈ calls, c.1 ≠ .start_vstream) :
    (VStreamCall.run calls s).2.m_is_activated = false ∧
      ∀ p ∈ calls.zip (VStreamCall.run calls s).1, p.1.1 = .write ∨ p.1.1 = .read →
        p.2 = .HAILO_VSTREAM_PIPELINE_NOT_ACTIVATED := by
  induction calls generalizing s with
  | nil => exact ⟨hstopped, by simp⟩
  | cons c calls ih =>
    obtain ⟨call, env⟩ := c
    have hkeep := exec_keeps_stopped env call (hcalls _ (List.mem_cons_self _ _)) s
    obtain ⟨ih₁, ih₂⟩ := ih _ (hkeep.1.trans hevent) (hkeep.2 hstopped)
      fun c hc => hcalls c (List.mem_cons_of_mem _ hc)
    refine ⟨ih₁, ?_⟩
    simp only [VStreamCall.run, List.zip_cons_cons, List.forall_mem_cons]
    refine ⟨fun hcall => ?_, ih₂⟩
    rcases hcall with rfl | rfl
    · exact (write_read_not_activated env hevent hstopped).1
    · exact (write_read_not_activated env hevent hstopped).2

/-- A pipeline whose every call succeeds. -/
def quiet_env : VStreamEnv :=
  ⟨.HAILO_SUCCESS, .HAILO_SUCCESS, .HAILO_SUCCESS, .HAILO_SUCCESS, .HAILO_SUCCESS, .HAILO_SUCCESS,
    fun _ => .HAILO_SUCCESS, .HAILO_SUCCESS, .HAILO_SUCCESS, .HAILO_SUCCESS, .HAILO_SUCCESS, .HAILO_SUCCESS,
    .HAILO_SUCCESS, .HAILO_SUCCESS⟩

theorem stopped_vstream_refuses_data_resume_write :
    (⟨false, true, .HAILO_SUCCESS, true⟩ : BaseVStream).m_core_op_activated_event = true ∧
    (⟨false, true, .HAILO_SUCCESS, true⟩ : BaseVStream).m_is_activated = false ∧
    (∀ c ∈ [(VStreamCall.resume, quiet_env), (.write, quiet_env), (.read, quiet_env)], c.1 ≠ .start_vstream) ∧
    (VStreamCall.run [(.resume, quiet_env), (.write, quiet_env), (.read, quiet_env)]
        ⟨false, true, .HAILO_SUCCESS, true⟩).2.m_is_activated = false ∧
      ∀ p ∈ [(VStreamCall.resume, quiet_env), (.write, quiet_env), (.read, quiet_env)].zip
          (VStreamCall.run [(.resume, quiet_env), (.write, quiet_env), (.read, quiet_env)]
            ⟨false, true, .HAILO_SUCCESS, true⟩).1,
        p.1.1 = .write ∨ p.1.1 = .read → p.2 = .HAILO_VSTREAM_PIPELINE_NOT_ACTIVATED :=
  ⟨rfl, rfl, by decide, stopped_vstream_refuses_data _ _ rfl rfl (by decide)⟩

/-! ### Clearing vstreams together -/

/-- A loop of `for_each_vstream` whose call takes each vstream satisfying `P`
that it succeeds on to one satisfying `Q`: on success every vstream satisfies
`Q`; a failure leaves those before it satisfying `Q` and those after it as
they were. -/
theorem for_each_vstream_spec (P Q : BaseVStream → Prop) (f : Nat → VStreamM Unit)
    (hf : ∀ i v v', P v → (f i).run v = .ok () v' → Q v') :
    ∀ (index : Nat) (vs : List BaseVStream), (∀ v ∈ vs, P v) →
      (∀ vs', for_each_vstream f index vs = .ok () vs' → ∀ v ∈ vs', Q v) ∧
      (∀ e vs', for_each_vstream f index vs = .error e vs' →
        ∃ front failed back, vs' = front ++ failed :: back ∧ back = vs.drop (front.length + 1) ∧
          ∀ v ∈ front, Q v)
  | _, [], _ => ⟨fun vs' h => by cases h; simp, fun _ _ h => by cases h⟩
  | index, v :: vs, hP => by
    rw [List.forall_mem_cons] at hP
    have ih := for_each_vstream_spec P Q f hf (index + 1) vs hP.2
    unfold for_each_vstream
    cases hv : (f index).run v with
    | ok _ v' =>
      have hv' := hf _ _ _ hP.1 hv
      cases hvs : for_each_vstream f (index + 1) vs with
      | ok _ vs' =>
        refine ⟨fun _ h => ?_, fun _ _ h => by cases h⟩
        cases h
        exact List.forall_mem_cons.2 ⟨hv', ih.1 _ hvs⟩
      | error e vs' =>
        refine ⟨fun _ h => (by cases h), fun _ _ h => ?_⟩
        cases h
        obtain ⟨front, failed, back, rfl, hback, hfront⟩ := ih.2 _ _ hvs
        exact ⟨v' :: front, failed, back, rfl, by simpa using hback,
          List.forall_mem_cons.2 ⟨hv', hfront⟩⟩
    | error e v' =>
      refine ⟨fun _ h => (by cases h), fun _ _ h => ?_⟩
      cases h
      exact ⟨[], v', vs, rfl, rfl, by simp⟩

/-- A vstream after a successful `stop_and_clear`. -/
def Cleared (v : BaseVStream) : Prop := v.m_is_activated = false ∧ v.m_pipeline_status = .HAILO_SUCCESS

/-- A vstream after a successful `start_vstream` from a cleared one. -/
def Restarted (v : BaseVStream) : Prop := v.m_is_activated = true ∧ v.m_pipeline_status = .HAILO_SUCCESS

/-- **A failed `clear` undoes nothing.**  After a `clear` that succeeds every
vstream is activated, with the pipeline status `HAILO_SUCCESS`.  After one that
fails, the vstreams are `front`, the one whose call failed, and `back`:
either it failed stopping, the vstreams before it stay stopped and those
after it untouched, or it failed starting, those before it are started and
those after it stay stopped. -/
theorem clear_leaves_stopped (stop_env start_env : Nat → VStreamEnv) (vstreams : List BaseVStream) :
    (∀ vs', (InputVStream.clear stop_env start_env).run vstreams = .ok () vs' →
      ∀ v ∈ vs', v.m_is_activated = true ∧ v.m_pipeline_status = .HAILO_SUCCESS) ∧
    (∀ e vs', (InputVStream.clear stop_env start_env).run vstreams = .error e vs' →
      ∃ front failed back, vs' = front ++ failed :: back ∧
        ((∀ v ∈ front, v.m_is_activated = false) ∧ back = vstreams.drop (front.length + 1) ∨
          (∀ v ∈ front, v.m_is_activated = true) ∧ ∀ v ∈ back, v.m_is_activated = false)) := by
  have hstop := for_each_vstream_spec (fun _ => True) Cleared
    (fun i => BaseVStream.stop_and_clear (stop_env i)) (fun _ _ _ _ h => stop_and_clear_ok h) 0 vstreams
    (fun _ _ => trivial)
  have hstart : ∀ vs, (∀ v ∈ vs, Cleared v) → _ := for_each_vstream_spec Cleared Restarted
    (fun i => BaseVStream.start_vstream (start_env i))
    (fun _ _ _ hv h => (start_vstream_ok h).imp_right (·.trans hv.2)) 0
  constructor
  · intro vs' h
    obtain ⟨_, vs₁, h₁, h₂⟩ := EStateM.run_bind_eq_ok.1 h
    exact (hstart vs₁ (hstop.1 _ h₁)).1 _ h₂
  · intro e vs' h
    obtain h₁ | ⟨_, vs₁, h₁, h₂⟩ := EStateM.run_bind_eq_error.1 h
    · obtain ⟨front, failed, back, rfl, hback, hfront⟩ := hstop.2 _ _ h₁
      exact ⟨front, failed, back, rfl, .inl ⟨fun v hv => (hfront v hv).1, hback⟩⟩
    · have hcleared := hstop.1 _ h₁
      obtain ⟨front, failed, back, rfl, rfl, hfront⟩ := (hstart vs₁ hcleared).2 _ _ h₂
      exact ⟨front, failed, _, rfl, .inr ⟨fun v hv => (hfront v hv).1,
        fun v hv => (hcleared v (List.mem_of_mem_drop hv)).1⟩⟩

end Pipeline
end HailoRT
