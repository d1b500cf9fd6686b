/-
# The DDR pairs of a context

A DDR buffer is a pair of edge layers of one context: an output that writes
the buffer and an input that reads it back.  `HefUtils::check_ddr_pairs_match`
(`hef.cpp`, lines 1281-1314) checks the context's two lists: as many inputs
as outputs, and for every output an input whose `stream_index` is the output's
`dst_stream_index`.  The inner loop keeps a `found_mathing_layer` flag:

| input of the output's stream | flag before | result                                  |
| no                           | any         | flag kept                               |
| yes                          | set         | `HAILO_INVALID_HEF` (a second match)    |
| yes                          | clear       | the sizes compared, then the flag set   |

`check_ddr_pairs_match_eq_ok` says what passes: every output has exactly one
input of its stream, agreeing on `core_bytes_per_buffer` and
`total_buffers_per_frame`.  Nothing stops two outputs from naming one input,
so with the sizes equal another input can be left without an output
(`check_ddr_pairs_match_two_outputs_one_input`).
-/

import HailoRT.Hef.LayerInfo

namespace HailoRT
namespace Hef

/-! ### The model -/

/-- One iteration of the inner loop of `check_ddr_pairs_match`, at an input
layer: the new `found_mathing_layer`. -/
def match_ddr_input (ddr_output_layer : DdrLayerInfo) (found_mathing_layer : Bool)
    (ddr_input_layer : DdrLayerInfo) : Except HailoStatus Bool :=
  if ddr_input_layer.stream_index = ddr_output_layer.dst_stream_index then do
    CHECK (!found_mathing_layer) .HAILO_INVALID_HEF
    CHECK (ddr_output_layer.nn_stream_config.core_bytes_per_buffer =
      ddr_input_layer.nn_stream_config.core_bytes_per_buffer) .HAILO_INVALID_HEF
    CHECK (ddr_output_layer.total_buffers_per_frame = ddr_input_layer.total_buffers_per_frame) .HAILO_INVALID_HEF
    return true
  else
    return found_mathing_layer

/-- `HefUtils::check_ddr_pairs_match`; the context index only appears in the
messages. -/
def check_ddr_pairs_match (context_ddr_input_layers context_ddr_output_layers : List DdrLayerInfo)
    (_context_index : Nat) : Except HailoStatus Unit := do
  CHECK (context_ddr_input_layers.length = context_ddr_output_layers.length) .HAILO_INVALID_HEF
  context_ddr_output_layers.forM fun ddr_output_layer => do
    let found_mathing_layer ← context_ddr_input_layers.foldlM (match_ddr_input ddr_output_layer) false
    CHECK found_mathing_layer .HAILO_INVALID_HEF

/-! ### What passes -/

/-- Whether an input layer is of the stream an output layer writes to. -/
def is_ddr_input_of (ddr_output_layer ddr_input_layer : DdrLayerInfo) : Bool :=
  ddr_input_layer.stream_index == ddr_output_layer.dst_stream_index

/-- Whether the two sides of a pair agree on the sizes the check compares. -/
def ddr_sizes_agree (ddr_output_layer ddr_input_layer : DdrLayerInfo) : Prop :=
  ddr_output_layer.nn_stream_config.core_bytes_per_buffer = ddr_input_layer.nn_stream_config.core_bytes_per_buffer ∧
    ddr_output_layer.total_buffers_per_frame = ddr_input_layer.total_buffers_per_frame

/-- The inner loop, from any flag: it keeps the flag when no input is of the
output's stream, and sets a clear flag when exactly one is and agrees. -/
theorem foldlM_match_ddr_input_eq_ok {ddr_output_layer : DdrLayerInfo} :
    ∀ {inputs : List DdrLayerInfo} {found found' : Bool},
      inputs.foldlM (match_ddr_input ddr_output_layer) found = .ok found' ↔
        (inputs.filter (is_ddr_input_of ddr_output_layer) = [] ∧ found' = found) ∨
        (found = false ∧ found' = true ∧ ∃ ddr_input_layer,
          inputs.filter (is_ddr_input_of ddr_output_layer) = [ddr_input_layer] ∧
          ddr_sizes_agree ddr_output_layer ddr_input_layer)
  | [], found, found' => by simp [eq_comm]
  | ddr_input_layer :: inputs, found, found' => by
    rw [List.foldlM_cons, Except.bind_eq_ok, List.filter_cons]
    by_cases hm : ddr_input_layer.stream_index = ddr_output_layer.dst_stream_index
    · have hof : is_ddr_input_of ddr_output_layer ddr_input_layer = true := by simp [is_ddr_input_of, hm]
      simp only [match_ddr_input, hm, if_true, hof, CHECK_bind_eq_ok, Except.pure_eq_ok, Except.ok.injEq,
        reduceCtorEq, false_and, false_or, List.cons.injEq]
      cases found
      · simp only [Bool.not_false, true_and]
        constructor
        · rintro ⟨_, ⟨hb, ht, rfl⟩, h⟩
          rcases foldlM_match_ddr_input_eq_ok.1 h with ⟨hnil, rfl⟩ | ⟨h, -⟩
          · exact ⟨rfl, ddr_input_layer, ⟨rfl, hnil⟩, hb, ht⟩
          · cases h
        · rintro ⟨rfl, _, ⟨rfl, hnil⟩, hb, ht⟩
          exact ⟨true, ⟨hb, ht, rfl⟩, foldlM_match_ddr_input_eq_ok.2 (.inl ⟨hnil, rfl⟩)⟩
      · simp
    · have hof : is_ddr_input_of ddr_output_layer ddr_input_layer = false := by simp [is_ddr_input_of, hm]
      simp only [match_ddr_input, hm, if_false, hof, Except.pure_eq_ok, Except.ok.injEq, exists_eq_left']
      exact foldlM_match_ddr_input_eq_ok

/-- Each iteration fails only with `HAILO_INVALID_HEF`. -/
theorem match_ddr_input_eq_error {ddr_output_layer ddr_input_layer : DdrLayerInfo} {found : Bool}
    {status : HailoStatus} (h : match_ddr_input ddr_output_layer found ddr_input_layer = .error status) :
    status = .HAILO_INVALID_HEF := by
  unfold match_ddr_input at h
  split_ifs at h
  · simp only [CHECK_bind] at h
    split_ifs at h <;> cases h <;> rfl
  · cases h

/-- So does the inner loop. -/
theorem foldlM_match_ddr_input_eq_error {ddr_output_layer : DdrLayerInfo} :
    ∀ {inputs : List DdrLayerInfo} {found : Bool} {status : HailoStatus},
      inputs.foldlM (match_ddr_input ddr_output_layer) found = .error status → status = .HAILO_INVALID_HEF
  | [], _, _, h => by cases h
  | ddr_input_layer :: inputs, found, status, h => by
    rw [List.foldlM_cons] at h
    cases hstep : match_ddr_input ddr_output_layer found ddr_input_layer with
    | error e =>
      rw [hstep] at h
      cases h
      exact match_ddr_input_eq_error hstep
    | ok found' =>
      rw [hstep] at h
      exact foldlM_match_ddr_input_eq_error h

/-- The body of the outer loop, at one output. -/
theorem check_output_eq_ok {inputs : List DdrLayerInfo} {ddr_output_layer : DdrLayerInfo} :
    (do
        let found_mathing_layer ← inputs.foldlM (match_ddr_input ddr_output_layer) false
        CHECK found_mathing_layer .HAILO_INVALID_HEF : Except HailoStatus Unit) = .ok () ↔
      ∃ ddr_input_layer, inputs.filter (is_ddr_input_of ddr_output_layer) = [ddr_input_layer] ∧
        ddr_sizes_agree ddr_output_layer ddr_input_layer := by
  simp [Except.bind_eq_ok, foldlM_match_ddr_input_eq_ok, CHECK_eq_ok]

/-- **What `check_ddr_pairs_match` accepts.**  It succeeds exactly when there
are as many DDR inputs as outputs and every output has exactly one input of
its destination stream, agreeing with it on `core_bytes_per_buffer` and
`total_buffers_per_frame`; every failure is `HAILO_INVALID_HEF`. -/
theorem check_ddr_pairs_match_eq_ok (inputs outputs : List DdrLayerInfo) (context_index : Nat) :
    (check_ddr_pairs_match inputs outputs context_index = .ok () ↔
      inputs.length = outputs.length ∧ ∀ ddr_output_layer ∈ outputs, ∃ ddr_input_layer,
        inputs.filter (is_ddr_input_of ddr_output_layer) = [ddr_input_layer] ∧
        ddr_sizes_agree ddr_output_layer ddr_input_layer) ∧
    ∀ status, check_ddr_pairs_match inputs outputs context_index = .error status → status = .HAILO_INVALID_HEF := by
  refine ⟨by simp only [check_ddr_pairs_match, CHECK_bind_eq_ok, forM_eq_ok, check_output_eq_ok], ?_⟩
  intro status h
  simp only [check_ddr_pairs_match, CHECK_bind] at h
  split_ifs at h
  · obtain ⟨ddr_output_layer, -, h⟩ := exists_of_forM_eq_error h
    cases hfound : inputs.foldlM (match_ddr_input ddr_output_layer) false with
    | error e =>
      rw [hfound] at h
      cases h
      exact foldlM_match_ddr_input_eq_error hfound
    | ok found =>
      rw [hfound, Except.ok_bind, CHECK] at h
      split_ifs at h
      cases h
      rfl
  · cases h
    rfl

/-- A DDR layer of a stream, writing to another, with one of everything else. -/
def ddr_layer (stream_index dst_stream_index : Nat) : DdrLayerInfo :=
  ⟨0, "", 0, "", default, stream_index, 0, 1, .HAILO_H2D_STREAM, 0, 0, 0, dst_stream_index, 0, 0, 0⟩

/-- Two outputs writing to input stream `0` pass the check with inputs of
streams `0` and `1`: no output is paired with the input of stream `1`. -/
theorem check_ddr_pairs_match_two_outputs_one_input :
    check_ddr_pairs_match [ddr_layer 0 0, ddr_layer 1 0] [ddr_layer 2 0, ddr_layer 3 0] 0 = .ok () ∧
      ∀ ddr_output_layer ∈ [ddr_layer 2 0, ddr_layer 3 0],
        ddr_output_layer.dst_stream_index ≠ (ddr_layer 1 0).stream_index := by
  decide

end Hef
end HailoRT
