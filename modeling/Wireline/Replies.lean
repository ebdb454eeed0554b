import Wireline.Protocol.Messages

namespace Wireline

/-!
# What a call makes of the frame it has read

`send_data` returns the payload of the frame, the other calls return the frame
itself.  An ERROR stands for a request that failed: it is to be raised with
the code it carries, and a payload is a result only if it came in a DATA.
-/

inductive CallResult
  | frame (frame : Frame)
  | payload (payload : Bytes)

/-- A call that has read this frame ends as the type of the frame demands: an
ERROR is raised as a `ProtocolError`, with the code that is read from it. -/
structure Classifies (runtime : Runtime) (frame : Frame) (result : Except PyError CallResult) :
    Prop where
  report : frame.msgType = .error -> ∃ error : ProtocolError,
    result = .error (.protocolError error) ∧ forall code message,
      decodeError runtime frame.payload = .ok (code, message) -> error.code = code
  data : forall payload, result = .ok (.payload payload) ->
    frame.msgType = .data ∧ payload = frame.payload

variable {runtime : Runtime} {frame : Frame}

theorem classifies_frame_iff :
    Classifies runtime frame (.ok (.frame frame)) <-> frame.msgType ≠ .error := by
  constructor
  · intro classifies report
    rcases classifies.report report with ⟨error, raised, _⟩
    cases raised
  · intro other
    refine ⟨fun report => absurd report other, ?_⟩
    rintro payload ⟨⟩

theorem classifies_payload_iff :
    Classifies runtime frame (.ok (.payload frame.payload)) <-> frame.msgType = .data := by
  constructor
  · intro classifies
    exact (classifies.data _ rfl).1
  · intro kind
    have other : frame.msgType ≠ .error := by
      rw [kind]
      decide
    refine ⟨fun report => absurd report other, ?_⟩
    rintro payload ⟨⟩
    exact ⟨kind, rfl⟩

/-- The exception that the decoder raises or describes is right for an ERROR,
unless the payload is one that `json.loads` or `str` cannot cope with. -/
theorem classifies_report_iff (report : frame.msgType = .error) {raised : PyError}
    (describes : match decodeError runtime frame.payload with
      | .error failure => raised = failure
      | .ok (code, message) => raised = .protocolError ⟨code, message⟩) :
    Classifies runtime frame (.error raised) <->
      ¬ (runtime.Unloadable frame.payload ∨ runtime.Unprintable frame.payload) := by
  rw [← decodeError_unhandled_iff]
  constructor
  · rintro classifies ⟨failure, decoded, unhandled⟩
    rcases classifies.report report with ⟨error, same, _⟩
    rw [decoded] at describes
    exact unhandled error (describes.symm.trans (Except.error.inj same))
  · intro handled
    refine ⟨fun _ => ?_, by rintro payload ⟨⟩⟩
    cases decoded : decodeError runtime frame.payload with
    | ok fields =>
        rw [decoded] at describes
        refine ⟨⟨fields.1, fields.2⟩, congrArg Except.error describes, ?_⟩
        rintro code message ⟨⟩
        rfl
    | error failure =>
        rw [decoded] at describes
        have expected : ∃ error, failure = .protocolError error := by
          by_contra other
          exact handled ⟨failure, decoded, fun error same => other ⟨error, same⟩⟩
        rcases expected with ⟨error, rfl⟩
        exact ⟨error, congrArg Except.error describes, by rintro code message ⟨⟩⟩

end Wireline
