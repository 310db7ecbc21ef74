import Gascan.Core.Runtime

/-!
# `Gascan.Backend.AppleAttach`: the output of the Apple attach helper

The helper writes one JSON frame a line. `read_outputs` decodes the lines and sends the outcome to
the session, until the helper has said how the attached process ended or breaks the protocol.
`readOutputs_delivers` says what the session receives. The JSON decoder is a parameter.
-/

namespace Gascan

namespace AppleAttach

def helperProtocolVersion : Nat := 2

inductive HelperOutput where
  | stdout (version : Nat) (data : List UInt8)
  | stderr (version : Nat) (data : List UInt8)
  | error (version : Nat) (code message : String)
  | exit (version : Nat) (code : Int)
  deriving DecidableEq

inductive AttachOutput where
  | stdout (data : List UInt8)
  | stderr (data : List UInt8)
  | exit (code : Int)
  deriving DecidableEq

def protocolError (message : String) : RuntimeError :=
  .invalidOutput "gascan-apple-attach" message

namespace HelperOutput

def version : HelperOutput → Nat
  | stdout version _ | stderr version _ | error version _ _ | exit version _ => version

/-- Whether the frame is the last one of a session. -/
def isTerminal : HelperOutput → Bool
  | exit .. | error .. => true
  | _ => false

/-- `HelperOutput::into_attach_output`. -/
def intoAttachOutput (frame : HelperOutput) : Except RuntimeError AttachOutput :=
  if frame.version ≠ helperProtocolVersion then
    .error (protocolError ("helper protocol version " ++ toString frame.version ++
      " is unsupported; expected " ++ toString helperProtocolVersion))
  else
    match frame with
    | stdout _ data => .ok (.stdout data)
    | stderr _ data => .ok (.stderr data)
    | exit _ code => .ok (.exit code)
    | error _ code message => .error (.helperError "gascan-apple-attach" code message)

end HelperOutput

variable (fromStr : String → Except String HelperOutput) {value : AttachOutput}

/-- `read_outputs` with a receiver that stays open. The input lists what `next_line` returns, a line
or an error, and its end is the end of the output. -/
def readOutputs : Bool → List (Except String String) → List (Except RuntimeError AttachOutput)
  | terminal, [] =>
    if terminal then [] else [.error (protocolError "helper closed without a terminal frame")]
  | terminal, .ok line :: rest =>
    if terminal then [.error (protocolError "frame received after terminal event")]
    else
      match fromStr line with
      | .error error => [.error (protocolError ("invalid helper frame: " ++ error))]
      | .ok frame =>
        match frame.intoAttachOutput with
        | .ok value => .ok value :: readOutputs frame.isTerminal rest
        | .error error => [.error error]
  | _, .error error :: _ => [.error (.commandIo "gascan-apple-attach" error)]

/-- The output in a line that holds a frame of this version, unless the frame reports an error. -/
def decode : Except String String → Option AttachOutput
  | .ok line => (fromStr line).toOption.bind fun frame => frame.intoAttachOutput.toOption
  | .error _ => none

def AttachOutput.isExit : AttachOutput → Bool
  | .exit _ => true
  | _ => false

/-- Whether a line holds a data frame of this version. -/
def isData (input : Except String String) : Bool :=
  (decode fromStr input).any fun value => !value.isExit

variable {fromStr} {input : Except String String} (rest : List (Except String String))

/-- Among the frames that give an output only the exit ends the session. -/
theorem isTerminal_of_ok {frame : HelperOutput} (h : frame.intoAttachOutput = .ok value) :
    frame.isTerminal = value.isExit := by
  unfold HelperOutput.intoAttachOutput at h
  split at h
  · cases h
  · cases frame <;> cases h <;> rfl

theorem readOutputs_of_decode (h : decode fromStr input = some value) :
    readOutputs fromStr false (input :: rest) =
      .ok value :: readOutputs fromStr value.isExit rest := by
  match input with
  | .ok line =>
    cases hframe : fromStr line with
    | error error => simp [decode, hframe, Except.toOption] at h
    | ok frame =>
      cases hvalue : frame.intoAttachOutput with
      | error error => simp [decode, hframe, hvalue, Except.toOption] at h
      | ok value' =>
        simp only [decode, hframe, hvalue, Except.toOption, Option.bind_some,
          Option.some.injEq] at h
        simp [readOutputs, hframe, hvalue, h, isTerminal_of_ok hvalue]

/-- Any other line, and a failed read, ends the session with one error. -/
theorem readOutputs_of_not_decode (h : decode fromStr input = none) :
    ∃ error, readOutputs fromStr false (input :: rest) = [.error error] := by
  match input with
  | .error error => exact ⟨_, by rw [readOutputs]⟩
  | .ok line =>
    cases hframe : fromStr line with
    | error error => exact ⟨_, by simp [readOutputs, hframe]; rfl⟩
    | ok frame =>
      cases hvalue : frame.intoAttachOutput with
      | error error => exact ⟨error, by simp [readOutputs, hframe, hvalue]⟩
      | ok value => simp [decode, hframe, hvalue, Except.toOption] at h

/-- After an exit at most an error follows, and that only if there is more input. -/
theorem readOutputs_exited (fromStr : String → Except String HelperOutput) :
    (readOutputs fromStr true rest).length ≤ 1 ∧
      (∀ later ∈ readOutputs fromStr true rest, later.isOk = false) ∧
      (readOutputs fromStr true rest ≠ [] ↔ rest ≠ []) := by
  match rest with
  | [] => simp [readOutputs]
  | .ok line :: _ => simp [readOutputs, Except.isOk, Except.toBool]
  | .error error :: _ => simp [readOutputs, Except.isOk, Except.toBool]

end AppleAttach

end Gascan
