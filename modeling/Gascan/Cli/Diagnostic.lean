import Gascan.Lib.Bytes

/-!
# `Gascan.Cli.Diagnostic`: the message of a failed login

When the command that logs in to a forge fails, the command line shows one line of its output. The
command may print the token it was given, so `safeNativeDiagnostic` cuts the output to a bound,
drops the start of a token that the bound may have cut, replaces every other occurrence of the
token, and then takes the first line without control characters.
-/

namespace Gascan.Configure

open Lib Lib.Bytes

/-- What a command in the guest printed, and its exit code. -/
structure GuestOutput where
  code : Int
  stdout : List UInt8
  stderr : List UInt8
  deriving DecidableEq

/-- `MAX_RESPONSE_BYTES`. -/
def maxResponseBytes : Nat := 64 * 1024

/-- The text that stands for an occurrence of the secret, between its brackets. -/
def redactedWord : List UInt8 := "REDACTED".toUTF8.toList

/-- `[REDACTED]`. -/
def redactedText : List UInt8 := 91 :: (redactedWord ++ [93])

/-- `suppress_trailing_secret_prefix`: drops the longest proper start of the secret that the input
ends with. -/
def suppressTrailingSecretPrefix (input secret : List UInt8) : List UInt8 :=
  if secret.length ≤ 1 then input
  else
    let maximum := min input.length (secret.length - 1)
    match ((List.range' 1 maximum).reverse).find? fun n => (secret.take n).isSuffixOf input with
    | some n => input.take (input.length - n)
    | none => input

/-- `redact_secret`: replaces the occurrences of the secret from left to right. -/
def redactSecret (input secret : List UInt8) : List UInt8 :=
  if secret.isEmpty then input else replaceFrom secret redactedText 0 input

/-- The line of a stream that is shown: the first one that is not empty, after the secret has been
replaced. -/
def diagnosticLine (stream secret : List UInt8) : Option (List UInt8) :=
  let candidate := stream.take maxResponseBytes
  let candidate := suppressTrailingSecretPrefix candidate secret
  let redacted := redactSecret candidate secret
  (redacted.splitOnP isLineEnd).find? fun line => !line.isEmpty

/-- The message that one stream gives, if it has a line that shows anything. -/
def streamDiagnostic (stream secret : List UInt8) : Option (List Char) :=
  match diagnosticLine stream secret with
  | none => none
  | some line =>
    let diagnostic := (shown (decodeLossy line)).take 240
    if diagnostic.isEmpty then none else some diagnostic

/-- `safe_native_diagnostic`: the errors of the command come before its output. -/
def safeNativeDiagnostic (output : GuestOutput) (secret : List UInt8) : Option (List Char) :=
  (streamDiagnostic output.stderr secret).or (streamDiagnostic output.stdout secret)

end Gascan.Configure
