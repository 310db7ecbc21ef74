import Gascan.Lib.Text

/-!
# `Gascan.Core.StartupDiagnostic`: messages of a daemon that did not start

`sanitizeMessage` makes a message that the daemon left safe to print: it replaces control characters
and stops when the result has `maxMessageBytes`. The length is tested before a character is
appended, so that a longer character may cross the limit: `sanitizeMessage_bounded_iff`.
-/

namespace Gascan.StartupDiagnostic

open Lib.Text List

/-- `MAX_MESSAGE_BYTES`. -/
def maxMessageBytes : Nat := 4096

/-- The character that is printed for one of the message. -/
def printed (c : Char) : Char :=
  if isControl c || (0x80 ≤ c.toNat && c.toNat ≤ 0x9f) then ' ' else c

/-- The number of bytes of a text. -/
def size (text : List Char) : Nat := (encodeUtf8 text).length

/-- The loop of `sanitize_message`. -/
def sanitizeFrom (sanitized : List Char) : List Char → List Char
  | [] => sanitized
  | c :: cs =>
    if maxMessageBytes ≤ size sanitized then sanitized
    else sanitizeFrom (sanitized ++ [printed c]) cs

/-- `sanitize_message`. -/
def sanitizeMessage (message : List Char) : List Char := sanitizeFrom [] message

theorem isControl_printed (c : Char) : isControl (printed c) = false := by
  unfold printed
  split
  · rfl
  · simp_all

@[simp] theorem size_append (a b : List Char) : size (a ++ b) = size a + size b := by
  simp [size, encodeUtf8]

theorem size_pos {text : List Char} (h : text ≠ []) : 0 < size text := by
  cases text with
  | nil => exact absurd rfl h
  | cons c cs =>
    have hc := c.utf8Size_pos
    simp only [size, encodeUtf8, flatMap_cons, length_append, String.length_utf8EncodeChar]
    omega

/-- What the loop appends: characters up to the first one that finds the limit reached. -/
theorem sanitizeFrom_eq (sanitized message : List Char) :
    ∃ kept, kept <+: message ∧ sanitizeFrom sanitized message = sanitized ++ kept.map printed ∧
      (kept = message ∨ maxMessageBytes ≤ size (sanitized ++ kept.map printed)) ∧
      ∀ before c, before ++ [c] = kept →
        size (sanitized ++ before.map printed) < maxMessageBytes := by
  induction message generalizing sanitized with
  | nil => exact ⟨[], nil_prefix, (append_nil _).symm, .inl rfl, by simp⟩
  | cons c cs ih =>
    unfold sanitizeFrom
    split
    next h => exact ⟨[], nil_prefix, (append_nil _).symm, .inr (by simpa using h), by simp⟩
    next h =>
      obtain ⟨kept, hprefix, heq, hstop, hbelow⟩ := ih (sanitized ++ [printed c])
      refine ⟨c :: kept, by simpa using hprefix, by simpa using heq, by simpa using hstop, ?_⟩
      intro before last hlast
      cases before with
      | nil => simpa using h
      | cons d before =>
        obtain ⟨rfl, hkept⟩ := cons.inj hlast
        simpa using hbelow before last hkept

/-- The message is cut at the limit exactly when no character of it crosses the limit. -/
theorem sanitizeMessage_bounded_iff (message : List Char) :
    (size (sanitizeMessage message) ≤ maxMessageBytes ∧
        (∀ c ∈ sanitizeMessage message, isControl c = false) ∧
        ∃ kept, kept <+: message ∧ sanitizeMessage message = kept.map printed ∧
          ∀ longer, longer <+: message → size (longer.map printed) ≤ maxMessageBytes →
            longer <+: kept) ↔
      ∀ before c, before ++ [c] <+: message → size (before.map printed) < maxMessageBytes →
        size ((before ++ [c]).map printed) ≤ maxMessageBytes := by
  have hmono {a b : List Char} (h : a <+: b) : size (a.map printed) ≤ size (b.map printed) := by
    obtain ⟨rest, rfl⟩ := h
    simp
  obtain ⟨kept, hprefix, heq, hstop, hbelow⟩ := sanitizeFrom_eq [] message
  simp only [nil_append] at heq hstop hbelow
  have hmessage : sanitizeMessage message = kept.map printed := heq
  rw [hmessage]
  constructor
  · rintro ⟨hsize, -, -⟩ before c hcut hbefore
    rcases prefix_or_prefix_of_prefix hcut hprefix with hshort | hlong
    · exact Nat.le_trans (hmono hshort) hsize
    · rcases prefix_concat_iff.1 hlong with rfl | hshort
      · exact hsize
      · -- The loop stopped within the limit, so that it has read the whole message.
        have hkept := hmono hshort
        rcases hstop with rfl | hlimit
        · exact Nat.le_trans (hmono hcut) hsize
        · omega
  · intro hcross
    have hsize : size (kept.map printed) ≤ maxMessageBytes := by
      rcases eq_nil_or_concat' kept with rfl | ⟨before, c, rfl⟩
      · exact Nat.zero_le _
      · exact hcross before c hprefix (hbelow before c rfl)
    refine ⟨hsize, by simp [isControl_printed], kept, hprefix, rfl, ?_⟩
    intro longer hlonger hfits
    rcases hstop with rfl | hlimit
    · exact hlonger
    · -- The limit is reached, so that one more character does not fit.
      rcases prefix_or_prefix_of_prefix hlonger hprefix with hshort | ⟨rest, rfl⟩
      · exact hshort
      · by_cases hrest : rest = []
        · simp [hrest]
        · have hpos := size_pos (mt map_eq_nil_iff.1 hrest : rest.map printed ≠ [])
          simp only [map_append, size_append] at hfits
          omega

/-- The last character of a message crosses the limit. -/
theorem sanitizeMessage_too_long :
    size (sanitizeMessage (replicate 4095 'a' ++ ['é'])) = 4097 := by
  decide +kernel

end Gascan.StartupDiagnostic
