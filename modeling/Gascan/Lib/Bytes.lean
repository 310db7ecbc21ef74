import Gascan.Lib.Text

/-!
# `Gascan.Lib.Bytes`: byte strings that need not be text

Replacing every occurrence of a part, and reading bytes as UTF-8 with U+FFFD for what is not.
`Masks` relates a text to the characters that show it once control characters are dropped.
`Masks.shown_eq` says that they show it, and `masks_of_shown` finds such characters behind every
text that is shown.
-/

namespace Gascan.Lib.Bytes

open Lib.Text List

/-! ### Replacing -/

section Replace

variable {α : Type} [BEq α]

/-- Replaces the occurrences of `old` from left to right, after the elements that are skipped
because they belong to an occurrence. -/
def replaceFrom (old new : List α) : Nat → List α → List α
  | _, [] => []
  | skip + 1, _ :: l => replaceFrom old new skip l
  | 0, a :: l =>
    if old.isPrefixOf (a :: l) then new ++ replaceFrom old new (old.length - 1) l
    else a :: replaceFrom old new 0 l

end Replace

/-! ### Reading bytes as UTF-8 -/

/-- What is read in the place of bytes that are not UTF-8. -/
def replacement : Char := Char.ofNat 0xfffd

def isContinuation (b : UInt8) : Bool := 0x80 ≤ b.toNat && b.toNat ≤ 0xbf

/-- The range of the second byte in a sequence that begins with the given byte, and the number of
bytes after it. -/
def sequenceOf (lead : Nat) : Option (Nat × Nat × Nat) :=
  if 0xc2 ≤ lead ∧ lead ≤ 0xdf then some (0x80, 0xbf, 0)
  else if lead = 0xe0 then some (0xa0, 0xbf, 1)
  else if lead = 0xed then some (0x80, 0x9f, 1)
  else if 0xe1 ≤ lead ∧ lead ≤ 0xef then some (0x80, 0xbf, 1)
  else if lead = 0xf0 then some (0x90, 0xbf, 2)
  else if 0xf1 ≤ lead ∧ lead ≤ 0xf3 then some (0x80, 0xbf, 2)
  else if lead = 0xf4 then some (0x80, 0x8f, 2)
  else none

/-- The code point of a sequence. -/
def codePoint (lead : UInt8) (tail : List UInt8) : Nat :=
  tail.foldl (fun value b => value * 64 + b.toNat % 64) (lead.toNat % 2 ^ (6 - tail.length))

/-- The first character, and the number of bytes that it takes besides the first. The longest start
of a sequence that is not completed is read as one replacement. -/
def decodeOne (lead : UInt8) (rest : List UInt8) : Char × Nat :=
  if lead.toNat < 0x80 then (Char.ofNat lead.toNat, 0)
  else
    match sequenceOf lead.toNat with
    | none => (replacement, 0)
    | some (low, high, further) =>
      match rest with
      | [] => (replacement, 0)
      | second :: rest =>
        if low ≤ second.toNat ∧ second.toNat ≤ high then
          let more := (rest.take further).takeWhile isContinuation
          if more.length = further then
            (Char.ofNat (codePoint lead (second :: more)), further + 1)
          else (replacement, more.length + 1)
        else (replacement, 0)

/-- Reads bytes after the ones that belong to a character already read. -/
def decodeFrom : Nat → List UInt8 → List Char
  | _, [] => []
  | skip + 1, _ :: bytes => decodeFrom skip bytes
  | 0, lead :: rest => (decodeOne lead rest).1 :: decodeFrom (decodeOne lead rest).2 rest

/-- Reads bytes as UTF-8. -/
def decodeLossy (bytes : List UInt8) : List Char := decodeFrom 0 bytes

/-! ### What is shown without control characters -/

/-- How a character is shown: a tab as a space, another control character not at all. -/
def showChar (c : Char) : Option Char :=
  if c = '\t' then some ' ' else if isControl c then none else some c

/-- A line feed or a carriage return. -/
def isLineEnd (b : UInt8) : Bool := b.toNat = 10 || b.toNat = 13

/-- The text that characters are shown as. -/
def shown (chars : List Char) : List Char := chars.filterMap showChar

/-- A character that is not shown: a control character other than a tab. -/
def isSilent (c : Char) : Bool := c ≠ '\t' && isControl c

/-- A character that is shown as itself and is no space. -/
def isGraphic (c : Char) : Bool := c ≠ '\t' && c ≠ ' ' && !isControl c

/-- The second text is the first one, with silent characters in between. -/
inductive Masks : List Char → List Char → Prop where
  | one (c : Char) : Masks [c] [c]
  | cons (c : Char) {gap text chars : List Char} (hgap : ∀ d ∈ gap, isSilent d = true)
      (h : Masks text chars) : Masks (c :: text) (c :: (gap ++ chars))

theorem showChar_silent {c : Char} (h : isSilent c = true) : showChar c = none := by
  simp only [isSilent, Bool.and_eq_true, decide_eq_true_eq] at h
  rw [showChar, if_neg h.1, if_pos h.2]

theorem showChar_graphic {c : Char} (h : isGraphic c = true) : showChar c = some c := by
  simp only [isGraphic, Bool.and_eq_true, decide_eq_true_eq, Bool.not_eq_true'] at h
  rw [showChar, if_neg h.1.1, if_neg (by simp [h.2])]

/-- A character that is shown as a graphic one is this character. -/
theorem eq_of_showChar {c d : Char} (h : showChar c = some d) (hd : isGraphic d = true) :
    c = d := by
  unfold showChar at h
  split_ifs at h
  · cases h
    cases hd
  · exact Option.some.inj h

theorem isSilent_of_showChar {c : Char} (h : showChar c = none) : isSilent c = true := by
  unfold showChar at h
  split_ifs at h with htab hcontrol
  simp [isSilent, htab, hcontrol]

theorem shown_silent {gap : List Char} (h : ∀ d ∈ gap, isSilent d = true) : shown gap = [] :=
  filterMap_eq_nil_iff.2 fun d hd => showChar_silent (h d hd)

variable {text : List Char}

/-- Characters that mask a text are shown as this text. -/
theorem Masks.shown_eq {w : List Char} (h : Masks text w) (htext : ∀ c ∈ text, isGraphic c = true) :
    shown w = text := by
  induction h with
  | one c => simp [shown, showChar_graphic (htext c (mem_singleton.2 rfl))]
  | cons c hgap h ih =>
    obtain ⟨hc, hrest⟩ := forall_mem_cons.1 htext
    have hshown := ih hrest
    rw [shown, filterMap_cons_some (showChar_graphic hc), filterMap_append]
    exact congrArg (c :: ·) (by rw [← shown, ← shown, shown_silent hgap, hshown, nil_append])

/-- A text at the beginning of what is shown is masked, after characters that are silent. -/
theorem masks_of_shown_append {chars right : List Char} (htext : ∀ c ∈ text, isGraphic c = true)
    (hne : text ≠ []) (h : shown chars = text ++ right) :
    ∃ gap w after, chars = gap ++ w ++ after ∧ (∀ d ∈ gap, isSilent d = true) ∧ Masks text w := by
  induction chars generalizing text with
  | nil => exact absurd (append_eq_nil_iff.1 h.symm).1 hne
  | cons c chars ih =>
    cases hshow : showChar c with
    | none =>
      rw [shown, filterMap_cons_none hshow] at h
      obtain ⟨gap, w, after, rfl, hgap, hw⟩ := ih htext hne h
      exact ⟨c :: gap, w, after, rfl,
        forall_mem_cons.2 ⟨isSilent_of_showChar hshow, hgap⟩, hw⟩
    | some d =>
      obtain ⟨x, text, rfl⟩ := exists_cons_of_ne_nil hne
      obtain ⟨hx, htext'⟩ := forall_mem_cons.1 htext
      rw [shown, filterMap_cons_some hshow, cons_append, List.cons.injEq] at h
      obtain ⟨rfl, hrest⟩ := h
      obtain rfl := eq_of_showChar hshow hx
      by_cases hlast : text = []
      · subst hlast
        exact ⟨[], [c], chars, rfl, nofun, .one c⟩
      · obtain ⟨gap, w, after, rfl, hgap, hw⟩ := ih htext' hlast hrest
        exact ⟨[], c :: (gap ++ w), after, by simp, nofun, .cons c hgap hw⟩

/-- A text in what is shown is masked by a part of the characters, and what is shown before the text
is what stands before this part. -/
theorem masks_of_shown {chars left right : List Char} (htext : ∀ c ∈ text, isGraphic c = true)
    (hne : text ≠ []) (h : shown chars = left ++ (text ++ right)) :
    ∃ before w after, chars = before ++ w ++ after ∧ Masks text w ∧ shown before = left := by
  obtain ⟨start, rest, rfl, hleft, hrest⟩ := filterMap_eq_append_iff.1 h
  obtain ⟨gap, w, after, rfl, hgap, hw⟩ := masks_of_shown_append htext hne hrest
  refine ⟨start ++ gap, w, after, by simp, hw, ?_⟩
  rw [shown, filterMap_append, hleft]
  exact (congrArg (left ++ ·) (shown_silent hgap)).trans (append_nil left)

end Gascan.Lib.Bytes
