import Mathlib.Algebra.Ring.Nat
import Mathlib.Data.List.Basic

/-!
# `Gascan.Lib.Text`: searching and splitting text, and base64

Text is a list of characters, so that every function recurses on it and evaluates. There are the
first occurrence of a separator, the last index of a character, and the fields between separators.
`decodeBase64` is the strict decoder for the standard alphabet: whole groups of four, padding only
at the end, and no stray bits under the padding.
-/

namespace Gascan.Lib.Text

open List

/-- Splits at the first occurrence of `sep`, which belongs to neither part. -/
def splitOnce (sep : List Char) : List Char → Option (List Char × List Char)
  | [] => if sep.isEmpty then some ([], []) else none
  | c :: cs =>
    if sep.isPrefixOf (c :: cs) then some ([], (c :: cs).drop sep.length)
    else (splitOnce sep cs).map fun (left, right) => (c :: left, right)

variable {c : Char} {left right text rest field : List Char}

/-- A text is split where the separator first begins. -/
theorem splitOnce_append {sep : List Char} (h : c ∉ left) :
    splitOnce (c :: sep) (left ++ (c :: sep) ++ right) = some (left, right) := by
  induction left with
  | nil => simp [splitOnce]
  | cons d ds ih =>
    rw [mem_cons, not_or] at h
    have hne : (c == d) = false := by simpa using h.1
    rw [cons_append, cons_append, splitOnce, ih h.2]
    simp [List.isPrefixOf, hne]

/-- What is split off, the separator and the rest are the text. -/
theorem eq_of_splitOnce {sep : List Char} (h : splitOnce sep text = some (left, right)) :
    text = left ++ sep ++ right := by
  induction text generalizing left with
  | nil =>
    simp only [splitOnce] at h
    split at h
    next hsep =>
      cases h
      rw [List.isEmpty_iff.1 hsep]
      rfl
    · cases h
  | cons c cs ih =>
    simp only [splitOnce] at h
    split at h
    next hsep =>
      cases h
      obtain ⟨rest, hrest⟩ := isPrefixOf_iff_prefix.1 hsep
      rw [← hrest, drop_left, nil_append]
    · obtain ⟨⟨first, rest⟩, hsplit, h⟩ := Option.map_eq_some_iff.1 h
      cases h
      rw [ih hsplit, cons_append, cons_append]

theorem dropPrefix?_eq_some {start : List Char} :
    text.dropPrefix? start = some rest ↔ text = start ++ rest := by
  rw [dropPrefix?_eq_some_iff]
  constructor
  · rintro ⟨found, rfl, hfound⟩
    rw [beq_iff_eq.1 hfound]
  · rintro rfl
    exact ⟨start, rfl, beq_self_eq_true start⟩

/-- The index of the last occurrence of `c`. -/
def lastIndexOf (c : Char) : List Char → Option Nat
  | [] => none
  | d :: ds =>
    match lastIndexOf c ds with
    | some i => some (i + 1)
    | none => if d = c then some 0 else none

theorem lastIndexOf_append (h : c ∉ right) :
    lastIndexOf c (left ++ c :: right) = some left.length := by
  have hnone : lastIndexOf c right = none := by
    induction right with
    | nil => rfl
    | cons d ds ih =>
      rw [mem_cons, not_or] at h
      simp [lastIndexOf, ih h.2, Ne.symm h.1]
  induction left with
  | nil => simp [lastIndexOf, hnone]
  | cons d ds ih => simp [lastIndexOf, ih]

theorem lastIndexOf_eq_none : lastIndexOf c text = none ↔ c ∉ text := by
  induction text with
  | nil => simp [lastIndexOf]
  | cons d ds ih =>
    rw [mem_cons, not_or, ← ih, lastIndexOf]
    cases lastIndexOf c ds with
    | some i => simp
    | none => simp [eq_comm]

/-- An occurrence in the second part is the later one. -/
theorem lastIndexOf_append_eq (c : Char) (left right : List Char) :
    lastIndexOf c (left ++ right) =
      match lastIndexOf c right with
      | some i => some (left.length + i)
      | none => lastIndexOf c left := by
  induction left with
  | nil => cases hright : lastIndexOf c right <;> simp [lastIndexOf, hright]
  | cons d ds ih =>
    rw [cons_append, lastIndexOf, ih]
    cases lastIndexOf c right with
    | some i =>
      simp only [length_cons, Option.some.injEq]
      omega
    | none => rfl

theorem lt_length_of_lastIndexOf {i : Nat} (h : lastIndexOf c text = some i) : i < text.length := by
  induction text generalizing i with
  | nil => cases h
  | cons d ds ih =>
    rw [lastIndexOf] at h
    cases hds : lastIndexOf c ds with
    | some j =>
      simp only [hds, Option.some.injEq] at h
      have := ih hds
      rw [length_cons]
      omega
    | none =>
      simp only [hds] at h
      split at h
      · cases h
        simp
      · cases h

/-- A text is split at the last occurrence of a character. -/
theorem exists_of_mem_last (h : c ∈ text) :
    ∃ left right, text = left ++ c :: right ∧ c ∉ right := by
  obtain ⟨left, right, hsplit, hright⟩ := eq_append_cons_of_mem (mem_reverse.2 h)
  refine ⟨right.reverse, left.reverse, ?_, by simpa using hright⟩
  rw [← reverse_reverse text, hsplit]
  simp

/-- The fields between the occurrences of `sep`. There is always at least one. -/
def splitOn (sep : Char) : List Char → List (List Char)
  | [] => [[]]
  | c :: cs =>
    match splitOn sep cs with
    | [] => [[c]]
    | field :: fields => if c = sep then [] :: field :: fields else (c :: field) :: fields

theorem splitOn_ne_nil (sep : Char) (text : List Char) : splitOn sep text ≠ [] := by
  cases text with
  | nil => simp [splitOn]
  | cons c cs =>
    rw [splitOn]
    split
    · simp
    · split <;> simp

variable {sep : Char} {n : Nat}

theorem splitOn_append (h : sep ∉ field) :
    splitOn sep (field ++ sep :: rest) = field :: splitOn sep rest := by
  induction field with
  | nil =>
    rw [nil_append, splitOn]
    cases hrest : splitOn sep rest with
    | nil => exact absurd hrest (splitOn_ne_nil sep rest)
    | cons first others => simp
  | cons c cs ih =>
    rw [mem_cons, not_or] at h
    rw [cons_append, splitOn, ih h.2]
    exact if_neg (Ne.symm h.1)

theorem splitOn_eq_singleton (h : sep ∉ field) : splitOn sep field = [field] := by
  induction field with
  | nil => rfl
  | cons c cs ih =>
    rw [mem_cons, not_or] at h
    rw [splitOn, ih h.2]
    exact if_neg (Ne.symm h.1)

theorem splitOn_append_last (h : sep ∉ field) :
    splitOn sep (text ++ sep :: field) = splitOn sep text ++ [field] := by
  induction text with
  | nil => rw [splitOn_append not_mem_nil, splitOn_eq_singleton h]; rfl
  | cons c cs ih =>
    rw [cons_append, splitOn, ih, splitOn]
    cases hcs : splitOn sep cs with
    | nil => exact absurd hcs (splitOn_ne_nil sep cs)
    | cons first others => by_cases hc : c = sep <;> simp [hc]

theorem mem_field_of_mem (h : c ∈ text) : c = sep ∨ ∃ field ∈ splitOn sep text, c ∈ field := by
  induction text with
  | nil => cases h
  | cons d ds ih =>
    cases hds : splitOn sep ds with
    | nil => exact absurd hds (splitOn_ne_nil sep ds)
    | cons first others =>
      rw [hds] at ih
      simp only [splitOn, hds]
      by_cases hd : d = sep
      · rw [if_pos hd]
        rcases mem_cons.1 h with rfl | h
        · exact .inl hd
        · exact (ih h).imp_right fun ⟨field, hfield, hc⟩ =>
            ⟨field, mem_cons_of_mem _ hfield, hc⟩
      · rw [if_neg hd]
        rcases mem_cons.1 h with rfl | h
        · exact .inr ⟨_, mem_cons_self .., mem_cons_self ..⟩
        · refine (ih h).imp_right fun ⟨field, hfield, hc⟩ => ?_
          rcases mem_cons.1 hfield with rfl | hfield
          · exact ⟨_, mem_cons_self .., mem_cons_of_mem _ hc⟩
          · exact ⟨field, mem_cons_of_mem _ hfield, hc⟩

/-- A line without the carriage return that may stand at its end. -/
def stripReturn (line : List Char) : List Char :=
  if line.getLast? = some '\r' then line.dropLast else line

/-- The lines of a text whose first line begins with `start`. -/
def linesFrom (start : List Char) : List Char → List (List Char)
  | [] => if start.isEmpty then [] else [start]
  | c :: cs =>
    if c = '\n' then stripReturn start :: linesFrom [] cs else linesFrom (start ++ [c]) cs

/-- The lines of a text. The end of the last line is optional. -/
def lines (text : List Char) : List (List Char) := linesFrom [] text

theorem lines_append {line : List Char} (hline : '\n' ∉ line) (hreturn : '\r' ∉ line) :
    lines (line ++ '\n' :: rest) = line :: lines rest := by
  -- The induction is on what is left of the line, and `start` is what was read of it.
  have hfrom : ∀ start left : List Char, '\n' ∉ left → '\r' ∉ start ++ left →
      linesFrom start (left ++ '\n' :: rest) = (start ++ left) :: lines rest := by
    intro start left
    induction left generalizing start with
    | nil =>
      intro _ hr
      rw [append_nil] at hr ⊢
      have hlast : start.getLast? ≠ some '\r' := fun h => hr (mem_of_getLast? h)
      simp [linesFrom, stripReturn, hlast, lines]
    | cons c cs ih =>
      intro hn hr
      rw [mem_cons, not_or] at hn
      rw [cons_append, linesFrom, if_neg (Ne.symm hn.1),
        ih (start ++ [c]) hn.2 (by simpa using hr)]
      simp
  exact hfrom [] line hline hreturn

/-- The size of a text in bytes. -/
def byteLength (text : List Char) : Nat := (text.map Char.utf8Size).sum

@[simp] theorem byteLength_append (left right : List Char) :
    byteLength (left ++ right) = byteLength left + byteLength right := by
  simp [byteLength]

/-- Splits off a number of bytes at the end of a text, if a character begins there. -/
def splitBytesAtEnd (bytes : Nat) : List Char → Option (List Char × List Char)
  | [] => if bytes = 0 then some ([], []) else none
  | c :: cs =>
    if byteLength (c :: cs) = bytes then some ([], c :: cs)
    else (splitBytesAtEnd bytes cs).map fun (left, right) => (c :: left, right)

theorem splitBytesAtEnd_eq_some {bytes : Nat}
    (h : splitBytesAtEnd bytes text = some (left, right)) :
    left ++ right = text ∧ byteLength right = bytes := by
  induction text generalizing left with
  | nil =>
    simp only [splitBytesAtEnd] at h
    split at h
    next hzero =>
      cases h
      exact ⟨rfl, hzero.symm⟩
    · cases h
  | cons c cs ih =>
    simp only [splitBytesAtEnd] at h
    split at h
    next hbytes =>
      cases h
      exact ⟨rfl, hbytes⟩
    · obtain ⟨⟨left', right'⟩, hsplit, heq⟩ := Option.map_eq_some_iff.1 h
      cases heq
      obtain ⟨happend, hlength⟩ := ih hsplit
      exact ⟨by rw [cons_append, happend], hlength⟩

/-- The split is found wherever a character begins. -/
theorem splitBytesAtEnd_append (left right : List Char) :
    splitBytesAtEnd (byteLength right) (left ++ right) = some (left, right) := by
  induction left with
  | nil => cases right <;> simp [splitBytesAtEnd, byteLength]
  | cons c cs ih =>
    -- A longer suffix has more bytes, so the search goes on to `cs`.
    have hlong : byteLength (c :: (cs ++ right)) ≠ byteLength right := by
      have hc := Char.utf8Size_pos c
      rw [← singleton_append, byteLength_append, byteLength_append]
      simp only [byteLength, map_cons, map_nil, sum_cons, sum_nil]
      omega
    rw [cons_append, splitBytesAtEnd, if_neg hlong, ih]
    rfl

/-- Whether `pair` occurs somewhere in the text. -/
def containsPair (a b : Char) : List Char → Bool
  | c :: d :: cs => (c = a && d = b) || containsPair a b (d :: cs)
  | _ => false

/-- A lowercase ASCII letter. -/
def isLower (c : Char) : Bool := 'a' ≤ c && c ≤ 'z'

/-- An ASCII digit. -/
def isDigit (c : Char) : Bool := '0' ≤ c && c ≤ '9'

/-- An ASCII letter of either case. -/
def isAlpha (c : Char) : Bool := isLower c || ('A' ≤ c && c ≤ 'Z')

/-- A lowercase hexadecimal digit. -/
def isLowerHex (c : Char) : Bool := isDigit c || ('a' ≤ c && c ≤ 'f')

/-- ASCII whitespace: space, tab, line feed, form feed and carriage return. -/
def isSpace (c : Char) : Bool :=
  c = ' ' || c = '\t' || c = '\n' || c = '\x0c' || c = '\r'

/-- Unicode whitespace. -/
def isWhitespace (c : Char) : Bool :=
  let n := c.toNat
  (9 ≤ n && n ≤ 13) || n = 0x20 || n = 0x85 || n = 0xa0 || n = 0x1680 ||
    (0x2000 ≤ n && n ≤ 0x200a) || n = 0x2028 || n = 0x2029 || n = 0x202f || n = 0x205f ||
    n = 0x3000

/-- A control character: the C0 and C1 ranges and delete. -/
def isControl (c : Char) : Bool := c.toNat < 32 || (127 ≤ c.toNat && c.toNat < 160)

/-- The fields between runs of ASCII whitespace, without empty ones. -/
def fields : List Char → List (List Char)
  | [] => []
  | c :: cs =>
    if isSpace c then fields cs
    else
      match cs with
      | [] => [[c]]
      | d :: _ =>
        if isSpace d then [c] :: fields cs
        else
          match fields cs with
          | [] => [[c]]
          | field :: rest => (c :: field) :: rest

theorem fields_cons_space (cs : List Char) (hc : isSpace c = true) :
    fields (c :: cs) = fields cs := by
  cases cs <;> simp [fields, hc]

theorem fields_cons_cons {d : Char} (ds : List Char) (hc : isSpace c = false)
    (hd : isSpace d = false) :
    ∃ field rest, fields (d :: ds) = field :: rest ∧
      fields (c :: d :: ds) = (c :: field) :: rest := by
  induction ds generalizing c d with
  | nil => exact ⟨[d], [], by simp [fields, hd], by simp [fields, hc, hd]⟩
  | cons e es ih =>
    by_cases he : isSpace e = true
    · have hfirst : fields (d :: e :: es) = [d] :: fields (e :: es) := by
        rw [fields]
        simp [hd, he]
      exact ⟨[d], fields (e :: es), hfirst, by rw [fields]; simp [hc, hd, hfirst]⟩
    · obtain ⟨field, rest, _, hfields⟩ := ih hd (by simpa using he)
      exact ⟨d :: field, rest, hfields, by rw [fields]; simp [hc, hd, hfields]⟩

theorem fields_append_of (hne : field ≠ []) (hfield : ∀ c ∈ field, isSpace c = false)
    (hrest : ∀ s ∈ rest.head?, isSpace s = true) :
    fields (field ++ rest) = field :: fields rest := by
  induction field with
  | nil => exact absurd rfl hne
  | cons c cs ih =>
    have hc : isSpace c = false := hfield c mem_cons_self
    cases cs with
    | nil => cases rest <;> simp_all [fields]
    | cons d ds =>
      have hd : isSpace d = false := hfield d (mem_cons_of_mem c mem_cons_self)
      have hrec := ih (cons_ne_nil d ds) fun c hc => hfield c (mem_cons_of_mem _ hc)
      rw [cons_append] at hrec ⊢
      rw [cons_append, fields]
      simp [hc, hd, hrec]

theorem fields_append {s : Char} (hne : field ≠ []) (hfield : ∀ c ∈ field, isSpace c = false)
    (hs : isSpace s = true) : fields (field ++ s :: rest) = field :: fields rest := by
  rw [fields_append_of hne hfield (by simp [hs]), fields_cons_space rest hs]

theorem fields_eq_singleton (hne : field ≠ []) (hfield : ∀ c ∈ field, isSpace c = false) :
    fields field = [field] := by
  rw [← append_nil field, fields_append_of hne hfield (by simp), append_nil, fields]

/-- The first field of a text, and the text that the other fields are in. -/
theorem fields_eq_cons {rest : List (List Char)} (h : fields text = field :: rest) :
    ∃ before after, text = before ++ field ++ after ∧ (∀ c ∈ before, isSpace c = true) ∧
      field ≠ [] ∧ (∀ c ∈ field, isSpace c = false) ∧ fields after = rest ∧
      ∀ s ∈ after.head?, isSpace s = true := by
  induction text generalizing field rest with
  | nil => cases h
  | cons c cs ih =>
    by_cases hc : isSpace c = true
    · rw [fields_cons_space cs hc] at h
      obtain ⟨before, after, rfl, hbefore, hfield⟩ := ih h
      exact ⟨c :: before, after, rfl, forall_mem_cons.2 ⟨hc, hbefore⟩, hfield⟩
    · have hc : isSpace c = false := by simpa using hc
      cases cs with
      | nil =>
        simp only [fields, hc, Bool.false_eq_true, if_false] at h
        cases h
        exact ⟨[], [], rfl, nofun, nofun, by simpa using hc, rfl, nofun⟩
      | cons d ds =>
        by_cases hd : isSpace d = true
        · have hfields : fields (c :: d :: ds) = [c] :: fields (d :: ds) := by
            rw [fields]
            simp [hc, hd]
          rw [hfields] at h
          cases h
          exact ⟨[], d :: ds, rfl, nofun, nofun, by simpa using hc, rfl, by simpa using hd⟩
        · obtain ⟨first, others, hrest, hfields⟩ := fields_cons_cons ds hc (by simpa using hd)
          rw [hfields] at h
          cases h
          obtain ⟨before, after, htext, hbefore, _, hfield, hafter, hhead⟩ := ih hrest
          -- The first field begins where the text does, because `d` is no space.
          cases before with
          | nil =>
            exact ⟨[], after, by rw [htext]; rfl, nofun, nofun,
              forall_mem_cons.2 ⟨hc, hfield⟩, hafter, hhead⟩
          | cons s ss =>
            cases htext
            exact absurd (hbefore d mem_cons_self) hd

/-! ### Decimal numbers -/

/-- Reads an unsigned number below a bound: an optional plus sign, then digits. -/
def parseUnsigned (bound : Nat) (text : List Char) : Option Nat :=
  let digits := if text.head? = some '+' then text.drop 1 else text
  if digits.isEmpty || !digits.all Char.isDigit then none
  else
    let value := Nat.ofDigitChars 10 digits 0
    if value < bound then some value else none

theorem parseUnsigned_toDigits {bound : Nat} (h : n < bound) :
    parseUnsigned bound (Nat.toDigits 10 n) = some n := by
  have hdigits : (Nat.toDigits 10 n).all Char.isDigit = true := by
    rw [all_eq_true]
    exact fun c hc => Nat.isDigit_of_mem_toDigits (by decide) (by decide) hc
  have hplus : (Nat.toDigits 10 n).head? ≠ some '+' := by
    intro hhead
    have hmem := mem_of_head? hhead
    have hdigit := all_eq_true.1 hdigits '+' hmem
    exact absurd hdigit (by decide)
  have hnonempty : (Nat.toDigits 10 n).isEmpty = false := by
    simp [Nat.toDigits_ne_nil]
  unfold parseUnsigned
  simp only [hplus, if_false, hnonempty, hdigits, Bool.not_true, Bool.or_false,
    Bool.false_eq_true, Nat.ofDigitChars_ten_toDigits, h, if_true]

theorem length_toDigits_le (h : n < 2 ^ 64) : (Nat.toDigits 10 n).length ≤ 20 :=
  (Nat.length_toDigits_le_iff (by decide) (by decide)).2 (Nat.lt_trans h (by decide))

theorem not_mem_toDigits (hc : c.isDigit = false) : c ∉ Nat.toDigits 10 n := by
  intro hmem
  have hdigit := Nat.isDigit_of_mem_toDigits (by decide) (by decide) hmem
  rw [hc] at hdigit
  exact Bool.noConfusion hdigit

/-! ### Hexadecimal -/

/-- Lowercase hexadecimal. -/
def hexLower (bytes : List Nat) : String :=
  String.ofList (bytes.flatMap fun b => [Nat.digitChar (b / 16), Nat.digitChar (b % 16)])

theorem isLowerHex_digitChar (h : n < 16) : isLowerHex (Nat.digitChar n) = true := by
  revert n
  decide

theorem length_hexLower (bytes : List Nat) :
    (hexLower bytes).toList.length = 2 * bytes.length := by
  rw [hexLower, String.toList_ofList]
  induction bytes with
  | nil => rfl
  | cons b bytes ih =>
    rw [flatMap_cons, length_append, ih, length_cons, length_cons,
      length_cons, length_nil]
    omega

theorem isLowerHex_hexLower {bytes : List Nat} (h : ∀ b ∈ bytes, b < 256) :
    (hexLower bytes).toList.all isLowerHex = true := by
  rw [hexLower, String.toList_ofList, all_eq_true]
  intro c hc
  obtain ⟨b, hb, hc⟩ := mem_flatMap.1 hc
  have hb := h b hb
  simp only [mem_cons, not_mem_nil, or_false] at hc
  rcases hc with rfl | rfl
  · exact isLowerHex_digitChar (by omega)
  · exact isLowerHex_digitChar (by omega)

/-! ### UTF-8 -/

/-- The bytes of a text. -/
def encodeUtf8 (text : List Char) : List UInt8 := text.flatMap String.utf8EncodeChar

/-- The text that bytes encode. -/
def decodeUtf8 (bytes : List UInt8) : Option (List Char) :=
  bytes.toByteArray.utf8Decode?.map Array.toList

theorem decodeUtf8_encodeUtf8 (text : List Char) : decodeUtf8 (encodeUtf8 text) = some text := by
  show text.utf8Encode.utf8Decode?.map Array.toList = some text
  rw [utf8Decode?_utf8Encode]
  rfl

/-! ### Base64 -/

/-- The character of the standard alphabet for six bits. -/
def base64Digit (n : Nat) : Char :=
  if n < 26 then Char.ofNat (n + 65)
  else if n < 52 then Char.ofNat (n + 71)
  else if n < 62 then Char.ofNat (n - 4)
  else if n = 62 then '+'
  else '/'

/-- Encodes byte values without padding. -/
def encodeBase64NoPad : List Nat → List Char
  | [] => []
  | [a] => [base64Digit (a / 4), base64Digit (a % 4 * 16)]
  | [a, b] =>
    [base64Digit (a / 4), base64Digit (a % 4 * 16 + b / 16), base64Digit (b % 16 * 4)]
  | a :: b :: c :: rest =>
    [base64Digit (a / 4), base64Digit (a % 4 * 16 + b / 16), base64Digit (b % 16 * 4 + c / 64),
      base64Digit (c % 64)] ++ encodeBase64NoPad rest

/-- The six bits a character of the standard alphabet stands for. -/
def base64Value (c : Char) : Option Nat :=
  if 'A' ≤ c ∧ c ≤ 'Z' then some (c.toNat - 65)
  else if 'a' ≤ c ∧ c ≤ 'z' then some (c.toNat - 71)
  else if '0' ≤ c ∧ c ≤ '9' then some (c.toNat + 4)
  else if c = '+' then some 62
  else if c = '/' then some 63
  else none

/-- Decodes canonical base64 with padding into byte values. -/
def decodeBase64 : List Char → Option (List Nat)
  | [] => some []
  | a :: b :: c :: d :: rest => do
    let x ← base64Value a
    let y ← base64Value b
    if c = '=' then
      -- One byte: the second padding character follows and the four low bits are zero.
      if d = '=' ∧ rest = [] ∧ y % 16 = 0 then some [x * 4 + y / 16] else none
    else
      let z ← base64Value c
      if d = '=' then
        if rest = [] ∧ z % 4 = 0 then some [x * 4 + y / 16, y % 16 * 16 + z / 4] else none
      else
        let u ← base64Value d
        let tail ← decodeBase64 rest
        some ([x * 4 + y / 16, y % 16 * 16 + z / 4, z % 4 * 64 + u] ++ tail)
  | _ => none

/-! ### Paths -/

/-- A component of a path. -/
inductive Component (ν : Type) where
  | rootDir
  | curDir
  | parentDir
  | normal (name : ν)
  deriving DecidableEq

/-- The component of a part of a path between slashes, if it counts. -/
def component (part : List Char) : Option (Component (List Char)) :=
  if part = [] ∨ part = ".".toList then none
  else if part = "..".toList then some .parentDir
  else some (.normal part)

/-- `Path::components`. Empty parts do not count, and `.` counts at the start only. -/
def components (text : List Char) : List (Component (List Char)) :=
  match splitOn '/' text with
  | [] => []
  | first :: rest =>
    (if first = [] then (if rest = [] then [] else [.rootDir])
      else if first = ".".toList then [.curDir]
      else (component first).toList) ++ rest.filterMap component

/-- The name of a normal component. -/
def normalName : Component (List Char) → Option (List Char)
  | .normal name => some name
  | _ => none

/-- The names of a path. -/
def names (text : List Char) : List (List Char) := (components text).filterMap normalName

end Gascan.Lib.Text
