import Gascan.Daemon.SshHosts

/-!
# `Gascan.Proofs.SshHosts`: the managed SSH texts are read back

The writer checks hosts, sorts them by alias and renders both files. `parseRenderedPath_opensshPath`
reads a path back, `parseKnownHosts_rendered` the known hosts, and
`verifyHostGenerationRecord_rendered` finds each host in them.

The readers ask for different ports and return keys in their normal form. `published_hosts_load_iff`
says that exactly such publications are read back. `shared_port_unreadable` is one with a shared
port.
-/

namespace Gascan.Ssh

open Lib Lib.Text
open List hiding splitOn

/-! ### Paths -/

/-- How a character stands in a quoted path. -/
def escapeChar (c : Char) : List Char :=
  if c = '\\' then ['\\', '\\'] else if c = '"' then ['\\', '"'] else if c = '%' then ['%', '%']
  else [c]

variable {c : Char} {path value : List Char} {hosts : List ManagedSshHost} {identity : HostIdentity}
  {validated : List ValidatedHost} {name : List Char} {encoded : List Char} {u : Unit}
  {parsed : ParsedPublicKey} {host : ManagedSshHost}

theorem mem_escapeChar {d : Char} (h : c ∈ escapeChar d) :
    c = '\\' ∨ c = '"' ∨ c = '%' ∨ c = d := by
  unfold escapeChar at h
  grind

theorem replaceChar_escapes (path : List Char) :
    replaceChar '%' ['%', '%']
      (replaceChar '"' ['\\', '"'] (replaceChar '\\' ['\\', '\\'] path)) =
      path.flatMap escapeChar := by
  simp only [replaceChar, flatMap_assoc]
  refine flatMap_congr fun c _ => ?_
  by_cases hslash : c = '\\'
  · subst hslash
    rfl
  · by_cases hquote : c = '"'
    · subst hquote
      rfl
    · by_cases hpercent : c = '%'
      · subst hpercent
        rfl
      · simp [escapeChar, hslash, hquote, hpercent]

theorem unescapePath_escape (path : List Char) :
    unescapePath (path.flatMap escapeChar) = some path := by
  induction path with
  | nil => rfl
  | cons c cs ih =>
    rw [flatMap_cons]
    by_cases hslash : c = '\\'
    · subst hslash
      simp [escapeChar, unescapePath, ih]
    · by_cases hquote : c = '"'
      · subst hquote
        simp [escapeChar, unescapePath, ih]
      · by_cases hpercent : c = '%'
        · subst hpercent
          simp [escapeChar, unescapePath, ih]
        · simp only [escapeChar, if_neg hslash, if_neg hquote, if_neg hpercent,
            singleton_append]
          rw [unescapePath, ih]
          · rfl
          all_goals simp_all

theorem le_toNat {d : Char} : c ≤ d ↔ c.toNat ≤ d.toNat := Iff.rfl

theorem toNat_of_plain (h : (isAlpha c || isDigit c || c ∈ ['/', '.', '_', '-', ':']) = true) :
    45 ≤ c.toNat ∧ c.toNat ≤ 122 := by
  simp only [isAlpha, isLower, isDigit, Bool.or_eq_true, Bool.and_eq_true, decide_eq_true_eq,
    le_toNat, mem_cons, not_mem_nil, or_false] at h
  have ha : 'a'.toNat = 97 := rfl
  have hz : 'z'.toNat = 122 := rfl
  have hA : 'A'.toNat = 65 := rfl
  have hZ : 'Z'.toNat = 90 := rfl
  have h0 : '0'.toNat = 48 := rfl
  have h9 : '9'.toNat = 57 := rfl
  rcases h with ((h | h) | h) | rfl | rfl | rfl | rfl | rfl
  · omega
  · omega
  · omega
  all_goals decide

/-- What a path is written as: itself, or its characters with escapes in quotation marks. -/
theorem opensshPath_eq_ok (h : opensshPath path = .ok value) :
    (∀ c ∈ path, isAsciiControl c = false) ∧
      ((value = path ∧ ∀ c ∈ path, isWhitespace c = false ∧ c ≠ '"') ∨
        value = '"' :: path.flatMap escapeChar ++ ['"']) := by
  unfold opensshPath at h
  split at h
  · cases h
  next hnone =>
    refine ⟨fun c hc => ?_, ?_⟩
    · have hsafe := any_eq_false.1 (Bool.not_eq_true _ ▸ hnone) c hc
      simp only [Bool.or_eq_true, not_or] at hsafe
      simpa using hsafe.1
    · split at h
      next hsafe =>
        cases h
        refine .inl ⟨rfl, fun c hc => ?_⟩
        have hrange := toNat_of_plain (List.all_eq_true.1 hsafe c hc)
        constructor
        · simp only [isWhitespace, Bool.or_eq_false_iff, Bool.and_eq_false_iff,
          decide_eq_false_iff_not]
          omega
        · rintro rfl
          exact absurd hrange.1 (by decide)
      next =>
        cases h
        exact .inr (by rw [replaceChar_escapes])

theorem parseRenderedPath_opensshPath (hpath : path ≠ []) (h : opensshPath path = .ok value) :
    parseRenderedPath value = .ok path := by
  rcases (opensshPath_eq_ok h).2 with ⟨rfl, hplain⟩ | rfl
  · have hquote : unquote value = none := by
      cases value with
      | nil => rfl
      | cons c cs => simp [unquote, (hplain c mem_cons_self).2]
    have hspace : value.any isWhitespace = false :=
      any_eq_false.2 fun c hc => by simp [(hplain c hc).1]
    simp [parseRenderedPath, hquote, hspace, hpath]
  · simp [parseRenderedPath, unquote, unescapePath_escape]

theorem not_control_of_opensshPath (h : opensshPath path = .ok value) (hc : c ∈ value) :
    isAsciiControl c = false := by
  obtain ⟨hpath, ⟨rfl, -⟩ | rfl⟩ := opensshPath_eq_ok h
  · exact hpath c hc
  · rw [cons_append, mem_cons, mem_append, mem_flatMap, mem_singleton] at hc
    rcases hc with rfl | ⟨d, hd, hc⟩ | rfl
    · rfl
    · -- An escape only puts a backslash, a quotation mark or a percent sign beside the character.
      rcases mem_escapeChar hc with rfl | rfl | rfl | rfl
      · rfl
      · rfl
      · rfl
      · exact hpath _ hd
    · rfl

/-- Reads the inside of quotation marks: whether the next character is escaped. A quotation mark
that is not escaped ends it. -/
def quotedStep (escaped : Bool) (c : Char) : Option Bool :=
  if escaped then some false else if c = '"' then none else some (c = '\\')

theorem quoted_escape (path : List Char) :
    (path.flatMap escapeChar).foldlM quotedStep false = some false := by
  induction path with
  | nil => rfl
  | cons c cs ih =>
    have hc : (escapeChar c).foldlM quotedStep false = some false := by
      unfold escapeChar
      repeat' split
      all_goals simp_all [quotedStep]
    rw [flatMap_cons, foldlM_append, hc]
    exact ih

/-- A path in a configuration is read back, and it cannot end its line or its argument. -/
theorem opensshPath_confined (hpath : path ≠ []) (h : opensshPath path = .ok value) :
    parseRenderedPath value = .ok path ∧ '\n' ∉ value ∧ '\r' ∉ value ∧
      ((∀ c ∈ value, isWhitespace c = false ∧ c ≠ '"') ∨ ∃ inside,
        value = '"' :: inside ++ ['"'] ∧ inside.foldlM quotedStep false = some false) := by
  refine ⟨parseRenderedPath_opensshPath hpath h, fun hc => ?_, fun hc => ?_, ?_⟩
  · exact absurd (not_control_of_opensshPath h hc) (by decide)
  · exact absurd (not_control_of_opensshPath h hc) (by decide)
  · rcases (opensshPath_eq_ok h).2 with ⟨rfl, hplain⟩ | hquoted
    · exact .inl hplain
    · exact .inr ⟨_, hquoted, quoted_escape path⟩

theorem spaced_path_confined :
    parseRenderedPath "\"/a %% b\"".toList = .ok "/a % b".toList :=
  (opensshPath_confined (by decide) (by decide +kernel)).1

/-! ### The configuration -/

/-- A text without line breaks. -/
def OneLine (text : List Char) : Prop := '\n' ∉ text ∧ '\r' ∉ text

instance (text : List Char) : Decidable (OneLine text) := inferInstanceAs (Decidable (_ ∧ _))

theorem OneLine.append {left right : List Char} (hleft : OneLine left) (hright : OneLine right) :
    OneLine (left ++ right) := by
  simp only [OneLine, mem_append, not_or]
  exact ⟨⟨hleft.1, hright.1⟩, hleft.2, hright.2⟩

variable {rest : List Char} {keyword : String} {text : List Char} {seen : List ManagedSshHost}
  {rendered : RenderedFiles} {before after : StateDirectory} (port : Nat)

theorem lines_oneLine {line : List Char} (h : OneLine line) :
    lines (line ++ '\n' :: rest) = line :: lines rest :=
  lines_append h.1 h.2

theorem lines_configLine {value : List Char} (hkeyword : OneLine keyword.toList)
    (hvalue : OneLine value) :
    lines (configLine keyword value ++ rest) = (keyword.toList ++ value) :: lines rest := by
  rw [configLine, append_assoc, singleton_append, lines_oneLine (hkeyword.append hvalue)]

theorem oneLine_of_opensshPath (h : opensshPath path = .ok value) :
    OneLine value := by
  constructor
  · intro hc
    exact absurd (not_control_of_opensshPath h hc) (by decide)
  · intro hc
    exact absurd (not_control_of_opensshPath h hc) (by decide)

theorem oneLine_decimal (n : Nat) : OneLine (decimal n) :=
  ⟨not_mem_toDigits (by decide), not_mem_toDigits (by decide)⟩

/-- The lines of the part for one host. -/
def hostLines (identityPath knownHostsPath : List Char) (host : ManagedSshHost) :
    List (List Char) :=
  [[], "Host ".toList ++ host.active.hostAlias,
    "    HostName 127.0.0.1".toList ++ [],
    "    Port ".toList ++ decimal host.active.port.toNat,
    "    User workspace".toList ++ [],
    "    IdentityFile ".toList ++ identityPath,
    "    IdentitiesOnly yes".toList ++ [],
    "    HostKeyAlias ".toList ++ host.active.hostAlias,
    "    UserKnownHostsFile ".toList ++ knownHostsPath,
    "    StrictHostKeyChecking yes".toList ++ [],
    "    ForwardAgent no".toList ++ []]

theorem lines_renderHost {identityPath knownHostsPath : List Char}
    (halias : OneLine host.active.hostAlias) (hidentity : OneLine identityPath)
    (hknown : OneLine knownHostsPath) :
    lines (renderHost identityPath knownHostsPath host ++ rest) =
      hostLines identityPath knownHostsPath host ++ lines rest := by
  have hhost : ∀ rest, lines (configLine "\nHost " host.active.hostAlias ++ rest) =
      [] :: ("Host ".toList ++ host.active.hostAlias) :: lines rest := by
    intro rest
    have hbreak : configLine "\nHost " host.active.hostAlias ++ rest =
        [] ++ '\n' :: (configLine "Host " host.active.hostAlias ++ rest) := rfl
    rw [hbreak, lines_oneLine (by decide), lines_configLine (by decide) halias]
  have hnil : OneLine [] := by decide
  simp only [renderHost, append_assoc]
  rw [hhost, lines_configLine (by decide) hnil, lines_configLine (by decide) (oneLine_decimal _),
    lines_configLine (by decide) hnil, lines_configLine (by decide) hidentity,
    lines_configLine (by decide) hnil, lines_configLine (by decide) halias,
    lines_configLine (by decide) hknown, lines_configLine (by decide) hnil,
    lines_configLine (by decide) hnil]
  rfl

theorem references_hostLines (identityPath knownHostsPath : List Char) (host : ManagedSshHost) :
    (hostLines identityPath knownHostsPath host).filterMap
      (·.dropPrefix? "    UserKnownHostsFile ".toList) = [knownHostsPath] := by
  have hself : ("    UserKnownHostsFile ".toList ++ knownHostsPath).dropPrefix?
      "    UserKnownHostsFile ".toList = some knownHostsPath := dropPrefix?_eq_some.2 rfl
  simp only [hostLines, filterMap_cons, hself]
  rfl

/-! ### Hosts -/

theorem char_of_validateAlias (h : validateAlias name = .ok u) (hc : c ∈ name) :
    isLower c = true ∨ isDigit c = true ∨ c = '-' := by
  simp only [validateAlias, bind_eq_ok, okOr_eq_ok, ensureThat_eq_ok, dropPrefix?_eq_some] at h
  obtain ⟨suffix, rfl, -, -, hall, -⟩ := h
  rcases List.mem_append.1 hc with hc | hc
  · have hstart : aliasStart.all (fun c => isLower c || isDigit c || c = '-') = true := by decide
    simpa [or_assoc] using List.all_eq_true.1 hstart c hc
  · have := List.all_eq_true.1 hall c hc
    simpa [or_assoc] using this

theorem not_mem_alias (h : validateAlias name = .ok u)
    (hlower : isLower c = false) (hdigit : isDigit c = false) (hdash : c ≠ '-') : c ∉ name := by
  intro hc
  rcases char_of_validateAlias h hc with hc | hc | hc
  · rw [hlower] at hc
    cases hc
  · rw [hdigit] at hc
    cases hc
  · exact hdash hc

theorem oneLine_alias (h : validateAlias name = .ok u) :
    OneLine name :=
  ⟨not_mem_alias h (by decide) (by decide) (by decide),
    not_mem_alias h (by decide) (by decide) (by decide)⟩

/-- What `validateHost` has checked. -/
structure Validated (identity : HostIdentity) (host : ManagedSshHost) (key : List Char) : Prop where
  name : validateAlias host.active.hostAlias = .ok ()
  loopback : host.active.host = .localhost
  port : host.active.port ≠ 0
  client : host.active.clientKeyFingerprint = identity.fingerprint
  parsed : ∃ parsed, parsePublicKey host.hostPublicKey = .ok parsed ∧ parsed.normalized = key ∧
    parsed.fingerprint = host.active.hostKeyFingerprint

theorem validateHost_eq_ok {key : List Char} :
    validateHost identity host = .ok key ↔ Validated identity host key := by
  simp only [validateHost, bind_eq_ok, ensureThat_eq_ok]
  constructor
  · rintro ⟨_, hname, _, ⟨hhost, hport⟩, _, hclient, parsed, hparsed, _, hkey, ⟨⟩⟩
    exact ⟨hname, hhost, hport, hclient, parsed, hparsed, rfl, hkey⟩
  · rintro ⟨hname, hhost, hport, hclient, parsed, hparsed, rfl, hkey⟩
    exact ⟨(), hname, (), ⟨hhost, hport⟩, (), hclient, parsed, hparsed, (), hkey, rfl⟩

instance : Std.Total byAlias := ⟨fun _ _ => le_total (α := List Char) _ _⟩

instance : IsTrans ManagedSshHost byAlias := ⟨fun _ _ _ => le_trans (α := List Char)⟩

/-- The order of checked hosts. -/
abbrev byHost (left right : ValidatedHost) : Prop := byAlias left.1 right.1

instance : Std.Total byHost := ⟨fun _ _ => le_total (α := List Char) _ _⟩

instance : IsTrans ValidatedHost byHost := ⟨fun _ _ _ => le_trans (α := List Char)⟩

theorem nodup_of_repeatsAlias {hosts : List ValidatedHost} (hsorted : hosts.Pairwise byHost)
    (h : repeatsAlias hosts = false) : (hosts.map (·.1.active.hostAlias)).Nodup := by
  induction hosts with
  | nil => exact nodup_nil
  | cons first rest ih =>
    obtain ⟨hfirst, hrest⟩ := List.pairwise_cons.1 hsorted
    cases rest with
    | nil => exact nodup_singleton _
    | cons second rest =>
      simp only [repeatsAlias, Bool.or_eq_false_iff, decide_eq_false_iff_not] at h
      refine List.nodup_cons.2 ⟨fun hmem => ?_, ih hrest h.2⟩
      obtain ⟨other, hother, heq⟩ := List.mem_map.1 hmem
      rcases List.mem_cons.1 hother with rfl | hother
      · exact h.1 heq.symm
      · -- The second host stands between the first and one with the same alias.
        have hle : byHost second other := (List.pairwise_cons.1 hrest).1 other hother
        have heq : other.1.active.hostAlias = first.1.active.hostAlias := heq
        refine h.1 (le_antisymm (hfirst second (mem_cons_self ..)) ?_)
        rw [← heq]
        exact hle

theorem repeatsAlias_of_nodup {hosts : List ValidatedHost}
    (h : (hosts.map (·.1.active.hostAlias)).Nodup) : repeatsAlias hosts = false := by
  induction hosts with
  | nil => rfl
  | cons first rest ih =>
    cases rest with
    | nil => rfl
    | cons second rest =>
      rw [map_cons, nodup_cons] at h
      have hne : first.1.active.hostAlias ≠ second.1.active.hostAlias := by
        intro heq
        exact h.1 (heq ▸ mem_cons_self ..)
      simp [repeatsAlias, hne, ih h.2]

/-- What `validateHosts` has checked. -/
structure ValidatedHosts (identity : HostIdentity) (hosts : List ManagedSshHost)
    (validated : List ValidatedHost) : Prop where
  sorted : validated.map Prod.fst = hosts.insertionSort byAlias
  each : ∀ p ∈ validated, Validated identity p.1 p.2
  distinct : (validated.map (·.1.active.hostAlias)).Nodup

theorem mapM_validateHost :
    (hosts.mapM fun host => return (host, ← validateHost identity host)) = .ok validated ↔
      validated.map Prod.fst = hosts ∧ ∀ p ∈ validated, Validated identity p.1 p.2 := by
  rw [mapM_eq_ok]
  constructor
  · intro h
    induction h with
    | nil => exact ⟨rfl, nofun⟩
    | cons hhead _ ih =>
      obtain ⟨key, hkey, h⟩ := bind_eq_ok.1 hhead
      cases h
      refine ⟨congrArg _ ih.1, List.forall_mem_cons.2 ⟨validateHost_eq_ok.1 hkey, ih.2⟩⟩
  · rintro ⟨rfl, h⟩
    induction validated with
    | nil => exact .nil
    | cons p rest ih =>
      obtain ⟨hp, hrest⟩ := List.forall_mem_cons.1 h
      exact .cons (bind_eq_ok.2 ⟨p.2, validateHost_eq_ok.2 hp, rfl⟩) (ih hrest)

theorem validateHosts_eq_ok (h : validateHosts identity hosts = .ok validated) :
    ValidatedHosts identity hosts validated := by
  simp only [validateHosts, bind_eq_ok, mapM_validateHost, ensureThat_eq_ok] at h
  obtain ⟨given, ⟨hfst, heach⟩, _, hrepeats, ⟨⟩⟩ := h
  have hsorted : (given.insertionSort byHost).Pairwise byHost := pairwise_insertionSort ..
  refine ⟨?_, fun p hp => heach p ((mem_insertionSort _).1 hp), ?_⟩
  · rw [map_insertionSort byHost byAlias Prod.fst given fun _ _ _ _ => Iff.rfl, hfst]
  · exact nodup_of_repeatsAlias hsorted (by simpa using hrepeats)

theorem validateHosts_of_sorted
    (hsorted : validated.Pairwise byHost) (heach : ∀ p ∈ validated, Validated identity p.1 p.2)
    (hdistinct : (validated.map (·.1.active.hostAlias)).Nodup) :
    validateHosts identity (validated.map Prod.fst) = .ok validated := by
  simp only [validateHosts, bind_eq_ok, mapM_validateHost, ensureThat_eq_ok]
  refine ⟨validated, ⟨rfl, heach⟩, (), ?_, ?_⟩
  · rw [hsorted.insertionSort_eq, repeatsAlias_of_nodup hdistinct]
    decide
  · rw [hsorted.insertionSort_eq]
    rfl

/-! ### Keys -/

/-- What `parsePublicKey` has found in a text. -/
structure KeyFields (encoded : List Char) (parsed : ParsedPublicKey) : Prop where
  nonempty : encoded ≠ []
  spaceless : ∀ c ∈ encoded, isSpace c = false
  noNull : '\x00' ∉ encoded
  short : byteLength (keyText encoded) ≤ maxSubprocessOutput
  decoded : ∃ blob, decodeBase64 encoded = some blob ∧ validateEd25519Blob blob = true ∧
    parsed = ⟨keyText encoded, fingerprintText blob⟩

theorem keyFields_of_parsePublicKey (h : parsePublicKey text = .ok parsed) :
    ∃ encoded, KeyFields encoded parsed := by
  simp only [parsePublicKey, bind_eq_ok, ensureThat_eq_ok, okOr_eq_ok] at h
  obtain ⟨_, ⟨-, hlength, hnull⟩, _, -, _, hkind, encoded, hencoded, blob, hblob, _, hvalid,
    ⟨⟩⟩ := h
  have htrimmed : trimLineEnd text <+: text := rdropWhile_prefix ..
  cases hfields : fields (trimLineEnd text) with
  | nil => simp [hfields] at hkind
  | cons kind rest =>
    rw [hfields] at hkind hencoded
    obtain rfl : kind = ed25519 := Option.some.inj hkind
    cases rest with
    | nil => simp at hencoded
    | cons second others =>
      obtain rfl : second = encoded := Option.some.inj hencoded
      obtain ⟨before, after, hsplit, -, -, -, hafter, hspace⟩ := fields_eq_cons hfields
      obtain ⟨gap, tail, rfl, -, hne, hspaceless, -, -⟩ := fields_eq_cons hafter
      obtain ⟨rest, hrest⟩ := htrimmed
      rw [hsplit] at hrest
      refine ⟨second, hne, hspaceless, ?_, ?_, blob, hblob, hvalid, rfl⟩
      · intro hmem
        refine hnull ?_
        rw [← hrest]
        simp [hmem]
      · have hgap : 1 ≤ byteLength gap := by
          cases gap with
          | nil =>
            -- Without a gap the text after the first field would begin with the second one.
            cases second with
            | nil => exact absurd rfl hne
            | cons c cs =>
              have hc := hspace c rfl
              rw [hspaceless c (mem_cons_self ..)] at hc
              cases hc
          | cons c cs =>
            have hc := Char.utf8Size_pos c
            simp only [byteLength, map_cons, sum_cons]
            omega
        have hblank : byteLength [' '] = 1 := by decide
        have htext := congrArg byteLength hrest
        simp only [byteLength_append, keyText] at htext ⊢
        omega

theorem fields_keyText (hne : encoded ≠ []) (hspaceless : ∀ c ∈ encoded, isSpace c = false) :
    fields (keyText encoded) = [ed25519, encoded] := by
  have hsplit : keyText encoded = ed25519 ++ ' ' :: encoded := append_assoc ..
  have hplain : ed25519.all (!isSpace ·) = true := by decide
  rw [hsplit, fields_append (by decide) (fun c hc => by simpa using List.all_eq_true.1 hplain c hc)
    (by decide), fields_eq_singleton hne hspaceless]

theorem oneLine_of_spaceless (h : ∀ c ∈ text, isSpace c = false) : OneLine text :=
  ⟨fun hc => absurd (h _ hc) (by decide), fun hc => absurd (h _ hc) (by decide)⟩

theorem oneLine_keyText (h : ∀ c ∈ encoded, isSpace c = false) :
    OneLine (keyText encoded) :=
  OneLine.append (by decide) (oneLine_of_spaceless h)

theorem parsePublicKey_keyText (h : KeyFields encoded parsed) :
    parsePublicKey (keyText encoded) = .ok parsed := by
  obtain ⟨blob, hblob, hvalid, rfl⟩ := h.decoded
  have honeLine := oneLine_keyText h.spaceless
  have hne : keyText encoded ≠ [] := append_ne_nil_of_right_ne_nil _ h.nonempty
  have htrim : trimLineEnd (keyText encoded) = keyText encoded := by
    refine List.rdropWhile_eq_self_iff.2 fun hl hlast => ?_
    have hmem := getLast_mem hl
    simp only [Bool.or_eq_true, decide_eq_true_eq] at hlast
    rcases hlast with hlast | hlast
    · rw [hlast] at hmem
      exact honeLine.2 hmem
    · rw [hlast] at hmem
      exact honeLine.1 hmem
  have hnull : '\x00' ∉ keyText encoded := by
    rw [keyText, mem_append, not_or]
    exact ⟨by decide, h.noNull⟩
  simp only [parsePublicKey, bind_eq_ok, ensureThat_eq_ok, okOr_eq_ok, htrim,
    fields_keyText h.nonempty h.spaceless]
  exact ⟨(), ⟨hne, h.short, hnull⟩, (), ⟨hne, honeLine.2, honeLine.1⟩, (), rfl, encoded, rfl, blob,
    hblob, (), hvalid, rfl⟩

/-! ### Records -/

theorem not_isSpace_of_validateAlias (h : validateAlias name = .ok u) (hc : c ∈ name) :
    isSpace c = false := by
  by_contra hspace
  rw [Bool.not_eq_false] at hspace
  simp only [isSpace, Bool.or_eq_true, decide_eq_true_eq] at hspace
  rcases hspace with (((rfl | rfl) | rfl) | rfl) | rfl <;>
    exact not_mem_alias h (by decide) (by decide) (by decide) hc

theorem not_isSpace_decimal {n : Nat} (hc : c ∈ decimal n) : isSpace c = false := by
  by_contra hspace
  rw [Bool.not_eq_false] at hspace
  simp only [isSpace, Bool.or_eq_true, decide_eq_true_eq] at hspace
  rcases hspace with (((rfl | rfl) | rfl) | rfl) | rfl <;> exact not_mem_toDigits (by decide) hc

variable {name encoded : List Char} {parsed : ParsedPublicKey} {u : Unit}

theorem threeFields_record (hname : validateAlias name = .ok u) (hkey : KeyFields encoded parsed) :
    threeFields (knownHostsRecord name port (keyText encoded)) =
      some (name ++ ',' :: loopbackStart ++ decimal port, ed25519, encoded) := by
  have hpattern : ∀ c ∈ name ++ ',' :: loopbackStart ++ decimal port, isSpace c = false := by
    intro c hc
    rw [mem_append, mem_append] at hc
    rcases hc with (hc | hc) | hc
    · exact not_isSpace_of_validateAlias hname hc
    · have hstart : (',' :: loopbackStart).all (!isSpace ·) = true := by decide
      simpa using List.all_eq_true.1 hstart c hc
    · exact not_isSpace_decimal hc
  have hsplit : knownHostsRecord name port (keyText encoded) =
      (name ++ ',' :: loopbackStart ++ decimal port) ++ ' ' :: keyText encoded := by
    simp [knownHostsRecord]
  have hfields : fields (knownHostsRecord name port (keyText encoded)) =
      [name ++ ',' :: loopbackStart ++ decimal port, ed25519, encoded] := by
    rw [hsplit, fields_append (by simp) hpattern (by decide),
      fields_keyText hkey.nonempty hkey.spaceless]
  rw [threeFields, hfields]

theorem oneLine_record (hname : validateAlias name = .ok u) (hkey : KeyFields encoded parsed) :
    OneLine (knownHostsRecord name port (keyText encoded)) := by
  have hstart : OneLine (',' :: loopbackStart) := by decide
  have hblank : OneLine [' '] := by decide
  exact ((((oneLine_alias hname).append hstart).append (oneLine_decimal port)).append hblank).append
    (oneLine_keyText hkey.spaceless)

/-- A host whose key is in its normal form. -/
def normalizedHost (p : ValidatedHost) : ManagedSshHost := { p.1 with hostPublicKey := p.2 }

variable {identity : HostIdentity} {host result : ManagedSshHost} {key : List Char}

/-- The name of the alias of a sandbox. -/
def IsSandboxAlias (name : List Char) : Prop :=
  ∃ id : SandboxId, name = aliasStart ++ id.value.toList

theorem tryFrom_alias (h : IsSandboxAlias name) :
    ∃ id, (name.dropPrefix? aliasStart).bind (SandboxId.tryFrom ∘ String.ofList) = some id := by
  obtain ⟨id, rfl⟩ := h
  refine ⟨id, ?_⟩
  rw [dropPrefix?_eq_some.2 rfl, Option.bind_some, Function.comp_apply, String.ofList_toList,
    SandboxId.tryFrom, dif_pos id.valid]

theorem splitOnce_endpoint (hname : validateAlias name = .ok u) :
    splitOnce (',' :: loopbackStart) (name ++ ',' :: loopbackStart ++ decimal port) =
      some (name, decimal port) :=
  splitOnce_append (not_mem_alias hname (by decide) (by decide) (by decide))

theorem splitOnce_comma (hname : validateAlias name = .ok u) :
    splitOnce [','] (name ++ ',' :: loopbackStart ++ decimal port) =
      some (name, loopbackStart ++ decimal port) := by
  have hsplit : name ++ ',' :: loopbackStart ++ decimal port =
      name ++ [','] ++ (loopbackStart ++ decimal port) := by simp
  rw [hsplit, splitOnce_append (not_mem_alias hname (by decide) (by decide) (by decide))]

theorem parseUnsigned_decimal (port : UInt16) :
    parseUnsigned 65536 (decimal port.toNat) = some port.toNat :=
  parseUnsigned_toDigits port.toNat_lt

theorem Validated.keyFields (h : Validated identity host key) :
    ∃ encoded parsed, key = keyText encoded ∧ KeyFields encoded parsed ∧
      parsed.normalized = key ∧ parsed.fingerprint = host.active.hostKeyFingerprint := by
  obtain ⟨parsed, hparsed, hnormal, hfingerprint⟩ := h.parsed
  obtain ⟨encoded, hkey⟩ := keyFields_of_parsePublicKey hparsed
  refine ⟨encoded, parsed, ?_, hkey, hnormal, hfingerprint⟩
  obtain ⟨blob, -, -, rfl⟩ := hkey.decoded
  exact hnormal.symm

/-- The record of a checked host. -/
def hostRecord (p : ValidatedHost) : List Char :=
  knownHostsRecord p.1.active.hostAlias p.1.active.port.toNat p.2

theorem hostRecord_ne_nil (p : ValidatedHost) : hostRecord p ≠ [] := by
  simp [hostRecord, knownHostsRecord]

/-- A host that was checked, has the alias of a sandbox and a port of its own user. -/
structure Readable (identity : HostIdentity) (p : ValidatedHost) : Prop where
  valid : Validated identity p.1 p.2
  sandbox : IsSandboxAlias p.1.active.hostAlias
  unprivileged : 1024 ≤ p.1.active.port.toNat

variable {p : ValidatedHost} {validated : List ValidatedHost}

/-- The record of a host is read back, unless its alias or its port was seen before. -/
theorem parseRecord_hostRecord (h : Readable identity p) :
    parseRecord identity seen (hostRecord p) = .ok result ↔
      p.1.active.hostAlias ∉ seen.map (·.active.hostAlias) ∧
      p.1.active.port.toNat ∉ seen.map (·.active.port.toNat) ∧
      result = normalizedHost p := by
  obtain ⟨host, key⟩ := p
  obtain ⟨encoded, parsed, rfl, hkey, hnormal, hfingerprint⟩ := h.valid.keyFields
  obtain ⟨id, hid⟩ := tryFrom_alias h.sandbox
  have hread : (parseUnsigned 65536 (decimal host.active.port.toNat)).filter
      (fun port => 1024 ≤ port && decimal port = decimal host.active.port.toNat) =
        some host.active.port.toNat := by
    rw [parseUnsigned_decimal, Option.filter_some, if_pos (by simpa using h.unprivileged)]
  have hagain : parsePublicKey (ed25519 ++ [' '] ++ encoded) = .ok parsed :=
    parsePublicKey_keyText hkey
  have hresult : normalizedHost (host, keyText encoded) = {
      active := {
        host := .localhost
        port := UInt16.ofNat host.active.port.toNat
        hostAlias := host.active.hostAlias
        hostKeyFingerprint := parsed.fingerprint
        clientKeyFingerprint := identity.fingerprint }
      hostPublicKey := keyText encoded } := by
    rw [UInt16.ofNat_toNat, hfingerprint, ← h.valid.loopback, ← h.valid.client]
    rfl
  have hne := hostRecord_ne_nil (host, keyText encoded)
  rw [hresult]
  simp only [hostRecord] at hne ⊢
  simp only [parseRecord, hne, threeFields_record _ h.valid.name hkey,
    splitOnce_endpoint _ h.valid.name, hid, hread, hagain, hnormal, ne_eq, not_false_eq_true,
    ensureThat_true, okOr_some, ok_bind, true_and, bind_eq_ok, ensureThat_eq_ok]
  constructor
  · rintro ⟨_, ⟨halias, hport⟩, ⟨⟩⟩
    exact ⟨halias, hport, rfl⟩
  · rintro ⟨halias, hport, rfl⟩
    exact ⟨(), ⟨halias, hport⟩, rfl⟩

/-- All records are read back exactly if no alias and no port occurs twice. -/
theorem parseRecords_hostRecords (heach : ∀ p ∈ validated, Readable identity p)
    (halias : (seen.map (·.active.hostAlias)).Nodup)
    (hport : (seen.map (·.active.port.toNat)).Nodup) :
    parseRecords identity seen (validated.map hostRecord) = .ok hosts ↔
      ((seen ++ validated.map normalizedHost).map (·.active.hostAlias)).Nodup ∧
      ((seen ++ validated.map normalizedHost).map (·.active.port.toNat)).Nodup ∧
      hosts = seen ++ validated.map normalizedHost := by
  induction validated generalizing seen with
  | nil =>
    simp only [map_nil, parseRecords, append_nil, halias, hport, true_and]
    exact ⟨fun h => (Except.ok.inj h).symm, fun h => congrArg _ h.symm⟩
  | cons p rest ih =>
    obtain ⟨hp, hrest⟩ := List.forall_mem_cons.1 heach
    have hmove : seen ++ (p :: rest).map normalizedHost =
        seen ++ [normalizedHost p] ++ rest.map normalizedHost := by simp
    rw [map_cons, parseRecords, bind_eq_ok, hmove]
    constructor
    · rintro ⟨host, hhost, h⟩
      obtain ⟨hnewAlias, hnewPort, rfl⟩ := (parseRecord_hostRecord hp).1 hhost
      refine (ih hrest ?_ ?_).1 h
      · rw [map_append, nodup_append_comm]
        exact List.nodup_cons.2 ⟨hnewAlias, halias⟩
      · rw [map_append, nodup_append_comm]
        exact List.nodup_cons.2 ⟨hnewPort, hport⟩
    · rintro ⟨hallAlias, hallPort, rfl⟩
      have hseenAlias := (List.nodup_append.1 (map_append ▸ hallAlias)).1
      have hseenPort := (List.nodup_append.1 (map_append ▸ hallPort)).1
      refine ⟨normalizedHost p, (parseRecord_hostRecord hp).2 ⟨?_, ?_, rfl⟩,
        (ih hrest hseenAlias hseenPort).2 ⟨hallAlias, hallPort, rfl⟩⟩
      · rw [map_append, nodup_append_comm] at hseenAlias
        exact (List.nodup_cons.1 hseenAlias).1
      · rw [map_append, nodup_append_comm] at hseenPort
        exact (List.nodup_cons.1 hseenPort).1

/-- Whether a record is the one of a host with this key. -/
def isTarget (host : ManagedSshHost) (key : List Char) (p : ValidatedHost) : Bool :=
  p.1.active.hostAlias = host.active.hostAlias ∧
    p.1.active.port.toNat = host.active.port.toNat ∧ p.2 = key

/-- What is remembered after one more record. -/
def RecordsSeen.add (host : ManagedSshHost) (key : List Char) (seen : RecordsSeen)
    (p : ValidatedHost) : RecordsSeen where
  aliases := p.1.active.hostAlias :: seen.aliases
  endpoints := p.1.active.port.toNat :: seen.endpoints
  targets := if isTarget host key p then seen.targets + 1 else seen.targets

/-- A record with a new alias and a new port is accepted. -/
theorem verifyRecord_hostRecord {seen : RecordsSeen} (h : Validated identity p.1 p.2)
    (halias : p.1.active.hostAlias ∉ seen.aliases)
    (hport : p.1.active.port.toNat ∉ seen.endpoints) :
    verifyRecord host key seen (hostRecord p) = .ok (seen.add host key p) := by
  obtain ⟨other, otherKey⟩ := p
  obtain ⟨encoded, parsed, rfl, hkey, hnormal, -⟩ := h.keyFields
  have hagain : parsePublicKey (ed25519 ++ [' '] ++ encoded) = .ok parsed :=
    parsePublicKey_keyText hkey
  have hnonzero : other.active.port.toNat ≠ 0 := fun hzero => h.port (UInt16.toNat_inj.1 hzero)
  have hendpoint : (loopbackStart ++ decimal other.active.port.toNat).dropPrefix? loopbackStart =
      some (decimal other.active.port.toNat) := dropPrefix?_eq_some.2 rfl
  simp only [verifyRecord, hostRecord, threeFields_record _ h.name hkey, splitOnce_comma _ h.name,
    h.name, hendpoint, parseUnsigned_decimal, hnonzero, hagain, hnormal, halias, hport, ne_eq,
    not_false_eq_true, and_self, ensureThat_true, okOr_some, ok_bind, isTarget, decide_eq_true_eq,
    RecordsSeen.add]
  rfl

theorem foldlM_verifyRecord {seen : RecordsSeen}
    (heach : ∀ p ∈ validated, Validated identity p.1 p.2)
    (haliases : (validated.map (·.1.active.hostAlias)).Nodup)
    (hports : (validated.map (·.1.active.port.toNat)).Nodup)
    (hnewAlias : ∀ p ∈ validated, p.1.active.hostAlias ∉ seen.aliases)
    (hnewPort : ∀ p ∈ validated, p.1.active.port.toNat ∉ seen.endpoints) :
    ∃ result, (validated.map hostRecord).foldlM (verifyRecord host key) seen = .ok result ∧
      result.targets = seen.targets + validated.countP (isTarget host key) := by
  induction validated generalizing seen with
  | nil => exact ⟨seen, rfl, rfl⟩
  | cons p rest ih =>
    obtain ⟨hp, hrest⟩ := List.forall_mem_cons.1 heach
    obtain ⟨hpAlias, hrestAlias⟩ := List.forall_mem_cons.1 hnewAlias
    obtain ⟨hpPort, hrestPort⟩ := List.forall_mem_cons.1 hnewPort
    rw [map_cons, nodup_cons] at haliases hports
    rw [map_cons, foldlM_cons, verifyRecord_hostRecord hp hpAlias hpPort, ok_bind]
    -- The record that was just read is not met again in the rest.
    have hrestAlias' : ∀ q ∈ rest, q.1.active.hostAlias ∉ (seen.add host key p).aliases := by
      intro q hq hmem
      rcases List.mem_cons.1 hmem with heq | hmem
      · exact haliases.1 (List.mem_map.2 ⟨q, hq, heq⟩)
      · exact hrestAlias q hq hmem
    have hrestPort' : ∀ q ∈ rest, q.1.active.port.toNat ∉ (seen.add host key p).endpoints := by
      intro q hq hmem
      rcases List.mem_cons.1 hmem with heq | hmem
      · exact hports.1 (List.mem_map.2 ⟨q, hq, heq⟩)
      · exact hrestPort q hq hmem
    obtain ⟨result, hresult, htargets⟩ := ih hrest haliases.2 hports.2 hrestAlias' hrestPort'
    refine ⟨result, hresult, htargets.trans ?_⟩
    simp only [countP_cons, RecordsSeen.add]
    split <;> omega

/-! ### The two files -/

theorem lines_renderKnownHosts (heach : ∀ p ∈ validated, Validated identity p.1 p.2) :
    lines (renderKnownHosts validated) = validated.map hostRecord := by
  induction validated with
  | nil => rfl
  | cons p rest ih =>
    obtain ⟨hp, hrest⟩ := List.forall_mem_cons.1 heach
    obtain ⟨encoded, parsed, hkeyText, hkey, -, -⟩ := hp.keyFields
    have hline : OneLine (hostRecord p) := by
      rw [hostRecord, hkeyText]
      exact oneLine_record _ hp.name hkey
    have hsplit : renderKnownHosts (p :: rest) = hostRecord p ++ '\n' :: renderKnownHosts rest := by
      rw [renderKnownHosts, flatMap_cons, append_assoc]
      rfl
    rw [hsplit, lines_oneLine hline, ih hrest, map_cons]

/-- A published list of known hosts is read back exactly if no port occurs twice. -/
theorem parseKnownHosts_rendered (heach : ∀ p ∈ validated, Readable identity p)
    (haliases : (validated.map (·.1.active.hostAlias)).Nodup) :
    parseKnownHosts (encodeUtf8 (renderKnownHosts validated)) identity = .ok hosts ↔
      (validated.map (·.1.active.port.toNat)).Nodup ∧ hosts = validated.map normalizedHost := by
  have hlines := lines_renderKnownHosts fun p hp => (heach p hp).valid
  have halias : (validated.map normalizedHost).map (·.active.hostAlias) =
      validated.map (·.1.active.hostAlias) := map_map ..
  have hport : (validated.map normalizedHost).map (·.active.port.toNat) =
      validated.map (·.1.active.port.toNat) := map_map ..
  have hread : parseRecords identity [] (validated.map hostRecord) = .ok hosts ↔ _ :=
    parseRecords_hostRecords heach nodup_nil nodup_nil
  simp only [parseKnownHosts, decodeUtf8_encodeUtf8, hlines]
  rw [hread, nil_append, halias, hport]
  exact ⟨fun h => h.2, fun h => ⟨haliases, h⟩⟩

theorem verifyHostGenerationRecord_rendered (heach : ∀ p ∈ validated, Validated identity p.1 p.2)
    (haliases : (validated.map (·.1.active.hostAlias)).Nodup)
    (hports : (validated.map (·.1.active.port.toNat)).Nodup) (hp : p ∈ validated) :
    verifyHostGenerationRecord (encodeUtf8 (renderKnownHosts validated)) p.1 p.2 = .ok () := by
  have hall : ∃ seen, (validated.map hostRecord).foldlM (verifyRecord p.1 p.2) {} = .ok seen ∧
      seen.targets = 0 + validated.countP (isTarget p.1 p.2) :=
    foldlM_verifyRecord heach haliases hports (fun _ _ => not_mem_nil)
      (fun _ _ => not_mem_nil)
  obtain ⟨seen, hseen, htargets⟩ := hall
  -- Only the host itself has its alias.
  have hcount : validated.countP (isTarget p.1 p.2) = 1 := by
    have htarget : ∀ q ∈ validated, isTarget p.1 p.2 q = true ↔ (q == p) = true := by
      intro q hq
      rw [isTarget, decide_eq_true_eq, beq_iff_eq]
      constructor
      · intro h
        exact inj_on_of_nodup_map haliases hq hp h.1
      · rintro rfl
        exact ⟨rfl, rfl, rfl⟩
    rw [countP_congr htarget]
    exact count_eq_one_of_mem (haliases.of_map) hp
  have hfilter : (validated.map hostRecord).filter (!·.isEmpty) = validated.map hostRecord := by
    refine List.filter_eq_self.2 fun line hline => ?_
    obtain ⟨q, -, rfl⟩ := List.mem_map.1 hline
    simpa using hostRecord_ne_nil q
  simp only [verifyHostGenerationRecord, decodeUtf8_encodeUtf8, lines_renderKnownHosts heach,
    hfilter, hseen, ok_bind, ensureThat_eq_ok]
  rw [htargets, hcount]

/-- The lines of a configuration that refer to the known hosts: one for each host. -/
theorem references_renderConfig {path config : List Char}
    (heach : ∀ p ∈ validated, Validated identity p.1 p.2)
    (h : renderConfig identity validated path = .ok config) :
    ∃ value, opensshPath path = .ok value ∧
      (lines config).filterMap (·.dropPrefix? "    UserKnownHostsFile ".toList) =
        validated.map fun _ => value := by
  simp only [renderConfig, bind_eq_ok] at h
  obtain ⟨identityPath, hidentity, value, hvalue, ⟨⟩⟩ := h
  refine ⟨value, hvalue, ?_⟩
  rw [lines_configLine (by decide) (by decide), filterMap_cons_none rfl]
  induction validated with
  | nil => rfl
  | cons p rest ih =>
    obtain ⟨hp, hrest⟩ := List.forall_mem_cons.1 heach
    rw [flatMap_cons, lines_renderHost (oneLine_alias hp.name)
      (oneLine_of_opensshPath hidentity) (oneLine_of_opensshPath hvalue), filterMap_append,
      references_hostLines, ih hrest]
    rfl

/-! ### The way back -/

variable {paths : SshPaths} {hosts : List ManagedSshHost} {directory directory' : StateDirectory}
  {path config : List Char} {prepared : PreparedSshFiles}

/-- A configuration for hosts refers to one generation, and one without hosts to none. -/
theorem configReferences_rendered (heach : ∀ p ∈ validated, Validated identity p.1 p.2)
    (hpath : path ≠ []) (h : renderConfig identity validated path = .ok config) :
    configReferences config = .ok (if validated = [] then [] else [path]) := by
  obtain ⟨value, hvalue, hreferences⟩ := references_renderConfig heach h
  have hread : (validated.map fun _ => value).mapM parseRenderedPath =
      .ok (validated.map fun _ => path) := by
    rw [mapM_eq_ok, forall₂_map_left_iff, forall₂_map_right_iff, forall₂_same]
    exact fun _ _ => parseRenderedPath_opensshPath hpath hvalue
  rw [configReferences, hreferences, hread, ok_bind]
  cases validated with
  | nil => rfl
  | cons p rest =>
    have hdedup : ((p :: rest).map fun _ => path).dedup = [path] := by
      rw [map_const', length_cons, replicate_dedup (Nat.succ_ne_zero _)]
    rw [hdedup, if_neg (cons_ne_nil p rest)]
    rfl

theorem nul_notMem_configLine {value : List Char} (hkeyword : '\x00' ∉ keyword.toList)
    (hvalue : '\x00' ∉ value) : '\x00' ∉ configLine keyword value := by
  simp [configLine, hkeyword, hvalue]

theorem nul_notMem_renderConfig (heach : ∀ p ∈ validated, Validated identity p.1 p.2)
    (h : renderConfig identity validated path = .ok config) : '\x00' ∉ config := by
  simp only [renderConfig, bind_eq_ok] at h
  obtain ⟨identityPath, hidentity, value, hvalue, ⟨⟩⟩ := h
  have hrendered : ∀ {path value}, opensshPath path = .ok value → '\x00' ∉ value := by
    intro path value hpath hmem
    exact absurd (not_control_of_opensshPath hpath hmem) (by decide)
  have hidentity := hrendered hidentity
  have hvalue := hrendered hvalue
  simp only [mem_append, mem_flatMap, not_or, not_exists, not_and]
  refine ⟨nul_notMem_configLine (by decide) (by decide), fun p hp => ?_⟩
  have hname := not_mem_alias (heach p hp).name (c := '\x00') (by decide) (by decide) (by decide)
  have hport : '\x00' ∉ decimal p.1.active.port.toNat := not_mem_toDigits (by decide)
  have hnone : '\x00' ∉ ([] : List Char) := not_mem_nil
  simp only [renderHost, mem_append, not_or]
  repeat' apply And.intro
  all_goals exact nul_notMem_configLine (by decide) (by assumption)

theorem joinPath_directory (paths : SshPaths) (name : List Char) :
    joinPath paths.directory name = paths.directory ++ '/' :: name := by
  have hend : ∃ start, paths.directory = start ++ "ssh".toList := by
    unfold SshPaths.directory
    generalize paths.gascanDirectory = base
    unfold joinPath
    split
    · exact ⟨base, rfl⟩
    · exact ⟨base ++ ['/'], by simp⟩
  obtain ⟨start, hstart⟩ := hend
  rw [hstart]
  simp [joinPath]

theorem slash_notMem_generationName (contents : List UInt8) : '/' ∉ generationName contents := by
  rw [generationName, mem_append, not_or]
  refine ⟨by decide, fun hmem => ?_⟩
  have hhex := List.all_eq_true.1 (isLowerHex_hexLower fun _ => Sha256.lt_of_mem_digest) _ hmem
  exact absurd hhex (by decide)

theorem splitPath_generation (paths : SshPaths) (contents : List UInt8) :
    splitPath (joinPath paths.directory (generationName contents)) =
      some (paths.directory, generationName contents) := by
  rw [joinPath_directory, splitPath, lastIndexOf_append (slash_notMem_generationName contents)]
  simp

/-- A host whose key is in its normal form is checked with the same result. -/
theorem Validated.normalized (h : Validated identity p.1 p.2) :
    Validated identity (normalizedHost p) p.2 := by
  obtain ⟨encoded, parsed, hkey, hfields, hnormal, hfingerprint⟩ := h.keyFields
  refine ⟨h.name, h.loopback, h.port, h.client, parsed, ?_, hnormal, hfingerprint⟩
  show parsePublicKey p.2 = _
  rw [hkey]
  exact parsePublicKey_keyText hfields

theorem ValidatedHosts.normalized (h : ValidatedHosts identity hosts validated) :
    validateHosts identity (validated.map normalizedHost) =
      .ok (validated.map fun p => (normalizedHost p, p.2)) := by
  have hpairwise : (validated.map Prod.fst).Pairwise byAlias := by
    rw [h.sorted]
    exact pairwise_insertionSort ..
  rw [pairwise_map] at hpairwise
  have hagain : validateHosts identity
      ((validated.map fun p => (normalizedHost p, p.2)).map Prod.fst) =
        .ok (validated.map fun p => (normalizedHost p, p.2)) := by
    apply validateHosts_of_sorted
    · exact List.pairwise_map.2 hpairwise
    · intro q hq
      obtain ⟨p, hp, rfl⟩ := List.mem_map.1 hq
      exact (h.each p hp).normalized
    · rw [map_map]
      exact h.distinct
  rwa [map_map] at hagain

/-- What a writer that accepts hosts has rendered. -/
structure Rendered (paths : SshPaths) (identity : HostIdentity) (hosts : List ManagedSshHost)
    (validated : List ValidatedHost) (rendered : RenderedFiles) : Prop where
  metadata : validateIdentityMetadata paths identity = .ok ()
  hosts : ValidatedHosts identity hosts validated
  knownHosts : rendered.knownHosts = renderKnownHosts validated
  generation : rendered.generation = generationName (encodeUtf8 (renderKnownHosts validated))
  config : renderConfig identity validated (joinPath paths.directory rendered.generation) =
    .ok rendered.config

theorem renderFiles_eq_ok (h : renderFiles paths identity hosts = .ok rendered) :
    ∃ validated, Rendered paths identity hosts validated rendered := by
  simp only [renderFiles, bind_eq_ok] at h
  obtain ⟨_, hmetadata, validated, hvalidated, config, hconfig, ⟨⟩⟩ := h
  exact ⟨validated, hmetadata, validateHosts_eq_ok hvalidated, rfl, rfl, hconfig⟩

/-- The hosts that are read back give the same files. -/
theorem Rendered.again (h : Rendered paths identity hosts validated rendered) :
    renderFiles paths identity (validated.map normalizedHost) = .ok rendered := by
  obtain ⟨generation, knownHosts, config⟩ := rendered
  obtain ⟨hmetadata, hhosts, rfl, rfl, hconfig⟩ := h
  have hknown : renderKnownHosts (validated.map fun p => (normalizedHost p, p.2)) =
      renderKnownHosts validated := flatMap_map ..
  have hsame : ∀ path, renderConfig identity (validated.map fun p => (normalizedHost p, p.2)) path =
      renderConfig identity validated path := fun path => by
    simp only [renderConfig, flatMap_map]
    rfl
  simp only [renderFiles, hmetadata, hhosts.normalized, ok_bind, hknown, hsame, hconfig]
  rfl

/-- A generation that is there stays as it is. -/
theorem ensureGeneration_eq_ok {generation : List Char} {contents : List UInt8}
    (h : ensureGeneration before generation contents = .ok after) :
    after generation = some contents ∧ contents.length ≤ maxManagedFileBytes ∧
      ensureGeneration after generation contents = .ok after := by
  have hthere : ∀ directory : StateDirectory, directory generation = some contents →
      contents.length ≤ maxManagedFileBytes →
      ensureGeneration directory generation contents = .ok directory := by
    intro directory hsome hshort
    simp [ensureGeneration, hsome, ensureThat, hshort]
  rw [ensureGeneration, bind_eq_ok] at h
  obtain ⟨_, hshort, h⟩ := h
  have hshort := ensureThat_eq_ok.1 hshort
  split at h
  · rename_i existing hexisting
    simp only [bind_eq_ok, ensureThat_eq_ok] at h
    obtain ⟨_, -, _, rfl, ⟨⟩⟩ := h
    exact ⟨hexisting, hshort, hthere _ hexisting hshort⟩
  · obtain ⟨⟩ := h
    have hsome := Function.update_self generation (some contents) before
    exact ⟨hsome, hshort, hthere _ hsome hshort⟩

/-- What a writer that accepts hosts has left in the directory. -/
structure Prepared (paths : SshPaths) (identity : HostIdentity) (hosts : List ManagedSshHost)
    (validated : List ValidatedHost) (prepared : PreparedSshFiles)
    (directory : StateDirectory) : Prop where
  hosts : ValidatedHosts identity hosts validated
  generation : prepared.generation = generationName (encodeUtf8 (renderKnownHosts validated))
  path : prepared.knownHosts = joinPath paths.directory prepared.generation
  config : ∃ config, renderConfig identity validated prepared.knownHosts = .ok config ∧
    prepared.config = encodeUtf8 config
  stored : directory prepared.generation = some (encodeUtf8 (renderKnownHosts validated))
  short : (encodeUtf8 (renderKnownHosts validated)).length ≤ maxManagedFileBytes
  again : prepareOpensshFiles paths identity (validated.map normalizedHost) directory =
    .ok (prepared, directory)

theorem prepareOpensshFiles_eq_ok
    (h : prepareOpensshFiles paths identity hosts before = .ok (prepared, after)) :
    ∃ validated, Prepared paths identity hosts validated prepared after := by
  simp only [prepareOpensshFiles, bind_eq_ok] at h
  obtain ⟨rendered, hrendered, directory, hdirectory, ⟨⟩⟩ := h
  obtain ⟨validated, hrendered⟩ := renderFiles_eq_ok hrendered
  obtain ⟨hstored, hshort, hagain⟩ := ensureGeneration_eq_ok hdirectory
  have hknown := hrendered.knownHosts
  refine ⟨validated, hrendered.hosts, hrendered.generation, rfl, ⟨_, hrendered.config, rfl⟩,
    hknown ▸ hstored, hknown ▸ hshort, ?_⟩
  simp only [prepareOpensshFiles, hrendered.again, ok_bind, hagain]
  rfl

theorem mapError_eq_ok {ε ε' α : Type} {f : ε → ε'} {x : Except ε α} {a : α} :
    x.mapError f = .ok a ↔ x = .ok a := by
  cases x <;> simp [Except.mapError]

section Loading

variable {prepared : PreparedSshFiles} {directory : StateDirectory}
  (h : Prepared paths identity hosts validated prepared directory)

include h

/-- The configuration of a publication leads to its generation, if there are any hosts. -/
theorem Prepared.inspectConfig :
    inspectConfig paths directory prepared.config =
      .ok ⟨some prepared.config, if validated = [] then none
        else some (prepared.knownHosts, encodeUtf8 (renderKnownHosts validated))⟩ := by
  obtain ⟨config, hconfig, hbytes⟩ := h.config
  have hpath : prepared.knownHosts ≠ [] := by
    rw [h.path, joinPath_directory]
    simp
  have hreferences := configReferences_rendered h.hosts.each hpath hconfig
  have hnul := nul_notMem_renderConfig h.hosts.each hconfig
  have hsplit : splitPath prepared.knownHosts = some (paths.directory, prepared.generation) := by
    rw [h.path, h.generation]
    exact splitPath_generation ..
  rw [Ssh.inspectConfig, hbytes, decodeUtf8_encodeUtf8]
  simp only [okOr_some, ok_bind, ensureThat, hnul, not_false_eq_true, if_true, hreferences,
    Except.mapError]
  by_cases hnone : validated = []
  · simp only [hnone, if_true]
    rfl
  · simp [hnone, hsplit, okOr_some, readGeneration, h.stored, ensureThat, h.short, ok_bind]

/-- The hosts that were read back give the files they were read from. -/
theorem Prepared.checkPublished (same : PreparedSshFiles → Bool) (hsame : same prepared = true) :
    checkPublished paths identity (validated.map normalizedHost) directory same =
      .ok (validated.map normalizedHost, directory) := by
  simp only [Ssh.checkPublished, h.again, Except.mapError, ok_bind, ensureThat, hsame, if_true]
  rfl

/-- Loading succeeds unless two of the hosts share a port. -/
theorem Prepared.load (heach : ∀ p ∈ validated, Readable identity p)
    {result : List ManagedSshHost × StateDirectory} :
    (Ssh.inspectConfig paths directory prepared.config >>= fun publication =>
      loadActiveHostsFromInspection paths identity publication directory) = .ok result ↔
      (validated.map (·.1.active.port.toNat)).Nodup ∧
        result = (validated.map normalizedHost, directory) := by
  rw [h.inspectConfig, ok_bind, loadActiveHostsFromInspection]
  by_cases hnone : validated = []
  · have hload := h.checkPublished (·.config = prepared.config) (by simp)
    subst hnone
    rw [map_nil] at hload
    simp only [if_true, hload, Except.ok.injEq, map_nil, nodup_nil, true_and]
    exact eq_comm
  · have hload := h.checkPublished (fun again =>
      again.knownHosts = prepared.knownHosts ∧ again.config = prepared.config) (by simp)
    simp only [hnone, if_false, bind_eq_ok, mapError_eq_ok,
      parseKnownHosts_rendered heach h.hosts.distinct]
    constructor
    · rintro ⟨_, ⟨hports, rfl⟩, hresult⟩
      rw [hload] at hresult
      exact ⟨hports, (Except.ok.inj hresult).symm⟩
    · rintro ⟨hports, rfl⟩
      exact ⟨_, ⟨hports, rfl⟩, hload⟩

end Loading

/-- The publication can be used: the next activation loads the hosts again, sorted by their aliases,
and the readiness check of each host finds its record in the generation. -/
structure ReadsBack (paths : SshPaths) (identity : HostIdentity) (hosts : List ManagedSshHost)
    (prepared : PreparedSshFiles) (directory : StateDirectory) : Prop where
  loads : (inspectConfig paths directory prepared.config >>= fun publication =>
    loadActiveHostsFromInspection paths identity publication directory) =
      .ok (hosts.insertionSort byAlias, directory)
  verifies : ∃ contents, directory prepared.generation = some contents ∧
    generationName contents = prepared.generation ∧
    ∀ host ∈ hosts, ∀ parsed, parsePublicKey host.hostPublicKey = .ok parsed →
      verifyHostGenerationRecord contents host parsed.normalized = .ok ()

/-- The hosts have their normal keys exactly if reading them back changes nothing. -/
theorem map_normalizedHost_eq :
    validated.map normalizedHost = validated.map Prod.fst ↔
      ∀ p ∈ validated, p.2 = p.1.hostPublicKey := by
  rw [map_inj_left]
  refine forall₂_congr fun p _ => ⟨fun h => congrArg (·.hostPublicKey) h, fun h => ?_⟩
  rw [normalizedHost, h]

theorem ValidatedHosts.mem_iff (h : ValidatedHosts identity hosts validated) :
    host ∈ hosts ↔ ∃ key, (host, key) ∈ validated := by
  rw [← (perm_insertionSort byAlias hosts).mem_iff, ← h.sorted, mem_map]
  exact ⟨fun ⟨p, hp, hhost⟩ => ⟨p.2, hhost ▸ hp⟩, fun ⟨key, hkey⟩ => ⟨(host, key), hkey, rfl⟩⟩

theorem ValidatedHosts.ports_nodup_iff (h : ValidatedHosts identity hosts validated) :
    (validated.map (·.1.active.port.toNat)).Nodup ↔ (hosts.map (·.active.port)).Nodup := by
  have hmap : validated.map (·.1.active.port.toNat) =
      ((validated.map Prod.fst).map (·.active.port)).map UInt16.toNat := by
    simp only [map_map]
    rfl
  rw [hmap, nodup_map_iff fun _ _ => UInt16.toNat_inj.1, h.sorted]
  exact ((perm_insertionSort byAlias hosts).map _).nodup_iff

theorem ValidatedHosts.key_eq (h : ValidatedHosts identity hosts validated) (hp : p ∈ validated)
    (hparsed : parsePublicKey p.1.hostPublicKey = .ok parsed) : p.2 = parsed.normalized := by
  obtain ⟨_, hkey, hnormal, -⟩ := (h.each p hp).parsed
  rw [hparsed] at hkey
  obtain ⟨⟩ := hkey
  exact hnormal.symm

theorem Prepared.readable {directory : StateDirectory}
    (h : Prepared paths identity hosts validated prepared directory)
    (halias : ∀ host ∈ hosts, IsSandboxAlias host.active.hostAlias)
    (hport : ∀ host ∈ hosts, 1024 ≤ host.active.port.toNat) :
    ∀ p ∈ validated, Readable identity p := by
  intro p hp
  have hmem := h.hosts.mem_iff.2 ⟨p.2, hp⟩
  exact ⟨h.hosts.each p hp, halias _ hmem, hport _ hmem⟩

/-- What a writer has accepted for the aliases of sandboxes and unprivileged ports can be used
exactly if no two hosts share a port and every key is in its normal form. The writer checks neither:
it only refuses two hosts that share an alias. -/
theorem published_hosts_load_iff {paths : SshPaths} {identity : HostIdentity}
    {hosts : List ManagedSshHost} {before after : StateDirectory} {prepared : PreparedSshFiles}
    (halias : ∀ host ∈ hosts, IsSandboxAlias host.active.hostAlias)
    (hport : ∀ host ∈ hosts, 1024 ≤ host.active.port.toNat)
    (h : prepareOpensshFiles paths identity hosts before = .ok (prepared, after)) :
    ReadsBack paths identity hosts prepared after ↔
      (hosts.map (·.active.port)).Nodup ∧
        ∀ host ∈ hosts, ∀ parsed, parsePublicKey host.hostPublicKey = .ok parsed →
          parsed.normalized = host.hostPublicKey := by
  obtain ⟨validated, hprepared⟩ := prepareOpensshFiles_eq_ok h
  have hhosts := hprepared.hosts
  have heach := hprepared.readable halias hport
  have hnormal : (∀ p ∈ validated, p.2 = p.1.hostPublicKey) ↔
      ∀ host ∈ hosts, ∀ parsed, parsePublicKey host.hostPublicKey = .ok parsed →
        parsed.normalized = host.hostPublicKey := by
    constructor
    · intro hkeys host hhost parsed hparsed
      obtain ⟨key, hkey⟩ := hhosts.mem_iff.1 hhost
      exact (hhosts.key_eq hkey hparsed).symm.trans (hkeys _ hkey)
    · intro hkeys p hp
      obtain ⟨parsed, hparsed, hkey, -⟩ := (hhosts.each p hp).parsed
      exact hkey.symm.trans (hkeys _ (hhosts.mem_iff.2 ⟨p.2, hp⟩) parsed hparsed)
  rw [← hhosts.ports_nodup_iff, ← hnormal, ← map_normalizedHost_eq, hhosts.sorted]
  constructor
  · intro hback
    obtain ⟨hports, hresult⟩ := (hprepared.load heach).1 hback.loads
    exact ⟨hports, (Prod.mk.inj hresult).1.symm⟩
  · rintro ⟨hports, hsame⟩
    refine ⟨(hprepared.load heach).2 ⟨hports, by rw [hsame]⟩, _, hprepared.stored,
      hprepared.generation.symm, ?_⟩
    intro host hhost parsed hparsed
    obtain ⟨key, hkey⟩ := hhosts.mem_iff.1 hhost
    have hfound := verifyHostGenerationRecord_rendered hhosts.each hhosts.distinct hports hkey
    rwa [hhosts.key_eq hkey hparsed] at hfound

/-! #### Two hosts with one port -/

/-- The paths, the key and the identity of an example. -/
def demoPaths : SshPaths := { home := "/home/demo".toList, expectedUid := 501 }

def demoKey : List Char := "AAAAC3NzaC1lZDI1NTE5AAAAI".toList ++ List.replicate 43 'A'

def demoFingerprint : List Char := fingerprintText ((decodeBase64 demoKey).getD [])

def demoIdentity : HostIdentity where
  privateKey := demoPaths.privateKey
  publicKey := keyText demoKey
  fingerprint := demoFingerprint

def demoHost (port : UInt16) (sandbox : SandboxId) : ManagedSshHost where
  active := {
    host := .localhost
    port
    hostAlias := aliasStart ++ sandbox.value.toList
    hostKeyFingerprint := demoFingerprint
    clientKeyFingerprint := demoFingerprint }
  hostPublicKey := keyText demoKey

/-- Two sandboxes, with the given ports. -/
def demoHosts (first second : UInt16) : List ManagedSshHost :=
  [demoHost first ⟨"demo-0123456789ab", .refl true⟩,
    demoHost second ⟨"next-0123456789ab", .refl true⟩]

def demoPublication (first second : UInt16) : Except SshError (PreparedSshFiles × StateDirectory) :=
  prepareOpensshFiles demoPaths demoIdentity (demoHosts first second) fun _ => none

theorem exists_of_isOk {ε α : Type} {x : Except ε α} (h : x.isOk = true) : ∃ a, x = .ok a := by
  cases x with
  | error e => exact absurd h Bool.false_ne_true
  | ok a => exact ⟨a, rfl⟩

theorem isSandboxAlias_demoHosts {first second : UInt16} :
    ∀ host ∈ demoHosts first second, IsSandboxAlias host.active.hostAlias := by
  intro host hhost
  simp only [demoHosts, mem_cons, not_mem_nil, or_false] at hhost
  rcases hhost with rfl | rfl <;> exact ⟨_, rfl⟩

theorem distinct_ports_load : ∃ prepared after,
    demoPublication 2201 2202 = .ok (prepared, after) ∧
      ReadsBack demoPaths demoIdentity (demoHosts 2201 2202) prepared after := by
  have hsome : (demoPublication 2201 2202).isOk = true := by decide +kernel
  obtain ⟨⟨prepared, after⟩, h⟩ := exists_of_isOk hsome
  have hnormal : ((demoHosts 2201 2202).all fun host =>
      (parsePublicKey host.hostPublicKey).toOption.all (·.normalized = host.hostPublicKey)) =
        true := by decide +kernel
  refine ⟨prepared, after, h, (published_hosts_load_iff isSandboxAlias_demoHosts (by decide) h).2
    ⟨by decide, fun host hhost parsed hparsed => ?_⟩⟩
  have hhost := List.all_eq_true.1 hnormal host hhost
  rw [hparsed] at hhost
  exact of_decide_eq_true hhost

/-- Both aliases are those of sandboxes, so the writer accepts the hosts, but they share a port, so
nothing that was published can be loaded again. -/
theorem shared_port_unreadable : ∃ prepared after,
    demoPublication 2201 2201 = .ok (prepared, after) ∧
      ¬ReadsBack demoPaths demoIdentity (demoHosts 2201 2201) prepared after := by
  have hsome : (demoPublication 2201 2201).isOk = true := by decide +kernel
  obtain ⟨⟨prepared, after⟩, h⟩ := exists_of_isOk hsome
  obtain ⟨validated, hprepared⟩ := prepareOpensshFiles_eq_ok h
  refine ⟨prepared, after, h, fun hback => ?_⟩
  have hread := hprepared.readable isSandboxAlias_demoHosts (by decide)
  have hports := ((hprepared.load hread).1 hback.loads).1
  exact absurd (hprepared.hosts.ports_nodup_iff.1 hports) (by decide)

end Gascan.Ssh
