import Gascan.Cli.Forge

/-!
# `Gascan.Proofs.Forge`: where the token of a forge goes

Two runs of `configureForge` that differ in the token only are compared. The guest answers both in
the same way: `answers n` is its answer to the command number `n`, whatever the command is.

`configureForge_confines_token` says that both runs issue the same commands, up to the standard
input of the first one, and end with the same result, up to the message of a login that failed. A
token that is no part of a word the commands are made of (`vocabulary`) is nowhere but on the
standard input of the login. `configureForge_names_token` is a token that needs this condition.
-/

namespace Gascan.Configure

open Lib Lib.Prog Lib.Text List

/-! ### Transcripts -/

/-- What the guest answers to a command of either kind. -/
structure Answer where
  output : Option GuestOutput
  exit : Option Int

def Answer.reply (answer : Answer) : (call : GuestCall) → call.Reply
  | .execute .. => answer.output
  | .executeInteractive .. => answer.exit

/-- Answers a command and notes it. -/
def record (call : GuestCall) (answer : Answer) (noted : List GuestCall) :
    call.Reply × List GuestCall :=
  (answer.reply call, noted ++ [call])

/-- The result of a program and the commands it issues, when the guest gives these answers. -/
def transcript {α : Type} (p : Conf α) (answers : Nat → Answer) :
    Except ConfigureError α × List GuestCall :=
  p.follow record (fun n => { choice := answers n }) []

namespace GuestCall

/-- The standard input of a command. -/
def stdin : GuestCall → Option (List UInt8)
  | .execute _ command => command.stdin
  | .executeInteractive .. => none

/-- A command without its standard input. -/
def outer : GuestCall → GuestCall
  | .execute sandboxId command => .execute sandboxId { command with stdin := none }
  | .executeInteractive sandboxId argv => .executeInteractive sandboxId argv

/-- Everything a command says beside its standard input: the sandbox, the arguments, and the names
and values of its environment. -/
def words : GuestCall → List (List UInt8)
  | .execute sandboxId command =>
    encodeUtf8 sandboxId ::
      (command.argv ++ command.environment.flatMap fun entry => [word entry.1, word entry.2])
  | .executeInteractive sandboxId argv => encodeUtf8 sandboxId :: argv

end GuestCall

/-- Commands that carry a token on the standard input of the first one and nowhere else. -/
structure Confines (token : List UInt8) (calls : List GuestCall) : Prop where
  outside : ∀ call ∈ calls, ∀ w ∈ call.words, ¬token <:+: w
  login : calls = [] ∨ ∃ login rest, calls = login :: rest ∧ login.stdin = some token ∧
    ∀ call ∈ rest, call.stdin = none

/-! ### The words of the commands -/

/-- The fixed words of the commands for both forges. -/
def sharedWords : List String :=
  ["auth", "login", "status", "api", "--hostname", "--git-protocol", "--method", "POST",
    "--raw-field", "NO_COLOR", "1", "ssh", "-T", "/usr/local/bin/configure-developer-home",
    "ssh-host"]

/-- The fixed words of the commands for one forge. -/
def forgeWords : Forge → List String
  | .github =>
    ["gh", "--with-token", "user/keys", "user/ssh_signing_keys", "GH_NO_UPDATE_NOTIFIER"]
  | .gitlab =>
    ["glab", "--stdin", "/user/keys", "usage_type=auth_and_signing", "GLAB_CHECK_UPDATE", "0"]

/-- The words that the commands for a request are made of. -/
def vocabulary (sandboxId : List Char) (request : ForgeRequest) : List (List UInt8) :=
  (sharedWords ++ forgeWords request.forge ++ [request.protocol.name]).map word ++
    [encodeUtf8 sandboxId, encodeUtf8 request.hostname,
      word "git@" ++ encodeUtf8 request.hostname, word "title=" ++ keyTitle sandboxId,
      word "key=" ++ encodeUtf8 request.key.publicKey]

/-- A token that is no part of any word of the commands. -/
def Foreign (sandboxId : List Char) (request : ForgeRequest) (token : List UInt8) : Prop :=
  ∀ w ∈ vocabulary sandboxId request, ¬token <:+: w

instance (sandboxId : List Char) (request : ForgeRequest) (token : List UInt8) :
    Decidable (Foreign sandboxId request token) :=
  inferInstanceAs (Decidable (∀ w ∈ vocabulary sandboxId request, ¬token <:+: w))

/-- A command that is made of the words of a request and has no standard input. -/
structure Plain (sandboxId : List Char) (request : ForgeRequest) (call : GuestCall) : Prop where
  words : ∀ w ∈ call.words, w ∈ vocabulary sandboxId request
  stdin : call.stdin = none

section Words

variable {sandboxId : List Char} {request : ForgeRequest} {P : GuestCall → Prop}

theorem word_mem_vocabulary {s : String}
    (h : s ∈ sharedWords ++ forgeWords request.forge ++ [request.protocol.name]) :
    word s ∈ vocabulary sandboxId request :=
  mem_append_left _ (mem_map_of_mem h)

theorem mem_forgeWords_of_environment (forge : Forge) : ∀ entry ∈ forge.environment,
    entry.1 ∈ sharedWords ++ forgeWords forge ∧ entry.2 ∈ sharedWords ++ forgeWords forge := by
  cases forge <;> decide

theorem words_environment (request : ForgeRequest) :
    ∀ w ∈ request.forge.environment.flatMap fun entry => [word entry.1, word entry.2],
      w ∈ vocabulary sandboxId request := by
  intro w hw
  obtain ⟨entry, hentry, hw⟩ := mem_flatMap.1 hw
  obtain ⟨hname, hvalue⟩ := mem_forgeWords_of_environment request.forge entry hentry
  rcases mem_pair.1 hw with rfl | rfl
  · exact word_mem_vocabulary (mem_append_left _ hname)
  · exact word_mem_vocabulary (mem_append_left _ hvalue)

/-- A command is made of the words of a request if its arguments and its environment are. -/
theorem words_execute {command : GuestCommand}
    (hargv : ∀ w ∈ command.argv, w ∈ vocabulary sandboxId request)
    (henvironment : command.environment = [] ∨ command.environment = request.forge.environment) :
    ∀ w ∈ (GuestCall.execute sandboxId command).words, w ∈ vocabulary sandboxId request := by
  intro w hw
  rcases mem_cons.1 hw with rfl | hw
  · simp [vocabulary]
  rcases mem_append.1 hw with hw | hw
  · exact hargv w hw
  rcases henvironment with h | h
  · rw [h] at hw
    exact absurd hw not_mem_nil
  · rw [h] at hw
    exact words_environment request w hw

theorem uses_executePlain {argv : List (List UInt8)} {environment : List (String × String)}
    (hargv : ∀ w ∈ argv, w ∈ vocabulary sandboxId request)
    (henvironment : environment = [] ∨ environment = request.forge.environment) :
    (executePlain sandboxId argv environment).Uses (Plain sandboxId request) :=
  (uses_perform _).2 { words := words_execute hargv henvironment, stdin := rfl }

/-! ### Every command after the login is made of these words -/

theorem uses_configureSshHost :
    (configureSshHost sandboxId request.hostname).Uses (Plain sandboxId request) := by
  refine uses_bind (uses_executePlain ?_ (.inl rfl)) fun output => ?_
  · simp [vocabulary, sharedWords]
  · cases output with
    | none => trivial
    | some output =>
      dsimp only
      split_ifs <;> trivial

theorem uses_sshHostReady :
    (sshHostReady sandboxId request.hostname).Uses (Plain sandboxId request) :=
  uses_bind (uses_attempt uses_configureSshHost) fun _ => trivial

variable (readers : KeyReaders) (protocol : GitProtocol) (wanted : KeyIdentity) (setup : ForgeSetup)

section

variable (hforge : request.forge = .github) {endpoint : String}
  (hendpoint : endpoint ∈ forgeWords .github)

include hforge hendpoint

theorem word_mem_github : word endpoint ∈ vocabulary sandboxId request :=
  word_mem_vocabulary (by simp [hforge, hendpoint])

theorem uses_githubList :
    (githubList readers sandboxId request.hostname endpoint).Uses (Plain sandboxId request) := by
  refine uses_bind (uses_executePlain ?_ (.inr (by rw [hforge]))) fun _ => trivial
  simpa [vocabulary, sharedWords, forgeWords, hforge] using word_mem_github hforge hendpoint

theorem uses_githubRegister :
    (githubRegister readers sandboxId request.hostname endpoint request.key.publicKey
      wanted).Uses (Plain sandboxId request) := by
  refine uses_bind (uses_executePlain ?_ (.inr (by rw [hforge]))) fun _ => trivial
  simpa [vocabulary, sharedWords, forgeWords, hforge] using word_mem_github hforge hendpoint

end

theorem uses_gitlabRegister (hforge : request.forge = .gitlab) :
    (gitlabRegister readers sandboxId request.hostname request.key.publicKey wanted).Uses
      (Plain sandboxId request) := by
  refine uses_bind (uses_executePlain ?_ (.inr (by rw [hforge]))) fun _ => trivial
  simp [vocabulary, sharedWords, forgeWords, hforge]

theorem uses_ite {α : Type} {c : Prop} [Decidable c] {p q : Conf α}
    (hp : p.Uses P) (hq : q.Uses P) : (if c then p else q).Uses P := by
  split_ifs
  · exact hp
  · exact hq

theorem uses_configureHostFor :
    (configureHostFor protocol sandboxId request.hostname).Uses (Plain sandboxId request) :=
  uses_ite uses_sshHostReady (uses_pure _)

theorem uses_registerWhen {protocol : GitProtocol}
    {sshHostConfigured : Bool} {register : Conf Bool} (h : register.Uses P) :
    (registerWhen protocol sshHostConfigured register).Uses P :=
  uses_ite h (uses_pure _)

theorem uses_githubAuthentication (listed : RegistrationState) (hforge : request.forge = .github) :
    (githubAuthentication readers sandboxId request.hostname protocol request.key.publicKey wanted
      listed).Uses (Plain sandboxId request) := by
  refine uses_ite ?_ (uses_pure _)
  refine uses_bind (uses_configureHostFor protocol) fun sshHostConfigured => ?_
  exact uses_bind (uses_registerWhen (uses_githubRegister readers wanted hforge (by decide)))
    fun _ => trivial

theorem uses_githubSigning (listed : RegistrationState) (hforge : request.forge = .github) :
    (githubSigning readers sandboxId request.hostname request.key.publicKey wanted listed).Uses
      (Plain sandboxId request) := by
  refine uses_ite ?_ (uses_pure _)
  exact uses_bind (uses_githubRegister readers wanted hforge (by decide)) fun _ => trivial

theorem uses_configureGithub (hforge : request.forge = .github) :
    (configureGithub readers sandboxId request.hostname protocol request.key wanted setup).Uses
      (Plain sandboxId request) := by
  refine uses_bind (uses_githubList readers hforge (by decide)) fun authentication => ?_
  refine uses_bind (uses_githubList readers hforge (by decide)) fun signing => ?_
  refine uses_bind (uses_githubAuthentication readers protocol wanted _ hforge) fun state => ?_
  exact uses_bind (uses_githubSigning readers wanted _ hforge) fun _ => trivial

theorem uses_configureGitlab (hforge : request.forge = .gitlab) :
    (configureGitlab readers sandboxId request.hostname protocol request.key wanted setup).Uses
      (Plain sandboxId request) := by
  refine uses_bind (uses_executePlain ?_ (.inr (by rw [hforge]))) fun output => ?_
  · simp [vocabulary, sharedWords, forgeWords, hforge]
  dsimp only
  cases (output.bind jsonBody).bind readers.gitlabKeys with
  | none => trivial
  | some keys =>
    refine uses_ite (uses_pure _) ?_
    refine uses_bind (uses_configureHostFor protocol) fun sshHostConfigured => ?_
    exact uses_bind (uses_registerWhen (uses_gitlabRegister readers wanted hforge))
      fun _ => trivial

theorem uses_verifySshLogin (forge : Forge) (login : List Char) :
    (verifySshLogin sandboxId forge request.hostname login).Uses (Plain sandboxId request) := by
  have hargv : ∀ w ∈ [word "ssh", word "-T", word "git@" ++ encodeUtf8 request.hostname],
      w ∈ vocabulary sandboxId request := by
    simp [vocabulary, sharedWords]
  have hinteractive : Plain sandboxId request (.executeInteractive sandboxId
      [word "ssh", word "-T", word "git@" ++ encodeUtf8 request.hostname]) :=
    { words := forall_mem_cons.2 ⟨by simp [vocabulary], hargv⟩
      stdin := rfl }
  refine uses_bind ((uses_perform _).2 hinteractive) fun code => ?_
  refine uses_ite (uses_pure _) ?_
  exact uses_bind (uses_executePlain hargv (.inl rfl)) fun _ => trivial

theorem uses_verifySsh (forge : Forge) (login : List Char) (configureHost : Bool) :
    (verifySsh sandboxId forge request.hostname login configureHost).Uses
      (Plain sandboxId request) := by
  refine uses_ite ?_ (uses_verifySshLogin forge login)
  refine uses_bind uses_sshHostReady fun ready => ?_
  exact uses_ite (uses_verifySshLogin forge login) (uses_pure _)

theorem uses_configureKeys :
    (configureKeys readers sandboxId request.forge request.hostname protocol request.key wanted
      setup).Uses (Plain sandboxId request) := by
  cases hforge : request.forge with
  | github => exact uses_configureGithub readers protocol wanted setup hforge
  | gitlab => exact uses_configureGitlab readers protocol wanted setup hforge

theorem uses_configureLoggedIn :
    (configureLoggedIn readers sandboxId request.forge request.hostname request.protocol
      request.key wanted setup).Uses (Plain sandboxId request) := by
  refine uses_bind (uses_executePlain ?_ (.inr rfl)) fun status => ?_
  · cases h : request.forge <;>
      simp [Forge.statusArgv, Forge.binary, vocabulary, sharedWords, forgeWords, h]
  dsimp only
  cases status.bind (parseLogin request.forge request.hostname request.protocol) with
  | none => trivial
  | some login =>
    refine uses_bind (uses_configureKeys readers _ wanted _) fun state => ?_
    refine uses_bind (uses_ite (uses_verifySsh ..) (uses_pure _)) fun verified => ?_
    exact uses_ite (uses_throw _) (uses_ite (uses_throw _) (uses_pure _))

theorem words_loginCommand : ∀ w ∈ (GuestCall.execute sandboxId (loginCommand request)).words,
    w ∈ vocabulary sandboxId request := by
  refine words_execute ?_ (.inr rfl)
  cases h : request.forge <;>
    simp [loginCommand, Forge.loginArgv, Forge.binary, vocabulary, sharedWords, forgeWords, h]

end Words

/-! ### Two runs -/

section Transcript

variable {α : Type}

/-- What was noted before a program starts stays in front of its commands. -/
theorem follow_record (p : Conf α) (answers : Nat → Answer) (noted : List GuestCall) :
    p.follow record (fun n => { choice := answers n }) noted =
      ((transcript p answers).1, noted ++ (transcript p answers).2) := by
  induction p generalizing answers noted with
  | pure a => simp [transcript, follow]
  | throw e => simp [transcript, follow]
  | call c k ih =>
    simp only [transcript, follow, record, id]
    rw [ih _ (fun n => answers (n + 1)), ih _ (fun n => answers (n + 1)) ([] ++ [c])]
    simp

theorem transcript_call (c : GuestCall) (k : c.Reply → Conf α) (answers : Nat → Answer) :
    transcript (.call c k) answers =
      ((transcript (k ((answers 0).reply c)) fun n => answers (n + 1)).1,
        c :: (transcript (k ((answers 0).reply c)) fun n => answers (n + 1)).2) := by
  rw [transcript, follow, record]
  exact follow_record _ (fun n => answers (n + 1)) [c]

theorem forall_mem_transcript {P : GuestCall → Prop} {p : Conf α} (hp : p.Uses P)
    (answers : Nat → Answer) : ∀ c ∈ (transcript p answers).2, P c := by
  induction p generalizing answers with
  | pure a => exact nofun
  | throw e => exact nofun
  | call c k ih =>
    rw [transcript_call]
    exact forall_mem_cons.2 ⟨hp.1, ih _ (hp.2 _) _⟩

theorem transcript_execute (sandboxId : List Char) (command : GuestCommand)
    (k : Option GuestOutput → Conf α) (answers : Nat → Answer) :
    transcript ((execute sandboxId command).bind k) answers =
      ((transcript (k (answers 0).output) fun n => answers (n + 1)).1,
        .execute sandboxId command ::
          (transcript (k (answers 0).output) fun n => answers (n + 1)).2) :=
  transcript_call (.execute sandboxId command) k answers

end Transcript

/-- Two results that are the same, or are the error of one failed login with the message that each
token gives. -/
def Agree (request : ForgeRequest) (login : Option GuestOutput) (t1 t2 : List UInt8)
    (r1 r2 : Except ConfigureError ForgeSetup) : Prop :=
  r1 = r2 ∨ ∃ output, login = some output ∧ output.code ≠ 0 ∧
    r1 = .error (authenticationError request (loginFailure output t1)) ∧
    r2 = .error (authenticationError request (loginFailure output t2))

/-- A request with another token. -/
def ForgeRequest.withToken (request : ForgeRequest) (token : List UInt8) : ForgeRequest :=
  { request with token }

section Token

variable (readers : KeyReaders) (sandboxId : List Char) (request : ForgeRequest)

theorem configureForge_withToken (token : List UInt8) :
    configureForge readers sandboxId (request.withToken token) =
      (Prog.ofExcept (checkForgeRequest sandboxId request)).bind fun wanted =>
        (execute sandboxId (loginCommand (request.withToken token))).bind
          (afterLogin readers sandboxId (request.withToken token) wanted) :=
  rfl

variable {readers sandboxId request}

/-- After the login only the message of its failure depends on the token. -/
theorem afterLogin_withToken (wanted : KeyIdentity) (t1 t2 : List UInt8)
    (login : Option GuestOutput) :
    afterLogin readers sandboxId (request.withToken t1) wanted login =
        afterLogin readers sandboxId (request.withToken t2) wanted login ∨
      ∃ output, login = some output ∧ output.code ≠ 0 ∧
        ∀ token, afterLogin readers sandboxId (request.withToken token) wanted login =
          .throw (authenticationError request (loginFailure output token)) := by
  cases login with
  | none => exact .inl rfl
  | some output =>
    by_cases hcode : output.code = 0
    · refine .inl ?_
      simp only [afterLogin, hcode, if_true]
      rfl
    · refine .inr ⟨output, rfl, hcode, fun token => ?_⟩
      simp only [afterLogin, hcode, if_false]
      rfl

theorem uses_afterLogin (wanted : KeyIdentity) (login : Option GuestOutput) :
    (afterLogin readers sandboxId request wanted login).Uses (Plain sandboxId request) := by
  cases login with
  | none => trivial
  | some output => exact uses_ite (uses_configureLoggedIn readers wanted _) (uses_throw _)

/-- A token that is foreign to a request stays on the standard input of the login. -/
theorem confines_configureForge {token : List UInt8} (h : Foreign sandboxId request token)
    (answers : Nat → Answer) :
    Confines token
      (transcript (configureForge readers sandboxId (request.withToken token)) answers).2 := by
  rw [configureForge_withToken]
  cases checkForgeRequest sandboxId request with
  | error e => exact { outside := nofun, login := .inl rfl }
  | ok wanted =>
    rw [ofExcept_ok, pure_bind, transcript_execute]
    have huses : (afterLogin readers sandboxId (request.withToken token) wanted
        (answers 0).output).Uses (Plain sandboxId (request.withToken token)) :=
      uses_afterLogin wanted _
    have hplain := forall_mem_transcript huses fun n => answers (n + 1)
    refine { outside := forall_mem_cons.2 ⟨?_, ?_⟩, login := .inr ⟨_, _, rfl, rfl, ?_⟩ }
    · exact fun w hw => h w (words_loginCommand w hw)
    · exact fun call hcall w hw => h w ((hplain call hcall).words w hw)
    · exact fun call hcall => (hplain call hcall).stdin

/-- Two runs with the same answers issue the same commands up to standard input, and end with the
same result up to the message of a failed login. -/
theorem transcript_withToken (t1 t2 : List UInt8) (answers : Nat → Answer) :
    (transcript (configureForge readers sandboxId (request.withToken t1)) answers).2.map
        GuestCall.outer =
      (transcript (configureForge readers sandboxId (request.withToken t2)) answers).2.map
        GuestCall.outer ∧
    Agree request (answers 0).output t1 t2
      (transcript (configureForge readers sandboxId (request.withToken t1)) answers).1
      (transcript (configureForge readers sandboxId (request.withToken t2)) answers).1 := by
  rw [configureForge_withToken, configureForge_withToken]
  cases checkForgeRequest sandboxId request with
  | error e => exact ⟨rfl, .inl rfl⟩
  | ok wanted =>
    simp only [ofExcept_ok, pure_bind, transcript_execute, map_cons]
    -- The two login commands are equal without their standard input.
    have houter : (GuestCall.execute sandboxId (loginCommand (request.withToken t1))).outer =
        (GuestCall.execute sandboxId (loginCommand (request.withToken t2))).outer := rfl
    rw [houter]
    rcases afterLogin_withToken wanted t1 t2 (answers 0).output with
      hsame | ⟨output, hlogin, hcode, hfailed⟩
    · rw [hsame]
      exact ⟨rfl, .inl rfl⟩
    · rw [hfailed t1, hfailed t2]
      exact ⟨rfl, .inr ⟨output, hlogin, hcode, rfl, rfl⟩⟩

/-- **The token of a forge is confined.** For a guest that answers two runs in the same way, the
runs issue the same commands up to standard input, and end with the same result up to the message
of a failed login. Tokens that are foreign to the request are only on the standard input of the one
login command. -/
theorem configureForge_confines_token {t₁ t₂ : List UInt8} (h₁ : Foreign sandboxId request t₁)
    (h₂ : Foreign sandboxId request t₂) (answers : Nat → Answer) :
    let first := transcript (configureForge readers sandboxId (request.withToken t₁)) answers
    let second := transcript (configureForge readers sandboxId (request.withToken t₂)) answers
    first.2.map GuestCall.outer = second.2.map GuestCall.outer ∧
      Confines t₁ first.2 ∧ Confines t₂ second.2 ∧
      Agree request (answers 0).output t₁ t₂ first.1 second.1 := by
  obtain ⟨hcalls, hresults⟩ := transcript_withToken t₁ t₂ answers
  exact ⟨hcalls, confines_configureForge h₁ answers, confines_configureForge h₂ answers, hresults⟩

end Token

/-! ### A token that is the name of the client -/

/-- The texts of a request beside its token. -/
def ForgeRequest.texts (request : ForgeRequest) (sandboxId : List Char) : List (List UInt8) :=
  [encodeUtf8 sandboxId, encodeUtf8 request.hostname, word request.protocol.name,
    word request.key.protocol.name, encodeUtf8 request.key.publicKey]

def demoId : List Char := "demo-0123456789ab".toList

def demoRequest : ForgeRequest where
  forge := .github
  hostname := "forge.example".toList
  protocol := .ssh
  token := []
  key :=
    { protocol := .ssh
      publicKey := "ssh-ed25519 AAAAC3NzaC1lZDI1NTE5AAAAI".toList ++ List.replicate 43 'A' ++
        " gascan-demo-0123456789ab".toList }

def noReaders : KeyReaders := ⟨fun _ => none, fun _ => none, fun _ => none, fun _ => none⟩

def noAnswers : Nat → Answer := fun _ => { output := none, exit := none }

/-- A token that is no part of the request, but of an argument of the login command. -/
theorem configureForge_names_token :
    word "gh" ≠ [] ∧ (∀ text ∈ demoRequest.texts demoId, ¬word "gh" <:+: text) ∧
      ∃ call ∈ (transcript (configureForge noReaders demoId
          (demoRequest.withToken (word "gh"))) noAnswers).2,
        ∃ w ∈ call.words, word "gh" <:+: w := by
  decide +kernel

/-- Two tokens that are confined. -/
theorem configureForge_confines_demo :
    (Foreign demoId demoRequest (word "secret-one") ∧
      Foreign demoId demoRequest (word "secret-two")) ∧
    Confines (word "secret-one") (transcript (configureForge noReaders demoId
      (demoRequest.withToken (word "secret-one"))) noAnswers).2 := by
  have hone : Foreign demoId demoRequest (word "secret-one") := by decide +kernel
  have htwo : Foreign demoId demoRequest (word "secret-two") := by decide +kernel
  exact ⟨⟨hone, htwo⟩, (configureForge_confines_token hone htwo noAnswers).2.1⟩

end Gascan.Configure
