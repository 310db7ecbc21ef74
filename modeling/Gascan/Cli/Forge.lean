import Gascan.Cli.Diagnostic
import Gascan.Lib.Program

/-!
# `Gascan.Cli.Forge`: logging a sandbox in to a forge

`configureForge` logs the guest in to GitHub or GitLab with a token, checks who is logged in,
registers the guest's key where it is missing, and checks that SSH works. All of it is done by
commands in the guest (`GuestCall`), whose answers are arbitrary. The token is the standard input of
the first command; a copy is kept until it has succeeded, to redact its output. `KeyReaders` stands
for the JSON parser.
-/

namespace Gascan.Configure

open Lib Lib.Text

/-- The bytes of a text. -/
def word (text : String) : List UInt8 := encodeUtf8 text.toList

/-! ### Commands in the guest -/

/-- A command in the guest with its environment and standard input. -/
structure GuestCommand where
  argv : List (List UInt8)
  environment : List (String × String)
  stdin : Option (List UInt8)
  deriving DecidableEq

/-- What `GuestRunner` is asked for. -/
inductive GuestCall where
  | execute (sandboxId : List Char) (command : GuestCommand)
  | executeInteractive (sandboxId : List Char) (argv : List (List UInt8))
  deriving DecidableEq

/-- The answer to a call. No caller looks at an error. -/
def GuestCall.Reply : GuestCall → Type
  | .execute .. => Option GuestOutput
  | .executeInteractive .. => Option Int

inductive Forge where
  | github
  | gitlab
  deriving DecidableEq

inductive GitProtocol where
  | ssh
  | https
  deriving DecidableEq

/-- `protocol_name`. -/
def GitProtocol.name : GitProtocol → String
  | .ssh => "ssh"
  | .https => "https"

inductive RegistrationState where
  | existing
  | added
  | skipped
  | failed
  deriving DecidableEq

structure ForgeSetup where
  forge : Forge
  hostname : List Char
  login : List Char
  authenticated : Bool
  authenticationKey : RegistrationState
  signingKey : RegistrationState
  deriving DecidableEq

/-- The part of the guest's Git configuration that is used here. -/
structure GitSetup where
  protocol : GitProtocol
  publicKey : List Char
  deriving DecidableEq

structure ForgeRequest where
  forge : Forge
  hostname : List Char
  protocol : GitProtocol
  token : List UInt8
  key : GitSetup
  deriving DecidableEq

inductive ConfigureError where
  | guestCommand (category : String) (message : String)
  | invalidOutput (category : String)
  | forge (setup : ForgeSetup) (category : String) (hostname : List Char) (message : List Char)
      (retry : String)
  deriving DecidableEq

/-- A program that calls commands in the guest. -/
abbrev Conf (α : Type) : Type := Prog GuestCall GuestCall.Reply ConfigureError α

def execute (sandboxId : List Char) (command : GuestCommand) : Conf (Option GuestOutput) :=
  Prog.perform (GuestCall.execute sandboxId command)

def executeInteractive (sandboxId : List Char) (argv : List (List UInt8)) : Conf (Option Int) :=
  Prog.perform (GuestCall.executeInteractive sandboxId argv)

/-- A helper of `forge.rs`: a command without standard input. -/
def executePlain (sandboxId : List Char) (argv : List (List UInt8))
    (environment : List (String × String)) : Conf (Option GuestOutput) :=
  execute sandboxId { argv, environment, stdin := none }

/-! ### The client of a forge -/

namespace Forge

def binary : Forge → String
  | .github => "gh"
  | .gitlab => "glab"

def authenticationCategory : Forge → String
  | .github => "GitHub authentication"
  | .gitlab => "GitLab authentication"

def registrationCategory : Forge → String
  | .github => "GitHub key registration"
  | .gitlab => "GitLab key registration"

def sshCategory : Forge → String
  | .github => "GitHub SSH verification"
  | .gitlab => "GitLab SSH verification"

def retry : Forge → String
  | .github => "gascan configure gh"
  | .gitlab => "gascan configure glab"

def environment : Forge → List (String × String)
  | .github => [("GH_NO_UPDATE_NOTIFIER", "1"), ("NO_COLOR", "1")]
  | .gitlab => [("GLAB_CHECK_UPDATE", "0"), ("NO_COLOR", "1")]

/-- `login_argv`. -/
def loginArgv (forge : Forge) (hostname : List Char) (protocol : GitProtocol) :
    List (List UInt8) :=
  [word forge.binary, word "auth", word "login", word "--hostname", encodeUtf8 hostname,
    word "--git-protocol", word protocol.name,
    match forge with
    | .github => word "--with-token"
    | .gitlab => word "--stdin"]

/-- `status_argv`. -/
def statusArgv (forge : Forge) (hostname : List Char) : List (List UInt8) :=
  [word forge.binary, word "auth", word "status", word "--hostname", encodeUtf8 hostname]

end Forge

/-- `forge_error`. -/
def forgeError (setup : ForgeSetup) (category : String) (message : List Char) : ConfigureError :=
  .forge setup category setup.hostname message setup.forge.retry

/-! ### Checks of the request -/

/-- Whether a text is an IPv4 address. -/
def isIpv4 (text : List Char) : Bool :=
  let parts := splitOn '.' text
  parts.length = 4 && parts.all fun part =>
    part.length ≤ 3 && (part.head? ≠ some '0' || part.length = 1) &&
      (parseUnsigned 256 part).isSome && part.head? ≠ some '+'

/-- `valid_hostname`. An IPv6 address has colons, which no label may have, so the source's test for
addresses is that for IPv4. -/
def validHostname (hostname : List Char) : Bool :=
  if byteLength hostname > 253 || isIpv4 hostname || hostname.any (fun c => 128 ≤ c.toNat) ||
      hostname.any (fun c => 'A' ≤ c && c ≤ 'Z') then false
  else
    let labels := splitOn '.' hostname
    2 ≤ labels.length && labels.all fun label =>
      !label.isEmpty && label.length ≤ 63 && label.head? ≠ some '-' && label.getLast? ≠ some '-' &&
        label.all fun c => isLower c || isDigit c || c = '-'

/-- `ssh_wire_string`: a string with its length before it, and the offset after it. -/
def sshWireString (blob : List Nat) (offset : Nat) : Option (List Nat × Nat) :=
  let lengthBytes := (blob.drop offset).take 4
  if lengthBytes.length ≠ 4 then none
  else
    let length := lengthBytes.foldl (fun value byte => value * 256 + byte) 0
    let start := offset + 4
    if blob.length < start + length then none
    else some ((blob.drop start).take length, start + length)

structure KeyIdentity where
  algorithm : List Char
  body : List Nat
  deriving DecidableEq

/-- `public_key_identity`. The strict decoder accepts only canonical base64, so the source's check
that the body is encoded to the same text again is left to it. -/
def publicKeyIdentity (publicKey : List Char) (sandboxId : Option (List Char)) :
    Option KeyIdentity :=
  match fields publicKey with
  | algorithm :: encoded :: rest => do
    let comment := rest.head?
    if 1 < rest.length then none
    if sandboxId.any fun id => comment ≠ some ("gascan-".toList ++ id) then none
    let body ← decodeBase64 encoded
    if body.isEmpty then none
    let (decoded, offset) ← sshWireString body 0
    if decoded ≠ (encodeUtf8 algorithm).map UInt8.toNat || offset = body.length then none
    if sandboxId.isSome then
      if algorithm ≠ "ssh-ed25519".toList then none
      let (keyBytes, keyOffset) ← sshWireString body offset
      if keyBytes.length ≠ 32 || keyOffset ≠ body.length then none
    some { algorithm, body := body.drop offset }
  | _ => none

/-- `key_matches`. -/
def keyMatches (publicKey : List Char) (wanted : KeyIdentity) : Bool :=
  publicKeyIdentity publicKey none = some wanted

/-! ### Responses -/

/-- `bounded_text`. -/
def boundedText (output : GuestOutput) : Option (List Char) :=
  let length := output.stdout.length + output.stderr.length
  if length = 0 || maxResponseBytes < length then none
  else
    let separator := if !output.stdout.isEmpty && !output.stderr.isEmpty then [10] else []
    decodeUtf8 (output.stdout ++ separator ++ output.stderr)

/-- The bytes that `parse_json` reads. -/
def jsonBody (output : GuestOutput) : Option (List UInt8) :=
  if output.code ≠ 0 || !output.stderr.isEmpty || output.stdout.isEmpty ||
      maxResponseBytes < output.stdout.length then none
  else some output.stdout

inductive GitLabUsage where
  | auth
  | signing
  | authAndSigning
  deriving DecidableEq

/-- How a response in JSON is read: the text of a key, and on GitLab its usage. -/
structure KeyReaders where
  githubKeys : List UInt8 → Option (List (List Char))
  githubKey : List UInt8 → Option (List Char)
  gitlabKeys : List UInt8 → Option (List (List Char × GitLabUsage))
  gitlabKey : List UInt8 → Option (List Char × GitLabUsage)

/-- `valid_login`. -/
def validLogin (login : List Char) : Bool :=
  !login.isEmpty && byteLength login ≤ 255 &&
    login.all fun c => isAlpha c || isDigit c || c = '-' || c = '_' || c = '.'

/-- `str::trim`. -/
def trim (text : List Char) : List Char :=
  ((text.dropWhile isWhitespace).reverse.dropWhile isWhitespace).reverse

/-- `str::contains`. -/
def containsPart (part : String) (text : List Char) : Bool := (splitOnce part.toList text).isSome

/-- `parse_protocol`. -/
def parseProtocol (value : List Char) : Option GitProtocol :=
  if value = "ssh".toList then some .ssh
  else if value = "https".toList then some .https
  else none

/-- The login in the rest of a line, before a path in parentheses. -/
def loginBeforePath (value : List Char) : Option (List Char) :=
  match splitOnce " (".toList value with
  | some (login, path) =>
    if path.getLast? ≠ some ')' || !validLogin login then none else some login
  | none => none

structure GitHubStatusAccount where
  login : List Char
  active : Option Bool
  protocol : Option GitProtocol

/-- `finish_github_account`: the login of the active account so far. -/
def finishGithubAccount (account : Option GitHubStatusAccount) (requested : GitProtocol)
    (activeLogin : Option (List Char)) : Option (Option (List Char)) := do
  let account ← account
  let active ← account.active
  let protocol ← account.protocol
  if active then
    if protocol ≠ requested || activeLogin.isSome then none else some (some account.login)
  else some activeLogin

/-- One line of `parse_github_login`. -/
def githubStatusLine (hostname : List Char) (requested : GitProtocol)
    (state : Option GitHubStatusAccount × Option (List Char)) (line : List Char) :
    Option (Option GitHubStatusAccount × Option (List Char)) :=
  let line := trim line
  let start := "✓ Logged in to ".toList ++ hostname ++ " account ".toList
  match line.dropPrefix? start with
  | some value => do
    let activeLogin ← match state.1 with
      | some account => finishGithubAccount (some account) requested state.2
      | none => some state.2
    let login ← loginBeforePath value
    some (some { login, active := none, protocol := none }, activeLogin)
  | none =>
    if containsPart "Logged in to " line then none
    else
      match line.dropPrefix? "- Active account: ".toList with
      | some value => do
        let account ← state.1
        if account.active.isSome then none
        let active ← if value = "true".toList then some true
          else if value = "false".toList then some false
          else none
        some (some { account with active := some active }, state.2)
      | none =>
        match line.dropPrefix? "- Git operations protocol: ".toList with
        | some value => do
          let account ← state.1
          if account.protocol.isSome then none
          let protocol ← parseProtocol value
          some (some { account with protocol := some protocol }, state.2)
        | none => some state

/-- `parse_github_login`. -/
def parseGithubLogin (text hostname : List Char) (requested : GitProtocol) :
    Option (List Char) := do
  let state ← (lines text).foldlM (githubStatusLine hostname requested) (none, none)
  let activeLogin ← finishGithubAccount state.1 requested state.2
  activeLogin

/-- One line of `parse_gitlab_login`. -/
def gitlabStatusLine (hostname : List Char) (state : Option (List Char) × Option GitProtocol)
    (line : List Char) : Option (Option (List Char) × Option GitProtocol) :=
  let line := trim line
  match line.dropPrefix? ("✓ Logged in to ".toList ++ hostname ++ " as ".toList) with
  | some value => do
    if state.1.isSome then none
    let login ← loginBeforePath value
    some (some login, state.2)
  | none =>
    if containsPart "Logged in to " line then none
    else
      match line.dropPrefix?
        ("✓ Git operations for ".toList ++ hostname ++ " configured to use ".toList) with
      | some value => do
        if state.2.isSome then none
        let name ← value.reverse.dropPrefix? " protocol.".toList.reverse
        let protocol ← parseProtocol name.reverse
        some (state.1, some protocol)
      | none => if containsPart "Git operations for " line then none else some state

/-- `parse_gitlab_login`. -/
def parseGitlabLogin (text hostname : List Char) (requested : GitProtocol) :
    Option (List Char) := do
  let state ← (lines text).foldlM (gitlabStatusLine hostname) (none, none)
  if state.2 = some requested then state.1 else none

/-- `parse_login`. -/
def parseLogin (forge : Forge) (hostname : List Char) (protocol : GitProtocol)
    (output : GuestOutput) : Option (List Char) := do
  if output.code ≠ 0 then none
  let text ← boundedText output
  match forge with
  | .github => parseGithubLogin text hostname protocol
  | .gitlab => parseGitlabLogin text hostname protocol

/-- The text between a start and an end, if it has both. -/
def between (start stop : String) (line : List Char) : Option (List Char) := do
  let rest ← line.dropPrefix? start.toList
  let reversed ← rest.reverse.dropPrefix? stop.toList.reverse
  some reversed.reverse

/-- `valid_ssh_response`. -/
def validSshResponse (forge : Forge) (expectedLogin : List Char) (output : GuestOutput) : Bool :=
  let expectedCode : Int := match forge with
    | .github => 1
    | .gitlab => 0
  if output.code ≠ expectedCode then false
  else
    match boundedText output with
    | none => false
    | some text => (lines text).any fun line =>
      let login := match forge with
        | .github => between "Hi "
          "! You've successfully authenticated, but GitHub does not provide shell access." line
        | .gitlab => between "Welcome to GitLab, @" "!" line
      login.any fun login => login = expectedLogin && validLogin login

/-! ### The protocol -/

/-- The category of the errors of `configure_ssh_host`. -/
def sshHostCategory : String := "developer-home SSH host setup"

/-- `configure_ssh_host`. -/
def configureSshHost (sandboxId hostname : List Char) : Conf Unit := do
  let output ← executePlain sandboxId
    [word "/usr/local/bin/configure-developer-home", word "ssh-host", word "--hostname",
      encodeUtf8 hostname] []
  match output with
  | none => Prog.throw (.guestCommand sshHostCategory "helper execution was unavailable")
  | some output =>
    if output.code ≠ 0 then
      Prog.throw (.guestCommand sshHostCategory "helper did not complete successfully")
    else if !output.stdout.isEmpty || !output.stderr.isEmpty then
      Prog.throw (.invalidOutput sshHostCategory)
    else Pure.pure ()

/-- Whether `configure_ssh_host` succeeds. -/
def sshHostReady (sandboxId hostname : List Char) : Conf Bool := do
  let result ← (configureSshHost sandboxId hostname).attempt
  Pure.pure result.isOk

/-- The title that a key is registered under. -/
def keyTitle (sandboxId : List Char) : List UInt8 := encodeUtf8 ("Gas Can ".toList ++ sandboxId)

/-- `github_list`. -/
def githubList (readers : KeyReaders) (sandboxId hostname : List Char) (endpoint : String) :
    Conf (Option (List (List Char))) := do
  let output ← executePlain sandboxId
    [word "gh", word "api", word "--hostname", encodeUtf8 hostname, word endpoint]
    Forge.github.environment
  Pure.pure ((output.bind jsonBody).bind readers.githubKeys)

/-- `github_register`. -/
def githubRegister (readers : KeyReaders) (sandboxId hostname : List Char) (endpoint : String)
    (publicKey : List Char) (wanted : KeyIdentity) : Conf Bool := do
  let output ← executePlain sandboxId
    [word "gh", word "api", word "--hostname", encodeUtf8 hostname, word "--method", word "POST",
      word endpoint, word "--raw-field", word "title=" ++ keyTitle sandboxId, word "--raw-field",
      word "key=" ++ encodeUtf8 publicKey] Forge.github.environment
  Pure.pure (((output.bind jsonBody).bind readers.githubKey).any (keyMatches · wanted))

/-- What a list of registered keys says about the wanted one. -/
def listedState (keys : Option (List (List Char))) (wanted : KeyIdentity) : RegistrationState :=
  match keys with
  | some keys => if keys.any (keyMatches · wanted) then .existing else .skipped
  | none => .failed

/-- The state after a registration. -/
def registeredState (registered : Bool) : RegistrationState :=
  if registered then .added else .failed

/-- Whether the SSH host of a guest that needs one is configured. -/
def configureHostFor (protocol : GitProtocol) (sandboxId hostname : List Char) : Conf Bool :=
  if protocol = .ssh then sshHostReady sandboxId hostname else Pure.pure false

/-- Registers a key, if the SSH host is ready for it. -/
def registerWhen (protocol : GitProtocol) (sshHostConfigured : Bool) (register : Conf Bool) :
    Conf Bool :=
  if protocol ≠ .ssh ∨ sshHostConfigured then register else Pure.pure false

/-- The authentication key of `configure_github`. -/
def githubAuthentication (readers : KeyReaders) (sandboxId hostname : List Char)
    (protocol : GitProtocol) (publicKey : List Char) (wanted : KeyIdentity)
    (listed : RegistrationState) : Conf (RegistrationState × Bool) :=
  if listed = .skipped then do
    let sshHostConfigured ← configureHostFor protocol sandboxId hostname
    let registered ← registerWhen protocol sshHostConfigured
      (githubRegister readers sandboxId hostname "user/keys" publicKey wanted)
    Pure.pure (registeredState registered, sshHostConfigured)
  else Pure.pure (listed, false)

/-- The signing key of `configure_github`. -/
def githubSigning (readers : KeyReaders) (sandboxId hostname publicKey : List Char)
    (wanted : KeyIdentity) (listed : RegistrationState) : Conf RegistrationState :=
  if listed = .skipped then do
    let registered ←
      githubRegister readers sandboxId hostname "user/ssh_signing_keys" publicKey wanted
    Pure.pure (registeredState registered)
  else Pure.pure listed

/-- `configure_github`: the setup, whether a registration failed, and whether the SSH host is
configured. -/
def configureGithub (readers : KeyReaders) (sandboxId hostname : List Char)
    (protocol : GitProtocol) (key : GitSetup) (wanted : KeyIdentity) (setup : ForgeSetup) :
    Conf (ForgeSetup × Bool × Bool) := do
  let authentication ← githubList readers sandboxId hostname "user/keys"
  let signing ← githubList readers sandboxId hostname "user/ssh_signing_keys"
  let (authenticationKey, sshHostConfigured) ← githubAuthentication readers sandboxId hostname
    protocol key.publicKey wanted (listedState authentication wanted)
  let signingKey ← githubSigning readers sandboxId hostname key.publicKey wanted
    (listedState signing wanted)
  Pure.pure ({ setup with authenticationKey, signingKey },
    decide (authenticationKey = .failed ∨ signingKey = .failed), sshHostConfigured)

/-- `gitlab_register`. -/
def gitlabRegister (readers : KeyReaders) (sandboxId hostname publicKey : List Char)
    (wanted : KeyIdentity) : Conf Bool := do
  let output ← executePlain sandboxId
    [word "glab", word "api", word "--hostname", encodeUtf8 hostname, word "--method", word "POST",
      word "/user/keys", word "--raw-field", word "title=" ++ keyTitle sandboxId,
      word "--raw-field", word "key=" ++ encodeUtf8 publicKey, word "--raw-field",
      word "usage_type=auth_and_signing"] Forge.gitlab.environment
  Pure.pure (((output.bind jsonBody).bind readers.gitlabKey).any fun created =>
    created.2 = .authAndSigning && keyMatches created.1 wanted)

/-- `configure_gitlab`. One key serves for authentication and signing, so a key that is registered
for one of them only is a failure. -/
def configureGitlab (readers : KeyReaders) (sandboxId hostname : List Char)
    (protocol : GitProtocol) (key : GitSetup) (wanted : KeyIdentity) (setup : ForgeSetup) :
    Conf (ForgeSetup × Bool × Bool) := do
  let output ← executePlain sandboxId
    [word "glab", word "api", word "--hostname", encodeUtf8 hostname, word "/user/keys"]
    Forge.gitlab.environment
  match (output.bind jsonBody).bind readers.gitlabKeys with
  | none =>
    Pure.pure ({ setup with authenticationKey := .failed, signingKey := .failed }, true, false)
  | some keys =>
    let mine := keys.filter fun entry => keyMatches entry.1 wanted
    let authentication := mine.any fun entry => entry.2 ≠ .signing
    let signing := mine.any fun entry => entry.2 ≠ .auth
    if authentication || signing then
      Pure.pure
        ({ setup with
            authenticationKey := if authentication then .existing else .failed
            signingKey := if signing then .existing else .failed },
          !(authentication && signing), false)
    else do
      let sshHostConfigured ← configureHostFor protocol sandboxId hostname
      let registered ← registerWhen protocol sshHostConfigured
        (gitlabRegister readers sandboxId hostname key.publicKey wanted)
      let state := registeredState registered
      Pure.pure ({ setup with authenticationKey := state, signingKey := state }, !registered,
        sshHostConfigured)

/-- The part of `verify_ssh` after the host is configured. The first of the two commands lets the
user accept the key of the host. -/
def verifySshLogin (sandboxId : List Char) (forge : Forge) (hostname expectedLogin : List Char) :
    Conf Bool := do
  let argv := [word "ssh", word "-T", word "git@" ++ encodeUtf8 hostname]
  let interactive ← executeInteractive sandboxId argv
  if interactive ≠ some 0 ∧ interactive ≠ some 1 then Pure.pure false
  else do
    let output ← executePlain sandboxId argv []
    Pure.pure (output.any (validSshResponse forge expectedLogin ·))

/-- `verify_ssh`. -/
def verifySsh (sandboxId : List Char) (forge : Forge) (hostname expectedLogin : List Char)
    (configureHost : Bool) : Conf Bool :=
  if configureHost then do
    let ready ← sshHostReady sandboxId hostname
    if ready then verifySshLogin sandboxId forge hostname expectedLogin else Pure.pure false
  else verifySshLogin sandboxId forge hostname expectedLogin

/-- The registration of the key with the forge. -/
def configureKeys (readers : KeyReaders) (sandboxId : List Char) (forge : Forge)
    (hostname : List Char) (protocol : GitProtocol) (key : GitSetup) (wanted : KeyIdentity)
    (setup : ForgeSetup) : Conf (ForgeSetup × Bool × Bool) :=
  match forge with
  | .github => configureGithub readers sandboxId hostname protocol key wanted setup
  | .gitlab => configureGitlab readers sandboxId hostname protocol key wanted setup

/-- The SSH verification of `configure_forge`, if there is something to verify. -/
def verifySetup (sandboxId : List Char) (forge : Forge) (hostname : List Char)
    (protocol : GitProtocol) (setup : ForgeSetup) (sshHostConfigured : Bool) : Conf Bool :=
  if protocol = .ssh ∧
      (setup.authenticationKey = .existing ∨ setup.authenticationKey = .added) then
    verifySsh sandboxId forge hostname setup.login (!sshHostConfigured)
  else Pure.pure true

/-- The part of `configure_forge` after the login command. -/
def configureLoggedIn (readers : KeyReaders) (sandboxId : List Char) (forge : Forge)
    (hostname : List Char) (protocol : GitProtocol) (key : GitSetup) (wanted : KeyIdentity)
    (setup : ForgeSetup) : Conf ForgeSetup := do
  let status ← executePlain sandboxId (forge.statusArgv hostname) forge.environment
  match status.bind (parseLogin forge hostname protocol) with
  | none => Prog.throw (forgeError setup forge.authenticationCategory
    "native authentication could not be verified".toList)
  | some login => do
    let (setup, registrationFailed, sshHostConfigured) ← configureKeys readers sandboxId forge
      hostname protocol key wanted { setup with login, authenticated := true }
    let verified ← verifySetup sandboxId forge hostname protocol setup sshHostConfigured
    if registrationFailed then
      Prog.throw (forgeError setup forge.registrationCategory
        "one or more key registrations did not complete".toList)
    else if !verified then
      Prog.throw (forgeError setup forge.sshCategory
        "SSH authentication could not be verified".toList)
    else Pure.pure setup

/-- The message about a login command that failed. -/
def loginFailure (output : GuestOutput) (token : List UInt8) : List Char :=
  (safeNativeDiagnostic output token).getD
    ("native authentication exited with status ".toList ++ (toString output.code).toList)

/-- The setup of a request before anything is done. -/
def ForgeRequest.setup (request : ForgeRequest) : ForgeSetup where
  forge := request.forge
  hostname := request.hostname
  login := []
  authenticated := false
  authenticationKey := .skipped
  signingKey := .skipped

/-- An error of the authentication, with the setup as it was at the start. -/
def authenticationError (request : ForgeRequest) (message : List Char) : ConfigureError :=
  forgeError request.setup request.forge.authenticationCategory message

/-- The command that logs in, with the token on its standard input. -/
def loginCommand (request : ForgeRequest) : GuestCommand where
  argv := request.forge.loginArgv request.hostname request.protocol
  environment := request.forge.environment
  stdin := some request.token

/-- The part of `configure_forge` after the reply to the login command. -/
def afterLogin (readers : KeyReaders) (sandboxId : List Char) (request : ForgeRequest)
    (wanted : KeyIdentity) : Option GuestOutput → Conf ForgeSetup
  | none => Prog.throw
    (authenticationError request "authentication command could not be executed".toList)
  | some output =>
    if output.code = 0 then
      configureLoggedIn readers sandboxId request.forge request.hostname request.protocol
        request.key wanted request.setup
    else Prog.throw (authenticationError request (loginFailure output request.token))

/-- The checks of `configure_forge` before the login command: the identity of the guest's key. -/
def checkForgeRequest (sandboxId : List Char) (request : ForgeRequest) :
    Except ConfigureError KeyIdentity :=
  if !validHostname request.hostname then .error (.invalidOutput "forge request")
  else
    match publicKeyIdentity request.key.publicKey (some sandboxId) with
    | none => .error (authenticationError request "request validation did not complete".toList)
    | some wanted =>
      if request.key.protocol ≠ request.protocol then
        .error (authenticationError request "request validation did not complete".toList)
      else .ok wanted

/-- `configure_forge`. -/
def configureForge (readers : KeyReaders) (sandboxId : List Char) (request : ForgeRequest) :
    Conf ForgeSetup := do
  let wanted ← Prog.ofExcept (checkForgeRequest sandboxId request)
  let login ← execute sandboxId (loginCommand request)
  afterLogin readers sandboxId request wanted login

end Gascan.Configure
