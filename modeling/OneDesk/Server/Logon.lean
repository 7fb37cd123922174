import OneDesk.Server.Options

/-!
# Logging in

A login request is stored, changes the kind of the connection, and then runs
through a cascade that decides how it is approved.  Every way to be approved
ends in `send_logon_response`, which asks for the second factor first.
-/

namespace OneDesk
namespace Server

open OneDesk.Stream OneDesk.Common

namespace Env

variable (env : Env)

/-- User a terminal will run as, or why it cannot run. -/
def fillTerminalUserToken (current : Option TerminalUserToken)
    (osLogin : OsLogin) : Option TerminalUserToken × Option String :=
  if env.build.os = .windows then
    if osLogin.username ≠ "" then
      match env.isUserAdministrator osLogin.username osLogin.password with
      | .ok true => (some .selfUser, none)
      | .ok false => (current, some "The user is not an administrator.")
      | .error error => (current, some error)
    else if env.isPrelogin then
      (none, some
        "No active console user logged on, please connect and logon first.")
    else if env.isInstalled then
      match env.currentUserToken with
      | .ok token => (some (.currentLogonUser token), none)
      | .error error => (current, some error)
    else (some .selfUser, none)
  else (some .selfUser, none)

/-- Whether a terminal service runs as another kind of user. -/
def terminalUserMismatch (serviceId : String)
    (token : Option TerminalUserToken) : Bool :=
  match env.isServiceSpecifiedUser serviceId, token with
  | some isUser, some .selfUser => isUser != false
  | some isUser, some (.currentLogonUser _) => isUser != true
  | _, _ => false

end Env

namespace Connection

variable (env : Env) (conn : Connection)

/-- The answer to the challenge that proves a password. -/
def passwordResponse (password : Bytes) : Bytes :=
  env.sha256 (env.sha256 (password ++ conn.hash.salt) ++ conn.hash.challenge)

/-- Whether the stored login request proves a password. -/
def validateOnePassword (password : Bytes) : Bool :=
  if password.isEmpty then false
  else conn.passwordResponse env password == conn.lr.password

/-- The stored login request says the second factor can be left out because
its device is trusted. -/
def isTrustedDevice (host : Host) (lr : LoginRequest) : Bool :=
  conn.require2fa.isSome && !lr.hwid.isEmpty && env.enableTrustedDevices &&
    match host.trustedDevices.find? fun device => device.hwid == lr.hwid with
    | some device =>
        !device.outdate env.now && device.id == lr.myId &&
          device.name == lr.myName && device.platform == lr.myPlatform
    | none => false

/-- A file transfer is let in when the same peer id is already authorized for
remote control, the camera or a terminal. -/
def shouldAutoApproveFileTransfer (host : Host) (peerId : String) : Bool :=
  conn.fileTransfer.isSome && host.authedConns.any fun authed =>
    (authed.connType == .remote || authed.connType == .viewCamera ||
      authed.connType == .terminal) && authed.sessionKey.peerId == peerId

end Connection

namespace World

variable (env : Env) (world : World)

/-- Whether the stored login request belongs to a session seen in the last
thirty seconds. -/
def isRecentSession (tfa : Bool) : World × Bool :=
  let retained := world.modifyHost fun host => host.retainSessions env
  (retained,
    match retained.host.sessions world.conn.sessionKey with
    | some session =>
        !world.conn.lr.password.isEmpty &&
          (tfa && session.tfa ||
            !tfa && world.conn.validateOnePassword env session.randomPassword)
    | none => false)

/-- Whether the stored login request proves a password of the host. -/
def validatePassword : World × Bool :=
  if env.temporaryEnabled &&
      world.conn.validateOnePassword env world.host.temporaryPassword then
    (world.modifyHost fun host =>
      host.updateOrInsertSession env world.conn.sessionKey
        (some host.temporaryPassword) (some false), true)
  else if env.permanentEnabled &&
      world.conn.validateOnePassword env env.permanentPassword then
    (world, true)
  else (world, false)

/-- `check_failure` of one of the two tables. -/
def checkFailure (table : Fin 2) : World × Checked :=
  let checked :=
    (world.host.loginFailures table).checkFailure world.conn.ip env.minute
  (match checked.refusal with
    | some refusal =>
        (world.sendLoginError env refusal.error).emit (.alarm refusal.alarm)
    | none => world, checked)

/-- `update_failure` of one of the two tables. -/
def updateFailure (checked : Checked) (removing : Bool) (table : Fin 2) : World :=
  world.modifyHost fun host =>
    { host with
      loginFailures := Function.update host.loginFailures table
        ((host.loginFailures table).updateFailure world.conn.ip
          checked.failure checked.time removing) }

/-- Subscribe to the primary camera. -/
def trySubCameraDisplays : World :=
  if env.serverAlive && env.primaryCameraExists then
    (world.modifyHost fun host =>
      (host.addService (.video .camera 0)).onSubscribe (.video .camera 0)
        world.conn.id).emit (.subscribed (.video .camera 0))
  else world

/-- Services a remote connection has no permission for. -/
def noperms : List ServiceName :=
  let conn := world.conn
  (if !conn.peerKeyboardEnabled && !conn.showRemoteCursor then [.cursor] else []) ++
    (if !conn.showRemoteCursor then [.cursorPosition] else []) ++
    (if !conn.followRemoteWindow then [.windowFocus] else []) ++
    (if !conn.canSubClipboardService env then [.clipboard] else []) ++
    (if env.build.unixFileCopyPaste && !conn.canSubFileClipboardService env then
      [.fileClipboard] else []) ++
    (if !conn.audioEnabled then [.audio] else [])

/-- `Server::add_connection`: subscribe to every service but the other displays
and those without permission. -/
def addConnection (noperms : List ServiceName) : World :=
  ((world.host.services.map Service.name).filter fun name =>
      !(name.isVideo && name != .video .monitor env.primaryDisplayIdx) &&
        !noperms.contains name).foldl
    (fun current name =>
      (current.modifyHost fun host => host.onSubscribe name current.conn.id).emit
        (.subscribed name))
    world

/-- The countdown to the automatic disconnection, when configured. -/
def getAutoDisconnectTimer : Option (Int × Nat) :=
  if env.getOption "allow-auto-disconnect" == "Y" then
    let minute :=
      (parseU64 (env.getOption "auto-disconnect-timeout").toList).getD 10
    some (env.now, if minute = 0 then 10 else minute)
  else none

/-- Subscribe a remote connection to the services of the host, once. -/
def trySubMonitorServices : World :=
  if world.conn.isRemote && !world.conn.servicesSubed then
    let subed := world.modify fun conn => { conn with servicesSubed := true }
    if env.serverAlive then
      let timed :=
        subed.modify fun conn => { conn with
            autoDisconnectTimer := getAutoDisconnectTimer env }
      (timed.addService env (.video .monitor env.primaryDisplayIdx)).addConnection
        env (world.noperms env)
    else subed
  else world

/-- Whether the peer has to choose a Windows session first. -/
def waitSessionIdConfirm : Bool :=
  env.build.os == .windows && !world.conn.terminal && env.otherWindowsSessions &&
    (world.host.authedConns.filter
      fun authed => authed.connType != .portForward).length == 1 &&
    getVersionNumber world.conn.lr.version ≥ getVersionNumber "1.2.4"

/-- Start the terminal of the connection. -/
def initTerminalService : World :=
  match env.build.isMobile, world.conn.terminalUserToken with
  | false, some _ => world.emit .initTerminalService
  | _, _ => world

/-- The options that came with the login request are applied once. -/
def applyOptionsInLogin : World :=
  match world.conn.optionsInLogin with
  | some o =>
      (world.modify fun conn => { conn with optionsInLogin := none }).updateOptions
        env o
  | none => world

/-- What an authorized connection starts with, by its kind. -/
def startSession (waiting subService : Bool) : World :=
  match world.conn.fileTransfer with
  | some (dir, showHidden) =>
      let dir := if dir ≠ "" ∧ env.isDir dir = true then dir else ""
      if waiting then
        world.modify fun conn => { conn with delayedReadDir := some (dir, showHidden) }
      else world.readDir dir showHidden
  | none =>
      if world.conn.terminal then
        (world.modify fun conn => { conn with keyboard := false }).initTerminalService
          env
      else if world.conn.viewCamera then
        let subed := if waiting then world else world.trySubCameraDisplays env
        (subed.modify fun conn => { conn with keyboard := false }).sendPermission
          .keyboard false
      else if subService && !waiting then world.trySubMonitorServices env
      else world

/-- The encoder learns what the peer of this login decodes. -/
def updateCodecOnLogin : World :=
  world.emit (.encoderUpdate
    (match world.conn.lr.option with
    | some o => o.supportedDecoding
    | none => false))

/-- A remote connection is authorized. -/
def onRemoteAuthorized : World :=
  let updated := world.updateCodecOnLogin
  if (env.build.os = .windows ∨ env.build.os = .linux) ∧
      Env.option2bool "allow-remove-wallpaper"
        (env.getOption "allow-remove-wallpaper") = true then
    updated.emit .removeWallpaper
  else updated

/-- The answer to a login that succeeded, and the start of the session. -/
def answerLogon : World :=
  if world.conn.portForwardSocket.isSome then world.send .loginPeerInfo
  else if env.build.os = .linux ∧ world.conn.isRemote = true ∧
      env.displayServerError ≠ "" then
    world.send (.loginError env.displayServerError false)
  else
    let waiting := world.waitSessionIdConfirm env
    if world.conn.fileTransfer.isSome || world.conn.terminal then
      ((world.send .loginPeerInfo).applyOptionsInLogin env).startSession env
        waiting false
    else if world.conn.viewCamera then
      ((world.updateCodecOnLogin.send .loginPeerInfo).applyOptionsInLogin env
        ).startSession env waiting false
    else
      let authorized := world.onRemoteAuthorized env
      match env.displaysOnLogin with
      | .error error =>
          ((authorized.send (.loginError error false)).applyOptionsInLogin env
            ).startSession env waiting false
      | .ok _ =>
          ((authorized.send .loginPeerInfo).applyOptionsInLogin env
            ).startSession env waiting true

/-- The connection becomes authorized for the kind it has now. -/
def authorize : World :=
  let connType := world.conn.authConnType
  let key := world.conn.sessionKey
  let printer := connType == .remote &&
    getVersionNumber world.conn.lr.version ≥ getVersionNumber "1.3.9" &&
    world.conn.lr.myPlatform == "Windows"
  let authorized :=
    (world.modify fun conn =>
      { conn with
        authorized := true
        authedConnId := some connType
        sessionLastRecvTime :=
          (world.host.sessions key).map Session.lastRecvTime }).modifyHost
      fun host =>
        { host with
          authedConns := host.authedConns ++ [⟨world.conn.id, connType, key, printer⟩] }
  if connType = .remote ∨ connType = .viewCamera then
    authorized.emit (.qos .onConnectionOpen)
  else authorized

/-- Whether the second factor is still missing. -/
def secondFactorMissing : World × Bool :=
  if world.conn.require2fa.isSome then
    let recent := world.isRecentSession env true
    (recent.1, !recent.2 && !world.conn.fromSwitch)
  else (world, false)

/-- `send_logon_response`. -/
def sendLogonResponse : World :=
  if world.conn.authorized then world
  else
    let factor := world.secondFactorMissing env
    if factor.2 then (factor.1.emit .telegramCode).sendLoginError env "2FA Required"
    else factor.1.authorize.answerLogon env

/-- Store a login request, without believing anything in it but a trusted
device. -/
def handleLoginRequestWithoutValidation (lr : LoginRequest) : World :=
  world.modify fun conn => { conn with
      lr := lr
      optionsInLogin :=
        match lr.option with
        | some o => some o
        | none => world.conn.optionsInLogin
      require2fa :=
        if world.conn.isTrustedDevice env world.host lr then none
        else world.conn.require2fa
      videoAckRequired := lr.videoAckRequired }

/-- The connection becomes one for a terminal. -/
def markTerminal (serviceId : String) : World :=
  world.modify fun conn => { conn with
    terminal := true
    terminalPersistent :=
      match world.conn.optionsInLogin with
      | some o => o.terminalPersistent == some .yes
      | none => world.conn.terminalPersistent
    terminalServiceId := serviceId }

/-- Windows learns about a user by logging it on. -/
def logonUser (osLogin : OsLogin) : World :=
  if env.build.os = .windows ∧ osLogin.username ≠ "" then
    world.emit (.logonUser osLogin)
  else world

/-- The user of the terminal, on desktops. -/
def checkTerminalUser (lr : LoginRequest) (serviceId : String) : World × Bool :=
  if env.build.isMobile then (world, true)
  else
    let token := env.fillTerminalUserToken world.conn.terminalUserToken lr.osLogin
    let filled :=
      (world.logonUser env lr.osLogin).modify fun conn =>
        { conn with terminalUserToken := token.1 }
    match token.2 with
    | some error => (filled.sendLoginError env error, false)
    | none =>
        if env.terminalUserMismatch serviceId token.1 then
          (filled.sendLoginError env "Terminal service user mismatch detected.",
            false)
        else (filled, true)

/-- A terminal login. -/
def loginTerminal (lr : LoginRequest) (serviceId : String) : World × Bool :=
  if !env.permission "enable-terminal" then
    (world.sendLoginError env "No permission of terminal", false)
  else if env.build.os = .windows ∧ lr.osLogin.username ≠ "" ∧
      env.isInstalled = false then
    (world.sendLoginError env "Supported only in the installed version.", false)
  else (world.markTerminal serviceId).checkTerminalUser env lr serviceId

/-- Address a port forwarding login asks for. -/
def forwardAddress (host : String) (port : Int) : String :=
  if host = "RDP" ∧ port = 0 then "localhost:3389"
  else (if host = "" then "localhost" else host) ++ ":" ++ toString port

/-- A port forwarding login: the target is connected at once. -/
def loginPortForward (host : String) (port : Int) : World × Bool :=
  if !env.permission "enable-tunnel" then
    (world.sendLoginError env "No permission of IP tunneling", false)
  else
    let address := forwardAddress host port
    let tried :=
      (world.modify fun conn => { conn with portForwardAddress := address }).emit
        (.connect address)
    if env.connects address then
      (tried.modify fun conn => { conn with portForwardSocket := some address }, true)
    else
      (tried.sendLoginError env ("Failed to access remote " ++
        (if host = "RDP" ∧ port = 0 then "RDP" else address) ++
          ", please make sure if it is open"), false)

/-- The kind of connection a login asks for; `false` gives the connection up. -/
def loginKind (lr : LoginRequest) : World × Bool :=
  match lr.union with
  | some (.fileTransfer dir showHidden) =>
      if env.permission "enable-file-transfer" then
        (world.modify fun conn =>
          { conn with fileTransfer := some (dir, showHidden) }, true)
      else (world.sendLoginError env "No permission of file transfer", false)
  | some .viewCamera =>
      if env.permission "enable-camera" then
        (world.modify fun conn => { conn with viewCamera := true }, true)
      else (world.sendLoginError env "No permission of viewing camera", false)
  | some (.terminal serviceId) => world.loginTerminal env lr serviceId
  | some (.portForward host port) => world.loginPortForward env host port
  | none =>
      if env.isInPrivacyMode then
        (world.sendLoginError env "Someone turns on privacy mode, exit", false)
      else (world, true)

/-- The login is approved: log in and tell the connection manager. -/
def approveLogin (lr : LoginRequest) : World :=
  let logon := world.sendLogonResponse env
  logon.tryStartCm lr.myId lr.myName logon.conn.authorized

/-- The user name a peer dialed is an address or the id of this host. -/
def dialed (lr : LoginRequest) : Bool :=
  env.isIpStr lr.username || env.isDomainPortStr lr.username ||
    lr.username == env.getId

/-- The password branch of the cascade. -/
def loginByPassword (lr : LoginRequest) (errMsg : String) : World :=
  let checked := world.checkFailure env 0
  if checked.2.refusal.isSome then checked.1
  else
    let validated := checked.1.validatePassword env
    if validated.2 then
      let counted := validated.1.updateFailure checked.2 true 0
      if errMsg = "" then counted.approveLogin env lr
      else counted.sendLoginError env errMsg
    else
      let counted := validated.1.updateFailure checked.2 false 0
      if errMsg = "" then
        (counted.sendLoginError env "Wrong Password").tryStartCm
          lr.myId lr.myName false
      else counted.sendLoginError env "Desktop session not ready, password wrong"

/-- A login has to be approved by a click. -/
def clickOnly : Bool :=
  (env.approveMode == .click &&
      !(env.getBuiltinOption "allow-logon-screen-password" == "Y" && env.isLogon)) ||
    env.approveMode == .both && !env.hasValidPassword world.host

/-- How a login is approved; `false` gives the connection up. -/
def loginCascade (lr : LoginRequest) (errMsg : String) : World × Bool :=
  if !dialed env lr then (world.sendLoginError env "Offline", false)
  else if world.conn.shouldAutoApproveFileTransfer world.host lr.myId then
    (world.approveLogin env lr, true)
  else if env.approveMode = .auto then (world.approveLogin env lr, true)
  else if world.clickOnly env then
    let told := world.tryStartCm lr.myId lr.myName false
    (if getVersionNumber lr.version ≥ getVersionNumber "1.2.0" then
      told.sendLoginError env "No Password Access"
    else told, true)
  else
    let recent := world.isRecentSession env false
    if recent.2 then
      (if errMsg = "" then recent.1.approveLogin env lr
      else recent.1.sendLoginError env errMsg, true)
    else if lr.password.isEmpty then
      (if errMsg = "" then recent.1.tryStartCm lr.myId lr.myName false
      else recent.1.sendLoginError env "Desktop session not ready, password empty",
        true)
    else (recent.1.loginByPassword env lr errMsg, true)

/-- Why the desktop of a headless Linux host is not there. -/
def desktopError (lr : LoginRequest) : String :=
  if env.build.os = .linux then env.tryStartDesktop lr.osLogin else ""

/-- A headless Linux host tries to start its desktop for the user named. -/
def tryStartDesktop (lr : LoginRequest) : World :=
  if env.build.os = .linux then world.emit (.startDesktop lr.osLogin) else world

/-- A login request. -/
def onLoginRequest (lr : LoginRequest) : World × Bool :=
  let stored := world.handleLoginRequestWithoutValidation env lr
  if stored.conn.authorized then (stored, true)
  else
    match stored.loginKind env lr with
    | (refused, false) => (refused, false)
    | (kind, true) =>
        let started := (kind.tryStartCmIpc env).tryStartDesktop env lr
        let errMsg := desktopError env lr
        if errMsg ≠ "" ∧ errMsg ≠ "Desktop session not ready" then
          (started.sendLoginError env errMsg, true)
        else started.loginCascade env lr errMsg

/-- The code of the second factor. -/
def onAuth2fa (code : String) (hwid : Bytes) : World :=
  let checked := world.checkFailure env 1
  if checked.2.refusal.isSome then checked.1
  else
    match world.conn.require2fa.bind fun totp => env.checkCurrent totp code with
    | none => checked.1
    | some false =>
        (checked.1.updateFailure checked.2 false 1).sendLoginError env "Wrong 2FA Code"
    | some true =>
        let counted := checked.1.updateFailure checked.2 true 1
        let passed :=
          (counted.modify fun conn => { conn with require2fa := none }).modifyHost
            fun host => host.setSession2fa env counted.conn.sessionKey
        let logon := passed.sendLogonResponse env
        let told := logon.tryStartCm logon.conn.lr.myId logon.conn.lr.myName
          logon.conn.authorized
        if !hwid.isEmpty && env.enableTrustedDevices then
          told.modifyHost fun host =>
            host.addTrustedDevice env
              ⟨hwid, env.now, told.conn.lr.myId, told.conn.lr.myName,
                told.conn.lr.myPlatform⟩
        else told

/-- A switch-sides answer with the uuid stored for that peer. -/
def onSwitchSidesResponse (uuid : Bytes) (request : Option LoginRequest) : World :=
  match env.build.flutter, request with
  | true, some lr =>
      let stored := world.handleLoginRequestWithoutValidation env lr
      let retained := stored.host.retainSwitchSides env
      let removed := stored.modifyHost fun _ =>
        { retained with
          switchSidesUuid := Function.update retained.switchSidesUuid lr.myId none }
      if uuid.length = 16 ∧
          (retained.switchSidesUuid lr.myId).map Prod.snd = some uuid then
        let switched :=
          removed.modify fun conn => { conn with fromSwitch := true }
        let logon := switched.sendLogonResponse env
        (logon.tryStartCm lr.myId lr.myName logon.conn.authorized).tryStartCmIpc env
      else removed
  | _, _ => world

/-- The password of a request is accepted by `is_recent_session(false)` or by
`validate_password`, where the cascade asks them. -/
def accepts (env : Env) (world : World) (lr : LoginRequest) : Bool :=
  !world.clickOnly env &&
    ((world.isRecentSession env false).2 ||
      !lr.password.isEmpty && (world.checkFailure env 0).2.refusal.isNone &&
        (world.validatePassword env).2)

/-- The code of the second factor is right and not blocked. -/
def provesCode (env : Env) (world : World) (code : String) : Bool :=
  (world.checkFailure env 1).2.refusal.isNone &&
    (world.conn.require2fa.bind fun totp => env.checkCurrent totp code) == some true

end World

end Server
end OneDesk
