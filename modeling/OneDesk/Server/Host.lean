import OneDesk.Server.Failures
import OneDesk.Server.Message

/-!
# The host process

Tables shared by all connections of a host, and what the host answers when a
connection asks the platform, the configuration or the network.
-/

namespace OneDesk
namespace Server

open OneDesk.Stream

/-- What a session is filed under: three values the peer declares. -/
structure SessionKey where
  peerId : String
  name : String
  sessionId : UInt64
  deriving DecidableEq

/-- A session that may log in again.  Its time of last receipt is a cell shared
with the connection, named by its index. -/
structure Session where
  lastRecvTime : Nat
  randomPassword : Bytes
  tfa : Bool
  deriving DecidableEq

/-- What a connection was authorized for. -/
inductive AuthConnType
  | remote
  | fileTransfer
  | portForward
  | viewCamera
  | terminal
  deriving DecidableEq

/-- An authorized connection. -/
structure AuthedConn where
  connId : Int
  connType : AuthConnType
  sessionKey : SessionKey
  printer : Bool
  deriving DecidableEq

/-- A device that needs no second factor. -/
structure TrustedDevice where
  hwid : Bytes
  time : Int
  id : String
  name : String
  platform : String
  deriving DecidableEq

/-- Devices are trusted for ninety days. -/
def TrustedDevice.outdate (device : TrustedDevice) (now : Int) : Bool :=
  device.time + 90 * 24 * 60 * 60 * 1000 < now

/-- What a video service captures. -/
inductive VideoSource
  | monitor
  | camera
  deriving DecidableEq

/-- Name of a service of the host. -/
inductive ServiceName
  | video (source : VideoSource) (index : Nat)
  | audio
  | clipboard
  | fileClipboard
  | cursor
  | cursorPosition
  | windowFocus
  | other (name : String)
  deriving DecidableEq

/-- Whether a service sends video. -/
def ServiceName.isVideo : ServiceName → Bool
  | .video _ _ => true
  | _ => false

/-- A service and the connections subscribed to it. -/
structure Service where
  name : ServiceName
  subscribers : List Int
  deriving DecidableEq

/-- Tables that decide about logins. -/
structure LoginTables where
  loginFailures : Fin 2 → Failures
  sessions : SessionKey → Option Session
  instants : Nat → Int
  nextInstant : Nat
  authedConns : List AuthedConn
  switchSidesUuid : String → Option (Int × Bytes)
  trustedDevices : List TrustedDevice
  temporaryPassword : Bytes

/-- What all connections of a host share. -/
structure Host extends LoginTables where
  services : List Service

/-- Modes in which a login is approved. -/
inductive ApproveMode
  | both
  | password
  | click
  | auto
  deriving DecidableEq

/-- Passwords a host accepts. -/
inductive VerificationMethod
  | onlyUseTemporaryPassword
  | onlyUsePermanentPassword
  | useBothPasswords
  deriving DecidableEq

/-- User a terminal runs as. -/
inductive TerminalUserToken
  | selfUser
  | currentLogonUser (token : Nat)
  deriving DecidableEq

/-- What the world outside a connection answers during one event: the
configuration, the platform, the network, the clock and the ciphers. -/
structure Env where
  build : Build
  now : Int
  getOption : String → String
  getBuiltinOption : String → String
  getId : String
  permanentPassword : Bytes
  autoPassword : Bytes
  sha256 : Bytes → Bytes
  checkCurrent : String → String → Option Bool
  isIpStr : String → Bool
  isDomainPortStr : String → Bool
  keycodeToRdevKey : UInt32 → Nat
  isModifierKey : Nat → Bool
  connects : String → Bool
  isDir : String → Bool
  serverAlive : Bool
  primaryDisplayIdx : Nat
  primaryCameraExists : Bool
  isInPrivacyMode : Bool
  isPrivacyModeSupported : Bool
  isPrelogin : Bool
  isLocked : Bool
  isLogonUi : Bool
  isInstalled : Bool
  isUserAdministrator : String → String → Except String Bool
  currentUserToken : Except String Nat
  isServiceSpecifiedUser : String → Option Bool
  tryStartDesktop : OsLogin → String
  displayServerError : String
  displaysOnLogin : Except String Unit
  otherWindowsSessions : Bool
  hasSessionId : Bool
  sessionSwitchable : Nat → Bool
  onlyLowerWindows : Bool
  whiteboardSupported : Bool
  userInfo : String
  isWhitelisted : IpAddr → Bool
  mainWindowMissing : Bool
  privacyModeConnId : Option Int
  readJobsError : Option String
  sendError : Option String

namespace Env

variable (env : Env)

/-- Whether a configuration value turns an option on. -/
def option2bool (option value : String) : Bool :=
  if "enable-".toList.isPrefixOf option.toList then value != "N"
  else if "allow-".toList.isPrefixOf option.toList || option == "stop-service" ||
      option == "direct-server" || option == "force-always-relay" then
    value == "Y"
  else value != "N"

/-- Whether the configuration grants a permission. -/
def permission (option : String) : Bool :=
  if env.build.flutter && !env.build.isMobile &&
      env.getOption "access-mode" == "full" then true
  else if env.build.flutter && !env.build.isMobile &&
      env.getOption "access-mode" == "view" then false
  else option2bool option (env.getOption option)

/-- How logins are approved; anything unknown is automatic. -/
def approveMode : ApproveMode :=
  let mode := env.getOption "approve-mode"
  if mode = "password" then .password
  else if mode = "click" then .click
  else if mode = "both" then .both
  else .auto

/-- Which passwords are accepted. -/
def verificationMethod : VerificationMethod :=
  let method := env.getOption "verification-method"
  if method = "use-temporary-password" then .onlyUseTemporaryPassword
  else if method = "use-permanent-password" then .onlyUsePermanentPassword
  else .useBothPasswords

/-- Whether the temporary password is accepted. -/
def temporaryEnabled : Bool :=
  env.verificationMethod != .onlyUsePermanentPassword

/-- Whether the permanent password is accepted. -/
def permanentEnabled : Bool :=
  env.verificationMethod != .onlyUseTemporaryPassword

/-- Whether some password can be accepted. -/
def hasValidPassword (host : Host) : Bool :=
  env.temporaryEnabled && !host.temporaryPassword.isEmpty ||
    env.permanentEnabled && !env.permanentPassword.isEmpty

/-- Whether devices can be trusted to skip the second factor. -/
def enableTrustedDevices : Bool :=
  option2bool "enable-trusted-devices" (env.getOption "enable-trusted-devices")

/-- Whether the login screen is shown. -/
def isLogon : Bool :=
  match env.build.os with
  | .windows => env.isPrelogin || env.isLogonUi
  | .linux | .macos => env.isPrelogin || env.isLocked
  | .android | .ios => env.isPrelogin

/-- The minute `check_failure` counts in, as an `i32`. -/
def minute : Int :=
  (env.now / 60000).bmod (2 ^ 32)

end Env

namespace Host

variable (env : Env) (host : Host)

/-- Sessions are forgotten thirty seconds after the last receipt. -/
def retainSessions : Host :=
  { host with
    sessions := fun key => (host.sessions key).filter fun session =>
      env.now - host.instants session.lastRecvTime < 30000 }

/-- Insert a session with a new cell for its time. -/
def insertSession (key : SessionKey) (randomPassword : Bytes) (tfa : Bool) : Host :=
  { host with
    sessions := Function.update host.sessions key
      (some ⟨host.nextInstant, randomPassword, tfa⟩)
    instants := Function.update host.instants host.nextInstant env.now
    nextInstant := host.nextInstant + 1 }

/-- Set what is given of a session, or insert it. -/
def updateOrInsertSession (key : SessionKey) (password : Option Bytes)
    (tfa : Option Bool) : Host :=
  match host.sessions key with
  | some session =>
      { host with
        sessions := Function.update host.sessions key
          (some { session with
            randomPassword := password.getD session.randomPassword
            tfa := tfa.getD session.tfa }) }
  | none => host.insertSession env key (password.getD []) (tfa.getD false)

/-- Remember that a session passed the second factor. -/
def setSession2fa (key : SessionKey) : Host :=
  match host.sessions key with
  | some session =>
      { host with
        sessions := Function.update host.sessions key
          (some { session with tfa := true }) }
  | none => host.insertSession env key [] true

/-- Forget a session unless another remote connection uses it. -/
def checkRemoveSession (connId : Int) (key : SessionKey) : Host :=
  if (host.sessions key).isSome then
    let isRemote := host.authedConns.any fun conn =>
      conn.connId == connId && conn.connType == .remote
    let anotherRemote := host.authedConns.any fun conn =>
      conn.connId != connId && conn.sessionKey == key && conn.connType == .remote
    if isRemote || !anotherRemote then
      { host with sessions := Function.update host.sessions key none }
    else host
  else host

/-- Record that something was received for a session. -/
def touch (cell : Option Nat) : Host :=
  match cell with
  | some cell =>
      { host with instants := Function.update host.instants cell env.now }
  | none => host

/-- Trust a device from now on. -/
def addTrustedDevice (device : TrustedDevice) : Host :=
  { host with
    trustedDevices :=
      (host.trustedDevices.filter (fun known => known.hwid != device.hwid) ++
        [device]).filter fun known => !known.outdate env.now }

/-- Switch-sides requests are forgotten after ten seconds. -/
def retainSwitchSides : Host :=
  { host with
    switchSidesUuid := fun peerId => (host.switchSidesUuid peerId).filter
      fun stored => env.now - stored.1 < 10000 }

/-- Whether a service exists. -/
def contains (name : ServiceName) : Bool :=
  host.services.any fun service => service.name == name

/-- Add a service unless it exists. -/
def addService (name : ServiceName) : Host :=
  if host.contains name then host
  else { host with services := host.services ++ [⟨name, []⟩] }

/-- Whether a connection is subscribed to a service that exists. -/
def isSubed (name : ServiceName) (connId : Int) : Bool :=
  host.services.any fun service =>
    service.name == name && service.subscribers.contains connId

/-- Apply a change to the subscribers of the services with a name. -/
def mapSubscribers (name : ServiceName) (change : List Int → List Int) : Host :=
  { host with
    services := host.services.map fun service =>
      if service.name = name then
        { service with subscribers := change service.subscribers }
      else service }

/-- Number of video services a connection is subscribed to. -/
def getSubbedDisplaysCount (connId : Int) : Nat :=
  host.services.countP fun service =>
    service.name.isVideo && service.subscribers.contains connId

/-- Subscribe a connection. -/
def onSubscribe (name : ServiceName) (connId : Int) : Host :=
  host.mapSubscribers name fun subscribers =>
    if subscribers.contains connId then subscribers else subscribers ++ [connId]

/-- Unsubscribe a connection. -/
def onUnsubscribe (name : ServiceName) (connId : Int) : Host :=
  host.mapSubscribers name fun subscribers =>
    subscribers.filter fun subscriber => subscriber != connId

/-- Unsubscribe a connection from every service. -/
def removeConnection (connId : Int) : Host :=
  { host with
    services := host.services.map fun service =>
      { service with
        subscribers := service.subscribers.filter fun subscriber =>
          subscriber != connId } }

/-- Drop of the `AuthedConnID` of a connection. -/
def dropAuthedConn (connId : Int) : Host :=
  { host with
    authedConns := host.authedConns.filter fun conn => conn.connId != connId }

end Host

end Server
end OneDesk
