import OneDesk.Stream.Encrypt
import OneDesk.Common.Version

/-!
# Messages of a connection

What a peer may send to a host, what the host answers, and what the connection
and the connection manager tell each other.  Only the fields the connection
reads are kept.
-/

namespace OneDesk
namespace Server

open OneDesk.Stream

/-- Operating system a host is built for. -/
inductive TargetOs
  | windows
  | linux
  | macos
  | android
  | ios
  deriving DecidableEq

/-- Target and features a host is built with. -/
structure Build where
  os : TargetOs
  flutter : Bool
  unixFileCopyPaste : Bool
  deriving DecidableEq

/-- Builds for Android and iOS. -/
def Build.isMobile (build : Build) : Bool :=
  match build.os with
  | .android | .ios => true
  | .windows | .linux | .macos => false

/-- A flag in an option message. -/
inductive BoolOption
  | notSet
  | no
  | yes
  deriving DecidableEq

/-- Preset image qualities. -/
inductive ImageQuality
  | notSet
  | low
  | balanced
  | best
  deriving DecidableEq

/-- Number of a preset on the wire. -/
def ImageQuality.value : ImageQuality → Int
  | .notSet => 0
  | .low => 2
  | .balanced => 3
  | .best => 4

/-- Session options.  An enumeration is `none` when its number is unknown. -/
structure OptionMessage where
  imageQuality : Option ImageQuality
  customImageQuality : Int
  customFps : Int
  supportedDecoding : Bool
  lockAfterSessionEnd : Option BoolOption
  showRemoteCursor : Option BoolOption
  followRemoteCursor : Option BoolOption
  followRemoteWindow : Option BoolOption
  disableAudio : Option BoolOption
  enableFileTransfer : Option BoolOption
  disableClipboard : Option BoolOption
  disableKeyboard : Option BoolOption
  privacyMode : Option BoolOption
  blockInput : Option BoolOption
  terminalPersistent : Option BoolOption
  showMyCursor : Option BoolOption
  deriving DecidableEq

/-- The option message that sets nothing. -/
def OptionMessage.empty : OptionMessage where
  imageQuality := some .notSet
  customImageQuality := 0
  customFps := 0
  supportedDecoding := false
  lockAfterSessionEnd := some .notSet
  showRemoteCursor := some .notSet
  followRemoteCursor := some .notSet
  followRemoteWindow := some .notSet
  disableAudio := some .notSet
  enableFileTransfer := some .notSet
  disableClipboard := some .notSet
  disableKeyboard := some .notSet
  privacyMode := some .notSet
  blockInput := some .notSet
  terminalPersistent := some .notSet
  showMyCursor := some .notSet

/-- What a flag asks for: nothing, off or on. -/
def asked : Option BoolOption → Option Bool
  | some .yes => some true
  | some .no => some false
  | some .notSet => none
  | none => none

/-- User and password of the operating system. -/
structure OsLogin where
  username : String
  password : String
  deriving DecidableEq

/-- What a login asks for besides remote control. -/
inductive LoginUnion
  | fileTransfer (dir : String) (showHidden : Bool)
  | viewCamera
  | terminal (serviceId : String)
  | portForward (host : String) (port : Int)
  deriving DecidableEq

/-- A login request. -/
structure LoginRequest where
  username : String
  password : Bytes
  myId : String
  myName : String
  myPlatform : String
  option : Option OptionMessage
  union : Option LoginUnion
  videoAckRequired : Bool
  sessionId : UInt64
  version : String
  osLogin : OsLogin
  hwid : Bytes
  deriving DecidableEq

/-- The login request a connection holds before it receives one. -/
def LoginRequest.empty : LoginRequest where
  username := ""
  password := []
  myId := ""
  myName := ""
  myPlatform := ""
  option := none
  union := none
  videoAckRequired := false
  sessionId := 0
  version := ""
  osLogin := ⟨"", ""⟩
  hwid := []

/-- A mouse event. -/
structure MouseEvent where
  mask : Int
  x : Int
  y : Int
  deriving DecidableEq

/-- A touch or other pointer event. -/
inductive PointerDeviceEvent
  | panStart (x y : Int)
  | panUpdate (x y : Int)
  | panEnd (x y : Int)
  | other
  deriving DecidableEq

/-- How a key event names its key. -/
inductive KeyboardMode
  | legacy
  | map
  | translate
  | auto
  deriving DecidableEq

/-- Keys named in key events, modifiers first. -/
inductive ControlKey
  | alt
  | shift
  | control
  | metaKey
  | rAlt
  | rShift
  | rControl
  | rWin
  | other (value : Nat)
  deriving DecidableEq

/-- The key of a key event. -/
inductive KeyUnion
  | controlKey (key : ControlKey)
  | chr (code : UInt32)
  | unicode (code : UInt32)
  | seq (text : String)
  deriving DecidableEq

/-- A key event. -/
structure KeyEvent where
  down : Bool
  press : Bool
  mode : Option KeyboardMode
  union : Option KeyUnion
  deriving DecidableEq

/-- Whether a key event is about a modifier key. -/
def isModifier (event : KeyEvent) : Bool :=
  match event.union with
  | some (.controlKey (.other _)) => false
  | some (.controlKey _) => true
  | _ => false

/-- Requests about files of the host. -/
inductive FileAction
  | readEmptyDirs (path : String) (includeHidden : Bool)
  | readDir (path : String) (includeHidden : Bool)
  | allFiles (id : Int) (path : String) (includeHidden : Bool)
  | send (id : Int) (path : String) (printer : Bool) (fileNum : Int)
      (includeHidden : Bool)
  | receive (id : Int) (path : String) (files : List (String × Nat))
      (fileNum : Int) (totalSize : Nat)
  | removeDir (id : Int) (path : String) (isRecursive : Bool)
  | removeFile (id : Int) (path : String) (fileNum : Int)
  | create (id : Int) (path : String)
  | cancel (id : Int)
  | sendConfirm (id : Int) (confirm : Bytes)
  | rename (id : Int) (path newName : String)
  deriving DecidableEq

/-- Parts of a file the peer sends. -/
inductive FileResponse
  | block (id fileNum : Int) (data : Bytes) (compressed : Bool)
  | done (id fileNum : Int)
  | digest (id fileNum : Int) (fileSize lastModified : Nat) (isResume : Bool)
  | error (id fileNum : Int) (error : String)
  deriving DecidableEq

/-- Width and height of a display. -/
structure Resolution where
  width : Int
  height : Int
  deriving DecidableEq

/-- How the peer asks for elevation. -/
inductive ElevationRequest
  | direct
  | logon (username password : String)
  deriving DecidableEq

/-- The miscellaneous messages of a peer. -/
inductive Misc
  | closeReason (reason : String)
  | switchDisplay (display : Nat) (resolution : Resolution)
  | captureDisplays (add sub set : List Nat)
  | toggleVirtualDisplay (display : Int) (on : Bool)
  | togglePrivacyMode (implKey : String) (on : Bool)
  | chatMessage (text : String)
  | option (option : OptionMessage)
  | refreshVideo (refresh : Bool)
  | refreshVideoDisplay (display : Nat)
  | videoReceived
  | restartRemoteDevice
  | elevationRequest (request : ElevationRequest)
  | audioFormat
  | switchSidesRequest (uuid : Bytes)
  | changeResolution (resolution : Resolution)
  | changeDisplayResolution (display : Nat) (resolution : Resolution)
  | autoAdjustFps (fps : Nat)
  | clientRecordStatus (status : Bool)
  | selectedSid (sid : Nat)
  | messageQuery (switchDisplay : Nat)
  | other
  deriving DecidableEq

/-- A message of a peer. -/
inductive Message
  | loginRequest (request : LoginRequest)
  | auth2fa (code : String) (hwid : Bytes)
  | testDelay (time : Int) (fromClient : Bool)
  | switchSidesResponse (uuid : Bytes) (request : Option LoginRequest)
  | mouseEvent (event : MouseEvent)
  | pointerDeviceEvent (event : PointerDeviceEvent)
  | keyEvent (event : KeyEvent)
  | clipboard
  | multiClipboards
  | cliprdr
  | fileAction (action : FileAction)
  | fileResponse (response : FileResponse)
  | misc (misc : Misc)
  | audioFrame
  | voiceCallRequest (timestamp : Int) (isConnect : Bool)
  | voiceCallResponse
  | screenshotRequest (display : Nat)
  | terminalAction
  | other
  deriving DecidableEq

/-- Permissions a peer is told about. -/
inductive Permission
  | keyboard
  | clipboard
  | audio
  | file
  | restart
  | recording
  | blockInput
  deriving DecidableEq

/-- Commands to the file code of the connection manager. -/
inductive Fs
  | readEmptyDirs (dir : String) (includeHidden : Bool)
  | readDir (dir : String) (includeHidden : Bool)
  | newWrite (path : String) (id fileNum : Int) (files : List (String × Nat))
      (overwriteDetection : Bool) (totalSize : Nat) (connId : Int)
  | removeDir (path : String) (id : Int) (isRecursive : Bool)
  | removeFile (path : String) (id fileNum : Int)
  | createDir (path : String) (id : Int)
  | cancelWrite (id : Int)
  | sendConfirm (confirm : Bytes)
  | rename (id : Int) (path newName : String)
  | writeBlock (id fileNum : Int) (data : Bytes) (compressed : Bool)
  | writeDone (id fileNum : Int)
  | checkDigest (id fileNum : Int) (fileSize lastModified : Nat)
      (isUpload isResume : Bool)
  | writeError (id fileNum : Int) (error : String)
  deriving DecidableEq

/-- What the connection manager is told about a login. -/
structure CmLogin where
  id : Int
  isFileTransfer : Bool
  isViewCamera : Bool
  isTerminal : Bool
  portForward : String
  peerId : String
  name : String
  authorized : Bool
  keyboard : Bool
  clipboard : Bool
  audio : Bool
  file : Bool
  fileTransferEnabled : Bool
  restart : Bool
  recording : Bool
  blockInput : Bool
  fromSwitch : Bool
  peerPlatform : String
  deriving DecidableEq

/-- Messages to the connection manager. -/
inductive ToCm
  | login (login : CmLogin)
  | close
  | disconnected
  | chatMessage (text : String)
  | fs (command : Fs)
  | clipboardFile
  | clipboardFileEnabled (enabled : Bool)
  | fileTransferLog (action : String)
  | voiceCallIncoming
  | startVoiceCall
  | closeVoiceCall
  deriving DecidableEq

/-- Messages from the connection manager. -/
inductive FromCm
  | authorize
  | close
  | cmErr (error : String)
  | chatMessage (text : String)
  | switchPermission (name : String) (enabled : Bool)
  | rawMessage (bytes : Bytes)
  | clipboardFile (files : Bool)
  | privacyModeState
  | portableServiceRequestStart
  | switchSidesBack
  | voiceCallResponse (accepted : Bool)
  | closeVoiceCall
  | other
  deriving DecidableEq

end Server
end OneDesk
