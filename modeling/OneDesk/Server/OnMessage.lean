import OneDesk.Server.Logon

/-!
# Messages of the peer

`on_message` looks at close reasons, logins, second factors, delays and
switch-sides answers whatever the state of the connection, and at everything
else only when the connection is authorized and forwards no port.
-/

namespace OneDesk
namespace Server

open OneDesk.Stream OneDesk.Common

namespace World

variable (env : Env) (world : World)

/-- A mouse event. -/
def onMouseEvent (event : MouseEvent) : World :=
  if world.conn.isAuthedViewCameraConn then world
  else
    let handled :=
      if env.build.isMobile then
        world.emit (.mobilePointer "mouse" event.mask event.x event.y)
      else if world.conn.peerKeyboardEnabled then
        world.emit (.input (.mouse event true world.conn.showMyCursor))
      else if world.conn.showMyCursor then
        world.emit (.input (.mouse event false true))
      else world
    handled.updateAutoDisconnectTimer env

/-- A touch or other pointer event. -/
def onPointerDeviceEvent (event : PointerDeviceEvent) : World :=
  if world.conn.isAuthedViewCameraConn then world
  else
    let handled :=
      if env.build.isMobile then
        match event with
        | .panStart x y => world.emit (.mobilePointer "touch" 4 x y)
        | .panUpdate x y => world.emit (.mobilePointer "touch" 5 x y)
        | .panEnd x y => world.emit (.mobilePointer "touch" 6 x y)
        | .other => world
      else if world.conn.peerKeyboardEnabled then
        world.emit (.input (.pointer event))
      else world
    handled.updateAutoDisconnectTimer env

/-- The modifier key a key event names by code, if it is one. -/
def modifierKey (event : KeyEvent) : Option Nat :=
  (match event.mode, event.union with
    | some .map, some (.chr code) => some (env.keycodeToRdevKey code)
    | some .map, _ => some (env.keycodeToRdevKey 0)
    | some .translate, some (.chr code) =>
        some (env.keycodeToRdevKey (code &&& 0xFFFF))
    | _, _ => none).filter env.isModifierKey

/-- Remember which modifier keys the peer holds. -/
def holdModifier (key : Option Nat) (isPress : Bool) : World :=
  match key with
  | none => world
  | some key =>
      let others := world.conn.pressedModifiers.filter (fun held => held != key)
      world.modify fun conn => { conn with
          pressedModifiers := if isPress then others ++ [key] else others }

/-- A key event. -/
def onKeyEvent (event : KeyEvent) : World :=
  match env.build.os with
  | .ios => world
  | .android =>
      if world.conn.isAuthedViewCameraConn then world
      else
        let key := modifierKey env event
        (world.holdModifier key
          ((event.press || event.down) && !(isModifier event || key.isSome))).emit
            (.mobileKey event)
  | .windows | .linux | .macos =>
      if world.conn.isAuthedViewCameraConn then world
      else
        let handled :=
          if world.conn.peerKeyboardEnabled then
            let key := modifierKey env event
            let isPress :=
              if env.build.os = .linux then
                (event.press || event.down) && !(isModifier event || key.isSome)
              else event.press
            let held := world.holdModifier key isPress
            match isPress, event.union with
            | true, some (.unicode _) => held.emit (.input (.key event false))
            | true, some (.seq _) => held.emit (.input (.key event false))
            | true, _ => held.emit (.input (.key event true))
            | false, _ => held.emit (.input (.key event false))
          else world
        handled.updateAutoDisconnectTimer env

/-- Clipboard contents for the host. -/
def onClipboard : World :=
  if world.conn.clipboard then world.emit .updateClipboard else world

/-- Several clipboard contents for the host. -/
def onMultiClipboards : World :=
  match env.build.os with
  | .ios => world
  | .android => world.emit .updateClipboard
  | .windows | .linux | .macos => world.onClipboard

/-- A clipboard file message. -/
def onCliprdr : World :=
  if env.build.os = .windows then world.sendToCm .clipboardFile
  else if env.build.unixFileCopyPaste &&
      getVersionNumber world.conn.lr.version ≥ getVersionNumber "1.3.8" then
    world.emit .serveClipboardFile
  else world

/-- The job a one-way host refuses to run. -/
def oneWayJob : FileAction → Option Int
  | .send id .. => some id
  | .removeFile id .. => some id
  | .rename id .. => some id
  | .create id _ => some id
  | .removeDir id .. => some id
  | _ => none

/-- A file action that is allowed. -/
def runFileAction (action : FileAction) : World :=
  match action with
  | .readEmptyDirs path includeHidden =>
      world.sendFs (.readEmptyDirs path includeHidden)
  | .readDir path includeHidden => world.readDir path includeHidden
  | .allFiles .. => world.emit (.fileJob action)
  | .send .. =>
      (world.emit (.fileJob action)).modify fun conn =>
        { conn with fileTransferred := true }
  | .receive id path files fileNum totalSize =>
      let asked := world.sendFs (.newWrite path id fileNum files
        (getVersionNumber world.conn.lr.version ≥ getVersionNumber "1.1.10")
        totalSize world.conn.id)
      asked.modify fun conn => { conn with fileTransferred := true }
  | .removeDir id path isRecursive => world.sendFs (.removeDir path id isRecursive)
  | .removeFile id path fileNum => world.sendFs (.removeFile path id fileNum)
  | .create id path =>
      (world.sendFs (.createDir path id)).sendToCm (.fileTransferLog "create_dir")
  | .cancel id => (world.sendFs (.cancelWrite id)).emit (.fileJob action)
  | .sendConfirm .. => world.emit (.fileJob action)
  | .rename id path newName =>
      (world.sendFs (.rename id path newName)).sendToCm (.fileTransferLog "rename")

/-- A file action: only file transfers handle it, except printing. -/
def onFileAction (action : FileAction) : World :=
  let isPrinting := match action with
    | .send _ _ printer _ _ => printer
    | _ => false
  if world.conn.fileTransfer.isSome || isPrinting then
    if world.conn.delayedReadDir.isSome then
      match action with
      | .readDir path includeHidden =>
          world.modify fun conn =>
            { conn with delayedReadDir := some (path, includeHidden) }
      | _ => world
    else if env.getBuiltinOption "one-way-file-transfer" == "Y" then
      match oneWayJob action with
      | some id => world.send (.fileError id "one-way-file-transfer-tip")
      | none => world.runFileAction action
    else world.runFileAction action
  else world

/-- Parts of a file go to the connection manager. -/
def onFileResponse : FileResponse → World
  | .block id fileNum data compressed =>
      world.sendFs (.writeBlock id fileNum data compressed)
  | .done id fileNum => world.sendFs (.writeDone id fileNum)
  | .digest id fileNum fileSize lastModified isResume =>
      world.sendFs (.checkDigest id fileNum fileSize lastModified true isResume)
  | .error id fileNum error => world.sendFs (.writeError id fileNum error)

/-- The voice call ends. -/
def closeVoiceCall : World :=
  let closed := (world.emit (.voiceCallInput false)).sendToCm .closeVoiceCall
  let silent := closed.modify fun conn => { conn with voiceCalling := false }
  if silent.conn.isAuthedViewCameraConn then silent.subscribe env .audio false
  else silent

/-- The connection manager answers a voice call. -/
def handleVoiceCall (accepted : Bool) : World :=
  match world.conn.voiceCallRequestTimestamp with
  | none => world
  | some timestamp =>
      let told :=
        if accepted then
          (world.emit (.voiceCallInput true)).sendToCm .startVoiceCall
        else world.sendToCm .closeVoiceCall
      let answered := told.send (.voiceCallResponse timestamp accepted)
      let calling :=
        answered.modify fun conn => { conn with
            voiceCallRequestTimestamp := none
            voiceCalling := accepted }
      if calling.conn.isAuthedViewCameraConn then
        calling.subscribe env .audio (calling.conn.audioEnabled && accepted)
      else calling

/-- The peer asks for a voice call or ends it. -/
def onVoiceCallRequest (timestamp : Int) (isConnect : Bool) : World :=
  if isConnect then
    (world.modify fun conn => { conn with
        voiceCallRequestTimestamp :=
          some (if timestamp = 0 then env.now else timestamp) }).sendToCm .voiceCallIncoming
  else world.closeVoiceCall env

/-- A request for elevation, on Windows. -/
def handleElevationRequest : World :=
  let answered :=
    if !world.conn.keyboard then world.send (.elevationResponse "No permission")
    else if env.isInstalled then
      world.send (.elevationResponse "No need to elevate")
    else (world.emit .startPortableService).send (.elevationResponse "")
  answered.updateAutoDisconnectTimer env

/-- The peer chose a Windows session; `false` hands over to that session. -/
def onSelectedSid (sid : Nat) : World × Bool :=
  if !env.hasSessionId then (world, true)
  else if env.sessionSwitchable sid &&
      (world.host.authedConns.filter
        fun authed => authed.connType != .portForward).length == 1 then
    (world.emit (.connectToUserSession sid), false)
  else if world.conn.fileTransfer.isSome then
    (match world.conn.delayedReadDir with
      | some (dir, showHidden) =>
          (world.modify fun conn => { conn with delayedReadDir := none }).readDir
            dir showHidden
      | none => world, true)
  else if world.conn.viewCamera then (world.trySubCameraDisplays env, true)
  else if !world.conn.terminal then (world.trySubMonitorServices env, true)
  else (world, true)

/-- A miscellaneous message of an authorized peer; `false` ends the loop. -/
def onMisc : Misc → World × Bool
  | .closeReason _ => (world, true)
  | .switchDisplay display resolution =>
      (world.handleSwitchDisplay env display resolution, true)
  | .captureDisplays add sub set => (world.captureDisplays env add sub set, true)
  | .toggleVirtualDisplay display on =>
      (if env.build.os = .windows then world.emit (.virtualDisplay display on)
      else world, true)
  | .togglePrivacyMode implKey on =>
      (if on then world.turnOnPrivacy env implKey else world.turnOffPrivacy env, true)
  | .chatMessage text =>
      (((world.sendToCm (.chatMessage text)).modify fun conn =>
        { conn with chatUnanswered := true }).updateAutoDisconnectTimer env, true)
  | .option o => (world.updateOptions env o, true)
  | .refreshVideo refresh =>
      ((if refresh then world.refreshVideoDisplay none else world
        ).updateAutoDisconnectTimer env, true)
  | .refreshVideoDisplay display =>
      ((world.refreshVideoDisplay (some display)).updateAutoDisconnectTimer env, true)
  | .videoReceived => (world.emit .videoFetched, true)
  | .restartRemoteDevice =>
      (if !env.build.isMobile && world.conn.restart then world.emit .reboot
      else world, true)
  | .elevationRequest _ =>
      (if env.build.os = .windows then world.handleElevationRequest env
      else world, true)
  | .audioFormat =>
      (if world.conn.disableAudio then world
      else
        (world.modify fun conn => { conn with hasAudioSender := true }).emit
          .audioData, true)
  | .switchSidesRequest uuid =>
      if env.build.flutter && uuid.length == 16 then
        ((world.emit (.switchSides world.conn.lr.myId uuid)).onClose env false, false)
      else (world, true)
  | .changeResolution resolution =>
      (if env.build.isMobile then world
      else world.changeResolution none resolution, true)
  | .changeDisplayResolution display resolution =>
      (if env.build.isMobile then world
      else world.changeResolution (some display) resolution, true)
  | .autoAdjustFps fps => (world.emit (.qos (.userAutoAdjustFps fps)), true)
  | .clientRecordStatus status => (world.emit (.qos (.userRecord status)), true)
  | .selectedSid sid =>
      if env.build.os = .windows then world.onSelectedSid env sid else (world, true)
  | .messageQuery display =>
      (world.send (.displayChanged display world.conn.videoSource), true)
  | .other => (world, true)

/-- A message of an authorized peer; `false` ends the loop. -/
def onAuthorizedMessage : Message → World × Bool
  | .mouseEvent event => (world.onMouseEvent env event, true)
  | .pointerDeviceEvent event => (world.onPointerDeviceEvent env event, true)
  | .keyEvent event => (world.onKeyEvent env event, true)
  | .clipboard => (world.onClipboard, true)
  | .multiClipboards => (world.onMultiClipboards env, true)
  | .cliprdr => (world.onCliprdr env, true)
  | .fileAction action => (world.onFileAction env action, true)
  | .fileResponse response => (world.onFileResponse response, true)
  | .misc misc => world.onMisc env misc
  | .audioFrame =>
      (if !world.conn.disableAudio && world.conn.hasAudioSender then
        world.emit .audioData
      else world, true)
  | .voiceCallRequest timestamp isConnect =>
      (world.onVoiceCallRequest env timestamp isConnect, true)
  | .screenshotRequest display =>
      ((world.emit (.screenshot display)).refreshVideoDisplay (some display), true)
  | .terminalAction =>
      (if !env.build.isMobile && world.conn.terminalUserToken.isSome then
        world.emit .terminalAction
      else world, true)
  | _ => (world, true)

/-- A delay probe of the peer, or its answer to ours. -/
def onTestDelay (time : Int) (fromClient : Bool) : World :=
  if fromClient then world.send (.testDelay time true)
  else
    match world.conn.lastTestDelay with
    | none => world
    | some asked =>
        let delay := (env.now - asked).toNat % 2 ^ 32
        (world.modify fun conn => { conn with lastTestDelay := none, networkDelay := delay }).emit
          (.qos (.userNetworkDelay delay))

/-- The peer closes the connection. -/
def onCloseReason : World := (world.onClose env true).checkRemoveSession

/-- `on_message`; `false` ends the main loop. -/
def onMessage (message : Message) : World × Bool :=
  match message with
  | .misc (.closeReason _) => (world.onCloseReason env, false)
  | .loginRequest lr => world.onLoginRequest env lr
  | .auth2fa code hwid => (world.onAuth2fa env code hwid, true)
  | .testDelay time fromClient => (world.onTestDelay env time fromClient, true)
  | .switchSidesResponse uuid request =>
      (world.onSwitchSidesResponse env uuid request, true)
  | _ =>
      if world.conn.authorized then
        if world.conn.portForwardSocket.isSome then (world, true)
        else world.onAuthorizedMessage env message
      else (world, true)

end World

end Server
end OneDesk
