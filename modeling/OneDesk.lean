import OneDesk.Lib.Run
import OneDesk.Lib.Snapshot
import OneDesk.Lib.Decoder
import OneDesk.Lib.Disk
import OneDesk.Lib.Path
import OneDesk.Stream.Encrypt
import OneDesk.Stream.Framed
import OneDesk.Stream.BytesCodec
import OneDesk.Stream.Session
import OneDesk.Stream.Nonces
import OneDesk.Stream.InStep
import OneDesk.Stream.WebSocket
import OneDesk.Stream.WebRtc
import OneDesk.Common.Version
import OneDesk.Common.Decimal
import OneDesk.Common.VersionOrder
import OneDesk.Common.SocketClient
import OneDesk.Common.AddrMangle
import OneDesk.Server.Handshake
import OneDesk.Server.Failures
import OneDesk.Server.Throttle
import OneDesk.Server.Message
import OneDesk.Server.Host
import OneDesk.Server.Connection
import OneDesk.Server.Options
import OneDesk.Server.Logon
import OneDesk.Server.OnMessage
import OneDesk.Server.Start
import OneDesk.Server.Frame
import OneDesk.Server.MessageFrame
import OneDesk.Server.LoginStep
import OneDesk.Server.LoginMove
import OneDesk.Server.Tunnel
import OneDesk.Server.SecondFactor
import OneDesk.Server.Credentials
import OneDesk.Server.Confinement
import OneDesk.Server.Approval
import OneDesk.Server.Loop
import OneDesk.Server.Spoken
import OneDesk.Server.Unauthorized
import OneDesk.Server.Subscriptions
import OneDesk.Server.Identity
import OneDesk.Server.PrivacyMode
import OneDesk.Fs.TransferJob
import OneDesk.Fs.HandleFs
import OneDesk.Fs.Frame
import OneDesk.Fs.Spots
import OneDesk.Fs.Containment
import OneDesk.Fs.Effects
import OneDesk.Fs.Publish
import OneDesk.Fs.ReadJobs
import OneDesk.Fs.Skipped
import OneDesk.Fs.EndToEnd
import OneDesk.Lib.Course
import OneDesk.Fs.Transfer
import OneDesk.Fs.Reading
import OneDesk.Fs.Writing
import OneDesk.Fs.Leftover
import OneDesk.Fs.Exchange
import OneDesk.Fs.Delivery
import OneDesk.Fs.Answer
import OneDesk.Fs.Unreadable
import OneDesk.Fs.Resumption
import OneDesk.Fs.CurrentFile
import OneDesk.Lib.BigEndian
import OneDesk.Lib.Table
import OneDesk.Lib.Utf8
import OneDesk.Portable.BinReader
import OneDesk.Settings.Encryption
import OneDesk.Settings.Storage
import OneDesk.Settings.Options
import OneDesk.Settings.Secrets
import OneDesk.Settings.Password
import OneDesk.Settings.PeerFiles
import OneDesk.Service.Template
import OneDesk.Lib.Single
import OneDesk.Lib.Checked
import OneDesk.Video.VideoQoS
import OneDesk.Video.FrameRate
import OneDesk.Terminal.Session
import OneDesk.Terminal.Output
import OneDesk.Terminal.Registry
import OneDesk.Lib.Split
import OneDesk.Lib.Regex
import OneDesk.Lib.Base64
import OneDesk.Lib.Components
import OneDesk.Lib.Lines
import OneDesk.Terminal.OutputBuffer
import OneDesk.Client.SecureConnection
import OneDesk.Client.SharedPassword
import OneDesk.Client.StartInner
import OneDesk.Client.VideoQueue
import OneDesk.Lib.Tally
import OneDesk.Video.Codec
import OneDesk.Lib.LittleEndian
import OneDesk.Lib.Utf16
import OneDesk.Clipboard.LocalFile
import OneDesk.Clipboard.FileDescription
import OneDesk.Clipboard.ParseBounds
import OneDesk.Clipboard.ServFiles
import OneDesk.Clipboard.ListedFiles
import OneDesk.Lib.Mailbox
import OneDesk.Clipboard.ReadNode
import OneDesk.Clipboard.Ranges
import OneDesk.Lib.BufWriter
import OneDesk.Clipboard.PasteTask
import OneDesk.Clipboard.Pasted
import OneDesk.Ipc.Connection
import OneDesk.Ipc.TaskRunner
import OneDesk.Ipc.ClipboardReplies
import OneDesk.Rendezvous.Mediator
import OneDesk.Rendezvous.Confirmation
import OneDesk.Http.Downloader
import OneDesk.Lib.BufReader
import OneDesk.Clipboard.Positioned
import OneDesk.Clipboard.ServedAlone
import OneDesk.Lib.Explore
import OneDesk.Clipboard.Constructed
import OneDesk.Clipboard.FuseTree
import OneDesk.Clipboard.MultiClipboards
import OneDesk.Lib.UnixPath
import OneDesk.Clipboard.PasteNames
import OneDesk.Clipboard.PasteInside
import OneDesk.Lib.Held
import OneDesk.Keyboard.Keys
import OneDesk.Keyboard.Service
import OneDesk.Keyboard.Released
import OneDesk.Keyboard.KeyTimeout
import OneDesk.Keyboard.Modifiers
import OneDesk.Lib.RollCall
import OneDesk.Video.FrameControl
import OneDesk.Video.FrameWait
import OneDesk.Lib.Window
import OneDesk.Video.Rtt
import OneDesk.Lib.BitString
import OneDesk.Client.PeerOnline
import OneDesk.Lib.BinarySearch
import OneDesk.Lib.Since
import OneDesk.Clipboard.FuseHandles
import OneDesk.Lib.Uri
import OneDesk.Http.TlsCache
import OneDesk.Keyboard.Uinput
import OneDesk.Keyboard.UinputClient
import OneDesk.Video.Recorder
import OneDesk.Server.InputThread
import OneDesk.Lib.Announced
import OneDesk.Service.Audio
import OneDesk.Lib.WrapCounter
import OneDesk.Server.PortableService
import OneDesk.Service.Displays
import OneDesk.Service.Subscribers
import OneDesk.Lib.Recent
import OneDesk.Lan.Discovery
import OneDesk.Lib.Ancestors
import OneDesk.Lib.Topmost
import OneDesk.Server.RemoveLog
import OneDesk.Video.RecordUploader
import OneDesk.Lib.Budget
import OneDesk.Clipboard.Exchange
import OneDesk.Keyboard.Typing
import OneDesk.Keyboard.Grab
import OneDesk.Keyboard.GrabReleased
import OneDesk.Rendezvous.Latency
import OneDesk.Rendezvous.Registrations
import OneDesk.Rendezvous.Reachable
