import ClusterDriver.Channel.Protocol
import ClusterDriver.Channel.Frame
import ClusterDriver.Channel.Transport
import ClusterDriver.Channel.Security
/-!
# Channels

What is settled before a socket is opened: the parameters of a channel to one endpoint, and the
delays between attempts to open a lost one again.
-/
namespace ClusterDriver

structure ReconnectionPolicy where
  /-- The delay before an attempt, counted from zero. -/
  nextDelay : Nat → Span

namespace ReconnectionPolicy

def constant (delay : Span) : ReconnectionPolicy := ⟨fun _ => delay⟩

def ofSettings (s : Settings) : Except AccessError ReconnectionPolicy :=
  (s.duration KnownOption.reconnectionBaseDelay.path).map constant

/-- Grows by `base` milliseconds with every attempt, up to `most`. -/
def linear (base most : Nat) : ReconnectionPolicy :=
  ⟨fun attempt => .ofMillis (min (min (base * (attempt + 1)) Text.u64Limit) most)⟩

end ReconnectionPolicy

structure ChannelSettings where
  address : Endpoint
  protocolVersion : ProtocolVersion
  compression : Option String
  ssl : Option SslTarget
  authMechanism : Option String
  connectTimeout : Span
  tcpNoDelay : Bool
  maxFrameLength : Nat
  deriving DecidableEq, Repr

def ChannelSettings.toJson (s : ChannelSettings) : Json :=
  .object
    [("address", .text s.address.text),
      ("protocol_version", .text s.protocolVersion.name),
      ("compression", .option .text s.compression),
      ("ssl", .option SslTarget.toJson s.ssl),
      ("auth_mechanism", .option .text s.authMechanism),
      ("connect_timeout", s.connectTimeout.toJson),
      ("tcp_no_delay", .bool s.tcpNoDelay),
      ("max_frame_length", .nat s.maxFrameLength)]

structure ChannelFactory where
  frameCodec : FrameCodec
  versions : VersionChoice
  coalescer : WriteCoalescer
  ssl : Option SslEngine
  auth : Option AuthProvider
  transport : TransportOptions

namespace ChannelFactory

/-- The frame limit is the codec's, the socket options are the transport's. -/
def settingsAt (f : ChannelFactory) (address : Endpoint) (version : ProtocolVersion) :
    ChannelSettings where
  address
  protocolVersion := version
  compression := f.frameCodec.compressor.algorithm
  ssl := f.ssl.map fun engine => engine.target address
  authMechanism := f.auth.map AuthProvider.mechanism
  connectTimeout := f.transport.connectTimeout
  tcpNoDelay := f.transport.tcpNoDelay
  maxFrameLength := f.frameCodec.maxLength

def settingsFor (f : ChannelFactory) (address : Endpoint) : ChannelSettings :=
  f.settingsAt address f.versions.initial

def shape (f : ChannelFactory) : Text.Shape :=
  .record "ChannelFactory"
    [("frame_codec", f.frameCodec.shape), ("protocol_versions", f.versions.shape),
      ("ssl", .bool f.ssl.isSome), ("auth", .bool f.auth.isSome),
      ("transport", f.transport.shape)]
    false

end ChannelFactory
end ClusterDriver
