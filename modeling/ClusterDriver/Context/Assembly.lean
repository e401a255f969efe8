import ClusterDriver.Context.Strategies
/-!
# Assembly

How every component is built from settings, strategies and other components, unless its builder is
replaced.
-/
namespace ClusterDriver

structure Assembly where
  settings : Settings := .builtin
  strategies : Strategies := .builtin settings

namespace Assembly

def compressor (a : Assembly) : Build Compressor := do
  return (← a.strategies.compression.optional a.settings .compression).getD .none

/-- The transport options are read before the compressor. -/
def frameCodec : Build FrameCodec := do
  let transport ← .require .transportOptions
  let compressor ← .require .compressor
  return ⟨compressor, transport.maxFrameLength⟩

def channelFactory : Build ChannelFactory := do
  let frameCodec ← .require .frameCodec
  let versions ← .require .versionChoice
  let coalescer ← .require .writeCoalescer
  let ssl ← .require .sslHandler
  let auth ← .require .authProvider
  let transport ← .require .transportOptions
  return { frameCodec, versions, coalescer, ssl, auth, transport }

/-- A context that was closed meanwhile stops the manager again. -/
def metadataManager : Build ManagerId := do
  let bus ← .require .eventBus
  let factory ← .require .metricsFactory
  let id ← .startManager factory bus
  if (← .state).closed then
    .stopManager id
    .raise (.ofAccess .closed)
  else return id

def balancer : Build Balancer := do
  let policy ← .require .balancingPolicy
  let manager ← .require .metadataManager
  return { policy, manager }

def controlConnection : Build ControlConnection := do
  let channels ← .require .channelFactory
  let reconnection ← .require .reconnectionPolicy
  let balancer ← .require .balancer
  return { channels, reconnection, balancer }

def topologyMonitor : Build TopologyMonitor := do
  let control ← .require .controlConnection
  let translator ← .require .addressTranslator
  let manager ← .require .metadataManager
  let balancer ← .require .balancer
  return { control, translator, manager, balancer }

def builder (a : Assembly) : (id : ComponentId) → Build id.Value
  | .balancingPolicy => a.strategies.balancing.required a.settings .loadBalancingPolicy
  | .reconnectionPolicy => a.strategies.reconnection.required a.settings .reconnectionPolicy
  | .addressTranslator => a.strategies.addressing.required a.settings .addressTranslator
  | .authProvider => a.strategies.auth.optional a.settings .authProvider
  | .sslEngine => a.strategies.ssl.optional a.settings .sslEngineFactory
  | .eventBus => .makeBus EventBus.defaultCapacity
  | .compressor => a.compressor
  | .frameCodec => frameCodec
  | .versionChoice => .ofResult (VersionChoice.ofSettings a.settings)
  | .transportOptions => .ofResult (TransportOptions.ofSettings a.settings)
  | .writeCoalescer => pure {}
  | .sslHandler => .require .sslEngine
  | .channelFactory => channelFactory
  | .metricsFactory => pure {}
  | .metadataManager => metadataManager
  | .balancer => balancer
  | .controlConnection => controlConnection
  | .topologyMonitor => topologyMonitor

end Assembly
end ClusterDriver
