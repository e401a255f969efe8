import ClusterDriver.Channel.Factory
import ClusterDriver.Cluster.EventBus
import ClusterDriver.Cluster.Manager
/-!
# Components

The parts of a driver, and the type of each. Parts that are shared and change, the event bus and the
metadata manager, stand in a component by their place in the shared state.
-/
namespace ClusterDriver

inductive ComponentId where
  | balancingPolicy
  | reconnectionPolicy
  | addressTranslator
  | authProvider
  | sslEngine
  | eventBus
  | compressor
  | frameCodec
  | versionChoice
  | transportOptions
  | writeCoalescer
  | sslHandler
  | channelFactory
  | metricsFactory
  | metadataManager
  | balancer
  | controlConnection
  | topologyMonitor
  deriving DecidableEq, Repr

namespace ComponentId

/-- The order in which components are declared, listed and built together. -/
def all : List ComponentId :=
  [.balancingPolicy, .reconnectionPolicy, .addressTranslator, .authProvider, .sslEngine, .eventBus,
    .compressor, .frameCodec, .versionChoice, .transportOptions, .writeCoalescer, .sslHandler,
    .channelFactory, .metricsFactory, .metadataManager, .balancer, .controlConnection,
    .topologyMonitor]

def name : ComponentId → String
  | .balancingPolicy => "load_balancing_policy"
  | .reconnectionPolicy => "reconnection_policy"
  | .addressTranslator => "address_translator"
  | .authProvider => "auth_provider"
  | .sslEngine => "ssl_engine_factory"
  | .eventBus => "event_bus"
  | .compressor => "compressor"
  | .frameCodec => "frame_codec"
  | .versionChoice => "protocol_version_registry"
  | .transportOptions => "transport_options"
  | .writeCoalescer => "write_coalescer"
  | .sslHandler => "ssl_handler_factory"
  | .channelFactory => "channel_factory"
  | .metricsFactory => "metrics_factory"
  | .metadataManager => "metadata_manager"
  | .balancer => "load_balancing_policy_wrapper"
  | .controlConnection => "control_connection"
  | .topologyMonitor => "topology_monitor"

def ofName? (name : String) : Option ComponentId := all.find? fun id => id.name = name

theorem mem_all (id : ComponentId) : id ∈ all := by cases id <;> decide

end ComponentId

abbrev ManagerId := Nat

/-- The balancing policy applied to the live membership. -/
structure Balancer where
  policy : BalancingPolicy
  manager : ManagerId

structure ControlConnection where
  channels : ChannelFactory
  reconnection : ReconnectionPolicy
  balancer : Balancer

structure TopologyMonitor where
  control : ControlConnection
  translator : AddressTranslator
  manager : ManagerId
  balancer : Balancer

abbrev ComponentId.Value : ComponentId → Type
  | .balancingPolicy => BalancingPolicy
  | .reconnectionPolicy => ReconnectionPolicy
  | .addressTranslator => AddressTranslator
  | .authProvider => Option AuthProvider
  | .sslEngine => Option SslEngine
  | .eventBus => BusId
  | .compressor => Compressor
  | .frameCodec => FrameCodec
  | .versionChoice => VersionChoice
  | .transportOptions => TransportOptions
  | .writeCoalescer => WriteCoalescer
  | .sslHandler => Option SslEngine
  | .channelFactory => ChannelFactory
  | .metricsFactory => MetricsFactory
  | .metadataManager => ManagerId
  | .balancer => Balancer
  | .controlConnection => ControlConnection
  | .topologyMonitor => TopologyMonitor

/-- What a call to a context answers. -/
inductive Answer where
  | nothing
  | component (id : ComponentId) (value : id.Value)

/-- The value of one component, if that is what was answered. -/
def Answer.value? (id : ComponentId) : Answer → Option id.Value
  | .nothing => none
  | .component other value => if h : other = id then some (h ▸ value) else none

@[simp] theorem Answer.value?_component (id : ComponentId) (value : id.Value) :
    (Answer.component id value).value? id = some value := by
  simp [value?]

end ClusterDriver
