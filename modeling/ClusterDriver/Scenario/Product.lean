import ClusterDriver.Context.Assembly
/-!
# Products of scripted builders

What a script can put in the place of a component or register as a strategy. Each product is a
build, which may ask for other components in its turn.
-/
namespace ClusterDriver.Scenario

inductive BalancingProduct where
  | builtin
  /-- One distance for every node, and the nodes in reverse order, usable or not. -/
  | reversed (distance : NodeDistance)
  /-- Distances by datacenter, and the near nodes first. -/
  | datacenter (near : String)

namespace BalancingProduct

def byDatacenter (near : String) : BalancingPolicy where
  distance d :=
    match d.info.datacenter with
    | none => .ignored
    | some name => if name = near then .near else .remote
  plan nodes :=
    let usable := BalancingPolicy.builtin.plan nodes
    usable.filter (fun d => d.distance = .near) ++ usable.filter fun d => d.distance ≠ .near

def policy : BalancingProduct → BalancingPolicy
  | .builtin => .builtin
  | .reversed distance => { distance := fun _ => distance, plan := List.reverse }
  | .datacenter near => byDatacenter near

end BalancingProduct

inductive ReconnectionProduct where
  | builtin
  | constant (delay : Span)
  | linear (base most : Nat)

def ReconnectionProduct.build (s : Settings) : ReconnectionProduct → Build ReconnectionPolicy
  | .builtin => .ofResult (ReconnectionPolicy.ofSettings s)
  | .constant delay => pure (.constant delay)
  | .linear base most => pure (.linear base most)

inductive TranslatorProduct where
  | builtin
  /-- Maps the addresses that are listed and leaves the others. -/
  | listed (entries : List (Endpoint × Endpoint))

def TranslatorProduct.translator : TranslatorProduct → AddressTranslator
  | .builtin => .passThrough
  | .listed entries =>
    let table := Table.ofList entries
    ⟨fun address => (table.get? address).getD address⟩

inductive AuthProduct where
  | builtin
  | plain (credentials : PlainCredentials)
  /-- Answers with fixed bytes and the text of the address. -/
  | fixed (mechanism : String) (start : List UInt8)

def AuthProduct.build (s : Settings) : AuthProduct → Build AuthProvider
  | .builtin => .ofResult ((PlainCredentials.ofSettings s).map PlainCredentials.provider)
  | .plain credentials => pure credentials.provider
  | .fixed mechanism start =>
    pure { mechanism, initialResponse := fun address => start ++ address.text.toUTF8.toList }

inductive SslProduct where
  | named (serverName : Option String)
  /-- The server name is followed by the port of the peer. -/
  | namedWithPort (serverName : Option String) (validates : Bool)

def SslProduct.engine : SslProduct → SslEngine
  | .named serverName => { serverName := fun _ => serverName }
  | .namedWithPort serverName validates =>
    { serverName := fun peer =>
        serverName.map fun name => name ++ ":" ++ Text.decimalText peer.port.toNat
      hostnameValidation := validates }

inductive CompressorProduct where
  | builtin
  /-- Reverses the bytes, which undoes itself. -/
  | reversing (algorithm : Option String)

def CompressorProduct.compressor : CompressorProduct → Compressor
  | .builtin => .none
  | .reversing algorithm => ⟨algorithm, List.reverse, List.reverse⟩

/-- What a scripted builder of a component makes. -/
inductive Product where
  /-- Whatever the component's own builder makes. -/
  | builtin
  | balancing (product : BalancingProduct)
  | reconnection (product : ReconnectionProduct)
  | translator (product : TranslatorProduct)
  | auth (product : Option AuthProduct)
  | ssl (product : Option SslProduct)
  | bus (capacity : Nat)
  | compressor (product : CompressorProduct)
  | codec (maxLength : Nat)
  | versions (choice : VersionChoice)
  | transport (options : TransportOptions)
  | coalescer (value : WriteCoalescer)
  /-- Channels without TLS and credentials. -/
  | plainChannels
  /-- Metrics that record the listed gauges and the creation of nodes. -/
  | metrics (enabled : List NodeMetric)
  | manager

namespace Product

def codecOf (maxLength : Nat) : Build FrameCodec := do
  return ⟨← .require .compressor, maxLength⟩

def plainChannelFactory : Build ChannelFactory := do
  let frameCodec ← .require .frameCodec
  let versions ← .require .versionChoice
  let coalescer ← .require .writeCoalescer
  let transport ← .require .transportOptions
  return { frameCodec, versions, coalescer, ssl := none, auth := none, transport }

/-- The build of a component as a product, after the steps of a script. A product of another
component means the component's own builder. The parts of a manager are read before the steps. -/
def build (a : Assembly) (id : ComponentId) (steps : Build Unit) (product : Product) :
    Build id.Value :=
  match id, product with
  | .balancingPolicy, .balancing p => do steps; return p.policy
  | .reconnectionPolicy, .reconnection p => do steps; p.build a.settings
  | .addressTranslator, .translator p => do steps; return p.translator
  | .authProvider, .auth none => do steps; return none
  | .authProvider, .auth (some p) => do steps; return some (← p.build a.settings)
  | .sslEngine, .ssl p => do steps; return p.map SslProduct.engine
  | .eventBus, .bus capacity => do steps; .makeBus capacity
  | .compressor, .compressor p => do steps; return p.compressor
  | .frameCodec, .codec maxLength => do steps; codecOf maxLength
  | .versionChoice, .versions choice => do steps; return choice
  | .transportOptions, .transport options => do steps; return options
  | .writeCoalescer, .coalescer w => do steps; return w
  | .sslHandler, .ssl p => do steps; return p.map SslProduct.engine
  | .channelFactory, .plainChannels => do steps; plainChannelFactory
  | .metricsFactory, .metrics enabled => do steps; return { enabled, announces := true }
  | .metadataManager, .manager => do
    let bus ← .require .eventBus
    let factory ← .require .metricsFactory
    steps
    .startManager factory bus
  | id, _ => do steps; a.builder id

end Product

/-- What a scripted constructor of a strategy makes; the kind of the product is the kind of the
strategy. -/
inductive StrategyProduct where
  | balancing (product : BalancingProduct)
  | reconnection (product : ReconnectionProduct)
  | translator (product : TranslatorProduct)
  | auth (product : AuthProduct)
  | ssl (product : SslProduct)
  | compressor (product : CompressorProduct)

/-- Registers a product under an identifier, to be made after the steps of a script. -/
def StrategyProduct.register (s : Settings) (id : String) (steps : Build Unit) (t : Strategies) :
    StrategyProduct → Strategies
  | .balancing p =>
    { t with balancing := t.balancing.register id do steps; return p.policy }
  | .reconnection p =>
    { t with reconnection := t.reconnection.register id do steps; p.build s }
  | .translator p =>
    { t with addressing := t.addressing.register id do steps; return p.translator }
  | .auth p => { t with auth := t.auth.register id do steps; p.build s }
  | .ssl p => { t with ssl := t.ssl.register id do steps; return p.engine }
  | .compressor p =>
    { t with compression := t.compression.register id do steps; return p.compressor }

end ClusterDriver.Scenario
