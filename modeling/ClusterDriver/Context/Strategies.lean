import ClusterDriver.Context.Build
/-!
# Strategies

Tables from identifiers, which settings name, to the builds that make the strategy.
-/
namespace ClusterDriver

structure StrategyTable (β : Type) where
  kind : String
  entries : Table String (Build β) := .empty

namespace StrategyTable
variable {β : Type}

def register (t : StrategyTable β) (id : String) (build : Build β) : StrategyTable β :=
  { t with entries := t.entries.insert id build }

def contains (t : StrategyTable β) (id : String) : Bool := t.entries.contains id

def identifiers (t : StrategyTable β) : List String :=
  t.entries.keys.mergeSort fun a b => decide (a ≤ b)

def unknown (t : StrategyTable β) (option : KnownOption) (id : String) : AccessError :=
  .config option.path
    ("unknown " ++ t.kind ++ " '" ++ id ++ "' (registered: " ++
      ", ".intercalate t.identifiers ++ ")")

/-- The strategy that an option names, none if the option is not set. -/
def optional (t : StrategyTable β) (s : Settings) (option : KnownOption) : Build (Option β) := do
  match ← .ofResult (s.optionalString option.path) with
  | none => return none
  | some id => match t.entries.get? id with
    | none => .raise (.ofAccess (t.unknown option id))
    | some build => return some (← build)

def required (t : StrategyTable β) (s : Settings) (option : KnownOption) : Build β := do
  match ← t.optional s option with
  | some strategy => return strategy
  | none => .raise (.ofAccess (.missingOption option.path))

def shape (t : StrategyTable β) : Text.Shape :=
  .record "FactoryMap"
    [("kind", .text t.kind), ("identifiers", .list (t.identifiers.map .text))] false

end StrategyTable

structure Strategies where
  balancing : StrategyTable BalancingPolicy := ⟨"load balancing policy", .empty⟩
  reconnection : StrategyTable ReconnectionPolicy := ⟨"reconnection policy", .empty⟩
  addressing : StrategyTable AddressTranslator := ⟨"address translator", .empty⟩
  auth : StrategyTable AuthProvider := ⟨"auth provider", .empty⟩
  ssl : StrategyTable SslEngine := ⟨"SSL engine factory", .empty⟩
  compression : StrategyTable Compressor := ⟨"compressor", .empty⟩

namespace Strategies

def empty : Strategies := {}

/-- The strategies that come with the driver. -/
def builtin (s : Settings) : Strategies :=
  { empty with
    balancing := empty.balancing.register "default" (pure .builtin)
    reconnection :=
      empty.reconnection.register "constant" (.ofResult (ReconnectionPolicy.ofSettings s))
    addressing := empty.addressing.register "pass-through" (pure .passThrough)
    auth := empty.auth.register "plain-text"
      (.ofResult ((PlainCredentials.ofSettings s).map PlainCredentials.provider))
    compression := empty.compression.register "none" (pure .none) }

def shape (t : Strategies) : Text.Shape :=
  .record "StrategyFactories"
    [("load_balancing", t.balancing.shape), ("reconnection", t.reconnection.shape),
      ("address_translation", t.addressing.shape), ("auth", t.auth.shape), ("ssl", t.ssl.shape),
      ("compression", t.compression.shape)]
    false

end Strategies
end ClusterDriver
