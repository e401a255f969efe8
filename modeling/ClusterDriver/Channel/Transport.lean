import ClusterDriver.Settings.Basic
/-!
# Transport

Options of the socket, and the rule by which a writer without work parks.
-/
namespace ClusterDriver

structure TransportOptions where
  connectTimeout : Span
  tcpNoDelay : Bool
  maxFrameLength : Nat
  deriving DecidableEq, Repr

namespace TransportOptions

/-- The frame limit is read first, and has to be positive. -/
def ofSettings (s : Settings) : Except AccessError TransportOptions :=
  let path := KnownOption.maxFrameLength.path
  match s.integer path with
  | .error e => .error e
  | .ok limit =>
    if limit ≤ 0 then
      .error (.config path ("must be a positive byte count, got " ++ Text.integerText limit))
    else
      match s.duration KnownOption.connectTimeout.path with
      | .error e => .error e
      | .ok connectTimeout =>
        match s.boolean KnownOption.tcpNoDelay.path with
        | .error e => .error e
        | .ok tcpNoDelay => .ok { connectTimeout, tcpNoDelay, maxFrameLength := limit.toNat }

def shape (o : TransportOptions) : Text.Shape :=
  .record "TransportOptions"
    [("connect_timeout", o.connectTimeout.shape), ("tcp_no_delay", .bool o.tcpNoDelay),
      ("max_frame_length", .nat o.maxFrameLength)]
    false

def toJson (o : TransportOptions) : Json :=
  .object
    [("connect_timeout", o.connectTimeout.toJson), ("tcp_no_delay", .bool o.tcpNoDelay),
      ("max_frame_length", .nat o.maxFrameLength)]

end TransportOptions

/-- Batches writes; a writer that found nothing to do `maxRuns` times in a row parks. -/
structure WriteCoalescer where
  maxRuns : Nat := 5
  deriving DecidableEq, Repr

def WriteCoalescer.shouldPark (w : WriteCoalescer) (emptyRuns : Nat) : Bool := w.maxRuns ≤ emptyRuns

end ClusterDriver
