/-!
# Network addresses

IP addresses and endpoints, which are an address with a port. Endpoints are ordered by the numbers
in them: IPv4 before IPv6, then the address, the port, the flow label and the scope.
-/
namespace ClusterDriver

structure Ipv4 where
  a : UInt8
  b : UInt8
  c : UInt8
  d : UInt8
  deriving DecidableEq, Repr

/-- Eight groups of sixteen bits, most significant first. -/
structure Ipv6 where
  groups : List UInt16
  length_eq : groups.length = 8
  deriving DecidableEq, Repr

inductive Ip where
  | v4 (address : Ipv4)
  | v6 (address : Ipv6)
  deriving DecidableEq, Repr

inductive Endpoint where
  | v4 (ip : Ipv4) (port : UInt16)
  | v6 (ip : Ipv6) (port : UInt16) (flow scope : UInt32)
  deriving DecidableEq, Repr

def Ipv4.octets (ip : Ipv4) : List UInt8 := [ip.a, ip.b, ip.c, ip.d]

def Ipv4.loopback : Ipv4 := ⟨127, 0, 0, 1⟩

namespace Endpoint

def ofIp (ip : Ip) (port : UInt16) : Endpoint :=
  match ip with
  | .v4 ip => .v4 ip port
  | .v6 ip => .v6 ip port 0 0

def port : Endpoint → UInt16
  | .v4 _ port => port
  | .v6 _ port _ _ => port

/-- What endpoints are ordered by, most significant first. -/
def key : Endpoint → List Nat
  | .v4 ip port => 0 :: (ip.octets.map UInt8.toNat ++ [port.toNat])
  | .v6 ip port flow scope =>
    1 :: (ip.groups.map UInt16.toNat ++ [port.toNat, flow.toNat, scope.toNat])

instance : LT Endpoint := ⟨fun a b => a.key < b.key⟩
instance : LE Endpoint := ⟨fun a b => ¬ b < a⟩
instance (a b : Endpoint) : Decidable (a < b) := inferInstanceAs (Decidable (a.key < b.key))
instance (a b : Endpoint) : Decidable (a ≤ b) := inferInstanceAs (Decidable (¬ b < a))

def sort (endpoints : List Endpoint) : List Endpoint :=
  endpoints.mergeSort fun a b => decide (a ≤ b)

theorem key_injective {a b : Endpoint} (h : a.key = b.key) : a = b := by
  cases a with
  | v4 ip port =>
    cases b with
    | v4 ip' port' =>
      obtain ⟨a, b, c, d⟩ := ip
      obtain ⟨a', b', c', d'⟩ := ip'
      simp [key, Ipv4.octets, UInt8.toNat_inj, UInt16.toNat_inj] at h
      simp [h]
    | v6 ip' port' flow' scope' => simp [key] at h
  | v6 ip port flow scope =>
    cases b with
    | v4 ip' port' => simp [key] at h
    | v6 ip' port' flow' scope' =>
      obtain ⟨gs, hl⟩ := ip
      obtain ⟨gs', hl'⟩ := ip'
      simp only [key, List.cons.injEq, true_and] at h
      obtain ⟨hg, ht⟩ := List.append_inj h (by simp [hl, hl'])
      have hgs : gs = gs' := (List.map_inj_right fun _ _ => UInt16.toNat_inj.1).1 hg
      simp [UInt16.toNat_inj, UInt32.toNat_inj] at ht
      simp [hgs, ht]

end Endpoint
end ClusterDriver
