import ClusterDriver.Net.Address
import Mathlib.Data.List.Perm.Basic
import Mathlib.Data.Nat.Digits.Lemmas
/-!
# The order of endpoints

Endpoints are in a total order. It is the order of the numbers that their parts stand for: all of
IPv4 before all of IPv6, then the address read as one number, then the port, and for IPv6 then the
flow label and the scope.
-/
namespace ClusterDriver

/-- Digits of one length are in the order of the numbers that they are written for. -/
theorem lt_iff_number_lt {base : Nat} (large : 1 < base) {ds es : List Nat}
    (same : ds.length = es.length) (small : ∀ d ∈ ds, d < base) (small' : ∀ e ∈ es, e < base) :
    ds < es ↔ Nat.ofDigits base ds.reverse < Nat.ofDigits base es.reverse := by
  induction ds generalizing es with
  | nil =>
    obtain rfl := List.eq_nil_of_length_eq_zero same.symm
    simp
  | cons d ds ih =>
    cases es with
    | nil => cases same
    | cons e es =>
      have same' : ds.length = es.length := Nat.succ.inj same
      have rest := ih same' (fun x hx => small x (.tail _ hx)) fun x hx => small' x (.tail _ hx)
      have bound := Nat.ofDigits_lt_base_pow_length (l := ds.reverse) large
        fun x hx => small x (.tail _ (List.mem_reverse.1 hx))
      have bound' := Nat.ofDigits_lt_base_pow_length (l := es.reverse) large
        fun x hx => small' x (.tail _ (List.mem_reverse.1 hx))
      rw [List.length_reverse] at bound bound'
      simp only [List.cons_lt_cons_iff, rest, List.reverse_cons, Nat.ofDigits_append,
        Nat.ofDigits_singleton, List.length_reverse, same'] at bound ⊢
      constructor
      · rintro (less | ⟨rfl, less⟩)
        · have wide : base ^ es.length * (d + 1) ≤ base ^ es.length * e :=
            Nat.mul_le_mul_left _ less
          rw [Nat.mul_succ] at wide
          omega
        · omega
      · intro less
        rcases Nat.lt_trichotomy d e with first | rfl | first
        · exact Or.inl first
        · exact Or.inr ⟨rfl, by omega⟩
        · have wide : base ^ es.length * (e + 1) ≤ base ^ es.length * d :=
            Nat.mul_le_mul_left _ first
          rw [Nat.mul_succ] at wide
          omega

theorem append_lt_append_iff {as bs : List Nat} (same : as.length = bs.length)
    (as' bs' : List Nat) : as ++ as' < bs ++ bs' ↔ as < bs ∨ as = bs ∧ as' < bs' := by
  induction as generalizing bs with
  | nil =>
    obtain rfl := List.eq_nil_of_length_eq_zero same.symm
    simp
  | cons a as ih =>
    cases bs with
    | nil => cases same
    | cons b bs =>
      simp only [List.cons_append, List.cons_lt_cons_iff, ih (Nat.succ.inj same),
        List.cons.injEq]
      tauto

namespace Ipv4

def digits (ip : Ipv4) : List Nat := ip.octets.map UInt8.toNat

/-- The address as one number. -/
def number (ip : Ipv4) : Nat := Nat.ofDigits 256 ip.digits.reverse

theorem length_digits (ip : Ipv4) : ip.digits.length = 4 := rfl

theorem digits_inj {ip ip' : Ipv4} : ip.digits = ip'.digits ↔ ip = ip' := by
  cases ip
  cases ip'
  simp [digits, octets, UInt8.toNat_inj]

theorem digits_lt_iff (ip ip' : Ipv4) : ip.digits < ip'.digits ↔ ip.number < ip'.number :=
  lt_iff_number_lt (by decide) (ip.length_digits.trans ip'.length_digits.symm)
    (fun d among => by
      obtain ⟨octet, _, rfl⟩ := List.mem_map.1 among
      exact octet.toNat_lt)
    (fun d among => by
      obtain ⟨octet, _, rfl⟩ := List.mem_map.1 among
      exact octet.toNat_lt)

end Ipv4

namespace Ipv6

def digits (ip : Ipv6) : List Nat := ip.groups.map UInt16.toNat

def number (ip : Ipv6) : Nat := Nat.ofDigits 65536 ip.digits.reverse

theorem length_digits (ip : Ipv6) : ip.digits.length = 8 := by
  rw [digits, List.length_map, ip.length_eq]

theorem digits_inj {ip ip' : Ipv6} : ip.digits = ip'.digits ↔ ip = ip' := by
  cases ip
  cases ip'
  rw [Ipv6.mk.injEq]
  exact List.map_inj_right fun _ _ => UInt16.toNat_inj.1

theorem digits_lt_iff (ip ip' : Ipv6) : ip.digits < ip'.digits ↔ ip.number < ip'.number :=
  lt_iff_number_lt (by decide) (ip.length_digits.trans ip'.length_digits.symm)
    (fun d among => by
      obtain ⟨group, _, rfl⟩ := List.mem_map.1 among
      exact group.toNat_lt)
    (fun d among => by
      obtain ⟨group, _, rfl⟩ := List.mem_map.1 among
      exact group.toNat_lt)

end Ipv6

namespace Endpoint

theorem le_trans {a b c : Endpoint} (first : a ≤ b) (second : b ≤ c) : a ≤ c := by
  have keys : List.le a.key b.key := first
  exact List.le_trans keys second

theorem le_total (a b : Endpoint) : a ≤ b ∨ b ≤ a := List.le_total a.key b.key

theorem lt_of_le_of_ne {a b : Endpoint} (le : a ≤ b) (differ : a ≠ b) : a < b := by
  by_contra notLess
  have keys : List.le a.key b.key := le
  exact differ (key_injective (List.le_antisymm keys notLess))

theorem lt_asymm {a b : Endpoint} (less : a < b) : ¬ b < a := List.lt_asymm less

theorem ne_of_lt {a b : Endpoint} (less : a < b) : a ≠ b := by
  rintro rfl
  exact lt_asymm less less

/-- What is sorted by endpoints, each of which occurs once, ascends in them. -/
theorem pairwise_mergeSort {α : Type} (f : α → Endpoint) {items : List α}
    (nodup : (items.map f).Nodup) :
    (items.mergeSort fun a b => decide (f a ≤ f b)).Pairwise fun a b => f a < f b := by
  let sorted := items.mergeSort fun a b => decide (f a ≤ f b)
  have ascends : sorted.Pairwise fun a b => decide (f a ≤ f b) = true :=
    List.pairwise_mergeSort (fun a b c first second => by
        simp only [decide_eq_true_eq] at first second ⊢
        exact le_trans first second)
      (fun a b => by simpa using le_total (f a) (f b)) items
  have differ : (sorted.map f).Nodup := ((List.mergeSort_perm items _).map f).nodup_iff.2 nodup
  refine (ascends.and (List.pairwise_map.1 differ)).imp fun {a b} both => ?_
  exact lt_of_le_of_ne (of_decide_eq_true both.1) both.2

/-- In ascending order there is one list of what it holds. -/
theorem eq_of_perm {α : Type} {f : α → Endpoint} {l l' : List α}
    (ascends : l.Pairwise fun a b => f a < f b) (ascends' : l'.Pairwise fun a b => f a < f b)
    (perm : l.Perm l') : l = l' :=
  perm.eq_of_pairwise (fun _ _ _ _ less less' => absurd less' (lt_asymm less)) ascends ascends'

theorem sort_perm (endpoints : List Endpoint) : (sort endpoints).Perm endpoints :=
  List.mergeSort_perm _ _

theorem pairwise_sort {endpoints : List Endpoint} (nodup : endpoints.Nodup) :
    (sort endpoints).Pairwise (· < ·) :=
  pairwise_mergeSort id (by rwa [List.map_id])

/-- The order of socket addresses, part by part. -/
def Precedes : Endpoint → Endpoint → Prop
  | .v4 ip port, .v4 ip' port' => ip.number < ip'.number ∨ ip = ip' ∧ port < port'
  | .v4 _ _, .v6 _ _ _ _ => True
  | .v6 _ _ _ _, .v4 _ _ => False
  | .v6 ip port flow scope, .v6 ip' port' flow' scope' =>
    ip.number < ip'.number ∨
      ip = ip' ∧ (port < port' ∨ port = port' ∧ (flow < flow' ∨ flow = flow' ∧ scope < scope'))

theorem key_v4 (ip : Ipv4) (port : UInt16) :
    (v4 ip port).key = 0 :: (ip.digits ++ [port.toNat]) := rfl

theorem key_v6 (ip : Ipv6) (port : UInt16) (flow scope : UInt32) :
    (v6 ip port flow scope).key = 1 :: (ip.digits ++ [port.toNat, flow.toNat, scope.toNat]) := rfl

theorem lt_iff_precedes (a b : Endpoint) : a < b ↔ a.Precedes b := by
  have keys : a < b ↔ a.key < b.key := Iff.rfl
  rw [keys]
  cases a with
  | v4 ip port =>
    cases b with
    | v4 ip' port' =>
      rw [key_v4, key_v4, List.cons_lt_cons_iff,
        append_lt_append_iff (ip.length_digits.trans ip'.length_digits.symm), Ipv4.digits_lt_iff,
        Ipv4.digits_inj]
      simp [Precedes, UInt16.lt_iff_toNat_lt, List.cons_lt_cons_iff]
    | v6 ip' port' flow' scope' => simp [key_v4, key_v6, Precedes, List.cons_lt_cons_iff]
  | v6 ip port flow scope =>
    cases b with
    | v4 ip' port' => simp [key_v4, key_v6, Precedes, List.cons_lt_cons_iff]
    | v6 ip' port' flow' scope' =>
      rw [key_v6, key_v6, List.cons_lt_cons_iff,
        append_lt_append_iff (ip.length_digits.trans ip'.length_digits.symm), Ipv6.digits_lt_iff,
        Ipv6.digits_inj]
      simp [Precedes, UInt16.lt_iff_toNat_lt, UInt32.lt_iff_toNat_lt, ← UInt16.toNat_inj,
        ← UInt32.toNat_inj, List.cons_lt_cons_iff]

end Endpoint
end ClusterDriver
