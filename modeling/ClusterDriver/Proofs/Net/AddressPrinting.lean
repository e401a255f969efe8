import ClusterDriver.Proofs.Net.AddressGrammar
/-!
# Printed addresses

What is printed for an address is in the grammar, so it is read as that address. The longest run of
zero groups is left out, where the only thing that counts for reading is that it is a run of zeros.
-/
namespace ClusterDriver.AddressText
open Text
variable {gs : List UInt16} {ip : Ipv6}

theorem hexDigit_digitChar {d : Nat} (small : d < 16) : hexDigit? d.digitChar = some d := by
  have all : ∀ d : Fin 16, hexDigit? d.val.digitChar = some d.val := by decide
  exact all ⟨d, small⟩

theorem values_toDigits (n : Nat) : ∃ ds : List Nat,
    (Nat.toDigits 16 n).map hexDigit? = ds.map some ∧ n = Nat.ofDigits 16 ds.reverse := by
  induction n using Nat.strongRecOn with
  | ind n ih =>
    rcases Nat.lt_or_ge n 16 with small | large
    · refine ⟨[n], ?_, by simp⟩
      rw [Nat.toDigits_of_lt_base small]
      simp [hexDigit_digitChar small]
    · obtain ⟨ds, values, value⟩ := ih (n / 16) (by omega)
      refine ⟨ds ++ [n % 16], ?_, ?_⟩
      · rw [Nat.toDigits_of_base_le (by decide) large, List.map_append, List.map_append, values]
        simp [hexDigit_digitChar (Nat.mod_lt n (by decide))]
      · rw [List.reverse_concat, Nat.ofDigits_cons, ← value]
        exact (Nat.mod_add_div n 16).symm

theorem isGroup_toDigits (g : UInt16) : IsGroup g (Nat.toDigits 16 g.toNat) :=
  ⟨Nat.toDigits_ne_nil, (Nat.length_toDigits_le_iff (by decide) (by decide)).2 g.toNat_lt,
    values_toDigits g.toNat⟩

theorem row_groupChars (nonempty : gs ≠ []) : Row false gs (groupChars gs) := by
  induction gs with
  | nil => exact absurd rfl nonempty
  | cons g gs ih =>
    cases gs with
    | nil => exact .group (isGroup_toDigits g)
    | cons h gs => exact .cons (isGroup_toDigits g) (ih (List.cons_ne_nil h gs))

theorem part_groupChars (gs : List UInt16) : Part false gs (groupChars gs) := by
  cases gs with
  | nil => exact .inl ⟨rfl, rfl, rfl⟩
  | cons g gs => exact .inr (row_groupChars (List.cons_ne_nil g gs))

/-- A run of zeros: where it starts, and how long it is. -/
def ZerosAt (gs : List UInt16) (run : Nat × Nat) : Prop :=
  ∃ front back, gs = front ++ List.replicate run.2 0 ++ back ∧ front.length = run.1

theorem ZerosAt.append {run : Nat × Nat} (zeros : ZerosAt gs run) (g : UInt16) :
    ZerosAt (gs ++ [g]) run := by
  obtain ⟨front, back, rfl, start⟩ := zeros
  exact ⟨front, back ++ [g], by simp, start⟩

/-- One group further in the search for the longest run. -/
def zerosStep (s : (Nat × Nat) × Nat × Nat) (g : UInt16) : (Nat × Nat) × Nat × Nat :=
  let (best, length, index) := s
  if g = 0 then
    let run := (index - length, length + 1)
    (if best.2 < run.2 then run else best, length + 1, index + 1)
  else (best, 0, index + 1)

/-- The state of the search: the best run so far, the length of the last one, and how many groups
were searched. -/
structure Searched (gs : List UInt16) (s : (Nat × Nat) × Nat × Nat) : Prop where
  best : ZerosAt gs s.1
  last : ∃ front, gs = front ++ List.replicate s.2.1 0
  index : s.2.2 = gs.length

theorem Searched.step {s : (Nat × Nat) × Nat × Nat} (searched : Searched gs s) (g : UInt16) :
    Searched (gs ++ [g]) (zerosStep s g) := by
  obtain ⟨best, length, index⟩ := s
  obtain ⟨front, last⟩ := searched.last
  have count : index = gs.length := searched.index
  have next : index + 1 = (gs ++ [g]).length := by
    rw [count, List.length_append, List.length_singleton]
  rw [zerosStep]
  split
  · rename_i zero
    have longer : gs ++ [g] = front ++ List.replicate (length + 1) 0 := by
      rw [last, zero, List.replicate_succ', List.append_assoc]
    refine ⟨?_, ⟨front, longer⟩, next⟩
    simp only
    split
    · refine ⟨front, [], by rw [longer, List.append_nil], ?_⟩
      rw [count, last, List.length_append, List.length_replicate, Nat.add_sub_cancel]
    · exact searched.best.append g
  · exact ⟨searched.best.append g, ⟨gs ++ [g], (List.append_nil _).symm⟩, next⟩

theorem zerosAt_longestZeros (gs : List UInt16) : ZerosAt gs (longestZeros gs) := by
  have searched : Searched gs (gs.foldl zerosStep ((0, 0), 0, 0)) := by
    induction gs using List.reverseRecOn with
    | nil => exact ⟨⟨[], [], rfl, rfl⟩, ⟨[], rfl⟩, rfl⟩
    | append_singleton gs g ih =>
      rw [List.foldl_append]
      exact ih.step g
  exact searched.best

theorem bytes_eq (g : UInt16) : (g / 256).toUInt8.toUInt16 * 256 + g.toUInt8.toUInt16 = g := by
  rw [← UInt16.toNat_inj]
  have small := g.toNat_lt
  simp
  omega

theorem isIpv6_of_mapped {ip4 : Ipv4} (mapped : mapped? ip = some ip4) :
    IsIpv6 ip ("::ffff:".toList ++ ipv4Chars ip4) := by
  have groups : ip.groups = [] ++ List.replicate (4 + 1) 0 ++ 0xffff :: pairOf ip4 := by
    rw [mapped?] at mapped
    split at mapped
    · rename_i g h groups
      cases mapped
      rw [groups, pairOf, bytes_eq, bytes_eq]
      rfl
    · cases mapped
  have ones : IsGroup 0xffff ['f', 'f', 'f', 'f'] :=
    ⟨by simp, by simp, [15, 15, 15, 15], rfl, by decide⟩
  have text : "::ffff:".toList = [':', ':', 'f', 'f', 'f', 'f', ':'] := by decide
  rw [text]
  exact .shortened (.inl ⟨rfl, rfl, rfl⟩) (.inr (.cons ones (.ipv4 ip4))) groups

theorem isIpv6_ipv6Chars (ip : Ipv6) : IsIpv6 ip (ipv6Chars ip) := by
  have nonempty : ip.groups ≠ [] := by
    intro empty
    have eight := ip.length_eq
    rw [empty] at eight
    cases eight
  rw [ipv6Chars]
  split
  · rename_i ip4 mapped
    exact isIpv6_of_mapped mapped
  · simp only
    split
    · rename_i longer
      obtain ⟨front, back, whole, start⟩ := zerosAt_longestZeros ip.groups
      obtain ⟨zeros, length⟩ : ∃ zeros, (longestZeros ip.groups).2 = zeros + 1 :=
        ⟨_, (Nat.succ_pred_eq_of_pos (Nat.lt_of_succ_lt longer)).symm⟩
      rw [length] at whole
      have take : ip.groups.take (longestZeros ip.groups).1 = front := by
        rw [← start, whole, List.append_assoc, List.take_left]
      have drop : ip.groups.drop ((longestZeros ip.groups).1 + (longestZeros ip.groups).2) =
          back := by
        have behind : (longestZeros ip.groups).1 + (zeros + 1) =
            (front ++ List.replicate (zeros + 1) 0).length := by simp [start]
        rw [length, behind, whole, List.drop_left]
      rw [take, drop]
      exact .shortened (part_groupChars front) (part_groupChars back) whole
    · exact .full (row_groupChars nonempty)

theorem isIp_ipChars (ip : Ip) : IsIp ip (ipChars ip) := by
  cases ip with
  | v4 ip => exact .v4 ip
  | v6 ip => exact .v6 (isIpv6_ipv6Chars ip)

/-- It has no flow label, for which there is no place in the text. -/
def Unlabelled : Endpoint → Prop
  | .v4 _ _ => True
  | .v6 _ _ flow _ => flow = 0

theorem isEndpoint_endpointChars {e : Endpoint} (unlabelled : Unlabelled e) :
    IsEndpoint e (endpointChars e) := by
  cases e with
  | v4 ip port => exact .v4 ip (isDecimal_decimal port.toNat)
  | v6 ip port flow scope =>
    obtain rfl : flow = 0 := unlabelled
    refine .v6 (isIpv6_ipv6Chars ip) ?_ (isDecimal_decimal port.toNat)
    split
    · rename_i zero
      exact .inl ⟨rfl, zero⟩
    · exact .inr ⟨_, rfl, isDecimal_decimal scope.toNat⟩

end ClusterDriver.AddressText
