import ClusterDriver.Proofs.Net.Ipv4Texts
import Mathlib.Data.Nat.Digits.Defs
/-!
# IPv6 addresses

Eight groups between colons, the last two perhaps as an IPv4 address, or two rows of fewer groups
that together leave room for at least one zero group, with a double colon between them.
-/
namespace ClusterDriver.AddressText
open Text

/-- One to four hexadecimal digits with this value. -/
def IsGroup (g : UInt16) (cs : List Char) : Prop :=
  cs ≠ [] ∧ cs.length ≤ 4 ∧
    ∃ ds : List Nat, cs.map hexDigit? = ds.map some ∧ g.toNat = Nat.ofDigits 16 ds.reverse

/-- Groups with colons between them, the last two of them perhaps as an IPv4 address. -/
inductive Row : Bool → List UInt16 → List Char → Prop
  | group {g text} (isGroup : IsGroup g text) : Row false [g] text
  | ipv4 (ip : Ipv4) : Row true (pairOf ip) (ipv4Chars ip)
  | cons {g text endsInIpv4 gs later} (isGroup : IsGroup g text) (more : Row endsInIpv4 gs later) :
    Row endsInIpv4 (g :: gs) (text ++ ':' :: later)

/-- A row that may be empty. -/
def Part (endsInIpv4 : Bool) (gs : List UInt16) (text : List Char) : Prop :=
  endsInIpv4 = false ∧ gs = [] ∧ text = [] ∨ Row endsInIpv4 gs text

inductive IsIpv6 (ip : Ipv6) : List Char → Prop
  | full {endsInIpv4 text} (row : Row endsInIpv4 ip.groups text) : IsIpv6 ip text
  | shortened {endsInIpv4 front back frontText backText zeros}
    (opens : Part false front frontText) (closes : Part endsInIpv4 back backText)
    (groups : ip.groups = front ++ List.replicate (zeros + 1) 0 ++ back) :
    IsIpv6 ip (frontText ++ ':' :: ':' :: backText)

variable {cs rest run text : List Char} {g : UInt16} {gs : List UInt16} {ip : Ipv6} {room : Nat}
  {first endsInIpv4 : Bool}

theorem fold_hex {ds : List Nat} (values : run.map hexDigit? = ds.map some) :
    run.foldl (fun n c => n * 16 + (hexDigit? c).getD 0) 0 = Nat.ofDigits 16 ds.reverse := by
  have map : run.foldl (fun n c => n * 16 + (hexDigit? c).getD 0) 0 =
      (run.map hexDigit?).foldl (fun n d => n * 16 + d.getD 0) 0 := by rw [List.foldl_map]
  rw [map, values, List.foldl_map, Nat.ofDigits_eq_foldr, List.foldr_reverse]
  congr 1
  funext n d
  simp only [Option.getD_some, Nat.cast_id]
  omega

theorem IsGroup.digits (isGroup : IsGroup g text) : ∀ c ∈ text, (hexDigit? c).isSome = true := by
  intro c among
  obtain ⟨-, -, ds, values, -⟩ := isGroup
  have found : hexDigit? c ∈ ds.map some := values ▸ List.mem_map_of_mem among
  obtain ⟨d, -, is⟩ := List.mem_map.1 found
  rw [← is]
  rfl

theorem group_eq_some : group? cs = some (g, rest) ↔
    ∃ run, cs = run ++ rest ∧ Ends hexDigit? rest ∧ IsGroup g run := by
  simp only [group?, Option.map_eq_some_iff, Prod.exists, number_eq_some, Prod.mk.injEq]
  constructor
  · rintro ⟨n, _, ⟨run, rfl, ends, accepted⟩, rfl, rfl⟩
    have whole : n.toUInt16.toNat = n := UInt16.toNat_ofNat_of_lt (Nat.lt_succ_of_le accepted.limit)
    have values : run.map hexDigit? = (run.map fun c => (hexDigit? c).getD 0).map some := by
      rw [List.map_map]
      refine List.map_congr_left fun c among => ?_
      obtain ⟨d, is⟩ := Option.isSome_iff_exists.1 (accepted.digits c among)
      simp [is]
    refine ⟨run, rfl, ends, accepted.nonempty, accepted.size 4 rfl, _, values, ?_⟩
    rw [whole, ← fold_hex values, accepted.value]
  · rintro ⟨run, rfl, ends, isGroup⟩
    have digits := isGroup.digits
    obtain ⟨nonempty, short, ds, values, value⟩ := isGroup
    refine ⟨g.toNat, rest, ⟨run, rfl, ends, ?_⟩, UInt16.ofNat_toNat, rfl⟩
    exact {
      nonempty := nonempty
      digits := digits
      size := fun m is => by
        cases is
        exact short
      zeros := nofun
      value := by rw [fold_hex values, value]
      limit := Nat.le_of_lt_succ g.toNat_lt }

theorem isSome_hexDigit {c : Char} (digit : c.isDigit = true) : (hexDigit? c).isSome = true := by
  have known : (digit? c).isSome = true := (isSome_digit c).trans digit
  rw [digit?] at known
  rw [hexDigit?]
  split at known
  · rename_i range
    rw [if_pos range]
    rfl
  · cases known

theorem Ends.of_hex (ends : Ends hexDigit? rest) : Ends digit? rest := by
  intro c first
  rw [← Option.not_isSome_iff_eq_none, isSome_digit]
  intro digit
  have known := isSome_hexDigit digit
  rw [ends c first] at known
  cases known

/-- A group is not the start of an IPv4 address if no point follows. -/
theorem readIpv4_group (isGroup : IsGroup g text) (ends : Ends hexDigit? rest)
    (point : rest.head? ≠ some '.') : readIpv4 (text ++ rest) = none := by
  rw [Option.eq_none_iff_forall_ne_some]
  rintro ⟨ip, later⟩ read
  obtain ⟨same, -⟩ := readIpv4_eq_some.1 read
  have opens : text ++ rest = decimal ip.a.toNat ++ '.' :: (decimal ip.b.toNat ++ '.' ::
      (decimal ip.c.toNat ++ '.' :: (decimal ip.d.toNat ++ later))) := by simp [same, ipv4Chars]
  have drop := (run_append isGroup.digits ends).2
  have digits : ∀ c ∈ decimal ip.a.toNat, (hexDigit? c).isSome = true := fun c among =>
    isSome_hexDigit ((isDecimal_decimal _).2.1 c among)
  rw [opens, (run_append digits (ends_cons.2 rfl)).2] at drop
  rw [← drop] at point
  exact point rfl

theorem number_eq_none {radix limit : Nat} {digit : Char → Option Nat} {size : Option Nat}
    {leadingZeros : Bool} (ends : Ends digit cs) :
    number? radix digit size leadingZeros limit cs = none := by
  rw [Option.eq_none_iff_forall_ne_some]
  rintro ⟨n, rest⟩ read
  obtain ⟨run, rfl, -, accepted⟩ := number_eq_some.1 read
  cases run with
  | nil => exact accepted.nonempty rfl
  | cons c run =>
    have known := accepted.digits c List.mem_cons_self
    rw [ends c rfl] at known
    cases known

/-- No row goes on here. -/
structure Stops (rest : List Char) : Prop where
  ends : Ends hexDigit? rest
  point : rest.head? ≠ some '.'
  groups : ∀ room first, readGroups room first rest = ⟨[], false, rest⟩

theorem readGroups_unreadable
    (unreadable : ∀ body ∈ (if first then some cs else charIf ':' cs), Ends hexDigit? body) :
    readGroups room first cs = ⟨[], false, cs⟩ := by
  cases room with
  | zero => rfl
  | succ room =>
    rw [readGroups]
    cases opens : if first then some cs else charIf ':' cs with
    | none => rfl
    | some body =>
      have ends := unreadable body opens
      have octet : octet? body = none := by
        rw [octet?, number_eq_none ends.of_hex, Option.map_none]
      have ipv4 : readIpv4 body = none := by
        rw [readIpv4, octet, Option.bind_eq_bind, Option.bind_none]
      have group : group? body = none := by rw [group?, number_eq_none ends, Option.map_none]
      simp [ipv4, group]

theorem stops_double (cs : List Char) : Stops (':' :: ':' :: cs) := by
  refine ⟨ends_cons.2 rfl, by simp, fun room first => readGroups_unreadable fun body opens => ?_⟩
  cases first <;> cases opens <;> exact ends_cons.2 rfl

theorem stops_of_head (ends : Ends hexDigit? rest) (point : rest.head? ≠ some '.')
    (colon : rest.head? ≠ some ':') : Stops rest := by
  refine ⟨ends, point, fun room first => readGroups_unreadable fun body opens => ?_⟩
  cases first with
  | true =>
    cases opens
    exact ends
  | false =>
    rw [charIf_eq_some.1 opens] at colon
    exact absurd rfl colon

/-- A row, after a colon unless it is the first. -/
def leading (first : Bool) (text : List Char) : List Char := if first then text else ':' :: text

theorem body_leading (first : Bool) (cs : List Char) :
    (if first then some (leading first cs) else charIf ':' (leading first cs)) = some cs := by
  cases first <;> rfl

theorem readGroups_of_row (row : Row endsInIpv4 gs text) (fits : gs.length ≤ room)
    (stops : Stops rest) (first : Bool) :
    readGroups room first (leading first (text ++ rest)) = ⟨gs, endsInIpv4, rest⟩ := by
  induction row generalizing room first with
  | group isGroup =>
    cases room with
    | zero => simp at fits
    | succ room =>
      have read := group_eq_some.2 ⟨_, rfl, stops.ends, isGroup⟩
      rw [readGroups, body_leading]
      simp [readIpv4_group isGroup stops.ends stops.point, read, stops.groups]
  | ipv4 ip =>
    cases room with
    | zero => simp [pairOf] at fits
    | succ room =>
      have pair : room ≠ 0 := by
        rintro rfl
        simp [pairOf] at fits
      have read : readIpv4 (ipv4Chars ip ++ rest) = some (ip, rest) :=
        readIpv4_eq_some.2 ⟨rfl, stops.ends.of_hex⟩
      rw [readGroups, body_leading]
      simp [pair, read]
  | @cons g text endsInIpv4 gs later isGroup more ih =>
    cases room with
    | zero => simp at fits
    | succ room =>
      have colon : Ends hexDigit? (leading false (later ++ rest)) := ends_cons.2 rfl
      have read := group_eq_some.2 ⟨_, rfl, colon, isGroup⟩
      have whole : text ++ ':' :: later ++ rest = text ++ leading false (later ++ rest) := by
        rw [List.append_assoc]
        rfl
      have point : (leading false (later ++ rest)).head? ≠ some '.' := by simp [leading]
      rw [readGroups, body_leading, whole]
      simp [readIpv4_group isGroup colon point, read, ih (Nat.le_of_succ_le_succ fits) false]

theorem readGroups_of_part (part : Part endsInIpv4 gs text) (fits : gs.length ≤ room)
    (stops : Stops rest) : readGroups room true (text ++ rest) = ⟨gs, endsInIpv4, rest⟩ := by
  rcases part with ⟨rfl, rfl, rfl⟩ | row
  · exact stops.groups room true
  · exact readGroups_of_row row fits stops true

theorem row_of_readGroups (room : Nat) (first : Bool) (cs : List Char) :
    readGroups room first cs = ⟨[], false, cs⟩ ∨ ∃ endsInIpv4 gs text rest,
      readGroups room first cs = ⟨gs, endsInIpv4, rest⟩ ∧ gs.length ≤ room ∧
        Row endsInIpv4 gs text ∧ cs = leading first (text ++ rest) := by
  induction room generalizing first cs with
  | zero => exact .inl rfl
  | succ room ih =>
    cases opens : if first then some cs else charIf ':' cs with
    | none => exact .inl (by rw [readGroups, opens])
    | some body =>
      have whole : cs = leading first body := by
        cases first with
        | true => exact Option.some.inj opens
        | false => exact charIf_eq_some.1 opens
      cases ipv4 : (if room = 0 then none else readIpv4 body) with
      | some p =>
        obtain ⟨ip, rest⟩ := p
        split at ipv4
        · cases ipv4
        rename_i pair
        obtain ⟨rfl, -⟩ := readIpv4_eq_some.1 ipv4
        refine .inr ⟨true, pairOf ip, _, rest, ?_, ?_, .ipv4 ip, whole⟩
        · rw [readGroups, opens]
          simp [pair, ipv4]
        · simp only [pairOf, List.length_cons, List.length_nil]
          omega
      | none =>
        cases group : group? body with
        | none => exact .inl (by simp [readGroups, opens, ipv4, group])
        | some p =>
          obtain ⟨g, later⟩ := p
          obtain ⟨run, rfl, -, isGroup⟩ := group_eq_some.1 group
          rcases ih false later with none | ⟨e, gs, text, rest, more, fits, row, rfl⟩
          · refine .inr ⟨false, [g], run, later, ?_, by simp, .group isGroup, whole⟩
            simp [readGroups, opens, ipv4, group, none]
          · refine .inr ⟨e, g :: gs, run ++ ':' :: text, rest, ?_, by simpa, .cons isGroup row, ?_⟩
            · simp [readGroups, opens, ipv4, group, more]
            · rw [whole]
              simp [leading]

theorem part_of_readGroups (room : Nat) (cs : List Char) : ∃ endsInIpv4 gs text rest,
    readGroups room true cs = ⟨gs, endsInIpv4, rest⟩ ∧ gs.length ≤ room ∧
      Part endsInIpv4 gs text ∧ cs = text ++ rest := by
  rcases row_of_readGroups room true cs with none | ⟨e, gs, text, rest, read, fits, row, whole⟩
  · exact ⟨false, [], [], cs, none, Nat.zero_le _, .inl ⟨rfl, rfl, rfl⟩, rfl⟩
  · exact ⟨e, gs, text, rest, read, fits, .inr row, whole⟩

theorem ofGroups_eq_some : ofGroups? gs = some ip ↔ ip.groups = gs := by
  rw [ofGroups?]
  constructor
  · intro h
    split at h
    · cases h
      rfl
    · cases h
  · rintro rfl
    rw [dif_pos ip.length_eq]

theorem isIpv6_of_readIpv6 (read : readIpv6 cs = some (ip, rest)) :
    ∃ text, cs = text ++ rest ∧ IsIpv6 ip text := by
  obtain ⟨e, front, frontText, later, opens, fits, part, rfl⟩ := part_of_readGroups 8 cs
  simp only [readIpv6, opens] at read
  split at read
  · rename_i full
    obtain ⟨ip', groups, pair⟩ := Option.map_eq_some_iff.1 read
    cases pair
    rcases part with ⟨-, rfl, -⟩ | row
    · simp at full
    · exact ⟨frontText, rfl, .full (ofGroups_eq_some.1 groups ▸ row)⟩
  rename_i short
  split at read
  · cases read
  rename_i hex
  obtain rfl : e = false := by simpa using hex
  simp only [Option.bind_eq_bind, Option.bind_eq_some_iff, charIf_eq_some, Option.pure_def] at read
  obtain ⟨_, rfl, back, rfl, ip', groups, pair⟩ := read
  obtain ⟨e', gs, backText, later, closes, fits', part', rfl⟩ :=
    part_of_readGroups (7 - front.length) back
  simp only [closes, Option.some.injEq, Prod.mk.injEq] at groups pair
  obtain ⟨rfl, rfl⟩ := pair
  have gap : 8 - front.length - gs.length = (7 - front.length - gs.length) + 1 := by omega
  rw [gap] at groups
  exact ⟨frontText ++ ':' :: ':' :: backText, by simp,
    .shortened part part' (ofGroups_eq_some.1 groups)⟩

theorem readIpv6_of_isIpv6 (isIpv6 : IsIpv6 ip text) (stops : Stops rest) :
    readIpv6 (text ++ rest) = some (ip, rest) := by
  have eight := ip.length_eq
  cases isIpv6 with
  | full row =>
    have read := readGroups_of_row row eight.le stops true
    rw [leading, if_pos rfl] at read
    simp [readIpv6, read, eight, ofGroups_eq_some.2 rfl]
  | @shortened e front back frontText backText zeros opens closes groups =>
    have count : front.length + (zeros + 1) + back.length = 8 := by
      rw [← eight, groups]
      simp
      omega
    have front' := readGroups_of_part opens (by omega : front.length ≤ 8)
      (stops_double (backText ++ rest))
    have back' := readGroups_of_part closes (by omega : back.length ≤ 7 - front.length) stops
    have gap : 8 - front.length - back.length = zeros + 1 := by omega
    have short : front.length ≠ 8 := by omega
    have whole : frontText ++ ':' :: ':' :: backText ++ rest =
        frontText ++ ':' :: ':' :: (backText ++ rest) := by simp
    rw [whole, readIpv6, front']
    simp only [short, if_false, charIf, if_true, back', gap, Option.bind_eq_bind, Option.bind_some,
      ofGroups_eq_some.2 groups]
    rfl

end ClusterDriver.AddressText
