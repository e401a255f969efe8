import ClusterDriver.Proofs.Net.Ipv6Texts
/-!
# The grammar of addresses

The texts that are read as an IP address and those that are read as an endpoint, each with what it
is read as. No text is both.
-/
namespace ClusterDriver.AddressText
open Text

inductive IsIp : Ip → List Char → Prop
  | v4 (ip : Ipv4) : IsIp (.v4 ip) (ipv4Chars ip)
  | v6 {ip : Ipv6} {text : List Char} (isIpv6 : IsIpv6 ip text) : IsIp (.v6 ip) text

/-- A percent sign and a decimal number, or nothing for zero. -/
def IsScope (scope : UInt32) (text : List Char) : Prop :=
  text = [] ∧ scope = 0 ∨ ∃ ds, text = '%' :: ds ∧ IsDecimal ds scope.toNat

inductive IsEndpoint : Endpoint → List Char → Prop
  | v4 (ip : Ipv4) {port : UInt16} {portText : List Char}
    (isPort : IsDecimal portText port.toNat) :
    IsEndpoint (.v4 ip port) (ipv4Chars ip ++ ':' :: portText)
  | v6 {ip : Ipv6} {scope : UInt32} {port : UInt16} {ipText scopeText portText : List Char}
    (isIpv6 : IsIpv6 ip ipText) (isScope : IsScope scope scopeText)
    (isPort : IsDecimal portText port.toNat) :
    IsEndpoint (.v6 ip port 0 scope) ('[' :: ipText ++ scopeText ++ ']' :: ':' :: portText)

variable {cs rest text : List Char} {ip : Ip} {e : Endpoint} {scope : UInt32}

theorem whole_eq_some {α : Type} {a : α} {read : List Char → Option (α × List Char)} :
    whole read cs = some a ↔ read cs = some (a, []) := by
  rw [whole]
  cases read cs with
  | none => simp
  | some p =>
    obtain ⟨a', rest⟩ := p
    cases rest <;> simp

/-- An IPv4 address does not open an IPv6 address. -/
theorem readIpv6_of_readIpv4 {p : Ipv4 × List Char} (read : readIpv4 cs = some p) :
    readIpv6 cs = none := by
  have front : readGroups 8 true cs = ⟨pairOf p.1, true, p.2⟩ := by simp [readGroups, read]
  rw [readIpv6, front]
  rfl

theorem readIpv4_of_isIpv6 {ip : Ipv6} (isIpv6 : IsIpv6 ip text) : readIpv4 text = none := by
  have read := readIpv6_of_isIpv6 isIpv6 (stops_of_head ends_nil (by simp) (by simp))
  rw [List.append_nil] at read
  rw [Option.eq_none_iff_forall_ne_some]
  intro p read'
  rw [readIpv6_of_readIpv4 read'] at read
  cases read

theorem ip_eq_some : ip? cs = some ip ↔ IsIp ip cs := by
  rw [ip?, whole_eq_some]
  constructor
  · intro read
    cases ipv4 : readIpv4 cs with
    | some p =>
      obtain ⟨ip, later⟩ := p
      rw [ipv4] at read
      cases read
      obtain ⟨rfl, -⟩ := readIpv4_eq_some.1 ipv4
      rw [List.append_nil]
      exact .v4 _
    | none =>
      rw [ipv4] at read
      obtain ⟨⟨ip, later⟩, ipv6, pair⟩ := Option.map_eq_some_iff.1 read
      cases pair
      obtain ⟨text, rfl, isIpv6⟩ := isIpv6_of_readIpv6 ipv6
      rw [List.append_nil]
      exact .v6 isIpv6
  · intro isIp
    cases isIp with
    | v4 ip =>
      have read : readIpv4 (ipv4Chars ip) = some (ip, []) :=
        readIpv4_eq_some.2 ⟨(List.append_nil _).symm, ends_nil⟩
      rw [read]
      rfl
    | v6 isIpv6 =>
      have read := readIpv6_of_isIpv6 isIpv6 (stops_of_head ends_nil (by simp) (by simp))
      rw [List.append_nil] at read
      rw [readIpv4_of_isIpv6 isIpv6, read]
      rfl

theorem isScope_of_readScope (read : readScope cs = (scope, rest)) :
    ∃ text, cs = text ++ rest ∧ IsScope scope text := by
  rw [readScope] at read
  split at read
  · rename_i n later found
    cases read
    obtain ⟨_, percent, number⟩ := Option.bind_eq_some_iff.1 found
    obtain ⟨ds, rfl, -, accepted⟩ := number_eq_some.1 number
    obtain ⟨isDecimal, within⟩ := run_decimal.1 accepted
    have whole : n.toUInt32.toNat = n := UInt32.toNat_ofNat_of_lt (Nat.lt_succ_of_le within)
    exact ⟨'%' :: ds, charIf_eq_some.1 percent, .inr ⟨ds, rfl, whole.symm ▸ isDecimal⟩⟩
  · cases read
    exact ⟨[], rfl, .inl ⟨rfl, rfl⟩⟩

theorem readScope_of_isScope (isScope : IsScope scope text) :
    readScope (text ++ ']' :: rest) = (scope, ']' :: rest) := by
  rcases isScope with ⟨rfl, rfl⟩ | ⟨ds, rfl, isDecimal⟩
  · rfl
  · have number : number? 10 digit? none true u32Limit (ds ++ ']' :: rest) =
        some (scope.toNat, ']' :: rest) :=
      number_eq_some.2 ⟨ds, rfl, ends_cons.2 rfl,
        run_decimal.2 ⟨isDecimal, Nat.le_of_lt_succ scope.toNat_lt⟩⟩
    simp [readScope, charIf, number]

theorem readEndpointV4_eq_some : readEndpointV4 cs = some (e, rest) ↔ ∃ ip port ds,
    cs = ipv4Chars ip ++ ':' :: ds ++ rest ∧ IsDecimal ds port.toNat ∧ Ends digit? rest ∧
      e = .v4 ip port := by
  simp only [readEndpointV4, Option.bind_eq_bind, Option.bind_eq_some_iff, Prod.exists,
    readIpv4_eq_some, readPort_eq_some, Option.pure_def, Option.some.injEq, Prod.mk.injEq]
  constructor
  · rintro ⟨ip, _, ⟨rfl, -⟩, port, _, ⟨ds, rfl, isPort, ends⟩, rfl, rfl⟩
    exact ⟨ip, port, ds, by simp, isPort, ends, rfl⟩
  · rintro ⟨ip, port, ds, rfl, isPort, ends, rfl⟩
    exact ⟨ip, ':' :: ds ++ rest, ⟨by simp, ends_cons.2 rfl⟩, port, rest, ⟨ds, rfl, isPort, ends⟩,
      rfl, rfl⟩

theorem isEndpoint_of_readEndpointV6 (read : readEndpointV6 cs = some (e, [])) :
    IsEndpoint e cs := by
  simp only [readEndpointV6, Option.bind_eq_bind, Option.bind_eq_some_iff, Prod.exists,
    charIf_eq_some, readPort_eq_some, Option.pure_def, Option.some.injEq, Prod.mk.injEq] at read
  obtain ⟨_, rfl, ip, later, ipv6, _, bracket, port, _, ⟨ds, rfl, isPort, -⟩, rfl, rfl⟩ := read
  obtain ⟨ipText, rfl, isIpv6⟩ := isIpv6_of_readIpv6 ipv6
  have read : readScope later = ((readScope later).1, ']' :: (':' :: ds ++ [])) :=
    Prod.ext rfl bracket
  generalize (readScope later).1 = scope at read ⊢
  obtain ⟨scopeText, rfl, isScope⟩ := isScope_of_readScope read
  have endpoint := IsEndpoint.v6 isIpv6 isScope isPort
  simpa using endpoint

theorem readEndpointV6_of_isIpv6 {ip : Ipv6} {port : UInt16} {ipText scopeText portText : List Char}
    (isIpv6 : IsIpv6 ip ipText) (isScope : IsScope scope scopeText)
    (isPort : IsDecimal portText port.toNat) :
    readEndpointV6 ('[' :: ipText ++ scopeText ++ ']' :: ':' :: portText) =
      some (.v6 ip port 0 scope, []) := by
  have stops : Stops (scopeText ++ ']' :: ':' :: portText) := by
    rcases isScope with ⟨rfl, -⟩ | ⟨ds, rfl, -⟩
    · exact stops_of_head (ends_cons.2 rfl) (by simp) (by simp)
    · exact stops_of_head (ends_cons.2 rfl) (by simp) (by simp)
  have ipv6 := readIpv6_of_isIpv6 isIpv6 stops
  have read : readPort (':' :: portText) = some (port, []) :=
    readPort_eq_some.2 ⟨portText, (List.append_nil _).symm, isPort, ends_nil⟩
  simp [readEndpointV6, charIf, ipv6, readScope_of_isScope isScope, read]

theorem readIpv4_bracket (cs : List Char) : readIpv4 ('[' :: cs) = none := by
  have ends : Ends digit? ('[' :: cs) := ends_cons.2 rfl
  rw [readIpv4, octet?, number_eq_none ends]
  rfl

theorem readIpv6_bracket (cs : List Char) : readIpv6 ('[' :: cs) = none := by
  have front : readGroups 8 true ('[' :: cs) = ⟨[], false, '[' :: cs⟩ :=
    (stops_of_head (ends_cons.2 rfl) (by simp) (by simp)).groups 8 true
  rw [readIpv6, front]
  rfl

theorem endpoint_eq_some : endpoint? cs = some e ↔ IsEndpoint e cs := by
  rw [endpoint?, whole_eq_some]
  constructor
  · intro read
    cases ipv4 : readEndpointV4 cs with
    | some p =>
      rw [ipv4] at read
      cases read
      obtain ⟨ip, port, ds, rfl, isPort, -, rfl⟩ := readEndpointV4_eq_some.1 ipv4
      rw [List.append_nil]
      exact .v4 ip isPort
    | none =>
      rw [ipv4] at read
      exact isEndpoint_of_readEndpointV6 read
  · intro isEndpoint
    cases isEndpoint with
    | v4 ip isPort =>
      rw [readEndpointV4_eq_some.2 ⟨ip, _, _, (List.append_nil _).symm, isPort, ends_nil, rfl⟩]
      rfl
    | v6 isIpv6 isScope isPort =>
      rw [readEndpointV6_of_isIpv6 isIpv6 isScope isPort, readEndpointV4, List.cons_append,
        List.cons_append, readIpv4_bracket]
      rfl

/-- No text is both. -/
theorem not_isIp_of_isEndpoint (isEndpoint : IsEndpoint e text) : ¬ IsIp ip text := by
  intro isIp
  have read := ip_eq_some.2 isIp
  rw [ip?, whole_eq_some] at read
  cases isEndpoint with
  | @v4 ip' port portText isPort =>
    -- the port is left over
    have ipv4 : readIpv4 (ipv4Chars ip' ++ ':' :: portText) = some (ip', ':' :: portText) :=
      readIpv4_eq_some.2 ⟨rfl, ends_cons.2 rfl⟩
    rw [ipv4] at read
    cases read
  | v6 isIpv6 isScope isPort =>
    rw [List.cons_append, List.cons_append, readIpv4_bracket, readIpv6_bracket] at read
    cases read

/-- No blank is anywhere in the text. -/
def Unblank (cs : List Char) : Prop := ∀ c ∈ cs, isBlank c = false

theorem unblank_append {ds : List Char} : Unblank (cs ++ ds) ↔ Unblank cs ∧ Unblank ds :=
  List.forall_mem_append

theorem unblank_cons {c : Char} : Unblank (c :: cs) ↔ isBlank c = false ∧ Unblank cs :=
  List.forall_mem_cons

theorem Unblank.bare (unblank : Unblank cs) : Bare cs :=
  ⟨fun c first => unblank c (List.mem_of_head? first),
    fun c last => unblank c (List.mem_of_getLast? last)⟩

theorem isBlank_of_hex {c : Char} (hex : (hexDigit? c).isSome = true) : isBlank c = false := by
  have range : 48 ≤ c.toNat ∧ c.toNat ≤ 57 ∨ 97 ≤ c.toNat ∧ c.toNat ≤ 102 ∨
      65 ≤ c.toNat ∧ c.toNat ≤ 70 := by
    rw [hexDigit?] at hex
    split at hex
    · rename_i digit
      exact .inl digit
    split at hex
    · rename_i lower
      exact .inr (.inl lower)
    split at hex
    · rename_i upper
      exact .inr (.inr upper)
    · cases hex
  simp only [isBlank, Bool.or_eq_false_iff, Bool.and_eq_false_iff, decide_eq_false_iff_not]
  omega

theorem unblank_of_isDecimal {n : Nat} (isDecimal : IsDecimal cs n) : Unblank cs :=
  fun c among => isBlank_of_isDigit (isDecimal.2.1 c among)

theorem unblank_ipv4Chars (ip : Ipv4) : Unblank (ipv4Chars ip) := by
  have octet (b : UInt8) : Unblank (decimal b.toNat) := unblank_of_isDecimal (isDecimal_decimal _)
  have dot : isBlank '.' = false := by decide
  simp only [ipv4Chars, unblank_append, unblank_cons]
  simp [octet, dot]

theorem unblank_of_row {endsInIpv4 : Bool} {gs : List UInt16} (row : Row endsInIpv4 gs cs) :
    Unblank cs := by
  have group {g : UInt16} {text : List Char} (isGroup : IsGroup g text) : Unblank text :=
    fun c among => isBlank_of_hex (isGroup.digits c among)
  induction row with
  | group isGroup => exact group isGroup
  | ipv4 ip => exact unblank_ipv4Chars ip
  | cons isGroup _ ih =>
    exact unblank_append.2 ⟨group isGroup, unblank_cons.2 ⟨by decide, ih⟩⟩

theorem unblank_of_isIpv6 {ip : Ipv6} (isIpv6 : IsIpv6 ip cs) : Unblank cs := by
  have part {endsInIpv4 : Bool} {gs : List UInt16} {text : List Char}
      (part : Part endsInIpv4 gs text) : Unblank text := by
    rcases part with ⟨-, -, rfl⟩ | row
    · nofun
    · exact unblank_of_row row
  cases isIpv6 with
  | full row => exact unblank_of_row row
  | shortened opens closes _ =>
    exact unblank_append.2 ⟨part opens, unblank_cons.2 ⟨by decide, unblank_cons.2
      ⟨by decide, part closes⟩⟩⟩

theorem unblank_of_isIp (isIp : IsIp ip cs) : Unblank cs := by
  cases isIp with
  | v4 ip => exact unblank_ipv4Chars ip
  | v6 isIpv6 => exact unblank_of_isIpv6 isIpv6

theorem unblank_of_isEndpoint (isEndpoint : IsEndpoint e cs) : Unblank cs := by
  cases isEndpoint with
  | v4 ip isPort =>
    exact unblank_append.2 ⟨unblank_ipv4Chars ip,
      unblank_cons.2 ⟨by decide, unblank_of_isDecimal isPort⟩⟩
  | @v6 _ _ _ _ scopeText _ isIpv6 isScope isPort =>
    have unblank : Unblank scopeText := by
      rcases isScope with ⟨rfl, -⟩ | ⟨ds, rfl, isDecimal⟩
      · nofun
      · exact unblank_cons.2 ⟨by decide, unblank_of_isDecimal isDecimal⟩
    have port := unblank_of_isDecimal isPort
    have address := unblank_of_isIpv6 isIpv6
    have brackets : isBlank '[' = false ∧ isBlank ']' = false ∧ isBlank ':' = false := by decide
    simp only [unblank_append, unblank_cons]
    simp [unblank, port, address, brackets]

end ClusterDriver.AddressText
