import ClusterDriver.Proofs.Cluster.StartingPoints
import ClusterDriver.Proofs.Net.AddressPrinting
/-!
# Entries of the contact points

What an entry denotes, by the grammar of addresses: what is written of an address is read as that
address, a port that is written is kept, and a list is accepted exactly if each entry denotes an
address.
-/
namespace ClusterDriver.ContactPoints
open AddressText Text
variable {raw : String} {e : Endpoint} {entries : List String} {points : List Endpoint}
  {error : AccessError}

/-- Between blanks stands an endpoint, or an IP address, which means port 9042 of it. -/
def Denotes (raw : String) (e : Endpoint) : Prop :=
  ∃ before text after, Blanks before ∧ Blanks after ∧ raw.toList = before ++ text ++ after ∧
    (IsEndpoint e text ∨ ∃ ip, IsIp ip text ∧ e = .ofIp ip 9042)

theorem names_iff_denotes : Names raw e ↔ Denotes raw e := by
  rw [Names]
  simp only [Option.eq_none_iff_forall_ne_some, Ne, endpoint_eq_some, ip_eq_some]
  constructor
  · intro names
    obtain ⟨before, after, front, back, whole⟩ := exists_padding raw.toList
    exact ⟨before, _, after, front, back, whole, names.imp_right fun ip => ip.2⟩
  · rintro ⟨before, text, after, front, back, whole, isEndpoint | ⟨ip, isIp, rfl⟩⟩
    · rw [whole, trim_padded front (unblank_of_isEndpoint isEndpoint).bare back]
      exact .inl isEndpoint
    · rw [whole, trim_padded front (unblank_of_isIp isIp).bare back]
      exact .inr ⟨fun e isEndpoint => not_isIp_of_isEndpoint isEndpoint isIp, ip, isIp, rfl⟩

theorem ofEntries_of_nameless (nameless : ∀ e, ¬ Names raw e) (rest : List String) :
    ofEntries (raw :: rest) =
      .error (.config KnownOption.contactPoints.path ("invalid address " ++ Text.quoted raw)) :=
  @ofEntries_of_invalid raw [] nofun nameless rest

theorem ofEntries_eq_ok : ofEntries entries = .ok points ↔ List.Forall₂ Names entries points := by
  induction entries generalizing points with
  | nil =>
    constructor
    · rintro ⟨⟩
      exact .nil
    · rintro ⟨⟩
      rfl
  | cons raw rest ih =>
    constructor
    · intro ok
      cases found : entry? raw with
      | none =>
        rw [ofEntries_of_nameless (entry_eq_none.1 found)] at ok
        cases ok
      | some e =>
        rw [ofEntries_of_names (entry_eq_some.1 found)] at ok
        cases later : ofEntries rest with
        | error reason =>
          rw [later] at ok
          cases ok
        | ok more =>
          rw [later] at ok
          cases ok
          exact .cons (entry_eq_some.1 found) (ih.1 later)
    · rintro (_ | ⟨names, more⟩)
      rw [ofEntries_of_names names, ih.2 more]
      rfl

theorem ofEntries_eq_error : ofEntries entries = .error error ↔
    ∃ before raw after, entries = before ++ raw :: after ∧ (∀ r ∈ before, ∃ e, Names r e) ∧
      (∀ e, ¬ Names raw e) ∧
        error = .config KnownOption.contactPoints.path ("invalid address " ++ Text.quoted raw) := by
  constructor
  · intro failed
    induction entries with
    | nil => cases failed
    | cons raw rest ih =>
      cases found : entry? raw with
      | none =>
        rw [ofEntries_of_nameless (entry_eq_none.1 found)] at failed
        cases failed
        exact ⟨[], raw, rest, rfl, nofun, entry_eq_none.1 found, rfl⟩
      | some e =>
        have names := entry_eq_some.1 found
        rw [ofEntries_of_names names] at failed
        cases later : ofEntries rest with
        | ok more =>
          rw [later] at failed
          cases failed
        | error reason =>
          rw [later] at failed
          cases failed
          obtain ⟨before, bad, after, rfl, earlier, invalid, is⟩ := ih later
          exact ⟨raw :: before, bad, after, rfl, List.forall_mem_cons.2 ⟨⟨e, names⟩, earlier⟩,
            invalid, is⟩
  · rintro ⟨before, raw, after, rfl, earlier, invalid, rfl⟩
    exact ofEntries_of_invalid earlier invalid after

theorem contact_points_kept :
    (∀ (a : Endpoint) (before after : String), Unlabelled a → Blanks before.toList →
      Blanks after.toList → entry? (before ++ a.text ++ after) = some a) ∧
    (∀ (ip : Ip) (before after : String), Blanks before.toList → Blanks after.toList →
      entry? (before ++ ip.text ++ after) = some (.ofIp ip 9042)) ∧
    (∀ (text : String) (a : Endpoint) (ip : Ip), Endpoint.ofText? text = some a →
      Ip.ofText? text ≠ some ip) ∧
    ∀ (s : Settings) (entries : List String), s.get? "contact-points" = some (.list entries) →
      (∀ points, ofSettings s = .ok points ↔ List.Forall₂ Denotes entries points) ∧
      ∀ error, ofSettings s = .error error ↔
        ∃ before raw after, entries = before ++ raw :: after ∧ (∀ r ∈ before, ∃ e, Denotes r e) ∧
          (∀ e, ¬ Denotes raw e) ∧
            error = .config "contact-points" ("invalid address " ++ Text.quoted raw) := by
  refine ⟨fun a before after unlabelled front back => ?_, fun ip before after front back => ?_,
    fun text a ip endpoint bare => ?_, fun s entries given => ?_⟩
  · rw [entry_eq_some, names_iff_denotes]
    exact ⟨before.toList, _, after.toList, front, back, by simp [Endpoint.text],
      .inl (isEndpoint_endpointChars unlabelled)⟩
  · rw [entry_eq_some, names_iff_denotes]
    exact ⟨before.toList, _, after.toList, front, back, by simp [Ip.text],
      .inr ⟨ip, isIp_ipChars ip, rfl⟩⟩
  · exact not_isIp_of_isEndpoint (endpoint_eq_some.1 endpoint) (ip_eq_some.1 bare)
  · have listed : ofSettings s = ofEntries entries := by
      have given' : s.get? KnownOption.contactPoints.path = some (.list entries) := given
      rw [ofSettings, Settings.list, given']
      rfl
    have same : Names = Denotes := by
      funext raw e
      exact propext names_iff_denotes
    rw [listed, ← same]
    exact ⟨fun points => ofEntries_eq_ok, fun error => ofEntries_eq_error⟩

/-- The port of the first entry is kept, and the second entry has none. The first entry that is no
address is quoted in the report. -/
theorem one_port_written :
    let local6 : Ipv6 := ⟨[0xfe80, 0, 0, 0, 0, 0, 0, 1], rfl⟩
    let entries := [" [fe80::1%3]:9142", "fe80::1"]
    let points : List Endpoint := [.v6 local6 9142 0 3, .v6 local6 9042 0 0]
    (Endpoint.v6 local6 9142 0 3).text = "[fe80::1%3]:9142" ∧ (Ip.v6 local6).text = "fe80::1" ∧
      entry? (" " ++ (Endpoint.v6 local6 9142 0 3).text ++ "") = some (.v6 local6 9142 0 3) ∧
        entry? ("" ++ (Ip.v6 local6).text ++ "\t") = some (.v6 local6 9042 0 0) ∧
          List.Forall₂ Denotes entries points ∧
            ofSettings (.set .empty "contact-points" (.list ["fe80::1", "the \"host\"\t", "?"])) =
              .error (.config "contact-points" "invalid address \"the \\\"host\\\"\\t\"") := by
  intro local6 entries points
  obtain ⟨endpoint, bare, -, settled⟩ := contact_points_kept
  have listed := settled (.set .empty "contact-points" (.list entries)) _ rfl
  have refused := settled (.set .empty "contact-points"
    (.list ["fe80::1", "the \"host\"\t", "?"])) _ rfl
  have earlier : ∀ r ∈ ["fe80::1"], ∃ e, Denotes r e := by
    intro r among
    obtain rfl := List.mem_singleton.1 among
    exact ⟨.v6 local6 9042 0 0, names_iff_denotes.1 (entry_eq_some.1 (by decide))⟩
  have nameless : ∀ e, ¬ Denotes "the \"host\"\t" e := fun e denotes =>
    entry_eq_none.1 (by decide) e (names_iff_denotes.2 denotes)
  have report : "invalid address \"the \\\"host\\\"\\t\"" =
      "invalid address " ++ Text.quoted "the \"host\"\t" := by decide
  exact ⟨by decide, by decide, endpoint _ " " "" rfl (by decide) (by decide),
    bare _ "" "\t" (by decide) (by decide), (listed.1 points).1 rfl,
    (refused.2 _).2 ⟨_, _, ["?"], rfl, earlier, nameless, by rw [report]⟩⟩

end ClusterDriver.ContactPoints
