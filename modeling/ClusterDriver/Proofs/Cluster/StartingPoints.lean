import ClusterDriver.Boot
/-!
# Starting points

Which values of the contact points are accepted, from which addresses the driver then starts, and
what is reported of the other values.
-/
namespace ClusterDriver.ContactPoints
variable {s : Settings} {raw : String} {e : Endpoint} {entries before : List String}

/-- The entry is an endpoint, or else an IP address, which stands for that address at the default
port. Blanks around it do not count. -/
def Names (raw : String) (e : Endpoint) : Prop :=
  let cs := Text.trim raw.toList
  AddressText.endpoint? cs = some e ∨
    AddressText.endpoint? cs = none ∧ ∃ ip, AddressText.ip? cs = some ip ∧ e = .ofIp ip defaultPort

theorem entry_eq_some : entry? raw = some e ↔ Names raw e := by
  simp only [ofChars?, Names, entry?]
  cases AddressText.endpoint? (Text.trim raw.toList) with
  | some e' => simp
  | none => simp [eq_comm (a := e)]

theorem entry_eq_none : entry? raw = none ↔ ∀ e, ¬ Names raw e := by
  simp only [Option.eq_none_iff_forall_ne_some, Ne, entry_eq_some]

theorem ofEntries_of_names (names : Names raw e) (rest : List String) :
    ofEntries (raw :: rest) = (ofEntries rest).map (e :: ·) := by
  simp only [ofEntries.eq_def (raw :: rest), entry_eq_some.2 names]

theorem ofEntries_of_valid (valid : ∀ raw ∈ entries, ∃ e, Names raw e) :
    ofEntries entries = .ok (entries.filterMap entry?) := by
  induction entries with
  | nil => rfl
  | cons raw rest ih =>
    obtain ⟨e, names⟩ := valid raw (.head _)
    rw [ofEntries_of_names names, ih fun r later => valid r (.tail _ later),
      List.filterMap_cons_some (entry_eq_some.2 names)]
    rfl

/-- The first entry that is not an address is reported. -/
theorem ofEntries_of_invalid (earlier : ∀ r ∈ before, ∃ e, Names r e) (invalid : ∀ e, ¬ Names raw e)
    (after : List String) : ofEntries (before ++ raw :: after) =
      .error (.config KnownOption.contactPoints.path ("invalid address " ++ Text.quoted raw)) := by
  induction before with
  | nil => simp only [List.nil_append, ofEntries.eq_def (raw :: after), entry_eq_none.2 invalid]
  | cons r rest ih =>
    obtain ⟨e, names⟩ := earlier r (.head _)
    rw [List.cons_append, ofEntries_of_names names, ih fun r later => earlier r (.tail _ later)]
    rfl

/-- They are left out, or a list of addresses. -/
def Accepted (s : Settings) : Prop :=
  s.get? KnownOption.contactPoints.path = none ∨
    ∃ entries, s.get? KnownOption.contactPoints.path = some (.list entries) ∧
      ∀ raw ∈ entries, ∃ e, Names raw e

/-- The driver starts from the addresses that are listed, or if none is, from the local host. -/
def StartsFrom (s : Settings) (a : Endpoint) : Prop :=
  (∃ entries, s.get? KnownOption.contactPoints.path = some (.list entries) ∧
    ∃ raw ∈ entries, Names raw a) ∨
  (s.get? KnownOption.contactPoints.path = none ∨
    s.get? KnownOption.contactPoints.path = some (.list [])) ∧ a = .v4 ⟨127, 0, 0, 1⟩ 9042

/-- What is reported of contact points that are not accepted. -/
inductive Complaint (s : Settings) : String → Prop
  | kind {value : OptionValue} (given : s.get? KnownOption.contactPoints.path = some value)
      (other : ∀ entries, value ≠ .list entries) :
    Complaint s ("expected a list, found " ++ value.found)
  | entry {before after : List String} {raw : String}
      (given : s.get? KnownOption.contactPoints.path = some (.list (before ++ raw :: after)))
      (earlier : ∀ r ∈ before, ∃ e, Names r e) (invalid : ∀ e, ¬ Names raw e) :
    Complaint s ("invalid address " ++ Text.quoted raw)

/-- Other options do not count. -/
theorem ofSettings_congr {s' : Settings} (same : s'.get? KnownOption.contactPoints.path =
    s.get? KnownOption.contactPoints.path) : ofSettings s' = ofSettings s := by
  rw [ofSettings, ofSettings, Settings.list, Settings.list, same]

theorem exists_of_accepted (accepted : Accepted s) :
    ∃ points, ofSettings s = .ok points ∧ ∀ a, a ∈ Boot.effective points ↔ StartsFrom s a := by
  rcases accepted with unset | ⟨entries, given, valid⟩
  · refine ⟨[], ?_, fun a => ?_⟩
    · rw [ofSettings, Settings.list, unset]
      rfl
    · simp [Boot.effective, StartsFrom, unset, defaultPort, Ipv4.loopback]
  · refine ⟨entries.filterMap entry?, ?_, fun a => ?_⟩
    · rw [ofSettings, Settings.list, given]
      exact ofEntries_of_valid valid
    · cases entries with
      | nil => simp [Boot.effective, StartsFrom, given, defaultPort, Ipv4.loopback]
      | cons raw rest =>
        obtain ⟨e, names⟩ := valid raw (.head _)
        have found := entry_eq_some.2 names
        have points : Boot.effective ((raw :: rest).filterMap entry?) =
            (raw :: rest).filterMap entry? := by
          rw [List.filterMap_cons_some found]
          rfl
        rw [points, List.mem_filterMap]
        simp only [StartsFrom, given, entry_eq_some]
        simp

theorem exists_complaint (refused : ¬ Accepted s) : ∃ reason, Complaint s reason ∧
    ofSettings s = .error (.config KnownOption.contactPoints.path reason) := by
  obtain ⟨value, given⟩ : ∃ value, s.get? KnownOption.contactPoints.path = some value :=
    Option.ne_none_iff_exists'.1 fun unset => refused (Or.inl unset)
  cases value with
  | list entries =>
    obtain ⟨raw, found⟩ : ∃ raw, entries.find? (fun raw => entry? raw = none) = some raw := by
      rw [← Option.ne_none_iff_exists', Ne, List.find?_eq_none]
      refine fun valid => refused (Or.inr ⟨entries, given, fun raw among => ?_⟩)
      obtain ⟨e, names⟩ := Option.ne_none_iff_exists'.1 fun absent =>
        valid raw among (decide_eq_true absent)
      exact ⟨e, entry_eq_some.1 names⟩
    obtain ⟨absent, before, after, rfl, earlier⟩ := List.find?_eq_some_iff_append.1 found
    have invalid := entry_eq_none.1 (of_decide_eq_true absent)
    have valid : ∀ r ∈ before, ∃ e, Names r e := by
      intro r among
      obtain ⟨e, names⟩ := Option.ne_none_iff_exists'.1 (by simpa using earlier r among)
      exact ⟨e, entry_eq_some.1 names⟩
    refine ⟨_, .entry given valid invalid, ?_⟩
    rw [ofSettings, Settings.list, given]
    exact ofEntries_of_invalid valid invalid after
  | string _ | integer _ | boolean _ | duration _ =>
    refine ⟨_, .kind given (by simp), ?_⟩
    rw [ofSettings, Settings.list, given]
    simp [Except.bind, Settings.mismatch]

end ClusterDriver.ContactPoints
