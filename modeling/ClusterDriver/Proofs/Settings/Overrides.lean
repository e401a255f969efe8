import ClusterDriver.Context.Assembly
import ClusterDriver.Settings.Environment
import ClusterDriver.Cluster.ContactPoints
import ClusterDriver.Proofs.Settings.Getters
import Mathlib.Data.List.Nodup
/-!
# Overrides

What the variables of the environment come to where the options are read. Each option is read by the
getter of its kind, so a text that reads as the kind arrives as its value, and any other text is
refused at the option, whole. Nothing else decides what is read of the option.
-/
namespace ClusterDriver

namespace KnownOption
variable {o p : KnownOption}

/-- The getter by which the built-in reader of the option reads it. -/
def getter : KnownOption → Getter
  | .authUsername | .authPassword => .string
  | .maxFrameLength => .integer
  | .tcpNoDelay => .boolean
  | .reconnectionBaseDelay | .connectTimeout => .duration
  | .contactPoints => .list
  | _ => .optionalString

def read (o : KnownOption) (s : Settings) : Except AccessError o.getter.Result :=
  o.getter.read s o.path

theorem kind_getter (o : KnownOption) : o.getter.kind = o.kind := by cases o <;> rfl

theorem mem_all (o : KnownOption) : o ∈ all := by cases o <;> decide

theorem path_injective (same : o.path = p.path) : o = p :=
  List.inj_on_of_nodup_map (by decide +kernel) (mem_all o) (mem_all p) same

/-- Letters as they are in the names of variables. -/
def capital (c : Char) : Char := if c = '.' ∨ c = '-' then '_' else c.toUpper

theorem toList_variableName (o : KnownOption) :
    o.variableName.toList = "DRIVER_".toList ++ o.path.toList.map capital := by
  rw [variableName, String.toList_append, String.toList_map]
  rfl

theorem variableName_injective (same : o.variableName = p.variableName) : o = p := by
  have texts := congrArg String.toList same
  rw [toList_variableName, toList_variableName] at texts
  have distinct : (all.map fun o => o.path.toList.map capital).Nodup := by
    decide +kernel
  exact List.inj_on_of_nodup_map distinct (mem_all o) (mem_all p) (List.append_cancel_left texts)

theorem variableName_ne_detection (o : KnownOption) :
    o.variableName ≠ Environment.detectionVariable := by
  intro same
  have texts := congrArg String.toList same
  have detection : Environment.detectionVariable.toList =
      "DRIVER_".toList ++ "DETECT_CYCLES".toList := by decide +kernel
  rw [toList_variableName, detection] at texts
  have others : ∀ o ∈ all, o.path.toList.map capital ≠ "DETECT_CYCLES".toList := by
    decide +kernel
  exact others o (mem_all o) (List.append_cancel_left texts)

/-- The built-in values are of the kinds that are asked for. -/
theorem kind_of_builtin {v : OptionValue} (found : Settings.builtin.get? o.path = some v) :
    v.kind = o.kind := by
  have fit : ∀ o ∈ all, (Settings.builtin.get? o.path).all (·.kind = o.kind) = true := by
    decide +kernel
  simpa [found] using fit o (mem_all o)

/-- Built-in values are not refused for their type. -/
theorem read_builtin_ne_mismatch (o : KnownOption) (expected : String) (v : OptionValue) :
    o.read .builtin ≠ .error (Settings.mismatch o.path expected v) := by
  intro refused
  cases found : Settings.builtin.get? o.path with
  | none => exact Getter.read_of_none_ne_mismatch found expected v refused
  | some builtin =>
    have fits : builtin.kind = o.getter.kind := (kind_of_builtin found).trans o.kind_getter.symm
    have reads := Getter.read_of_kind found fits
    rw [read] at refused
    rw [refused] at reads
    cases reads

end KnownOption

theorem OptionValue.kind_of_ofText {kind : OptionKind} {raw : String} {v : OptionValue}
    (reads : OptionValue.ofText? kind raw = some v) : v.kind = kind := by
  cases kind with
  | string | list =>
    cases reads
    rfl
  | integer | boolean | duration =>
    simp only [ofText?, Option.map_eq_some_iff] at reads
    obtain ⟨_, _, rfl⟩ := reads
    rfl

namespace Environment
variable {env env' : Environment} {s : Settings} {o : KnownOption} {options : List KnownOption}
  {path raw : String} {v : OptionValue}

theorem get?_override_self (env : Environment) (s : Settings) (o : KnownOption) :
    (env.override s o).get? o.path =
      ((env.text? o.variableName).map (valueOf o)).or (s.get? o.path) := by
  cases text : env.text? o.variableName with
  | none => simp only [override, text, Option.map_none, Option.none_or]
  | some raw =>
    simp only [override, text, Option.map_some, Option.some_or]
    exact Table.get?_insert_self _ _ _

theorem get?_override_of_ne (other : o.path ≠ path) :
    (env.override s o).get? path = s.get? path := by
  cases text : env.text? o.variableName with
  | none => simp only [override, text]
  | some raw =>
    simp only [override, text]
    exact Table.get?_insert_of_ne _ other _

/-- Options with other paths leave the value alone. -/
theorem get?_foldl_of_ne (others : ∀ o ∈ options, o.path ≠ path) :
    (options.foldl env.override s).get? path = s.get? path := by
  induction options generalizing s with
  | nil => rfl
  | cons p rest ih =>
    rw [List.foldl_cons, ih fun q later => others q (.tail _ later)]
    exact get?_override_of_ne (others p (.head _))

/-- What an option has after all overrides depends on its own variable. -/
theorem get?_foldl_of_mem (among : o ∈ options) :
    (options.foldl env.override s).get? o.path =
      ((env.text? o.variableName).map (valueOf o)).or (s.get? o.path) := by
  induction options generalizing s with
  | nil => cases among
  | cons p rest ih =>
    rw [List.foldl_cons]
    by_cases later : o ∈ rest
    · rw [ih later]
      by_cases same : p = o
      · subst same
        rw [get?_override_self, ← Option.or_assoc, Option.or_self]
      · rw [get?_override_of_ne fun same' => same (KnownOption.path_injective same')]
    · obtain rfl : o = p := (List.mem_cons.1 among).resolve_right later
      rw [get?_foldl_of_ne, get?_override_self]
      intro q among' same
      exact later (KnownOption.path_injective same ▸ among')

theorem detectCycles_foldl (env : Environment) (options : List KnownOption) (s : Settings) :
    (options.foldl env.override s).detectCycles = s.detectCycles := by
  induction options generalizing s with
  | nil => rfl
  | cons p rest ih =>
    rw [List.foldl_cons, ih]
    cases text : env.text? p.variableName <;> simp [override, text, Settings.set]

theorem get?_settings (env : Environment) (path : String) :
    env.settings.get? path = (KnownOption.all.foldl env.override .builtin).get? path := by
  rw [settings]
  cases env.text? detectionVariable <;> rfl

theorem get?_settings_path (env : Environment) (o : KnownOption) :
    env.settings.get? o.path =
      ((env.text? o.variableName).map (valueOf o)).or (Settings.builtin.get? o.path) := by
  rw [get?_settings, get?_foldl_of_mem o.mem_all]

theorem detectCycles_settings (env : Environment) :
    env.settings.detectCycles = ((env.text? detectionVariable).map switchesOn).getD false := by
  rw [settings]
  cases env.text? detectionVariable with
  | none => exact detectCycles_foldl env _ _
  | some raw => rfl

/-- The value of an unset option is the built-in one. -/
theorem read_of_unset (unset : env.text? o.variableName = none) :
    o.read env.settings = o.read .builtin := by
  apply Getter.read_congr
  rw [get?_settings_path, unset, Option.map_none, Option.none_or]

theorem read_of_text (text : env.text? o.variableName = some raw)
    (reads : OptionValue.ofText? o.kind raw = some v) :
    (o.read env.settings).map o.getter.value = .ok (some v) := by
  have found : env.settings.get? o.path = some v := by
    rw [get?_settings_path, text, Option.map_some, valueOf, reads]
    rfl
  apply Getter.read_of_kind found
  rw [OptionValue.kind_of_ofText reads, KnownOption.kind_getter]

/-- A text that does not read as the kind stands as a string, which is none of the kind. -/
theorem read_of_bad_text (text : env.text? o.variableName = some raw)
    (bad : OptionValue.ofText? o.kind raw = none) : o.read env.settings =
      .error (Settings.mismatch o.path o.kind.phrase (.string raw)) := by
  have found : env.settings.get? o.path = some (.string raw) := by
    rw [get?_settings_path, text, Option.map_some, valueOf, bad]
    rfl
  have other : OptionValue.kind (.string raw) ≠ o.getter.kind := by
    rw [KnownOption.kind_getter]
    intro same
    rw [← same] at bad
    cases bad
  rw [← KnownOption.kind_getter]
  exact Getter.read_of_other found other

/-- The type of the value is refused where the text does not read as the kind. -/
theorem read_eq_mismatch :
    (∃ expected v, o.read env.settings = .error (Settings.mismatch o.path expected v)) ↔
      ∃ raw, env.text? o.variableName = some raw ∧ OptionValue.ofText? o.kind raw = none := by
  constructor
  · rintro ⟨expected, v, refused⟩
    cases text : env.text? o.variableName with
    | none =>
      rw [read_of_unset text] at refused
      exact absurd refused (o.read_builtin_ne_mismatch expected v)
    | some raw =>
      refine ⟨raw, rfl, ?_⟩
      cases reads : OptionValue.ofText? o.kind raw with
      | none => rfl
      | some value =>
        have result := read_of_text text reads
        rw [refused] at result
        cases result
  · rintro ⟨raw, text, bad⟩
    exact ⟨o.kind.phrase, .string raw, read_of_bad_text text bad⟩

/-- What is read of an option, in an environment. -/
structure Surfaces (env : Environment) (o : KnownOption) : Prop where
  unset : env.text? o.variableName = none → o.read env.settings = o.read .builtin
  typed : ∀ raw v, env.text? o.variableName = some raw → OptionValue.ofText? o.kind raw = some v →
    (o.read env.settings).map o.getter.value = .ok (some v)
  refused : ∀ raw, env.text? o.variableName = some raw → OptionValue.ofText? o.kind raw = none →
    o.read env.settings = .error (.config o.path
      ("expected " ++ o.kind.phrase ++ ", found the string " ++ Text.quoted raw))
  mismatched : (∃ expected v,
      o.read env.settings = .error (Settings.mismatch o.path expected v)) ↔
    ∃ raw, env.text? o.variableName = some raw ∧ OptionValue.ofText? o.kind raw = none
  alone : ∀ other : Environment, other.text? o.variableName = env.text? o.variableName →
    o.read other.settings = o.read env.settings

theorem surfaces (env : Environment) (o : KnownOption) : env.Surfaces o where
  unset := read_of_unset
  typed _ _ := read_of_text
  refused raw text bad := by
    rw [read_of_bad_text text bad, Settings.mismatch, OptionValue.found, String.append_assoc,
      String.append_assoc, String.append_assoc]
    rfl
  mismatched := read_eq_mismatch
  alone other same := by
    apply Getter.read_congr
    rw [get?_settings_path, get?_settings_path, same]

end Environment

section
open KnownOption

/-- The built-in readers see the settings through the getters of their options only. -/
structure ReadersUseGetters : Prop where
  strategies : ∀ (β : Type) (t : StrategyTable β) (o : KnownOption), o.getter = .optionalString →
    ∃ make : o.getter.Result → Build (Option β),
      ∀ s, t.optional s o = Build.ofResult (o.read s) >>= make
  reconnection : ∀ s, ReconnectionPolicy.ofSettings s =
    (reconnectionBaseDelay.read s).map .constant
  credentials : ∀ s, PlainCredentials.ofSettings s =
    (authUsername.read s).bind fun username => (authPassword.read s).map fun password =>
      { username, password }
  version : ∃ choose : Option String → Except AccessError VersionChoice, ∀ s,
    VersionChoice.ofSettings s = (protocolVersion.read s).bind choose
  transport : ∃ accept : Int → Except AccessError Nat, ∀ s, TransportOptions.ofSettings s =
    (maxFrameLength.read s).bind fun limit => (accept limit).bind fun maxFrameLength =>
      (connectTimeout.read s).bind fun connectTimeout => (tcpNoDelay.read s).map fun tcpNoDelay =>
        { connectTimeout, tcpNoDelay, maxFrameLength }
  contactPoints : ∀ s, ContactPoints.ofSettings s =
    (KnownOption.contactPoints.read s).bind ContactPoints.ofEntries

theorem readersUseGetters : ReadersUseGetters where
  strategies β t o named := by
    cases o <;> first
      | exact ⟨_, fun s => rfl⟩
      | cases named
  reconnection s := rfl
  credentials s := by
    rw [PlainCredentials.ofSettings]
    change _ = (s.string authUsername.path).bind _
    cases s.string authUsername.path with
    | error e => rfl
    | ok username =>
      change _ = (s.string authPassword.path).map _
      cases s.string authPassword.path <;> rfl
  version := by
    refine ⟨fun pinned? => pinned?.elim (.ok {}) fun raw =>
      ((ProtocolVersion.ofText raw).map fun v => { pinned := some v }).mapError fun e =>
        .config protocolVersion.path e.message, fun s => ?_⟩
    rw [VersionChoice.ofSettings]
    change _ = (s.optionalString protocolVersion.path).bind _
    cases s.optionalString protocolVersion.path with
    | error e => rfl
    | ok pinned? =>
      cases pinned? with
      | none => rfl
      | some raw =>
        simp only [Except.bind, Option.elim_some]
        cases ProtocolVersion.ofText raw <;> rfl
  transport := by
    refine ⟨fun limit => if limit ≤ 0 then .error (.config maxFrameLength.path
      ("must be a positive byte count, got " ++ Text.integerText limit)) else .ok limit.toNat,
      fun s => ?_⟩
    rw [TransportOptions.ofSettings]
    change _ = (s.integer maxFrameLength.path).bind _
    cases s.integer maxFrameLength.path with
    | error e => rfl
    | ok limit =>
      by_cases small : limit ≤ 0
      · simp only [Except.bind, small, if_true]
      · simp only [Except.bind, small, if_false]
        change _ = (s.duration connectTimeout.path).bind _
        cases s.duration connectTimeout.path with
        | error e => rfl
        | ok timeout =>
          change _ = (s.boolean tcpNoDelay.path).map _
          cases s.boolean tcpNoDelay.path <;> rfl
  contactPoints s := rfl

/-- What the environment comes to. An option without a text is read as it is built in, and a text
that reads as the kind of the option is read as its value. Any other text is refused at the option,
and nothing else is refused for its type. For an option, as for the detection of cycles, no variable
counts but its own, and no other path gets a value. -/
theorem overrides_surface (env : Environment) :
    (∀ o, env.Surfaces o) ∧
    env.settings.detectCycles =
      ((env.text? Environment.detectionVariable).map Environment.switchesOn).getD false ∧
    (∀ path, (∀ o : KnownOption, o.path ≠ path) →
      env.settings.get? path = Settings.builtin.get? path) ∧
    (∀ o p : KnownOption, o.variableName = p.variableName → o = p) ∧
    (∀ o : KnownOption, o.variableName ≠ Environment.detectionVariable) ∧
    ReadersUseGetters := by
  refine ⟨env.surfaces, env.detectCycles_settings, fun path unknown => ?_,
    fun o p => variableName_injective, variableName_ne_detection, readersUseGetters⟩
  rw [Environment.get?_settings]
  exact Environment.get?_foldl_of_ne fun o _ => unknown o

/-- The timeout is no duration, and the limit on frames is not UTF-8. -/
def careless : Environment where
  values := .ofList [("DRIVER_CONNECTION_CONNECT_TIMEOUT", "soon ".toUTF8),
    ("DRIVER_PROTOCOL_MAX_FRAME_LENGTH", ⟨#[0xff]⟩)]

theorem careless_refused :
    connectTimeout.read careless.settings = .error (.config "connection.connect-timeout"
      "expected a duration, found the string \"soon \"") ∧
    maxFrameLength.read careless.settings = .ok (256 * 1024 * 1024 : Int) := by
  obtain ⟨surfaces, _⟩ := overrides_surface careless
  have timeout : connectTimeout.variableName = "DRIVER_CONNECTION_CONNECT_TIMEOUT" := by
    apply String.toList_inj.1
    rw [toList_variableName]
    decide
  have limit : maxFrameLength.variableName = "DRIVER_PROTOCOL_MAX_FRAME_LENGTH" := by
    apply String.toList_inj.1
    rw [toList_variableName]
    decide
  constructor
  · apply (surfaces connectTimeout).refused "soon " _ (by decide)
    rw [timeout]
    decide
  · have unset : careless.text? maxFrameLength.variableName = none := by
      rw [limit]
      decide
    rw [(surfaces maxFrameLength).unset unset]
    rfl

end
end ClusterDriver
