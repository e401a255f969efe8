import ClusterDriver.Context.Assembly
import ClusterDriver.Proofs.Settings.Getters
import Mathlib.Data.List.Basic
/-!
# Validity of settings

Which values the built-in strategies and the default builders accept, option by option, and in which
order each component comes to look at its options. An option counts by itself; only the credentials
count for nothing unless they are asked for.
-/
namespace ClusterDriver

namespace KnownOption

def ofTransport : List KnownOption := [.maxFrameLength, .connectTimeout, .tcpNoDelay]

def ofReconnection : List KnownOption := [.reconnectionPolicy, .reconnectionBaseDelay]

def ofAuth : List KnownOption := [.authProvider, .authUsername, .authPassword]

/-- The options that decide whether a context can be built, in the order in which they count. -/
def checked : List KnownOption :=
  [.loadBalancingPolicy, .reconnectionPolicy, .reconnectionBaseDelay, .addressTranslator,
    .authProvider, .authUsername, .authPassword, .sslEngineFactory, .compression, .maxFrameLength,
    .connectTimeout, .tcpNoDelay, .protocolVersion]

end KnownOption

namespace Settings
variable {β γ : Type} {s : Settings} {o : KnownOption} {options rest : List KnownOption}

/-- The option has a value that its builder accepts, or none where it needs none. -/
def suits (s : Settings) (o : KnownOption) : Bool :=
  let value := s.get? o.path
  match o with
  | .loadBalancingPolicy => value = some (.string "default")
  | .reconnectionPolicy => value = some (.string "constant")
  | .addressTranslator => value = some (.string "pass-through")
  | .authProvider => value = none ∨ value = some (.string "plain-text")
  | .authUsername | .authPassword =>
    s.get? KnownOption.authProvider.path = some (.string "plain-text") →
      value.map OptionValue.kind = some .string
  | .sslEngineFactory => value = none
  | .compression => value = none ∨ value = some (.string "none")
  | .reconnectionBaseDelay | .connectTimeout => value.map OptionValue.kind = some .duration
  | .tcpNoDelay => value.map OptionValue.kind = some .boolean
  | .maxFrameLength => match value with
    | some (.integer limit) => 0 < limit
    | _ => false
  | .protocolVersion => match value with
    | none => true
    | some (.string raw) => (ProtocolVersion.ofText raw).isOk
    | _ => false
  | .contactPoints => true

def firstUnsuited? (s : Settings) (options : List KnownOption) : Option KnownOption :=
  options.find? fun o => !s.suits o

theorem firstUnsuited_cons : s.firstUnsuited? (o :: rest) =
    if s.suits o then s.firstUnsuited? rest else some o := by
  cases h : s.suits o <;> simp [firstUnsuited?, h]

theorem firstUnsuited_append : s.firstUnsuited? (options ++ rest) =
    (s.firstUnsuited? options).or (s.firstUnsuited? rest) :=
  List.find?_append

theorem firstUnsuited_eq_none :
    s.firstUnsuited? options = none ↔ ∀ o ∈ options, s.suits o = true := by
  simp [firstUnsuited?]

/-- Looking at an option again changes nothing. -/
theorem firstUnsuited_eraseDups (options : List KnownOption) :
    s.firstUnsuited? options.eraseDups = s.firstUnsuited? options := by
  induction h : options.length using Nat.strongRecOn generalizing options with | _ n ih
  cases options with
  | nil => rfl
  | cons o rest =>
    have fewer : (rest.filter fun p => !p == o).length < n :=
      h ▸ Nat.lt_succ_of_le (List.length_filter_le _ _)
    rw [List.eraseDups_cons, firstUnsuited_cons, firstUnsuited_cons, ih _ fewer _ rfl]
    cases suits : s.suits o with
    | false => rfl
    | true =>
      have others : ∀ p, (decide ((!p == o) = true ∧ (!s.suits p) = true)) = !s.suits p := by
        intro p
        by_cases same : p = o <;> simp [same, suits]
      simp only [firstUnsuited?, List.find?_filter, others]

/-- Looking at the options in this order gives the result: a value if all of them suit, else a
complaint about the first that does not. -/
def Settles (s : Settings) (options : List KnownOption) (result : Except AccessError β) : Prop :=
  match s.firstUnsuited? options with
  | none => ∃ b, result = .ok b
  | some o => ∃ reason, result = .error (.config o.path reason)

theorem settles_nil (b : β) : s.Settles [] (.ok b) := ⟨b, rfl⟩

theorem settles_of_suits {result : Except AccessError β} (suits : s.suits o = true)
    (settles : s.Settles rest result) : s.Settles (o :: rest) result := by
  rwa [Settles, firstUnsuited_cons, suits, if_pos rfl]

theorem settles_of_unsuited (unsuited : s.suits o = false) (reason : String) :
    s.Settles (o :: rest) (.error (.config o.path reason) : Except AccessError β) := by
  simp [Settles, firstUnsuited_cons, unsuited]

theorem Settles.bind {result : Except AccessError β} {f : β → Except AccessError γ}
    (first : s.Settles options result) (later : ∀ b, result = .ok b → s.Settles rest (f b)) :
    s.Settles (options ++ rest) (result.bind f) := by
  unfold Settles at first later ⊢
  rw [firstUnsuited_append]
  cases h : s.firstUnsuited? options with
  | none =>
    rw [h] at first
    obtain ⟨b, rfl⟩ := first
    exact later b rfl
  | some o =>
    rw [h] at first
    obtain ⟨reason, rfl⟩ := first
    exact ⟨reason, rfl⟩

theorem Settles.map {result : Except AccessError β} (settles : s.Settles options result)
    (f : β → γ) : s.Settles options (result.map f) := by
  have same : result.map f = result.bind fun b => .ok (f b) := by cases result <;> rfl
  rw [same, ← List.append_nil options]
  exact settles.bind fun b _ => settles_nil (f b)

/-- A getter that misses absent values looks whether there is one of its kind. -/
theorem settles_read {g : Getter} (requires : g.requires = true)
    (suits : s.suits o = decide ((s.get? o.path).map OptionValue.kind = some g.kind)) :
    s.Settles [o] (g.read s o.path) := by
  cases found : s.get? o.path with
  | none =>
    rw [Getter.read_of_missing requires found]
    exact settles_of_unsuited (by simp [suits, found]) _
  | some v =>
    by_cases fits : v.kind = g.kind
    · obtain ⟨r, reads⟩ := Getter.exists_read found fits
      rw [reads]
      exact settles_of_suits (by simp [suits, found, fits]) (settles_nil r)
    · rw [Getter.read_of_other found fits]
      exact settles_of_unsuited (by simp [suits, found, fits]) _

theorem settles_reconnection :
    s.Settles [.reconnectionBaseDelay] (ReconnectionPolicy.ofSettings s) :=
  (settles_read (g := .duration) rfl rfl).map _

/-- The credentials count once they are asked for. -/
theorem settles_credentials
    (plain : s.get? KnownOption.authProvider.path = some (.string "plain-text")) :
    s.Settles [.authUsername, .authPassword] (PlainCredentials.ofSettings s) := by
  have username : s.suits .authUsername =
      decide ((s.get? KnownOption.authUsername.path).map OptionValue.kind = some .string) := by
    simp [suits, plain]
  have password : s.suits .authPassword =
      decide ((s.get? KnownOption.authPassword.path).map OptionValue.kind = some .string) := by
    simp [suits, plain]
  have steps : PlainCredentials.ofSettings s =
      (s.string KnownOption.authUsername.path).bind fun username =>
        (s.string KnownOption.authPassword.path).map fun password => { username, password } := by
    unfold PlainCredentials.ofSettings
    cases s.string KnownOption.authUsername.path with
    | error e => rfl
    | ok name => cases s.string KnownOption.authPassword.path <;> rfl
  rw [steps]
  exact (settles_read (g := .string) rfl username).bind fun _ _ =>
    (settles_read (g := .string) rfl password).map _

theorem settles_version : s.Settles [.protocolVersion] (VersionChoice.ofSettings s) := by
  simp only [VersionChoice.ofSettings, optionalString]
  cases h : s.get? KnownOption.protocolVersion.path with
  | none => exact settles_of_suits (by simp only [suits, h]) (settles_nil _)
  | some value =>
    cases value with
    | string raw =>
      have suited : s.suits .protocolVersion = (ProtocolVersion.ofText raw).isOk := by
        simp only [suits, h]
      cases known : ProtocolVersion.ofText raw with
      | ok version =>
        simp only [known]
        exact settles_of_suits (by rw [suited, known]; rfl) (settles_nil _)
      | error e =>
        simp only [known]
        exact settles_of_unsuited (by rw [suited, known]; rfl) _
    | integer _ | boolean _ | duration _ | list _ =>
      exact settles_of_unsuited (by simp only [suits, h]) _

/-- The limit on the length of a frame. -/
theorem settles_limit :
    s.Settles [.maxFrameLength] ((s.integer KnownOption.maxFrameLength.path).bind fun limit =>
      if limit ≤ 0 then
        .error (.config KnownOption.maxFrameLength.path
          ("must be a positive byte count, got " ++ Text.integerText limit))
      else .ok limit) := by
  unfold integer
  cases h : s.get? KnownOption.maxFrameLength.path with
  | none => exact settles_of_unsuited (by simp only [suits, h]) _
  | some value =>
    cases value with
    | integer limit =>
      have suited : s.suits .maxFrameLength = decide (0 < limit) := by simp only [suits, h]
      by_cases large : limit ≤ 0
      · simp only [Except.bind, large, if_true]
        exact settles_of_unsuited (by simpa [suited] using large) _
      · simp only [Except.bind, large, if_false]
        exact settles_of_suits (by simpa [suited] using large) (settles_nil _)
    | string _ | boolean _ | duration _ | list _ =>
      exact settles_of_unsuited (by simp only [suits, h]) _

theorem settles_transport : s.Settles KnownOption.ofTransport (TransportOptions.ofSettings s) := by
  have timeout : s.Settles [.connectTimeout] (s.duration KnownOption.connectTimeout.path) :=
    settles_read (g := .duration) rfl rfl
  have delay : s.Settles [.tcpNoDelay] (s.boolean KnownOption.tcpNoDelay.path) :=
    settles_read (g := .boolean) rfl rfl
  have steps := settles_limit.bind fun limit _ => timeout.bind fun connectTimeout _ =>
    delay.map fun tcpNoDelay =>
      ({ connectTimeout, tcpNoDelay, maxFrameLength := limit.toNat } : TransportOptions)
  refine (congrArg (s.Settles KnownOption.ofTransport) ?_).mp steps
  simp only [TransportOptions.ofSettings]
  cases s.integer KnownOption.maxFrameLength.path with
  | error e => rfl
  | ok limit =>
    by_cases large : limit ≤ 0
    · simp [Except.bind, large]
    · simp only [large, Except.bind, if_false]
      cases s.duration KnownOption.connectTimeout.path with
      | error e => rfl
      | ok timeout => cases s.boolean KnownOption.tcpNoDelay.path <;> rfl

end Settings
end ClusterDriver
