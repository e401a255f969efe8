import ClusterDriver.Settings.Basic
/-!
# Getters

The typed reads of settings as one family. A getter hands out a value of its kind and refuses any
other, and all but two miss an option that has no value.
-/
namespace ClusterDriver

def OptionValue.kind : OptionValue → OptionKind
  | .string _ => .string
  | .integer _ => .integer
  | .boolean _ => .boolean
  | .duration _ => .duration
  | .list _ => .list

/-- The kind, as it is asked for in a complaint. -/
def OptionKind.phrase : OptionKind → String
  | .string => "a string"
  | .integer => "an integer"
  | .boolean => "a boolean"
  | .duration => "a duration"
  | .list => "a list"

inductive Getter where
  | string
  | optionalString
  | integer
  | boolean
  | duration
  | list
  deriving DecidableEq, Repr

namespace Getter
variable {g : Getter} {s s' : Settings} {path : String} {v : OptionValue}

abbrev Result : Getter → Type
  | .string => String
  | .optionalString => Option String
  | .integer => Int
  | .boolean => Bool
  | .duration => Span
  | .list => List String

def read (s : Settings) (path : String) : (g : Getter) → Except AccessError g.Result
  | .string => s.string path
  | .optionalString => s.optionalString path
  | .integer => s.integer path
  | .boolean => s.boolean path
  | .duration => s.duration path
  | .list => s.list path

/-- The value of the option that a result stands for. -/
def value : (g : Getter) → g.Result → Option OptionValue
  | .string, text => some (.string text)
  | .optionalString, text => text.map .string
  | .integer, n => some (.integer n)
  | .boolean, b => some (.boolean b)
  | .duration, d => some (.duration d)
  | .list, items => some (.list items)

def kind : Getter → OptionKind
  | .string | .optionalString => .string
  | .integer => .integer
  | .boolean => .boolean
  | .duration => .duration
  | .list => .list

/-- Whether an option without a value is missed. -/
def requires : Getter → Bool
  | .optionalString | .list => false
  | .string | .integer | .boolean | .duration => true

theorem read_congr (same : s.get? path = s'.get? path) : g.read s path = g.read s' path := by
  cases g <;> simp only [read, Settings.string, Settings.optionalString, Settings.integer,
    Settings.boolean, Settings.duration, Settings.list, same]

/-- A value of the kind is handed out. -/
theorem read_of_kind (found : s.get? path = some v) (fits : v.kind = g.kind) :
    (g.read s path).map g.value = .ok (some v) := by
  cases g <;> cases v <;> cases fits <;>
    simp only [read, Settings.string, Settings.optionalString, Settings.integer,
      Settings.boolean, Settings.duration, Settings.list, found] <;> rfl

theorem exists_read (found : s.get? path = some v) (fits : v.kind = g.kind) :
    ∃ r, g.read s path = .ok r := by
  have reads := read_of_kind found fits
  cases result : g.read s path with
  | ok r => exact ⟨r, rfl⟩
  | error e =>
    rw [result] at reads
    cases reads

/-- A value of another kind is refused. -/
theorem read_of_other (found : s.get? path = some v) (other : v.kind ≠ g.kind) :
    g.read s path = .error (Settings.mismatch path g.kind.phrase v) := by
  cases g <;> cases v <;> first
    | exact absurd rfl other
    | simp only [read, Settings.string, Settings.optionalString, Settings.integer,
        Settings.boolean, Settings.duration, Settings.list, found]; rfl

theorem read_of_missing (requires : g.requires = true) (absent : s.get? path = none) :
    g.read s path = .error (.missingOption path) := by
  cases g with
  | optionalString | list => cases requires
  | string | integer | boolean | duration =>
    simp only [read, Settings.string, Settings.integer, Settings.boolean, Settings.duration, absent]

theorem missing_ne_mismatch (path expected : String) (v : OptionValue) :
    AccessError.missingOption path ≠ Settings.mismatch path expected v := by
  intro same
  have reasons := (AccessError.config.inj same).2
  have starts := congrArg (fun reason => reason.toList.head?) reasons
  simp [String.toList_append] at starts

/-- An option without a value is not refused for its type. -/
theorem read_of_none_ne_mismatch (absent : s.get? path = none) (expected : String)
    (v : OptionValue) : g.read s path ≠ .error (Settings.mismatch path expected v) := by
  intro refused
  cases requires : g.requires with
  | true =>
    have missed := read_of_missing requires absent
    exact missing_ne_mismatch _ _ _ (Except.error.inj (missed.symm.trans refused))
  | false =>
    cases g with
    | optionalString | list =>
      simp only [read, Settings.optionalString, Settings.list, absent] at refused
      cases refused
    | string | integer | boolean | duration => cases requires

end Getter
end ClusterDriver
