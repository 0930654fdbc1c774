import MemoryProbe.HugePage.Config
import MemoryProbe.Proofs.Text.Utf8

/-! The settings that an environment makes. Each field depends on the text of one variable, and the
one thing logged is that a text which should be a boolean is none. -/

namespace MemoryProbe

theorem Environment.text?_eq_some_iff {env : Environment} {name t : Text} :
    env.text? name = some t ↔ env name = some (Utf8.encode t) := by
  rw [text?, Option.bind_eq_some_iff]
  constructor
  · rintro ⟨bytes, henv, hdecode⟩
    rw [henv, Utf8.decode?_eq_some_iff.mp hdecode]
  · intro henv
    exact ⟨_, henv, Utf8.decode?_eq_some_iff.mpr rfl⟩

namespace Config
variable {env : Environment} {t value : Text}

theorem value_ofEnvironment (env : Environment) : (ofEnvironment env).value = {
    mountTable := ((env.text? Variable.mountTable).map Path.ofText).getD default.mountTable
    meminfo := ((env.text? Variable.meminfo).map Path.ofText).getD default.meminfo
    mountPoint := ((env.text? Variable.mountPoint).map parseMountPoint).getD default.mountPoint
    requireMount := ((env.text? Variable.requireMount).bind parseBool?).getD
      default.requireMount } := by
  unfold ofEnvironment ofLookup
  cases env.text? Variable.requireMount with
  | none => rfl
  | some value =>
    rw [Option.bind_some]
    dsimp only
    cases parseBool? value <;> rfl

def IsBoolean (t : Text) : Prop :=
  (Text.trim t).map Char.toLower ∈
    ["1", "true", "yes", "on", "0", "false", "no", "off"].map String.toList

instance : Decidable (IsBoolean t) := inferInstanceAs (Decidable (_ ∈ _))

theorem isSome_parseBool?_iff : (parseBool? t).isSome = true ↔ IsBoolean t := by
  have happend : IsBoolean t ↔
      (Text.trim t).map Char.toLower ∈ ["1", "true", "yes", "on"].map String.toList ∨
        (Text.trim t).map Char.toLower ∈ ["0", "false", "no", "off"].map String.toList := by
    rw [← List.mem_append, ← List.map_append]
    rfl
  rw [happend, parseBool?]
  split
  · next htrue => exact iff_of_true rfl (.inl htrue)
  · next htrue =>
    split
    · next hfalse => exact iff_of_true rfl (.inr hfalse)
    · next hfalse => exact iff_of_false Bool.false_ne_true (not_or.mpr ⟨htrue, hfalse⟩)

def Misspelt (env : Environment) (value : Text) : Prop :=
  env Variable.requireMount = some (Utf8.encode value) ∧ ¬IsBoolean value

def misspelt? (env : Environment) : Option Text :=
  (env.text? Variable.requireMount).filter fun value => (parseBool? value).isNone

theorem misspelt?_eq_some_iff : misspelt? env = some value ↔ Misspelt env value := by
  rw [misspelt?, Option.filter_eq_some_iff, Environment.text?_eq_some_iff, Misspelt,
    ← isSome_parseBool?_iff, Option.not_isSome_iff_eq_none, Option.isNone_iff_eq_none]

theorem events_ofEnvironment (env : Environment) :
    (ofEnvironment env).events = ((misspelt? env).map Event.ignoredRequireMount).toList := by
  unfold ofEnvironment ofLookup misspelt?
  cases env.text? Variable.requireMount with
  | none => rfl
  | some value =>
    rw [Option.filter_some]
    dsimp only
    cases parseBool? value <;> rfl

theorem notices_ofEnvironment (env : Environment) :
    (ofEnvironment env).notices = ((misspelt? env).map Event.ignoredRequireMount).toList := by
  rw [Logged.notices, events_ofEnvironment]
  cases misspelt? env <;> rfl

theorem notices_ofEnvironment_eq_singleton_iff :
    (ofEnvironment env).notices = [.ignoredRequireMount value] ↔ Misspelt env value := by
  rw [notices_ofEnvironment, ← misspelt?_eq_some_iff]
  cases misspelt? env <;> simp

theorem notices_ofEnvironment_eq_nil_iff :
    (ofEnvironment env).notices = [] ↔ ∀ value, ¬Misspelt env value := by
  simp only [notices_ofEnvironment, ← misspelt?_eq_some_iff, ← ne_eq]
  rw [← Option.eq_none_iff_forall_ne_some]
  cases misspelt? env <;> simp

end Config
end MemoryProbe
