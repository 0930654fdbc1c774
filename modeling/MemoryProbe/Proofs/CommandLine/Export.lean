import MemoryProbe.Proofs.CommandLine.Parsed
import MemoryProbe.Proofs.HugePage.Settings

/-! The arguments reach the query through the environment, where they are read as text again. Each
of them takes the place of its own setting, and whatever else the environment holds, well formed or
not, counts as it did before. -/

namespace MemoryProbe

namespace Environment

def setGiven (env : Environment) (name : Text) : Option Bytes → Environment
  | some value => env.set name value
  | none => env

def setAll (env : Environment) : List (Text × Option Bytes) → Environment
  | [] => env
  | (name, value) :: rest => (env.setGiven name value).setAll rest

section
variable (env : Environment) (value : Option Bytes) {name other : Text}

theorem setGiven_self : env.setGiven name value name = value.or (env name) := by
  cases value with
  | none => rfl
  | some value => exact env.set_self value

theorem setGiven_of_ne (h : other ≠ name) : env.setGiven name value other = env other := by
  cases value with
  | none => rfl
  | some value => exact env.set_of_ne value h

end

theorem setAll_apply {l : List (Text × Option Bytes)} (h : (l.map Prod.fst).Nodup)
    (env : Environment) (name : Text) :
    env.setAll l name = (l.lookup name).join.or (env name) := by
  induction l generalizing env with
  | nil => rfl
  | cons setting rest ih =>
    obtain ⟨first, value⟩ := setting
    obtain ⟨hfirst, hrest⟩ := List.nodup_cons.mp h
    rw [setAll, ih hrest]
    by_cases hname : name = first
    · subst hname
      have hnone : rest.lookup name = none := by
        refine List.lookup_eq_none_iff.mpr fun setting hsetting => bne_iff_ne.mpr fun hsame => ?_
        have hmem : setting.fst ∈ rest.map Prod.fst := List.mem_map_of_mem hsetting
        exact hfirst (hsame ▸ hmem)
      rw [hnone, setGiven_self, List.lookup_cons_self]
      rfl
    · rw [setGiven_of_ne env value hname, List.lookup_cons, beq_false_of_ne hname]

end Environment

namespace CommandLine.Arguments
variable {a : Arguments} {env : Environment} {name t : Text}

def settings (a : Arguments) : List (Text × Option Bytes) := [
  (Variable.mountTable, a.mountTable.map Path.bytes),
  (Variable.meminfo, a.meminfo.map Path.bytes),
  (Variable.mountPoint, a.mountPoint.map Utf8.encode),
  (Variable.requireMount, if a.noMountCheck then some (Utf8.encode "false".toList) else none)]

def exported? (a : Arguments) (name : Text) : Option Bytes := (a.settings.lookup name).join

theorem exportTo_eq_setAll (a : Arguments) (env : Environment) :
    a.exportTo env = env.setAll a.settings := by
  obtain ⟨library, binding, mountTable, meminfo, mountPoint, noMountCheck⟩ := a
  cases mountTable <;> cases meminfo <;> cases mountPoint <;> cases noMountCheck <;> rfl

theorem exportTo_apply (a : Arguments) (env : Environment) (name : Text) :
    a.exportTo env name = (a.exported? name).or (env name) := by
  have hnodup : (a.settings.map Prod.fst).Nodup := by
    show [Variable.mountTable, Variable.meminfo, Variable.mountPoint, Variable.requireMount].Nodup
    decide
  rw [exportTo_eq_setAll, Environment.setAll_apply hnodup, exported?]

theorem exportTo_of_exported?_eq_none (h : a.exported? name = none) :
    a.exportTo env name = env name := by
  rw [exportTo_apply, h]
  rfl

theorem text?_exportTo {given : Option Text} (h : a.exported? name = given.map Utf8.encode) :
    (a.exportTo env).text? name = given.or (env.text? name) := by
  cases given with
  | none =>
    rw [Environment.text?, exportTo_of_exported?_eq_none h]
    rfl
  | some t =>
    rw [Option.some_or, Environment.text?_eq_some_iff, exportTo_apply, h]
    rfl

theorem Spelled.exists_map_ofText {given : Option Path} (h : Spelled given) :
    ∃ text : Option Text, given = text.map Path.ofText := by
  cases given with
  | none => exact ⟨none, rfl⟩
  | some p =>
    obtain ⟨t, -, rfl⟩ := h p rfl
    exact ⟨some t, rfl⟩

theorem path_exportTo {given : Option Path} (hspelled : Spelled given)
    (h : a.exported? name = given.map Path.bytes) (p : Path) :
    (((a.exportTo env).text? name).map Path.ofText).getD p =
      given.getD (((env.text? name).map Path.ofText).getD p) := by
  obtain ⟨text, rfl⟩ := hspelled.exists_map_ofText
  rw [Option.map_map] at h
  rw [text?_exportTo h, Option.map_or, Option.getD_or]

theorem text?_requireMount_exportTo (a : Arguments) (env : Environment) :
    (a.exportTo env).text? Variable.requireMount =
      if a.noMountCheck then some "false".toList else env.text? Variable.requireMount := by
  have hgiven : a.exported? Variable.requireMount =
      (if a.noMountCheck then some "false".toList else none).map Utf8.encode := by
    show (if a.noMountCheck then _ else _) = _
    cases a.noMountCheck <;> rfl
  rw [text?_exportTo hgiven]
  cases a.noMountCheck <;> rfl

theorem misspelt_exportTo_iff : Config.Misspelt (a.exportTo env) t ↔
    a.noMountCheck = false ∧ Config.Misspelt env t := by
  simp only [Config.Misspelt, ← Environment.text?_eq_some_iff, text?_requireMount_exportTo]
  cases a.noMountCheck with
  | false => exact (and_iff_right rfl).symm
  | true =>
    refine iff_of_false (fun h => ?_) (fun h => Bool.false_ne_true h.1.symm)
    obtain ⟨hfalse, hnot⟩ := h
    obtain rfl := Option.some.inj hfalse
    exact hnot (by decide)

def override (a : Arguments) (c : Config) : Config where
  mountTable := a.mountTable.getD c.mountTable
  meminfo := a.meminfo.getD c.meminfo
  mountPoint := (a.mountPoint.map Config.parseMountPoint).getD c.mountPoint
  requireMount := if a.noMountCheck then false else c.requireMount

theorem value_ofEnvironment_exportTo (h : a.WellFormed) (env : Environment) :
    (Config.ofEnvironment (a.exportTo env)).value =
      a.override (Config.ofEnvironment env).value := by
  rw [Config.value_ofEnvironment, Config.value_ofEnvironment, override, Config.mk.injEq]
  refine ⟨path_exportTo h.mountTable rfl _, path_exportTo h.meminfo rfl _, ?_, ?_⟩
  · have hgiven : a.exported? Variable.mountPoint = a.mountPoint.map Utf8.encode := rfl
    rw [text?_exportTo hgiven, Option.map_or, Option.getD_or]
  · rw [text?_requireMount_exportTo]
    cases a.noMountCheck with
    | false => rfl
    | true =>
      have hfalse : Config.parseBool? "false".toList = some false := by decide
      rw [if_pos rfl, Option.bind_some, hfalse]
      rfl

/-- The query is configured as the environment before says, with exactly the given arguments in
place of their settings. It is warned about a text that is no boolean unless an argument replaces
the text. -/
theorem ofEnvironment_exportTo (h : a.WellFormed) (env : Environment) :
    let config := Config.ofEnvironment (a.exportTo env)
    config.value = a.override (Config.ofEnvironment env).value ∧
      (∀ value, config.notices = [.ignoredRequireMount value] ↔
        a.noMountCheck = false ∧ Config.Misspelt env value) ∧
      (config.notices = [] ↔ a.noMountCheck = true ∨ ∀ value, ¬Config.Misspelt env value) ∧
      ∀ name, a.exported? name = none → a.exportTo env name = env name := by
  intro config
  refine ⟨value_ofEnvironment_exportTo h env, fun value => ?_, ?_,
    fun name hname => exportTo_of_exported?_eq_none hname⟩
  · rw [Config.notices_ofEnvironment_eq_singleton_iff, misspelt_exportTo_iff]
  · rw [Config.notices_ofEnvironment_eq_nil_iff]
    simp only [misspelt_exportTo_iff, not_and]
    cases a.noMountCheck <;> simp

theorem ofEnvironment_exportTo_spaces :
    let env := (Environment.empty.set Variable.meminfo [0xff]).set Variable.requireMount
      (Utf8.encode "maybe".toList)
    let given : Arguments := {
      mountTable := some (.ofText " tab ".toList)
      mountPoint := some " * ".toList }
    let config := Config.ofEnvironment (given.exportTo env)
    given.WellFormed ∧
      config.value = {
        mountTable := .ofText " tab ".toList
        meminfo := Meminfo.defaultPath
        mountPoint := none
        requireMount := true } ∧
      config.notices = [.ignoredRequireMount "maybe".toList] ∧
      given.exportTo env Variable.meminfo = some [0xff] := by
  intro env given config
  have hspelled : Spelled given.mountTable := by
    rintro p hp
    exact ⟨" tab ".toList, by decide, (Option.some.inj hp).symm⟩
  have hgiven : given.WellFormed := ⟨nofun, hspelled, nofun⟩
  obtain ⟨hvalue, hwarned, -, hkept⟩ := ofEnvironment_exportTo hgiven env
  refine ⟨hgiven, hvalue.trans (by decide +kernel), (hwarned _).mpr ⟨rfl, rfl, by decide⟩, ?_⟩
  exact hkept Variable.meminfo rfl

end CommandLine.Arguments
end MemoryProbe
