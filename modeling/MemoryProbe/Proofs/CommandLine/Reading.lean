import MemoryProbe.CommandLine.Arguments

/-! Which binding a command line names has no bearing on how the rest of it is read. Once a binding
is given, another one only is a conflict. So what is read for two bindings differs in the binding
alone, and a command line is refused for all bindings or for none. -/

namespace MemoryProbe.CommandLine

def Binding.flag (joined : Bool) (b : Binding) : List Text :=
  if joined then ["--binding=".toList ++ b.name] else ["--binding".toList, b.name]

theorem Binding.ofText?_name (b : Binding) : ofText? b.name = some b := by
  cases b <;> rfl

namespace Arguments

def withBinding (b : Binding) (a : Arguments) : Arguments := { a with binding := some b }

variable (a : Arguments) (b b' : Binding)

theorem isGiven_withBinding (option : ValueOption) :
    (a.withBinding b).isGiven option = (a.withBinding b').isGiven option := by
  cases option <;> rfl

theorem assign_withBinding (option : ValueOption) (value : Text) :
    (a.withBinding b).assign option value =
      ((a.withBinding b').assign option value).map (withBinding b) := by
  unfold assign
  rw [isGiven_withBinding a b b']
  cases hg : (a.withBinding b').isGiven option with
  | true => rfl
  | false =>
    simp only [Bool.false_eq_true, if_false]
    cases option with
    | binding => exact nomatch hg
    | library => cases pathOfValue value <;> rfl
    | mountTable => cases pathOfValue value <;> rfl
    | meminfo => cases pathOfValue value <;> rfl
    | mountPoint => rfl

theorem assign_binding_name :
    a.assign .binding b.name = (a.assign .binding b'.name).map (withBinding b) := by
  unfold assign
  cases a.isGiven .binding with
  | true => rfl
  | false =>
    simp only [Bool.false_eq_true, if_false, Binding.ofText?_name]
    rfl

theorem withLibraryOf_withBinding (env : Environment) :
    (a.withBinding b).withLibraryOf env =
      ((a.withBinding b').withLibraryOf env).map (withBinding b) := by
  obtain ⟨library, binding, mountTable, meminfo, mountPoint, noMountCheck⟩ := a
  unfold withLibraryOf withBinding
  cases library with
  | some p => rfl
  | none =>
    cases env Variable.library with
    | none => rfl
    | some bytes => cases bytes <;> rfl

end Arguments

namespace Reading

def withBinding (b : Binding) (r : Reading) : Reading :=
  { r with arguments := r.arguments.withBinding b }

/-- What has been read depends on the binding in the binding alone. -/
structure Uniform (r : Binding → Reading) : Prop where
  settle : ∀ b b', (r b).settle = (r b').settle.map (Arguments.withBinding b)
  readValue : ∀ b b' text, (r b).readValue text = ((r b').readValue text).map (withBinding b)

theorem uniform_withBinding (r : Reading) : Uniform fun b => r.withBinding b := by
  obtain ⟨pending, a⟩ := r
  cases pending with
  | none => exact ⟨fun _ _ => rfl, fun _ _ _ => rfl⟩
  | some p =>
    obtain ⟨option, value⟩ := p
    cases value with
    | none => exact ⟨fun _ _ => rfl, fun _ _ _ => rfl⟩
    | some value => exact ⟨fun b b' => a.assign_withBinding b b' option value, fun _ _ _ => rfl⟩

theorem uniform_waiting (a : Arguments) : Uniform fun b => ⟨some (.binding, some b.name), a⟩ where
  settle b b' := a.assign_binding_name b b'
  readValue _ _ _ := rfl

variable {r : Binding → Reading}

theorem Uniform.readHelp (h : Uniform r) (b b' : Binding) :
    (r b).readHelp = (r b').readHelp.map (withBinding b) := by
  unfold Reading.readHelp
  rw [h.settle b b']
  cases (r b').settle <;> rfl

theorem Uniform.readNoMountCheck (h : Uniform r) (b b' : Binding) :
    (r b).readNoMountCheck = (r b').readNoMountCheck.map (withBinding b) := by
  unfold Reading.readNoMountCheck
  rw [h.settle b b']
  cases (r b').settle with
  | error e => rfl
  | ok a =>
    show (if a.noMountCheck then throw _ else pure _ : Except Refusal Reading) =
      Except.map _ (if a.noMountCheck then throw _ else pure _)
    cases a.noMountCheck <;> rfl

theorem Uniform.settle_withBinding (h : Uniform r) {b : Binding} {a : Arguments}
    (ha : (r b).settle = .ok a) : a.withBinding b = a := by
  have hself := h.settle b b
  rw [ha] at hself
  exact (Except.ok.inj hself).symm

theorem Uniform.readValueOption (h : Uniform r) (b b' : Binding) (option : ValueOption)
    (value : Option Text) :
    (r b).readValueOption option value =
      ((r b').readValueOption option value).map (withBinding b) := by
  cases value with
  | none =>
    unfold Reading.readValueOption
    rw [h.settle b b']
    cases (r b').settle <;> rfl
  | some value =>
    unfold Reading.readValueOption
    rw [h.settle b b']
    cases hs : (r b').settle with
    | error e => rfl
    | ok a =>
      have hassign := a.assign_withBinding b b' option value
      rw [h.settle_withBinding hs] at hassign
      show ((a.withBinding b).assign option value >>= fun x => pure (⟨none, x⟩ : Reading)) =
        Except.map (withBinding b) (a.assign option value >>= fun x => pure ⟨none, x⟩)
      rw [hassign]
      cases a.assign option value <;> rfl

theorem Uniform.readNamed (h : Uniform r) (b b' : Binding) (name : Text) (value : Option Text) :
    (r b).readNamed name value = ((r b').readNamed name value).map (withBinding b) := by
  unfold Reading.readNamed
  cases ValueOption.ofName? name with
  | some option => exact h.readValueOption b b' option value
  | none =>
    simp only []
    split
    · split
      · rfl
      · exact h.readNoMountCheck b b'
    · split
      · split
        · rfl
        · exact h.readHelp b b'
      · rfl

theorem Uniform.readLong (h : Uniform r) (b b' : Binding) (text : Text) :
    (r b).readLong text = ((r b').readLong text).map (withBinding b) := by
  rw [Reading.readLong, Reading.readLong]
  cases cut '=' text with
  | none => exact h.readNamed b b' text none
  | some p => exact h.readNamed b b' p.1 (some p.2)

theorem Uniform.read (h : Uniform r) (b b' : Binding) (arg : Text) :
    (r b).read arg = ((r b').read arg).map (withBinding b) := by
  unfold Reading.read
  split
  · exact h.readLong b b' _
  · exact h.readHelp b b'
  · rfl
  · exact h.readValue b b' _

theorem Uniform.readAll (h : Uniform r) (b b' : Binding) (args : List Text) :
    Reading.readAll (r b) args =
      (Reading.readAll (r b') args).map (Arguments.withBinding b) := by
  induction args generalizing r with
  | nil => exact h.settle b b'
  | cons arg rest ih =>
    unfold Reading.readAll
    split
    · split
      · exact h.settle b b'
      · rfl
    · have hread := h.read b b' arg
      have hself := h.read b' b' arg
      rw [hread]
      cases hr : (r b').read arg with
      | error e => rfl
      | ok next =>
        -- what is read next has the binding of `b'`, so changing it gives all the others
        rw [hr] at hself
        have hnext := ih (uniform_withBinding next)
        rw [← Except.ok.inj hself] at hnext
        exact hnext

theorem readAll_joined (r : Reading) (b : Binding) (args : List Text) :
    readAll r (b.flag true ++ args) = (do
      let a ← r.settle
      let a ← a.assign .binding b.name
      readAll ⟨none, a⟩ args) := by
  have hread : readAll r (b.flag true ++ args) =
      r.readValueOption .binding (some b.name) >>= fun r => readAll r args := by
    cases b <;> rfl
  rw [hread, readValueOption]
  cases r.settle with
  | error e => rfl
  | ok a =>
    show ((a.assign .binding b.name >>= fun a => pure ⟨none, a⟩ : Except Refusal Reading) >>= _) =
      a.assign .binding b.name >>= _
    cases a.assign .binding b.name <;> rfl

theorem readAll_separate (r : Reading) (b : Binding) (args : List Text) :
    readAll r (b.flag false ++ args) = (do
      let a ← r.settle
      readAll ⟨some (.binding, some b.name), a⟩ args) := by
  have hread : readAll r (b.flag false ++ args) =
      r.readValueOption .binding none >>= fun r => readAll r (b.name :: args) := by
    cases b <;> rfl
  rw [hread, readValueOption]
  cases r.settle with
  | error e => rfl
  | ok a => cases b <;> rfl

theorem readAll_flag (r : Reading) (joined : Bool) (b b' : Binding) (args : List Text) :
    readAll r (b.flag joined ++ args) =
      (readAll r (b'.flag joined ++ args)).map (Arguments.withBinding b) := by
  cases joined with
  | false =>
    rw [readAll_separate, readAll_separate]
    cases r.settle with
    | error e => rfl
    | ok a => exact (uniform_waiting a).readAll b b' args
  | true =>
    rw [readAll_joined, readAll_joined]
    cases r.settle with
    | error e => rfl
    | ok a =>
      show a.assign .binding b.name >>= _ = Except.map _ (a.assign .binding b'.name >>= _)
      rw [a.assign_binding_name b b']
      cases ha : a.assign .binding b'.name with
      | error e => rfl
      | ok next =>
        have hself := a.assign_binding_name b' b'
        rw [ha] at hself
        have hnext := (uniform_withBinding ⟨none, next⟩).readAll b b' args
        rw [withBinding, withBinding, ← Except.ok.inj hself] at hnext
        exact hnext

theorem readAll_append_flag (r : Reading) (before after : List Text) (joined : Bool)
    (b b' : Binding) :
    readAll r (before ++ (b.flag joined ++ after)) =
      (readAll r (before ++ (b'.flag joined ++ after))).map (Arguments.withBinding b) := by
  induction before generalizing r with
  | nil => exact readAll_flag r joined b b' after
  | cons arg before ih =>
    have hne (b : Binding) : before ++ (b.flag joined ++ after) ≠ [] := by
      refine List.append_ne_nil_of_right_ne_nil _ (List.append_ne_nil_of_left_ne_nil ?_ _)
      cases joined <;> exact List.cons_ne_nil _ _
    rw [List.cons_append, List.cons_append, readAll, readAll, if_neg (hne b), if_neg (hne b')]
    split
    · rfl
    · cases r.read arg with
      | error e => rfl
      | ok next => exact ih next

end Reading

theorem Arguments.parse_flag (env : Environment) (before after : List Text) (joined : Bool)
    (b b' : Binding) :
    parse env (before ++ (b.flag joined ++ after)) =
      (parse env (before ++ (b'.flag joined ++ after))).map (withBinding b) := by
  unfold parse
  rw [Reading.readAll_append_flag {} before after joined b b']
  have hself := Reading.readAll_append_flag {} before after joined b' b'
  cases hr : Reading.readAll {} (before ++ (b'.flag joined ++ after)) with
  | error e => rfl
  | ok a =>
    rw [hr] at hself
    have hlib := a.withLibraryOf_withBinding b b' env
    rw [← Except.ok.inj hself] at hlib
    exact hlib

end MemoryProbe.CommandLine
