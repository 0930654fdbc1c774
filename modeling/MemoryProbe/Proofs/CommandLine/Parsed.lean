import MemoryProbe.Proofs.CommandLine.Reading
import MemoryProbe.Proofs.Text.Utf8

/-! The arguments that a command line can give. No path is empty, and the two paths that go to the
query are spelled by texts, since reading changes the arguments by assignments alone. Any such
arguments are given by some command line. -/

namespace MemoryProbe.CommandLine

theorem exists_of_bind_eq_ok {α β : Type} {x : Except Refusal α} {f : α → Except Refusal β} {b : β}
    (h : (x >>= f) = .ok b) : ∃ a, x = .ok a ∧ f a = .ok b := by
  cases x with
  | error e => exact nomatch h
  | ok a => exact ⟨a, rfl, h⟩

/-! What every step of reading keeps holds of what is read. -/

/-- It holds where nothing is given, and every change that reading makes keeps it. -/
structure Kept (P : Arguments → Prop) : Prop where
  empty : P {}
  assign : ∀ {a a' : Arguments} {option value}, P a → a.assign option value = .ok a' → P a'
  noMountCheck : ∀ {a : Arguments}, P a → P { a with noMountCheck := true }
  library : ∀ {a : Arguments} {p : Path}, p.bytes ≠ [] → P a → P { a with library := some p }

namespace Reading
variable {P : Arguments → Prop} {r r' : Reading} {a : Arguments}

theorem kept_settle (hP : Kept P) (hr : P r.arguments) (h : r.settle = .ok a) : P a := by
  unfold settle at h
  split at h
  · exact Except.ok.inj h ▸ hr
  · exact nomatch h
  · exact hP.assign hr h

theorem kept_readNoMountCheck (hP : Kept P) (hr : P r.arguments)
    (h : r.readNoMountCheck = .ok r') : P r'.arguments := by
  obtain ⟨a, ha, h⟩ := exists_of_bind_eq_ok h
  cases hcheck : a.noMountCheck with
  | true =>
    rw [hcheck] at h
    exact nomatch h
  | false =>
    rw [hcheck] at h
    exact Except.ok.inj h ▸ hP.noMountCheck (kept_settle hP hr ha)

theorem not_readHelp_eq_ok : r.readHelp ≠ .ok r' := by
  intro h
  obtain ⟨a, -, h⟩ := exists_of_bind_eq_ok h
  exact nomatch h

theorem kept_readValueOption (hP : Kept P) {option : ValueOption} {value : Option Text}
    (hr : P r.arguments) (h : r.readValueOption option value = .ok r') : P r'.arguments := by
  cases value with
  | none =>
    obtain ⟨a, ha, h⟩ := exists_of_bind_eq_ok h
    exact Except.ok.inj h ▸ kept_settle hP hr ha
  | some value =>
    obtain ⟨a, ha, h⟩ := exists_of_bind_eq_ok h
    obtain ⟨a', ha', h⟩ := exists_of_bind_eq_ok h
    exact Except.ok.inj h ▸ hP.assign (kept_settle hP hr ha) ha'

theorem kept_readNamed (hP : Kept P) {name : Text} {value : Option Text} (hr : P r.arguments)
    (h : r.readNamed name value = .ok r') : P r'.arguments := by
  unfold readNamed at h
  split at h
  · exact kept_readValueOption hP hr h
  · split at h
    · split at h
      · exact nomatch h
      · exact kept_readNoMountCheck hP hr h
    · split at h
      · split at h
        · exact nomatch h
        · exact absurd h not_readHelp_eq_ok
      · exact nomatch h

theorem kept_readLong (hP : Kept P) {text : Text} (hr : P r.arguments)
    (h : r.readLong text = .ok r') : P r'.arguments := by
  unfold readLong at h
  cases hcut : cut '=' text with
  | none =>
    rw [hcut] at h
    exact kept_readNamed hP hr h
  | some parts =>
    rw [hcut] at h
    exact kept_readNamed hP hr h

theorem kept_readValue (hr : P r.arguments) {text : Text} (h : r.readValue text = .ok r') :
    P r'.arguments := by
  unfold readValue at h
  split at h
  · exact Except.ok.inj h ▸ hr
  · exact nomatch h

theorem kept_read (hP : Kept P) {arg : Text} (hr : P r.arguments) (h : r.read arg = .ok r') :
    P r'.arguments := by
  unfold read at h
  split at h
  · exact kept_readLong hP hr h
  · exact absurd h not_readHelp_eq_ok
  · exact nomatch h
  · exact kept_readValue hr h

theorem kept_readAll (hP : Kept P) {args : List Text} (hr : P r.arguments)
    (h : readAll r args = .ok a) : P a := by
  induction args generalizing r with
  | nil => exact kept_settle hP hr h
  | cons arg rest ih =>
    unfold readAll at h
    split at h
    · split at h
      · exact kept_settle hP hr h
      · cases h
    · obtain ⟨r', hr', h⟩ := exists_of_bind_eq_ok h
      exact ih (kept_read hP hr hr') h

end Reading

theorem kept_parse {P : Arguments → Prop} (hP : Kept P) {env : Environment} {args : List Text}
    {a : Arguments} (h : Arguments.parse env args = .ok a) : P a := by
  obtain ⟨a', ha', h⟩ := exists_of_bind_eq_ok h
  have hread : P a' := Reading.kept_readAll hP hP.empty ha'
  unfold Arguments.withLibraryOf at h
  split at h
  · exact nomatch h
  · next hne _ _ => exact Except.ok.inj h ▸ hP.library hne hread
  · exact Except.ok.inj h ▸ hread

namespace Arguments
variable {a a' : Arguments}

def Spelled (given : Option Path) : Prop := ∀ p, given = some p → ∃ t : Text, t ≠ [] ∧ p = .ofText t

theorem spelled_of_pathOfValue {value : Text} {p : Path} (h : pathOfValue value = .ok p) :
    Spelled (some p) := by
  unfold pathOfValue at h
  split at h
  · exact nomatch h
  · next hne =>
    intro p' hp'
    exact ⟨value, hne, (Option.some.inj hp').symm.trans (Except.ok.inj h).symm⟩

structure WellFormed (a : Arguments) : Prop where
  library : ∀ p, a.library = some p → p.bytes ≠ []
  mountTable : Spelled a.mountTable
  meminfo : Spelled a.meminfo

theorem Spelled.bytes_ne_nil {p : Path} (h : Spelled (some p)) : p.bytes ≠ [] := by
  obtain ⟨t, hne, rfl⟩ := h p rfl
  exact mt Utf8.encode_eq_nil_iff.mp hne

theorem wellFormed_assign {option : ValueOption} {value : Text} (ha : a.WellFormed)
    (h : a.assign option value = .ok a') : a'.WellFormed := by
  unfold assign at h
  split at h
  · exact nomatch h
  · cases option with
    | library =>
      obtain ⟨p, hp, h⟩ := exists_of_bind_eq_ok h
      have hne : ∀ p', some p = some p' → p'.bytes ≠ [] :=
        fun p' hp' => Option.some.inj hp' ▸ (spelled_of_pathOfValue hp).bytes_ne_nil
      exact Except.ok.inj h ▸ ⟨hne, ha.mountTable, ha.meminfo⟩
    | binding =>
      dsimp only at h
      split at h
      · exact Except.ok.inj h ▸ ⟨ha.library, ha.mountTable, ha.meminfo⟩
      · exact nomatch h
    | mountTable =>
      obtain ⟨p, hp, h⟩ := exists_of_bind_eq_ok h
      exact Except.ok.inj h ▸ ⟨ha.library, spelled_of_pathOfValue hp, ha.meminfo⟩
    | meminfo =>
      obtain ⟨p, hp, h⟩ := exists_of_bind_eq_ok h
      exact Except.ok.inj h ▸ ⟨ha.library, ha.mountTable, spelled_of_pathOfValue hp⟩
    | mountPoint => exact Except.ok.inj h ▸ ⟨ha.library, ha.mountTable, ha.meminfo⟩

theorem kept_wellFormed : Kept WellFormed where
  empty := ⟨nofun, nofun, nofun⟩
  assign := wellFormed_assign
  noMountCheck ha := ⟨ha.library, ha.mountTable, ha.meminfo⟩
  library hne ha := ⟨fun _ hp => Option.some.inj hp ▸ hne, ha.mountTable, ha.meminfo⟩

theorem wellFormed_of_parse {env : Environment} {args : List Text} (h : parse env args = .ok a) :
    a.WellFormed :=
  kept_parse kept_wellFormed h

end Arguments

/-! Any such arguments can be given. -/

def ValueOption.flag (option : ValueOption) (value : Text) : Text :=
  '-' :: '-' :: (option.name ++ '=' :: value)

theorem ValueOption.ofName?_name (option : ValueOption) : ofName? option.name = some option := by
  cases option <;> rfl

def Leads (a a' : Arguments) : Prop :=
  ∃ words, ∀ rest, Reading.readAll ⟨none, a⟩ (words ++ rest) = Reading.readAll ⟨none, a'⟩ rest

namespace Leads
variable {a a' a'' : Arguments}

protected theorem refl (a : Arguments) : Leads a a := ⟨[], fun _ => rfl⟩

protected theorem trans (h : Leads a a') (h' : Leads a' a'') : Leads a a'' := by
  obtain ⟨words, h⟩ := h
  obtain ⟨words', h'⟩ := h'
  exact ⟨words ++ words', fun rest => by rw [List.append_assoc, h, h']⟩

theorem flag (option : ValueOption) (value : Text) (h : a.assign option value = .ok a') :
    Leads a a' := by
  refine ⟨[option.flag value], fun rest => ?_⟩
  have hname : '=' ∉ option.name := by cases option <;> decide
  have hread : Reading.read ⟨none, a⟩ (option.flag value) = .ok ⟨none, a'⟩ := by
    show Reading.readLong ⟨none, a⟩ (option.name ++ '=' :: value) = _
    rw [Reading.readLong, cut_append_cons hname]
    show Reading.readNamed ⟨none, a⟩ option.name (some value) = _
    rw [Reading.readNamed, option.ofName?_name]
    show a.assign option value >>= _ = _
    rw [h]
    rfl
  have hne : option.flag value ≠ ['-', '-'] := by
    intro h
    exact List.append_ne_nil_of_right_ne_nil _ (List.cons_ne_nil _ _)
      (List.cons.inj (List.cons.inj h).2).2
  rw [List.singleton_append, Reading.readAll, if_neg hne, hread]
  rfl

theorem noMountCheck (h : a.noMountCheck = false) : Leads a { a with noMountCheck := true } := by
  refine ⟨["--no-mount-check".toList], fun rest => ?_⟩
  have hread : Reading.read ⟨none, a⟩ "--no-mount-check".toList =
      .ok ⟨none, { a with noMountCheck := true }⟩ := by
    show Reading.readNoMountCheck ⟨none, a⟩ = _
    show (if a.noMountCheck then throw _ else pure _ : Except Refusal Reading) = _
    rw [h]
    rfl
  rw [List.singleton_append, Reading.readAll, if_neg (by decide), hread]
  rfl

end Leads

namespace Arguments
variable {a : Arguments}

/-- The words come in the order of the fields, except that the library, whose path need not be a
text, is left to the environment. -/
theorem WellFormed.leads (h : a.WellFormed) : Leads {} { a with library := none } := by
  obtain ⟨library, binding, mountTable, meminfo, mountPoint, noMountCheck⟩ := a
  have hbinding : Leads {} { binding } := by
    cases binding with
    | none => exact .refl _
    | some b => exact .flag .binding b.name (by cases b <;> rfl)
  have hmountTable : Leads { binding } { binding, mountTable } := by
    cases mountTable with
    | none => exact .refl _
    | some p =>
      obtain ⟨t, hne, rfl⟩ := h.mountTable p rfl
      exact .flag .mountTable t (by rw [assign, pathOfValue, if_neg hne]; rfl)
  have hmeminfo : Leads { binding, mountTable } { binding, mountTable, meminfo } := by
    cases meminfo with
    | none => exact .refl _
    | some p =>
      obtain ⟨t, hne, rfl⟩ := h.meminfo p rfl
      exact .flag .meminfo t (by rw [assign, pathOfValue, if_neg hne]; rfl)
  have hmountPoint : Leads { binding, mountTable, meminfo }
      { binding, mountTable, meminfo, mountPoint } := by
    cases mountPoint with
    | none => exact .refl _
    | some t => exact .flag .mountPoint t rfl
  have hnoMountCheck : Leads { binding, mountTable, meminfo, mountPoint }
      { binding, mountTable, meminfo, mountPoint, noMountCheck } := by
    cases noMountCheck with
    | false => exact .refl _
    | true => exact .noMountCheck rfl
  exact hbinding.trans (hmountTable.trans (hmeminfo.trans (hmountPoint.trans hnoMountCheck)))

theorem exists_parse_eq_iff : (∃ env args, parse env args = .ok a) ↔ a.WellFormed := by
  constructor
  · rintro ⟨env, args, h⟩
    exact wellFormed_of_parse h
  · intro h
    obtain ⟨words, hwords⟩ := h.leads
    have hread : Reading.readAll {} words = .ok { a with library := none } := by
      have hnil := hwords []
      rwa [List.append_nil] at hnil
    obtain ⟨library, binding, mountTable, meminfo, mountPoint, noMountCheck⟩ := a
    cases library with
    | none =>
      refine ⟨.empty, words, ?_⟩
      rw [parse, hread]
      rfl
    | some p =>
      refine ⟨Environment.empty.set Variable.library p.bytes, words, ?_⟩
      rw [parse, hread]
      show withLibraryOf _ _ = _
      rw [withLibraryOf, Environment.set_self]
      split
      · next hnil => exact absurd (Option.some.inj hnil) (h.library p rfl)
      · next hbytes => rw [← Option.some.inj hbytes]
      · next hother => exact absurd rfl (hother _ rfl)

end Arguments
end MemoryProbe.CommandLine
