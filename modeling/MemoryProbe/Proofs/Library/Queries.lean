import MemoryProbe.Library.Basic

/-! What a loaded library answers, whichever of its eight symbols it has and whatever is behind
them. The natives of a class and the function table each put a few requirements to the library in a
fixed order. If it meets all of them it gives exactly its answers, and otherwise the first one that
it violates gives the error. No symbol matters to a question that does not ask for it. -/

namespace MemoryProbe.Library

def classSymbols (s : Native.SymbolSet) : List Text :=
  [s.pageSizeSymbol, s.addressSizeSymbol, s.hugePageSizeSymbol]

def symbolNames : List Text :=
  Native.onLoadSymbol :: Native.tableSymbol ::
    (classSymbols .memoryUtils ++ classSymbols .jniMemoryManager)

theorem nodup_symbolNames : symbolNames.Nodup := by decide +kernel

variable {symbols : SymbolTable} {s : Native.SymbolSet} {name : Text} {e : Error}

def HasTable (symbols : SymbolTable) (pointer : Option QueryTable) : Prop :=
  ∃ entry, symbols Native.tableSymbol = some entry ∧ entry.table = pointer

theorem HasTable.eq {pointer pointer' : Option QueryTable} (h : HasTable symbols pointer)
    (h' : HasTable symbols pointer') : pointer = pointer' := by
  obtain ⟨entry, hentry, rfl⟩ := h
  obtain ⟨entry', hentry', rfl⟩ := h'
  rw [Option.some.inj (hentry.symm.trans hentry')]

theorem HasTable.iff_eq {pointer pointer' : Option QueryTable} (h : HasTable symbols pointer) :
    HasTable symbols pointer' ↔ pointer = pointer' :=
  ⟨h.eq, fun hsame => hsame ▸ h⟩

inductive Requirement
  | exported (name : Text)
  | pointer
  | version
  | size
deriving DecidableEq, Repr

inductive Violates (symbols : SymbolTable) : Requirement → Error → Prop
  | missing {name : Text} (h : symbols name = none) :
    Violates symbols (.exported name) (.missingSymbol name)
  | null (h : HasTable symbols none) : Violates symbols .pointer .nullTable
  | version {t : QueryTable} (h : HasTable symbols (some t)) (hversion : t.version ≠ 1) :
    Violates symbols .version (.unsupportedVersion t.version)
  | size {t : QueryTable} (h : HasTable symbols (some t)) (hsize : t.size < 32) :
    Violates symbols .size (.tableTooSmall t.size t.version)

inductive FailsFirst (symbols : SymbolTable) : List Requirement → Error → Prop
  | here {r : Requirement} {rs : List Requirement} {e : Error} (h : Violates symbols r e) :
    FailsFirst symbols (r :: rs) e
  | later {r : Requirement} {rs : List Requirement} {e : Error}
    (hmet : ∀ e', ¬Violates symbols r e') (h : FailsFirst symbols rs e) :
    FailsFirst symbols (r :: rs) e

def classRequirements (s : Native.SymbolSet) : List Requirement :=
  (classSymbols s).map .exported

def tableRequirements : List Requirement :=
  [.exported Native.tableSymbol, .pointer, .version, .size]

/-! One requirement after the other. -/

theorem Violates.error_eq {r : Requirement} {e' : Error} (h : Violates symbols r e)
    (h' : Violates symbols r e') : e = e' := by
  cases h with
  | missing | null =>
    cases h'
    rfl
  | version h | size h =>
    cases h' with
    | _ h' =>
      obtain rfl := Option.some.inj (h.eq h')
      rfl

theorem failsFirst_cons_of_met {r : Requirement} {rs : List Requirement}
    (hmet : ∀ e', ¬Violates symbols r e') :
    FailsFirst symbols (r :: rs) e ↔ FailsFirst symbols rs e := by
  constructor
  · intro h
    cases h with
    | here h => exact absurd h (hmet e)
    | later _ h => exact h
  · exact .later hmet

theorem failsFirst_cons_of_violates {r : Requirement} {rs : List Requirement} {e' : Error}
    (h : Violates symbols r e') : FailsFirst symbols (r :: rs) e ↔ e = e' := by
  constructor
  · intro hfirst
    cases hfirst with
    | here h' => exact h'.error_eq h
    | later hmet _ => exact absurd h (hmet e')
  · rintro rfl
    exact .here h

theorem not_failsFirst_nil : ¬FailsFirst symbols [] e := nofun

theorem met_exported {entry : Entry} (h : symbols name = some entry) :
    ∀ e', ¬Violates symbols (.exported name) e' := by
  intro e' hviolates
  cases hviolates with
  | missing hmissing => exact nomatch h.symm.trans hmissing

section
variable {t : QueryTable} (htable : HasTable symbols (some t))
include htable

theorem met_pointer : ∀ e', ¬Violates symbols .pointer e' := by
  intro e' hviolates
  cases hviolates with
  | null hnull => exact nomatch htable.eq hnull

theorem met_version (h : t.version = 1) : ∀ e', ¬Violates symbols .version e' := by
  intro e' hviolates
  cases hviolates with
  | version htable' hversion =>
    obtain rfl := Option.some.inj (htable.eq htable')
    exact hversion h

theorem met_size (h : ¬t.size < 32) : ∀ e', ¬Violates symbols .size e' := by
  intro e' hviolates
  cases hviolates with
  | size htable' hsize =>
    obtain rfl := Option.some.inj (htable.eq htable')
    exact h hsize

end

theorem error_eq_error_iff {α : Type} {e' : Error} :
    (Except.error e' : Except Error α) = .error e ↔ e = e' := by
  rw [Except.error.injEq, eq_comm]

/-! The natives of a class. A symbol is looked up, and what it answers goes on. -/

section
variable {α β : Type} {call : Entry → α} {f : α → Except Error β}

theorem resolve_bind_eq_ok_iff {b : β} :
    (resolve name ((symbols name).map call) >>= f) = .ok b ↔
      ∃ entry, symbols name = some entry ∧ f (call entry) = .ok b := by
  cases symbols name with
  | none => exact ⟨nofun, nofun⟩
  | some entry =>
    refine ⟨fun h => ⟨entry, rfl, h⟩, ?_⟩
    rintro ⟨entry', hentry, h⟩
    exact Option.some.inj hentry ▸ h

theorem resolve_bind_eq_error_iff {rs : List Requirement}
    (hrest : ∀ entry, f (call entry) = .error e ↔ FailsFirst symbols rs e) :
    (resolve name ((symbols name).map call) >>= f) = .error e ↔
      FailsFirst symbols (.exported name :: rs) e := by
  cases hname : symbols name with
  | none =>
    rw [failsFirst_cons_of_violates (.missing hname)]
    exact error_eq_error_iff
  | some entry =>
    rw [failsFirst_cons_of_met (met_exported hname)]
    exact hrest entry

end

theorem queryNatives_eq_ok_iff {r : Native.Results} :
    (ofSymbols symbols).queryNatives s = .ok r ↔
      ∃ page address pages, symbols s.pageSizeSymbol = some page ∧
        symbols s.addressSizeSymbol = some address ∧ symbols s.hugePageSizeSymbol = some pages ∧
        r = ⟨page.word, address.word, pages.long⟩ := by
  refine resolve_bind_eq_ok_iff.trans ?_
  constructor
  · rintro ⟨page, hpage, h⟩
    obtain ⟨address, haddress, h⟩ := resolve_bind_eq_ok_iff.mp h
    obtain ⟨pages, hpages, h⟩ := resolve_bind_eq_ok_iff.mp h
    exact ⟨page, address, pages, hpage, haddress, hpages, (Except.ok.inj h).symm⟩
  · rintro ⟨page, address, pages, hpage, haddress, hpages, rfl⟩
    exact ⟨page, hpage, resolve_bind_eq_ok_iff.mpr ⟨address, haddress,
      resolve_bind_eq_ok_iff.mpr ⟨pages, hpages, rfl⟩⟩⟩

theorem queryNatives_eq_error_iff :
    (ofSymbols symbols).queryNatives s = .error e ↔ FailsFirst symbols (classRequirements s) e := by
  refine resolve_bind_eq_error_iff fun page => ?_
  refine resolve_bind_eq_error_iff fun address => ?_
  refine resolve_bind_eq_error_iff fun pages => ?_
  exact ⟨nofun, fun h => absurd h not_failsFirst_nil⟩

/-! The function table. -/

theorem queryTable_ofSymbols (symbols : SymbolTable) : (ofSymbols symbols).queryTable =
    match symbols Native.tableSymbol with
    | none => .error (.missingSymbol Native.tableSymbol)
    | some entry =>
      match entry.table with
      | none => .error .nullTable
      | some t =>
        if t.version ≠ 1 then .error (.unsupportedVersion t.version)
        else if t.size < 32 then .error (.tableTooSmall t.size t.version)
        else .ok t.results := by
  unfold queryTable ofSymbols
  cases symbols Native.tableSymbol with
  | none => rfl
  | some entry =>
    dsimp only
    cases entry.table <;> rfl

theorem queryTable_eq_ok_iff {r : Native.Results} :
    (ofSymbols symbols).queryTable = .ok r ↔
      ∃ t, HasTable symbols (some t) ∧ t.version = 1 ∧ 32 ≤ t.size ∧ r = t.results := by
  rw [queryTable_ofSymbols]
  cases hentry : symbols Native.tableSymbol with
  | none =>
    refine ⟨nofun, ?_⟩
    rintro ⟨t, ⟨entry, hentry', -⟩, -⟩
    exact nomatch hentry.symm.trans hentry'
  | some entry =>
    have hpointer : HasTable symbols entry.table := ⟨entry, hentry, rfl⟩
    simp only [hpointer.iff_eq]
    cases entry.table with
    | none =>
      refine ⟨nofun, ?_⟩
      rintro ⟨t, htable, -⟩
      exact nomatch htable
    | some t =>
      simp only [Option.some.injEq, exists_eq_left']
      split
      · next hversion => exact ⟨nofun, fun h => absurd h.1 hversion⟩
      · next hversion =>
        split
        · next hsize => exact ⟨nofun, fun h => absurd hsize (UInt32.not_lt.mpr h.2.1)⟩
        · next hsize =>
          have hversion : t.version = 1 := Decidable.not_not.mp hversion
          rw [Except.ok.injEq, eq_comm]
          exact ⟨fun h => ⟨hversion, UInt32.not_lt.mp hsize, h⟩, fun h => h.2.2⟩

theorem queryTable_eq_error_iff :
    (ofSymbols symbols).queryTable = .error e ↔ FailsFirst symbols tableRequirements e := by
  rw [queryTable_ofSymbols, tableRequirements]
  cases hentry : symbols Native.tableSymbol with
  | none =>
    rw [failsFirst_cons_of_violates (.missing hentry)]
    exact error_eq_error_iff
  | some entry =>
    have hpointer : HasTable symbols entry.table := ⟨entry, hentry, rfl⟩
    rw [failsFirst_cons_of_met (met_exported hentry)]
    dsimp only
    cases htable : entry.table with
    | none =>
      rw [htable] at hpointer
      rw [failsFirst_cons_of_violates (.null hpointer)]
      exact error_eq_error_iff
    | some t =>
      rw [htable] at hpointer
      rw [failsFirst_cons_of_met (met_pointer hpointer)]
      dsimp only
      split
      · next hversion =>
        rw [failsFirst_cons_of_violates (.version hpointer hversion)]
        exact error_eq_error_iff
      · next hversion =>
        rw [failsFirst_cons_of_met (met_version hpointer (Decidable.not_not.mp hversion))]
        split
        · next hsize =>
          rw [failsFirst_cons_of_violates (.size hpointer hsize)]
          exact error_eq_error_iff
        · next hsize =>
          rw [failsFirst_cons_of_met (met_size hpointer hsize)]
          exact ⟨nofun, fun h => absurd h not_failsFirst_nil⟩

theorem onLoad_eq_some_iff {n : Int32} : (ofSymbols symbols).onLoad = some n ↔
    ∃ entry, symbols Native.onLoadSymbol = some entry ∧ entry.word = n :=
  Option.map_eq_some_iff

theorem onLoad_eq_none_iff :
    (ofSymbols symbols).onLoad = none ↔ symbols Native.onLoadSymbol = none :=
  Option.map_eq_none_iff

/-! What a question depends on. -/

/-- Libraries that agree at these names answer alike, whatever else they have. -/
def DependsOn {α : Type} (ask : Library → α) (names : List Text) : Prop :=
  ∀ symbols symbols' : SymbolTable, (∀ name ∈ names, symbols' name = symbols name) →
    ask (ofSymbols symbols') = ask (ofSymbols symbols)

theorem dependsOn_onLoad : DependsOn onLoad [Native.onLoadSymbol] := by
  intro symbols symbols' h
  have hsame := List.forall_mem_singleton.mp h
  exact congrArg (Option.map Entry.word) hsame

theorem dependsOn_queryNatives (s : Native.SymbolSet) :
    DependsOn (queryNatives · s) (classSymbols s) := by
  intro symbols symbols' h
  obtain ⟨hpage, h⟩ := List.forall_mem_cons.mp h
  obtain ⟨haddress, h⟩ := List.forall_mem_cons.mp h
  have hpages := List.forall_mem_singleton.mp h
  have hnatives : (ofSymbols symbols').natives s = (ofSymbols symbols).natives s := by
    simp only [ofSymbols, hpage, haddress, hpages]
  dsimp only
  rw [queryNatives, queryNatives, hnatives]

theorem dependsOn_queryTable : DependsOn queryTable [Native.tableSymbol] := by
  intro symbols symbols' h
  have hsame := List.forall_mem_singleton.mp h
  rw [queryTable_ofSymbols, queryTable_ofSymbols, hsame]

/-- What a library answers to each question, and that none but the symbols of the question matter to
it. No two of the symbols have the same name. -/
theorem queries_answer (symbols : SymbolTable) :
    let lib := ofSymbols symbols
    (∀ s r, lib.queryNatives s = .ok r ↔
      ∃ page address pages, symbols s.pageSizeSymbol = some page ∧
        symbols s.addressSizeSymbol = some address ∧ symbols s.hugePageSizeSymbol = some pages ∧
        r = ⟨page.word, address.word, pages.long⟩) ∧
    (∀ s e, lib.queryNatives s = .error e ↔ FailsFirst symbols (classRequirements s) e) ∧
    (∀ r, lib.queryTable = .ok r ↔
      ∃ t, HasTable symbols (some t) ∧ t.version = 1 ∧ 32 ≤ t.size ∧ r = t.results) ∧
    (∀ e, lib.queryTable = .error e ↔ FailsFirst symbols tableRequirements e) ∧
    (∀ n, lib.onLoad = some n ↔
      ∃ entry, symbols Native.onLoadSymbol = some entry ∧ entry.word = n) ∧
    (lib.onLoad = none ↔ symbols Native.onLoadSymbol = none) ∧
    DependsOn onLoad [Native.onLoadSymbol] ∧
    (∀ s, DependsOn (queryNatives · s) (classSymbols s)) ∧
    DependsOn queryTable [Native.tableSymbol] ∧
    symbolNames.Nodup :=
  ⟨fun _ _ => queryNatives_eq_ok_iff, fun _ _ => queryNatives_eq_error_iff,
    fun _ => queryTable_eq_ok_iff, fun _ => queryTable_eq_error_iff,
    fun _ => onLoad_eq_some_iff, onLoad_eq_none_iff, dependsOn_onLoad, dependsOn_queryNatives,
    dependsOn_queryTable, nodup_symbolNames⟩

end MemoryProbe.Library
