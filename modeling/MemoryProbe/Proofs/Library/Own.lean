import MemoryProbe.Library.Own
import MemoryProbe.Proofs.Library.Queries

/-! What is asked of the library of this program is found in it. The names that are made up of a class
and a method are the names that the library exports, so either class and the table give the answers
of the natives. -/

namespace MemoryProbe.Library
open Native

theorem ofList_eq_some {entries : List (Text × Entry)} {name : Text} {e : Entry} (i : Nat)
    (hnodup : (entries.map Prod.fst).Nodup) (hname : (entries.map Prod.fst)[i]? = some name)
    (hentry : (entries.map Prod.snd)[i]? = some e) : SymbolTable.ofList entries name = some e := by
  unfold SymbolTable.ofList
  induction entries generalizing i with
  | nil => exact nomatch hname
  | cons first rest ih =>
    obtain ⟨k, v⟩ := first
    rw [List.map_cons, List.nodup_cons] at hnodup
    cases i with
    | zero =>
      obtain rfl : k = name := Option.some.inj hname
      obtain rfl : v = e := Option.some.inj hentry
      exact List.lookup_cons_self
    | succ i =>
      have hmem : name ∈ rest.map Prod.fst := List.mem_of_getElem? hname
      have hne : (name == k) = false := beq_false_of_ne fun h => hnodup.1 (h ▸ hmem)
      rw [List.lookup_cons, hne]
      exact ih i hnodup.2 hname hentry

variable (files : Files) (env : Environment) (system : SystemAnswer)

theorem names_exports : (exports files env system).map Prod.fst = symbolNames := by
  simp only [exports, List.map_cons, List.map_nil]
  decide +kernel

variable {files env system}

theorem lookup_exports {name : Text} {e : Entry} (i : Nat) (hname : symbolNames[i]? = some name)
    (hentry : ((exports files env system).map Prod.snd)[i]? = some e) :
    SymbolTable.ofList (exports files env system) name = some e := by
  have hnames := names_exports files env system
  refine ofList_eq_some i ?_ ?_ hentry
  · rw [hnames]
    exact nodup_symbolNames
  · rw [hnames]
    exact hname

theorem lookup_onLoadSymbol : SymbolTable.ofList (exports files env system) onLoadSymbol =
    some { word := jniVersion 8 } :=
  lookup_exports 0 rfl rfl

theorem lookup_tableSymbol : SymbolTable.ofList (exports files env system) tableSymbol =
    some { table := some ⟨tableVersion, tableSize, (results sound files env system).value⟩ } :=
  lookup_exports 1 rfl rfl

theorem lookup_pageSizeSymbol (s : SymbolSet) :
    SymbolTable.ofList (exports files env system) s.pageSizeSymbol =
      some { word := (exportedPageSize sound files system).value } := by
  cases s with
  | memoryUtils => exact lookup_exports 2 rfl rfl
  | jniMemoryManager => exact lookup_exports 5 rfl rfl

theorem lookup_addressSizeSymbol (s : SymbolSet) :
    SymbolTable.ofList (exports files env system) s.addressSizeSymbol =
      some { word := (exportedAddressSize sound files).value } := by
  cases s with
  | memoryUtils => exact lookup_exports 3 rfl rfl
  | jniMemoryManager => exact lookup_exports 6 rfl rfl

theorem lookup_hugePageSizeSymbol (s : SymbolSet) :
    SymbolTable.ofList (exports files env system) s.hugePageSizeSymbol =
      some { long := (exportedHugePageSize sound files env system).value } := by
  cases s with
  | memoryUtils => exact lookup_exports 4 rfl rfl
  | jniMemoryManager => exact lookup_exports 7 rfl rfl

variable (files env system)

theorem queryNatives_own (s : SymbolSet) : (own files env system).queryNatives s =
    .ok (results sound files env system).value :=
  queryNatives_eq_ok_iff.mpr
    ⟨_, _, _, lookup_pageSizeSymbol s, lookup_addressSizeSymbol s, lookup_hugePageSizeSymbol s, rfl⟩

theorem queryTable_own : (own files env system).queryTable =
    .ok (results sound files env system).value :=
  queryTable_eq_ok_iff.mpr ⟨_, ⟨_, lookup_tableSymbol, rfl⟩, rfl, UInt32.le_refl _, rfl⟩

theorem onLoad_own : (own files env system).onLoad = some (jniVersion 8) :=
  onLoad_eq_some_iff.mpr ⟨_, lookup_onLoadSymbol, rfl⟩

end MemoryProbe.Library
