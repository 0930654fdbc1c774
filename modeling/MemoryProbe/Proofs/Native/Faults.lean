import MemoryProbe.Native.Exports

/-! Faults of the logger. A query logs no error of its own, so a guarded native answers as usual if
no event that it would log meets a fault, and otherwise ends at the first such event with its
failure value and with one error. Of the three natives only the one about addresses logs nothing,
and a logger that always fails leaves it alone. -/

namespace MemoryProbe

namespace Logged
variable {α β : Type} {x : Logged α}

def errors (x : Logged α) : List Event := x.events.filter fun e => e.level == .error

def Calm (x : Logged α) : Prop := ∀ e ∈ x.events, e.level ≠ .error

theorem filter_error_eq_nil {es : List Event} (h : ∀ e ∈ es, e.level ≠ .error) :
    es.filter (fun e => e.level == .error) = [] := by
  rw [List.filter_eq_nil_iff]
  intro e he
  rw [beq_iff_eq]
  exact h e he

theorem calm_pure (a : α) : (pure a : Logged α).Calm := fun _ he => nomatch he

theorem calm_log {e : Event} (h : e.level ≠ .error) : (log e).Calm :=
  List.forall_mem_singleton.mpr h

theorem Calm.bind {f : α → Logged β} (hx : x.Calm) (hf : ∀ a, (f a).Calm) : (x >>= f).Calm := by
  intro e he
  rcases List.mem_append.mp he with he | he
  · exact hx e he
  · exact hf x.value e he

end Logged

/-! No step of a query logs an error. -/

theorem PageSize.calm_query (system : SystemAnswer) : (query system).Calm := by
  unfold query
  cases ofSystem system with
  | ok page => exact .bind (Logged.calm_log nofun) fun _ => Logged.calm_pure _
  | error cause => exact .bind (Logged.calm_log nofun) fun _ => Logged.calm_pure _

theorem PageSize.events_query_ne_nil (system : SystemAnswer) : (query system).events ≠ [] := by
  rw [events_query]
  cases ofSystem system <;> exact List.cons_ne_nil _ _

theorem Config.calm_ofEnvironment (env : Environment) : (ofEnvironment env).Calm := by
  unfold ofEnvironment ofLookup
  dsimp only
  split
  · exact Logged.calm_pure _
  · split
    · exact Logged.calm_pure _
    · exact .bind (Logged.calm_log nofun) fun _ => Logged.calm_pure _

namespace HugePage
open Logged
variable (files : Files) (c : Config)

theorem calm_pinnedBy (m : Mount) : (pinnedBy m).Calm := by
  unfold pinnedBy
  split
  · exact calm_pure _
  · exact calm_pure _
  · exact .bind (calm_log nofun) fun _ => calm_pure _

theorem calm_mountPhase : (mountPhase files c).Calm := by
  refine .bind (calm_log nofun) fun _ => ?_
  split
  · split <;> exact calm_pure _
  · next table _ =>
    have hskipped : (logAll (table.skipped.map .skippedLine)).Calm := by
      intro e he
      obtain ⟨line, -, rfl⟩ := List.mem_map.mp he
      exact nofun
    refine hskipped.bind fun _ => ?_
    split
    · exact calm_pure _
    · exact .bind (calm_log nofun) fun _ => .bind (calm_pinnedBy _) fun _ => calm_pure _

theorem calm_meminfoPhase : (meminfoPhase files c).Calm := by
  refine .bind (calm_log nofun) fun _ => ?_
  split
  · split <;> exact calm_pure _
  · split <;> exact calm_pure _

theorem calm_amount : (amount files c).Calm := by
  have hmount : (if c.requireMount then mountPhase files c else pure (.ok none)).Calm := by
    split
    · exact calm_mountPhase files c
    · exact calm_pure _
  refine hmount.bind fun r => ?_
  split
  · exact calm_pure _
  · exact calm_pure _
  · exact calm_meminfoPhase files c

theorem calm_size (system : SystemAnswer) : (size system files c).Calm := by
  refine (calm_amount files c).bind fun r => ?_
  split
  · exact calm_pure _
  · refine (PageSize.calm_query system).bind fun r => ?_
    split <;> exact calm_pure _

theorem calm_query (system : SystemAnswer) : (query system files c).Calm := by
  refine (calm_size files c system).bind fun answer => ?_
  split
  · exact .bind (calm_log nofun) fun _ => calm_pure _
  · exact .bind (calm_log nofun) fun _ => calm_pure _

theorem events_query_ne_nil (system : SystemAnswer) : (query system files c).events ≠ [] := by
  rw [query, Logged.events_bind]
  apply List.append_ne_nil_of_right_ne_nil
  split <;> exact List.cons_ne_nil _ _

end HugePage

namespace Native
open Logged
variable {α : Type} {faulty : Nat → Bool} {events before : List Event}

/-! A native logs no error if its host logs none. -/

theorem calm_pageSize {host : Host} (h : host.pageSize.Calm) : (pageSize host).Calm := by
  refine h.bind fun r => ?_
  split
  · exact calm_pure _
  · split
    · exact calm_pure _
    · exact .bind (calm_log nofun) fun _ => calm_pure _

theorem calm_addressSize (host : Host) : (addressSize host).Calm := by
  unfold addressSize
  split
  · exact calm_pure _
  · exact .bind (calm_log nofun) fun _ => calm_pure _

theorem calm_hugePageSize {host : Host} (h : host.hugePageSize.Calm) :
    (hugePageSize host).Calm := by
  refine h.bind fun r => ?_
  split
  · exact calm_pure _
  · exact calm_pure _
  · split
    · exact calm_pure _
    · exact .bind (calm_log nofun) fun _ => calm_pure _

/-! What a fault leaves of the events. -/

theorem beforeFault_eq_none_iff :
    beforeFault faulty events = none ↔ ∀ n < events.length, faulty n = false := by
  induction events generalizing faulty with
  | nil => exact iff_of_true rfl nofun
  | cons e es ih =>
    rw [beforeFault, List.length_cons, Nat.forall_lt_succ_left]
    cases hfirst : faulty 0 with
    | true => exact iff_of_false nofun fun h => nomatch h.1
    | false =>
      rw [if_neg Bool.false_ne_true, Option.map_eq_none_iff, ih]
      exact (and_iff_right rfl).symm

structure FirstFault (faulty : Nat → Bool) (n : Nat) : Prop where
  here : faulty n = true
  notBefore : ∀ i < n, faulty i = false

theorem FirstFault.succ {n : Nat} (hfirst : faulty 0 = false)
    (h : FirstFault (fun i => faulty (i + 1)) n) : FirstFault faulty (n + 1) where
  here := h.here
  notBefore := Nat.forall_lt_succ_left.mpr ⟨hfirst, h.notBefore⟩

theorem exists_firstFault_of_beforeFault (h : beforeFault faulty events = some before) :
    ∃ n < events.length, FirstFault faulty n ∧ before = events.take n := by
  induction events generalizing faulty before with
  | nil => cases h
  | cons e es ih =>
    rw [beforeFault] at h
    cases hfirst : faulty 0 with
    | true =>
      rw [hfirst, if_pos rfl, Option.some.injEq] at h
      exact ⟨0, Nat.succ_pos _, ⟨hfirst, nofun⟩, h.symm⟩
    | false =>
      rw [hfirst, if_neg Bool.false_ne_true, Option.map_eq_some_iff] at h
      obtain ⟨rest, hrest, rfl⟩ := h
      obtain ⟨n, hn, hfault, rfl⟩ := ih hrest
      exact ⟨n + 1, Nat.succ_lt_succ hn, hfault.succ hfirst, rfl⟩

def Strikes (faulty : Nat → Bool) (events : List Event) : Prop :=
  ∃ n < events.length, faulty n = true

theorem not_strikes_iff : ¬Strikes faulty events ↔ beforeFault faulty events = none := by
  rw [beforeFault_eq_none_iff, Strikes]
  simp only [not_exists, not_and, Bool.not_eq_true]

/-- How a call ends under faults, beside the usual call that meets none. -/
structure Contained (faulty : Nat → Bool) (failed : α) (usual call : Logged α) : Prop where
  calm : usual.errors = []
  unharmed : ¬Strikes faulty usual.events → call = usual
  caught : Strikes faulty usual.events → call.value = failed ∧ call.errors = [.fault] ∧
    ∃ n < usual.events.length, FirstFault faulty n ∧
      call.events = usual.events.take n ++ [.fault]

theorem contained_guarded {body : Logged α} (faulty : Nat → Bool) (failed : α) (h : body.Calm) :
    Contained faulty failed (guarded sound failed body) (guarded faulty failed body) := by
  rw [guarded_sound]
  refine ⟨filter_error_eq_nil h, fun hstrikes => ?_, fun hstrikes => ?_⟩
  · rw [guarded, not_strikes_iff.mp hstrikes]
  · cases hbefore : beforeFault faulty body.events with
    | none => exact absurd hstrikes (not_strikes_iff.mpr hbefore)
    | some before =>
      obtain ⟨n, hn, hfault, rfl⟩ := exists_firstFault_of_beforeFault hbefore
      have hcall : guarded faulty failed body = ⟨body.events.take n ++ [.fault], failed⟩ := by
        rw [guarded, hbefore]
      have herrors : (guarded faulty failed body).errors = [.fault] := by
        rw [hcall, errors, List.filter_append,
          filter_error_eq_nil fun e he => h e (List.mem_of_mem_take he)]
        rfl
      exact ⟨congrArg Logged.value hcall, herrors, n, hn, hfault, congrArg Logged.events hcall⟩

theorem guarded_broken {body : Logged α} (failed : α) (h : body.events ≠ []) :
    guarded broken failed body = ⟨[.fault], failed⟩ := by
  obtain ⟨e, es, hevents⟩ := List.exists_cons_of_ne_nil h
  rw [guarded, hevents]
  rfl

/-! The three natives of a library, whatever the system answers. -/

section
variable (faulty : Nat → Bool) (files : Files) (env : Environment) (system : SystemAnswer)

theorem contained_exportedPageSize :
    Contained faulty queryFailed (exportedPageSize sound files system)
      (exportedPageSize faulty files system) :=
  contained_guarded faulty queryFailed (calm_pageSize (PageSize.calm_query system))

theorem contained_exportedAddressSize :
    Contained faulty queryFailed (exportedAddressSize sound files)
      (exportedAddressSize faulty files) :=
  contained_guarded faulty queryFailed (calm_addressSize _)

theorem contained_exportedHugePageSize :
    Contained faulty hugePageQueryFailed (exportedHugePageSize sound files env system)
      (exportedHugePageSize faulty files env system) :=
  contained_guarded faulty hugePageQueryFailed <|
    (Config.calm_ofEnvironment env).bind fun c =>
      calm_hugePageSize (HugePage.calm_query files c system)

theorem events_pageSize_ne_nil {host : Host} (h : host.pageSize.events ≠ []) :
    (pageSize host).events ≠ [] :=
  List.append_ne_nil_of_left_ne_nil h _

theorem events_hugePageSize_ne_nil {host : Host} (h : host.hugePageSize.events ≠ []) :
    (hugePageSize host).events ≠ [] :=
  List.append_ne_nil_of_left_ne_nil h _

theorem events_exportedPageSize_ne_nil : (exportedPageSize sound files system).events ≠ [] := by
  rw [exportedPageSize, guarded_sound]
  exact events_pageSize_ne_nil (PageSize.events_query_ne_nil system)

theorem events_exportedHugePageSize_ne_nil :
    (exportedHugePageSize sound files env system).events ≠ [] := by
  rw [exportedHugePageSize, guarded_sound]
  apply List.append_ne_nil_of_right_ne_nil
  exact events_hugePageSize_ne_nil (HugePage.events_query_ne_nil _ _ system)

theorem exportedPageSize_broken : exportedPageSize broken files system = ⟨[.fault], 0⟩ := by
  have hbody := events_exportedPageSize_ne_nil files system
  rw [exportedPageSize, guarded_sound] at hbody
  exact guarded_broken queryFailed hbody

theorem exportedHugePageSize_broken :
    exportedHugePageSize broken files env system = ⟨[.fault], 0⟩ := by
  have hbody := events_exportedHugePageSize_ne_nil files env system
  rw [exportedHugePageSize, guarded_sound] at hbody
  exact guarded_broken hugePageQueryFailed hbody

/-- Faults of the logger end at the guard of each native, whichever events meet them and whatever
the system answers. -/
theorem exported_contain_faults :
    Contained faulty 0 (exportedPageSize sound files system)
        (exportedPageSize faulty files system) ∧
      Contained faulty 0 (exportedAddressSize sound files) (exportedAddressSize faulty files) ∧
      Contained faulty 0 (exportedHugePageSize sound files env system)
        (exportedHugePageSize faulty files env system) ∧
      (exportedPageSize sound files system).events ≠ [] ∧
      (exportedHugePageSize sound files env system).events ≠ [] ∧
      (exportedAddressSize sound files).events = [] ∧
      exportedPageSize broken files system = ⟨[.fault], 0⟩ ∧
      exportedHugePageSize broken files env system = ⟨[.fault], 0⟩ ∧
      exportedAddressSize broken files = ⟨[], 8⟩ :=
  ⟨contained_exportedPageSize faulty files system, contained_exportedAddressSize faulty files,
    contained_exportedHugePageSize faulty files env system,
    events_exportedPageSize_ne_nil files system,
    events_exportedHugePageSize_ne_nil files env system, rfl,
    exportedPageSize_broken files system, exportedHugePageSize_broken files env system, rfl⟩

end

-- the system does not name its page size, and the logger fails at the warning of that
example : exportedPageSize (· == 0) (fun _ => .error .notFound) (.ok none) = ⟨[.fault], 0⟩ := rfl

-- the logger fails at the second event, and there is no file to read
example : exportedHugePageSize (· == 1) (fun _ => .error .notFound) (fun _ => none) =
    ⟨[.readingMountTable MountTable.defaultPath, .fault], 0⟩ := rfl

end Native
end MemoryProbe
