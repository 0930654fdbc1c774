import MemoryProbe.Native.Sentinel

/-! The natives that a library exports. A fault in the logger must not reach the caller, so each
native runs guarded: a fault ends it at that event, and the failure value takes the place of its
answer. -/

namespace MemoryProbe.Native

def beforeFault (faulty : Nat → Bool) : List Event → Option (List Event)
  | [] => none
  | e :: es =>
    if faulty 0 then some []
    else (beforeFault (fun i => faulty (i + 1)) es).map (e :: ·)

/-- Logger faults are given by the position of the event in the call. -/
def guarded {α : Type} (faulty : Nat → Bool) (failed : α) (body : Logged α) : Logged α :=
  match beforeFault faulty body.events with
  | none => body
  | some events => ⟨events ++ [.fault], failed⟩

def sound : Nat → Bool := fun _ => false

def broken : Nat → Bool := fun _ => true

theorem beforeFault_sound (es : List Event) : beforeFault sound es = none := by
  induction es with
  | nil => rfl
  | cons e es ih => exact congrArg (Option.map (e :: ·)) ih

theorem guarded_sound {α : Type} (failed : α) (body : Logged α) :
    guarded sound failed body = body := by
  rw [guarded, beforeFault_sound]

def jniVersion (minor : Nat) : Int32 := Int32.ofNat (0x10000 + minor)

def onLoad : Logged Int32 := do
  Logged.log .nativesLoaded
  return jniVersion 8

structure Results where
  pageSize : Int32
  addressSize : Int32
  hugePageSize : Int64
deriving DecidableEq, Repr

def exportedPageSize (faulty : Nat → Bool) (files : Files)
    (system : SystemAnswer := .reference) : Logged Int32 :=
  guarded faulty queryFailed (pageSize (.ofConfig files .default system))

def exportedAddressSize (faulty : Nat → Bool) (files : Files) : Logged Int32 :=
  guarded faulty queryFailed (addressSize (.ofConfig files .default))

def exportedHugePageSize (faulty : Nat → Bool) (files : Files) (env : Environment)
    (system : SystemAnswer := .reference) : Logged Int64 :=
  guarded faulty hugePageQueryFailed do
    hugePageSize (.ofConfig files (← Config.ofEnvironment env) system)

def results (faulty : Nat → Bool) (files : Files) (env : Environment)
    (system : SystemAnswer := .reference) : Logged Results := do
  return {
    pageSize := ← exportedPageSize faulty files system
    addressSize := ← exportedAddressSize faulty files
    hugePageSize := ← exportedHugePageSize faulty files env system }

end MemoryProbe.Native
