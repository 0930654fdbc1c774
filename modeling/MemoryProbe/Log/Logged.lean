import MemoryProbe.Log.Event

/-! A computation that logs is its value with the events in the order in which they are logged. -/

namespace MemoryProbe

structure Logged (α : Type) where
  events : List Event
  value : α

namespace Logged
variable {α β : Type}

instance : Monad Logged where
  pure a := ⟨[], a⟩
  bind x f := ⟨x.events ++ (f x.value).events, (f x.value).value⟩

def log (e : Event) : Logged Unit := ⟨[e], ()⟩

def logAll (es : List Event) : Logged Unit := ⟨es, ()⟩

def notices (x : Logged α) : List Event := x.events.filter Event.isNotice

@[simp] theorem events_pure (a : α) : (pure a : Logged α).events = [] := rfl
@[simp] theorem value_pure (a : α) : (pure a : Logged α).value = a := rfl
@[simp] theorem events_bind (x : Logged α) (f : α → Logged β) :
    (x >>= f).events = x.events ++ (f x.value).events := rfl
@[simp] theorem value_bind (x : Logged α) (f : α → Logged β) :
    (x >>= f).value = (f x.value).value := rfl
@[simp] theorem events_log (e : Event) : (log e).events = [e] := rfl
@[simp] theorem value_log (e : Event) : (log e).value = () := rfl
@[simp] theorem events_logAll (es : List Event) : (logAll es).events = es := rfl
@[simp] theorem value_logAll (es : List Event) : (logAll es).value = () := rfl

@[simp] theorem notices_pure (a : α) : (pure a : Logged α).notices = [] := rfl

@[simp] theorem notices_bind (x : Logged α) (f : α → Logged β) :
    (x >>= f).notices = x.notices ++ (f x.value).notices := List.filter_append ..

@[simp] theorem notices_log (e : Event) :
    (log e).notices = if e.isNotice then [e] else [] := List.filter_cons

theorem notices_logAll {es : List Event} (h : ∀ e ∈ es, e.isNotice = true) :
    (logAll es).notices = es := List.filter_eq_self.mpr h

instance : LawfulMonad Logged :=
  LawfulMonad.mk' Logged (fun x => by cases x; simp [Functor.map])
    (fun a f => by simp [bind, pure]) (fun x f g => by simp [bind, List.append_assoc])

end Logged
end MemoryProbe
