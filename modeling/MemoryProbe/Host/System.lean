import MemoryProbe.Log.Logged

/-! What the system says when it is asked for its page size, and the page size that is made of it. -/

namespace MemoryProbe

/-- A number, none where the system has no page size to tell, or why it refuses. -/
abbrev SystemAnswer := Except SystemRefusal (Option Int64)

def SystemAnswer.reference : SystemAnswer := .ok (some 4096)

namespace PageSize

def ofSystem : SystemAnswer → Except QueryError PageSize
  | .ok (some bytes) => ofInt64 bytes
  | .ok none => .error .pageSizeUndefined
  | .error cause => .error (.pageSizeRefused cause)

def query (system : SystemAnswer) : Logged (Except QueryError PageSize) := do
  let answer := ofSystem system
  match answer with
  | .ok page => Logged.log (.pageSize page)
  | .error cause => Logged.log (.pageSizeFailed cause)
  return answer

@[simp] theorem value_query (system : SystemAnswer) : (query system).value = ofSystem system := by
  unfold query
  cases ofSystem system <;> rfl

theorem events_query (system : SystemAnswer) : (query system).events =
    match ofSystem system with
    | .ok page => [.pageSize page]
    | .error cause => [.pageSizeFailed cause] := by
  unfold query
  cases ofSystem system <;> rfl

end PageSize
end MemoryProbe
