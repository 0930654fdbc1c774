import MemoryProbe.HugePage.Query

/-! A host answers three questions about its memory. What asks them does not know whether the host
is a real one. -/

namespace MemoryProbe

structure Host where
  pageSize : Logged (Except QueryError PageSize)
  /-- The width of an address in bytes. -/
  addressSize : UInt64
  hugePageSize : Logged (Except QueryError HugePageSize)

namespace Host

def referencePageSize : PageSize := ⟨4096, by decide⟩

theorem ofSystem_reference : PageSize.ofSystem .reference = .ok referencePageSize := by rfl

def referenceAddressSize : UInt64 := 8

/-- The host with these files whose system gives this answer. Every question is asked anew. -/
def ofConfig (files : Files) (c : Config) (system : SystemAnswer := .reference) : Host where
  pageSize := PageSize.query system
  addressSize := referenceAddressSize
  hugePageSize := HugePage.query system files c

end Host
end MemoryProbe
