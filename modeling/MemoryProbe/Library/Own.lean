import MemoryProbe.Library.Basic

/-! The library of this program. It exports its natives under the names of two classes and once more
in a table, and it is asked by name like any other library. -/

namespace MemoryProbe.Library

/-- What the library exports, by the names that stand in it. Each entry is a call of its own. -/
def exports (files : Files) (env : Environment) (system : SystemAnswer) :
    List (Text × Entry) :=
  let pageSize := Native.exportedPageSize Native.sound files system
  let addressSize := Native.exportedAddressSize Native.sound files
  let hugePageSize := Native.exportedHugePageSize Native.sound files env system
  let table : QueryTable := {
    version := tableVersion
    size := tableSize
    results := (Native.results Native.sound files env system).value }
  [("JNI_OnLoad".toList, { word := Native.onLoad.value }),
    ("ixy_memory_query_table".toList, { table := some table }),
    ("Java_de_tum_in_net_ixy_memory_MemoryUtils_c_1pagesize".toList, { word := pageSize.value }),
    ("Java_de_tum_in_net_ixy_memory_MemoryUtils_c_1addrsize".toList,
      { word := addressSize.value }),
    ("Java_de_tum_in_net_ixy_memory_MemoryUtils_c_1hugepage".toList,
      { long := hugePageSize.value }),
    ("Java_de_tum_in_net_ixy_memory_JniMemoryManager_c_1page_1size".toList,
      { word := pageSize.value }),
    ("Java_de_tum_in_net_ixy_memory_JniMemoryManager_c_1address_1size".toList,
      { word := addressSize.value }),
    ("Java_de_tum_in_net_ixy_memory_JniMemoryManager_c_1hugepage_1size".toList,
      { long := hugePageSize.value })]

def own (files : Files) (env : Environment) (system : SystemAnswer := .reference) : Library :=
  ofSymbols (.ofList (exports files env system))

end MemoryProbe.Library
