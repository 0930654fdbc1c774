import MemoryProbe.Proofs.CommandLine.Reading
import MemoryProbe.Proofs.HugePage.Sources
import MemoryProbe.Proofs.Library.Own
import MemoryProbe.Proofs.Native.SizeGates
import MemoryProbe.Proofs.Report.Lines

/-! The same settings with each of the bindings. The three bindings of the library of this program
find what they ask for and have the same outcome. Asking the host directly tells in addition why there
are no huge pages, and it names the one size that a query can give and a signed answer cannot. -/

namespace MemoryProbe

namespace Report
variable {what : Quantity} {given : Except Failure UInt64} {r : Report}

/-! A report whose sizes a positive answer can name is narrowed in what it tells of huge pages
alone. -/

end Report

namespace CommandLine
open Report

def pageSizeText (system : SystemAnswer) : Text :=
  match PageSize.ofSystem system with
  | .ok page => page.text
  | .error _ => "failed".toList

def reportText (system : SystemAnswer) (hugePages : Text) : Text :=
  line .pageSize (pageSizeText system) ++ line .addressSize "8".toList ++
    line .hugePageSize hugePages

/-- A page size that the system names fits a C `int`, the type in which `getpagesize` gives it. -/
def NamesInt (system : SystemAnswer) : Prop :=
  ∀ bytes, system = .ok (some bytes) → bytes.toInt < 2 ^ 31

theorem NamesInt.toNat_lt {system : SystemAnswer} {page : PageSize} (h : NamesInt system)
    (hpage : PageSize.ofSystem system = .ok page) : page.bytes.toNat < 2 ^ 31 := by
  match system with
  | .error cause => exact nomatch hpage
  | .ok none => exact nomatch hpage
  | .ok (some bytes) =>
    have hbytes := PageSize.ofInt64_eq_ok_iff.mp hpage
    have hlt := h bytes rfl
    omega

variable (s : Setting) (a : Arguments)

def answer : Except QueryError HugePageSize :=
  (HugePage.query s.system s.files (Config.ofEnvironment (a.exportTo s.env)).value).value

def directReport : Report where
  pageSize := ((PageSize.ofSystem s.system).map PageSize.bytes).mapError Failure.query
  addressSize := .ok Host.referenceAddressSize
  hugePageSize := hugePagesOfAnswer (answer s a)

theorem value_ofEnvironment :
    (Report.ofEnvironment s.files (a.exportTo s.env) s.system).value = directReport s a := by
  have hpage : (Host.ofConfig s.files (Config.ofEnvironment (a.exportTo s.env)).value
      s.system).pageSize.value = PageSize.ofSystem s.system := PageSize.value_query s.system
  rw [directReport, ← hpage]
  rfl

theorem execute_direct : execute s (a.withBinding .direct) = .ofReport (directReport s a) := by
  rw [← value_ofEnvironment]
  rfl

def OpensOwn : Prop := openLibrary s a = .ok .own

theorem queryLibrary_own (files : Files) (env : Environment) (system : SystemAnswer) (b : Binding) :
    queryLibrary (Library.own files env system) b =
      .ok (Native.results Native.sound files env system).value := by
  cases b with
  | table => exact Library.queryTable_own files env system
  | jniLegacy => exact Library.queryNatives_own files env system .jniMemoryManager
  | jni | direct => exact Library.queryNatives_own files env system .memoryUtils

section
variable {s : Setting} {a : Arguments} {b : Binding}

theorem report_library (h : OpensOwn s a) (hb : b ≠ .direct) :
    report s (a.withBinding b) = .ok (directReport s a).narrow := by
  have hreport : report s (a.withBinding b) = (do
      let image ← openLibrary s a
      return .ofResults
        (← queryLibrary (Library.ofImage s.files (a.exportTo s.env) image s.system) b)) := by
    cases b with
    | direct => exact absurd rfl hb
    | jni | jniLegacy | table => rfl
  have hown : queryLibrary (Library.ofImage s.files (a.exportTo s.env) .own s.system) b = _ :=
    queryLibrary_own s.files (a.exportTo s.env) s.system b
  have hnarrow := ofResults_results s.files (a.exportTo s.env) s.system
  rw [value_ofEnvironment] at hnarrow
  rw [hreport, h, ← hnarrow]
  show (do return ofResults (← queryLibrary (Library.ofImage _ _ _ _) b)) = _
  rw [hown]
  rfl

theorem execute_library (h : OpensOwn s a) (hb : b ≠ .direct) :
    execute s (a.withBinding b) = .ofReport (directReport s a).narrow := by
  rw [execute, report_library h hb]

/-! The direct report and the narrowed one. -/

theorem shown_directReport (s : Setting) (a : Arguments) :
    (directReport s a).shown .pageSize = pageSizeText s.system := by
  show sizeText (((PageSize.ofSystem s.system).map PageSize.bytes).mapError Failure.query) = _
  unfold pageSizeText
  cases PageSize.ofSystem s.system <;> rfl

theorem output_direct (s : Setting) (a : Arguments) :
    (execute s (a.withBinding .direct)).output =
      reportText s.system (hugePagesOfAnswer (answer s a)).text := by
  rw [execute_direct, output_ofReport, reportText, ← shown_directReport s a]
  rfl

theorem execute_library_of_wide_page {page : PageSize} (h : OpensOwn s a) (hb : b ≠ .direct)
    (hpage : PageSize.ofSystem s.system = .ok page) (hwide : 2 ^ 31 ≤ page.bytes.toNat) :
    line .pageSize "failed".toList <+: (execute s (a.withBinding b)).output ∧
      (execute s (a.withBinding b)).status = 1 ∧
      line .pageSize page.text <+: (execute s (a.withBinding .direct)).output := by
  have hnarrow : (directReport s a).narrow.pageSize = .error (.queryFailed .pageSize) := by
    rw [narrow, directReport, hpage]
    exact if_neg fun hfits => Nat.not_lt.mpr hwide hfits.2
  have htext : pageSizeText s.system = page.text := by
    rw [pageSizeText, hpage]
  rw [output_direct, reportText, htext, execute_library h hb, output_ofReport, text, hnarrow,
    List.append_assoc, List.append_assoc]
  refine ⟨List.prefix_append .., status_ofReport_of_failure (?_ : failuresOf _ .pageSize ≠ []),
    List.prefix_append ..⟩
  rw [failuresOf, hnarrow]
  exact List.cons_ne_nil _ _

end

theorem run_flag (s : Setting) (before after : List Text) (joined : Bool) (b b' : Binding) :
    run s (before ++ (b.flag joined ++ after)) =
      match Arguments.parse s.env (before ++ (b'.flag joined ++ after)) with
      | .error refusal => .ofRefusal refusal
      | .ok a => execute s (a.withBinding b) := by
  rw [run, Arguments.parse_flag s.env before after joined b b']
  cases Arguments.parse s.env (before ++ (b'.flag joined ++ after)) <;> rfl

end CommandLine
end MemoryProbe
