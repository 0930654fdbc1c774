import Mathlib.Data.List.Basic
import Mathlib.Logic.Function.Iterate
import MemoryProbe.Proofs.MountTable.WrittenBytes

/-! A field read by index. The scan goes over the field from its start, one byte or one escape at a
time, and adds the digits of an escape up in the arithmetic of bytes. It never goes beyond the end,
what it has put out is what the bytes before its index stand for, and it ends with the reading of
the whole field. -/

namespace MemoryProbe.MountTable
variable {f : Bytes} {n start next : Nat} {out : Bytes} {d₁ d₂ d₃ v : UInt8}

def checkedByte? (n : Nat) : Option UInt8 := if n < 256 then some (UInt8.ofNat n) else none

def pushDigit? (acc digit : UInt8) : Option UInt8 := do
  let n ← octalDigit? digit
  let shifted ← checkedByte? (acc.toNat * 8)
  checkedByte? (shifted.toNat + n)

def threeAt? (f : Bytes) (start : Nat) : Option Bytes :=
  if start + 3 ≤ f.length then some ((f.drop start).take 3) else none

def digitsAt? (f : Bytes) (start : Nat) : Option UInt8 :=
  (threeAt? f start).bind fun digits => digits.foldlM pushDigit? 0

/-- Where a scan stands: before the byte at an index with some bytes put out, at its end, or at an
index where it reads a byte that the field does not have. -/
inductive Scan
  | running (next : Nat) (out : Bytes)
  | finished (result : Option Bytes)
  | overrun
deriving DecidableEq, Repr

namespace Scan

def step (f : Bytes) : Scan → Scan
  | running next out =>
    if next < f.length then
      -- this read relies on the test before it, that of the digits asks whether they are there
      match f[next]? with
      | none => overrun
      | some b =>
        if b = backslash then
          match digitsAt? f (next + 1) with
          | none => finished none
          | some v => running (next + 4) (out ++ [v])
        else running (next + 1) (out ++ [b])
    else finished (some out)
  | s => s

def run (f : Bytes) (n : Nat) : Scan := (step f)^[n] (running 0 [])

end Scan

theorem exists_toNat_eq (hn : n < 256) : ∃ v : UInt8, v.toNat = n :=
  ⟨UInt8.ofNat n, UInt8.toNat_ofNat_of_lt' hn⟩

theorem checkedByte?_eq_some_iff : checkedByte? n = some v ↔ v.toNat = n := ite_ofNat_eq_some_iff

theorem pushDigit?_eq_some_iff {acc digit : UInt8} : pushDigit? acc digit = some v ↔
    ∃ n, octalDigit? digit = some n ∧ v.toNat = acc.toNat * 8 + n := by
  simp only [pushDigit?, Option.bind_eq_bind, Option.bind_eq_some_iff, checkedByte?_eq_some_iff]
  constructor
  · rintro ⟨n, hn, shifted, hshifted, hv⟩
    exact ⟨n, hn, by omega⟩
  · rintro ⟨n, hn, hv⟩
    have hlt := v.toNat_lt
    obtain ⟨shifted, hshifted⟩ := exists_toNat_eq (n := acc.toNat * 8) (by omega)
    exact ⟨n, hn, shifted, hshifted, by omega⟩

theorem foldlM_pushDigit?_eq_some_iff :
    [d₁, d₂, d₃].foldlM pushDigit? 0 = some v ↔ octalByte? d₁ d₂ d₃ = some v := by
  simp only [List.foldlM_cons, List.foldlM_nil, Option.bind_eq_bind, Option.bind_eq_some_iff,
    Option.pure_def, Option.some.injEq, pushDigit?_eq_some_iff, octalByte?_eq_some_iff_toNat,
    UInt8.toNat_zero]
  constructor
  · rintro ⟨a, ⟨x, hx, ha⟩, b, ⟨y, hy, hb⟩, c, ⟨z, hz, hc⟩, rfl⟩
    exact ⟨x, hx, y, hy, z, hz, by omega⟩
  · rintro ⟨x, hx, y, hy, z, hz, hv⟩
    -- the sum of all digits fits, so the sums before it do
    have hlt := v.toNat_lt
    obtain ⟨a, ha⟩ := exists_toNat_eq (n := x) (by omega)
    obtain ⟨b, hb⟩ := exists_toNat_eq (n := x * 8 + y) (by omega)
    exact ⟨a, ⟨x, hx, by omega⟩, b, ⟨y, hy, by omega⟩, v, ⟨z, hz, by omega⟩, rfl⟩

theorem threeAt?_eq_some_iff {w : Bytes} :
    threeAt? f start = some w ↔ w.length = 3 ∧ w <+: f.drop start := by
  rw [threeAt?, Option.ite_none_right_eq_some, Option.some.injEq]
  constructor
  · rintro ⟨hlen, rfl⟩
    refine ⟨?_, List.take_prefix ..⟩
    rw [List.length_take, List.length_drop]
    omega
  · rintro ⟨hlen, hw⟩
    have hle := hw.length_le
    rw [List.length_drop] at hle
    refine ⟨by omega, ?_⟩
    rw [← hlen]
    exact (List.prefix_iff_eq_take.mp hw).symm

theorem digitsAt?_eq_some_iff :
    digitsAt? f start = some v ↔ ∃ d : ByteDigits, d.text <+: f.drop start ∧ d.value = v := by
  simp only [digitsAt?, Option.bind_eq_some_iff, threeAt?_eq_some_iff]
  constructor
  · rintro ⟨w, ⟨hlen, hw⟩, hv⟩
    obtain ⟨d₁, d₂, d₃, rfl⟩ := List.length_eq_three.mp hlen
    obtain ⟨d, htext, hvalue⟩ := octalByte?_eq_some_iff.mp (foldlM_pushDigit?_eq_some_iff.mp hv)
    exact ⟨d, htext ▸ hw, hvalue⟩
  · rintro ⟨d, hd, hvalue⟩
    exact ⟨d.text, ⟨rfl, hd⟩,
      foldlM_pushDigit?_eq_some_iff.mpr (octalByte?_eq_some_iff.mpr ⟨d, rfl, hvalue⟩)⟩

namespace Scan

def Sound (f : Bytes) : Scan → Prop
  | running next out => next ≤ f.length ∧ unescape? (f.take next) = some out
  | finished result => result = unescape? f
  | overrun => False

theorem Sound.advance {p : WrittenByte} (h : Sound f (running next out))
    (hp : p.text <+: f.drop next) : Sound f (running (next + p.text.length) (out ++ [p.byte])) := by
  have hle := hp.length_le
  rw [List.length_drop] at hle
  refine ⟨by have := h.1; omega, ?_⟩
  have hbyte : unescape? p.text = some [p.byte] := by
    have h := p.unescape?_text_append []
    rwa [List.append_nil] at h
  rw [List.take_add, ← List.prefix_iff_eq_take.mp hp, unescape?_append h.2, hbyte]
  rfl

theorem step_running (f : Bytes) (next : Nat) (out : Bytes) :
    (f.length ≤ next ∧ step f (running next out) = finished (some out)) ∨
      (∃ p : WrittenByte, p.text <+: f.drop next ∧
        step f (running next out) = running (next + p.text.length) (out ++ [p.byte])) ∨
      ∃ after, f.drop next = backslash :: after ∧ (∀ d : ByteDigits, ¬d.text <+: after) ∧
        step f (running next out) = finished none := by
  by_cases hlt : next < f.length
  case neg => exact .inl ⟨Nat.not_lt.mp hlt, by rw [step, if_neg hlt]⟩
  right
  have hdrop : f.drop next = f[next] :: f.drop (next + 1) := List.drop_eq_getElem_cons hlt
  rw [hdrop, step, if_pos hlt, List.getElem?_eq_getElem hlt]
  by_cases hb : f[next] = backslash
  · simp only [if_pos hb]
    rw [hb]
    cases hv : digitsAt? f (next + 1) with
    | some v =>
      obtain ⟨d, hd, rfl⟩ := digitsAt?_eq_some_iff.mp hv
      exact .inl ⟨.escaped d, List.cons_prefix_cons.mpr ⟨rfl, hd⟩, rfl⟩
    | none =>
      refine .inr ⟨_, rfl, fun d hd => ?_, rfl⟩
      exact nomatch hv.symm.trans (digitsAt?_eq_some_iff.mpr ⟨d, hd, rfl⟩)
  · simp only [if_neg hb]
    exact .inl ⟨.plain f[next] hb, List.cons_prefix_cons.mpr ⟨rfl, List.nil_prefix⟩, rfl⟩

theorem Sound.step {s : Scan} (h : Sound f s) : Sound f (s.step f) := by
  cases s with
  | finished result => exact h
  | overrun => exact h
  | running next out =>
    rcases step_running f next out with ⟨hle, hs⟩ | ⟨p, hp, hs⟩ | ⟨after, hdrop, hdigits, hs⟩
    · have hall : f.take next = f := List.take_of_length_le hle
      rw [hs]
      exact (hall ▸ h.2).symm
    · rw [hs]
      exact h.advance hp
    · rw [hs]
      refine (Option.eq_none_iff_forall_ne_some.mpr fun r hr => ?_).symm
      have hf : f = f.take next ++ backslash :: after := by rw [← hdrop, List.take_append_drop]
      obtain ⟨d, hd⟩ := wellEscaped_of_unescape? hr _ _ hf
      exact hdigits d hd

theorem lt_of_step_eq_running {s : Scan} (h : s.step f = running next out) :
    ∃ before out', s = running before out' ∧ before < next := by
  cases s with
  | finished result => exact nomatch h
  | overrun => exact nomatch h
  | running before out' =>
    refine ⟨before, out', rfl, ?_⟩
    rcases step_running f before out' with ⟨-, hs⟩ | ⟨p, -, hs⟩ | ⟨after, -, -, hs⟩
    · exact nomatch h.symm.trans hs
    · obtain ⟨rfl, -⟩ := running.inj (h.symm.trans hs)
      rw [p.length_text]
      omega
    · exact nomatch h.symm.trans hs

theorem run_succ (f : Bytes) (n : Nat) : run f (n + 1) = (run f n).step f :=
  Function.iterate_succ_apply' ..

theorem sound_run (f : Bytes) (n : Nat) : Sound f (run f n) := by
  induction n with
  | zero => exact ⟨Nat.zero_le _, rfl⟩
  | succ n ih =>
    rw [run_succ]
    exact ih.step

theorem le_of_run_eq_running (h : run f n = running next out) : n ≤ next := by
  induction n generalizing next out with
  | zero => exact Nat.zero_le _
  | succ n ih =>
    rw [run_succ] at h
    obtain ⟨before, out', hs, hlt⟩ := lt_of_step_eq_running h
    have hle := ih hs
    omega

theorem run_eq_finished (h : f.length < n) : run f n = finished (unescape? f) := by
  have hsound := sound_run f n
  cases hs : run f n with
  | running next out =>
    rw [hs] at hsound
    have hle := le_of_run_eq_running hs
    have hnext : next ≤ f.length := hsound.1
    omega
  | finished result =>
    rw [hs] at hsound
    exact congrArg finished hsound
  | overrun =>
    rw [hs] at hsound
    exact hsound.elim

theorem run_ne_overrun (f : Bytes) (n : Nat) : run f n ≠ overrun := fun h => by
  have hsound := sound_run f n
  rwa [h] at hsound

end Scan

/-- A field can be read exactly when each of its backslashes is followed by the digits of a byte. The
scan stays in the field and ends with its reading. The reading has the bytes that the field has
written bytes for, in their order, and is shorter by three for each backslash, and two fields one
behind the other are read as their readings one behind the other. -/
theorem unescape?_replaces_escapes :
    (∀ f, (unescape? f).isSome ↔ WellEscaped f) ∧
      (∀ f n, Scan.run f n ≠ .overrun ∧
        (∀ next out, Scan.run f n = .running next out →
          n ≤ next ∧ next ≤ f.length ∧ unescape? (f.take next) = some out) ∧
        (f.length < n → Scan.run f n = .finished (unescape? f))) ∧
      (∀ f r, unescape? f = some r ↔
        ∃ ps : List WrittenByte, ps.flatMap WrittenByte.text = f ∧ ps.map WrittenByte.byte = r) ∧
      (∀ f r, unescape? f = some r → r.length + 3 * f.count backslash = f.length) ∧
      ∀ f g r s, unescape? f = some r → unescape? g = some s →
        unescape? (f ++ g) = some (r ++ s) := by
  refine ⟨fun f => isSome_unescape?_iff, fun f n => ⟨Scan.run_ne_overrun f n, ?_, ?_⟩,
    fun f r => unescape?_eq_some_iff, fun f r => length_of_unescape?, ?_⟩
  · intro next out h
    have hsound := Scan.sound_run f n
    rw [h] at hsound
    exact ⟨Scan.le_of_run_eq_running h, hsound⟩
  · exact Scan.run_eq_finished
  · intro f g r s hf hg
    rw [unescape?_append hf, hg]
    rfl

theorem unescape?_replaces_escapes_escaped_backslash :
    let f : Bytes := [0x61, 0x5c, 0x31, 0x33, 0x34]
    let g : Bytes := [0x30, 0x34, 0x30, 0x5c, 0x33, 0x37, 0x37]
    let r : Bytes := [0x61, 0x5c]
    let s : Bytes := [0x30, 0x34, 0x30, 0xff]
    unescape? f = some r ∧ unescape? g = some s ∧ r.length + 3 * f.count backslash = f.length ∧
      Scan.run f 2 = .running 5 r ∧ (2 ≤ 5 ∧ 5 ≤ f.length ∧ unescape? (f.take 5) = some r) ∧
      f.length < 6 ∧ Scan.run f 6 = .finished (unescape? f) ∧
      unescape? (f ++ g) = some (r ++ s) := by
  intro f g r s
  obtain ⟨-, hscan, -, hlength, happend⟩ := unescape?_replaces_escapes
  have hf : unescape? f = some r := by decide
  have hg : unescape? g = some s := by decide
  have hrun : Scan.run f 2 = .running 5 r := by decide
  have hlt : f.length < 6 := by decide
  exact ⟨hf, hg, hlength f r hf, hrun, (hscan f 2).2.1 5 r hrun, hlt, (hscan f 6).2.2 hlt,
    happend f g r s hf hg⟩

end MemoryProbe.MountTable
