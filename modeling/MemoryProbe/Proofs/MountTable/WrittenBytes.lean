import MemoryProbe.Proofs.MountTable.Fields

/-! The bytes of a field as they are written, each as itself or as an escape. A field can be read
exactly when every backslash in it has the digits of a byte behind it. It is then a list of written
bytes, each of which is read as the byte that it stands for, so that what is read is shorter by three
for every backslash, and a field is read by its parts. -/

namespace MemoryProbe.MountTable
variable {f g r : Bytes} {b : UInt8}

structure ByteDigits where
  high : Fin 4
  middle : Fin 8
  low : Fin 8
deriving DecidableEq, Repr

namespace ByteDigits

def text (d : ByteDigits) : Bytes := [octalDigit d.high, octalDigit d.middle, octalDigit d.low]

def value (d : ByteDigits) : UInt8 :=
  UInt8.ofNatLT (d.high * 64 + d.middle * 8 + d.low) (by rw [UInt8.size]; omega)

end ByteDigits

theorem octalDigit_ne_backslash (n : Nat) : octalDigit n ≠ backslash := by
  intro h
  have hn := congrArg UInt8.toNat h
  rw [toNat_octalDigit] at hn
  have hlt : 0x30 + n % 8 < 0x5c := by omega
  exact absurd (hn ▸ hlt) (by decide)

theorem ByteDigits.backslash_not_mem_text (d : ByteDigits) : backslash ∉ d.text := by
  simp only [text, List.mem_cons, List.not_mem_nil, or_false, not_or]
  exact ⟨(octalDigit_ne_backslash _).symm, (octalDigit_ne_backslash _).symm,
    (octalDigit_ne_backslash _).symm⟩

theorem octalDigit?_eq_some_iff {n : Nat} : octalDigit? b = some n ↔ n < 8 ∧ b = octalDigit n := by
  constructor
  · intro h
    rw [octalDigit?, Option.ite_none_right_eq_some, Option.some.injEq] at h
    obtain ⟨⟨hlow, hhigh⟩, rfl⟩ := h
    refine ⟨by omega, UInt8.toNat_inj.mp ?_⟩
    rw [toNat_octalDigit]
    omega
  · rintro ⟨hn, rfl⟩
    rw [octalDigit?_octalDigit, Nat.mod_eq_of_lt hn]

theorem ite_ofNat_eq_some_iff {n : Nat} {v : UInt8} :
    (if n < 256 then some (UInt8.ofNat n) else none) = some v ↔ v.toNat = n := by
  rw [Option.ite_none_right_eq_some, Option.some.injEq]
  constructor
  · rintro ⟨hn, rfl⟩
    exact UInt8.toNat_ofNat_of_lt' hn
  · rintro rfl
    exact ⟨v.toNat_lt, UInt8.ofNat_toNat⟩

theorem octalByte?_eq_some_iff_toNat {d₁ d₂ d₃ v : UInt8} :
    octalByte? d₁ d₂ d₃ = some v ↔ ∃ x, octalDigit? d₁ = some x ∧ ∃ y, octalDigit? d₂ = some y ∧
      ∃ z, octalDigit? d₃ = some z ∧ v.toNat = x * 64 + y * 8 + z := by
  simp only [octalByte?, Option.bind_eq_bind, Option.bind_eq_some_iff, ite_ofNat_eq_some_iff]

theorem octalByte?_eq_some_iff {d₁ d₂ d₃ v : UInt8} :
    octalByte? d₁ d₂ d₃ = some v ↔ ∃ d : ByteDigits, d.text = [d₁, d₂, d₃] ∧ d.value = v := by
  simp only [octalByte?_eq_some_iff_toNat, octalDigit?_eq_some_iff]
  constructor
  · rintro ⟨x, ⟨hx, rfl⟩, y, ⟨hy, rfl⟩, z, ⟨hz, rfl⟩, hv⟩
    have hlt := v.toNat_lt
    exact ⟨⟨⟨x, by omega⟩, ⟨y, hy⟩, ⟨z, hz⟩⟩, rfl, UInt8.toNat_inj.mp hv.symm⟩
  · rintro ⟨⟨x, y, z⟩, htext, rfl⟩
    simp only [ByteDigits.text, List.cons.injEq, and_true] at htext
    obtain ⟨rfl, rfl, rfl⟩ := htext
    exact ⟨x, ⟨by omega, rfl⟩, y, ⟨y.isLt, rfl⟩, z, ⟨z.isLt, rfl⟩, rfl⟩

-- the digits 400 are worth one more than the largest byte, and are refused
example : octalByte? 0x34 0x30 0x30 = none := by decide

/-! A field as a list of written bytes. -/

inductive WrittenByte
  | plain (b : UInt8) (h : b ≠ backslash)
  | escaped (d : ByteDigits)

namespace WrittenByte

def text : WrittenByte → Bytes
  | plain b _ => [b]
  | escaped d => backslash :: d.text

def byte : WrittenByte → UInt8
  | plain b _ => b
  | escaped d => d.value

theorem unescape?_text_append (p : WrittenByte) (w : Bytes) :
    unescape? (p.text ++ w) = (unescape? w).map (p.byte :: ·) := by
  cases p with
  | plain b h => exact unescape?_cons_of_ne h w
  | escaped d => exact unescape?_digits (octalByte?_eq_some_iff.mpr ⟨d, rfl, rfl⟩) w

theorem length_text (p : WrittenByte) : p.text.length = 1 + 3 * p.text.count backslash := by
  cases p with
  | plain b h =>
    rw [text, List.count_eq_zero_of_not_mem (mt List.mem_singleton.mp h.symm)]
    rfl
  | escaped d =>
    rw [text, List.count_cons_self, List.count_eq_zero_of_not_mem d.backslash_not_mem_text]
    rfl

end WrittenByte

theorem unescape?_flatMap_text_append (ps : List WrittenByte) (w : Bytes) :
    unescape? (ps.flatMap WrittenByte.text ++ w) =
      (unescape? w).map (ps.map WrittenByte.byte ++ ·) := by
  induction ps with
  | nil => simp
  | cons p ps ih =>
    rw [List.flatMap_cons, List.append_assoc, WrittenByte.unescape?_text_append, ih,
      Option.map_map]
    rfl

theorem exists_writtenBytes (h : unescape? f = some r) :
    ∃ ps : List WrittenByte, ps.flatMap WrittenByte.text = f ∧ ps.map WrittenByte.byte = r := by
  fun_induction unescape? f generalizing r with
  | case1 => exact ⟨[], rfl, Option.some.inj h⟩
  | case2 d₁ d₂ d₃ rest ih =>
    simp only [Option.bind_eq_bind, Option.bind_eq_some_iff, Option.pure_def,
      Option.some.injEq] at h
    obtain ⟨v, hv, s, hs, rfl⟩ := h
    obtain ⟨d, htext, rfl⟩ := octalByte?_eq_some_iff.mp hv
    obtain ⟨ps, rfl, rfl⟩ := ih hs
    refine ⟨.escaped d :: ps, ?_, rfl⟩
    rw [List.flatMap_cons, WrittenByte.text, htext]
    rfl
  | case3 => exact nomatch h
  | case4 b rest hb ih =>
    obtain ⟨s, hs, rfl⟩ := Option.map_eq_some_iff.mp h
    obtain ⟨ps, rfl, rfl⟩ := ih hs
    exact ⟨.plain b hb :: ps, rfl, rfl⟩

theorem unescape?_eq_some_iff : unescape? f = some r ↔
    ∃ ps : List WrittenByte, ps.flatMap WrittenByte.text = f ∧ ps.map WrittenByte.byte = r := by
  constructor
  · exact exists_writtenBytes
  · rintro ⟨ps, rfl, rfl⟩
    have h := unescape?_flatMap_text_append ps []
    rwa [List.append_nil, unescape?, Option.map_some, List.append_nil] at h

theorem unescape?_append (h : unescape? f = some r) (g : Bytes) :
    unescape? (f ++ g) = (unescape? g).map (r ++ ·) := by
  obtain ⟨ps, rfl, rfl⟩ := exists_writtenBytes h
  exact unescape?_flatMap_text_append ps g

theorem length_flatMap_text (ps : List WrittenByte) : (ps.flatMap WrittenByte.text).length =
    ps.length + 3 * (ps.flatMap WrittenByte.text).count backslash := by
  induction ps with
  | nil => rfl
  | cons p ps ih =>
    have hp := p.length_text
    simp only [List.flatMap_cons, List.count_append, List.length_append, List.length_cons]
    omega

theorem length_of_unescape? (h : unescape? f = some r) :
    r.length + 3 * f.count backslash = f.length := by
  obtain ⟨ps, rfl, rfl⟩ := exists_writtenBytes h
  rw [List.length_map, length_flatMap_text]

/-! The backslashes of a field. -/

/-- Every backslash, wherever it stands, has the digits of a byte directly behind it. -/
def WellEscaped (f : Bytes) : Prop :=
  ∀ before after, f = before ++ backslash :: after → ∃ d : ByteDigits, d.text <+: after

theorem WellEscaped.of_append (h : WellEscaped (f ++ g)) : WellEscaped g := by
  rintro before after rfl
  exact h (f ++ before) after (List.append_assoc ..).symm

theorem wellEscaped_append_of_not_mem (hf : backslash ∉ f) (hg : WellEscaped g) :
    WellEscaped (f ++ g) := by
  intro before after h
  rcases List.append_eq_append_iff.mp h with ⟨between, rfl, rfl⟩ | ⟨between, rfl, hafter⟩
  · exact hg between after rfl
  · cases between with
    | nil => exact hg [] after hafter.symm
    | cons b between =>
      obtain ⟨rfl, -⟩ := List.cons.inj hafter
      exact absurd (List.mem_append_right _ (List.mem_cons_self ..)) hf

theorem wellEscaped_flatMap_text (ps : List WrittenByte) :
    WellEscaped (ps.flatMap WrittenByte.text) := by
  induction ps with
  | nil => exact fun before after h => nomatch List.append_eq_nil_iff.mp h.symm
  | cons p ps ih =>
    cases p with
    | plain b hb => exact wellEscaped_append_of_not_mem (mt List.mem_singleton.mp (Ne.symm hb)) ih
    | escaped d =>
      have hrest := wellEscaped_append_of_not_mem d.backslash_not_mem_text ih
      intro before after h
      cases before with
      | nil =>
        obtain ⟨-, rfl⟩ := List.cons.inj h
        exact ⟨d, List.prefix_append ..⟩
      | cons b before =>
        obtain ⟨-, h⟩ := List.cons.inj h
        exact hrest before after h

theorem WellEscaped.isSome_unescape? (h : WellEscaped f) : (unescape? f).isSome := by
  fun_induction unescape? f with
  | case1 => rfl
  | case2 d₁ d₂ d₃ rest ih =>
    obtain ⟨d, after, hd⟩ := h [] _ rfl
    have hd : d.text ++ after = [d₁, d₂, d₃] ++ rest := hd
    have htext := (List.append_inj hd rfl).1
    have hvalue := octalByte?_eq_some_iff.mpr ⟨d, htext, rfl⟩
    have hrest : WellEscaped rest := WellEscaped.of_append (f := [backslash, d₁, d₂, d₃]) h
    obtain ⟨s, hs⟩ := Option.isSome_iff_exists.mp (ih hrest)
    rw [hvalue, hs]
    rfl
  | case3 rest hshort =>
    obtain ⟨d, after, hd⟩ := h [] _ rfl
    exact (hshort _ _ _ _ hd.symm).elim
  | case4 b rest hb ih =>
    rw [Option.isSome_map]
    exact ih (WellEscaped.of_append (f := [b]) h)

theorem wellEscaped_of_unescape? (h : unescape? f = some r) : WellEscaped f := by
  obtain ⟨ps, rfl, -⟩ := exists_writtenBytes h
  exact wellEscaped_flatMap_text ps

theorem isSome_unescape?_iff : (unescape? f).isSome ↔ WellEscaped f := by
  refine ⟨fun h => ?_, WellEscaped.isSome_unescape?⟩
  obtain ⟨r, hr⟩ := Option.isSome_iff_exists.mp h
  exact wellEscaped_of_unescape? hr

end MemoryProbe.MountTable
