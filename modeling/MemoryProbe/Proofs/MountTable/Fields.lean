import MemoryProbe.MountTable.Mount
import MemoryProbe.Proofs.Text.Split

/-! The fields of a line are the runs of bytes between its separators, so they can be read off part
by part. A byte written as an escape is read back as itself, and every spelling of a field,
whichever of its bytes are escaped, is read back as the field. -/

namespace MemoryProbe.MountTable

theorem fields_append_cons (a : Bytes) {s : UInt8} (hs : isFieldSeparator s = true) (b : Bytes) :
    fields (a ++ s :: b) = fields a ++ fields b := by
  rw [fields, List.splitOnP_append_cons a b hs, List.filter_append]
  rfl

theorem fields_nil : fields [] = [] := rfl

theorem fields_cons_separator {s : UInt8} (hs : isFieldSeparator s = true) (l : Bytes) :
    fields (s :: l) = fields l := by
  have h := fields_append_cons [] hs l
  rwa [List.nil_append, fields_nil, List.nil_append] at h

theorem fields_separators_append {blank : Bytes} (h : ∀ b ∈ blank, isFieldSeparator b = true)
    (l : Bytes) : fields (blank ++ l) = fields l := by
  induction blank with
  | nil => rfl
  | cons s blank ih =>
    rw [List.cons_append, fields_cons_separator (h s (List.mem_cons_self ..))]
    exact ih fun b hb => h b (List.mem_cons_of_mem _ hb)

theorem fields_separators {blank : Bytes} (h : ∀ b ∈ blank, isFieldSeparator b = true) :
    fields blank = [] := by
  have h := fields_separators_append h []
  rwa [List.append_nil] at h

theorem fields_word {w : Bytes} (hne : w ≠ []) (h : ∀ b ∈ w, isFieldSeparator b = false) :
    fields w = [w] := by
  rw [fields, List.splitOnP_eq_singleton h]
  simp [hne]

theorem fields_word_append {w : Bytes} (hne : w ≠ []) (hw : ∀ b ∈ w, isFieldSeparator b = false)
    {rest : Bytes} (hrest : ∀ b, rest.head? = some b → isFieldSeparator b = true) :
    fields (w ++ rest) = w :: fields rest := by
  match rest with
  | [] => rw [List.append_nil, fields_word hne hw, fields_nil]
  | s :: rest =>
    have hs : isFieldSeparator s = true := hrest s rfl
    rw [fields_append_cons w hs, fields_word hne hw, fields_cons_separator hs]
    rfl

theorem fields_cons_of_not_separator {b : UInt8} (hb : isFieldSeparator b = false) (l : Bytes) :
    ∃ w more, fields (b :: l) = (b :: w) :: more := by
  obtain ⟨first, others, hl⟩ :=
    List.exists_cons_of_ne_nil (List.splitOnP_ne_nil isFieldSeparator l)
  refine ⟨first, others.filter (· != []), ?_⟩
  rw [fields, List.splitOnP_cons_eq_if_modifyHead, hb, hl]
  simp

def octalDigit (n : Nat) : UInt8 := UInt8.ofNat (0x30 + n % 8)

def octalEscape (b : UInt8) : Bytes :=
  [backslash, octalDigit (b.toNat / 64), octalDigit (b.toNat / 8), octalDigit b.toNat]

theorem toNat_octalDigit (n : Nat) : (octalDigit n).toNat = 0x30 + n % 8 := by
  rw [octalDigit, UInt8.toNat_ofNat', Nat.mod_eq_of_lt (by omega)]

theorem octalDigit?_octalDigit (n : Nat) : octalDigit? (octalDigit n) = some (n % 8) := by
  rw [octalDigit?, toNat_octalDigit, if_pos (by omega), Nat.add_sub_cancel_left]

theorem octalByte?_octalEscape (b : UInt8) :
    octalByte? (octalDigit (b.toNat / 64)) (octalDigit (b.toNat / 8)) (octalDigit b.toNat) =
      some b := by
  have hb := b.toNat_lt
  have hv : b.toNat / 64 % 8 * 64 + b.toNat / 8 % 8 * 8 + b.toNat % 8 = b.toNat := by omega
  simp only [octalByte?, octalDigit?_octalDigit, Option.bind_eq_bind, Option.bind_some, hv]
  rw [if_pos (by omega), UInt8.ofNat_toNat]

theorem unescape?_digits {d₁ d₂ d₃ v : UInt8} (h : octalByte? d₁ d₂ d₃ = some v) (w : Bytes) :
    unescape? (backslash :: d₁ :: d₂ :: d₃ :: w) = (unescape? w).map (v :: ·) := by
  simp only [unescape?, if_true, h, Option.bind_eq_bind, Option.bind_some]
  cases unescape? w <;> rfl

theorem unescape?_octalEscape_append (b : UInt8) (w : Bytes) :
    unescape? (octalEscape b ++ w) = (unescape? w).map (b :: ·) :=
  unescape?_digits (octalByte?_octalEscape b) w

theorem unescape?_cons_of_ne {b : UInt8} (hb : b ≠ backslash) (w : Bytes) :
    unescape? (b :: w) = (unescape? w).map (b :: ·) := by
  rw [unescape?.eq_def]
  simp only [hb, if_false]

theorem octalEscape_not_separator (b : UInt8) :
    ∀ x ∈ octalEscape b, isFieldSeparator x = false := by
  have hdigit (n : Nat) : isFieldSeparator (octalDigit n) = false := by
    have hn := toNat_octalDigit n
    simp only [isFieldSeparator, Bool.or_eq_false_iff, beq_eq_false_iff_ne, ne_eq,
      ← UInt8.toNat_inj, hn]
    refine ⟨⟨⟨⟨?_, ?_⟩, ?_⟩, ?_⟩, ?_⟩ <;> simp <;> omega
  simp only [octalEscape, List.mem_cons, List.not_mem_nil, or_false, forall_eq_or_imp, forall_eq]
  exact ⟨rfl, hdigit _, hdigit _, hdigit _⟩

/-- How a field may be written: each byte as itself or escaped, and escaped if it would end the
field or begin an escape. -/
inductive Spelling : Bytes → Bytes → Prop
  | nil : Spelling [] []
  | verbatim {b : UInt8} {field written : Bytes} (hs : isFieldSeparator b = false)
      (hb : b ≠ backslash) (h : Spelling field written) : Spelling (b :: field) (b :: written)
  | escaped {b : UInt8} {field written : Bytes} (h : Spelling field written) :
      Spelling (b :: field) (octalEscape b ++ written)

namespace Spelling
variable {field written : Bytes}

theorem unescape_eq (h : Spelling field written) : unescape? written = some field := by
  induction h with
  | nil => rfl
  | verbatim _ hb _ ih => rw [unescape?_cons_of_ne hb, ih, Option.map_some]
  | escaped _ ih => rw [unescape?_octalEscape_append, ih, Option.map_some]

theorem not_separator (h : Spelling field written) :
    ∀ b ∈ written, isFieldSeparator b = false := by
  induction h with
  | nil => exact fun b hb => nomatch hb
  | verbatim hs _ _ ih =>
    intro b hb
    rcases List.mem_cons.mp hb with rfl | hb
    · exact hs
    · exact ih b hb
  | escaped _ ih =>
    intro b hb
    rcases List.mem_append.mp hb with hb | hb
    · exact octalEscape_not_separator _ b hb
    · exact ih b hb

theorem ne_nil (h : Spelling field written) (hf : field ≠ []) : written ≠ [] := by
  cases h with
  | nil => exact absurd rfl hf
  | verbatim => exact List.cons_ne_nil _ _
  | escaped => exact List.cons_ne_nil _ _

theorem exists_head_ne (field : Bytes) :
    ∃ written, Spelling field written ∧ written.head? ≠ some hash := by
  induction field with
  | nil => exact ⟨[], .nil, nofun⟩
  | cons b field ih =>
    obtain ⟨written, h, -⟩ := ih
    exact ⟨octalEscape b ++ written, .escaped h, fun hb => absurd (Option.some.inj hb) (by decide)⟩

end Spelling
end MemoryProbe.MountTable
