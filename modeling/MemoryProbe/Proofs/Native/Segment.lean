import MemoryProbe.Proofs.Native.Symbol
import MemoryProbe.Proofs.Text.Utf8

/-! A whole segment of a symbol read back. Every character has a spelling in UTF-16 units, and the
letters and digits and the three characters with marks of their own have a short one besides. What is
read is a run of such spellings, so escaping is reversible, and a segment is what escaping makes of
the name that it spells if no character is spelled longer than it needs to be. -/

namespace MemoryProbe.Native
variable {t rest : Text} {c : Char}

def NeedsUnits (c : Char) : Prop := c.isAlphanum = false ∧ c ∉ ['_', ';', '[']

instance : DecidablePred NeedsUnits := fun _ => inferInstanceAs (Decidable (_ ∧ _))

def escapeUnits (c : Char) : Text := (utf16Units c).flatMap escapeUnit

theorem escapeSymbolChar_of_needsUnits (h : NeedsUnits c) : escapeSymbolChar c = escapeUnits c := by
  obtain ⟨halnum, hmarks⟩ := h
  simp only [List.mem_cons, List.not_mem_nil, or_false, not_or] at hmarks
  rw [escapeSymbolChar, if_neg hmarks.1, if_neg hmarks.2.1, if_neg hmarks.2.2, halnum]
  rfl

theorem ne_of_isAlphanum {d : Char} (h : c.isAlphanum = true) (hd : d.isAlphanum = false) :
    c ≠ d := by
  rintro rfl
  exact Bool.false_ne_true (hd.symm.trans h)

theorem escapeSymbolChar_of_isAlphanum (h : c.isAlphanum = true) : escapeSymbolChar c = [c] := by
  rw [escapeSymbolChar, if_neg (ne_of_isAlphanum h rfl), if_neg (ne_of_isAlphanum h rfl),
    if_neg (ne_of_isAlphanum h rfl), if_pos h]

theorem escapeSymbolChar_of_not_needsUnits (h : ¬NeedsUnits c) :
    c.isAlphanum = true ∧ escapeSymbolChar c = [c] ∨
      ∃ mark ∈ ['1', '2', '3'], escapeSymbolChar c = ['_', mark] := by
  by_cases hmarks : c ∈ ['_', ';', '[']
  · right
    simp only [List.mem_cons, List.not_mem_nil, or_false] at hmarks
    rcases hmarks with rfl | rfl | rfl
    · exact ⟨'1', by decide, rfl⟩
    · exact ⟨'2', by decide, rfl⟩
    · exact ⟨'3', by decide, rfl⟩
  · have halnum : c.isAlphanum = true := Bool.of_not_eq_false fun hc => h ⟨hc, hmarks⟩
    exact .inl ⟨halnum, escapeSymbolChar_of_isAlphanum halnum⟩

/-! From a reading back to the spelling that was read. -/

theorem toNat_digitChar : ∀ n < 16,
    (Nat.digitChar n).toNat = if n < 10 then n + 0x30 else n + 0x57 := by decide

theorem eq_digitChar_of_hexDigit? {n : Nat} (h : hexDigit? c = some n) :
    n < 16 ∧ c = Nat.digitChar n := by
  unfold hexDigit? at h
  split at h
  · next hc =>
    obtain rfl := Option.some.inj h
    refine ⟨by omega, Char.toNat_inj.mp ?_⟩
    rw [toNat_digitChar _ (by omega), if_pos (by omega)]
    omega
  · split at h
    · next hc =>
      obtain rfl := Option.some.inj h
      refine ⟨by omega, Char.toNat_inj.mp ?_⟩
      rw [toNat_digitChar _ (by omega), if_neg (by omega)]
      omega
    · exact nomatch h

theorem eq_hexadecimal_of_hexUnit? {a b c d : Char} {n : Nat} (h : hexUnit? a b c d = some n) :
    n < 0x10000 ∧ [a, b, c, d] = Numeral.hexadecimal 4 n := by
  simp only [hexUnit?, Option.bind_eq_bind, Option.bind_eq_some_iff, Option.pure_def,
    Option.some.injEq] at h
  obtain ⟨i, hi, j, hj, k, hk, l, hl, rfl⟩ := h
  obtain ⟨hi, rfl⟩ := eq_digitChar_of_hexDigit? hi
  obtain ⟨hj, rfl⟩ := eq_digitChar_of_hexDigit? hj
  obtain ⟨hk, rfl⟩ := eq_digitChar_of_hexDigit? hk
  obtain ⟨hl, rfl⟩ := eq_digitChar_of_hexDigit? hl
  refine ⟨by omega, ?_⟩
  rw [hexadecimal_four (by omega)]
  congr <;> omega

theorem eq_escapeUnit_of_readUnit? {unit : Nat} (h : readUnit? t = some (unit, rest)) :
    unit < 0x10000 ∧ t = escapeUnit unit ++ rest := by
  unfold readUnit? at h
  split at h
  · next a b c d rest' =>
    obtain ⟨n, hn, heq⟩ := Option.map_eq_some_iff.mp h
    obtain ⟨rfl, rfl⟩ := Prod.mk.inj heq
    obtain ⟨hlt, hdigits⟩ := eq_hexadecimal_of_hexUnit? hn
    refine ⟨hlt, ?_⟩
    rw [escapeUnit, ← hdigits]
    rfl
  · cases h

theorem utf16Units_ofNat {unit : Nat} (hlt : unit < 0x10000) (h : unit < 0xd800 ∨ 0xe000 ≤ unit) :
    utf16Units (Char.ofNat unit) = [unit] := by
  have hvalid : unit.isValidChar := h.imp id fun hle => ⟨hle, by omega⟩
  rw [utf16Units, Utf8.toNat_ofNat hvalid, if_pos hlt]

theorem utf16Units_of_joinUnits? {high low : Nat} (h : joinUnits? high low = some c) :
    utf16Units c = [high, low] := by
  rw [joinUnits?, Option.ite_none_right_eq_some] at h
  obtain ⟨⟨hhigh, hhigh', hlow, hlow'⟩, hc⟩ := h
  -- each surrogate holds ten of the bits that are left above the first plane
  let n := 0x10000 + (high - 0xd800) * 0x400 + (low - 0xdc00)
  have hvalid : n.isValidChar := .inr ⟨by omega, by omega⟩
  have hfirst : 0xd800 + (n - 0x10000) / 0x400 = high := by omega
  have hsecond : 0xdc00 + (n - 0x10000) % 0x400 = low := by omega
  rw [← Option.some.inj hc, utf16Units, Utf8.toNat_ofNat hvalid, if_neg (by omega), hfirst,
    hsecond]

theorem eq_escapeUnits_of_readWide? (h : readWide? t = some (c, rest)) :
    t = escapeUnits c ++ rest := by
  simp only [readWide?, Option.bind_eq_bind, Option.bind_eq_some_iff, Prod.exists] at h
  obtain ⟨unit, rest', hunit, h⟩ := h
  obtain ⟨hlt, rfl⟩ := eq_escapeUnit_of_readUnit? hunit
  split at h
  · next hsingle =>
    obtain ⟨rfl, rfl⟩ := Prod.mk.inj (Option.some.inj h)
    rw [escapeUnits, utf16Units_ofNat hlt hsingle, List.flatMap_singleton]
  · simp only [Option.bind_eq_some_iff, Prod.exists, Option.pure_def, Option.some.injEq,
      Prod.mk.injEq] at h
    obtain ⟨low, rest'', hlow, _, hjoin, rfl, rfl⟩ := h
    obtain ⟨-, rfl⟩ := eq_escapeUnit_of_readUnit? hlow
    rw [escapeUnits, utf16Units_of_joinUnits? hjoin, List.flatMap_cons, List.flatMap_singleton,
      List.append_assoc]

def opensUnits (t : Text) : Bool := ['_', '0'].isPrefixOf t

theorem opensUnits_cons_of_ne (h : c ≠ '_') (t : Text) : opensUnits (c :: t) = false := by
  have hbeq : ('_' == c) = false := beq_eq_false_iff_ne.mpr h.symm
  rw [opensUnits, List.isPrefixOf_cons_cons, hbeq, Bool.false_and]

theorem opensUnits_escapeUnits_append (c : Char) (rest : Text) :
    opensUnits (escapeUnits c ++ rest) = true := by
  rw [escapeUnits, utf16Units]
  split <;> rfl

/-- A character and how it is spelled, where only units will do for one that needs them. -/
@[ext]
structure Spelling where
  char : Char
  inUnits : Bool
  inUnits_of_needsUnits : NeedsUnits char → inUnits = true
deriving DecidableEq

namespace Spelling

def text (k : Spelling) : Text := if k.inUnits then escapeUnits k.char else escapeSymbolChar k.char

def units (c : Char) : Spelling := ⟨c, true, fun _ => rfl⟩

def least (c : Char) : Spelling := ⟨c, decide (NeedsUnits c), decide_eq_true⟩

theorem text_least (c : Char) : (least c).text = escapeSymbolChar c := by
  by_cases h : NeedsUnits c
  · rw [escapeSymbolChar_of_needsUnits h]
    exact if_pos (decide_eq_true h)
  · exact if_neg (Bool.eq_false_iff.mp (decide_eq_false h))

theorem least_char_eq_iff (k : Spelling) :
    least k.char = k ↔ (k.inUnits = true → NeedsUnits k.char) := by
  constructor
  · intro h hunits
    rw [← h] at hunits
    exact of_decide_eq_true hunits
  · intro h
    refine Spelling.ext rfl ?_
    exact Bool.eq_iff_iff.mpr (decide_eq_true_iff.trans ⟨k.inUnits_of_needsUnits, h⟩)

theorem text_ne_nil (k : Spelling) : k.text ≠ [] := by
  rw [text]
  split
  · obtain ⟨rest, h⟩ := exists_flatMap_escapeUnit k.char
    rw [escapeUnits, h]
    exact List.cons_ne_nil _ _
  · obtain h | ⟨rest, h⟩ := escapeSymbolChar_eq_or k.char
    · rw [h]
      exact List.cons_ne_nil _ _
    · rw [h]
      exact List.cons_ne_nil _ _

theorem readChar?_text_append (k : Spelling) (rest : Text) :
    readChar? (k.text ++ rest) = some (k.char, rest) := by
  rw [text]
  split
  · rw [escapeUnits, readChar?_utf16Units_append, readWide?_utf16Units_append]
  · exact readChar?_escapeSymbolChar_append k.char rest

end Spelling

theorem opensUnits_escapeSymbolChar_append (h : ¬NeedsUnits c) (rest : Text) :
    opensUnits (escapeSymbolChar c ++ rest) = false := by
  obtain ⟨halnum, hc⟩ | ⟨mark, hmark, hc⟩ := escapeSymbolChar_of_not_needsUnits h
  · rw [hc, List.singleton_append, opensUnits_cons_of_ne (ne_of_isAlphanum halnum rfl)]
  · rw [hc]
    simp only [List.mem_cons, List.not_mem_nil, or_false] at hmark
    rcases hmark with rfl | rfl | rfl <;> rfl

theorem Spelling.opensUnits_text_append (k : Spelling) (rest : Text) :
    opensUnits (k.text ++ rest) = k.inUnits := by
  rw [text]
  split
  · next hunits => rw [opensUnits_escapeUnits_append, hunits]
  · next hunits =>
    rw [opensUnits_escapeSymbolChar_append (mt k.inUnits_of_needsUnits hunits),
      Bool.eq_false_iff.mpr hunits]

theorem eq_append_of_readChar? (h : readChar? t = some (c, rest)) :
    if opensUnits t then t = escapeUnits c ++ rest
    else ¬NeedsUnits c ∧ t = escapeSymbolChar c ++ rest := by
  unfold readChar? at h
  split at h
  · exact nomatch h
  · obtain ⟨rfl, rfl⟩ := Prod.mk.inj (Option.some.inj h)
    exact ⟨by decide, rfl⟩
  · obtain ⟨rfl, rfl⟩ := Prod.mk.inj (Option.some.inj h)
    exact ⟨by decide, rfl⟩
  · obtain ⟨rfl, rfl⟩ := Prod.mk.inj (Option.some.inj h)
    exact ⟨by decide, rfl⟩
  · -- no mark follows the underscore, so it must open a unit
    have htext := eq_escapeUnits_of_readWide? h
    rw [htext, opensUnits_escapeUnits_append]
    exact rfl
  · next hne =>
    rw [Option.ite_none_right_eq_some] at h
    obtain ⟨halnum, h⟩ := h
    obtain ⟨rfl, rfl⟩ := Prod.mk.inj (Option.some.inj h)
    rw [opensUnits_cons_of_ne hne, escapeSymbolChar_of_isAlphanum halnum]
    exact ⟨fun hneeds => Bool.false_ne_true (hneeds.1.symm.trans halnum), rfl⟩

theorem opensUnits_of_needsUnits (h : readChar? t = some (c, rest)) (hneeds : NeedsUnits c) :
    opensUnits t = true := by
  apply Bool.of_not_eq_false
  intro hunits
  have hshort := eq_append_of_readChar? h
  rw [hunits, if_neg Bool.false_ne_true] at hshort
  exact hshort.1 hneeds

def readSpelling? (t : Text) : Option (Spelling × Text) :=
  match h : readChar? t with
  | none => none
  | some (c, rest) => some (⟨c, opensUnits t, opensUnits_of_needsUnits h⟩, rest)

theorem readSpelling?_text_append (k : Spelling) (rest : Text) :
    readSpelling? (k.text ++ rest) = some (k, rest) := by
  unfold readSpelling?
  split
  · next hread => exact nomatch (k.readChar?_text_append rest).symm.trans hread
  · next hread =>
    have heq := hread.symm.trans (k.readChar?_text_append rest)
    obtain ⟨rfl, rfl⟩ := Prod.mk.inj (Option.some.inj heq)
    rw [Option.some.injEq, Prod.mk.injEq]
    exact ⟨Spelling.ext rfl (k.opensUnits_text_append _), rfl⟩

theorem eq_text_of_readSpelling? {k : Spelling} (h : readSpelling? t = some (k, rest)) :
    t = k.text ++ rest := by
  unfold readSpelling? at h
  split at h
  · exact nomatch h
  · next hread =>
    obtain ⟨rfl, rfl⟩ := Prod.mk.inj (Option.some.inj h)
    have htext := eq_append_of_readChar? hread
    rw [Spelling.text]
    split
    · next hunits => rwa [if_pos hunits] at htext
    · next hunits =>
      rw [if_neg hunits] at htext
      exact htext.2

/-! Whole segments. -/

theorem length_lt_of_readSpelling? {k : Spelling} (h : readSpelling? t = some (k, rest)) :
    rest.length < t.length := by
  rw [eq_text_of_readSpelling? h, List.length_append]
  exact Nat.lt_add_of_pos_left (List.length_pos_iff.mpr k.text_ne_nil)

def spellings? (t : Text) : Option (List Spelling) :=
  if t = [] then some []
  else
    match _hread : readSpelling? t with
    | none => none
    | some (k, rest) => (spellings? rest).map (k :: ·)
termination_by t.length
decreasing_by exact length_lt_of_readSpelling? _hread

def unescapeSegment? (t : Text) : Option Text := (spellings? t).map (·.map Spelling.char)

theorem spellings?_text_append (k : Spelling) (rest : Text) :
    spellings? (k.text ++ rest) = (spellings? rest).map (k :: ·) := by
  rw [spellings?, if_neg (List.append_ne_nil_of_left_ne_nil k.text_ne_nil rest)]
  split
  · next hread => exact nomatch (readSpelling?_text_append k rest).symm.trans hread
  · next hread =>
    rw [readSpelling?_text_append] at hread
    obtain ⟨rfl, rfl⟩ := Prod.mk.inj (Option.some.inj hread)
    rfl

theorem spellings?_flatMap_text (ks : List Spelling) :
    spellings? (ks.flatMap Spelling.text) = some ks := by
  induction ks with
  | nil => rw [List.flatMap_nil, spellings?, if_pos rfl]
  | cons k ks ih => rw [List.flatMap_cons, spellings?_text_append, ih, Option.map_some]

theorem flatMap_text_of_spellings? {ks : List Spelling} (h : spellings? t = some ks) :
    ks.flatMap Spelling.text = t := by
  fun_induction spellings? t generalizing ks with
  | case1 =>
    obtain rfl := Option.some.inj h
    rfl
  | case2 t hne hread => exact nomatch h
  | case3 t hne k rest hread ih =>
    obtain ⟨ks, hks, rfl⟩ := Option.map_eq_some_iff.mp h
    rw [List.flatMap_cons, ih hks, eq_text_of_readSpelling? hread]

theorem spellings?_eq_some_iff {ks : List Spelling} :
    spellings? t = some ks ↔ ks.flatMap Spelling.text = t := by
  constructor
  · exact flatMap_text_of_spellings?
  · rintro rfl
    exact spellings?_flatMap_text ks

theorem escapeSegment_eq_flatMap_least (s : Text) :
    escapeSegment s = (s.map Spelling.least).flatMap Spelling.text := by
  simp only [escapeSegment, List.flatMap_map, Spelling.text_least]

theorem spellings?_escapeSegment (s : Text) :
    spellings? (escapeSegment s) = some (s.map Spelling.least) := by
  rw [escapeSegment_eq_flatMap_least, spellings?_flatMap_text]

theorem unescapeSegment?_escapeSegment (s : Text) :
    unescapeSegment? (escapeSegment s) = some s := by
  rw [unescapeSegment?, spellings?_escapeSegment, Option.map_some, List.map_map]
  exact congrArg some (List.map_id s)

theorem escapeSegment_injective : Function.Injective escapeSegment := by
  intro s t h
  have hs := unescapeSegment?_escapeSegment s
  rw [h, unescapeSegment?_escapeSegment] at hs
  exact (Option.some.inj hs).symm

theorem escapeSegment_map_char_iff {ks : List Spelling} (h : spellings? t = some ks) :
    escapeSegment (ks.map Spelling.char) = t ↔
      ∀ k ∈ ks, k.inUnits = true → NeedsUnits k.char := by
  -- a text is told by its spellings, and those of what is escaped are the least ones
  calc escapeSegment (ks.map Spelling.char) = t
    _ ↔ spellings? (escapeSegment (ks.map Spelling.char)) = spellings? t := by
      rw [h, spellings?_eq_some_iff, flatMap_text_of_spellings? h, eq_comm]
    _ ↔ ks.map (Spelling.least ∘ Spelling.char) = ks.map id := by
      rw [h, spellings?_escapeSegment, List.map_map, Option.some.injEq, List.map_id]
    _ ↔ ∀ k ∈ ks, Spelling.least k.char = k := List.map_inj_left
    _ ↔ ∀ k ∈ ks, k.inUnits = true → NeedsUnits k.char :=
      forall₂_congr fun k _ => k.least_char_eq_iff

/-! The characters of a segment. -/

theorem isAlphanum_digitChar : ∀ n < 16, (Nat.digitChar n).isAlphanum = true := by decide

theorem lt_of_mem_utf16Units {unit : Nat} (h : unit ∈ utf16Units c) : unit < 0x10000 := by
  have hc := toNat_lt_or_surrogate_le c
  rw [utf16Units] at h
  split at h
  · rw [List.mem_singleton.mp h]
    assumption
  · rcases List.mem_cons.mp h with rfl | h
    · omega
    · rw [List.mem_singleton.mp h]
      omega

def IsSymbolChar (c : Char) : Prop := c.isAlphanum = true ∨ c = '_'

instance : DecidablePred IsSymbolChar := fun _ => inferInstanceAs (Decidable (_ ∨ _))

theorem isSymbolChar_of_mem_escapeUnit {unit : Nat} (hlt : unit < 0x10000)
    (h : c ∈ escapeUnit unit) : IsSymbolChar c := by
  have hdigit (n : Nat) (hn : n < 16) : IsSymbolChar (Nat.digitChar n) :=
    .inl (isAlphanum_digitChar n hn)
  rw [escapeUnit, hexadecimal_four hlt] at h
  simp only [List.cons_append, List.nil_append, List.mem_cons, List.not_mem_nil, or_false] at h
  rcases h with rfl | rfl | rfl | rfl | rfl | rfl
  · exact .inr rfl
  · exact .inl rfl
  · exact hdigit _ (by omega)
  · exact hdigit _ (by omega)
  · exact hdigit _ (by omega)
  · exact hdigit _ (by omega)

theorem isSymbolChar_of_mem_escapeSymbolChar {d : Char} (h : c ∈ escapeSymbolChar d) :
    IsSymbolChar c := by
  by_cases hneeds : NeedsUnits d
  · rw [escapeSymbolChar_of_needsUnits hneeds, escapeUnits, List.mem_flatMap] at h
    obtain ⟨unit, hunit, hc⟩ := h
    exact isSymbolChar_of_mem_escapeUnit (lt_of_mem_utf16Units hunit) hc
  · obtain ⟨halnum, hd⟩ | ⟨mark, hmark, hd⟩ := escapeSymbolChar_of_not_needsUnits hneeds
    · rw [hd, List.mem_singleton] at h
      exact .inl (h ▸ halnum)
    · simp only [hd, List.mem_cons, List.not_mem_nil, or_false] at h hmark
      rcases h with rfl | rfl
      · exact .inr rfl
      · rcases hmark with rfl | rfl | rfl <;> exact .inl rfl

theorem isSymbolChar_of_mem_escapeSegment {s : Text} (h : c ∈ escapeSegment s) :
    IsSymbolChar c := by
  rw [escapeSegment, List.mem_flatMap] at h
  obtain ⟨d, -, hc⟩ := h
  exact isSymbolChar_of_mem_escapeSymbolChar hc

/-- Only symbol characters are written, the name can be read back, segments are escaped piece by
piece, and a text that can be read is escaped to itself again exactly if every character that it
spells in units needs them. -/
theorem escapeSegment_reversible :
    (∀ s, ∀ c ∈ escapeSegment s, IsSymbolChar c) ∧
    (∀ s, unescapeSegment? (escapeSegment s) = some s) ∧
    Function.Injective escapeSegment ∧
    (∀ s t, escapeSegment (s ++ t) = escapeSegment s ++ escapeSegment t) ∧
    (∀ t ks, spellings? t = some ks ↔ ks.flatMap Spelling.text = t) ∧
    ∀ t ks, spellings? t = some ks →
      ((unescapeSegment? t).map escapeSegment = some t ↔
        ∀ k ∈ ks, k.inUnits = true → NeedsUnits k.char) := by
  refine ⟨fun s c => isSymbolChar_of_mem_escapeSegment, unescapeSegment?_escapeSegment,
    escapeSegment_injective, escapeSegment_append, fun t ks => spellings?_eq_some_iff,
    fun t ks h => ?_⟩
  rw [unescapeSegment?, h, Option.map_some, Option.map_some, Option.some.injEq]
  exact escapeSegment_map_char_iff h

theorem escapeSegment_reversible_spellings :
    let t := "a_2_000e9_0d83d_0de00f".toList
    let ks := "a;é😀f".toList.map Spelling.least
    spellings? t = some ks ∧ (unescapeSegment? t).map escapeSegment = some t ∧
      (unescapeSegment? "_00061".toList).map escapeSegment ≠ some "_00061".toList := by
  intro t ks
  have hreads := escapeSegment_reversible.2.2.2.2.2
  have ht : spellings? t = some ks := by decide +kernel
  have hlong : spellings? "_00061".toList = some [.units 'a'] := by decide +kernel
  refine ⟨ht, (hreads t ks ht).mpr (by decide +kernel), fun h => ?_⟩
  have hneeds := (hreads _ _ hlong).mp h _ (List.mem_singleton_self _) rfl
  exact absurd hneeds (by decide)

end MemoryProbe.Native
