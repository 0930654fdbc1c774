import MemoryProbe.Native.Symbol

/-! The symbols of native methods can be read back. What stands for one character of a name tells
the character and its own end, whatever follows, and an underscore that no escape begins is a
separator.
So different methods have different symbols, as long as no segment behind a separator begins with
one of the digits that would make an escape of it. -/

namespace MemoryProbe.Native

def hexDigit? (c : Char) : Option Nat :=
  if 0x30 ≤ c.toNat ∧ c.toNat ≤ 0x39 then some (c.toNat - 0x30)
  else if 0x61 ≤ c.toNat ∧ c.toNat ≤ 0x66 then some (c.toNat - 0x57)
  else none

def hexUnit? (a b c d : Char) : Option Nat := do
  return (← hexDigit? a) * 0x1000 + (← hexDigit? b) * 0x100 + (← hexDigit? c) * 0x10 +
    (← hexDigit? d)

def readUnit? : Text → Option (Nat × Text)
  | '_' :: '0' :: a :: b :: c :: d :: rest => (hexUnit? a b c d).map (·, rest)
  | _ => none

def joinUnits? (high low : Nat) : Option Char :=
  if 0xd800 ≤ high ∧ high < 0xdc00 ∧ 0xdc00 ≤ low ∧ low < 0xe000 then
    some (Char.ofNat (0x10000 + (high - 0xd800) * 0x400 + (low - 0xdc00)))
  else none

def readWide? (t : Text) : Option (Char × Text) := do
  let (unit, rest) ← readUnit? t
  if unit < 0xd800 ∨ 0xe000 ≤ unit then return (Char.ofNat unit, rest)
  let (low, rest) ← readUnit? rest
  return (← joinUnits? unit low, rest)

def readChar? : Text → Option (Char × Text)
  | [] => none
  | '_' :: '1' :: rest => some ('_', rest)
  | '_' :: '2' :: rest => some (';', rest)
  | '_' :: '3' :: rest => some ('[', rest)
  | '_' :: rest => readWide? ('_' :: rest)
  | c :: rest => if c.isAlphanum then some (c, rest) else none

theorem hexDigit?_digitChar : ∀ n < 16, hexDigit? (Nat.digitChar n) = some n := by decide

theorem leftpad_append_singleton {α : Type} (width : Nat) (filler x : α) (l : List α) :
    (l ++ [x]).leftpad (width + 1) filler = l.leftpad width filler ++ [x] := by
  rw [List.leftpad, List.leftpad, List.length_append, List.length_singleton,
    Nat.add_sub_add_right, List.append_assoc]

theorem hexadecimal_add_two (width n : Nat) :
    Numeral.hexadecimal (width + 2) n =
      Numeral.hexadecimal (width + 1) (n / 16) ++ [Nat.digitChar (n % 16)] := by
  unfold Numeral.hexadecimal
  by_cases hn : n < 16
  · -- the digit that is missing in front is a zero like those of the padding
    have hzero : (['0'] : Text).leftpad (width + 1) '0' = ([] : Text).leftpad (width + 1) '0' := by
      simp [List.leftpad, List.replicate_succ']
    rw [Nat.div_eq_of_lt hn, Nat.mod_eq_of_lt hn, Nat.toDigits_of_lt_base hn, Nat.toDigits_zero,
      hzero, ← leftpad_append_singleton, List.nil_append]
  · rw [Nat.toDigits_of_base_le (by decide) (Nat.le_of_not_lt hn), leftpad_append_singleton]

theorem hexadecimal_four {n : Nat} (h : n < 0x10000) :
    Numeral.hexadecimal 4 n = [Nat.digitChar (n / 16 / 16 / 16), Nat.digitChar (n / 16 / 16 % 16),
      Nat.digitChar (n / 16 % 16), Nat.digitChar (n % 16)] := by
  have hlast : Numeral.hexadecimal 1 (n / 16 / 16 / 16) = [Nat.digitChar (n / 16 / 16 / 16)] := by
    rw [Numeral.hexadecimal, Nat.toDigits_of_lt_base (by omega)]
    rfl
  rw [hexadecimal_add_two, hexadecimal_add_two, hexadecimal_add_two, hlast]
  rfl

theorem hexUnit?_digitChar {n : Nat} (h : n < 0x10000) :
    hexUnit? (Nat.digitChar (n / 16 / 16 / 16)) (Nat.digitChar (n / 16 / 16 % 16))
      (Nat.digitChar (n / 16 % 16)) (Nat.digitChar (n % 16)) = some n := by
  have hmod (k : Nat) : hexDigit? (Nat.digitChar (k % 16)) = some (k % 16) :=
    hexDigit?_digitChar _ (Nat.mod_lt k (by decide))
  have hfirst : hexDigit? (Nat.digitChar (n / 16 / 16 / 16)) = some (n / 16 / 16 / 16) :=
    hexDigit?_digitChar _ (by omega)
  have hvalue : n / 16 / 16 / 16 * 0x1000 + n / 16 / 16 % 16 * 0x100 + n / 16 % 16 * 0x10 +
      n % 16 = n := by omega
  simp only [hexUnit?, hfirst, hmod, Option.bind_eq_bind, Option.bind_some, hvalue]
  rfl

theorem readUnit?_escapeUnit_append {unit : Nat} (h : unit < 0x10000) (rest : Text) :
    readUnit? (escapeUnit unit ++ rest) = some (unit, rest) := by
  rw [escapeUnit, hexadecimal_four h]
  show (hexUnit? _ _ _ _).map (·, rest) = _
  rw [hexUnit?_digitChar h]
  rfl

theorem toNat_lt_or_surrogate_le (c : Char) :
    c.toNat < 0xd800 ∨ 0xe000 ≤ c.toNat ∧ c.toNat < 0x110000 := by
  rcases c.valid with h | h
  · exact .inl h
  · exact .inr ⟨h.1, h.2⟩

theorem joinUnits?_surrogates {c : Char} (h : 0x10000 ≤ c.toNat) :
    joinUnits? (0xd800 + (c.toNat - 0x10000) / 0x400) (0xdc00 + (c.toNat - 0x10000) % 0x400) =
      some c := by
  have hc := toNat_lt_or_surrogate_le c
  have hvalue : 0x10000 + (0xd800 + (c.toNat - 0x10000) / 0x400 - 0xd800) * 0x400 +
      (0xdc00 + (c.toNat - 0x10000) % 0x400 - 0xdc00) = c.toNat := by omega
  rw [joinUnits?, if_pos (by omega), hvalue, Char.ofNat_toNat]

theorem readWide?_single {c : Char} (h : c.toNat < 0x10000) (rest : Text) :
    readWide? (escapeUnit c.toNat ++ rest) = some (c, rest) := by
  have hc := toNat_lt_or_surrogate_le c
  rw [readWide?, readUnit?_escapeUnit_append h]
  simp only [Option.bind_eq_bind, Option.bind_some, Option.pure_def]
  rw [if_pos (by omega), Char.ofNat_toNat]

theorem readWide?_pair {high low : Nat} {c : Char} (hlow : 0xd800 ≤ high) (hhigh : high < 0xdc00)
    (hl : low < 0x10000) (hc : joinUnits? high low = some c) (rest : Text) :
    readWide? (escapeUnit high ++ (escapeUnit low ++ rest)) = some (c, rest) := by
  rw [readWide?, readUnit?_escapeUnit_append (by omega)]
  simp only [Option.bind_eq_bind, Option.bind_some, Option.pure_def]
  rw [if_neg (by omega), readUnit?_escapeUnit_append hl]
  simp only [Option.bind_some, hc]

theorem readWide?_utf16Units_append (c : Char) (rest : Text) :
    readWide? ((utf16Units c).flatMap escapeUnit ++ rest) = some (c, rest) := by
  have hc := toNat_lt_or_surrogate_le c
  by_cases h : c.toNat < 0x10000
  · rw [utf16Units, if_pos h, List.flatMap_singleton, readWide?_single h]
  · rw [utf16Units, if_neg h, List.flatMap_cons, List.flatMap_singleton, List.append_assoc]
    have hjoin := joinUnits?_surrogates (Nat.le_of_not_lt h)
    exact readWide?_pair (by omega) (by omega) (by omega) hjoin rest

theorem readChar?_utf16Units_append (c : Char) (rest : Text) :
    readChar? ((utf16Units c).flatMap escapeUnit ++ rest) =
      readWide? ((utf16Units c).flatMap escapeUnit ++ rest) := by
  rw [utf16Units]
  split <;> rfl

theorem readChar?_cons_of_ne {c : Char} (h : c ≠ '_') (rest : Text) :
    readChar? (c :: rest) = if c.isAlphanum then some (c, rest) else none := by
  unfold readChar?
  split <;> simp_all

theorem readChar?_escapeSymbolChar_append (c : Char) (rest : Text) :
    readChar? (escapeSymbolChar c ++ rest) = some (c, rest) := by
  rw [escapeSymbolChar]
  split
  · next h => rw [h]; rfl
  next hunderscore =>
  split
  · next h => rw [h]; rfl
  split
  · next h => rw [h]; rfl
  split
  · next h =>
    rw [List.singleton_append, readChar?_cons_of_ne hunderscore, if_pos h]
  · rw [readChar?_utf16Units_append, readWide?_utf16Units_append]

theorem escapeSymbolChar_append_inj {c d : Char} {x y : Text}
    (h : escapeSymbolChar c ++ x = escapeSymbolChar d ++ y) : c = d ∧ x = y := by
  have hread := readChar?_escapeSymbolChar_append c x
  rw [h, readChar?_escapeSymbolChar_append, Option.some.injEq, Prod.mk.injEq] at hread
  exact ⟨hread.1.symm, hread.2.symm⟩

/-! Where a segment ends. -/

def escapeMarks : Text := ['0', '1', '2', '3']

def OpensWithMark (t : Text) : Prop := ∃ c ∈ escapeMarks, t.head? = some c

instance : DecidablePred OpensWithMark := fun t =>
  List.decidableBEx (fun c => t.head? = some c) escapeMarks

theorem readUnit?_eq_none {d : Char} (h : d ≠ '0') (t : Text) :
    readUnit? ('_' :: d :: t) = none := by
  unfold readUnit?
  split <;> simp_all

theorem readChar?_separator {t : Text} (h : ¬OpensWithMark t) : readChar? ('_' :: t) = none := by
  match t with
  | [] => rfl
  | d :: t =>
    have hd : d ∉ escapeMarks := fun hd => h ⟨d, hd, rfl⟩
    simp only [escapeMarks, List.mem_cons, List.not_mem_nil, or_false, not_or] at hd
    have hunit := readUnit?_eq_none hd.1 t
    have hread : readChar? ('_' :: d :: t) = readWide? ('_' :: d :: t) := by
      rw [readChar?] <;> simp [hd]
    rw [hread, readWide?, hunit]
    rfl

theorem segment_inj {s t x y : Text} (hx : readChar? x = none) (hy : readChar? y = none)
    (h : escapeSegment s ++ x = escapeSegment t ++ y) : s = t ∧ x = y := by
  have hcons (c : Char) (s x : Text) :
      escapeSegment (c :: s) ++ x = escapeSymbolChar c ++ (escapeSegment s ++ x) := by
    rw [escapeSegment, List.flatMap_cons, List.append_assoc]
    rfl
  induction s generalizing t with
  | nil =>
    cases t with
    | nil => exact ⟨rfl, h⟩
    | cons d t =>
      rw [hcons] at h
      have hread := congrArg readChar? h
      rw [readChar?_escapeSymbolChar_append] at hread
      exact nomatch hx.symm.trans hread
  | cons c s ih =>
    rw [hcons] at h
    cases t with
    | nil =>
      have hread := congrArg readChar? h
      rw [readChar?_escapeSymbolChar_append] at hread
      exact nomatch hread.trans hy
    | cons d t =>
      rw [hcons] at h
      obtain ⟨rfl, hrest⟩ := escapeSymbolChar_append_inj h
      obtain ⟨rfl, hxy⟩ := ih hrest
      exact ⟨rfl, hxy⟩

def following (ss : List Text) : Text := ss.flatMap fun s => '_' :: escapeSegment s

theorem exists_flatMap_escapeUnit (c : Char) :
    ∃ rest, (utf16Units c).flatMap escapeUnit = '_' :: rest := by
  by_cases h : c.toNat < 0x10000
  · exact ⟨_, by rw [utf16Units, if_pos h, List.flatMap_cons]; rfl⟩
  · exact ⟨_, by rw [utf16Units, if_neg h, List.flatMap_cons]; rfl⟩

theorem escapeSymbolChar_eq_or (c : Char) :
    escapeSymbolChar c = [c] ∨ ∃ rest, escapeSymbolChar c = '_' :: rest := by
  unfold escapeSymbolChar
  split
  · exact .inr ⟨_, rfl⟩
  split
  · exact .inr ⟨_, rfl⟩
  split
  · exact .inr ⟨_, rfl⟩
  split
  · exact .inl rfl
  · exact .inr (exists_flatMap_escapeUnit c)

theorem not_opensWithMark_underscore (t : Text) : ¬OpensWithMark ('_' :: t) := by
  rintro ⟨c, hc, hhead⟩
  rw [← Option.some.inj hhead] at hc
  exact absurd hc (by decide)

theorem not_opensWithMark_escapeSegment_append {s : Text} (h : ¬OpensWithMark s)
    (ss : List Text) : ¬OpensWithMark (escapeSegment s ++ following ss) := by
  cases s with
  | nil =>
    cases ss with
    | nil => exact h
    | cons t ss => exact not_opensWithMark_underscore _
  | cons c s =>
    rw [escapeSegment, List.flatMap_cons]
    obtain hc | ⟨rest, hc⟩ := escapeSymbolChar_eq_or c
    · rw [hc]
      exact h
    · rw [hc]
      exact not_opensWithMark_underscore _

theorem readChar?_following {ss : List Text} (h : ∀ s ∈ ss, ¬OpensWithMark s) :
    readChar? (following ss) = none := by
  cases ss with
  | nil => rfl
  | cons s ss =>
    have hs : ¬OpensWithMark s := h s (List.mem_cons_self ..)
    exact readChar?_separator (not_opensWithMark_escapeSegment_append hs ss)

theorem following_inj {ss ts : List Text} (hs : ∀ s ∈ ss, ¬OpensWithMark s)
    (ht : ∀ t ∈ ts, ¬OpensWithMark t) (h : following ss = following ts) : ss = ts := by
  induction ss generalizing ts with
  | nil =>
    cases ts with
    | nil => rfl
    | cons t ts => exact nomatch h
  | cons s ss ih =>
    cases ts with
    | nil => exact nomatch h
    | cons t ts =>
      rw [List.forall_mem_cons] at hs ht
      have hbody : escapeSegment s ++ following ss = escapeSegment t ++ following ts :=
        (List.cons.inj h).2
      obtain ⟨rfl, hrest⟩ :=
        segment_inj (readChar?_following hs.2) (readChar?_following ht.2) hbody
      rw [ih hs.2 ht.2 hrest]

theorem intercalate_escapeSegment (s : Text) (ss : List Text) :
    ['_'].intercalate ((s :: ss).map escapeSegment) = escapeSegment s ++ following ss := by
  induction ss generalizing s with
  | nil => simp [following]
  | cons t ss ih =>
    rw [List.map_cons, List.map_cons, List.intercalate_cons_cons, ← List.map_cons, ih,
      List.append_assoc]
    rfl

theorem nativeSymbol_eq {className s : Text} {ss : List Text} (h : segments className = s :: ss)
    (methodName : Text) : nativeSymbol className methodName =
      "Java_".toList ++ (escapeSegment s ++ following (ss ++ [methodName])) := by
  delta nativeSymbol
  rw [h, intercalate_escapeSegment, following, following, List.flatMap_append,
    List.flatMap_singleton, List.append_assoc, List.append_assoc]

/-- No part of the name that stands behind a separator begins with a mark. -/
structure Readable (className methodName : Text) : Prop where
  segments : ∀ s ∈ (segments className).tail, ¬OpensWithMark s
  method : ¬OpensWithMark methodName

theorem Readable.following {className methodName s : Text} {ss : List Text}
    (h : Readable className methodName) (hs : Native.segments className = s :: ss) :
    ∀ t ∈ ss ++ [methodName], ¬OpensWithMark t := by
  have htail := h.segments
  rw [hs, List.tail_cons] at htail
  exact List.forall_mem_append.mpr ⟨htail, List.forall_mem_singleton.mpr h.method⟩

/-- Readable names have one symbol exactly when they are of one method. -/
theorem nativeSymbol_eq_iff {c₁ c₂ m₁ m₂ : Text} (h₁ : Readable c₁ m₁) (h₂ : Readable c₂ m₂) :
    nativeSymbol c₁ m₁ = nativeSymbol c₂ m₂ ↔ m₁ = m₂ ∧ segments c₁ = segments c₂ := by
  constructor
  · intro h
    obtain ⟨s, ss, hs⟩ := List.exists_cons_of_ne_nil (List.splitOnP_ne_nil _ c₁)
    obtain ⟨t, ts, ht⟩ := List.exists_cons_of_ne_nil (List.splitOnP_ne_nil _ c₂)
    have hs : segments c₁ = s :: ss := hs
    have ht : segments c₂ = t :: ts := ht
    rw [nativeSymbol_eq hs, nativeSymbol_eq ht] at h
    have hss := h₁.following hs
    have hts := h₂.following ht
    obtain ⟨rfl, hrest⟩ := segment_inj (readChar?_following hss) (readChar?_following hts)
      (List.append_cancel_left h)
    obtain ⟨hinit, hlast⟩ := List.append_inj' (following_inj hss hts hrest) rfl
    exact ⟨(List.cons.inj hlast).1, by rw [hs, ht, hinit]⟩
  · rintro ⟨rfl, hs⟩
    delta nativeSymbol
    rw [hs]

theorem nativeSymbol_eq_iff_two_spellings :
    let c₁ := "0.µ//_1_".toList
    let c₂ := "0/µ/._1_".toList
    let m := "_0.;[😀".toList
    Readable c₁ m ∧ Readable c₂ m ∧ nativeSymbol c₁ m = nativeSymbol c₂ m ∧
      segments c₁ = segments c₂ := by
  intro c₁ c₂ m
  have h₁ : Readable c₁ m := ⟨by decide +kernel, by decide +kernel⟩
  have h₂ : Readable c₂ m := ⟨by decide +kernel, by decide +kernel⟩
  have h : nativeSymbol c₁ m = nativeSymbol c₂ m := by decide +kernel
  exact ⟨h₁, h₂, h, ((nativeSymbol_eq_iff h₁ h₂).mp h).2⟩

-- A segment that begins with a mark is taken for an escape.
example : nativeSymbol "a.1b".toList ['c'] = nativeSymbol "a_b".toList ['c'] := by decide +kernel

end MemoryProbe.Native
