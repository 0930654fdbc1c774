import MemoryProbe.Text.Utf8

/-! The pieces that the decoder delivers stand for exactly the bytes it was given, and the encoding
of a text is taken apart into its characters. Hence strict decoding inverts encoding, and lossy
decoding neither adds nor loses an ASCII character and comes out without a replacement character
only on the encoding of its result. -/

namespace MemoryProbe.Utf8

def Piece.bytes : Piece → Bytes
  | .char c => String.utf8EncodeChar c
  | .bad run => run

def unread : Option Pending → Bytes
  | none => []
  | some p => p.read

/-- The bytes that may still complete a character: as many as are missing, each in its range. -/
def Pending.IsCompletion (p : Pending) : Bytes → Prop
  | [] => p.missing = 0
  | b :: rest => p.low ≤ b.toNat ∧ b.toNat ≤ p.high ∧ rest.length + 1 = p.missing ∧
      ∀ x ∈ rest, 0x80 ≤ x.toNat ∧ x.toNat ≤ 0xbf

def completedValue (value : Nat) (tail : Bytes) : Nat :=
  tail.foldl (fun v b => v * 64 + b.toNat % 64) value

structure Pending.Sound (p : Pending) : Prop where
  missing_pos : 0 < p.missing
  low_high : 0x80 ≤ p.low
  read_high : ∀ b ∈ p.read, 0x80 ≤ b.toNat
  encode_completion : ∀ tail, p.IsCompletion tail →
    String.utf8EncodeChar (Char.ofNat (completedValue p.value tail)) = p.read ++ tail

theorem toNat_ofNat {n : Nat} (h : n.isValidChar) : (Char.ofNat n).toNat = n := by
  rw [Char.ofNat, dif_pos h]
  rfl

theorem utf8EncodeChar_ascii {c : Char} (h : c.toNat < 0x80) :
    String.utf8EncodeChar c = [UInt8.ofNat c.toNat] := by
  have hc : c.toNat ≤ 0x7f := by omega
  simp only [String.utf8EncodeChar, Char.toNat_val, hc, if_true]

theorem utf8EncodeChar_two {a b : UInt8} (ha : 0xc2 ≤ a.toNat) (ha' : a.toNat < 0xe0)
    (hb : 0x80 ≤ b.toNat) (hb' : b.toNat ≤ 0xbf) :
    String.utf8EncodeChar (Char.ofNat (a.toNat % 32 * 64 + b.toNat % 64)) = [a, b] := by
  have hv : (Char.ofNat (a.toNat % 32 * 64 + b.toNat % 64)).val.toNat =
      a.toNat % 32 * 64 + b.toNat % 64 := toNat_ofNat (Or.inl (by omega))
  simp only [String.utf8EncodeChar, hv]
  rw [if_neg (by omega), if_pos (by omega)]
  simp only [List.cons.injEq, and_true, ← UInt8.toNat_inj, UInt8.toNat_ofNat']
  omega

theorem utf8EncodeChar_three {a b c : UInt8} (ha : 0xe0 ≤ a.toNat) (ha' : a.toNat < 0xf0)
    (hb : (if a.toNat = 0xe0 then 0xa0 else 0x80) ≤ b.toNat)
    (hb' : b.toNat ≤ if a.toNat = 0xed then 0x9f else 0xbf)
    (hc : 0x80 ≤ c.toNat) (hc' : c.toNat ≤ 0xbf) :
    String.utf8EncodeChar
      (Char.ofNat ((a.toNat % 16 * 64 + b.toNat % 64) * 64 + c.toNat % 64)) = [a, b, c] := by
  have hvalid : ((a.toNat % 16 * 64 + b.toNat % 64) * 64 + c.toNat % 64).isValidChar := by
    unfold Nat.isValidChar
    split at hb <;> split at hb' <;> omega
  have hv : (Char.ofNat ((a.toNat % 16 * 64 + b.toNat % 64) * 64 + c.toNat % 64)).val.toNat =
      (a.toNat % 16 * 64 + b.toNat % 64) * 64 + c.toNat % 64 := toNat_ofNat hvalid
  have hlow : 0x7ff < (a.toNat % 16 * 64 + b.toNat % 64) * 64 + c.toNat % 64 := by
    split at hb <;> split at hb' <;> omega
  simp only [String.utf8EncodeChar, hv]
  rw [if_neg (by omega), if_neg (by omega), if_pos (by omega)]
  simp only [List.cons.injEq, and_true, ← UInt8.toNat_inj, UInt8.toNat_ofNat']
  split at hb <;> split at hb' <;> omega

theorem utf8EncodeChar_four {a b c d : UInt8} (ha : 0xf0 ≤ a.toNat) (ha' : a.toNat < 0xf5)
    (hb : (if a.toNat = 0xf0 then 0x90 else 0x80) ≤ b.toNat)
    (hb' : b.toNat ≤ if a.toNat = 0xf4 then 0x8f else 0xbf)
    (hc : 0x80 ≤ c.toNat) (hc' : c.toNat ≤ 0xbf) (hd : 0x80 ≤ d.toNat) (hd' : d.toNat ≤ 0xbf) :
    String.utf8EncodeChar (Char.ofNat
      (((a.toNat % 8 * 64 + b.toNat % 64) * 64 + c.toNat % 64) * 64 + d.toNat % 64)) =
        [a, b, c, d] := by
  generalize hn : ((a.toNat % 8 * 64 + b.toNat % 64) * 64 + c.toNat % 64) * 64 + d.toNat % 64 = n
  have hlow : 0xffff < n := by split at hb <;> split at hb' <;> omega
  have hhigh : n < 0x110000 := by split at hb <;> split at hb' <;> omega
  have hv : (Char.ofNat n).val.toNat = n := toNat_ofNat (Or.inr ⟨by omega, hhigh⟩)
  simp only [String.utf8EncodeChar, hv]
  rw [if_neg (by omega), if_neg (by omega), if_neg (by omega)]
  simp only [List.cons.injEq, and_true, ← UInt8.toNat_inj, UInt8.toNat_ofNat']
  split at hb <;> split at hb' <;> omega

/-- What a step delivers and what it leaves unread are the bytes before it, and no ASCII byte is
taken for bad. -/
structure Faithful (before : Bytes) (out : List Piece × Option Pending) : Prop where
  sound : ∀ p, out.2 = some p → p.Sound
  bytes : out.1.flatMap Piece.bytes ++ unread out.2 = before
  bad_high : ∀ run, Piece.bad run ∈ out.1 → ∀ x ∈ run, 0x80 ≤ x.toNat

theorem sound_two {b : UInt8} (hb : 0xc2 ≤ b.toNat) (hb' : b.toNat < 0xe0) :
    Pending.Sound ⟨[b], b.toNat % 32, 1, 0x80, 0xbf⟩ where
  missing_pos := Nat.one_pos
  low_high := Nat.le_refl _
  read_high x hx := by
    rw [List.mem_singleton.mp hx]
    omega
  encode_completion tail h := by
    match tail, h with
    | [x], ⟨hx, hx', _, _⟩ => exact utf8EncodeChar_two hb hb' hx hx'
    | _ :: _ :: _, ⟨_, _, hl, _⟩ => simp at hl

theorem sound_three {b : UInt8} (hb : 0xe0 ≤ b.toNat) (hb' : b.toNat < 0xf0) :
    Pending.Sound ⟨[b], b.toNat % 16, 2, if b.toNat = 0xe0 then 0xa0 else 0x80,
      if b.toNat = 0xed then 0x9f else 0xbf⟩ where
  missing_pos := Nat.two_pos
  low_high := by
    show 0x80 ≤ ite _ _ _
    split <;> omega
  read_high x hx := by
    rw [List.mem_singleton.mp hx]
    omega
  encode_completion tail h := by
    match tail, h with
    | [_], ⟨_, _, hl, _⟩ => simp at hl
    | [x, y], ⟨hx, hx', _, ht⟩ =>
      have hy := ht y (List.mem_singleton_self y)
      exact utf8EncodeChar_three hb hb' hx hx' hy.1 hy.2
    | _ :: _ :: _ :: _, ⟨_, _, hl, _⟩ => simp at hl

theorem sound_four {b : UInt8} (hb : 0xf0 ≤ b.toNat) (hb' : b.toNat < 0xf5) :
    Pending.Sound ⟨[b], b.toNat % 8, 3, if b.toNat = 0xf0 then 0x90 else 0x80,
      if b.toNat = 0xf4 then 0x8f else 0xbf⟩ where
  missing_pos := Nat.succ_pos _
  low_high := by
    show 0x80 ≤ ite _ _ _
    split <;> omega
  read_high x hx := by
    rw [List.mem_singleton.mp hx]
    omega
  encode_completion tail h := by
    match tail, h with
    | [_], ⟨_, _, hl, _⟩ => simp at hl
    | [_, _], ⟨_, _, hl, _⟩ => simp at hl
    | [x, y, z], ⟨hx, hx', _, ht⟩ =>
      have hy := ht y (List.mem_cons_self ..)
      have hz := ht z (List.mem_cons_of_mem _ (List.mem_singleton_self z))
      exact utf8EncodeChar_four hb hb' hx hx' hy.1 hy.2 hz.1 hz.2
    | _ :: _ :: _ :: _ :: _, ⟨_, _, hl, _⟩ => simp at hl

theorem faithful_char {b : UInt8} (hb : b.toNat < 0x80) :
    Faithful [b] ([.char (Char.ofNat b.toNat)], none) where
  sound _ hp := nomatch hp
  bytes := by
    have hn : (Char.ofNat b.toNat).toNat = b.toNat := toNat_ofNat (Or.inl (by omega))
    have he := utf8EncodeChar_ascii (c := Char.ofNat b.toNat) (by omega)
    simp [Piece.bytes, unread, he, hn]
  bad_high run hr := by simp at hr

theorem faithful_bad {b : UInt8} (hb : 0x80 ≤ b.toNat) : Faithful [b] ([.bad [b]], none) where
  sound _ hp := nomatch hp
  bytes := rfl
  bad_high run hr x hx := by
    rw [List.mem_singleton, Piece.bad.injEq] at hr
    subst hr
    rwa [List.mem_singleton.mp hx]

theorem faithful_pending {p : Pending} (hp : p.Sound) : Faithful p.read ([], some p) where
  sound _ hq := Option.some.inj hq ▸ hp
  bytes := rfl
  bad_high _ hr := nomatch hr

theorem start_ascii {b : UInt8} (hb : b.toNat < 0x80) :
    start b = ([.char (Char.ofNat b.toNat)], none) := by
  simp only [start, hb, if_true]

theorem start_two {b : UInt8} (hb : 0xc2 ≤ b.toNat) (hb' : b.toNat < 0xe0) :
    start b = ([], some ⟨[b], b.toNat % 32, 1, 0x80, 0xbf⟩) := by
  simp only [start]
  rw [if_neg (by omega), if_neg (by omega), if_pos hb']

theorem start_three {b : UInt8} (hb : 0xe0 ≤ b.toNat) (hb' : b.toNat < 0xf0) :
    start b = ([], some ⟨[b], b.toNat % 16, 2, if b.toNat = 0xe0 then 0xa0 else 0x80,
      if b.toNat = 0xed then 0x9f else 0xbf⟩) := by
  simp only [start]
  rw [if_neg (by omega), if_neg (by omega), if_neg (by omega), if_pos hb']

theorem start_four {b : UInt8} (hb : 0xf0 ≤ b.toNat) (hb' : b.toNat < 0xf5) :
    start b = ([], some ⟨[b], b.toNat % 8, 3, if b.toNat = 0xf0 then 0x90 else 0x80,
      if b.toNat = 0xf4 then 0x8f else 0xbf⟩) := by
  simp only [start]
  rw [if_neg (by omega), if_neg (by omega), if_neg (by omega), if_neg (by omega), if_pos hb']

theorem start_bad {b : UInt8} (hb : 0x80 ≤ b.toNat ∧ b.toNat < 0xc2 ∨ 0xf5 ≤ b.toNat) :
    start b = ([.bad [b]], none) := by
  simp only [start]
  rcases hb with hb | hb
  · rw [if_neg (by omega), if_pos hb.2]
  · rw [if_neg (by omega), if_neg (by omega), if_neg (by omega), if_neg (by omega),
      if_neg (by omega)]

theorem start_faithful (b : UInt8) : Faithful [b] (start b) := by
  by_cases h₁ : b.toNat < 0x80
  · rw [start_ascii h₁]
    exact faithful_char h₁
  by_cases h₂ : b.toNat < 0xc2
  · rw [start_bad (.inl ⟨by omega, h₂⟩)]
    exact faithful_bad (by omega)
  by_cases h₃ : b.toNat < 0xe0
  · rw [start_two (by omega) h₃]
    exact faithful_pending (sound_two (by omega) h₃)
  by_cases h₄ : b.toNat < 0xf0
  · rw [start_three (by omega) h₄]
    exact faithful_pending (sound_three (by omega) h₄)
  by_cases h₅ : b.toNat < 0xf5
  · rw [start_four (by omega) h₅]
    exact faithful_pending (sound_four (by omega) h₅)
  · rw [start_bad (.inr (by omega))]
    exact faithful_bad (by omega)

theorem Pending.Sound.char {p : Pending} (hp : p.Sound) (hm : p.missing ≤ 1) {b : UInt8}
    (hb : p.low ≤ b.toNat ∧ b.toNat ≤ p.high) :
    String.utf8EncodeChar (Char.ofNat (p.value * 64 + b.toNat % 64)) = p.read ++ [b] :=
  hp.encode_completion [b]
    ⟨hb.1, hb.2, Nat.le_antisymm hp.missing_pos hm, fun _ hx => nomatch hx⟩

theorem Pending.Sound.next {p : Pending} (hp : p.Sound) (hm : ¬p.missing ≤ 1) {b : UInt8}
    (hb : p.low ≤ b.toNat ∧ b.toNat ≤ p.high) :
    Pending.Sound ⟨p.read ++ [b], p.value * 64 + b.toNat % 64, p.missing - 1, 0x80, 0xbf⟩ where
  missing_pos := by
    show 0 < p.missing - 1
    omega
  low_high := Nat.le_refl _
  read_high x hx := by
    rcases List.mem_append.mp hx with hx | hx
    · exact hp.read_high x hx
    · rw [List.mem_singleton.mp hx]
      exact Nat.le_trans hp.low_high hb.1
  encode_completion tail h := by
    match tail, h with
    | [], h => exact absurd (show p.missing - 1 = 0 from h) (by omega)
    | x :: rest, ⟨hx, hx', hl, ht⟩ =>
      have hl : rest.length + 1 = p.missing - 1 := hl
      -- a completion of the next state, with the byte before it, completes this one
      have hc : p.IsCompletion (b :: x :: rest) := by
        refine ⟨hb.1, hb.2, by simp only [List.length_cons]; omega, fun y hy => ?_⟩
        rcases List.mem_cons.mp hy with rfl | hy
        · exact ⟨hx, hx'⟩
        · exact ht y hy
      show String.utf8EncodeChar (Char.ofNat (completedValue p.value (b :: x :: rest))) =
        p.read ++ [b] ++ x :: rest
      rw [hp.encode_completion _ hc, List.append_assoc, List.singleton_append]

theorem step_faithful {s : Option Pending} (hs : ∀ p, s = some p → p.Sound) (b : UInt8) :
    Faithful (unread s ++ [b]) (step s b) := by
  match s with
  | none => exact start_faithful b
  | some p =>
    have hp : p.Sound := hs p rfl
    simp only [step]
    by_cases hb : p.low ≤ b.toNat ∧ b.toNat ≤ p.high
    · rw [if_pos hb]
      by_cases hm : p.missing ≤ 1
      · rw [if_pos hm]
        exact {
          sound := fun _ h => nomatch h
          bytes := by simp [Piece.bytes, unread, hp.char hm hb]
          bad_high := fun run hr => by simp at hr }
      · rw [if_neg hm]
        exact faithful_pending (hp.next hm hb)
    · rw [if_neg hb]
      -- the byte does not continue the character, so what was read is bad and the byte starts anew
      have h := start_faithful b
      exact {
        sound := h.sound
        bytes := by
          show p.read ++ (start b).1.flatMap Piece.bytes ++ unread (start b).2 = p.read ++ [b]
          rw [List.append_assoc, h.bytes]
        bad_high := fun run hr => by
          rcases List.mem_cons.mp hr with hr | hr
          · rw [Piece.bad.inj hr]
            exact hp.read_high
          · exact h.bad_high run hr }

theorem run_bytes {s : Option Pending} (hs : ∀ p, s = some p → p.Sound) (bs : Bytes) :
    (run s bs).flatMap Piece.bytes = unread s ++ bs := by
  induction bs generalizing s with
  | nil => cases s <;> simp [run, finish, unread, Piece.bytes]
  | cons b bs ih =>
    have h := step_faithful hs b
    rw [run, List.flatMap_append, ih h.sound, ← List.append_assoc, h.bytes, List.append_assoc,
      List.singleton_append]

theorem run_bad_high {s : Option Pending} (hs : ∀ p, s = some p → p.Sound) (bs : Bytes) :
    ∀ r, Piece.bad r ∈ run s bs → ∀ x ∈ r, 0x80 ≤ x.toNat := by
  induction bs generalizing s with
  | nil =>
    intro r hr
    match s with
    | none => exact nomatch hr
    | some p =>
      rw [Piece.bad.inj (List.mem_singleton.mp hr)]
      exact (hs p rfl).read_high
  | cons b bs ih =>
    intro r hr
    have h := step_faithful hs b
    rcases List.mem_append.mp hr with hr | hr
    · exact h.bad_high r hr
    · exact ih h.sound r hr

theorem pieces_bytes (bs : Bytes) : (pieces bs).flatMap Piece.bytes = bs :=
  run_bytes (s := none) (fun _ h => nomatch h) bs

theorem pieces_bad_high {bs r : Bytes} (hr : .bad r ∈ pieces bs) : ∀ x ∈ r, 0x80 ≤ x.toNat :=
  run_bad_high (s := none) (fun _ h => nomatch h) bs r hr

theorem run_completion {p : Pending} {tail : Bytes} (hp : 0 < p.missing)
    (ht : p.IsCompletion tail) (rest : Bytes) :
    run (some p) (tail ++ rest) =
      .char (Char.ofNat (completedValue p.value tail)) :: run none rest := by
  induction tail generalizing p with
  | nil => exact absurd ht (by simp only [Pending.IsCompletion]; omega)
  | cons b tail ih =>
    obtain ⟨hb, hb', hl, hx⟩ := ht
    rw [List.cons_append, run, step, if_pos ⟨hb, hb'⟩]
    match tail with
    | [] =>
      simp only [List.length_nil] at hl
      rw [if_pos (by omega)]
      rfl
    | x :: tail =>
      simp only [List.length_cons] at hl
      rw [if_neg (by omega), List.nil_append]
      have hm : 0 < p.missing - 1 := by omega
      exact ih (p := ⟨p.read ++ [b], p.value * 64 + b.toNat % 64, p.missing - 1, 0x80, 0xbf⟩) hm
        ⟨(hx x (List.mem_cons_self ..)).1, (hx x (List.mem_cons_self ..)).2,
          by show tail.length + 1 = p.missing - 1; omega,
          fun y hy => hx y (List.mem_cons_of_mem _ hy)⟩

theorem run_lead {b : UInt8} {p : Pending} {tail : Bytes} {c : Char}
    (hb : start b = ([], some p)) (hp : 0 < p.missing) (ht : p.IsCompletion tail)
    (hc : completedValue p.value tail = c.toNat) (rest : Bytes) :
    run none (b :: tail ++ rest) = .char c :: run none rest := by
  rw [List.cons_append, run, step, hb, List.nil_append, run_completion hp ht, hc, Char.ofNat_toNat]

theorem toNat_ofNat_byte {n : Nat} (h : n < 256) : (UInt8.ofNat n).toNat = n := by
  rw [UInt8.toNat_ofNat', Nat.mod_eq_of_lt h]

theorem run_utf8EncodeChar (c : Char) (rest : Bytes) :
    run none (String.utf8EncodeChar c ++ rest) = .char c :: run none rest := by
  have hc : c.toNat < 0xd800 ∨ 0xdfff < c.toNat ∧ c.toNat < 0x110000 := c.valid
  simp only [String.utf8EncodeChar, Char.toNat_val]
  by_cases h₁ : c.toNat ≤ 0x7f
  · have hb : (UInt8.ofNat c.toNat).toNat = c.toNat := toNat_ofNat_byte (by omega)
    rw [if_pos h₁, List.singleton_append, run, step, start_ascii (by omega), hb, Char.ofNat_toNat]
    rfl
  by_cases h₂ : c.toNat ≤ 0x7ff
  · have ha := toNat_ofNat_byte (n := c.toNat / 64 % 32 + 192) (by omega)
    have hb := toNat_ofNat_byte (n := c.toNat % 64 + 128) (by omega)
    rw [if_neg h₁, if_pos h₂]
    refine run_lead (start_two (by omega) (by omega)) Nat.one_pos ?_ ?_ rest
    · refine ⟨?_, ?_, rfl, nofun⟩ <;> simp only [hb] <;> omega
    · simp only [completedValue, List.foldl_cons, List.foldl_nil]
      omega
  by_cases h₃ : c.toNat ≤ 0xffff
  · have ha := toNat_ofNat_byte (n := c.toNat / 4096 % 16 + 224) (by omega)
    have hb := toNat_ofNat_byte (n := c.toNat / 64 % 64 + 128) (by omega)
    have hd := toNat_ofNat_byte (n := c.toNat % 64 + 128) (by omega)
    rw [if_neg h₁, if_neg h₂, if_pos h₃]
    refine run_lead (start_three (by omega) (by omega)) Nat.two_pos ?_ ?_ rest
    · refine ⟨?_, ?_, rfl, fun x hx => ?_⟩
      · simp only [ha, hb]
        split <;> omega
      · simp only [ha, hb]
        split <;> omega
      · rw [List.mem_singleton.mp hx]
        omega
    · simp only [completedValue, List.foldl_cons, List.foldl_nil]
      omega
  · have ha := toNat_ofNat_byte (n := c.toNat / 262144 % 8 + 240) (by omega)
    have hb := toNat_ofNat_byte (n := c.toNat / 4096 % 64 + 128) (by omega)
    have hd := toNat_ofNat_byte (n := c.toNat / 64 % 64 + 128) (by omega)
    have he := toNat_ofNat_byte (n := c.toNat % 64 + 128) (by omega)
    rw [if_neg h₁, if_neg h₂, if_neg h₃]
    refine run_lead (start_four (by omega) (by omega)) (Nat.succ_pos 2) ?_ ?_ rest
    · refine ⟨?_, ?_, rfl, fun x hx => ?_⟩
      · simp only [ha, hb]
        split <;> omega
      · simp only [ha, hb]
        split <;> omega
      · rcases List.mem_cons.mp hx with rfl | hx
        · omega
        · rw [List.mem_singleton.mp hx]
          omega
    · simp only [completedValue, List.foldl_cons, List.foldl_nil]
      omega

theorem pieces_encode (t : Text) : pieces (encode t) = t.map Piece.char := by
  unfold pieces
  induction t with
  | nil => rfl
  | cons c t ih =>
    rw [encode, List.flatMap_cons, run_utf8EncodeChar, List.map_cons]
    exact congrArg (Piece.char c :: ·) ih

theorem eq_encode_of_pieces {bs : Bytes} {t : Text} (h : pieces bs = t.map Piece.char) :
    bs = encode t := by
  rw [← pieces_bytes bs, h, List.flatMap_map]
  rfl

theorem mapM_char?_eq_some_iff {ps : List Piece} {t : Text} :
    ps.mapM Piece.char? = some t ↔ ps = t.map Piece.char := by
  induction ps generalizing t with
  | nil => cases t <;> simp
  | cons p ps ih =>
    rw [List.mapM_cons]
    cases p with
    | bad run => cases t <;> simp [Piece.char?]
    | char c =>
      simp only [Piece.char?, Option.bind_eq_bind, Option.bind_some, Option.bind_eq_some_iff, ih]
      constructor
      · rintro ⟨u, rfl, h⟩
        rw [← Option.some.inj h, List.map_cons]
      · intro h
        obtain ⟨d, u, rfl, hd, hu⟩ := List.map_eq_cons_iff.mp h.symm
        exact ⟨u, hu.symm, by rw [Piece.char.inj hd]; rfl⟩

theorem decode?_eq_some_iff {bs : Bytes} {t : Text} : decode? bs = some t ↔ bs = encode t := by
  rw [decode?, mapM_char?_eq_some_iff]
  exact ⟨eq_encode_of_pieces, fun h => h ▸ pieces_encode t⟩

theorem decode?_eq_none_iff {bs : Bytes} : decode? bs = none ↔ ∀ t, bs ≠ encode t := by
  rw [Option.eq_none_iff_forall_ne_some]
  exact forall_congr' fun t => not_congr decode?_eq_some_iff

theorem lossy_encode (t : Text) : lossy (encode t) = t := by
  rw [lossy, pieces_encode, List.map_map]
  exact List.map_id' t

theorem pieces_eq_of_lossy {ps : List Piece} (h : replacement ∉ ps.map (·.char?.getD replacement)) :
    ps = (ps.map (·.char?.getD replacement)).map Piece.char := by
  induction ps with
  | nil => rfl
  | cons p ps ih =>
    rw [List.map_cons, List.mem_cons, not_or] at h
    have ih := ih h.2
    cases p with
    | char c => simpa [Piece.char?] using ih
    | bad run => exact absurd rfl h.1

theorem lossy_eq_iff {bs : Bytes} {t : Text} (ht : replacement ∉ t) :
    lossy bs = t ↔ bs = encode t := by
  refine ⟨fun h => eq_encode_of_pieces ?_, fun h => h ▸ lossy_encode t⟩
  subst h
  exact pieces_eq_of_lossy ht

theorem utf8EncodeChar_high {c : Char} (hc : 0x80 ≤ c.toNat) :
    ∀ b ∈ String.utf8EncodeChar c, 0x80 ≤ b.toNat := by
  have hn : c.toNat < 0x110000 := by
    rcases c.valid with h | h
    · exact Nat.lt_trans h (by decide)
    · exact h.2
  have hbyte {n : Nat} (h : 0x80 ≤ n) (h' : n < 256) : 0x80 ≤ (UInt8.ofNat n).toNat := by
    rwa [toNat_ofNat_byte h']
  simp only [String.utf8EncodeChar, Char.toNat_val]
  rw [if_neg (by omega)]
  by_cases h₂ : c.toNat ≤ 0x7ff
  · rw [if_pos h₂]
    simp only [List.mem_cons, List.not_mem_nil, or_false, forall_eq_or_imp, forall_eq]
    exact ⟨hbyte (by omega) (by omega), hbyte (by omega) (by omega)⟩
  by_cases h₃ : c.toNat ≤ 0xffff
  · rw [if_neg h₂, if_pos h₃]
    simp only [List.mem_cons, List.not_mem_nil, or_false, forall_eq_or_imp, forall_eq]
    exact ⟨hbyte (by omega) (by omega), hbyte (by omega) (by omega), hbyte (by omega) (by omega)⟩
  · rw [if_neg h₂, if_neg h₃]
    simp only [List.mem_cons, List.not_mem_nil, or_false, forall_eq_or_imp, forall_eq]
    exact ⟨hbyte (by omega) (by omega), hbyte (by omega) (by omega), hbyte (by omega) (by omega),
      hbyte (by omega) (by omega)⟩

theorem mem_lossy_iff {bs : Bytes} {b : UInt8} (hb : b.toNat < 0x80) :
    Char.ofNat b.toNat ∈ lossy bs ↔ b ∈ bs := by
  have hc : (Char.ofNat b.toNat).toNat = b.toNat := toNat_ofNat (Or.inl (by omega))
  have hbytes : String.utf8EncodeChar (Char.ofNat b.toNat) = [b] := by
    rw [utf8EncodeChar_ascii (by omega), hc, UInt8.ofNat_toNat]
  constructor
  · intro h
    obtain ⟨p, hp, hpc⟩ := List.mem_map.mp h
    rw [← pieces_bytes bs]
    cases p with
    | char c =>
      rw [show c = Char.ofNat b.toNat from hpc] at hp
      have hb : b ∈ (Piece.char (Char.ofNat b.toNat)).bytes := by
        rw [Piece.bytes, hbytes]
        exact List.mem_singleton_self b
      exact List.mem_flatMap.mpr ⟨_, hp, hb⟩
    | bad run =>
      have hr : replacement.toNat = b.toNat := by rw [← hc, ← hpc]; rfl
      exact absurd (show (0xfffd : Nat) = b.toNat from hr) (by omega)
  · intro h
    rw [← pieces_bytes bs] at h
    obtain ⟨p, hp, hbp⟩ := List.mem_flatMap.mp h
    cases p with
    | char c =>
      have hlow : c.toNat < 0x80 := by
        by_cases hlow : c.toNat < 0x80
        · exact hlow
        · exact absurd (utf8EncodeChar_high (by omega) b hbp) (by omega)
      rw [Piece.bytes, utf8EncodeChar_ascii hlow, List.mem_singleton] at hbp
      refine List.mem_map.mpr ⟨_, hp, ?_⟩
      rw [hbp, toNat_ofNat_byte (by omega), Char.ofNat_toNat]
      rfl
    | bad run => exact absurd (pieces_bad_high hp b hbp) (by omega)

theorem mem_encode_iff {t : Text} {b : UInt8} (hb : b.toNat < 0x80) :
    b ∈ encode t ↔ Char.ofNat b.toNat ∈ t := by
  rw [← mem_lossy_iff hb, lossy_encode]

theorem encode_append (s t : Text) : encode (s ++ t) = encode s ++ encode t :=
  List.flatMap_append

theorem encode_eq_nil_iff {t : Text} : encode t = [] ↔ t = [] := by
  constructor
  · intro h
    rw [← lossy_encode t, h]
    rfl
  · rintro rfl
    rfl

end MemoryProbe.Utf8
