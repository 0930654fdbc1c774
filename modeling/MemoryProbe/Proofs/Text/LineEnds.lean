import MemoryProbe.MountTable.Basic
import MemoryProbe.Proofs.Text.Lines
import MemoryProbe.Proofs.Text.Lossy

/-! Line feeds that are given carriage returns. The lines of a text stay what they are, since a
return before a feed belongs to the line end, and it makes no difference whether the returns are put
into the bytes of a text or into the text itself. -/

namespace MemoryProbe

def withReturns {α : Type} [DecidableEq α] (ret feed : α) (l : List α) : List α :=
  l.flatMap fun a => if a = feed then [ret, feed] else [a]

section
variable {α : Type} [DecidableEq α] {ret feed : α} {w : List α}

theorem withReturns_of_not_mem (h : feed ∉ w) : withReturns ret feed w = w := by
  induction w with
  | nil => rfl
  | cons a w ih =>
    rw [List.mem_cons, not_or] at h
    rw [withReturns, List.flatMap_cons, if_neg (Ne.symm h.1)]
    exact congrArg (a :: ·) (ih h.2)

theorem withReturns_append_cons (h : feed ∉ w) (rest : List α) :
    withReturns ret feed (w ++ feed :: rest) =
      (w ++ [ret]) ++ feed :: withReturns ret feed rest := by
  have hw : withReturns ret feed w = w := withReturns_of_not_mem h
  rw [withReturns, List.flatMap_append, List.flatMap_cons, if_pos rfl, ← List.append_cons]
  exact congrArg (· ++ ret :: feed :: withReturns ret feed rest) hw

end

namespace Text
variable {t : Text}

def returned (t : Text) : Text := withReturns '\r' '\n' t

theorem dropReturn_of_not_mem (h : '\r' ∉ t) : dropReturn t = t :=
  dropReturn_of_ne fun hlast => h (List.mem_of_getLast? hlast)

theorem lines_returned (h : '\r' ∉ t) : lines (returned t) = lines t := by
  induction t using separator_induction '\n' with
  | word line hline => rw [returned, withReturns_of_not_mem hline]
  | append line rest hline ih =>
    simp only [List.mem_append, List.mem_cons, not_or] at h
    obtain ⟨hline', -, hrest⟩ := h
    have hreturn : '\n' ∉ line ++ ['\r'] := by
      rw [List.mem_append, not_or]
      exact ⟨hline, by decide⟩
    have hreturned : returned (line ++ '\n' :: rest) =
        (line ++ ['\r']) ++ '\n' :: returned rest := withReturns_append_cons hline rest
    rw [hreturned, lines_append_cons hreturn, lines_append_cons hline, dropReturn_append_return,
      dropReturn_of_not_mem hline', ih hrest]

end Text

namespace Bytes

def carriageReturn : UInt8 := 0x0d

def returned (bs : Bytes) : Bytes := withReturns carriageReturn MountTable.lineFeed bs

end Bytes

namespace Utf8
open MountTable (lineFeed)
variable {b : UInt8} {bs : Bytes} {t : Text}

theorem decode?_cons (hb : b.toNat < 0x80) (rest : Bytes) :
    decode? (b :: rest) = (decode? rest).map (Char.ofNat b.toNat :: ·) := by
  have hpieces : pieces (b :: rest) = .char (Char.ofNat b.toNat) :: pieces rest :=
    pieces_append_cons hb [] rest
  rw [decode?, hpieces, List.mapM_cons, decode?]
  cases (pieces rest).mapM Piece.char? <;> rfl

theorem decode?_append_cons (hb : b.toNat < 0x80) (bs rest : Bytes) :
    decode? (bs ++ b :: rest) =
      (decode? bs).bind fun s => (decode? (b :: rest)).map (s ++ ·) := by
  have hpieces : pieces (bs ++ b :: rest) = pieces bs ++ pieces (b :: rest) := by
    rw [pieces_append_cons hb]
    exact congrArg (pieces bs ++ ·) (pieces_append_cons hb [] rest).symm
  rw [decode?, hpieces, List.mapM_append, decode?, decode?]
  cases (pieces bs).mapM Piece.char? with
  | none => rfl
  | some s => cases (pieces (b :: rest)).mapM Piece.char? <;> rfl

theorem not_lineFeed_of_decode? (h : lineFeed ∉ bs) (hd : decode? bs = some t) :
    '\n' ∉ t := by
  rw [decode?_eq_some_iff.mp hd] at h
  exact mt (mem_encode_iff (b := lineFeed) (by decide)).mpr h

theorem not_return_of_decode? (h : Bytes.carriageReturn ∉ bs) (hd : decode? bs = some t) :
    '\r' ∉ t := by
  rw [decode?_eq_some_iff.mp hd] at h
  exact mt (mem_encode_iff (b := Bytes.carriageReturn) (by decide)).mpr h

/-- A carriage return before a line feed is a character of its own, so it spoils no other. -/
theorem decode?_returned (bs : Bytes) :
    decode? bs.returned = (decode? bs).map Text.returned := by
  have hreturn : Bytes.carriageReturn.toNat < 0x80 := by decide
  have hfeed : lineFeed.toNat < 0x80 := by decide
  induction bs using separator_induction lineFeed with
  | word line hline =>
    rw [Bytes.returned, withReturns_of_not_mem hline]
    cases hd : decode? line with
    | none => rfl
    | some t =>
      rw [Option.map_some, Text.returned, withReturns_of_not_mem (not_lineFeed_of_decode? hline hd)]
  | append line rest hline ih =>
    have hbytes : Bytes.returned (line ++ lineFeed :: rest) =
        (line ++ [Bytes.carriageReturn]) ++ lineFeed :: Bytes.returned rest :=
      withReturns_append_cons hline rest
    rw [hbytes, ← List.append_cons, decode?_append_cons hreturn, decode?_append_cons hfeed,
      decode?_cons hreturn, decode?_cons hfeed, decode?_cons hfeed, ih]
    cases hd : decode? line with
    | none => rfl
    | some s =>
      cases decode? rest with
      | none => rfl
      | some t =>
        have ht : Text.returned (s ++ '\n' :: t) = (s ++ ['\r']) ++ '\n' :: Text.returned t :=
          withReturns_append_cons (not_lineFeed_of_decode? hline hd) t
        rw [← List.append_cons] at ht
        exact congrArg some ht.symm

end Utf8
end MemoryProbe
