import MemoryProbe.Files.Path
import MemoryProbe.Proofs.Text.Split

/-! Two spellings of one path differ in slashes and dots alone: all their other bytes are the same
and in the same order. -/

namespace MemoryProbe.Path
variable {p q : Path}

theorem sameAs_self (p : Path) : p.sameAs p = true := sameAs_iff.mpr ⟨rfl, rfl⟩

theorem sameAs_comm (p q : Path) : p.sameAs q = q.sameAs p := by
  rw [Bool.eq_iff_iff, sameAs_iff, sameAs_iff, eq_comm, @eq_comm _ p.components]

def isSolid (b : UInt8) : Bool := b != slash && b != 0x2e

theorem filter_isSolid_of_not_isProper {piece : Bytes} (h : isProper piece = false) :
    piece.filter isSolid = [] := by
  simp only [isProper, Bool.and_eq_false_iff, bne_eq_false_iff_eq] at h
  rcases h with rfl | rfl <;> rfl

theorem filter_isSolid_filter_isProper (pieces : List Bytes) :
    (pieces.filter isProper).flatten.filter isSolid = pieces.flatten.filter isSolid := by
  induction pieces with
  | nil => rfl
  | cons piece pieces ih =>
    rw [List.flatten_cons, List.filter_append, ← ih]
    cases hp : isProper piece with
    | true => rw [List.filter_cons_of_pos hp, List.flatten_cons, List.filter_append]
    | false =>
      rw [List.filter_cons_of_neg (ne_true_of_eq_false hp), filter_isSolid_of_not_isProper hp,
        List.nil_append]

theorem filter_isSolid_pieces (p : Path) :
    p.pieces.flatten.filter isSolid = p.bytes.filter isSolid := by
  rw [pieces, List.splitOn_eq_splitOnP, flatten_splitOnP, List.filter_filter]
  refine List.filter_congr fun b _ => ?_
  show (isSolid b && b != slash) = isSolid b
  rw [isSolid, Bool.and_right_comm, Bool.and_self]

theorem filter_isSolid_components (p : Path) :
    p.components.flatten.filter isSolid = p.bytes.filter isSolid := by
  rw [← filter_isSolid_pieces p, components]
  cases p.pieces with
  | nil => rfl
  | cons first rest =>
    have hfirst : (if first = [] then [] else [first]).flatten = first := by
      by_cases h : first = []
      · rw [if_pos h, h]
        rfl
      · rw [if_neg h, List.flatten_singleton]
    rw [List.flatten_append, List.filter_append, filter_isSolid_filter_isProper, hfirst,
      List.flatten_cons, List.filter_append]

theorem filter_isSolid_eq_of_sameAs (h : p.sameAs q = true) :
    p.bytes.filter isSolid = q.bytes.filter isSolid := by
  rw [← filter_isSolid_components p, ← filter_isSolid_components q, (sameAs_iff.mp h).2]

end MemoryProbe.Path
