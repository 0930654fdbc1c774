import Mathlib.Logic.Relation
import MemoryProbe.Proofs.Files.Path

/-! The spellings of a path. A path keeps its components when a slash is doubled, when a slash is put
at its end, and when a slash and a dot are put in before a slash or at the end. Two paths are the same
exactly when such changes, in any number and in either direction, lead from one to the other. -/

namespace MemoryProbe.Path
variable {p q r : Path}

/-- The pieces that count: those that are not empty, and a dot only where it begins a relative
path. -/
def counted (p : Path) : List Bytes :=
  (p.pieces.zipIdx.filter fun (piece, i) =>
    piece ≠ [] ∧ (piece = dot → i = 0 ∧ p.bytes.head? ≠ some slash)).map Prod.fst

def Same (p q : Path) : Prop :=
  (p.bytes.head? = some slash ↔ q.bytes.head? = some slash) ∧ p.counted = q.counted

theorem isAbsolute_iff : p.isAbsolute = true ↔ p.bytes.head? = some slash := beq_iff_eq

theorem isProper_eq_decide (piece : Bytes) : isProper piece = decide (piece ≠ [] ∧ piece ≠ dot) := by
  rw [Bool.eq_iff_iff, decide_eq_true_iff, isProper, Bool.and_eq_true, bne_iff_ne, bne_iff_ne]

theorem pieces_append_cons (a b : Bytes) :
    pieces ⟨a ++ slash :: b⟩ = pieces ⟨a⟩ ++ pieces ⟨b⟩ :=
  List.splitOn_append_cons_self a b

theorem head?_ne_slash_of_pieces {first : Bytes} {rest : List Bytes} (h : p.pieces = first :: rest)
    (hne : first ≠ []) : p.bytes.head? ≠ some slash := by
  intro hhead
  obtain ⟨bytes, hb⟩ := List.head?_eq_some_iff.mp hhead
  have hsplit : p.pieces = [[]] ++ pieces ⟨bytes⟩ := by
    rw [← List.nil_append (slash :: bytes)] at hb
    rw [pieces, hb]
    exact pieces_append_cons [] bytes
  rw [h] at hsplit
  exact hne (List.cons.inj hsplit).1

theorem map_fst_filter_zipIdx {c : Bytes × Nat → Bool}
    (hc : ∀ piece i, c (piece, i + 1) = isProper piece) (pieces : List Bytes) (i : Nat) :
    ((pieces.zipIdx (i + 1)).filter c).map Prod.fst = pieces.filter isProper := by
  induction pieces generalizing i with
  | nil => rfl
  | cons piece pieces ih =>
    rw [List.zipIdx_cons, List.filter_cons, hc, List.filter_cons, ← ih (i + 1)]
    cases isProper piece <;> rfl

theorem components_eq_counted (p : Path) : p.components = p.counted := by
  rw [components, counted]
  cases h : p.pieces with
  | nil => rfl
  | cons first rest =>
    rw [List.zipIdx_cons, List.filter_cons]
    have hrest := map_fst_filter_zipIdx (c := fun (piece, i) =>
      decide (piece ≠ [] ∧ (piece = dot → i = 0 ∧ p.bytes.head? ≠ some slash)))
      (fun piece i => by rw [isProper_eq_decide]; simp) rest 0
    by_cases hfirst : first = []
    · simpa [hfirst] using hrest.symm
    · have hhead := head?_ne_slash_of_pieces h hfirst
      simpa [hfirst, hhead] using hrest.symm

theorem sameAs_iff_same : p.sameAs q = true ↔ Same p q := by
  rw [sameAs_iff, Same, components_eq_counted, components_eq_counted, ← isAbsolute_iff,
    ← isAbsolute_iff, Bool.eq_iff_iff]

theorem sameAs_trans (h : p.sameAs q = true) (h' : q.sameAs r = true) : p.sameAs r = true := by
  rw [sameAs_iff] at h h' ⊢
  exact ⟨h.1.trans h'.1, h.2.trans h'.2⟩

theorem sameAs_congr {p' q' : Path} (hp : p.sameAs p' = true) (hq : q.sameAs q' = true) :
    p'.sameAs q' = p.sameAs q := by
  rw [sameAs_iff] at hp hq
  rw [Path.sameAs, Path.sameAs, hp.1, hp.2, hq.1, hq.2]

inductive Respells : Path → Path → Prop
  | double (before after : Bytes) :
    Respells ⟨before ++ slash :: after⟩ ⟨before ++ slash :: slash :: after⟩
  | close {path : Bytes} (h : path ≠ []) : Respells ⟨path⟩ ⟨path ++ [slash]⟩
  | stay {before after : Bytes} (hb : before ≠ []) (ha : ∀ b, after.head? = some b → b = slash) :
    Respells ⟨before ++ after⟩ ⟨before ++ slash :: (dot ++ after)⟩

theorem components_append (a : Bytes) (b : Path) :
    components ⟨a ++ slash :: b.bytes⟩ = components ⟨a⟩ ++ b.pieces.filter isProper := by
  rw [components, pieces_append_cons, components]
  cases h : pieces ⟨a⟩ with
  | nil => exact absurd h (List.splitOn_ne_nil _ _)
  | cons first rest =>
    dsimp only [List.cons_append]
    rw [List.filter_append, List.append_assoc]

theorem head?_append_eq {a : Bytes} (h : a ≠ []) (b : Bytes) : (a ++ b).head? = a.head? := by
  obtain ⟨x, a, rfl⟩ := List.exists_cons_of_ne_nil h
  rfl

namespace Respells

theorem head?_bytes_eq (h : Respells p q) : p.bytes.head? = q.bytes.head? := by
  cases h with
  | double before after => cases before <;> rfl
  | close h => rw [head?_append_eq h]
  | stay hb ha => rw [head?_append_eq hb, head?_append_eq hb]

theorem components_eq (h : Respells p q) : p.components = q.components := by
  cases h with
  | double before after =>
    rw [components_append before ⟨after⟩, components_append before ⟨slash :: after⟩]
    have hpieces : pieces ⟨slash :: after⟩ = [] :: pieces ⟨after⟩ := pieces_append_cons [] after
    rw [hpieces]
    rfl
  | @close path h =>
    rw [components_append path ⟨[]⟩]
    exact (List.append_nil _).symm
  | @stay before after hb ha =>
    rw [components_append before ⟨dot ++ after⟩]
    cases after with
    | nil =>
      rw [List.append_nil]
      exact (List.append_nil _).symm
    | cons b rest =>
      obtain rfl := ha b rfl
      rw [components_append before ⟨rest⟩, pieces_append_cons]
      rfl

theorem sameAs (h : Respells p q) : p.sameAs q = true :=
  sameAs_iff.mpr ⟨by rw [isAbsolute, isAbsolute, h.head?_bytes_eq], h.components_eq⟩

end Respells

def Respelled : Path → Path → Prop := Relation.EqvGen Respells

theorem Respelled.sameAs (h : Respelled p q) : p.sameAs q = true := by
  induction h with
  | rel p q h => exact h.sameAs
  | refl p => exact sameAs_self p
  | symm p q _ ih => rwa [sameAs_comm]
  | trans p q r _ _ ih ih' => exact sameAs_trans ih ih'

/-! Every path can be changed into one spelling that its components give. -/

def behindSlashes (pieces : List Bytes) : Bytes := pieces.flatMap (slash :: ·)

def normal (absolute : Bool) (components : List Bytes) : Path :=
  if absolute then ⟨slash :: behindSlashes components⟩
  else ⟨components.head?.getD [] ++ behindSlashes components.tail⟩

theorem head?_behindSlashes (pieces : List Bytes) :
    ∀ b, (behindSlashes pieces).head? = some b → b = slash := by
  cases pieces with
  | nil => exact nofun
  | cons piece pieces => exact fun b hb => (Option.some.inj hb).symm

theorem intercalate_slash (first : Bytes) (rest : List Bytes) :
    [slash].intercalate (first :: rest) = first ++ behindSlashes rest := by
  induction rest generalizing first with
  | nil => rw [List.intercalate_singleton, behindSlashes, List.flatMap_nil, List.append_nil]
  | cons next rest ih =>
    rw [List.intercalate_cons_cons, ih, List.append_assoc]
    rfl

theorem respelled_insert_piece {start piece rest : Bytes} (hs : start ≠ [])
    (h : isProper piece = false) (hr : ∀ b, rest.head? = some b → b = slash) :
    Respelled ⟨start ++ rest⟩ ⟨start ++ slash :: (piece ++ rest)⟩ := by
  simp only [isProper, Bool.and_eq_false_iff, bne_eq_false_iff_eq] at h
  rcases h with rfl | rfl
  · cases rest with
    | nil =>
      rw [List.append_nil]
      exact .rel _ _ (.close hs)
    | cons b rest =>
      obtain rfl := hr b rfl
      exact .rel _ _ (.double start rest)
  · exact .rel _ _ (.stay hs hr)

theorem respelled_filter_isProper {start : Bytes} (hs : start ≠ []) (pieces : List Bytes) :
    Respelled ⟨start ++ behindSlashes (pieces.filter isProper)⟩
      ⟨start ++ behindSlashes pieces⟩ := by
  induction pieces generalizing start with
  | nil => exact .refl _
  | cons piece pieces ih =>
    cases h : isProper piece with
    | true =>
      have hcons (l : List Bytes) :
          start ++ behindSlashes (piece :: l) = (start ++ slash :: piece) ++ behindSlashes l := by
        rw [List.append_assoc]
        rfl
      rw [List.filter_cons_of_pos h, hcons, hcons]
      exact ih (List.append_ne_nil_of_left_ne_nil hs _)
    | false =>
      rw [List.filter_cons_of_neg (ne_true_of_eq_false h)]
      exact .trans _ _ _ (ih hs) (respelled_insert_piece hs h (head?_behindSlashes pieces))

theorem bytes_eq_of_pieces {first : Bytes} {rest : List Bytes} (h : p.pieces = first :: rest) :
    p.bytes = first ++ behindSlashes rest := by
  rw [← intercalate_slash, ← h, pieces, List.intercalate_splitOn]

theorem respelled_normal_of_absolute {first : Bytes} {rest : List Bytes} :
    Respelled (normal true ((first :: rest).filter isProper))
      ⟨behindSlashes (first :: rest)⟩ := by
  -- the root is written twice so that the pieces have a start to stand behind
  have hroot : Respelled ⟨behindSlashes (first :: rest)⟩ ⟨slash :: behindSlashes (first :: rest)⟩ :=
    .rel _ _ (.double [] (first ++ behindSlashes rest))
  have hfilter := respelled_filter_isProper (List.cons_ne_nil slash []) (first :: rest)
  exact .trans _ _ _ hfilter (.symm _ _ hroot)

theorem respelled_normal (p : Path) : Respelled (normal p.isAbsolute p.components) p := by
  obtain ⟨first, rest, hp⟩ := List.exists_cons_of_ne_nil (List.splitOn_ne_nil slash p.bytes)
  have hbytes : p = ⟨first ++ behindSlashes rest⟩ := congrArg Path.mk (bytes_eq_of_pieces hp)
  have hcomponents : p.components = (if first = [] then [] else [first]) ++ rest.filter isProper := by
    rw [components, pieces, hp]
  by_cases hfirst : first = []
  · subst hfirst
    rw [hcomponents, hbytes]
    cases rest with
    | nil => exact .refl _
    | cons next rest => exact respelled_normal_of_absolute
  · have habsolute : p.isAbsolute = false := by
      rw [← Bool.not_eq_true, isAbsolute_iff]
      exact head?_ne_slash_of_pieces hp hfirst
    rw [hcomponents, habsolute, if_neg hfirst, hbytes]
    exact respelled_filter_isProper hfirst rest

theorem respelled_iff : Respelled p q ↔ p.sameAs q = true := by
  refine ⟨Respelled.sameAs, fun h => ?_⟩
  rw [sameAs_iff] at h
  have hp := respelled_normal p
  rw [h.1, h.2] at hp
  exact .trans _ _ _ (.symm _ _ hp) (respelled_normal q)

end MemoryProbe.Path
