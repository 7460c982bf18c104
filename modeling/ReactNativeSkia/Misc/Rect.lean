import Mathlib.Tactic.Common
import Mathlib.Order.Lattice
import Mathlib.Data.Int.Order.Basic

/-!
# Integer rectangles and the pixels they cover

Half-open rectangles with integer edges, the pixels inside them, and lists of rectangles
read as the union of their pixels. An inverted or degenerate rectangle is empty; it has no
pixel, is contained in nothing and contains nothing.
-/

namespace ReactNativeSkia

/-- A pixel, named by the coordinates of its top left corner. -/
abbrev Pixel := Int × Int

/-- A half-open rectangle with integer edges. -/
structure Rect where
  left : Int
  top : Int
  right : Int
  bottom : Int
  deriving DecidableEq, Repr

namespace Rect

def empty : Rect := ⟨0, 0, 0, 0⟩

def xywh (x y w h : Int) : Rect := ⟨x, y, x + w, y + h⟩

def width (r : Rect) : Int := r.right - r.left

def height (r : Rect) : Int := r.bottom - r.top

/-- No width or no height. -/
def isEmpty (r : Rect) : Bool := decide (r.right ≤ r.left) || decide (r.bottom ≤ r.top)

/-- `contains a b`: both are non-empty and `b` lies within `a`. -/
def contains (a b : Rect) : Bool :=
  !b.isEmpty && !a.isEmpty && decide (a.left ≤ b.left) && decide (a.top ≤ b.top) &&
    decide (b.right ≤ a.right) && decide (b.bottom ≤ a.bottom)

/-- The common part, possibly inverted. -/
def inter (a b : Rect) : Rect :=
  ⟨max a.left b.left, max a.top b.top, min a.right b.right, min a.bottom b.bottom⟩

/-- The common part when it has a pixel. -/
def intersect (a b : Rect) : Option Rect :=
  if (a.inter b).isEmpty then none else some (a.inter b)

/-- Smallest rectangle around both; an empty one adds nothing. -/
def join (a b : Rect) : Rect :=
  if b.isEmpty then a else if a.isEmpty then b else
    ⟨min a.left b.left, min a.top b.top, max a.right b.right, max a.bottom b.bottom⟩

def offset (r : Rect) (dx dy : Int) : Rect :=
  ⟨r.left + dx, r.top + dy, r.right + dx, r.bottom + dy⟩

instance : Membership Pixel Rect where
  mem r p := r.left ≤ p.1 ∧ p.1 < r.right ∧ r.top ≤ p.2 ∧ p.2 < r.bottom

theorem mem_iff (r : Rect) (p : Pixel) :
    p ∈ r ↔ r.left ≤ p.1 ∧ p.1 < r.right ∧ r.top ≤ p.2 ∧ p.2 < r.bottom := Iff.rfl

instance (r : Rect) (p : Pixel) : Decidable (p ∈ r) :=
  inferInstanceAs (Decidable (_ ∧ _ ∧ _ ∧ _))

theorem isEmpty_eq_false_iff (r : Rect) :
    r.isEmpty = false ↔ r.left < r.right ∧ r.top < r.bottom := by
  simp [isEmpty]

theorem isEmpty_eq_false_of_mem {r : Rect} {p : Pixel} (h : p ∈ r) : r.isEmpty = false := by
  rw [mem_iff] at h
  rw [isEmpty_eq_false_iff]
  omega

/-- A rectangle is non-empty exactly when some pixel lies in it. -/
theorem isEmpty_eq_false_iff_exists_mem (r : Rect) : r.isEmpty = false ↔ ∃ p : Pixel, p ∈ r := by
  constructor
  · intro h
    rw [isEmpty_eq_false_iff] at h
    exact ⟨(r.left, r.top), by rw [mem_iff]; omega⟩
  · rintro ⟨p, hp⟩
    exact isEmpty_eq_false_of_mem hp

theorem not_mem_empty (p : Pixel) : ¬ p ∈ empty := by
  rw [mem_iff]
  simp only [empty]
  omega

theorem mem_of_contains {a b : Rect} (h : a.contains b = true) {p : Pixel} (hp : p ∈ b) :
    p ∈ a := by
  simp only [contains, Bool.and_eq_true, decide_eq_true_eq] at h
  rw [mem_iff] at hp ⊢
  omega

theorem contains_iff (a b : Rect) :
    a.contains b = true ↔ (b.left < b.right ∧ b.top < b.bottom) ∧
      a.left ≤ b.left ∧ a.top ≤ b.top ∧ b.right ≤ a.right ∧ b.bottom ≤ a.bottom := by
  simp only [contains, isEmpty, Bool.and_eq_true, Bool.not_eq_true', Bool.or_eq_false_iff,
    decide_eq_true_eq, decide_eq_false_iff_not]
  omega

/-- `contains` decides whether a non-empty rectangle lies within another one. -/
theorem contains_iff_forall_mem {a b : Rect} (hb : b.isEmpty = false) :
    a.contains b = true ↔ ∀ p : Pixel, p ∈ b → p ∈ a := by
  constructor
  · intro h p hp
    exact mem_of_contains h hp
  · intro h
    rw [isEmpty_eq_false_iff] at hb
    -- two opposite corner pixels give the four edges
    have htl := h (b.left, b.top) (by rw [mem_iff]; omega)
    have hbr := h (b.right - 1, b.bottom - 1) (by rw [mem_iff]; omega)
    rw [mem_iff] at htl hbr
    rw [contains_iff]
    omega

theorem contains_trans {a b c : Rect} (hab : a.contains b = true) (hbc : b.contains c = true) :
    a.contains c = true := by
  rw [contains_iff] at *
  omega

theorem contains_antisymm {a b : Rect} (hab : a.contains b = true) (hba : b.contains a = true) :
    a = b := by
  obtain ⟨al, at', ar, ab⟩ := a
  obtain ⟨bl, bt, br, bb⟩ := b
  simp only [contains_iff] at hab hba
  simp only [mk.injEq]
  omega

theorem contains_self {r : Rect} (hr : r.isEmpty = false) : r.contains r = true := by
  rw [contains_iff_forall_mem hr]
  intro p hp
  exact hp

theorem contains_self_of_contains {a b : Rect} (h : a.contains b = true) :
    a.contains a = true := by
  rw [contains_iff] at *
  omega

@[simp] theorem mem_inter (a b : Rect) (p : Pixel) : p ∈ a.inter b ↔ p ∈ a ∧ p ∈ b := by
  simp only [mem_iff, inter]
  omega

/-- `intersect` answers with the common part, and only when that part has a pixel. -/
theorem intersect_eq_some_iff (a b r : Rect) :
    a.intersect b = some r ↔ r = a.inter b ∧ ∃ p : Pixel, p ∈ a ∧ p ∈ b := by
  simp only [← mem_inter, ← isEmpty_eq_false_iff_exists_mem]
  unfold intersect
  cases h : (a.inter b).isEmpty with
  | true => simp
  | false => simp [eq_comm]

theorem intersect_isSome_iff (a b : Rect) :
    (a.intersect b).isSome = true ↔ ∃ p : Pixel, p ∈ a ∧ p ∈ b := by
  rw [Option.isSome_iff_exists]
  constructor
  · rintro ⟨r, hr⟩
    exact ((intersect_eq_some_iff a b r).mp hr).2
  · intro h
    exact ⟨a.inter b, (intersect_eq_some_iff a b _).mpr ⟨rfl, h⟩⟩

@[simp] theorem mem_offset (r : Rect) (dx dy : Int) (p : Pixel) :
    p ∈ r.offset dx dy ↔ (p.1 - dx, p.2 - dy) ∈ r := by
  simp only [mem_iff, offset]
  omega

@[simp] theorem isEmpty_offset (r : Rect) (dx dy : Int) :
    (r.offset dx dy).isEmpty = r.isEmpty := by
  simp [isEmpty, offset]

@[simp] theorem offset_zero (r : Rect) : r.offset 0 0 = r := by
  simp [offset]

theorem offset_offset (r : Rect) (dx dy ex ey : Int) :
    (r.offset dx dy).offset ex ey = r.offset (dx + ex) (dy + ey) := by
  simp only [offset, Int.add_assoc]

/-! ## Lists of rectangles as unions -/

/-- Some rectangle of the list has the pixel. -/
def Covered (rs : List Rect) (p : Pixel) : Prop := ∃ r ∈ rs, p ∈ r

instance (rs : List Rect) (p : Pixel) : Decidable (Covered rs p) :=
  inferInstanceAs (Decidable (∃ r ∈ rs, p ∈ r))

@[simp] theorem covered_nil (p : Pixel) : Covered [] p ↔ False := by
  simp [Covered]

@[simp] theorem covered_cons (r : Rect) (rs : List Rect) (p : Pixel) :
    Covered (r :: rs) p ↔ p ∈ r ∨ Covered rs p := by
  simp [Covered]

@[simp] theorem covered_append (rs ss : List Rect) (p : Pixel) :
    Covered (rs ++ ss) p ↔ Covered rs p ∨ Covered ss p := by
  simp [Covered, or_and_right, exists_or]

theorem covered_ite_singleton (b : Prop) [Decidable b] (r : Rect) (p : Pixel) :
    Covered (if b then [r] else []) p ↔ b ∧ p ∈ r := by
  split <;> simp [*]

/-- A list that covers a pixel of a rectangle has a rectangle meeting it. -/
theorem exists_intersect_of_covered {rs : List Rect} {r : Rect} {p : Pixel} (hp : p ∈ r)
    (hc : Covered rs p) : ∃ d ∈ rs, (r.intersect d).isSome = true := by
  obtain ⟨d, hd, hpd⟩ := hc
  exact ⟨d, hd, (intersect_isSome_iff r d).mpr ⟨p, hp, hpd⟩⟩

end Rect

end ReactNativeSkia
