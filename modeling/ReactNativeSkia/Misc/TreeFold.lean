import ReactNativeSkia.Misc.Descent

/-!
# Walks that act on a value

A walk down a forest in which every node wraps what its children do, one after the other, to a
value. Parts that do nothing can be left out of the walk, or added to it.
-/

namespace ReactNativeSkia

variable {ι C : Type*}

/-- What `n` levels from a node on do to a value. -/
def treeFold (node : ι → (C → C) → C → C) (children : ι → List ι) : Nat → ι → C → C
  | 0, _ => id
  | n + 1, x => node x fun c => (children x).foldl (fun c y => treeFold node children n y c) c

section
variable {act : ι → C → C} {l : List ι}

theorem foldl_idle (h : ∀ y ∈ l, act y = id) (c : C) : l.foldl (fun c y => act y c) c = c := by
  induction l generalizing c with
  | nil => rfl
  | cons y l ih =>
    rw [List.foldl_cons, h y List.mem_cons_self]
    exact ih (fun z hz => h z (List.mem_cons_of_mem _ hz)) c

/-- Idle members do not count. -/
theorem foldl_filter_idle {live : ι → Prop} [DecidablePred live]
    (h : ∀ y ∈ l, ¬ live y → act y = id) (c : C) :
    (l.filter live).foldl (fun c y => act y c) c = l.foldl (fun c y => act y c) c := by
  induction l generalizing c with
  | nil => rfl
  | cons y l ih =>
    have hrest := ih fun z hz => h z (List.mem_cons_of_mem _ hz)
    by_cases hy : live y
    · rw [List.filter_cons_of_pos (by simpa using hy), List.foldl_cons, List.foldl_cons]
      exact hrest _
    · rw [List.filter_cons_of_neg (by simpa using hy), List.foldl_cons,
        h y List.mem_cons_self hy]
      exact hrest c

theorem foldl_act_congr {act' : ι → C → C} (h : ∀ y ∈ l, act' y = act y) (c : C) :
    l.foldl (fun c y => act' y c) c = l.foldl (fun c y => act y c) c := by
  induction l generalizing c with
  | nil => rfl
  | cons y l ih =>
    rw [List.foldl_cons, List.foldl_cons, h y List.mem_cons_self]
    exact ih (fun z hz => h z (List.mem_cons_of_mem _ hz)) _

end

section
variable {node node' : ι → (C → C) → C → C} {children children' : ι → List ι} {x : ι} {n : Nat}

theorem treeFold_succ (node : ι → (C → C) → C → C) (children : ι → List ι) (n : Nat) (x : ι) :
    treeFold node children (n + 1) x =
      node x fun c => (children x).foldl (fun c y => treeFold node children n y c) c := rfl

/-- A part all of whose nodes do nothing does nothing. -/
theorem treeFold_idle (h : ∀ y, Below children x y → node y id = id) :
    treeFold node children n x = id := by
  induction n generalizing x with
  | zero => rfl
  | succ n ih =>
    have hrest : (fun c => (children x).foldl (fun c y => treeFold node children n y c) c) = id :=
      funext fun c => foldl_idle (fun y hy => ih fun z hz => h z (hz.head hy)) c
    rw [treeFold_succ, hrest]
    exact h x (Below.refl x)

/-- Enough levels are enough. -/
theorem treeFold_of_depthLt (h : DepthLt children n x) {m : Nat} (hle : n ≤ m) :
    treeFold node children m x = treeFold node children n x := by
  induction n generalizing m x with
  | zero => exact h.elim
  | succ n ih =>
    cases m with
    | zero => exact absurd hle (Nat.not_succ_le_zero n)
    | succ m =>
      have hrest : (fun c => (children x).foldl (fun c y => treeFold node children m y c) c) =
          fun c => (children x).foldl (fun c y => treeFold node children n y c) c :=
        funext (foldl_act_congr fun y hy => ih (h y hy) (Nat.le_of_succ_le_succ hle))
      rw [treeFold_succ, treeFold_succ, hrest]

/-- Two forests that have the same live nodes in the same order, and idle parts besides, do the
same. -/
theorem treeFold_congr (live : ι → Prop) [DecidablePred live] {root : ι}
    (hidle : ∀ x, Below children root x → ¬ live x → ∀ n, treeFold node children n x = id)
    (hidle' : ∀ x, Below children root x → live x → ∀ y ∈ children' x, ¬ live y →
      ∀ n, treeFold node' children' n y = id)
    (hnode : ∀ x, Below children root x → live x → node' x = node x)
    (hchildren : ∀ x, Below children root x → live x →
      (children' x).filter live = (children x).filter live)
    (hx : Below children root x) (hlive : live x) :
    treeFold node' children' n x = treeFold node children n x := by
  induction n generalizing x with
  | zero => rfl
  | succ n ih =>
    have hrest : (fun c => (children' x).foldl (fun c y => treeFold node' children' n y c) c) =
        fun c => (children x).foldl (fun c y => treeFold node children n y c) c := by
      funext c
      rw [← foldl_filter_idle (fun y hy hy' => hidle' x hx hlive y hy hy' n) c,
        ← foldl_filter_idle (fun y hy hy' => hidle y (hx.tail hy) hy' n) c,
        hchildren x hx hlive]
      apply foldl_act_congr
      intro y hy
      rw [List.mem_filter, decide_eq_true_eq] at hy
      exact ih (hx.tail hy.1) hy.2
    rw [treeFold_succ, treeFold_succ, hrest, hnode x hx hlive]

end

end ReactNativeSkia
