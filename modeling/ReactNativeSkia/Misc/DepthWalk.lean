import ReactNativeSkia.Misc.Descent

/-!
# Walks downwards

A recursion that goes along the edges of a node one after the other and changes a state on the way.
What it does can be read from its events, which do not depend on the state: it does them one after
the other, and it ends if and only if the paths downwards are bounded.
-/

namespace ReactNativeSkia

/-- The edges of a node with their targets, and what happens at a node and along an edge. -/
structure DepthWalk (ι κ ε : Type*) where
  edges : ι → List κ
  target : κ → ι
  enter : ι → List ε
  along : κ → List ε
  leave : ι → List ε

namespace DepthWalk

variable {ι κ ε σ : Type*} (w : DepthWalk ι κ ε) (apply : σ → ε → σ)

def children (x : ι) : List ι := (w.edges x).map w.target

/-- The recursion. `none` if it does not end within `fuel` levels. -/
def run : Nat → ι → σ → Option σ
  | 0, _, _ => none
  | fuel + 1, x, s => do
    let s ← (w.edges x).foldlM
      (fun s k => run fuel (w.target k) ((w.along k).foldl apply s))
      ((w.enter x).foldl apply s)
    some ((w.leave x).foldl apply s)

def events : Nat → ι → List ε
  | 0, _ => []
  | fuel + 1, x =>
    w.enter x ++ (w.edges x).flatMap (fun k => w.along k ++ events fuel (w.target k)) ++ w.leave x

/-- What happens at a node itself. -/
def here (x : ι) (e : ε) : Prop :=
  e ∈ w.enter x ∨ (∃ k ∈ w.edges x, e ∈ w.along k) ∨ e ∈ w.leave x

variable {w apply} {n : Nat} {x : ι} {e : ε}

theorem mem_children {c : ι} : c ∈ w.children x ↔ ∃ k ∈ w.edges x, w.target k = c :=
  List.mem_map

theorem depthLt_succ :
    DepthLt w.children (n + 1) x ↔ ∀ k ∈ w.edges x, DepthLt w.children n (w.target k) := by
  simp [DepthLt, children]

/-- A fold each of whose steps may fail, whatever the state is. -/
theorem foldlM_ite {κ : Type*} (p : κ → Prop) [DecidablePred p] (f : σ → κ → σ) (ks : List κ)
    (s : σ) :
    ks.foldlM (fun s k => if p k then some (f s k) else none) s =
      if ∀ k ∈ ks, p k then some (ks.foldl f s) else none := by
  induction ks generalizing s with
  | nil => simp
  | cons k ks ih =>
    rw [List.foldlM_cons]
    by_cases hk : p k
    · simp [hk, ih]
    · simp [hk]

/-- The recursion does the events one after the other. -/
theorem run_eq (n : Nat) (x : ι) (s : σ) :
    w.run apply n x s =
      if DepthLt w.children n x then some ((w.events n x).foldl apply s) else none := by
  induction n generalizing x s with
  | zero => simp [run, DepthLt]
  | succ n ih =>
    rw [run, events]
    simp only [ih, ← List.foldl_append]
    rw [foldlM_ite]
    simp only [← depthLt_succ]
    split
    · simp [List.foldl_append, List.foldl_flatMap]
    · rfl

theorem run_eq_some {s t : σ} (h : w.run apply n x s = some t) :
    DepthLt w.children n x ∧ t = (w.events n x).foldl apply s := by
  rw [run_eq] at h
  obtain ⟨hdepth, heq⟩ := Option.ite_none_right_eq_some.mp h
  exact ⟨hdepth, (Option.some.inj heq).symm⟩

/-- It ends if and only if the paths downwards are bounded. -/
theorem exists_run_iff (s : σ) :
    (∃ n t, w.run apply n x s = some t) ↔ ∃ n, DepthLt w.children n x := by
  constructor
  · rintro ⟨n, t, h⟩
    exact ⟨n, (run_eq_some h).1⟩
  · rintro ⟨n, h⟩
    exact ⟨n, _, by rw [run_eq, if_pos h]⟩

/-- The events are those at the nodes below. -/
theorem mem_events (h : DepthLt w.children n x) :
    e ∈ w.events n x ↔ ∃ y, Below w.children x y ∧ w.here y e := by
  induction n generalizing x with
  | zero => exact h.elim
  | succ n ih =>
    rw [depthLt_succ] at h
    simp only [events, List.mem_append, List.mem_flatMap]
    constructor
    · rintro ((henter | ⟨k, hk, halong | hbelow⟩) | hleave)
      · exact ⟨x, Below.refl x, Or.inl henter⟩
      · exact ⟨x, Below.refl x, Or.inr (Or.inl ⟨k, hk, halong⟩)⟩
      · obtain ⟨y, hy, hhere⟩ := (ih (h k hk)).mp hbelow
        exact ⟨y, Below.head (mem_children.mpr ⟨k, hk, rfl⟩) hy, hhere⟩
      · exact ⟨x, Below.refl x, Or.inr (Or.inr hleave)⟩
    · rintro ⟨y, hy, hhere⟩
      rcases Below.cases_head_iff.mp hy with rfl | ⟨c, hc, hcy⟩
      · rcases hhere with henter | ⟨k, hk, halong⟩ | hleave
        · exact Or.inl (Or.inl henter)
        · exact Or.inl (Or.inr ⟨k, hk, Or.inl halong⟩)
        · exact Or.inr hleave
      · obtain ⟨k, hk, rfl⟩ := mem_children.mp hc
        exact Or.inl (Or.inr ⟨k, hk, Or.inr ((ih (h k hk)).mpr ⟨y, hcy, hhere⟩)⟩)

end DepthWalk

end ReactNativeSkia
