import ReactNativeSkia.Scripts.Packages

/-!
# The walk over the packages

The packages that can be reached by dependencies, those to which the recursion descends, and what
happens on the way.
-/

namespace ReactNativeSkia

/-- The paths of the dependencies. -/
def dependencyPaths (fs : FileSystem) (modulesPath path : String) : List String :=
  (fs.dependencies path).map (subPath modulesPath)

/-- The paths to which it descends. -/
def descentPaths (fs : FileSystem) (modulesPath path : String) : List String :=
  (fs.descents path).map (subPath modulesPath)

/-- A package can be reached by dependencies. -/
def Reachable (fs : FileSystem) (modulesPath applicationPath pkg : String) : Prop :=
  ∃ path, Below (dependencyPaths fs modulesPath) applicationPath path ∧ pkg ∈ fs.dependencies path

/-- It is reached by descents. -/
def Descended (fs : FileSystem) (modulesPath applicationPath pkg : String) : Prop :=
  ∃ path, Below (descentPaths fs modulesPath) applicationPath path ∧ pkg ∈ fs.descents path

/-- The calls of a run for the table of dependencies are those for dependencies. -/
def DependencyCalls (modulesPath : String) (events : List PackageEvent) : Prop :=
  ∀ call, .parse call ∈ events → call.packageMapTable = .packageMap →
    call = dependencyCall modulesPath call.packageName

variable {fs : FileSystem} {modulesPath applicationPath path pkg : String} {fuel : Nat}

theorem descents_subset : fs.descents path ⊆ fs.dependencies path := by
  unfold FileSystem.descents
  split
  · exact List.Subset.refl _
  · exact List.nil_subset _

theorem completes_of_mem_descents (h : pkg ∈ fs.descents path) : fs.completes path = true := by
  unfold FileSystem.descents at h
  split at h
  · assumption
  · exact absurd h List.not_mem_nil

theorem descentPaths_subset (path : String) :
    ∀ c ∈ descentPaths fs modulesPath path, c ∈ dependencyPaths fs modulesPath path :=
  fun _ hc => List.map_subset _ descents_subset hc

theorem below_dependencyPaths (h : Below (descentPaths fs modulesPath) applicationPath path) :
    Below (dependencyPaths fs modulesPath) applicationPath path := by
  induction h with
  | refl => exact Below.refl _
  | tail _ hc ih => exact ih.tail (descentPaths_subset _ _ hc)

theorem Descended.reachable (h : Descended fs modulesPath applicationPath pkg) :
    Reachable fs modulesPath applicationPath pkg := by
  obtain ⟨path, hbelow, hmem⟩ := h
  exact ⟨path, below_dependencyPaths hbelow, descents_subset hmem⟩

/-- There are finitely many packages. -/
theorem finite_dependencyPaths :
    {path | Below (dependencyPaths fs modulesPath) applicationPath path}.Finite := by
  let all := fs.packageJsons.flatMap fun (_, jsonData) => jsonData.dependencies.getD []
  refine (List.finite_toSet (applicationPath :: all.map (subPath modulesPath))).subset ?_
  intro path hbelow
  rcases Relation.ReflTransGen.cases_tail hbelow with rfl | ⟨parent, -, hmem⟩
  · exact List.mem_cons_self
  · obtain ⟨pkg, hpkg, rfl⟩ := List.mem_map.mp hmem
    refine List.mem_cons_of_mem _ (List.mem_map_of_mem ?_)
    unfold FileSystem.dependencies at hpkg
    rcases hjson : fs.packageJson (parent ++ "/package.json") with _ | jsonData
    · rw [hjson] at hpkg
      exact absurd hpkg List.not_mem_nil
    · rw [hjson] at hpkg
      obtain ⟨before, behind, hfile, -⟩ := List.lookup_eq_some_iff.mp hjson
      refine List.mem_flatMap.mpr ⟨(parent ++ "/package.json", jsonData), ?_, hpkg⟩
      rw [hfile]
      exact List.mem_append_right _ List.mem_cons_self

theorem finite_descentPaths :
    {path | Below (descentPaths fs modulesPath) applicationPath path}.Finite :=
  finite_dependencyPaths.subset fun _ => below_dependencyPaths

/-- What happens at a path. -/
theorem here_pkgWalk {event : PackageEvent} :
    (fs.pkgWalk modulesPath).here path event ↔
      (∃ pkg ∈ fs.descents path,
        event = .parse (dependencyCall modulesPath pkg) ∨ event = .visit pkg) ∨
      fs.completes path = true ∧
        ((∃ dirName ∈ customDirs fs path, event = .parse (customCall path dirName)) ∨
          event = .finish path) := by
  simp only [DepthWalk.here, FileSystem.pkgWalk, List.not_mem_nil, false_or, List.mem_cons,
    or_false]
  refine or_congr_right ?_
  by_cases hcompletes : fs.completes path = true
  · simp [hcompletes, eq_comm]
  · simp [hcompletes]

section
variable (h : DepthLt (fs.pkgWalk modulesPath).children fuel applicationPath)
include h

theorem mem_events_visit :
    .visit pkg ∈ (fs.pkgWalk modulesPath).events fuel applicationPath ↔
      Descended fs modulesPath applicationPath pkg := by
  rw [DepthWalk.mem_events h]
  refine exists_congr fun path => and_congr_right fun _ => ?_
  rw [here_pkgWalk]
  simp

theorem mem_events_dependencyCall :
    .parse (dependencyCall modulesPath pkg) ∈
        (fs.pkgWalk modulesPath).events fuel applicationPath ↔
      Descended fs modulesPath applicationPath pkg := by
  rw [DepthWalk.mem_events h]
  refine exists_congr fun path => and_congr_right fun _ => ?_
  rw [here_pkgWalk]
  constructor
  · rintro (⟨other, hother, heq | heq⟩ | ⟨-, ⟨dirName, -, heq⟩ | heq⟩)
    · have hname := congrArg ParseCall.packageName (PackageEvent.parse.inj heq)
      exact (show pkg = other from hname) ▸ hother
    · cases heq
    · have htable := congrArg ParseCall.packageMapTable (PackageEvent.parse.inj heq)
      cases htable
    · cases heq
  · intro hpkg
    exact Or.inl ⟨pkg, hpkg, Or.inl rfl⟩

theorem dependencyCalls_events :
    DependencyCalls modulesPath ((fs.pkgWalk modulesPath).events fuel applicationPath) := by
  intro call hmem htable
  obtain ⟨path, -, hhere⟩ := (DepthWalk.mem_events h).mp hmem
  rcases here_pkgWalk.mp hhere with ⟨pkg, -, heq | heq⟩ | ⟨-, ⟨dirName, -, heq⟩ | heq⟩
  · rw [PackageEvent.parse.inj heq]
    rfl
  · cases heq
  · rw [PackageEvent.parse.inj heq] at htable
    cases htable
  · cases heq

end

/-! ## Runs -/

section
variable {σ : Type} {script : PkgScript σ} {s t : σ}

/-- `preparePkgInfo` does the events of the walk one after the other. -/
theorem preparePkgInfo_eq_some
    (h : preparePkgInfo fs script modulesPath fuel applicationPath s = some t) :
    DepthLt (fs.pkgWalk modulesPath).children fuel applicationPath ∧
      t = ((fs.pkgWalk modulesPath).events fuel applicationPath).foldl script.apply s := by
  rw [preparePkgInfo_eq_run] at h
  exact DepthWalk.run_eq_some h

/-- It ends if and only if no descents lead in a circle. -/
theorem exists_preparePkgInfo_iff :
    (∃ fuel t, preparePkgInfo fs script modulesPath fuel applicationPath s = some t) ↔
      NoCircle (descentPaths fs modulesPath) applicationPath := by
  simp only [preparePkgInfo_eq_run]
  rw [DepthWalk.exists_run_iff]
  exact exists_depthLt_iff finite_descentPaths

/-- What holds at the start of a run and is kept by each of its events holds at its end. -/
theorem DependencyCalls.invariant {P : List PackageEvent → σ → Prop} {events : List PackageEvent}
    (hcalls : DependencyCalls modulesPath events) (hnil : P [] s)
    (happend : ∀ events event s, P events s →
      (∀ call, event = .parse call → call.packageMapTable = .packageMap →
        call = dependencyCall modulesPath call.packageName) →
      P (events ++ [event]) (script.apply s event)) :
    P events (events.foldl script.apply s) := by
  induction events using List.reverseRecOn with
  | nil => exact hnil
  | append_singleton events event ih =>
    rw [List.foldl_append, List.foldl_cons, List.foldl_nil]
    apply happend
    · exact ih fun call hmem => hcalls call (List.mem_append_left _ hmem)
    · rintro call rfl
      exact hcalls call (List.mem_append_right _ (List.mem_singleton_self _))

end

end ReactNativeSkia
