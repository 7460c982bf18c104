import ReactNativeSkia.Scripts.Proofs.CustomTargets

/-!
# The list of build targets

Without a circle `preparePkgInfo` ends. Each package is then listed once if and only if all
packages with a configuration for Skia are direct dependencies of the application, no level of a
dependency ends behind one, and no package in `skia` has the name of one.
-/

namespace ReactNativeSkia.RSkBuildGen

variable {fs : FileSystem} {modulesPath applicationPath : String}

/-- `preparePkgInfo` ends, and the list has one target of each package that can be reached and of
each custom package of the application. -/
structure ListsOnce (fs : FileSystem) (modulesPath applicationPath : String) : Prop where
  terminates : ∃ fuel s, preparePkgInfo fs modulesPath fuel applicationPath {} = some s
  packages : ∀ fuel s, preparePkgInfo fs modulesPath fuel applicationPath {} = some s →
    ∀ pkg, Reachable fs modulesPath applicationPath pkg →
      ∀ info, callInfo fs (dependencyCall modulesPath pkg) = some info →
        s.buildTargets.count (packageTarget modulesPath info) = 1
  customs : ∀ fuel s, preparePkgInfo fs modulesPath fuel applicationPath {} = some s →
    ∀ dirName ∈ customDirs fs applicationPath,
      ∀ info, callInfo fs (customCall applicationPath dirName) = some info →
        s.buildTargets.count (customTarget applicationPath info) = 1

/-- The level of the application ends if there is anything to list, every dependency is listed in
time, and no custom package has the name of one. -/
structure AllInTime (fs : FileSystem) (modulesPath applicationPath : String) : Prop where
  packages : ∀ pkg, Reachable fs modulesPath applicationPath pkg →
    (callInfo fs (dependencyCall modulesPath pkg)).isSome = true →
      fs.completes applicationPath = true ∧ ListedInTime fs modulesPath applicationPath pkg
  customs : ∀ dirName ∈ customDirs fs applicationPath,
    (callInfo fs (customCall applicationPath dirName)).isSome = true →
      fs.completes applicationPath = true ∧
        ¬(Descended fs modulesPath applicationPath dirName ∧
          (callInfo fs (dependencyCall modulesPath dirName)).isSome = true)

/-- Descents are dependencies. -/
theorem noCircle_descentPaths (h : NoCircle (dependencyPaths fs modulesPath) applicationPath) :
    NoCircle (descentPaths fs modulesPath) applicationPath := by
  obtain ⟨n, hdepth⟩ := h.exists_depthLt finite_dependencyPaths
  exact (hdepth.of_subset descentPaths_subset).noCircle

/-- Without a circle each package is listed once if and only if all are in time. -/
theorem listsOnce_iff (h : NoCircle (dependencyPaths fs modulesPath) applicationPath) :
    ListsOnce fs modulesPath applicationPath ↔ AllInTime fs modulesPath applicationPath := by
  constructor
  · intro hlists
    obtain ⟨fuel, s, hrun⟩ := hlists.terminates
    have hpackages := hlists.packages fuel s hrun
    have hcustoms := hlists.customs fuel s hrun
    obtain ⟨hdepth, rfl⟩ := preparePkgInfo_eq_some hrun
    refine ⟨fun pkg hpkg hsome => ?_, fun dirName hdir hsome => ?_⟩
    · obtain ⟨info, hinfo⟩ := Option.isSome_iff_exists.mp hsome
      exact (count_packageTarget_eq_one_iff hdepth hinfo).mp (hpackages pkg hpkg info hinfo)
    · obtain ⟨info, hinfo⟩ := Option.isSome_iff_exists.mp hsome
      exact (count_customTarget_eq_one_iff hdepth hdir hinfo).mp (hcustoms dirName hdir info hinfo)
  · intro htime
    refine ⟨exists_preparePkgInfo_iff.mpr (noCircle_descentPaths h),
      fun fuel s hrun pkg hpkg info hinfo => ?_, fun fuel s hrun dirName hdir info hinfo => ?_⟩
    · obtain ⟨hdepth, rfl⟩ := preparePkgInfo_eq_some hrun
      exact (count_packageTarget_eq_one_iff hdepth hinfo).mpr
        (htime.packages pkg hpkg (by rw [hinfo]; rfl))
    · obtain ⟨hdepth, rfl⟩ := preparePkgInfo_eq_some hrun
      exact (count_customTarget_eq_one_iff hdepth hdir hinfo).mpr
        (htime.customs dirName hdir (by rw [hinfo]; rfl))

/-- A project with a library. -/
def skiaProject (name : String) : RskProject where
  codegenConfig := some { name := some name, skia := some {} }

/-- An application with one dependency, which names no dependencies of its own, and one package in
its `skia`. -/
def smallApplication : FileSystem where
  packageJsons :=
    [("app/package.json", { dependencies := some ["a"] }),
      ("node_modules/a/package.json", {})]
  rskProjects :=
    [("node_modules/a/skia/Rsk.project", skiaProject "liba"),
      ("app/skia/c/Rsk.project", skiaProject "libc")]
  directories := [("app/skia", ["c"]), ("app/skia/c", ["Rsk.project"])]

theorem listsOnce_iff_small : ListsOnce smallApplication "node_modules" "app" := by
  have hleaf : dependencyPaths smallApplication "node_modules" "node_modules/a" = [] := by decide
  have happ : dependencyPaths smallApplication "node_modules" "app" = ["node_modules/a"] := by
    decide
  have hdepth : DepthLt (dependencyPaths smallApplication "node_modules") 2 "app" := by
    simp [DepthLt, happ, hleaf]
  have hreachable : ∀ pkg, Reachable smallApplication "node_modules" "app" pkg → pkg = "a" := by
    rintro pkg ⟨path, hbelow, hmem⟩
    rcases Below.cases_head_iff.mp hbelow with rfl | ⟨next, hnext, hbelow⟩
    · exact List.mem_singleton.mp hmem
    · rw [happ, List.mem_singleton] at hnext
      subst hnext
      rcases Below.cases_head_iff.mp hbelow with rfl | ⟨next, hnext, -⟩
      · exact absurd hmem List.not_mem_nil
      · rw [hleaf] at hnext
        exact absurd hnext List.not_mem_nil
  refine (listsOnce_iff hdepth.noCircle).mpr ⟨fun pkg hpkg _ => ?_, fun dirName hdir _ => ?_⟩
  · rw [hreachable pkg hpkg]
    refine ⟨by decide, by decide, fun d hd hcompletes => ?_, by decide⟩
    rw [List.mem_singleton.mp hd] at hcompletes
    exact absurd hcompletes (by decide)
  · refine ⟨by decide, fun hboth => ?_⟩
    rw [hreachable dirName hboth.1.reachable] at hdir
    exact absurd hdir (by decide)

/-- The dependency has a dependency of its own, so its level ends. -/
def nestedApplication : FileSystem where
  packageJsons :=
    [("app/package.json", { dependencies := some ["a"] }),
      ("node_modules/a/package.json", { dependencies := some ["b"] })]
  rskProjects := [("node_modules/a/skia/Rsk.project", skiaProject "liba")]

/-- It is listed by its own level and again by that of the application. -/
theorem nested_listed_twice :
    NoCircle (dependencyPaths nestedApplication "node_modules") "app" ∧
      ¬ListsOnce nestedApplication "node_modules" "app" := by
  constructor
  · have happ : dependencyPaths nestedApplication "node_modules" "app" = ["node_modules/a"] := by
      decide
    have ha : dependencyPaths nestedApplication "node_modules" "node_modules/a" =
        ["node_modules/b"] := by decide
    have hb : dependencyPaths nestedApplication "node_modules" "node_modules/b" = [] := by decide
    have hdepth : DepthLt (dependencyPaths nestedApplication "node_modules") 3 "app" := by
      simp [DepthLt, happ, ha, hb]
    exact hdepth.noCircle
  · intro h
    have hcount := h.packages 3 _ rfl "a" ⟨"app", Below.refl "app", by decide⟩ _ rfl
    revert hcount
    decide

end ReactNativeSkia.RSkBuildGen
