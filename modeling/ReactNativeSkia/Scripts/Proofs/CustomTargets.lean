import ReactNativeSkia.Scripts.Proofs.PackageTargets

/-!
# Targets of custom packages

The packages in the `skia` of the application are read at the end of its level, when all
dependencies are known. A name that is one of these keeps its package out of the table.
-/

namespace ReactNativeSkia.RSkBuildGen

variable {fs : FileSystem} {modulesPath applicationPath dirName : String} {call : ParseCall}
  {s : BuildGen} {info : PackageInfo}

/-! ## Calls -/

theorem parse_of_none (h : callInfo fs call = none) : parseRskProjectFile fs call s = s := by
  rw [parseRskProjectFile, h]

theorem parse_of_known (h : s.known call.packageName = true) :
    parseRskProjectFile fs call s = s := by
  unfold parseRskProjectFile
  split
  · rfl
  · rw [if_pos h]

theorem parse_of_new (hinfo : callInfo fs call = some info)
    (h : ¬s.known call.packageName = true) :
    parseRskProjectFile fs call s = s.insert call.packageMapTable info := by
  rw [parseRskProjectFile, hinfo]
  exact if_neg h

theorem packageMap_parse_custom (htable : call.packageMapTable = .packageMapCustom) :
    (parseRskProjectFile fs call s).packageMap = s.packageMap := by
  rcases hinfo : callInfo fs call with _ | info
  · rw [parse_of_none hinfo]
  · by_cases hknown : s.known call.packageName = true
    · rw [parse_of_known hknown]
    · rw [parse_of_new hinfo hknown, htable]
      rfl

/-- One call for a package in `skia` registers it if its name is not known. -/
theorem mem_custom_parse
    (hinfo : callInfo fs (customCall applicationPath dirName) = some info)
    (hnodup : (s.packageMapCustom.map PackageInfo.name).Nodup) (other : String) :
    ((parseRskProjectFile fs (customCall applicationPath other) s).packageMapCustom.map
        PackageInfo.name).Nodup ∧
      (info ∈ (parseRskProjectFile fs (customCall applicationPath other) s).packageMapCustom ↔
        info ∈ s.packageMapCustom ∨ dirName = other ∧ ¬s.known dirName = true) := by
  have hname := (callInfo_eq_some hinfo).1
  rcases hother : callInfo fs (customCall applicationPath other) with _ | package
  · rw [parse_of_none hother]
    refine ⟨hnodup, (or_iff_left ?_).symm⟩
    rintro ⟨rfl, -⟩
    rw [hinfo] at hother
    cases hother
  · have hname' := (callInfo_eq_some hother).1
    by_cases hknown : s.known other = true
    · rw [parse_of_known hknown]
      refine ⟨hnodup, (or_iff_left ?_).symm⟩
      rintro ⟨rfl, hnew⟩
      exact hnew hknown
    · rw [parse_of_new hother hknown]
      refine ⟨nodup_assign hnodup, ?_⟩
      simp only [customCall, BuildGen.insert]
      rw [mem_assign hnodup]
      by_cases heq : dirName = other
      · subst heq
        rw [hinfo] at hother
        exact iff_of_true (Or.inl (Option.some.inj hother)) (Or.inr ⟨rfl, hknown⟩)
      · have hne : info.name ≠ package.name := by
          rw [hname, hname']
          exact heq
        have hne' : info ≠ package := fun h => hne (congrArg PackageInfo.name h)
        simp [hne, hne', heq]

/-- The calls for the packages in `skia` register those whose names are not known. -/
theorem foldl_customCalls (dirNames : List String)
    (hinfo : callInfo fs (customCall applicationPath dirName) = some info)
    (hnodup : (s.packageMapCustom.map PackageInfo.name).Nodup) :
    let t := dirNames.foldl
      (fun s dirName => parseRskProjectFile fs (customCall applicationPath dirName) s) s
    (t.packageMapCustom.map PackageInfo.name).Nodup ∧ t.buildTargets = s.buildTargets ∧
      (info ∈ t.packageMapCustom ↔
        info ∈ s.packageMapCustom ∨ dirName ∈ dirNames ∧ ¬s.known dirName = true) := by
  induction dirNames generalizing s with
  | nil => exact ⟨hnodup, rfl, by simp⟩
  | cons other dirNames ih =>
    rw [List.foldl_cons]
    have hknown : (parseRskProjectFile fs (customCall applicationPath other) s).known dirName =
        s.known dirName := by
      unfold BuildGen.known
      rw [packageMap_parse_custom rfl]
    obtain ⟨hnodup', hstep⟩ := mem_custom_parse hinfo hnodup other
    obtain ⟨hnodup'', htargets, hmem⟩ := ih hnodup'
    refine ⟨hnodup'', htargets.trans buildTargets_parse, hmem.trans ?_⟩
    rw [hstep, hknown, List.mem_cons]
    tauto

theorem count_customTarget_addTargets (hnodup : (s.packageMapCustom.map PackageInfo.name).Nodup) :
    (s.addTargets modulesPath applicationPath).buildTargets.count
        (customTarget applicationPath info) =
      s.buildTargets.count (customTarget applicationPath info) +
        if info ∈ s.packageMapCustom then 1 else 0 := by
  have hinjective : Function.Injective (customTarget applicationPath) :=
    fun _ _ heq => congrArg BuildTarget.package heq
  have hpackages : (s.packageMap.map (packageTarget modulesPath)).count
      (customTarget applicationPath info) = 0 := by
    rw [List.count_eq_zero]
    intro hmem
    obtain ⟨package, -, heq⟩ := List.mem_map.mp hmem
    cases congrArg BuildTarget.packageMapTable heq
  rw [BuildGen.addTargets, List.count_append, List.count_append, hpackages,
    List.count_map_of_injective _ _ hinjective, hnodup.of_map.count, Nat.add_zero]

/-- The packages in the `skia` of another level have been read from other files. -/
theorem path_eq_of_customCall {dirName' path : String}
    (hinfo : callInfo fs (customCall applicationPath dirName) = some info)
    (hinfo' : callInfo fs (customCall path dirName') = some info) : path = applicationPath := by
  obtain ⟨hname, hpath⟩ := callInfo_eq_some hinfo
  obtain ⟨hname', hpath'⟩ := callInfo_eq_some hinfo'
  rw [hpath] at hpath'
  rw [hname] at hname'
  simp only [customCall] at hname' hpath'
  rw [hname'] at hpath'
  simp only [String.append_left_inj] at hpath'
  exact hpath'.symm

/-! ## The level of the application -/

section
variable {n : Nat}
  (hdepth : DepthLt (fs.pkgWalk modulesPath).children (n + 1) applicationPath)
  (hcompletes : fs.completes applicationPath = true)
include hdepth hcompletes

theorem dependencyCalls_dependencyEvents :
    DependencyCalls modulesPath (dependencyEvents fs modulesPath n applicationPath) := by
  have hcalls := dependencyCalls_events hdepth
  rw [events_of_completes hcompletes, List.append_assoc] at hcalls
  exact fun call hmem => hcalls call (List.mem_append_left _ hmem)

/-- Nothing has been read from the `skia` of the application, to which no descents lead back. -/
theorem not_read_before
    (hinfo : callInfo fs (customCall applicationPath dirName) = some info)
    (hinfo' : callInfo fs call = some info) (htable : call.packageMapTable = .packageMapCustom) :
    .parse call ∉ dependencyEvents fs modulesPath n applicationPath := by
  intro hmem
  obtain ⟨d, hd, hmem⟩ := List.mem_flatMap.mp hmem
  have hedge : d ∈ (fs.pkgWalk modulesPath).edges applicationPath := by
    rwa [show (fs.pkgWalk modulesPath).edges applicationPath = _ from if_pos hcompletes]
  have hbelow := DepthWalk.depthLt_succ.mp hdepth d hedge
  rcases List.mem_append.mp hmem with hcall | hmem
  · simp only [List.mem_cons, PackageEvent.parse.injEq, List.not_mem_nil, or_false,
      reduceCtorEq] at hcall
    rw [hcall] at htable
    cases htable
  · obtain ⟨path, hpath, hhere⟩ := (DepthWalk.mem_events hbelow).mp hmem
    rcases here_pkgWalk.mp hhere with ⟨pkg, -, heq | heq⟩ | ⟨-, ⟨dirName', -, heq⟩ | heq⟩
    · rw [PackageEvent.parse.inj heq] at htable
      cases htable
    · cases heq
    · rw [PackageEvent.parse.inj heq] at hinfo'
      rw [path_eq_of_customCall hinfo hinfo'] at hpath
      exact hdepth.not_below_child (DepthWalk.mem_children.mpr ⟨d, hedge, rfl⟩) hpath
    · cases heq

/-- The names that are known by then are those of the dependencies. -/
theorem known_dependencyEvents (dirName : String) :
    ((dependencyEvents fs modulesPath n applicationPath).foldl
        (script fs modulesPath).apply {}).known dirName = true ↔
      Descended fs modulesPath applicationPath dirName ∧
        (callInfo fs (dependencyCall modulesPath dirName)).isSome = true := by
  have hholds : Holds fs modulesPath _ _ :=
    Holds.of_foldl (dependencyCalls_dependencyEvents hdepth hcompletes)
  have hmem : .parse (dependencyCall modulesPath dirName) ∈
      dependencyEvents fs modulesPath n applicationPath ↔
        Descended fs modulesPath applicationPath dirName := by
    rw [← mem_events_dependencyCall hdepth, events_of_completes hcompletes, List.append_assoc,
      List.mem_append, or_iff_left]
    rw [List.mem_append, not_or]
    exact ⟨dependencyCall_not_mem_customParses, by simp⟩
  rw [known_iff, ← hmem]
  constructor
  · rintro ⟨package, hpackage, hname⟩
    obtain ⟨pkg, hcall, hinfo⟩ := (hholds.mem_packageMap package).mp hpackage
    have heq : pkg = dirName := (callInfo_eq_some hinfo).1.symm.trans hname
    subst heq
    exact ⟨hcall, by rw [hinfo]; rfl⟩
  · rintro ⟨hcall, hsome⟩
    obtain ⟨package, hpackage⟩ := Option.isSome_iff_exists.mp hsome
    exact ⟨package, (hholds.mem_packageMap package).mpr ⟨dirName, hcall, hpackage⟩,
      (callInfo_eq_some hpackage).1⟩

end

theorem foldl_customParses :
    (customParses fs applicationPath).foldl (script fs modulesPath).apply s =
      (customDirs fs applicationPath).foldl
        (fun s dirName => parseRskProjectFile fs (customCall applicationPath dirName) s) s := by
  rw [customParses, List.foldl_map]
  rfl

/-- The target of a custom package is in the list once if and only if the level of the application
ends and no dependency of the same name has been registered. -/
theorem count_customTarget_eq_one_iff {fuel : Nat}
    (hdepth : DepthLt (fs.pkgWalk modulesPath).children fuel applicationPath)
    (hdir : dirName ∈ customDirs fs applicationPath)
    (hinfo : callInfo fs (customCall applicationPath dirName) = some info) :
    (((fs.pkgWalk modulesPath).events fuel applicationPath).foldl
        (script fs modulesPath).apply {}).buildTargets.count (customTarget applicationPath info) =
          1 ↔
      fs.completes applicationPath = true ∧
        ¬(Descended fs modulesPath applicationPath dirName ∧
          (callInfo fs (dependencyCall modulesPath dirName)).isSome = true) := by
  rcases hcompletes : fs.completes applicationPath with _ | _
  · rw [events_of_not_completes hcompletes]
    simp
  · cases fuel with
    | zero => exact hdepth.elim
    | succ fuel =>
      have hknown := known_dependencyEvents hdepth hcompletes dirName
      have hholds : Holds fs modulesPath _ _ :=
        Holds.of_foldl (dependencyCalls_dependencyEvents hdepth hcompletes)
      rw [events_of_completes hcompletes, List.foldl_append, List.foldl_append]
      generalize (dependencyEvents fs modulesPath fuel applicationPath).foldl
        (script fs modulesPath).apply {} = s at hknown hholds ⊢
      have hnew : info ∉ s.packageMapCustom := by
        intro hmem
        obtain ⟨call, hcall, htable, hinfo'⟩ := hholds.of_mem_custom info hmem
        exact not_read_before hdepth hcompletes hinfo hinfo' htable hcall
      have hnone : s.buildTargets.count (customTarget applicationPath info) = 0 := by
        rw [List.count_eq_zero]
        intro hmem
        obtain ⟨call, hcall, htable, hinfo'⟩ := hholds.of_mem_targets _ hmem rfl
        exact not_read_before hdepth hcompletes hinfo hinfo' htable hcall
      obtain ⟨hnodup, htargets, hmem⟩ :=
        foldl_customCalls (customDirs fs applicationPath) hinfo hholds.nodup_custom
      rw [List.foldl_cons, List.foldl_nil, apply_finish, foldl_customParses,
        count_customTarget_addTargets hnodup, htargets, hnone, Nat.zero_add, ← hknown]
      simp [hmem, hnew, hdir]

end ReactNativeSkia.RSkBuildGen
