import ReactNativeSkia.Scripts.Proofs.PackageWalk
import ReactNativeSkia.Scripts.RSkBuildGen

/-!
# Targets of dependencies

At the end of each level of the recursion the targets of all packages that are known by then are
added to the list. So a package is listed once for each level that ends after it has been
registered, and the level of the application is always one of these.
-/

namespace ReactNativeSkia.RSkBuildGen

variable {fs : FileSystem} {modulesPath applicationPath pkg : String} {call : ParseCall}
  {s : BuildGen} {info package : PackageInfo} {table : List PackageInfo}

/-! ## Tables -/

theorem map_name_assign (info : PackageInfo) (table : List PackageInfo) :
    (assign info table).map PackageInfo.name =
      if info.name ∈ table.map PackageInfo.name then table.map PackageInfo.name
      else table.map PackageInfo.name ++ [info.name] := by
  induction table with
  | nil => simp [assign]
  | cons package table ih =>
    rw [assign]
    by_cases hname : package.name = info.name
    · simp [hname]
    · simp only [hname, if_false, List.map_cons, ih, List.mem_cons, Ne.symm hname, false_or]
      split <;> rfl

theorem nodup_assign (h : (table.map PackageInfo.name).Nodup) :
    ((assign info table).map PackageInfo.name).Nodup := by
  rw [map_name_assign]
  split
  · exact h
  · rename_i hnew
    exact List.nodup_append.mpr ⟨h, List.nodup_singleton _, by
      rintro name hname _ hmem rfl
      rw [List.mem_singleton.mp hmem] at hname
      exact hnew hname⟩

theorem mem_assign (h : (table.map PackageInfo.name).Nodup) :
    package ∈ assign info table ↔
      package = info ∨ package ∈ table ∧ package.name ≠ info.name := by
  induction table with
  | nil => simp [assign]
  | cons first table ih =>
    rw [List.map_cons, List.nodup_cons] at h
    rw [assign]
    by_cases hname : first.name = info.name
    · have hother : ∀ package ∈ table, package.name ≠ info.name := by
        intro package hmem heq
        exact h.1 (List.mem_map.mpr ⟨package, hmem, by rw [heq, hname]⟩)
      simp only [hname, if_true, List.mem_cons]
      constructor
      · rintro (heq | hmem)
        · exact Or.inl heq
        · exact Or.inr ⟨Or.inr hmem, hother package hmem⟩
      · rintro (heq | ⟨rfl | hmem, hne⟩)
        · exact Or.inl heq
        · exact absurd hname hne
        · exact Or.inr hmem
    · simp only [hname, if_false, List.mem_cons, ih h.2]
      constructor
      · rintro (rfl | heq | ⟨hmem, hne⟩)
        · exact Or.inr ⟨Or.inl rfl, hname⟩
        · exact Or.inl heq
        · exact Or.inr ⟨Or.inr hmem, hne⟩
      · rintro (heq | ⟨rfl | hmem, hne⟩)
        · exact Or.inr (Or.inl heq)
        · exact Or.inl rfl
        · exact Or.inr (Or.inr ⟨hmem, hne⟩)

theorem callInfo_eq_some (h : callInfo fs call = some info) :
    info.name = call.packageName ∧ info.rskProjPath = call.rskProjPath := by
  obtain ⟨⟨data, codegenConfig, skia⟩, -, rfl⟩ := Option.map_eq_some_iff.mp h
  exact ⟨rfl, rfl⟩

theorem known_iff {packageName : String} :
    s.known packageName = true ↔ ∃ package ∈ s.packageMap, package.name = packageName := by
  simp [BuildGen.known]

/-! ## Runs -/

/-- What the tables and the list hold after a run. -/
structure Holds (fs : FileSystem) (modulesPath : String) (events : List PackageEvent)
    (s : BuildGen) : Prop where
  nodup : (s.packageMap.map PackageInfo.name).Nodup
  nodup_custom : (s.packageMapCustom.map PackageInfo.name).Nodup
  mem_packageMap : ∀ info, info ∈ s.packageMap ↔
    ∃ pkg, .parse (dependencyCall modulesPath pkg) ∈ events ∧
      callInfo fs (dependencyCall modulesPath pkg) = some info
  of_mem_custom : ∀ info ∈ s.packageMapCustom, ∃ call, .parse call ∈ events ∧
    call.packageMapTable = .packageMapCustom ∧ callInfo fs call = some info
  of_mem_targets : ∀ target ∈ s.buildTargets, target.packageMapTable = .packageMapCustom →
    ∃ call, .parse call ∈ events ∧ call.packageMapTable = .packageMapCustom ∧
      callInfo fs call = some target.package

namespace Holds

variable {events : List PackageEvent}

theorem nil : Holds fs modulesPath [] {} := by
  constructor <;> simp

/-- An event that reads nothing new leaves the tables. -/
theorem weaken {event : PackageEvent} (h : Holds fs modulesPath events s)
    (hold : ∀ pkg, event = .parse (dependencyCall modulesPath pkg) →
      ∀ info, callInfo fs (dependencyCall modulesPath pkg) = some info → info ∈ s.packageMap) :
    Holds fs modulesPath (events ++ [event]) s := by
  refine ⟨h.nodup, h.nodup_custom, fun info => ⟨fun hmem => ?_, ?_⟩, fun info hmem => ?_,
    fun target hmem htable => ?_⟩
  · obtain ⟨pkg, hcall, hinfo⟩ := (h.mem_packageMap info).mp hmem
    exact ⟨pkg, List.mem_append_left _ hcall, hinfo⟩
  · rintro ⟨pkg, hcall, hinfo⟩
    rcases List.mem_append.mp hcall with hbefore | hnow
    · exact (h.mem_packageMap info).mpr ⟨pkg, hbefore, hinfo⟩
    · exact hold pkg (List.mem_singleton.mp hnow).symm info hinfo
  · obtain ⟨call, hcall, hrest⟩ := h.of_mem_custom info hmem
    exact ⟨call, List.mem_append_left _ hcall, hrest⟩
  · obtain ⟨call, hcall, hrest⟩ := h.of_mem_targets target hmem htable
    exact ⟨call, List.mem_append_left _ hcall, hrest⟩

/-- A known package has been read from the file of its dependency. -/
theorem mem_of_known (h : Holds fs modulesPath events s) (hknown : s.known pkg = true)
    (hinfo : callInfo fs (dependencyCall modulesPath pkg) = some info) :
    info ∈ s.packageMap := by
  obtain ⟨package, hmem, hname⟩ := known_iff.mp hknown
  obtain ⟨pkg', -, hpackage⟩ := (h.mem_packageMap package).mp hmem
  have hname' : pkg' = pkg := (callInfo_eq_some hpackage).1.symm.trans hname
  rw [hname', hinfo] at hpackage
  rwa [Option.some.inj hpackage]

theorem insert_packageMap (h : Holds fs modulesPath events s)
    (hinfo : callInfo fs (dependencyCall modulesPath pkg) = some info)
    (hnew : ¬s.known pkg = true) :
    Holds fs modulesPath (events ++ [.parse (dependencyCall modulesPath pkg)])
      (s.insert .packageMap info) := by
  have hname := (callInfo_eq_some hinfo).1
  refine ⟨nodup_assign h.nodup, h.nodup_custom, fun package => ?_, fun package hmem => ?_,
    fun target hmem htable => ?_⟩
  · simp only [BuildGen.insert]
    rw [mem_assign h.nodup, h.mem_packageMap]
    constructor
    · rintro (rfl | ⟨⟨pkg', hcall, hpackage⟩, -⟩)
      · exact ⟨pkg, List.mem_append_right _ (List.mem_singleton_self _), hinfo⟩
      · exact ⟨pkg', List.mem_append_left _ hcall, hpackage⟩
    · rintro ⟨pkg', hcall, hpackage⟩
      rcases List.mem_append.mp hcall with hbefore | hnow
      · refine Or.inr ⟨⟨pkg', hbefore, hpackage⟩, fun heq => hnew ?_⟩
        exact known_iff.mpr ⟨package, (h.mem_packageMap package).mpr ⟨pkg', hbefore, hpackage⟩,
          heq.trans hname⟩
      · rw [PackageEvent.parse.inj (List.mem_singleton.mp hnow), hinfo] at hpackage
        exact Or.inl (Option.some.inj hpackage).symm
  · obtain ⟨call, hcall, hrest⟩ := h.of_mem_custom package hmem
    exact ⟨call, List.mem_append_left _ hcall, hrest⟩
  · obtain ⟨call, hcall, hrest⟩ := h.of_mem_targets target hmem htable
    exact ⟨call, List.mem_append_left _ hcall, hrest⟩

theorem insert_custom (h : Holds fs modulesPath events s)
    (hinfo : callInfo fs call = some info) (htable : call.packageMapTable = .packageMapCustom) :
    Holds fs modulesPath (events ++ [.parse call]) (s.insert .packageMapCustom info) := by
  have hweak : Holds fs modulesPath (events ++ [.parse call]) s := by
    refine h.weaken fun pkg heq => ?_
    rw [PackageEvent.parse.inj heq] at htable
    cases htable
  refine ⟨hweak.nodup, nodup_assign h.nodup_custom, hweak.mem_packageMap, fun package hmem => ?_,
    hweak.of_mem_targets⟩
  rcases (mem_assign h.nodup_custom).mp hmem with rfl | ⟨hmem, -⟩
  · exact ⟨call, List.mem_append_right _ (List.mem_singleton_self _), htable, hinfo⟩
  · exact hweak.of_mem_custom package hmem

theorem addTargets (h : Holds fs modulesPath events s) (path : String) :
    Holds fs modulesPath (events ++ [.finish path]) (s.addTargets modulesPath path) := by
  have hweak : Holds fs modulesPath (events ++ [.finish path]) s :=
    h.weaken fun pkg heq => by cases heq
  refine ⟨hweak.nodup, hweak.nodup_custom, hweak.mem_packageMap, hweak.of_mem_custom,
    fun target hmem htable => ?_⟩
  simp only [BuildGen.addTargets, List.mem_append, List.mem_map] at hmem
  rcases hmem with (hbefore | ⟨package, -, rfl⟩) | ⟨package, hpackage, rfl⟩
  · exact hweak.of_mem_targets target hbefore htable
  · cases htable
  · exact hweak.of_mem_custom package hpackage

theorem append {event : PackageEvent} (h : Holds fs modulesPath events s)
    (hcall : ∀ call, event = .parse call → call.packageMapTable = .packageMap →
      call = dependencyCall modulesPath call.packageName) :
    Holds fs modulesPath (events ++ [event]) ((script fs modulesPath).apply s event) := by
  cases event with
  | visit pkg => exact h.weaken fun _ heq => by cases heq
  | finish path => exact h.addTargets path
  | parse call =>
    simp only [PkgScript.apply, script, parseRskProjectFile]
    rcases hinfo : callInfo fs call with _ | info
    · refine h.weaken fun pkg heq info hsome => ?_
      rw [← PackageEvent.parse.inj heq, hinfo] at hsome
      cases hsome
    · by_cases hknown : s.known call.packageName = true
      · simp only [hknown, if_true]
        refine h.weaken fun pkg heq info hsome => ?_
        rw [PackageEvent.parse.inj heq] at hknown
        exact h.mem_of_known hknown hsome
      · simp only [hknown]
        rcases htable : call.packageMapTable with _ | _
        · have heq := hcall call rfl htable
          rw [heq] at hinfo ⊢
          exact h.insert_packageMap hinfo hknown
        · exact h.insert_custom hinfo htable

theorem of_foldl (hcalls : DependencyCalls modulesPath events) :
    Holds fs modulesPath events (events.foldl (script fs modulesPath).apply {}) :=
  hcalls.invariant nil fun _ _ _ => append

end Holds

/-! ## Targets of dependencies -/

/-- No level ends after the package has been registered. -/
def NoneAfter (modulesPath pkg : String) (events : List PackageEvent) : Prop :=
  events.Pairwise fun event event' =>
    event = .parse (dependencyCall modulesPath pkg) → ∀ path, event' ≠ .finish path

theorem Holds.mem_iff {events : List PackageEvent} (h : Holds fs modulesPath events s)
    (hinfo : callInfo fs (dependencyCall modulesPath pkg) = some info) :
    info ∈ s.packageMap ↔ .parse (dependencyCall modulesPath pkg) ∈ events := by
  rw [h.mem_packageMap]
  constructor
  · rintro ⟨pkg', hcall, hinfo'⟩
    have hname : pkg' = pkg := (callInfo_eq_some hinfo').1.symm.trans (callInfo_eq_some hinfo).1
    rwa [hname] at hcall
  · intro hcall
    exact ⟨pkg, hcall, hinfo⟩

theorem count_addTargets {events : List PackageEvent} (h : Holds fs modulesPath events s)
    (hinfo : callInfo fs (dependencyCall modulesPath pkg) = some info) (path : String) :
    (s.addTargets modulesPath path).buildTargets.count (packageTarget modulesPath info) =
      s.buildTargets.count (packageTarget modulesPath info) +
        if .parse (dependencyCall modulesPath pkg) ∈ events then 1 else 0 := by
  have hinjective : Function.Injective (packageTarget modulesPath) :=
    fun _ _ heq => congrArg BuildTarget.package heq
  have hcustom : (s.packageMapCustom.map (customTarget path)).count
      (packageTarget modulesPath info) = 0 := by
    rw [List.count_eq_zero]
    intro hmem
    obtain ⟨package, -, heq⟩ := List.mem_map.mp hmem
    cases congrArg BuildTarget.packageMapTable heq
  have hpackages : (s.packageMap.map (packageTarget modulesPath)).count
      (packageTarget modulesPath info) =
        if .parse (dependencyCall modulesPath pkg) ∈ events then 1 else 0 := by
    rw [List.count_map_of_injective _ _ hinjective, h.nodup.of_map.count]
    simp only [h.mem_iff hinfo]
  rw [BuildGen.addTargets, List.count_append, List.count_append, hpackages, hcustom, Nat.add_zero]

theorem buildTargets_parse : (parseRskProjectFile fs call s).buildTargets = s.buildTargets := by
  unfold parseRskProjectFile
  split
  · rfl
  · split
    · rfl
    · cases call.packageMapTable <;> rfl

/-- The target of a dependency is not listed as long as no level ends after its registration. -/
theorem count_eq_zero_iff {events : List PackageEvent}
    (hcalls : DependencyCalls modulesPath events)
    (hinfo : callInfo fs (dependencyCall modulesPath pkg) = some info) :
    (events.foldl (script fs modulesPath).apply {}).buildTargets.count
        (packageTarget modulesPath info) = 0 ↔
      NoneAfter modulesPath pkg events := by
  induction events using List.reverseRecOn with
  | nil => exact iff_of_true rfl List.Pairwise.nil
  | append_singleton events event ih =>
    have hbefore : DependencyCalls modulesPath events :=
      fun call hmem => hcalls call (List.mem_append_left _ hmem)
    rw [List.foldl_append, List.foldl_cons, List.foldl_nil, NoneAfter, List.pairwise_append]
    simp only [List.pairwise_singleton, true_and, List.mem_singleton, forall_eq]
    cases event with
    | parse call =>
      rw [apply_parse, buildTargets_parse, ih hbefore]
      simp [NoneAfter]
    | visit other =>
      rw [apply_visit, ih hbefore]
      simp [NoneAfter]
    | finish path =>
      rw [apply_finish, count_addTargets (Holds.of_foldl hbefore) hinfo path, Nat.add_eq_zero_iff,
        ih hbefore]
      refine and_congr_right fun _ => ?_
      simp only [ite_eq_right_iff, one_ne_zero, imp_false, ne_eq]
      constructor
      · rintro hnot event hmem rfl
        exact absurd hmem hnot
      · intro hnone hmem
        exact hnone _ hmem rfl path rfl

theorem NoneAfter.of_not_mem {events : List PackageEvent}
    (h : .parse (dependencyCall modulesPath pkg) ∉ events) : NoneAfter modulesPath pkg events :=
  List.Pairwise.imp_of_mem (fun hmem _ _ heq => absurd (heq ▸ hmem) h)
    (List.pairwise_of_forall fun _ _ => trivial)

theorem NoneAfter.of_not_finish {events : List PackageEvent}
    (h : ∀ path, .finish path ∉ events) : NoneAfter modulesPath pkg events :=
  List.Pairwise.imp_of_mem (fun _ hmem _ _ path heq => h path (heq ▸ hmem))
    (List.pairwise_of_forall fun _ _ => trivial)

/-- A dependency is listed once if it has been registered before the last level ends, and no level
has ended in between. -/
theorem count_eq_one_iff {events : List PackageEvent}
    (hcalls : DependencyCalls modulesPath events)
    (hinfo : callInfo fs (dependencyCall modulesPath pkg) = some info) (path : String) :
    ((events ++ [PackageEvent.finish path]).foldl
        (script fs modulesPath).apply {}).buildTargets.count (packageTarget modulesPath info) = 1 ↔
      .parse (dependencyCall modulesPath pkg) ∈ events ∧ NoneAfter modulesPath pkg events := by
  rw [List.foldl_append, List.foldl_cons, List.foldl_nil, apply_finish,
    count_addTargets (Holds.of_foldl hcalls) hinfo path]
  by_cases hmem : .parse (dependencyCall modulesPath pkg) ∈ events
  · rw [if_pos hmem, Nat.add_eq_right, count_eq_zero_iff hcalls hinfo]
    simp [hmem]
  · rw [if_neg hmem, (count_eq_zero_iff hcalls hinfo).mpr (NoneAfter.of_not_mem hmem)]
    simp [hmem]

/-! ## The levels of the dependencies -/

/-- What happens for one dependency. -/
def block (fs : FileSystem) (modulesPath : String) (n : Nat) (d : String) : List PackageEvent :=
  [.parse (dependencyCall modulesPath d), .visit d] ++
    (fs.pkgWalk modulesPath).events n (subPath modulesPath d)

/-- What happens for the dependencies of a path. -/
def dependencyEvents (fs : FileSystem) (modulesPath : String) (n : Nat) (path : String) :
    List PackageEvent :=
  (fs.dependencies path).flatMap (block fs modulesPath n)

/-- The calls for the packages in `skia`. -/
def customParses (fs : FileSystem) (path : String) : List PackageEvent :=
  (customDirs fs path).map fun dirName => .parse (customCall path dirName)

variable {n : Nat} {path d : String}

theorem events_of_completes (h : fs.completes path = true) :
    (fs.pkgWalk modulesPath).events (n + 1) path =
      dependencyEvents fs modulesPath n path ++ customParses fs path ++ [.finish path] := by
  have hedges : (fs.pkgWalk modulesPath).edges path = fs.dependencies path := if_pos h
  have hleave : (fs.pkgWalk modulesPath).leave path =
      customParses fs path ++ [.finish path] := if_pos h
  rw [DepthWalk.events, hedges, hleave, ← List.append_assoc]
  rfl

theorem events_of_not_completes (h : fs.completes path = false) :
    (fs.pkgWalk modulesPath).events n path = [] := by
  cases n with
  | zero => rfl
  | succ n =>
    have hedges : (fs.pkgWalk modulesPath).edges path = [] := if_neg (by simp [h])
    have hleave : (fs.pkgWalk modulesPath).leave path = [] := if_neg (by simp [h])
    rw [DepthWalk.events, hedges, hleave]
    rfl

/-- A level in the block of a dependency ends only if that of the dependency does. -/
theorem finish_mem_block (h : .finish path ∈ block fs modulesPath n d) :
    fs.completes (subPath modulesPath d) = true := by
  by_contra hnot
  rw [block, events_of_not_completes (Bool.eq_false_iff.mpr hnot)] at h
  simp at h

section
variable (hdepth : DepthLt (fs.pkgWalk modulesPath).children n (subPath modulesPath d))
include hdepth

theorem dependencyCall_mem_block :
    .parse (dependencyCall modulesPath pkg) ∈ block fs modulesPath n d ↔
      pkg = d ∨ Descended fs modulesPath (subPath modulesPath d) pkg := by
  rw [block, List.mem_append, mem_events_dependencyCall hdepth]
  refine or_congr_left ?_
  simp only [List.mem_cons, PackageEvent.parse.injEq, List.not_mem_nil, or_false, reduceCtorEq]
  exact ⟨fun h => congrArg ParseCall.packageName h, fun h => by rw [h]⟩

theorem noneAfter_block :
    NoneAfter modulesPath pkg (block fs modulesPath n d) ↔
      (fs.completes (subPath modulesPath d) = true →
        pkg ≠ d ∧ ¬Descended fs modulesPath (subPath modulesPath d) pkg) := by
  constructor
  · intro hnone hcompletes
    rw [← not_or, ← dependencyCall_mem_block hdepth]
    intro hmem
    cases n with
    | zero => exact hdepth
    | succ n =>
      -- The level of the dependency is the last one that ends.
      rw [block, events_of_completes hcompletes, ← List.append_assoc] at hnone hmem
      have hbefore := (List.mem_append.mp hmem).resolve_right (by simp)
      exact (List.pairwise_append.mp hnone).2.2 _ hbefore _ (List.mem_singleton_self _) rfl _ rfl
  · intro h
    by_cases hcompletes : fs.completes (subPath modulesPath d) = true
    · refine NoneAfter.of_not_mem ?_
      rw [dependencyCall_mem_block hdepth, not_or]
      exact h hcompletes
    · exact NoneAfter.of_not_finish fun path hmem => hcompletes (finish_mem_block hmem)

end

/-- The last event of a level that ends. -/
theorem exists_finish_mem_block (hdepth : DepthLt (fs.pkgWalk modulesPath).children n
    (subPath modulesPath d)) (h : fs.completes (subPath modulesPath d) = true) :
    .finish (subPath modulesPath d) ∈ block fs modulesPath n d := by
  cases n with
  | zero => exact hdepth.elim
  | succ n =>
    rw [block, events_of_completes h]
    simp

/-- A package is a direct dependency of the application. No dependency whose level ends is this
package, has it below, or is listed behind it. -/
structure ListedInTime (fs : FileSystem) (modulesPath applicationPath pkg : String) : Prop where
  direct : pkg ∈ fs.dependencies applicationPath
  notAbove : ∀ d ∈ fs.dependencies applicationPath,
    fs.completes (subPath modulesPath d) = true →
      pkg ≠ d ∧ ¬Descended fs modulesPath (subPath modulesPath d) pkg
  notBehind : (fs.dependencies applicationPath).Pairwise fun d d' =>
    fs.completes (subPath modulesPath d') = true → pkg ≠ d

theorem completes_of_descended (h : Descended fs modulesPath path pkg) :
    fs.completes path = true := by
  obtain ⟨last, hbelow, hmem⟩ := h
  rcases Below.cases_head_iff.mp hbelow with rfl | ⟨next, hnext, -⟩
  · exact completes_of_mem_descents hmem
  · obtain ⟨pkg', hpkg', -⟩ := List.mem_map.mp hnext
    exact completes_of_mem_descents hpkg'

/-- It is registered by a level of a dependency, and none has ended since. -/
theorem registered_in_dependencyEvents_iff
    (hdepth : ∀ d ∈ fs.dependencies applicationPath,
      DepthLt (fs.pkgWalk modulesPath).children n (subPath modulesPath d)) :
    (.parse (dependencyCall modulesPath pkg) ∈ dependencyEvents fs modulesPath n applicationPath ∧
        NoneAfter modulesPath pkg (dependencyEvents fs modulesPath n applicationPath)) ↔
      ListedInTime fs modulesPath applicationPath pkg := by
  rw [dependencyEvents, NoneAfter, List.pairwise_flatMap, List.mem_flatMap]
  constructor
  · rintro ⟨⟨d, hd, hmem⟩, hblocks, hpairs⟩
    have habove := fun d hd => (noneAfter_block (hdepth d hd)).mp (hblocks d hd)
    refine ⟨?_, habove, ?_⟩
    · rcases (dependencyCall_mem_block (hdepth d hd)).mp hmem with rfl | hdescended
      · exact hd
      · exact absurd hdescended (habove d hd (completes_of_descended hdescended)).2
    · refine hpairs.imp_of_mem fun {d d'} hd hd' hpair hcompletes heq => ?_
      exact hpair _ ((dependencyCall_mem_block (hdepth d hd)).mpr (Or.inl heq)) _
        (exists_finish_mem_block (hdepth d' hd') hcompletes) rfl _ rfl
  · rintro ⟨hdirect, habove, hbehind⟩
    refine ⟨⟨pkg, hdirect, (dependencyCall_mem_block (hdepth pkg hdirect)).mpr (Or.inl rfl)⟩,
      fun d hd => (noneAfter_block (hdepth d hd)).mpr (habove d hd), ?_⟩
    refine hbehind.imp_of_mem fun {d d'} hd hd' hpair event hmem event' hmem' heq path hfinish => ?_
    subst heq hfinish
    rcases (dependencyCall_mem_block (hdepth d hd)).mp hmem with rfl | hdescended
    · exact hpair (finish_mem_block hmem') rfl
    · exact (habove d hd (completes_of_descended hdescended)).2 hdescended

theorem noneAfter_append_customParses {events : List PackageEvent} :
    NoneAfter modulesPath pkg (events ++ customParses fs path) ↔
      NoneAfter modulesPath pkg events := by
  have hnot : ∀ path', .finish path' ∉ customParses fs path := by
    intro path' hmem
    obtain ⟨dirName, -, heq⟩ := List.mem_map.mp hmem
    cases heq
  rw [NoneAfter, List.pairwise_append]
  constructor
  · exact fun h => h.1
  · intro h
    exact ⟨h, NoneAfter.of_not_finish hnot, fun _ _ event' hmem _ path' heq =>
      hnot path' (heq ▸ hmem)⟩

theorem dependencyCall_not_mem_customParses :
    .parse (dependencyCall modulesPath pkg) ∉ customParses fs path := by
  intro hmem
  obtain ⟨dirName, -, heq⟩ := List.mem_map.mp hmem
  cases congrArg ParseCall.packageMapTable (PackageEvent.parse.inj heq)

/-- The target of a dependency is in the list once if and only if the level of the application ends
and it is listed in time. -/
theorem count_packageTarget_eq_one_iff {fuel : Nat}
    (hdepth : DepthLt (fs.pkgWalk modulesPath).children fuel applicationPath)
    (hinfo : callInfo fs (dependencyCall modulesPath pkg) = some info) :
    (((fs.pkgWalk modulesPath).events fuel applicationPath).foldl
        (script fs modulesPath).apply {}).buildTargets.count (packageTarget modulesPath info) = 1 ↔
      fs.completes applicationPath = true ∧ ListedInTime fs modulesPath applicationPath pkg := by
  rcases hcompletes : fs.completes applicationPath with _ | _
  · rw [events_of_not_completes hcompletes]
    simp
  · cases fuel with
    | zero => exact hdepth.elim
    | succ fuel =>
      have hcalls := dependencyCalls_events hdepth
      rw [events_of_completes hcompletes] at hcalls ⊢
      have hdescents : ∀ d ∈ fs.dependencies applicationPath,
          DepthLt (fs.pkgWalk modulesPath).children fuel (subPath modulesPath d) := by
        rw [DepthWalk.depthLt_succ] at hdepth
        intro d hd
        exact hdepth d (by rwa [show (fs.pkgWalk modulesPath).edges applicationPath = _ from
          if_pos hcompletes])
      rw [count_eq_one_iff (fun call hmem => hcalls call (List.mem_append_left _ hmem)) hinfo,
        noneAfter_append_customParses, List.mem_append,
        or_iff_left dependencyCall_not_mem_customParses,
        registered_in_dependencyEvents_iff hdescents]
      simp

end ReactNativeSkia.RSkBuildGen
