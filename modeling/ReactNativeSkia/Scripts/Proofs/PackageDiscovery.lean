import ReactNativeSkia.Scripts.Proofs.PackageWalk
import ReactNativeSkia.Scripts.Proofs.Registration

/-!
# Package discovery

The recursion descends to the dependencies of a package whether it knows them or not, so it ends if
and only if no descents lead in a circle. It makes the entries of a package when it registers it,
and that is once. It does not descend from a package of the new architecture.
-/

namespace ReactNativeSkia.RSkCodeGen

variable {fs : FileSystem} {modulesPath applicationPath pkg : String} {call : ParseCall}
  {s : CodeGen} {t : PackageTable} {n : String}

/-! ## Entries -/

/-- The entries that have been made for a package of a table. -/
def entriesOf (packageMapTable : PackageTable) (packageName : String)
    (lookups : List LookupEntry) : List LookupEntry :=
  lookups.filter fun entry =>
    entry.packageMapTable = packageMapTable ∧ entry.packageName = packageName

/-- What a call would register. -/
def callInfo (fs : FileSystem) (call : ParseCall) : Option PackageInfo :=
  (fs.skiaConfig call.rskProjPath).map fun (_, codegenConfig, skia) =>
    packageInfo call.packageName codegenConfig skia

/-- The entries for the names that a call reads. -/
def callEntries (fs : FileSystem) (call : ParseCall) (names : PackageInfo → List String) :
    List LookupEntry :=
  match callInfo fs call with
  | none => []
  | some info => (names info).map (lookupEntry call info)

theorem callInfo_name {info : PackageInfo} (h : callInfo fs call = some info) :
    info.name = call.packageName := by
  obtain ⟨⟨data, codegenConfig, skia⟩, -, rfl⟩ := Option.map_eq_some_iff.mp h
  rfl

/-- A call of a known package, or one that reads nothing, does nothing. -/
theorem parse_eq_self (h : s.known call.packageMapTable call.packageName = true ∨
    callInfo fs call = none) : parseRskProjectFile fs call s = s := by
  refine parseRskProjectFile_of_none ?_
  unfold registration
  split
  · rfl
  · rename_i hknown
    have hnone := h.resolve_left hknown
    unfold callInfo at hnone
    rw [Option.map_eq_none_iff] at hnone ⊢
    exact hnone

/-- Any other call registers. -/
theorem parse_registers (hknown : s.known call.packageMapTable call.packageName = false)
    {info : PackageInfo} (hinfo : callInfo fs call = some info) :
    (parseRskProjectFile fs call s).table = (s.insert call.packageMapTable info).table ∧
      (parseRskProjectFile fs call s).moduleLookups =
        s.moduleLookups ++ callEntries fs call PackageInfo.moduleNames ∧
      (parseRskProjectFile fs call s).componentLookups =
        s.componentLookups ++ callEntries fs call PackageInfo.classNames := by
  obtain ⟨⟨data, codegenConfig, skia⟩, hconfig, rfl⟩ := Option.map_eq_some_iff.mp hinfo
  have hregistration : registration fs call s =
      some (data, packageInfo call.packageName codegenConfig skia) := by
    unfold registration
    rw [if_neg (by simp [hknown]), hconfig]
    rfl
  unfold callEntries
  rw [parseRskProjectFile_of_some hregistration, hinfo]
  refine ⟨?_, rfl, rfl⟩
  funext t
  cases t <;> rfl

/-- A package is known after a call for it that reads something. -/
theorem known_parse :
    (parseRskProjectFile fs call s).known t n = true ↔
      s.known t n = true ∨
        call.packageMapTable = t ∧ call.packageName = n ∧ (callInfo fs call).isSome = true := by
  rcases hinfo : callInfo fs call with _ | info
  · rw [parse_eq_self (Or.inr hinfo)]
    simp
  · by_cases hknown : s.known call.packageMapTable call.packageName = true
    · rw [parse_eq_self (Or.inl hknown)]
      constructor
      · exact Or.inl
      · rintro (h | ⟨rfl, rfl, -⟩)
        · exact h
        · exact hknown
    · have htable := (parse_registers (Bool.eq_false_iff.mpr hknown) hinfo).1
      have hinsert : (parseRskProjectFile fs call s).known t n =
          (s.insert call.packageMapTable info).known t n := by
        unfold CodeGen.known
        rw [htable]
      rw [hinsert, known_insert_iff, callInfo_name hinfo]
      simp

theorem entriesOf_append (l l' : List LookupEntry) :
    entriesOf t n (l ++ l') = entriesOf t n l ++ entriesOf t n l' := List.filter_append ..

/-- The entries of a call are all those of its package. -/
theorem entriesOf_callEntries (names : PackageInfo → List String) :
    entriesOf t n (callEntries fs call names) =
      if call.packageMapTable = t ∧ call.packageName = n then callEntries fs call names
      else [] := by
  unfold callEntries entriesOf
  split
  · simp
  · rw [List.filter_map]
    split
    · rename_i h
      simp [Function.comp_def, lookupEntry, h]
    · rename_i h
      rw [List.map_eq_nil_iff, List.filter_eq_nil_iff]
      intro name _ htrue
      exact h (of_decide_eq_true htrue)

/-! ## Runs -/

/-- What is known of a package after a run, and its entries. -/
structure Registered (fs : FileSystem) (modulesPath : String) (events : List PackageEvent)
    (s : CodeGen) : Prop where
  known_iff : ∀ pkg, s.known .packageMap pkg = true ↔
    .parse (dependencyCall modulesPath pkg) ∈ events ∧
      (callInfo fs (dependencyCall modulesPath pkg)).isSome = true
  modules : ∀ pkg, entriesOf .packageMap pkg s.moduleLookups =
    if s.known .packageMap pkg = true then
      callEntries fs (dependencyCall modulesPath pkg) PackageInfo.moduleNames
    else []
  components : ∀ pkg, entriesOf .packageMap pkg s.componentLookups =
    if s.known .packageMap pkg = true then
      callEntries fs (dependencyCall modulesPath pkg) PackageInfo.classNames
    else []

/-- The entries of a list of lookups after a call, for the names that it reads. -/
theorem entries_after_call {names : PackageInfo → List String} {lookups lookups' : List LookupEntry}
    (hcall : call.packageMapTable = .packageMap →
      call = dependencyCall modulesPath call.packageName)
    (hbefore : entriesOf .packageMap pkg lookups =
      if s.known .packageMap pkg = true then callEntries fs (dependencyCall modulesPath pkg) names
      else [])
    (hlookups : lookups' = lookups ++
      if s.known call.packageMapTable call.packageName = true then []
      else callEntries fs call names) :
    entriesOf .packageMap pkg lookups' =
      if (parseRskProjectFile fs call s).known .packageMap pkg = true then
        callEntries fs (dependencyCall modulesPath pkg) names
      else [] := by
  rw [hlookups, entriesOf_append, hbefore]
  simp only [known_parse]
  by_cases hself : call.packageMapTable = .packageMap ∧ call.packageName = pkg
  · obtain ⟨htable, rfl⟩ := hself
    have heq := hcall htable
    rw [htable]
    by_cases hknown : s.known .packageMap call.packageName = true
    · simp [hknown, entriesOf]
    · rw [if_neg hknown, if_neg hknown, List.nil_append, entriesOf_callEntries,
        if_pos ⟨htable, rfl⟩, ← heq]
      split
      · rfl
      · rename_i hnone
        have hinfo : callInfo fs call = none := by
          rw [← Option.not_isSome_iff_eq_none]
          exact fun hsome => hnone (Or.inr ⟨rfl, rfl, hsome⟩)
        rw [callEntries, hinfo]
  · have hother : entriesOf .packageMap pkg
        (if s.known call.packageMapTable call.packageName = true then []
          else callEntries fs call names) = [] := by
      split
      · rfl
      · rw [entriesOf_callEntries, if_neg hself]
    rw [hother, List.append_nil]
    have hiff : (s.known .packageMap pkg = true ∨ call.packageMapTable = .packageMap ∧
        call.packageName = pkg ∧ (callInfo fs call).isSome = true) ↔
        s.known .packageMap pkg = true :=
      or_iff_left fun h => hself ⟨h.1, h.2.1⟩
    simp only [hiff]

/-- What a call adds to the lookups. -/
theorem parse_lookups (fs : FileSystem) (call : ParseCall) (s : CodeGen) :
    (parseRskProjectFile fs call s).moduleLookups = s.moduleLookups ++
        (if s.known call.packageMapTable call.packageName = true then []
          else callEntries fs call PackageInfo.moduleNames) ∧
      (parseRskProjectFile fs call s).componentLookups = s.componentLookups ++
        (if s.known call.packageMapTable call.packageName = true then []
          else callEntries fs call PackageInfo.classNames) := by
  by_cases hknown : s.known call.packageMapTable call.packageName = true
  · rw [parse_eq_self (Or.inl hknown)]
    simp [hknown]
  · rw [if_neg hknown, if_neg hknown]
    rcases hinfo : callInfo fs call with _ | info
    · rw [parse_eq_self (Or.inr hinfo)]
      simp [callEntries, hinfo]
    · obtain ⟨-, hmodules, hcomponents⟩ := parse_registers (Bool.eq_false_iff.mpr hknown) hinfo
      exact ⟨hmodules, hcomponents⟩

theorem Registered.nil : Registered fs modulesPath [] {} := by
  constructor <;> simp [CodeGen.known, CodeGen.table, entriesOf]

theorem Registered.append {events : List PackageEvent} {event : PackageEvent}
    (h : Registered fs modulesPath events s)
    (hcall : ∀ call, event = .parse call → call.packageMapTable = .packageMap →
      call = dependencyCall modulesPath call.packageName) :
    Registered fs modulesPath (events ++ [event]) ((script fs).apply s event) := by
  cases event with
  | visit other =>
    refine ⟨fun pkg => (h.known_iff pkg).trans ?_, h.modules, h.components⟩
    simp
  | finish path =>
    refine ⟨fun pkg => (h.known_iff pkg).trans ?_, h.modules, h.components⟩
    simp
  | parse call =>
    have hdependency := hcall call rfl
    obtain ⟨hmodules, hcomponents⟩ := parse_lookups fs call s
    refine ⟨fun pkg => ?_, fun pkg => ?_, fun pkg => ?_⟩
    · simp only [PkgScript.apply, script, known_parse, h.known_iff, List.mem_append,
        List.mem_singleton, PackageEvent.parse.injEq]
      constructor
      · rintro (⟨hmem, hsome⟩ | ⟨htable, rfl, hsome⟩)
        · exact ⟨Or.inl hmem, hsome⟩
        · have heq := hdependency htable
          exact ⟨Or.inr heq.symm, heq ▸ hsome⟩
      · rintro ⟨hmem | rfl, hsome⟩
        · exact Or.inl ⟨hmem, hsome⟩
        · exact Or.inr ⟨rfl, rfl, hsome⟩
    · exact entries_after_call hdependency (h.modules pkg) hmodules
    · exact entries_after_call hdependency (h.components pkg) hcomponents

/-- A run registers the packages of its calls. -/
theorem Registered.of_foldl {events : List PackageEvent}
    (hcalls : DependencyCalls modulesPath events) :
    Registered fs modulesPath events (events.foldl (script fs).apply {}) :=
  hcalls.invariant Registered.nil fun _ _ _ => Registered.append

theorem visited_foldl (events : List PackageEvent) (pkg : String) :
    pkg ∈ (events.foldl (script fs).apply s).visited ↔
      pkg ∈ s.visited ∨ .visit pkg ∈ events := by
  induction events generalizing s with
  | nil => simp
  | cons event events ih =>
    rw [List.foldl_cons, ih]
    cases event with
    | visit other =>
      simp only [PkgScript.apply, script, List.mem_append, List.mem_cons, List.not_mem_nil,
        or_false, PackageEvent.visit.injEq]
      tauto
    | finish other => simp [PkgScript.apply, script]
    | parse call =>
      have hvisited : (parseRskProjectFile fs call s).visited = s.visited := by
        rcases hregistration : registration fs call s with _ | ⟨codegenData, info⟩
        · rw [parseRskProjectFile_of_none hregistration]
        · rw [parseRskProjectFile_of_some hregistration]
          cases call.packageMapTable <;> rfl
      simp [PkgScript.apply, script, hvisited]

/-! ## All packages -/

/-- `preparePkgInfo` ends, it is called for every package that can be reached, and it makes each
entry of each of these once. -/
structure Discovers (fs : FileSystem) (modulesPath applicationPath : String) : Prop where
  terminates : ∃ fuel s, preparePkgInfo fs modulesPath fuel applicationPath {} = some s
  visits : ∀ fuel s, preparePkgInfo fs modulesPath fuel applicationPath {} = some s →
    ∀ pkg, Reachable fs modulesPath applicationPath pkg → pkg ∈ s.visited
  emits : ∀ fuel s, preparePkgInfo fs modulesPath fuel applicationPath {} = some s →
    ∀ pkg, Reachable fs modulesPath applicationPath pkg →
      entriesOf .packageMap pkg s.moduleLookups =
          callEntries fs (dependencyCall modulesPath pkg) PackageInfo.moduleNames ∧
        entriesOf .packageMap pkg s.componentLookups =
          callEntries fs (dependencyCall modulesPath pkg) PackageInfo.classNames

/-- Packages are discovered if and only if no descents lead in a circle and every package that can
be reached is reached by descents. -/
theorem discovers_iff (fs : FileSystem) (modulesPath applicationPath : String) :
    Discovers fs modulesPath applicationPath ↔
      NoCircle (descentPaths fs modulesPath) applicationPath ∧
        ∀ pkg, Reachable fs modulesPath applicationPath pkg →
          Descended fs modulesPath applicationPath pkg := by
  constructor
  · intro h
    refine ⟨exists_preparePkgInfo_iff.mp h.terminates, fun pkg hpkg => ?_⟩
    obtain ⟨fuel, s, hrun⟩ := h.terminates
    have hvisited := h.visits fuel s hrun pkg hpkg
    obtain ⟨hdepth, rfl⟩ := preparePkgInfo_eq_some hrun
    rw [visited_foldl] at hvisited
    exact (mem_events_visit hdepth).mp (hvisited.resolve_left List.not_mem_nil)
  · rintro ⟨hcircle, hdescended⟩
    refine ⟨exists_preparePkgInfo_iff.mpr hcircle, ?_, ?_⟩
    · intro fuel s hrun pkg hpkg
      obtain ⟨hdepth, rfl⟩ := preparePkgInfo_eq_some hrun
      exact (visited_foldl _ _).mpr (Or.inr ((mem_events_visit hdepth).mpr (hdescended pkg hpkg)))
    · intro fuel s hrun pkg hpkg
      obtain ⟨hdepth, rfl⟩ := preparePkgInfo_eq_some hrun
      have hregistered : Registered fs modulesPath _ _ :=
        Registered.of_foldl (dependencyCalls_events hdepth)
      have hcall := (mem_events_dependencyCall hdepth).mpr (hdescended pkg hpkg)
      rw [hregistered.modules, hregistered.components]
      rcases hinfo : callInfo fs (dependencyCall modulesPath pkg) with _ | info
      · simp [callEntries, hinfo]
      · have hknown := (hregistered.known_iff pkg).mpr ⟨hcall, by rw [hinfo]; rfl⟩
        rw [if_pos hknown, if_pos hknown]
        exact ⟨rfl, rfl⟩

/-- Two packages that depend on each other. -/
def circlePackages : FileSystem where
  packageJsons :=
    [("app/package.json", { dependencies := some ["a"] }),
      ("node_modules/a/package.json", { dependencies := some ["b"] }),
      ("node_modules/b/package.json", { dependencies := some ["a"] })]

/-- The descents never end. -/
theorem circle_never_ends : ¬Discovers circlePackages "node_modules" "app" := by
  intro h
  have hcircle := exists_preparePkgInfo_iff.mp h.terminates
  have happ : "node_modules/a" ∈ descentPaths circlePackages "node_modules" "app" := by decide
  have ha : "node_modules/b" ∈ descentPaths circlePackages "node_modules" "node_modules/a" := by
    decide
  have hb : "node_modules/a" ∈ descentPaths circlePackages "node_modules" "node_modules/b" := by
    decide
  exact hcircle "node_modules/a" ((Below.refl _).tail happ) "node_modules/b" ha
    ((Below.refl _).tail hb)

end ReactNativeSkia.RSkCodeGen
