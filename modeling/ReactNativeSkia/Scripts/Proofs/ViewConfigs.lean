import ReactNativeSkia.Scripts.Proofs.PackageWalk
import ReactNativeSkia.Scripts.Proofs.Registration

/-!
# The generated view configuration

The if blocks of all packages are one text. An else stands in front of a block unless its component
is the first of its package, so it follows a block except in front of the first one of the text.
-/

namespace ReactNativeSkia.RSkCodeGen

/-- A component with a view configuration, and its place in its package. -/
structure ConfiguredComponent where
  index : Nat
  name : String
  config : ViewManagerConfig
  deriving DecidableEq, Repr

def ConfiguredComponent.block (c : ConfiguredComponent) : String := ifBlock c.name c.config

/-- What is written for a component. -/
def ConfiguredComponent.piece (c : ConfiguredComponent) : String :=
  parseViewConfigs c.index c.name c.config ""

/-- The packages that a sequence of calls registers, `known` in front of it. -/
def newPackages (fs : FileSystem) :
    List (PackageTable × String) → List ParseCall → List (RskProject × PackageInfo)
  | _, [] => []
  | known, call :: calls =>
    match fs.skiaConfig call.rskProjPath with
    | none => newPackages fs known calls
    | some (codegenData, codegenConfig, skia) =>
      if (call.packageMapTable, call.packageName) ∈ known then newPackages fs known calls
      else
        (codegenData, packageInfo call.packageName codegenConfig skia) ::
          newPackages fs ((call.packageMapTable, call.packageName) :: known) calls

def configuredComponent (viewManagerConfigs : Option (List (String × ViewManagerConfig)))
    (component : String × Nat) : Option ConfiguredComponent :=
  (viewManagerConfigs.bind (List.lookup component.1)).map fun config =>
    ⟨component.2, component.1, config⟩

/-- The components of a package that have a configuration, in their order. -/
def configuredComponents (package : RskProject × PackageInfo) : List ConfiguredComponent :=
  package.2.classNames.zipIdx.filterMap (configuredComponent package.1.viewManagerConfig)

/-- Those of all packages that a sequence of calls registers. -/
def allConfigured (fs : FileSystem) (calls : List ParseCall) : List ConfiguredComponent :=
  (newPackages fs [] calls).flatMap configuredComponents

/-- The text after a sequence of calls. -/
def viewConfigTemplate (fs : FileSystem) (calls : List ParseCall) : String :=
  (calls.foldl (fun s call => parseRskProjectFile fs call s) {}).ViewConfigTemplateCpp

/-- An if block, and further ones behind an else. -/
def chainText (chain : List ConfiguredComponent) : String :=
  " else ".intercalate (chain.map ConfiguredComponent.block)

/-- The generated file has chains of if blocks for its configurations, with a block for each of the
components. -/
def GeneratesChains (script viewManagerConfigs : String)
    (components : List ConfiguredComponent) : Prop :=
  ∃ chains : List (List ConfiguredComponent), (∀ chain ∈ chains, chain ≠ []) ∧
    chains.flatten = components ∧
    generateThirdPartyViewConfigManagerCpp script viewManagerConfigs =
      generateThirdPartyViewConfigManagerCpp script (String.join (chains.map chainText))

variable {fs : FileSystem} {s : CodeGen} {c : ConfiguredComponent}

/-! ## The text of a sequence of calls -/

theorem join_viewConfigText
    (viewManagerConfigs : Option (List (String × ViewManagerConfig)))
    (components : List (String × Nat)) :
    String.join (components.map (viewConfigText viewManagerConfigs)) =
      String.join ((components.filterMap (configuredComponent viewManagerConfigs)).map
        ConfiguredComponent.piece) := by
  induction components with
  | nil => rfl
  | cons component components ih =>
    rw [List.map_cons, String.join_cons, ih, List.filterMap_cons]
    unfold viewConfigText
    rcases hconfig : viewManagerConfigs.bind (List.lookup component.1) with _ | config
    · simp [configuredComponent, hconfig]
    · simp [configuredComponent, hconfig, ConfiguredComponent.piece]

/-- The text of a package is that of its components with a configuration. -/
theorem foldl_parse_text (fs : FileSystem) (s : CodeGen) (calls : List ParseCall)
    (known : List (PackageTable × String))
    (hknown : ∀ t n, s.known t n = true ↔ (t, n) ∈ known) :
    (calls.foldl (fun s call => parseRskProjectFile fs call s) s).ViewConfigTemplateCpp =
      s.ViewConfigTemplateCpp ++
        String.join (((newPackages fs known calls).flatMap configuredComponents).map
          ConfiguredComponent.piece) := by
  induction calls generalizing s known with
  | nil => simp [newPackages]
  | cons call calls ih =>
    rw [List.foldl_cons, newPackages]
    rcases hconfig : fs.skiaConfig call.rskProjPath with _ | ⟨codegenData, codegenConfig, skia⟩
    · rw [parseRskProjectFile_of_none (by simp [registration, hconfig])]
      exact ih _ known hknown
    · by_cases hmem : (call.packageMapTable, call.packageName) ∈ known
      · have hcall := (hknown _ _).mpr hmem
        rw [parseRskProjectFile_of_none (by simp [registration, hcall])]
        simp only [hmem, if_true]
        exact ih _ known hknown
      · have hcall : ¬s.known call.packageMapTable call.packageName = true :=
          fun h => hmem ((hknown _ _).mp h)
        have hregistration : registration fs call s =
            some (codegenData, packageInfo call.packageName codegenConfig skia) := by
          simp [registration, hcall, hconfig]
        rw [parseRskProjectFile_of_some hregistration]
        simp only [hmem, if_false]
        rw [ih _ ((call.packageMapTable, call.packageName) :: known)]
        · simp only [List.flatMap_cons, List.map_append, String.join_append, String.append_assoc,
            join_viewConfigText]
          rfl
        · intro t n
          rw [List.mem_cons, Prod.mk.injEq, ← hknown, or_comm, eq_comm (a := t),
            eq_comm (a := n)]
          exact known_insert_iff

theorem viewConfigTemplate_eq (fs : FileSystem) (calls : List ParseCall) :
    viewConfigTemplate fs calls =
      String.join ((allConfigured fs calls).map ConfiguredComponent.piece) := by
  have htext := foldl_parse_text fs {} calls []
    (fun t n => by cases t <;> simp [CodeGen.known, CodeGen.table])
  rw [String.empty_append] at htext
  exact htext

/-! ## Chains -/

theorem piece_eq (c : ConfiguredComponent) :
    c.piece = (if c.index ≠ 0 then " else " else "") ++ c.block := by
  rw [ConfiguredComponent.piece, parseViewConfigs, String.empty_append]
  rfl

theorem chainText_cons {chain : List ConfiguredComponent} (h : chain ≠ []) :
    chainText (c :: chain) = c.block ++ " else " ++ chainText chain := by
  unfold chainText
  rw [List.map_cons, String.intercalate_cons_of_ne_nil (by simpa using h)]

/-- The pieces behind a block are an else with a block each, or begin a new chain. -/
theorem exists_chains (c : ConfiguredComponent) (components : List ConfiguredComponent) :
    ∃ chains : List (List ConfiguredComponent), (∀ chain ∈ chains, chain ≠ []) ∧
      chains.flatten = c :: components ∧
      String.join (chains.map chainText) =
        c.block ++ String.join (components.map ConfiguredComponent.piece) := by
  induction components generalizing c with
  | nil => exact ⟨[[c]], by simp, rfl, by simp [chainText]⟩
  | cons next components ih =>
    obtain ⟨chains, hne, hflatten, htext⟩ := ih next
    rw [List.map_cons, String.join_cons, piece_eq]
    by_cases hindex : next.index = 0
    · refine ⟨[c] :: chains, by simpa using hne, by rw [List.flatten_cons, hflatten]; rfl, ?_⟩
      rw [List.map_cons, String.join_cons, htext]
      simp [chainText, hindex]
    · obtain ⟨chain, chains, rfl⟩ : ∃ chain rest, chains = chain :: rest := by
        cases chains with
        | nil => simp at hflatten
        | cons chain rest => exact ⟨chain, rest, rfl⟩
      have hchain := hne chain List.mem_cons_self
      refine ⟨(c :: chain) :: chains, ?_, ?_, ?_⟩
      · intro other hother
        rcases List.mem_cons.mp hother with rfl | hrest
        · exact List.cons_ne_nil c chain
        · exact hne other (List.mem_cons_of_mem _ hrest)
      · rw [List.flatten_cons, List.cons_append, ← List.flatten_cons, hflatten]
      · rw [List.map_cons, String.join_cons] at htext ⊢
        rw [chainText_cons hchain, String.append_assoc, htext]
        simp [hindex, String.append_assoc]

theorem generate_inj {script text text' : String} :
    generateThirdPartyViewConfigManagerCpp script text =
      generateThirdPartyViewConfigManagerCpp script text' ↔ text = text' := by
  unfold generateThirdPartyViewConfigManagerCpp
  rw [String.append_left_inj, String.append_right_inj]

theorem block_eq (c : ConfiguredComponent) :
    ∃ rest, c.block = "if(viewManagerName == \"" ++ rest := by
  unfold ConfiguredComponent.block ifBlock
  rw [String.append_assoc, String.append_assoc, String.append_assoc]
  exact ⟨_, rfl⟩

/-- A chain begins with an if. -/
theorem chainText_eq {chain : List ConfiguredComponent} (h : chain ≠ []) :
    ∃ rest, chainText chain = "if(viewManagerName == \"" ++ rest := by
  obtain ⟨c, behind, rfl⟩ := List.exists_cons_of_ne_nil h
  obtain ⟨rest, hblock⟩ := block_eq c
  cases behind with
  | nil => exact ⟨rest, by rw [chainText, List.map_singleton, String.intercalate_singleton, hblock]⟩
  | cons next behind =>
    rw [chainText_cons (List.cons_ne_nil _ _), hblock, String.append_assoc, String.append_assoc]
    exact ⟨_, rfl⟩

theorem else_ne_if (text text' : String) :
    " else " ++ text ≠ "if(viewManagerName == \"" ++ text' := by
  intro h
  have hhead := congrArg (fun text => text.toList.head?) h
  simp at hhead

/-- A text of chains does not begin with an else. -/
theorem GeneratesChains.index_eq_zero {calls : List ParseCall} {script : String}
    (h : GeneratesChains script (viewConfigTemplate fs calls) (allConfigured fs calls))
    {components : List ConfiguredComponent}
    (hconfigured : allConfigured fs calls = c :: components) :
    c.index = 0 := by
  obtain ⟨chains, hne, hflatten, htext⟩ := h
  rw [generate_inj, viewConfigTemplate_eq, hconfigured, List.map_cons, String.join_cons,
    piece_eq] at htext
  by_contra hindex
  cases chains with
  | nil => simp [hconfigured] at hflatten
  | cons chain chains =>
    obtain ⟨rest, hrest⟩ := chainText_eq (hne chain List.mem_cons_self)
    rw [List.map_cons, String.join_cons, if_pos hindex, hrest, String.append_assoc,
      String.append_assoc] at htext
    exact else_ne_if _ _ htext

/-- The generated view configuration is well formed if and only if the first component that has a
configuration is the first one of its package. -/
theorem generatesChains_iff (fs : FileSystem) (calls : List ParseCall) (script : String) :
    GeneratesChains script (viewConfigTemplate fs calls) (allConfigured fs calls) ↔
      ∀ c ∈ (allConfigured fs calls).head?, c.index = 0 := by
  constructor
  · intro h c hc
    obtain ⟨components, hconfigured⟩ := List.head?_eq_some_iff.mp hc
    exact h.index_eq_zero hconfigured
  · intro hindex
    unfold GeneratesChains
    simp only [generate_inj, viewConfigTemplate_eq]
    rcases hconfigured : allConfigured fs calls with _ | ⟨c, components⟩
    · exact ⟨[], by simp, rfl, rfl⟩
    · obtain ⟨chains, hne, hflatten, htext⟩ := exists_chains c components
      refine ⟨chains, hne, hflatten, ?_⟩
      rw [htext, List.map_cons, String.join_cons, piece_eq,
        if_neg (not_not_intro (hindex c (by rw [hconfigured]; rfl))), String.empty_append]

/-- A package with two components of which the second has a configuration. -/
def sliderProject : FileSystem where
  rskProjects :=
    [("node_modules/slider/skia/Rsk.project",
      { codegenConfig := some
          { skia := some { codegenNativeComponentNativeProps := some ["Slider", "SliderThumb"] } }
        viewManagerConfig := some [("SliderThumb", { nativePropsConfig := some ["value"] })] })]

/-- The text begins with an else. -/
theorem slider_begins_with_else :
    ¬GeneratesChains "RSkCodeGen.py"
      (viewConfigTemplate sliderProject [dependencyCall "node_modules" "slider"])
      (allConfigured sliderProject [dependencyCall "node_modules" "slider"]) := by
  intro h
  have hconfigured : allConfigured sliderProject [dependencyCall "node_modules" "slider"] =
      [⟨1, "SliderThumb", { nativePropsConfig := some ["value"] }⟩] := by
    decide +kernel
  exact absurd (h.index_eq_zero hconfigured) (by decide)

/-! ## The text of a run -/

theorem parse_with_visited (call : ParseCall) (s : CodeGen) (visited : List String) :
    parseRskProjectFile fs call { s with visited := visited } =
      { parseRskProjectFile fs call s with visited := visited } := by
  have hsame : registration fs call { s with visited := visited } = registration fs call s := by
    unfold registration CodeGen.known
    cases call.packageMapTable <;> rfl
  rcases hregistration : registration fs call s with _ | ⟨codegenData, info⟩
  · rw [parseRskProjectFile_of_none hregistration,
      parseRskProjectFile_of_none (hsame.trans hregistration)]
  · rw [parseRskProjectFile_of_some hregistration,
      parseRskProjectFile_of_some (hsame.trans hregistration)]
    cases call.packageMapTable <;> rfl

def callOf : PackageEvent → Option ParseCall
  | .parse call => some call
  | _ => none

theorem foldl_apply_eq (fs : FileSystem) (events : List PackageEvent) (s : CodeGen) :
    ∃ visited, events.foldl (script fs).apply s =
      { (events.filterMap callOf).foldl (fun s call => parseRskProjectFile fs call s) s with
        visited := visited } := by
  induction events using List.reverseRecOn with
  | nil => exact ⟨s.visited, rfl⟩
  | append_singleton events event ih =>
    obtain ⟨visited, heq⟩ := ih
    rw [List.foldl_append, heq, List.filterMap_append, List.foldl_append]
    cases event with
    | parse call =>
      refine ⟨visited, ?_⟩
      rw [List.foldl_cons, List.foldl_nil]
      exact parse_with_visited _ _ _
    | visit pkg => exact ⟨visited ++ [pkg], rfl⟩
    | finish path => exact ⟨visited, rfl⟩

/-- The view configurations that `preparePkgInfo` leaves are those of its calls. -/
theorem preparePkgInfo_viewConfigTemplate {modulesPath applicationPath : String} {fuel : Nat}
    (h : preparePkgInfo fs modulesPath fuel applicationPath {} = some s) :
    ∃ calls, s.ViewConfigTemplateCpp = viewConfigTemplate fs calls := by
  obtain ⟨-, rfl⟩ := preparePkgInfo_eq_some h
  obtain ⟨visited, heq⟩ :=
    foldl_apply_eq fs ((fs.pkgWalk modulesPath).events fuel applicationPath) {}
  exact ⟨_, by rw [heq]; rfl⟩

end ReactNativeSkia.RSkCodeGen
