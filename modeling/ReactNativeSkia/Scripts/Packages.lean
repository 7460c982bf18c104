import ReactNativeSkia.Misc.DepthWalk

/-!
# The packages of an application

What `RSkCodeGen.py` and `RSkBuildGen.py` (`ReactSkia/scripts`) read of the file system, and the
recursion `preparePkgInfo` that both have. Objects of JSON and directories are lists in the order of
the iteration, which the interpreter chooses. Depths at which it gives up a recursion are left out.
-/

namespace ReactNativeSkia

/-- What is read of a `package.json`. Of `codegenConfig` only whether it is there. -/
structure PackageJson where
  dependencies : Option (List String) := none
  codegenConfig : Bool := false
  deriving DecidableEq, Repr

structure ViewManagerConfig where
  nativePropsConfig : Option (List String) := none
  directEventConfig : Option (List String) := none
  bubblingEventConfig : Option (List String) := none
  deriving DecidableEq, Repr

structure SkiaConfig where
  codegenNativeComponentNativeProps : Option (List String) := none
  TurboModuleRegistryGetEnforcingSpec : Option (List String) := none
  deriving DecidableEq, Repr

structure CodegenConfig where
  version : Option String := none
  name : Option String := none
  type : Option String := none
  skia : Option SkiaConfig := none
  deriving DecidableEq, Repr

/-- `Rsk.project`. -/
structure RskProject where
  codegenConfig : Option CodegenConfig := none
  viewManagerConfig : Option (List (String × ViewManagerConfig)) := none
  deriving DecidableEq, Repr

/-- Files and directories by their paths, a directory with the names of its entries. -/
structure FileSystem where
  packageJsons : List (String × PackageJson) := []
  rskProjects : List (String × RskProject) := []
  directories : List (String × List String) := []
  deriving DecidableEq, Repr

/-- The two tables of packages. -/
inductive PackageTable where
  | packageMap
  | packageMapCustom
  deriving DecidableEq, Repr

/-- One call of `parseRskProjectFile`. -/
structure ParseCall where
  packageMapTable : PackageTable
  packageName : String
  rskProjPath : String
  deriving DecidableEq, Repr

namespace FileSystem

variable (fs : FileSystem) (path : String)

def packageJson : Option PackageJson := fs.packageJsons.lookup path

def rskProject : Option RskProject := fs.rskProjects.lookup path

/-- `os.listdir`, nothing for a path that does not exist. -/
def listdir : List String := (fs.directories.lookup path).getD []

def isdir : Bool := (fs.directories.lookup path).isSome

/-- The configuration that makes `parseRskProjectFile` register a package. -/
def skiaConfig : Option (RskProject × CodegenConfig × SkiaConfig) :=
  (fs.rskProject path).bind fun codegenData =>
    codegenData.codegenConfig.bind fun codegenConfig =>
      codegenConfig.skia.map fun skia => (codegenData, codegenConfig, skia)

end FileSystem

/-- What the two scripts do differently on the way. -/
structure PkgScript (σ : Type) where
  parseRskProjectFile : ParseCall → σ → σ
  /-- `preparePkgInfo` is called for a package. -/
  visit : String → σ → σ
  /-- At the end of `preparePkgInfo`, after both loops. -/
  finish : String → σ → σ

section
variable {σ : Type} (fs : FileSystem) (script : PkgScript σ) (modulesPath : String)

/-- `modulesPath + '/' + pkg`. -/
def subPath (pkg : String) : String := modulesPath ++ "/" ++ pkg

/-- The call for a dependency. -/
def dependencyCall (pkg : String) : ParseCall where
  packageMapTable := .packageMap
  packageName := pkg
  rskProjPath := modulesPath ++ "/" ++ pkg ++ "/skia/Rsk.project"

/-- The call for a directory in `skia`. -/
def customCall (applicationPath dirName : String) : ParseCall where
  packageMapTable := .packageMapCustom
  packageName := dirName
  rskProjPath := applicationPath ++ "/skia/" ++ dirName ++ "/Rsk.project"

/-- The special cases of `preparePkgInfo`. -/
def customDirs (applicationPath : String) : List String :=
  (fs.listdir (applicationPath ++ "/skia")).filter fun dirName =>
    fs.isdir (applicationPath ++ "/skia/" ++ dirName)

def parseCustomPackages (applicationPath : String) (s : σ) : σ :=
  (customDirs fs applicationPath).foldl
    (fun s dirName => script.parseRskProjectFile (customCall applicationPath dirName) s) s

/-- `none` if it does not end within `fuel` levels. -/
def preparePkgInfo : Nat → String → σ → Option σ
  | 0, _, _ => none
  | fuel + 1, applicationPath, s =>
    match fs.packageJson (applicationPath ++ "/package.json") with
    | none => some s
    | some jsonData =>
      match jsonData.dependencies with
      | none => some s
      | some dependencies =>
        -- The first round of the loop returns.
        if jsonData.codegenConfig = true ∧ dependencies ≠ [] then some s
        else do
          let s ← dependencies.foldlM
            (fun s pkg => preparePkgInfo fuel (subPath modulesPath pkg)
              (script.visit pkg (script.parseRskProjectFile (dependencyCall modulesPath pkg) s))) s
          some (script.finish applicationPath (parseCustomPackages fs script applicationPath s))

end

/-! ## The recursion as a walk -/

inductive PackageEvent where
  | parse (call : ParseCall)
  | visit (pkg : String)
  | finish (path : String)
  deriving DecidableEq, Repr

namespace FileSystem

variable (fs : FileSystem) (modulesPath : String)

/-- All dependencies. -/
def dependencies (path : String) : List String :=
  ((fs.packageJson (path ++ "/package.json")).bind PackageJson.dependencies).getD []

/-- `preparePkgInfo` comes to its end for the path. -/
def completes (path : String) : Bool :=
  match fs.packageJson (path ++ "/package.json") with
  | none => false
  | some jsonData =>
    match jsonData.dependencies with
    | none => false
    | some dependencies => ¬(jsonData.codegenConfig = true ∧ dependencies ≠ [])

/-- The dependencies to which it descends. -/
def descents (path : String) : List String :=
  if fs.completes path then fs.dependencies path else []

def pkgWalk : DepthWalk String String PackageEvent where
  edges := fs.descents
  target := subPath modulesPath
  enter _ := []
  along pkg := [.parse (dependencyCall modulesPath pkg), .visit pkg]
  leave path :=
    if fs.completes path then
      (customDirs fs path).map (fun dirName => .parse (customCall path dirName)) ++ [.finish path]
    else []

end FileSystem

namespace PkgScript

variable {σ : Type} (script : PkgScript σ)

def apply (s : σ) : PackageEvent → σ
  | .parse call => script.parseRskProjectFile call s
  | .visit pkg => script.visit pkg s
  | .finish path => script.finish path s

end PkgScript

section
variable {σ : Type} {fs : FileSystem} {script : PkgScript σ} {modulesPath path : String}

theorem run_of_not_completes (h : fs.completes path = false) (fuel : Nat) (s : σ) :
    (fs.pkgWalk modulesPath).run script.apply (fuel + 1) path s = some s := by
  simp [DepthWalk.run, FileSystem.pkgWalk, FileSystem.descents, h]

theorem run_of_completes (h : fs.completes path = true) (fuel : Nat) (s : σ) :
    (fs.pkgWalk modulesPath).run script.apply (fuel + 1) path s =
      ((fs.dependencies path).foldlM
        (fun s pkg => (fs.pkgWalk modulesPath).run script.apply fuel (subPath modulesPath pkg)
          (script.visit pkg (script.parseRskProjectFile (dependencyCall modulesPath pkg) s)))
        s).bind
          fun s => some (script.finish path (parseCustomPackages fs script path s)) := by
  have hleave (s : σ) : ((fs.pkgWalk modulesPath).leave path).foldl script.apply s =
      script.finish path (parseCustomPackages fs script path s) := by
    simp only [FileSystem.pkgWalk, h, if_true, List.foldl_append, List.foldl_map,
      List.foldl_cons, List.foldl_nil, PkgScript.apply, parseCustomPackages]
  have hedges : (fs.pkgWalk modulesPath).edges path = fs.dependencies path := if_pos h
  rw [DepthWalk.run, hedges]
  simp only [hleave]
  rfl

theorem preparePkgInfo_eq_run (fuel : Nat) (path : String) (s : σ) :
    preparePkgInfo fs script modulesPath fuel path s =
      (fs.pkgWalk modulesPath).run script.apply fuel path s := by
  induction fuel generalizing path s with
  | zero => rfl
  | succ fuel ih =>
    rw [preparePkgInfo]
    split
    · rename_i hjson
      rw [run_of_not_completes (by simp [FileSystem.completes, hjson])]
    · rename_i jsonData hjson
      split
      · rename_i hdependencies
        rw [run_of_not_completes (by simp [FileSystem.completes, hjson, hdependencies])]
      · rename_i dependencies hdependencies
        split
        · rename_i hreturns
          rw [run_of_not_completes (by
            simp only [FileSystem.completes, hjson, hdependencies]
            exact decide_eq_false (not_not_intro hreturns))]
        · rename_i hgoes
          have heq : fs.dependencies path = dependencies := by
            simp [FileSystem.dependencies, hjson, hdependencies]
          rw [run_of_completes (by
            simp only [FileSystem.completes, hjson, hdependencies]
            exact decide_eq_true hgoes), heq]
          simp only [ih]
          rfl

end

end ReactNativeSkia
