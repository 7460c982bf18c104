import ReactNativeSkia.Scripts.Packages

/-!
# The generator of the build targets

`ReactSkia/scripts/buildgngen/RSkBuildGen.py`. The list of targets is the text of its entries, which
are kept as they are. The text that `generateBuildGn` puts around it is left out, as are the paths
that `main` reads from its configuration.
-/

namespace ReactNativeSkia.RSkBuildGen

/-- `rskProjPath` is the file that it has been read from, which tells packages of one name apart.
The source does not keep it, and no text has it. -/
structure PackageInfo where
  name : String
  type : String
  version : String
  libraryName : String
  rskProjPath : String
  deriving DecidableEq, Repr

/-- An entry of a package. `dir` is `modulesPath` for one of `packageMap`, and else the path of the
application. -/
structure BuildTarget where
  packageMapTable : PackageTable
  dir : String
  package : PackageInfo
  deriving DecidableEq, Repr

def BuildTarget.text (target : BuildTarget) : String :=
  match target.packageMapTable with
  | .packageMap =>
    "  \"" ++ target.dir ++ "/" ++ target.package.name ++ "/skia:" ++
      target.package.libraryName ++ "\",\n  "
  | .packageMapCustom =>
    "  \"" ++ target.dir ++ "/skia/" ++ target.package.name ++ ":" ++
      target.package.libraryName ++ "\",\n  "

/-- The target of a package of `packageMap`. -/
def packageTarget (modulesPath : String) (package : PackageInfo) : BuildTarget :=
  ⟨.packageMap, modulesPath, package⟩

/-- The target of a package of `packageMapCustom`. -/
def customTarget (applicationPath : String) (package : PackageInfo) : BuildTarget :=
  ⟨.packageMapCustom, applicationPath, package⟩

/-- The globals. -/
structure BuildGen where
  packageMap : List PackageInfo := []
  packageMapCustom : List PackageInfo := []
  buildTargets : List BuildTarget := []
  deriving DecidableEq, Repr

def packageInfo (call : ParseCall) (codegenConfig : CodegenConfig) : PackageInfo where
  name := call.packageName
  type := codegenConfig.type.getD "UnknownPkgType"
  version := codegenConfig.version.getD "UnknownPkgVersion"
  libraryName := codegenConfig.name.getD "UnknownPkgName"
  rskProjPath := call.rskProjPath

/-- `packageMapTable[packageName] = newPkgObj`: a name keeps its place. -/
def assign (newPkgObj : PackageInfo) : List PackageInfo → List PackageInfo
  | [] => [newPkgObj]
  | package :: table =>
    if package.name = newPkgObj.name then newPkgObj :: table
    else package :: assign newPkgObj table

namespace BuildGen

variable (s : BuildGen)

/-- `packageName in packageMap`, for both tables. -/
def known (packageName : String) : Bool :=
  s.packageMap.any fun package => package.name = packageName

def insert (packageMapTable : PackageTable) (newPkgObj : PackageInfo) : BuildGen :=
  match packageMapTable with
  | .packageMap => { s with packageMap := assign newPkgObj s.packageMap }
  | .packageMapCustom => { s with packageMapCustom := assign newPkgObj s.packageMapCustom }

/-- The loops over both tables at the end of `preparePkgInfo`. -/
def addTargets (modulesPath applicationPath : String) : BuildGen :=
  { s with
    buildTargets := s.buildTargets ++ s.packageMap.map (packageTarget modulesPath) ++
      s.packageMapCustom.map (customTarget applicationPath) }

/-- The text that the source keeps for the list. -/
def text : String := String.join (s.buildTargets.map BuildTarget.text)

/-- The text grows by the lines of both loops. -/
theorem text_addTargets (modulesPath applicationPath : String) :
    (s.addTargets modulesPath applicationPath).text = s.text ++
      String.join (s.packageMap.map fun package =>
        "  \"" ++ modulesPath ++ "/" ++ package.name ++ "/skia:" ++ package.libraryName ++
          "\",\n  ") ++
      String.join (s.packageMapCustom.map fun package =>
        "  \"" ++ applicationPath ++ "/skia/" ++ package.name ++ ":" ++ package.libraryName ++
          "\",\n  ") := by
  simp only [text, addTargets, List.map_append, List.map_map, String.join_append]
  rfl

end BuildGen

/-- What a call would register. -/
def callInfo (fs : FileSystem) (call : ParseCall) : Option PackageInfo :=
  (fs.skiaConfig call.rskProjPath).map fun (_, codegenConfig, _) => packageInfo call codegenConfig

def parseRskProjectFile (fs : FileSystem) (call : ParseCall) (s : BuildGen) : BuildGen :=
  match callInfo fs call with
  | none => s
  | some newPkgObj =>
    if s.known call.packageName = true then s else s.insert call.packageMapTable newPkgObj

def script (fs : FileSystem) (modulesPath : String) : PkgScript BuildGen where
  parseRskProjectFile := parseRskProjectFile fs
  visit _ s := s
  finish applicationPath s := s.addTargets modulesPath applicationPath

section
variable (fs : FileSystem) (modulesPath : String) (s : BuildGen)

@[simp]
theorem apply_parse (call : ParseCall) :
    (script fs modulesPath).apply s (.parse call) = parseRskProjectFile fs call s := rfl

@[simp]
theorem apply_visit (pkg : String) : (script fs modulesPath).apply s (.visit pkg) = s := rfl

@[simp]
theorem apply_finish (path : String) :
    (script fs modulesPath).apply s (.finish path) = s.addTargets modulesPath path := rfl

end

def preparePkgInfo (fs : FileSystem) (modulesPath : String) (fuel : Nat) (applicationPath : String)
    (s : BuildGen) : Option BuildGen :=
  ReactNativeSkia.preparePkgInfo fs (script fs modulesPath) modulesPath fuel applicationPath s

end ReactNativeSkia.RSkBuildGen
