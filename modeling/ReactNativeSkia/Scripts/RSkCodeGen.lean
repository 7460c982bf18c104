import ReactNativeSkia.Scripts.Packages

/-!
# The code generator

`ReactSkia/scripts/codegen/RSkCodeGen.py` with `RSkGenerateThirdPartyViewConfigManagerCpp.py`. The
templates of the modules and components are the lines of their lookup entries, which are kept as
they are. The generators of the other files put these templates into texts of their own and are
left out, as are the paths that `main` reads from its configuration.
-/

namespace ReactNativeSkia.RSkCodeGen

structure PackageInfo where
  name : String
  type : String
  version : String
  classNames : List String
  moduleNames : List String
  libraryName : String
  deriving DecidableEq, Repr

/-- An entry of a module or a component, with the package for which it has been made. -/
structure LookupEntry where
  packageMapTable : PackageTable
  packageName : String
  name : String
  libName : String
  deriving DecidableEq, Repr

/-- The globals. `visited` are the packages for which `preparePkgInfo` has been called. -/
structure CodeGen where
  packageMap : List PackageInfo := []
  packageMapCustom : List PackageInfo := []
  moduleLookups : List LookupEntry := []
  componentLookups : List LookupEntry := []
  ViewConfigTemplateCpp : String := ""
  visited : List String := []
  deriving DecidableEq, Repr

namespace LookupEntry

variable (entry : LookupEntry)

def moduleMapLine : String :=
  "    \x7bstd::string(\"" ++ entry.name ++ "\"), " ++ entry.name ++ "ModuleCls\x7d, // " ++
    entry.libName ++ "\n"

def moduleFuncLine : String :=
  "xplat::module::CxxModule* " ++ entry.name ++ "ModuleCls(void) RNS_USED;  // " ++
    entry.libName ++ "\n"

def componentMapLine : String :=
  "    \x7bstd::string(\"" ++ entry.name ++ "\"), " ++ entry.name ++ "Cls\x7d, // " ++
    entry.libName ++ "\n"

def componentFuncLine : String :=
  "RSkComponentProvider* " ++ entry.name ++ "Cls(void) RNS_USED;  // " ++ entry.libName ++ "\n"

end LookupEntry

/-! ## View configurations -/

/-- One of the three lists of a configuration, a line for each of its names. -/
def configTemplate (line : String → String) : Option (List String) → String
  | none => ""
  | some names => "\n    " ++ String.join (names.map line)

def nativePropLine (nativeProp : String) : String :=
  "nativeProps[\"" ++ nativeProp ++ "\"] = true;\n    "

def directEventLine (directEvent : String) : String :=
  "directEventTypes[\"top" ++ directEvent ++
    "\"] = folly::dynamic::object(\"registrationName\", \"on" ++ directEvent ++ "\");\n    "

def bubbleEventLine (bubbleEvent : String) : String :=
  "bubblingEventTypes[\"top" ++ bubbleEvent ++
    "\"] = folly::dynamic::object(\"phasedRegistrationNames\", " ++
    "folly::dynamic::object(\"bubbled\",\"on" ++ bubbleEvent ++ "\")(\"captured\", \"on" ++
    bubbleEvent ++ "\"));\n    "

/-- The if block of a component. -/
def ifBlock (viewManagerName : String) (viewManagerConfig : ViewManagerConfig) : String :=
  "if(viewManagerName == \"" ++ viewManagerName ++ "\") \x7b" ++
    (configTemplate nativePropLine viewManagerConfig.nativePropsConfig ++
      configTemplate directEventLine viewManagerConfig.directEventConfig ++
      configTemplate bubbleEventLine viewManagerConfig.bubblingEventConfig) ++ "\n  \x7d"

def parseViewConfigs (index : Nat) (viewManagerName : String)
    (viewManagerConfig : ViewManagerConfig) (ViewConfigTemplateCpp : String) : String :=
  ViewConfigTemplateCpp ++ (if index ≠ 0 then " else " else "") ++
    ifBlock viewManagerName viewManagerConfig

/-- The text in front of the configurations. `script` is `sys.argv[0]`. -/
def textBeforeConfigs (script : String) : String :=
  "/**\n * This code was generated by ReactNativeSKia codegn.\n *\n" ++
  " * Do not edit this file as changes may cause incorrect behavior and will be lost\n" ++
  " * once the code is regenerated.\n *\n * @generated by " ++ script ++ "\n */\n\n" ++
  "#include <string>\n\n#include \"ReactSkia/utils/RnsLog.h\"\n\n" ++
  "#include \"ReactSkia/LegacyNativeModules/uimanager/UiManagerModule.h\"\n\n" ++
  "using namespace folly;\n\nnamespace facebook \x7b\nnamespace xplat \x7b\n" ++
  "namespace uimanager \x7b\n\n" ++
  "dynamic Uimanager::getConstantsForThirdpartyViewManager(std::string viewManagerName) \x7b\n\n" ++
  "  RNS_LOG_WARN(\"getConstantsForViewManager viewManagerName : \" << viewManagerName << " ++
  "\" not found\");\n\n" ++
  "  dynamic nativeProps = folly::dynamic::object;\n" ++
  "  dynamic bubblingEventTypes = folly::dynamic::object;\n" ++
  "  dynamic directEventTypes = folly::dynamic::object;\n\n  "

def textBehindConfigs : String :=
  "\n\n  auto registry = folly::dynamic::object(\n" ++
  "      NATIVE_PROPS_KEY, std::move(nativeProps))(\n" ++
  "      BASE_MODULE_NAME_KEY, \"RCTView\")(\n" ++
  "      BUBBLING_EVENTS_KEY, std::move(bubblingEventTypes))(\n" ++
  "      DIRECT_EVENTS_KEY, std::move(directEventTypes));\n" ++
  "  return \x7bstd::move(registry)\x7d;\n\x7d\n\n\x7d // namespace uimanager\n" ++
  "\x7d // namespace xplat\n\x7d // namespace facebook"

/-- What is written to `RSkThirdPartyViewConfigManager.cpp`. -/
def generateThirdPartyViewConfigManagerCpp (script viewManagerConfigs : String) : String :=
  textBeforeConfigs script ++ viewManagerConfigs ++ textBehindConfigs

/-! ## Packages -/

namespace CodeGen

variable (s : CodeGen)

def table : PackageTable → List PackageInfo
  | .packageMap => s.packageMap
  | .packageMapCustom => s.packageMapCustom

/-- `packageName in packageMapTable`. -/
def known (packageMapTable : PackageTable) (packageName : String) : Bool :=
  (s.table packageMapTable).any fun package => package.name = packageName

/-- `packageMapTable[packageName] = newPkgObj`, for a new name. -/
def insert (packageMapTable : PackageTable) (newPkgObj : PackageInfo) : CodeGen :=
  match packageMapTable with
  | .packageMap => { s with packageMap := s.packageMap ++ [newPkgObj] }
  | .packageMapCustom => { s with packageMapCustom := s.packageMapCustom ++ [newPkgObj] }

/-- The round of the loop over the components for one of them. -/
def addComponent (call : ParseCall) (libName : String)
    (viewManagerConfigs : Option (List (String × ViewManagerConfig))) (s : CodeGen)
    (component : String × Nat) : CodeGen :=
  { s with
    componentLookups := s.componentLookups ++
      [⟨call.packageMapTable, call.packageName, component.1, libName⟩]
    ViewConfigTemplateCpp :=
      match viewManagerConfigs.bind (List.lookup component.1) with
      | none => s.ViewConfigTemplateCpp
      | some viewManagerConfig =>
        parseViewConfigs component.2 component.1 viewManagerConfig s.ViewConfigTemplateCpp }

def addModules (call : ParseCall) (libName : String) (moduleNames : List String) : CodeGen :=
  { s with
    moduleLookups := s.moduleLookups ++
      moduleNames.map fun module => ⟨call.packageMapTable, call.packageName, module, libName⟩ }

def ModuleLookupMapTemplateCpp : String :=
  String.join (s.moduleLookups.map LookupEntry.moduleMapLine)

def ModuleLookupFuncTemplateH : String :=
  String.join (s.moduleLookups.map LookupEntry.moduleFuncLine)

def ComponentLookupMapTemplateCpp : String :=
  String.join (s.componentLookups.map LookupEntry.componentMapLine)

def ComponentLookupFuncTemplateH : String :=
  String.join (s.componentLookups.map LookupEntry.componentFuncLine)

/-- The texts of the modules grow by a line for each. -/
theorem addModules_templates (call : ParseCall) (libName : String) (moduleNames : List String) :
    (s.addModules call libName moduleNames).ModuleLookupMapTemplateCpp =
        s.ModuleLookupMapTemplateCpp ++ String.join (moduleNames.map fun module =>
          "    \x7bstd::string(\"" ++ module ++ "\"), " ++ module ++ "ModuleCls\x7d, // " ++
            libName ++ "\n") ∧
      (s.addModules call libName moduleNames).ModuleLookupFuncTemplateH =
        s.ModuleLookupFuncTemplateH ++ String.join (moduleNames.map fun module =>
          "xplat::module::CxxModule* " ++ module ++ "ModuleCls(void) RNS_USED;  // " ++
            libName ++ "\n") := by
  simp only [addModules, ModuleLookupMapTemplateCpp, ModuleLookupFuncTemplateH, List.map_append,
    List.map_map, String.join_append]
  exact ⟨rfl, rfl⟩

/-- Those of the components grow by a line for the component of the round. -/
theorem addComponent_templates (call : ParseCall) (libName : String)
    (viewManagerConfigs : Option (List (String × ViewManagerConfig)))
    (component : String × Nat) :
    (s.addComponent call libName viewManagerConfigs component).ComponentLookupMapTemplateCpp =
        s.ComponentLookupMapTemplateCpp ++ ("    \x7bstd::string(\"" ++ component.1 ++ "\"), " ++
          component.1 ++ "Cls\x7d, // " ++ libName ++ "\n") ∧
      (s.addComponent call libName viewManagerConfigs component).ComponentLookupFuncTemplateH =
        s.ComponentLookupFuncTemplateH ++ ("RSkComponentProvider* " ++ component.1 ++
          "Cls(void) RNS_USED;  // " ++ libName ++ "\n") := by
  simp only [addComponent, ComponentLookupMapTemplateCpp, ComponentLookupFuncTemplateH,
    List.map_append, List.map_cons, List.map_nil, String.join_append, String.join_cons,
    String.join_nil, String.append_empty]
  exact ⟨rfl, rfl⟩

end CodeGen

/-- The names that a configuration gives, with their defaults. -/
def packageInfo (packageName : String) (codegenConfig : CodegenConfig) (skia : SkiaConfig) :
    PackageInfo where
  name := packageName
  type := codegenConfig.type.getD "UnknownPkgType"
  version := codegenConfig.version.getD "UnknownPkgVersion"
  classNames := skia.codegenNativeComponentNativeProps.getD []
  moduleNames := skia.TurboModuleRegistryGetEnforcingSpec.getD []
  libraryName := codegenConfig.name.getD "UnknownPkgName"

/-- Without `skia` the loops are over empty lists. -/
def parseRskProjectFile (fs : FileSystem) (call : ParseCall) (s : CodeGen) : CodeGen :=
  match fs.skiaConfig call.rskProjPath with
  | none => s
  | some (codegenData, codegenConfig, skia) =>
    if s.known call.packageMapTable call.packageName = true then s
    else
      let newPkgObj := packageInfo call.packageName codegenConfig skia
      newPkgObj.classNames.zipIdx.foldl
        (CodeGen.addComponent call newPkgObj.libraryName codegenData.viewManagerConfig)
        ((s.insert call.packageMapTable newPkgObj).addModules call newPkgObj.libraryName
          newPkgObj.moduleNames)

def script (fs : FileSystem) : PkgScript CodeGen where
  parseRskProjectFile := parseRskProjectFile fs
  visit pkg s := { s with visited := s.visited ++ [pkg] }
  finish _ s := s

def preparePkgInfo (fs : FileSystem) (modulesPath : String) (fuel : Nat) (applicationPath : String)
    (s : CodeGen) : Option CodeGen :=
  ReactNativeSkia.preparePkgInfo fs (script fs) modulesPath fuel applicationPath s

end ReactNativeSkia.RSkCodeGen
