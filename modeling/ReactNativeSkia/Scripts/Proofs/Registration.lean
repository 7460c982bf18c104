import ReactNativeSkia.Scripts.RSkCodeGen

/-!
# Registration

A call of `parseRskProjectFile` registers a package or does nothing: it does nothing without a skia
configuration, and for a name that its table has.
-/

namespace ReactNativeSkia.RSkCodeGen

open CodeGen

/-- What a call registers. -/
def registration (fs : FileSystem) (call : ParseCall) (s : CodeGen) :
    Option (RskProject × PackageInfo) :=
  if s.known call.packageMapTable call.packageName = true then none
  else (fs.skiaConfig call.rskProjPath).map fun (codegenData, codegenConfig, skia) =>
    (codegenData, packageInfo call.packageName codegenConfig skia)

/-- The entry that a call makes for a module or a component. -/
def lookupEntry (call : ParseCall) (info : PackageInfo) (name : String) : LookupEntry :=
  ⟨call.packageMapTable, call.packageName, name, info.libraryName⟩

/-- What the loop over the components writes for the view configurations. -/
def viewConfigText (viewManagerConfigs : Option (List (String × ViewManagerConfig)))
    (component : String × Nat) : String :=
  match viewManagerConfigs.bind (List.lookup component.1) with
  | none => ""
  | some viewManagerConfig => parseViewConfigs component.2 component.1 viewManagerConfig ""

variable {fs : FileSystem} {call : ParseCall} {s : CodeGen} {codegenData : RskProject}
  {info : PackageInfo} {libName : String}
  {viewManagerConfigs : Option (List (String × ViewManagerConfig))}

theorem known_insert_iff {t t' : PackageTable} {n : String} :
    (s.insert t info).known t' n = true ↔ s.known t' n = true ∨ t = t' ∧ info.name = n := by
  cases t <;> cases t' <;> simp [CodeGen.known, CodeGen.insert, CodeGen.table]

theorem parseViewConfigs_eq_append (index : Nat) (viewManagerName : String)
    (viewManagerConfig : ViewManagerConfig) (text : String) :
    parseViewConfigs index viewManagerName viewManagerConfig text =
      text ++ parseViewConfigs index viewManagerName viewManagerConfig "" := by
  simp only [parseViewConfigs, String.empty_append, String.append_assoc]

theorem addComponent_eq (component : String × Nat) :
    addComponent call libName viewManagerConfigs s component =
      { s with
        componentLookups := s.componentLookups ++
          [⟨call.packageMapTable, call.packageName, component.1, libName⟩]
        ViewConfigTemplateCpp :=
          s.ViewConfigTemplateCpp ++ viewConfigText viewManagerConfigs component } := by
  unfold addComponent viewConfigText
  cases viewManagerConfigs.bind (List.lookup component.1) with
  | none => simp
  | some viewManagerConfig => simp only [← parseViewConfigs_eq_append]

theorem foldl_addComponent (components : List (String × Nat)) (s : CodeGen) :
    components.foldl (addComponent call libName viewManagerConfigs) s =
      { s with
        componentLookups := s.componentLookups ++ components.map fun component =>
          ⟨call.packageMapTable, call.packageName, component.1, libName⟩
        ViewConfigTemplateCpp := s.ViewConfigTemplateCpp ++
          String.join (components.map (viewConfigText viewManagerConfigs)) } := by
  induction components generalizing s with
  | nil => simp
  | cons component components ih =>
    rw [List.foldl_cons, ih, addComponent_eq]
    simp [List.append_assoc, String.append_assoc, String.join_cons]

theorem map_zipIdx_fst {α β : Type} (f : α → β) (l : List α) :
    l.zipIdx.map (fun indexed => f indexed.1) = l.map f := by
  conv_rhs => rw [← List.zipIdx_map_fst 0 l, List.map_map]
  rfl

theorem parseRskProjectFile_of_none (h : registration fs call s = none) :
    parseRskProjectFile fs call s = s := by
  unfold registration at h
  unfold parseRskProjectFile
  split
  · rfl
  · rename_i hconfig
    rw [hconfig] at h
    split at h
    · rename_i hknown
      rw [if_pos hknown]
    · simp at h

theorem parseRskProjectFile_of_some (h : registration fs call s = some (codegenData, info)) :
    parseRskProjectFile fs call s =
      { s.insert call.packageMapTable info with
        moduleLookups := s.moduleLookups ++ info.moduleNames.map (lookupEntry call info)
        componentLookups := s.componentLookups ++ info.classNames.map (lookupEntry call info)
        ViewConfigTemplateCpp := s.ViewConfigTemplateCpp ++
          String.join (info.classNames.zipIdx.map
            (viewConfigText codegenData.viewManagerConfig)) } := by
  unfold registration at h
  unfold parseRskProjectFile
  obtain ⟨hknown, h⟩ := Option.ite_none_left_eq_some.mp h
  obtain ⟨⟨data, codegenConfig, skia⟩, hconfig, heq⟩ := Option.map_eq_some_iff.mp h
  cases heq
  rw [hconfig]
  simp only
  rw [if_neg hknown, foldl_addComponent]
  have hcomponents := map_zipIdx_fst
    (lookupEntry call (packageInfo call.packageName codegenConfig skia))
    (packageInfo call.packageName codegenConfig skia).classNames
  unfold lookupEntry at hcomponents ⊢
  unfold CodeGen.insert CodeGen.addModules
  rw [hcomponents]
  cases call.packageMapTable <;> rfl

end ReactNativeSkia.RSkCodeGen
