import RamlScaffold.Schema.Structure

/-
  The parents, the names and the comments of structures.

  Whatever a classification makes of a structure, the name and
  the comments are those that it was given.

  Main declarations:
    * `Structure.foldl_withParent`
    * `Structure.shape_multipleInheritance`
    * `Structure.shape_name`, `Structure.shape_description`
    * `Structure.shape_enumValues`
    * `Structure.ofDecl_name`, `Structure.ofPayload_name`
-/

------------------------------------------------------------
-- Parents
------------------------------------------------------------

namespace RamlScaffold.Structure

/- Parents are put in one after the other. -/
theorem foldl_withParent
    (language : Language)
    (parents : List String)
    (struct : Structure) :
    parents.foldl (withParent language) struct =
      { struct with
        fields :=
          (parents.map
            (fun parent =>
              (parent, Field.ofParent language parent))).foldl
            (fun kept entry => kept.insert entry.1 entry.2)
            struct.fields } := by
  induction parents generalizing struct with
  | nil => rfl
  | cons parent parents ih =>
      rw [List.foldl_cons, ih]
      rfl

/- The fields of several parents are theirs alone. -/
theorem shape_multipleInheritance
    (language : Language)
    (struct : Structure)
    (parents : List String) :
    shape language struct (.multipleInheritance parents) =
      { struct with
        kind := .multipleInheritance
        fields :=
          Keyed.ofList
            (parents.map
              (fun parent =>
                (parent, Field.ofParent language parent))) } :=
  foldl_withParent language parents _

end RamlScaffold.Structure

------------------------------------------------------------
-- Names And Comments
------------------------------------------------------------

namespace RamlScaffold.Structure

/- A classification does not rename a structure. -/
@[simp] theorem shape_name
    (language : Language)
    (struct : Structure)
    (classification : Classification) :
    (shape language struct classification).name =
      struct.name := by
  cases classification with
  | multipleInheritance parents =>
      rw [shape_multipleInheritance]
  | map value => cases value <;> rfl
  | enumeration base => cases base <;> rfl
  | _ => rfl

/- The comments of a structure are not those of its shape. -/
@[simp] theorem shape_description
    (language : Language)
    (struct : Structure)
    (classification : Classification) :
    (shape language struct classification).description =
      struct.description := by
  cases classification with
  | multipleInheritance parents =>
      rw [shape_multipleInheritance]
  | map value => cases value <;> rfl
  | enumeration base => cases base <;> rfl
  | _ => rfl

@[simp] theorem shape_enumValues
    (language : Language)
    (struct : Structure)
    (classification : Classification) :
    (shape language struct classification).enumValues =
      struct.enumValues := by
  cases classification with
  | multipleInheritance parents =>
      rw [shape_multipleInheritance]
  | map value => cases value <;> rfl
  | enumeration base => cases base <;> rfl
  | _ => rfl

@[simp] theorem ofDecl_name
    (language : Language)
    (name : String)
    (decl : TypeDecl)
    (package : String) :
    (ofDecl language name decl package).name =
      Naming.typeIdentifier name := by
  unfold ofDecl
  rw [shape_name]
  rfl

@[simp] theorem ofDecl_description
    (language : Language)
    (name : String)
    (decl : TypeDecl)
    (package : String) :
    (ofDecl language name decl package).description =
      (decl.description.map Text.lines).getD [] := by
  unfold ofDecl
  rw [shape_description]

@[simp] theorem ofDecl_enumValues
    (language : Language)
    (name : String)
    (decl : TypeDecl)
    (package : String) :
    (ofDecl language name decl package).enumValues =
      decl.enumValues := by
  unfold ofDecl
  rw [shape_enumValues]

@[simp] theorem ofPayload_name
    (language : Language)
    (methodName : String)
    (payload : Payload)
    (package : String)
    (direction : Direction) :
    (ofPayload language methodName payload package
      direction).name = methodName ++ direction.ending := by
  unfold ofPayload
  rw [shape_name]
  rfl

end RamlScaffold.Structure
