import RamlScaffold.CommandLine.Inspect
import RamlScaffold.Proofs.Generation.Rerun
import RamlScaffold.Proofs.Schema.BodyNames
import RamlScaffold.Proofs.Schema.Realization
import RamlScaffold.Proofs.Schema.SharedSchemas

/-
  What an inspection tells of a run that was not taken.

  An inspection collects structures and services without any
  file, and a run collects them as it writes them.  The text
  for readers is collected without a package, because it
  prints nothing that a package changes.

  Main declarations:
    * `GenerationReport.inspectValue`
    * `GenerationReport.inspectText`
    * `Api.inspectReport_eq`
    * `GenerationReport.Collects`, `Run.collects_of_ok`
    * `Api.Foretells`, `Run.foretold_of_ok`
    * `Api.inspectJson_of_parts`
-/

------------------------------------------------------------
-- Reports As Inspections
------------------------------------------------------------

namespace RamlScaffold

/- The line of a structure under its name in the catalog. -/
def Structure.inspectLine
    (name : String)
    (struct : Structure) : String :=
  let shape :=
    if struct.isOneLine then "= " ++ struct.oneLine
    else toString struct.fields.length ++ " field(s)"
  "  " ++ name ++ ": " ++ struct.kind.title ++ " " ++ shape

namespace GenerationReport

/- The services that a report is about. -/
def described (report : GenerationReport) : List Service :=
  report.services.map EmitReport.service

/- A report as the JSON value that an inspection would be. -/
def inspectValue
    (title : String)
    (report : GenerationReport) : Json :=
  .record
    [("title", .text title),
      ("types", .list (report.types.map Structure.toJson)),
      ("bodies", .list (report.bodies.map Structure.toJson)),
      ("resources", .list (Service.listToJson report.described))]

/- A report as the text that an inspection would be. -/
def inspectText
    (title : String)
    (names : List String)
    (report : GenerationReport) : String :=
  let lines :=
    [title, "types:"] ++
      List.zipWith Structure.inspectLine names report.types ++
      ["bodies:"] ++
      report.bodies.map (fun struct => "  " ++ struct.name) ++
      ["resources:"] ++
      report.described.flatMap Api.serviceLines
  String.join (lines.map (fun line => line ++ "\n"))

/-
  A report on all structures and services of a definition, in
  the order in which an inspection has them.
-/
structure Collects
    (report : GenerationReport)
    (language : Language)
    (package : String)
    (api : Api) : Prop where
  types_eq : report.types = api.typeStructures language package
  bodies_eq : report.bodies = api.bodyStructures language package
  described_eq : report.described = api.services package

end GenerationReport

end RamlScaffold

------------------------------------------------------------
-- What A Package Does Not Change
------------------------------------------------------------

namespace RamlScaffold

/- Structures of one shape have the same line. -/
theorem Structure.SameShape.inspectLine_eq
    {struct other : Structure}
    (hSame : struct.SameShape other)
    (name : String) :
    struct.inspectLine name = other.inspectLine name := by
  unfold Structure.inspectLine
  rw [hSame.fields_eq, hSame.kind_eq, hSame.isOneLine_eq,
    hSame.oneLine_eq]

namespace Api

/- The line of a catalog type is that of its structure. -/
theorem typeLine_eq
    (language : Language)
    (package : String)
    (entry : String × TypeDecl) :
    typeLine language entry =
      (Structure.ofDecl language entry.1 entry.2
        package).inspectLine entry.1 := by
  have hSame :=
    Structure.sameShape_ofDecl language entry.2 entry.1 entry.1
      package ""
  have hKind :
      entry.2.classify.kind =
        (Structure.ofDecl language entry.1 entry.2 "").kind :=
    (Structure.shape_kind ..).symm
  rw [hSame.inspectLine_eq, typeLine, hKind]
  generalize Structure.ofDecl language entry.1 entry.2 "" = struct
  rcases struct with ⟨_, _, _, typeName | typeName, _, _, _⟩
  · rfl
  · rfl

/- Bodies have the same names in all packages. -/
theorem names_bodyStructures
    (language : Language)
    (package other : String)
    (api : Api) :
    (api.bodyStructures language package).map Structure.name =
      (api.bodyStructures language other).map
        Structure.name := by
  rw [bodyStructures_eq_flatMap, bodyStructures_eq_flatMap]
  exact
    (api.bodyNames_eq language package).trans
      (api.bodyNames_eq language other).symm

/- The lines of a resource name no package. -/
theorem serviceLines_describe
    (package other : String)
    (isServer : Bool)
    (ancestor : String)
    (resource : Resource) :
    serviceLines (resource.describe package isServer ancestor) =
      serviceLines
        (resource.describe other isServer ancestor) := by
  unfold serviceLines
  rw [Resource.allRoutes_describe, Resource.allRoutes_describe]
  cases resource
  rfl

/-
  The text of an inspection says of structures and services
  what a report on them says, whatever their package is.
-/
theorem inspectReport_eq
    {language : Language}
    {package : String}
    {api : Api}
    {report : GenerationReport}
    (hReport : report.Collects language package api) :
    api.inspectReport language =
      report.inspectText api.title api.types.keys := by
  have hTypes :
      api.types.map (typeLine language) =
        List.zipWith Structure.inspectLine api.types.keys
          report.types := by
    rw [hReport.types_eq, typeStructures, Keyed.keys,
      List.zipWith_map, List.zipWith_self]
    exact
      List.map_congr_left
        (fun entry _ => typeLine_eq language package entry)
  have hBodies :
      (api.bodyStructures language "").map
          (fun struct => "  " ++ struct.name) =
        report.bodies.map (fun struct => "  " ++ struct.name) := by
    rw [hReport.bodies_eq]
    have hNames :=
      congrArg (List.map (fun name => "  " ++ name))
        (api.names_bodyStructures language "" package)
    rw [List.map_map, List.map_map] at hNames
    exact hNames
  have hServices :
      (api.services "").flatMap serviceLines =
        report.described.flatMap serviceLines := by
    rw [hReport.described_eq, services, services,
      List.flatMap_map, List.flatMap_map]
    congr 1
    funext resource
    exact serviceLines_describe "" package true "" resource
  unfold inspectReport GenerationReport.inspectText
  rw [hTypes, hBodies, hServices]

end Api

end RamlScaffold

------------------------------------------------------------
-- Runs That Were Foretold
------------------------------------------------------------

namespace RamlScaffold

/-
  An inspection foretells a report: it collects the same, and
  prints what the report would print.
-/
structure Api.Foretells
    (api : Api)
    (language : Language)
    (report : GenerationReport) : Prop where
  collects :
    report.Collects language language.defaultPackage api
  json_eq :
    api.inspectJson language =
      (report.inspectValue api.title).render
  text_eq :
    api.inspectReport language =
      report.inspectText api.title api.types.keys

namespace Run

variable [WriteAccess]
variable
  {run : Run}
  {output : Path}
  (hServer : run.mode = .server)
  (hScope : run.scope = {})
  {start after : Workspace}
  {report : GenerationReport}
  (hRun :
    (run.action output).run.run start = (.ok report, after))
include hServer hScope hRun

/-
  A run for servers that leaves nothing out has collected, by
  the time it succeeds, what can be collected without it.
-/
theorem collects_of_ok :
    report.Collects run.generator.language run.generator.package
      run.api := by
  rcases effect_eq_ok (effect_of_action hRun) with
    ⟨ready, outcomes, middle, -, -, hAfter⟩
  rcases effectAfter_eq_ok hAfter with
    ⟨services, last, index, hServices, -, hReport⟩
  rw [hReport]
  refine ⟨?_, ?_, ?_⟩
  · simp only [reportOf, types, hScope]
    rfl
  · simp only [reportOf, bodies, hScope]
    rfl
  · refine (service_reports hServices).trans ?_
    simp only [Run.services, Generator.services, hScope, hServer]
    rfl

variable
  (hPackage :
    run.generator.package =
      run.generator.language.defaultPackage)
include hPackage

/- An inspection foretells every run that succeeds. -/
theorem foretold_of_ok :
    run.api.Foretells run.generator.language report := by
  have hCollects := collects_of_ok hServer hScope hRun
  refine ⟨?_, ?_, Api.inspectReport_eq hCollects⟩
  · rw [← hPackage]
    exact hCollects
  · unfold Api.inspectJson Api.inspectValue
    unfold GenerationReport.inspectValue
    rw [hCollects.types_eq, hCollects.bodies_eq,
      hCollects.described_eq, hPackage]

end Run

/- An inspection as JSON is put together from its parts. -/
theorem Api.inspectJson_of_parts
    {language : Language}
    {api : Api}
    {title types bodies services : String}
    (hTitle : Json.renderAt 1 (.text api.title) = title)
    (hTypes :
      Json.renderAt 1
          (.list
            ((api.typeStructures language
              language.defaultPackage).map Structure.toJson)) =
        types)
    (hBodies :
      Json.renderAt 1
          (.list
            ((api.bodyStructures language
              language.defaultPackage).map Structure.toJson)) =
        bodies)
    (hServices :
      Json.renderAt 1
          (.list
            (Service.listToJson
              (api.services language.defaultPackage))) =
        services) :
    api.inspectJson language =
      "\x7b\n  \"title\": " ++ title ++
        ",\n  \"types\": " ++ types ++
        ",\n  \"bodies\": " ++ bodies ++
        ",\n  \"resources\": " ++ services ++ "\n\x7d" := by
  have hKeys :
      ["title", "types", "bodies", "resources"].map Json.quoted =
        ["\"title\"", "\"types\"", "\"bodies\"",
          "\"resources\""] := by
    decide +kernel
  have hStarts :
      Json.indent 0 = "\n" ∧ Json.indent 1 = "\n  " := by
    decide +kernel
  have hRecord (entries : List (String × Json)) :
      Json.renderAt 0 (.record entries) =
        Json.block "\x7b" "\x7d" 0 (Json.entryLines 0 entries) := by
    rw [Json.renderAt]
  simp only [List.map_cons, List.map_nil, List.cons.injEq,
    and_true] at hKeys
  rw [inspectJson, Json.render, inspectValue, hRecord]
  simp only [Json.entryLines, hKeys, Nat.zero_add, hTitle, hTypes,
    hBodies, hServices, Json.block, hStarts, List.isEmpty_cons,
    Bool.false_eq_true, if_false]
  apply String.toList_inj.mp
  simp

/- A definition with types, a nested resource and bodies. -/
def storeApi : Api where
  title := "Store"
  types :=
    [("Item",
        { typeExpr := .single "object"
          properties := [⟨"name", some "string", true⟩] }),
      ("Key", { typeExpr := .single "string" })]
  resources :=
    [{ uri := "/items"
       methods :=
         [{ verb := .get
            responses :=
              [⟨"200", { json := some {} }⟩] }]
       nested :=
         [{ uri := "/key"
            methods :=
              [{ verb := .put
                 body := { json := some {} } }] }] }]

/- A run over that definition, in the package it has anyway. -/
def storeRun : Run where
  generator := ⟨.go, "main", .plain "stub"⟩
  mode := .server
  scope := {}
  api := storeApi

/- The types of that definition as JSON, by the lines. -/
def storeTypesJson : String :=
  "\n".intercalate
    ["[", "    \x7b", "      \"name\": \"Item\",",
      "      \"package\": \"main\",",
      "      \"fields\": \x7b", "        \"name\": \x7b",
      "          \"name\": \"Name\",",
      "          \"original_name\": \"name\",",
      "          \"type_name\": \"string\",",
      "          \"required\": true,",
      "          \"is_composition\": false", "        \x7d",
      "      \x7d,", "      \"one_line_def\": \"\",",
      "      \"is_one_line_def\": false,",
      "      \"description\": [],",
      "      \"kind\": \"plain_object\",",
      "      \"enum_values\": []", "    \x7d,", "    \x7b",
      "      \"name\": \"Key\",",
      "      \"package\": \"main\",",
      "      \"fields\": \x7b\x7d,",
      "      \"one_line_def\": \"string\",",
      "      \"is_one_line_def\": true,",
      "      \"description\": [],",
      "      \"kind\": \"specialization\",",
      "      \"enum_values\": []", "    \x7d", "  ]"]

/- Its bodies. -/
def storeBodiesJson : String :=
  "\n".intercalate
    ["[", "    \x7b", "      \"name\": \"ItemsGetResp\",",
      "      \"package\": \"main\",",
      "      \"fields\": \x7b\x7d,",
      "      \"one_line_def\": \"\",",
      "      \"is_one_line_def\": false,",
      "      \"description\": [],",
      "      \"kind\": \"plain_object\",",
      "      \"enum_values\": []", "    \x7d,", "    \x7b",
      "      \"name\": \"ItemsKeyPutReq\",",
      "      \"package\": \"main\",",
      "      \"fields\": \x7b\x7d,",
      "      \"one_line_def\": \"\",",
      "      \"is_one_line_def\": false,",
      "      \"description\": [],",
      "      \"kind\": \"plain_object\",",
      "      \"enum_values\": []", "    \x7d", "  ]"]

/- Its services. -/
def storeServicesJson : String :=
  "\n".intercalate
    ["[", "    \x7b", "      \"name\": \"Items\",",
      "      \"endpoint\": \"/items\",",
      "      \"package\": \"main\",",
      "      \"methods\": [", "        \x7b",
      "          \"handler_name\": \"ItemsGet\",",
      "          \"endpoint\": \"/items\",",
      "          \"verb\": \"GET\",",
      "          \"path_params\": [],",
      "          \"req_body\": null,",
      "          \"resp_body\": \"ItemsGetResp\",",
      "          \"description\": []", "        \x7d",
      "      ],", "      \"nested\": [", "        \x7b",
      "          \"name\": \"ItemsKey\",",
      "          \"endpoint\": \"/items/key\",",
      "          \"package\": \"main\",",
      "          \"methods\": [", "            \x7b",
      "              \"handler_name\": \"ItemsKeyPut\",",
      "              \"endpoint\": \"/items/key\",",
      "              \"verb\": \"PUT\",",
      "              \"path_params\": [],",
      "              \"req_body\": \"ItemsKeyPutReq\",",
      "              \"resp_body\": null,",
      "              \"description\": []",
      "            \x7d", "          ],",
      "          \"nested\": [],",
      "          \"is_server\": true,",
      "          \"description\": []", "        \x7d",
      "      ],", "      \"is_server\": true,",
      "      \"description\": []", "    \x7d", "  ]"]

/- The inspection of that definition as JSON. -/
def storeJson : String :=
  "\x7b\n  \"title\": " ++ "\"Store\"" ++
    ",\n  \"types\": " ++ storeTypesJson ++
    ",\n  \"bodies\": " ++ storeBodiesJson ++
    ",\n  \"resources\": " ++ storeServicesJson ++ "\n\x7d"

/- Its parts are rendered one by one. -/
theorem storeApi_json : storeApi.inspectJson .go = storeJson := by
  unfold storeJson
  apply Api.inspectJson_of_parts
  · decide +kernel
  · decide +kernel
  · decide +kernel
  · decide +kernel

theorem storeRun_foretold :
    (∃ report after,
      (storeRun.action ⟨"gen"⟩).run.run ⟨[], []⟩ =
          (.ok report, after) ∧
        storeApi.Foretells .go report) ∧
      storeApi.inspectJson .go = storeJson ∧
      storeApi.inspectReport .go =
        String.join
          ["Store\n", "types:\n",
            "  Item: PlainObject 1 field(s)\n",
            "  Key: Specialization = string\n",
            "bodies:\n", "  ItemsGetResp\n",
            "  ItemsKeyPutReq\n",
            "resources:\n", "  Items (/items)\n",
            "    GET /items -> ItemsGet\n",
            "    PUT /items/key -> ItemsKeyPut\n"] := by
  refine ⟨?_, storeApi_json, by decide +kernel⟩
  have hOk :
      ((storeRun.action ⟨"gen"⟩).run.run ⟨[], []⟩).1.isOk =
        true := by
    decide +kernel
  rcases hRun :
      (storeRun.action ⟨"gen"⟩).run.run ⟨[], []⟩ with
    ⟨failure | report, after⟩
  · rw [hRun] at hOk
    cases hOk
  · exact
      ⟨report, after, rfl,
        Run.foretold_of_ok rfl rfl hRun rfl⟩

end RamlScaffold
