import RamlScaffold.Proofs.Naming.ParameterNames
import RamlScaffold.Proofs.Naming.PathRewriting
import RamlScaffold.Proofs.Service.Described
import RamlScaffold.Proofs.Template.GoClient
import RamlScaffold.Proofs.Template.RustClient

/-
  The parameters in the signatures that routes are given.

  A signature lists a parameter for each parameter of the path
  and, where they are called for, one for the body and one for
  the headers.  What the names of the parameters are made of
  decides whether they are identifiers and whether they are
  all different.

  Main declarations:
    * `Route.parameterNames`, `Route.HasLegalParameters`
    * `Route.FitsParameters`
    * `Route.goCallSignature_eq`, `Route.rustSignature_eq`
    * `Service.PrintsSignatures`, `Route.ListsParameters`
    * `Resource.signatures_legal_iff`
    * `Method.keyword_and_repeated_parameters_are_illegal`
-/

------------------------------------------------------------
-- Lists Of Parameters
------------------------------------------------------------

namespace RamlScaffold

namespace Route

/- The parameters for path and body, with their types. -/
def parametersWith
    (route : Route)
    (spell : String → String)
    (textType bodyMark : String) : List (String × String) :=
  route.pathParams.map (fun param => (spell param, textType)) ++
    route.requestBody.toList.map
      (fun body => ("body", bodyMark ++ body))

/- The parameters of a method of a Go client. -/
def goCallParameters (route : Route) : List (String × String) :=
  route.parametersWith Naming.lowerCamel "string" "" ++
    [("headers", "map[string]string")]

/- The parameters of a handler in a Rust trait and its stub. -/
def rustParameters (route : Route) : List (String × String) :=
  route.parametersWith Naming.snakeCase "&str" ""

/- The parameters of a method of a Rust client. -/
def rustCallParameters
    (route : Route) : List (String × String) :=
  route.parametersWith Naming.snakeCase "&str" "&"

end Route

/- Texts with a separator behind each, and a last one. -/
theorem join_separated_append
    (separator : String)
    (texts : List String)
    (last : String) :
    String.join (texts.map (· ++ separator)) ++ last =
      separator.intercalate (texts ++ [last]) := by
  induction texts with
  | nil => simp
  | cons text texts ih =>
      rw [List.map_cons, String.join_cons, String.append_assoc,
        ih, List.cons_append,
        String.intercalate_cons_of_ne_nil (by simp)]

/- A first text, and others with a separator in front. -/
theorem append_join_separated
    (separator first : String)
    (texts : List String) :
    first ++ String.join (texts.map (separator ++ ·)) =
      separator.intercalate (first :: texts) := by
  induction texts generalizing first with
  | nil => simp
  | cons text texts ih =>
      rw [List.map_cons, String.join_cons,
        String.intercalate_cons_cons, ← ih text]
      simp only [String.append_assoc]

namespace Route

/- Parameters as Go lists them. -/
def goListed (parameters : List (String × String)) : String :=
  ", ".intercalate
    (parameters.map (fun entry => entry.1 ++ " " ++ entry.2))

/- Parameters as Rust lists them, behind the receiver. -/
def rustListed (parameters : List (String × String)) : String :=
  ", ".intercalate
    ("&self" ::
      parameters.map (fun entry => entry.1 ++ ": " ++ entry.2))

/- The method of a Go client lists its parameters. -/
theorem goCallSignature_eq
    (route : Route)
    (name : String) :
    route.goCallSignature name =
      "func (s *" ++ name ++ "Service) " ++ route.handlerName ++
        "(" ++ goListed route.goCallParameters ++ ") (" ++
        route.responseBody.elim "" (· ++ ", ") ++
        "*http.Response, error) \x7b\n" := by
  have hList :
      goListed route.goCallParameters =
        route.goParameters ++ "headers map[string]string" := by
    unfold goListed goCallParameters goParameters parametersWith
    rw [List.map_append, List.map_singleton,
      ← join_separated_append, List.map_append, List.map_append,
      String.join_append]
    apply String.toList_inj.mp
    cases route.requestBody with
    | none => simp [List.flatMap_map]
    | some body => simp [List.flatMap_map]
  unfold goCallSignature
  rw [hList]
  simp only [String.append_assoc]
  rfl

/- The parameters of a handler, behind one another. -/
theorem rustListed_parametersWith
    (route : Route)
    (bodyMark : String) :
    rustListed
        (route.parametersWith Naming.snakeCase "&str" bodyMark) =
      "&self" ++
        String.join (route.pathParams.map rustParameter) ++
        route.requestBody.elim ""
          (fun body => ", body: " ++ bodyMark ++ body) := by
  unfold rustListed parametersWith rustParameter
  rw [← append_join_separated, List.map_append, List.map_append,
    String.join_append]
  apply String.toList_inj.mp
  cases route.requestBody with
  | none => simp [List.flatMap_map]
  | some body => simp [List.flatMap_map]

/- The handler of a trait lists its parameters. -/
theorem rustSignature_eq (route : Route) :
    route.rustSignature =
      Naming.snakeCase route.handlerName ++ "(" ++
        rustListed route.rustParameters ++ ")" ++
        route.responseBody.elim "" (" -> " ++ ·) := by
  unfold rustParameters rustSignature
  rw [rustListed_parametersWith]
  apply String.toList_inj.mp
  cases route.requestBody with
  | none => simp
  | some body => simp

/- The method of a Rust client lists its parameters. -/
theorem rustCallSignature_eq (route : Route) :
    route.rustCallSignature =
      "    pub fn " ++ Naming.snakeCase route.handlerName ++
        "(" ++ rustListed route.rustCallParameters ++
        ") -> Result<" ++ route.responseBody.getD "()" ++
        ", Box<dyn std::error::Error + Send + Sync>> \x7b\n" := by
  unfold rustCallParameters rustCallSignature
  rw [rustListed_parametersWith]
  apply String.toList_inj.mp
  cases route.requestBody with
  | none => simp
  | some body => simp

end Route

end RamlScaffold

------------------------------------------------------------
-- Legal Parameters
------------------------------------------------------------

namespace RamlScaffold

namespace Language

open Naming

/- The name of the parameter for a parameter of a path. -/
def parameterName (language : Language) : String → String :=
  match language with
  | .go => lowerCamel
  | .rust => snakeCase

/- What such a name is made of. -/
def parameterWords
    (language : Language)
    (param : String) : List Char :=
  match language with
  | .go => camelWords param
  | .rust => snakeChars param.toList

/- Whether an identifier can be made of a parameter. -/
def NamesParameter
    (language : Language)
    (param : String) : Prop :=
  match language with
  | .go =>
      ¬StartsWithDigit param ∧ camelWords param ∉ titledKeywords
  | .rust =>
      StartsWithLetter param ∧
        snakeCase param ∉ keywords ++ nonRawKeywords

instance
    (language : Language)
    (param : String) :
    Decidable (language.NamesParameter param) :=
  match language with
  | .go => inferInstanceAs (Decidable (_ ∧ _))
  | .rust => inferInstanceAs (Decidable (_ ∧ _))

end Language

namespace Route

/- The parameters that are not those of the path. -/
def fixedNames
    (route : Route)
    (language : Language) : List String :=
  route.requestBody.toList.map (fun _ => "body") ++
    match language with
    | .go => ["headers"]
    | .rust => []

/- What the parameters are made of that are not of the path. -/
def fixedWords
    (route : Route)
    (language : Language) : List (List Char) :=
  match language with
  | .go =>
      route.requestBody.toList.map (fun _ => "Body".toList) ++
        ["Headers".toList]
  | .rust =>
      route.requestBody.toList.map (fun _ => "body".toList)

/- The names of all parameters in a signature. -/
def parameterNames
    (route : Route)
    (language : Language) : List String :=
  route.pathParams.map language.parameterName ++
    route.fixedNames language

theorem map_goCallParameters (route : Route) :
    route.goCallParameters.map Prod.fst =
      route.parameterNames .go := by
  simp [goCallParameters, parametersWith, parameterNames,
    fixedNames, Language.parameterName, Function.comp_def]

theorem map_rustParameters (route : Route) :
    route.rustParameters.map Prod.fst =
        route.parameterNames .rust ∧
      route.rustCallParameters.map Prod.fst =
        route.parameterNames .rust := by
  simp [rustParameters, rustCallParameters, parametersWith,
    parameterNames, fixedNames, Language.parameterName,
    Function.comp_def]

/- Identifiers for all parameters, and a different one each. -/
structure HasLegalParameters
    (route : Route)
    (language : Language) : Prop where
  legal :
    ∀ name ∈ route.parameterNames language,
      language.IsIdentifier name
  distinct : (route.parameterNames language).Nodup

/-
  Parameters of a path that identifiers can be made of, none
  of which has the words of another or of a fixed parameter.
-/
structure FitsParameters
    (route : Route)
    (language : Language) : Prop where
  names :
    ∀ param ∈ route.pathParams, language.NamesParameter param
  distinct :
    (route.pathParams.map language.parameterWords).Nodup
  apart :
    ∀ param ∈ route.pathParams,
      language.parameterWords param ∉ route.fixedWords language

end Route

end RamlScaffold

------------------------------------------------------------
-- Parameters Of ASCII Paths
------------------------------------------------------------

namespace RamlScaffold.Language

open Naming

section

variable
  (language : Language)
  {param : String}
  (hParam : Alphabet.IsAsciiText param)
include hParam

theorem isIdentifier_parameterName_iff :
    language.IsIdentifier (language.parameterName param) ↔
      language.NamesParameter param := by
  cases language with
  | go => exact isIdentifier_lowerCamel_iff hParam
  | rust => exact isIdentifier_snakeCase_iff hParam

theorem parameterName_inj
    {other : String}
    (hOther : Alphabet.IsAsciiText other) :
    language.parameterName param = language.parameterName other ↔
      language.parameterWords param =
        language.parameterWords other := by
  cases language with
  | go => exact lowerCamel_inj hParam hOther
  | rust => exact String.ofList_inj

/- A name is that of a fixed parameter if its words are. -/
theorem parameterName_mem_fixed_iff (route : Route) :
    language.parameterName param ∈ route.fixedNames language ↔
      language.parameterWords param ∈
        route.fixedWords language := by
  cases language with
  | go =>
      have hBody :
          lowerCamel param = "body" ↔
            camelWords param = "Body".toList :=
        @lowerCamel_eq_iff _ hParam "body" 'b' ['o', 'd', 'y'] rfl
          (by decide)
      have hHeaders :
          lowerCamel param = "headers" ↔
            camelWords param = "Headers".toList :=
        @lowerCamel_eq_iff _ hParam "headers" 'h'
          ['e', 'a', 'd', 'e', 'r', 's'] rfl (by decide)
      simp only [parameterName, parameterWords,
        Route.fixedNames, Route.fixedWords]
      cases route.requestBody with
      | none => simp [hHeaders]
      | some body => simp [hBody, hHeaders]
  | rust =>
      have hBody :
          snakeCase param = "body" ↔
            snakeChars param.toList = "body".toList := by
        rw [snakeCase, ← String.toList_inj,
          String.toList_ofList]
      simp only [parameterName, parameterWords,
        Route.fixedNames, Route.fixedWords]
      cases route.requestBody with
      | none => simp
      | some body => simp [hBody]

end

/- The fixed parameters are identifiers. -/
theorem isIdentifier_of_mem_fixedNames
    {language : Language}
    {route : Route}
    {name : String}
    (hName : name ∈ route.fixedNames language) :
    language.IsIdentifier name := by
  have hBody :
      language.IsIdentifier (language.parameterName "body") := by
    rw [isIdentifier_parameterName_iff _ (by decide)]
    cases language <;> decide
  have hHeaders :
      go.IsIdentifier (go.parameterName "headers") := by
    rw [isIdentifier_parameterName_iff _ (by decide)]
    decide
  rcases List.mem_append.mp hName with hRequest | hFixed
  · rcases List.mem_map.mp hRequest with ⟨body, -, rfl⟩
    cases language with
    | go => exact hBody
    | rust => exact hBody
  · cases language with
    | go =>
        rw [List.mem_singleton.mp hFixed]
        exact hHeaders
    | rust => cases hFixed

end RamlScaffold.Language

------------------------------------------------------------
-- Legal Signatures
------------------------------------------------------------

namespace RamlScaffold.Route

/- Names differ one from another as their words do. -/
theorem nodup_parameterNames_iff
    (language : Language)
    {params : List String}
    (hParams : ∀ param ∈ params, Alphabet.IsAsciiText param) :
    (params.map language.parameterName).Nodup ↔
      (params.map language.parameterWords).Nodup := by
  unfold List.Nodup
  rw [List.pairwise_map, List.pairwise_map]
  refine List.Pairwise.iff_of_mem ?_
  intro first second hFirst hSecond
  exact
    not_congr
      (language.parameterName_inj (hParams first hFirst)
        (hParams second hSecond))

theorem nodup_fixedNames
    (route : Route)
    (language : Language) :
    (route.fixedNames language).Nodup := by
  unfold fixedNames
  cases route.requestBody <;> cases language <;> simp

/- The parameters of an ASCII path are ASCII. -/
theorem isAsciiText_of_mem_pathParams
    {path : String}
    (hPath : Alphabet.IsAsciiText path)
    {param : String}
    (hParam : param ∈ Naming.pathParams path) :
    Alphabet.IsAsciiText param := by
  rcases List.mem_map.mp hParam with ⟨name, hName, rfl⟩
  intro c hc
  rw [String.toList_ofList] at hc
  exact Naming.isAscii_of_mem_params hPath hName hc

/- Parameters are legal exactly if those of the path fit. -/
theorem hasLegalParameters_iff
    (language : Language)
    {route : Route}
    (hParams :
      ∀ param ∈ route.pathParams, Alphabet.IsAsciiText param) :
    route.HasLegalParameters language ↔
      route.FitsParameters language := by
  have hNames (param : String) (hParam : param ∈ route.pathParams) :=
    language.isIdentifier_parameterName_iff (hParams param hParam)
  have hFixed (param : String) (hParam : param ∈ route.pathParams) :=
    language.parameterName_mem_fixed_iff (hParams param hParam)
      route
  have hNodup := nodup_parameterNames_iff language hParams
  constructor
  · rintro ⟨hLegal, hDistinct⟩
    rcases List.nodup_append.mp hDistinct with
      ⟨hOwn, -, hApart⟩
    refine ⟨?_, hNodup.mp hOwn, ?_⟩
    · intro param hParam
      refine (hNames param hParam).mp (hLegal _ ?_)
      exact List.mem_append_left _ (List.mem_map_of_mem hParam)
    · intro param hParam hWords
      have hName := (hFixed param hParam).mpr hWords
      exact hApart _ (List.mem_map_of_mem hParam) _ hName rfl
  · rintro ⟨hFit, hDistinct, hApart⟩
    refine ⟨?_, ?_⟩
    · intro name hName
      rcases List.mem_append.mp hName with hOwn | hRest
      · rcases List.mem_map.mp hOwn with ⟨param, hParam, rfl⟩
        exact (hNames param hParam).mpr (hFit param hParam)
      · exact Language.isIdentifier_of_mem_fixedNames hRest
    · refine
        List.nodup_append.mpr
          ⟨hNodup.mpr hDistinct, route.nodup_fixedNames language,
            ?_⟩
      rintro name hOwn other hRest rfl
      rcases List.mem_map.mp hOwn with ⟨param, hParam, rfl⟩
      exact hApart param hParam ((hFixed param hParam).mp hRest)

/- What the signatures of a route list, and under which names. -/
structure ListsParameters (route : Route) : Prop where
  goCall :
    ∀ name,
      route.goCallSignature name =
        "func (s *" ++ name ++ "Service) " ++
          route.handlerName ++ "(" ++
          goListed route.goCallParameters ++ ") (" ++
          route.responseBody.elim "" (· ++ ", ") ++
          "*http.Response, error) \x7b\n"
  goNames :
    route.goCallParameters.map Prod.fst =
      route.parameterNames .go
  rustHandler :
    route.rustSignature =
      Naming.snakeCase route.handlerName ++ "(" ++
        rustListed route.rustParameters ++ ")" ++
        route.responseBody.elim "" (" -> " ++ ·)
  rustNames :
    route.rustParameters.map Prod.fst =
      route.parameterNames .rust
  rustCall :
    route.rustCallSignature =
      "    pub fn " ++ Naming.snakeCase route.handlerName ++
        "(" ++ rustListed route.rustCallParameters ++
        ") -> Result<" ++ route.responseBody.getD "()" ++
        ", Box<dyn std::error::Error + Send + Sync>> \x7b\n"
  rustCallNames :
    route.rustCallParameters.map Prod.fst =
      route.parameterNames .rust

theorem listsParameters (route : Route) :
    route.ListsParameters :=
  ⟨route.goCallSignature_eq, route.map_goCallParameters,
    route.rustSignature_eq, route.map_rustParameters.1,
    route.rustCallSignature_eq, route.map_rustParameters.2⟩

end RamlScaffold.Route

------------------------------------------------------------
-- Printed Signatures
------------------------------------------------------------

namespace RamlScaffold

/- The lines of a service that hold the signatures of a route. -/
structure Service.PrintsSignatures
    (service : Service)
    (route : Route) : Prop where
  goClient :
    route.goCallSignature service.name ∈ service.goClientLines
  rustTrait :
    "    fn " ++ route.rustSignature ++ ";\n" ∈
      service.rustTraitLines
  rustStub :
    "    fn " ++ route.rustSignature ++ " \x7b\n" ∈
      service.rustStubLines
  rustClient :
    route.rustCallSignature ∈ service.rustClientLines

/- Each route of a service has its lines in the sources. -/
theorem Service.printsSignatures
    {service : Service}
    {route : Route}
    (hRoute : route ∈ service.allRoutes) :
    service.PrintsSignatures route := by
  have hLine
      {lines : Route → List String}
      {line : String}
      (hOwn : line ∈ lines route) :
      line ∈ service.allRoutes.flatMap lines :=
    List.mem_flatMap.mpr ⟨route, hRoute, hOwn⟩
  refine ⟨?_, ?_, ?_, ?_⟩
  · apply List.mem_append_right
    apply List.mem_append_right
    exact hLine (by simp [Route.goCallLines])
  · apply List.mem_append_left
    apply List.mem_append_left
    apply List.mem_append_left
    apply List.mem_append_right
    exact hLine (by simp [Route.rustTraitLines])
  · apply List.mem_append_left
    apply List.mem_append_right
    exact hLine (by simp [Route.rustStubLines])
  · apply List.mem_append_left
    apply List.mem_append_right
    exact hLine (by simp [Route.rustCallLines])

open Template Template.Builtin

/-
  The sources of a resource print the signatures of its routes
  with their parameters.  Where the path of a route is ASCII,
  its parameters are different identifiers if and only if
  those of the path start with letters, make no reserved words,
  and have the words of no other parameter.
-/
theorem Resource.signatures_legal_iff
    (package : String)
    (isServer : Bool)
    (ancestor : String)
    (resource : Resource) :
    let service := resource.describe package isServer ancestor
    render goClient service.context =
        .ok (String.join service.goClientLines) ∧
      render rustInterface service.context =
        .ok (String.join service.rustTraitLines) ∧
      render rustStub service.context =
        .ok (String.join service.rustStubLines) ∧
      render rustClient service.context =
        .ok (String.join service.rustClientLines) ∧
      ∀ placed ∈ resource.placedMethods ancestor,
        let route := placed.2.route placed.1
        service.PrintsSignatures route ∧
          route.ListsParameters ∧
          (Alphabet.IsAsciiText placed.1 →
            ∀ language,
              (route.HasLegalParameters language ↔
                route.FitsParameters language)) := by
  intro service
  have hService : service.IsDescribed :=
    resource.isDescribed_describe package isServer ancestor
  have hBodies := hService.namesBodies
  refine
    ⟨render_goClient hBodies, render_rustInterface hBodies,
      render_rustStub hBodies, render_rustClient hBodies, ?_⟩
  intro placed hPlaced route
  have hRoute : route ∈ service.allRoutes := by
    rw [resource.allRoutes_describe package isServer ancestor]
    exact List.mem_map_of_mem hPlaced
  refine
    ⟨Service.printsSignatures hRoute, route.listsParameters, ?_⟩
  intro hPath language
  exact
    Route.hasLegalParameters_iff language
      (fun _ hParam =>
        Route.isAsciiText_of_mem_pathParams hPath hParam)

/- A method that is sent a body. -/
def Method.posting : Method where
  verb := .post
  body := { json := some {} }

/- A comment of a user, both with parameters of two words. -/
def Resource.comments : Resource where
  uri := "/users/\x7buserId\x7d"
  nested :=
    [{ uri := "/\x7bcomment-id\x7d", methods := [.posting] }]

theorem Resource.comments_have_legal_parameters :
    let path := "/users/\x7buserId\x7d/\x7bcomment-id\x7d"
    (path, .posting) ∈ comments.placedMethods "" ∧
      Alphabet.IsAsciiText path ∧
      ∀ language,
        (Method.posting.route path).HasLegalParameters
          language := by
  intro path
  have hPlaced :
      (path, .posting) ∈ comments.placedMethods "" := by
    decide +kernel
  have hPath : Alphabet.IsAsciiText path := by
    decide
  refine ⟨hPlaced, hPath, ?_⟩
  intro language
  have hSources :=
    Resource.signatures_legal_iff "api" true "" comments
  have hRoute := hSources.2.2.2.2 (path, .posting) hPlaced
  refine (hRoute.2.2 hPath language).mpr ?_
  cases language with
  | go => exact ⟨by decide, by decide, by decide⟩
  | rust => exact ⟨by decide, by decide, by decide⟩

end RamlScaffold

namespace RamlScaffold.Method

open Route

/- A path with a parameter that is a keyword. -/
def typePath : String :=
  "/files/\x7btype\x7d"

/- A path that has a parameter twice. -/
def twicePath : String :=
  "/users/\x7bid\x7d/posts/\x7bid\x7d"

theorem keyword_and_repeated_parameters_are_illegal :
    Alphabet.IsAsciiText typePath ∧
      (posting.route typePath).rustSignature =
        "files_type_post(&self, type: &str, " ++
          "body: FilesTypePostReq)" ∧
      (∀ language,
        ¬(posting.route typePath).HasLegalParameters language) ∧
      Alphabet.IsAsciiText twicePath ∧
      (posting.route twicePath).parameterNames .go =
        ["id", "id", "body", "headers"] ∧
      ∀ language,
        ¬(posting.route twicePath).HasLegalParameters language := by
  have hType : Alphabet.IsAsciiText typePath := by
    decide
  refine
    ⟨hType, by decide +kernel, ?_, by decide, by decide +kernel,
      ?_⟩
  · intro language hLegal
    have hFits :=
      (hasLegalParameters_iff language
        (fun _ hParam =>
          isAsciiText_of_mem_pathParams hType hParam)).mp
        hLegal
    have hName := hFits.names "type" (by decide)
    revert hName
    cases language <;> decide
  · intro language hLegal
    have hDistinct := hLegal.distinct
    revert hDistinct
    cases language <;> decide

end RamlScaffold.Method
