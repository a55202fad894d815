import RamlScaffold.Template.Builtin.Phrase

/-
  The built-in templates for Go.

  Key definitions include:
    * `Builtin.goStructure`
    * `Builtin.goInterface`
    * `Builtin.goStub`
    * `Builtin.goClient`
-/

------------------------------------------------------------
-- Structures
------------------------------------------------------------

namespace RamlScaffold.Template.Builtin

/- A structure in Go. -/
def goStructure : Template :=
  [
    .text "// Code generated by ramlgen. DO NOT EDIT.\n",
    .text "\n",
    .text "package ",
    put "package",
    .text "\n",
    .text "\n",
    .each ["line"] (.ref "description")
      [.text "// ", put "line", .text "\n"]
      [],
    .branch (.ref "enum_values")
      [
        .text "// Allowed values: ",
        putJoined "enum_values" ", ",
        .text "\n"]
      [],
    .branch (.ref "is_one_line_def")
      [
        .text "type ",
        put "name",
        .text " ",
        put "one_line_def",
        .text "\n"]
      [
        .text "type ",
        put "name",
        .text " struct \x7b\n",
        .each ["key", "field"] (.filter (.ref "fields") "items" [])
          [
            .branch (of "field" "is_composition")
              [.text "\t", putOf "field" "type_name", .text "\n"]
              []]
          [],
        .each ["key", "field"] (.filter (.ref "fields") "items" [])
          [
            .branch (.negation (of "field" "is_composition"))
              [
                .text "\t",
                putOf "field" "name",
                .text " ",
                putOf "field" "type_name",
                .text " `json:\"",
                putOf "field" "original_name",
                .branch (.negation (of "field" "required"))
                  [.text ",omitempty"]
                  [],
                .text "\"`\n"]
              []]
          [],
        .text "\x7d\n"]]

end RamlScaffold.Template.Builtin

------------------------------------------------------------
-- Interfaces
------------------------------------------------------------

namespace RamlScaffold.Template.Builtin

/- The interface of a resource in Go, with its routes. -/
def goInterface : Template :=
  [
    .text "// Code generated by ramlgen. DO NOT EDIT.\n",
    .text "\n",
    .text "package ",
    put "package",
    .text "\n",
    .text "\n",
    .text "import (\n",
    .branch (.ref "routes")
      [.text "\t\"net/http\"\n", .text "\n"]
      [],
    .text "\t\"github.com/gorilla/mux\"\n",
    .text ")\n",
    .text "\n",
    .text "// ",
    put "name",
    .text "Interface is the interface of the ",
    put "endpoint",
    .text " root endpoint\n",
    .each ["line"] (.ref "description")
      [.text "// ", put "line", .text "\n"]
      [],
    .text "type ",
    put "name",
    .text "Interface interface \x7b\n",
    .each ["m"] (.ref "routes")
      [
        .text "\t// ",
        putOf "m" "handler_name",
        .text " is the handler for ",
        putOf "m" "verb",
        .text " ",
        putOf "m" "endpoint",
        .text "\n",
        .each ["line"] (of "m" "description")
          [.text "\t// ", put "line", .text "\n"]
          [],
        .text "\t",
        putOf "m" "handler_name",
        .text "(http.ResponseWriter, *http.Request)\n"]
      [],
    .text "\x7d\n",
    .text "\n",
    .text "// ",
    put "name",
    .text "InterfaceRoutes registers the routes of the ",
    put "endpoint",
    .text " root endpoint\n",
    .text "func ",
    put "name",
    .text "InterfaceRoutes(r *mux.Router, i ",
    put "name",
    .text "Interface) \x7b\n",
    .each ["m"] (.ref "routes")
      [
        .text "\tr.HandleFunc(\"",
        putOf "m" "endpoint",
        .text "\", i.",
        putOf "m" "handler_name",
        .text ").Methods(\"",
        putOf "m" "verb",
        .text "\")\n"]
      [],
    .text "\x7d\n"]

end RamlScaffold.Template.Builtin

------------------------------------------------------------
-- Stubs
------------------------------------------------------------

namespace RamlScaffold.Template.Builtin

/- The stub that implements an interface in Go. -/
def goStub : Template :=
  [
    .text "package ",
    put "package",
    .text "\n",
    .text "\n",
    .branch (.ref "routes")
      [
        .text "import (\n",
        .branch (.either (.ref "uses_req_json") (.ref "uses_resp_json"))
          [.text "\t\"encoding/json\"\n"]
          [],
        .text "\t\"net/http\"\n",
        .text ")\n"]
      [],
    .text "\n",
    .text "// ",
    put "name",
    .text "API implements ",
    put "name",
    .text "Interface for the ",
    put "endpoint",
    .text " root endpoint\n",
    .text "type ",
    put "name",
    .text "API struct \x7b\n",
    .text "\x7d\n",
    .text "\n",
    .each ["m"] (.ref "routes")
      [
        .text "// ",
        putOf "m" "handler_name",
        .text " is the handler for ",
        putOf "m" "verb",
        .text " ",
        putOf "m" "endpoint",
        .text "\n",
        .text "func (api ",
        put "name",
        .text "API) ",
        putOf "m" "handler_name",
        .text "(w http.ResponseWriter, r *http.Request) \x7b\n",
        .branch (of "m" "req_body")
          [
            .text "\tvar reqBody ",
            putOf "m" "req_body",
            .text "\n",
            .text "\n",
            .text "\tif err := ",
            .text "json.NewDecoder(r.Body).Decode(&reqBody); ",
            .text "err != nil \x7b\n",
            .text "\t\tw.WriteHeader(http.StatusBadRequest)\n",
            .text "\t\treturn\n",
            .text "\t\x7d\n"]
          [],
        .branch (of "m" "resp_body")
          [
            .text "\tvar respBody ",
            putOf "m" "resp_body",
            .text "\n",
            .text "\tw.Header().Set(\"Content-Type\", ",
            .text "\"application/json\")\n",
            .text "\tjson.NewEncoder(w).Encode(&respBody)\n"]
          [.text "\tw.WriteHeader(http.StatusNoContent)\n"],
        .text "\x7d\n",
        .text "\n"]
      []]

end RamlScaffold.Template.Builtin

------------------------------------------------------------
-- Clients
------------------------------------------------------------

namespace RamlScaffold.Template.Builtin

/- The client of a resource in Go. -/
def goClient : Template :=
  [
    .text "// Code generated by ramlgen. DO NOT EDIT.\n",
    .text "\n",
    .text "package ",
    put "package",
    .text "\n",
    .text "\n",
    .text "import (\n",
    .branch (.ref "uses_req_json")
      [.text "\t\"bytes\"\n"]
      [],
    .branch (.either (.ref "uses_req_json") (.ref "uses_resp_json"))
      [.text "\t\"encoding/json\"\n"]
      [],
    .branch (.ref "routes")
      [.text "\t\"fmt\"\n"]
      [],
    .text "\t\"net/http\"\n",
    .text ")\n",
    .text "\n",
    .text "// ",
    put "name",
    .text "Service is the client of the ",
    put "endpoint",
    .text " root endpoint\n",
    .text "type ",
    put "name",
    .text "Service struct \x7b\n",
    .text "\tclient  *http.Client\n",
    .text "\tbaseURI string\n",
    .text "\x7d\n",
    .text "\n",
    .text "// New",
    put "name",
    .text "Service creates a client for the ",
    put "endpoint",
    .text " root endpoint\n",
    .text "func New",
    put "name",
    .text "Service(client *http.Client, baseURI string) *",
    put "name",
    .text "Service \x7b\n",
    .text "\treturn &",
    put "name",
    .text "Service\x7bclient: client, baseURI: baseURI\x7d\n",
    .text "\x7d\n",
    .text "\n",
    .each ["m"] (.ref "routes")
      [
        .text "// ",
        putOf "m" "handler_name",
        .text " calls ",
        putOf "m" "verb",
        .text " ",
        putOf "m" "endpoint",
        .text "\n",
        .text "func (s *",
        put "name",
        .text "Service) ",
        putOf "m" "handler_name",
        .text "(",
        .each ["p"] (of "m" "path_params")
          [putAs "p" "lower_camel", .text " string, "]
          [],
        .branch (of "m" "req_body")
          [.text "body ", putOf "m" "req_body", .text ", "]
          [],
        .text "headers map[string]string) (",
        .branch (of "m" "resp_body")
          [putOf "m" "resp_body", .text ", "]
          [],
        .text "*http.Response, error) \x7b\n",
        .branch (of "m" "resp_body")
          [
            .text "\tvar respBody ",
            putOf "m" "resp_body",
            .text "\n"]
          [],
        .text "\turl := s.baseURI + fmt.Sprintf(\"",
        putOfAs "m" "endpoint" "go_path",
        .text "\"",
        .each ["p"] (of "m" "path_params")
          [.text ", ", putAs "p" "lower_camel"]
          [],
        .text ")\n",
        .branch (of "m" "req_body")
          [
            .text "\tpayload, err := json.Marshal(&body)\n",
            .text "\tif err != nil \x7b\n",
            .text "\t\treturn ",
            .branch (of "m" "resp_body")
              [.text "respBody, "]
              [],
            .text "nil, err\n",
            .text "\t\x7d\n",
            .text "\treq, err := http.NewRequest(\"",
            putOf "m" "verb",
            .text "\", url, bytes.NewReader(payload))\n"]
          [
            .text "\treq, err := http.NewRequest(\"",
            putOf "m" "verb",
            .text "\", url, nil)\n"],
        .text "\tif err != nil \x7b\n",
        .text "\t\treturn ",
        .branch (of "m" "resp_body")
          [.text "respBody, "]
          [],
        .text "nil, err\n",
        .text "\t\x7d\n",
        .text "\tfor k, v := range headers \x7b\n",
        .text "\t\treq.Header.Set(k, v)\n",
        .text "\t\x7d\n",
        .text "\tresp, err := s.client.Do(req)\n",
        .text "\tif err != nil \x7b\n",
        .text "\t\treturn ",
        .branch (of "m" "resp_body")
          [.text "respBody, "]
          [],
        .text "nil, err\n",
        .text "\t\x7d\n",
        .text "\tdefer resp.Body.Close()\n",
        .branch (of "m" "resp_body")
          [
            .text "\terr = ",
            .text "json.NewDecoder(resp.Body).Decode(&respB",
            .text "ody)\n",
            .text "\treturn respBody, resp, err\n"]
          [.text "\treturn resp, nil\n"],
        .text "\x7d\n",
        .text "\n"]
      []]

end RamlScaffold.Template.Builtin
