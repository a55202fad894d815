import RamlScaffold.Proofs.Template.Comparison
import RamlScaffold.Template.Library
import RamlScaffold.Template.Reader

/-
  The built-in templates are what their sources are read as.

  The trees of the built-in templates have their texts cut at
  the ends of lines, a reader cuts them at tags only; they
  render alike.

  Main declarations:
    * `Template.Builtin.goStructureSource` and the others
    * `Template.IsReadFrom`, `Template.isReadFrom_join`
    * `Language.builtinSource?`
    * `Language.builtinTemplate_isReadFrom`
-/

------------------------------------------------------------
-- Sources For Go
------------------------------------------------------------

namespace RamlScaffold.Template.Builtin

/- The source of a structure in Go. -/
def goStructureSource : String :=
  String.join
    ["// Code generated by ramlgen. DO NOT EDIT.\n",
      "\n",
      "package \x7b\x7b package \x7d\x7d\n",
      "\n",
      "\x7b% for line in description %\x7d\n",
      "// \x7b\x7b line \x7d\x7d\n",
      "\x7b% endfor %\x7d\n",
      "\x7b% if enum_values %\x7d\n",
      "// Allowed values: \x7b\x7b enum_values|join(\", ",
      "\") \x7d\x7d\n",
      "\x7b% endif %\x7d\n",
      "\x7b% if is_one_line_def %\x7d\n",
      "type \x7b\x7b name \x7d\x7d \x7b\x7b one_line_def ",
      "\x7d\x7d\n",
      "\x7b% else %\x7d\n",
      "type \x7b\x7b name \x7d\x7d struct \x7b\n",
      "\x7b% for key, field in fields|items %\x7d\n",
      "\x7b% if field.is_composition %\x7d\n",
      "\t\x7b\x7b field.type_name \x7d\x7d\n",
      "\x7b% endif %\x7d\n",
      "\x7b% endfor %\x7d\n",
      "\x7b% for key, field in fields|items %\x7d\n",
      "\x7b% if not field.is_composition %\x7d\n",
      "\t\x7b\x7b field.name \x7d\x7d \x7b\x7b ",
      "field.type_name \x7d\x7d `json:\"\x7b\x7b ",
      "field.original_name \x7d\x7d\x7b% if not ",
      "field.required %\x7d,omitempty\x7b% endif %\x7d\"`\n",
      "\x7b% endif %\x7d\n",
      "\x7b% endfor %\x7d\n",
      "\x7d\n",
      "\x7b% endif %\x7d\n"]

/- The source of the interface of a resource in Go. -/
def goInterfaceSource : String :=
  String.join
    ["// Code generated by ramlgen. DO NOT EDIT.\n",
      "\n",
      "package \x7b\x7b package \x7d\x7d\n",
      "\n",
      "import (\n",
      "\x7b% if routes %\x7d\n",
      "\t\"net/http\"\n",
      "\n",
      "\x7b% endif %\x7d\n",
      "\t\"github.com/gorilla/mux\"\n",
      ")\n",
      "\n",
      "// \x7b\x7b name \x7d\x7dInterface is the ",
      "interface of the \x7b\x7b endpoint \x7d\x7d root ",
      "endpoint\n",
      "\x7b% for line in description %\x7d\n",
      "// \x7b\x7b line \x7d\x7d\n",
      "\x7b% endfor %\x7d\n",
      "type \x7b\x7b name \x7d\x7dInterface interface ",
      "\x7b\n",
      "\x7b% for m in routes %\x7d\n",
      "\t// \x7b\x7b m.handler_name \x7d\x7d is the ",
      "handler for \x7b\x7b m.verb \x7d\x7d \x7b\x7b ",
      "m.endpoint \x7d\x7d\n",
      "\x7b% for line in m.description %\x7d\n",
      "\t// \x7b\x7b line \x7d\x7d\n",
      "\x7b% endfor %\x7d\n",
      "\t\x7b\x7b m.handler_name ",
      "\x7d\x7d(http.ResponseWriter, *http.Request)\n",
      "\x7b% endfor %\x7d\n",
      "\x7d\n",
      "\n",
      "// \x7b\x7b name \x7d\x7dInterfaceRoutes ",
      "registers the routes of the \x7b\x7b endpoint ",
      "\x7d\x7d root endpoint\n",
      "func \x7b\x7b name \x7d\x7dInterfaceRoutes(r ",
      "*mux.Router, i \x7b\x7b name \x7d\x7dInterface) ",
      "\x7b\n",
      "\x7b% for m in routes %\x7d\n",
      "\tr.HandleFunc(\"\x7b\x7b m.endpoint \x7d\x7d\", ",
      "i.\x7b\x7b m.handler_name ",
      "\x7d\x7d).Methods(\"\x7b\x7b m.verb \x7d\x7d\")\n",
      "\x7b% endfor %\x7d\n",
      "\x7d\n"]

/- The source of a stub in Go. -/
def goStubSource : String :=
  String.join
    ["package \x7b\x7b package \x7d\x7d\n",
      "\n",
      "\x7b% if routes %\x7d\n",
      "import (\n",
      "\x7b% if uses_req_json or uses_resp_json %\x7d\n",
      "\t\"encoding/json\"\n",
      "\x7b% endif %\x7d\n",
      "\t\"net/http\"\n",
      ")\n",
      "\x7b% endif %\x7d\n",
      "\n",
      "// \x7b\x7b name \x7d\x7dAPI implements \x7b\x7b ",
      "name \x7d\x7dInterface for the \x7b\x7b endpoint ",
      "\x7d\x7d root endpoint\n",
      "type \x7b\x7b name \x7d\x7dAPI struct \x7b\n",
      "\x7d\n",
      "\n",
      "\x7b% for m in routes %\x7d\n",
      "// \x7b\x7b m.handler_name \x7d\x7d is the ",
      "handler for \x7b\x7b m.verb \x7d\x7d \x7b\x7b ",
      "m.endpoint \x7d\x7d\n",
      "func (api \x7b\x7b name \x7d\x7dAPI) \x7b\x7b ",
      "m.handler_name \x7d\x7d(w http.ResponseWriter, r ",
      "*http.Request) \x7b\n",
      "\x7b% if m.req_body %\x7d\n",
      "\tvar reqBody \x7b\x7b m.req_body \x7d\x7d\n",
      "\n",
      "\tif err := ",
      "json.NewDecoder(r.Body).Decode(&reqBody); err != ",
      "nil \x7b\n",
      "\t\tw.WriteHeader(http.StatusBadRequest)\n",
      "\t\treturn\n",
      "\t\x7d\n",
      "\x7b% endif %\x7d\n",
      "\x7b% if m.resp_body %\x7d\n",
      "\tvar respBody \x7b\x7b m.resp_body \x7d\x7d\n",
      "\tw.Header().Set(\"Content-Type\", ",
      "\"application/json\")\n",
      "\tjson.NewEncoder(w).Encode(&respBody)\n",
      "\x7b% else %\x7d\n",
      "\tw.WriteHeader(http.StatusNoContent)\n",
      "\x7b% endif %\x7d\n",
      "\x7d\n",
      "\n",
      "\x7b% endfor %\x7d\n"]

/- The source of a client in Go. -/
def goClientSource : String :=
  String.join
    ["// Code generated by ramlgen. DO NOT EDIT.\n",
      "\n",
      "package \x7b\x7b package \x7d\x7d\n",
      "\n",
      "import (\n",
      "\x7b% if uses_req_json %\x7d\n",
      "\t\"bytes\"\n",
      "\x7b% endif %\x7d\n",
      "\x7b% if uses_req_json or uses_resp_json %\x7d\n",
      "\t\"encoding/json\"\n",
      "\x7b% endif %\x7d\n",
      "\x7b% if routes %\x7d\n",
      "\t\"fmt\"\n",
      "\x7b% endif %\x7d\n",
      "\t\"net/http\"\n",
      ")\n",
      "\n",
      "// \x7b\x7b name \x7d\x7dService is the client of ",
      "the \x7b\x7b endpoint \x7d\x7d root endpoint\n",
      "type \x7b\x7b name \x7d\x7dService struct \x7b\n",
      "\tclient  *http.Client\n",
      "\tbaseURI string\n",
      "\x7d\n",
      "\n",
      "// New\x7b\x7b name \x7d\x7dService creates a ",
      "client for the \x7b\x7b endpoint \x7d\x7d root ",
      "endpoint\n",
      "func New\x7b\x7b name \x7d\x7dService(client ",
      "*http.Client, baseURI string) *\x7b\x7b name ",
      "\x7d\x7dService \x7b\n",
      "\treturn &\x7b\x7b name ",
      "\x7d\x7dService\x7bclient: client, baseURI: ",
      "baseURI\x7d\n",
      "\x7d\n",
      "\n",
      "\x7b% for m in routes %\x7d\n",
      "// \x7b\x7b m.handler_name \x7d\x7d calls ",
      "\x7b\x7b m.verb \x7d\x7d \x7b\x7b m.endpoint ",
      "\x7d\x7d\n",
      "func (s *\x7b\x7b name \x7d\x7dService) \x7b\x7b ",
      "m.handler_name \x7d\x7d(\x7b% for p in ",
      "m.path_params %\x7d\x7b\x7b p|lower_camel ",
      "\x7d\x7d string, \x7b% endfor %\x7d\x7b% if ",
      "m.req_body %\x7dbody \x7b\x7b m.req_body ",
      "\x7d\x7d, \x7b% endif %\x7dheaders ",
      "map[string]string) (\x7b% if m.resp_body ",
      "%\x7d\x7b\x7b m.resp_body \x7d\x7d, \x7b% endif ",
      "%\x7d*http.Response, error) \x7b\n",
      "\x7b% if m.resp_body %\x7d\n",
      "\tvar respBody \x7b\x7b m.resp_body \x7d\x7d\n",
      "\x7b% endif %\x7d\n",
      "\turl := s.baseURI + fmt.Sprintf(\"\x7b\x7b ",
      "m.endpoint|go_path \x7d\x7d\"\x7b% for p in ",
      "m.path_params %\x7d, \x7b\x7b p|lower_camel ",
      "\x7d\x7d\x7b% endfor %\x7d)\n",
      "\x7b% if m.req_body %\x7d\n",
      "\tpayload, err := json.Marshal(&body)\n",
      "\tif err != nil \x7b\n",
      "\t\treturn \x7b% if m.resp_body %\x7drespBody, ",
      "\x7b% endif %\x7dnil, err\n",
      "\t\x7d\n",
      "\treq, err := http.NewRequest(\"\x7b\x7b m.verb ",
      "\x7d\x7d\", url, bytes.NewReader(payload))\n",
      "\x7b% else %\x7d\n",
      "\treq, err := http.NewRequest(\"\x7b\x7b m.verb ",
      "\x7d\x7d\", url, nil)\n",
      "\x7b% endif %\x7d\n",
      "\tif err != nil \x7b\n",
      "\t\treturn \x7b% if m.resp_body %\x7drespBody, ",
      "\x7b% endif %\x7dnil, err\n",
      "\t\x7d\n",
      "\tfor k, v := range headers \x7b\n",
      "\t\treq.Header.Set(k, v)\n",
      "\t\x7d\n",
      "\tresp, err := s.client.Do(req)\n",
      "\tif err != nil \x7b\n",
      "\t\treturn \x7b% if m.resp_body %\x7drespBody, ",
      "\x7b% endif %\x7dnil, err\n",
      "\t\x7d\n",
      "\tdefer resp.Body.Close()\n",
      "\x7b% if m.resp_body %\x7d\n",
      "\terr = ",
      "json.NewDecoder(resp.Body).Decode(&respBody)\n",
      "\treturn respBody, resp, err\n",
      "\x7b% else %\x7d\n",
      "\treturn resp, nil\n",
      "\x7b% endif %\x7d\n",
      "\x7d\n",
      "\n",
      "\x7b% endfor %\x7d\n"]

end RamlScaffold.Template.Builtin

------------------------------------------------------------
-- Sources For Rust
------------------------------------------------------------

namespace RamlScaffold.Template.Builtin

/- The source of a structure in Rust. -/
def rustStructureSource : String :=
  String.join
    ["// Code generated by ramlgen. DO NOT EDIT.\n",
      "#![allow(unused_imports)]\n",
      "\n",
      "use super::*;\n",
      "use serde::\x7bDeserialize, Serialize\x7d;\n",
      "\n",
      "\x7b% for line in description %\x7d\n",
      "/// \x7b\x7b line \x7d\x7d\n",
      "\x7b% endfor %\x7d\n",
      "\x7b% if enum_values %\x7d\n",
      "/// Allowed values: \x7b\x7b enum_values|join(\", ",
      "\") \x7d\x7d\n",
      "\x7b% endif %\x7d\n",
      "\x7b% if is_one_line_def %\x7d\n",
      "pub type \x7b\x7b name \x7d\x7d = \x7b\x7b ",
      "one_line_def \x7d\x7d;\n",
      "\x7b% else %\x7d\n",
      "#[derive(Debug, Clone, Default, PartialEq, ",
      "Serialize, Deserialize)]\n",
      "pub struct \x7b\x7b name \x7d\x7d \x7b\n",
      "\x7b% for key, field in fields|items %\x7d\n",
      "\x7b% if field.is_composition %\x7d\n",
      "    #[serde(flatten)]\n",
      "    pub \x7b\x7b field.name \x7d\x7d: \x7b\x7b ",
      "field.type_name \x7d\x7d,\n",
      "\x7b% endif %\x7d\n",
      "\x7b% endfor %\x7d\n",
      "\x7b% for key, field in fields|items %\x7d\n",
      "\x7b% if not field.is_composition %\x7d\n",
      "\x7b% if field.required %\x7d\n",
      "    #[serde(rename = \"\x7b\x7b ",
      "field.original_name \x7d\x7d\")]\n",
      "    pub \x7b\x7b field.name \x7d\x7d: \x7b\x7b ",
      "field.type_name \x7d\x7d,\n",
      "\x7b% else %\x7d\n",
      "    #[serde(rename = \"\x7b\x7b ",
      "field.original_name \x7d\x7d\", default, ",
      "skip_serializing_if = \"Option::is_none\")]\n",
      "    pub \x7b\x7b field.name \x7d\x7d: ",
      "Option<\x7b\x7b field.type_name \x7d\x7d>,\n",
      "\x7b% endif %\x7d\n",
      "\x7b% endif %\x7d\n",
      "\x7b% endfor %\x7d\n",
      "\x7d\n",
      "\x7b% endif %\x7d\n"]

/- The source of the trait of a resource in Rust. -/
def rustInterfaceSource : String :=
  String.join
    ["// Code generated by ramlgen. DO NOT EDIT.\n",
      "#![allow(unused_imports)]\n",
      "\n",
      "use super::*;\n",
      "\n",
      "/// Handlers of the `\x7b\x7b endpoint \x7d\x7d` ",
      "root endpoint.\n",
      "\x7b% for line in description %\x7d\n",
      "///\n",
      "/// \x7b\x7b line \x7d\x7d\n",
      "\x7b% endfor %\x7d\n",
      "pub trait \x7b\x7b name \x7d\x7dInterface \x7b\n",
      "\x7b% for m in routes %\x7d\n",
      "    /// \x7b\x7b m.verb \x7d\x7d \x7b\x7b ",
      "m.endpoint \x7d\x7d\n",
      "\x7b% for line in m.description %\x7d\n",
      "    /// \x7b\x7b line \x7d\x7d\n",
      "\x7b% endfor %\x7d\n",
      "    fn \x7b\x7b m.handler_name|snake_case ",
      "\x7d\x7d(&self\x7b% for p in m.path_params %\x7d, ",
      "\x7b\x7b p|snake_case \x7d\x7d: &str\x7b% endfor ",
      "%\x7d\x7b% if m.req_body %\x7d, body: \x7b\x7b ",
      "m.req_body \x7d\x7d\x7b% endif %\x7d)\x7b% if ",
      "m.resp_body %\x7d -> \x7b\x7b m.resp_body ",
      "\x7d\x7d\x7b% endif %\x7d;\n",
      "\x7b% endfor %\x7d\n",
      "\x7d\n",
      "\n",
      "/// Routes of the `\x7b\x7b endpoint \x7d\x7d` ",
      "root endpoint as `(method, path, handler)`.\n",
      "pub const \x7b\x7b name|snake_case|upper ",
      "\x7d\x7d_ROUTES: &[(&str, &str, &str)] = &[\n",
      "\x7b% for m in routes %\x7d\n",
      "    (\"\x7b\x7b m.verb \x7d\x7d\", \"\x7b\x7b ",
      "m.endpoint \x7d\x7d\", \"\x7b\x7b ",
      "m.handler_name|snake_case \x7d\x7d\"),\n",
      "\x7b% endfor %\x7d\n",
      "];\n"]

/- The source of a stub in Rust. -/
def rustStubSource : String :=
  String.join
    ["#![allow(unused_imports, unused_variables)]\n",
      "\n",
      "use super::*;\n",
      "\n",
      "/// Implementation of the `\x7b\x7b endpoint ",
      "\x7d\x7d` root endpoint.\n",
      "#[derive(Debug, Default)]\n",
      "pub struct \x7b\x7b name \x7d\x7dApi;\n",
      "\n",
      "impl \x7b\x7b name \x7d\x7dInterface for \x7b\x7b ",
      "name \x7d\x7dApi \x7b\n",
      "\x7b% for m in routes %\x7d\n",
      "    /// \x7b\x7b m.verb \x7d\x7d \x7b\x7b ",
      "m.endpoint \x7d\x7d\n",
      "    fn \x7b\x7b m.handler_name|snake_case ",
      "\x7d\x7d(&self\x7b% for p in m.path_params %\x7d, ",
      "\x7b\x7b p|snake_case \x7d\x7d: &str\x7b% endfor ",
      "%\x7d\x7b% if m.req_body %\x7d, body: \x7b\x7b ",
      "m.req_body \x7d\x7d\x7b% endif %\x7d)\x7b% if ",
      "m.resp_body %\x7d -> \x7b\x7b m.resp_body ",
      "\x7d\x7d\x7b% endif %\x7d \x7b\n",
      "\x7b% if m.resp_body %\x7d\n",
      "        \x7b\x7b m.resp_body \x7d\x7d::default()\n",
      "\x7b% endif %\x7d\n",
      "    \x7d\n",
      "\x7b% endfor %\x7d\n",
      "\x7d\n"]

/- The source of a client in Rust. -/
def rustClientSource : String :=
  String.join
    ["// Code generated by ramlgen. DO NOT EDIT.\n",
      "#![allow(unused_imports)]\n",
      "\n",
      "use super::*;\n",
      "\n",
      "/// Sends one request and returns the decoded ",
      "JSON response (`Null` when the\n",
      "/// response has no body).\n",
      "pub trait \x7b\x7b name \x7d\x7dTransport \x7b\n",
      "    fn send(\n",
      "        &self,\n",
      "        method: &str,\n",
      "        url: &str,\n",
      "        body: Option<serde_json::Value>,\n",
      "    ) -> Result<serde_json::Value, Box<dyn ",
      "std::error::Error + Send + Sync>>;\n",
      "\x7d\n",
      "\n",
      "/// Client of the `\x7b\x7b endpoint \x7d\x7d` ",
      "root endpoint.\n",
      "pub struct \x7b\x7b name \x7d\x7dService<T: ",
      "\x7b\x7b name \x7d\x7dTransport> \x7b\n",
      "    transport: T,\n",
      "    base_uri: String,\n",
      "\x7d\n",
      "\n",
      "impl<T: \x7b\x7b name \x7d\x7dTransport> \x7b\x7b ",
      "name \x7d\x7dService<T> \x7b\n",
      "    pub fn new(transport: T, base_uri: impl ",
      "Into<String>) -> Self \x7b\n",
      "        Self \x7b\n",
      "            transport,\n",
      "            base_uri: base_uri.into(),\n",
      "        \x7d\n",
      "    \x7d\n",
      "\x7b% for m in routes %\x7d\n",
      "\n",
      "    /// \x7b\x7b m.verb \x7d\x7d \x7b\x7b ",
      "m.endpoint \x7d\x7d\n",
      "    pub fn \x7b\x7b m.handler_name|snake_case ",
      "\x7d\x7d(&self\x7b% for p in m.path_params %\x7d, ",
      "\x7b\x7b p|snake_case \x7d\x7d: &str\x7b% endfor ",
      "%\x7d\x7b% if m.req_body %\x7d, body: &\x7b\x7b ",
      "m.req_body \x7d\x7d\x7b% endif %\x7d) -> ",
      "Result<\x7b% if m.resp_body %\x7d\x7b\x7b ",
      "m.resp_body \x7d\x7d\x7b% else %\x7d()\x7b% endif ",
      "%\x7d, Box<dyn std::error::Error + Send + Sync>> ",
      "\x7b\n",
      "        let url = format!(\"\x7b\x7d\x7b\x7b ",
      "m.endpoint|rust_path \x7d\x7d\", self.base_uri);\n",
      "\x7b% if m.req_body %\x7d\n",
      "        let payload = ",
      "Some(serde_json::to_value(body)?);\n",
      "\x7b% else %\x7d\n",
      "        let payload = None;\n",
      "\x7b% endif %\x7d\n",
      "\x7b% if m.resp_body %\x7d\n",
      "        let value = ",
      "self.transport.send(\"\x7b\x7b m.verb \x7d\x7d\", ",
      "&url, payload)?;\n",
      "        Ok(serde_json::from_value(value)?)\n",
      "\x7b% else %\x7d\n",
      "        self.transport.send(\"\x7b\x7b m.verb ",
      "\x7d\x7d\", &url, payload)?;\n",
      "        Ok(())\n",
      "\x7b% endif %\x7d\n",
      "    \x7d\n",
      "\x7b% endfor %\x7d\n",
      "\x7d\n"]

/- The source of the index of a directory in Rust. -/
def rustIndexSource : String :=
  String.join
    ["// Code generated by ramlgen. DO NOT EDIT.\n",
      "\n",
      "\x7b% for module in modules %\x7d\n",
      "pub mod \x7b\x7b module \x7d\x7d;\n",
      "\x7b% endfor %\x7d\n",
      "\n",
      "\x7b% for module in modules %\x7d\n",
      "pub use \x7b\x7b module \x7d\x7d::*;\n",
      "\x7b% endfor %\x7d\n"]

end RamlScaffold.Template.Builtin

------------------------------------------------------------
-- Reading Sources
------------------------------------------------------------

namespace RamlScaffold.Template

/- Whether a source is read as what renders like a template. -/
def IsReadFrom (template : Template) (source : String) : Prop :=
  ∃ read,
    read? source = some read ∧
      ∀ context, render read context = render template context

/- What the characters of a source are read as. -/
def readChars? (source : List Char) : Option Template := do
  let segments ← segmentsFrom? (source.length + 1) [] source
  let read ← readParts (2 * segments.length + 2) segments
  match read.ending with
  | none => some read.parts
  | some _ => none

theorem read?_eq (source : String) :
    read? source = readChars? source.toList := by
  rw [read?, segments?, ← String.length_toList]
  rfl

/-
  Texts with their characters.  They are not taken out of a
  text, as that takes long.
-/
inductive Spelled : List String → List (List Char) → Prop where
  | nil : Spelled [] []
  | cons
      {texts : List String}
      {spellings : List (List Char)}
      (spelling : List Char)
      (hRest : Spelled texts spellings) :
      Spelled (String.ofList spelling :: texts)
        (spelling :: spellings)

theorem Spelled.toList_join
    {texts : List String}
    {spellings : List (List Char)}
    (hTexts : Spelled texts spellings) :
    (String.join texts).toList = spellings.flatten := by
  induction hTexts with
  | nil => rfl
  | cons spelling hRest ih =>
      rw [String.join_cons, String.toList_append,
        String.toList_ofList, ih, List.flatten_cons]

/- It is enough to compare the trees, with texts joined. -/
theorem isReadFrom_join
    {template : Template}
    {texts : List String}
    {spellings : List (List Char)}
    (hTexts : Spelled texts spellings)
    (hRead :
      (readChars? spellings.flatten).any
          (fun read => sameParts (joined read) (joined template)) =
        true) :
    template.IsReadFrom (String.join texts) := by
  rw [Option.any_eq_true] at hRead
  rcases hRead with ⟨read, hSome, hSame⟩
  refine ⟨read, ?_, render_eq_of_sameParts hSame⟩
  rw [read?_eq, hTexts.toList_join, hSome]

namespace Builtin

theorem goStructure_isReadFrom :
    Template.IsReadFrom goStructure goStructureSource := by
  unfold goStructureSource
  apply isReadFrom_join
  · repeat constructor
  · decide +kernel

theorem goInterface_isReadFrom :
    Template.IsReadFrom goInterface goInterfaceSource := by
  unfold goInterfaceSource
  apply isReadFrom_join
  · repeat constructor
  · decide +kernel

theorem goStub_isReadFrom :
    Template.IsReadFrom goStub goStubSource := by
  unfold goStubSource
  apply isReadFrom_join
  · repeat constructor
  · decide +kernel

theorem goClient_isReadFrom :
    Template.IsReadFrom goClient goClientSource := by
  unfold goClientSource
  apply isReadFrom_join
  · repeat constructor
  · decide +kernel

theorem rustStructure_isReadFrom :
    Template.IsReadFrom rustStructure rustStructureSource := by
  unfold rustStructureSource
  apply isReadFrom_join
  · repeat constructor
  · decide +kernel

theorem rustInterface_isReadFrom :
    Template.IsReadFrom rustInterface rustInterfaceSource := by
  unfold rustInterfaceSource
  apply isReadFrom_join
  · repeat constructor
  · decide +kernel

theorem rustStub_isReadFrom :
    Template.IsReadFrom rustStub rustStubSource := by
  unfold rustStubSource
  apply isReadFrom_join
  · repeat constructor
  · decide +kernel

theorem rustClient_isReadFrom :
    Template.IsReadFrom rustClient rustClientSource := by
  unfold rustClientSource
  apply isReadFrom_join
  · repeat constructor
  · decide +kernel

theorem rustIndex_isReadFrom :
    Template.IsReadFrom rustIndex rustIndexSource := by
  unfold rustIndexSource
  apply isReadFrom_join
  · repeat constructor
  · decide +kernel

end Builtin

end RamlScaffold.Template

namespace RamlScaffold

open Template Template.Builtin

namespace Language

/- The source of a built-in template, if there is one. -/
def builtinSource? (language : Language) :
    Artefact → Option String
  | .struct =>
      match language with
      | .go => some goStructureSource
      | .rust => some rustStructureSource
  | .interface =>
      match language with
      | .go => some goInterfaceSource
      | .rust => some rustInterfaceSource
  | .stub =>
      match language with
      | .go => some goStubSource
      | .rust => some rustStubSource
  | .client =>
      match language with
      | .go => some goClientSource
      | .rust => some rustClientSource
  | .index =>
      match language with
      | .go => none
      | .rust => some rustIndexSource

/- Each built-in template is what its source is read as. -/
theorem builtinTemplate_isReadFrom
    {language : Language}
    {artefact : Artefact}
    {template : Template}
    (hBuiltin :
      language.builtinTemplate? artefact = some template) :
    ∃ source,
      language.builtinSource? artefact = some source ∧
        template.IsReadFrom source := by
  cases language <;> cases artefact <;> cases hBuiltin
  case go.struct => exact ⟨_, rfl, goStructure_isReadFrom⟩
  case go.interface => exact ⟨_, rfl, goInterface_isReadFrom⟩
  case go.stub => exact ⟨_, rfl, goStub_isReadFrom⟩
  case go.client => exact ⟨_, rfl, goClient_isReadFrom⟩
  case rust.struct => exact ⟨_, rfl, rustStructure_isReadFrom⟩
  case rust.interface => exact ⟨_, rfl, rustInterface_isReadFrom⟩
  case rust.stub => exact ⟨_, rfl, rustStub_isReadFrom⟩
  case rust.client => exact ⟨_, rfl, rustClient_isReadFrom⟩
  case rust.index => exact ⟨_, rfl, rustIndex_isReadFrom⟩

end Language

end RamlScaffold
