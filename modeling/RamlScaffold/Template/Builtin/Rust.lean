import RamlScaffold.Template.Builtin.Phrase

/-
  The built-in templates for Rust.  Traits and their stubs
  share the signature of a handler.

  Key definitions include:
    * `Builtin.rustStructure`
    * `Builtin.rustInterface`
    * `Builtin.rustStub`
    * `Builtin.rustClient`
    * `Builtin.rustIndex`
-/

------------------------------------------------------------
-- Structures
------------------------------------------------------------

namespace RamlScaffold.Template.Builtin

/- A structure in Rust. -/
def rustStructure : Template :=
  [
    .text "// Code generated by ramlgen. DO NOT EDIT.\n",
    .text "#![allow(unused_imports)]\n",
    .text "\n",
    .text "use super::*;\n",
    .text "use serde::\x7bDeserialize, Serialize\x7d;\n",
    .text "\n",
    .each ["line"] (.ref "description")
      [.text "/// ", put "line", .text "\n"]
      [],
    .branch (.ref "enum_values")
      [
        .text "/// Allowed values: ",
        putJoined "enum_values" ", ",
        .text "\n"]
      [],
    .branch (.ref "is_one_line_def")
      [
        .text "pub type ",
        put "name",
        .text " = ",
        put "one_line_def",
        .text ";\n"]
      [
        .text "#[derive(Debug, Clone, Default, PartialEq, ",
        .text "Serialize, Deserialize)]\n",
        .text "pub struct ",
        put "name",
        .text " \x7b\n",
        .each ["key", "field"] (.filter (.ref "fields") "items" [])
          [
            .branch (of "field" "is_composition")
              [
                .text "    #[serde(flatten)]\n",
                .text "    pub ",
                putOf "field" "name",
                .text ": ",
                putOf "field" "type_name",
                .text ",\n"]
              []]
          [],
        .each ["key", "field"] (.filter (.ref "fields") "items" [])
          [
            .branch (.negation (of "field" "is_composition"))
              [
                .branch (of "field" "required")
                  [
                    .text "    #[serde(rename = \"",
                    putOf "field" "original_name",
                    .text "\")]\n",
                    .text "    pub ",
                    putOf "field" "name",
                    .text ": ",
                    putOf "field" "type_name",
                    .text ",\n"]
                  [
                    .text "    #[serde(rename = \"",
                    putOf "field" "original_name",
                    .text "\", default, skip_serializing_if = ",
                    .text "\"Option::is_none\")]\n",
                    .text "    pub ",
                    putOf "field" "name",
                    .text ": Option<",
                    putOf "field" "type_name",
                    .text ">,\n"]]
              []]
          [],
        .text "\x7d\n"]]

end RamlScaffold.Template.Builtin

------------------------------------------------------------
-- Traits
------------------------------------------------------------

namespace RamlScaffold.Template.Builtin

/- The line that names the method and path of a route. -/
def rustRouteLine : List Part :=
  [
    .text "    /// ",
    putOf "m" "verb",
    .text " ",
    putOf "m" "endpoint",
    .text "\n"]

/- The signature of the handler of a route. -/
def rustSignature : List Part :=
  [
    .text "    fn ",
    putOfAs "m" "handler_name" "snake_case",
    .text "(&self",
    .each ["p"] (of "m" "path_params")
      [.text ", ", putAs "p" "snake_case", .text ": &str"]
      [],
    .branch (of "m" "req_body")
      [.text ", body: ", putOf "m" "req_body"]
      [],
    .text ")",
    .branch (of "m" "resp_body")
      [.text " -> ", putOf "m" "resp_body"]
      []]

/- The member of a trait for a route. -/
def rustTraitMember : List Part :=
  rustRouteLine ++
    [
      .each ["line"] (of "m" "description")
        [.text "    /// ", put "line", .text "\n"]
        []] ++
    rustSignature ++ [.text ";\n"]

/- The trait of a resource in Rust, with its routes. -/
def rustInterface : Template :=
  [
    .text "// Code generated by ramlgen. DO NOT EDIT.\n",
    .text "#![allow(unused_imports)]\n",
    .text "\n",
    .text "use super::*;\n",
    .text "\n",
    .text "/// Handlers of the `",
    put "endpoint",
    .text "` root endpoint.\n",
    .each ["line"] (.ref "description")
      [.text "///\n", .text "/// ", put "line", .text "\n"]
      [],
    .text "pub trait ",
    put "name",
    .text "Interface \x7b\n",
    .each ["m"] (.ref "routes")
      rustTraitMember
      [],
    .text "\x7d\n",
    .text "\n",
    .text "/// Routes of the `",
    put "endpoint",
    .text "` root endpoint as `(method, path, handler)`.\n",
    .text "pub const ",
    .emit (.filter (.filter (.ref "name") "snake_case" []) "upper" []),
    .text "_ROUTES: &[(&str, &str, &str)] = &[\n",
    .each ["m"] (.ref "routes")
      [
        .text "    (\"",
        putOf "m" "verb",
        .text "\", \"",
        putOf "m" "endpoint",
        .text "\", \"",
        putOfAs "m" "handler_name" "snake_case",
        .text "\"),\n"]
      [],
    .text "];\n"]

end RamlScaffold.Template.Builtin

------------------------------------------------------------
-- Stubs
------------------------------------------------------------

namespace RamlScaffold.Template.Builtin

/- The member of a stub for a route. -/
def rustStubMember : List Part :=
  rustRouteLine ++ rustSignature ++
    [
      .text " \x7b\n",
      .branch (of "m" "resp_body")
        [
          .text "        ",
          putOf "m" "resp_body",
          .text "::default()\n"]
        [],
      .text "    \x7d\n"]

/- The stub that implements a trait in Rust. -/
def rustStub : Template :=
  [
    .text "#![allow(unused_imports, unused_variables)]\n",
    .text "\n",
    .text "use super::*;\n",
    .text "\n",
    .text "/// Implementation of the `",
    put "endpoint",
    .text "` root endpoint.\n",
    .text "#[derive(Debug, Default)]\n",
    .text "pub struct ",
    put "name",
    .text "Api;\n",
    .text "\n",
    .text "impl ",
    put "name",
    .text "Interface for ",
    put "name",
    .text "Api \x7b\n",
    .each ["m"] (.ref "routes")
      rustStubMember
      [],
    .text "\x7d\n"]

end RamlScaffold.Template.Builtin

------------------------------------------------------------
-- Clients
------------------------------------------------------------

namespace RamlScaffold.Template.Builtin

/- The client of a resource in Rust. -/
def rustClient : Template :=
  [
    .text "// Code generated by ramlgen. DO NOT EDIT.\n",
    .text "#![allow(unused_imports)]\n",
    .text "\n",
    .text "use super::*;\n",
    .text "\n",
    .text "/// Sends one request and returns the decoded JSON ",
    .text "response (`Null` when the\n",
    .text "/// response has no body).\n",
    .text "pub trait ",
    put "name",
    .text "Transport \x7b\n",
    .text "    fn send(\n",
    .text "        &self,\n",
    .text "        method: &str,\n",
    .text "        url: &str,\n",
    .text "        body: Option<serde_json::Value>,\n",
    .text "    ) -> Result<serde_json::Value, Box<dyn ",
    .text "std::error::Error + Send + Sync>>;\n",
    .text "\x7d\n",
    .text "\n",
    .text "/// Client of the `",
    put "endpoint",
    .text "` root endpoint.\n",
    .text "pub struct ",
    put "name",
    .text "Service<T: ",
    put "name",
    .text "Transport> \x7b\n",
    .text "    transport: T,\n",
    .text "    base_uri: String,\n",
    .text "\x7d\n",
    .text "\n",
    .text "impl<T: ",
    put "name",
    .text "Transport> ",
    put "name",
    .text "Service<T> \x7b\n",
    .text "    pub fn new(transport: T, base_uri: impl ",
    .text "Into<String>) -> Self \x7b\n",
    .text "        Self \x7b\n",
    .text "            transport,\n",
    .text "            base_uri: base_uri.into(),\n",
    .text "        \x7d\n",
    .text "    \x7d\n",
    .each ["m"] (.ref "routes")
      [
        .text "\n",
        .text "    /// ",
        putOf "m" "verb",
        .text " ",
        putOf "m" "endpoint",
        .text "\n",
        .text "    pub fn ",
        putOfAs "m" "handler_name" "snake_case",
        .text "(&self",
        .each ["p"] (of "m" "path_params")
          [.text ", ", putAs "p" "snake_case", .text ": &str"]
          [],
        .branch (of "m" "req_body")
          [.text ", body: &", putOf "m" "req_body"]
          [],
        .text ") -> Result<",
        .branch (of "m" "resp_body")
          [putOf "m" "resp_body"]
          [.text "()"],
        .text ", Box<dyn std::error::Error + Send + Sync>> ",
        .text "\x7b\n",
        .text "        let url = format!(\"\x7b\x7d",
        putOfAs "m" "endpoint" "rust_path",
        .text "\", self.base_uri);\n",
        .branch (of "m" "req_body")
          [
            .text "        let payload = ",
            .text "Some(serde_json::to_value(body)?);\n"]
          [.text "        let payload = None;\n"],
        .branch (of "m" "resp_body")
          [
            .text "        let value = self.transport.send(\"",
            putOf "m" "verb",
            .text "\", &url, payload)?;\n",
            .text "        Ok(serde_json::from_value(value)?)\n"]
          [
            .text "        self.transport.send(\"",
            putOf "m" "verb",
            .text "\", &url, payload)?;\n",
            .text "        Ok(())\n"],
        .text "    \x7d\n"]
      [],
    .text "\x7d\n"]

end RamlScaffold.Template.Builtin

------------------------------------------------------------
-- Indices
------------------------------------------------------------

namespace RamlScaffold.Template.Builtin

/- The index of the modules in Rust. -/
def rustIndex : Template :=
  [
    .text "// Code generated by ramlgen. DO NOT EDIT.\n",
    .text "\n",
    .each ["module"] (.ref "modules")
      [.text "pub mod ", put "module", .text ";\n"]
      [],
    .text "\n",
    .each ["module"] (.ref "modules")
      [.text "pub use ", put "module", .text "::*;\n"]
      []]

end RamlScaffold.Template.Builtin
