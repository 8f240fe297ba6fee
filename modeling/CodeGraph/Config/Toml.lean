import CodeGraph.Config
import CodeGraph.FileTree
import CodeGraph.Toml.Document

/-!
# Settings files

Settings are kept in TOML, a table for each section. What is not given has its default, and unknown
keys are passed over. A section can also be given as an array of its settings in order.

## Main definitions

* `Config.parse` — the settings of a text, which must be usable
* `Config.load` — the settings of a file, or the defaults if it gives none
-/

namespace CodeGraph

namespace Toml

/-- The one value under a key, absent if the key is missing; a repeated key has no value. -/
def member? (entries : List (String × Toml)) (key : String) : Option (Option Toml) :=
  match entries.filter (·.1 == key) with
  | [] => some none
  | [(_, value)] => some (some value)
  | _ => none

/-- The values for the fields of a record, absent where none is given. An array gives them in order.
A date is a record of its own, without any of the fields. -/
def slots? (fields : List String) : Toml → Option (List (Option Toml))
  | table _ entries => fields.mapM (member? entries)
  | array items =>
    if items.length ≤ fields.length then
      some ((List.range fields.length).map fun i => items[i]?)
    else none
  | datetime _ => some (fields.map fun _ => none)
  | _ => none

/-- A text. -/
def text? : Toml → Option String
  | string s => some s
  | _ => none

/-- A text of one character. -/
def char? : Toml → Option Char
  | string s => match s.toList with
    | [c] => some c
    | _ => none
  | _ => none

/-- A truth value. -/
def bool? : Toml → Option Bool
  | boolean b => some b
  | _ => none

/-- A number of things. -/
def count? : Toml → Option Nat
  | integer n => if 0 ≤ n then some n.toNat else none
  | _ => none

/-- The value of a field, or its default. -/
def field {α : Type} (read : Toml → Option α) (default : α) : Option Toml → Option α
  | some v => read v
  | none => some default

end Toml

open Toml (field)

/-- The filters of a section. -/
def FilterConfig.ofToml? (v : Toml) : Option FilterConfig := do
  let d : FilterConfig := {}
  match ← v.slots? ["classes", "methods", "files", "variables"] with
  | [classKinds, methodKinds, fileKinds, variableKinds] =>
    return {
      classKinds := ← field Toml.text? d.classKinds classKinds
      methodKinds := ← field Toml.text? d.methodKinds methodKinds
      fileKinds := ← field Toml.text? d.fileKinds fileKinds
      variableKinds := ← field Toml.text? d.variableKinds variableKinds }
  | _ => none

/-- The relations and kinds of a section. -/
def GraphConfig.ofToml? (v : Toml) : Option GraphConfig := do
  let d : GraphConfig := {}
  match ← v.slots? ["owner_kinds", "containment", "dependency_exclude"] with
  | [ownerKinds, containment, dependencyExclude] =>
    return {
      ownerKinds := ← field Toml.text? d.ownerKinds ownerKinds
      containment := ← field Toml.text? d.containment containment
      dependencyExclude := ← field Toml.text? d.dependencyExclude dependencyExclude }
  | _ => none

/-- The form of reports of a section. -/
def ExportConfig.ofToml? (v : Toml) : Option ExportConfig := do
  let d : ExportConfig := {}
  match ← v.slots? ["delimiter"] with
  | [delimiter] => return { delimiter := ← field Toml.char? d.delimiter delimiter }
  | _ => none

/-- The selection of tokens of a section. -/
def TokenSelection.ofToml? (v : Toml) : Option TokenSelection := do
  let d : TokenSelection := {}
  match ← v.slots? ["comments", "whitespace", "preprocessor", "entities"] with
  | [comments, whitespace, preprocessor, entities] =>
    return {
      comments := ← field Toml.bool? d.comments comments
      whitespace := ← field Toml.bool? d.whitespace whitespace
      preprocessor := ← field Toml.bool? d.preprocessor preprocessor
      entities := ← field Toml.bool? d.entities entities }
  | _ => none

/-- The limits of a section. -/
def DisplayConfig.ofToml? (v : Toml) : Option DisplayConfig := do
  let d : DisplayConfig := {}
  match ← v.slots? ["detail_limit", "token_limit"] with
  | [detailLimit, tokenLimit] =>
    return {
      detailLimit := ← field Toml.count? d.detailLimit detailLimit
      tokenLimit := ← field Toml.count? d.tokenLimit tokenLimit }
  | _ => none

namespace Config

/-- The settings of a table, whether they are usable or not. -/
def ofToml? (v : Toml) : Option Config := do
  match ← v.slots? ["filters", "graph", "export", "lexer", "display"] with
  | [filters, graph, «export», lexer, display] =>
    return {
      filters := ← field FilterConfig.ofToml? {} filters
      graph := ← field GraphConfig.ofToml? {} graph
      «export» := ← field ExportConfig.ofToml? {} «export»
      lexer := ← field TokenSelection.ofToml? {} lexer
      display := ← field DisplayConfig.ofToml? {} display }
  | _ => none

/-- The settings of a text, which must be usable. -/
def parse (text : String) : Except Error Config := do
  match (Toml.parse? text).bind fun entries => ofToml? (.table false entries) with
  | some config =>
    config.validate
    return config
  | none => throw .malformedConfig

/-- The text of a file, if there is one and it holds UTF-8. -/
def textOf? (files : FileTree) (path : String) : Option String :=
  match files.node path with
  | .ok n => n.content?.bind Bytes.toString?
  | .error _ => none

/-- The settings of a file. Without a file, or if it gives no usable settings, all have their
defaults. -/
def load (files : FileTree) (path : String) : Config :=
  match textOf? files path with
  | none => {}
  | some text =>
    match parse text with
    | .ok config => config
    | .error _ => {}

end Config

end CodeGraph
