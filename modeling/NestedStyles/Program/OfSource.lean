import NestedStyles.Event
import NestedStyles.Program.Basic
import NestedStyles.Program.NodeText
import NestedStyles.Source.Stylesheet
import NestedStyles.Tree.Normalize

/-!
# Programs of sources

Compiles a stylesheet tree, and with it the source that the tree is read from.
Children are compiled in order and the first one
without a meaning ends the work, so the error is always that of the first node at
fault.
-/

namespace NestedStyles

/-- Compiling: reports events and may fail, keeping what was reported before. -/
abbrev CompileM := ExceptT CompileError Logged

/-- What a block holds. -/
structure BlockContents where
  declarations : Declarations := ∅
  nested : List Ruleset := []

mutual

/-- Compiles a ruleset. -/
def Ruleset.ofNode : Node → CompileM Ruleset
  | .branch _ [selector, block] _ => do
      if selector.kind ≠ .selector then
        throw (.unsupported selector .rulesetSelector)
      if block.kind ≠ .block then
        throw (.unsupported block .rulesetBlock)
      let selectors ← selector.selectorGroup
      let contents ← BlockContents.ofNode block
      Logged.report
        (.rulesetCompiled selectors contents.declarations.size contents.nested.length)
      return ⟨selectors, contents.declarations, contents.nested⟩
  | node => throw (.malformed node .rulesetParts)

/-- Compiles what a block holds. -/
def BlockContents.ofNode : Node → CompileM BlockContents
  | .branch _ items _ => BlockContents.addAll {} items
  | .leaf .. => return {}

/-- Compiles further items of a block into what it holds so far. -/
def BlockContents.addAll (contents : BlockContents) : List Node → CompileM BlockContents
  | [] => return contents
  | item :: rest =>
      match item.kind with
      | .declaration => do
          let (name, value) ← item.declarationText
          BlockContents.addAll
            { contents with declarations := contents.declarations.insert name value } rest
      | .ruleset => do
          let ruleset ← Ruleset.ofNode item
          BlockContents.addAll { contents with nested := contents.nested ++ [ruleset] } rest
      | _ => throw (.unsupported item .block)

end

namespace Program

/-- Compiles one more child of a stylesheet into the program so far. -/
def add (program : Program) (item : Node) : CompileM Program :=
  match item.kind with
  | .declaration => do
      let (name, value) ← item.definitionText
      return { program with initializer := program.initializer.set name value }
  | .ruleset => do
      let ruleset ← Ruleset.ofNode item
      return { program with rulesets := program.rulesets ++ [ruleset] }
  | _ => throw (.unsupported item .topLevel)

/-- Compiles a stylesheet tree. Nodes that only lay the source out do not
count. -/
def ofTree (root : Node) : CompileM Program := do
  if root.kind ≠ .stylesheet then
    throw (.unsupported root .root)
  let program ← root.normalize.children.foldlM add ∅
  Logged.report (.programCompiled program.initializer.size program.rulesets.length)
  return program

end Program

/-- Why a source has no program. -/
inductive SourceError where
  | unreadable (error : UnexpectedInput)
  | uncompilable (error : CompileError)
deriving DecidableEq

namespace SourceError

/-- The error as it is reported. -/
def message : SourceError → String
  | unreadable error => error.message
  | uncompilable error => error.message

end SourceError

/-- Reads and compiles the text of a stylesheet. -/
def Program.ofSource (source : String) : ExceptT SourceError Logged Program :=
  match Node.ofSource source with
  | .ok tree => (Program.ofTree tree).adapt .uncompilable
  | .error error => throw (.unreadable error)

end NestedStyles
