import PresetCompiler.Block.Basic
import PresetCompiler.Fault

/-! Finding the strategy whose arguments a block uses. -/

namespace PresetCompiler

open Text

/-- The words of an argument text in lower case, with one space between any two. -/
def normalizeArgs (text : String) : String :=
  String.ofList (lower (List.intercalate [' '] (words text.toList)))

/-- Whether two argument texts have the same words in the same order, case aside. -/
def argsMatch (a b : String) : Bool :=
  normalizeArgs a = normalizeArgs b

/-- Where strategies are looked up. -/
structure StrategySource where
  /-- The strategies of a category in the order in which they are tried. -/
  ids : String → List String
  /-- The argument text of a strategy of a category. -/
  args : String → String → Except Fault String

namespace StrategySource

/-- Whether a strategy can be looked up and has the wanted words. -/
def isMatch (source : StrategySource) (category wanted id : String) : Bool :=
  match source.args category id with
  | .ok args => normalizeArgs args = wanted
  | .error _ => false

/-- The first strategy of a category with the same words as the argument text of a protocol. A text
without words matches none. -/
def findStrategy? (source : StrategySource) (category tcpArgs udpArgs : String)
    (protocol : Protocol) : Option String :=
  let wanted := normalizeArgs (match protocol with
    | .tcp => tcpArgs
    | .udp => udpArgs)
  if wanted = "" then none
  else (source.ids category).find? (source.isMatch category wanted)

/-- The first strategy of a block's category with the same words as the block. -/
def findForBlock? (source : StrategySource) (block : Block) : Option String :=
  match block.protocol with
  | .tcp => source.findStrategy? block.category block.strategyArgs "" .tcp
  | .udp => source.findStrategy? block.category "" block.strategyArgs .udp

end StrategySource

/-- What is shown for a block that uses no known strategy. -/
def noStrategy : String := "none"

end PresetCompiler
