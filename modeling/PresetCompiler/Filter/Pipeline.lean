import PresetCompiler.Filter.Settings
import PresetCompiler.Filter.WindowSize
import PresetCompiler.Tokens

/-! Pipelines of token passes, and the final tokens of a preset. -/

namespace PresetCompiler

/-- Token passes in the order in which they run. -/
structure Pipeline where
  passes : List TokenPass

namespace Pipeline

/-- The pipeline without passes. -/
def empty : Pipeline := ⟨[]⟩

/-- Puts a pass behind the last one that has to run before it. -/
def place (pass : TokenPass) : List TokenPass → List TokenPass
  | [] => [pass]
  | p :: rest => if pass.priority < p.priority then pass :: p :: rest else p :: place pass rest

/-- The pipeline with one more pass, behind those of the same priority. -/
def add (pipeline : Pipeline) (pass : TokenPass) : Pipeline :=
  ⟨place pass pipeline.passes⟩

/-- The tokens after every pass. -/
def run (pipeline : Pipeline) (tokens : List String) : List String :=
  pipeline.passes.foldl (fun tokens pass => pass.apply tokens) tokens

/-- The pipeline of the passes that are switched on. -/
def ofSettings (settings : FilterSettings) : Pipeline :=
  let wanted :=
    (if settings.removeHostlists then [TokenPass.removeHostlists] else []) ++
    (if settings.removeIpsets then [TokenPass.removeIpsets] else []) ++
    (if settings.allzone then [TokenPass.allzone] else []) ++
    (if settings.wssize then [TokenPass.wssize settings.wildcardPortMatches] else [])
  wanted.foldl add empty

end Pipeline

namespace FilterSettings

/-- Host list targeting dropped, when that is switched on. -/
def applyRemoveHostlists (settings : FilterSettings) (tokens : List String) : List String :=
  if settings.removeHostlists then TokenPass.removeHostlists.apply tokens else tokens

/-- IP set targeting dropped, when that is switched on. -/
def applyRemoveIpsets (settings : FilterSettings) (tokens : List String) : List String :=
  if settings.removeIpsets then TokenPass.removeIpsets.apply tokens else tokens

/-- The list of all zones used, when that is switched on. -/
def applyAllzone (settings : FilterSettings) (tokens : List String) : List String :=
  if settings.allzone then TokenPass.allzone.apply tokens else tokens

/-- Window sizes set, when that is switched on. -/
def applyWssize (settings : FilterSettings) (tokens : List String) : List String :=
  if settings.wssize then (TokenPass.wssize settings.wildcardPortMatches).apply tokens else tokens

/-- The tokens after every pass that is switched on. -/
def applyAll (settings : FilterSettings) (tokens : List String) : List String :=
  (Pipeline.ofSettings settings).run tokens

end FilterSettings

/-- The tokens of a preset after every pass that is switched on. -/
def Preset.compile (preset : Preset) (settings : FilterSettings) : List String :=
  settings.applyAll preset.tokens

end PresetCompiler
