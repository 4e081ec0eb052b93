import PresetCompiler.Main
import PresetCompiler.Preset.Form
import PresetCompiler.Proofs.Backoff
import PresetCompiler.Proofs.Block.Category
import PresetCompiler.Proofs.Block.Syndata
import PresetCompiler.Proofs.Cli.Effects
import PresetCompiler.Proofs.Cli.Printing
import PresetCompiler.Proofs.Disk.Retrying
import PresetCompiler.Proofs.Disk.Saving
import PresetCompiler.Proofs.Filter.Commutation
import PresetCompiler.Proofs.Filter.Parts
import PresetCompiler.Proofs.Filter.PassOrder
import PresetCompiler.Proofs.Filter.Ports
import PresetCompiler.Proofs.Form.Objects
import PresetCompiler.Proofs.Preset.DocumentTokens
import PresetCompiler.Proofs.Preset.HeaderRegion
import PresetCompiler.Proofs.Preset.Launch
import PresetCompiler.Proofs.Preset.Layout
import PresetCompiler.Proofs.Preset.Merging
import PresetCompiler.Proofs.Preset.Session
import PresetCompiler.Proofs.Strategy.CacheAnswers
import PresetCompiler.Proofs.Strategy.FirstMatch
import PresetCompiler.Proofs.Strategy.Recovery
import PresetCompiler.Proofs.Toml.Stored
