import ShaderConversion.Converter.Call
import ShaderConversion.Converter.Inspection
import ShaderConversion.Compiler.Scripted
import ShaderConversion.Main
import ShaderConversion.Proofs.Glsl.Version
import ShaderConversion.Proofs.Glsl.Directive
import ShaderConversion.Proofs.Glsl.Grammar
import ShaderConversion.Proofs.Target
import ShaderConversion.Proofs.Compiler.Scripted
import ShaderConversion.Proofs.Converter.Reachable
import ShaderConversion.Proofs.Converter.Resolution
import ShaderConversion.Proofs.Converter.Accounting
import ShaderConversion.Proofs.Converter.DebugSource
import ShaderConversion.Proofs.Converter.Compilation
import ShaderConversion.Proofs.Converter.Phases
import ShaderConversion.Proofs.Converter.Delivery
import ShaderConversion.Proofs.Converter.EntryPoints
import ShaderConversion.Proofs.CommandLine.Setup
import ShaderConversion.Proofs.CommandLine.Effects
import ShaderConversion.Compiler.Toolchain
import ShaderConversion.Proofs.Spirv.Walk
import ShaderConversion.Proofs.Lease
import ShaderConversion.Proofs.Converter.Agreement
import ShaderConversion.Proofs.CommandLine.Precedence
import ShaderConversion.Proofs.Shader.Resources
import ShaderConversion.Proofs.Glsl.Comment
import ShaderConversion.Proofs.Converter.VersionGate
import ShaderConversion.Proofs.Converter.ImpliedDefinitions
import ShaderConversion.Proofs.Converter.Verdict
import ShaderConversion.Proofs.Glsl.LineNumber
import ShaderConversion.Proofs.Text.Numeral
import ShaderConversion.Proofs.Target.Fault
import ShaderConversion.Proofs.Glsl.Spelling
import ShaderConversion.Proofs.Text.Order
import ShaderConversion.Proofs.Configuration.Entries
import ShaderConversion.Proofs.Configuration.Document
import ShaderConversion.Proofs.Configuration.Keys
import ShaderConversion.Proofs.Converter.Preset
import ShaderConversion.Proofs.Spirv.DebugRecord
import ShaderConversion.Proofs.Stage
import ShaderConversion.Proofs.Text.Boundary
import ShaderConversion.Proofs.Spirv.Piece
import ShaderConversion.Proofs.Glsl.Scan
import ShaderConversion.Proofs.Spirv.InPlace
