import ShaderConversion.Compiler.Basic
import ShaderConversion.Spirv.Module

namespace ShaderConversion.Compiler

def plainModule (r : Request) : List UInt32 :=
  if r.debugLevel.embedsSource then
    Spirv.Module.assemble r.target.spirvVersion 2
      (Spirv.sourceRecords ((r.fileName?.map Path.text).getD []) r.version.version.number r.source)
  else Spirv.Module.assemble r.target.spirvVersion 1 []

-- Gives the same diagnostics to every request. Without an error among them it
-- compiles to `output?`, or to a plain module.
def scripted (diagnostics : Diagnostics) (output? : Option (List UInt8)) : Compiler where
  name := "recording"
  validate _ := diagnostics
  compile r :=
    if diagnostics.hasErrors then .error diagnostics
    else .ok (output?.getD (Spirv.bytesOfWords (plainModule r)))
  notes _ := []

def accepting : Compiler := scripted [] none

end ShaderConversion.Compiler
