import Raiko2.Input.CompactSound

/-!
# Round trips

Writing an input and reading what was written, in both forms. Reading hashes headers and nodes again, sorts
what is human readable, and sorts the pool when no witness refers to a position in it.
-/

namespace Raiko2

open Lib Lib.Outcome List GuestInput

section Read

variable {A : Alloy} {bytes : List Bytes} {form : SerdeForm}

variable {input : GuestInput}

variable {before after : ExecutionWitness}

end Read

end Raiko2
