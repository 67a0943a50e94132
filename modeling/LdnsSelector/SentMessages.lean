import LdnsSelector.QueryPacket
import LdnsSelector.QueryRuns
import LdnsSelector.ReplyCounting

set_option autoImplicit true

open Prog Memory

namespace LdnsSelector

section Queries

variable {cfg : ConfigurationTable}

end Queries

end LdnsSelector
