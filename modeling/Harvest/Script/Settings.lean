import Harvest.Fetch.Delay
import Harvest.Fetch.Settings

/-!
Settings under which scripts run.
-/

namespace Harvest.Script

/-- The settings of the client and of its attempts, how many errors an execution may have, and the
folders of the log and of the files that scripts load. -/
structure Settings where
  fetch : Fetch.Settings
  retry : Fetch.RetryPolicy
  maxErrors : Nat
  logFolder : Option String
  fileFolder : Option String

namespace Settings

def default : Settings := ⟨.default, .default, 3, none, none⟩

open Json in
def ofJson? (j : Json) : Option Settings := do
  let fields ← record? ["fetch", "retry", "max_errors", "log_dir", "resource_dir"] j
  let fetch ← optional? fields "fetch" default.fetch Fetch.Settings.ofJson?
  let retry ← optional? fields "retry" default.retry Fetch.RetryPolicy.ofJson?
  let maxErrors ← optional? fields "max_errors" default.maxErrors (natBits? 32)
  let logFolder ← optional? fields "log_dir" none (nullable? string?)
  let fileFolder ← optional? fields "resource_dir" none (nullable? string?)
  return ⟨fetch, retry, maxErrors, logFolder, fileFolder⟩

end Settings

end Harvest.Script
