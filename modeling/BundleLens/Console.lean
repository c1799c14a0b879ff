import BundleLens.Console.Style
import BundleLens.Report.Json

namespace BundleLens

structure Console where
  /-- Modules are listed one by one. -/
  verbose : Bool := false
  /-- Instead of all else, the reports are written as JSON at the end. -/
  json : Bool := false
  /-- Only failures are shown. -/
  quiet : Bool := false
  colour : Bool := false
  deriving DecidableEq, Inhabited

namespace Console

def unlines (lines : List String) : String := String.join (lines.map (· ++ "\n"))

def padRight (width : Nat) (text : String) : String :=
  text ++ String.ofList (List.replicate (width - text.length) ' ')

def entryText (c : Console) (entry : Option ModuleId) (source : Option EntrySource) : String :=
  match entry, source with
  | some id, some .override => paint c.colour .given s!"{id.display} (given)"
  | some id, _ => paint c.colour .good id.display
  | none, _ => paint c.colour .faint "not found"

def moduleLine (c : Console) (m : ModuleSummary) : String :=
  let mark := if m.isEntry then paint c.colour .mark "*" else " "
  let extent := paint c.colour .faint s!"{m.start}..{m.stop}"
  s!"        {mark} {padRight 12 m.id.display} {extent}"

def reportLines (c : Console) (r : Report) : List String :=
  let title := ["", paint c.colour .heading "===" ++ " " ++ paint c.colour .name r.source]
  if r.isOk then
    title ++
    ["    |-- Format:  " ++ (r.format.map BundleFormat.name).getD "unknown",
     "    |-- Entry:   " ++ c.entryText r.entry r.entrySource,
     s!"    +-- Modules: {r.moduleCount}"] ++
    if c.verbose then r.modules.map c.moduleLine else []
  else title ++ r.errors.map fun error => "    +-- " ++ paint c.colour .error error

def report (c : Console) (r : Report) : String :=
  if c.json || (c.quiet && r.isOk) then "" else unlines (c.reportLines r)

def reports (c : Console) (rs : List Report) : String := String.join (rs.map c.report)

/-- A sum of numbers of modules. One that does not fit into 64 bits stops the program. -/
def addModules? (m n : UInt64) : Option UInt64 :=
  if m.toNat + n.toNat < UInt64.size then some (m + n) else none

def totalModules? (rs : List Report) : Option UInt64 :=
  rs.foldlM (fun n r => addModules? n r.moduleCount) 0

def failures (rs : List Report) : Nat := rs.countP fun r => !r.isOk

def summaryLines (c : Console) (rs : List Report) (modules : UInt64) : List String :=
  let failed := failures rs
  let verdict :=
    if failed = 0 then paint c.colour .good "All inputs recognized."
    else paint c.colour .alarm s!"Failed inputs: {failed}"
  ["", paint c.colour .heading "=== Summary ===", s!"  Inputs:   {rs.length}",
   s!"  Modules:  {modules}", s!"  {verdict}", ""]

/-- What is shown at the end, unless the program stops before. The total is made up first, so then
nothing of the summary is shown. -/
def summary? (c : Console) (rs : List Report) : Option String :=
  if c.json then some (Report.prettyList rs ++ "\n")
  else if c.quiet && failures rs == 0 then some ""
  else (totalModules? rs).map fun modules => unlines (c.summaryLines rs modules)

/-- What is seen at the end. -/
def summary (c : Console) (rs : List Report) : String := (c.summary? rs).getD ""

end Console

end BundleLens
