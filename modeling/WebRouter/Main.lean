import WebRouter.CommandLine.Library
import WebRouter.CommandLine.Report
import WebRouter.Demo

/-!
# The tool

Performs its command line on the modules there are and writes the report out.
Nothing is served: a server that would be started is named instead.
-/

namespace WebRouter

/-- Writes a report and gives the exit status. -/
def writeReport (report : CommandLine.Report) : IO UInt32 := do
  for line in report.output do
    IO.println line
  for line in report.errors do
    IO.eprintln line
  for server in report.started do
    IO.println s!"serving on {server.host.display}:{server.port.display}"
  match report.ending with
  | .exit status => return UInt32.ofNat status
  | .broken failure =>
    IO.eprintln s!"{failure.kind}: {failure.message}"
    return 1

end WebRouter

/-- Performs the command line. -/
def main (args : List String) : IO UInt32 :=
  let modules := WebRouter.Demo.modules ++ WebRouter.CommandLine.Library.modules
  WebRouter.writeReport (WebRouter.CommandLine.perform modules args)
