/-!
The counts of a finished run and the line that reports them.
-/

namespace FlowGuard

structure RunResult where
  found : Nat := 0
  marked : Nat := 0
  xrefs : Nat := 0
  comments : Nat := 0
  warnings : Nat := 0
  deriving DecidableEq, Repr

namespace RunResult

/-- A counted part of the summary, left out when there is nothing to count. -/
def counted (before : String) (n : Nat) (after : String) : String :=
  if 0 < n then before ++ toString n ++ after else ""

def summary (r : RunResult) : String :=
  if r.found = 0 then "No XFG entries were found"
  else
    (if r.found = r.marked then "Found and marked " ++ toString r.found ++ " XFG entries"
      else
        "Found " ++ toString r.found ++ " XFG entries, marked " ++ toString r.marked ++ " entries")
      ++ counted ", added " r.xrefs " xrefs"
      ++ counted ", added " r.comments " comments"
      ++ counted " (" r.warnings " warnings, see log)"

end RunResult

end FlowGuard
