import FlowGuard.Run.Marker

/-!
The command that marks the selected module. It takes no arguments.
-/

namespace FlowGuard.Plugin

def name : String := "XFG Marker"
def version : String := "0.1.0"
def commandName : String := "xfg_mark"

def logged (outcome : Except RunError RunResult × Host) : Traced (Except RunError RunResult × Host) :=
  match outcome with
  | (.error e, h) => do
    Traced.note (.failed e.message)
    return (.error e, h)
  | done => pure done

def command (k : Marker) (h : Host) (config : Config) (args : List String) :
    Traced (Except RunError RunResult × Host) :=
  if args = [] then do logged (← k.run h config)
  else logged (.error (.arguments args.length), h)

/-- How much is logged for a number of requests for more. -/
def verbosity : Nat → String
  | 0 => "info"
  | 1 => "debug"
  | _ => "trace"

end FlowGuard.Plugin
