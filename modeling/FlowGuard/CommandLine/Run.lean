import FlowGuard.CommandLine.Arguments
import FlowGuard.Image.Load
import FlowGuard.Plugin.Command
import FlowGuard.Settings.File

/-!
The command line as a function of the arguments and of what the paths hold: load the image, take the
switches from the settings, mark the image, and print the summary and, if asked to, every annotation.
-/

namespace FlowGuard

def StoredText.ofFile : StoredFile → StoredText
  | .missing fault => .missing fault
  | .directory => .directory
  | .bytes contents =>
    match Utf8.decode? contents.toList with
    | some s => .text s
    | none => .notText

namespace CommandLine

def programName : String := "xfg-mark"

def versionText : String :=
  programName ++ " " ++ Plugin.version ++ "\n"

def helpText : String :=
  versionText
    ++ "recover XFG type hashes from a PE image and correlate them with call sites\n\n"
    ++ "USAGE:\n    " ++ programName ++ " [OPTIONS] <image>\n\n"
    ++ "ARGS:\n    <image>    path to PE file\n\n"
    ++ "OPTIONS:\n"
    ++ "        --dump               print the produced annotations\n"
    ++ "    -h, --help               Print help information\n"
    ++ "        --json               emit logs as JSON\n"
    ++ "        --no-comments        do not add comments at call sites\n"
    ++ "        --no-xrefs           do not add cross references\n"
    ++ "        --settings <FILE>    JSON settings file holding the annotation toggles\n"
    ++ "    -v, --verbose            log verbose messages\n"
    ++ "    -V, --version            Print version information\n"

inductive Failure where
  | load (path : String) (cause : LoadError)
  | settings (cause : SettingsError)
  | run (cause : RunError)
  deriving DecidableEq, Repr

/-- The wording with that of each underlying cause. -/
def Failure.message : Failure → String
  | load path e => "failed to load " ++ path ++ ": " ++ e.message
  | settings e => e.message
  | run e => ": ".intercalate e.messages

def Failure.report (f : Failure) : String :=
  "error: " ++ f.message ++ "\n"

/-- The switches: those of the settings, unless they are turned off by an argument. -/
def configOf (a : Arguments) (s : Settings) : Config :=
  let kept := Config.load s
  { xrefs := kept.xrefs && !a.noXrefs, comments := kept.comments && !a.noComments }

/-- The annotations, one a line: data marks, comments, references. -/
def dump (w : Width) (s : Annotations) : List String :=
  s.marks.toList.map (fun (a, n) => "data    " ++ w.pointerText a ++ "  (" ++ toString n ++ " bytes)")
    ++ s.comments.toList.map (fun (a, text) => "comment " ++ w.pointerText a ++ "  " ++ text)
    ++ s.xrefs.toList.map (fun (a, b) => "xref    " ++ w.pointerText a ++ " -> " ++ w.pointerText b)

def loadSettings (files : String → StoredFile) :
    Option String → Traced (Except SettingsError Settings)
  | none => pure (.ok {})
  | some path => do
    return (← SettingsFile.load path (.ofFile (files path))).map SettingsFile.values

/-- Marks the image and gives what is printed. -/
def run (files : String → StoredFile) (a : Arguments) : Traced (Except Failure String) := do
  match ← (Loading.loadFile a.image (files a.image) {}).run with
  | .error e => return .error (.load a.image e)
  | .ok loaded =>
    match ← loadSettings files a.settings with
    | .error e => return .error (.settings e)
    | .ok settings =>
      match ← Plugin.command { width := loaded.width } loaded.host (configOf a settings) [] with
      | (.error e, _) => return .error (.run e)
      | (.ok r, host) =>
        let dumped := if a.dump then dump loaded.width host.annotations else []
        return .ok (String.join ((r.summary :: dumped).map (· ++ "\n")))

end CommandLine

end FlowGuard
