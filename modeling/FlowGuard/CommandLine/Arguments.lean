/-!
The arguments of the command line. They are read from left to right, and the first one that cannot be
read, or that asks for the version or for help, ends the reading. Only then is the whole checked: an
option stands at most once, except `--verbose`, and exactly one image is named.
-/

namespace FlowGuard

structure Arguments where
  image : String
  settings : Option String := none
  noXrefs : Bool := false
  noComments : Bool := false
  dump : Bool := false
  json : Bool := false
  verbosity : Nat := 0
  deriving DecidableEq, Repr

/-- Why there is nothing to run. -/
inductive Stop where
  | version
  | help
  /-- The arguments are not understood. -/
  | misuse
  deriving DecidableEq, Repr

namespace Arguments

inductive Item where
  | image (path : String)
  /-- The value may be missing. -/
  | settings (path : Option String)
  | noXrefs
  | noComments
  | dump
  | json
  | verbose
  deriving DecidableEq, Repr

/-- The items of an option, or an option that takes the next argument. -/
inductive Reading where
  | items (items : List Item)
  | settingsNext

def switch (name : String) : Except Stop Item :=
  match name with
  | "verbose" => .ok .verbose
  | "json" => .ok .json
  | "no-xrefs" => .ok .noXrefs
  | "no-comments" => .ok .noComments
  | "dump" => .ok .dump
  | "version" => .error .version
  | "help" => .error .help
  | _ => .error .misuse

/-- An option with a name, and a value behind `=` if there is one. -/
def readLong (text : List Char) : Except Stop Reading :=
  let name := String.ofList (text.takeWhile (· != '='))
  match text.dropWhile (· != '=') with
  | [] => if name = "settings" then .ok .settingsNext else (switch name).map fun i => .items [i]
  | _ :: value =>
    if name = "settings" then .ok (.items [.settings (some (String.ofList value))]) else .error .misuse

def readShort (letter : Char) : Except Stop Item :=
  if letter = 'v' then .ok .verbose
  else if letter = 'V' then .error .version
  else if letter = 'h' then .error .help
  else .error .misuse

def readOption? (arg : String) : Option (Except Stop Reading) :=
  match arg.toList with
  | '-' :: '-' :: text => some (readLong text)
  | '-' :: letter :: letters => some (((letter :: letters).mapM readShort).map .items)
  | _ => none

/-- The item of an option whose value did not follow. -/
def unanswered (pending : Bool) : List Item :=
  if pending then [.settings none] else []

/-- Reads plain words, of which one may stand for the image. -/
def scanPlain (imageSeen : Bool) : List String → Except Stop (List Item)
  | [] => .ok []
  | path :: rest =>
    if imageSeen then .error .misuse else (scanPlain true rest).map (.image path :: ·)

/-- Reads arguments. `pending` tells that `--settings` stands in front and waits for its value. -/
def scan (imageSeen pending : Bool) : List String → Except Stop (List Item)
  | [] => .ok (unanswered pending)
  | arg :: rest =>
    if arg = "--" then (scanPlain imageSeen rest).map (unanswered pending ++ ·)
    else
      match readOption? arg with
      | some (.error stop) => .error stop
      | some (.ok (.items items)) =>
        (scan imageSeen false rest).map (unanswered pending ++ items ++ ·)
      | some (.ok .settingsNext) => (scan imageSeen true rest).map (unanswered pending ++ ·)
      | none =>
        if pending then (scan imageSeen false rest).map (.settings (some arg) :: ·)
        else if imageSeen then .error .misuse
        else (scan true false rest).map (.image arg :: ·)

/-- The path of the image, if exactly one is named. -/
def image? (items : List Item) : Option String :=
  match items.filterMap fun | .image path => some path | _ => none with
  | [path] => some path
  | _ => none

/-- The path of the settings; the outer option is empty for a repeated option or one without a value. -/
def settings? (items : List Item) : Option (Option String) :=
  match items.filterMap fun | .settings path => some path | _ => none with
  | [] => some none
  | [some path] => some (some path)
  | _ => none

/-- Whether no switch is repeated. -/
def switchesOnce (items : List Item) : Bool :=
  [Item.noXrefs, .noComments, .dump, .json].all fun i => items.count i ≤ 1

def ofItems? (items : List Item) : Option Arguments := do
  let image ← image? items
  let settings ← settings? items
  if switchesOnce items then
    return {
      image
      settings
      noXrefs := items.contains .noXrefs
      noComments := items.contains .noComments
      dump := items.contains .dump
      json := items.contains .json
      verbosity := items.count .verbose }
  else none

def parse (args : List String) : Except Stop Arguments :=
  match scan false false args with
  | .error stop => .error stop
  | .ok items =>
    match ofItems? items with
    | some a => .ok a
    | none => .error .misuse

end Arguments

end FlowGuard
