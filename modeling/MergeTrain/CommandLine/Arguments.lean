/-!
# Arguments

What the arguments of the program ask for. Flags may be written together after one hyphen, and the
value of an option may be part of its argument. After `--` nothing is a flag. The program's version
and its help are given as soon as they are asked for, whatever follows.

## Main definitions

* `Request` — what can be asked for.
* `Request.ofArguments` — what some arguments ask for.
-/

namespace MergeTrain.CommandLine

/-- What the program can be asked for. -/
inductive Request where
  | version
  | help
  /-- Check a policy file and print what it means. -/
  | checkConfig (path : String)
  /-- Replay a scenario, under the policy of a file. -/
  | simulate (scenario : String) (policy : Option String)
  /-- The arguments make no sense. -/
  | misuse
  deriving DecidableEq

/-- What a command accepts. -/
structure Command where
  /-- How many names it takes. -/
  names : Nat
  /-- Whether it takes a policy. -/
  takesPolicy : Bool
  /-- Whether it can tell the version. -/
  tellsVersion : Bool

/-- The program before its command is named. -/
def Command.program : Command :=
  { names := 0, takesPolicy := false, tellsVersion := true }

/-- The command `check-config`. -/
def Command.checkConfig : Command :=
  { names := 1, takesPolicy := false, tellsVersion := false }

/-- The command `simulate`. -/
def Command.simulate : Command :=
  { names := 1, takesPolicy := true, tellsVersion := false }

/-- What one argument is. -/
inductive Argument where
  /-- Flags without consequence. -/
  | flags
  | version
  | help
  | policy (path : String)
  /-- The next argument is the policy. -/
  | policyNext
  | separator
  | name (text : String)
  | unknown

/-- Flags written together after a hyphen. -/
def Command.cluster (command : Command) : List Char → Argument
  | [] => .flags
  | 'v' :: rest => command.cluster rest
  | 'h' :: _ => .help
  | 'V' :: _ => if command.tellsVersion then .version else .unknown
  | 'p' :: rest =>
    if !command.takesPolicy then .unknown
    else
      match rest with
      | [] => .policyNext
      | '=' :: path => .policy (String.ofList path)
      | path => .policy (String.ofList path)
  | _ :: _ => .unknown

/-- An argument that begins with two hyphens. -/
def Command.long (command : Command) (text : String) : Argument :=
  if text = "" then .separator
  else if text = "verbose" then .flags
  else if text = "help" then .help
  else if text = "version" ∧ command.tellsVersion then .version
  else if command.takesPolicy then
    if text = "policy" then .policyNext
    else if "policy=".toList.isPrefixOf text.toList then
      .policy (String.ofList (text.toList.drop 7))
    else .unknown
  else .unknown

/-- What an argument is. A single hyphen is a name. -/
def Command.argument (command : Command) (text : String) : Argument :=
  match text.toList with
  | '-' :: '-' :: rest => command.long (String.ofList rest)
  | '-' :: c :: rest => command.cluster (c :: rest)
  | _ => .name text

/-- What a command has been given so far. -/
structure Given where
  /-- The names, last first. -/
  names : List String := []
  policy : Option String := none

/-- How a command's arguments end. -/
inductive Ending where
  | given (g : Given)
  | version
  | help
  | misuse

namespace Given

/-- Take a name, unless there are too many or it is empty. -/
def name? (g : Given) (command : Command) (text : String) : Option Given :=
  if text.isEmpty ∨ command.names ≤ g.names.length then none
  else some { g with names := text :: g.names }

/-- Take a policy, unless there is one or its name is empty. -/
def policy? (g : Given) (path : String) : Option Given :=
  if path.isEmpty ∨ g.policy.isSome then none else some { g with policy := some path }

end Given

/-- The names that are left when nothing is a flag any more. -/
def Command.rest (command : Command) (g : Given) : List String → Ending
  | [] => .given g
  | text :: others =>
    match g.name? command text with
    | some g => command.rest g others
    | none => .misuse

/-- The arguments of a command. -/
def Command.read (command : Command) (g : Given) : List String → Ending
  | [] => .given g
  | text :: others =>
    match command.argument text with
    | .flags => command.read g others
    | .version => .version
    | .help => .help
    | .policy path =>
      match g.policy? path with
      | some g => command.read g others
      | none => .misuse
    | .policyNext =>
      match others with
      | [] => .misuse
      | path :: others =>
        match command.argument path with
        | .name path =>
          match g.policy? path with
          | some g => command.read g others
          | none => .misuse
        | _ => .misuse
    | .separator => command.rest g others
    | .name text =>
      match g.name? command text with
      | some g => command.read g others
      | none => .misuse
    | .unknown => .misuse

/-- The request that the arguments of a command end with. -/
def Ending.request (ending : Ending) (make : Given → Request) : Request :=
  match ending with
  | .given g => make g
  | .version => .version
  | .help => .help
  | .misuse => .misuse

namespace Request

/-- What a command with one name asks for. -/
def ofGiven (make : String → Option String → Request) (g : Given) : Request :=
  match g.names with
  | [name] => make name g.policy
  | _ => .misuse

/-- What the arguments after `help` ask for: at most one name of a command. -/
def ofHelp : List String → Request
  | [] => .help
  | [name] => if ["check-config", "simulate", "help"].contains name then .help else .misuse
  | _ => .misuse

/-- What some arguments ask for. -/
def ofArguments : List String → Request
  | [] => .misuse
  | "check-config" :: rest =>
    (Command.checkConfig.read {} rest).request (ofGiven fun name _ => .checkConfig name)
  | "simulate" :: rest =>
    (Command.simulate.read {} rest).request (ofGiven .simulate)
  | "help" :: rest => ofHelp rest
  | text :: rest =>
    match Command.program.argument text with
    | .flags => ofArguments rest
    | .version => .version
    | .help => .help
    | _ => .misuse

end Request

end MergeTrain.CommandLine
