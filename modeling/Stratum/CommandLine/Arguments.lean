/-!
# Arguments of the command line

A command is chosen by its name; the option that names a layout file may stand before or behind
that name. Arguments are read from left to right, so the request for the version is answered
even if what follows it is wrong.

> `length_takeLayoutFile?`: an option takes its value from the arguments that are left.
-/

namespace Stratum.CommandLine

/-- What can be done. -/
inductive Command where
  /-- List the repositories of this machine, or only its stratum 0s. -/
  | list (stratum0 : Bool)
  /-- Show a repository, named by its name or its URL. -/
  | info (repo : String)
  /-- Ask a server to replicate. -/
  | replicate (url : String)
  /-- Check that a URL serves a replica of a repository of this machine. -/
  | checkReplica (url : String)
deriving DecidableEq, Repr

/-- A command with the layout file it is to be run with. -/
structure Invocation where
  layoutFile : Option String
  command : Command
deriving DecidableEq, Repr

/-- What the arguments ask for. -/
inductive Request where
  | run (i : Invocation)
  | version
  | help
  /-- The arguments are wrong. -/
  | misuse
deriving DecidableEq, Repr

/-- The names of the commands. -/
inductive Verb where
  | list
  | info
  | replicate
  | checkReplica
deriving DecidableEq, Repr

namespace Verb

/-- The name of a command. -/
def name : Verb → String
  | list => "list"
  | info => "info"
  | replicate => "replicate"
  | checkReplica => "check-replica"

/-- The command with a name. -/
def ofName? (s : String) : Option Verb :=
  [list, info, replicate, checkReplica].find? (·.name == s)

end Verb

/-- What one argument is. -/
inductive Argument where
  /-- The end of the options. -/
  | separator
  /-- The option for a layout file; its value may be in the same argument. -/
  | layoutFile (value : Option String)
  | stratum0
  | version
  | help
  | unknown
  | word (s : String)
deriving DecidableEq, Repr

namespace Argument

/-- The value behind the name of an option in one argument, without an equals sign. -/
def shortValue : List Char → Option String
  | [] => none
  | '=' :: r => some (String.ofList r)
  | r => some (String.ofList r)

/-- What an argument is. A single hyphen is a word, as everything without a hyphen. -/
def ofString (s : String) : Argument :=
  match s.toList with
  | ['-'] => word s
  | '-' :: '-' :: r =>
    let name := String.ofList (r.takeWhile (· != '='))
    let value := r.drop name.length
    if r.isEmpty then separator
    else if name = "config" then
      layoutFile (if value.isEmpty then none else some (String.ofList (value.drop 1)))
    else if !value.isEmpty then unknown
    else if name = "stratum0" then stratum0
    else if name = "version" then version
    else if name = "help" then help
    else unknown
  | '-' :: 'c' :: r => layoutFile (shortValue r)
  | '-' :: 'V' :: _ => version
  | '-' :: 'h' :: _ => help
  | '-' :: _ => unknown
  | _ => word s

end Argument

/-- What has been read so far behind the name of a command. -/
structure Gathered where
  layoutFile : Option String := none
  stratum0 : Bool := false
  words : List String := []
deriving DecidableEq, Repr

/-- The command with these words, if they are as many as it takes. -/
def Verb.command? (v : Verb) (p : Gathered) : Option Command :=
  match v, p.words with
  | list, [] => some (.list p.stratum0)
  | info, [repo] => some (.info repo)
  | replicate, [url] => some (.replicate url)
  | checkReplica, [url] => some (.checkReplica url)
  | _, _ => none

/-- How many words a command takes. -/
def Verb.arity : Verb → Nat
  | list => 0
  | _ => 1

/-- The request for a command; its own layout file goes before the one named earlier. -/
def finish (v : Verb) (outer : Option String) (p : Gathered) : Request :=
  match v.command? p with
  | some command => .run { layoutFile := p.layoutFile <|> outer, command }
  | none => .misuse

/-- The name of a layout file, unless it is empty or another one, `known`, was given before. -/
def accept? (known : Option String) (value : String) : Option String :=
  if value.isEmpty || known.isSome then none else some value

/-- The name of the layout file of an option, and the arguments after it. Without a value of its
own the option takes the next argument, which must not look like an option. -/
def takeLayoutFile? (known value : Option String) (rest : List String) :
    Option (String × List String) :=
  match value, rest with
  | some value, rest => (accept? known value).map (·, rest)
  | none, [] => none
  | none, b :: rest =>
    match Argument.ofString b with
    | .word value => (accept? known value).map (·, rest)
    | _ => none

/-- The option for a layout file leaves no more arguments than there are behind it. -/
theorem length_takeLayoutFile? {known value : Option String} {rest after : List String}
    {path : String} (h : takeLayoutFile? known value rest = some (path, after)) :
    after.length ≤ rest.length := by
  unfold takeLayoutFile? at h
  split at h
  · obtain ⟨_, -, h⟩ := Option.map_eq_some_iff.1 h
    cases h
    exact Nat.le_refl _
  · cases h
  · split at h
    · obtain ⟨_, -, h⟩ := Option.map_eq_some_iff.1 h
      cases h
      exact Nat.le_succ _
    · cases h

/-- Reads the arguments behind the name of a command. Every option may be given once. -/
def parseBehind (v : Verb) (outer : Option String) (p : Gathered) (args : List String) : Request :=
  match args with
  | [] => finish v outer p
  | a :: rest =>
    match Argument.ofString a with
    | .separator => finish v outer { p with words := p.words ++ rest }
    | .layoutFile value =>
      match _h : takeLayoutFile? p.layoutFile value rest with
      | some (path, after) => parseBehind v outer { p with layoutFile := some path } after
      | none => .misuse
    | .stratum0 =>
      if v = .list && !p.stratum0 then parseBehind v outer { p with stratum0 := true } rest
      else .misuse
    | .help => .help
    | .version | .unknown => .misuse
    | .word s =>
      if p.words.length < v.arity then parseBehind v outer { p with words := p.words ++ [s] } rest
      else .misuse
termination_by args.length
decreasing_by
  · exact Nat.lt_succ_of_le (length_takeLayoutFile? _h)
  · exact Nat.lt_succ_self _
  · exact Nat.lt_succ_self _

/-- Whether the words behind `help` name what help is about: nothing, a command, or help itself. -/
def isHelpTopic : List String → Bool
  | [] => true
  | [s] => s = "help" || (Verb.ofName? s).isSome
  | _ => false

/-- Reads the arguments in front of the name of a command; `outer` is the layout file so far. -/
def parseFrom (outer : Option String) (args : List String) : Request :=
  match args with
  | [] => .misuse
  | a :: rest =>
    match Argument.ofString a with
    | .layoutFile value =>
      match _h : takeLayoutFile? outer value rest with
      | some (path, after) => parseFrom (some path) after
      | none => .misuse
    | .version => .version
    | .help => .help
    | .word s =>
      if s = "help" then (if isHelpTopic rest then .help else .misuse)
      else
        match Verb.ofName? s with
        | some v => parseBehind v outer {} rest
        | none => .misuse
    | .separator | .stratum0 | .unknown => .misuse
termination_by args.length
decreasing_by exact Nat.lt_succ_of_le (length_takeLayoutFile? _h)

/-- Reads the arguments of the command line. -/
def parse (args : List String) : Request := parseFrom none args

end Stratum.CommandLine
