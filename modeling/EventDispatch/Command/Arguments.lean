import EventDispatch.Command.Grammar
import EventDispatch.Text.Similarity
/-!
Reading the arguments of a command.

Purpose: arguments are read from left to right. A value follows its option as the next argument or
behind an equals sign; letters may stand together behind one dash, and behind two dashes alone
everything is taken by position. An option or a value is settled only when the next one begins, so
an argument that nobody knows is reported before a fault in the one before it.

Main exports: `Given`, `ArgumentError`, `ArgumentError.message`, `Reading`, `Grammar.read`.
-/

namespace EventDispatch

/-- What was given to a command: the argument by position, and the options in the order in which
they were settled. -/
structure Given where
  positional : Option String := none
  options : List (String × Option String) := []
deriving DecidableEq, Repr, Inhabited

namespace Given

/-- Whether an option was given. -/
def holds (g : Given) (name : String) : Bool := g.options.any fun (n, _) => n = name

/-- The value of an option. -/
def value? (g : Given) (name : String) : Option String := (g.options.lookup name).join

/-- The options that were given. -/
def names (g : Given) : List String := g.options.map Prod.fst

/-- The names of the options that were given and of one more. -/
def namesWith (g : Given) (name : String) : List String :=
  if g.holds name then g.names else g.names ++ [name]

end Given

/-- Why arguments are refused. -/
inductive ArgumentError where
  /-- Nobody knows the argument. It may be like an option, or could be passed by position. -/
  | unexpected (argument : String) (similar : Option String) (byPosition : Bool) (usage : String)
  /-- An option came without its value. -/
  | valueMissing (option : String)
  /-- An option came twice. -/
  | repeated (option : String) (usage : String)
  /-- An option came with a value and takes none. -/
  | valueUnneeded (value option : String) (usage : String)
deriving DecidableEq, Repr, Inhabited

/-- The wording of a refusal. -/
def ArgumentError.message (e : ArgumentError) : String :=
  let text := match e with
    | .unexpected argument similar byPosition usage =>
      let tip := match similar with
        | some option => "\n\n  tip: a similar argument exists: '" ++ option ++ "'"
        | none =>
          if byPosition then
            "\n\n  tip: to pass '" ++ argument ++ "' as a value, use '-- " ++ argument ++ "'"
          else ""
      "unexpected argument '" ++ argument ++ "' found" ++ tip ++ "\n\n" ++ usage
    | .valueMissing option => "a value is required for '" ++ option ++ "' but none was supplied"
    | .repeated option usage =>
      "the argument '" ++ option ++ "' cannot be used multiple times\n\n" ++ usage
    | .valueUnneeded value option usage =>
      "unexpected value '" ++ value ++ "' for '" ++ option ++ "' found; no more were expected\n\n"
        ++ usage
  "error: " ++ text ++ "\n\nFor more information, try '--help'.\n"

/-- What arguments come to. -/
inductive Reading where
  | run (given : Given)
  | help
  | version
  | refused (error : ArgumentError)
deriving DecidableEq, Repr, Inhabited

namespace Grammar

/-- What is not settled yet. -/
inductive Open where
  | option (option : CommandOption) (value : Option String)
  | positional (value : String)
deriving Inhabited

/-- How far the arguments are read. -/
structure Progress where
  given : Given := {}
  waiting : Option Open := none
  /-- Whether the place of the argument by position is taken. -/
  placed : Bool := false
  /-- Whether everything is taken by position. -/
  trailing : Bool := false
deriving Inhabited

/-- An option with its value becomes part of what was given. -/
def giveOption (g : Grammar) (given : Given) (o : CommandOption) (value : Option String) :
    Given × Option ArgumentError :=
  if given.holds o.long then
    ({ given with options := given.options.filter fun (n, _) => n ≠ o.long },
      some (.repeated o.display (g.usage none)))
  else
    let given := { given with options := given.options ++ [(o.long, value)] }
    match o.role, value with
    | .value _ true, some "" => (given, some (.valueMissing o.display))
    | _, _ => (given, none)

/-- Settles what waits. -/
def settle (g : Grammar) (p : Progress) : Progress × Option ArgumentError :=
  match p.waiting with
  | none => (p, none)
  | some (.option o none) => ({ p with waiting := none }, some (.valueMissing o.display))
  | some (.option o value) =>
    let (given, error) := g.giveOption p.given o value
    ({ p with given, waiting := none }, error)
  | some (.positional value) =>
    let given := { p.given with positional := some value }
    ({ p with given, waiting := none },
      if value = "" then some (.valueMissing g.positional.display) else none)

/-- Goes on once what waits is settled, unless that fails. -/
def settled (g : Grammar) (p : Progress) (next : Progress → Reading) : Reading :=
  match g.settle p with
  | (p, none) => next p
  | (_, some e) => .refused e

/-- Goes on with an option that has come with its value, or needs none. -/
def give (g : Grammar) (p : Progress) (o : CommandOption) (value : Option String)
    (next : Progress → Reading) : Reading :=
  g.settled p fun p =>
    match o.role with
    | .help => .help
    | .version => .version
    | _ => match g.giveOption p.given o value with
      | (given, none) => next { p with given }
      | (_, some e) => .refused e

/-- Whether an option takes a value. -/
def takesValue (o : CommandOption) : Bool :=
  match o.role with
  | .value _ _ => true
  | _ => false

/-- Nobody knows an option's long name. -/
def unknownLong (g : Grammar) (p : Progress) (name : String) : ArgumentError :=
  let given := (g.settle p).1.given
  match Text.closest? name (g.options.map CommandOption.long) with
  | some known =>
    .unexpected ("--" ++ name) (some ("--" ++ known)) false (g.usage (some (given.namesWith known)))
  | none =>
    let used := if given = {} then none else some given.names
    .unexpected ("--" ++ name) none true (g.usage used)

/-- A long name, perhaps with a value behind an equals sign. -/
def readLong (g : Grammar) (p : Progress) (name : String) (value : Option String)
    (next : Progress → Reading) : Reading :=
  match g.long? name with
  | none => .refused (g.unknownLong p name)
  | some o => match takesValue o, value with
    | true, some v => g.give p o (some v) next
    | true, none => g.settled p fun p => next { p with waiting := some (.option o none) }
    | false, some v =>
      .refused (.valueUnneeded v o.display (g.usage (some (p.given.namesWith o.long))))
    | false, none => g.give p o none next

/-- Letters behind one dash. -/
def readLetters (g : Grammar) (next : Progress → Reading) : List Char → Progress → Reading
  | [], p => next p
  | c :: cs, p => match g.short? c with
    | none => .refused (.unexpected ("-" ++ c.toString) none true (g.usage none))
    | some o =>
      if takesValue o then match cs with
        | [] => g.settled p fun p => next { p with waiting := some (.option o none) }
        | '=' :: value => g.give p o (some (String.ofList value)) next
        | value => g.give p o (some (String.ofList value)) next
      else g.give p o none (readLetters g next cs)

/-- An argument that is no option: the value that is waited for, or the argument by position. -/
def readPlain (g : Grammar) (p : Progress) (text : String) (next : Progress → Reading) : Reading :=
  match p.trailing, p.waiting with
  | false, some (.option o none) => next { p with waiting := some (.option o (some text)) }
  | _, _ =>
    if p.placed then .refused (.unexpected text none false (g.usage none))
    else g.settled p fun p => next { p with waiting := some (.positional text), placed := true }

/-- Reads one argument after another. -/
def readFrom (g : Grammar) : List String → Progress → Reading
  | [], p => g.settled p fun p => .run p.given
  | text :: rest, p =>
    let next := readFrom g rest
    if p.trailing then g.readPlain p text next
    else match text.toList with
      | ['-', '-'] => next { p with trailing := true }
      | '-' :: '-' :: long =>
        let name := long.takeWhile (· ≠ '=')
        let value := match long.drop name.length with
          | [] => none
          | _ :: value => some (String.ofList value)
        g.readLong p (String.ofList name) value next
      | '-' :: c :: letters => g.readLetters next (c :: letters) p
      | _ => g.readPlain p text next

/-- Reads the arguments of a command. -/
def read (g : Grammar) (arguments : List String) : Reading := g.readFrom arguments {}

end Grammar
end EventDispatch
