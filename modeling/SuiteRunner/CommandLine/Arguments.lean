import SuiteRunner.Text.Split

/-!
  SuiteRunner.CommandLine.Arguments
  ────────────────────────────────
  **OPTIONS AND WORDS.**

  An argument is a long option, a group of letters each of which is an option, or a plain word.  A
  value stands in the same argument or is the next one, which must not look like an option.  Two
  hyphens end the options.  An option that is no list stands once.
-/

namespace SuiteRunner.CommandLine

/-- What an option looks like and takes. -/
structure OptionForm where
  name : String
  letter : Option Char := none
  takesValue : Bool := true
  isList : Bool := false

/-- An option that was given, with the value of one that takes one. -/
structure Given where
  name : String
  value : String := ""
  deriving DecidableEq, Repr

/-- Why arguments are not carried out. -/
inductive Halt where
  /-- They do not make sense. -/
  | misuse
  /-- They ask what there is to say. -/
  | help
  /-- They ask for the version. -/
  | version
  deriving DecidableEq, Repr

/-- What was read: options, then words. -/
structure Reading where
  given : List Given := []
  words : List String := []

namespace Arguments

/-- Whether an argument looks like an option. -/
def looksLikeOption (arg : String) : Bool :=
  match arg.toList with
  | ['-'] => false
  | '-' :: _ => true
  | _ => false

/-- The option with a name. -/
def named? (forms : List OptionForm) (name : String) : Option OptionForm :=
  forms.find? fun f => f.name == name

/-- The option with a letter. -/
def lettered? (forms : List OptionForm) (letter : Char) : Option OptionForm :=
  forms.find? fun f => f.letter == some letter

/-- A value in the same argument, or else the next argument; gives what is left of the rest. -/
def valueOf (inside : Option String) (rest : List String) : Except Halt (String × List String) :=
  match inside, rest with
  | some v, rest => .ok (v, rest)
  | none, v :: rest => if looksLikeOption v then .error .misuse else .ok (v, rest)
  | none, [] => .error .misuse

/-- A long option, without its hyphens. -/
def long (forms : List OptionForm) (text : String) (rest : List String) :
    Except Halt (Given × List String) :=
  let (name, inside) := match Text.splitOnce? '=' text with
    | some (name, v) => (name, some v)
    | none => (text, none)
  match named? forms name with
  | some f =>
    if f.takesValue then (valueOf inside rest).map fun (v, rest) => (⟨name, v⟩, rest)
    else if inside.isSome then .error .misuse else .ok (⟨name, ""⟩, rest)
  | none =>
    if inside.isSome then .error .misuse
    else if name == "help" then .error .help
    else if name == "version" then .error .version
    else .error .misuse

/-- What follows a letter in its group, as a value. -/
def insideGroup : List Char → Option String
  | [] => none
  | '=' :: v => some (String.ofList v)
  | v => some (String.ofList v)

/-- A group of letters. -/
def group (forms : List OptionForm) : List Char → List String →
    Except Halt (List Given × List String)
  | [], rest => .ok ([], rest)
  | c :: cs, rest =>
    match lettered? forms c with
    | some f =>
      if f.takesValue then
        (valueOf (insideGroup cs) rest).map fun (v, rest) => ([⟨f.name, v⟩], rest)
      else do
        let (more, rest) ← group forms cs rest
        return (⟨f.name, ""⟩ :: more, rest)
    | none => if c == 'h' then .error .help else if c == 'V' then .error .version else .error .misuse

/-- Read one argument that looks like an option. -/
def one (forms : List OptionForm) (arg : String) (rest : List String) :
    Except Halt (List Given × List String) :=
  match arg.toList with
  | '-' :: '-' :: text => (long forms (String.ofList text) rest).map fun (g, rest) => ([g], rest)
  | _ :: letters => group forms letters rest
  | [] => .error .misuse

/-- Read arguments; with `toWord` up to the first word, which is then left with what follows it.
Every step uses up an argument, so the number of arguments is fuel enough. -/
def scan (forms : List OptionForm) (toWord : Bool) : Nat → List String → Except Halt Reading
  | 0, rest => .ok { words := rest }
  | _, [] => .ok {}
  | fuel + 1, arg :: rest =>
    if arg == "--" then if toWord then .error .misuse else .ok { words := rest }
    else if looksLikeOption arg then do
      let (gs, rest) ← one forms arg rest
      let r ← scan forms toWord fuel rest
      return { r with given := gs ++ r.given }
    else if toWord then .ok { words := arg :: rest }
    else do
      let r ← scan forms toWord fuel rest
      return { r with words := arg :: r.words }

/-- How often an option was given. -/
def count (gs : List Given) (name : String) : Nat := gs.countP fun g => g.name == name

/-- **Read arguments,** in which only lists may be given more than once. -/
def read (forms : List OptionForm) (toWord : Bool) (args : List String) : Except Halt Reading := do
  let r ← scan forms toWord args.length args
  if forms.any fun f => !f.isList && count r.given f.name > 1 then .error .misuse else return r

end Arguments

namespace Reading

/-- The values of a list. -/
def list (r : Reading) (name : String) : List String :=
  (r.given.filter fun g => g.name == name).map Given.value

/-- The value of an option. -/
def value? (r : Reading) (name : String) : Option String := (r.list name).getLast?

/-- Whether an option was given. -/
def has (r : Reading) (name : String) : Bool := r.given.any fun g => g.name == name

/-- What was read at an outer level and then at an inner one, which wins. -/
def within (inner outer : Reading) : Reading :=
  { inner with given := outer.given ++ inner.given }

end Reading

end SuiteRunner.CommandLine
