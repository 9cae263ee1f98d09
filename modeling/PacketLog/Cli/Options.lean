set_option autoImplicit false

/-! # Reading options

The arguments of a command are options and words. An option is called by its long name or by its
letter; its value follows it, as the next argument or within the same one. `Options.read` goes
through the arguments and applies each to a state, up to the end or, if the command takes no
words, up to the first word. -/

namespace PacketLog.Cli

/-- Why the arguments do not name something to do. -/
inductive Stop where
  /-- The help text was asked for. -/
  | help
  /-- The version was asked for. -/
  | version
  /-- The arguments are wrong. -/
  | usage
  deriving DecidableEq, Inhabited

variable {σ : Type}

/-- What an option does to a state. -/
inductive Effect (σ : Type) where
  /-- A switch. -/
  | switch (change : σ → σ)
  /-- An option with a value, which may be refused. -/
  | value (read : String → Option (σ → σ))
  /-- Ends the reading. -/
  | stop (s : Stop)

/-- An option of a command. -/
structure Opt (σ : Type) where
  name : String
  letter : Option Char := none
  /-- Whether it may be given more than once. -/
  repeatable : Bool := false
  effect : Effect σ

/-- A state with the names of the options that were given so far. -/
structure Given (σ : Type) where
  state : σ
  names : List String := []

/-- The form of an argument. -/
inductive Shape where
  | word
  /-- A long name, with what follows the equals sign if there is one. -/
  | long (name : String) (value : Option String)
  /-- A letter, with what follows it if there is anything. -/
  | short (letter : Char) (value : Option String)

namespace Options

/-- The value that is attached to a letter. An equals sign in front of it is left out. -/
def attached : List Char → Option String
  | [] => none
  | '=' :: value => some (String.ofList value)
  | value => some (String.ofList value)

/-- The form of an argument. A single dash is a word. -/
def shape (arg : String) : Shape :=
  match arg.toList with
  | '-' :: '-' :: rest =>
    let name := String.ofList (rest.takeWhile (· != '='))
    match rest.dropWhile (· != '=') with
    | [] => .long name none
    | _ :: value => .long name (some (String.ofList value))
  | '-' :: letter :: rest => .short letter (attached rest)
  | _ => .word

/-- Whether an argument is a word. -/
def isWord (arg : String) : Bool :=
  match shape arg with
  | .word => true
  | _ => false

/-- Notes that an option was given, which may have been the case before only if it is
repeatable. -/
def mark (o : Opt σ) (change : σ → σ) (s : Given σ) : Except Stop (Given σ) :=
  if s.names.contains o.name && !o.repeatable then .error .usage
  else .ok { state := change s.state, names := o.name :: s.names }

/-- Gives an option a value. -/
def give (o : Opt σ) (read : String → Option (σ → σ)) (value : String) (s : Given σ) :
    Except Stop (Given σ) :=
  match read value with
  | some change => mark o change s
  | none => .error .usage

/-- The option that an argument calls, with the value that is attached. What follows the letter of
an option that ends the reading is not looked at. -/
def called (options : List (Opt σ)) : Shape → Option (Opt σ × Option String)
  | .word => none
  | .long name value => (options.find? (·.name == name)).map fun o => (o, value)
  | .short letter value =>
    (options.find? (·.letter == some letter)).map fun o =>
      match o.effect with
      | .stop _ => (o, none)
      | _ => (o, value)

/-- Takes up words. -/
def takeWords (take : String → σ → Except Stop σ) (words : List String) (s : Given σ) :
    Except Stop (Given σ) :=
  words.foldlM (fun s word => (take word s.state).map fun state => { s with state }) s

/-- Reads arguments. Without `take`, the reading ends at the first word; otherwise every word is
taken up, and after two dashes there are only words. Gives the arguments that were not read. -/
def read (options : List (Opt σ)) (take : Option (String → σ → Except Stop σ)) :
    List String → Given σ → Except Stop (Given σ × List String)
  | [], s => .ok (s, [])
  | arg :: rest, s =>
    if arg = "--" then
      match take with
      | none => .error .usage
      | some take => (takeWords take rest s).map fun s => (s, [])
    else if isWord arg then
      match take with
      | none => .ok (s, arg :: rest)
      | some word => (takeWords word [arg] s).bind fun s => read options take rest s
    else
      match called options (shape arg) with
      | none => .error .usage
      | some (o, value) =>
        match o.effect, value with
        | .stop stop, none => .error stop
        | .stop _, some _ => .error .usage
        | .switch change, none => (mark o change s).bind fun s => read options take rest s
        | .switch _, some _ => .error .usage
        | .value f, some value => (give o f value s).bind fun s => read options take rest s
        | .value f, none =>
          match rest with
          | [] => .error .usage
          | value :: rest =>
            if isWord value then (give o f value s).bind fun s => read options take rest s
            else .error .usage

end Options

end PacketLog.Cli
