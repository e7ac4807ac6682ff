import LineWidth.CommandLine.Similarity

/-! # Arguments

An argument of two characters or more that starts with a hyphen is an option. A value is attached to
its option by an equals sign or is the next argument, whatever that looks like. Two hyphens alone
end the options. Options may be mixed with other arguments only where a command allows it.
-/

namespace LineWidth

/-- What an option does: it takes a value, or it turns something on or off. -/
inductive Effect where
  | value
  | switch (truth : Bool)
deriving DecidableEq, Repr

/-- A spelling of an option. -/
structure Spelling (ω : Type) where
  text : String
  option : ω
  effect : Effect

/-- What an option was given. -/
inductive Given where
  | value (text : String)
  | switch (truth : Bool)
deriving DecidableEq, Repr

/-- The options given, in order, and the other arguments. -/
structure Arguments (ω : Type) where
  given : List (ω × Given)
  others : List String

/-- What can be wrong with an option. -/
inductive OptionFault where
  | unknown (name : String) (close : List String)
  | valueMissing (name : String)
  | valueRefused (name : String)
deriving DecidableEq, Repr

/-- Whether an argument is an option. -/
def isOption (argument : String) : Bool :=
  argument.toList.head? == some '-' && 1 < argument.length

/-- The name of an option, and the value attached to it. -/
def splitAttached (argument : String) : String × Option String :=
  let name := argument.toList.takeWhile (· != '=')
  match argument.toList.drop name.length with
  | [] => (argument, none)
  | _ :: value => (String.ofList name, some (String.ofList value))

/-- The fault of an unknown option. After one hyphen a single letter is the name. -/
def unknownOption (known : List String) (argument name : String) : OptionFault :=
  match argument.toList with
  | '-' :: '-' :: _ => .unknown name (closeNames name known)
  | start => .unknown (String.ofList (start.take 2)) []

namespace Arguments

variable {ω : Type}

/-- Read arguments behind those already read, which are kept last first. -/
def readOnto (spellings : List (Spelling ω)) (mixed : Bool) (given : List (ω × Given))
    (others : List String) : List String → Except OptionFault (Arguments ω)
  | [] => .ok ⟨given.reverse, others.reverse⟩
  | argument :: rest =>
    if argument = "--" then .ok ⟨given.reverse, others.reverse ++ rest⟩
    else if isOption argument then
      let (name, attached) := splitAttached argument
      match spellings.find? (·.text == name) with
      | none => .error (unknownOption (spellings.map (·.text)) argument name)
      | some spelling =>
        match spelling.effect, attached with
        | .switch _, some _ => .error (.valueRefused name)
        | .switch truth, none =>
          readOnto spellings mixed ((spelling.option, .switch truth) :: given) others rest
        | .value, some text =>
          readOnto spellings mixed ((spelling.option, .value text) :: given) others rest
        | .value, none =>
          match rest with
          | [] => .error (.valueMissing name)
          | text :: rest =>
            readOnto spellings mixed ((spelling.option, .value text) :: given) others rest
    else if mixed then readOnto spellings mixed given (argument :: others) rest
    else .ok ⟨given.reverse, others.reverse ++ argument :: rest⟩

/-- Read arguments. -/
def read (spellings : List (Spelling ω)) (mixed : Bool) (arguments : List String) :
    Except OptionFault (Arguments ω) :=
  readOnto spellings mixed [] [] arguments

/-- The options given, each once, in the order of their first occurrence and with what they were
given last. -/
def settled [BEq ω] (arguments : Arguments ω) : List (ω × Given) :=
  (arguments.given.map (·.1)).eraseDups.filterMap fun option =>
    arguments.given.reverse.find? (·.1 == option)

end Arguments

end LineWidth
