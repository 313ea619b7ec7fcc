set_option autoImplicit false

namespace ViewQuery

structure Flag where
  name : String
  letter : Option Char
  -- the value may be empty
  maybeEmpty : Bool
  deriving DecidableEq

namespace Flag

def text (name : String) : Flag := ⟨name, none, true⟩

def path (name : String) : Flag := ⟨name, none, false⟩

def accepts (f : Flag) (value : String) : Bool := f.maybeEmpty || !value.isEmpty

end Flag

abbrev Given := List (String × String)

inductive Argument where
  | word
  | endOfFlags
  | flag (f : Flag) (joined : Option String)
  | unknown

namespace Argument

def joinedAfterEquals? : List Char → Option String
  | [] => none
  | _ :: value => some (String.ofList value)

def joinedAfterLetter? : List Char → Option String
  | [] => none
  | '=' :: value => some (String.ofList value)
  | value => some (String.ofList value)

def orUnknown (joined : Option String) : Option Flag → Argument
  | none => .unknown
  | some f => .flag f joined

def ofText (flags : List Flag) (arg : String) : Argument :=
  match arg.toList with
  | ['-', '-'] => .endOfFlags
  | '-' :: '-' :: body =>
    let name := String.ofList (body.takeWhile (· ≠ '='))
    orUnknown (joinedAfterEquals? (body.dropWhile (· ≠ '='))) (flags.find? fun f => f.name = name)
  | '-' :: letter :: body =>
    orUnknown (joinedAfterLetter? body) (flags.find? fun f => f.letter = some letter)
  | _ => .word

def looksLikeFlag (arg : String) : Bool := arg.startsWith "-" && arg ≠ "-"

end Argument

namespace Given

def add? (g : Given) (f : Flag) (value : String) : Option Given :=
  if (g.lookup f.name).isSome || !f.accepts value then none else some ((f.name, value) :: g)

def read? (flags : List Flag) : Given → List String → Option (Given × List String)
  | g, [] => some (g, [])
  | g, arg :: rest =>
    match Argument.ofText flags arg with
    | .unknown => none
    | .word => some (g, arg :: rest)
    | .endOfFlags => if rest.isEmpty then some (g, []) else none
    | .flag f (some value) => (g.add? f value).bind fun g => read? flags g rest
    | .flag f none =>
      match rest with
      | [] => none
      | value :: rest =>
        if Argument.looksLikeFlag value then none
        else (g.add? f value).bind fun g => read? flags g rest

end Given

inductive Command where
  | generate (questions output : String) (view : Option String)
  | evaluate (dataset : String) (view output : Option String)
  | check (view filters actions : String)
  deriving DecidableEq

namespace Command

def output : Flag := ⟨"output", some 'o', false⟩

def flags : List (String × List Flag) :=
  [("generate", [.path "questions", output, .text "view"]),
    ("evaluate", [.path "dataset", .text "view", output]),
    ("check", [.text "view", .text "filters", .text "actions"])]

def ofGiven? (name : String) (g : Given) : Option Command :=
  match name with
  | "generate" => do
    let questions ← g.lookup "questions"
    let output ← g.lookup "output"
    return .generate questions output (g.lookup "view")
  | "evaluate" => do
    let dataset ← g.lookup "dataset"
    return .evaluate dataset (g.lookup "view") (g.lookup "output")
  | "check" => do
    let view ← g.lookup "view"
    return .check view ((g.lookup "filters").getD "") ((g.lookup "actions").getD "")
  | _ => none

end Command

structure Invocation where
  settings : String
  -- a file with more views
  views : Option String
  command : Command
  deriving DecidableEq

namespace Invocation

def flags : List Flag := [.path "config", .path "views"]

def ofArguments? (args : List String) : Option Invocation :=
  match Given.read? flags [] args with
  | some (outer, name :: rest) => do
    let own ← Command.flags.lookup name
    match Given.read? (flags ++ own) [] rest with
    | some (inner, []) =>
      let command ← Command.ofGiven? name inner
      let given := inner ++ outer
      return ⟨(given.lookup "config").getD "config.yaml", given.lookup "views", command⟩
    | _ => none
  | _ => none

end Invocation

end ViewQuery
