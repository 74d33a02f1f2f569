import PlateSolver.Decimal.Literal

/-!
# Options on a command line

An option is given by a long name after two hyphens or by a letter after one.
Its value follows as the next argument or behind an equals sign; behind a letter
it may also follow at once, and letters of options without a value may share one
hyphen.  No option is given twice.

* `OptionRule` — an option and the values it takes.
* `Given` — the options read so far.
* `Stop` — why reading ends without a result.
* `readOptions` — the options up to the first argument that is none.

## Design decisions

A value that is an argument of its own must not look like an option, or a value
that was forgotten would swallow the option after it.  Only options whose values
often begin with a minus sign are free of this rule.
-/

namespace PlateSolver.Command

/-- What an option stands for. -/
inductive OptionKind where
  /-- A request for the text of help. -/
  | help
  /-- A request for the version. -/
  | version
  /-- A choice without a value. -/
  | choice
  /-- Any text. -/
  | text
  /-- A path, which is never empty. -/
  | path
  /-- A number. -/
  | number
  /-- A count of at most 64 bits. -/
  | count
  deriving DecidableEq, Repr

/-- **Option.** -/
structure OptionRule where
  /-- The long name. -/
  name : String
  /-- The letter, if there is one. -/
  letter : Option Char
  /-- What the option stands for. -/
  kind : OptionKind
  /-- Whether a value may look like an option. -/
  freeValue : Bool
  deriving DecidableEq

namespace OptionRule

/-- An option with an ordinary value, or with none. -/
def plain (name : String) (letter : Option Char) (kind : OptionKind) : OptionRule :=
  ⟨name, letter, kind, false⟩

/-- Whether the option has a value. -/
def hasValue (rule : OptionRule) : Bool :=
  match rule.kind with
  | .help | .version | .choice => false
  | _ => true

end OptionRule

/-- The number that the value of an option is. -/
def number? (value : String) : Option Float := Readable.read? value.toList

/-- The count that the value of an option is; a plus sign may stand before it. -/
def count? (value : String) : Option Nat :=
  let digits := match value.toList with
    | '+' :: rest => rest
    | text => text
  (Literal.natural? digits).filter (· < Nat.pow 2 64)

/-- Whether a text is a value of a kind of option. -/
def OptionKind.accepts (kind : OptionKind) (value : String) : Bool :=
  match kind with
  | .path => !value.isEmpty
  | .number => (number? value).isSome
  | .count => (count? value).isSome
  | _ => true

/-- Why reading ends without a result. -/
inductive Stop where
  /-- The arguments make no sense. -/
  | misuse
  /-- Help was asked for. -/
  | help
  /-- The version was asked for. -/
  | version
  deriving DecidableEq, Repr

/-- The names of the options given so far, with their values. -/
abbrev Given := List (String × String)

namespace Given

/-- One more option with its value, which is empty for an option without one. -/
def add (given : Given) (rule : OptionRule) (value : String) : Except Stop Given :=
  match rule.kind with
  | .help => .error .help
  | .version => .error .version
  | kind =>
    if (given.lookup rule.name).isSome || !kind.accepts value then .error .misuse
    else .ok (given ++ [(rule.name, value)])

/-- Options without a value, and at most one with a value, behind one hyphen.  If
that value is still to come, its option is pending. -/
def addLetters (rules : List OptionRule) (given : Given) :
    List Char → Except Stop (Given × Option OptionRule)
  | [] => .ok (given, none)
  | c :: rest =>
    match rules.find? fun rule => rule.letter == some c with
    | none => .error .misuse
    | some rule =>
      if rule.hasValue then
        match rest with
        | [] => .ok (given, some rule)
        | '=' :: value => (given.add rule (String.ofList value)).map fun g => (g, none)
        | value => (given.add rule (String.ofList value)).map fun g => (g, none)
      else (given.add rule "").bind fun g => addLetters rules g rest

/-- An option by its long name, and its value if there is an equals sign. -/
def addNamed (rules : List OptionRule) (given : Given) (text : List Char) :
    Except Stop (Given × Option OptionRule) :=
  let name := String.ofList (text.takeWhile (· != '='))
  match rules.find? fun rule => rule.name == name, text.dropWhile (· != '=') with
  | none, _ => .error .misuse
  | some rule, [] =>
    if rule.hasValue then .ok (given, some rule)
    else (given.add rule "").map fun g => (g, none)
  | some rule, _ :: value =>
    if rule.hasValue then (given.add rule (String.ofList value)).map fun g => (g, none)
    else .error .misuse

end Given

/-- Whether an argument looks like an option: a hyphen with something behind it. -/
def looksLikeOption (argument : String) : Bool :=
  match argument.toList with
  | '-' :: _ :: _ => true
  | _ => false

/-- Reads options up to the first argument that is none.  Two hyphens alone are no
option.  A pending option takes the next argument as its value. -/
def readOptions (rules : List OptionRule) (pending : Option OptionRule) (given : Given) :
    List String → Except Stop (Given × List String)
  | [] => if pending.isSome then .error .misuse else .ok (given, [])
  | argument :: rest =>
    match pending with
    | some rule =>
      if looksLikeOption argument && !rule.freeValue then .error .misuse
      else (given.add rule argument).bind fun g => readOptions rules none g rest
    | none =>
      match argument.toList with
      | ['-', '-'] => .ok (given, argument :: rest)
      | '-' :: '-' :: text =>
        (given.addNamed rules text).bind fun (g, next) => readOptions rules next g rest
      | '-' :: c :: letters =>
        (given.addLetters rules (c :: letters)).bind fun (g, next) => readOptions rules next g rest
      | _ => .ok (given, argument :: rest)

end PlateSolver.Command
