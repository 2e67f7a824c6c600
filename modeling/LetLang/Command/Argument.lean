import LetLang.Text.Bytes

namespace LetLang

abbrev OsText := List UInt8

inductive Argument where
  | long (name : OsText) (attached : Option OsText)
  | short (flag : UInt8)
  | divider
  | word
  deriving DecidableEq, Repr

namespace Argument

def dash : UInt8 := 0x2D

def equals : UInt8 := 0x3D

def attachedTo (bs : OsText) : Option OsText :=
  match bs.dropWhile (· != equals) with
  | [] => none
  | _ :: value => some value

def ofText : OsText → Argument
  | a :: b :: bs =>
    if a ≠ dash then word
    else if b ≠ dash then short b
    else if bs = [] then divider
    else long (bs.takeWhile (· != equals)) (attachedTo bs)
  | _ => word

def divide : OsText :=
  [dash, dash]

def separate (name : OsText) : OsText :=
  dash :: dash :: name

def attach (name value : OsText) : OsText :=
  separate name ++ equals :: value

end Argument

inductive Refusal where
  | argumentConflict
  | invalidSubcommand
  | invalidValue
  | tooManyValues
  | unknownArgument
  deriving DecidableEq, Repr

inductive HelpPage where
  | overview
  | sessionBrief
  | sessionFull
  | helpCommand
  deriving DecidableEq, Repr

inductive Halt where
  | refused (r : Refusal)
  | help (page : HelpPage)
  | version
  deriving DecidableEq, Repr

structure Given where
  name : OsText
  value : OsText
  deriving DecidableEq, Repr

structure OptionRule where
  name : OsText
  excludes : List OsText
  takes : OsText → Bool

namespace OptionRule

def take (o : OptionRule) (gs : List Given) (value : OsText) : Except Refusal (List Given) :=
  if o.name ∈ gs.map Given.name then .error .argumentConflict
  else if o.takes value then .ok (gs ++ [⟨o.name,value⟩])
  else .error .invalidValue

def Conflict (os : List OptionRule) (gs : List Given) : Prop :=
  ∃ o ∈ os, o.name ∈ gs.map Given.name ∧ ∃ name ∈ o.excludes, name ∈ gs.map Given.name

instance (os : List OptionRule) (gs : List Given) : Decidable (Conflict os gs) :=
  inferInstanceAs (Decidable (∃ o ∈ os, _ ∧ ∃ name ∈ o.excludes, _))

end OptionRule

structure Reading where
  settled : List Given
  pending : Option (OptionRule × Option OsText)

namespace Reading

def ofSettled (gs : List Given) : Reading :=
  ⟨gs,none⟩

def await (gs : List Given) (o : OptionRule) : Reading :=
  ⟨gs,some (o, none)⟩

def receive? (r : Reading) (value : OsText) : Option Reading :=
  match r.pending with
  | some (o, none) => some ⟨r.settled,some (o, some value)⟩
  | _ => none

def settle (r : Reading) : Except Refusal (List Given) :=
  match r.pending with
  | none => .ok r.settled
  | some (_, none) => .error .invalidValue
  | some (o, some value) => o.take r.settled value

def answer (r : Reading) (halt : Halt) : Halt :=
  match r.settle with
  | .ok _ => halt
  | .error e => .refused e

def option (r : Reading) (o : OptionRule) (attached : Option OsText) : Except Refusal Reading :=
  match r.settle, attached with
  | .error e, _ => .error e
  | .ok gs, none => .ok (await gs o)
  | .ok gs, some value => (o.take gs value).map ofSettled

end Reading

structure Matches (α : Type) where
  given : List Given
  command : Option α

structure Level (α : Type) where
  options : List OptionRule
  longFlag? : OsText → Option Halt
  shortFlag? : UInt8 → Option Halt
  command : OsText → List OsText → Except Halt α
  stray : OsText → Refusal

namespace Level

variable {α : Type}

def flagHalt (l : Level α) (r : Reading) (flag : UInt8) : Halt :=
  match l.shortFlag? flag with
  | none => .refused .unknownArgument
  | some halt => r.answer halt

def longHalt (l : Level α) (r : Reading) (name : OsText) (attached : Option OsText) : Halt :=
  match l.longFlag? name with
  | none => .refused .unknownArgument
  | some halt => if attached.isSome then .refused .tooManyValues else r.answer halt

def option? (l : Level α) (name : OsText) : Option OptionRule :=
  l.options.find? (·.name == name)

def finish (l : Level α) (r : Reading) (command : Option α) : Except Halt (Matches α) :=
  match r.settle with
  | .error e => .error (.refused e)
  | .ok gs =>
    if OptionRule.Conflict l.options gs then .error (.refused .argumentConflict)
    else .ok ⟨gs,command⟩

def readFrom (l : Level α) (r : Reading) : List OsText → Except Halt (Matches α)
  | [] => l.finish r none
  | arg :: rest =>
    match Argument.ofText arg with
    | .divider =>
      match rest with
      | [] => l.finish r none
      | next :: _ => .error (.refused (l.stray next))
    | .short flag => .error (l.flagHalt r flag)
    | .long name attached =>
      match l.option? name with
      | none => .error (l.longHalt r name attached)
      | some o =>
        match r.option o attached with
        | .error e => .error (.refused e)
        | .ok r' => l.readFrom r' rest
    | .word =>
      match r.receive? arg with
      | some r' => l.readFrom r' rest
      | none =>
        match l.command arg rest with
        | .error halt => .error halt
        | .ok command => l.finish r (some command)

def read (l : Level α) (args : List OsText) : Except Halt (Matches α) :=
  l.readFrom (.ofSettled []) args

end Level

end LetLang
